/-!
# Words in ASCII letters

Any word can be written in ASCII letters, digits and hyphens. What is ASCII in it comes first, up to
the last hyphen. After that every other character is a number: it says how far one has to go to the
place of the character in the word and to its code, both counted in one. The digits of a number have
36 values, and the weights of the places depend on the numbers before it.
-/

namespace BotBindings.Address.Punycode

/-! ## Numbers -/

/-- The value of a digit. -/
def digit? (c : Char) : Option Nat :=
  if 'a' ≤ c && c ≤ 'z' then some (c.toNat - 'a'.toNat)
  else if '0' ≤ c && c ≤ '9' then some (c.toNat - '0'.toNat + 26)
  else none

/-- What a digit has to be smaller than to end a number; `place` grows by 36 with every digit. -/
def threshold (bias place : Nat) : Nat :=
  max 1 (min 26 (place - bias))

/-- How often a number is divided by 35 until it is small, times 36, and what is left. -/
def scaleDown (n : Nat) : Nat × Nat :=
  if 455 < n then
    let (places, left) := scaleDown (n / 35)
    (places + 36, left)
  else (0, n)
termination_by n
decreasing_by omega

/-- The bias after a number, where the word has `length` characters then. -/
def biasAfter (number length : Nat) (isFirst : Bool) : Nat :=
  let part := if isFirst then number / 700 else number / 2
  let (places, left) := scaleDown (part + part / length)
  places + 36 * left / (left + 38)

/-! ## Reading -/

/-- A word that is being read. -/
structure Reading where
  /-- The characters that are known. -/
  word : List Char
  /-- The code of the last character that was put into the word. -/
  code : Nat := 0x80
  /-- Where the next one stands at the earliest. -/
  position : Nat := 0
  /-- The bias of the number that is being read. -/
  bias : Nat := 72
  /-- The number as far as it was read. -/
  number : Nat := 0
  /-- The weight of its next digit. -/
  weight : Nat := 1
  /-- The place of its next digit. Every number starts at 36. -/
  place : Nat := 36

namespace Reading

/-- Puts the character that a number stands for into the word. -/
def insert (r : Reading) (number : Nat) : Option Reading :=
  let length := r.word.length + 1
  let distance := r.position + number
  let code := r.code + distance / length
  let position := distance % length
  if h : code.isValidChar then
    some {
      word := r.word.take position ++ Char.ofNatAux code h :: r.word.drop position
      code := code
      position := position + 1
      bias := biasAfter number length (r.position = 0) }
  else none

/-- Reads a digit. -/
def step (r : Reading) (c : Char) : Option Reading := do
  let digit ← digit? c
  let number := r.number + digit * r.weight
  let limit := threshold r.bias r.place
  if digit < limit then r.insert number
  else
    some { r with
      number := number, weight := r.weight * (36 - limit), place := r.place + 36 }

end Reading

/-- What stands before the last hyphen of a word, and what follows it. A hyphen at the start of a
word counts as a part of it. -/
def parts (s : List Char) : List Char × List Char :=
  let after := (s.reverse.takeWhile (· ≠ '-')).reverse
  let front := s.take (s.length - after.length - 1)
  if front.isEmpty then ([], s) else (front, after)

/-- The word that is written as `s`, if it is one. -/
def decode? (s : List Char) : Option (List Char) := do
  let (front, digits) := parts s
  let r ← digits.foldlM Reading.step { word := front }
  if r.place = 36 then some r.word else none

/-! ## Writing -/

/-- The digit of a value. -/
def digitOf (value : Nat) : Char :=
  if value < 26 then Char.ofNat ('a'.toNat + value) else Char.ofNat ('0'.toNat + value - 26)

private theorem threshold_pos (bias place : Nat) : 0 < threshold bias place := by
  simp only [threshold]
  omega

/-- The digits of a number. -/
def digitsOf (bias place number : Nat) : List Char :=
  let limit := threshold bias place
  if h : number < limit then [digitOf number]
  else
    digitOf (limit + (number - limit) % (36 - limit))
      :: digitsOf bias (place + 36) ((number - limit) / (36 - limit))
termination_by number
decreasing_by
  have := threshold_pos bias place
  have := Nat.div_le_self (number - threshold bias place) (36 - threshold bias place)
  omega

/-- A word that is being written. -/
structure Writing where
  /-- The digits of all numbers, last number first. -/
  digits : List (List Char) := []
  /-- The number that is being counted. -/
  number : Nat := 0
  /-- The bias of that number. -/
  bias : Nat := 72
  /-- How many characters were written. -/
  count : Nat
  /-- Whether no number was written. -/
  isFirst : Bool := true

namespace Writing

/-- Passes a character of the word, when characters with the code `code` are written. -/
def pass (code : Nat) (w : Writing) (c : Char) : Writing :=
  if c.toNat < code then { w with number := w.number + 1 }
  else if c.toNat = code then
    { digits := digitsOf w.bias 36 w.number :: w.digits
      bias := biasAfter w.number (w.count + 1) w.isFirst
      count := w.count + 1
      isFirst := false }
  else w

/-- Writes all characters with the code `code`, which were counted up to where the state says. -/
def writeCode (word : List Char) (state : Writing × Nat) (code : Nat) : Writing × Nat :=
  let (w, next) := state
  let w := { w with number := w.number + (code - next) * (w.count + 1) }
  let w := word.foldl (pass code) w
  ({ w with number := w.number + 1 }, code + 1)

end Writing

/-- The codes of the characters beyond ASCII, each once and in order. -/
def codesOf (word : List Char) : List Nat :=
  let codes := (word.map Char.toNat).filter (0x80 ≤ ·)
  codes.eraseDups.mergeSort

/-- A word in ASCII. -/
def encode (word : List Char) : List Char :=
  let front := word.filter (·.toNat < 0x80)
  let start : Writing := { count := front.length }
  let (w, _) := (codesOf word).foldl (Writing.writeCode word) (start, 0x80)
  front ++ (if front.isEmpty then [] else ['-']) ++ w.digits.reverse.flatten

end BotBindings.Address.Punycode
