import BotBindings.Html.NamedReference
import BotBindings.Text.Split

/-!
# Character references

A page may write a character by its number (`&#60;`, `&#x3C;`) or by its name (`&lt;`). A reference
that is no reference stays as it is written.
-/

namespace BotBindings.Html

open Text

/-- The value of a hexadecimal digit. -/
def hexValue? (c : Char) : Option Nat :=
  if '0' ≤ c ∧ c ≤ '9' then some (c.toNat - '0'.toNat)
  else if 'a' ≤ c ∧ c ≤ 'f' then some (c.toNat - 'a'.toNat + 10)
  else if 'A' ≤ c ∧ c ≤ 'F' then some (c.toNat - 'A'.toNat + 10)
  else none

/-- The value of a decimal digit. -/
def decimalValue? (c : Char) : Option Nat :=
  if '0' ≤ c ∧ c ≤ '9' then some (c.toNat - '0'.toNat) else none

/-- The number that a list of digits denotes. -/
def numberOf (base : Nat) (value? : Char → Option Nat) (digits : List Char) : Nat :=
  digits.foldl (fun n c => n * base + (value? c).getD 0) 0

/-- A name with the characters it stands for. -/
structure NamedReference where
  /-- The characters between the ampersand and the end of the reference. -/
  name : List Char
  /-- What the reference stands for. -/
  value : List Char

/-- The references of a list that alternates names and code points. -/
def namedReferencesOf : List String → List NamedReference
  | name :: codes :: rest =>
    let value := (codes.splitOn ".").map fun code =>
      Char.ofNat (numberOf 16 hexValue? code.toList)
    ⟨name.toList ++ [';'], value⟩ :: namedReferencesOf rest
  | _ => []

/-- The references that end in a semicolon. -/
def terminatedReferences : List NamedReference :=
  namedReferencesOf (namedReferenceLines.flatMap fun line => line.splitOn " ")

/-- The references that need no semicolon. -/
def unterminatedReferences : List NamedReference :=
  (unterminatedLines.flatMap fun line => line.splitOn " ").filterMap fun name =>
    (terminatedReferences.find? fun reference => reference.name == name.toList ++ [';']).map
      fun reference => ⟨name.toList, reference.value⟩

/-- Every named reference. -/
def namedReferences : List NamedReference :=
  terminatedReferences ++ unterminatedReferences

/-- The longest named reference at the start of `s`. -/
def longestReference (s : List Char) : Option NamedReference :=
  namedReferences.foldl (fun best reference =>
    if (stripFront reference.name s).isSome then
      match best with
      | some other => if reference.name.length > other.name.length then some reference else best
      | none => some reference
    else best) none

/-- What the code points from 128 to 159 stand for where a page means the characters of an older
encoding. -/
def legacyCodePoints : List Nat :=
  [0x20AC, 0x81, 0x201A, 0x192, 0x201E, 0x2026, 0x2020, 0x2021, 0x2C6, 0x2030, 0x160, 0x2039, 0x152,
   0x8D, 0x17D, 0x8F, 0x90, 0x2018, 0x2019, 0x201C, 0x201D, 0x2022, 0x2013, 0x2014, 0x2DC, 0x2122,
   0x161, 0x203A, 0x153, 0x9D, 0x17E, 0x178]

/-- The character that a numeric reference denotes. Numbers that are no character denote the
replacement character. -/
def characterOfNumber (n : Nat) : Char :=
  if n = 0 ∨ n > 0x10FFFF ∨ (0xD800 ≤ n ∧ n ≤ 0xDFFF) then '\uFFFD'
  else if 0x80 ≤ n ∧ n ≤ 0x9F then Char.ofNat (legacyCodePoints.getD (n - 0x80) n)
  else Char.ofNat n

/-- The text of a reference, and how many characters after the ampersand it takes. -/
structure Decoded where
  /-- What the reference stands for. -/
  text : List Char
  /-- The number of characters after the ampersand. -/
  length : Nat
  /-- Whether the reference lacks its semicolon. -/
  unterminated : Bool

/-- A numeric reference whose digits follow `front` more characters. -/
def decodeDigits (front base : Nat) (value? : Char → Option Nat) (s : List Char) :
    Option Decoded :=
  let digits := s.takeWhile fun c => (value? c).isSome
  if digits.isEmpty then none
  else
    let semicolon := (s.drop digits.length).head? == some ';'
    some ⟨[characterOfNumber (numberOf base value? digits)],
      front + digits.length + if semicolon then 1 else 0, !semicolon⟩

/-- The reference that starts after an ampersand. In the value of an attribute a name without a
semicolon is no reference if a letter, a digit or an equals sign follows. -/
def decodeReference (inAttribute : Bool) (s : List Char) : Option Decoded :=
  match s with
  | '#' :: 'x' :: rest => decodeDigits 2 16 hexValue? rest
  | '#' :: 'X' :: rest => decodeDigits 2 16 hexValue? rest
  | '#' :: rest => decodeDigits 1 10 decimalValue? rest
  | _ =>
    match longestReference s with
    | none => none
    | some reference =>
      let continues := match (s.drop reference.name.length).head? with
        | some c => c == '=' || c.isAlphanum
        | none => false
      let unterminated := reference.name.getLast? != some ';'
      if inAttribute && unterminated && continues then none
      else some ⟨reference.value, reference.name.length, unterminated⟩

/-- Whether the text starts with a reference that lacks its semicolon. -/
def startsUnterminated : List Char → Bool
  | '&' :: rest => (decodeReference false rest).any Decoded.unterminated
  | _ => false

/-- The text with its references decoded. -/
def decodeReferences (inAttribute : Bool) : List Char → List Char
  | [] => []
  | c :: rest =>
    if c = '&' then
      match decodeReference inAttribute rest with
      | some decoded => decoded.text ++ decodeReferences inAttribute (rest.drop decoded.length)
      | none => '&' :: decodeReferences inAttribute rest
    else c :: decodeReferences inAttribute rest
termination_by s => s.length
decreasing_by all_goals simp only [List.length_cons, List.length_drop]; omega

end BotBindings.Html
