import BotBindings.Text.Split

/-!
# Hosts by number

A host may be given by a number instead of a name: by one of 32 bits, in up to four parts between
points, or by one of 128 bits, in eight parts between colons. Parts of the latter that are zero may
be left out in one place, and its last two parts may be written like a number of 32 bits.
-/

namespace BotBindings.Address

open Text

/-! ## Digits -/

/-- The value of a digit. -/
def digitValue? (c : Char) : Option Nat :=
  if c.isDigit then some (c.toNat - '0'.toNat)
  else if 'a' ≤ c && c ≤ 'f' then some (c.toNat - 'a'.toNat + 10)
  else if 'A' ≤ c && c ≤ 'F' then some (c.toNat - 'A'.toNat + 10)
  else none

/-- The value of digits in a base. No digits have the value zero. -/
def value? (base : Nat) (s : List Char) : Option Nat :=
  s.foldlM (fun n c => do
    let d ← digitValue? c
    if d < base then some (base * n + d) else none) 0

/-! ## Numbers of 32 bits -/

/-- The value of a part between points. What stands before its digits says which base they have. -/
def partValue? : List Char → Option Nat
  | [] => none
  | '0' :: 'x' :: digits => value? 16 digits
  | '0' :: c :: digits => value? 8 (c :: digits)
  | digits => value? 10 digits

/-- The parts between points, the empty one after a point at the end apart. -/
def numberParts (labels : List (List Char)) : List (List Char) :=
  if labels.getLast? == some [] then labels.dropLast else labels

/-- Whether the labels of a name are meant as a number. -/
def isNumeric (labels : List (List Char)) : Bool :=
  match (numberParts labels).getLast? with
  | some last => (!last.isEmpty && last.all Char.isDigit) || (partValue? last).isSome
  | none => false

/-- The least number that needs more than some bytes. -/
def byteLimit : Nat → Nat
  | 0 => 1
  | bytes + 1 => 256 * byteLimit bytes

/-- Whether labels are a number of 32 bits. The last part stands for all bytes that have no part of
their own. -/
def isNumber (labels : List (List Char)) : Bool :=
  let parts := numberParts labels
  match parts.mapM partValue? with
  | none => false
  | some values =>
    parts.length ≤ 4 && values.dropLast.all (· < 256)
      && values.getLast?.any (· < byteLimit (5 - parts.length))

/-! ## Numbers of 128 bits -/

/-- Whether a part between points is a byte. -/
def isByte (s : List Char) : Bool :=
  !s.isEmpty && (s.head? != some '0' || s.length == 1) && (value? 10 s).any (· < 256)

/-- Whether the end of a number of 128 bits is written like one of 32 bits. -/
def isDotted (s : List Char) : Bool :=
  let parts := split ['.'] s
  parts.length == 4 && parts.all isByte

/-- Whether a part between colons is a number of 16 bits. -/
def isHexPart (s : List Char) : Bool :=
  !s.isEmpty && s.length ≤ 4 && (value? 16 s).isSome

/-- How many numbers of 16 bits there are between colons, if there is nothing else. The last part
may be one of 32 bits if nothing follows it. -/
def hexParts? (isLast : Bool) (s : List Char) : Option Nat :=
  let parts := split [':'] s
  if s.isEmpty then some 0
  else if parts.all isHexPart then some parts.length
  else if isLast && parts.dropLast.all isHexPart && isDotted (parts.getLastD []) then
    some (parts.length + 1)
  else none

/-- Whether a text is a number of 128 bits. -/
def isLongNumber (s : List Char) : Bool :=
  match split "::".toList s with
  | [whole] => hexParts? true whole == some 8
  | [front, back] =>
    match hexParts? false front, hexParts? true back with
    | some n, some m => n + m < 8
    | _, _ => false
  | _ => false

end BotBindings.Address
