import BotBindings.Address.Name

/-!
# Written addresses

The one way in which an address is written: the name of its host in ASCII, the steps of its path
taken, and characters that no address has as the bytes that stand for them.
-/

namespace BotBindings.Address

open Text

/-- Whether a character ends a step of a path. -/
def isSlash (c : Char) : Bool :=
  c == '/' || c == '\\'

/-! ## Escapes -/

/-- The digit of a value in base 16. -/
def hexDigit (n : Nat) : Char :=
  if n < 10 then Char.ofNat ('0'.toNat + n) else Char.ofNat ('A'.toNat + n - 10)

/-- The escape of a byte. -/
def escapeByte (b : UInt8) : List Char :=
  ['%', hexDigit (b.toNat / 16), hexDigit (b.toNat % 16)]

/-- A text with escapes for controls, for what is not ASCII, and for some other characters. -/
def escaped (others : String) (s : List Char) : List Char :=
  s.flatMap fun c =>
    if c.toNat < 0x20 || 0x7f ≤ c.toNat || others.toList.contains c then
      c.toString.toUTF8.toList.flatMap escapeByte
    else [c]

/-- The characters with escapes in a path. -/
def pathEscapes : String := " \"<>`#?^\x7b\x7d"

/-- The characters with escapes in a query. -/
def queryEscapes : String := " \"<>#'"

/-- The characters with escapes in a mark. -/
def markEscapes : String := " \"<>`"

/-! ## Paths -/

/-- The pieces of a path between slashes. -/
def pathPieces : List Char → List (List Char)
  | [] => [[]]
  | c :: rest =>
    if isSlash c then [] :: pathPieces rest
    else match pathPieces rest with
      | [] => [[c]]
      | piece :: pieces => (c :: piece) :: pieces

/-- A piece of a path with its points written as points. -/
def withPoints : List Char → List Char
  | '%' :: '2' :: 'e' :: rest => '.' :: withPoints rest
  | '%' :: '2' :: 'E' :: rest => '.' :: withPoints rest
  | c :: rest => c :: withPoints rest
  | [] => []

/-- The steps of a path that lead anywhere, after those of `done`, the last of which comes first. -/
def resolved (done : List (List Char)) : List (List Char) → List (List Char)
  | [] => done.reverse
  | piece :: rest =>
    let ending : List (List Char) := if rest.isEmpty then [[]] else []
    match withPoints piece with
    | ['.'] => resolved (ending ++ done) rest
    | ['.', '.'] => resolved (ending ++ done.drop 1) rest
    | _ => resolved (piece :: done) rest

/-- A path as it is written. -/
def writtenPath (path : List Char) : List Char :=
  (resolved [] (pathPieces (path.drop 1))).flatMap fun step => '/' :: escaped pathEscapes step

/-- What follows the host of an address, as it is written. -/
def writtenPlace (place : List Char) : List Char :=
  let path := place.takeWhile fun c => c != '?' && c != '#'
  let rest := place.drop path.length
  let query := rest.takeWhile (· != '#')
  let mark := rest.drop query.length
  writtenPath path
    ++ query.take 1 ++ escaped queryEscapes (query.drop 1)
    ++ mark.take 1 ++ escaped markEscapes (mark.drop 1)

/-! ## Names -/

/-- A label as it is written. -/
def writtenLabel (label : List Char) : List Char :=
  if label.all (·.toNat < 0x80) then label else "xn--".toList ++ Punycode.encode label

/-- The name of a host as it is written. -/
def writtenName (labels : List (List Char)) : List Char :=
  ['.'].intercalate (labels.map writtenLabel)

end BotBindings.Address
