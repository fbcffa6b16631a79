import BotBindings.Text.IdentifierChar
import BotBindings.Text.Split

/-!
# Literals of generated code

Texts, characters, bytes and numbers as they stand in code. A text is written between quotes, with
escapes or raw; a letter in front of the quotes says which values its characters may have. Every
literal may end in a suffix, which is an identifier.

Reading a literal gives what follows it, and for quoted ones also the characters they stand for.
-/

namespace BotBindings.Code

open Text

/-- What the characters of a quoted literal may be. -/
inductive TextKind
  /-- Any characters. -/
  | text
  /-- Bytes. Only ASCII is written without an escape. -/
  | bytes
  /-- Any characters and bytes but the null character, which ends the text. -/
  | terminated
  deriving DecidableEq, Repr

namespace Literal

/-! ## Names -/

/-- What follows the plain identifier at the start. -/
def afterName : List Char → Option (List Char)
  | c :: rest =>
    if isIdentifierStart c then some (rest.dropWhile isIdentifierContinue) else none
  | [] => none

/-- The part of `s` before its remainder `rest`. -/
def upTo (s rest : List Char) : List Char :=
  s.take (s.length - rest.length)

/-- What follows a suffix of a literal, if there is one. -/
def afterSuffix (s : List Char) : List Char :=
  (afterName s).getD s

/-! ## Escapes -/

/-- The value of a hexadecimal digit. -/
def hexValue? (c : Char) : Option Nat :=
  if c.isDigit then some (c.toNat - '0'.toNat)
  else if 'a' ≤ c && c ≤ 'f' then some (c.toNat - 'a'.toNat + 10)
  else if 'A' ≤ c && c ≤ 'F' then some (c.toNat - 'A'.toNat + 10)
  else none

/-- Whether `c` is a hexadecimal digit. -/
def isHexDigit (c : Char) : Bool :=
  (hexValue? c).isSome

/-- The number that hexadecimal digits stand for. Other characters are passed over. -/
def hexNumber (digits : List Char) : Nat :=
  (digits.filterMap hexValue?).foldl (fun n d => 16 * n + d) 0

/-- Whether an escape may stand for the character of a number. -/
def TextKind.allows (kind : TextKind) (n : Nat) : Bool :=
  match kind with
  | .text => n < 128
  | .bytes => true
  | .terminated => n != 0

/-- The character of an escape by code point, and what follows it, given what follows `\u`. -/
def readCodePoint : List Char → Option (Char × List Char)
  | '\x7b' :: rest =>
    let digits := rest.takeWhile fun c => isHexDigit c || c == '_'
    let count := digits.countP isHexDigit
    let n := hexNumber digits
    match rest.drop digits.length with
    | '\x7d' :: after =>
      if 1 ≤ count && count ≤ 6 && digits.head? != some '_' && n.isValidChar then
        some (Char.ofNat n, after)
      else none
    | _ => none
  | _ => none

/-- The character of an escape, and what follows it, given what follows its backslash. -/
def readEscape (kind : TextKind) : List Char → Option (Char × List Char)
  | 'x' :: a :: b :: rest =>
    let n := hexNumber [a, b]
    if isHexDigit a && isHexDigit b && TextKind.allows kind n then some (Char.ofNat n, rest)
    else none
  | 'u' :: rest =>
    if kind = .bytes then none
    else
      match readCodePoint rest with
      | some (c, after) => if kind = .terminated && c == '\x00' then none else some (c, after)
      | none => none
  | 'n' :: rest => some ('\n', rest)
  | 'r' :: rest => some ('\r', rest)
  | 't' :: rest => some ('\t', rest)
  | '\\' :: rest => some ('\\', rest)
  | '\'' :: rest => some ('\'', rest)
  | '"' :: rest => some ('"', rest)
  | '0' :: rest => if kind = .terminated then none else some ('\x00', rest)
  | _ => none

/-- What follows the blanks at the start of a line that continues a text. The text goes on, so
something has to follow; a carriage return counts as a blank before a line feed only. -/
def afterContinuation : List Char → Option (List Char)
  | [] => none
  | ' ' :: rest => afterContinuation rest
  | '\t' :: rest => afterContinuation rest
  | '\n' :: rest => afterContinuation rest
  | '\r' :: '\n' :: rest => afterContinuation rest
  | '\r' :: _ => none
  | s => some s

/-- Whether a character may stand in a literal without an escape. -/
def TextKind.holds (kind : TextKind) (c : Char) : Bool :=
  match kind with
  | .text => true
  | .bytes => c.toNat < 128
  | .terminated => c != '\x00'

/-! ## Quoted literals -/

/-- The characters of a text in quotes, and what follows its closing quote, given what follows the
opening one. At most `limit` characters are left. -/
def readQuoted (kind : TextKind) : Nat → List Char → Option (List Char × List Char)
  | 0, _ => none
  | limit + 1, s =>
    let more (c : Char) (found : Option (List Char × List Char)) :=
      found.map fun (text, rest) => (c :: text, rest)
    match s with
    | [] => none
    | '"' :: rest => some ([], rest)
    | '\r' :: '\n' :: rest => more '\n' (readQuoted kind limit rest)
    | '\r' :: _ => none
    | '\\' :: '\n' :: rest => (afterContinuation rest).bind (readQuoted kind limit)
    | '\\' :: '\r' :: '\n' :: rest => (afterContinuation rest).bind (readQuoted kind limit)
    | '\\' :: rest =>
      match readEscape kind rest with
      | some (c, after) => more c (readQuoted kind limit after)
      | none => none
    | c :: rest => if TextKind.holds kind c then more c (readQuoted kind limit rest) else none

/-- Whether each carriage return is followed by a line feed. -/
def pairsReturns : List Char → Bool
  | '\r' :: '\n' :: rest => pairsReturns rest
  | '\r' :: _ => false
  | _ :: rest => pairsReturns rest
  | [] => true

/-- The characters of a raw text, and what follows it, given what follows its prefix. -/
def readRaw (kind : TextKind) (s : List Char) : Option (List Char × List Char) :=
  let hashes := s.takeWhile (· = '#')
  if 255 < hashes.length then none
  else
    match s.drop hashes.length with
    | '"' :: rest =>
      match cut ('"' :: hashes) rest with
      | some (text, after) =>
        if pairsReturns text && text.all (TextKind.holds kind) then some (text, after) else none
      | none => none
    | _ => none

/-- What follows a character between single quotes, given what follows the opening one. -/
def afterCharacter (kind : TextKind) : List Char → Option (List Char)
  | '\\' :: rest =>
    match readEscape kind rest with
    | some (_, '\'' :: after) => some (afterSuffix after)
    | _ => none
  | c :: '\'' :: rest => if TextKind.holds kind c then some (afterSuffix rest) else none
  | _ => none

/-! ## Numbers -/

/-- Whether no identifier goes on here. -/
def endsWord : List Char → Bool
  | c :: _ => !isIdentifierContinue c
  | [] => true

/-- What follows the suffix of a number, if the number ends with it. -/
def afterNumber (s : List Char) : Option (List Char) :=
  let rest := afterSuffix s
  if endsWord rest then some rest else none

/-- Whether `c` is part of a decimal number. -/
def isDigitOrMark (c : Char) : Bool := c.isDigit || c == '_'

/-- Whether `c` starts an exponent. -/
def isExponentMark (c : Char) : Bool := c == 'e' || c == 'E'

/-- What follows the digits of an exponent, which have at most one sign before them. `signed` says
whether the sign was passed and `filled` whether a digit was. -/
def afterExponent (signed filled : Bool) : List Char → Option (List Char)
  | c :: rest =>
    if c.isDigit then afterExponent signed true rest
    else if c == '_' then afterExponent signed filled rest
    else if (c == '+' || c == '-') && !filled then
      if signed then none else afterExponent true false rest
    else if filled then some (c :: rest) else none
  | [] => if filled then some [] else none

/-- What follows a number with a point or an exponent. -/
def afterFloat (s : List Char) : Option (List Char) :=
  if !(s.head?.any Char.isDigit) then none
  else
    match s.dropWhile isDigitOrMark with
    | '.' :: rest =>
      if rest.head?.any fun c => c == '.' || isIdentifierStart c then none
      else
        let whole := rest.dropWhile isDigitOrMark
        match whole with
        | c :: after =>
          if isExponentMark c then afterNumber ((afterExponent false false after).getD whole)
          else afterNumber whole
        | [] => some []
    | c :: after =>
      if isExponentMark c then (afterExponent false false after).bind afterNumber else none
    | [] => none

/-- What follows a whole number with a letter for its base, given what follows the letter. A digit
that is too large for the base is a fault. -/
def afterDigits (base : Nat) (s : List Char) : Option (List Char) :=
  let isPart (c : Char) : Bool := c == '_' || (hexValue? c).any (· < base)
  let digits := s.takeWhile isPart
  let rest := s.drop digits.length
  if digits.all (· == '_') || rest.head?.any Char.isDigit then none else afterNumber rest

/-- What follows a whole number. -/
def afterInteger (s : List Char) : Option (List Char) :=
  match s with
  | '0' :: 'x' :: rest => afterDigits 16 rest
  | '0' :: 'o' :: rest => afterDigits 8 rest
  | '0' :: 'b' :: rest => afterDigits 2 rest
  | c :: rest => if c.isDigit then afterNumber (rest.dropWhile isDigitOrMark) else none
  | [] => none

/-! ## Literals -/

/-- The first of two results that there is. -/
def orElse (a b : Option (List Char)) : Option (List Char) :=
  match a with
  | some rest => some rest
  | none => b

/-- What stands for a literal that could not be written. -/
def faultText : List Char := "(/*ERROR*/)".toList

/-- What follows the literal at the start. -/
def after (s : List Char) : Option (List Char) :=
  let limit := s.length + 1
  let quoted (kind : TextKind) (rest : List Char) : Option (List Char) :=
    (readQuoted kind limit rest).map fun (_, after) => afterSuffix after
  let raw (kind : TextKind) (rest : List Char) : Option (List Char) :=
    (readRaw kind rest).map fun (_, after) => afterSuffix after
  match s with
  | '"' :: rest => quoted .text rest
  | 'r' :: rest => raw .text rest
  | 'b' :: '"' :: rest => quoted .bytes rest
  | 'b' :: 'r' :: rest => raw .bytes rest
  | 'b' :: '\'' :: rest => afterCharacter .bytes rest
  | 'c' :: '"' :: rest => quoted .terminated rest
  | 'c' :: 'r' :: rest => raw .terminated rest
  | '\'' :: rest => afterCharacter .text rest
  | s => orElse (afterFloat s) (afterInteger s)

end Literal

/-- The kind of a literal. -/
inductive LiteralKind
  | text
  | bytes
  | terminatedText
  | byte
  | character
  | integer
  | float
  | truth
  /-- What stands for a literal that could not be written. -/
  | fault
  deriving DecidableEq, Repr

namespace Literal

/-- Whether what follows the decimal digits of a number makes it one with an exponent. -/
def hasExponent (s : List Char) : Bool :=
  match s with
  | c :: rest =>
    let value := rest.dropWhile isDigitOrMark
    isExponentMark c
      && match value with
        | d :: _ =>
          d == '-' || d == '+'
            || ((rest.takeWhile isDigitOrMark).any Char.isDigit && isIdentifierStart d)
        | [] => rest.any Char.isDigit
  | [] => false

/-- Whether a number is whole. -/
def isWhole (digits : List Char) : Bool :=
  match digits with
  | '0' :: 'x' :: _ => true
  | '0' :: 'o' :: _ => true
  | '0' :: 'b' :: _ => true
  | digits =>
    let rest := digits.dropWhile isDigitOrMark
    rest.head? != some '.' && !hasExponent rest

/-- The digits of a number without its sign. -/
def unsigned (text : List Char) : List Char :=
  match text with
  | '-' :: rest => rest
  | text => text

/-- The kind of the literal that a text is. -/
def kind (text : String) : LiteralKind :=
  match text.toList with
  | '"' :: _ => .text
  | 'r' :: _ => .text
  | 'b' :: '\'' :: _ => .byte
  | 'b' :: _ => .bytes
  | 'c' :: _ => .terminatedText
  | '\'' :: _ => .character
  | '(' :: _ => .fault
  | 't' :: _ => .truth
  | 'f' :: _ => .truth
  | s => if isWhole (unsigned s) then .integer else .float

/-- The text that a literal stands for, if it is one of characters. -/
def value? (text : String) : Option String :=
  match text.toList with
  | '"' :: rest =>
    (readQuoted .text (rest.length + 1) rest).map fun (value, _) => String.ofList value
  | 'r' :: rest => (readRaw .text rest).map fun (value, _) => String.ofList value
  | _ => none

/-- The number that a whole number stands for, and its suffix. -/
def number (text : String) : Nat × String :=
  let digitsIn (base : Nat) (s : List Char) : Nat × String :=
    let isPart (c : Char) : Bool := c == '_' || (hexValue? c).any (· < base)
    let digits := s.takeWhile isPart
    let value := (digits.filterMap hexValue?).foldl (fun n d => base * n + d) 0
    (value, String.ofList (s.drop digits.length))
  match unsigned text.toList with
  | '0' :: 'x' :: rest => digitsIn 16 rest
  | '0' :: 'o' :: rest => digitsIn 8 rest
  | '0' :: 'b' :: rest => digitsIn 2 rest
  | s => digitsIn 10 s

end Literal

end BotBindings.Code
