import BotBindings.Text.Printable

/-!
# Quoted texts

A quoted text stands between double quotes. Quotes, backslashes and the common controls have short
escapes, and every other character that does not print is written by its code point. Two notations
share these rules and differ in how they write the null character: a message always writes `\0`,
a literal of generated code writes `\x00` before an octal digit, where `\0` would read as part of a
longer escape.
-/

namespace BotBindings.Text

/-- The lowercase hexadecimal digits of `n`. -/
def hexDigits (n : Nat) : List Char :=
  Nat.toDigits 16 n

/-- The escape of one character, or the character itself if it stands for itself. -/
def escapeChar (c : Char) : List Char :=
  if c = '\x00' then ['\\', '0']
  else if c = '\t' then ['\\', 't']
  else if c = '\r' then ['\\', 'r']
  else if c = '\n' then ['\\', 'n']
  else if c = '"' then ['\\', '"']
  else if c = '\\' then ['\\', '\\']
  else if isPrintable c then [c]
  else ['\\', 'u', '\x7b'] ++ hexDigits c.toNat ++ ['\x7d']

/-- The characters of a literal between its quotes. -/
def escapeLiteral : List Char → List Char
  | [] => []
  | [c] => escapeChar c
  | c :: next :: rest =>
    (if c = '\x00' && '0' ≤ next && next ≤ '7' then ['\\', 'x', '0', '0'] else escapeChar c)
      ++ escapeLiteral (next :: rest)

/-- The text quoted the way messages quote names. -/
def quoted (s : String) : String :=
  String.ofList ('"' :: s.toList.flatMap escapeChar ++ ['"'])

/-- The text as a string literal of generated code. -/
def literal (s : String) : String :=
  String.ofList ('"' :: escapeLiteral s.toList ++ ['"'])

end BotBindings.Text
