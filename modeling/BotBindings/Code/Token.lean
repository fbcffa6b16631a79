import BotBindings.Code.Literal
import BotBindings.Text.Blank
import BotBindings.Text.Quoted

/-!
# Tokens of generated code

The text of a type is read as a sequence of token trees: identifiers, literals, marks, and groups of
tokens between brackets. Comments and blanks separate tokens. A text whose brackets do not match, or
that holds a character which starts no token, has no token trees.
-/

namespace BotBindings.Code

open Text

/-- The brackets around a group of tokens. -/
inductive Delimiter
  | parenthesis
  | bracket
  | brace
  deriving DecidableEq, Repr

/-- The closing bracket. -/
def Delimiter.close : Delimiter → Char
  | .parenthesis => ')'
  | .bracket => ']'
  | .brace => '\x7d'

/-- A token tree. -/
inductive Token
  /-- An identifier or a keyword, with its escape. -/
  | ident (text : String)
  /-- One character of a mark, and whether the mark goes on in the next token. -/
  | punct (char : Char) (joint : Bool)
  | literal (text : String)
  | group (delimiter : Delimiter) (content : List Token)

namespace Token

/-! ## Blanks and comments -/

/-- Whether `c` separates tokens. Marks of writing direction do so too. -/
def isSpace (c : Char) : Bool :=
  isBlank c || c == '\u200e' || c == '\u200f'

/-- What follows a comment in brackets, of which `depth` are open. -/
def afterBlockComment : Nat → List Char → Option (List Char)
  | _, [] => none
  | depth, '/' :: '*' :: rest => afterBlockComment (depth + 1) rest
  | depth, '*' :: '/' :: rest =>
    if depth ≤ 1 then some rest else afterBlockComment (depth - 1) rest
  | depth, _ :: rest => afterBlockComment depth rest

/-- Whether a line comment starts here that is no documentation. -/
def startsLineComment : List Char → Bool
  | '/' :: '/' :: '/' :: '/' :: _ => true
  | '/' :: '/' :: '/' :: _ => false
  | '/' :: '/' :: '!' :: _ => false
  | '/' :: '/' :: _ => true
  | _ => false

/-- Whether a bracketed comment starts here that is no documentation. -/
def startsBlockComment : List Char → Bool
  | '/' :: '*' :: '*' :: '*' :: _ => true
  | '/' :: '*' :: '*' :: '/' :: _ => true
  | '/' :: '*' :: '*' :: _ => false
  | '/' :: '*' :: '!' :: _ => false
  | '/' :: '*' :: _ => true
  | _ => false

/-- What follows the blanks and comments at the start; `limit` bounds how many there are. -/
def skipSpace : Nat → List Char → List Char
  | 0, s => s
  | limit + 1, s =>
    if startsLineComment s then skipSpace limit (s.dropWhile (· ≠ '\n'))
    else if startsBlockComment s then
      match s with
      | '/' :: '*' :: '*' :: '/' :: rest => skipSpace limit rest
      | s =>
        match afterBlockComment 0 s with
        | some rest => skipSpace limit rest
        | none => s
    else match s with
      | c :: rest => if isSpace c then skipSpace limit rest else s
      | [] => []

/-! ## Identifiers -/

/-- What follows the identifier at the start, escaped or not. -/
def afterIdentifier (s : List Char) : Option (List Char) :=
  match stripFront "r#".toList s with
  | none => Literal.afterName s
  | some name =>
    match Literal.afterName name with
    | none => none
    | some rest =>
      let word := String.ofList (Literal.upTo name rest)
      if ["_", "super", "self", "Self", "crate"].contains word then none else some rest

/-! ## Marks -/

/-- Whether `c` is a character of marks. -/
def isMarkChar (c : Char) : Bool :=
  "~!@#$%^&*-=+|;:,<.>/?'".toList.contains c

/-- Whether a character of a mark starts here. A comment is no mark. -/
def startsMark : List Char → Bool
  | '/' :: '/' :: _ => false
  | '/' :: '*' :: _ => false
  | c :: _ => isMarkChar c
  | [] => false

/-- The character of a mark at the start, and what follows it. -/
def markAt (s : List Char) : Option (Token × List Char) :=
  match s with
  | [] => none
  | c :: rest =>
    if !startsMark s then none
    else if c = '\'' then
      match afterIdentifier rest with
      | none => none
      | some after =>
        let closed := after.head? == some '\''
        let hashed := after.head? == some '#' && (stripFront "r#".toList rest).isNone
        if closed || hashed then none else some (.punct c true, rest)
    else some (.punct c (startsMark rest), rest)

/-! ## Token trees -/

/-- Whether a literal with a letter in front starts here, so that no identifier does. -/
def startsPrefixedLiteral (s : List Char) : Bool :=
  ["r\"", "r#\"", "r##", "b\"", "b'", "br\"", "br#", "c\"", "cr\"", "cr#"].any fun front =>
    (stripFront front.toList s).isSome

/-- The token at the start that is no group, and what follows it. -/
def leafAt (s : List Char) : Option (Token × List Char) :=
  match Literal.after s with
  | some rest => some (.literal (String.ofList (Literal.upTo s rest)), rest)
  | none =>
    match markAt s with
    | some found => some found
    | none =>
      if startsPrefixedLiteral s then none
      else
        match afterIdentifier s with
        | some rest => some (.ident (String.ofList (Literal.upTo s rest)), rest)
        | none =>
          (stripFront Literal.faultText s).map fun rest =>
            (.literal (String.ofList Literal.faultText), rest)

/-! ## Documentation -/

/-- The tokens that documentation stands for. -/
def documentation (inner : Bool) (text : List Char) : List Token :=
  [.punct '#' false] ++ (if inner then [.punct '!' false] else [])
    ++ [.group .bracket
      [.ident "doc", .punct '=' false, .literal (Text.literal (String.ofList text))]]

/-- The rest of the line, without its end, and what follows it. -/
def line (s : List Char) : List Char × List Char :=
  let text := s.takeWhile (· ≠ '\n')
  let rest := s.drop text.length
  if !rest.isEmpty && text.getLast? == some '\r' then (text.dropLast, rest) else (text, rest)

/-- The documentation at the start, and what follows it. No carriage return stands alone in it. -/
def documentationAt (s : List Char) : Option (List Token × List Char) :=
  let found (inner : Bool) (text rest : List Char) : Option (List Token × List Char) :=
    if Literal.pairsReturns text then some (documentation inner text, rest) else none
  let block (inner : Bool) : Option (List Token × List Char) :=
    match afterBlockComment 0 s with
    | some rest => found inner ((Literal.upTo s rest).drop 3).dropLast.dropLast rest
    | none => none
  match s with
  | '/' :: '/' :: '!' :: rest => found true (line rest).1 (line rest).2
  | '/' :: '*' :: '!' :: _ => block true
  | '/' :: '/' :: '/' :: rest =>
    if rest.head? == some '/' then none else found false (line rest).1 (line rest).2
  | '/' :: '*' :: '*' :: rest => if rest.head? == some '*' then none else block false
  | _ => none

/-! ## Groups -/

/-- The bracket that opens a group. -/
def opening? (c : Char) : Option Delimiter :=
  if c = '(' then some .parenthesis
  else if c = '[' then some .bracket
  else if c = '\x7b' then some .brace
  else none

/-- Reads tokens. `groups` holds the open groups, innermost first, each with the tokens before it in
the group around, and `read` the tokens of the innermost one, latest first. Each token takes at
least one character, so `limit` need not exceed the number of characters. -/
def treesFrom : Nat → List (Delimiter × List Token) → List Token → List Char →
    Option (List Token)
  | 0, _, _, _ => none
  | limit + 1, groups, read, s =>
    let s := skipSpace (s.length + 1) s
    match documentationAt s with
    | some (tokens, rest) => treesFrom limit groups (tokens.reverse ++ read) rest
    | none =>
      match s with
      | [] => if groups.isEmpty then some read.reverse else none
      | c :: rest =>
        match if (stripFront Literal.faultText s).isSome then none else opening? c with
        | some delimiter => treesFrom limit ((delimiter, read) :: groups) [] rest
        | none =>
          if c = ')' ∨ c = ']' ∨ c = '\x7d' then
            match groups with
            | (delimiter, before) :: groups =>
              if c = delimiter.close then
                treesFrom limit groups (.group delimiter read.reverse :: before) rest
              else none
            | [] => none
          else
            match leafAt s with
            | some (token, rest) => treesFrom limit groups (token :: read) rest
            | none => none

/-- The text without the byte order mark at its start. -/
def withoutMark : List Char → List Char
  | '\ufeff' :: rest => rest
  | s => s

/-- The token trees of a text. -/
def trees? (text : String) : Option (List Token) :=
  treesFrom (text.length + 2) [] [] (withoutMark text.toList)

end Token

end BotBindings.Code
