import BotBindings.Code.Declaration
import BotBindings.Code.Identifier

/-!
# Reading tokens

A reader goes through tokens from left to right and reports the first thing it cannot go on with.
Tokens that are left over, in a group or at the end, count as wrong only once everything else was
read.

Types, expressions, patterns and statements hold each other. The readers for them are written apart,
each with a reader for all of them as its argument, and are tied together in one place.
-/

namespace BotBindings.Code

/-- Where a reader stands. -/
structure Cursor where
  /-- The tokens that are left in the group being read. -/
  rest : List Token
  /-- The first group that was left with tokens over. -/
  strayIn : Option Delimiter := none

/-- A step of reading: it moves on or says what is wrong. -/
abbrev Reader := StateT Cursor (Except String)

namespace Reader

/-! ## Looking ahead -/

/-- Whether a word is no identifier unless it is escaped. -/
def isReserved (text : String) : Bool :=
  text == "_" || keywords.contains text

/-- Whether a mark starts with the given characters. -/
def marksMatch : List Char → List Token → Bool
  | [], _ => true
  | [c], .punct d _ :: _ => c == d
  | c :: more, .punct d joint :: rest => c == d && joint && marksMatch more rest
  | _, _ => false

/-- Whether the tokens start with a mark. -/
def startsMark (mark : String) (tokens : List Token) : Bool :=
  match tokens with
  | .punct '\'' _ :: _ => false
  | tokens => marksMatch mark.toList tokens

/-- Whether the tokens start with a word. -/
def startsWord (word : String) : List Token → Bool
  | .ident text :: _ => text == word
  | _ => false

/-- Whether the tokens start with any of some words. -/
def startsAnyWord (words : List String) (tokens : List Token) : Bool :=
  words.any (startsWord · tokens)

/-- Whether the tokens start with a word of any kind. -/
def startsName : List Token → Bool
  | .ident _ :: _ => true
  | _ => false

/-- Whether the tokens start with an identifier that is no keyword. -/
def startsIdentifier : List Token → Bool
  | .ident text :: _ => !isReserved text
  | _ => false

/-- Whether the tokens start with a lifetime. -/
def startsLifetime : List Token → Bool
  | .punct '\'' true :: .ident _ :: _ => true
  | _ => false

/-- Whether the tokens start with a group. -/
def startsGroup (delimiter : Delimiter) : List Token → Bool
  | .group d _ :: _ => d = delimiter
  | _ => false

/-- What follows the first token. A lifetime counts as one. -/
def afterOne : List Token → List Token
  | .punct '\'' true :: .ident _ :: rest => rest
  | tokens => tokens.drop 1

/-- The literal at the start of the tokens, and what follows it. A sign belongs to a number. -/
def literalAt : List Token → Option (String × List Token)
  | .literal text :: rest => some (text, rest)
  | .punct '-' _ :: .literal text :: rest =>
    match Literal.kind text with
    | .integer => some ("-" ++ text, rest)
    | .float => some ("-" ++ text, rest)
    | _ => none
  | .ident text :: rest => if text == "true" || text == "false" then some (text, rest) else none
  | _ => none

/-- The literal of a kind at the start of the tokens, and what follows it. -/
def literalOf (kind : LiteralKind) (tokens : List Token) : Option (String × List Token) :=
  (literalAt tokens).filter fun (text, _) => Literal.kind text = kind

/-- The tokens that are left. -/
def rest : Reader (List Token) := do
  pure (← get).rest

/-- Whether nothing is left in the group being read. -/
def atEnd : Reader Bool := do
  pure (← rest).isEmpty

/-- Whether a mark comes next. -/
def atMark (mark : String) : Reader Bool := do
  pure (startsMark mark (← rest))

/-- Whether a word comes next. -/
def atWord (word : String) : Reader Bool := do
  pure (startsWord word (← rest))

/-! ## Moving on -/

/-- Stops with a message, which also says if the tokens ended. -/
def fail {α : Type} (message : String) : Reader α := do
  if ← atEnd then throw ("unexpected end of input, " ++ message) else throw message

/-- What was expected, of which there is any number. -/
def expectation : List String → String
  | [] => "unexpected token"
  | [only] => "expected " ++ only
  | [first, second] => "expected " ++ first ++ " or " ++ second
  | all => "expected one of: " ++ String.intercalate ", " all

/-- Stops because none of the things expected comes next. -/
def failExpecting {α : Type} (expected : List String) : Reader α := do
  if expected.isEmpty && (← atEnd) then throw "unexpected end of input"
  else fail (expectation expected)

/-- Goes on after the next `n` tokens. -/
def skip (n : Nat) : Reader Unit :=
  modify fun c => { c with rest := c.rest.drop n }

/-- Goes on at the given tokens. -/
def goTo (tokens : List Token) : Reader Unit :=
  modify fun c => { c with rest := tokens }

/-- Reads as a reader does, and says where it stopped, but stays where it is. There is none if the
reader fails. -/
def attempt {α : Type} (reader : Reader α) : Reader (Option (α × List Token)) := do
  match StateT.run reader (← get) with
  | .ok (value, cursor) => pure (some (value, cursor.rest))
  | .error _ => pure none

/-- Reads as a reader does if it does not fail. -/
def optional {α : Type} (reader : Reader α) : Reader (Option α) := do
  match StateT.run reader (← get) with
  | .ok (value, cursor) =>
    set cursor
    pure (some value)
  | .error _ => pure none

/-- Reads a mark. -/
def mark (mark : String) : Reader Unit := do
  if ← atMark mark then skip mark.length else throw ("expected `" ++ mark ++ "`")

/-- Reads a mark if it comes next, and says whether it did. -/
def mark? (mark : String) : Reader Bool := do
  if ← atMark mark then
    skip mark.length
    pure true
  else pure false

/-- Reads a word. -/
def word (word : String) : Reader Unit := do
  if ← atWord word then skip 1 else fail ("expected `" ++ word ++ "`")

/-- Reads a word if it comes next, and says whether it did. -/
def word? (word : String) : Reader Bool := do
  if ← atWord word then
    skip 1
    pure true
  else pure false

/-- Reads an identifier, which may be a keyword. -/
def anyIdentifier : Reader String := do
  match ← rest with
  | .ident text :: _ => do
    skip 1
    pure text
  | _ => fail "expected identifier"

/-- Reads an identifier that is no keyword. -/
def identifier : Reader String := do
  match ← rest with
  | .ident text :: _ =>
    if isReserved text then
      throw ("expected identifier, found keyword `" ++ text ++ "`")
    else do
      skip 1
      pure text
  | _ => fail "expected identifier"

/-- Reads a lifetime. -/
def lifetime : Reader String := do
  match ← rest with
  | .punct '\'' true :: .ident text :: _ => do
    skip 2
    pure ("'" ++ text)
  | _ => fail "expected lifetime"

/-- Reads a lifetime if one comes next. -/
def lifetime? : Reader (Option String) := do
  if startsLifetime (← rest) then some <$> lifetime else pure none

/-- What is wrong if a group does not come next. -/
def missingGroup : Delimiter → String
  | .parenthesis => "expected parentheses"
  | .bracket => "expected square brackets"
  | .brace => "expected curly braces"

/-- Reads a group with a reader for its content. Tokens that are left over are remembered. -/
def group {α : Type} (delimiter : Delimiter) (content : Reader α) : Reader α := do
  match ← rest with
  | .group d tokens :: after =>
    if d = delimiter then do
      goTo tokens
      let value ← content
      modify fun c =>
        let stray := if c.rest.isEmpty then none else some delimiter
        { rest := after, strayIn := c.strayIn.or stray }
      pure value
    else fail (missingGroup delimiter)
  | _ => fail (missingGroup delimiter)

/-- Reads a group of any kind as its tokens. -/
def anyGroup : Reader (Delimiter × List Token) := do
  match ← rest with
  | .group delimiter tokens :: _ => do
    skip 1
    pure (delimiter, tokens)
  | _ => fail "expected delimiter"

/-! ## Lists -/

/-- Reads items separated by commas up to where `stops` holds, at most `limit` of them. -/
def itemsUntil {α : Type} (stops : List Token → Bool) (item : Reader α) :
    Nat → Reader (List α)
  | 0 => pure []
  | limit + 1 => do
    if stops (← rest) then pure []
    else
      let first ← item
      if stops (← rest) then pure [first]
      else
        mark ","
        pure (first :: (← itemsUntil stops item limit))

/-- Reads items separated by commas to the end of the group. -/
def items {α : Type} (item : Reader α) : Reader (List α) := do
  itemsUntil List.isEmpty item ((← rest).length + 1)

/-- Reads items separated by commas up to a closing angle bracket. -/
def angleItems {α : Type} (item : Reader α) : Reader (List α) := do
  itemsUntil (startsMark ">") item ((← rest).length + 1)

/-- Reads items joined by plus signs up to where `stops` holds, at most `limit` of them. A plus sign
may stand at the end. -/
def sumUntil {α : Type} (stops : List Token → Bool) (item : Reader α) : Nat → Reader (List α)
  | 0 => pure []
  | limit + 1 => do
    if stops (← rest) then pure []
    else
      let first ← item
      if ← mark? "+" then pure (first :: (← sumUntil stops item limit)) else pure [first]

/-- Reads items joined by plus signs, possibly none, up to where `stops` holds. -/
def sum {α : Type} (stops : List Token → Bool) (item : Reader α) : Reader (List α) := do
  sumUntil stops item ((← rest).length + 1)

/-- Reads items as long as there is one, at most `limit` of them. -/
def many {α : Type} (item? : Reader (Option α)) : Nat → Reader (List α)
  | 0 => pure []
  | limit + 1 => do
    match ← item? with
    | none => pure []
    | some first => pure (first :: (← many item? limit))

/-- Reads items as long as there is one. Each takes at least one token. -/
def repeated {α : Type} (item? : Reader (Option α)) : Reader (List α) := do
  many item? ((← rest).length + 1)

/-! ## Whole texts -/

/-- What is wrong where tokens are left over. -/
def leftOver : Option Delimiter → String
  | some delimiter => "unexpected token, expected `" ++ delimiter.close.toString ++ "`"
  | none => "unexpected token"

/-- The whole of a text read by a reader. -/
def run {α : Type} (reader : Reader α) (text : String) : Except String α :=
  match Token.trees? text with
  | none => .error "cannot parse string into token stream"
  | some tokens =>
    match StateT.run reader { rest := tokens } with
    | .error message => .error message
    | .ok (value, cursor) =>
      match cursor.strayIn with
      | some delimiter => .error (leftOver (some delimiter))
      | none => if cursor.rest.isEmpty then .ok value else .error (leftOver none)

/-- How deep a reader goes at most: every token is passed by a few readers. -/
def depthLimit (text : String) : Nat :=
  16 * text.length + 16

end Reader

/-! ## The parts of code -/

/-- A part of code that holds others. -/
inductive Part
  /-- A type; `plus` says whether bounds may be added to it. -/
  | type (plus : Bool)
  /-- A path, in a type or in an expression. -/
  | path (inExpression : Bool)
  /-- A bound; `captures` and `constants` say whether it may be one on names or on constants. -/
  | bound (captures constants : Bool)
  /-- An expression; `records` says whether it may end in a record. -/
  | expression (records : Bool)
  /-- What operators apply to, with the attributes in front of it. -/
  | operand (records : Bool) (front : List Doc)
  /-- What binary operators that bind as strongly as `least` make of an expression. -/
  | operation (left : Expression) (records : Bool) (least : Nat)
  /-- An expression that is a statement or a case, with the attributes in front of it. It ends with
  its block, if it starts with one and no member of it follows. -/
  | closing (front : List Doc)
  /-- A pattern that is no choice between patterns. -/
  | pattern
  /-- The statements up to the end of a group. -/
  | statements
  /-- A declaration, behind its attributes. -/
  | declaration
  /-- What is imported; `fromRoot` says whether it may start at the root of all names. -/
  | imports (fromRoot : Bool)

/-- What is read for a part. -/
def Part.Result : Part → Type
  | .type _ => TypeForm
  | .path _ => PathForm
  | .bound _ _ => Bound
  | .expression _ => Expression
  | .operand _ _ => Expression
  | .operation _ _ _ => Expression
  | .closing _ => Expression
  | .pattern => Pattern
  | .statements => List Statement
  | .declaration => List Doc
  | .imports _ => Declaration.Import

/-- A reader for every part of code. -/
abbrev PartReader := (part : Part) → Reader part.Result

namespace PartReader

/-- Reads a type. -/
def type (read : PartReader) (plus : Bool) : Reader TypeForm :=
  read (.type plus)

/-- Reads a path. -/
def path (read : PartReader) (inExpression : Bool) : Reader PathForm :=
  read (.path inExpression)

/-- Reads a bound. -/
def bound (read : PartReader) (captures constants : Bool) : Reader Bound :=
  read (.bound captures constants)

/-- Reads an expression. -/
def expression (read : PartReader) (records : Bool) : Reader Expression :=
  read (.expression records)

/-- Reads what operators apply to. -/
def operand (read : PartReader) (records : Bool) (front : List Doc) : Reader Expression :=
  read (.operand records front)

/-- Reads the operators after an expression, with their further operands. -/
def operation (read : PartReader) (left : Expression) (records : Bool) (least : Nat) :
    Reader Expression :=
  read (.operation left records least)

/-- Reads an expression that is a statement or a case. -/
def closing (read : PartReader) (front : List Doc) : Reader Expression :=
  read (.closing front)

/-- Reads a pattern. -/
def pattern (read : PartReader) : Reader Pattern :=
  read .pattern

/-- Reads statements to the end of the group. -/
def statements (read : PartReader) : Reader (List Statement) :=
  read .statements

/-- Reads a declaration behind its attributes. -/
def declaration (read : PartReader) : Reader (List Doc) :=
  read .declaration

/-- Reads what is imported. -/
def imports (read : PartReader) (fromRoot : Bool) : Reader Declaration.Import :=
  read (.imports fromRoot)

end PartReader

end BotBindings.Code
