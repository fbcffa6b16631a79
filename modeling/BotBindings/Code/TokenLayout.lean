import BotBindings.Code.Layout
import BotBindings.Code.Token

/-!
# Layout of tokens

Tokens that belong to no form are laid out by what stands next to each other: the arguments of a
macro call with blanks where code has them, and those of an attribute as a list.
-/

namespace BotBindings.Code

open Doc

/-- The opening bracket. -/
def Delimiter.opening : Delimiter → String
  | .parenthesis => "("
  | .bracket => "["
  | .brace => "\x7b"

/-- The closing bracket. -/
def Delimiter.closing (d : Delimiter) : String :=
  d.close.toString

/-! ## Arguments of macro calls -/

/-- The words that are no names for the tokens after them. -/
def spacedWords : List String :=
  ["as", "async", "await", "box", "break", "const", "continue", "crate", "dyn", "else", "enum",
   "extern", "fn", "for", "if", "impl", "in", "let", "loop", "macro", "match", "mod", "move", "mut",
   "pub", "ref", "return", "static", "struct", "trait", "type", "unsafe", "use", "where", "while",
   "yield"]

/-- What stands before a token, as far as it matters to the blank between them. -/
inductive Before
  | start
  /-- A dollar sign. -/
  | sign
  /-- The name after a dollar sign, where names have kinds. -/
  | kindName
  /-- The colon before a kind. -/
  | kindColon
  /-- The repeated tokens after a dollar sign. -/
  | repetition
  /-- What separates repeated tokens. -/
  | separator
  | pound
  | poundBang
  | point
  | colon
  | colons
  | name
  | nameBang
  | closing
  | other
  deriving DecidableEq

/-- Whether a literal ends in a point. -/
def endsInPoint (literal : String) : Bool :=
  literal.toList.getLast? == some '.'

/-- Whether a blank stands before a token, and what the token is to the next one; `inPattern` where
tokens stand for the arguments of a call, so that names have kinds. -/
def spacing (inPattern : Bool) (before : Before) (token : Token) : Bool × Before :=
  match before, token with
  | .sign, .ident _ => (false, if inPattern then .kindName else .other)
  | .kindName, .punct ':' false => (false, .kindColon)
  | .kindColon, .ident _ => (false, .other)
  | .repetition, .ident _ => (false, .separator)
  | .repetition, .literal _ => (false, .separator)
  | .repetition, .punct c joint =>
    if joint then (false, .repetition)
    else if c == '+' || c == '*' || c == '?' then (false, .other) else (false, .separator)
  | .sign, .group .parenthesis _ => (false, .repetition)
  | .pound, .group .bracket _ => (false, .other)
  | .poundBang, .group .bracket _ => (false, .other)
  | .name, .group .parenthesis _ => (false, .closing)
  | .name, .group .bracket _ => (false, .closing)
  | .nameBang, .group .parenthesis _ => (false, .other)
  | .nameBang, .group .bracket _ => (false, .other)
  | _, .group .parenthesis _ => (true, .closing)
  | _, .group .bracket _ => (true, .closing)
  | _, .group .brace _ => (true, .other)
  | _, .ident text =>
    if spacedWords.contains text then (true, .other)
    else (before != .point && before != .colons, .name)
  | _, .literal text => (before != .point, if endsInPoint text then .other else .name)
  | _, .punct c joint =>
    if before == .separator && (c == '+' || c == '*') then (false, .other)
    else if before == .pound && c == '!' then (false, .poundBang)
    else if before == .name && c == '!' && !joint then (false, .nameBang)
    else if before == .colon && c == ':' then (false, .colons)
    else if c == ',' || c == ';' then (false, .other)
    else if c == '.' && !inPattern then (before != .name && before != .closing, .point)
    else if c == ':' && joint then (before != .name, .colon)
    else if c == '$' then (true, .sign)
    else if c == '#' then (true, .pound)
    else (true, .other)

/-- Whether nothing ever stands between a token and the next one. -/
def Token.holdsNext : Token → Bool
  | .punct c joint => joint || c == '$'
  | _ => false

/-- What stands between two tokens. -/
def gapBefore (blank : Bool) : Token → List Doc
  | .punct '.' _ => [if blank then space else cutPoint]
  | _ => if blank then [space] else []

mutual

/-- The layout of tokens, of which the first has `before` before it. -/
def tokenDocs (inPattern : Bool) (before : Before) (held : Bool) : List Token → List Doc
  | [] => []
  | token :: rest =>
    let (blank, next) := spacing inPattern before token
    (if held then [] else gapBefore blank token) ++ tokenDoc inPattern token
      ++ tokenDocs inPattern next token.holdsNext rest

/-- The layout of a token. -/
def tokenDoc (inPattern : Bool) : Token → List Doc
  | .ident text => [.word text]
  | .punct c _ => [.word c.toString]
  | .literal text => [.word text]
  | .group delimiter content =>
    let inner := tokenDocs inPattern .start true content
    let padding : List Doc := if delimiter = .brace && !inner.isEmpty then [space] else []
    [.word delimiter.opening] ++ padding ++ inner ++ padding ++ [.word delimiter.closing]

end

/-- Tokens in brackets, with a break of their own at each end. -/
def bracketed (inPattern : Bool) (edge : Doc) (tokens : List Token) : List Doc :=
  if tokens.isEmpty then []
  else [block (outdent [edge, .box 0 false (tokenDocs inPattern .start true tokens), edge])]

/-- The layout of a macro call; `front` stands before the bracket. Arguments in braces get lines of
their own. -/
def callBehind (front : String) (delimiter : Delimiter) (tokens : List Token) : List Doc :=
  let opening := if delimiter = .brace then " \x7b" else delimiter.opening
  let edge := if delimiter = .brace then newline else cutPoint
  [.word (front ++ opening)] ++ bracketed false edge tokens ++ [.word delimiter.closing]

/-- The layout of a macro call. -/
def callDoc (path : String) (delimiter : Delimiter) (tokens : List Token) : List Doc :=
  callBehind (path ++ "!") delimiter tokens

/-- The layout of a macro call that declares a name. -/
def namingCallDoc (path name : String) (delimiter : Delimiter) (tokens : List Token) : List Doc :=
  callBehind (path ++ "! " ++ name) delimiter tokens

/-! ## Rules of macros -/

/-- What comes next in the rules of a macro. -/
inductive RulePart
  /-- What a call of the macro looks like. -/
  | pattern
  /-- The arrow, of which the second half comes next if it `isOpen`. -/
  | arrow (isOpen : Bool)
  /-- What stands for the call. -/
  | expansion
  /-- The end of the rule. -/
  | ending

/-- The layout of rules. Other tokens are no rules, and have no text. -/
def rulesDoc : RulePart → List Token → List Doc
  | .pattern, [] => []
  | .ending, [] => [.word ";", newline]
  | _, [] => [newline]
  | .pattern, .group delimiter tokens :: rest =>
    [.word delimiter.opening] ++ bracketed true cutPoint tokens ++ [.word delimiter.closing]
      ++ rulesDoc (.arrow false) rest
  | .arrow false, .punct '=' true :: rest => .word " =" :: rulesDoc (.arrow true) rest
  | .arrow true, .punct '>' false :: rest => .word ">" :: rulesDoc .expansion rest
  | .expansion, .group _ tokens :: rest =>
    [.word " \x7b", joint] ++ bracketed false newline tokens ++ [.word "\x7d"]
      ++ rulesDoc .ending rest
  | .ending, .punct ';' false :: rest => [.word ";", newline] ++ rulesDoc .pattern rest
  | _, _ => [.unwritable]

/-- The layout of the definition of a macro by rules. -/
def definitionDoc (name : String) (tokens : List Token) : List Doc :=
  [.word ("macro_rules! " ++ name ++ " \x7b"),
    block (outdent (newlineBetween :: rulesDoc .pattern tokens)), .word "\x7d"]

/-! ## Arguments of attributes -/

/-- What stands before an argument of an attribute. -/
inductive ArgumentBefore
  | word
  | mark
  /-- A comma at the end of the arguments. -/
  | lastComma
  deriving DecidableEq

mutual

/-- The layout of arguments, and what stands at their end. -/
def argumentDocs (before : ArgumentBefore) : List Token → List Doc × ArgumentBefore
  | [] => ([], before)
  | token :: rest =>
    let (first, middle) := argumentDoc before rest.isEmpty token
    let (others, last) := argumentDocs middle rest
    (first ++ others, last)

/-- The layout of an argument, and what it is to the next one. -/
def argumentDoc (before : ArgumentBefore) (isLast : Bool) : Token → List Doc × ArgumentBefore
  | .ident text => ((if before = .word then [space] else []) ++ [.word text], .word)
  | .literal text => ((if before = .word then [space] else []) ++ [.word text], .word)
  | .punct c _ =>
    let blank : List Doc := if before = .word && c == '=' then [.word " "] else []
    if c == ',' && isLast then (blank ++ [.gap { before := "," }], .lastComma)
    else
      let after : List Doc := if c == '=' then [.word " "] else if c == ',' then [space] else []
      (blank ++ [.word c.toString] ++ after, .mark)
  | .group .parenthesis content =>
    let (inner, last) := argumentDocs .mark content
    let edge : List Doc := if last = .lastComma then [] else [cutPoint]
    ([.word "(", block (outdent (cutPoint :: inner ++ edge)), .word ")"], .mark)
  | .group delimiter content =>
    ([.word delimiter.opening] ++ (argumentDocs .mark content).1 ++ [.word delimiter.closing],
      .mark)

end

/-- The layout of an attribute with arguments between brackets. -/
def listDoc (path : String) (delimiter : Delimiter) (tokens : List Token) : List Doc :=
  .word path :: (argumentDoc .mark true (.group delimiter tokens)).1

end BotBindings.Code
