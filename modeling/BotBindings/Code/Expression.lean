import BotBindings.Code.Literal
import BotBindings.Code.TypeForm

/-!
# Expressions

The form of an expression in generated code, as far as the layout of what is around it depends on
it, and how it is laid out. Patterns, types and statements inside are kept as their layouts, and so
are expressions that nothing around them looks into.

An expression to which members, calls and indices are applied is a chain, which is laid out as one:
either on one line, or with every link that starts with a point on a line of its own.
-/

namespace BotBindings.Code

open Doc

/-- What an expression is that nothing around it looks into. -/
inductive Atom
  | literal (text : String)
  /-- A path; `name` is the path if that is a single name. -/
  | path (name : Option String)
  | infer
  | tuple (isEmpty : Bool)
  | array
  | repeated
  | record
  | invocation (delimiter : Delimiter)
  /-- Several cases of a value. -/
  | cases
  /-- A choice by conditions. It is total if it has a block for when none of them holds. -/
  | choice (isTotal : Bool)
  | loop (isEndless : Bool)
  /-- An expression that no text is known for. -/
  | unwritable

/-- What a block is for. -/
inductive BlockKind
  | plain (label : Option String)
  /-- A block that runs later. -/
  | deferred (captures : Bool)
  /-- A block that is evaluated before the program runs. -/
  | constant
  /-- A block whose safety is not checked. -/
  | unchecked
  /-- A block whose failures are its value. -/
  | guarded

/-- An expression that ends the one around it. -/
inductive JumpKind
  | leave
  | proceed
  | answer
  | offer

/-- The word for a jump. -/
def JumpKind.word : JumpKind → String
  | .leave => "break"
  | .proceed => "continue"
  | .answer => "return"
  | .offer => "yield"

/-- A label and what sets it off. -/
def labelText (label : Option String) : String :=
  match label with
  | some name => name ++ ": "
  | none => ""

/-- What stands before the braces of a block. -/
def BlockKind.front : BlockKind → String
  | .plain label => labelText label
  | .deferred captures => if captures then "async move " else "async "
  | .constant => "const "
  | .unchecked => "unsafe "
  | .guarded => "try "

/-- The layout of what stands before the braces of a block. -/
def BlockKind.frontDoc (kind : BlockKind) : List Doc :=
  if kind.front.isEmpty then [] else [.word kind.front]

/-- Whether a block is a statement by itself. -/
def BlockKind.standsAlone : BlockKind → Bool
  | .deferred _ => false
  | _ => true

/-- An expression. -/
inductive Expression
  | atom (kind : Atom) (doc : List Doc)
  | paren (inner : Expression)
  | field (owner : Expression) (name : String)
  | index (owner index : Expression)
  | call (function : Expression) (arguments : List Expression)
  | methodCall (owner : Expression) (name : String) (parameters : List Doc)
      (arguments : List Expression)
  /-- The value that is computed later. -/
  | await (owner : Expression)
  /-- The value, or the failure as the answer of the function. -/
  | attempt (owner : Expression)
  /-- An operator in front of its operand. -/
  | prefixed (operator : String) (operand : Expression)
  | binary (left : Expression) (operator : String) (right : Expression)
  | assign (target value : Expression)
  | cast (value : Expression) (type : List Doc) (endsInBrace : Bool)
  | range (start : Option Expression) (isClosed : Bool) (stop : Option Expression)
  /-- Whether a value has the form of a pattern. -/
  | binding (pattern : List Doc) (value : Expression)
  | closure (front : List Doc) (inputs : List (List Doc)) (output : Option (List Doc))
      (body : Expression)
  /-- A block with the attributes inside it. Unless it consists of the expression `sole`, `content`
  are its statements, if there are any. -/
  | block (kind : BlockKind) (inner : List Doc) (sole : Option Expression)
      (content : Option (List Doc))
  | jump (kind : JumpKind) (label : Option String) (value : Option Expression)
  | attributed (attributes : List Doc) (inner : Expression)

namespace Expression

/-! ## Facts about the form -/

/-- Whether an expression is a statement by itself, and what follows it starts anew. -/
def standsAlone : Expression → Bool
  | .atom .cases _ => true
  | .atom (.choice _) _ => true
  | .atom (.loop _) _ => true
  | .block kind _ _ _ => kind.standsAlone
  | .attributed _ e => standsAlone e
  | _ => false

/-- Whether an expression has to be set off from a statement after it. -/
def needsSemicolon : Expression → Bool
  | .atom (.invocation delimiter) _ => delimiter ≠ .brace
  | .attributed _ e => needsSemicolon e
  | e => !e.standsAlone

/-- The brackets around the arguments, if an expression is the call of a macro. -/
def invocation? : Expression → Option Delimiter
  | .atom (.invocation delimiter) _ => some delimiter
  | .attributed _ e => invocation? e
  | _ => none

/-- Whether the brackets of an expression are brackets enough for a call. -/
def isBlockLike : Expression → Bool
  | .atom (.tuple _) _ => true
  | .atom .array _ => true
  | .atom .record _ => true
  | .closure .. => true
  | .block .. => true
  | _ => false

/-- Whether a condition may be followed by a new line. -/
def mayWrap : Expression → Bool
  | .field .. => true
  | .index .. => true
  | .methodCall .. => true
  | .await _ => true
  | .binary .. => true
  | .assign .. => true
  | .cast .. => true
  | .paren e => mayWrap e
  | .call f _ => mayWrap f
  | .attempt e => mayWrap e
  | .prefixed _ e => mayWrap e
  | .range _ _ (some e) => mayWrap e
  | .binding _ e => mayWrap e
  | .jump _ _ (some e) => mayWrap e
  | .attributed _ e => mayWrap e
  | _ => false

/-- Whether an expression is a name that is no longer than one step of indentation. -/
def isShortName : Expression → Bool
  | .atom (.path (some name)) _ => name.utf8ByteSize ≤ 4
  | _ => false

/-- Whether an expression is a literal that ends in a point. -/
def endsInPoint : Expression → Bool
  | .atom (.literal text) _ => text.toList.getLast? == some '.'
  | _ => false

/-- Whether an expression is a literal of one value, many of which fit on a line. -/
def isSimple : Expression → Bool
  | .atom (.literal text) _ =>
    match Literal.kind text with
    | .byte => true
    | .character => true
    | .integer => true
    | .truth => true
    | _ => false
  | .attributed _ e => isSimple e
  | _ => false

/-- The operators that change what is on their left. -/
def updates : List String := ["+=", "-=", "*=", "/=", "%=", "^=", "&=", "|=", "<<=", ">>="]

/-- Whether an expression that ends a block is written as a statement, for it has no value. -/
def addsSemicolon : Expression → Bool
  | .assign .. => true
  | .jump .. => true
  | .binary _ operator _ => updates.contains operator
  | .attributed _ e => addsSemicolon e
  | _ => false

/-- Whether a semicolon after an expression says nothing. -/
def dropsSemicolon : Expression → Bool
  | .atom (.loop isEndless) _ => !isEndless
  | .atom (.choice isTotal) _ => !isTotal
  | .attributed _ e => dropsSemicolon e
  | _ => false

/-- Whether an expression is read the same as a statement. -/
def readsAsStatement : Expression → Bool
  | .binding .. => false
  | .field e _ => readsAsStatement e
  | .methodCall e _ _ _ => readsAsStatement e
  | .await e => readsAsStatement e
  | .attempt e => readsAsStatement e
  | .assign e _ => e.needsSemicolon && readsAsStatement e
  | .binary e _ _ => e.needsSemicolon && readsAsStatement e
  | .call e _ => e.needsSemicolon && readsAsStatement e
  | .cast e _ _ => e.needsSemicolon && readsAsStatement e
  | .index e _ => e.needsSemicolon && readsAsStatement e
  | .range (some e) _ _ => e.needsSemicolon && readsAsStatement e
  | .attributed _ e => readsAsStatement e
  | _ => true

/-- Whether the last character of an expression is the closing brace of a block. -/
def endsInBrace : Expression → Bool
  | .atom .record _ => true
  | .atom .cases _ => true
  | .atom (.choice _) _ => true
  | .atom (.loop _) _ => true
  | .atom (.invocation delimiter) _ => delimiter = .brace
  | .block .. => true
  | .prefixed _ e => endsInBrace e
  | .binary _ _ e => endsInBrace e
  | .assign _ e => endsInBrace e
  | .cast _ _ ends => ends
  | .range _ _ (some e) => endsInBrace e
  | .binding _ e => endsInBrace e
  | .closure _ _ _ e => endsInBrace e
  | .jump _ _ (some e) => endsInBrace e
  | .attributed _ e => endsInBrace e
  | _ => false

/-- Whether an expression is a range. -/
def isRange : Expression → Bool
  | .range .. => true
  | .attributed _ e => isRange e
  | _ => false

/-- Whether the body of a closure gets braces if it needs a line of its own. -/
def bracesAsBody : Expression → Bool
  | .atom .cases _ => false
  | .call .. => false
  | e => !e.isBlockLike

/-! ## Layout -/

/-- What is around an expression. -/
inductive Place
  /-- Nothing that the expression is the start of; `startsLine` if it is the start of a line. -/
  | whole (startsLine : Bool)
  /-- A further link of the chain that the expression is the start of. -/
  | base (startsLine : Bool)
  /-- The pattern whose case it is. -/
  | arm

/-- Whether a place is the start of a line for an expression. -/
def Place.startsLine (place : Place) (e : Expression) : Bool :=
  match place with
  | .whole startsLine => startsLine
  | .base startsLine => startsLine
  | .arm => e.readsAsStatement

/-- The same place, but for what does not start the line. -/
def Place.inLine : Place → Place
  | .base _ => .base false
  | _ => .whole false

/-- The place of the start of an expression, where both are links of one chain or none. -/
def Place.below (place : Place) (e : Expression) : Place :=
  match place with
  | .base startsLine => .base startsLine
  | _ => .whole (place.startsLine e)

/-- The place of an expression behind its attributes. -/
def Place.behind (place : Place) (e : Expression) : Place :=
  match place with
  | .base _ => .whole false
  | _ => .whole (place.startsLine e)

/-- The layout of a body that is no block. It is put in braces if it needs a line of its own, or in
parentheses where braces would change its meaning. -/
def armBody (e : Expression) (content : List Doc) : List Doc :=
  let opening := if e.readsAsStatement then "\x7b" else "("
  let closing := if e.readsAsStatement then "\x7d" else "),"
  let mark := if e.readsAsStatement && e.addsSemicolon then ";" else ""
  let comma := if e.standsAlone then "" else ","
  [joint, Doc.block ([.gap { before := opening }] ++ content
    ++ [.gap { shift := -indentStep, before := mark, after := closing, otherwise := comma }])]

/-- An expression that is no chain, in a place. -/
def Place.hold (place : Place) (e : Expression) (content : List Doc) : List Doc :=
  match place with
  | .whole _ => content
  | .base _ => [.box (-indentStep) true content]
  | .arm => armBody e content

/-- A chain in a place, at the end of a link that starts with a point. -/
def Place.chain (place : Place) (e : Expression) (content : List Doc) : List Doc :=
  match place with
  | .whole _ => [Doc.block content]
  | .base _ => content
  | .arm => armBody e [Doc.block content]

/-- A chain in a place, at the end of a link that has no point. -/
def Place.link (place : Place) (e : Expression) (content : List Doc) : List Doc :=
  match place with
  | .arm => armBody e content
  | _ => content

/-- What stands between an expression and a point after it. A number that ends in a point itself is
kept apart from it. -/
def breakBefore (startsLine : Bool) (owner : Expression) : List Doc :=
  if startsLine && owner.isShortName then []
  else [.gap { otherwise := if owner.endsInPoint then " " else "" }]

/-- The arguments of a call. A single one with brackets of its own needs no lines of its own. -/
def argumentsDoc (arguments : List Expression) (docs : List (List Doc)) : List Doc :=
  match arguments with
  | [e] => if e.isBlockLike then docs.flatten else commaList docs
  | _ => commaList docs

/-- A block in braces that stands on one line if it is one expression and fits; `sole` is the layout
of that expression. -/
def smallBlock (inner : List Doc) (sole content : Option (List Doc)) : List Doc :=
  match sole with
  | some doc =>
    [.word "\x7b"] ++ outdent ([space] ++ inner ++ [.box 0 false doc, space]) ++ [.word "\x7d"]
  | none =>
    if inner.isEmpty && content.isNone then [.word "\x7b", .word "\x7d"]
    else [.word "\x7b"] ++ outdent ([space] ++ inner ++ content.getD []) ++ [.word "\x7d"]

/-- The last statement of a block that has the value of an expression. -/
def lastStatement (e : Expression) (doc : List Doc) : List Doc :=
  [.box 0 false (doc ++ (if e.addsSemicolon then [.word ";"] else [])), newline]

/-- Braces around statements, each on a line of its own. -/
def bodyDoc (inner content : List Doc) : List Doc :=
  [.word "\x7b", joint, Doc.block (outdent (newlineBetween :: inner ++ content)), .word "\x7d"]

/-- The statements of a block; `doc` is the layout of its only expression, if it consists of one. -/
def statementsOf (sole : Option Expression) (doc : List Doc) (content : Option (List Doc)) :
    List Doc :=
  match sole with
  | some e => lastStatement e doc
  | none => content.getD []

/-- The inputs of a closure between bars. -/
def closureInputs (inputs : List (List Doc)) : List Doc :=
  if inputs.isEmpty then []
  else cutPoint :: (inputs.intersperse [.word ",", space]).flatten

/-- The head of a closure without an output. -/
def closureHead (inputs : List (List Doc)) : List Doc :=
  [Doc.block (outdent ([.word "|"] ++ closureInputs inputs ++ [.word "|", space])), joint]

/-- The head of a closure with an output. -/
def closureHeadTo (inputs : List (List Doc)) (output : List Doc) : List Doc :=
  let last : List Doc := if inputs.isEmpty then [] else [trailingComma]
  [Doc.block ([.word "|"] ++ closureInputs inputs ++ last ++ [.word "|"]), .word " -> "] ++ output
    ++ [.word " ", joint]

/-- The body of a closure without an output. -/
def closureBody (body : Expression) (doc : List Doc) : List Doc :=
  if body.bracesAsBody then
    let opening := if body.readsAsStatement then "\x7b" else "("
    let closing := if body.readsAsStatement then "\x7d" else ")"
    let mark := if body.readsAsStatement && body.addsSemicolon then ";" else ""
    [Doc.block ([.gap { before := opening }] ++ doc
      ++ [.gap { shift := -indentStep, before := mark, after := closing }])]
  else doc

mutual

/-- The layout of an expression in a place. -/
def doc (place : Place) : Expression → List Doc
  | .atom kind content =>
    match place, kind with
    | .arm, .tuple true => bodyDoc [] []
    | place, kind => place.hold (.atom kind content) content
  | .paren inner =>
    place.hold (.paren inner) ([.word "("] ++ doc (.whole false) inner ++ [.word ")"])
  | .field owner name =>
    let e := Expression.field owner name
    let below := Place.base (place.startsLine e)
    place.chain e (doc below owner ++ breakBefore (place.startsLine e) owner
      ++ [.word ".", .word name])
  | .index owner key =>
    let e := Expression.index owner key
    place.link e (doc (place.below e) owner ++ [.word "["] ++ doc (.whole false) key
      ++ [.word "]"])
  | .call function arguments =>
    place.link (.call function arguments) (doc place.inLine function ++ [.word "("]
      ++ argumentsDoc arguments (docs arguments) ++ [.word ")"])
  | .methodCall owner name parameters arguments =>
    let e := Expression.methodCall owner name parameters arguments
    let below := Place.base (place.startsLine e)
    let shift := match place with
      | .base _ => 0
      | _ => if place.startsLine e && owner.isShortName then -indentStep else 0
    place.chain e (doc below owner ++ breakBefore (place.startsLine e) owner
      ++ [.word ".", .word name] ++ parameters
      ++ [.box shift true ([.word "("] ++ argumentsDoc arguments (docs arguments) ++ [.word ")"])])
  | .await owner =>
    let e := Expression.await owner
    let below := Place.base (place.startsLine e)
    place.chain e (doc below owner ++ breakBefore (place.startsLine e) owner ++ [.word ".await"])
  | .attempt owner =>
    let e := Expression.attempt owner
    place.link e (doc (place.below e) owner ++ [.word "?"])
  | .prefixed operator operand =>
    place.hold (.prefixed operator operand) (.word operator :: doc (.whole false) operand)
  | .binary left operator right =>
    place.hold (.binary left operator right)
      [.box indentStep false
        ([.box (-indentStep) false (doc (.whole false) left), space, .word (operator ++ " ")]
          ++ doc (.whole false) right)]
  | .assign target value =>
    place.hold (.assign target value)
      [.box 0 false
        (doc (.whole false) target ++ [.word " = ", joint] ++ doc (.whole false) value)]
  | .cast value type ends =>
    place.hold (.cast value type ends)
      [.box indentStep false
        ([.box (-indentStep) false (doc (.whole false) value), space, .word "as "] ++ type)]
  | .range start isClosed stop =>
    place.hold (.range start isClosed stop)
      (optionDoc (.whole false) start ++ [.word (if isClosed then "..=" else "..")]
        ++ optionDoc (.whole false) stop)
  | .binding pattern value =>
    place.hold (.binding pattern value)
      [.box 0 false
        [.word "let ", .box 0 false pattern, .word " = ", joint,
          .box 0 false (doc (.whole false) value)]]
  | .closure front inputs output body =>
    let inside := doc (.whole false) body
    let content := match output with
      | none => closureHead inputs ++ closureBody body inside
      | some type => closureHeadTo inputs type ++ inside
    place.hold (.closure front inputs output body) [.box 0 false (front ++ content)]
  | .block kind inner sole content =>
    let soleDoc (place : Place) : Option (List Doc) :=
      if sole.isSome then some (optionDoc place sole) else none
    let usual := kind.frontDoc
      ++ [Doc.block (smallBlock inner (soleDoc (.whole true)) content)]
    match place, kind with
    | .arm, .plain none =>
      if inner.isEmpty && sole.isSome then optionDoc .arm sole
      else bodyDoc inner (statementsOf sole (optionDoc (.whole true) sole) content)
    | .arm, .plain label =>
      (BlockKind.plain label).frontDoc
        ++ bodyDoc inner (statementsOf sole (optionDoc (.whole true) sole) content)
    | place, _ => place.hold (.block kind inner sole content) usual
  | .jump kind label value =>
    let target := match label with
      | some name => " " ++ name
      | none => ""
    let result : List Doc :=
      if value.isSome then .word " " :: optionDoc (.whole false) value else []
    place.hold (.jump kind label value) (.word (kind.word ++ target) :: result)
  | .attributed attributes inner =>
    let e := Expression.attributed attributes inner
    match place, inner with
    | .arm, .block (.plain label) inside sole content =>
      (BlockKind.plain label).frontDoc
        ++ bodyDoc inside (statementsOf sole (optionDoc (.whole true) sole) content)
    | place, inner => place.hold e (attributes ++ doc (place.behind e) inner)

/-- The layouts of several expressions. -/
def docs : List Expression → List (List Doc)
  | [] => []
  | e :: rest => doc (.whole false) e :: docs rest

/-- The layout of an expression that may be missing. -/
def optionDoc (place : Place) : Option Expression → List Doc
  | none => []
  | some e => doc place e

end

end Expression

end BotBindings.Code
