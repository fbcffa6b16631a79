import BotBindings.Code.Pattern

/-!
# Statements

Statements, the blocks they make up, and the expressions that hold blocks, patterns or lists of
expressions. Each is laid out when it is made, because nothing around it looks into it.
-/

namespace BotBindings.Code

open Doc

/-- A statement. -/
inductive Statement
  /-- An expression; `ends` if it has a semicolon. -/
  | expression (e : Expression) (ends : Bool)
  /-- Any other statement. -/
  | other (doc : List Doc)

/-- Statements in braces. -/
structure Block where
  /-- The attributes inside the braces. -/
  inner : List Doc := []
  /-- The expression that the block consists of, if it is a single one. -/
  sole : Option Expression := none
  /-- The layout of the statements, if there are any and they are not one expression. -/
  content : Option (List Doc) := none

namespace Statement

/-- Whether a statement is set off from the one after it. -/
def isComplete : Statement → Bool
  | .expression e ends => ends || !e.needsSemicolon
  | .other _ => true

/-- The layout of a statement. -/
def doc : Statement → List Doc
  | .expression e false => Expression.lastStatement e (e.doc (.whole true))
  | .expression e true =>
    let mark : List Doc := if e.dropsSemicolon then [] else [.word ";"]
    [.box 0 false (e.doc (.whole true) ++ mark), newline]
  | .other content => content

/-- The call of a macro as a statement, with its attributes. -/
def invocation (delimiter : Delimiter) (content : List Doc) (ends : Bool) : Statement :=
  let mark : List Doc := if ends && delimiter ≠ .brace then [.word ";"] else []
  .other (content ++ mark ++ [newline])

/-- Gives names to the parts of a value; `otherwise` runs if the value has other parts. -/
def define (attributes : List Doc) (pattern : Pattern) (value : Option Expression)
    (otherwise : Option Block) : Statement :=
  let front : List Doc := .word "let " :: pattern.doc
  let equals (e : Expression) : List Doc := [.word " = ", joint] ++ e.doc (.whole false)
  match value, otherwise with
  | none, _ => .other (attributes ++ [.box 0 false (front ++ [.word ";"]), newline])
  | some e, none =>
    .other (attributes ++ [.box 0 false (front ++ equals e ++ [.word ";"]), newline])
  | some e, some b =>
    let sole := b.sole.map fun e => e.doc (.whole true)
    .other (attributes ++ [.box 0 false (front ++ equals e ++ [space, .word "else "]), joint,
      block (Expression.smallBlock b.inner sole b.content ++ [.word ";"]), newline])

end Statement

namespace Block

/-- The block of statements. -/
def ofStatements (inner : List Doc) (statements : List Statement) : Block :=
  match statements with
  | [] => { inner }
  | [.expression e false] => { inner, sole := some e }
  | statements => { inner, content := some (statements.flatMap Statement.doc) }

/-- Whether a block has no statements. -/
def isEmpty (b : Block) : Bool :=
  b.sole.isNone && b.content.isNone

/-- The layout of the statements. -/
def lines (b : Block) : List Doc :=
  match b.sole with
  | some e => Expression.lastStatement e (e.doc (.whole true))
  | none => b.content.getD []

/-- The block in braces, on one line if it is one expression and fits. -/
def small (b : Block) : List Doc :=
  Expression.smallBlock b.inner (b.sole.map fun e => e.doc (.whole true)) b.content

end Block

namespace Expression

/-! ## Parts without layout of their own -/

/-- A literal. -/
def literal (text : String) : Expression :=
  .atom (.literal text) [.word text]

/-- A path. -/
def ofPath (path : QualifiedPath) : Expression :=
  let name := match path with
    | .plain (.mk false [.plain name]) => some name
    | _ => none
  .atom (.path name) (TypeForm.qualifiedDoc true path)

/-- A name. -/
def named (name : String) : Expression :=
  ofPath (.plain (.mk false [.plain name]))

/-- What is to be found out. -/
def inferred : Expression :=
  .atom .infer [.word "_"]

/-- The call of a macro. -/
def invocation (name : String) (delimiter : Delimiter) (tokens : List Token) : Expression :=
  .atom (.invocation delimiter) (callDoc name delimiter tokens)

/-- An expression that no text is known for. -/
def unwritable : Expression :=
  .atom .unwritable [.unwritable]

/-- A block of a kind. -/
def ofBlock (kind : BlockKind) (b : Block) : Expression :=
  .block kind b.inner b.sole b.content

/-! ## Lists -/

/-- A tuple. -/
def tuple (items : List Expression) : Expression :=
  .atom (.tuple items.isEmpty) (TypeForm.tupleDoc (docs items))

/-- A list of items. Many simple ones share a line. -/
def array (items : List Expression) : Expression :=
  let content : List Doc :=
    if items.isEmpty then [.word "[]"]
    else if items.all isSimple then
      [Doc.block [.word "[", cutPoint,
        .box 0 false ((docs items).intersperse [.word ",", space]).flatten, trailingComma,
        .word "]"]]
    else [.word "["] ++ commaList (docs items) ++ [.word "]"]
  .atom .array content

/-- A list of equal items. -/
def repeated (item length : Expression) : Expression :=
  .atom .repeated ([.word "["] ++ item.doc (.whole false) ++ [.word "; "]
    ++ length.doc (.whole false) ++ [.word "]"])

/-- A field of a record. Without a value the field is the value of that name. -/
def fieldDoc (attributes : List Doc) (name : String) (value : Option Expression) : List Doc :=
  match value with
  | some e => attributes ++ [.word (name ++ ": "), .box 0 false (e.doc (.whole false))]
  | none => attributes ++ [.word name]

/-- The widest record that stands on one line. -/
def recordWidth : Nat := 34

/-- A record with its fields; `rest` has all further fields. -/
def record (path : QualifiedPath) (fields : List (List Doc)) (rest : Option Expression) :
    Expression :=
  let others := rest.map fun e => .word ".." :: e.doc (.whole false)
  .atom .record
    [.narrow recordWidth
      ([.box (-indentStep) false (TypeForm.qualifiedDoc true path), .word " \x7b"]
        ++ outdent (fieldList fields others)), .word "\x7d"]

/-! ## Cases and conditions -/

/-- An expression before a brace. -/
def conditionDoc (e : Expression) : Doc :=
  .box 0 true (e.doc (.whole false) ++ [if e.mayWrap then space else .word " "])

/-- The layout of a case. -/
def armDoc (attributes : List Doc) (pattern : Pattern) (guard : Option Expression)
    (body : Expression) : List Doc :=
  let condition : List Doc := match guard with
    | some e => .word " if " :: e.doc (.whole false)
    | none => []
  attributes ++ [.box 0 false (pattern.doc ++ condition ++ [.word " => "] ++ body.doc .arm)]

/-- The cases of a value. -/
def casesOf (value : Expression) (inner : List Doc) (arms : List (List Doc)) : Expression :=
  .atom .cases
    [.box 0 false ([.word "match ", conditionDoc value]
      ++ bodyDoc inner (arms.flatMap fun arm => arm ++ [newline]))]

/-- The block of the first condition that holds, or else the last block. -/
def choice (condition : Expression) (first : Block) (others : List (Expression × Block))
    (otherwise : Option Block) : Expression :=
  let test (e : Expression) : List Doc := [.word "if ", .box (-indentStep) true [conditionDoc e]]
  let body : List Doc :=
    if others.isEmpty && otherwise.isNone then
      if first.isEmpty then [.word "\x7b\x7d"]
      else [.word "\x7b"] ++ outdent (newline :: first.lines) ++ [.word "\x7d"]
    else first.small
  let further := others.flatMap fun (e, b) => [.word " else "] ++ test e ++ b.small
  let last : List Doc := match otherwise with
    | some b => .word " else " :: b.small
    | none => []
  .atom (.choice otherwise.isSome) [Doc.block (test condition ++ body ++ further ++ last)]

/-! ## Loops -/

/-- The braces of a loop. -/
def loopBody (b : Block) : List Doc :=
  bodyDoc b.inner b.lines

/-- A loop without an end. -/
def endless (label : Option String) (b : Block) : Expression :=
  .atom (.loop true) [.word (labelText label ++ "loop \x7b"),
    Doc.block (outdent (newlineBetween :: b.inner ++ b.lines)), .word "\x7d"]

/-- A loop that goes on while a condition holds. -/
def whileLoop (label : Option String) (condition : Expression) (b : Block) : Expression :=
  .atom (.loop false)
    ([.word (labelText label ++ "while "), conditionDoc condition] ++ loopBody b)

/-- A loop over items. -/
def forLoop (label : Option String) (pattern : Pattern) (items : Expression) (b : Block) :
    Expression :=
  .atom (.loop false)
    [.box 0 false ([.word (labelText label ++ "for ")] ++ pattern.doc
      ++ [.word " in ", joint, conditionDoc items] ++ loopBody b)]

end Expression

end BotBindings.Code
