import BotBindings.Code.Expression

/-!
# Patterns

The layout of patterns. A few facts about a pattern are kept with its layout, because the pattern
around it depends on them.
-/

namespace BotBindings.Code

open Doc

/-- A pattern. -/
structure Pattern where
  /-- Its layout. -/
  doc : List Doc
  /-- Whether it is a literal or matches anything. -/
  isPlain : Bool := false
  /-- Whether it stands for all items that are not named. -/
  isRest : Bool := false
  /-- Whether it is a range without a start or without an end. -/
  isOpenRange : Bool := false

/-- A field of a record pattern. -/
structure FieldPattern where
  /-- The attributes of the field. -/
  attributes : List Doc
  /-- The name of the field, unless the pattern gives it. -/
  name : Option String
  /-- The pattern for its value. -/
  pattern : Pattern

namespace Pattern

/-- What is left of a list or a record. -/
def others : Pattern :=
  { doc := [.word ".."], isRest := true }

/-- Matches anything. -/
def any : Pattern :=
  { doc := [.word "_"], isPlain := true }

/-- A pattern that no text is known for. -/
def unwritable : Pattern :=
  { doc := [.unwritable] }

/-- Matches a value. -/
def ofExpression (e : Expression) : Pattern :=
  { doc := e.doc (.whole false)
    isPlain := match e with
      | .atom (.literal _) _ => true
      | _ => false
    isOpenRange := match e with
      | .range none _ _ => true
      | .range _ _ none => true
      | _ => false }

/-- Gives a name to a value, which may have to be of a further pattern. -/
def named (isReference isMutable : Bool) (name : String) (inner : Option Pattern) : Pattern :=
  let front := (if isReference then "ref " else "") ++ (if isMutable then "mut " else "")
  let further : List Doc := match inner with
    | some p => .word " @ " :: p.doc
    | none => []
  { doc := .word (front ++ name) :: further }

/-- Matches a reference to a value. -/
def reference (isMutable : Bool) (inner : Pattern) : Pattern :=
  { doc := .word (if isMutable then "&mut " else "&") :: inner.doc }

/-- A pattern in parentheses. -/
def paren (inner : Pattern) : Pattern :=
  { doc := [.word "("] ++ inner.doc ++ [.word ")"] }

/-- Matches a tuple. A single item keeps its comma if `endsInComma`. -/
def tuple (items : List Pattern) (endsInComma : Bool) : Pattern :=
  let content := match items with
    | [item] =>
      let comma : List Doc := if endsInComma then [.word ","] else []
      [block (cutPoint :: item.doc ++ comma ++ [cutPointBack])]
    | items => commaList (items.map Pattern.doc)
  { doc := [.word "("] ++ content ++ [.word ")"] }

/-- Matches the items of a list. -/
def slice (items : List Pattern) : Pattern :=
  { doc := [.word "["] ++ commaList (items.map Pattern.doc) ++ [.word "]"] }

/-- Matches what was made of items. -/
def variant (path : QualifiedPath) (items : List Pattern) : Pattern :=
  { doc := TypeForm.qualifiedDoc true path ++ [.word "("] ++ commaList (items.map Pattern.doc)
      ++ [.word ")"] }

/-- Matches a record by its fields; `rest` are the attributes of what stands for further fields. -/
def record (path : QualifiedPath) (fields : List FieldPattern) (rest : Option (List Doc)) :
    Pattern :=
  let fieldDoc (f : FieldPattern) : List Doc :=
    let name : List Doc := match f.name with
      | some name => [.word (name ++ ": ")]
      | none => []
    f.attributes ++ name ++ f.pattern.doc
  let others := rest.map fun attributes => attributes ++ [.word ".."]
  { doc :=
      [block (TypeForm.qualifiedDoc true path ++ [.word " \x7b"]
        ++ outdent (fieldList (fields.map fieldDoc) others)), .word "\x7d"] }

/-- Matches what one of several patterns does. -/
def either (cases : List Pattern) : Pattern :=
  let content := (cases.map Pattern.doc).intersperse [space, .word "| "]
  { doc := [.box 0 (cases.any fun p => !p.isPlain) content.flatten] }

/-- A pattern for values of a type. -/
def typed (pattern : Pattern) (type : TypeForm) : Pattern :=
  { doc := pattern.doc ++ [.word ": "] ++ type.doc }

/-- A pattern behind its attributes. -/
def attributed (attributes : List Doc) (pattern : Pattern) : Pattern :=
  { pattern with doc := attributes ++ pattern.doc }

end Pattern

end BotBindings.Code
