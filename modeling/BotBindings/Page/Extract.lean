import BotBindings.Html.Parse
import BotBindings.Page.Event
import BotBindings.Page.Field
import BotBindings.TypeExpr.ReturnPhrase

/-!
# Reading the reference

The reference is a flat list of elements. A definition starts at a heading that carries an anchor,
and everything up to the next heading or rule belongs to it: paragraphs that describe it, a table of
its fields, and the list of subtypes of an abstract type. A name that starts with an uppercase
letter is the name of a type and any other is the key of an operation.

Where a name is defined twice, the first section gives the description and the last table gives the
fields. Reading stops at the first table that does not have the shape of a field table.
-/

namespace BotBindings

open Html

/-- The section that the reader is in. -/
inductive Scope
  | outside
  | within (kind : SectionKind) (name : String)
  deriving DecidableEq, Repr

/-- The section that a heading opens. -/
def Scope.ofHeading (heading : String) : Scope :=
  if startsUppercase heading then .within .type heading
  else if heading.isEmpty then .outside
  else .within .operation heading

/-- The state of reading a reference. -/
structure Reading where
  /-- The definitions read so far. -/
  registry : Registry := {}
  /-- The section that is being read. -/
  scope : Scope := .outside
  /-- Whether this section is the first one of its name. -/
  isFirst : Bool := false
  /-- The paragraphs of this section. -/
  description : String := ""
  /-- What happened so far, in order. -/
  events : List Event := []

/-- Whether an element marks a heading as the start of a definition. -/
def isSectionAnchor (node : Node) : Bool :=
  node.tag? == some "a" && node.attribute? "class" == some "anchor"
    && !((node.attribute? "name").getD "").toList.contains '-'

/-- Whether a heading starts a definition. -/
def hasSectionAnchor (heading : Node) : Bool :=
  heading.descendants.any isSectionAnchor

/-- A description with one more paragraph. -/
def appendParagraph (description paragraph : String) : String :=
  if paragraph.isEmpty then description
  else if description.isEmpty then paragraph
  else description ++ " " ++ paragraph

namespace Reading

/-- Reports an event. -/
def report (s : Reading) (event : Event) : Reading :=
  { s with events := s.events ++ [event] }

/-- Starts the section of a type. -/
def enterType (s : Reading) (name : String) : Reading :=
  let s := s.report (.typeSection name)
  if s.registry.types.contains name then
    { s.report (.repeatedType name) with isFirst := false }
  else
    let types := s.registry.types.insert name { name := name }
    { s with registry := { s.registry with types := types }, isFirst := true }

/-- Starts the section of an operation. -/
def enterOperation (s : Reading) (key : String) : Reading :=
  let s := s.report (.operationSection key)
  if s.registry.operations.contains key then
    { s.report (.repeatedOperation key) with isFirst := false }
  else
    let operations := s.registry.operations.insert key { key := key }
    { s with registry := { s.registry with operations := operations }, isFirst := true }

/-- Reads a heading. -/
def heading (s : Reading) (node : Node) : Reading :=
  let scope := if hasSectionAnchor node then Scope.ofHeading node.visibleText else .outside
  let s := { s with scope := scope, isFirst := false, description := "" }
  match scope with
  | .outside => s
  | .within .type name => s.enterType name
  | .within .operation name => s.enterOperation name

/-- Changes the type whose section is being read. -/
def modifyType (s : Reading) (name : String) (f : TypeDef → TypeDef) : Reading :=
  { s with registry := { s.registry with types := s.registry.types.modify name f } }

/-- Changes the operation whose section is being read. -/
def modifyOperation (s : Reading) (key : String) (f : Operation → Operation) : Reading :=
  { s with registry := { s.registry with operations := s.registry.operations.modify key f } }

/-- Reads a paragraph. Each paragraph may be the one that completes the return phrase. -/
def paragraph (s : Reading) (node : Node) : Reading :=
  let description := appendParagraph s.description node.visibleText
  let s := { s with description := description }
  match s.scope with
  | .outside => s
  | .within .type name =>
    if s.isFirst then s.modifyType name fun d => { d with description := description } else s
  | .within .operation key =>
    s.modifyOperation key fun operation =>
      let operation :=
        if s.isFirst then { operation with description := description } else operation
      match TypeExpr.returned? description with
      | some type => { operation with returnType := some type }
      | none => operation

/-- Reads a table. -/
def table (s : Reading) (node : Node) : Except ExtractError Reading :=
  match s.scope with
  | .outside => .ok s
  | .within .type name =>
    (readFields .type name node).map fun fields =>
      s.modifyType name fun d => { d with fields := fields }
  | .within .operation key =>
    (readFields .operation key node).map fun fields =>
      s.modifyOperation key fun operation => { operation with fields := fields }

/-- Reads a list. -/
def list (s : Reading) (node : Node) : Reading :=
  match s.scope with
  | .within .type name =>
    let subtypes := (node.allTagged "li").map Node.visibleText
    s.modifyType name fun d => { d with subtypes := subtypes }
  | _ => s

/-- Reads one element of the reference. -/
def step (s : Reading) (node : Node) : Except ExtractError Reading :=
  match node.tag? with
  | some "h3" | some "hr" => .ok { s with scope := .outside }
  | some "h4" => .ok (s.heading node)
  | some "p" => .ok (s.paragraph node)
  | some "table" => s.table node
  | some "ul" => .ok (s.list node)
  | _ => .ok s

/-- Reads the elements of the reference up to the first malformed table. -/
def steps : Reading → List Node → Reading × Option ExtractError
  | s, [] => (s, none)
  | s, node :: nodes =>
    match s.step node with
    | .ok s => steps s nodes
    | .error error => (s, some error)

/-- Reports the outcome of reading a whole reference. -/
def finish (s : Reading) : Reading :=
  let unknown := s.registry.operations.values.filter (·.returnType.isNone)
  let s := unknown.foldl (fun s operation => s.report (.unknownReturnType operation.key)) s
  s.report (.extracted s.registry.types.size s.registry.operations.size)

end Reading

/-- What reading a page came to. -/
structure Extraction where
  /-- What happened, in order. -/
  events : List Event
  /-- The definitions, unless the page is no reference. -/
  result : Except ExtractError Registry

/-- The element that holds the reference. -/
def contentOf? (root : Node) : Option Node :=
  ((Finder.tagWithAttribute "div" "id" contentId).findNext root).1

/-- Reads the reference below the outermost element of a page. -/
def extractNode (root : Node) : Extraction :=
  match contentOf? root with
  | none => ⟨[], .error .contentNotFound⟩
  | some content =>
    match Reading.steps {} content.childElements with
    | (s, some error) => ⟨s.events, .error error⟩
    | (s, none) => ⟨s.finish.events, .ok s.finish.registry⟩

/-- Reads the reference from the text of a page. -/
def extract (page : String) : Extraction :=
  extractNode (parseDocument page)

end BotBindings
