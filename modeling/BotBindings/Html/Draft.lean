import BotBindings.Html.Node

/-!
# Draft trees

While a page is read its tree is a draft: elements are moved and get further attributes until the
page ends. A draft numbers its nodes, so that a node keeps its identity while it moves.
`Draft.node?` is the finished tree below a node.
-/

namespace BotBindings.Html

/-- The vocabulary that an element belongs to. -/
inductive Space
  | html
  | svg
  | math
  deriving DecidableEq

/-- The full name of an element. -/
structure Name where
  /-- The vocabulary. -/
  space : Space
  /-- The name within the vocabulary. -/
  tag : String
  deriving DecidableEq

/-- What a draft node is. -/
inductive DraftContent
  | document
  | text (chars : List Char)
  | element (name : Name) (attributes : List Attribute)
  /-- What a template holds. -/
  | fragment

/-- A node of a draft. -/
structure DraftNode where
  /-- What the node is. -/
  content : DraftContent
  /-- The node it lies directly below. -/
  parent : Option Nat := none
  /-- The nodes directly below it. -/
  children : Array Nat := #[]

/-- A tree under construction. The document is node 0. -/
structure Draft where
  /-- The nodes, by number. -/
  nodes : Array DraftNode := #[{ content := .document }]

namespace Draft

/-- The number of the document. -/
def document : Nat := 0

/-- Adds a node that lies below no other. -/
def create (d : Draft) (content : DraftContent) : Nat × Draft :=
  (d.nodes.size, { d with nodes := d.nodes.push { content := content } })

/-- The node that `id` lies directly below. -/
def parent? (d : Draft) (id : Nat) : Option Nat :=
  d.nodes[id]?.bind DraftNode.parent

/-- Takes a node, with all that is below it, out of the tree. -/
def detach (d : Draft) (id : Nat) : Draft :=
  match d.parent? id with
  | none => d
  | some parent =>
    let nodes := d.nodes.modify parent fun node =>
      { node with children := node.children.filter (· ≠ id) }
    { d with nodes := nodes.modify id fun node => { node with parent := none } }

/-- Moves a node below `parent`, after everything that is there. -/
def append (d : Draft) (parent id : Nat) : Draft :=
  let d := d.detach id
  let nodes := d.nodes.modify parent fun node => { node with children := node.children.push id }
  { d with nodes := nodes.modify id fun node => { node with parent := some parent } }

/-- Moves a node directly before `sibling`, which lies below some node. -/
def insertBefore (d : Draft) (sibling id : Nat) : Draft :=
  let d := d.detach id
  match d.parent? sibling with
  | none => d
  | some parent =>
    let insert (children : Array Nat) : Array Nat :=
      (children.toList.flatMap fun child =>
        if child = sibling then [id, child] else [child]).toArray
    let nodes := d.nodes.modify parent fun node => { node with children := insert node.children }
    { d with nodes := nodes.modify id fun node => { node with parent := some parent } }

/-- Moves everything below `source` to the end of what is below `destination`. -/
def moveChildren (d : Draft) (source destination : Nat) : Draft :=
  match d.nodes[source]? with
  | none => d
  | some node => node.children.toList.foldl (fun d child => d.append destination child) d

/-- Adds those attributes to an element whose names it does not have yet. -/
def addAttributes (d : Draft) (id : Nat) (more : List Attribute) : Draft :=
  { d with nodes := d.nodes.modify id fun node =>
      match node.content with
      | .element name attributes =>
        let missing := more.filter fun a => !attributes.any (·.name == a.name)
        { node with content := .element name (attributes ++ missing) }
      | _ => node }

/-- The node that takes what is put into `id`: the fragment of a template, and otherwise the node
itself. -/
def receiver (d : Draft) (id : Nat) : Nat :=
  match (d.nodes[id]?.bind fun node => node.children[0]?) with
  | none => id
  | some first =>
    match d.nodes[first]?.map DraftNode.content with
    | some .fragment => first
    | _ => id

/-- The finished tree of a node, down to the given depth. -/
def nodeTo (d : Draft) : Nat → Nat → Option Node
  | 0, _ => none
  | depth + 1, id =>
    match d.nodes[id]? with
    | none => none
    | some node =>
      match node.content with
      | .document => none
      | .text chars => some (.text (String.ofList chars))
      | .element name attributes =>
        some (.element name.tag attributes (node.children.toList.filterMap (d.nodeTo depth)))
      | .fragment => some (.fragment (node.children.toList.filterMap (d.nodeTo depth)))

/-- The finished tree of a node. No tree is deeper than it has nodes. -/
def node? (d : Draft) (id : Nat) : Option Node :=
  d.nodeTo d.nodes.size id

/-- The first element directly below the document. -/
def root? (d : Draft) : Option Node :=
  match d.nodes[document]? with
  | none => none
  | some node => (node.children.toList.filterMap d.node?).find? Node.isElement

end Draft

end BotBindings.Html
