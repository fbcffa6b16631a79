import BotBindings.Text.Blank

/-!
# Page trees

A parsed page is a tree of elements and texts. `Node.descendants` lists the elements below a node in
document order, and `Node.visibleText` is what a reader sees of it, with its blanks collapsed. What
a template holds is kept in a fragment: it lies below the template, but not directly below.
-/

namespace BotBindings.Html

/-- An attribute of an element. -/
structure Attribute where
  /-- The name, without the namespace it may belong to. -/
  name : String
  /-- The value, with its references decoded. -/
  value : String
  /-- Whether the name belongs to a namespace, as `xlink:href` does. -/
  qualified : Bool := false
  deriving DecidableEq, Repr

/-- A node of a page. -/
inductive Node
  | text (text : String)
  | element (tag : String) (attributes : List Attribute) (children : List Node)
  /-- What a template holds. -/
  | fragment (children : List Node)

namespace Node

/-- Whether the node is an element. -/
def isElement : Node → Bool
  | .element .. => true
  | _ => false

/-- The tag of an element. No other node has one. -/
def tag? : Node → Option String
  | .element tag _ _ => some tag
  | _ => none

/-- The attributes of an element. -/
def attributes : Node → List Attribute
  | .element _ attributes _ => attributes
  | _ => []

/-- The value of the attribute with the given name. A name that belongs to a namespace is not found
this way. -/
def attribute? (node : Node) (name : String) : Option String :=
  (node.attributes.find? fun a => a.name == name && !a.qualified).map Attribute.value

/-- The nodes directly below. -/
def children : Node → List Node
  | .element _ _ children => children
  | .fragment children => children
  | .text _ => []

/-- The elements directly below, in document order. -/
def childElements (node : Node) : List Node :=
  node.children.filter isElement

mutual

/-- The elements below a node, in document order. The node itself is not among them. -/
def descendants : Node → List Node
  | .text _ => []
  | .element _ _ children => descendantsOfList children
  | .fragment children => descendantsOfList children

/-- The elements among some nodes and below them, in document order. -/
def descendantsOfList : List Node → List Node
  | [] => []
  | .text _ :: rest => descendantsOfList rest
  | .element tag attributes children :: rest =>
    .element tag attributes children
      :: (descendants (.element tag attributes children) ++ descendantsOfList rest)
  | .fragment children :: rest => descendants (.fragment children) ++ descendantsOfList rest

end

mutual

/-- The characters of all texts in a node, in document order. -/
def textChars : Node → List Char
  | .text s => s.toList
  | .element _ _ children => textCharsOfList children
  | .fragment children => textCharsOfList children

/-- The characters of all texts in some nodes, in document order. -/
def textCharsOfList : List Node → List Char
  | [] => []
  | node :: rest => textChars node ++ textCharsOfList rest

end

/-- The text of the whole node with its blanks collapsed. -/
def visibleText (node : Node) : String :=
  Text.collapse (String.ofList node.textChars)

end Node

end BotBindings.Html
