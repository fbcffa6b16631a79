import BotBindings.Html.Node

/-!
# Finders

A finder searches the elements below a node in document order. It counts the matches it has handed
out, and a further search goes on after as many matches, until the count is reset. The count belongs
to the finder and not to the tree that is searched.
-/

namespace BotBindings.Html

/-- A search for elements that can be resumed. -/
structure Finder where
  /-- Which elements match. -/
  accepts : Node → Bool
  /-- How many matches were handed out since the last reset. -/
  yielded : Nat := 0

namespace Finder

/-- Matches elements by tag. -/
def tag (name : String) : Finder where
  accepts node := node.tag? == some name

/-- Matches elements by tag and the exact value of one attribute. -/
def tagWithAttribute (name key value : String) : Finder where
  accepts node := node.tag? == some name && node.attribute? key == some value

/-- All elements below `root` that match, in document order. -/
def hits (f : Finder) (root : Node) : List Node :=
  root.descendants.filter f.accepts

/-- The finder with nothing handed out. -/
def reset (f : Finder) : Finder :=
  { f with yielded := 0 }

/-- The next match below `root`. -/
def findNext (f : Finder) (root : Node) : Option Node × Finder :=
  match (f.hits root)[f.yielded]? with
  | some node => (some node, { f with yielded := f.yielded + 1 })
  | none => (none, f)

/-- All remaining matches below `root`. -/
def findAll (f : Finder) (root : Node) : List Node × Finder :=
  let found := (f.hits root).drop f.yielded
  (found, { f with yielded := f.yielded + found.length })

end Finder

/-- All elements below `root` with the given tag. -/
def Node.allTagged (root : Node) (tag : String) : List Node :=
  ((Finder.tag tag).findAll root).1

/-- The first element below `root` with the given tag. -/
def Node.firstTagged? (root : Node) (tag : String) : Option Node :=
  ((Finder.tag tag).findNext root).1

end BotBindings.Html
