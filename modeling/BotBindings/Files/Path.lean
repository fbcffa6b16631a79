import BotBindings.Text.Split

/-!
# Paths

A path is kept as it was written, because reports name it that way. What it leads to depends only on
its names, the texts between the slashes, and on whether it starts at the root.
-/

namespace BotBindings

/-- A path as it is written. -/
structure Path where
  /-- The written text. -/
  text : String
  deriving DecidableEq, Repr

namespace Path

/-- Whether the path starts at the root. -/
def isAbsolute (path : Path) : Bool :=
  path.text.toList.head? == some '/'

/-- The texts between the slashes. Two slashes in a row have an empty name between them. -/
def names (path : Path) : List String :=
  (Text.split ['/'] path.text.toList).map String.ofList

/-- The names without the empty ones at the end, so that a final slash makes no difference. -/
def trimmedNames (path : Path) : List String :=
  (path.names.reverse.dropWhile (·.isEmpty)).reverse

/-- A path from its names. -/
def ofNames (fromRoot : Bool) (names : List String) : Path :=
  ⟨(if fromRoot then "/" else "") ++ "/".intercalate names⟩

/-- The names that count: empty ones are dropped, and so are single dots except in front. -/
def components (path : Path) : List String :=
  let counts := fun name : String => !name.isEmpty && name != "."
  match path.names with
  | "." :: rest => "." :: rest.filter counts
  | names => names.filter counts

/-- The path and the paths above it, the nearest first, down to a single component. -/
def ancestors (path : Path) : List Path :=
  let components := path.components
  let above := (List.range (components.length - 1)).reverse.map fun i =>
    ofNames path.isAbsolute (components.take (i + 1))
  path :: above

/-- The path of `name` seen from `path`. An absolute name stands for itself. -/
def join (path : Path) (name : String) : Path :=
  if (Path.mk name).isAbsolute then ⟨name⟩
  else if path.text.isEmpty || path.text.toList.getLast? == some '/' then ⟨path.text ++ name⟩
  else ⟨path.text ++ "/" ++ name⟩

end Path

end BotBindings
