import BotBindings.Text.Split

/-!
# Layout of generated code

A document is a text with places where lines may break. Breaks belong to boxes: a box that fits on
the rest of the line has none of its breaks taken. In a consistent box that does not fit all breaks
are taken, in any other box only those before a piece that does not fit. Lines hold 89 bytes, and at
least 60 bytes beyond the indentation.

How much room a piece needs is measured up to the next place after it where a line may break, so
that closing brackets are never cut off from what they close.
-/

namespace BotBindings.Code

/-- A place where a line may break. -/
structure Gap where
  /-- The number of blanks that stand here if the line does not break. -/
  blanks : Nat := 0
  /-- What the indentation of the next line differs by from that of the box. -/
  shift : Int := 0
  /-- Stands at the end of a line that breaks here. -/
  before : String := ""
  /-- Stands at the start of the new line. -/
  after : String := ""
  /-- Stands here if the line does not break. -/
  otherwise : String := ""
  /-- Whether the gap vanishes at the end of its box. -/
  onlyBetween : Bool := false
  /-- Whether the line never breaks here. -/
  joins : Bool := false

/-- A text with places where lines may break. -/
inductive Doc
  | word (text : String)
  | gap (gap : Gap)
  | box (indent : Int) (consistent : Bool) (content : List Doc)
  /-- A box all of whose breaks are taken if it is wider than `limit`, or does not fit. -/
  | narrow (limit : Nat) (content : List Doc)
  /-- A piece that no text is known for. -/
  | unwritable

namespace Doc

/-- The bytes of a line. -/
def lineWidth : Int := 89

/-- The bytes that a line holds beyond any indentation. -/
def minimumWidth : Int := 60

/-- One step of indentation. -/
def indentStep : Int := 4

/-- More blanks than any line has room for. -/
def beyondAnyLine : Nat := 0xffff

/-- A place where a line breaks if its box does, with nothing there otherwise. -/
def cutPoint : Doc := .gap {}

/-- A place where a line never breaks. -/
def joint : Doc := .gap { joins := true }

/-- A blank, or a new line. -/
def space : Doc := .gap { blanks := 1 }

/-- The end of a line. -/
def newline : Doc := .gap { blanks := beyondAnyLine }

/-- The end of a line before content, if there is any. -/
def newlineBetween : Doc := .gap { blanks := beyondAnyLine, onlyBetween := true }

/-- The end of a line after the content of an indented box. -/
def newlineBack : Doc := .gap { blanks := beyondAnyLine, shift := -indentStep }

/-- A blank before content, if there is any. -/
def spaceBetween : Doc := .gap { blanks := 1, onlyBetween := true }

/-- A box all of whose breaks are taken if it does not fit. -/
def block (content : List Doc) : Doc := .box indentStep true content

/-- The end of an indented list: a new line, after a further comma. -/
def trailingComma : Doc := .gap { shift := -indentStep, before := "," }

/-- The end of an indented list of pieces that takes no comma. -/
def cutPointBack : Doc := .gap { shift := -indentStep }

/-- Pieces separated by commas, in a box of their own. The last one gets a comma if the lines break.
No pieces need no box. -/
def commaList (items : List (List Doc)) : List Doc :=
  if items.isEmpty then []
  else [block (cutPoint :: (items.intersperse [.word ",", space]).flatten ++ [trailingComma])]

/-- The fields between the braces of a record. The last one gets a comma if the lines break, unless
`rest` stands for further fields. -/
def fieldList (fields : List (List Doc)) (rest : Option (List Doc)) : List Doc :=
  let content : List Doc := match rest with
    | some others => (fields.flatMap fun f => f ++ [.word ",", space]) ++ others ++ [space]
    | none =>
      if fields.isEmpty then []
      else (fields.intersperse [.word ",", space]).flatten ++ [.gap { blanks := 1, before := "," }]
  spaceBetween :: content

/-- The pieces, with the break at their end one step less indented. -/
def outdent : List Doc → List Doc
  | [] => []
  | [.gap g] => [.gap { g with shift := g.shift - indentStep }]
  | d :: rest => d :: outdent rest

mutual

/-- Whether every piece of a document has a text. -/
def isWritable : Doc → Bool
  | .word _ => true
  | .gap _ => true
  | .box _ _ content => areWritable content
  | .narrow _ content => areWritable content
  | .unwritable => false

/-- Whether every piece of several documents has a text. -/
def areWritable : List Doc → Bool
  | [] => true
  | d :: rest => isWritable d && areWritable rest

end

/-! ## From documents to marks -/

/-- A document in one dimension. -/
inductive Mark
  | word (text : String)
  | gap (gap : Gap)
  | start (indent : Int) (consistent : Bool)
  | finish
  /-- Nothing, but too wide for any line. -/
  | strain

/-- The room that a mark takes by itself if no line breaks. -/
def Mark.width : Mark → Nat
  | .word text => text.utf8ByteSize
  | .gap g => g.blanks
  | .start _ _ => 0
  | .finish => 0
  | .strain => beyondAnyLine

/-- A list of marks without the last one if that is a gap which stands between things only. -/
def dropLastBetween : List Mark → List Mark
  | [] => []
  | [.gap g] => if g.onlyBetween then [] else [.gap g]
  | m :: rest => m :: dropLastBetween rest

/-- The marks of a box. A box that consists of one gap vanishes. -/
def markBox (indent : Int) (consistent : Bool) (content : List Mark) : List Mark :=
  match content with
  | [.gap _] => []
  | content => .start indent consistent :: dropLastBetween content ++ [.finish]

/-- The content of a box, too wide for any line if it is wider than `limit`. -/
def limitWidth (limit : Nat) (content : List Mark) : List Mark :=
  let width := content.foldl (fun sum mark => sum + mark.width) 0
  if limit < width then content ++ [.strain] else content

mutual

/-- The marks of a document. -/
def marks : Doc → List Mark
  | .word s => [.word s]
  | .gap g => [.gap g]
  | .box indent consistent content => markBox indent consistent (marksOfList content)
  | .narrow limit content => markBox indentStep true (limitWidth limit (marksOfList content))
  | .unwritable => []

/-- The marks of several documents, one after the other. -/
def marksOfList : List Doc → List Mark
  | [] => []
  | d :: rest => marks d ++ marksOfList rest

end

/-! ## Room -/

/-- What is known of the marks after a place: how much room they need, and how much is needed from
the next gap of each enclosing box on, innermost first. -/
structure Ahead where
  /-- The room that all marks from here on need. -/
  total : Nat
  /-- The room from the next gap of each enclosing box on. -/
  gaps : List Nat

/-- Notes for each mark how much room is needed from it up to the next gap after it. -/
def measure : List Mark → List (Mark × Nat) × Ahead
  | [] => ([], ⟨0, [0]⟩)
  | mark :: rest =>
    let (measured, ahead) := measure rest
    match mark with
    | .word s =>
      let width := s.utf8ByteSize
      ((mark, width) :: measured, { ahead with total := ahead.total + width })
    | .gap g =>
      let total := ahead.total + g.blanks
      ((mark, total - ahead.gaps.headD 0) :: measured, ⟨total, total :: ahead.gaps.drop 1⟩)
    | .start _ _ =>
      let outer := ahead.gaps.drop 1
      ((mark, ahead.total - outer.headD 0) :: measured, { ahead with gaps := outer })
    | .finish => ((mark, 0) :: measured, { ahead with gaps := ahead.gaps.headD 0 :: ahead.gaps })
    | .strain => ((mark, 0) :: measured, { ahead with total := ahead.total + beyondAnyLine })

/-! ## Lines -/

/-- An open box. -/
inductive Frame
  /-- The box fits on its line. -/
  | fits
  /-- The box is broken into lines; `outer` is the indentation around it. -/
  | broken (outer : Int) (consistent : Bool)

/-- The state of writing lines. -/
structure Lines where
  /-- What was written, last piece first. -/
  written : List String := []
  /-- The room left on the line. -/
  room : Int := lineWidth
  /-- The indentation of the innermost broken box. -/
  indent : Int := 0
  /-- Blanks to be written before the next word. -/
  pending : Nat := 0
  /-- The open boxes, innermost first. -/
  frames : List Frame := []

namespace Lines

/-- Writes a text on the line. -/
def write (s : Lines) (text : String) : Lines :=
  { s with
    written := text :: String.ofList (List.replicate s.pending ' ') :: s.written
    pending := 0
    room := s.room - text.utf8ByteSize }

/-- Whether the line goes on at a gap after which `needed` bytes follow. -/
def goesOn (s : Lines) (g : Gap) (needed : Nat) : Bool :=
  g.joins || match s.frames with
    | .fits :: _ => true
    | .broken _ true :: _ => false
    | .broken _ false :: _ => needed ≤ s.room
    | [] => needed ≤ s.room

/-- Passes a gap. -/
def gap (s : Lines) (g : Gap) (needed : Nat) : Lines :=
  if s.goesOn g needed then
    let s := { s with room := s.room - g.blanks }
    if g.otherwise.isEmpty then { s with pending := s.pending + g.blanks }
    else
      { s with
        written := g.otherwise :: s.written
        pending := s.pending + g.blanks
        room := s.room - g.otherwise.utf8ByteSize }
  else
    let s := if g.before.isEmpty then s else s.write g.before
    let indent := s.indent + g.shift
    let s := { s with
      written := "\n" :: s.written
      pending := indent.toNat
      room := max (lineWidth - indent) minimumWidth }
    if g.after.isEmpty then s else s.write g.after

/-- Passes a mark. -/
def step (s : Lines) : Mark × Nat → Lines
  | (.word text, _) => s.write text
  | (.gap g, needed) => s.gap g needed
  | (.start indent consistent, needed) =>
    if needed ≤ s.room then { s with frames := .fits :: s.frames }
    else { s with
      frames := .broken s.indent consistent :: s.frames
      indent := s.indent + indent }
  | (.finish, _) =>
    match s.frames with
    | .broken outer _ :: frames => { s with frames := frames, indent := outer }
    | .fits :: frames => { s with frames := frames }
    | [] => s
  | (.strain, _) => s

end Lines

/-- The text of a document. -/
def render (d : Doc) : String :=
  let lines := (measure (marks d)).1.foldl Lines.step {}
  String.join lines.written.reverse

end Doc

end BotBindings.Code
