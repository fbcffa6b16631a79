import BotBindings.Html.Foreign

/-!
# Page builders

A builder holds a draft tree together with what the rules of page structure depend on: the elements
that are still open, the formatting elements to be continued in further paragraphs, and the mode
that says which rules hold next. The operations here are the vocabulary of those rules.
-/

namespace BotBindings.Html

/-- Which rules of page structure hold. -/
inductive Mode
  | initial
  | beforeHtml
  | beforeHead
  | inHead
  | afterHead
  | inBody
  | inText
  | inTable
  | inTableText
  | inCaption
  | inColumnGroup
  | inTableBody
  | inRow
  | inCell
  | inSelect
  | inSelectInTable
  | inTemplate
  | afterBody
  | inFrameset
  | afterFrameset
  | afterAfterBody
  | afterAfterFrameset
  deriving DecidableEq

/-- An element that is open. -/
structure OpenElement where
  /-- Its number in the draft. -/
  id : Nat
  /-- Its name. -/
  name : Name

/-- An entry of the list of formatting elements. -/
inductive Formatting
  /-- The start of a cell, a caption or the like, which ends all formatting before it. -/
  | marker
  | element (id : Nat) (tag : StartTag)

/-- What the rules of page structure are given: a tag, a run of characters of one class, or the end
of the page. -/
inductive Piece
  | null
  /-- A run of blanks. -/
  | blank (chars : List Char)
  /-- A run of other characters. -/
  | chars (chars : List Char)
  | startTag (tag : StartTag)
  | endTag (name : String)
  | finish

/-- A page under construction. -/
structure Builder where
  /-- The tree built so far. -/
  draft : Draft := {}
  /-- The rules that hold. -/
  mode : Mode := .initial
  /-- The rules that hold again after text. -/
  returnMode : Mode := .initial
  /-- The rules for the content of the open templates, innermost first. -/
  templateModes : List Mode := []
  /-- The open elements, innermost first. -/
  opened : List OpenElement := []
  /-- The formatting elements, latest first. -/
  formatting : List Formatting := []
  /-- The head of the page. -/
  head? : Option Nat := none
  /-- The form that is open. -/
  form? : Option Nat := none
  /-- Whether a set of frames may still replace the body. -/
  framesetAllowed : Bool := true
  /-- Whether misplaced content of a table goes before the table. -/
  fostering : Bool := false
  /-- Whether a newline that comes next is dropped. -/
  dropNewline : Bool := false
  /-- Whether a mark of the byte order that comes next is dropped. -/
  dropMark : Bool := false
  /-- Whether the page has the layout of older pages. -/
  legacy : Bool := false
  /-- Whether the page is the content of a body and not a whole page. -/
  isFragment : Bool := false
  /-- The text of a table whose place is not decided yet, latest run first. -/
  tableText : List Piece := []
  /-- How the text that follows is to be read. -/
  lexing : Lexing := .markup

/-- What a rule leaves to be done. -/
inductive Outcome
  | done
  /-- The piece goes to the rules of another mode. -/
  | again (mode : Mode) (piece : Piece)

/-- A step of building a page. -/
abbrev Build := StateM Builder

/-- The runs of a text. -/
def Piece.ofChars : List Char → List Piece
  | [] => []
  | c :: rest =>
    let more := Piece.ofChars rest
    if c = '\x00' then .null :: more
    else if Token.isSeparator c || c = '\r' then
      match more with
      | .blank run :: more => .blank (c :: run) :: more
      | more => .blank [c] :: more
    else
      match more with
      | .chars run :: more => .chars (c :: run) :: more
      | more => .chars [c] :: more

namespace Builder

/-- The innermost open element. -/
def current? (b : Builder) : Option OpenElement :=
  b.opened.head?

/-- Whether the innermost open element belongs to a set. -/
def currentIn (b : Builder) (set : TagSet) : Bool :=
  b.current?.any fun e => set e.name

/-- Whether the innermost open element has the given tag. -/
def currentIs (b : Builder) (tag : String) : Bool :=
  b.currentIn (.of [tag])

/-- Whether an element is open that satisfies `p`, and none of the barrier comes before it. -/
def inScopeOf (barrier : TagSet) (p : OpenElement → Bool) : List OpenElement → Bool
  | [] => false
  | e :: rest => p e || (!barrier e.name && inScopeOf barrier p rest)

/-- Whether an element of a set is open within the barrier. -/
def inScope (b : Builder) (barrier set : TagSet) : Bool :=
  inScopeOf barrier (fun e => set e.name) b.opened

/-- Whether an element with the given tag is open within the barrier. -/
def hasOpen (b : Builder) (barrier : TagSet) (tag : String) : Bool :=
  b.inScope barrier (.of [tag])

/-- Whether a template is open. -/
def inTemplate (b : Builder) : Bool :=
  b.opened.any fun e => TagSet.of ["template"] e.name

/-- The outermost open element. -/
def root? (b : Builder) : Option OpenElement :=
  b.opened.getLast?

/-- The body of the page, if it is open. -/
def body? (b : Builder) : Option OpenElement :=
  (b.opened.reverse[1]?).filter fun e => TagSet.of ["body"] e.name

/-- A place for a new node. -/
inductive Place
  /-- After everything below a node. -/
  | lastIn (id : Nat)
  /-- Before a table, or last in the element around it if the table has no place of its own. -/
  | beforeTable (table around : Nat)

/-- The place before the innermost open table. -/
def fosterPlace : List OpenElement → Option Place
  | [] => none
  | [e] => some (.lastIn e.id)
  | e :: around :: rest =>
    if TagSet.of ["template"] e.name then some (.lastIn e.id)
    else if TagSet.of ["table"] e.name then some (.beforeTable e.id around.id)
    else fosterPlace (around :: rest)

/-- The place for a new node within `target`. -/
def placeIn (b : Builder) (target : OpenElement) : Place :=
  if b.fostering && TagSet.tablePart target.name then
    (fosterPlace b.opened).getD (.lastIn target.id)
  else .lastIn target.id

/-- Puts a node into its place. -/
def put (b : Builder) (place : Place) (id : Nat) : Builder :=
  match place with
  | .lastIn parent => { b with draft := b.draft.append (b.draft.receiver parent) id }
  | .beforeTable table around =>
    match b.draft.parent? table with
    | some _ => { b with draft := b.draft.insertBefore table id }
    | none => { b with draft := b.draft.append around id }

/-- The mode in which the content of the innermost structural element is read. -/
def resumedMode (b : Builder) : Mode :=
  let isTag (e : OpenElement) (tags : List String) : Bool := TagSet.of tags e.name
  let rec search : List OpenElement → Mode
    | [] => .inBody
    | e :: outer =>
      let last := outer.isEmpty
      if last && b.isFragment then .inBody
      else if isTag e ["select"] then
        match outer.find? fun e => isTag e ["template", "table"] with
        | some e => if isTag e ["table"] then .inSelectInTable else .inSelect
        | none => .inSelect
      else if isTag e ["td", "th"] && !last then .inCell
      else if isTag e ["tr"] then .inRow
      else if isTag e ["tbody", "thead", "tfoot"] then .inTableBody
      else if isTag e ["caption"] then .inCaption
      else if isTag e ["colgroup"] then .inColumnGroup
      else if isTag e ["table"] then .inTable
      else if isTag e ["template"] then b.templateModes.headD .inBody
      else if isTag e ["head"] && !last then .inHead
      else if isTag e ["body"] then .inBody
      else if isTag e ["frameset"] then .inFrameset
      else if isTag e ["html"] then if b.head?.isSome then .afterHead else .beforeHead
      else search outer
  search b.opened

/-- Whether a formatting entry ends the search for formatting to be continued. -/
def isSettled (b : Builder) : Formatting → Bool
  | .marker => true
  | .element id _ => b.opened.any (·.id = id)

/-- The formatting entries since the last marker. -/
def recentFormatting (b : Builder) : List Formatting :=
  b.formatting.takeWhile fun
    | .marker => false
    | .element .. => true

end Builder

/-! ## Steps -/

/-- Closes the innermost open element. -/
def pop : Build Unit :=
  modify fun b => { b with opened := b.opened.drop 1 }

/-- Closes elements until the innermost one belongs to a set. -/
def popUntilCurrent (set : TagSet) : Build Unit :=
  modify fun b => { b with opened := b.opened.dropWhile fun e => !set e.name }

/-- Closes elements up to and including the first one of a set. -/
def popThrough (set : TagSet) : Build Unit :=
  modify fun b => { b with opened := (b.opened.dropWhile fun e => !set e.name).drop 1 }

/-- Closes elements up to and including the first one with the given tag. -/
def popThroughTag (tag : String) : Build Unit :=
  popThrough (.of [tag])

/-- Closes elements of a set as long as the innermost one belongs to it. -/
def popWhile (set : TagSet) : Build Unit :=
  modify fun b => { b with opened := b.opened.dropWhile fun e => set e.name }

/-- Closes elements whose end tag may be left out, except those with the given tag. -/
def popImpliedExcept (tag : String) : Build Unit :=
  popWhile fun name => TagSet.impliedEnd name && !TagSet.of [tag] name

/-- Closes an element, wherever it is among the open ones. -/
def removeOpen (id : Nat) : Build Unit :=
  modify fun b => { b with opened := b.opened.filter (·.id ≠ id) }

/-- Goes on with the rules of a mode. -/
def setMode (mode : Mode) : Build Unit :=
  modify fun b => { b with mode := mode }

/-- Forbids that a set of frames replaces the body. -/
def forbidFrameset : Build Unit :=
  modify fun b => { b with framesetAllowed := false }

/-- A new element below no other. A template gets a fragment for what it holds. -/
def createElement (name : Name) (attributes : List Attribute) : Build OpenElement :=
  modifyGet fun b =>
    let (id, draft) := b.draft.create (.element name attributes)
    let draft :=
      if TagSet.of ["template"] name then
        let (fragment, draft) := draft.create .fragment
        draft.append id fragment
      else draft
    (⟨id, name⟩, { b with draft := draft })

/-- Puts a node into the innermost open element. -/
def place (id : Nat) : Build Unit :=
  modify fun b =>
    match b.current? with
    | some target => b.put (b.placeIn target) id
    | none => b

/-- Adds an element to the innermost open one, without opening it. -/
def insertClosed (name : Name) (attributes : List Attribute) : Build OpenElement := do
  let e ← createElement name attributes
  place e.id
  pure e

/-- Opens an element. -/
def push (e : OpenElement) : Build Unit :=
  modify fun b => { b with opened := e :: b.opened }

/-- Adds an element to the innermost open one and opens it. -/
def insertOpen (name : Name) (attributes : List Attribute) : Build OpenElement := do
  let e ← insertClosed name attributes
  push e
  pure e

/-- Adds and opens the element of a start tag. -/
def insertTag (tag : StartTag) : Build Unit :=
  discard <| insertOpen ⟨.html, tag.name⟩ tag.attributes

/-- Adds the element of a start tag that has no content. -/
def insertVoid (tag : StartTag) : Build Unit :=
  discard <| insertClosed ⟨.html, tag.name⟩ tag.attributes

/-- Adds and opens an element that the page does not spell out. -/
def insertImplied (tag : String) : Build OpenElement :=
  insertOpen ⟨.html, tag⟩ []

/-- Adds a text to the innermost open element. -/
def insertText (chars : List Char) : Build Unit := do
  let id ← modifyGet fun b =>
    let (id, draft) := b.draft.create (.text chars)
    (id, { b with draft := draft })
  place id

/-- Creates the outermost element. -/
def insertRoot (attributes : List Attribute) : Build Unit := do
  let e ← createElement ⟨.html, "html"⟩ attributes
  modify fun b => { b with draft := b.draft.append Draft.document e.id }
  push e

/-- Gives the outermost element the attributes it does not have yet. -/
def mergeRootAttributes (tag : StartTag) : Build Unit :=
  modify fun b =>
    match if b.inTemplate then none else b.root? with
    | some root => { b with draft := b.draft.addAttributes root.id tag.attributes }
    | none => b

/-- Adds the element of a start tag whose content is text. -/
def insertTextElement (tag : StartTag) (lexing : Lexing) : Build Unit := do
  insertTag tag
  modify fun b => { b with lexing := lexing, returnMode := b.mode, mode := .inText }

/-- Closes the innermost open paragraph, with everything in it. -/
def closeParagraph : Build Unit := do
  popImpliedExcept "p"
  popThroughTag "p"

/-- Closes an open paragraph that a block ends. -/
def closeOpenParagraph : Build Unit := do
  if (← get).hasOpen .buttonBarrier "p" then closeParagraph

/-! ## Formatting -/

/-- Ends the formatting since the last marker. -/
def clearFormatting : Build Unit :=
  modify fun b => { b with formatting := b.formatting.drop (b.recentFormatting.length + 1) }

/-- Starts a stretch with formatting of its own. -/
def pushMarker : Build Unit :=
  modify fun b => { b with formatting := .marker :: b.formatting }

/-- Reopens formatting entries, given from the earliest to the latest; the result lists the new
entries from the latest to the earliest. -/
def reopen : List Formatting → List Formatting → Build (List Formatting)
  | reopened, [] => pure reopened
  | reopened, .marker :: rest => reopen (.marker :: reopened) rest
  | reopened, .element _ tag :: rest => do
    let e ← insertOpen ⟨.html, tag.name⟩ tag.attributes
    reopen (.element e.id tag :: reopened) rest

/-- Continues the formatting that was cut off by the end of an element. -/
def continueFormatting : Build Unit := do
  let b ← get
  let unsettled := b.formatting.takeWhile (!b.isSettled ·)
  let reopened ← reopen [] unsettled.reverse
  modify fun b => { b with formatting := reopened ++ b.formatting.drop unsettled.length }

/-- Whether two start tags have the same name and the same attributes in any order. -/
def StartTag.sameAs (a b : StartTag) : Bool :=
  a.name == b.name && a.attributes.length == b.attributes.length
    && a.attributes.all b.attributes.contains

/-- Removes the earliest of the recent entries for the same tag if there are three already. -/
def limitFormatting (tag : StartTag) (entries : List Formatting) : List Formatting :=
  let recent := entries.takeWhile fun
    | .marker => false
    | .element .. => true
  let same : Formatting → Bool
    | .marker => false
    | .element _ other => tag.sameAs other
  if recent.countP same < 3 then entries
  else
    let older := recent.reverse
    let kept := older.takeWhile (!same ·) ++ (older.dropWhile (!same ·)).drop 1
    kept.reverse ++ entries.drop recent.length

/-- Opens a formatting element. -/
def insertFormatting (tag : StartTag) : Build Unit := do
  modify fun b => { b with formatting := limitFormatting tag b.formatting }
  let e ← insertOpen ⟨.html, tag.name⟩ tag.attributes
  modify fun b => { b with formatting := .element e.id tag :: b.formatting }

/-- Whether a formatting entry is for the given element. -/
def Formatting.isFor (id : Nat) : Formatting → Bool
  | .marker => false
  | .element other _ => other = id

/-- Drops the entry for an element. -/
def removeFormatting (id : Nat) : Build Unit :=
  modify fun b => { b with formatting := b.formatting.filter (!Formatting.isFor id ·) }

end BotBindings.Html
