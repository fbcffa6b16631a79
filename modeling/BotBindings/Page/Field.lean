import BotBindings.Html.Finder
import BotBindings.Registry.Basic
import BotBindings.Text.Quoted
import BotBindings.TypeExpr.Phrase

/-!
# Field tables

The fields of a definition are the rows of a table. The table of an operation has the columns
Parameter, Type, Required and Description, the one of a type has Field, Type and Description. A row
whose description links to the section on uploads takes uploads, whatever its type says.
-/

namespace BotBindings

open Html

/-- The `id` of the element that holds the reference. -/
def contentId : String := "dev_page_content"

/-- The link that marks a field as taking uploads. -/
def uploadsLink : String := "#sending-files"

/-- Why a page is not a reference. -/
inductive ExtractError
  /-- No element has the id of the content. -/
  | contentNotFound
  /-- A row of a field table has an unexpected number of columns. -/
  | unexpectedTableShape (sectionName : String) (columns : Nat)
  deriving DecidableEq, Repr

/-- The text of an error. -/
def ExtractError.message : ExtractError → String
  | .contentNotFound =>
    "content container <div id=" ++ Text.quoted contentId ++ "> not found in document"
  | .unexpectedTableShape sectionName columns =>
    "unexpected number of columns (" ++ toString columns ++ ") in fields table of section "
      ++ Text.quoted sectionName

/-- What a section defines. -/
inductive SectionKind
  | operation
  | type
  deriving DecidableEq, Repr

/-- The finders that all rows of a table share. -/
structure RowFinders where
  /-- Finds the cells of a row. -/
  cells : Finder := Finder.tag "td"
  /-- Finds the links to the section on uploads. -/
  links : Finder := Finder.tagWithAttribute "a" "href" uploadsLink

/-- The type that a row gives to its field, if `links` finds a link in the description or not. -/
def rowType (links : Finder) (type description : Node) : TypeExpr × Finder :=
  match links.findNext description with
  | (some _, links) => (.inputFile, links)
  | (none, links) => (.ofPhrase type.visibleText, links)

/-- The field of a row, if the row has the columns of the section's kind. -/
def rowField? (kind : SectionKind) (links : Finder) (cells : List Node) :
    Option (FieldDef × Finder) :=
  match kind, cells with
  | .operation, [key, type, required, description] =>
    let (type, links) := rowType links type description
    some (⟨key.visibleText, type, required.visibleText == "Yes"⟩, links)
  | .type, [key, type, description] =>
    let (type, links) := rowType links type description
    some (⟨key.visibleText, type, !description.visibleText.startsWith "Optional"⟩, links)
  | _, _ => none

/-- The rows of a table: those below its first body. -/
def tableRows (table : Node) : List Node :=
  match table.firstTagged? "tbody" with
  | some body => body.allTagged "tr"
  | none => []

/-- Adds the fields of some rows to fields already read. The finders start afresh at each row. -/
def readRows (kind : SectionKind) (sectionName : String) :
    RowFinders → Fields → List Node → Except ExtractError Fields
  | _, fields, [] => .ok fields
  | finders, fields, row :: rows =>
    let (cells, columns) := finders.cells.reset.findAll row
    match rowField? kind finders.links.reset cells with
    | some (field, links) =>
      readRows kind sectionName ⟨columns, links⟩ (fields.insert field.key field) rows
    | none => .error (.unexpectedTableShape sectionName cells.length)

/-- The fields of a table in the named section. -/
def readFields (kind : SectionKind) (sectionName : String) (table : Node) :
    Except ExtractError Fields :=
  readRows kind sectionName {} ∅ (tableRows table)

end BotBindings
