import BotBindings.Page.Field
import Mathlib.Data.List.Basic

/-!
# The rows of a field table

All rows of a table are read with the same two finders. A finder counts what it has handed out, but
both counts start afresh at each row, so a row is read as if it were the only one. This file says
what a row tells about its field, in terms of the elements below it, and proves that a row is read
as that field or, if it has the wrong number of cells, as an error.
-/

namespace BotBindings

open Html

/-! ## Searches that start afresh -/

/-- The elements below a node that have the given tag, in document order. -/
def Html.Node.taggedBelow (root : Node) (tag : String) : List Node :=
  root.descendants.filter fun node => node.tag? == some tag

private theorem Html.Node.allTagged_eq (root : Node) (tag : String) :
    root.allTagged tag = root.taggedBelow tag := by
  simp [allTagged, Finder.findAll, Finder.hits, Finder.tag, taggedBelow]

namespace Html.Finder

variable {f : Finder}

/-- A finder that has handed out nothing yet finds the first match. -/
theorem findNext_fst (hfresh : f.yielded = 0) (root : Node) :
    (f.findNext root).1 = root.descendants.find? f.accepts := by
  have hfirst : (f.hits root)[f.yielded]? = root.descendants.find? f.accepts := by
    rw [hfresh, ← List.head?_eq_getElem?, hits, List.head?_filter]
  rw [findNext, hfirst]
  cases root.descendants.find? f.accepts <;> rfl

private theorem findAll_fst (hfresh : f.yielded = 0) (root : Node) :
    (f.findAll root).1 = f.hits root := by
  rw [findAll, hfresh, List.drop_zero]

/-- A search changes the count only. -/
@[simp] theorem accepts_findNext (root : Node) : (f.findNext root).2.accepts = f.accepts := by
  rw [findNext]
  split <;> rfl

end Html.Finder

private theorem Html.Node.firstTagged?_eq (root : Node) (tag : String) :
    root.firstTagged? tag = (root.taggedBelow tag).head? := by
  rw [firstTagged?, Finder.findNext_fst rfl, taggedBelow, List.head?_filter]
  rfl

/-! ## Rows and their cells -/

/-- The number of cells in a row of a field table. -/
def SectionKind.columns : SectionKind → Nat
  | .operation => 4
  | .type => 3

/-- The rows below the first body of a table. -/
def bodyRows (table : Node) : List Node :=
  ((table.taggedBelow "tbody").head?.map fun body => body.taggedBelow "tr").getD []

/-- The number of cells below a row. -/
def cellCount (row : Node) : Nat :=
  (row.taggedBelow "td").length

/-- The rows that are read are those below the first body of the table. -/
theorem tableRows_eq (table : Node) : tableRows table = bodyRows table := by
  rw [tableRows, bodyRows, table.firstTagged?_eq]
  cases (table.taggedBelow "tbody").head? with
  | none => rfl
  | some body => exact body.allTagged_eq "tr"

/-! ## What a row says -/

/-- Whether a link to the section on uploads stands in a cell. -/
def LinksToUploads (cell : Node) : Prop :=
  ∃ node ∈ cell.descendants, node.tag? = some "a" ∧ node.attribute? "href" = some "#sending-files"

instance (cell : Node) : Decidable (LinksToUploads cell) :=
  inferInstanceAs (Decidable (∃ node ∈ cell.descendants, _))

/-- What a row says about its field. A row for an operation has four cells and one for a type has
three; the last cell describes the field. -/
inductive RowGives (row : Node) : SectionKind → FieldDef → Prop
  | operation {key type required description : Node} {field : FieldDef}
      (hcells : row.taggedBelow "td" = [key, type, required, description])
      (hkey : field.key = key.visibleText)
      (hlinked : LinksToUploads description → field.type = .inputFile)
      (hunlinked : ¬LinksToUploads description → field.type = .ofPhrase type.visibleText)
      (hrequired : field.required = true ↔ required.visibleText = "Yes") :
      RowGives row .operation field
  | type {key type description : Node} {field : FieldDef}
      (hcells : row.taggedBelow "td" = [key, type, description])
      (hkey : field.key = key.visibleText)
      (hlinked : LinksToUploads description → field.type = .inputFile)
      (hunlinked : ¬LinksToUploads description → field.type = .ofPhrase type.visibleText)
      (hrequired : field.required = true ↔ ¬"Optional".toList <+: description.visibleText.toList) :
      RowGives row .type field

/-- The text of the first cell of a row. -/
def rowKey (row : Node) : String :=
  ((row.taggedBelow "td").head?.map Node.visibleText).getD ""

variable {kind : SectionKind} {row : Node} {field : FieldDef}

/-- The key of a field is what the first cell of its row shows. -/
theorem RowGives.key_eq (h : RowGives row kind field) : field.key = rowKey row := by
  cases h with
  | operation hcells hkey => simp [rowKey, hcells, hkey]
  | type hcells hkey => simp [rowKey, hcells, hkey]

/-- A row that gives a field has as many cells as its kind of table has columns. -/
theorem RowGives.cellCount_eq (h : RowGives row kind field) : cellCount row = kind.columns := by
  cases h with
  | operation hcells => simp [cellCount, hcells, SectionKind.columns]
  | type hcells => simp [cellCount, hcells, SectionKind.columns]

/-- A row says one thing about its field. -/
theorem RowGives.eq_of_rowGives {other : FieldDef} (h : RowGives row kind field)
    (hother : RowGives row kind other) : other = field := by
  have htype : ∀ {type : TypeExpr} {description : Node},
      (LinksToUploads description → field.type = .inputFile) →
      (¬LinksToUploads description → field.type = type) →
      (LinksToUploads description → other.type = .inputFile) →
      (¬LinksToUploads description → other.type = type) → other.type = field.type := by
    intro type description hlinked hunlinked hlinked' hunlinked'
    by_cases hlink : LinksToUploads description
    · rw [hlinked hlink, hlinked' hlink]
    · rw [hunlinked hlink, hunlinked' hlink]
  have hkey := hother.key_eq.trans h.key_eq.symm
  cases h with
  | operation hcells _ hlinked hunlinked hrequired =>
    cases hother with
    | operation hcells' _ hlinked' hunlinked' hrequired' =>
      rw [hcells] at hcells'
      cases hcells'
      rw [FieldDef.mk.injEq]
      exact ⟨hkey, htype hlinked hunlinked hlinked' hunlinked',
        Bool.eq_iff_iff.mpr (hrequired'.trans hrequired.symm)⟩
  | type hcells _ hlinked hunlinked hrequired =>
    cases hother with
    | type hcells' _ hlinked' hunlinked' hrequired' =>
      rw [hcells] at hcells'
      cases hcells'
      rw [FieldDef.mk.injEq]
      exact ⟨hkey, htype hlinked hunlinked hlinked' hunlinked',
        Bool.eq_iff_iff.mpr (hrequired'.trans hrequired.symm)⟩

/-! ## Reading a row -/

/-- The finders of a table search for its cells and links, however many they have handed out. -/
structure RowFinders.Searching (finders : RowFinders) : Prop where
  cells : finders.cells.accepts = (Finder.tag "td").accepts
  links : finders.links.accepts = (Finder.tagWithAttribute "a" "href" uploadsLink).accepts

/-- Finders that were just made search for the cells of a row and for links to uploads. -/
theorem searching_default : RowFinders.Searching {} :=
  ⟨rfl, rfl⟩

/-- A row has a field exactly if it has the right number of cells. -/
theorem rowField?_eq_none_iff {links : Finder} {cells : List Node} :
    rowField? kind links cells = none ↔ cells.length ≠ kind.columns := by
  cases kind with
  | operation =>
    rcases cells with _ | ⟨a, _ | ⟨b, _ | ⟨c, _ | ⟨d, _ | ⟨e, cells⟩⟩⟩⟩⟩ <;>
      simp [rowField?, SectionKind.columns]
  | type =>
    rcases cells with _ | ⟨a, _ | ⟨b, _ | ⟨c, _ | ⟨d, cells⟩⟩⟩⟩ <;>
      simp [rowField?, SectionKind.columns]

namespace RowFinders.Searching

variable {finders : RowFinders} (h : finders.Searching)

include h

private theorem findAll_cells (row : Node) :
    (finders.cells.reset.findAll row).1 = row.taggedBelow "td" := by
  rw [Finder.findAll_fst rfl, Finder.hits, Node.taggedBelow]
  exact congrArg (row.descendants.filter ·) h.cells

/-- The finder of links that starts afresh finds one exactly if there is one. -/
theorem isSome_findNext_links_iff (description : Node) :
    (finders.links.reset.findNext description).1.isSome = true ↔ LinksToUploads description := by
  have haccepts : finders.links.reset.accepts = fun node =>
      node.tag? == some "a" && node.attribute? "href" == some "#sending-files" := h.links
  rw [Finder.findNext_fst rfl, List.find?_isSome, haccepts]
  simp [LinksToUploads]

private theorem rowType_fst (type description : Node) :
    (LinksToUploads description →
      (rowType finders.links.reset type description).1 = .inputFile) ∧
    (¬LinksToUploads description →
      (rowType finders.links.reset type description).1 = .ofPhrase type.visibleText) := by
  rw [← h.isSome_findNext_links_iff, rowType]
  rcases finders.links.reset.findNext description with ⟨_ | link, links⟩ <;> simp

omit h in
private theorem accepts_rowType (links : Finder) (type description : Node) :
    (rowType links type description).2.accepts = links.accepts := by
  rw [← links.accepts_findNext description, rowType]
  rcases links.findNext description with ⟨_ | link, after⟩ <;> rfl

/-- The field that is read is the one that the row gives. -/
theorem rowGives_of_rowField? {found : FieldDef × Finder}
    (hfound : rowField? kind finders.links.reset (row.taggedBelow "td") = some found) :
    RowGives row kind found.1 ∧ found.2.accepts = finders.links.accepts := by
  unfold rowField? at hfound
  split at hfound
  · rename_i key type required description hcells
    cases hfound
    obtain ⟨hlinked, hunlinked⟩ := h.rowType_fst type description
    exact ⟨.operation hcells rfl hlinked hunlinked (by simp), accepts_rowType _ _ _⟩
  · rename_i key type description hcells
    cases hfound
    obtain ⟨hlinked, hunlinked⟩ := h.rowType_fst type description
    refine ⟨.type hcells rfl hlinked hunlinked ?_, accepts_rowType _ _ _⟩
    rw [Bool.not_eq_true', String.startsWith_string_eq_false_iff]
  · cases hfound

/-- Reading the first of some rows adds the field that it gives, and then the others are read with
finders that search for the same. A row with the wrong number of cells ends in an error. -/
theorem readRows_cons_cases (name : String) (fields : Fields) (rows : List Node) :
    (∃ field finders', RowGives row kind field ∧ RowFinders.Searching finders' ∧
      readRows kind name finders fields (row :: rows)
        = readRows kind name finders' (fields.insert field.key field) rows) ∨
    (cellCount row ≠ kind.columns ∧
      readRows kind name finders fields (row :: rows)
        = .error (.unexpectedTableShape name (cellCount row))) := by
  have hcells := h.findAll_cells row
  rw [readRows]
  cases hfound : rowField? kind finders.links.reset (row.taggedBelow "td") with
  | none =>
    refine Or.inr ⟨rowField?_eq_none_iff.mp hfound, ?_⟩
    simp only [hcells, hfound, cellCount]
  | some found =>
    obtain ⟨hgives, haccepts⟩ := h.rowGives_of_rowField? hfound
    refine Or.inl ⟨found.1, ⟨(finders.cells.reset.findAll row).2, found.2⟩, hgives,
      ⟨h.cells, haccepts.trans h.links⟩, ?_⟩
    simp only [hcells, hfound]

end RowFinders.Searching

end BotBindings
