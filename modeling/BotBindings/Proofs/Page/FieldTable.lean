import BotBindings.Proofs.Page.Definition
import BotBindings.Proofs.Page.TableShape

/-!
# Field tables

A table is read row by row, and each row is read on its own. A row replaces the field of an earlier
row with its key and leaves it in its place. So the fields of a table come in the order in which
their keys come first, and each field is the one that the last row with its key gives.
-/

namespace BotBindings

open Html

/-- The last of some rows that starts with the given key. -/
def lastRow? (rows : List Node) (key : String) : Option Node :=
  rows.reverse.find? fun row => rowKey row == key

private theorem lastRow?_append_singleton (rows : List Node) (row : Node) (key : String) :
    lastRow? (rows ++ [row]) key = if rowKey row = key then some row else lastRow? rows key := by
  rw [lastRow?, List.reverse_append, List.reverse_singleton, List.singleton_append]
  by_cases h : rowKey row = key
  · rw [List.find?_cons_of_pos (by simpa using h), if_pos h]
  · rw [List.find?_cons_of_neg (by simpa using h), if_neg h, lastRow?]

/-- The fields are those that the rows give. -/
structure FieldsOfRows (kind : SectionKind) (rows : List Node) (fields : Fields) : Prop where
  given : ∀ row ∈ rows, ∃ field, RowGives row kind field
  keys_eq : fields.keys = (rows.map rowKey).eraseDups
  get?_eq_some_iff : ∀ key field, fields.get? key = some field ↔
    ∃ row, lastRow? rows key = some row ∧ RowGives row kind field

private theorem fieldsOfRows_nil (kind : SectionKind) : FieldsOfRows kind [] ∅ where
  given := List.forall_mem_nil _
  keys_eq := rfl
  get?_eq_some_iff key field := by
    constructor
    · intro h
      cases h
    · rintro ⟨row, h, -⟩
      cases h

/-- One more row adds its field, or replaces the field that an earlier row gave under its key. -/
theorem FieldsOfRows.append {kind : SectionKind} {rows : List Node} {fields : Fields}
    (h : FieldsOfRows kind rows fields) {row : Node} {field : FieldDef}
    (hgives : RowGives row kind field) :
    FieldsOfRows kind (rows ++ [row]) (fields.insert field.key field) where
  given := by
    rw [List.forall_mem_append, List.forall_mem_singleton]
    exact ⟨h.given, field, hgives⟩
  keys_eq := by
    rw [OrderedMap.keys_insert, h.keys_eq, hgives.key_eq, List.map_append, List.map_singleton,
      eraseDups_append_singleton]
    simp only [List.mem_eraseDups]
  get?_eq_some_iff key other := by
    rw [OrderedMap.get?_insert, lastRow?_append_singleton, hgives.key_eq]
    by_cases hkey : rowKey row = key
    · rw [if_pos hkey.symm, if_pos hkey]
      constructor
      · intro h
        obtain rfl := Option.some.inj h
        exact ⟨row, rfl, hgives⟩
      · rintro ⟨last, hlast, hother⟩
        obtain rfl := Option.some.inj hlast
        rw [hgives.eq_of_rowGives hother]
    · rw [if_neg (Ne.symm hkey), if_neg hkey]
      exact h.get?_eq_some_iff key other

/-- The fields of some rows followed by others are read from the others. -/
theorem FieldsOfRows.of_readRows {kind : SectionKind} {name : String} {finders : RowFinders}
    (hfinders : finders.Searching) {front rows : List Node} {fields fields' : Fields}
    (hfront : FieldsOfRows kind front fields)
    (h : readRows kind name finders fields rows = .ok fields') :
    FieldsOfRows kind (front ++ rows) fields' := by
  induction rows generalizing finders front fields with
  | nil =>
    cases h
    rwa [List.append_nil]
  | cons row rows ih =>
    rcases hfinders.readRows_cons_cases name fields rows with
      ⟨field, finders', hgives, hfinders', heq⟩ | ⟨-, heq⟩
    · rw [heq] at h
      rw [List.append_cons]
      exact ih hfinders' (hfront.append hgives) h
    · rw [heq] at h
      cases h

/-- A table that is read has, for each key, the field of the last row with that key. -/
theorem fieldsOfRows_of_readFields {kind : SectionKind} {name : String} {table : Node}
    {fields : Fields} (h : readFields kind name table = .ok fields) :
    FieldsOfRows kind (bodyRows table) fields := by
  rw [readFields, tableRows_eq] at h
  exact (fieldsOfRows_nil kind).of_readRows searching_default h

/-- A table that is read has the fields that its rows give. Their keys are those of the rows in the
order in which they come first, and each field is given by the last row with its key. Whatever the
rows around that row hold, in this table or in another one of the kind, the field is the same. -/
theorem readFields_by_rows {kind : SectionKind} {name : String} {table : Node} {fields : Fields}
    (h : readFields kind name table = .ok fields) :
    (∀ row ∈ bodyRows table, ∃ field, RowGives row kind field) ∧
      fields.keys = ((bodyRows table).map rowKey).eraseDups ∧
      (∀ key field, fields.get? key = some field ↔
        ∃ row, lastRow? (bodyRows table) key = some row ∧ RowGives row kind field) ∧
      ∀ otherName other otherFields, readFields kind otherName other = .ok otherFields →
        ∀ key, lastRow? (bodyRows other) key = lastRow? (bodyRows table) key →
          otherFields.get? key = fields.get? key := by
  have hfields := fieldsOfRows_of_readFields h
  refine ⟨hfields.given, hfields.keys_eq, hfields.get?_eq_some_iff, ?_⟩
  intro otherName other otherFields hother key hlast
  have hotherFields := fieldsOfRows_of_readFields hother
  refine Option.ext fun field => ?_
  rw [hotherFields.get?_eq_some_iff, hfields.get?_eq_some_iff, hlast]

/-! ## A table with repeated keys and links -/

/-- A row with a link to some section in its description. -/
def linkedRow (key type href : String) : Node :=
  .element "tr" [] [.element "td" [] [.text key], .element "td" [] [.text type],
    .element "td" [] [.text "More on ", .element "a" [⟨"href", href, false⟩] [.text "files"]]]

/-- A table in which two rows after each other link to the section on uploads and the next one to
another section. One key comes twice, the second time in a table within the table. -/
def mediaTable : Node :=
  fieldTable [tableRow ["id", "Integer", "Optional. Identifier"],
    linkedRow "photo" "String" "#sending-files", linkedRow "video" "String" "#sending-files",
    linkedRow "audio" "String" "#files",
    .element "tr" [] [fieldTable [tableRow ["id", "String", "The identifier"]]]]

/-- Each row is read with finders that start afresh, and the last row with a key counts. -/
theorem readFields_by_rows_mediaTable :
    ∃ fields, readFields .type "Media" mediaTable = .ok fields ∧
      fields.keys = ["id", "photo", "video", "audio"] ∧
      fields.get? "id" = some ⟨"id", .scalar .string, true⟩ ∧
      fields.get? "video" = some ⟨"video", .inputFile, true⟩ ∧
      fields.get? "audio" = some ⟨"audio", .scalar .string, true⟩ := by
  have hread : (readFields .type "Media" mediaTable).isOk = true := by decide +kernel
  cases hfields : readFields .type "Media" mediaTable with
  | error e =>
    rw [hfields] at hread
    cases hread
  | ok fields =>
    obtain ⟨-, hkeys, hget, -⟩ := readFields_by_rows hfields
    refine ⟨fields, rfl, ?_, (hget _ _).mpr ⟨tableRow ["id", "String", "The identifier"], rfl, ?_⟩,
      (hget _ _).mpr ⟨linkedRow "video" "String" "#sending-files", rfl, ?_⟩,
      (hget _ _).mpr ⟨linkedRow "audio" "String" "#files", rfl, ?_⟩⟩
    · rw [hkeys]
      decide +kernel
    · exact .type rfl (by decide +kernel) (fun hlink => absurd hlink (by decide +kernel))
        (fun _ => by decide +kernel) (by decide +kernel)
    · exact .type rfl (by decide +kernel) (fun _ => rfl)
        (fun hlink => absurd (by decide +kernel) hlink) (by decide +kernel)
    · exact .type rfl (by decide +kernel) (fun hlink => absurd hlink (by decide +kernel))
        (fun _ => by decide +kernel) (by decide +kernel)

end BotBindings
