import BotBindings.Proofs.Page.Extraction
import BotBindings.Proofs.Phrase.Collapsed
import BotBindings.Proofs.Registry.SameContent
import BotBindings.Proofs.ReturnPhrase.Earliest

/-!
# What a registry that was read keeps

Definitions are looked up by name and fields by key, and the pattern for return types goes through
one line only. Both rely on the form in which a registry keeps its texts. This file names that form
and proves that every registry read from a page has it: rows are added to fields of this form one by
one, and everything else is a text that the page shows or a part of one.
-/

namespace BotBindings

open Html Section Text TypeExpr

/-! ## Collapsed texts -/

/-- The names in the expression, at every depth, are collapsed. -/
def TypeExpr.NamesCollapsed (e : TypeExpr) : Prop :=
  ∀ name, Occurs (.named name) e → IsCollapsed name.toList

/-- The texts of the field are collapsed. -/
structure FieldDef.TextsCollapsed (field : FieldDef) : Prop where
  key : IsCollapsed field.key.toList
  type : field.type.NamesCollapsed

/-- The fields are stored under their own keys and their texts are collapsed. -/
structure Fields.Tidy (fields : Fields) : Prop where
  wellKeyed : fields.WellKeyed
  texts : ∀ key field, fields.get? key = some field → field.TextsCollapsed

/-- The texts of the type and of its fields are collapsed. -/
structure TypeDef.Tidy (d : TypeDef) : Prop where
  name : IsCollapsed d.name.toList
  description : IsCollapsed d.description.toList
  subtypes : ∀ subtype ∈ d.subtypes, IsCollapsed subtype.toList
  fields : d.fields.Tidy

/-- The texts of the operation and of its parameters are collapsed, and so are the names that its
return type refers to. -/
structure Operation.Tidy (o : Operation) : Prop where
  key : IsCollapsed o.key.toList
  description : IsCollapsed o.description.toList
  returnType : ∀ type, o.returnType = some type → type.NamesCollapsed
  fields : o.fields.Tidy

private theorem Html.Node.isCollapsed_visibleText (node : Node) :
    IsCollapsed node.visibleText.toList :=
  isCollapsed_collapse _

/-- The names that a text of a page refers to are collapsed. -/
theorem namesCollapsed_ofPhrase {phrase : String} (h : IsSpaced phrase.toList) :
    (ofPhrase phrase).NamesCollapsed :=
  fun _ hname => Phrase.isCollapsed_of_occurs h hname

/-- The return type that a description states refers to collapsed names. -/
theorem namesCollapsed_returned? {description : String} {type : TypeExpr}
    (hdescription : IsSpaced description.toList) (h : returned? description = some type) :
    type.NamesCollapsed := by
  obtain ⟨phrase, hfind, rfl⟩ := Option.map_eq_some_iff.mp h
  obtain ⟨r, -, rfl⟩ := ReturnPhrase.exists_isFirst_of_find hfind
  have hpart : r.phrase <:+: description.toList := by
    refine ⟨r.before ++ r.opening ++ r.gap, r.qualifier ++ " ".toList ++ r.closing ++ r.rest, ?_⟩
    refine Eq.trans ?_ r.eq_append.symm
    simp only [List.append_assoc]
  exact fun _ hname => Phrase.isCollapsed_of_occurs (hdescription.of_infix hpart) hname

/-! ## Fields -/

private theorem namesCollapsed_rowType (links : Finder) (type description : Node) :
    (rowType links type description).1.NamesCollapsed := by
  rw [rowType]
  split
  · intro name hname
    cases hname
  · exact namesCollapsed_ofPhrase type.isCollapsed_visibleText.toIsSpaced

private theorem textsCollapsed_of_rowField? {kind : SectionKind} {links links' : Finder}
    {cells : List Node} {field : FieldDef} (h : rowField? kind links cells = some (field, links')) :
    field.TextsCollapsed := by
  unfold rowField? at h
  split at h
  · cases h
    exact ⟨Node.isCollapsed_visibleText _, namesCollapsed_rowType _ _ _⟩
  · cases h
    exact ⟨Node.isCollapsed_visibleText _, namesCollapsed_rowType _ _ _⟩
  · cases h

private theorem tidy_empty : Fields.Tidy ∅ where
  wellKeyed _ _ h := by cases h
  texts _ _ h := by cases h

/-- A field is added under its own key. -/
theorem Fields.Tidy.insert {fields : Fields} {field : FieldDef} (h : fields.Tidy)
    (hfield : field.TextsCollapsed) : Fields.Tidy (fields.insert field.key field) := by
  have hstored : ∀ key stored, (fields.insert field.key field).get? key = some stored →
      stored.key = key ∧ stored.TextsCollapsed := by
    intro key stored hget
    rw [OrderedMap.get?_insert] at hget
    split at hget
    · rename_i hkey
      obtain rfl := Option.some.inj hget
      exact ⟨hkey.symm, hfield⟩
    · exact ⟨h.wellKeyed key stored hget, h.texts key stored hget⟩
  exact ⟨fun key stored hget => (hstored key stored hget).1,
    fun key stored hget => (hstored key stored hget).2⟩

private theorem tidy_of_readRows {kind : SectionKind} {name : String} {finders : RowFinders}
    {rows : List Node} {fields fields' : Fields} (h : fields.Tidy)
    (hread : readRows kind name finders fields rows = .ok fields') : fields'.Tidy := by
  induction rows generalizing finders fields with
  | nil =>
    cases hread
    exact h
  | cons row rows ih =>
    rw [readRows] at hread
    cases hfield : rowField? kind finders.links.reset (finders.cells.reset.findAll row).1 with
    | none => simp [hfield] at hread
    | some found =>
      simp only [hfield] at hread
      exact ih (h.insert (textsCollapsed_of_rowField? hfield)) hread

private theorem tidy_of_lastFields {kind : SectionKind} {name : String} {tables : List Node}
    {fields : Fields} (h : lastFields kind name tables = .ok fields) : fields.Tidy := by
  rw [lastFields] at h
  split at h
  · exact tidy_of_readRows tidy_empty h
  · cases h
    exact tidy_empty

/-! ## Definitions -/

/-- A section has the name that its heading shows. -/
theorem exists_heading_of_mem_ofNodes {nodes : List Node} {part : Section}
    (h : part ∈ ofNodes nodes) : ∃ node ∈ nodes, sectionName? node = some part.name := by
  induction nodes with
  | nil => cases h
  | cons node nodes ih =>
    have hrest (hmem : part ∈ ofNodes nodes) :
        ∃ heading ∈ node :: nodes, sectionName? heading = some part.name := by
      obtain ⟨heading, hheading, hname⟩ := ih hmem
      exact ⟨heading, List.mem_cons_of_mem node hheading, hname⟩
    rw [ofNodes] at h
    split at h
    · rename_i name hname
      rcases List.mem_cons.mp h with rfl | h
      · exact ⟨node, List.mem_cons_self, hname⟩
      · exact hrest h
    · exact hrest h

/-- The name of a section is a collapsed text that is not empty. -/
theorem name_of_mem_ofNodes {nodes : List Node} {part : Section} (h : part ∈ ofNodes nodes) :
    part.name ≠ "" ∧ IsCollapsed part.name.toList := by
  obtain ⟨node, -, hname⟩ := exists_heading_of_mem_ofNodes h
  simp only [sectionName?, Option.ite_none_right_eq_some, Option.some.injEq] at hname
  obtain ⟨⟨-, -, hne⟩, hname⟩ := hname
  rw [← hname]
  exact ⟨hne, node.isCollapsed_visibleText⟩

private theorem isCollapsed_head?_description (parts : List Section) :
    IsCollapsed (parts.head?.elim "" Section.description).toList := by
  cases parts with
  | nil => exact isCollapsed_of_not_isBlank (by simp)
  | cons part parts => exact isCollapsed_description part

/-- A type that is defined by sections of a collapsed name keeps its texts collapsed. -/
theorem TypeDef.DefinedBy.tidy {d : TypeDef} {name : String} {parts : List Section}
    (h : d.DefinedBy name parts) (hname : IsCollapsed name.toList) : d.Tidy where
  name := h.name_eq ▸ hname
  description := h.description_eq ▸ isCollapsed_head?_description parts
  subtypes := by
    intro subtype hsubtype
    rw [h.subtypes_eq] at hsubtype
    cases hlast : (parts.flatMap (·.tagged "ul")).getLast? with
    | none => simp [hlast] at hsubtype
    | some list =>
      rw [hlast] at hsubtype
      obtain ⟨item, -, rfl⟩ := List.mem_map.mp hsubtype
      exact item.isCollapsed_visibleText
  fields := tidy_of_lastFields h.fields_eq

/-- An operation that is defined by sections of a collapsed name keeps its texts collapsed. -/
theorem Operation.DefinedBy.tidy {o : Operation} {key : String} {parts : List Section}
    (h : o.DefinedBy key parts) (hkey : IsCollapsed key.toList) : o.Tidy where
  key := h.key_eq ▸ hkey
  description := h.description_eq ▸ isCollapsed_head?_description parts
  returnType := by
    intro type htype
    rw [h.returnType_eq] at htype
    obtain ⟨part, -, hreturned⟩ := List.mem_filterMap.mp (List.mem_of_getLast? htype)
    exact namesCollapsed_returned? (isCollapsed_description part).toIsSpaced hreturned
  fields := tidy_of_lastFields h.fields_eq

/-! ## Registries -/

/-- A registry that was read is what some elements of the page define, by their sections. -/
theorem exists_definedBy_of_extractNode {root : Node} {registry : Registry}
    (hok : (extractNode root).result = .ok registry) :
    ∃ nodes, registry.DefinedBy (ofNodes nodes) := by
  cases hcontent : contentOf? root with
  | none =>
    rw [extractNode, hcontent] at hok
    cases hok
  | some content => exact ⟨content.childElements, definedBy_of_extractNode hcontent hok⟩

/-- Every registry that is read from a page has its definitions under their own names, which are not
empty, and their fields under their own keys. An uppercase letter at the start tells types from
operations. All texts that are kept are collapsed, so a description is one line. -/
theorem registry_tidy {root : Node} {registry : Registry}
    (hok : (extractNode root).result = .ok registry) :
    registry.WellKeyed ∧
      (∀ name d, registry.types.get? name = some d →
        d.name = name ∧ name ≠ "" ∧ startsUppercase name = true ∧ d.Tidy ∧
          '\n' ∉ d.description.toList) ∧
      ∀ key o, registry.operations.get? key = some o →
        o.key = key ∧ key ≠ "" ∧ startsUppercase key = false ∧ o.Tidy ∧
          '\n' ∉ o.description.toList := by
  obtain ⟨nodes, h⟩ := exists_definedBy_of_extractNode hok
  have htypes : ∀ name d, registry.types.get? name = some d →
      d.name = name ∧ name ≠ "" ∧ startsUppercase name = true ∧ d.Tidy := by
    intro name d hd
    have hdefined := h.types.definedBy hd
    obtain ⟨hupper, part, hpart, rfl⟩ := h.types.mem_keys_iff.mp (OrderedMap.mem_keys_of_get? hd)
    obtain ⟨hne, hname⟩ := name_of_mem_ofNodes hpart
    exact ⟨hdefined.name_eq, hne, hupper, hdefined.tidy hname⟩
  have hoperations : ∀ key o, registry.operations.get? key = some o →
      o.key = key ∧ key ≠ "" ∧ startsUppercase key = false ∧ o.Tidy := by
    intro key o ho
    have hdefined := h.operations.definedBy ho
    obtain ⟨hupper, part, hpart, rfl⟩ :=
      h.operations.mem_keys_iff.mp (OrderedMap.mem_keys_of_get? ho)
    obtain ⟨hne, hkey⟩ := name_of_mem_ofNodes hpart
    exact ⟨hdefined.key_eq, hne, by simpa using hupper, hdefined.tidy hkey⟩
  refine ⟨⟨?_, ?_, ?_⟩, fun name d hd => ?_, fun key o ho => ?_⟩
  · exact fun name d hd => (htypes name d hd).2.2.2.fields.wellKeyed
  · exact fun key o ho => (hoperations key o ho).1
  · exact fun key o ho => (hoperations key o ho).2.2.2.fields.wellKeyed
  · obtain ⟨hname, hne, hupper, htidy⟩ := htypes name d hd
    exact ⟨hname, hne, hupper, htidy, htidy.description.newline_not_mem⟩
  · obtain ⟨hkey, hne, hupper, htidy⟩ := hoperations key o ho
    exact ⟨hkey, hne, hupper, htidy, htidy.description.newline_not_mem⟩

/-- A page with blanks of all kinds in its texts, and with a paragraph that shows nothing. -/
def untidyPage : Node :=
  let cell (text : String) : Node := .element "td" [] [.text text]
  .element "html" [] [.element "div" [⟨"id", contentId, false⟩]
    [anchoredHeading " User\n Profile ",
      .element "p" [] [.text "A\tuser.\n"], .element "p" [] [.text "\n"],
      .element "p" [] [.text "  Or more."],
      .element "table" [] [.element "tbody" [] [.element "tr" []
        [cell "user\n id", cell "Array of\n Chat  Member", cell "Optional."]]]]]

/-- The texts of that page are kept collapsed. -/
theorem registry_tidy_untidyPage :
    ∃ registry d, (extractNode untidyPage).result = .ok registry ∧
      registry.types.get? "User Profile" = some d ∧ d.name = "User Profile" ∧
      d.description = "A user. Or more." ∧ '\n' ∉ d.description.toList ∧
      d.fields.values.map FieldDef.type = [.array (.named "Chat Member")] ∧ d.Tidy := by
  have hread : ((extractNode untidyPage).result.toOption.bind
      (·.types.get? "User Profile")).map
        (fun d => (d.description, d.fields.values.map FieldDef.type))
      = some ("A user. Or more.", [.array (.named "Chat Member")]) := by decide +kernel
  obtain ⟨d, hread, hshown⟩ := Option.map_eq_some_iff.mp hread
  obtain ⟨registry, hregistry, hd⟩ := Option.bind_eq_some_iff.mp hread
  obtain ⟨hdescription, hfields⟩ := Prod.mk.inj hshown
  have hresult := toOption_eq_some_iff.mp hregistry
  obtain ⟨hname, -, -, htidy, hline⟩ := (registry_tidy hresult).2.1 _ d hd
  exact ⟨registry, d, hresult, hd, hname, hdescription, hline, hfields, htidy⟩

end BotBindings
