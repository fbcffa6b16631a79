import BotBindings.Proofs.Page.Section
import BotBindings.Proofs.ReturnPhrase.Stability
import BotBindings.Proofs.Text.Collapsed

/-!
# What the sections of a name define

The sections of one name together make one entry of the registry: the first of them gives the
description, the last table among them the fields, the last list the subtypes, and the last section
that states a return type gives the return type. This file says so for the entries of a registry
and proves that the changes the reader makes while it goes through a section keep it so.
-/

namespace BotBindings

open Html Section

/-! ## Entries -/

/-- The fields of the last of some tables, or no fields if there is no table. -/
def lastFields (kind : SectionKind) (name : String) (tables : List Node) :
    Except ExtractError Fields :=
  match tables.getLast? with
  | some table => readFields kind name table
  | none => .ok ∅

/-- The texts of the items of a list. -/
def listItems (list : Node) : List String :=
  (list.allTagged "li").map Node.visibleText

/-- The type `d` is what its sections, given in order, say about it. -/
structure TypeDef.DefinedBy (d : TypeDef) (name : String) (parts : List Section) : Prop where
  name_eq : d.name = name
  /-- The first section describes the type. -/
  description_eq : d.description = parts.head?.elim "" Section.description
  /-- The last table lists its fields. -/
  fields_eq : lastFields .type name (parts.flatMap (·.tagged "table")) = .ok d.fields
  /-- The last list names its subtypes. -/
  subtypes_eq : d.subtypes = (parts.flatMap (·.tagged "ul")).getLast?.elim [] listItems

/-- The operation `o` is what its sections, given in order, say about it. -/
structure Operation.DefinedBy (o : Operation) (key : String) (parts : List Section) : Prop where
  key_eq : o.key = key
  /-- The first section describes the operation. -/
  description_eq : o.description = parts.head?.elim "" Section.description
  /-- The last table lists its parameters. -/
  fields_eq : lastFields .operation key (parts.flatMap (·.tagged "table")) = .ok o.fields
  /-- The last section that states a return type gives it. -/
  returnType_eq : o.returnType
    = (parts.filterMap fun part => TypeExpr.returned? part.description).getLast?

/-- The entries of a map are what the sections with a chosen name define, each of them once and in
the order of the first section of its name. -/
structure EntriesDefinedBy {α : Type} (Defined : α → String → List Section → Prop)
    (chosen : String → Bool) (entries : OrderedMap α) (parts : List Section) : Prop where
  keys_eq : entries.keys = ((parts.map Section.name).filter chosen).eraseDups
  definedBy : ∀ {name a}, entries.get? name = some a → Defined a name (named name parts)

/-- The registry `r` is what the sections of a reference, given in order, define. -/
structure Registry.DefinedBy (r : Registry) (parts : List Section) : Prop where
  types : EntriesDefinedBy TypeDef.DefinedBy startsUppercase r.types parts
  operations : EntriesDefinedBy Operation.DefinedBy (!startsUppercase ·) r.operations parts

/-! ## One more element in the last section -/

section Extend

variable {earlier : List Section} {current : Section} {node : Node}

private theorem head?_elim_description_extend :
    (earlier ++ [current.extend [node]]).head?.elim "" Section.description
      = if node.tag? = some "p" ∧ earlier = [] then
          appendParagraph current.description node.visibleText
        else (earlier ++ [current]).head?.elim "" Section.description := by
  cases earlier with
  | nil => by_cases h : node.tag? = some "p" <;> simp [description_extend, h]
  | cons first rest => simp

private theorem flatMap_tagged_extend (tag : String) :
    (earlier ++ [current.extend [node]]).flatMap (·.tagged tag)
      = (earlier ++ [current]).flatMap (·.tagged tag)
        ++ if node.tag? = some tag then [node] else [] := by
  simp [tagged_extend]

private theorem lastFields_extend {kind : SectionKind} {name : String} {fields fields' : Fields}
    (h : lastFields kind name ((earlier ++ [current]).flatMap (·.tagged "table")) = .ok fields)
    (hfields : if node.tag? = some "table" then readFields kind name node = .ok fields'
      else fields' = fields) :
    lastFields kind name ((earlier ++ [current.extend [node]]).flatMap (·.tagged "table"))
      = .ok fields' := by
  rw [flatMap_tagged_extend]
  split at hfields
  · rename_i htag
    simpa [lastFields, htag] using hfields
  · rename_i htag
    simpa [htag, hfields] using h

/-- A type that takes over what the element says is still what its sections say. -/
theorem TypeDef.DefinedBy.extend {d d' : TypeDef} {name : String}
    (h : d.DefinedBy name (earlier ++ [current])) (hname : d'.name = d.name)
    (hdescription : d'.description
      = if node.tag? = some "p" ∧ earlier = [] then
          appendParagraph current.description node.visibleText
        else d.description)
    (hfields : if node.tag? = some "table" then readFields .type name node = .ok d'.fields
      else d'.fields = d.fields)
    (hsubtypes : d'.subtypes
      = if node.tag? = some "ul" then listItems node else d.subtypes) :
    d'.DefinedBy name (earlier ++ [current.extend [node]]) where
  name_eq := hname.trans h.name_eq
  description_eq := by
    rw [hdescription, head?_elim_description_extend, h.description_eq]
  fields_eq := lastFields_extend h.fields_eq hfields
  subtypes_eq := by
    rw [hsubtypes, flatMap_tagged_extend, h.subtypes_eq]
    split <;> simp

/-! ## Return types -/

/-- The description of a section is collapsed: each paragraph is, and they are joined by single
blanks. -/
theorem isCollapsed_description (part : Section) : Text.IsCollapsed part.description.toList := by
  rw [Section.description, String.toList_intercalate]
  refine Text.isCollapsed_intercalate fun text htext => ?_
  obtain ⟨paragraph, hparagraph, rfl⟩ := List.mem_map.mp htext
  obtain ⟨hshown, hne⟩ := List.mem_filter.mp hparagraph
  obtain ⟨node, -, rfl⟩ := List.mem_map.mp hshown
  exact ⟨Text.isCollapsed_collapse _, by simpa using hne⟩

/-- What a description without line breaks says about the return type is not changed by more text.
-/
theorem returned?_append {description : String} {type : TypeExpr}
    (hline : '\n' ∉ description.toList) (h : TypeExpr.returned? description = some type)
    (more : String) : TypeExpr.returned? (description ++ more) = some type := by
  obtain ⟨phrase, hphrase, rfl⟩ := Option.map_eq_some_iff.mp h
  rw [TypeExpr.returned?, String.toList_append, ReturnPhrase.find_append hline hphrase,
    Option.map_some]

/-- A return type that was found does not change with a further paragraph. -/
theorem returned?_appendParagraph {description : String} {type : TypeExpr}
    (hline : '\n' ∉ description.toList) (h : TypeExpr.returned? description = some type)
    (paragraph : String) :
    TypeExpr.returned? (appendParagraph description paragraph) = some type := by
  have hne : description ≠ "" := by
    rintro rfl
    cases h
  by_cases hparagraph : paragraph = ""
  · simpa [appendParagraph, hparagraph] using h
  · rw [appendParagraph, if_neg (by simpa using hparagraph), if_neg (by simpa using hne),
      String.append_assoc]
    exact returned?_append hline h _

private theorem getLast?_filterMap_returned?_extend :
    ((earlier ++ [current.extend [node]]).filterMap
        fun part => TypeExpr.returned? part.description).getLast?
      = if node.tag? = some "p" then
          (TypeExpr.returned? (appendParagraph current.description node.visibleText)).or
            ((earlier ++ [current]).filterMap
              fun part => TypeExpr.returned? part.description).getLast?
        else ((earlier ++ [current]).filterMap
          fun part => TypeExpr.returned? part.description).getLast? := by
  by_cases htag : node.tag? = some "p"
  · simp only [List.filterMap_append, description_extend, htag, if_true, List.filterMap_cons,
      List.filterMap_nil]
    cases hnew : TypeExpr.returned? (appendParagraph current.description node.visibleText) with
    | some type => simp
    | none =>
      have hold : TypeExpr.returned? current.description = none := by
        rw [Option.eq_none_iff_forall_ne_some]
        intro type htype
        rw [returned?_appendParagraph (isCollapsed_description current).newline_not_mem htype]
          at hnew
        cases hnew
      simp [hold]
  · simp [description_extend, htag]

/-- An operation that takes over what the element says is still what its sections say. -/
theorem Operation.DefinedBy.extend {o o' : Operation} {key : String}
    (h : o.DefinedBy key (earlier ++ [current])) (hkey : o'.key = o.key)
    (hdescription : o'.description
      = if node.tag? = some "p" ∧ earlier = [] then
          appendParagraph current.description node.visibleText
        else o.description)
    (hfields : if node.tag? = some "table" then readFields .operation key node = .ok o'.fields
      else o'.fields = o.fields)
    (hreturn : o'.returnType
      = if node.tag? = some "p" then
          (TypeExpr.returned? (appendParagraph current.description node.visibleText)).or
            o.returnType
        else o.returnType) :
    o'.DefinedBy key (earlier ++ [current.extend [node]]) where
  key_eq := hkey.trans h.key_eq
  description_eq := by
    rw [hdescription, head?_elim_description_extend, h.description_eq]
  fields_eq := lastFields_extend h.fields_eq hfields
  returnType_eq := by
    rw [hreturn, getLast?_filterMap_returned?_extend, h.returnType_eq]

end Extend

/-! ## A new section -/

section Declare

variable {parts : List Section}

private theorem flatMap_tagged_append_empty (name tag : String) :
    (parts ++ [Section.empty name]).flatMap (·.tagged tag) = parts.flatMap (·.tagged tag) := by
  simp [tagged, Section.empty]

private theorem head?_append_of_ne_nil (hne : parts ≠ []) (part : Section) :
    (parts ++ [part]).head? = parts.head? := by
  cases parts with
  | nil => exact absurd rfl hne
  | cons first rest => rfl

/-- A further section of the name says nothing as long as its body is empty. -/
theorem TypeDef.DefinedBy.append_empty {d : TypeDef} {name : String}
    (h : d.DefinedBy name parts) (hne : parts ≠ []) :
    d.DefinedBy name (parts ++ [Section.empty name]) where
  name_eq := h.name_eq
  description_eq := by rw [head?_append_of_ne_nil hne, h.description_eq]
  fields_eq := by rw [flatMap_tagged_append_empty, h.fields_eq]
  subtypes_eq := by rw [flatMap_tagged_append_empty, h.subtypes_eq]

/-- A further section of the key says nothing as long as its body is empty. -/
theorem Operation.DefinedBy.append_empty {o : Operation} {key : String}
    (h : o.DefinedBy key parts) (hne : parts ≠ []) :
    o.DefinedBy key (parts ++ [Section.empty key]) where
  key_eq := h.key_eq
  description_eq := by rw [head?_append_of_ne_nil hne, h.description_eq]
  fields_eq := by rw [flatMap_tagged_append_empty, h.fields_eq]
  returnType_eq := by
    have hnone : TypeExpr.returned? (Section.empty key).description = none := rfl
    simp [h.returnType_eq, hnone]

private theorem TypeDef.definedBy_empty (name : String) :
    TypeDef.DefinedBy { name := name } name [Section.empty name] :=
  ⟨rfl, rfl, rfl, rfl⟩

private theorem Operation.definedBy_empty (key : String) :
    Operation.DefinedBy { key := key } key [Section.empty key] :=
  ⟨rfl, rfl, rfl, rfl⟩

end Declare

/-! ## Entries and sections -/

/-- A name at the end of a list is kept as one of its different names if it did not occur before. -/
theorem eraseDups_append_singleton (names : List String) (name : String) :
    (names ++ [name]).eraseDups
      = if name ∈ names then names.eraseDups else names.eraseDups ++ [name] := by
  by_cases h : name ∈ names <;>
    simp [List.eraseDups_append, List.removeAll, List.eraseDups_cons, h]

private theorem named_append_singleton (name : String) (parts : List Section) (part : Section) :
    named name (parts ++ [part])
      = named name parts ++ if part.name = name then [part] else [] := by
  by_cases h : part.name = name <;> simp [named, h]

private theorem named_eq_nil_iff {name : String} {parts : List Section} :
    named name parts = [] ↔ ¬ ∃ part ∈ parts, part.name = name := by
  simp [named]

namespace EntriesDefinedBy

variable {α : Type} {Defined : α → String → List Section → Prop} {chosen : String → Bool}
  {entries : OrderedMap α} {parts : List Section}

/-- There is an entry of a name exactly if some section of the chosen kind has that name. -/
theorem mem_keys_iff (h : EntriesDefinedBy Defined chosen entries parts) {name : String} :
    name ∈ entries.keys ↔ chosen name = true ∧ ∃ part ∈ parts, part.name = name := by
  rw [h.keys_eq, List.mem_eraseDups, List.mem_filter, List.mem_map, and_comm]

/-- An entry is found for a chosen name exactly if there are sections of that name. -/
theorem contains_iff (h : EntriesDefinedBy Defined chosen entries parts) {name : String}
    (hchosen : chosen name = true) : entries.contains name = true ↔ named name parts ≠ [] := by
  rw [OrderedMap.contains_iff, h.mem_keys_iff, and_iff_right hchosen, ne_eq, named_eq_nil_iff,
    not_not]

/-- An entry has a first section. -/
theorem exists_first (h : EntriesDefinedBy Defined chosen entries parts) {name : String} {a : α}
    (ha : entries.get? name = some a) : ∃ first others, named name parts = first :: others := by
  have hpart := (h.mem_keys_iff.mp (OrderedMap.mem_keys_of_get? ha)).2
  exact List.exists_cons_of_ne_nil fun hnil => named_eq_nil_iff.mp hnil hpart

/-- A section with another name does not concern the entries. -/
theorem append_other_iff {part : Section} (hother : chosen part.name = false) :
    EntriesDefinedBy Defined chosen entries (parts ++ [part])
      ↔ EntriesDefinedBy Defined chosen entries parts := by
  have hkeys : (((parts ++ [part]).map Section.name).filter chosen).eraseDups
      = ((parts.map Section.name).filter chosen).eraseDups := by
    simp [hother]
  have hnamed {name : String} (hchosen : chosen name = true) :
      named name (parts ++ [part]) = named name parts := by
    have hne : part.name ≠ name := by
      rintro rfl
      rw [hother] at hchosen
      cases hchosen
    simp [named_append_singleton, hne]
  constructor
  · intro h
    refine ⟨hkeys ▸ h.keys_eq, fun ha => ?_⟩
    rw [← hnamed (h.mem_keys_iff.mp (OrderedMap.mem_keys_of_get? ha)).1]
    exact h.definedBy ha
  · intro h
    refine ⟨hkeys ▸ h.keys_eq, fun ha => ?_⟩
    rw [hnamed (h.mem_keys_iff.mp (OrderedMap.mem_keys_of_get? ha)).1]
    exact h.definedBy ha

/-- Changing the entry of the last section to what the longer section says keeps the entries in step
with the sections. -/
theorem modify {earlier : List Section} {current longer : Section}
    (h : EntriesDefinedBy Defined chosen entries (earlier ++ [current]))
    (hname : longer.name = current.name) {f : α → α}
    (hf : ∀ a, Defined a current.name (named current.name earlier ++ [current]) →
      Defined (f a) current.name (named current.name earlier ++ [longer])) :
    EntriesDefinedBy Defined chosen (entries.modify current.name f) (earlier ++ [longer]) where
  keys_eq := by simpa [hname] using h.keys_eq
  definedBy := by
    intro name a ha
    rw [OrderedMap.get?_modify] at ha
    by_cases hcurrent : name = current.name
    · subst hcurrent
      obtain ⟨old, hold, rfl⟩ := Option.map_eq_some_iff.mp (by simpa using ha)
      have hdefined := h.definedBy hold
      simp only [named_append_singleton, hname, if_true] at hdefined ⊢
      exact hf old hdefined
    · have hdefined := h.definedBy (by simpa [hcurrent] using ha)
      simpa [named_append_singleton, hname, Ne.symm hcurrent] using hdefined

/-- Starting a section of a chosen name keeps the entries in step with the sections. -/
theorem declare (h : EntriesDefinedBy Defined chosen entries parts) {name : String}
    (hchosen : chosen name = true) {new : α} (hnew : Defined new name [Section.empty name])
    (happend : ∀ a, named name parts ≠ [] → Defined a name (named name parts) →
      Defined a name (named name parts ++ [Section.empty name])) :
    EntriesDefinedBy Defined chosen
      (if entries.contains name then entries else entries.insert name new)
      (parts ++ [Section.empty name]) := by
  have hkeys : (((parts ++ [Section.empty name]).map Section.name).filter chosen).eraseDups
      = if name ∈ entries.keys then entries.keys else entries.keys ++ [name] := by
    simp only [List.map_append, List.filter_append, List.map_cons, List.map_nil, name_empty,
      hchosen, List.filter_cons_of_pos, List.filter_nil, eraseDups_append_singleton, h.keys_eq,
      List.mem_eraseDups]
  split
  · rename_i hcontains
    refine ⟨by rw [hkeys, if_pos (OrderedMap.contains_iff.mp hcontains)], fun {other a} ha => ?_⟩
    by_cases hother : name = other
    · subst hother
      have hdefined := happend a ((h.contains_iff hchosen).mp hcontains) (h.definedBy ha)
      simpa [named_append_singleton] using hdefined
    · simpa [named_append_singleton, hother] using h.definedBy ha
  · rename_i hcontains
    refine ⟨by rw [hkeys, OrderedMap.keys_insert], fun {other a} ha => ?_⟩
    rw [OrderedMap.get?_insert] at ha
    by_cases hother : name = other
    · subst hother
      obtain rfl : new = a := by simpa using ha
      have hnone : named name parts = [] := by
        rwa [h.contains_iff hchosen, ne_eq, not_not] at hcontains
      simpa [named_append_singleton, hnone] using hnew
    · simpa [named_append_singleton, hother]
        using h.definedBy (by simpa [Ne.symm hother] using ha)

end EntriesDefinedBy

/-! ## Registries -/

namespace Registry

/-- A registry without entries is defined by no sections. -/
theorem definedBy_empty : Registry.DefinedBy {} [] where
  types := ⟨rfl, fun hd => by cases hd⟩
  operations := ⟨rfl, fun ho => by cases ho⟩

namespace DefinedBy

variable {r : Registry} {parts earlier : List Section} {current : Section} {node : Node}

/-- A part of the current section that changes the type of this name as the section requires keeps
the registry defined by the sections. -/
theorem modifyType (h : r.DefinedBy (earlier ++ [current]))
    (hkind : startsUppercase current.name = true) {f : TypeDef → TypeDef}
    (hf : ∀ d, d.DefinedBy current.name (named current.name earlier ++ [current]) →
      (f d).DefinedBy current.name (named current.name earlier ++ [current.extend [node]])) :
    Registry.DefinedBy { r with types := r.types.modify current.name f }
      (earlier ++ [current.extend [node]]) where
  types := h.types.modify (name_extend current [node]) hf
  operations := by
    rw [EntriesDefinedBy.append_other_iff (by simp [hkind])]
    exact (EntriesDefinedBy.append_other_iff (by simp [hkind])).mp h.operations

/-- A part of the current section that changes the operation of this name as the section requires
keeps the registry defined by the sections. -/
theorem modifyOperation (h : r.DefinedBy (earlier ++ [current]))
    (hkind : startsUppercase current.name = false) {f : Operation → Operation}
    (hf : ∀ o, o.DefinedBy current.name (named current.name earlier ++ [current]) →
      (f o).DefinedBy current.name (named current.name earlier ++ [current.extend [node]])) :
    Registry.DefinedBy { r with operations := r.operations.modify current.name f }
      (earlier ++ [current.extend [node]]) where
  types := by
    rw [EntriesDefinedBy.append_other_iff (by simp [hkind])]
    exact (EntriesDefinedBy.append_other_iff (by simp [hkind])).mp h.types
  operations := h.operations.modify (name_extend current [node]) hf

/-- The heading of a type starts a section of that name, and the type is added unless it is there.
-/
theorem declareType (h : r.DefinedBy parts) {name : String} (hkind : startsUppercase name = true) :
    Registry.DefinedBy
      (if r.types.contains name then r
        else { r with types := r.types.insert name { name := name } })
      (parts ++ [Section.empty name]) := by
  have htypes := h.types.declare hkind (TypeDef.definedBy_empty name)
    fun d hne hd => hd.append_empty hne
  have hoperations : EntriesDefinedBy Operation.DefinedBy (!startsUppercase ·) r.operations
      (parts ++ [Section.empty name]) :=
    (EntriesDefinedBy.append_other_iff (by simp [hkind])).mpr h.operations
  split <;> rename_i hcontains <;> simp only [hcontains] at htypes <;> exact ⟨htypes, hoperations⟩

/-- The heading of an operation starts a section of that name, and the operation is added unless it
is there. -/
theorem declareOperation (h : r.DefinedBy parts) {key : String}
    (hkind : startsUppercase key = false) :
    Registry.DefinedBy
      (if r.operations.contains key then r
        else { r with operations := r.operations.insert key { key := key } })
      (parts ++ [Section.empty key]) := by
  have hoperations := h.operations.declare (by simp [hkind]) (Operation.definedBy_empty key)
    fun o hne ho => ho.append_empty hne
  have htypes : EntriesDefinedBy TypeDef.DefinedBy startsUppercase r.types
      (parts ++ [Section.empty key]) :=
    (EntriesDefinedBy.append_other_iff (by simp [hkind])).mpr h.types
  split <;> rename_i hcontains <;> simp only [hcontains] at hoperations <;>
    exact ⟨htypes, hoperations⟩

end DefinedBy

end Registry

end BotBindings
