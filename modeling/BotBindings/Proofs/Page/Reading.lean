import BotBindings.Proofs.Page.Definition

/-!
# One pass over the reference

The reader keeps four things while it goes through the reference: the section it is in, whether that
section is the first of its name, the paragraphs so far, and the registry. This file proves that
after any beginning of the reference they are what the sections of that beginning say. Each element
is one step, and the whole pass follows by induction.
-/

namespace BotBindings

open Html Section

namespace Reading

/-! ## What one step does -/

/-- A heading that starts no section leads outside all sections. -/
theorem heading_eq_of_sectionName?_eq_none {node : Node} (htag : node.tag? = some "h4")
    (hname : sectionName? node = none) (s : Reading) :
    s.heading node = { s with scope := .outside, isFirst := false, description := "" } := by
  have hscope : (if hasSectionAnchor node then Scope.ofHeading node.visibleText else .outside)
      = .outside := by
    cases hanchor : hasSectionAnchor node with
    | false => rfl
    | true =>
      have htext : node.visibleText = "" := by simpa [sectionName?, htag, hanchor] using hname
      rw [htext]
      rfl
  simp only [heading, hscope]

/-- The element decides which rule reads it. -/
theorem step_cases {s s' : Reading} {node : Node} (h : s.step node = .ok s') :
    (closesSection node = true ∧ sectionName? node = none ∧ s'.scope = .outside ∧
        s'.registry = s.registry) ∨
      (∃ name, sectionName? node = some name ∧ s' = s.heading node) ∨
      (closesSection node = false ∧ node.tag? = some "p" ∧ s' = s.paragraph node) ∨
      (closesSection node = false ∧ node.tag? = some "table" ∧ s.table node = .ok s') ∨
      (closesSection node = false ∧ node.tag? = some "ul" ∧ s' = s.list node) ∨
      (closesSection node = false ∧ node.tag? ≠ some "p" ∧ node.tag? ≠ some "table" ∧
        node.tag? ≠ some "ul" ∧ s' = s) := by
  unfold step at h
  split at h
  · rename_i htag
    cases h
    exact Or.inl ⟨by simp [closesSection, htag], by simp [sectionName?, htag], rfl, rfl⟩
  · rename_i htag
    cases h
    exact Or.inl ⟨by simp [closesSection, htag], by simp [sectionName?, htag], rfl, rfl⟩
  · rename_i htag
    cases h
    cases hname : sectionName? node with
    | some name => exact Or.inr (Or.inl ⟨name, rfl, rfl⟩)
    | none =>
      rw [heading_eq_of_sectionName?_eq_none htag hname]
      exact Or.inl ⟨by simp [closesSection, htag], rfl, rfl, rfl⟩
  · rename_i htag
    cases h
    exact Or.inr (Or.inr (Or.inl ⟨by simp [closesSection, htag], htag, rfl⟩))
  · rename_i htag
    exact Or.inr (Or.inr (Or.inr (Or.inl ⟨by simp [closesSection, htag], htag, h⟩)))
  · rename_i htag
    cases h
    exact Or.inr (Or.inr (Or.inr (Or.inr (Or.inl ⟨by simp [closesSection, htag], htag, rfl⟩))))
  · rename_i hh3 hhr hh4 hp htable hul
    cases h
    refine Or.inr (Or.inr (Or.inr (Or.inr (Or.inr ⟨?_, hp, htable, hul, rfl⟩))))
    simp_all [closesSection]

private theorem scope_of_sectionName? {node : Node} {name : String}
    (h : sectionName? node = some name) :
    (if hasSectionAnchor node then Scope.ofHeading node.visibleText else .outside)
      = .within (kindOf name) name := by
  simp only [sectionName?, Option.ite_none_right_eq_some, Option.some.injEq] at h
  obtain ⟨⟨-, hanchor, hne⟩, rfl⟩ := h
  rw [if_pos hanchor, Scope.ofHeading, kindOf]
  split
  · rfl
  · rw [if_neg (by simpa using hne)]

/-- What starting the section of a type does to the reader. -/
theorem heading_of_type {node : Node} {name : String} (h : sectionName? node = some name)
    (hkind : startsUppercase name = true) (s : Reading) :
    (s.heading node).scope = .within .type name ∧ (s.heading node).description = "" ∧
      (s.heading node).isFirst = !s.registry.types.contains name ∧
      (s.heading node).registry =
        if s.registry.types.contains name then s.registry
        else { s.registry with types := s.registry.types.insert name { name := name } } := by
  have hscope := scope_of_sectionName? h
  rw [show kindOf name = .type by simp [kindOf, hkind]] at hscope
  simp only [heading, hscope, enterType, report]
  split <;> simp_all

/-- What starting the section of an operation does to the reader. -/
theorem heading_of_operation {node : Node} {key : String} (h : sectionName? node = some key)
    (hkind : startsUppercase key = false) (s : Reading) :
    (s.heading node).scope = .within .operation key ∧ (s.heading node).description = "" ∧
      (s.heading node).isFirst = !s.registry.operations.contains key ∧
      (s.heading node).registry =
        if s.registry.operations.contains key then s.registry
        else { s.registry with operations := s.registry.operations.insert key { key := key } } := by
  have hscope := scope_of_sectionName? h
  rw [show kindOf key = .operation by simp [kindOf, hkind]] at hscope
  simp only [heading, hscope, enterOperation, report]
  split <;> simp_all

/-- What an element within the section of a type does to the reader. -/
theorem step_within_type {s s' : Reading} {node : Node} {name : String}
    (hscope : s.scope = .within .type name) (hcloses : closesSection node = false)
    (h : s.step node = .ok s') :
    s'.scope = s.scope ∧ s'.isFirst = s.isFirst ∧
      s'.description = (if node.tag? = some "p" then
        appendParagraph s.description node.visibleText else s.description) ∧
      ∃ f : TypeDef → TypeDef,
        s'.registry = { s.registry with types := s.registry.types.modify name f } ∧
        ∀ d, (f d).name = d.name ∧
          (f d).description = (if node.tag? = some "p" ∧ s.isFirst = true then
            appendParagraph s.description node.visibleText else d.description) ∧
          (if node.tag? = some "table" then readFields .type name node = .ok (f d).fields
            else (f d).fields = d.fields) ∧
          (f d).subtypes = if node.tag? = some "ul" then listItems node else d.subtypes := by
  rcases step_cases h with ⟨hcloses', -⟩ | ⟨other, hname, -⟩ | ⟨-, htag, rfl⟩ |
    ⟨-, htag, htable⟩ | ⟨-, htag, rfl⟩ | ⟨-, hp, htable, hul, rfl⟩
  · rw [hcloses] at hcloses'
    cases hcloses'
  · rw [closesSection_of_sectionName? hname] at hcloses
    cases hcloses
  · cases hfirst : s.isFirst with
    | false =>
      simp only [paragraph, hscope, htag, hfirst, Bool.false_eq_true, if_false]
      exact ⟨trivial, trivial, by simp, fun d => d, by simp⟩
    | true =>
      simp only [paragraph, hscope, htag, hfirst, if_true, modifyType]
      exact ⟨trivial, trivial, by simp, _, rfl, by simp⟩
  · simp only [table, hscope] at htable
    cases hfields : readFields .type name node with
    | error error => simp [hfields, Except.map] at htable
    | ok fields =>
      obtain rfl : s.modifyType name (fun d => { d with fields := fields }) = s' := by
        simpa [hfields, Except.map] using htable
      exact ⟨rfl, rfl, by simp [modifyType, htag], _, rfl, by simp [htag]⟩
  · simp only [list, hscope, modifyType, htag]
    exact ⟨trivial, trivial, by simp, _, rfl, by simp [listItems]⟩
  · exact ⟨rfl, rfl, by simp [hp], fun d => d, by simp [hp, htable, hul]⟩

/-- What an element within the section of an operation does to the reader. -/
theorem step_within_operation {s s' : Reading} {node : Node} {key : String}
    (hscope : s.scope = .within .operation key) (hcloses : closesSection node = false)
    (h : s.step node = .ok s') :
    s'.scope = s.scope ∧ s'.isFirst = s.isFirst ∧
      s'.description = (if node.tag? = some "p" then
        appendParagraph s.description node.visibleText else s.description) ∧
      ∃ f : Operation → Operation,
        s'.registry = { s.registry with operations := s.registry.operations.modify key f } ∧
        ∀ o, (f o).key = o.key ∧
          (f o).description = (if node.tag? = some "p" ∧ s.isFirst = true then
            appendParagraph s.description node.visibleText else o.description) ∧
          (if node.tag? = some "table" then readFields .operation key node = .ok (f o).fields
            else (f o).fields = o.fields) ∧
          (f o).returnType = if node.tag? = some "p" then
            (TypeExpr.returned? (appendParagraph s.description node.visibleText)).or o.returnType
            else o.returnType := by
  rcases step_cases h with ⟨hcloses', -⟩ | ⟨other, hname, -⟩ | ⟨-, htag, rfl⟩ |
    ⟨-, htag, htable⟩ | ⟨-, htag, rfl⟩ | ⟨-, hp, htable, hul, rfl⟩
  · rw [hcloses] at hcloses'
    cases hcloses'
  · rw [closesSection_of_sectionName? hname] at hcloses
    cases hcloses
  · simp only [paragraph, hscope, htag, modifyOperation]
    refine ⟨trivial, trivial, by simp, _, rfl, fun o => ?_⟩
    cases hfirst : s.isFirst <;>
      cases hreturn : TypeExpr.returned? (appendParagraph s.description node.visibleText) <;> simp
  · simp only [table, hscope] at htable
    cases hfields : readFields .operation key node with
    | error error => simp [hfields, Except.map] at htable
    | ok fields =>
      obtain rfl : s.modifyOperation key (fun o => { o with fields := fields }) = s' := by
        simpa [hfields, Except.map] using htable
      exact ⟨rfl, rfl, by simp [modifyOperation, htag], _, rfl, by simp [htag]⟩
  · simp only [list, hscope, htag]
    exact ⟨trivial, trivial, by simp, fun o => o, by simp⟩
  · exact ⟨rfl, rfl, by simp [hp], fun o => o, by simp [hp, htable]⟩

/-! ## What holds between two steps -/

/-- The reader is in the section that the elements read so far end in, with the paragraphs of that
section and the mark of a first section. -/
def Located (s : Reading) (done : List Node) : Prop :=
  match s.scope with
  | .outside => EndsOutside done
  | .within kind name => ∃ earlier current, EndsWithin done earlier current ∧
      current.name = name ∧ kind = kindOf name ∧ s.description = current.description ∧
      (s.isFirst = true ↔ named name earlier = [])

/-- After the elements `done` the reader knows what their sections say. -/
structure Represents (s : Reading) (done : List Node) : Prop where
  located : s.Located done
  registry : s.registry.DefinedBy (ofNodes done)

private theorem represents_nil : Represents {} [] where
  located := endsOutside_nil
  registry := Registry.definedBy_empty

/-- A heading or rule that starts no section leads outside all sections. -/
theorem Represents.leave {s s' : Reading} {done : List Node} {node : Node}
    (h : s.Represents done) (hcloses : closesSection node = true)
    (hname : sectionName? node = none) (hscope : s'.scope = .outside)
    (hregistry : s'.registry = s.registry) : s'.Represents (done ++ [node]) where
  located := by
    rw [Located, hscope]
    exact endsOutside_append_singleton hcloses hname
  registry := by
    rw [hregistry, ofNodes_append_cons hcloses, ofNodes_cons (by simp), hname]
    simpa using h.registry

/-- A heading that starts a section leads into it. -/
theorem Represents.enter {s : Reading} {done : List Node} {node : Node} {name : String}
    (h : s.Represents done) (hname : sectionName? node = some name) :
    (s.heading node).Represents (done ++ [node]) := by
  have hends : EndsWithin (done ++ [node]) (ofNodes done) (empty name) :=
    endsWithin_append_singleton hname
  cases hkind : startsUppercase name with
  | true =>
    obtain ⟨hscope, hdescription, hfirst, hregistry⟩ := heading_of_type hname hkind s
    refine ⟨?_, by rw [hends.ofNodes_eq, hregistry]; exact h.registry.declareType hkind⟩
    rw [Located, hscope]
    refine ⟨_, _, hends, rfl, by simp [kindOf, hkind], hdescription, ?_⟩
    rw [hfirst, Bool.not_eq_true', ← Bool.not_eq_true, h.registry.types.contains_iff hkind, not_not]
  | false =>
    obtain ⟨hscope, hdescription, hfirst, hregistry⟩ := heading_of_operation hname hkind s
    refine ⟨?_, by rw [hends.ofNodes_eq, hregistry]; exact h.registry.declareOperation hkind⟩
    rw [Located, hscope]
    refine ⟨_, _, hends, rfl, by simp [kindOf, hkind], hdescription, ?_⟩
    rw [hfirst, Bool.not_eq_true', ← Bool.not_eq_true,
      h.registry.operations.contains_iff (by simp [hkind]), not_not]

/-- Outside all sections an element that ends no section changes nothing that is kept. -/
theorem Represents.stay_outside {s s' : Reading} {done : List Node} {node : Node}
    (h : s.Represents done) (hscope : s.scope = .outside) (hcloses : closesSection node = false)
    (hstep : s.step node = .ok s') : s'.Represents (done ++ [node]) := by
  have hends : EndsOutside done := by simpa [Located, hscope] using h.located
  have hkept : s'.scope = .outside ∧ s'.registry = s.registry := by
    rcases step_cases hstep with ⟨hcloses', -⟩ | ⟨other, hname, -⟩ | ⟨-, -, rfl⟩ |
      ⟨-, -, htable⟩ | ⟨-, -, rfl⟩ | ⟨-, -, -, -, rfl⟩
    · rw [hcloses] at hcloses'
      cases hcloses'
    · rw [closesSection_of_sectionName? hname] at hcloses
      cases hcloses
    · simp [paragraph, hscope]
    · obtain rfl : s = s' := by simpa [table, hscope] using htable
      simp [hscope]
    · simp [list, hscope]
    · simp [hscope]
  refine ⟨?_, ?_⟩
  · rw [Located, hkept.1]
    exact hends.append_singleton hcloses
  · rw [hkept.2, hends [node] (by simpa using hcloses)]
    exact h.registry

/-- Within a section an element that ends no section becomes part of it. -/
theorem Represents.stay_within {s s' : Reading} {done : List Node} {node : Node}
    {kind : SectionKind} {name : String} (h : s.Represents done)
    (hscope : s.scope = .within kind name) (hcloses : closesSection node = false)
    (hstep : s.step node = .ok s') : s'.Represents (done ++ [node]) := by
  have hlocated := h.located
  rw [Located, hscope] at hlocated
  obtain ⟨earlier, current, hends, rfl, hkind, hdescription, hfirst⟩ := hlocated
  have hregistry := h.registry
  rw [hends.ofNodes_eq] at hregistry
  have hlonger := hends.append_singleton hcloses
  cases hupper : startsUppercase current.name with
  | true =>
    rw [hkind, show kindOf current.name = .type by simp [kindOf, hupper]] at hscope
    obtain ⟨hscope', hfirst', hdescription', f, hmodify, hf⟩ :=
      step_within_type hscope hcloses hstep
    refine ⟨?_, ?_⟩
    · rw [Located, hscope', hscope]
      refine ⟨_, _, hlonger, rfl, by simp [kindOf, hupper], ?_, by rw [hfirst', hfirst]⟩
      rw [hdescription', description_extend, hdescription]
    · rw [hmodify, hlonger.ofNodes_eq]
      refine hregistry.modifyType hupper fun d hd => ?_
      obtain ⟨hname, hdefined, hfields, hsubtypes⟩ := hf d
      exact hd.extend hname (by simp only [hdefined, hfirst, hdescription]) hfields hsubtypes
  | false =>
    rw [hkind, show kindOf current.name = .operation by simp [kindOf, hupper]] at hscope
    obtain ⟨hscope', hfirst', hdescription', f, hmodify, hf⟩ :=
      step_within_operation hscope hcloses hstep
    refine ⟨?_, ?_⟩
    · rw [Located, hscope', hscope]
      refine ⟨_, _, hlonger, rfl, by simp [kindOf, hupper], ?_, by rw [hfirst', hfirst]⟩
      rw [hdescription', description_extend, hdescription]
    · rw [hmodify, hlonger.ofNodes_eq]
      refine hregistry.modifyOperation hupper fun o ho => ?_
      obtain ⟨hkey, hdefined, hfields, hreturn⟩ := hf o
      exact ho.extend hkey (by simp only [hdefined, hfirst, hdescription]) hfields
        (by rw [hreturn, hdescription])

/-- One step keeps the reader in step with the sections. -/
theorem Represents.step {s s' : Reading} {done : List Node} {node : Node} (h : s.Represents done)
    (hstep : s.step node = .ok s') : s'.Represents (done ++ [node]) := by
  cases hcloses : closesSection node with
  | true =>
    rcases step_cases hstep with ⟨-, hname, hscope, hregistry⟩ | ⟨name, hname, rfl⟩ |
      ⟨hfalse, -⟩ | ⟨hfalse, -⟩ | ⟨hfalse, -⟩ | ⟨hfalse, -⟩
    · exact h.leave hcloses hname hscope hregistry
    · exact h.enter hname
    all_goals
      rw [hcloses] at hfalse
      cases hfalse
  | false =>
    cases hscope : s.scope with
    | outside => exact h.stay_outside hscope hcloses hstep
    | within kind name => exact h.stay_within hscope hcloses hstep

/-- A pass that meets no malformed table keeps the reader in step with the sections. -/
theorem Represents.steps {s s' : Reading} {done nodes : List Node} (h : s.Represents done)
    (hsteps : s.steps nodes = (s', none)) : s'.Represents (done ++ nodes) := by
  induction nodes generalizing s done with
  | nil =>
    obtain rfl : s = s' := by simpa [Reading.steps] using hsteps
    simpa using h
  | cons node nodes ih =>
    cases hstep : s.step node with
    | error error => simp [Reading.steps, hstep] at hsteps
    | ok next =>
      rw [Reading.steps, hstep] at hsteps
      simpa using ih (h.step hstep) hsteps

/-- Reporting the outcome does not change the registry. -/
theorem registry_finish (s : Reading) : s.finish.registry = s.registry := by
  have hfold (operations : List Operation) (s : Reading) :
      (operations.foldl (fun s operation => s.report (.unknownReturnType operation.key)) s).registry
        = s.registry := by
    induction operations generalizing s with
    | nil => rfl
    | cons operation operations ih => rw [List.foldl_cons, ih, report]
  rw [finish, report, hfold]

end Reading

/-- The registry of a page that could be read is what its sections define. -/
theorem definedBy_of_extractNode {root content : Node} {registry : Registry}
    (hcontent : contentOf? root = some content)
    (hok : (extractNode root).result = .ok registry) :
    registry.DefinedBy (ofNodes content.childElements) := by
  rw [extractNode, hcontent] at hok
  cases hsteps : Reading.steps {} content.childElements with
  | mk s failure =>
    simp only [hsteps] at hok
    cases failure with
    | some error => cases hok
    | none =>
      obtain rfl : s.finish.registry = registry := by simpa using hok
      rw [Reading.registry_finish]
      simpa using (Reading.represents_nil.steps hsteps).registry

end BotBindings
