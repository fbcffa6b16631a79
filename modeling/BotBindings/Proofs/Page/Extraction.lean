import BotBindings.Proofs.Page.Reading
import BotBindings.Proofs.Result

/-!
# The registry of a page

Reading a page in one pass gives the registry that a reading section by section gives. The main
statement says for every entry of the registry which parts of the page it comes from.
-/

namespace BotBindings

open Html

/-- A page that can be read defines the names of its sections, each once and in the order of the
first section of the name. The first section of a name describes it. The last table among the
sections of a name lists its fields and the last list its subtypes. -/
theorem registry_by_sections {root content : Node} {registry : Registry}
    (hcontent : contentOf? root = some content)
    (hok : (extractNode root).result = .ok registry) :
    let parts := Section.ofNodes content.childElements
    registry.types.keys = ((parts.map Section.name).filter startsUppercase).eraseDups ∧
      registry.operations.keys
        = ((parts.map Section.name).filter (!startsUppercase ·)).eraseDups ∧
      (∀ name d, registry.types.get? name = some d →
        d.name = name ∧
        (∃ first others, Section.named name parts = first :: others ∧
          d.description = first.description) ∧
        lastFields .type name ((Section.named name parts).flatMap (·.tagged "table"))
          = .ok d.fields ∧
        d.subtypes
          = ((Section.named name parts).flatMap (·.tagged "ul")).getLast?.elim [] listItems) ∧
      ∀ key o, registry.operations.get? key = some o →
        o.key = key ∧
        (∃ first others, Section.named key parts = first :: others ∧
          o.description = first.description) ∧
        lastFields .operation key ((Section.named key parts).flatMap (·.tagged "table"))
          = .ok o.fields := by
  have h := definedBy_of_extractNode hcontent hok
  refine ⟨h.types.keys_eq, h.operations.keys_eq, fun name d hd => ?_, fun key o ho => ?_⟩
  · have hdefined := h.types.definedBy hd
    obtain ⟨first, others, hnamed⟩ := h.types.exists_first hd
    refine ⟨hdefined.name_eq, ⟨first, others, hnamed, ?_⟩, hdefined.fields_eq, hdefined.subtypes_eq⟩
    rw [hdefined.description_eq, hnamed]
    rfl
  · have hdefined := h.operations.definedBy ho
    obtain ⟨first, others, hnamed⟩ := h.operations.exists_first ho
    refine ⟨hdefined.key_eq, ⟨first, others, hnamed, ?_⟩, hdefined.fields_eq⟩
    rw [hdefined.description_eq, hnamed]
    rfl

/-- A heading with the anchor that the reference gives its sections. -/
def anchoredHeading (name : String) : Node :=
  .element "h4" []
    [.element "a" [⟨"class", "anchor", false⟩, ⟨"name", "section", false⟩] [], .text name]

/-- The content of a page on which a type and an operation are documented twice. -/
def repeatedContent : Node :=
  .element "div" [⟨"id", contentId, false⟩]
    [anchoredHeading "sendThing", .element "p" [] [.text "Sends something."],
      anchoredHeading "Scope", .element "p" [] [.text "A scope."],
      .element "ul" [] [.element "li" [] [.text "ScopeA"]],
      .element "h4" [] [.text "Notes"], .element "p" [] [.text "Ignored."],
      anchoredHeading "sendThing", .element "p" [] [.text "Returns True on success."],
      anchoredHeading "Scope", .element "p" [] [.text "Another"],
      .element "ul" [] [.element "li" [] [.text "ScopeB"], .element "li" [] [.text "ScopeC"]],
      .element "hr" [] [], .element "ul" [] [.element "li" [] [.text "ScopeD"]]]

/-- The page with that content. -/
def repeatedPage : Node :=
  .element "html" [] [.element "body" [] [repeatedContent]]

/-- Both sections of a name count: the first describes the type and the last lists its subtypes. -/
theorem registry_by_sections_repeatedPage :
    ∃ registry, (extractNode repeatedPage).result = .ok registry ∧
      registry.types.keys = ["Scope"] ∧ registry.operations.keys = ["sendThing"] ∧
      ∀ d, registry.types.get? "Scope" = some d →
        d.description = "A scope." ∧ d.subtypes = ["ScopeB", "ScopeC"] := by
  have hread : (extractNode repeatedPage).result.isOk = true := by decide +kernel
  cases hresult : (extractNode repeatedPage).result with
  | error e => simp [hresult, Except.isOk, Except.toBool] at hread
  | ok registry =>
    have hcontent : contentOf? repeatedPage = some repeatedContent := rfl
    have h := registry_by_sections hcontent hresult
    refine ⟨registry, rfl, ?_, ?_, fun d hd => ?_⟩
    · exact h.1.trans (by decide +kernel)
    · exact h.2.1.trans (by decide +kernel)
    · obtain ⟨-, ⟨first, others, hnamed, hdescription⟩, -, hsubtypes⟩ := h.2.2.1 _ _ hd
      have hfirst : (Section.named "Scope"
          (Section.ofNodes repeatedContent.childElements)).head?.map Section.description
            = some "A scope." := by decide +kernel
      rw [hnamed] at hfirst
      refine ⟨hdescription.trans ?_, hsubtypes.trans (by decide +kernel)⟩
      simpa using hfirst

/-! ## Return types -/

/-- Text that is added to a description leaves the return type found in it. So the return type of an
operation, which the reader finds again at every paragraph, is that of the last section of the name
that states one in all its paragraphs together. -/
theorem returnType_by_sections :
    (∀ (description more : String) (type : TypeExpr), '\n' ∉ description.toList →
      TypeExpr.returned? description = some type →
      TypeExpr.returned? (description ++ more) = some type) ∧
    ∀ (root content : Node) (registry : Registry), contentOf? root = some content →
      (extractNode root).result = .ok registry →
      ∀ key o, registry.operations.get? key = some o →
        let parts := Section.named key (Section.ofNodes content.childElements)
        o.returnType = (parts.filterMap fun part => TypeExpr.returned? part.description).getLast? ∧
          ∀ part, parts = [part] → o.returnType = TypeExpr.returned? o.description := by
  refine ⟨fun _ more _ hline h => returned?_append hline h more, ?_⟩
  intro root content registry hcontent hok key o ho
  have hdefined := (definedBy_of_extractNode hcontent hok).operations.definedBy ho
  refine ⟨hdefined.returnType_eq, fun part hpart => ?_⟩
  have hdescription := hdefined.description_eq
  have htype := hdefined.returnType_eq
  rw [hpart] at hdescription htype
  rw [htype, hdescription]
  cases hreturned : TypeExpr.returned? part.description <;> simp [hreturned]

/-- The operation of the page returns what its second section says. -/
theorem returnType_by_sections_repeatedPage :
    TypeExpr.returned? ("Returns True on success." ++ " Returns Message objects.")
        = some (.scalar .bool) ∧
      ∃ registry o, (extractNode repeatedPage).result = .ok registry ∧
        registry.operations.get? "sendThing" = some o ∧ o.returnType = some (.scalar .bool) := by
  obtain ⟨happend, hsections⟩ := returnType_by_sections
  refine ⟨happend _ _ _ (by decide +kernel) (by decide +kernel), ?_⟩
  have hread : ((extractNode repeatedPage).result.toOption.bind
      (·.operations.get? "sendThing")).isSome = true := by decide +kernel
  obtain ⟨o, hread⟩ := Option.isSome_iff_exists.mp hread
  obtain ⟨registry, hregistry, ho⟩ := Option.bind_eq_some_iff.mp hread
  have hresult := toOption_eq_some_iff.mp hregistry
  have h := hsections repeatedPage repeatedContent registry rfl hresult _ o ho
  exact ⟨registry, o, hresult, ho, h.1.trans (by decide +kernel)⟩

end BotBindings
