import BotBindings.Proofs.Request.Report
import BotBindings.Proofs.Target.Source

/-!
# Rendered types and references to them

Which types get a struct is decided on the names of the registry, and whether a value of a type is
written with the name of that type is decided where its target is resolved. Both decisions have to
agree: a target that is a name refers to a struct, and every struct is a target. The plans of the
structs are sorted by name and hold all fields of their types.
-/

namespace BotBindings

namespace Registry

variable {r : Registry} {name : String}

/-! ## Plans of types -/

/-- No two structs have one name, so their names are strictly sorted. -/
theorem pairwise_lt_map_name_planTypes
    (hnames : ∀ name d, r.types.get? name = some d → d.name = name) :
    (r.planTypes.map TypePlan.name).Pairwise (· < ·) := by
  have hsorted : (r.planTypes.map TypePlan.name).Pairwise (· ≤ ·) :=
    List.pairwise_map.mpr (pairwise_planTypes hnames)
  have hdistinct : (r.planTypes.map TypePlan.name).Pairwise (· ≠ ·) := by
    rw [map_name_planTypes hnames]
    exact r.nodup_renderableNames
  exact (hsorted.and hdistinct).imp fun ⟨hle, hne⟩ => lt_of_le_of_ne hle hne

/-- The plan of a struct has one field for each field of the type. -/
theorem fields_planType_perm (r : Registry) (d : TypeDef) :
    ((r.planType d).fields.map fun field => (field.key, field.type.canonical, field.required)).Perm
      (d.fields.values.map fun field => (field.key, field.type.canonical, field.required)) := by
  rw [planType, List.map_map]
  exact d.fields.sorted_perm.map _

/-- Plans are made from the types that are stored under their names. -/
theorem exists_get?_of_mem_planTypes
    (hnames : ∀ name d, r.types.get? name = some d → d.name = name) {plan : TypePlan}
    (hplan : plan ∈ r.planTypes) :
    ∃ d, r.types.get? plan.name = some d ∧ r.planType d = plan := by
  obtain ⟨d, hd, rfl⟩ := List.mem_map.mp hplan
  obtain ⟨name, -, hget⟩ := List.mem_filterMap.mp hd
  have hname : (r.planType d).name = name := hnames name d hget
  exact ⟨d, hname ▸ hget, rfl⟩

/-! ## References -/

private theorem dynamicSource_ne_of_startsUppercase (h : startsUppercase name = true) :
    Target.dynamicSource ≠ name := by
  rintro rfl
  exact absurd h (by decide)

/-- An object whose name starts with an uppercase letter is referred to by this name unless it is
abstract. -/
theorem source_resolve_named (r : Registry) (h : startsUppercase name = true) :
    (r.resolve (.named name) true).source none
      = if r.isAbstract name then Target.dynamicSource else name := by
  rw [resolve_true, resolveRequired, if_pos h]
  cases r.isAbstract name <;> rfl

private theorem source_resolve_named_eq_self_iff (r : Registry) (h : startsUppercase name = true) :
    (r.resolve (.named name) true).source none = name ↔ r.isAbstract name = false := by
  have hdynamic := dynamicSource_ne_of_startsUppercase h
  rw [source_resolve_named r h]
  cases r.isAbstract name <;> simp [hdynamic]

private theorem source_resolve_named_eq_dynamicSource_iff (r : Registry)
    (h : startsUppercase name = true) :
    (r.resolve (.named name) true).source none = Target.dynamicSource
      ↔ r.isAbstract name = true := by
  have hdynamic := dynamicSource_ne_of_startsUppercase h
  rw [source_resolve_named r h]
  cases r.isAbstract name <;> simp [hdynamic.symm]

/-- Among the names in the registry, those of the abstract types and of the helper for uploads are
left out. -/
theorem mem_renderableNames_iff_of_mem_keys (hname : name ∈ r.types.keys)
    (hfile : name ≠ inputFileName) : name ∈ r.renderableNames ↔ r.isAbstract name = false := by
  obtain ⟨d, hd⟩ := OrderedMap.mem_keys_iff.mp hname
  have habstract : r.isAbstract name = d.isAbstract := by rw [isAbstract, hd, Option.any_some]
  rw [mem_renderableNames_iff, habstract, TypeDef.isAbstract]
  constructor
  · rintro ⟨d', hd', -, hconcrete⟩
    obtain rfl := Option.some.inj (hd.symm.trans hd')
    simp [hconcrete]
  · intro hconcrete
    exact ⟨d, hd, hfile, by simpa using hconcrete⟩

/-- The rendered types are those that are neither abstract nor the helper for uploads, each once and
sorted by name, and each with all of its fields. A type that is named like an object is rendered
exactly if values of this type are written with its name, and otherwise they are dynamic. -/
theorem planTypes_renderable
    (hnames : ∀ name d, r.types.get? name = some d → d.name = name) :
    (r.planTypes.map TypePlan.name).Pairwise (· < ·) ∧
    (∀ name, name ∈ r.planTypes.map TypePlan.name ↔
      ∃ d, r.types.get? name = some d ∧ name ≠ inputFileName ∧ d.subtypes = []) ∧
    (∀ plan ∈ r.planTypes, ∃ d, r.types.get? plan.name = some d ∧
      (plan.fields.map fun field => (field.key, field.type.canonical, field.required)).Perm
        (d.fields.values.map fun field => (field.key, field.type.canonical, field.required))) ∧
    ∀ name ∈ r.types.keys, name ≠ inputFileName → startsUppercase name = true →
      (name ∈ r.planTypes.map TypePlan.name ↔
        (r.resolve (.named name) true).source none = name) ∧
      (name ∉ r.planTypes.map TypePlan.name ↔
        (r.resolve (.named name) true).source none = Target.dynamicSource) := by
  refine ⟨pairwise_lt_map_name_planTypes hnames, fun name => ?_, fun plan hplan => ?_,
    fun name hname hfile hupper => ?_⟩
  · rw [map_name_planTypes hnames]
    exact mem_renderableNames_iff
  · obtain ⟨d, hd, rfl⟩ := exists_get?_of_mem_planTypes hnames hplan
    exact ⟨d, hd, r.fields_planType_perm d⟩
  · rw [map_name_planTypes hnames, mem_renderableNames_iff_of_mem_keys hname hfile,
      source_resolve_named_eq_self_iff r hupper, source_resolve_named_eq_dynamicSource_iff r hupper,
      Bool.not_eq_false]
    exact ⟨Iff.rfl, Iff.rfl⟩

/-! ## A registry with all kinds of types -/

/-- Types inserted against their order: one that is abstract, the helper for uploads, and two that
are objects, of which one has fields. -/
def memberRegistry : Registry where
  types := .ofList
    [("User", { name := "User", fields := .ofList [("name", ⟨"name", .scalar .string, false⟩),
        ("id", ⟨"id", .scalar .int64, true⟩)] }),
      ("Member", { name := "Member", subtypes := ["User"] }),
      ("InputFile", { name := "InputFile" }),
      ("Chat", { name := "Chat" })]

private theorem renderableNames_memberRegistry :
    memberRegistry.renderableNames = ["Chat", "User"] :=
  mergeSort_pair (by decide)

/-- The object is rendered with both of its fields, and the abstract type is dynamic. -/
theorem planTypes_renderable_memberRegistry :
    (∀ name d, memberRegistry.types.get? name = some d → d.name = name) ∧
    memberRegistry.planTypes.map TypePlan.name = ["Chat", "User"] ∧
    (∃ plan ∈ memberRegistry.planTypes, plan.name = "User" ∧
      (plan.fields.map fun field => (field.key, field.type.canonical, field.required)).Perm
        [("id", "int64", true), ("name", "string", false)]) ∧
    (memberRegistry.resolve (.named "User") true).source none = "User" ∧
    (memberRegistry.resolve (.named "Member") true).source none = "serde_json::Value" := by
  have hnames := name_eq_of_entries
    (by decide : ∀ entry ∈ memberRegistry.types.entries, entry.2.name = entry.1)
  obtain ⟨-, hmem, hfields, hresolve⟩ := planTypes_renderable hnames
  have hplanned : memberRegistry.planTypes.map TypePlan.name = ["Chat", "User"] := by
    rw [map_name_planTypes hnames, renderableNames_memberRegistry]
  have huser : "User" ∈ memberRegistry.planTypes.map TypePlan.name :=
    (hmem "User").mpr ⟨_, rfl, by decide, rfl⟩
  have hmember : "Member" ∉ memberRegistry.planTypes.map TypePlan.name := by
    rw [hplanned]
    decide
  obtain ⟨plan, hplan, hname⟩ := List.mem_map.mp huser
  obtain ⟨d, hd, hperm⟩ := hfields plan hplan
  rw [hname] at hd
  obtain rfl := Option.some.inj hd
  refine ⟨hnames, hplanned, ⟨plan, hplan, hname, hperm.trans ?_⟩, ?_, ?_⟩
  · exact List.Perm.swap _ _ []
  · exact (hresolve "User" (by decide) (by decide) (by decide)).1.mp huser
  · exact (hresolve "Member" (by decide) (by decide) (by decide)).2.mp hmember

end Registry

end BotBindings
