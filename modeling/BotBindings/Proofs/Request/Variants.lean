import BotBindings.Proofs.Phrase.RoundTrip
import BotBindings.Registry.Parameter

/-!
# The variants of a union

A union is written variant by variant: one for each of its alternatives, and two for a chat
identifier, which is an integer or a string. The variants are put into groups. This file proves that
the groups hold each of them once and in order: first the scalars, in groups of their own, and then
all others together.
-/

namespace BotBindings

namespace TypeExpr

/-! ## Spelling out chat identifiers -/

/-- The alternatives of a type with every chat identifier spelled out in its place as an integer or
a string. All others are kept. -/
inductive SpelledOut : List TypeExpr → List TypeExpr → Prop
  | nil : SpelledOut [] []
  | chatId {alternatives types : List TypeExpr} (h : SpelledOut alternatives types) :
      SpelledOut (.chatId :: alternatives) (.scalar .int64 :: .scalar .string :: types)
  | other {a : TypeExpr} {alternatives types : List TypeExpr} (ha : a ≠ .chatId)
      (h : SpelledOut alternatives types) : SpelledOut (a :: alternatives) (a :: types)

/-- The types of the variants are the alternatives with chat identifiers spelled out. -/
theorem spelledOut_variantTypes (e : TypeExpr) : SpelledOut e.alternatives e.variantTypes := by
  rw [variantTypes]
  induction e.alternatives with
  | nil => exact .nil
  | cons a alternatives ih =>
    cases a with
    | chatId => exact .chatId ih
    | _ => exact .other (by simp) ih

namespace SpelledOut

variable {alternatives types : List TypeExpr}

/-- There is only one way to spell out the alternatives. -/
theorem eq_of_spelledOut {others : List TypeExpr} (h : SpelledOut alternatives types)
    (hothers : SpelledOut alternatives others) : others = types := by
  induction h generalizing others with
  | nil =>
    cases hothers
    rfl
  | chatId h ih =>
    cases hothers with
    | chatId hothers => rw [ih hothers]
    | other ha => exact absurd rfl ha
  | other ha h ih =>
    cases hothers with
    | chatId => exact absurd rfl ha
    | other _ hothers => rw [ih hothers]

/-- Spelling out makes no fewer types than there are alternatives. -/
theorem length_le (h : SpelledOut alternatives types) : alternatives.length ≤ types.length := by
  induction h <;> simp only [List.length_nil, List.length_cons] <;> omega

/-- The spelled-out types are the alternatives but for chat identifiers, and integers and strings if
there was a chat identifier. -/
theorem mem_iff (h : SpelledOut alternatives types) {a : TypeExpr} :
    a ∈ types ↔ (a ∈ alternatives ∧ a ≠ .chatId) ∨
      (.chatId ∈ alternatives ∧ (a = .scalar .int64 ∨ a = .scalar .string)) := by
  induction h with
  | nil => simp
  | chatId h ih =>
    simp only [List.mem_cons, ih]
    grind
  | other ha h ih =>
    simp only [List.mem_cons, ih]
    grind

private theorem ne_chatId (h : SpelledOut alternatives types) {a : TypeExpr} (ha : a ∈ types) :
    a ≠ .chatId := by
  rcases h.mem_iff.mp ha with ⟨-, hne⟩ | ⟨-, rfl | rfl⟩
  · exact hne
  · simp
  · simp

end SpelledOut

/-- What a phrase means has several variants if it is a union or a chat identifier. -/
theorem WellFormed.two_le_length_variantTypes_iff {e : TypeExpr} (h : e.WellFormed) :
    2 ≤ e.variantTypes.length ↔ e.isUnion = true ∨ e = .chatId := by
  cases h with
  | @union es hlength =>
    have hle := (spelledOut_variantTypes (.union es)).length_le
    exact ⟨fun _ => Or.inl rfl, fun _ => Nat.le_trans hlength hle⟩
  | chatId => decide
  | _ => simp [variantTypes, alternatives, isUnion]

end TypeExpr

namespace Registry

/-! ## Groups -/

/-- Some types in groups, as variants: each scalar is a group of its own, and the last group holds
all others if there are any. Within this the types keep their order. Fewer than two types are not
put into groups. -/
structure IsGrouping (r : Registry) (types : List TypeExpr) (groups : List (List Variant)) :
    Prop where
  isSimple_iff : ∀ a ∈ types, (r.valueKind a).isSimple = true ↔ ∃ scalar, a = .scalar scalar
  eq_nil : types.length < 2 → groups = []
  map_type_eq : 2 ≤ types.length →
    groups.map (·.map Variant.type)
      = (types.filter fun a => (r.valueKind a).isSimple).map ([·])
        ++ if (types.filter fun a => !(r.valueKind a).isSimple) = [] then []
          else [types.filter fun a => !(r.valueKind a).isSimple]
  /-- No type is lost and none is there twice. -/
  perm : 2 ≤ types.length → (groups.flatten.map Variant.type).Perm types
  ne_nil : ∀ group ∈ groups, group ≠ []
  kind_eq : ∀ v ∈ groups.flatten, v.kind = r.valueKind v.type
  kind_ne : ∀ v ∈ groups.flatten, v.kind ≠ .chatId
  target_eq : ∀ v ∈ groups.flatten, v.target = r.resolve v.type true

section

variable {r : Registry}

/-- Of what is no chat identifier, only scalars can be told apart by their type alone. The objects
of the registry make no difference. -/
theorem isSimple_valueKind_iff {a : TypeExpr} (ha : a ≠ .chatId) :
    (r.valueKind a).isSimple = true ↔ ∃ scalar, a = .scalar scalar := by
  cases a with
  | scalar scalar => cases scalar <;> simp [valueKind, ValueKind.isSimple]
  | named name =>
    rw [valueKind]
    split <;> simp [ValueKind.isSimple]
  | chatId => exact absurd rfl ha
  | _ => simp [valueKind, ValueKind.isSimple]

private theorem valueKind_ne_chatId {a : TypeExpr} (ha : a ≠ .chatId) :
    r.valueKind a ≠ .chatId := by
  cases a with
  | scalar scalar => cases scalar <;> simp [valueKind]
  | named name =>
    rw [valueKind]
    split <;> simp
  | chatId => exact absurd rfl ha
  | _ => simp [valueKind]

variable {e : TypeExpr}

private theorem variantGroups_of_length_lt (h : e.variantTypes.length < 2) : r.variantGroups e =
    [] := by
  simp [variantGroups, h]

private theorem variantGroups_of_le_length (h : 2 ≤ e.variantTypes.length) :
    r.variantGroups e
      = (e.variantTypes.filter fun a => (r.valueKind a).isSimple).map (fun a => [r.variant a])
        ++ if (e.variantTypes.filter fun a => !(r.valueKind a).isSimple) = [] then []
          else [(e.variantTypes.filter fun a => !(r.valueKind a).isSimple).map r.variant] := by
  have hlength : ¬ (e.variantTypes.map r.variant).length < 2 := by
    rw [List.length_map]
    omega
  simp only [variantGroups, if_neg hlength, List.partition_eq_filter_filter, List.filter_map,
    List.map_map, List.isEmpty_iff, List.map_eq_nil_iff]
  rfl

/-- The groups hold the variants of the scalars first. -/
theorem flatten_variantGroups (h : 2 ≤ e.variantTypes.length) :
    (r.variantGroups e).flatten
      = ((e.variantTypes.filter fun a => (r.valueKind a).isSimple)
        ++ e.variantTypes.filter fun a => !(r.valueKind a).isSimple).map r.variant := by
  rw [variantGroups_of_le_length h, List.flatten_append, List.map_append]
  congr 1
  · rw [← List.flatMap_def, ← List.map_eq_flatMap]
  · split
    · rename_i hempty
      rw [hempty]
      rfl
    · exact List.flatten_singleton

/-- The groups hold one variant for each spelled-out type, and nothing else. -/
theorem perm_flatten_variantGroups (h : 2 ≤ e.variantTypes.length) :
    (r.variantGroups e).flatten.Perm (e.variantTypes.map r.variant) := by
  rw [flatten_variantGroups h]
  exact (List.filter_append_perm _ _).map _

private theorem exists_of_mem_flatten_variantGroups {v : Variant}
    (hv : v ∈ (r.variantGroups e).flatten) :
    ∃ a ∈ e.variantTypes, r.variant a = v := by
  by_cases h : 2 ≤ e.variantTypes.length
  · exact List.mem_map.mp ((perm_flatten_variantGroups h).mem_iff.mp hv)
  · rw [variantGroups_of_length_lt (by omega)] at hv
    cases hv

/-- The variants of a type are grouped by this rule. -/
theorem isGrouping_variantGroups (r : Registry) (e : TypeExpr) :
    r.IsGrouping e.variantTypes (r.variantGroups e) where
  isSimple_iff a ha := isSimple_valueKind_iff (e.spelledOut_variantTypes.ne_chatId ha)
  eq_nil := variantGroups_of_length_lt
  map_type_eq h := by
    have htype : Variant.type ∘ r.variant = id := rfl
    rw [variantGroups_of_le_length h, List.map_append, List.map_map]
    congr 1
    split
    · rfl
    · rw [List.map_singleton, List.map_map, htype, List.map_id]
  perm h := by
    have htype : Variant.type ∘ r.variant = id := rfl
    have hperm := (perm_flatten_variantGroups (r := r) h).map Variant.type
    rwa [List.map_map, htype, List.map_id] at hperm
  ne_nil group hgroup := by
    by_cases h : 2 ≤ e.variantTypes.length
    · rw [variantGroups_of_le_length h, List.mem_append] at hgroup
      rcases hgroup with hgroup | hgroup
      · obtain ⟨a, -, rfl⟩ := List.mem_map.mp hgroup
        exact List.cons_ne_nil _ _
      · split at hgroup
        · cases hgroup
        · rename_i hstructured
          rw [List.mem_singleton.mp hgroup]
          exact fun hnil => hstructured (List.map_eq_nil_iff.mp hnil)
    · rw [variantGroups_of_length_lt (by omega)] at hgroup
      cases hgroup
  kind_eq v hv := by
    obtain ⟨a, -, rfl⟩ := exists_of_mem_flatten_variantGroups hv
    rfl
  kind_ne v hv := by
    obtain ⟨a, ha, rfl⟩ := exists_of_mem_flatten_variantGroups hv
    exact valueKind_ne_chatId (e.spelledOut_variantTypes.ne_chatId ha)
  target_eq v hv := by
    obtain ⟨a, -, rfl⟩ := exists_of_mem_flatten_variantGroups hv
    rfl

end

/-- The groups of a type are a stable partition of its alternatives with chat identifiers spelled
out. The kind of a variant is that of its type, and so is the target, whatever namespace it is
written for. What a phrase means has groups if it is a union or a chat identifier, and then they
hold two variants at least. -/
theorem variantGroups_stablePartition (r : Registry) :
    (∀ e : TypeExpr, ∃ types,
      (∀ others, TypeExpr.SpelledOut e.alternatives others ↔ others = types) ∧
        r.IsGrouping types (r.variantGroups e)) ∧
    ∀ phrase : String,
      (r.variantGroups (.ofPhrase phrase) ≠ [] ↔
        (TypeExpr.ofPhrase phrase).isUnion = true ∨ TypeExpr.ofPhrase phrase = .chatId) ∧
      (r.variantGroups (.ofPhrase phrase) ≠ [] →
        2 ≤ (r.variantGroups (.ofPhrase phrase)).flatten.length) := by
  refine ⟨fun e => ⟨e.variantTypes, fun others => ?_, r.isGrouping_variantGroups e⟩,
    fun phrase => ?_⟩
  · have hspelled := e.spelledOut_variantTypes
    exact ⟨hspelled.eq_of_spelledOut, fun heq => heq ▸ hspelled⟩
  · have hwell : (TypeExpr.ofPhrase phrase).WellFormed := Phrase.wellFormed_read phrase.toList
    have hgroups := r.isGrouping_variantGroups (.ofPhrase phrase)
    rw [← hwell.two_le_length_variantTypes_iff]
    by_cases h : 2 ≤ (TypeExpr.ofPhrase phrase).variantTypes.length
    · have htwo : 2 ≤ (r.variantGroups (.ofPhrase phrase)).flatten.length := by
        have hlength := (hgroups.perm h).length_eq
        rw [List.length_map] at hlength
        omega
      have hne : r.variantGroups (.ofPhrase phrase) ≠ [] := by
        intro hnil
        simp [hnil] at htwo
      exact ⟨⟨fun _ => h, fun _ => hne⟩, fun _ => htwo⟩
    · have hnil := hgroups.eq_nil (by omega)
      exact ⟨⟨fun hne => absurd hnil hne, fun htwo => absurd htwo h⟩,
        fun hne => absurd hnil hne⟩

/-- A chat identifier in front of other alternatives and the scalar behind them stay in order. -/
theorem variantGroups_stablePartition_chatId :
    (({} : Registry).variantGroups (.ofPhrase "InputFile or ChatId or button or True")).map
          (·.map Variant.type)
        = [[.scalar .int64], [.scalar .string], [.scalar .bool], [.inputFile, .named "button"]] ∧
      2 ≤ (({} : Registry).variantGroups
        (.ofPhrase "InputFile or ChatId or button or True")).flatten.length := by
  obtain ⟨hgroups, hphrase⟩ := variantGroups_stablePartition {}
  obtain ⟨types, htypes, hgrouping⟩ := hgroups (.ofPhrase "InputFile or ChatId or button or True")
  obtain rfl := (htypes _).mp (TypeExpr.spelledOut_variantTypes _)
  obtain ⟨hne, hlength⟩ := hphrase "InputFile or ChatId or button or True"
  refine ⟨?_, hlength (hne.mpr (Or.inl (by decide +kernel)))⟩
  rw [hgrouping.map_type_eq (by decide +kernel)]
  decide +kernel

end Registry

end BotBindings
