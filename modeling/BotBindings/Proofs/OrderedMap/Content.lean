import BotBindings.OrderedMap
import Mathlib.Data.List.Nodup
import Mathlib.Data.List.Perm.Basic

/-!
# The content of an ordered map

Looking a name up does not depend on the order in which names came, and everything that is found
can be looked up. So two maps in which the same is found under every name hold the same values, in
some order.
-/

namespace BotBindings

/-- In a list without repeated names, what is found under a name is what stands there with it. -/
theorem lookup_eq_some_iff_mem {α : Type} {entries : List (String × α)}
    (hnodup : (entries.map Prod.fst).Nodup) {key : String} {value : α} :
    entries.lookup key = some value ↔ (key, value) ∈ entries := by
  induction entries with
  | nil => simp
  | cons entry rest ih =>
    obtain ⟨k, v⟩ := entry
    rw [List.map_cons, List.nodup_cons] at hnodup
    by_cases hk : key = k
    · subst hk
      have hnew : ∀ v', (key, v') ∉ rest :=
        fun v' hmem => hnodup.1 (List.mem_map.mpr ⟨_, hmem, rfl⟩)
      simp [hnew, eq_comm]
    · simp only [List.lookup_cons, beq_eq_false_iff_ne.mpr hk, ih hnodup.2, List.mem_cons,
        Prod.mk.injEq, hk, false_and, false_or]

/-- What is related to something that was found was found as well. -/
theorem exists_some_of_rel {α β : Type} {R : α → β → Prop} {found : Option α} {found' : Option β}
    (h : Option.Rel R found found') {value : α} (hvalue : found = some value) :
    ∃ value', found' = some value' ∧ R value value' := by
  subst hvalue
  cases h with
  | some hrel => exact ⟨_, rfl, hrel⟩

/-- Where something was not found, what is related to it was not found either. -/
theorem eq_none_of_rel {α β : Type} {R : α → β → Prop} {found : Option α} {found' : Option β}
    (h : Option.Rel R found found') (hnone : found = none) : found' = none := by
  subst hnone
  cases h with
  | none => rfl

/-- Related values that have the same image under two functions are found with that image, or
nothing is found on either side. -/
theorem map_eq_of_rel {α β γ : Type} {R : α → β → Prop} {f : α → γ} {g : β → γ}
    {found : Option α} {found' : Option β} (h : Option.Rel R found found')
    (himage : ∀ value value', found = some value → found' = some value' → R value value' →
      f value = g value') :
    found.map f = found'.map g := by
  cases h with
  | some hrel => exact congrArg some (himage _ _ rfl rfl hrel)
  | none => rfl

namespace OrderedMap

variable {α β : Type} {m m' : OrderedMap α}

/-- What is found under a name is what the entry of that name holds. -/
theorem get?_eq_some_iff {key : String} {value : α} :
    m.get? key = some value ↔ (key, value) ∈ m.entries :=
  lookup_eq_some_iff_mem m.nodup_keys

/-- The values are what is found under some name. -/
theorem mem_values_iff {value : α} : value ∈ m.values ↔ ∃ key, m.get? key = some value := by
  simp [values, get?_eq_some_iff]

/-- The names are those under which something is found. -/
theorem mem_keys_iff {key : String} : key ∈ m.keys ↔ ∃ value, m.get? key = some value := by
  simp [keys, get?_eq_some_iff]

/-- The values are what is found under the names, in their order. -/
theorem values_eq_filterMap (m : OrderedMap α) : m.values = m.keys.filterMap m.get? := by
  have hfound : m.entries.filterMap (fun entry => m.get? entry.1)
      = m.entries.filterMap (some ∘ Prod.snd) :=
    List.filterMap_congr fun entry hentry => get?_eq_some_iff.mpr hentry
  rw [values, keys, List.filterMap_map, ← List.filterMap_eq_map]
  exact hfound.symm

/-- Maps in which something is found under the same names have the same names. -/
theorem keys_perm {m : OrderedMap α} {m' : OrderedMap β}
    (h : ∀ key, (m.get? key).isSome = (m'.get? key).isSome) : m.keys.Perm m'.keys := by
  refine (List.perm_ext_iff_of_nodup m.nodup_keys m'.nodup_keys).mpr fun key => ?_
  have hkey := h key
  rw [Bool.eq_iff_iff, Option.isSome_iff_exists, Option.isSome_iff_exists] at hkey
  rw [← keys, ← keys, mem_keys_iff, mem_keys_iff, hkey]

/-- If two maps agree under every name in what matters about a value, then so do their values, but
for their order. -/
theorem map_values_perm {γ : Type} {m : OrderedMap α} {m' : OrderedMap β} {f : α → γ} {g : β → γ}
    (h : ∀ key, (m.get? key).map f = (m'.get? key).map g) :
    (m.values.map f).Perm (m'.values.map g) := by
  have hkeys : m.keys.Perm m'.keys := keys_perm fun key => by
    simpa using congrArg Option.isSome (h key)
  rw [values_eq_filterMap, values_eq_filterMap, List.map_filterMap, List.map_filterMap]
  have hfound : (fun key => (m.get? key).map f) = fun key => (m'.get? key).map g := funext h
  rw [hfound]
  exact hkeys.filterMap _

end OrderedMap

end BotBindings
