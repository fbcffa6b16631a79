import BotBindings.Proofs.Registry.Sorting
import BotBindings.Proofs.Upload.FileLeaves

/-!
# The arrangement of fields

Fields are compared by whether they are required and by their key. The comparison is a total order,
and it tells any two fields of one map apart, since each has a key of its own. So the fields of a
map can be arranged in one way only: the required ones, then the optional ones, and each of these
two groups by strictly increasing key.
-/

namespace BotBindings

/-! ## The comparison -/

private theorem fieldOrder_eq_swap (a b : Bool × String) : fieldOrder a b =
    (fieldOrder b a).swap := by
  unfold fieldOrder
  rw [Ordering.swap_then, ← Std.OrientedCmp.eq_swap, ← Std.OrientedCmp.eq_swap]

instance : Std.TransCmp fieldOrder where
  eq_swap := fieldOrder_eq_swap _ _
  isLE_trans := fieldLe_trans

instance : Std.LawfulEqCmp fieldOrder where
  compare_self := by simp [fieldOrder]
  eq_of_compare h := by
    rw [fieldOrder, Ordering.then_eq_eq, Std.LawfulEqCmp.compare_eq_iff_eq,
      Std.LawfulEqCmp.compare_eq_iff_eq] at h
    exact Prod.ext h.1.symm h.2

/-- A pair comes before another one if only it is required, or else by its key. -/
theorem fieldOrder_eq_lt_iff {a b : Bool × String} :
    fieldOrder a b = .lt ↔ (a.1 = true ∧ b.1 = false) ∨ (a.1 = b.1 ∧ a.2 < b.2) := by
  rw [fieldOrder, Ordering.then_eq_lt, compare_lt_iff_lt, compare_eq_iff_eq, compare_lt_iff_lt,
    Bool.lt_iff, and_comm (a := b.1 = false), eq_comm (a := b.1) (b := a.1)]

/-! ## Arrangements -/

/-- The required fields stand before the optional ones, and each group is in strictly increasing
order of keys. -/
def IsArranged (fields : List FieldDef) : Prop :=
  ∃ required optional, fields = required ++ optional ∧
    (∀ f ∈ required, f.required = true) ∧ (∀ f ∈ optional, f.required = false) ∧
    required.Pairwise (fun f g => f.key < g.key) ∧ optional.Pairwise (fun f g => f.key < g.key)

/-- A field in front of an arrangement makes a longer one if it comes before all fields there. -/
theorem IsArranged.cons {f : FieldDef} {fields : List FieldDef} (h : IsArranged fields)
    (hfirst : ∀ g ∈ fields, fieldOrder f.rank g.rank = .lt) : IsArranged (f :: fields) := by
  obtain ⟨required, optional, rfl, hrequired, hoptional, hkeys, hkeys'⟩ := h
  simp only [fieldOrder_eq_lt_iff, FieldDef.rank, List.forall_mem_append] at hfirst
  obtain ⟨hfirst, hfirst'⟩ := hfirst
  cases hf : f.required with
  | true =>
    refine ⟨f :: required, optional, rfl, List.forall_mem_cons.mpr ⟨hf, hrequired⟩, hoptional,
      List.pairwise_cons.mpr ⟨fun g hg => ?_, hkeys⟩, hkeys'⟩
    simpa [hf, hrequired g hg] using hfirst g hg
  | false =>
    -- Nothing required stands behind an optional field.
    have hnone : required = [] := by
      refine List.eq_nil_iff_forall_not_mem.mpr fun g hg => ?_
      simpa [hf, hrequired g hg] using hfirst g hg
    subst hnone
    refine ⟨[], f :: optional, rfl, by simp, List.forall_mem_cons.mpr ⟨hf, hoptional⟩, by simp,
      List.pairwise_cons.mpr ⟨fun g hg => ?_, hkeys'⟩⟩
    simpa [hf, hoptional g hg] using hfirst' g hg

/-- In an arrangement every field comes before those that stand behind it. -/
theorem isArranged_iff {fields : List FieldDef} :
    IsArranged fields ↔ fields.Pairwise fun f g => fieldOrder f.rank g.rank = .lt := by
  constructor
  · rintro ⟨required, optional, rfl, hrequired, hoptional, hkeys, hkeys'⟩
    simp only [fieldOrder_eq_lt_iff, FieldDef.rank]
    refine List.pairwise_append.mpr ⟨?_, ?_, fun f hf g hg => ?_⟩
    · exact hkeys.imp_of_mem fun hf hg hlt =>
        Or.inr ⟨(hrequired _ hf).trans (hrequired _ hg).symm, hlt⟩
    · exact hkeys'.imp_of_mem fun hf hg hlt =>
        Or.inr ⟨(hoptional _ hf).trans (hoptional _ hg).symm, hlt⟩
    · exact Or.inl ⟨hrequired f hf, hoptional g hg⟩
  · intro h
    induction fields with
    | nil => exact ⟨[], [], by simp⟩
    | cons f fields ih =>
      obtain ⟨hfirst, hrest⟩ := List.pairwise_cons.mp h
      exact (ih hrest).cons hfirst

/-- Different fields of one map have different keys, so that sorting leaves no two of them tied. -/
theorem Fields.WellKeyed.isArranged_sorted {fields : Fields} (h : fields.WellKeyed) :
    IsArranged fields.sorted := by
  have hkeys : fields.sorted.Pairwise fun f g => f.key ≠ g.key := by
    have hnodup : (fields.sorted.map FieldDef.key).Nodup := by
      rw [(fields.sorted_perm.map FieldDef.key).nodup_iff, h.map_key_values]
      exact fields.nodup_keys
    exact List.pairwise_map.mp hnodup
  refine isArranged_iff.mpr ((fields.pairwise_sorted.and hkeys).imp fun {f g} ⟨hle, hne⟩ => ?_)
  refine fieldOrder_eq_lt_iff.mpr (hle.imp_right fun ⟨hrequired, hkey⟩ => ⟨hrequired, ?_⟩)
  exact lt_of_le_of_ne hkey hne

/-- The order of fields is a total order, and in generated definitions the fields of a map stand in
the one arrangement that there is: required ones first, and each group by strictly increasing
key. -/
theorem Fields.unique_arrangement :
    (∀ a b, fieldOrder a b = .eq ↔ a = b) ∧
    (∀ a b, fieldOrder a b = (fieldOrder b a).swap) ∧
    (∀ a b c, (fieldOrder a b).isLE = true → (fieldOrder b c).isLE = true →
      (fieldOrder a c).isLE = true) ∧
    ∀ fields : Fields, fields.WellKeyed → ∀ arrangement : List FieldDef,
      arrangement.Perm fields.values ∧ IsArranged arrangement ↔ arrangement = fields.sorted := by
  refine ⟨fun _ _ => Std.LawfulEqCmp.compare_eq_iff_eq, fieldOrder_eq_swap,
    fun _ _ _ => Std.TransCmp.isLE_trans, fun fields hkeys arrangement => ?_⟩
  have hsorted := hkeys.isArranged_sorted
  constructor
  · rintro ⟨hperm, harranged⟩
    refine List.Perm.eq_of_pairwise ?_ (isArranged_iff.mp harranged) (isArranged_iff.mp hsorted)
      (hperm.trans fields.sorted_perm.symm)
    intro f g _ _ hfg hgf
    rw [fieldOrder_eq_swap, hgf] at hfg
    cases hfg
  · rintro rfl
    exact ⟨fields.sorted_perm, hsorted⟩

/-- Two required fields and two optional ones, inserted against their order. -/
def mixedFields : Fields :=
  .ofList [("b", ⟨"b", .scalar .string, false⟩), ("d", ⟨"d", .scalar .string, true⟩),
    ("a", ⟨"a", .scalar .string, false⟩), ("c", ⟨"c", .scalar .string, true⟩)]

/-- The required fields come first, though they were inserted behind optional ones. -/
theorem Fields.unique_arrangement_mixedFields :
    mixedFields.WellKeyed ∧
      mixedFields.sorted.map FieldDef.key = ["c", "d", "a", "b"] := by
  have hkeys : mixedFields.WellKeyed := fun key field hget => by
    have hentry : ∀ entry ∈ mixedFields.entries, entry.2.key = entry.1 := by decide
    exact hentry _ (OrderedMap.get?_eq_some_iff.mp hget)
  refine ⟨hkeys, ?_⟩
  let string (key : String) (required : Bool) : FieldDef := ⟨key, .scalar .string, required⟩
  have harranged : IsArranged
      [string "c" true, string "d" true, string "a" false, string "b" false] :=
    ⟨[string "c" true, string "d" true], [string "a" false, string "b" false], rfl,
      by simp [string], by simp [string], by decide, by decide⟩
  have hsorted := (Fields.unique_arrangement.2.2.2 mixedFields hkeys _).mp ⟨by decide, harranged⟩
  rw [← hsorted]
  rfl

end BotBindings
