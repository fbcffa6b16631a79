import BotBindings.Registry.FieldOrder
import Mathlib.Data.String.Basic

/-!
# Sorted lists

Fields are sorted by rank, and types and operations by name. Both orders are total, so a sorted list
does not depend on the order in which its members came, as long as no two of them are equal in rank.
-/

namespace BotBindings

/-- Required comes first, and among equals the smaller key. -/
theorem fieldLe_iff {a b : Bool × String} :
    fieldLe a b = true ↔ (a.1 = true ∧ b.1 = false) ∨ (a.1 = b.1 ∧ a.2 ≤ b.2) := by
  obtain ⟨required, key⟩ := a
  obtain ⟨required', key'⟩ := b
  have hle : (compare key key').isLE = true ↔ key ≤ key' := by
    rw [Ordering.isLE_iff_ne_gt]
    exact (not_congr compare_gt_iff_gt).trans not_lt
  cases required <;> cases required'
  · simpa [fieldLe, fieldOrder, compare] using hle
  · simp [fieldLe, fieldOrder, compare]
  · simp [fieldLe, fieldOrder, compare]
  · simpa [fieldLe, fieldOrder, compare] using hle

/-- The order of fields is transitive. -/
theorem fieldLe_trans {a b c : Bool × String} (hab : fieldLe a b = true)
    (hbc : fieldLe b c = true) : fieldLe a c = true := by
  rw [fieldLe_iff] at hab hbc ⊢
  rcases hab with ⟨ha, hb⟩ | ⟨hab, hle⟩
  · rcases hbc with ⟨hb', -⟩ | ⟨hbc, -⟩
    · simp [hb] at hb'
    · exact Or.inl ⟨ha, hbc ▸ hb⟩
  · rcases hbc with ⟨hb, hc⟩ | ⟨hbc, hle'⟩
    · exact Or.inl ⟨hab ▸ hb, hc⟩
    · exact Or.inr ⟨hab.trans hbc, hle.trans hle'⟩

/-- Of two fields one comes first, or they are equal in rank. -/
theorem fieldLe_total (a b : Bool × String) : (fieldLe a b || fieldLe b a) = true := by
  rw [Bool.or_eq_true, fieldLe_iff, fieldLe_iff]
  obtain ⟨required, key⟩ := a
  obtain ⟨required', key'⟩ := b
  have hkeys := le_total key key'
  cases required <;> cases required' <;> simp [hkeys]

/-- Two fields that each come before the other have the same rank. -/
theorem fieldLe_antisymm {a b : Bool × String} (hab : fieldLe a b = true)
    (hba : fieldLe b a = true) : a = b := by
  rw [fieldLe_iff] at hab hba
  rcases hab with ⟨ha, hb⟩ | ⟨hfirst, hle⟩
  · rcases hba with ⟨hb', -⟩ | ⟨heq, -⟩
    · simp [hb] at hb'
    · simp [ha, hb] at heq
  · rcases hba with ⟨hb, ha⟩ | ⟨-, hle'⟩
    · simp [ha, hb] at hfirst
    · exact Prod.ext hfirst (le_antisymm hle hle')

/-- Sorting neither drops a field nor adds one. -/
theorem Fields.sorted_perm (fields : Fields) : fields.sorted.Perm fields.values :=
  List.mergeSort_perm _ _

/-- Required fields come first, and fields that are both required or both not are in the
order of their keys. -/
theorem Fields.pairwise_sorted (fields : Fields) : fields.sorted.Pairwise fun a b =>
    (a.required = true ∧ b.required = false) ∨ (a.required = b.required ∧ a.key ≤ b.key) := by
  have hsorted : fields.sorted.Pairwise fun a b => fieldLe a.rank b.rank = true := by
    refine List.pairwise_mergeSort ?_ ?_ fields.values
    · intro a b c
      exact fieldLe_trans
    · intro a b
      exact fieldLe_total a.rank b.rank
  exact hsorted.imp fun hle => fieldLe_iff.mp hle

/-- The order of names is transitive. -/
theorem textLe_trans {a b c : String} (hab : textLe a b = true) (hbc : textLe b c = true) :
    textLe a c = true := by
  simp only [textLe, decide_eq_true_eq] at hab hbc ⊢
  exact hab.trans hbc

/-- Of two names one comes first, or they are equal. -/
theorem textLe_total (a b : String) : (textLe a b || textLe b a) = true := by
  simpa [textLe] using le_total a b

/-- Two names that each come before the other are equal. -/
theorem textLe_antisymm {a b : String} (hab : textLe a b = true) (hba : textLe b a = true) :
    a = b := by
  simp only [textLe, decide_eq_true_eq] at hab hba
  exact le_antisymm hab hba

/-- Lists of the same members are sorted into the same list if the order tells any two members
apart. -/
theorem mergeSort_eq_of_perm {α : Type} {le : α → α → Bool}
    (htrans : ∀ a b c, le a b = true → le b c = true → le a c = true)
    (htotal : ∀ a b, (le a b || le b a) = true) {l l' : List α} (hperm : l.Perm l')
    (hantisymm : ∀ a ∈ l, ∀ b ∈ l, le a b = true → le b a = true → a = b) :
    l.mergeSort le = l'.mergeSort le := by
  refine List.Perm.eq_of_pairwise ?_ (List.pairwise_mergeSort htrans htotal l)
    (List.pairwise_mergeSort htrans htotal l')
    ((List.mergeSort_perm l le).trans (hperm.trans (List.mergeSort_perm l' le).symm))
  intro a b ha hb
  exact hantisymm a (List.mem_mergeSort.mp ha) b
    (hperm.mem_iff.mpr (List.mem_mergeSort.mp hb))

/-- Two members that stand against the order change their places. -/
theorem mergeSort_pair {α : Type} {le : α → α → Bool} {a b : α} (h : le a b = false) :
    [a, b].mergeSort le = [b, a] := by
  simp [List.mergeSort, h]

end BotBindings
