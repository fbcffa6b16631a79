import BotBindings.Code.Identifier
import Mathlib

/-!
# Numbered names

A name that is taken gets the first number that is free. There is always one among one more numbers
than there are taken names, so names that are numbered one after the other are all different.
-/

namespace BotBindings.Code

/-- The name itself if it is free, and otherwise the name with the smallest number from 2 on that
is free. -/
inductive IsFirstFree (taken : List String) (name : String) : String → Prop
  | unnumbered (hfree : name ∉ taken) : IsFirstFree taken name name
  | numbered {number : Nat} (htaken : name ∈ taken) (hnumber : 2 ≤ number)
      (hsmaller : ∀ n, 2 ≤ n → n < number → name ++ toString n ∈ taken)
      (hfree : name ++ toString number ∉ taken) :
      IsFirstFree taken name (name ++ toString number)

private theorem IsFirstFree.not_mem {taken : List String} {name candidate : String}
    (h : IsFirstFree taken name candidate) : candidate ∉ taken := by
  cases h with
  | unnumbered hfree => exact hfree
  | numbered _ _ _ hfree => exact hfree

/-- What is free depends on the names that are taken, not on their order. -/
theorem IsFirstFree.perm {taken taken' : List String} {name candidate : String}
    (h : IsFirstFree taken name candidate) (hperm : taken.Perm taken') :
    IsFirstFree taken' name candidate := by
  cases h with
  | unnumbered hfree => exact .unnumbered fun hmem => hfree (hperm.mem_iff.mpr hmem)
  | numbered htaken hnumber hsmaller hfree =>
    refine .numbered (hperm.mem_iff.mp htaken) hnumber (fun n hle hlt => ?_)
      fun hmem => hfree (hperm.mem_iff.mpr hmem)
    exact hperm.mem_iff.mp (hsmaller n hle hlt)

/-- A search for a free number passes over numbers that are taken. It ends at one that is free
unless it comes to its last one. -/
theorem exists_firstFree_eq (taken : List String) (name : String) (left n : Nat) :
    ∃ number, n ≤ number ∧ firstFree taken name left n = name ++ toString number ∧
      (∀ k, n ≤ k → k < number → name ++ toString k ∈ taken) ∧
      (name ++ toString number ∉ taken ∨ number = n + left) := by
  induction left generalizing n with
  | zero =>
    exact ⟨n, Nat.le_refl n, rfl, fun k hle hlt => absurd hlt (Nat.not_lt.mpr hle), Or.inr rfl⟩
  | succ left ih =>
    rw [firstFree]
    by_cases hmem : name ++ toString n ∈ taken
    · rw [if_pos (by simpa using hmem)]
      obtain ⟨number, hle, heq, hsmaller, hend⟩ := ih (n + 1)
      refine ⟨number, by omega, heq, fun k hk hlt => ?_, hend.imp_right (by omega)⟩
      rcases Nat.eq_or_lt_of_le hk with rfl | hk
      · exact hmem
      · exact hsmaller k hk hlt
    · rw [if_neg (by simpa using hmem)]
      exact ⟨n, Nat.le_refl n, rfl, fun k hle hlt => absurd hlt (Nat.not_lt.mpr hle), Or.inl hmem⟩

/-- Different numbers give different names, so no more numbers are taken than there are names. -/
theorem le_length_of_numbered_mem {taken : List String} (name : String) {n : Nat}
    (h : ∀ k, 2 ≤ k → k < n + 2 → name ++ toString k ∈ taken) : n ≤ taken.length := by
  let tried := (List.range n).map fun i => name ++ toString (2 + i)
  have hinjective : Function.Injective fun i : Nat => name ++ toString (2 + i) := by
    intro i j hij
    have heq := Nat.repr_inj.mp ((String.append_right_inj name).mp hij)
    omega
  have hnodup : tried.Nodup := List.nodup_range.map hinjective
  have hsubset : tried ⊆ taken := by
    intro candidate hcandidate
    obtain ⟨i, hi, rfl⟩ := List.mem_map.mp hcandidate
    have := List.mem_range.mp hi
    exact h (2 + i) (by omega) (by omega)
  have hlength := (hnodup.subperm hsubset).length_le
  simpa [tried] using hlength

/-- Numbering gives the first free name: its search tries one number more than there are taken
names. -/
theorem isFirstFree_uniqueName (taken : List String) (name : String) :
    IsFirstFree taken name (uniqueName taken name) := by
  unfold uniqueName
  split
  · rename_i htaken
    obtain ⟨number, hle, heq, hsmaller, hend⟩ := exists_firstFree_eq taken name taken.length 2
    rw [heq]
    refine .numbered (by simpa using htaken) hle hsmaller (hend.elim id fun hlast hmem => ?_)
    -- All the numbers that were tried would be taken, and there is one more of them than names.
    have hall : taken.length + 1 ≤ taken.length := by
      refine le_length_of_numbered_mem name fun k hk hlt => ?_
      rcases Nat.eq_or_lt_of_le (show k ≤ number by omega) with rfl | hk'
      · exact hmem
      · exact hsmaller k hk hk'
    omega
  · rename_i hfree
    exact .unnumbered (by simpa using hfree)

/-- A numbered name is not taken. -/
theorem uniqueName_not_mem (taken : List String) (name : String) :
    uniqueName taken name ∉ taken :=
  (isFirstFree_uniqueName taken name).not_mem

/-- Numbering only appends digits to a name. -/
theorem IsFirstFree.exists_eq_append {taken : List String} {name candidate : String}
    (h : IsFirstFree taken name candidate) :
    ∃ digits : List Char, candidate.toList = name.toList ++ digits ∧
      ∀ c ∈ digits, c.isDigit = true := by
  cases h with
  | unnumbered _ => exact ⟨[], by simp⟩
  | @numbered number _ _ _ _ =>
    refine ⟨Nat.toDigits 10 number, ?_, fun c =>
      Nat.isDigit_of_mem_toDigits (by decide) (by decide)⟩
    rw [String.toList_append, Nat.toString_eq_ofList_toDigits, String.toList_ofList]

/-- A numbered name holds the characters of the name and digits. -/
theorem isDigit_or_mem_of_mem_uniqueName {taken : List String} {name : String} {c : Char}
    (hc : c ∈ (uniqueName taken name).toList) : c ∈ name.toList ∨ c.isDigit = true := by
  obtain ⟨digits, heq, hdigits⟩ := (isFirstFree_uniqueName taken name).exists_eq_append
  rw [heq, List.mem_append] at hc
  exact hc.imp_right (hdigits c)

/-- A numbered name starts with the name. -/
theorem prefix_uniqueName (taken : List String) (name : String) :
    name.toList <+: (uniqueName taken name).toList := by
  obtain ⟨digits, heq, -⟩ := (isFirstFree_uniqueName taken name).exists_eq_append
  exact ⟨digits, heq.symm⟩

/-- Names with numbers where they are taken, by other names or by earlier ones of the list. -/
def numberedNames : List String → List String → List String
  | _, [] => []
  | taken, name :: rest =>
    let candidate := uniqueName taken name
    candidate :: numberedNames (candidate :: taken) rest

/-- At each place there is the name of that place, numbered if need be. -/
theorem exists_getElem?_numberedNames {taken names : List String} {i : Nat} {name : String}
    (h : names[i]? = some name) :
    ∃ taken', (numberedNames taken names)[i]? = some (uniqueName taken' name) := by
  induction names generalizing taken i with
  | nil => cases h
  | cons first names ih =>
    cases i with
    | zero =>
      cases h
      exact ⟨taken, rfl⟩
    | succ i => exact ih h

/-- Names that are numbered one after the other are not taken before. -/
theorem numberedNames_not_mem {taken names : List String} {candidate : String}
    (h : candidate ∈ numberedNames taken names) : candidate ∉ taken := by
  induction names generalizing taken with
  | nil => cases h
  | cons name names ih =>
    rcases List.mem_cons.mp h with rfl | h
    · exact uniqueName_not_mem taken name
    · exact fun hmem => ih h (List.mem_cons_of_mem _ hmem)

/-- Numbered names are all different. -/
theorem nodup_numberedNames (taken names : List String) : (numberedNames taken names).Nodup := by
  induction names generalizing taken with
  | nil => exact List.nodup_nil
  | cons name names ih =>
    refine List.nodup_cons.mpr ⟨fun hmem => ?_, ih _⟩
    exact numberedNames_not_mem hmem List.mem_cons_self

/-- Names that are numbered one after the other hold the characters of the names and digits. -/
theorem isDigit_or_mem_of_mem_numberedNames {taken names : List String} {candidate : String}
    (h : candidate ∈ numberedNames taken names) {c : Char} (hc : c ∈ candidate.toList) :
    (∃ name ∈ names, c ∈ name.toList) ∨ c.isDigit = true := by
  induction names generalizing taken with
  | nil => cases h
  | cons name names ih =>
    rcases List.mem_cons.mp h with rfl | h
    · exact (isDigit_or_mem_of_mem_uniqueName hc).imp_left fun hmem => ⟨name, by simp, hmem⟩
    · exact (ih h).imp_left fun ⟨other, hother, hmem⟩ => ⟨other, by simp [hother], hmem⟩

end BotBindings.Code
