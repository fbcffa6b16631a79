import BotBindings.Proofs.Code.Names

/-!
# Attempts at a name

A name is found by attempts: the name itself is tried first, and as long as the candidate is in use
the next one has the next number, without a bound on how many are tried. The attempts always end,
with the name that is chosen here by a bounded search. Requests that are served one after the other
share the names in use, so all names that are found are different.
-/

namespace BotBindings.Code

/-! ## One request -/

/-- So many attempts lead from a candidate, and the number for the candidate after it, to the name
that is found. No attempt changes which names are in use. -/
inductive Attempts (used : List String) (name : String) : Nat → String → Nat → String → Prop
  | found {candidate : String} {number : Nat} (hfree : candidate ∉ used) :
      Attempts used name 1 candidate number candidate
  | again {count : Nat} {candidate : String} {number : Nat} {found : String}
      (hused : candidate ∈ used)
      (hrest : Attempts used name count (name ++ toString number) (number + 1) found) :
      Attempts used name (count + 1) candidate number found

variable {used names : List String} {name : String}

/-- Attempts from the same candidate on find the same name. -/
theorem Attempts.found_eq {count count' number : Nat} {candidate found found' : String}
    (h : Attempts used name count candidate number found)
    (h' : Attempts used name count' candidate number found') : found = found' := by
  induction h generalizing count' with
  | found hfree =>
    cases h' with
    | found _ => rfl
    | again hused _ => exact absurd hused hfree
  | again hused _ ih =>
    cases h' with
    | found hfree => exact absurd hused hfree
    | again _ hrest => exact ih hrest

/-- Attempts go on through numbers that are taken. -/
theorem attempts_of_numbered {number : Nat} (hfree : name ++ toString number ∉ used)
    (distance n : Nat) (hdistance : n + distance = number)
    (hsmaller : ∀ k, n ≤ k → k < number → name ++ toString k ∈ used) :
    Attempts used name (distance + 1) (name ++ toString n) (n + 1) (name ++ toString number) := by
  induction distance generalizing n with
  | zero =>
    obtain rfl : n = number := hdistance
    exact .found hfree
  | succ distance ih =>
    refine .again (hsmaller n (Nat.le_refl n) (by omega)) (ih (n + 1) (by omega) ?_)
    exact fun k hle hlt => hsmaller k (by omega) hlt

/-- The first name that is free is found, with at most two more attempts than names are in use. -/
theorem IsFirstFree.exists_attempts {candidate : String}
    (h : IsFirstFree used name candidate) :
    ∃ count ≤ used.length + 2, Attempts used name count name 2 candidate := by
  cases h with
  | unnumbered hfree => exact ⟨1, by omega, .found hfree⟩
  | @numbered number hused hnumber hsmaller hfree =>
    have hlength : number - 2 ≤ used.length :=
      le_length_of_numbered_mem name fun k hle hlt => hsmaller k hle (by omega)
    refine ⟨number - 2 + 1 + 1, by omega, .again hused ?_⟩
    exact attempts_of_numbered hfree (number - 2) 2 (by omega) hsmaller

/-- Attempts at a name end, and they end with the name that the bounded search chooses. -/
theorem exists_attempts_iff {found : String} :
    (∃ count, Attempts used name count name 2 found) ↔ found = uniqueName used name := by
  obtain ⟨count, -, hattempts⟩ := (isFirstFree_uniqueName used name).exists_attempts
  constructor
  · rintro ⟨count', hattempts'⟩
    exact hattempts'.found_eq hattempts
  · rintro rfl
    exact ⟨count, hattempts⟩

/-! ## Requests in a row -/

/-- Requests for names, served one after the other: the names in use before and after them, and the
names that are found. -/
inductive Requests : List String → List String → List String → List String → Prop
  | nil {used : List String} : Requests used [] used []
  | cons {used names used' found : List String} {name candidate : String} {count : Nat}
      (hfirst : Attempts used name count name 2 candidate)
      (hrest : Requests (candidate :: used) names used' found) :
      Requests used (name :: names) used' (candidate :: found)

/-- All requests are served, with the numbered names, and these come to the names in use. -/
theorem requests_iff {used' found : List String} :
    Requests used names used' found ↔
      found = numberedNames used names ∧ used' = found.reverse ++ used := by
  constructor
  · intro h
    induction h with
    | nil => exact ⟨rfl, rfl⟩
    | cons hfirst _ ih =>
      obtain rfl := exists_attempts_iff.mp ⟨_, hfirst⟩
      obtain ⟨hfound, hused⟩ := ih
      exact ⟨congrArg _ hfound, by simpa using hused⟩
  · rintro ⟨rfl, rfl⟩
    induction names generalizing used with
    | nil => exact .nil
    | cons name names ih =>
      obtain ⟨count, hfirst⟩ := exists_attempts_iff.mpr (rfl : uniqueName used name = _)
      have hrest := @ih (uniqueName used name :: used)
      rw [numberedNames, List.reverse_cons, List.append_assoc]
      exact .cons hfirst hrest

/-- At each place stands the first name that is free, given the names before it. -/
theorem exists_isFirstFree_of_getElem? {i : Nat} (h : names[i]? = some name) :
    ∃ candidate, (numberedNames used names)[i]? = some candidate ∧
      IsFirstFree ((numberedNames used names).take i ++ used) name candidate := by
  induction names generalizing used i with
  | nil => cases h
  | cons first names ih =>
    cases i with
    | zero =>
      cases h
      exact ⟨_, rfl, isFirstFree_uniqueName used _⟩
    | succ i =>
      obtain ⟨candidate, hcandidate, hfree⟩ := @ih (uniqueName used first :: used) i h
      exact ⟨candidate, hcandidate, hfree.perm List.perm_middle⟩

/-- Whatever names are requested in a row, each request is served after finitely many attempts. The
names that are found are different from each other and from those in use before; each is the name
requested if that is free at this point, and otherwise the one with the smallest number from 2 on
that is free. Names in use stay in use. The variants of an enum get their names this way. -/
theorem requests_served (used names : List String) :
    (∀ used' found, Requests used names used' found ↔
      found = numberedNames used names ∧ used' = found.reverse ++ used) ∧
    (numberedNames used names).Nodup ∧
    (∀ candidate ∈ numberedNames used names, candidate ∉ used) ∧
    (∀ i name, names[i]? = some name → ∃ candidate,
      (numberedNames used names)[i]? = some candidate ∧
      (∃ count ≤ i + used.length + 2,
        Attempts ((numberedNames used names).take i ++ used) name count name 2 candidate) ∧
      IsFirstFree ((numberedNames used names).take i ++ used) name candidate) ∧
    ∀ item enumName wanted variants, wanted.map WantedVariant.name = names →
      enumVariants item enumName used wanted = .ok variants →
      variants.map EnumVariant.name = (numberedNames used names).map Identifier.ofName := by
  refine ⟨fun _ _ => requests_iff, nodup_numberedNames used names,
    fun _ => numberedNames_not_mem, fun i name hname => ?_, ?_⟩
  · obtain ⟨candidate, hcandidate, hfree⟩ := @exists_isFirstFree_of_getElem? used names name i hname
    obtain ⟨count, hcount, hattempts⟩ := hfree.exists_attempts
    refine ⟨candidate, hcandidate, ⟨count, ?_, hattempts⟩, hfree⟩
    have htake : ((numberedNames used names).take i).length ≤ i := List.length_take_le _ _
    rw [List.length_append] at hcount
    omega
  · rintro item enumName wanted variants rfl hvariants
    exact map_name_enumVariants hvariants

/-- A name that looks like a numbered one is numbered itself if it comes too late. -/
theorem requests_served_lookalike :
    Requests [] ["Foo", "Foo", "Foo2"] ["Foo22", "Foo2", "Foo"] ["Foo", "Foo2", "Foo22"] ∧
      IsFirstFree ["Foo", "Foo2"] "Foo2" "Foo22" := by
  have hfound : ["Foo", "Foo2", "Foo22"] = numberedNames [] ["Foo", "Foo", "Foo2"] := by decide
  obtain ⟨hrequests, -, -, hplaces, -⟩ := requests_served [] ["Foo", "Foo", "Foo2"]
  obtain ⟨candidate, hcandidate, -, hfree⟩ := hplaces 2 "Foo2" rfl
  rw [← hfound] at hcandidate hfree
  obtain rfl : "Foo22" = candidate := Option.some.inj hcandidate
  exact ⟨(hrequests _ _).mpr ⟨hfound, rfl⟩, hfree⟩

end BotBindings.Code
