import Mathlib.Data.List.Forall2

/-!
# Stages that may fail

A stage of generation or extraction gives a result, or it stops with an error. This file collects
what holds of any such stage: what is known of the parts of a sequence that has come to its end, at
which part a sequence has stopped, and how a result is read off an evaluation. Lists that are
translated member by member are the case that occurs most.
-/

namespace BotBindings

variable {ε α β γ : Type}

/-! ## Sequences -/

/-- A sequence of two stages comes to its end exactly if the first one does and the second one does
so on what the first one gives. -/
theorem bind_eq_ok_iff {x : Except ε α} {f : α → Except ε β} {b : β} :
    x >>= f = .ok b ↔ ∃ a, x = .ok a ∧ f a = .ok b := by
  cases x <;> simp [bind, Except.bind]

/-- A sequence of two stages stops at the first one, or at the second one after the first one has
come to its end. -/
theorem bind_eq_error_iff {x : Except ε α} {f : α → Except ε β} {e : ε} :
    x >>= f = .error e ↔ x = .error e ∨ ∃ a, x = .ok a ∧ f a = .error e := by
  cases x <;> simp [bind, Except.bind]

/-! ## Evaluated results -/

/-- A result is there as an option exactly if it is the result of the stage. -/
theorem toOption_eq_some_iff {x : Except ε α} {a : α} : x.toOption = some a ↔ x = .ok a := by
  cases x <;> simp [Except.toOption]

/-- A stage has a result if an evaluation finds that there is one, whichever it is. -/
theorem exists_eq_ok_of_isSome {x : Except ε α} (h : x.toOption.isSome = true) :
    ∃ a, x = .ok a := by
  obtain ⟨a, ha⟩ := Option.isSome_iff_exists.mp h
  exact ⟨a, toOption_eq_some_iff.mp ha⟩

/-- A stage has a result with the part that an evaluation reads off it. -/
theorem exists_eq_ok_of_map {x : Except ε α} {f : α → β} {b : β} (h : x.toOption.map f = some b) :
    ∃ a, x = .ok a ∧ f a = b := by
  obtain ⟨a, ha, hb⟩ := Option.map_eq_some_iff.mp h
  exact ⟨a, toOption_eq_some_iff.mp ha, hb⟩

/-! ## Lists that are translated member by member -/

/-- A list is translated without an error exactly if every member is. -/
theorem mapM_eq_ok_iff {f : α → Except ε β} {as : List α} {bs : List β} :
    as.mapM f = .ok bs ↔ List.Forall₂ (fun a b => f a = .ok b) as bs := by
  induction as generalizing bs with
  | nil => simp [pure, Except.pure, eq_comm]
  | cons a as ih =>
    simp only [List.mapM_cons, bind_eq_ok_iff, ih, List.forall₂_cons_left_iff]
    constructor
    · rintro ⟨b, hb, rest, hrest, h⟩
      exact ⟨b, rest, hb, hrest, (Except.ok.inj h).symm⟩
    · rintro ⟨b, rest, hb, hrest, rfl⟩
      exact ⟨b, hb, rest, hrest, rfl⟩

/-- Translations of a list that was made from another one are related to its members, if each is
related to the member that it comes from. -/
theorem forall₂_of_mapM_map {f : β → Except ε γ} {g : α → β} {as : List α} {cs : List γ}
    {R : α → γ → Prop} (h : (as.map g).mapM f = .ok cs)
    (hR : ∀ a c, f (g a) = .ok c → R a c) : List.Forall₂ R as cs := by
  have hforall := mapM_eq_ok_iff.mp h
  rw [List.forall₂_map_left_iff] at hforall
  exact hforall.imp fun a c => hR a c

/-- A member of a list is related to the member of the other list at its place. -/
theorem exists_mem_zip_of_forall₂ {R : α → β → Prop} {as : List α} {bs : List β}
    (h : List.Forall₂ R as bs) {a : α} (ha : a ∈ as) : ∃ b, R a b ∧ (a, b) ∈ as.zip bs := by
  induction h with
  | nil => cases ha
  | cons hab _ ih =>
    rcases List.mem_cons.mp ha with rfl | ha
    · exact ⟨_, hab, by simp⟩
    · obtain ⟨b, hb, hmem⟩ := ih ha
      exact ⟨b, hb, List.mem_cons_of_mem _ hmem⟩

/-- A member of a list that was translated without an error has a translation at its place. -/
theorem exists_mem_zip_of_mapM {f : α → Except ε β} {as : List α} {bs : List β}
    (h : as.mapM f = .ok bs) {a : α} (ha : a ∈ as) : ∃ b, f a = .ok b ∧ (a, b) ∈ as.zip bs :=
  exists_mem_zip_of_forall₂ (mapM_eq_ok_iff.mp h) ha

/-- What the translations of a list hold together is known from what each of them holds. -/
theorem mem_flatMap_of_mapM {f : α → Except ε β} {g : β → List γ} {P : α → Prop} {c : γ}
    {as : List α} {bs : List β} (h : as.mapM f = .ok bs)
    (hg : ∀ a ∈ as, ∀ b, f a = .ok b → (c ∈ g b ↔ P a)) :
    c ∈ bs.flatMap g ↔ ∃ a ∈ as, P a := by
  have hforall := mapM_eq_ok_iff.mp h
  clear h
  induction hforall with
  | nil => simp
  | @cons a b as bs hab _ ih =>
    have hfirst := hg a (by simp) b hab
    have hrest := ih fun a ha => hg a (by simp [ha])
    simp [hfirst, hrest]

/-- Translations of which a part that may be missing is known one by one have these parts as a
list. -/
theorem filterMap_eq_of_mapM {f : α → Except ε β} {g : β → Option γ} {g' : α → Option γ}
    {as : List α} {bs : List β} (h : as.mapM f = .ok bs)
    (hg : ∀ a b, f a = .ok b → g b = g' a) : bs.filterMap g = as.filterMap g' := by
  have hforall := mapM_eq_ok_iff.mp h
  clear h
  induction hforall with
  | nil => rfl
  | cons hab _ ih => rw [List.filterMap_cons, List.filterMap_cons, hg _ _ hab, ih]

/-- Translations of which a part is known one by one have these parts as a list. -/
theorem map_eq_of_mapM {f : α → Except ε β} {g : β → γ} {g' : α → γ} {as : List α} {bs : List β}
    (h : as.mapM f = .ok bs) (hg : ∀ a b, f a = .ok b → g b = g' a) : bs.map g = as.map g' := by
  rw [← List.filterMap_eq_map, ← List.filterMap_eq_map]
  exact filterMap_eq_of_mapM h fun a b hab => congrArg some (hg a b hab)

/-- What holds of all translations is what holds of all that was translated. -/
theorem forall_mem_iff_of_mapM {f : α → Except ε β} {P : α → Prop} {Q : β → Prop}
    {as : List α} {bs : List β} (h : as.mapM f = .ok bs)
    (hPQ : ∀ a ∈ as, ∀ b, f a = .ok b → (Q b ↔ P a)) : (∀ b ∈ bs, Q b) ↔ ∀ a ∈ as, P a := by
  have hforall := mapM_eq_ok_iff.mp h
  clear h
  induction hforall with
  | nil => simp
  | @cons a b as bs hab _ ih =>
    rw [List.forall_mem_cons, List.forall_mem_cons]
    exact and_congr (hPQ a (by simp) b hab) (ih fun a' ha' => hPQ a' (by simp [ha']))

/-! ## First failures -/

/-- A list is refused for its first member that is. -/
theorem mapM_eq_error {f : α → Except ε β} {as : List α} {e : ε} (h : as.mapM f = .error e) :
    ∃ front a back, as = front ++ a :: back ∧ f a = .error e ∧
      ∀ earlier ∈ front, ∃ b, f earlier = .ok b := by
  induction as with
  | nil => cases h
  | cons a as ih =>
    rw [List.mapM_cons, bind_eq_error_iff] at h
    rcases h with ha | ⟨b, hb, h⟩
    · exact ⟨[], a, as, rfl, ha, by simp⟩
    · rcases bind_eq_error_iff.mp h with has | ⟨bs, -, h⟩
      · obtain ⟨front, a', back, rfl, ha', hfront⟩ := ih has
        exact ⟨a :: front, a', back, rfl, ha', List.forall_mem_cons.mpr ⟨⟨b, hb⟩, hfront⟩⟩
      · cases h

/-- If a list is sorted, then it is refused for the least of the members that would be. -/
theorem exists_least_of_mapM_eq_error {f : α → Except ε β} {as : List α} {e : ε}
    (h : as.mapM f = .error e) {name : α → String}
    (hsorted : as.Pairwise fun a b => name a ≤ name b) :
    ∃ a ∈ as, f a = .error e ∧ ∀ b ∈ as, (∀ c, f b ≠ .ok c) → name a ≤ name b := by
  obtain ⟨front, a, back, rfl, ha, hfront⟩ := mapM_eq_error h
  refine ⟨a, by simp, ha, fun b hb hfails => ?_⟩
  rcases List.mem_append.mp hb with hb | hb
  · obtain ⟨c, hc⟩ := hfront b hb
    exact absurd hc (hfails c)
  · rcases List.mem_cons.mp hb with rfl | hb
    · exact String.le_refl _
    · have hback := (List.pairwise_append.mp hsorted).2.1
      exact (List.pairwise_cons.mp hback).1 b hb

end BotBindings
