import BotBindings.Proofs.ReturnPhrase.TypePhrase

/-!
# Return phrases in a growing description

A description is read again after every paragraph. This file proves that a return phrase that was
found stays the one that is found when text is added. The point is that no candidate before it can
be completed by the new text: such a candidate runs to the end of the old text, and then no complete
phrase starts inside it.
-/

namespace BotBindings.ReturnPhrase

open Text

/-! ## One position -/

/-- A complete type phrase stays complete. -/
theorem typePhraseAt_append {s phrase : List Char} (h : typePhraseAt s = some phrase)
    (x : List Char) : typePhraseAt (s ++ x) = some phrase := by
  obtain ⟨after, rfl, hphrase, hafter⟩ := typePhraseAt_eq_some_iff.mp h
  exact typePhraseAt_eq_some_iff.mpr
    ⟨after ++ x, by simp, hphrase, closes_append hafter x⟩

/-- Text that is closed only by what is added to it is the beginning of an ending. -/
theorem prefix_ending_of_closes_append {s x : List Char} (hs : closes s = false)
    (h : closes (s ++ x) = true) : ∃ ending ∈ endings, s <+: ending := by
  obtain ⟨ending, hmem, hstarts⟩ := closes_iff.mp h
  rcases List.prefix_or_prefix_of_prefix hstarts (List.prefix_append s x) with hle | hle
  · rw [closes_iff.mpr ⟨ending, hmem, hle⟩] at hs
    cases hs
  · exact ⟨ending, hmem, hle⟩

private theorem not_isCapital_of_mem_prefix_ending {s ending : List Char} (hmem : ending ∈ endings)
    (hstarts : s <+: ending) {c : Char} (hc : c ∈ s) : ¬ IsCapital c := by
  have hall : ∀ ending ∈ endings, ending.all (¬ IsCapital ·) = true := by decide
  exact of_decide_eq_true (List.all_eq_true.mp (hall ending hmem) c (hstarts.subset hc))

/-- After the first character of a type phrase, no blank follows a capital letter. -/
theorem blank_not_mem_of_isTypePhrase {first c : Char} {before after : List Char}
    (hphrase : IsTypePhrase (first :: (before ++ c :: after))) (hcapital : IsCapital c) :
    ' ' ∉ after := by
  obtain ⟨marker, hmarker, name, hname, heq⟩ := hphrase
  have hblank := hname.blank_not_mem
  simp only [markers, List.mem_cons, List.not_mem_nil, or_false] at hmarker
  have htail (letters : List Char) (hletters : ∀ a ∈ letters, ¬ IsCapital a)
      (hjoined : before ++ c :: after = letters ++ name) : ' ' ∉ after := by
    rcases List.append_eq_append_iff.mp hjoined with ⟨more, rfl, hrest⟩ | ⟨more, rfl, rfl⟩
    · cases more with
      | nil =>
        intro hmem
        rw [List.nil_append] at hrest
        exact hblank (hrest ▸ List.mem_cons_of_mem c hmem)
      | cons a more =>
        obtain ⟨rfl, -⟩ := List.cons_eq_cons.mp hrest
        exact absurd hcapital (hletters c (by simp))
    · simp_all
  rcases hmarker with rfl | rfl | rfl
  · intro hmem
    rw [List.nil_append] at heq
    exact hblank (heq ▸ by simp [hmem])
  · exact htail "rray of ".toList (by simp [IsCapital]) (List.cons_eq_cons.mp heq).2
  · exact htail "rray of ".toList (by simp [IsCapital]) (List.cons_eq_cons.mp heq).2

/-- A closed name that starts inside a type phrase is the rest of that phrase, so it is followed by
what follows the phrase. -/
theorem closes_of_closed_name {first c : Char} {before inside word after ending : List Char}
    (hphrase : IsTypePhrase (first :: (before ++ c :: inside))) (hname : IsName (c :: word))
    (hafter : closes after = true) (hending : ∀ a, ending.head? = some a → a = ' ')
    (heq : word ++ after = inside ++ ending) : closes ending = true := by
  obtain ⟨tail, rfl⟩ := exists_cons_of_closes hafter
  rcases List.append_eq_append_iff.mp heq with ⟨more, hinside, hrest⟩ | ⟨more, hword, hrest⟩
  · cases more with
    | nil => rwa [hrest, List.nil_append] at hafter
    | cons a more =>
      have hblank := blank_not_mem_of_isTypePhrase hphrase hname.1
      obtain ⟨rfl, -⟩ := List.cons_eq_cons.mp hrest
      simp [hinside] at hblank
  · cases more with
    | nil => rwa [hrest, List.nil_append]
    | cons a more =>
      have ha : a = ' ' := hending a (by simp [hrest])
      have hmem := hname.2.2 a (by simp [hword])
      simp [ha, isWordChar_blank] at hmem

/-- A closed name that lies behind the first character of a text shows that a type phrase at the
start of the text is complete or cannot be completed. -/
theorem typePhraseAt_append_eq_none {first : Char} {rest name after : List Char}
    (hnone : typePhraseAt (first :: rest) = none) (hname : IsName name)
    (hafter : closes after = true) (hsuffix : name ++ after <:+ rest) (x : List Char) :
    typePhraseAt (first :: rest ++ x) = none := by
  rw [Option.eq_none_iff_forall_ne_some]
  intro phrase hsome
  obtain ⟨after', heq, hphrase, hafter'⟩ := typePhraseAt_eq_some_iff.mp hsome
  obtain ⟨before, rfl⟩ := hsuffix
  cases name with
  | nil => exact hname
  | cons c word =>
    rcases List.append_eq_append_iff.mp heq with ⟨more, rfl, -⟩ | ⟨ending, hold, rfl⟩
    · -- The old text lies inside the phrase.
      obtain ⟨tail, rfl⟩ := exists_cons_of_closes hafter
      have hblank : ' ' ∉ word ++ ' ' :: tail ++ more :=
        blank_not_mem_of_isTypePhrase (by simpa using hphrase) hname.1
      simp at hblank
    · -- The phrase lies inside the old text and only its ending is incomplete.
      have hopen : closes ending = false := by
        rw [← Bool.not_eq_true]
        intro hcloses
        rw [hold, typePhraseAt_eq_some_iff.mpr ⟨ending, rfl, hphrase, hcloses⟩] at hnone
        cases hnone
      obtain ⟨full, hfull, hstarts⟩ := prefix_ending_of_closes_append hopen hafter'
      have hcapital : c ∉ ending := fun hc =>
        not_isCapital_of_mem_prefix_ending hfull hstarts hc hname.1
      cases phrase with
      | nil => exact not_isTypePhrase_nil hphrase
      | cons c' inside =>
        obtain ⟨rfl, hrest⟩ := List.cons_eq_cons.mp hold
        rcases List.append_eq_append_iff.mp hrest with ⟨more, rfl, hmore⟩ | ⟨more, -, rfl⟩
        · cases more with
          | nil =>
            rw [← show c :: word ++ after = ending from hmore] at hcapital
            exact hcapital (by simp)
          | cons c' more =>
            obtain ⟨rfl, hword⟩ := List.cons_eq_cons.mp hmore
            rw [closes_of_closed_name hphrase hname hafter ?_ hword] at hopen
            · cases hopen
            · intro a ha
              obtain ⟨tail, rfl⟩ := exists_cons_of_mem_endings hfull
              rw [List.prefix_cons_iff] at hstarts
              rcases hstarts with rfl | ⟨init, rfl, -⟩
              · cases ha
              · simpa using ha.symm
        · exact hcapital (by simp)

/-! ## A line -/

/-- A type phrase that a closing follows holds a closed name. -/
theorem exists_closed_name {s phrase : List Char} (h : typePhraseAt s = some phrase) :
    ∃ name after, IsName name ∧ closes after = true ∧ name ++ after <:+ s := by
  obtain ⟨after, rfl, ⟨marker, -, name, hname, rfl⟩, hafter⟩ := typePhraseAt_eq_some_iff.mp h
  exact ⟨name, after, hname, hafter, marker, by simp⟩

/-- What is found after an opening is a closed name, possibly behind a marker. -/
theorem exists_closed_name_of_afterOpening {s phrase : List Char}
    (h : afterOpening s = some phrase) :
    ∃ name after, IsName name ∧ closes after = true ∧ name ++ after <:+ s := by
  induction s with
  | nil => simp [afterOpening] at h
  | cons c rest ih =>
    simp only [afterOpening] at h
    cases hat : typePhraseAt (c :: rest) with
    | some found => exact exists_closed_name hat
    | none =>
      simp only [hat, Option.ite_none_left_eq_some] at h
      obtain ⟨name, after, hname, hafter, hsuffix⟩ := ih h.2
      exact ⟨name, after, hname, hafter, hsuffix.trans (List.suffix_cons c rest)⟩

/-- A closed name in a line is found, or a phrase before it. -/
theorem afterOpening_isSome {s name after : List Char} (hline : '\n' ∉ s) (hname : IsName name)
    (hafter : closes after = true) (hsuffix : name ++ after <:+ s) :
    (afterOpening s).isSome = true := by
  induction s with
  | nil =>
    cases name with
    | nil => exact False.elim hname
    | cons c word => simp at hsuffix
  | cons c rest ih =>
    simp only [afterOpening]
    cases hat : typePhraseAt (c :: rest) with
    | some found => rfl
    | none =>
      have hne : c ≠ '\n' := fun heq => hline (heq ▸ List.mem_cons_self)
      rcases List.suffix_cons_iff.mp hsuffix with heq | hrest
      · have hsome : typePhraseAt (c :: rest) = some name := typePhraseAt_eq_some_iff.mpr
          ⟨after, heq.symm, ⟨[], by simp [markers], name, hname, rfl⟩, hafter⟩
        rw [hsome] at hat
        cases hat
      · simpa [hne] using ih (fun hmem => hline (List.mem_cons_of_mem c hmem)) hrest

/-- The first type phrase of a line stays the first when text is added. -/
theorem afterOpening_append {s phrase : List Char} (h : afterOpening s = some phrase)
    (x : List Char) : afterOpening (s ++ x) = some phrase := by
  induction s with
  | nil => simp [afterOpening] at h
  | cons c rest ih =>
    simp only [afterOpening] at h
    simp only [List.cons_append, afterOpening]
    cases hat : typePhraseAt (c :: rest) with
    | some found =>
      rw [hat] at h
      rw [← List.cons_append, typePhraseAt_append hat]
      exact h
    | none =>
      simp only [hat, Option.ite_none_left_eq_some] at h
      obtain ⟨name, after, hname, hafter, hsuffix⟩ := exists_closed_name_of_afterOpening h.2
      rw [← List.cons_append, typePhraseAt_append_eq_none hat hname hafter hsuffix]
      simpa [h.1] using ih h.2

/-! ## A description -/

/-- An opening is stripped off a text exactly if the text starts with it: no other opening fits too.
-/
theorem stripAny_openings_eq_some_iff {s after : List Char} :
    stripAny openings s = some after ↔ ∃ opening ∈ openings, s = opening ++ after := by
  constructor
  · intro h
    obtain ⟨opening, hmem, hstrip⟩ := List.exists_of_findSome?_eq_some h
    exact ⟨opening, hmem, stripFront_eq_some_iff.mp hstrip⟩
  · rintro ⟨opening, hmem, rfl⟩
    simp only [openings, List.mem_cons, List.not_mem_nil, or_false] at hmem
    rcases hmem with rfl | rfl
    · simp only [stripAny, openings, List.findSome?_cons, stripFront_append]
    · have hstrip : stripFront "Returns".toList ("On success,".toList ++ after) = none := rfl
      simp only [stripAny, openings, List.findSome?_cons, hstrip, stripFront_append]

/-- No opening starts inside an opening, so the search goes on behind it. -/
theorem find_of_opening {c : Char} {rest after : List Char}
    (h : stripAny openings (c :: rest) = some after) : find rest = find after := by
  obtain ⟨opening, hmem, heq⟩ := stripAny_openings_eq_some_iff.mp h
  have hskip (letters : List Char) (hletters : ∀ a ∈ letters, a ≠ 'R' ∧ a ≠ 'O') :
      find (letters ++ after) = find after := by
    induction letters with
    | nil => rfl
    | cons a letters ih =>
      obtain ⟨hR, hO⟩ := hletters a (by simp)
      have hnone : stripAny openings (a :: (letters ++ after)) = none := by
        simp [stripAny, openings, stripFront, Ne.symm hR, Ne.symm hO]
      simp only [List.cons_append, find, hnone, Option.bind_none]
      exact ih fun b hb => hletters b (List.mem_cons_of_mem a hb)
  simp only [openings, List.mem_cons, List.not_mem_nil, or_false] at hmem
  rcases hmem with rfl | rfl
  · obtain ⟨-, rfl⟩ := List.cons_eq_cons.mp heq
    exact hskip "eturns".toList (by simp)
  · obtain ⟨-, rfl⟩ := List.cons_eq_cons.mp heq
    exact hskip "n success,".toList (by simp)

/-- What is found in a description is a closed name, possibly behind a marker. -/
theorem exists_closed_name_of_find {s phrase : List Char} (h : find s = some phrase) :
    ∃ name after, IsName name ∧ closes after = true ∧ name ++ after <:+ s := by
  induction s with
  | nil => simp [find] at h
  | cons c rest ih =>
    simp only [find] at h
    split at h
    · rename_i found hfound
      obtain ⟨behind, hopening, hbehind⟩ := Option.bind_eq_some_iff.mp hfound
      obtain ⟨opening, -, heq⟩ := stripAny_openings_eq_some_iff.mp hopening
      obtain ⟨name, after, hname, hafter, hsuffix⟩ := exists_closed_name_of_afterOpening hbehind
      exact ⟨name, after, hname, hafter, heq ▸ hsuffix.trans (List.suffix_append opening behind)⟩
    · obtain ⟨name, after, hname, hafter, hsuffix⟩ := ih h
      exact ⟨name, after, hname, hafter, hsuffix.trans (List.suffix_cons c rest)⟩

/-- Added text completes no opening in front of a closed name. -/
theorem stripAny_openings_append_eq_none {c : Char} {rest name after : List Char}
    (hnone : stripAny openings (c :: rest) = none) (hname : IsName name)
    (hsuffix : name ++ after <:+ rest) (x : List Char) :
    stripAny openings (c :: rest ++ x) = none := by
  rw [Option.eq_none_iff_forall_ne_some]
  intro behind hsome
  obtain ⟨opening, hmem, heq⟩ := stripAny_openings_eq_some_iff.mp hsome
  have hstarts : c :: rest <+: opening := by
    have hopening : opening <+: c :: rest ++ x := ⟨behind, heq.symm⟩
    rcases List.prefix_or_prefix_of_prefix hopening (List.prefix_append (c :: rest) x) with
      ⟨tail, htail⟩ | hle
    · rw [stripAny_openings_eq_some_iff.mpr ⟨opening, hmem, htail.symm⟩] at hnone
      cases hnone
    · exact hle
  have hcapital : ∀ opening ∈ openings, opening.tail.all (¬ IsCapital ·) = true := by decide
  cases name with
  | nil => exact hname
  | cons a word =>
    have hmemTail : a ∈ opening.tail := by
      obtain ⟨tail, rfl⟩ := hstarts
      exact List.mem_append_left tail (hsuffix.subset (by simp))
    have hnot := List.all_eq_true.mp (hcapital opening hmem) a hmemTail
    exact of_decide_eq_true hnot hname.1

/-- A return phrase that was found in a line stays the one that is found when text is added. -/
theorem find_append {s phrase : List Char} (hline : '\n' ∉ s) (h : find s = some phrase)
    (x : List Char) : find (s ++ x) = some phrase := by
  induction s with
  | nil => simp [find] at h
  | cons c rest ih =>
    have hrest : '\n' ∉ rest := fun hmem => hline (List.mem_cons_of_mem c hmem)
    simp only [List.cons_append, find] at h ⊢
    cases hopening : stripAny openings (c :: rest) with
    | some behind =>
      obtain ⟨opening, hmem, heq⟩ := stripAny_openings_eq_some_iff.mp hopening
      have hlonger : stripAny openings (c :: (rest ++ x)) = some (behind ++ x) :=
        stripAny_openings_eq_some_iff.mpr
          ⟨opening, hmem, by rw [← List.cons_append, heq, List.append_assoc]⟩
      rw [hopening, Option.bind_some] at h
      rw [hlonger, Option.bind_some]
      cases hbehind : afterOpening behind with
      | some found =>
        rw [hbehind] at h
        rw [afterOpening_append hbehind x]
        exact h
      | none =>
        -- In a line, a later reading would also be one of this opening.
        rw [hbehind, find_of_opening hopening] at h
        obtain ⟨name, after, hname, hafter, hsuffix⟩ := exists_closed_name_of_find h
        have hbehindLine : '\n' ∉ behind := by
          intro hnewline
          exact hline (heq ▸ List.mem_append_right opening hnewline)
        have hsome := afterOpening_isSome hbehindLine hname hafter hsuffix
        rw [hbehind] at hsome
        cases hsome
    | none =>
      rw [hopening, Option.bind_none] at h
      obtain ⟨name, after, hname, -, hsuffix⟩ := exists_closed_name_of_find h
      have hnone := stripAny_openings_append_eq_none hopening hname hsuffix x
      rw [List.cons_append] at hnone
      rw [hnone, Option.bind_none]
      exact ih hrest h

end BotBindings.ReturnPhrase
