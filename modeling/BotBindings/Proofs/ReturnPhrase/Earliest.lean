import BotBindings.Proofs.ReturnPhrase.Meaning
import BotBindings.Proofs.ReturnPhrase.Stability

/-!
# The first reading of a description

A description may be read as a statement of a return type in several ways. `ReturnPhrase.find` goes
through it once. This file lists all readings, by how they divide the description, and proves that
the one that is found opens earliest and has the shortest gap of those that open there. What it
states is a single type or an array of one.
-/

namespace BotBindings.ReturnPhrase

open Text

/-! ## Readings -/

/-- A way to read the description `s` as a statement of a return type. -/
structure Reading (s : List Char) where
  /-- What stands in front of the opening. -/
  before : List Char
  opening : List Char
  /-- What stands between the opening and the type. -/
  gap : List Char
  /-- The words that state the type. -/
  phrase : List Char
  qualifier : List Char
  closing : List Char
  rest : List Char
  eq_append :
    s = before ++ opening ++ gap ++ phrase ++ qualifier ++ " ".toList ++ closing ++ rest
  opening_mem : opening ∈ ["Returns".toList, "On success,".toList]
  newline_not_mem : '\n' ∉ gap
  isTypePhrase : IsTypePhrase phrase
  qualifier_mem : qualifier ∈ [[], " that were sent".toList, " of the sent message".toList,
    " of the sent messages".toList]
  closing_mem : closing ∈ ["object".toList, "is returned".toList, "on success".toList]

/-- No reading opens earlier, and none that opens at the same place has a shorter gap. -/
def Reading.IsFirst {s : List Char} (r : Reading s) : Prop :=
  ∀ r' : Reading s, r.before.length ≤ r'.before.length ∧
    (r'.before.length = r.before.length → r.gap.length ≤ r'.gap.length)

/-! ## Behind an opening -/

/-- The text `s` holds the type phrase `phrase` behind `gap`, which lies within the line, and a
closing follows it. -/
def ClosedAfter (s gap phrase : List Char) : Prop :=
  '\n' ∉ gap ∧ ∃ after, s = gap ++ (phrase ++ after) ∧ IsTypePhrase phrase ∧ closes after = true

private theorem closedAfter_nil_iff {s phrase : List Char} :
    ClosedAfter s [] phrase ↔ typePhraseAt s = some phrase := by
  simp [ClosedAfter, typePhraseAt_eq_some_iff]

private theorem closedAfter_cons_iff {c d : Char} {rest gap phrase : List Char} :
    ClosedAfter (c :: rest) (d :: gap) phrase ↔
      d = c ∧ c ≠ '\n' ∧ ClosedAfter rest gap phrase := by
  constructor
  · rintro ⟨hline, after, heq, hphrase, hafter⟩
    obtain ⟨rfl, hrest⟩ := List.cons_eq_cons.mp heq
    have hne : c ≠ '\n' := fun h => hline (h ▸ List.mem_cons_self)
    exact ⟨rfl, hne, fun h => hline (List.mem_cons_of_mem c h), after, hrest, hphrase, hafter⟩
  · rintro ⟨rfl, hne, hline, after, rfl, hphrase, hafter⟩
    refine ⟨fun h => ?_, after, rfl, hphrase, hafter⟩
    rcases List.mem_cons.mp h with h | h
    · exact hne h.symm
    · exact hline h

private theorem not_closedAfter_nil (gap phrase : List Char) : ¬ ClosedAfter [] gap phrase := by
  rintro ⟨-, after, heq, hphrase, -⟩
  obtain ⟨-, hrest⟩ := List.append_eq_nil_iff.mp heq.symm
  obtain ⟨rfl, -⟩ := List.append_eq_nil_iff.mp hrest
  exact not_isTypePhrase_nil hphrase

/-- Behind an opening, nothing is found only where there is no closed type phrase in the line. -/
theorem not_closedAfter_of_afterOpening {s : List Char} (h : afterOpening s = none)
    (gap phrase : List Char) : ¬ ClosedAfter s gap phrase := by
  induction s generalizing gap with
  | nil => exact not_closedAfter_nil gap phrase
  | cons c rest ih =>
    rw [afterOpening] at h
    cases hat : typePhraseAt (c :: rest) with
    | some found => simp [hat] at h
    | none =>
      simp only [hat, ite_eq_left_iff] at h
      cases gap with
      | nil =>
        rw [closedAfter_nil_iff, hat]
        simp
      | cons d gap =>
        rw [closedAfter_cons_iff]
        rintro ⟨-, hne, hclosed⟩
        exact ih (h hne) gap hclosed

/-- Behind an opening, the type phrase with the shortest gap is found. -/
theorem exists_shortest_gap {s phrase : List Char} (h : afterOpening s = some phrase) :
    ∃ gap, ClosedAfter s gap phrase ∧
      ∀ gap' phrase', ClosedAfter s gap' phrase' → gap.length ≤ gap'.length := by
  induction s with
  | nil => cases h
  | cons c rest ih =>
    rw [afterOpening] at h
    cases hat : typePhraseAt (c :: rest) with
    | some found =>
      obtain rfl : found = phrase := by simpa [hat] using h
      exact ⟨[], closedAfter_nil_iff.mpr hat, fun gap' _ _ => Nat.zero_le gap'.length⟩
    | none =>
      simp only [hat, Option.ite_none_left_eq_some] at h
      obtain ⟨gap, hclosed, hshortest⟩ := ih h.2
      refine ⟨c :: gap, closedAfter_cons_iff.mpr ⟨rfl, h.1, hclosed⟩, fun gap' phrase' h' => ?_⟩
      cases gap' with
      | nil =>
        rw [closedAfter_nil_iff, hat] at h'
        cases h'
      | cons d gap' =>
        exact Nat.succ_le_succ (hshortest gap' phrase' (closedAfter_cons_iff.mp h').2.2)

/-! ## The whole description -/

/-- The description `s` has an opening behind `before` and then, behind `gap`, the closed type
phrase `phrase`. -/
def ReadsAs (s before gap phrase : List Char) : Prop :=
  ∃ opening ∈ openings, ∃ behind, s = before ++ (opening ++ behind) ∧ ClosedAfter behind gap phrase

private theorem readsAs_nil_iff {s gap phrase : List Char} :
    ReadsAs s [] gap phrase ↔
      ∃ behind, stripAny openings s = some behind ∧ ClosedAfter behind gap phrase := by
  simp only [ReadsAs, List.nil_append, stripAny_openings_eq_some_iff]
  constructor
  · rintro ⟨opening, hmem, behind, heq, hclosed⟩
    exact ⟨behind, ⟨opening, hmem, heq⟩, hclosed⟩
  · rintro ⟨behind, ⟨opening, hmem, heq⟩, hclosed⟩
    exact ⟨opening, hmem, behind, heq, hclosed⟩

private theorem readsAs_cons_iff {c d : Char} {rest before gap phrase : List Char} :
    ReadsAs (c :: rest) (d :: before) gap phrase ↔ d = c ∧ ReadsAs rest before gap phrase := by
  constructor
  · rintro ⟨opening, hmem, behind, heq, hclosed⟩
    obtain ⟨rfl, hrest⟩ := List.cons_eq_cons.mp heq
    exact ⟨rfl, opening, hmem, behind, hrest, hclosed⟩
  · rintro ⟨rfl, opening, hmem, behind, rfl, hclosed⟩
    exact ⟨opening, hmem, behind, rfl, hclosed⟩

private theorem not_readsAs_nil (before gap phrase : List Char) : ¬ ReadsAs
    [] before gap phrase := by
  rintro ⟨opening, hmem, behind, heq, -⟩
  obtain ⟨-, hrest⟩ := List.append_eq_nil_iff.mp heq.symm
  obtain ⟨rfl, -⟩ := List.append_eq_nil_iff.mp hrest
  exact absurd hmem (by decide)

private theorem not_readsAs_of_find {s : List Char} (h : find s = none)
    (before gap phrase : List Char) :
    ¬ ReadsAs s before gap phrase := by
  induction s generalizing before with
  | nil => exact not_readsAs_nil before gap phrase
  | cons c rest ih =>
    rw [find] at h
    cases hopening : (stripAny openings (c :: rest)).bind afterOpening with
    | some found => simp [hopening] at h
    | none =>
      simp only [hopening] at h
      cases before with
      | nil =>
        rw [readsAs_nil_iff]
        rintro ⟨behind, hbehind, hclosed⟩
        rw [hbehind, Option.bind_some] at hopening
        exact not_closedAfter_of_afterOpening hopening gap phrase hclosed
      | cons d before =>
        rw [readsAs_cons_iff]
        exact fun hreads => ih h before hreads.2

/-- The reading that is found opens earliest and has the shortest gap of those that open there. -/
theorem exists_first_of_find {s phrase : List Char} (h : find s = some phrase) :
    ∃ before gap, ReadsAs s before gap phrase ∧
      ∀ before' gap' phrase', ReadsAs s before' gap' phrase' →
        before.length ≤ before'.length ∧
          (before'.length = before.length → gap.length ≤ gap'.length) := by
  induction s with
  | nil => cases h
  | cons c rest ih =>
    rw [find] at h
    cases hopening : (stripAny openings (c :: rest)).bind afterOpening with
    | some found =>
      obtain rfl : found = phrase := by simpa [hopening] using h
      obtain ⟨behind, hbehind, hfound⟩ := Option.bind_eq_some_iff.mp hopening
      obtain ⟨gap, hclosed, hshortest⟩ := exists_shortest_gap hfound
      refine ⟨[], gap, readsAs_nil_iff.mpr ⟨behind, hbehind, hclosed⟩,
        fun before' gap' phrase' h' => ⟨Nat.zero_le before'.length, fun hlength => ?_⟩⟩
      obtain rfl := List.length_eq_zero_iff.mp hlength
      obtain ⟨behind', hbehind', hclosed'⟩ := readsAs_nil_iff.mp h'
      obtain rfl : behind = behind' := Option.some.inj (hbehind.symm.trans hbehind')
      exact hshortest gap' phrase' hclosed'
    | none =>
      simp only [hopening] at h
      obtain ⟨before, gap, hreads, hfirst⟩ := ih h
      refine ⟨c :: before, gap, readsAs_cons_iff.mpr ⟨rfl, hreads⟩,
        fun before' gap' phrase' h' => ?_⟩
      cases before' with
      | nil =>
        obtain ⟨behind, hbehind, hclosed⟩ := readsAs_nil_iff.mp h'
        rw [hbehind, Option.bind_some] at hopening
        exact absurd hclosed (not_closedAfter_of_afterOpening hopening gap' phrase')
      | cons d before' =>
        obtain ⟨hbefore, hgap⟩ := hfirst before' gap' phrase' (readsAs_cons_iff.mp h').2
        exact ⟨Nat.succ_le_succ hbefore, fun hlength => hgap (Nat.succ.inj hlength)⟩

/-- The place of the opening and the length of the gap determine the type phrase. -/
theorem ReadsAs.phrase_eq {s before gap phrase before' gap' phrase' : List Char}
    (h : ReadsAs s before gap phrase) (h' : ReadsAs s before' gap' phrase')
    (hbefore : before.length = before'.length) (hgap : gap.length = gap'.length) :
    phrase = phrase' := by
  obtain ⟨opening, hmem, behind, hs, -, after, hbehind, hphrase, hafter⟩ := h
  obtain ⟨opening', hmem', behind', hs', -, after', hbehind', hphrase', hafter'⟩ := h'
  obtain ⟨-, hopened⟩ := List.append_inj (hs.symm.trans hs') hbefore
  have hstrip : stripAny openings (opening ++ behind) = some behind :=
    stripAny_openings_eq_some_iff.mpr ⟨opening, hmem, rfl⟩
  have hstrip' : stripAny openings (opening ++ behind) = some behind' :=
    stripAny_openings_eq_some_iff.mpr ⟨opening', hmem', hopened⟩
  have hsame : behind = behind' := Option.some.inj (hstrip.symm.trans hstrip')
  rw [hbehind, hbehind'] at hsame
  obtain ⟨-, hrest⟩ := List.append_inj hsame hgap
  have hat : typePhraseAt (phrase ++ after) = some phrase :=
    typePhraseAt_eq_some_iff.mpr ⟨after, rfl, hphrase, hafter⟩
  have hat' : typePhraseAt (phrase ++ after) = some phrase' :=
    typePhraseAt_eq_some_iff.mpr ⟨after', hrest, hphrase', hafter'⟩
  exact Option.some.inj (hat.symm.trans hat')

/-! ## Readings in one piece -/

/-- What ends a type phrase, as readings divide it. -/
theorem mem_endings_iff {ending : List Char} :
    ending ∈ endings ↔ ∃ qualifier ∈ [[], " that were sent".toList, " of the sent message".toList,
        " of the sent messages".toList],
      ∃ closing ∈ ["object".toList, "is returned".toList, "on success".toList],
        ending = qualifier ++ " ".toList ++ closing := by
  constructor
  · revert ending
    decide
  · rintro ⟨qualifier, hqualifier, closing, hclosing, rfl⟩
    revert closing qualifier
    decide

private theorem Reading.readsAs {s : List Char} (r : Reading s) :
    ReadsAs s r.before r.gap r.phrase := by
  have hending := mem_endings_iff.mpr ⟨_, r.qualifier_mem, _, r.closing_mem, rfl⟩
  refine ⟨r.opening, r.opening_mem, _, ?_, r.newline_not_mem, _, rfl, r.isTypePhrase,
    closes_iff.mpr ⟨_, hending, List.prefix_append _ r.rest⟩⟩
  refine r.eq_append.trans ?_
  simp only [List.append_assoc]

private theorem ReadsAs.exists_reading {s before gap phrase : List Char}
    (h : ReadsAs s before gap phrase) :
    ∃ r : Reading s, r.before = before ∧ r.gap = gap ∧ r.phrase = phrase := by
  obtain ⟨opening, hmem, behind, rfl, hline, after, rfl, hphrase, hafter⟩ := h
  obtain ⟨ending, hending, rest, rfl⟩ := closes_iff.mp hafter
  obtain ⟨qualifier, hqualifier, closing, hclosing, rfl⟩ := mem_endings_iff.mp hending
  exact ⟨⟨before, opening, gap, phrase, qualifier, closing, rest, by simp only [List.append_assoc],
    hmem, hline, hphrase, hqualifier, hclosing⟩, rfl, rfl, rfl⟩

/-- The search finds nothing exactly in texts that have no reading. -/
theorem find_eq_none_iff {s : List Char} : find s = none ↔ IsEmpty (Reading s) := by
  constructor
  · exact fun h => ⟨fun r => not_readsAs_of_find h _ _ _ r.readsAs⟩
  · intro hempty
    rw [Option.eq_none_iff_forall_ne_some]
    intro phrase h
    obtain ⟨before, gap, hreads, -⟩ := exists_first_of_find h
    obtain ⟨r, -⟩ := hreads.exists_reading
    exact hempty.false r

/-- What the search finds is the phrase of the first reading. -/
theorem exists_isFirst_of_find {s phrase : List Char} (h : find s = some phrase) :
    ∃ r : Reading s, r.IsFirst ∧ r.phrase = phrase := by
  obtain ⟨before, gap, hreads, hfirst⟩ := exists_first_of_find h
  obtain ⟨r, rfl, rfl, rfl⟩ := hreads.exists_reading
  exact ⟨r, fun r' => hfirst _ _ _ r'.readsAs, rfl⟩

/-- All first readings state the type with the same words. -/
theorem Reading.IsFirst.phrase_eq {s : List Char} {r r' : Reading s} (h : r.IsFirst)
    (h' : r'.IsFirst) : r.phrase = r'.phrase := by
  have hbefore := Nat.le_antisymm (h r').1 (h' r).1
  have hgap := Nat.le_antisymm ((h r').2 hbefore.symm) ((h' r).2 hbefore)
  exact r.readsAs.phrase_eq r'.readsAs hbefore hgap

/-! ## Descriptions -/

/-- A description states a return type if it can be read as a statement of one. The first reading
says which type that is, and all first readings say it with the same words. What they say is a
single type or an array of one. -/
theorem returned?_by_readings (description : String) :
    (TypeExpr.returned? description = none ↔ IsEmpty (Reading description.toList)) ∧
      (Nonempty (Reading description.toList) → ∃ r : Reading description.toList, r.IsFirst) ∧
      (∀ r : Reading description.toList, r.IsFirst →
        TypeExpr.returned? description = some (TypeExpr.ofPhrase (String.ofList r.phrase))) ∧
      (∀ r r' : Reading description.toList, r.IsFirst → r'.IsFirst → r.phrase = r'.phrase) ∧
      ∀ type, TypeExpr.returned? description = some type →
        type.isUnion = false ∧ type.stripArray.isUnion = false ∧
          ∀ element, type.stripArray ≠ .array element := by
  have hfirst (hsome : Nonempty (Reading description.toList)) :
      ∃ phrase, find description.toList = some phrase := by
    refine Option.ne_none_iff_exists'.mp fun hnone => ?_
    exact (find_eq_none_iff.mp hnone).false hsome.some
  refine ⟨?_, ?_, ?_, fun r r' h h' => h.phrase_eq h', ?_⟩
  · rw [TypeExpr.returned?, Option.map_eq_none_iff, find_eq_none_iff]
  · intro hsome
    obtain ⟨phrase, hfind⟩ := hfirst hsome
    obtain ⟨r, hr, -⟩ := exists_isFirst_of_find hfind
    exact ⟨r, hr⟩
  · intro r hr
    obtain ⟨phrase, hfind⟩ := hfirst ⟨r⟩
    obtain ⟨r', hr', rfl⟩ := exists_isFirst_of_find hfind
    rw [TypeExpr.returned?, hfind, TypeExpr.ofPhrase, String.toList_ofList, hr.phrase_eq hr',
      Option.map_some]
  · intro type htype
    obtain ⟨phrase, hfind, rfl⟩ := Option.map_eq_some_iff.mp htype
    obtain ⟨r, -, rfl⟩ := exists_isFirst_of_find hfind
    exact single_of_isTypePhrase r.isTypePhrase

/-- A description with two readings, both of them behind an opening whose line states no type. -/
def twoReadings : String :=
  "Returns it.\nOn success, a Message of the User is returned. Returns an Array of Update objects"

/-- The sentence that comes last states a type too, but the sentence in front of it counts. There, a
gap takes up the name that no closing follows. -/
theorem returned?_by_readings_twoReadings :
    ∃ later r : Reading twoReadings.toList, r.IsFirst ∧ later.phrase = "Array of Update".toList ∧
      TypeExpr.ofPhrase (String.ofList r.phrase) = .named "User" ∧
      (∀ r' : Reading twoReadings.toList, r'.IsFirst → r'.phrase = r.phrase) ∧
      (TypeExpr.named "User").isUnion = false := by
  let later : Reading twoReadings.toList :=
    { before := "Returns it.\nOn success, a Message of the User is returned. ".toList
      opening := "Returns".toList
      gap := " an ".toList
      phrase := "Array of Update".toList
      qualifier := []
      closing := "object".toList
      rest := "s".toList
      eq_append := by decide
      opening_mem := by decide
      newline_not_mem := by decide
      isTypePhrase := ⟨"Array of ".toList, by decide, "Update".toList,
        ⟨by decide, by decide, List.all_eq_true.mp (by decide +kernel)⟩, by decide⟩
      qualifier_mem := by decide
      closing_mem := by decide }
  obtain ⟨-, hfirst, hmeans, hunique, hsingle⟩ := returned?_by_readings twoReadings
  obtain ⟨r, hr⟩ := hfirst ⟨later⟩
  have hreturned : TypeExpr.returned? twoReadings = some (.named "User") := by decide +kernel
  have hphrase := (hmeans r hr).symm.trans hreturned
  exact ⟨later, r, hr, rfl, Option.some.inj hphrase, fun r' hr' => hunique r' r hr' hr,
    (hsingle _ hreturned).1⟩

end BotBindings.ReturnPhrase
