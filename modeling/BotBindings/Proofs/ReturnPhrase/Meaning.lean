import BotBindings.Proofs.Phrase.Prose
import BotBindings.Proofs.ReturnPhrase.TypePhrase

/-!
# What a type phrase means

A description states a type by a name, possibly behind an array marker. A name has neither blanks
nor commas, so as a phrase it is one alternative, even where it starts like a list of media. It
follows that the type is a single one or an array of a single one.
-/

namespace BotBindings.ReturnPhrase

open Text

/-! ## Names as phrases -/

private theorem isBlank_eq_false_of_isWordChar {c : Char} (h : isWordChar c = true) :
    isBlank c = false := by
  have htable : blank.all (fun run => (List.range' run.first (run.last + 1 - run.first)).all
      fun n => wordChar.all fun wordRun => !wordRun.contains n) = true := by decide +kernel
  rw [Bool.eq_false_iff]
  intro hblank
  obtain ⟨run, hrun, hcontains⟩ := List.any_eq_true.mp hblank
  obtain ⟨wordRun, hwordRun, hword⟩ := List.any_eq_true.mp h
  simp only [CodeRun.contains, Bool.and_eq_true, decide_eq_true_eq] at hcontains
  have hmem : c.toNat ∈ List.range' run.first (run.last + 1 - run.first) := by
    rw [List.mem_range'_1]
    omega
  have hnot := List.all_eq_true.mp (List.all_eq_true.mp
    (List.all_eq_true.mp htable run hrun) _ hmem) wordRun hwordRun
  rw [hword] at hnot
  cases hnot

private theorem IsName.ne_nil {name : List Char} (h : IsName name) : name ≠ [] := by
  rintro rfl
  exact h

private theorem IsName.isBlank_eq_false {name : List Char} (h : IsName name) :
    ∀ c ∈ name, isBlank c = false :=
  fun c hc => isBlank_eq_false_of_isWordChar (h.isWordChar c hc)

private theorem IsName.trim_eq {name : List Char} (h : IsName name) : trim name = name :=
  trim_eq_self_of_not_isBlank h.isBlank_eq_false

/-- A name starts with no array marker: one has a blank, the other does not start with a capital. -/
theorem IsName.stripArrayMarker_eq {name : List Char} (h : IsName name) :
    Phrase.stripArrayMarker name = none := by
  refine Phrase.stripArrayMarker_eq_none_iff.mpr
    ⟨Phrase.not_arrayWords_of_not_isBlank h.isBlank_eq_false, ?_⟩
  rintro ⟨rest, rfl⟩
  exact absurd h.1 (by decide)

/-- What ends with a blank occurs in a marked name only if it occurs in the marker. -/
theorem not_infix_of_isName {separator marker name : List Char} (hname : IsName name)
    (hlast : separator.getLast? = some ' ') (hmarker : ¬ separator <:+: marker) :
    ¬ separator <:+: marker ++ name := by
  rw [List.infix_append_iff]
  rintro (hoccurs | hoccurs | ⟨front, back, rfl, hfront, hback⟩)
  · exact hmarker hoccurs
  · exact hname.blank_not_mem (hoccurs.subset (List.mem_of_getLast? hlast))
  · rcases List.eq_nil_or_concat back with rfl | ⟨back, c, rfl⟩
    · rw [List.append_nil] at hmarker
      exact hmarker hfront.isInfix
    · rw [List.concat_eq_append, ← List.append_assoc, List.getLast?_concat] at hlast
      obtain rfl := Option.some.inj hlast
      exact hname.blank_not_mem (hback.subset (by simp))

/-! ## Type phrases as phrases -/

private theorem trim_of_isTypePhrase {phrase : List Char} (h : IsTypePhrase phrase) :
    trim phrase = phrase := by
  obtain ⟨marker, hmarker, name, hname, rfl⟩ := h
  have hheads : ∀ marker ∈ markers, marker.head?.any isBlank = false := by decide
  exact trim_append (hheads marker hmarker) hname.trim_eq hname.ne_nil

/-- A type phrase is its own only alternative, also where it starts like a list of media. -/
theorem read_eq_alternative_of_isTypePhrase {phrase : List Char} (h : IsTypePhrase phrase) :
    Phrase.read phrase = Phrase.alternative phrase := by
  have htrim := trim_of_isTypePhrase h
  obtain ⟨marker, hmarker, name, hname, rfl⟩ := h
  have habsent : ∀ marker ∈ markers, ¬ " or ".toList <:+: marker ∧ ¬ " and ".toList <:+: marker ∧
      ',' ∉ marker := by decide
  obtain ⟨hor, hand, hcomma⟩ := habsent marker hmarker
  have hcomma' : ',' ∉ marker ++ name := by
    rw [List.mem_append, not_or]
    refine ⟨hcomma, fun hmem => ?_⟩
    have hword := hname.isWordChar ',' hmem
    revert hword
    decide +kernel
  have hor' := not_infix_of_isName hname (by decide) hor
  have hne : marker ++ name ≠ [] := List.append_ne_nil_of_right_ne_nil marker hname.ne_nil
  refine Phrase.read_of_alternatives_eq (by rwa [htrim]) ?_
  rw [htrim]
  by_cases hmedia : Phrase.mediaFront <+: marker ++ name
  · rw [Phrase.alternatives_of_mediaFront hmedia, Phrase.mediaAlternatives_eq_singleton htrim hne
      hcomma' (not_infix_of_isName hname (by decide) hand)]
  · rw [Phrase.alternatives_of_not_mediaFront hmedia, split_eq_singleton (by decide) hor']

/-- A type phrase means a single type or an array of one. -/
theorem exists_read_eq_leaf {phrase : List Char} (h : IsTypePhrase phrase) :
    ∃ name, Phrase.read phrase = Phrase.leaf name ∨
      Phrase.read phrase = .array (Phrase.leaf name) := by
  have hread := read_eq_alternative_of_isTypePhrase h
  have htrim := trim_of_isTypePhrase h
  obtain ⟨marker, hmarker, name, hname, rfl⟩ := h
  have hleaf : Phrase.read name = Phrase.leaf name := by
    have hname' : IsTypePhrase name := ⟨[], by simp [markers], name, hname, rfl⟩
    rw [read_eq_alternative_of_isTypePhrase hname',
      Phrase.alternative_of_not_marked hname.trim_eq hname.stripArrayMarker_eq]
  have hwords : ∀ marker ∈ markers, marker = [] ∨ Phrase.IsArrayMarker marker := by decide
  refine ⟨name, ?_⟩
  rcases hwords marker hmarker with rfl | harray
  · exact Or.inl hleaf
  · rw [Phrase.alternative, htrim, harray.stripArrayMarker_append] at hread
    exact Or.inr (hread.trans (congrArg TypeExpr.array hleaf))

/-- The type that a description states is no union, and neither is the element type of an array that
it states; that type is no array either. -/
theorem single_of_isTypePhrase {phrase : List Char} (h : IsTypePhrase phrase) :
    (Phrase.read phrase).isUnion = false ∧ (Phrase.read phrase).stripArray.isUnion = false ∧
      ∀ element, (Phrase.read phrase).stripArray ≠ .array element := by
  obtain ⟨name, hread | hread⟩ := exists_read_eq_leaf h <;> rw [hread] <;>
    rcases Phrase.leaf_cases name with hleaf | hleaf | ⟨scalar, hleaf⟩ | hleaf | ⟨hleaf, -⟩ <;>
    simp [hleaf, TypeExpr.isUnion, TypeExpr.stripArray]

end BotBindings.ReturnPhrase
