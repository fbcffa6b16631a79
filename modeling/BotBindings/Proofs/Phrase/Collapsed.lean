import BotBindings.Proofs.Phrase.Occurrence
import BotBindings.Proofs.Text.Collapsed

/-!
# Names in collapsed phrases

Reading a phrase cuts it apart, drops markers and puts markers in front of the items of a list of
media. Apart from these markers nothing comes in that was not there, so where the blanks of a phrase
are single spaces, those of the names it refers to are single spaces too.
-/

namespace BotBindings.Phrase

open Text TypeExpr

private theorem exists_occurs_of_ofAlternatives {es : List TypeExpr} {name : String}
    (h : Occurs (.named name) (ofAlternatives es)) : ∃ e ∈ es, Occurs (.named name) e := by
  cases es with
  | nil => cases h with | union he _ => cases he
  | cons e es =>
    cases es with
    | nil => exact ⟨e, List.mem_singleton_self e, h⟩
    | cons next es => cases h with | union he h => exact ⟨_, he, h⟩

private theorem isSpaced_of_mem_alternatives {s a : List Char} (hs : IsSpaced s)
    (ha : a ∈ alternatives s) : IsSpaced a := by
  by_cases hmedia : mediaFront <+: s
  · rw [alternatives_of_mediaFront hmedia] at ha
    obtain ⟨first, others, hitems, -⟩ := exists_mediaItems hmedia
    have hitem : ∀ item ∈ first :: others, IsCollapsed item ∧ item ≠ [] := by
      intro item hmem
      rw [← hitems] at hmem
      exact ⟨⟨hs.of_infix (infix_of_mem_mediaItems hmem), trim_of_mem_mediaItems hmem⟩,
        ne_nil_of_mem_mediaItems hmem⟩
    simp only [mediaAlternatives, hitems] at ha
    rcases List.mem_cons.mp ha with rfl | ha
    · exact (hitem a List.mem_cons_self).1.toIsSpaced
    · obtain ⟨item, hmem, rfl⟩ := List.mem_map.mp ha
      obtain ⟨hcollapsed, hne⟩ := hitem item (List.mem_cons_of_mem first hmem)
      have hwords : IsCollapsed "Array of".toList :=
        isCollapsed_of_collapse_eq (by decide +kernel)
      exact (hwords.append_space hcollapsed (by decide) hne).toIsSpaced
  · rw [alternatives_of_not_mediaFront hmedia] at ha
    exact hs.of_infix (infix_of_mem_split ha)

/-- The names that occur in the meaning of a phrase have no other blanks than the phrase. -/
theorem isSpaced_of_occurs {phrase : List Char} {name : String} (hphrase : IsSpaced phrase)
    (h : Occurs (.named name) (read phrase)) : IsSpaced name.toList := by
  induction phrase using read_induction with
  | step phrase ih =>
    have htrim := hphrase.isCollapsed_trim.toIsSpaced
    rw [read_eq] at h
    split at h
    · cases h
    · split at h
      · cases h
      · obtain ⟨e, he, hoccurs⟩ := exists_occurs_of_ofAlternatives h
        obtain ⟨a, ha, rfl⟩ := List.mem_map.mp he
        have hspaced := (isSpaced_of_mem_alternatives htrim ha).isCollapsed_trim.toIsSpaced
        rw [alternative] at hoccurs
        split at hoccurs
        · rename_i inner hmarker
          cases hoccurs with
          | array hinner =>
            have hpart := (suffix_of_stripArrayMarker hmarker).isInfix
            exact ih a ha inner hmarker (hspaced.of_infix hpart) hinner
        · rcases leaf_cases (trim a) with hleaf | hleaf | ⟨scalar, hleaf⟩ | hleaf | ⟨hleaf, -⟩ <;>
            rw [hleaf] at hoccurs <;> cases hoccurs
          · exact (isCollapsed_of_collapse_eq (by decide +kernel)).toIsSpaced
          · rwa [String.toList_ofList]

/-- The names that occur in the meaning of a collapsed phrase are collapsed. -/
theorem isCollapsed_of_occurs {phrase : List Char} {name : String} (hphrase : IsSpaced phrase)
    (h : Occurs (.named name) (read phrase)) : IsCollapsed name.toList where
  toIsSpaced := isSpaced_of_occurs hphrase h
  trim_eq := by
    cases (wellFormed_read phrase).of_occurs h with
    | named hname => exact hname.trim_eq

end BotBindings.Phrase
