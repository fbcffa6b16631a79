import BotBindings.Proofs.Text.Blank

/-!
# Collapsed texts

A page shows its texts collapsed: no blanks at the ends, and no blanks inside but the single spaces
between the words. This file proves that collapsing gives this form. Joining texts of this form by
spaces keeps it, and so does trimming a part of such a text.
-/

namespace BotBindings.Text

/-- The only blanks in `s` are single spaces. -/
structure IsSpaced (s : List Char) : Prop where
  eq_space : ∀ c ∈ s, isBlank c = true → c = ' '
  single : ¬ [' ', ' '] <:+: s

/-- The only blanks in `s` are single spaces, and none of them is at an end. -/
structure IsCollapsed (s : List Char) : Prop extends IsSpaced s where
  trim_eq : trim s = s

/-! ## Parts of a text -/

/-- In a part of a text whose only blanks are single spaces, single spaces are the only blanks. -/
theorem IsSpaced.of_infix {s t : List Char} (hs : IsSpaced s) (h : t <:+: s) : IsSpaced t where
  eq_space c hc := hs.eq_space c (h.subset hc)
  single hdouble := hs.single (hdouble.trans h)

/-- A text whose only blanks are single spaces has no line breaks. -/
theorem IsSpaced.newline_not_mem {s : List Char} (hs : IsSpaced s) : '\n' ∉ s := by
  intro hmem
  have hspace := hs.eq_space _ hmem (by decide)
  revert hspace
  decide

/-- A text whose only blanks are single spaces is collapsed once it is trimmed. -/
theorem IsSpaced.isCollapsed_trim {s : List Char} (hs : IsSpaced s) : IsCollapsed (trim s) where
  toIsSpaced := hs.of_infix (trim_infix_self s)
  trim_eq := trim_trim s

/-- A text without blanks is collapsed. -/
theorem isCollapsed_of_not_isBlank {word : List Char} (h : ∀ c ∈ word, isBlank c = false) :
    IsCollapsed word where
  eq_space c hc hblank := by
    rw [h c hc] at hblank
    cases hblank
  single hdouble := by
    have hblank := h ' ' (hdouble.subset (by simp))
    revert hblank
    decide
  trim_eq := trim_eq_self_of_not_isBlank h

/-! ## Texts that are joined -/

private theorem IsCollapsed.not_prefix_space {s t : List Char} (hs : IsCollapsed s) :
    ¬ ' ' :: t <+: s := by
  rintro ⟨rest, rfl⟩
  exact absurd ((trim_eq_self_iff.mp hs.trim_eq).1 ' ' rfl) (by decide)

private theorem IsCollapsed.not_suffix_space {s : List Char} (hs : IsCollapsed s) : ¬
    [' '] <:+ s := by
  rintro ⟨front, rfl⟩
  have hblank := (trim_eq_self_iff.mp hs.trim_eq).2 ' ' List.getLast?_concat
  exact absurd hblank (by decide)

/-- A space between two words joins them. -/
theorem IsCollapsed.append_space {s t : List Char} (hs : IsCollapsed s) (ht : IsCollapsed t)
    (hsne : s ≠ []) (htne : t ≠ []) : IsCollapsed (s ++ [' '] ++ t) where
  eq_space c hc hblank := by
    simp only [List.mem_append, List.mem_singleton] at hc
    rcases hc with (hc | rfl) | hc
    · exact hs.eq_space c hc hblank
    · rfl
    · exact ht.eq_space c hc hblank
  single := by
    have hback : ¬ [' ', ' '] <+: ' ' :: t := fun hdouble =>
      ht.not_prefix_space ((List.prefix_cons_inj ' ').mp hdouble)
    rw [List.append_assoc, List.singleton_append, List.infix_append_iff, List.infix_cons_iff]
    rintro (hdouble | (hdouble | hdouble) | ⟨front, back, heq, hfront, hdouble⟩)
    · exact hs.single hdouble
    · exact hback hdouble
    · exact ht.single hdouble
    · -- The two spaces are on both sides of the seam, or on one of them.
      cases front with
      | nil =>
        rw [List.nil_append] at heq
        exact hback (heq ▸ hdouble)
      | cons c front =>
        obtain ⟨rfl, hrest⟩ := List.cons_eq_cons.mp heq
        cases front with
        | nil => exact hs.not_suffix_space hfront
        | cons d front =>
          obtain ⟨rfl, hnil⟩ := List.cons_eq_cons.mp hrest
          obtain ⟨rfl, -⟩ := List.append_eq_nil_iff.mp hnil.symm
          exact hs.single hfront.isInfix
  trim_eq := trim_append_append hs.trim_eq ht.trim_eq hsne htne [' ']

/-- Words that are joined by spaces make a collapsed text. -/
theorem isCollapsed_intercalate {texts : List (List Char)}
    (h : ∀ text ∈ texts, IsCollapsed text ∧ text ≠ []) :
    IsCollapsed ([' '].intercalate texts) := by
  induction texts with
  | nil => exact isCollapsed_of_not_isBlank (by simp)
  | cons text texts ih =>
    obtain ⟨htext, hne⟩ := h text List.mem_cons_self
    have hrest := ih fun other hother => h other (List.mem_cons_of_mem text hother)
    cases texts with
    | nil => rwa [List.intercalate_singleton]
    | cons next texts =>
      have hnext := (h next (by simp)).2
      have hrestNe : [' '].intercalate (next :: texts) ≠ [] := by
        cases texts <;> simp [hnext]
      rw [List.intercalate_cons_cons]
      exact htext.append_space hrest hne hrestNe

/-! ## Collapsing -/

private theorem isWord_of_mem_wordsFrom {word s piece : List Char}
    (hword : ∀ c ∈ word, isBlank c = false) (hpiece : piece ∈ wordsFrom word s) :
    piece ≠ [] ∧ ∀ c ∈ piece, isBlank c = false := by
  fun_induction wordsFrom word s with
  | case1 word hempty => simp at hpiece
  | case2 word hempty => simp_all
  | case3 word c rest hblank hempty ih => exact ih (by simp) hpiece
  | case4 word c rest hblank hempty ih =>
    rcases List.mem_cons.mp hpiece with rfl | hrest
    · exact ⟨by simpa using hempty, hword⟩
    · exact ih (by simp) hrest
  | case5 word c rest hblank ih =>
    refine ih ?_ hpiece
    intro d hd
    rcases List.mem_append.mp hd with hd | hd
    · exact hword d hd
    · simp_all

/-- Collapsing a text gives a collapsed one. -/
theorem isCollapsed_collapse (s : String) : IsCollapsed (collapse s).toList := by
  rw [collapse, String.toList_ofList]
  refine isCollapsed_intercalate fun word hword => ?_
  obtain ⟨hne, hplain⟩ := isWord_of_mem_wordsFrom (by simp) hword
  exact ⟨isCollapsed_of_not_isBlank hplain, hne⟩

/-- That a text is collapsed can be decided by collapsing it. -/
theorem isCollapsed_of_collapse_eq {s : String} (h : collapse s = s) : IsCollapsed s.toList :=
  h ▸ isCollapsed_collapse s

end BotBindings.Text
