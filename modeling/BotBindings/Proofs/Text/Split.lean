import BotBindings.Text.Split
import Mathlib.Data.List.Infix

/-!
# Where a text is split

A text is cut at the place where the separator occurs first. So text before that place must hold no
occurrence, not even one that runs into the separator itself. This file describes the cut in these
terms and draws the consequences for the pieces of a text that was joined by separators.
-/

namespace BotBindings.Text

/-- A front part is stripped off exactly if the text is that part followed by the rest. -/
theorem stripFront_eq_some_iff {front s rest : List Char} :
    stripFront front s = some rest ↔ s = front ++ rest := by
  constructor
  · exact eq_append_of_stripFront
  · rintro rfl
    exact stripFront_append front rest

/-- A front part cannot be stripped off exactly if the text does not start with it. -/
theorem stripFront_eq_none_iff {front s : List Char} :
    stripFront front s = none ↔ ¬ front <+: s := by
  rw [← not_iff_not, not_not, ← ne_eq, Option.ne_none_iff_exists']
  simp only [stripFront_eq_some_iff]
  exact ⟨fun ⟨rest, h⟩ => ⟨rest, h.symm⟩, fun ⟨rest, h⟩ => ⟨rest, h.symm⟩⟩

/-- No occurrence of the separator starts in `before`, whatever follows the separator after it. -/
def Clear (separator before : List Char) : Prop :=
  ∀ rest back, back <:+ before → back ≠ [] → ¬ separator <+: back ++ separator ++ rest

section

variable {separator : List Char} (hne : separator ≠ [])

include hne

/-- A text is cut where the separator occurs first. -/
theorem cut_eq_some_iff {s before after : List Char} :
    cut separator s = some (before, after) ↔ s = before ++ separator ++ after ∧
      ∀ back, back <:+ before → back ≠ [] → ¬ separator <+: back ++ separator ++ after := by
  induction s generalizing before with
  | nil => simp [cut, hne]
  | cons c s ih =>
    have hempty : separator.isEmpty = false := by simpa using hne
    simp only [cut, hempty, Bool.false_eq_true, if_false]
    cases hstrip : stripFront separator (c :: s) with
    | some rest =>
      rw [stripFront_eq_some_iff] at hstrip
      constructor
      · intro h
        simp only [Option.some.injEq, Prod.mk.injEq] at h
        obtain ⟨rfl, rfl⟩ := h
        exact ⟨by simpa using hstrip, by simp⟩
      · rintro ⟨heq, hfirst⟩
        cases before with
        | nil => simpa [hstrip] using heq
        | cons d before =>
          have hnot := hfirst (d :: before) List.suffix_rfl (by simp)
          rw [← heq, hstrip] at hnot
          exact absurd (List.prefix_append _ _) hnot
    | none =>
      rw [stripFront_eq_none_iff] at hstrip
      constructor
      · intro h
        obtain ⟨⟨front, rest⟩, hcut, heq⟩ := Option.map_eq_some_iff.mp h
        simp only [Prod.mk.injEq] at heq
        obtain ⟨rfl, rfl⟩ := heq
        obtain ⟨rfl, hfirst⟩ := ih.mp hcut
        refine ⟨by simp, fun back hback hbackNe => ?_⟩
        rcases List.suffix_cons_iff.mp hback with rfl | hback
        · simpa using hstrip
        · exact hfirst back hback hbackNe
      · rintro ⟨heq, hfirst⟩
        cases before with
        | nil => exact absurd ⟨after, by simpa using heq.symm⟩ hstrip
        | cons d before =>
          simp only [List.cons_append, List.cons.injEq] at heq
          obtain ⟨rfl, rfl⟩ := heq
          refine Option.map_eq_some_iff.mpr ⟨(before, after), ih.mpr ⟨rfl, ?_⟩, rfl⟩
          exact fun back hback => hfirst back (hback.trans (List.suffix_cons c before))

/-- A text is cut at the separator behind a part in which no separator starts. -/
theorem cut_of_clear {before : List Char} (h : Clear separator before) (after : List Char) :
    cut separator (before ++ separator ++ after) = some (before, after) :=
  (cut_eq_some_iff hne).mpr ⟨rfl, h after⟩

/-- A text is cut if the separator occurs in it, and then not behind that occurrence. -/
theorem exists_cut_append (front back : List Char) :
    ∃ before extra, cut separator (front ++ separator ++ back) = some (before, extra ++ back) := by
  induction front with
  | nil =>
    refine ⟨[], [], (cut_eq_some_iff hne).mpr ⟨rfl, ?_⟩⟩
    intro other hother hotherNe
    exact absurd (List.suffix_nil.mp hother) hotherNe
  | cons c front ih =>
    have hempty : separator.isEmpty = false := by simpa using hne
    simp only [List.cons_append, cut, hempty, Bool.false_eq_true, if_false]
    cases hstrip : stripFront separator (c :: (front ++ separator ++ back)) with
    | some rest =>
      rw [stripFront_eq_some_iff] at hstrip
      have hback : back <:+ rest := by
        have hwhole : back <:+ c :: (front ++ separator ++ back) :=
          ⟨c :: (front ++ separator), by simp⟩
        refine List.suffix_of_suffix_length_le hwhole ⟨separator, hstrip.symm⟩ ?_
        have hlength := congrArg List.length hstrip
        simp only [List.length_cons, List.length_append] at hlength
        omega
      obtain ⟨extra, rfl⟩ := hback
      exact ⟨[], extra, rfl⟩
    | none =>
      obtain ⟨before, extra, hcut⟩ := ih
      exact ⟨c :: before, extra, by rw [hcut]; rfl⟩

private theorem cut_eq_none_iff {s : List Char} : cut separator s = none ↔ ¬ separator <:+: s := by
  constructor
  · rintro hnone ⟨front, back, rfl⟩
    obtain ⟨before, extra, hcut⟩ := exists_cut_append hne front back
    rw [hcut] at hnone
    cases hnone
  · intro hoccurs
    rw [Option.eq_none_iff_forall_ne_some]
    rintro ⟨before, after⟩ hcut
    exact hoccurs ⟨before, after, (eq_append_of_cut hcut).2.symm⟩

/-- A text without the separator is split into one piece, itself. -/
theorem split_eq_singleton {s : List Char} (h : ¬ separator <:+: s) : split separator s = [s] := by
  rw [split]
  split
  · rfl
  · rename_i hcut
    rw [(cut_eq_none_iff hne).mpr h] at hcut
    cases hcut

omit hne in
/-- The first piece of a split is what the cut leaves before the separator, and the other pieces are
those of what it leaves behind. -/
theorem split_of_cut {s before after : List Char} (h : cut separator s = some (before, after)) :
    split separator s = before :: split separator after := by
  rw [split]
  split
  · rename_i hcut
    rw [h] at hcut
    cases hcut
  · rename_i hcut
    rw [h] at hcut
    cases hcut
    rfl

/-- The separator does not occur in a piece. -/
theorem not_infix_of_mem_split {s piece : List Char} (h : piece ∈ split separator s) :
    ¬ separator <:+: piece := by
  fun_induction split separator s with
  | case1 s hcut =>
    rw [List.mem_singleton] at h
    rw [h]
    exact (cut_eq_none_iff hne).mp hcut
  | case2 s before after hcut ih =>
    rcases List.mem_cons.mp h with rfl | h
    · rintro ⟨front, back, rfl⟩
      refine ((cut_eq_some_iff hne).mp hcut).2 (separator ++ back) ?_ (by simp [hne]) ?_
      · exact ⟨front, by simp⟩
      · exact ⟨back ++ separator ++ after, by simp⟩
    · exact ih h

omit hne in
/-- Every piece of a text is a part of it. -/
theorem infix_of_mem_split {s piece : List Char} (h : piece ∈ split separator s) :
    piece <:+: s := by
  fun_induction split separator s with
  | case1 s hcut =>
    rw [List.mem_singleton.mp h]
  | case2 s before after hcut ih =>
    have hs := (eq_append_of_cut hcut).2
    rcases List.mem_cons.mp h with rfl | h
    · exact ⟨[], separator ++ after, by simp [hs]⟩
    · exact (ih h).trans ⟨before ++ separator, [], by simp [hs]⟩

/-- No separator occurs within a part in which none starts. -/
theorem Clear.not_infix {before : List Char} (h : Clear separator before) :
    ¬ separator <:+: before := by
  rintro ⟨front, back, rfl⟩
  refine h [] (separator ++ back) ⟨front, by simp⟩ (by simp [hne]) ?_
  exact ⟨back ++ separator, by simp⟩

/-- Texts that are clear of the separator are found again when they were joined by it. -/
theorem split_intercalate {texts : List (List Char)} (htexts : texts ≠ [])
    (hclear : ∀ text ∈ texts, Clear separator text) :
    split separator (separator.intercalate texts) = texts := by
  induction texts with
  | nil => exact absurd rfl htexts
  | cons text texts ih =>
    have htext := hclear text List.mem_cons_self
    cases texts with
    | nil =>
      rw [List.intercalate_singleton]
      exact split_eq_singleton hne (htext.not_infix hne)
    | cons next texts =>
      have hrest := ih (by simp) fun other hother => hclear other (List.mem_cons_of_mem text hother)
      rw [List.intercalate_cons_cons, split_of_cut (cut_of_clear hne htext _), hrest]

/-- Splitting a text that was joined from some texts gives at least as many pieces. -/
theorem length_le_length_split {texts : List (List Char)} (htexts : texts ≠ [])
    (front : List Char) :
    texts.length ≤ (split separator (front ++ separator.intercalate texts)).length := by
  induction texts generalizing front with
  | nil => exact absurd rfl htexts
  | cons text texts ih =>
    cases texts with
    | nil => exact List.length_pos_iff.mpr (split_ne_nil _ _)
    | cons next texts =>
      obtain ⟨before, extra, hcut⟩ :=
        exists_cut_append hne (front ++ text) (separator.intercalate (next :: texts))
      have hjoined : front ++ separator.intercalate (text :: next :: texts)
          = front ++ text ++ separator ++ separator.intercalate (next :: texts) := by
        simp
      rw [hjoined, split_of_cut hcut, List.length_cons, List.length_cons]
      exact Nat.succ_le_succ (ih (by simp) extra)

end

/-- The last piece ends like the text if the separator does not. -/
theorem getLast?_of_getLast?_split {separator s piece : List Char} {c : Char}
    (hpiece : (split separator s).getLast? = some piece) (hc : s.getLast? = some c)
    (hne : separator.getLast? ≠ some c) : piece.getLast? = some c := by
  fun_induction split separator s with
  | case1 s =>
    simp only [List.getLast?_singleton, Option.some.injEq] at hpiece
    rwa [← hpiece]
  | case2 s before after hcut ih =>
    obtain ⟨hseparator, rfl⟩ := eq_append_of_cut hcut
    rw [List.getLast?_cons_of_ne_nil (split_ne_nil _ _)] at hpiece
    refine ih hpiece ?_
    cases after with
    | nil =>
      rw [List.append_nil, List.getLast?_append_of_ne_nil _ hseparator] at hc
      exact absurd hc hne
    | cons d after => rwa [List.getLast?_append_of_ne_nil _ (by simp)] at hc

/-- The separator does not touch `front`: neither occurs in the other, not even in part. -/
def Untouched (separator front : List Char) : Prop :=
  ∀ back ∈ front.tails, back ≠ [] → ¬ separator <+: back ∧ ¬ back <+: separator

instance (separator front : List Char) : Decidable (Untouched separator front) :=
  inferInstanceAs (Decidable (∀ back ∈ front.tails, _))

/-- A beginning that the separator does not touch ends before the separator. -/
theorem Untouched.prefix_of_append {separator front before after : List Char}
    (h : Untouched separator front) (hstarts : front <+: before ++ separator ++ after) :
    front <+: before := by
  rw [List.append_assoc] at hstarts
  rcases List.prefix_or_prefix_of_prefix hstarts (List.prefix_append before _) with
    hle | ⟨back, rfl⟩
  · exact hle
  · have hback := (List.prefix_append_right_inj before).mp hstarts
    by_cases hne : back = []
    · simp [hne]
    · have hnot := h back (by simp) hne
      rcases List.prefix_or_prefix_of_prefix hback (List.prefix_append separator after) with h | h
      · exact absurd h hnot.2
      · exact absurd h hnot.1

/-- A beginning that the separator does not touch is a beginning of the first piece. -/
theorem Untouched.prefix_of_head?_split {separator front s piece : List Char}
    (h : Untouched separator front) (hstarts : front <+: s)
    (hpiece : (split separator s).head? = some piece) : front <+: piece := by
  rw [split] at hpiece
  split at hpiece
  · rw [List.head?_cons, Option.some.injEq] at hpiece
    rwa [← hpiece]
  · rename_i before after hcut
    rw [List.head?_cons, Option.some.injEq] at hpiece
    rw [← hpiece]
    rw [(eq_append_of_cut hcut).2] at hstarts
    exact h.prefix_of_append hstarts

/-- What the separator does not touch can be put in front of a text that is clear of it. -/
theorem Untouched.clear_append {separator front rest : List Char} (h : Untouched separator front)
    (hrest : Clear separator rest) : Clear separator (front ++ rest) := by
  intro after back hback hne hstarts
  rcases List.suffix_or_suffix_of_suffix hback (List.suffix_append front rest) with
    hback | ⟨kept, rfl⟩
  · exact hrest after back hback hne hstarts
  · have hkept : kept <:+ front := List.suffix_append_self_iff.mp hback
    by_cases hnil : kept = []
    · rw [hnil, List.nil_append] at hstarts hne
      exact hrest after rest List.suffix_rfl hne hstarts
    · have hnot := h kept ((List.mem_tails _ _).mpr hkept) hnil
      simp only [List.append_assoc] at hstarts
      rcases List.prefix_or_prefix_of_prefix hstarts (List.prefix_append kept _) with hle | hle
      · exact hnot.1 hle
      · exact hnot.2 hle

/-- A text without the separator's first character is clear of the separator. -/
theorem clear_of_not_mem {c : Char} {separator before : List Char} (h : c ∉ before) :
    Clear (c :: separator) before := by
  intro after back hback hne hstarts
  cases back with
  | nil => exact hne rfl
  | cons d back =>
    obtain rfl : c = d := (List.cons_prefix_cons.mp hstarts).1
    exact h (hback.subset List.mem_cons_self)

/-! ## A separator of one character -/

private theorem cut_append_cons {c : Char} {before : List Char} (h : c ∉ before)
    (after : List Char) :
    cut [c] (before ++ c :: after) = some (before, after) := by
  rw [← cut_of_clear (by simp) (clear_of_not_mem h) after, List.append_assoc,
    List.singleton_append]

/-- A text without a character is not split at it. -/
theorem split_of_not_mem {c : Char} {s : List Char} (h : c ∉ s) : split [c] s = [s] :=
  split_eq_singleton (by simp) fun hoccurs => h (hoccurs.subset (by simp))

/-- A single character separates the pieces of the text before it from those of the text after
it. -/
theorem split_append_cons (c : Char) (s t : List Char) :
    split [c] (s ++ c :: t) = split [c] s ++ split [c] t := by
  fun_induction split [c] s with
  | case1 s hcut =>
    have hnot : c ∉ s := by
      intro hmem
      obtain ⟨front, back, rfl⟩ := List.append_of_mem hmem
      exact (cut_eq_none_iff (by simp)).mp hcut ⟨front, back, by simp⟩
    rw [split_of_cut (cut_append_cons hnot t), List.singleton_append]
  | case2 s before after hcut ih =>
    have hnot : c ∉ before := by
      intro hmem
      obtain ⟨front, back, rfl⟩ := List.append_of_mem hmem
      refine ((cut_eq_some_iff (by simp)).mp hcut).2 (c :: back) ⟨front, rfl⟩ (by simp) ?_
      simp
    rw [(eq_append_of_cut hcut).2, List.append_assoc, List.append_assoc, List.singleton_append,
      List.cons_append, split_of_cut (cut_append_cons hnot _), ih]

end BotBindings.Text
