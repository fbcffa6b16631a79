import BotBindings.Text.Blank
import Mathlib.Data.List.DropRight

/-!
# Trimmed texts

A text is trimmed if it neither starts nor ends with a blank, and trimming makes it so. What it
drops are the blanks at the ends, whatever stands between them.
-/

namespace BotBindings.Text

private theorem trimEnd_cons (c : Char) (rest : List Char) :
    trimEnd (c :: rest)
      = if trimEnd rest = [] ∧ isBlank c = true then [] else c :: trimEnd rest := by
  rw [trimEnd]
  cases h : trimEnd rest <;> cases hc : isBlank c <;> simp

/-- A first character that is not blank stays, whatever is trimmed behind it. -/
theorem trimEnd_cons_of_not_isBlank {c : Char} (h : isBlank c = false) (rest : List Char) :
    trimEnd (c :: rest) = c :: trimEnd rest := by
  simp [trimEnd_cons, h]

/-- Before a first character that is not blank there is nothing to trim, so only the end matters. -/
theorem trim_cons_of_not_isBlank {c : Char} (h : isBlank c = false) (rest : List Char) :
    trim (c :: rest) = c :: trimEnd rest := by
  rw [trim, trimStart, List.dropWhile_cons_of_neg (by simp [h]), trimEnd_cons_of_not_isBlank h]

/-- Trimming the end of a text leaves a front part of it. -/
theorem trimEnd_prefix_self (s : List Char) : trimEnd s <+: s := by
  induction s with
  | nil => exact List.prefix_rfl
  | cons c rest ih =>
    rw [trimEnd_cons]
    split
    · exact List.nil_prefix
    · exact (List.prefix_cons_inj c).mpr ih

/-- The end of a text is trimmed already exactly if its last character is not blank. -/
theorem trimEnd_eq_self_iff {s : List Char} :
    trimEnd s = s ↔ ∀ c, s.getLast? = some c → isBlank c = false := by
  induction s with
  | nil => simp [trimEnd]
  | cons c rest ih =>
    cases rest with
    | nil => cases h : isBlank c <;> simp [trimEnd, h]
    | cons d rest =>
      rw [trimEnd_cons, List.getLast?_cons_cons, ← ih]
      constructor
      · intro h
        split at h
        · cases h
        · exact (List.cons_eq_cons.mp h).2
      · intro h
        simp [h]

private theorem trimEnd_trimEnd (s : List Char) : trimEnd (trimEnd s) = trimEnd s := by
  induction s with
  | nil => rfl
  | cons c rest ih =>
    rw [trimEnd_cons]
    split
    · rfl
    · rename_i h
      rw [trimEnd_cons, ih, if_neg h]

/-- Trimming the one end does not interfere with trimming the other. -/
theorem trimStart_trimEnd (s : List Char) : trimStart (trimEnd s) = trimEnd (trimStart s) := by
  induction s with
  | nil => rfl
  | cons c rest ih =>
    cases h : isBlank c with
    | false =>
      have hstart : ∀ others, trimStart (c :: others) = c :: others := fun others =>
        List.dropWhile_cons_of_neg (by simp [h])
      rw [trimEnd_cons_of_not_isBlank h, hstart, hstart, trimEnd_cons_of_not_isBlank h]
    | true =>
      have hstart : ∀ others, trimStart (c :: others) = trimStart others := fun others =>
        List.dropWhile_cons_of_pos h
      rw [hstart, ← ih, trimEnd_cons]
      split
      · rename_i hnil
        rw [hnil.1]
      · rw [hstart]

/-- A trimmed text has nothing left to trim. -/
@[simp] theorem trim_trim (s : List Char) : trim (trim s) = trim s := by
  have hstart : trimStart (trimStart s) = trimStart s := List.dropWhile_idempotent isBlank s
  rw [trim, trim, trimStart_trimEnd, trimEnd_trimEnd, hstart]

/-- A text is trimmed if its first and last characters are not blank. -/
theorem trim_eq_self_iff {s : List Char} :
    trim s = s ↔ (∀ c, s.head? = some c → isBlank c = false) ∧
      ∀ c, s.getLast? = some c → isBlank c = false := by
  rw [← trimEnd_eq_self_iff]
  constructor
  · intro h
    have hstart : trimStart s = s := by
      refine (List.dropWhile_suffix _).eq_of_length_le ?_
      calc s.length = (trim s).length := by rw [h]
        _ ≤ (trimStart s).length := length_trimEnd_le _
    refine ⟨?_, by rwa [trim, hstart] at h⟩
    intro c hc
    obtain ⟨rest, rfl⟩ := List.head?_eq_some_iff.mp hc
    cases hblank : isBlank c with
    | false => rfl
    | true =>
      have hle := length_trimStart_le rest
      have hlength := congrArg List.length hstart
      rw [trimStart, List.dropWhile_cons_of_pos hblank, ← trimStart, List.length_cons] at hlength
      omega
  · rintro ⟨hhead, hend⟩
    cases s with
    | nil => rfl
    | cons c rest =>
      rw [trim, trimStart, List.dropWhile_cons_of_neg (by simp [hhead c rfl]), hend]

/-- A text without blanks is its own trimmed text. -/
theorem trim_eq_self_of_not_isBlank {s : List Char} (h : ∀ c ∈ s, isBlank c = false) :
    trim s = s :=
  trim_eq_self_iff.mpr
    ⟨fun c hc => h c (List.mem_of_head? hc), fun c hc => h c (List.mem_of_getLast? hc)⟩

/-- A trimmed text stays trimmed when something is put in front of it that starts with no blank. -/
theorem trim_append {front back : List Char} (hfront : front.head?.any isBlank = false)
    (hback : trim back = back) (hne : back ≠ []) : trim (front ++ back) = front ++ back := by
  rw [trim_eq_self_iff] at hback ⊢
  refine ⟨fun c hc => ?_, fun c hc => hback.2 c ?_⟩
  · rw [List.head?_append, Option.or_eq_some_iff] at hc
    rcases hc with hc | ⟨-, hc⟩
    · simpa [hc] using hfront
    · exact hback.1 c hc
  · rwa [List.getLast?_append_of_ne_nil _ hne] at hc

/-- A text is trimmed if it is trimmed at each end. -/
theorem trim_append_append {front back : List Char} (hfront : trim front = front)
    (hback : trim back = back) (hfrontNe : front ≠ []) (hbackNe : back ≠ [])
    (middle : List Char) : trim (front ++ middle ++ back) = front ++ middle ++ back := by
  refine trim_append ?_ hback hbackNe
  obtain ⟨c, rest, rfl⟩ := List.exists_cons_of_ne_nil hfrontNe
  exact (trim_eq_self_iff.mp hfront).1 c rfl

private theorem trimEnd_append (front back : List Char) :
    trimEnd (front ++ back)
      = if trimEnd back = [] then trimEnd front else front ++ trimEnd back := by
  induction front with
  | nil =>
    split
    · assumption
    · rfl
  | cons c front ih =>
    rw [List.cons_append, trimEnd_cons, ih, trimEnd_cons]
    by_cases h : trimEnd back = [] <;> simp [h]

private theorem trimEnd_eq_nil {s : List Char} (h : ∀ c ∈ s, isBlank c = true) : trimEnd s =
    [] := by
  induction s with
  | nil => rfl
  | cons c rest ih =>
    have hrest := ih fun d hd => h d (List.mem_cons_of_mem c hd)
    rw [trimEnd_cons, if_pos ⟨hrest, h c List.mem_cons_self⟩]

/-- Blanks around a text do not count. -/
theorem trim_of_blanks_around {front back : List Char} (hfront : ∀ c ∈ front, isBlank c = true)
    (hback : ∀ c ∈ back, isBlank c = true) (s : List Char) :
    trim (front ++ s ++ back) = trim s := by
  have hstart : trimStart (front ++ (s ++ back)) = trimStart (s ++ back) :=
    List.dropWhile_append_of_pos hfront
  calc trim (front ++ s ++ back) = trimEnd (trimStart (s ++ back)) := by
        rw [List.append_assoc, trim, hstart]
    _ = trimStart (trimEnd s) := by
        rw [← trimStart_trimEnd, trimEnd_append, if_pos (trimEnd_eq_nil hback)]
    _ = trim s := trimStart_trimEnd s

/-- Trimming keeps a trimmed text in front of others. -/
theorem prefix_trim {front s : List Char} (hfront : trim front = front) (h : front <+: s) :
    front <+: trim s := by
  cases front with
  | nil => exact List.nil_prefix
  | cons c front =>
    obtain ⟨back, rfl⟩ := h
    have hblank := (trim_eq_self_iff.mp hfront).1 c rfl
    have hend := trimEnd_eq_self_iff.mpr (trim_eq_self_iff.mp hfront).2
    have hstart : trimStart (c :: front ++ back) = c :: front ++ back :=
      List.dropWhile_cons_of_neg (by simp [hblank])
    rw [trim, hstart, trimEnd_append]
    split
    · exact hend.symm ▸ List.prefix_rfl
    · exact List.prefix_append _ _

/-- Trimming drops nothing but blanks. -/
theorem mem_trim {s : List Char} {c : Char} (hc : c ∈ s) (hblank : isBlank c = false) :
    c ∈ trim s := by
  have hend : ∀ rest : List Char, c ∈ rest → c ∈ trimEnd rest := by
    intro rest hrest
    obtain ⟨front, back, rfl⟩ := List.append_of_mem hrest
    rw [trimEnd_append, trimEnd_cons_of_not_isBlank hblank, if_neg (by simp)]
    simp
  refine hend _ ?_
  have hsplit := List.takeWhile_append_dropWhile (p := isBlank) (l := s)
  rw [← hsplit] at hc
  rcases List.mem_append.mp hc with hc | hc
  · have hpos := List.mem_takeWhile_imp hc
    rw [hblank] at hpos
    cases hpos
  · exact hc

/-- A beginning of a trimmed text has no blanks at its start. -/
theorem trim_eq_trimEnd_of_start {t y : List Char} (ht : trim t = t) (hstarts : y <+: t) :
    trim y = trimEnd y := by
  cases y with
  | nil => rfl
  | cons c y =>
    obtain ⟨rest, rfl⟩ := hstarts
    have hblank := (trim_eq_self_iff.mp ht).1 c rfl
    rw [trim_cons_of_not_isBlank hblank, trimEnd_cons_of_not_isBlank hblank]

/-- Trimming leaves a part of the text as it stands there. -/
theorem trim_infix_self (s : List Char) : trim s <:+: s :=
  (trimEnd_prefix_self _).isInfix.trans (List.dropWhile_suffix _).isInfix

end BotBindings.Text
