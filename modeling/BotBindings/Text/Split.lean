/-!
# Splitting at a separator

A text is cut at the leftmost occurrence of a separator and the rest is split the same way, so
occurrences never overlap. Splitting loses nothing: the pieces joined by the separator are the text.
-/

namespace BotBindings.Text

/-- What follows `front` in `s`, if `s` starts with it. -/
def stripFront : List Char → List Char → Option (List Char)
  | [], s => some s
  | _ :: _, [] => none
  | a :: front, c :: s => if a = c then stripFront front s else none

/-- A front part is stripped off a text that was put together with it. -/
@[simp] theorem stripFront_append (front rest : List Char) :
    stripFront front (front ++ rest) = some rest := by
  induction front with
  | nil => simp [stripFront]
  | cons a front ih => simp [stripFront, ih]

/-- A text from which a front part was stripped is that part followed by the rest. -/
theorem eq_append_of_stripFront {front s rest : List Char} (h : stripFront front s = some rest) :
    s = front ++ rest := by
  fun_induction stripFront front s with
  | case1 s => simpa using h
  | case2 => simp at h
  | case3 front c s ih => simp [ih h]
  | case4 => simp at h

/-- The texts before and after the first occurrence of `separator`. An empty separator occurs
nowhere. -/
def cut (separator : List Char) : List Char → Option (List Char × List Char)
  | [] => none
  | c :: s =>
    if separator.isEmpty then none
    else match stripFront separator (c :: s) with
      | some rest => some ([], rest)
      | none => (cut separator s).map fun (before, after) => (c :: before, after)

/-- A text that was cut is what lies before the separator, the separator and what lies behind it. -/
theorem eq_append_of_cut {separator s before after : List Char}
    (h : cut separator s = some (before, after)) :
    separator ≠ [] ∧ s = before ++ separator ++ after := by
  induction s generalizing before with
  | nil => simp [cut] at h
  | cons c s ih =>
    simp only [cut] at h
    split at h
    · simp at h
    · rename_i hne
      have hne : separator ≠ [] := by simpa using hne
      refine ⟨hne, ?_⟩
      split at h
      · rename_i rest hstrip
        simp only [Option.some.injEq, Prod.mk.injEq] at h
        obtain ⟨rfl, rfl⟩ := h
        simpa using eq_append_of_stripFront hstrip
      · obtain ⟨⟨b, a⟩, hcut, heq⟩ := Option.map_eq_some_iff.mp h
        simp only [Prod.mk.injEq] at heq
        obtain ⟨rfl, rfl⟩ := heq
        simp [(ih hcut).2]

/-- What follows a separator is shorter than the text. -/
theorem length_lt_of_cut {separator s before after : List Char}
    (h : cut separator s = some (before, after)) : after.length < s.length := by
  obtain ⟨hne, rfl⟩ := eq_append_of_cut h
  have := List.length_pos_iff.mpr hne
  simp only [List.length_append]
  omega

/-- The pieces of `s` between the occurrences of `separator`. -/
def split (separator s : List Char) : List (List Char) :=
  match _h : cut separator s with
  | none => [s]
  | some (before, after) => before :: split separator after
termination_by s.length
decreasing_by exact length_lt_of_cut _h

/-- A split always has a piece, though it may be empty. -/
theorem split_ne_nil (separator s : List Char) : split separator s ≠ [] := by
  rw [split]
  split <;> simp

/-- The pieces and one separator between each two of them make up the text. -/
theorem length_split (separator s : List Char) :
    (split separator s).flatten.length + separator.length * ((split separator s).length - 1)
      = s.length := by
  fun_induction split separator s with
  | case1 => simp
  | case2 s before after hcut ih =>
    obtain ⟨-, rfl⟩ := eq_append_of_cut hcut
    have hpos := List.length_pos_iff.mpr (split_ne_nil separator after)
    obtain ⟨n, hn⟩ := Nat.exists_eq_add_of_lt hpos
    simp only [List.flatten_cons, List.length_cons, List.length_append, Nat.add_sub_cancel] at ih ⊢
    rw [← ih, hn]
    simp only [Nat.zero_add, Nat.add_sub_cancel, Nat.mul_add, Nat.mul_one]
    omega

/-- No piece of a split is longer than the text. -/
theorem length_le_of_mem_split {separator s piece : List Char} (h : piece ∈ split separator s) :
    piece.length ≤ s.length := by
  have := length_split separator s
  have := (List.sublist_flatten_of_mem h).length_le
  omega

/-- The pieces of a split are together no longer than the text. -/
theorem length_flatten_split_le (separator s : List Char) :
    (split separator s).flatten.length ≤ s.length := by
  have := length_split separator s
  omega

end BotBindings.Text
