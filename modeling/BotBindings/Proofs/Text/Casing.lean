import BotBindings.Proofs.Text.Blank
import BotBindings.Text.Casing
import Mathlib

/-!
# The characters of recased names

Recasing drops every character that is neither a letter nor a number, and changes the others by the
case tables. The table of small letters leads to no character of ASCII which is not a letter or a
number again. So the only punctuation in snake case is the underscore between two words, however the
name itself was written. The table of capital letters leads to no small letter of ASCII, so pascal
case starts with none. On ASCII itself the table of small letters changes nothing but the capital
letters.
-/

namespace BotBindings.Text

/-! ## Letters and numbers of ASCII -/

/-- Whether a code point is a letter or a number of ASCII, or lies beyond ASCII. -/
def isPlainCode (n : Nat) : Bool :=
  (0x30 ≤ n && n ≤ 0x39) || (0x41 ≤ n && n ≤ 0x5A) || (0x61 ≤ n && n ≤ 0x7A) || 0x80 ≤ n

/-- Whether a character is a letter or a number of ASCII, or lies beyond ASCII. -/
def isPlain (c : Char) : Bool :=
  isPlainCode c.toNat

/-- Whether all numbers from `first` to `last` are code points of letters and numbers of ASCII, or
of characters beyond ASCII. -/
def isPlainRange (first last : Nat) : Bool :=
  (0x30 ≤ first && last ≤ 0x39) || (0x41 ≤ first && last ≤ 0x5A) ||
    (0x61 ≤ first && last ≤ 0x7A) || (0x80 ≤ first && last < 0xD800) ||
    (0xE000 ≤ first && last < 0x110000)

private theorem isPlain_ofNat {first last n : Nat} (h : isPlainRange first last = true)
    (hfirst : first ≤ n) (hlast : n ≤ last) : isPlain (Char.ofNat n) = true := by
  simp only [isPlainRange, Bool.or_eq_true, Bool.and_eq_true, decide_eq_true_eq] at h
  have hvalid : n.isValidChar := by
    unfold Nat.isValidChar
    omega
  rw [isPlain, Char.toNat_ofNat, if_pos hvalid]
  simp only [isPlainCode, Bool.or_eq_true, Bool.and_eq_true, decide_eq_true_eq]
  omega

/-! ## What the tables lead to -/

/-- Whether a shift leads to letters and numbers of ASCII and to characters beyond ASCII only. -/
def CaseShift.isPlain (shift : CaseShift) : Bool :=
  decide (0 ≤ shift.run.first + shift.offset) &&
    isPlainRange (shift.run.first + shift.offset).toNat (shift.run.last + shift.offset).toNat

private theorem isPlain_of_mem_mapCase {sequences : List (Nat × List Nat)} {shifts : List CaseShift}
    (hsequences : sequences.all (fun entry => entry.2.all fun n => isPlainRange n n) = true)
    (hshifts : shifts.all CaseShift.isPlain = true) {c d : Char} (hc : isPlain c = true)
    (hd : d ∈ mapCase sequences shifts c) : isPlain d = true := by
  unfold mapCase at hd
  split at hd
  · rename_i entry hentry
    obtain ⟨n, hn, rfl⟩ := List.mem_map.mp hd
    have hplain := List.all_eq_true.mp hsequences entry (List.mem_of_find?_eq_some hentry)
    exact isPlain_ofNat (List.all_eq_true.mp hplain n hn) (Nat.le_refl n) (Nat.le_refl n)
  · split at hd
    · rename_i shift hshift
      obtain rfl := List.mem_singleton.mp hd
      have hplain := List.all_eq_true.mp hshifts shift (List.mem_of_find?_eq_some hshift)
      have hrun := List.find?_some hshift
      simp only [CaseShift.isPlain, CodeRun.contains, Bool.and_eq_true, decide_eq_true_eq]
        at hplain hrun
      exact isPlain_ofNat hplain.2 (by omega) (by omega)
    · rw [List.mem_singleton.mp hd]
      exact hc

private theorem isPlain_of_mem_toLowercase {c d : Char} (hc : isPlain c = true)
    (hd : d ∈ toLowercase c) :
    isPlain d = true :=
  isPlain_of_mem_mapCase (by decide +kernel) (by decide +kernel) hc hd

private theorem isPlain_of_isAlphanumeric {c : Char} (h : isAlphanumeric c = true) :
    isPlain c = true := by
  obtain ⟨run, hmem, hrun⟩ := List.any_eq_true.mp h
  have htable : alphanumeric.all (fun run => isPlainRange run.first run.last) = true := by
    decide +kernel
  simp only [CodeRun.contains, Bool.and_eq_true, decide_eq_true_eq] at hrun
  rw [← Char.ofNat_toNat c]
  exact isPlain_ofNat (List.all_eq_true.mp htable run hmem) hrun.1.1 hrun.1.2

/-! ## Words -/

private theorem mem_caseWordsFrom {word s : List Char} {last : LastCase} {part : List Char}
    (hpart : part ∈ caseWordsFrom word last s) {c : Char} (hc : c ∈ part) : c ∈ word ∨ c ∈ s := by
  fun_induction caseWordsFrom word last s with
  | case1 => simp at hpart
  | case2 => simp_all
  | case3 => simp_all
  | case4 word last c' next rest after hsplit ih =>
    rcases List.mem_cons.mp hpart with rfl | hpart
    · rcases List.mem_append.mp hc with hc | hc
      · exact Or.inl hc
      · exact Or.inr (by simp_all)
    · rcases ih hpart with h | h
      · simp at h
      · exact Or.inr (List.mem_cons_of_mem _ h)
  | case5 word last c' next rest after hsplit hcapital ih =>
    rcases List.mem_cons.mp hpart with rfl | hpart
    · exact Or.inl hc
    · rcases ih hpart with h | h
      · exact Or.inr (by simp_all)
      · exact Or.inr (List.mem_cons_of_mem _ h)
  | case6 word last c' next rest after hsplit hcapital ih =>
    rcases ih hpart with h | h
    · rcases List.mem_append.mp h with h | h
      · exact Or.inl h
      · exact Or.inr (by simp_all)
    · exact Or.inr (List.mem_cons_of_mem _ h)

private theorem isAlphanumeric_of_mem_runs {run s : List Char}
    (hrun : ∀ c ∈ run, isAlphanumeric c = true) {part : List Char}
    (hpart : part ∈ alphanumericRunsFrom run s) {c : Char} (hc : c ∈ part) :
    isAlphanumeric c = true := by
  fun_induction alphanumericRunsFrom run s with
  | case1 => simp at hpart
  | case2 run hne =>
    rw [List.mem_singleton.mp hpart] at hc
    exact hrun c hc
  | case3 run next rest hnext ih =>
    refine ih ?_ hpart
    intro other hother
    rcases List.mem_append.mp hother with h | h
    · exact hrun other h
    · rwa [List.mem_singleton.mp h]
  | case4 run next rest hnext hempty ih => exact ih (by simp) hpart
  | case5 run next rest hnext hne ih =>
    rcases List.mem_cons.mp hpart with rfl | hpart
    · exact hrun c hc
    · exact ih (by simp) hpart

/-- The words of a name hold letters and numbers only. -/
theorem isPlain_of_mem_caseWords {name word : List Char} (hword : word ∈ caseWords name) {c : Char}
    (hc : c ∈ word) : isPlain c = true := by
  obtain ⟨run, hrun, hword⟩ := List.mem_flatMap.mp hword
  refine isPlain_of_isAlphanumeric (isAlphanumeric_of_mem_runs (by simp) hrun ?_)
  rcases mem_caseWordsFrom hword hc with h | h
  · cases h
  · exact h

private theorem isPlain_of_mem_lowerWord {word : List Char} (hword : ∀ c ∈ word, isPlain c = true)
    {d : Char} (hd : d ∈ lowerWord word) : isPlain d = true := by
  fun_induction lowerWord word with
  | case1 => cases hd
  | case2 =>
    rw [List.mem_singleton.mp hd]
    decide
  | case3 c hc => exact isPlain_of_mem_toLowercase (hword c (by simp)) hd
  | case4 c rest hne ih =>
    rcases List.mem_append.mp hd with hd | hd
    · exact isPlain_of_mem_toLowercase (hword c (by simp)) hd
    · exact ih (fun other hother => hword other (List.mem_cons_of_mem _ hother)) hd

/-! ## Snake case -/

/-- An item of an interspersed list is an item of the list or the separator. -/
theorem mem_of_mem_intersperse {α : Type} {separator a : α} {items : List α}
    (h : a ∈ items.intersperse separator) : a = separator ∨ a ∈ items := by
  induction items with
  | nil => exact Or.inr h
  | cons item items ih =>
    cases items with
    | nil => exact Or.inr h
    | cons next items =>
      rw [List.intersperse_cons_cons, List.mem_cons, List.mem_cons] at h
      rcases h with rfl | rfl | h
      · simp
      · exact Or.inl rfl
      · rcases ih h with rfl | h
        · exact Or.inl rfl
        · exact Or.inr (List.mem_cons_of_mem item h)

/-- The only punctuation in snake case is the underscore. -/
theorem isPlain_or_underscore_of_mem_snakeCase {name : String} {c : Char}
    (hc : c ∈ (snakeCase name).toList) : isPlain c = true ∨ c = '_' := by
  rw [snakeCase, String.toList_ofList] at hc
  obtain ⟨part, hpart, hc⟩ := List.mem_flatten.mp hc
  rcases mem_of_mem_intersperse hpart with rfl | hpart
  · exact Or.inr (List.mem_singleton.mp hc)
  · obtain ⟨word, hword, rfl⟩ := List.mem_map.mp hpart
    exact Or.inl (isPlain_of_mem_lowerWord (fun _ => isPlain_of_mem_caseWords hword) hc)

/-- A character that is not plain does not occur in snake case, unless it is the underscore. -/
theorem not_mem_snakeCase {c : Char} (hc : isPlain c = false) (hunderscore : c ≠ '_')
    (name : String) : c ∉ (snakeCase name).toList := by
  intro hmem
  rcases isPlain_or_underscore_of_mem_snakeCase hmem with hplain | heq
  · rw [hc] at hplain
    cases hplain
  · exact hunderscore heq

/-! ## The first character of pascal case -/

private theorem isLower_iff {c : Char} : c.isLower = true ↔ 0x61 ≤ c.toNat ∧ c.toNat ≤ 0x7A := by
  change (decide ('a'.toNat ≤ c.toNat) && decide (c.toNat ≤ 'z'.toNat)) = true ↔ _
  rw [Bool.and_eq_true, decide_eq_true_eq, decide_eq_true_eq]
  rfl

/-- Whether no number from `first` to `last` is the code point of a small letter of ASCII. -/
def isLowerFree (first last : Nat) : Bool :=
  last < 0x61 || 0x7A < first

private theorem isLower_ofNat_eq_false {first last n : Nat} (h : isLowerFree first last = true)
    (hfirst : first ≤ n) (hlast : n ≤ last) : (Char.ofNat n).isLower = false := by
  simp only [isLowerFree, Bool.or_eq_true, decide_eq_true_eq] at h
  rw [Bool.eq_false_iff, ne_eq, isLower_iff, Char.toNat_ofNat]
  split <;> omega

/-- Whether a shift leads to no small letter of ASCII. -/
def CaseShift.isLowerFree (shift : CaseShift) : Bool :=
  decide (0 ≤ shift.run.first + shift.offset) &&
    Text.isLowerFree (shift.run.first + shift.offset).toNat (shift.run.last + shift.offset).toNat

/-- A character in uppercase starts with no small letter of ASCII. -/
theorem exists_head?_toUppercase (c : Char) :
    ∃ d, (toUppercase c).head? = some d ∧ d.isLower = false := by
  unfold toUppercase mapCase
  split
  · rename_i entry hentry
    have htable : upperSequences.all (fun entry =>
        entry.2.head?.any fun n => isLowerFree n n) = true := by decide +kernel
    have hhead := List.all_eq_true.mp htable entry (List.mem_of_find?_eq_some hentry)
    cases hlist : entry.2 with
    | nil => simp [hlist] at hhead
    | cons n rest =>
      rw [hlist] at hhead
      exact ⟨_, rfl, isLower_ofNat_eq_false hhead (Nat.le_refl n) (Nat.le_refl n)⟩
  · split
    · rename_i shift hshift
      have htable : upperShifts.all CaseShift.isLowerFree = true := by decide +kernel
      have hfree := List.all_eq_true.mp htable shift (List.mem_of_find?_eq_some hshift)
      have hrun := List.find?_some hshift
      simp only [CaseShift.isLowerFree, CodeRun.contains, Bool.and_eq_true, decide_eq_true_eq]
        at hfree hrun
      exact ⟨_, rfl, isLower_ofNat_eq_false hfree.2 (by omega) (by omega)⟩
    · -- Small letters of ASCII are shifted, so no other character remains as it is.
      rename_i hnone
      refine ⟨c, rfl, ?_⟩
      rw [Bool.eq_false_iff, ne_eq, isLower_iff]
      intro hlower
      have hmem : ⟨⟨0x61, 0x7A, 1⟩, -32⟩ ∈ upperShifts := List.mem_cons_self
      have hnot := List.find?_eq_none.mp hnone _ hmem
      simp [CodeRun.contains, hlower.1, hlower.2, Nat.mod_one] at hnot

private theorem isLower_head_capitalWord {word : List Char} {c : Char}
    (h : (capitalWord word).head? = some c) : c.isLower = false := by
  cases word with
  | nil => cases h
  | cons first rest =>
    obtain ⟨d, hd, hlower⟩ := exists_head?_toUppercase first
    obtain ⟨others, hothers⟩ := List.head?_eq_some_iff.mp hd
    rw [capitalWord, hothers] at h
    cases h
    exact hlower

/-- Pascal case starts with no small letter of ASCII. -/
theorem isLower_head_pascalCase {name : String} {c : Char}
    (h : (pascalCase name).toList.head? = some c) : c.isLower = false := by
  rw [pascalCase, String.toList_ofList] at h
  generalize caseWords name.toList = words at h
  induction words with
  | nil => cases h
  | cons word words ih =>
    rw [List.map_cons, List.flatten_cons] at h
    cases hword : capitalWord word with
    | nil => exact ih (by simpa [hword] using h)
    | cons first rest =>
      rw [hword] at h
      cases h
      exact isLower_head_capitalWord (by rw [hword]; rfl)

/-! ## Letter case in ASCII -/

/-- What holds of the first 128 code points holds of the characters of ASCII. -/
theorem forall_ascii {P : Char → Prop} (h : ∀ n < 128, P (Char.ofNat n)) {c : Char}
    (hc : c.toNat < 128) : P c := by
  have hcode := h c.toNat hc
  rwa [Char.ofNat_toNat] at hcode

/-- Letters and digits in the sense of `Char.isAlphanum` are characters of ASCII. -/
theorem toNat_lt_of_isAlphanum {c : Char} (h : c.isAlphanum = true) : c.toNat < 128 := by
  change (c.isUpper || c.isLower || c.isDigit) = true at h
  rw [Bool.or_eq_true, Bool.or_eq_true] at h
  rcases h with (hcapital | hsmall) | hdigit
  · have hle : c.toNat ≤ 'Z'.toNat := (of_decide_eq_true hcapital).2
    exact Nat.lt_of_le_of_lt hle (by decide)
  · exact Nat.lt_of_le_of_lt (isLower_iff.mp hsmall).2 (by decide)
  · have hle : c.toNat ≤ '9'.toNat := of_decide_eq_true (Bool.and_eq_true_iff.mp hdigit).2
    exact Nat.lt_of_le_of_lt hle (by decide)

private theorem toLower_eq_self {c : Char} (h : 128 ≤ c.toNat) : c.toLower = c := by
  refine Char.toLower_eq_of_not_isUpper fun hupper => ?_
  have hle : c.toNat ≤ 'Z'.toNat := (of_decide_eq_true hupper).2
  have hcode : 'Z'.toNat = 90 := rfl
  omega

/-- The table of small letters agrees with the letters of ASCII. -/
theorem toLowercase_eq {c : Char} (h : c.toNat < 128) : toLowercase c = [c.toLower] :=
  forall_ascii (P := fun c => toLowercase c = [c.toLower]) (by decide +kernel) h

/-- A character is blank in lowercase exactly if it is blank as it stands. -/
theorem isBlank_toLower (c : Char) : isBlank c.toLower = isBlank c := by
  by_cases h : c.toNat < 128
  · exact forall_ascii (P := fun c => isBlank c.toLower = isBlank c) (by decide +kernel) h
  · rw [toLower_eq_self (Nat.le_of_not_lt h)]

/-- The blanks at the ends of a text do not depend on its letter case. -/
theorem trim_eq_self_of_map_toLower {s : List Char}
    (h : trim (s.map Char.toLower) = s.map Char.toLower) : trim s = s := by
  rw [trim_eq_self_iff, List.head?_map, List.getLast?_map] at h
  refine trim_eq_self_iff.mpr ⟨fun c hc => ?_, fun c hc => ?_⟩
  · rw [← isBlank_toLower]
    exact h.1 _ (by rw [hc]; rfl)
  · rw [← isBlank_toLower]
    exact h.2 _ (by rw [hc]; rfl)

/-- A text that holds nothing but ASCII in lowercase is put in lowercase letter by letter. -/
theorem flatMap_toLowercase_eq {s : List Char} (h : ∀ c ∈ s.map Char.toLower, c.toNat < 128) :
    s.flatMap toLowercase = s.map Char.toLower := by
  have hascii : ∀ c ∈ s, toLowercase c = [c.toLower] := by
    intro c hc
    refine toLowercase_eq (Nat.lt_of_not_le fun hle => ?_)
    have hlower := h _ (List.mem_map_of_mem hc)
    rw [toLower_eq_self hle] at hlower
    omega
  rw [List.flatMap_congr hascii, ← List.map_eq_flatMap]

end BotBindings.Text
