import BotBindings.Code.Literal
import BotBindings.Text.Quoted
import Mathlib.Data.Nat.Digits.Defs

/-!
# Literals read back

Every text is written as a literal that reads as that text. A character takes one step of reading,
whether it is written as itself, by a short escape or by its code point, and what a step reads does
not depend on what comes after.
-/

namespace BotBindings.Code.Literal

open Text

/-! ## Hexadecimal digits -/

private theorem hexValue?_digitChar {d : Nat} (h : d < 16) : hexValue? d.digitChar = some d := by
  revert d
  decide

/-- A property of digits holds of all digits of a number. -/
theorem forall_mem_hexDigits {P : Char → Prop} (hP : ∀ d < 16, P d.digitChar) (n : Nat) :
    ∀ c ∈ hexDigits n, P c := by
  unfold hexDigits
  induction n using Nat.strongRecOn with
  | ind n ih =>
    by_cases hn : n < 16
    · rw [Nat.toDigits_of_lt_base hn]
      simpa using hP n hn
    · rw [Nat.toDigits_of_base_le (by decide) (by omega)]
      intro c hc
      rcases List.mem_append.mp hc with hc | hc
      · exact ih (n / 16) (by omega) c hc
      · rw [List.mem_singleton.mp hc]
        exact hP _ (Nat.mod_lt n (by decide))

private theorem isHexDigit_of_mem_hexDigits {n : Nat} {c : Char} (hc : c ∈ hexDigits n) :
    isHexDigit c = true :=
  forall_mem_hexDigits (P := (isHexDigit · = true)) (by decide) n c hc

private theorem ne_underscore_of_mem_hexDigits {n : Nat} {c : Char} (hc : c ∈ hexDigits n) :
    c ≠ '_' :=
  forall_mem_hexDigits (P := (· ≠ '_')) (by decide) n c hc

private theorem hexNumber_append_singleton (digits : List Char) {d : Nat} (h : d < 16) :
    hexNumber (digits ++ [d.digitChar]) = 16 * hexNumber digits + d := by
  simp [hexNumber, List.filterMap_append, hexValue?_digitChar h]

/-- Hexadecimal digits stand for the number that they were written for. -/
theorem hexNumber_hexDigits (n : Nat) : hexNumber (hexDigits n) = n := by
  unfold hexDigits
  induction n using Nat.strongRecOn with
  | ind n ih =>
    by_cases hn : n < 16
    · rw [Nat.toDigits_of_lt_base hn]
      simpa [hexNumber] using hexNumber_append_singleton [] hn
    · have hmod : n % 16 < 16 := Nat.mod_lt n (by decide)
      rw [Nat.toDigits_of_base_le (by decide) (by omega), hexNumber_append_singleton _ hmod,
        ih (n / 16) (by omega)]
      omega

/-- The digits of a code point are few enough for an escape. -/
theorem length_hexDigits_le {n : Nat} (h : n < 0x110000) : (hexDigits n).length ≤ 6 :=
  (Nat.length_toDigits_le_iff (by decide) (by decide)).mpr (by omega)

private theorem hexDigits_ne_nil (n : Nat) : hexDigits n ≠ [] := by
  unfold hexDigits
  by_cases hn : n < 16
  · rw [Nat.toDigits_of_lt_base hn]
    simp
  · rw [Nat.toDigits_of_base_le (by decide) (by omega)]
    simp

/-! ## Escapes -/

/-- An escape by code point reads as the character that it was written for. -/
theorem readCodePoint_hexDigits (c : Char) (rest : List Char) :
    readCodePoint ('\x7b' :: hexDigits c.toNat ++ '\x7d' :: rest) = some (c, rest) := by
  have hdigits : (hexDigits c.toNat ++ '\x7d' :: rest).takeWhile
      (fun c => isHexDigit c || c == '_') = hexDigits c.toNat := by
    rw [List.takeWhile_append_of_pos, List.takeWhile_cons_of_neg (by decide), List.append_nil]
    intro d hd
    simp [isHexDigit_of_mem_hexDigits hd]
  have hcount : (hexDigits c.toNat).countP isHexDigit = (hexDigits c.toNat).length :=
    List.countP_eq_length.mpr fun d => isHexDigit_of_mem_hexDigits
  have hvalid : c.toNat.isValidChar := c.valid
  have hlength : (hexDigits c.toNat).length ≤ 6 :=
    length_hexDigits_le (by unfold Nat.isValidChar at hvalid; omega)
  have hhead : (hexDigits c.toNat).head? ≠ some '_' := by
    intro h
    exact ne_underscore_of_mem_hexDigits (List.mem_of_mem_head? h) rfl
  rw [List.cons_append, readCodePoint, hdigits]
  simp [hcount, hlength, hexDigits_ne_nil, hhead, hexNumber_hexDigits, hvalid]

/-! ## Quoted texts -/

/-- One character that was read before the rest of a text. -/
def readBefore (c : Char) (found : Option (List Char × List Char)) :
    Option (List Char × List Char) :=
  found.map fun (text, rest) => (c :: text, rest)

/-- Reading passes an escape in one step. -/
theorem readQuoted_escape {c d : Char} {more : List Char} (limit : Nat) (rest : List Char)
    (hread : readEscape .text (d :: more ++ rest) = some (c, rest)) (hline : d ≠ '\n')
    (hreturn : d ≠ '\r') :
    readQuoted .text (limit + 1) ('\\' :: d :: more ++ rest)
      = readBefore c (readQuoted .text limit rest) := by
  rw [List.cons_append, List.cons_append] at *
  rw [readQuoted]
  · simp only [hread]
    rfl
  all_goals simp_all

/-- A character that is written as itself takes one step. -/
theorem readQuoted_cons {c : Char} (hquote : c ≠ '"') (hreturn : c ≠ '\r') (hslash : c ≠ '\\')
    (limit : Nat) (rest : List Char) :
    readQuoted .text (limit + 1) (c :: rest) = readBefore c (readQuoted .text limit rest) := by
  rw [readQuoted]
  · rfl
  all_goals simp_all

/-- A character takes one step, however it is written. -/
theorem readQuoted_escapeChar (c : Char) (limit : Nat) (rest : List Char) :
    readQuoted .text (limit + 1) (escapeChar c ++ rest)
      = readBefore c (readQuoted .text limit rest) := by
  unfold escapeChar
  split_ifs with hnull htab hreturn hline hquote hslash
  · subst hnull
    exact readQuoted_escape limit rest rfl (by decide) (by decide)
  · subst htab
    exact readQuoted_escape limit rest rfl (by decide) (by decide)
  · subst hreturn
    exact readQuoted_escape limit rest rfl (by decide) (by decide)
  · subst hline
    exact readQuoted_escape limit rest rfl (by decide) (by decide)
  · subst hquote
    exact readQuoted_escape limit rest rfl (by decide) (by decide)
  · subst hslash
    exact readQuoted_escape limit rest rfl (by decide) (by decide)
  · exact readQuoted_cons hquote hreturn hslash limit rest
  · have hcode := readCodePoint_hexDigits c rest
    rw [List.cons_append] at hcode
    have hread : readEscape .text ('u' :: ('\x7b' :: hexDigits c.toNat ++ ['\x7d']) ++ rest)
        = some (c, rest) := by
      simp [readEscape, hcode]
    simpa using readQuoted_escape limit rest hread (by decide) (by decide)

/-- The characters of a literal read as those of its text. Every character takes a step, so a limit
beyond their number is not met. -/
theorem readQuoted_escapeLiteral (s : List Char) (limit : Nat) (h : s.length < limit)
    (after : List Char) :
    readQuoted .text limit (escapeLiteral s ++ '"' :: after) = some (s, after) := by
  induction s using escapeLiteral.induct generalizing limit with
  | case1 =>
    obtain ⟨n, rfl⟩ : ∃ n, limit = n + 1 := ⟨limit - 1, by omega⟩
    rfl
  | case2 c =>
    obtain ⟨n, rfl⟩ : ∃ n, limit = n + 1 + 1 := ⟨limit - 2, by simp at h; omega⟩
    rw [escapeLiteral, readQuoted_escapeChar]
    rfl
  | case3 c next rest ih =>
    obtain ⟨n, rfl⟩ : ∃ n, limit = n + 1 := ⟨limit - 1, by omega⟩
    have hrest := ih n (by simpa using h)
    rw [escapeLiteral, List.append_assoc]
    split
    · -- Before an octal digit the null character has an escape of two digits.
      rename_i hdigit
      obtain rfl : c = '\x00' := by simp_all
      have hstep := readQuoted_escape n (escapeLiteral (next :: rest) ++ '"' :: after)
        (rfl : readEscape .text ('x' :: ['0', '0'] ++ _) = some ('\x00', _)) (by decide) (by decide)
      rw [hrest] at hstep
      exact hstep
    · rw [readQuoted_escapeChar, hrest]
      rfl

private theorem escapeChar_ne_nil (c : Char) : escapeChar c ≠ [] := by
  unfold escapeChar
  split_ifs <;> simp

/-- A text is not longer than the characters of its literal. -/
theorem length_le_length_escapeLiteral (s : List Char) : s.length ≤ (escapeLiteral s).length := by
  induction s using escapeLiteral.induct with
  | case1 => simp
  | case2 c =>
    exact List.length_pos_iff.mpr (escapeChar_ne_nil c)
  | case3 c next rest ih =>
    have hpos := List.length_pos_iff.mpr (escapeChar_ne_nil c)
    rw [escapeLiteral, List.length_append, List.length_cons]
    split
    · simp only [List.length_cons, List.length_nil] at ih ⊢
      omega
    · omega

/-- Every text is what its literal stands for. -/
theorem value?_literal (s : String) : value? (literal s) = some s := by
  have hlength := length_le_length_escapeLiteral s.toList
  have hread := readQuoted_escapeLiteral s.toList ((escapeLiteral s.toList ++ ['"']).length + 1)
    (by simp; omega) []
  rw [value?, literal, String.toList_ofList, List.cons_append]
  simp only [hread, Option.map_some, String.ofList_toList]

end BotBindings.Code.Literal
