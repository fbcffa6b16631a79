import BotBindings.Code.Identifier
import Mathlib.Data.List.Basic

/-!
# Names and their identifiers

A name that is an identifier already is kept; any other name is changed, and two names may then have
one identifier. This file says which names are kept, and that the identifier of a name is such a
name, so that taking identifiers twice changes nothing more.
-/

namespace BotBindings.Code

/-- Whether identifiers hold a character. -/
def isIdentifierChar (c : Char) : Bool :=
  c.isAlphanum || c == '_'

/-- A name that is an identifier as it stands, if need be with an escape. -/
structure IsIdentifier (name : String) : Prop where
  isIdentifierChar_of_mem : ∀ c ∈ name.toList, isIdentifierChar c = true
  isDigit_head : ∃ c, name.toList.head? = some c ∧ c.isDigit = false
  not_mem_pathKeywords : name ∉ pathKeywords

/-! ## Characters that identifiers hold -/

/-- The character that stands for `c` in an identifier. -/
def identifierChar (c : Char) : Char :=
  if isIdentifierChar c then c else '_'

private theorem isIdentifierChar_identifierChar (c : Char) :
    isIdentifierChar (identifierChar c) = true := by
  unfold identifierChar
  split
  · assumption
  · decide

private theorem map_identifierChar_eq_self {name : List Char}
    (h : ∀ c ∈ name, isIdentifierChar c = true) : name.map identifierChar = name := by
  conv_rhs => rw [← List.map_id name]
  exact List.map_congr_left fun c hc => if_pos (h c hc)

/-- Replacing characters only puts an underscore before a digit, if the name starts with one. -/
theorem sanitize_eq (name : List Char) :
    sanitize name = match name.map identifierChar with
      | [] => ['_']
      | c :: rest => if c.isDigit then '_' :: c :: rest else c :: rest := by
  unfold sanitize
  change (match name.map identifierChar with
    | [] => ['_']
    | c :: _ => if c.isDigit then '_' :: name.map identifierChar else name.map identifierChar) = _
  cases name.map identifierChar <;> rfl

private theorem isIdentifierChar_of_mem_sanitize {name : List Char} {c : Char}
    (hc : c ∈ sanitize name) :
    isIdentifierChar c = true := by
  have hmap : ∀ d ∈ name.map identifierChar, isIdentifierChar d = true := by
    intro d hd
    obtain ⟨e, -, rfl⟩ := List.mem_map.mp hd
    exact isIdentifierChar_identifierChar e
  rw [sanitize_eq] at hc
  cases hlist : name.map identifierChar with
  | nil =>
    rw [hlist, List.mem_singleton] at hc
    rw [hc]
    decide
  | cons d rest =>
    rw [hlist] at hc hmap
    dsimp only at hc
    split at hc
    · rcases List.mem_cons.mp hc with rfl | hc
      · decide
      · exact hmap c hc
    · exact hmap c hc

private theorem isDigit_head_sanitize (name : List Char) :
    ∃ c, (sanitize name).head? = some c ∧ c.isDigit = false := by
  rw [sanitize_eq]
  cases name.map identifierChar with
  | nil => exact ⟨'_', rfl, by decide⟩
  | cons c rest =>
    dsimp only
    split
    · exact ⟨'_', rfl, by decide⟩
    · rename_i hdigit
      exact ⟨c, rfl, Bool.eq_false_iff.mpr hdigit⟩

/-- A text of characters that identifiers hold is kept unless it starts with a digit. -/
theorem sanitize_eq_self {name : List Char} (hchars : ∀ c ∈ name, isIdentifierChar c = true)
    (hhead : ∃ c, name.head? = some c ∧ c.isDigit = false) : sanitize name = name := by
  obtain ⟨c, hc, hdigit⟩ := hhead
  obtain ⟨rest, rfl⟩ := List.head?_eq_some_iff.mp hc
  rw [sanitize_eq, map_identifierChar_eq_self hchars]
  simp [hdigit]

/-- Nothing was changed in a name if there are no underscores in the result. -/
theorem eq_of_underscore_not_mem_sanitize {name : List Char} (h : '_' ∉ sanitize name) :
    sanitize name = name := by
  rw [sanitize_eq] at h ⊢
  cases name with
  | nil => simp at h
  | cons c rest =>
    have hchars : '_' ∉ (c :: rest).map identifierChar := by
      intro hmem
      rw [List.map_cons] at hmem h
      dsimp only at h
      split at h
      · simp at h
      · exact h hmem
    have hkept : ∀ d ∈ c :: rest, isIdentifierChar d = true := by
      intro d hd
      by_contra hd'
      exact hchars (List.mem_map.mpr ⟨d, hd, if_neg hd'⟩)
    rw [map_identifierChar_eq_self hkept] at h ⊢
    dsimp only at h ⊢
    split at h
    · simp at h
    · rw [if_neg ‹_›]

/-- What stands behind a first character is replaced character by character. -/
theorem sanitize_append {front : List Char} (hfront : front ≠ []) (back : List Char) :
    sanitize (front ++ back) = sanitize front ++ back.map identifierChar := by
  obtain ⟨c, rest, rfl⟩ := List.exists_cons_of_ne_nil hfront
  rw [sanitize_eq, sanitize_eq, List.map_append, List.map_cons, List.cons_append]
  dsimp only
  split <;> rfl

/-- A name as it is spelled in the middle of an identifier. -/
def spelling (name : String) : String :=
  String.ofList (name.toList.map identifierChar)

/-- Only a continuation that adds nothing is spelled by nothing. -/
theorem spelling_eq_empty_iff {name : String} : spelling name = "" ↔ name = "" := by
  rw [spelling, ← String.toList_inj, ← String.toList_inj, String.toList_ofList]
  simp

/-- The words that cannot be escaped hold no underscores. -/
theorem underscore_not_mem_of_mem_pathKeywords {word : String} (h : word ∈ pathKeywords) :
    '_' ∉ word.toList := by
  simp only [pathKeywords, List.mem_cons, List.not_mem_nil, or_false] at h
  rcases h with rfl | rfl | rfl | rfl <;> decide

namespace Identifier

/-! ## The identifier of a name -/

/-- The text of an identifier is the name with characters replaced, and an underscore at the end of
a keyword that cannot be escaped. -/
theorem text_ofName (name : String) :
    (ofName name).text = if String.ofList (sanitize name.toList) ∈ pathKeywords
      then String.ofList (sanitize name.toList) ++ "_"
      else String.ofList (sanitize name.toList) := by
  simp only [ofName, List.contains_iff_mem]
  split <;> rfl

/-- The identifier of a name is a name that is kept. -/
theorem isIdentifier_text_ofName (name : String) : IsIdentifier (ofName name).text := by
  rw [text_ofName]
  split
  · rename_i hpath
    simp only [pathKeywords, List.mem_cons, List.not_mem_nil, or_false] at hpath
    rcases hpath with h | h | h | h <;> rw [h]
    all_goals exact ⟨by simp [isIdentifierChar], ⟨_, rfl, by decide⟩, by decide⟩
  · refine ⟨?_, ?_, ‹_›⟩
    · simpa using fun c => isIdentifierChar_of_mem_sanitize
    · simpa using isDigit_head_sanitize name.toList

/-- The mark of an escape is no part of the text. -/
theorem hash_not_mem_text_ofName (name : String) : '#' ∉ (ofName name).text.toList := by
  intro hmem
  have hchar := (isIdentifier_text_ofName name).isIdentifierChar_of_mem _ hmem
  revert hchar
  decide

/-- The identifier of a name has the name as its text exactly if the name is an identifier. -/
theorem text_ofName_eq_self_iff {name : String} :
    (ofName name).text = name ↔ IsIdentifier name := by
  constructor
  · intro h
    rw [← h]
    exact isIdentifier_text_ofName name
  · intro h
    rw [text_ofName, sanitize_eq_self h.isIdentifierChar_of_mem h.isDigit_head,
      String.ofList_toList, if_neg h.not_mem_pathKeywords]

/-- The text of an identifier is kept if an identifier is made of it again. -/
theorem text_ofName_text_ofName (name : String) :
    (ofName (ofName name).text).text = (ofName name).text :=
  text_ofName_eq_self_iff.mpr (isIdentifier_text_ofName name)

/-- The only name of an identifier without underscores is its text. -/
theorem eq_of_text_ofName {name word : String} (h : (ofName name).text = word)
    (hword : '_' ∉ word.toList) : name = word := by
  rw [text_ofName] at h
  split at h
  · exact absurd (by simp [← h]) hword
  · have hsanitized : sanitize name.toList = word.toList := by rw [← h, String.toList_ofList]
    rw [← String.toList_inj, ← hsanitized]
    exact (eq_of_underscore_not_mem_sanitize (hsanitized ▸ hword)).symm

/-- A name of letters and digits is what its identifier holds besides underscores. -/
theorem filter_text_ofName {name : String} (h : ∀ c ∈ name.toList, c.isAlphanum = true) :
    (ofName name).text.toList.filter (· != '_') = name.toList := by
  have hkept : name.toList.filter (· != '_') = name.toList := by
    refine List.filter_eq_self.mpr fun c hc => ?_
    rw [bne_iff_ne]
    rintro rfl
    exact absurd (h _ hc) (by decide)
  have hchars : ∀ c ∈ name.toList, isIdentifierChar c = true := by
    intro c hc
    simp [isIdentifierChar, h c hc]
  have hsanitized : (sanitize name.toList).filter (· != '_') = name.toList := by
    rw [sanitize_eq, map_identifierChar_eq_self hchars]
    cases hlist : name.toList with
    | nil => rfl
    | cons c rest =>
      rw [hlist] at hkept
      dsimp only
      split
      · rw [List.filter_cons_of_neg (by decide), hkept]
      · exact hkept
  rw [text_ofName]
  split
  · rw [String.toList_append, String.toList_ofList, List.filter_append, hsanitized]
    simp
  · rw [String.toList_ofList, hsanitized]

/-- Names of letters and digits have different identifiers if they differ. -/
theorem eq_of_text_ofName_eq {name other : String}
    (hname : ∀ c ∈ name.toList, c.isAlphanum = true)
    (hother : ∀ c ∈ other.toList, c.isAlphanum = true)
    (h : (ofName name).text = (ofName other).text) : name = other := by
  rw [← String.toList_inj, ← filter_text_ofName hname, h, filter_text_ofName hother]

end Identifier

end BotBindings.Code
