import BotBindings.Proofs.Text.Split
import BotBindings.TypeExpr.ReturnPhrase
import Mathlib.Data.List.TakeWhile

/-!
# Type phrases inside a description

`ReturnPhrase.typePhraseAt` looks for a type phrase that a closing follows. This file says in terms
of concatenation what it finds: a text starts with such a phrase exactly if it is an optional array
marker, a name and a closing, and the phrase is then determined by the text.
-/

namespace BotBindings.ReturnPhrase

open Text

private theorem stripAny_isSome_iff {fronts : List (List Char)} {s : List Char} :
    (stripAny fronts s).isSome = true ↔ ∃ front ∈ fronts, front <+: s := by
  simp only [stripAny, List.findSome?_isSome_iff]
  constructor
  · rintro ⟨front, hfront, h⟩
    obtain ⟨rest, hrest⟩ := Option.isSome_iff_exists.mp h
    exact ⟨front, hfront, rest, (stripFront_eq_some_iff.mp hrest).symm⟩
  · rintro ⟨front, hfront, rest, rfl⟩
    exact ⟨front, hfront, by simp⟩

/-- A qualifier, which may be missing, and a closing. -/
def endings : List (List Char) :=
  ([] :: qualifiers).flatMap fun qualifier => closings.map (qualifier ++ ·)

/-- A closing follows if the text starts with one of the endings. -/
theorem closes_iff {s : List Char} : closes s = true ↔ ∃ ending ∈ endings, ending <+: s := by
  have hbind (qualifier : List Char) :
      ((stripFront qualifier s).bind (stripAny closings)).isSome = true ↔
        ∃ closing ∈ closings, qualifier ++ closing <+: s := by
    constructor
    · intro h
      obtain ⟨rest, hrest⟩ := Option.isSome_iff_exists.mp h
      obtain ⟨after, hafter, hclosing⟩ := Option.bind_eq_some_iff.mp hrest
      obtain ⟨closing, hmem, tail, rfl⟩ :=
        stripAny_isSome_iff.mp (Option.isSome_iff_exists.mpr ⟨rest, hclosing⟩)
      rw [stripFront_eq_some_iff] at hafter
      exact ⟨closing, hmem, tail, by simp [hafter]⟩
    · rintro ⟨closing, hmem, tail, rfl⟩
      rw [List.append_assoc, stripFront_append, Option.bind_some, stripAny_isSome_iff]
      exact ⟨closing, hmem, tail, rfl⟩
  simp only [closes, Bool.or_eq_true, List.any_eq_true, hbind, stripAny_isSome_iff, endings,
    List.flatMap_cons, List.mem_append, List.mem_flatMap, List.mem_map, List.nil_append]
  constructor
  · rintro (⟨closing, hmem, h⟩ | ⟨qualifier, hq, closing, hmem, h⟩)
    · exact ⟨closing, Or.inl ⟨closing, hmem, rfl⟩, h⟩
    · exact ⟨_, Or.inr ⟨qualifier, hq, closing, hmem, rfl⟩, h⟩
  · rintro ⟨ending, ⟨closing, hmem, rfl⟩ | ⟨qualifier, hq, closing, hmem, rfl⟩, h⟩
    · exact Or.inl ⟨closing, hmem, h⟩
    · exact Or.inr ⟨qualifier, hq, closing, hmem, h⟩

/-- Text added after a closing leaves it in place. -/
theorem closes_append {s : List Char} (h : closes s = true) (x : List Char) :
    closes (s ++ x) = true := by
  obtain ⟨ending, hmem, hstarts⟩ := closes_iff.mp h
  exact closes_iff.mpr ⟨ending, hmem, hstarts.trans (List.prefix_append s x)⟩

/-- Every ending starts with a blank and holds no capital letter. -/
theorem exists_cons_of_mem_endings {ending : List Char} (h : ending ∈ endings) :
    ∃ rest, ending = ' ' :: rest := by
  have hhead : ∀ ending ∈ endings, ending.head? = some ' ' := by decide
  exact List.head?_eq_some_iff.mp (hhead ending h)

/-- What closes a phrase starts with a blank. -/
theorem exists_cons_of_closes {s : List Char} (h : closes s = true) : ∃ rest, s = ' ' :: rest := by
  obtain ⟨ending, hmem, tail, rfl⟩ := closes_iff.mp h
  obtain ⟨rest, rfl⟩ := exists_cons_of_mem_endings hmem
  exact ⟨rest ++ tail, rfl⟩

/-! ## Names -/

/-- The letters that start a name. -/
def IsCapital (c : Char) : Prop := 'A' ≤ c ∧ c ≤ 'Z'

instance : DecidablePred IsCapital := fun c => inferInstanceAs (Decidable ('A' ≤ c ∧ c ≤ 'Z'))

/-- A name is a capital letter and at least one word character. -/
def IsName : List Char → Prop
  | [] => False
  | c :: word => IsCapital c ∧ word ≠ [] ∧ ∀ a ∈ word, isWordChar a = true

/-- A blank is not part of a word. -/
theorem isWordChar_blank : isWordChar ' ' = false := by decide +kernel

private theorem isWordChar_of_isCapital {c : Char} (h : IsCapital c) : isWordChar c = true := by
  obtain ⟨hA, hZ⟩ := h
  have hlow : 65 ≤ c.toNat := hA
  have hhigh : c.toNat ≤ 90 := hZ
  refine List.any_eq_true.mpr ⟨⟨0x41, 0x5A, 1⟩, List.Mem.tail _ (List.Mem.head _), ?_⟩
  simp [CodeRun.contains, hlow, hhigh, Nat.mod_one]

/-- A name is made of word characters only. -/
theorem IsName.isWordChar {name : List Char} (h : IsName name) :
    ∀ a ∈ name, isWordChar a = true := by
  cases name with
  | nil => exact False.elim h
  | cons c word =>
    obtain ⟨hcapital, -, hword⟩ := h
    simpa [isWordChar_of_isCapital hcapital] using hword

/-- A name holds no blanks. -/
theorem IsName.blank_not_mem {name : List Char} (h : IsName name) : ' ' ∉ name := by
  intro hmem
  simpa [isWordChar_blank] using h.isWordChar ' ' hmem

/-- The name at the start of a text whose rest closes the phrase. -/
theorem nameAt_append {name after : List Char} (hname : IsName name)
    (hafter : closes after = true) : nameAt (name ++ after) = some (name, after) := by
  cases name with
  | nil => exact False.elim hname
  | cons c word =>
    obtain ⟨hcapital, hne, hword⟩ := hname
    obtain ⟨rest, rfl⟩ := exists_cons_of_closes hafter
    have htake : (word ++ ' ' :: rest).takeWhile Text.isWordChar = word := by
      rw [List.takeWhile_append_of_pos hword]
      simp [isWordChar_blank]
    have hdrop : (word ++ ' ' :: rest).dropWhile Text.isWordChar = ' ' :: rest := by
      rw [List.dropWhile_append_of_pos hword]
      simp [isWordChar_blank]
    simp only [nameAt, List.cons_append, htake, hdrop, hne, hcapital.1, hcapital.2, ne_eq,
      not_false_eq_true, and_self, if_true]

private theorem eq_append_of_nameAt {s name after : List Char} (h : nameAt s = some (name, after)) :
    s = name ++ after ∧ IsName name := by
  cases s with
  | nil => simp [nameAt] at h
  | cons c rest =>
    simp only [nameAt, Option.ite_none_right_eq_some, Option.some.injEq, Prod.mk.injEq] at h
    obtain ⟨⟨hlow, hhigh, hne⟩, rfl, rfl⟩ := h
    refine ⟨by simp, ⟨hlow, hhigh⟩, hne, ?_⟩
    intro a ha
    exact List.mem_takeWhile_imp ha

/-! ## Type phrases -/

/-- What may stand before the name: nothing or an array marker. -/
def markers : List (List Char) :=
  [[], "Array of ".toList, "array of ".toList]

/-- `phrase` is a type phrase: an optional array marker and a name. -/
def IsTypePhrase (phrase : List Char) : Prop :=
  ∃ marker ∈ markers, ∃ name, IsName name ∧ phrase = marker ++ name

/-- A phrase that denotes a type is not empty. -/
theorem not_isTypePhrase_nil : ¬ IsTypePhrase [] := by
  rintro ⟨marker, -, name, hname, heq⟩
  obtain ⟨-, rfl⟩ := List.append_eq_nil_iff.mp heq.symm
  exact hname

/-- The phrase with the given marker at the start of a text, if a closing follows it. -/
def closedAt (marker s : List Char) : Option (List Char) :=
  (stripFront marker s).bind fun rest => (nameAt rest).bind fun (name, after) =>
    if closes after then some (marker ++ name) else none

private theorem closedAt_eq_some_iff {marker s phrase : List Char} :
    closedAt marker s = some phrase ↔
      ∃ name after, IsName name ∧ closes after = true ∧ s = marker ++ (name ++ after) ∧
        phrase = marker ++ name := by
  constructor
  · intro h
    obtain ⟨rest, hrest, hphrase⟩ := Option.bind_eq_some_iff.mp h
    obtain ⟨⟨name, after⟩, hnameAt, hsome⟩ := Option.bind_eq_some_iff.mp hphrase
    simp only [Option.ite_none_right_eq_some, Option.some.injEq] at hsome
    obtain ⟨rfl, hname⟩ := eq_append_of_nameAt hnameAt
    exact ⟨name, after, hname, hsome.1, stripFront_eq_some_iff.mp hrest, hsome.2.symm⟩
  · rintro ⟨name, after, hname, hafter, rfl, rfl⟩
    simp [closedAt, nameAt_append hname hafter, hafter]

private theorem typePhraseAt_eq_or (s : List Char) :
    typePhraseAt s = ((closedAt "Array of ".toList s).or (closedAt "array of ".toList s)).or
      (closedAt [] s) := by
  have hfind : ["Array of ".toList, "array of ".toList].findSome? (closedAt · s)
      = (closedAt "Array of ".toList s).or (closedAt "array of ".toList s) := by
    simp only [List.findSome?_cons, List.findSome?_nil]
    cases closedAt "Array of ".toList s <;> cases closedAt "array of ".toList s <;> rfl
  rw [← hfind]
  simp only [typePhraseAt, closedAt, stripFront, Option.bind_some]
  split <;> simp_all

/-- The first word of an array marker is no closed name: ` of ` and a capital start no ending. -/
theorem not_closes_of_capital {c : Char} (hcapital : IsCapital c) (rest : List Char) :
    closes (" of ".toList ++ c :: rest) = false := by
  have hne : c ≠ 't' := by
    rintro rfl
    exact absurd hcapital (by decide)
  rw [← Bool.not_eq_true, closes_iff]
  simp [endings, qualifiers, closings, Ne.symm hne]

private theorem append_ne_marker_append {name after marker rest : List Char} {c : Char}
    (hname : IsName name) (hafter : closes after = true) (hcapital : IsCapital c)
    (hmarker : marker ∈ ["Array of ".toList, "array of ".toList]) :
    name ++ after ≠ marker ++ c :: rest := by
  intro heq
  have hread := nameAt_append hname hafter
  rw [heq] at hread
  simp only [List.mem_cons, List.not_mem_nil, or_false] at hmarker
  rcases hmarker with rfl | rfl
  · have hword : ∀ a ∈ "rray".toList, isWordChar a = true :=
      List.all_eq_true.mp (by decide +kernel)
    have hnameAt : nameAt ("Array of ".toList ++ c :: rest)
        = some ("Array".toList, " of ".toList ++ c :: rest) := by
      simp at hword
      simp [nameAt, hword, isWordChar_blank]
    simp only [hnameAt, Option.some.injEq, Prod.mk.injEq] at hread
    rw [← hread.2, not_closes_of_capital hcapital] at hafter
    cases hafter
  · simp [nameAt] at hread

/-- A text starts with the type phrase `phrase` and a closing exactly if it is the phrase followed
by a text that closes it. In particular the phrase is determined by the text. -/
theorem typePhraseAt_eq_some_iff {s phrase : List Char} :
    typePhraseAt s = some phrase ↔
      ∃ after, s = phrase ++ after ∧ IsTypePhrase phrase ∧ closes after = true := by
  rw [typePhraseAt_eq_or]
  constructor
  · intro h
    have hclosed : ∃ marker ∈ markers, closedAt marker s = some phrase := by
      rcases Option.or_eq_some_iff.mp h with h | ⟨-, h⟩
      · rcases Option.or_eq_some_iff.mp h with h | ⟨-, h⟩
        · exact ⟨_, by simp [markers], h⟩
        · exact ⟨_, by simp [markers], h⟩
      · exact ⟨[], by simp [markers], h⟩
    obtain ⟨marker, hmarker, h⟩ := hclosed
    obtain ⟨name, after, hname, hafter, rfl, rfl⟩ := closedAt_eq_some_iff.mp h
    exact ⟨after, by simp, ⟨marker, hmarker, name, hname, rfl⟩, hafter⟩
  · rintro ⟨after, rfl, ⟨marker, hmarker, name, hname, rfl⟩, hafter⟩
    have hclosed : closedAt marker (marker ++ name ++ after) = some (marker ++ name) :=
      closedAt_eq_some_iff.mpr ⟨name, after, hname, hafter, by simp, rfl⟩
    simp only [markers, List.mem_cons, List.not_mem_nil, or_false] at hmarker
    rcases hmarker with rfl | rfl | rfl
    · have hnone (other : List Char)
          (hother : other ∈ ["Array of ".toList, "array of ".toList]) :
          closedAt other ([] ++ name ++ after) = none := by
        rw [Option.eq_none_iff_forall_ne_some]
        intro phrase hphrase
        obtain ⟨name', after', hname', -, heq, -⟩ := closedAt_eq_some_iff.mp hphrase
        cases name' with
        | nil => exact hname'
        | cons c word =>
          exact append_ne_marker_append hname hafter hname'.1 hother (by simpa using heq)
      rw [hnone _ (by simp), hnone _ (by simp), hclosed, Option.none_or, Option.none_or]
    · rw [hclosed, Option.some_or, Option.some_or]
    · have hstrip :
          stripFront "Array of ".toList ("array of ".toList ++ name ++ after) = none := rfl
      have hnone : closedAt "Array of ".toList ("array of ".toList ++ name ++ after) = none := by
        rw [closedAt, hstrip, Option.bind_none]
      rw [hnone, hclosed, Option.none_or, Option.some_or]

end BotBindings.ReturnPhrase
