import BotBindings.Text.CharSet

/-!
# White space

White space is what the Unicode property `White_Space` says it is. Texts of a page are compared
after their blanks are collapsed: the words of a text, joined by single spaces, are its collapsed
form.
-/

namespace BotBindings.Text

/-- The characters with the property `White_Space`. -/
def blank : CharSet :=
  [⟨0x9, 0xD, 1⟩, ⟨0x20, 0x20, 1⟩, ⟨0x85, 0x85, 1⟩, ⟨0xA0, 0xA0, 1⟩, ⟨0x1680, 0x1680, 1⟩,
   ⟨0x2000, 0x200A, 1⟩, ⟨0x2028, 0x2029, 1⟩, ⟨0x202F, 0x202F, 1⟩, ⟨0x205F, 0x205F, 1⟩,
   ⟨0x3000, 0x3000, 1⟩]

/-- Whether `c` is white space. -/
def isBlank (c : Char) : Bool :=
  blank.contains c

/-- The text without the blanks at its start. -/
def trimStart (s : List Char) : List Char :=
  s.dropWhile isBlank

/-- The text without the blanks at its end. -/
def trimEnd : List Char → List Char
  | [] => []
  | c :: rest =>
    match trimEnd rest with
    | [] => if isBlank c then [] else [c]
    | kept => c :: kept

/-- The text without the blanks at both ends. -/
def trim (s : List Char) : List Char :=
  trimEnd (trimStart s)

/-- Trimming the start of a text makes it no longer. -/
theorem length_trimStart_le (s : List Char) : (trimStart s).length ≤ s.length :=
  (List.dropWhile_sublist _).length_le

/-- Trimming the end of a text makes it no longer. -/
theorem length_trimEnd_le (s : List Char) : (trimEnd s).length ≤ s.length := by
  fun_induction trimEnd s <;> simp_all

/-- Trimming a text makes it no longer. -/
theorem length_trim_le (s : List Char) : (trim s).length ≤ s.length :=
  Nat.le_trans (length_trimEnd_le _) (length_trimStart_le _)

/-- Trimming keeps a first character that is not blank. -/
theorem exists_trim_cons {c : Char} (h : isBlank c = false) (s : List Char) :
    ∃ rest, trim (c :: s) = c :: rest := by
  simp only [trim, trimStart, List.dropWhile_cons, h, Bool.false_eq_true, if_false, trimEnd]
  cases trimEnd s <;> simp

/-- The words of `s`, where `word` is the part of the current word already read. -/
def wordsFrom (word : List Char) : List Char → List (List Char)
  | [] => if word.isEmpty then [] else [word]
  | c :: rest =>
    if isBlank c then
      if word.isEmpty then wordsFrom [] rest else word :: wordsFrom [] rest
    else wordsFrom (word ++ [c]) rest

/-- The maximal runs of characters that are not blank, in order. -/
def words (s : List Char) : List (List Char) :=
  wordsFrom [] s

/-- The words of a text, joined by single spaces. -/
def collapse (s : String) : String :=
  String.ofList ((words s.toList).intersperse [' ']).flatten

end BotBindings.Text
