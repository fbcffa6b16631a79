import BotBindings.Text.Blank
import BotBindings.Text.CaseMap
import BotBindings.Text.Split
import BotBindings.TypeExpr.Basic

/-!
# Type phrases

A type phrase such as `Array of PhotoSize` or `Integer or String` is read as a type expression. The
phrase is split into alternatives at ` or `; array markers are peeled off an alternative and what
remains is read again as a phrase. Canonical texts are phrases too.

One phrase of the reference, the list of media types, spells its array marker only once: `Array of
InputMediaAudio, InputMediaDocument and InputMediaPhoto` means an array of any one of them.
-/

namespace BotBindings.Phrase

open Text

/-- Whether two texts differ at most in the case of ASCII letters. -/
def equalIgnoringCase (a b : List Char) : Bool :=
  a.map Char.toLower == b.map Char.toLower

/-- What follows the words `array of`, in any letter case. -/
def stripArrayWords (s : List Char) : Option (List Char) :=
  if equalIgnoringCase (s.take 9) "array of ".toList then some (s.drop 9) else none

/-- What follows one array marker, which is either spelled out or `[]`. -/
def stripArrayMarker (s : List Char) : Option (List Char) :=
  match stripArrayWords s with
  | some inner => some inner
  | none => stripFront "[]".toList s

/-- The scalar of a canonical word. -/
def scalarOfToken (s : List Char) : Option Scalar :=
  if s = "string".toList then some .string
  else if s = "int64".toList then some .int64
  else if s = "float64".toList then some .float64
  else if s = "bool".toList then some .bool
  else none

/-- The expression that a prose word stands for, given in lowercase. -/
def proseWord (s : List Char) : Option TypeExpr :=
  if s = "messages".toList then some (.named "Message")
  else if s = "boolean".toList ∨ s = "true".toList then some (.scalar .bool)
  else if s = "float".toList ∨ s = "float number".toList then some (.scalar .float64)
  else if s = "integer".toList ∨ s = "int".toList then some (.scalar .int64)
  else if s = "string".toList then some (.scalar .string)
  else none

/-- The expression of an alternative without array markers. -/
def leaf (s : List Char) : TypeExpr :=
  if s = "InputFile".toList then .inputFile
  else if s = "ChatId".toList then .chatId
  else match scalarOfToken s with
    | some scalar => .scalar scalar
    | none => (proseWord (s.flatMap toLowercase)).getD (.named (String.ofList s))

/-- The items of a media list. The last item is joined to the list by `and`. -/
def mediaItems (s : List Char) : List (List Char) :=
  let pieces := (split [','] s).map trim
  let last := (split " and ".toList (pieces.getLastD [])).map trim
  (pieces.dropLast ++ last).filter (· ≠ [])

/-- The alternatives of a media list, with the array marker put before every item. -/
def mediaAlternatives (s : List Char) : List (List Char) :=
  match mediaItems s with
  | [] => []
  | first :: others => first :: others.map ("Array of ".toList ++ ·)

/-- The alternatives of a trimmed phrase. -/
def alternatives (s : List Char) : List (List Char) :=
  if (stripFront "Array of InputMediaAudio".toList s).isSome then mediaAlternatives s
  else split " or ".toList s

/-! ## Every inner phrase is shorter -/

private theorem length_of_stripArrayWords {s inner : List Char}
    (h : stripArrayWords s = some inner) :
    inner.length + 9 = s.length := by
  simp only [stripArrayWords, equalIgnoringCase, Option.ite_none_right_eq_some, beq_iff_eq,
    Option.some.injEq] at h
  obtain ⟨heq, rfl⟩ := h
  have := congrArg List.length heq
  simp at this
  simp
  omega

private theorem length_lt_of_stripArrayMarker {s inner : List Char}
    (h : stripArrayMarker s = some inner) : inner.length < s.length := by
  simp only [stripArrayMarker] at h
  split at h
  · rename_i hwords
    have := length_of_stripArrayWords hwords
    simp only [Option.some.injEq] at h
    subst h
    omega
  · have := congrArg List.length (eq_append_of_stripFront h)
    simp at this
    omega

private theorem length_flatten_mediaItems_le (s : List Char) :
    (mediaItems s).flatten.length ≤ s.length := by
  have hfilter : ∀ items : List (List Char),
      (items.filter (· ≠ [])).flatten.length ≤ items.flatten.length := by
    intro items
    induction items with
    | nil => simp
    | cons item items ih =>
      rw [List.filter_cons]
      split <;> simp only [List.flatten_cons, List.length_append] <;> omega
  have htrim : ∀ items : List (List Char),
      (items.map trim).flatten.length ≤ items.flatten.length := by
    intro items
    induction items with
    | nil => simp
    | cons item items ih =>
      have := length_trim_le item
      simp only [List.map_cons, List.flatten_cons, List.length_append]
      omega
  have hlast : ∀ items : List (List Char),
      items.dropLast.flatten.length + (items.getLastD []).length = items.flatten.length := by
    intro items
    rcases List.eq_nil_or_concat items with rfl | ⟨front, item, rfl⟩ <;> simp
  simp only [mediaItems]
  refine Nat.le_trans (hfilter _) ?_
  simp only [List.flatten_append, List.length_append]
  have h₁ := hlast ((split [','] s).map trim)
  have h₂ := htrim (split [','] s)
  have h₃ := length_flatten_split_le [','] s
  have h₄ := htrim (split " and ".toList (((split [','] s).map trim).getLastD []))
  have h₅ := length_flatten_split_le " and ".toList (((split [','] s).map trim).getLastD [])
  omega

private theorem length_lt_of_mem_mediaAlternatives {s a inner : List Char}
    (ha : a ∈ mediaAlternatives s)
    (h : stripArrayMarker (trim a) = some inner) : inner.length < s.length := by
  have hsum := length_flatten_mediaItems_le s
  have hne : ∀ item ∈ mediaItems s, item ≠ [] := by
    intro item hitem
    simp only [mediaItems, List.mem_filter] at hitem
    simpa using hitem.2
  simp only [mediaAlternatives] at ha
  split at ha
  · simp at ha
  · rename_i first others heq
    rw [heq] at hsum hne
    simp only [List.flatten_cons, List.length_append] at hsum
    have hfirst := List.length_pos_iff.mpr (hne first (by simp))
    have hinner := length_lt_of_stripArrayMarker h
    have htrim := length_trim_le a
    rcases List.mem_cons.mp ha with rfl | hother
    · omega
    · obtain ⟨item, hitem, rfl⟩ := List.mem_map.mp hother
      have hitem := (List.sublist_flatten_of_mem hitem).length_le
      simp only [List.length_append] at htrim
      have hlength : inner.length + 9 ≤ (trim ("Array of ".toList ++ item)).length := by
        simp only [stripArrayMarker] at h
        split at h
        · rename_i hwords
          have := length_of_stripArrayWords hwords
          simp only [Option.some.injEq] at h
          subst h
          omega
        · obtain ⟨rest, hrest⟩ :=
            exists_trim_cons (c := 'A') (by decide) ("rray of ".toList ++ item)
          have happend : "Array of ".toList ++ item = 'A' :: ("rray of ".toList ++ item) := by simp
          rw [happend, hrest] at h
          simp [stripFront] at h
      have hwords : "Array of ".toList.length = 9 := by decide
      omega

/-- What follows an array marker is shorter than the phrase around it. -/
theorem length_lt_of_mem_alternatives {s a inner : List Char} (ha : a ∈ alternatives s)
    (h : stripArrayMarker (trim a) = some inner) : inner.length < s.length := by
  simp only [alternatives] at ha
  split at ha
  · exact length_lt_of_mem_mediaAlternatives ha h
  · have h₁ := length_lt_of_stripArrayMarker h
    have h₂ := length_trim_le a
    have h₃ := length_le_of_mem_split ha
    omega

/-! ## Reading a phrase -/

/-- The expression of a list of alternatives: a single one stands for itself. -/
def ofAlternatives : List TypeExpr → TypeExpr
  | [e] => e
  | es => .union es

/-- The expression that a phrase means. -/
def read (phrase : List Char) : TypeExpr :=
  let s := trim phrase
  if s = "InputFile or String".toList then .inputFile
  else if s = "Integer or String".toList then .chatId
  else ofAlternatives <| (alternatives s).attach.map fun ⟨a, _⟩ =>
    match _h : stripArrayMarker (trim a) with
    | some inner => .array (read inner)
    | none => leaf (trim a)
termination_by phrase.length
decreasing_by
  rename_i ha
  exact Nat.lt_of_lt_of_le (length_lt_of_mem_alternatives ha _h) (length_trim_le phrase)

end BotBindings.Phrase

namespace BotBindings

/-- The type expression that a phrase of the reference means. -/
def TypeExpr.ofPhrase (phrase : String) : TypeExpr :=
  Phrase.read phrase.toList

end BotBindings
