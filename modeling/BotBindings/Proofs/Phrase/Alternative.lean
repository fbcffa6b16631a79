import BotBindings.Proofs.Text.Blank
import BotBindings.Proofs.Text.Split
import BotBindings.TypeExpr.Phrase

/-!
# The alternatives of a phrase

A phrase means what its alternatives mean, and an alternative means an array of what follows its
marker or, without a marker, a leaf. Proofs about `Phrase.read` follow this recursion. Only two
kinds of alternatives occur: pieces in which ` or ` does not occur and items of a media list, which
all have an array marker.
-/

namespace BotBindings.Phrase

open Text

/-- The expression that one alternative of a phrase means. -/
def alternative (a : List Char) : TypeExpr :=
  match stripArrayMarker (trim a) with
  | some inner => .array (read inner)
  | none => leaf (trim a)

/-- Blanks around an alternative do not matter. -/
@[simp] theorem alternative_trim (a : List Char) : alternative (trim a) = alternative a := by
  simp [alternative]

/-- A phrase that is not one of the two fixed ones means what its alternatives mean. -/
theorem read_eq (phrase : List Char) :
    read phrase = if trim phrase = "InputFile or String".toList then .inputFile
      else if trim phrase = "Integer or String".toList then .chatId
      else ofAlternatives ((alternatives (trim phrase)).map alternative) := by
  have hattach : (alternatives (trim phrase)).map alternative
      = (alternatives (trim phrase)).attach.map fun ⟨a, _⟩ => alternative a :=
    List.attach_map_val.symm
  rw [read, hattach]
  congr 4
  funext ⟨a, ha⟩
  simp only [alternative]
  split <;> rename_i h <;> rw [h]

/-- What holds of a phrase whenever it holds of what its alternatives mark as an element type holds
of every phrase. -/
theorem read_induction {motive : List Char → Prop}
    (step : ∀ phrase, (∀ a ∈ alternatives (trim phrase), ∀ inner,
      stripArrayMarker (trim a) = some inner → motive inner) → motive phrase)
    (phrase : List Char) : motive phrase := by
  induction hlength : phrase.length using Nat.strongRecOn generalizing phrase with
  | ind n ih =>
    refine step phrase fun a ha inner hinner => ih _ ?_ inner rfl
    calc inner.length < (trim phrase).length := length_lt_of_mem_alternatives ha hinner
      _ ≤ phrase.length := length_trim_le phrase
      _ = n := hlength

/-! ## Markers -/

private theorem stripArrayWords_append (inner : List Char) :
    stripArrayWords ("Array of ".toList ++ inner) = some inner := by
  simp [stripArrayWords, equalIgnoringCase]

private theorem stripArrayMarker_words (inner : List Char) :
    stripArrayMarker ("Array of ".toList ++ inner) = some inner := by
  rw [stripArrayMarker, stripArrayWords_append]

/-- Brackets at the front of a text are stripped off as an array marker. -/
theorem stripArrayMarker_brackets (inner : List Char) :
    stripArrayMarker ('[' :: ']' :: inner) = some inner := by
  have hwords : stripArrayWords ('[' :: ']' :: inner) = none := by
    simp [stripArrayWords, equalIgnoringCase]
  rw [stripArrayMarker, hwords]
  simp [stripFront]

/-- What follows a marker is the end of the text. -/
theorem suffix_of_stripArrayMarker {s inner : List Char} (h : stripArrayMarker s = some inner) :
    inner <:+ s := by
  rw [stripArrayMarker] at h
  split at h
  · rename_i hwords
    simp only [stripArrayWords, Option.ite_none_right_eq_some, Option.some.injEq] at hwords
    rw [← Option.some.inj h, ← hwords.2]
    exact List.drop_suffix 9 s
  · exact ⟨"[]".toList, (stripFront_eq_some_iff.mp h).symm⟩

/-- A text without a marker means a leaf. -/
theorem alternative_of_not_marked {t : List Char} (htrim : trim t = t)
    (hmarker : stripArrayMarker t = none) : alternative t = leaf t := by
  rw [alternative, htrim, hmarker]

/-- The marker in words makes an array of any trimmed text. -/
theorem alternative_words {t : List Char} (htrim : trim t = t) (hne : t ≠ []) :
    alternative ("Array of ".toList ++ t) = .array (read t) := by
  rw [alternative, trim_append (by decide) htrim hne, stripArrayMarker_words]

/-- An alternative in brackets notation is an array of what is read behind the brackets. -/
theorem alternative_brackets (inner : List Char) :
    alternative ('[' :: ']' :: inner) = .array (read (trimEnd inner)) := by
  have htrim : trim ('[' :: ']' :: inner) = '[' :: ']' :: trimEnd inner := by
    rw [trim_cons_of_not_isBlank (by decide), trimEnd_cons_of_not_isBlank (by decide)]
  rw [alternative, htrim, stripArrayMarker_brackets]

/-! ## Media lists -/

/-- The beginning of every media list. -/
def mediaFront : List Char :=
  "Array of InputMediaAudio".toList

/-- A phrase that starts like a list of media is taken apart at commas. -/
theorem alternatives_of_mediaFront {s : List Char} (h : mediaFront <+: s) :
    alternatives s = mediaAlternatives s := by
  obtain ⟨rest, rfl⟩ := h
  have hstrip : (stripFront mediaFront (mediaFront ++ rest)).isSome = true := by
    rw [stripFront_append, Option.isSome_some]
  exact if_pos hstrip

/-- Any other phrase is split at the word between its alternatives. -/
theorem alternatives_of_not_mediaFront {s : List Char} (h : ¬ mediaFront <+: s) :
    alternatives s = split " or ".toList s := by
  have hstrip : (stripFront mediaFront s).isSome ≠ true := by
    rw [stripFront_eq_none_iff.mpr h]
    simp
  exact if_neg hstrip

/-- The first item of a media list keeps the beginning of the list. -/
theorem exists_mediaItems {s : List Char} (h : mediaFront <+: s) :
    ∃ first others, mediaItems s = first :: others ∧ mediaFront <+: first := by
  have hkeep (separator : List Char) (hfront : Untouched separator mediaFront) {t : List Char}
      (ht : mediaFront <+: t) :
      ∃ first others, (split separator t).map trim = first :: others ∧ mediaFront <+: first := by
    cases hsplit : split separator t with
    | nil => exact absurd hsplit (split_ne_nil separator t)
    | cons piece pieces =>
      refine ⟨trim piece, pieces.map trim, rfl, prefix_trim (by decide) ?_⟩
      exact hfront.prefix_of_head?_split ht (by rw [hsplit]; rfl)
  have hnonempty {item : List Char} (hitem : mediaFront <+: item) : item ≠ [] := by
    rintro rfl
    exact absurd (List.prefix_nil.mp hitem) (by decide)
  obtain ⟨piece, pieces, hpieces, hpiece⟩ := hkeep [','] (by decide) h
  simp only [mediaItems, hpieces]
  cases pieces with
  | nil =>
    obtain ⟨first, others, hfirst, hstarts⟩ :=
      hkeep " and ".toList (by decide) hpiece
    refine ⟨first, others.filter (· ≠ []), ?_, hstarts⟩
    rw [List.getLastD_cons, List.getLastD_nil, hfirst]
    simp [hnonempty hstarts]
  | cons next pieces =>
    rw [List.dropLast_cons_of_ne_nil (by simp), List.cons_append,
      List.filter_cons_of_pos (by simp [hnonempty hpiece])]
    exact ⟨piece, _, rfl, hpiece⟩

/-- The items of a list of media have no blanks around them. -/
theorem trim_of_mem_mediaItems {s item : List Char} (h : item ∈ mediaItems s) :
    trim item = item := by
  have htrim {texts : List (List Char)} (hmem : item ∈ texts.map trim) : trim item = item := by
    obtain ⟨text, -, rfl⟩ := List.mem_map.mp hmem
    exact trim_trim text
  simp only [mediaItems] at h
  rcases List.mem_append.mp (List.mem_filter.mp h).1 with h | h
  · exact htrim (List.dropLast_subset _ h)
  · exact htrim h

/-- No item of a list of media is empty. -/
theorem ne_nil_of_mem_mediaItems {s item : List Char} (h : item ∈ mediaItems s) : item ≠ [] := by
  simp only [mediaItems, List.mem_filter] at h
  simpa using h.2

/-- Every item of a media list is a part of the list. -/
theorem infix_of_mem_mediaItems {s item : List Char} (h : item ∈ mediaItems s) : item <:+: s := by
  have hpiece (separator t : List Char) : ∀ piece ∈ (split separator t).map trim, piece <:+: t := by
    intro piece hmem
    obtain ⟨text, htext, rfl⟩ := List.mem_map.mp hmem
    exact (trim_infix_self text).trans (infix_of_mem_split htext)
  have hlast : ((split [','] s).map trim).getLastD [] <:+: s := by
    rw [List.getLastD_eq_getLast?]
    cases hlast : ((split [','] s).map trim).getLast? with
    | none => exact List.nil_infix
    | some last => exact hpiece _ _ last (List.mem_of_getLast? hlast)
  simp only [mediaItems] at h
  rcases List.mem_append.mp (List.mem_filter.mp h).1 with h | h
  · exact hpiece _ _ item (List.dropLast_subset _ h)
  · exact (hpiece _ _ item h).trans hlast

/-- A text that holds neither of the marks between the items is a list of one item. -/
theorem mediaAlternatives_eq_singleton {s : List Char} (hs : trim s = s) (hne : s ≠ [])
    (hcomma : ',' ∉ s) (hand : ¬ " and ".toList <:+: s) : mediaAlternatives s = [s] := by
  have hitems : mediaItems s = [s] := by
    simp only [mediaItems, split_of_not_mem hcomma, List.map_singleton, hs, List.dropLast_singleton,
      List.getLastD_cons, List.getLastD_nil, split_eq_singleton (by decide) hand, List.nil_append]
    simp [hne]
  simp only [mediaAlternatives, hitems, List.map_nil]

/-- Every item of a media list is marked as an array. -/
theorem exists_marked_of_mem_mediaAlternatives {s a : List Char} (hs : mediaFront <+: s)
    (ha : a ∈ mediaAlternatives s) : ∃ inner, stripArrayMarker (trim a) = some inner := by
  obtain ⟨first, others, hitems, rest, hfirst⟩ := exists_mediaItems hs
  simp only [mediaAlternatives, hitems] at ha
  rcases List.mem_cons.mp ha with rfl | ha
  · have hmarked : a = "Array of ".toList ++ ("InputMediaAudio".toList ++ rest) := by
      rw [← hfirst]
      rfl
    have hmem : a ∈ mediaItems s := by simp [hitems]
    rw [trim_of_mem_mediaItems hmem, hmarked]
    exact ⟨_, stripArrayMarker_words _⟩
  · obtain ⟨item, hitem, rfl⟩ := List.mem_map.mp ha
    have hmem : item ∈ mediaItems s := by simp [hitems, hitem]
    have hne := ne_nil_of_mem_mediaItems hmem
    have hwords : trim "Array of".toList = "Array of".toList := by decide
    have htrim := trim_append_append hwords (trim_of_mem_mediaItems hmem) (by decide) hne [' ']
    have hmarked : "Array of".toList ++ [' '] ++ item = "Array of ".toList ++ item := rfl
    rw [hmarked] at htrim
    rw [htrim]
    exact ⟨item, stripArrayMarker_words item⟩

/-! ## Pieces -/

/-- Every phrase has an alternative, though it may be empty. -/
theorem alternatives_ne_nil (s : List Char) : alternatives s ≠ [] := by
  by_cases hmedia : mediaFront <+: s
  · obtain ⟨first, others, hitems, -⟩ := exists_mediaItems hmedia
    simp [alternatives_of_mediaFront hmedia, mediaAlternatives, hitems]
  · rw [alternatives_of_not_mediaFront hmedia]
    exact split_ne_nil _ _

/-- An alternative without a marker is a piece in which the separator does not occur. -/
theorem not_infix_of_mem_alternatives {s a : List Char} (ha : a ∈ alternatives s)
    (hmarker : stripArrayMarker (trim a) = none) : ¬ " or ".toList <:+: trim a := by
  by_cases hmedia : mediaFront <+: s
  · rw [alternatives_of_mediaFront hmedia] at ha
    obtain ⟨inner, hinner⟩ := exists_marked_of_mem_mediaAlternatives hmedia ha
    rw [hmarker] at hinner
    cases hinner
  · rw [alternatives_of_not_mediaFront hmedia] at ha
    intro hoccurs
    exact not_infix_of_mem_split (by decide) ha (hoccurs.trans (trim_infix_self a))

/-- A text that is its own only alternative means what the alternative means. -/
theorem read_of_alternatives_eq {s : List Char} (hseparator : ¬ " or ".toList <:+: trim s)
    (hsingle : alternatives (trim s) = [trim s]) : read s = alternative s := by
  have hfixed {literal : List Char} (h : " or ".toList <:+: literal) : trim s ≠ literal := by
    rintro rfl
    exact hseparator h
  have hfile : " or ".toList <:+: "InputFile or String".toList :=
    ⟨"InputFile".toList, "String".toList, rfl⟩
  have hchat : " or ".toList <:+: "Integer or String".toList :=
    ⟨"Integer".toList, "String".toList, rfl⟩
  rw [read_eq, if_neg (hfixed hfile), if_neg (hfixed hchat), hsingle, List.map_singleton,
    alternative_trim, ofAlternatives]

/-- Where a text without the separator is read, it is its own only alternative. -/
theorem read_eq_alternative {s : List Char} (hseparator : ¬ " or ".toList <:+: trim s)
    (hmedia : ¬ mediaFront <+: trim s) : read s = alternative s := by
  refine read_of_alternatives_eq hseparator ?_
  rw [alternatives_of_not_mediaFront hmedia, split_eq_singleton (by decide) hseparator]

end BotBindings.Phrase
