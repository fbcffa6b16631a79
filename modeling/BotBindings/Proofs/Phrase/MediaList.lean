import BotBindings.Proofs.Phrase.Prose

/-!
# Lists of media

An album holds media of several kinds, and the reference lists these in prose: commas between the
names, and `and` before the last one. The array marker in front of such a list counts for every name
in it. This file says what a list in prose is without the reader and proves that the reader finds
exactly its names, each as an array of its own.
-/

namespace BotBindings

namespace Phrase

open Text TypeExpr

/-! ## Lists in prose -/

/-- A text that lists some items the way prose does. Any blanks may follow a comma. -/
inductive Lists : List (List Char) → List Char → Prop
  | single (item : List Char) : Lists [item] item
  | pair (item last : List Char) : Lists [item, last] (item ++ " and ".toList ++ last)
  | comma (item : List Char) {blanks text : List Char} {items : List (List Char)}
      (hblanks : ∀ c ∈ blanks, isBlank c = true) (hlength : 2 ≤ items.length)
      (h : Lists items text) : Lists (item :: items) (item ++ ',' :: (blanks ++ text))

/-- What is put in front of a list belongs to its first item. -/
theorem Lists.prepend {first text : List Char} {others : List (List Char)}
    (h : Lists (first :: others) text) (front : List Char) :
    Lists ((front ++ first) :: others) (front ++ text) := by
  cases h with
  | single => exact .single _
  | pair =>
    rw [List.append_assoc, ← List.append_assoc, ← List.append_assoc]
    exact .pair _ _
  | comma _ hblanks hlength h =>
    rw [← List.append_assoc]
    exact .comma _ hblanks hlength h

private theorem Lists.prefix_of_first {first text : List Char} {others : List (List Char)}
    (h : Lists (first :: others) text) : first <+: text := by
  cases h with
  | single => exact List.prefix_rfl
  | pair => exact ⟨_, (List.append_assoc _ _ _).symm⟩
  | comma => exact List.prefix_append _ _

/-! ## Items -/

/-- An item that can be told from its neighbours in a list: it holds no comma and no `and` between
blanks, not even with the blank that follows it. -/
structure IsListItem (item : List Char) : Prop where
  trim_eq : trim item = item
  ne_nil : item ≠ []
  comma_not_mem : ',' ∉ item
  clear : Clear " and ".toList item

private theorem mediaItems_of_comma_not_mem {s : List Char} (h : ',' ∉ s) :
    mediaItems s = ((split " and ".toList (trim s)).map trim).filter (· ≠ []) := by
  simp [mediaItems, split_of_not_mem h]

/-- What stands before the first comma of a list is its first item. -/
theorem mediaItems_append_comma {piece : List Char} (hcomma : ',' ∉ piece)
    (hne : trim piece ≠ []) (rest : List Char) :
    mediaItems (piece ++ ',' :: rest) = trim piece :: mediaItems rest := by
  obtain ⟨next, pieces, hpieces⟩ := List.exists_cons_of_ne_nil (split_ne_nil [','] rest)
  simp [mediaItems, split_append_cons, split_of_not_mem hcomma, hpieces, hne]

private theorem trim_blanks_append {blanks : List Char} (h : ∀ c ∈ blanks, isBlank c = true)
    (s : List Char) : trim (blanks ++ s) = trim s := by
  simpa using trim_of_blanks_around h (List.forall_mem_nil _) s

private theorem comma_not_mem_of_blanks {blanks : List Char} (h : ∀ c ∈ blanks, isBlank c = true) :
    ',' ∉ blanks := by
  intro hmem
  exact absurd (h _ hmem) (by decide)

/-- The items of a list in prose are found again. -/
theorem mediaItems_of_lists {items : List (List Char)} {text : List Char} (h : Lists items text)
    (hitems : ∀ item ∈ items, IsListItem item) {blanks : List Char}
    (hblanks : ∀ c ∈ blanks, isBlank c = true) : mediaItems (blanks ++ text) = items := by
  have hcomma := comma_not_mem_of_blanks hblanks
  induction h generalizing blanks with
  | single item =>
    have hitem := hitems item List.mem_cons_self
    have hsplit := split_eq_singleton (by decide) (hitem.clear.not_infix (by decide))
    rw [mediaItems_of_comma_not_mem (by simp [hcomma, hitem.comma_not_mem]),
      trim_blanks_append hblanks, hitem.trim_eq, hsplit]
    simp [hitem.trim_eq, hitem.ne_nil]
  | pair item last =>
    have hitem := hitems item List.mem_cons_self
    have hlast := hitems last (by simp)
    have hand : ',' ∉ " and ".toList := by decide
    have htrim := trim_append_append hitem.trim_eq hlast.trim_eq hitem.ne_nil hlast.ne_nil
      " and ".toList
    have hsplit : split " and ".toList (item ++ " and ".toList ++ last) = [item, last] := by
      rw [split_of_cut (cut_of_clear (by decide) hitem.clear last),
        split_eq_singleton (by decide) (hlast.clear.not_infix (by decide))]
    rw [mediaItems_of_comma_not_mem, trim_blanks_append hblanks, htrim, hsplit]
    · simp [hitem.trim_eq, hitem.ne_nil, hlast.trim_eq, hlast.ne_nil]
    · simp only [List.mem_append, not_or]
      exact ⟨hcomma, ⟨hitem.comma_not_mem, hand⟩, hlast.comma_not_mem⟩
  | comma item hblanks' hlength h ih =>
    have hitem := hitems item List.mem_cons_self
    have htrim : trim (blanks ++ item) = item := by
      rw [trim_blanks_append hblanks, hitem.trim_eq]
    rw [← List.append_assoc, mediaItems_append_comma (by simp [hcomma, hitem.comma_not_mem])
      (by rw [htrim]; exact hitem.ne_nil), htrim,
      ih (fun other hother => hitems other (List.mem_cons_of_mem item hother)) hblanks'
        (comma_not_mem_of_blanks hblanks')]

/-- A list starts with its first item and ends with its last one. -/
theorem Lists.trim_eq {items : List (List Char)} {text : List Char} (h : Lists items text)
    (hitems : ∀ item ∈ items, IsListItem item) : trim text = text ∧ text ≠ [] := by
  induction h with
  | single item =>
    have hitem := hitems item List.mem_cons_self
    exact ⟨hitem.trim_eq, hitem.ne_nil⟩
  | pair item last =>
    have hitem := hitems item List.mem_cons_self
    have hlast := hitems last (by simp)
    exact ⟨trim_append_append hitem.trim_eq hlast.trim_eq hitem.ne_nil hlast.ne_nil _,
      by simp⟩
  | @comma item blanks text items hblanks hlength h ih =>
    have hitem := hitems item List.mem_cons_self
    obtain ⟨htrim, hne⟩ := ih fun other hother => hitems other (List.mem_cons_of_mem item hother)
    have hmiddle := trim_append_append hitem.trim_eq htrim hitem.ne_nil hne (',' :: blanks)
    rw [List.append_assoc] at hmiddle
    exact ⟨hmiddle, by simp⟩

/-! ## Names of media -/

/-- A name of ASCII letters, digits and underscores. -/
structure IsMediaName (name : List Char) : Prop where
  ne_nil : name ≠ []
  chars : ∀ c ∈ name, c.isAlphanum = true ∨ c = '_'

instance (name : List Char) : Decidable (IsMediaName name) :=
  decidable_of_iff (name ≠ [] ∧ name.all (fun c => c.isAlphanum || c == '_') = true)
    ⟨fun ⟨hne, hchars⟩ => ⟨hne, by simpa using hchars⟩, fun h => ⟨h.ne_nil, by simpa using h.chars⟩⟩

namespace IsMediaName

variable {name : List Char} (h : IsMediaName name)

include h

private theorem not_mem {c : Char} (halphanum : c.isAlphanum = false) (hunderscore : c ≠ '_') :
    c ∉ name := by
  intro hmem
  rcases h.chars c hmem with hc | hc
  · rw [halphanum] at hc
    cases hc
  · exact hunderscore hc

private theorem isBlank_eq_false : ∀ c ∈ name, isBlank c = false := by
  intro c hc
  rcases h.chars c hc with halphanum | rfl
  · exact forall_ascii (P := fun c => c.isAlphanum = true → isBlank c = false)
      (by decide +kernel) (toNat_lt_of_isAlphanum halphanum) halphanum
  · decide

private theorem trim_eq : trim name = name :=
  trim_eq_self_of_not_isBlank h.isBlank_eq_false

/-- A name holds no text that holds a space. -/
theorem not_infix {text : List Char} (htext : ' ' ∈ text) : ¬ text <:+: name := fun hoccurs =>
  h.not_mem (by decide) (by decide) (hoccurs.subset htext)

private theorem not_brackets : ¬ "[]".toList <+: name := fun hstarts =>
  h.not_mem (by decide) (by decide) (hstarts.subset List.mem_cons_self)

/-- A name is read as one word, which is a scalar, a fixed word or a name for itself. -/
theorem simple_read : (read name).Simple IsCanonicalName := by
  have hwords := not_arrayWords_of_not_isBlank h.isBlank_eq_false
  have hseparator := h.not_infix (by decide : ' ' ∈ " or ".toList)
  have hmedia : ¬ mediaFront <+: name :=
    fun hstarts => h.not_infix (by decide : ' ' ∈ mediaFront) hstarts.isInfix
  rw [read_eq_alternative (by rwa [h.trim_eq]) (by rwa [h.trim_eq]),
    alternative_of_not_marked h.trim_eq (stripArrayMarker_eq_none_iff.mpr ⟨hwords, h.not_brackets⟩)]
  rcases leaf_cases name with hleaf | hleaf | ⟨scalar, hleaf⟩ | hleaf | ⟨hleaf, hown⟩ <;> rw [hleaf]
  · exact .inputFile
  · exact .chatId
  · exact .scalar scalar
  · exact .named (by decide +kernel)
  · refine .named ?_
    rw [String.toList_ofList]
    exact ⟨⟨h.trim_eq, hseparator, hwords, h.not_brackets, hown.1, hown.2⟩, h.ne_nil,
      fun hends => h.not_infix (by decide : ' ' ∈ " or".toList) hends.isInfix⟩

/-- A media name that is written without an array marker is an item of a list. -/
theorem isListItem : IsListItem name where
  trim_eq := h.trim_eq
  ne_nil := h.ne_nil
  comma_not_mem := h.not_mem (by decide) (by decide)
  clear := clear_of_not_mem (h.not_mem (by decide) (by decide))

/-- The name at the front of a media list is an item together with the array marker. -/
theorem isListItem_marked (hfirst : "InputMediaAudio".toList <+: name) :
    IsListItem ("Array of ".toList ++ name) where
  trim_eq := trim_append (by decide) h.trim_eq h.ne_nil
  ne_nil := by simp
  comma_not_mem := by
    rw [List.mem_append, not_or]
    exact ⟨by decide, h.isListItem.comma_not_mem⟩
  clear := by
    obtain ⟨rest, rfl⟩ := hfirst
    have huntouched : Untouched " and ".toList mediaFront := by decide
    refine huntouched.clear_append (clear_of_not_mem fun hmem => ?_)
    exact h.not_mem (by decide) (by decide) (List.mem_append_right _ hmem)

end IsMediaName

/-! ## Lists of media -/

section

variable {first list : List Char} {others : List (List Char)}

/-- The marker in front of a media list counts for every name in it. -/
theorem read_mediaList (hlist : Lists (first :: others) list)
    (hnames : ∀ name ∈ first :: others, IsMediaName name)
    (hfirst : "InputMediaAudio".toList <+: first) :
    read ("Array of ".toList ++ list)
      = ofAlternatives ((first :: others).map fun name => .array (read name)) := by
  have hmarked := hlist.prepend "Array of ".toList
  have hitems : ∀ item ∈ ("Array of ".toList ++ first) :: others, IsListItem item := by
    rw [List.forall_mem_cons] at hnames ⊢
    exact ⟨hnames.1.isListItem_marked hfirst, fun name hname => (hnames.2 name hname).isListItem⟩
  have htrim := (hmarked.trim_eq hitems).1
  have hmedia : mediaFront <+: "Array of ".toList ++ list :=
    (List.prefix_append_right_inj "Array of ".toList).mpr (hfirst.trans hlist.prefix_of_first)
  have hfixed : ∀ literal ∈ ["InputFile or String".toList, "Integer or String".toList],
      ¬ mediaFront <+: literal := by decide
  have hpieces : mediaAlternatives ("Array of ".toList ++ list)
      = (first :: others).map ("Array of ".toList ++ ·) := by
    have hfound := mediaItems_of_lists hmarked hitems (List.forall_mem_nil _)
    rw [List.nil_append] at hfound
    rw [mediaAlternatives, hfound, List.map_cons]
  rw [read_eq, htrim, if_neg (fun heq => hfixed _ (by simp) (heq ▸ hmedia)),
    if_neg (fun heq => hfixed _ (by simp) (heq ▸ hmedia)), alternatives_of_mediaFront hmedia,
    hpieces, List.map_map]
  congr 1
  exact List.map_congr_left fun name hname =>
    alternative_words (hnames name hname).trim_eq (hnames name hname).ne_nil

/-- A media list means the union of the arrays of its names in their order, or a single array if it
holds one name. This is an expression that is found again in its text. -/
theorem ofPhrase_mediaList {phrase : String} (hphrase : phrase.toList = "Array of ".toList ++ list)
    (hlist : Lists (first :: others) list) (hnames : ∀ name ∈ first :: others, IsMediaName name)
    (hfirst : "InputMediaAudio".toList <+: first) :
    ofPhrase phrase
        = (if others = [] then .array (ofPhrase (String.ofList first))
          else .union ((first :: others).map fun name => .array (ofPhrase (String.ofList name)))) ∧
      ofPhrase (ofPhrase phrase).canonical = ofPhrase phrase := by
  have hread : ofPhrase phrase
      = ofAlternatives ((first :: others).map fun name => .array (read name)) := by
    rw [ofPhrase, hphrase, read_mediaList hlist hnames hfirst]
  constructor
  · rw [hread]
    simp only [ofPhrase, String.toList_ofList]
    cases others <;> rfl
  · have halternatives : (ofPhrase phrase).alternatives
        = (first :: others).map fun name => .array (read name) := by
      rw [hread]
      cases others <;> rfl
    have hsimple : ∀ a ∈ (ofPhrase phrase).alternatives, a.Simple IsCanonicalName := by
      rw [halternatives, List.forall_mem_map]
      exact fun name hname => .array (hnames name hname).simple_read
    rw [ofPhrase_canonical_eq]
    refine ((wellFormed_read phrase.toList).read_eq_iff_of_unionFree fun a ha => ?_).mpr
      fun a ha => ?_
    · exact (hsimple a ha).unionFree_eq
    · exact (hsimple a (List.dropLast_subset _ ha)).not_suffix

end

/-- Names may be words of prose, also the ones that stand between the items of a list. -/
theorem ofPhrase_mediaList_words :
    Lists ["InputMediaAudio_2".toList, "or".toList, "and".toList, "INTEGER".toList]
        "InputMediaAudio_2,\n or,and and INTEGER".toList ∧
      ofPhrase "Array of InputMediaAudio_2,\n or,and and INTEGER"
        = .union [.array (.named "InputMediaAudio_2"), .array (.named "or"), .array (.named "and"),
          .array (.scalar .int64)] ∧
      ofPhrase (ofPhrase "Array of InputMediaAudio_2,\n or,and and INTEGER").canonical
        = ofPhrase "Array of InputMediaAudio_2,\n or,and and INTEGER" := by
  have hlist : Lists ["InputMediaAudio_2".toList, "or".toList, "and".toList, "INTEGER".toList]
      "InputMediaAudio_2,\n or,and and INTEGER".toList :=
    @Lists.comma _ "\n ".toList _ _ (List.all_eq_true.mp (by decide)) (by simp)
      (@Lists.comma _ [] _ _ (List.forall_mem_nil _) (by simp) (.pair _ _))
  have hphrase : "Array of InputMediaAudio_2,\n or,and and INTEGER".toList
      = "Array of ".toList ++ "InputMediaAudio_2,\n or,and and INTEGER".toList := by
    decide +kernel
  have hread := ofPhrase_mediaList hphrase hlist (by decide +kernel) (by decide +kernel)
  refine ⟨hlist, ?_, hread.2⟩
  rw [hread.1]
  decide +kernel

end Phrase

end BotBindings
