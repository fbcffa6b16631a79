import BotBindings.Proofs.Phrase.RoundTrip
import BotBindings.Proofs.Text.Casing
import Mathlib.Logic.Function.Iterate

/-!
# Phrases of prose

The reference writes types in prose. A phrase joins alternatives by ` or `, an alternative is a word
behind any number of array markers, and a word is a scalar, the plural `Messages`, a canonical word
or a plain name. Markers and the words of prose may be written in any letter case. This file states
the grammar without the reader and proves that the reader finds the meaning that the grammar gives.
-/

namespace BotBindings

namespace Phrase

open Text TypeExpr

/-! ## The grammar -/

/-- The words of prose, in lowercase, with what they stand for. -/
def proseMeanings : List (List Char × TypeExpr) :=
  [("boolean".toList, .scalar .bool), ("true".toList, .scalar .bool),
    ("float".toList, .scalar .float64), ("float number".toList, .scalar .float64),
    ("integer".toList, .scalar .int64), ("int".toList, .scalar .int64),
    ("string".toList, .scalar .string), ("messages".toList, .named "Message")]

/-- The words of canonical texts with what they stand for. -/
def tokenMeanings : List (List Char × TypeExpr) :=
  [("string".toList, .scalar .string), ("int64".toList, .scalar .int64),
    ("float64".toList, .scalar .float64), ("bool".toList, .scalar .bool),
    ("InputFile".toList, .inputFile), ("ChatId".toList, .chatId)]

/-- A name that can be told from the rest of a phrase: the word `or` does not stand at either end of
it, nor on its own between blanks, nor is it the name. -/
structure IsProseName (name : List Char) : Prop extends IsCanonicalName name where
  ne_or : name ≠ "or".toList
  not_prefix : ¬ "or ".toList <+: name

instance (name : List Char) : Decidable (IsProseName name) :=
  decidable_of_iff (IsCanonicalName name ∧ name ≠ "or".toList ∧ ¬ "or ".toList <+: name)
    ⟨fun ⟨hcanonical, hor, hprefix⟩ => ⟨hcanonical, hor, hprefix⟩,
      fun h => ⟨h.toIsCanonicalName, h.ne_or, h.not_prefix⟩⟩

/-- What a single word stands for. -/
inductive WordMeans : List Char → TypeExpr → Prop
  | prose {word lowered : List Char} {e : TypeExpr} (hmem : (lowered, e) ∈ proseMeanings)
      (hcase : equalIgnoringCase word lowered = true) : WordMeans word e
  | token {word : List Char} {e : TypeExpr} (hmem : (word, e) ∈ tokenMeanings) : WordMeans word e
  | name {word : List Char} (hname : IsProseName word) :
      WordMeans word (.named (String.ofList word))

/-- An array marker is a pair of brackets or the words `array of `, in any letter case. -/
def IsArrayMarker (marker : List Char) : Prop :=
  marker = "[]".toList ∨ equalIgnoringCase marker "array of ".toList = true

instance (marker : List Char) : Decidable (IsArrayMarker marker) :=
  inferInstanceAs (Decidable (_ ∨ _))

/-- One alternative of a phrase, the way prose writes it: a word behind array markers. -/
structure ProseAlternative where
  markers : List (List Char)
  word : List Char
  /-- What the word stands for. -/
  meaning : TypeExpr
  isArrayMarker : ∀ marker ∈ markers, IsArrayMarker marker
  wordMeans : WordMeans word meaning

namespace ProseAlternative

/-- The characters of the alternative. -/
def text (a : ProseAlternative) : List Char :=
  a.markers.flatten ++ a.word

/-- What the alternative means: as many arrays as there are markers. -/
def expr (a : ProseAlternative) : TypeExpr :=
  TypeExpr.array^[a.markers.length] a.meaning

end ProseAlternative

/-! ## Texts without the word `or` -/

/-- A text in which the word `or` does not stand between blanks, not even if blanks are put around
the text. -/
structure IsClause (t : List Char) : Prop where
  trim_eq : trim t = t
  ne_nil : t ≠ []
  no_or : ¬ " or ".toList <:+: ' ' :: (t ++ [' '])

instance (t : List Char) : Decidable (IsClause t) :=
  decidable_of_iff (trim t = t ∧ t ≠ [] ∧ ¬ " or ".toList <:+: ' ' :: (t ++ [' ']))
    ⟨fun ⟨htrim, hne, hor⟩ => ⟨htrim, hne, hor⟩, fun h => ⟨h.trim_eq, h.ne_nil, h.no_or⟩⟩

namespace IsClause

variable {t : List Char}

private theorem not_infix (h : IsClause t) : ¬ " or ".toList <:+: t :=
  fun hoccurs => h.no_or (hoccurs.trans ⟨[' '], [' '], by simp⟩)

private theorem not_suffix (h : IsClause t) : ¬ " or".toList <:+ t := by
  rintro ⟨front, rfl⟩
  exact h.no_or ⟨' ' :: front, [], by simp⟩

private theorem clear (h : IsClause t) : Clear " or ".toList t :=
  clear_separator h.not_infix h.not_suffix

/-- A clause stays one whatever the letter case it is written in. -/
theorem of_map_toLower (h : IsClause (t.map Char.toLower)) : IsClause t where
  trim_eq := trim_eq_self_of_map_toLower h.trim_eq
  ne_nil := by simpa using h.ne_nil
  no_or hoccurs := h.no_or (by simpa using hoccurs.map Char.toLower)

end IsClause

private theorem IsProseName.isClause {name : List Char} (h : IsProseName name) : IsClause name where
  trim_eq := h.trim_eq
  ne_nil := h.ne_nil
  no_or := by
    rw [List.infix_cons_iff, List.infix_concat_iff]
    rintro (hstart | hend | hinside)
    · have hstart : "or ".toList <+: name ++ [' '] := (List.cons_prefix_cons.mp hstart).2
      rcases List.prefix_concat_iff.mp hstart with heq | hprefix
      · exact h.ne_or (List.append_inj_left' heq rfl).symm
      · exact h.not_prefix hprefix
    · obtain ⟨front, heq⟩ := hend
      exact h.not_suffix ⟨front, (List.append_inj_left' (by simpa using heq) rfl)⟩
    · exact h.no_separator hinside

/-- The lowercase spellings that the words of prose and the array markers are compared with. -/
theorem map_toLower_eq {t lowered : List Char} (hlowered : lowered.map Char.toLower = lowered)
    (h : equalIgnoringCase t lowered = true) : t.map Char.toLower = lowered := by
  rw [← hlowered]
  exact eq_of_beq h

/-- The array marker in words holds a blank, so no text without blanks starts with it. -/
theorem not_arrayWords_of_not_isBlank {s : List Char} (h : ∀ c ∈ s, isBlank c = false) :
    equalIgnoringCase (s.take 9) "array of ".toList = false := by
  rw [← Bool.not_eq_true]
  intro hwords
  have hblank : ' ' ∈ (s.take 9).map Char.toLower := by
    rw [map_toLower_eq (by decide) hwords]
    decide
  obtain ⟨c, hc, hlower⟩ := List.mem_map.mp hblank
  have hnot := h c (List.mem_of_mem_take hc)
  rw [← isBlank_toLower, hlower] at hnot
  exact absurd hnot (by decide)

private theorem IsArrayMarker.map_toLower {marker : List Char} (h : IsArrayMarker marker) :
    marker.map Char.toLower = "[]".toList ∨ marker.map Char.toLower = "array of ".toList := by
  rcases h with rfl | hwords
  · exact Or.inl rfl
  · exact Or.inr (map_toLower_eq (by decide) hwords)

/-- An array marker can be put in front of a clause: its own `of` does not become part of an
`or`. -/
theorem IsArrayMarker.isClause_append {marker t : List Char} (hmarker : IsArrayMarker marker)
    (ht : IsClause t) : IsClause (marker ++ t) where
  trim_eq := by
    have hheads : ∀ lowered ∈ ["[]".toList, "array of ".toList],
        lowered.head?.any isBlank = false := by decide
    have hhead := hheads _ (by simpa using hmarker.map_toLower)
    simp only [List.head?_map, Option.any_map, isBlank_toLower] at hhead
    exact trim_append hhead ht.trim_eq ht.ne_nil
  ne_nil := by simp [ht.ne_nil]
  no_or := by
    -- An `or` that reaches into the marker would have its blank or its `o` at the marker's end.
    rw [List.append_assoc, ← List.cons_append, List.infix_append_iff]
    rintro (hoccurs | hoccurs | ⟨front, back, heq, hfront, hback⟩)
    · have hlower := hoccurs.map Char.toLower
      rcases hmarker.map_toLower with h | h <;> rw [List.map_cons, h] at hlower <;>
        exact absurd hlower (by decide)
    · exact ht.no_or (hoccurs.trans (List.suffix_cons _ _).isInfix)
    · have hshort : ∀ front ∈ " or ".toList.inits, ∀ lowered ∈ ["[]".toList, "array of ".toList],
          front.map Char.toLower <:+ ' ' :: lowered → front = [] ∨ front = [' '] := by decide
      have hlower := hfront.map Char.toLower
      rw [List.map_cons] at hlower
      have hinit : front ∈ " or ".toList.inits := (List.mem_inits _ _).mpr ⟨back, heq.symm⟩
      rcases hshort front hinit _ (by simpa using hmarker.map_toLower) hlower with rfl | rfl
      · rw [List.nil_append] at heq
        exact ht.no_or (heq ▸ hback.isInfix.trans (List.suffix_cons _ _).isInfix)
      · exact ht.no_or (heq ▸ (List.cons_prefix_cons.mpr ⟨rfl, hback⟩).isInfix)

/-- An array marker is stripped off what is written behind it, in whatever letter case it stands. -/
theorem IsArrayMarker.stripArrayMarker_append {marker : List Char} (h : IsArrayMarker marker)
    (t : List Char) : stripArrayMarker (marker ++ t) = some t := by
  rcases h with rfl | hwords
  · exact stripArrayMarker_brackets t
  · have hlength : marker.length = 9 := by
      simpa using congrArg List.length (map_toLower_eq (by decide) hwords)
    have htake : (marker ++ t).take 9 = marker := by rw [← hlength, List.take_left]
    have hdrop : (marker ++ t).drop 9 = t := by rw [← hlength, List.drop_left]
    rw [stripArrayMarker, stripArrayWords, htake, if_pos hwords, hdrop]

/-! ## Words -/

private theorem WordMeans.isClause {word : List Char} {e : TypeExpr} (h : WordMeans word e) :
    IsClause word := by
  cases h with
  | prose hmem hcase =>
    have hwords : ∀ entry ∈ proseMeanings,
        entry.1.map Char.toLower = entry.1 ∧ IsClause entry.1 := by decide
    obtain ⟨hlowered, hclause⟩ := hwords _ hmem
    refine IsClause.of_map_toLower ?_
    rwa [map_toLower_eq hlowered hcase]
  | token hmem =>
    have hwords : ∀ entry ∈ tokenMeanings, IsClause entry.1 := by decide
    exact hwords _ hmem
  | name hname => exact hname.isClause

/-- No word starts with an array marker. -/
theorem WordMeans.stripArrayMarker_eq {word : List Char} {e : TypeExpr} (h : WordMeans word e) :
    stripArrayMarker word = none := by
  cases h with
  | @prose lowered e hmem hcase =>
    have hwords : ∀ entry ∈ proseMeanings, entry.1.map Char.toLower = entry.1 ∧
        (entry.1.take 9).map Char.toLower ≠ "array of ".toList ∧ ¬ "[]".toList <+: entry.1 := by
      decide
    obtain ⟨hlowered, hnotWords, hnotBrackets⟩ := hwords _ hmem
    have hlower := map_toLower_eq hlowered hcase
    refine stripArrayMarker_eq_none_iff.mpr ⟨?_, fun hstarts => ?_⟩
    · rw [← Bool.not_eq_true]
      intro hstarts
      have htake := map_toLower_eq (by decide) hstarts
      rw [List.map_take, hlower, ← hlowered, ← List.map_take] at htake
      exact hnotWords htake
    · have hstarts := hstarts.map Char.toLower
      rw [hlower] at hstarts
      exact hnotBrackets hstarts
  | token hmem =>
    have hwords : ∀ entry ∈ tokenMeanings, stripArrayMarker entry.1 = none := by decide
    exact hwords _ hmem
  | name hname => exact hname.stripArrayMarker_eq

/-- A word of prose keeps its meaning in every letter case, also where it happens to be a canonical
word. -/
theorem leaf_of_equalIgnoringCase {word lowered : List Char} {e : TypeExpr}
    (hmem : (lowered, e) ∈ proseMeanings) (hcase : equalIgnoringCase word lowered = true) :
    leaf word = e := by
  by_cases htoken : word ∈ tokens
  · have htokens : ∀ token ∈ tokens, ∀ entry ∈ proseMeanings,
        equalIgnoringCase token entry.1 = true → leaf token = entry.2 := by decide +kernel
    exact htokens word htoken _ hmem hcase
  · have hwords : ∀ entry ∈ proseMeanings, entry.1.map Char.toLower = entry.1 ∧
        entry.1.all (·.toNat < 128) = true ∧ proseWord entry.1 = some entry.2 := by
      decide +kernel
    obtain ⟨hlowered, hascii, hprose⟩ := hwords _ hmem
    rw [List.all_eq_true] at hascii
    have hlower := map_toLower_eq hlowered hcase
    have hlowercase : word.flatMap toLowercase = lowered := by
      rw [flatMap_toLowercase_eq (by simpa [hlower] using hascii), hlower]
    rw [leaf_of_not_mem_tokens htoken, hlowercase, hprose, Option.getD_some]

private theorem WordMeans.alternative_eq {word : List Char} {e : TypeExpr} (h : WordMeans word e) :
    alternative word = e := by
  rw [alternative_of_not_marked h.isClause.trim_eq h.stripArrayMarker_eq]
  cases h with
  | prose hmem hcase => exact leaf_of_equalIgnoringCase hmem hcase
  | token hmem =>
    have hwords : ∀ entry ∈ tokenMeanings, leaf entry.1 = entry.2 := by decide
    exact hwords _ hmem
  | name hname => exact leaf_of_not_mem hname.not_mem_tokens hname.not_mem_proseWords

/-! ## Alternatives -/

/-- A marker in front of a clause makes an array of what the clause means. -/
theorem alternative_append {marker t : List Char} (hmarker : IsArrayMarker marker)
    (ht : IsClause t) (hmedia : ¬ mediaFront <+: t) :
    alternative (marker ++ t) = .array (alternative t) := by
  have hread : read t = alternative t :=
    read_eq_alternative (by rw [ht.trim_eq]; exact ht.not_infix) (by rwa [ht.trim_eq])
  rw [alternative, (hmarker.isClause_append ht).trim_eq, hmarker.stripArrayMarker_append]
  exact congrArg TypeExpr.array hread

section

variable {markers : List (List Char)} (hmarkers : ∀ marker ∈ markers, IsArrayMarker marker)

include hmarkers

private theorem isClause_flatten_append {word : List Char} (hword : IsClause word) :
    IsClause (markers.flatten ++ word) := by
  induction markers with
  | nil => exact hword
  | cons marker markers ih =>
    rw [List.flatten_cons, List.append_assoc]
    exact (hmarkers marker List.mem_cons_self).isClause_append
      (ih fun other hother => hmarkers other (List.mem_cons_of_mem marker hother))

/-- Every marker in front of a word makes one array. -/
theorem alternative_flatten_append {word : List Char} {e : TypeExpr} (hword : WordMeans word e)
    (hmedia : ¬ mediaFront <:+: markers.flatten ++ word) :
    alternative (markers.flatten ++ word) = TypeExpr.array^[markers.length] e := by
  induction markers with
  | nil => exact hword.alternative_eq
  | cons marker markers ih =>
    have hothers : ∀ other ∈ markers, IsArrayMarker other :=
      fun other hother => hmarkers other (List.mem_cons_of_mem marker hother)
    rw [List.flatten_cons, List.append_assoc] at hmedia ⊢
    have hrest : ¬ mediaFront <:+: markers.flatten ++ word :=
      fun h => hmedia (h.trans (List.suffix_append _ _).isInfix)
    rw [alternative_append (hmarkers marker List.mem_cons_self)
      (isClause_flatten_append hothers hword.isClause) fun h => hrest h.isInfix,
      ih hothers hrest, List.length_cons, Function.iterate_succ_apply']

end

private theorem ProseAlternative.isClause (a : ProseAlternative) : IsClause a.text :=
  isClause_flatten_append a.isArrayMarker a.wordMeans.isClause

private theorem ProseAlternative.alternative_text {a : ProseAlternative}
    (hmedia : ¬ mediaFront <:+: a.text) : alternative a.text = a.expr :=
  alternative_flatten_append a.isArrayMarker a.wordMeans hmedia

/-! ## Phrases -/

private theorem infix_intercalate {separator text : List Char} {texts : List (List Char)}
    (h : text ∈ texts) : text <:+: separator.intercalate texts := by
  induction texts with
  | nil => cases h
  | cons first texts ih =>
    cases texts with
    | nil =>
      rw [List.intercalate_singleton, List.mem_singleton.mp h]
    | cons next texts =>
      rw [List.intercalate_cons_cons]
      rcases List.mem_cons.mp h with rfl | h
      · rw [List.append_assoc]
        exact (List.prefix_append _ _).isInfix
      · exact (ih h).trans (List.suffix_append _ _).isInfix

/-- Joined clauses are trimmed. -/
theorem trim_intercalate {texts : List (List Char)} (hne : texts ≠ [])
    (htexts : ∀ text ∈ texts, IsClause text) :
    trim (" or ".toList.intercalate texts) = " or ".toList.intercalate texts ∧
      " or ".toList.intercalate texts ≠ [] := by
  induction texts with
  | nil => exact absurd rfl hne
  | cons text texts ih =>
    have htext := htexts text List.mem_cons_self
    cases texts with
    | nil =>
      rw [List.intercalate_singleton]
      exact ⟨htext.trim_eq, htext.ne_nil⟩
    | cons next texts =>
      obtain ⟨htrim, hrest⟩ :=
        ih (by simp) fun other hother => htexts other (List.mem_cons_of_mem text hother)
      rw [List.intercalate_cons_cons]
      exact ⟨trim_append_append htext.trim_eq htrim htext.ne_nil hrest _, by simp⟩

/-- A phrase of prose means what its alternatives say, unless it is one of the two phrases with a
fixed meaning. Those two count as a whole only, not as a part of a longer phrase. -/
theorem ofPhrase_prose {parts : List ProseAlternative} (hne : parts ≠ []) {front back : List Char}
    (hfront : ∀ c ∈ front, isBlank c = true) (hback : ∀ c ∈ back, isBlank c = true)
    {phrase : String}
    (hphrase : phrase.toList
      = front ++ " or ".toList.intercalate (parts.map ProseAlternative.text) ++ back)
    (hmedia : ¬ "Array of InputMediaAudio".toList <:+: phrase.toList) :
    ofPhrase phrase =
      if trim phrase.toList = "Integer or String".toList then .chatId
      else if trim phrase.toList = "InputFile or String".toList then .inputFile
      else match parts.map ProseAlternative.expr with
        | [e] => e
        | es => .union es := by
  have hclauses : ∀ text ∈ parts.map ProseAlternative.text, IsClause text := by
    intro text htext
    obtain ⟨a, -, rfl⟩ := List.mem_map.mp htext
    exact a.isClause
  have htexts : parts.map ProseAlternative.text ≠ [] := by simpa using hne
  have htrim : trim phrase.toList
      = " or ".toList.intercalate (parts.map ProseAlternative.text) := by
    rw [hphrase, trim_of_blanks_around hfront hback, (trim_intercalate htexts hclauses).1]
  have hjoined : trim phrase.toList <:+: phrase.toList := trim_infix_self _
  have hpieces : alternatives (trim phrase.toList) = parts.map ProseAlternative.text := by
    rw [alternatives_of_not_mediaFront fun h => hmedia (h.isInfix.trans hjoined), htrim]
    exact split_intercalate (by decide) htexts fun text htext => (hclauses text htext).clear
  have hmeanings : (parts.map ProseAlternative.text).map alternative
      = parts.map ProseAlternative.expr := by
    rw [List.map_map]
    refine List.map_congr_left fun a ha => a.alternative_text fun h => hmedia ?_
    have htext : a.text <:+: trim phrase.toList :=
      htrim ▸ infix_intercalate (List.mem_map_of_mem ha)
    exact h.trans (htext.trans hjoined)
  rw [ofPhrase, read_eq, hpieces, hmeanings]
  by_cases hchat : trim phrase.toList = "Integer or String".toList
  · rw [if_pos hchat, if_neg (by rw [hchat]; decide), if_pos hchat]
  · by_cases hfile : trim phrase.toList = "InputFile or String".toList
    · rw [if_pos hfile, if_neg hchat, if_pos hfile]
    · rw [if_neg hfile, if_neg hchat, if_neg hchat, if_neg hfile]
      cases parts.map ProseAlternative.expr with
      | nil => rfl
      | cons e es => cases es <;> rfl

/-- Alternatives with both kinds of markers, among them the ones that make up the two phrases with a
fixed meaning. -/
def chatParts : List ProseAlternative :=
  [⟨[], "Integer".toList, .scalar .int64, by simp,
      .prose (show ("integer".toList, TypeExpr.scalar .int64) ∈ proseMeanings by decide)
        (by decide)⟩,
    ⟨[], "String".toList, .scalar .string, by simp,
      .prose (show ("string".toList, TypeExpr.scalar .string) ∈ proseMeanings by decide)
        (by decide)⟩,
    ⟨["[]".toList, "aRRay OF ".toList], "MESSAGES".toList, .named "Message", by decide,
      .prose (show ("messages".toList, TypeExpr.named "Message") ∈ proseMeanings by decide)
        (by decide)⟩,
    ⟨["Array of ".toList], "InputFile".toList, .inputFile, by decide, .token (by decide)⟩,
    ⟨[], "sort order".toList, .named "sort order", by simp, .name (by decide +kernel)⟩]

/-- Five alternatives, with array markers of both kinds in odd letter case and a name that starts
with the letters of the joining word, between blanks. -/
theorem ofPhrase_prose_chatParts :
    "\t Integer or String or []aRRay OF MESSAGES or Array of InputFile or sort order\n".toList
        = "\t ".toList ++ " or ".toList.intercalate (chatParts.map ProseAlternative.text)
          ++ "\n".toList ∧
      ofPhrase "\t Integer or String or []aRRay OF MESSAGES or Array of InputFile or sort order\n"
        = .union [.scalar .int64, .scalar .string, .array (.array (.named "Message")),
          .array .inputFile, .named "sort order"] := by
  have hphrase :
      "\t Integer or String or []aRRay OF MESSAGES or Array of InputFile or sort order\n".toList
        = "\t ".toList ++ " or ".toList.intercalate (chatParts.map ProseAlternative.text)
          ++ "\n".toList := by decide +kernel
  refine ⟨hphrase, ?_⟩
  rw [ofPhrase_prose (by decide) (List.all_eq_true.mp (by decide))
    (List.all_eq_true.mp (by decide)) hphrase (by decide +kernel), if_neg (by decide +kernel),
    if_neg (by decide +kernel)]
  rfl

end Phrase

end BotBindings
