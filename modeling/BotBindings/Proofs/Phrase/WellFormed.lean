import BotBindings.Proofs.Phrase.Alternative

/-!
# The expressions that phrases mean

Not every expression is the meaning of a phrase: a name that a phrase stands for is never a prose
word such as `Integer`, for example, and an alternative of a union is never a union itself. This
file describes the expressions that occur and proves that a phrase means no other.
-/

namespace BotBindings.Phrase

open Text TypeExpr

/-! ## Names -/

/-- The words that are the canonical text of an expression without a name. -/
def tokens : List (List Char) :=
  ["InputFile".toList, "ChatId".toList, "string".toList, "int64".toList, "float64".toList,
    "bool".toList]

/-- The words of prose that stand for a type, in lowercase. -/
def proseWords : List (List Char) :=
  ["messages".toList, "boolean".toList, "true".toList, "float".toList, "float number".toList,
    "integer".toList, "int".toList, "string".toList]

/-- A name that is one alternative of a phrase and stands for itself there. -/
structure IsPlainName (name : List Char) : Prop where
  trim_eq : trim name = name
  no_separator : ¬ " or ".toList <:+: name
  /-- The name does not start with an array marker in words. -/
  not_arrayWords : equalIgnoringCase (name.take 9) "array of ".toList = false
  not_brackets : ¬ "[]".toList <+: name
  not_mem_tokens : name ∉ tokens
  not_mem_proseWords : name.flatMap toLowercase ∉ proseWords

instance (name : List Char) : Decidable (IsPlainName name) :=
  decidable_of_iff
    (trim name = name ∧ ¬ " or ".toList <:+: name ∧
      equalIgnoringCase (name.take 9) "array of ".toList = false ∧ ¬ "[]".toList <+: name ∧
      name ∉ tokens ∧ name.flatMap toLowercase ∉ proseWords)
    ⟨fun ⟨h₁, h₂, h₃, h₄, h₅, h₆⟩ => ⟨h₁, h₂, h₃, h₄, h₅, h₆⟩,
      fun ⟨h₁, h₂, h₃, h₄, h₅, h₆⟩ => ⟨h₁, h₂, h₃, h₄, h₅, h₆⟩⟩

/-- There is no array marker exactly if the text starts neither with its words nor with brackets. -/
theorem stripArrayMarker_eq_none_iff {s : List Char} :
    stripArrayMarker s = none ↔
      equalIgnoringCase (s.take 9) "array of ".toList = false ∧ ¬ "[]".toList <+: s := by
  rw [stripArrayMarker, stripArrayWords]
  cases h : equalIgnoringCase (s.take 9) "array of ".toList with
  | true => simp
  | false => simpa using stripFront_eq_none_iff

/-- A plain name starts with no array marker. -/
theorem IsPlainName.stripArrayMarker_eq {name : List Char} (h : IsPlainName name) :
    stripArrayMarker name = none :=
  stripArrayMarker_eq_none_iff.mpr ⟨h.not_arrayWords, h.not_brackets⟩

/-! ## Leaves -/

private theorem scalarOfToken_eq_none {s : List Char} (h : s ∉ tokens) :
    scalarOfToken s = none := by
  simp only [tokens, List.mem_cons, List.not_mem_nil, or_false, not_or] at h
  simp only [scalarOfToken, h, if_false]

private theorem proseWord_eq_none {s : List Char} (h : s ∉ proseWords) : proseWord s = none := by
  simp only [proseWords, List.mem_cons, List.not_mem_nil, or_false, not_or] at h
  simp only [proseWord, h, if_false, or_self]

/-- A prose word means a scalar or, as a plural, the object for messages. -/
theorem proseWord_cases {s : List Char} {e : TypeExpr} (h : proseWord s = some e) :
    e = .named "Message" ∨ ∃ scalar, e = .scalar scalar := by
  simp only [proseWord] at h
  repeat' split at h
  · exact Or.inl (Option.some.inj h).symm
  all_goals first
    | exact Or.inr ⟨_, (Option.some.inj h).symm⟩
    | cases h

/-- What is no canonical word is compared with the words of prose. -/
theorem leaf_of_not_mem_tokens {s : List Char} (h : s ∉ tokens) :
    leaf s = (proseWord (s.flatMap toLowercase)).getD (.named (String.ofList s)) := by
  have hfixed : s ≠ "InputFile".toList ∧ s ≠ "ChatId".toList := by
    simp only [tokens, List.mem_cons, not_or] at h
    exact ⟨h.1, h.2.1⟩
  rw [leaf, if_neg hfixed.1, if_neg hfixed.2, scalarOfToken_eq_none h]

/-- A text that is no word of its own means the name it spells. -/
theorem leaf_of_not_mem {s : List Char} (htokens : s ∉ tokens)
    (hprose : s.flatMap toLowercase ∉ proseWords) : leaf s = .named (String.ofList s) := by
  rw [leaf_of_not_mem_tokens htokens, proseWord_eq_none hprose, Option.getD_none]

/-- A leaf is one of the fixed types or a name that has no other meaning. -/
theorem leaf_cases (s : List Char) :
    leaf s = .inputFile ∨ leaf s = .chatId ∨ (∃ scalar, leaf s = .scalar scalar) ∨
      leaf s = .named "Message" ∨
      (leaf s = .named (String.ofList s) ∧ s ∉ tokens ∧ s.flatMap toLowercase ∉ proseWords) := by
  have htoken : ∀ word ∈ tokens, word = "InputFile".toList ∨ word = "ChatId".toList ∨
      (scalarOfToken word).isSome = true := by decide
  have hword : ∀ word ∈ proseWords, (proseWord word).isSome = true := by decide
  by_cases hplain : s ∉ tokens ∧ s.flatMap toLowercase ∉ proseWords
  · exact Or.inr (Or.inr (Or.inr (Or.inr ⟨leaf_of_not_mem hplain.1 hplain.2, hplain⟩)))
  · rw [leaf]
    by_cases hfile : s = "InputFile".toList
    · exact Or.inl (if_pos hfile)
    · by_cases hchat : s = "ChatId".toList
      · exact Or.inr (Or.inl (by rw [if_neg hfile, if_pos hchat]))
      · rw [if_neg hfile, if_neg hchat]
        cases hscalar : scalarOfToken s with
        | some scalar => exact Or.inr (Or.inr (Or.inl ⟨scalar, rfl⟩))
        | none =>
          cases hprose : proseWord (s.flatMap toLowercase) with
          | some e =>
            rcases proseWord_cases hprose with rfl | ⟨scalar, rfl⟩
            · exact Or.inr (Or.inr (Or.inr (Or.inl rfl)))
            · exact Or.inr (Or.inr (Or.inl ⟨scalar, rfl⟩))
          | none =>
            refine absurd ⟨fun hs => ?_, fun hs => ?_⟩ hplain
            · rcases htoken s hs with h | h | h
              · exact hfile h
              · exact hchat h
              · simp [hscalar] at h
            · simpa [hprose] using hword _ hs

private theorem isPlainName_message : IsPlainName "Message".toList := by
  decide +kernel

/-- An alternative is no union. -/
theorem isUnion_alternative (a : List Char) : (alternative a).isUnion = false := by
  rw [alternative]
  split
  · rfl
  · rcases leaf_cases (trim a) with h | h | ⟨scalar, h⟩ | h | ⟨h, -⟩ <;> rw [h] <;> rfl

private theorem canonicalChars_alternative_ne_nil {a : List Char} (h : trim a ≠ []) :
    (alternative a).canonicalChars ≠ [] := by
  rw [alternative]
  split
  · simp
  · rcases leaf_cases (trim a) with hleaf | hleaf | ⟨scalar, hleaf⟩ | hleaf | ⟨hleaf, -⟩ <;>
      rw [hleaf]
    · decide
    · decide
    · cases scalar <;> decide
    · decide
    · simpa using h

end BotBindings.Phrase

namespace BotBindings.TypeExpr

open Text

/-! ## Well-formed expressions -/

/-- The expressions that can be the meaning of a phrase. A union starts and ends with an alternative
that has a text; only between others a name may be empty. -/
inductive WellFormed : TypeExpr → Prop
  | scalar (scalar : Scalar) : WellFormed (.scalar scalar)
  | named {name : String} (hname : Phrase.IsPlainName name.toList) : WellFormed (.named name)
  | array {element : TypeExpr} (helement : WellFormed element) : WellFormed (.array element)
  | union {es : List TypeExpr} (hlength : 2 ≤ es.length) (hes : ∀ e ∈ es, WellFormed e)
      (hunion : ∀ e ∈ es, e.isUnion = false)
      (hfirst : ∀ e, es.head? = some e → e.canonicalChars ≠ [])
      (hlast : ∀ e, es.getLast? = some e → e.canonicalChars ≠ []) : WellFormed (.union es)
  | inputFile : WellFormed .inputFile
  | chatId : WellFormed .chatId

private theorem exists_joinedChars_eq (first : TypeExpr) (es : List TypeExpr) (last : TypeExpr) :
    ∃ middle, joinedChars (first :: (es ++ [last]))
      = first.canonicalChars ++ middle ++ last.canonicalChars := by
  induction es generalizing first with
  | nil => exact ⟨" or ".toList, rfl⟩
  | cons e es ih =>
    obtain ⟨middle, hmiddle⟩ := ih e
    refine ⟨" or ".toList ++ e.canonicalChars ++ middle, ?_⟩
    rw [List.cons_append, joinedChars_cons_cons, hmiddle]
    simp only [List.append_assoc]

/-- The canonical text of a well-formed expression has no blanks at its ends. -/
theorem WellFormed.trim_canonicalChars {e : TypeExpr} (h : e.WellFormed) :
    trim e.canonicalChars = e.canonicalChars := by
  induction h with
  | scalar scalar => cases scalar <;> decide
  | named hname => exact hname.trim_eq
  | array helement ih =>
    have hend := trimEnd_eq_self_iff.mpr (trim_eq_self_iff.mp ih).2
    rw [canonicalChars_array, trim_cons_of_not_isBlank (by decide),
      trimEnd_cons_of_not_isBlank (by decide), hend]
  | @union es hlength hes hunion hfirst hlast ih =>
    cases es with
    | nil => simp at hlength
    | cons first es =>
      rcases List.eq_nil_or_concat es with rfl | ⟨es, last, rfl⟩
      · simp at hlength
      · obtain ⟨middle, hmiddle⟩ := exists_joinedChars_eq first es last
        rw [canonicalChars_union, List.concat_eq_append, hmiddle]
        refine trim_append_append (ih first (by simp)) (ih last (by simp)) ?_ ?_ middle
        · exact hfirst first rfl
        · exact hlast last (by rw [List.concat_eq_append, ← List.cons_append, List.getLast?_concat])
  | inputFile => decide
  | chatId => decide

end BotBindings.TypeExpr

namespace BotBindings.Phrase

open Text TypeExpr

/-- What an alternative means is well formed if the element types in it are. -/
theorem wellFormed_alternative {s a : List Char} (ha : a ∈ alternatives s)
    (hinner : ∀ inner, stripArrayMarker (trim a) = some inner → (read inner).WellFormed) :
    (alternative a).WellFormed := by
  rw [alternative]
  split
  · rename_i inner hmarker
    exact .array (hinner inner hmarker)
  · rename_i hmarker
    have hseparator := not_infix_of_mem_alternatives ha hmarker
    rw [stripArrayMarker_eq_none_iff] at hmarker
    rcases leaf_cases (trim a) with hleaf | hleaf | ⟨scalar, hleaf⟩ | hleaf | ⟨hleaf, hown⟩ <;>
      rw [hleaf]
    · exact .inputFile
    · exact .chatId
    · exact .scalar scalar
    · exact .named isPlainName_message
    · refine .named ?_
      rw [String.toList_ofList]
      exact ⟨trim_trim a, hseparator, hmarker.1, hmarker.2, hown.1, hown.2⟩

/-- The first and the last alternative of a trimmed phrase are not blank. -/
theorem trim_alternative_ne_nil {s a : List Char} (hs : trim s = s) (hne : s ≠ [])
    (ha : (alternatives s).head? = some a ∨ (alternatives s).getLast? = some a) :
    trim a ≠ [] := by
  by_cases hmedia : mediaFront <+: s
  · have hmem : a ∈ mediaAlternatives s := by
      rw [← alternatives_of_mediaFront hmedia]
      exact ha.elim List.mem_of_head? List.mem_of_getLast?
    obtain ⟨inner, hinner⟩ := exists_marked_of_mem_mediaAlternatives hmedia hmem
    intro hnil
    rw [hnil] at hinner
    cases hinner
  · rw [alternatives_of_not_mediaFront hmedia] at ha
    have hends := trim_eq_self_iff.mp hs
    obtain ⟨c, hc, hblank⟩ : ∃ c, c ∈ a ∧ isBlank c = false := by
      rcases ha with ha | ha
      · obtain ⟨c, rest, rfl⟩ := List.exists_cons_of_ne_nil hne
        have hblank := hends.1 c rfl
        have hspace : c ≠ ' ' := by
          rintro rfl
          exact absurd hblank (by decide)
        have huntouched : Untouched " or ".toList [c] := by
          simpa [Untouched] using hspace
        have hstarts : [c] <+: a := huntouched.prefix_of_head?_split ⟨rest, rfl⟩ ha
        exact ⟨c, hstarts.subset (by simp), hblank⟩
      · have hlast := List.getLast?_eq_getLast_of_ne_nil hne
        have hblank := hends.2 _ hlast
        have hspace : " or ".toList.getLast? ≠ some (s.getLast hne) := by
          intro h
          rw [← Option.some.inj h] at hblank
          exact absurd hblank (by decide)
        exact ⟨_, List.mem_of_getLast? (getLast?_of_getLast?_split ha hlast hspace), hblank⟩
    exact List.ne_nil_of_mem (mem_trim hc hblank)

private theorem wellFormed_union {s : List Char} (hs : trim s = s)
    (hlength : 2 ≤ (alternatives s).length)
    (hall : ∀ a ∈ alternatives s, (alternative a).WellFormed) :
    (union ((alternatives s).map alternative)).WellFormed := by
  have hne : s ≠ [] := by
    rintro rfl
    rw [alternatives_of_not_mediaFront (by decide),
      split_eq_singleton (by decide) (by decide)] at hlength
    simp at hlength
  refine .union (by simpa using hlength) ?_ ?_ ?_ ?_
  · intro e he
    obtain ⟨a, ha, rfl⟩ := List.mem_map.mp he
    exact hall a ha
  · intro e he
    obtain ⟨a, -, rfl⟩ := List.mem_map.mp he
    exact isUnion_alternative a
  · intro e he
    rw [List.head?_map] at he
    obtain ⟨a, ha, rfl⟩ := Option.map_eq_some_iff.mp he
    exact canonicalChars_alternative_ne_nil (trim_alternative_ne_nil hs hne (Or.inl ha))
  · intro e he
    rw [List.getLast?_map] at he
    obtain ⟨a, ha, rfl⟩ := Option.map_eq_some_iff.mp he
    exact canonicalChars_alternative_ne_nil (trim_alternative_ne_nil hs hne (Or.inr ha))

/-- Every expression that a phrase means is well formed. -/
theorem wellFormed_read (phrase : List Char) : (read phrase).WellFormed := by
  induction phrase using read_induction with
  | step phrase ih =>
    have hall : ∀ a ∈ alternatives (trim phrase), (alternative a).WellFormed :=
      fun a ha => wellFormed_alternative ha (ih a ha)
    rw [read_eq]
    split
    · exact .inputFile
    · split
      · exact .chatId
      · cases hpieces : alternatives (trim phrase) with
        | nil => exact absurd hpieces (alternatives_ne_nil _)
        | cons first others =>
          cases others with
          | nil => exact hall first (by rw [hpieces]; exact List.mem_cons_self)
          | cons next others =>
            have hunion := wellFormed_union (trim_trim phrase) (by simp [hpieces]) hall
            rwa [hpieces] at hunion

end BotBindings.Phrase
