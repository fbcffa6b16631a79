import BotBindings.Code.Token
import BotBindings.Proofs.Code.Identifier
import BotBindings.Proofs.Text.Casing

/-!
# The written form of identifiers

Every name has an identifier, and what is written for it is read as one token, with its escape if it
has one: characters of ASCII are replaced where no identifier holds them, and only words that can be
escaped are. The one identifier that names nothing is the lone underscore, which is left of the
empty name and of a single character that is replaced.
-/

namespace BotBindings.Code

open Text

/-! ## Characters of ASCII -/

private theorem toNat_lt_of_isIdentifierChar {c : Char} (h : isIdentifierChar c = true) :
    c.toNat < 128 := by
  rw [isIdentifierChar, Bool.or_eq_true, beq_iff_eq] at h
  rcases h with halpha | rfl
  · exact toNat_lt_of_isAlphanum halpha
  · decide

private theorem isIdentifierContinue_of_isIdentifierChar {c : Char}
    (h : isIdentifierChar c = true) :
    isIdentifierContinue c = true :=
  forall_ascii (P := fun c => isIdentifierChar c = true → isIdentifierContinue c = true)
    (by decide +kernel) (toNat_lt_of_isIdentifierChar h) h

private theorem isIdentifierStart_of_isIdentifierChar {c : Char} (h : isIdentifierChar c = true)
    (hdigit : c.isDigit = false) : isIdentifierStart c = true :=
  forall_ascii (P := fun c => isIdentifierChar c = true → c.isDigit = false →
    isIdentifierStart c = true) (by decide +kernel) (toNat_lt_of_isIdentifierChar h) h hdigit

/-- Keywords consist of letters. -/
theorem isAlpha_of_mem_keywords {word : String} (h : word ∈ keywords) {c : Char}
    (hc : c ∈ word.toList) : c.isAlpha = true := by
  have hall : ∀ word ∈ keywords, word.toList.all Char.isAlpha = true := by decide
  exact List.all_eq_true.mp (hall word h) c hc

/-! ## Reading what is written -/

/-- The identifier that a text is the written form of. There is none if the text is not read as one
identifier, or if it escapes a word that has no escape. -/
def Identifier.ofSource? (source : String) : Option Identifier :=
  if Token.afterIdentifier source.toList = some [] then
    match stripFront "r#".toList source.toList with
    | some name => some ⟨String.ofList name, true⟩
    | none => some ⟨source, false⟩
  else none

/-- An identifier is read up to its end. -/
theorem IsIdentifier.afterName_eq {name : String} (h : IsIdentifier name) :
    Literal.afterName name.toList = some [] := by
  obtain ⟨c, hc, hdigit⟩ := h.isDigit_head
  obtain ⟨rest, hname⟩ := List.head?_eq_some_iff.mp hc
  have hchars := h.isIdentifierChar_of_mem
  rw [hname] at hchars ⊢
  have hstart : isIdentifierStart c = true :=
    isIdentifierStart_of_isIdentifierChar (hchars c List.mem_cons_self) hdigit
  have hrest : rest.dropWhile isIdentifierContinue = [] := by
    refine List.dropWhile_eq_nil_iff.mpr fun d hd => ?_
    exact isIdentifierContinue_of_isIdentifierChar (hchars d (List.mem_cons_of_mem _ hd))
  rw [Literal.afterName, if_pos hstart, hrest]

private theorem IsIdentifier.stripFront_eq_none {name : String} (h : IsIdentifier name) :
    stripFront "r#".toList name.toList = none := by
  cases hstrip : stripFront "r#".toList name.toList with
  | none => rfl
  | some rest =>
    have hhash : '#' ∈ name.toList := by simp [eq_append_of_stripFront hstrip]
    exact absurd (h.isIdentifierChar_of_mem _ hhash) (by decide)

/-- An identifier without an escape is read as it stands. -/
theorem IsIdentifier.ofSource?_eq {name : String} (h : IsIdentifier name) :
    Identifier.ofSource? name = some ⟨name, false⟩ := by
  rw [Identifier.ofSource?, Token.afterIdentifier, h.stripFront_eq_none, if_pos h.afterName_eq]

/-- An identifier with an escape is read as that, unless it is a lone underscore. -/
theorem IsIdentifier.ofSource?_escaped {name : String} (h : IsIdentifier name)
    (hname : name ≠ "_") : Identifier.ofSource? ("r#" ++ name) = some ⟨name, true⟩ := by
  have hstrip : stripFront "r#".toList ("r#" ++ name).toList = some name.toList := by
    rw [String.toList_append, stripFront_append]
  have hword : String.ofList (Literal.upTo name.toList []) = name := by
    simp [Literal.upTo]
  have hescaped : ["_", "super", "self", "Self", "crate"].contains name = false := by
    have hpath := h.not_mem_pathKeywords
    simp only [pathKeywords, List.mem_cons, List.not_mem_nil, or_false, not_or] at hpath
    simp [hname, hpath]
  have hafter : Token.afterIdentifier ("r#" ++ name).toList = some [] := by
    rw [Token.afterIdentifier, hstrip]
    simp only [h.afterName_eq, hword, hescaped, Bool.false_eq_true, if_false]
  rw [Identifier.ofSource?, if_pos hafter, hstrip]
  simp only [String.ofList_toList]

namespace Identifier

/-! ## Escapes -/

/-- A word is escaped if it is a keyword that can be. -/
theorem escaped_ofName_iff (name : String) :
    (ofName name).escaped = true ↔ String.ofList (sanitize name.toList) ∈ keywords ∧
      String.ofList (sanitize name.toList) ∉ pathKeywords := by
  simp only [ofName, List.contains_iff_mem]
  split <;> simp_all

/-- The words that are escaped have their own text. -/
theorem text_of_escaped {name : String} (h : (ofName name).escaped = true) :
    (ofName name).text = String.ofList (sanitize name.toList) := by
  rw [text_ofName, if_neg ((escaped_ofName_iff name).mp h).2]

private theorem source_of_escaped {i : Identifier} (h : i.escaped = true) :
    i.source = "r#" ++ i.text := by
  rw [source, if_pos h]

private theorem source_of_not_escaped {i : Identifier} (h : i.escaped = false) :
    i.source = i.text := by
  rw [source, h, if_neg Bool.false_ne_true]

/-- What is written for a name is the written form of its identifier. -/
theorem ofSource?_source (name : String) : ofSource? (ofName name).source = some (ofName name) := by
  have hidentifier := isIdentifier_text_ofName name
  cases hescaped : (ofName name).escaped with
  | false =>
    rw [source_of_not_escaped hescaped, hidentifier.ofSource?_eq, ← hescaped]
  | true =>
    have hkeyword := ((escaped_ofName_iff name).mp hescaped).1
    rw [← text_of_escaped hescaped] at hkeyword
    have hname : (ofName name).text ≠ "_" := by
      intro hname
      rw [hname] at hkeyword
      exact absurd hkeyword (by decide)
    rw [source_of_escaped hescaped, hidentifier.ofSource?_escaped hname, ← hescaped]

/-- No keyword is written without its escape. -/
theorem source_ofName_not_mem_keywords (name : String) : (ofName name).source ∉ keywords := by
  intro hmem
  cases hescaped : (ofName name).escaped with
  | true =>
    rw [source_of_escaped hescaped] at hmem
    have hhash : '#' ∈ ("r#" ++ (ofName name).text).toList := by simp
    exact absurd (isAlpha_of_mem_keywords hmem hhash) (by decide)
  | false =>
    rw [source_of_not_escaped hescaped, text_ofName] at hmem
    split at hmem
    · have hunderscore : '_' ∈ (String.ofList (sanitize name.toList) ++ "_").toList := by simp
      exact absurd (isAlpha_of_mem_keywords hmem hunderscore) (by decide)
    · have hnot := mt (escaped_ofName_iff name).mpr (Bool.eq_false_iff.mp hescaped)
      exact hnot ⟨hmem, ‹_›⟩

private theorem escape_prefix_source_iff (name : String) :
    "r#".toList <+: (ofName name).source.toList ↔ (ofName name).escaped = true := by
  cases hescaped : (ofName name).escaped with
  | true =>
    rw [source_of_escaped hescaped, String.toList_append]
    exact iff_of_true (List.prefix_append _ _) rfl
  | false =>
    rw [source_of_not_escaped hescaped]
    refine iff_of_false (fun hprefix => hash_not_mem_text_ofName name ?_) Bool.false_ne_true
    exact hprefix.subset (by simp)

/-- A name is written as it stands exactly if it is an identifier and no keyword. -/
theorem source_ofName_eq_self_iff (name : String) :
    (ofName name).source = name ↔ IsIdentifier name ∧ name ∉ keywords := by
  constructor
  · intro h
    have hkeyword : name ∉ keywords := h ▸ source_ofName_not_mem_keywords name
    cases hescaped : (ofName name).escaped with
    | false =>
      rw [source_of_not_escaped hescaped] at h
      exact ⟨text_ofName_eq_self_iff.mp h, hkeyword⟩
    | true =>
      -- An escaped word holds no underscore, so nothing in it was replaced.
      have hword := ((escaped_ofName_iff name).mp hescaped).1
      have hsame : sanitize name.toList = name.toList := by
        refine eq_of_underscore_not_mem_sanitize fun hmem => ?_
        exact absurd (isAlpha_of_mem_keywords hword (by simpa using hmem)) (by decide)
      rw [hsame, String.ofList_toList] at hword
      exact absurd hword hkeyword
  · rintro ⟨hidentifier, hkeyword⟩
    have hsame : sanitize name.toList = name.toList :=
      sanitize_eq_self hidentifier.isIdentifierChar_of_mem hidentifier.isDigit_head
    have hescaped : (ofName name).escaped = false := by
      refine Bool.eq_false_iff.mpr fun hescaped => hkeyword ?_
      have hword := ((escaped_ofName_iff name).mp hescaped).1
      rwa [hsame, String.ofList_toList] at hword
    rw [source_of_not_escaped hescaped]
    exact text_ofName_eq_self_iff.mpr hidentifier

/-! ## The lone underscore -/

/-- The empty name and single characters other than letters and digits of ASCII, of which nothing is
left in an identifier. -/
def IsNameless (name : String) : Prop :=
  name = "" ∨ ∃ c, name.toList = [c] ∧ c.isAlphanum = false

private theorem identifierChar_eq_underscore_iff {c : Char} :
    identifierChar c = '_' ↔ c.isAlphanum = false := by
  unfold identifierChar
  split
  · rename_i hchar
    constructor
    · rintro rfl
      decide
    · intro halphanum
      simpa [isIdentifierChar, halphanum] using hchar
  · rename_i hchar
    refine iff_of_true rfl ?_
    simp only [isIdentifierChar, Bool.or_eq_true, not_or] at hchar
    exact Bool.eq_false_iff.mpr hchar.1

private theorem sanitize_eq_underscore_iff {name : List Char} :
    sanitize name = ['_'] ↔ name = [] ∨ ∃ c, name = [c] ∧ c.isAlphanum = false := by
  rw [sanitize_eq]
  cases name with
  | nil => simp
  | cons c rest =>
    rw [List.map_cons]
    dsimp only
    split
    · rename_i hdigit
      -- An underscore is put before a digit, which is left as well.
      refine iff_of_false (by simp) ?_
      rintro (hnil | ⟨d, hsingle, hreplaced⟩)
      · cases hnil
      · obtain ⟨rfl, -⟩ := List.cons.inj hsingle
        rw [identifierChar_eq_underscore_iff.mpr hreplaced] at hdigit
        cases hdigit
    · simp [identifierChar_eq_underscore_iff, and_comm]

/-- A lone underscore is written for the names of which nothing is left. -/
theorem source_ofName_eq_underscore_iff (name : String) :
    (ofName name).source = "_" ↔ IsNameless name := by
  have hnameless : IsNameless name ↔ sanitize name.toList = ['_'] := by
    rw [sanitize_eq_underscore_iff, IsNameless, String.toList_eq_nil_iff]
  rw [hnameless]
  constructor
  · intro h
    cases hescaped : (ofName name).escaped with
    | true =>
      rw [source_of_escaped hescaped] at h
      simpa using congrArg String.toList h
    | false =>
      rw [source_of_not_escaped hescaped, text_ofName] at h
      split at h
      · rename_i hpath
        have hempty : String.ofList (sanitize name.toList) = "" := by
          simpa using congrArg (fun text : String => text.toList.dropLast) h
        rw [hempty] at hpath
        exact absurd hpath (by decide)
      · simpa using congrArg String.toList h
  · intro h
    rw [source, ofName, h]
    decide

/-- What is written for a name is always the written form of an identifier: of one that is valid in
ASCII, and no keyword unless it is escaped. It is a lone underscore only for the empty name and for
single characters that are replaced. Escapes are put before the keywords that can have them, and a
name is kept exactly if it is an identifier and no keyword. -/
theorem ofName_wellFormed (name : String) :
    ofSource? (ofName name).source = some (ofName name) ∧
    IsIdentifier (ofName name).text ∧
    ((ofName name).source = "_" ↔ IsNameless name) ∧
    (ofName name).source ∉ keywords ∧
    ("r#".toList <+: (ofName name).source.toList ↔
      String.ofList (sanitize name.toList) ∈ keywords ∧
        String.ofList (sanitize name.toList) ∉ pathKeywords) ∧
    ((ofName name).source = name ↔ IsIdentifier name ∧ name ∉ keywords) := by
  have hescape := (escape_prefix_source_iff name).trans (escaped_ofName_iff name)
  exact ⟨ofSource?_source name, isIdentifier_text_ofName name,
    source_ofName_eq_underscore_iff name, source_ofName_not_mem_keywords name, hescape,
    source_ofName_eq_self_iff name⟩

/-- The lone underscore is no keyword, so it needs no escape and even the empty name is not
rejected. -/
theorem not_rejected_empty :
    IsNameless "" ∧ "_" ∉ keywords ∧
      ofSource? (ofName "").source = some ⟨"_", false⟩ ∧
      ¬ (ofSource? (ofName "").source = none ↔ IsNameless "") := by
  have hempty : IsNameless "" := Or.inl rfl
  have hmade : ofSource? (ofName "").source = some ⟨"_", false⟩ := by decide
  refine ⟨hempty, by decide, hmade, fun hrejected => ?_⟩
  rw [hrejected.mpr hempty] at hmade
  cases hmade

end Identifier

end BotBindings.Code
