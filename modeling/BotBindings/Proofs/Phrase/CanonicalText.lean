import BotBindings.Proofs.Phrase.WellFormed

/-!
# Reading a canonical text

The canonical text of an expression is a phrase again. Where no union lies under an array, its
alternatives are the texts of the expression's alternatives unless one of these ends in ` or`: then
that ending and the separator after it make up ` or or `, which is split one word earlier. The main
statement says exactly when the alternatives are found again.
-/

namespace BotBindings

namespace TypeExpr

/-- Whether no union occurs in the expression. -/
def unionFree : TypeExpr → Bool
  | .array element => element.unionFree
  | .union _ => false
  | _ => true

/-- The expressions without a union in which the names are of the given kind. -/
inductive Simple (IsName : List Char → Prop) : TypeExpr → Prop
  | scalar (scalar : Scalar) : Simple IsName (.scalar scalar)
  | named {name : String} (hname : IsName name.toList) : Simple IsName (.named name)
  | array {element : TypeExpr} (helement : Simple IsName element) : Simple IsName (.array element)
  | inputFile : Simple IsName .inputFile
  | chatId : Simple IsName .chatId

/-- What is simple with names of one kind is simple with names of a wider one. -/
theorem Simple.mono {IsName IsName' : List Char → Prop}
    (himp : ∀ name, IsName name → IsName' name) {e : TypeExpr} (h : e.Simple IsName) :
    e.Simple IsName' := by
  induction h with
  | scalar scalar => exact .scalar scalar
  | named hname => exact .named (himp _ hname)
  | array helement ih => exact .array ih
  | inputFile => exact .inputFile
  | chatId => exact .chatId

/-- A simple expression with plain names is well formed. -/
theorem Simple.wellFormed {e : TypeExpr} (h : e.Simple Phrase.IsPlainName) : e.WellFormed := by
  induction h with
  | scalar scalar => exact .scalar scalar
  | named hname => exact .named hname
  | array helement ih => exact .array ih
  | inputFile => exact .inputFile
  | chatId => exact .chatId

/-- A well-formed expression without unions is simple, and its names are plain. -/
theorem WellFormed.simple {e : TypeExpr} (h : e.WellFormed) (hfree : e.unionFree = true) :
    e.Simple Phrase.IsPlainName := by
  induction h with
  | scalar scalar => exact .scalar scalar
  | named hname => exact .named hname
  | array helement ih => exact .array (ih hfree)
  | union => cases hfree
  | inputFile => exact .inputFile
  | chatId => exact .chatId

end TypeExpr

namespace Phrase

open Text TypeExpr

/-! ## Simple expressions -/

section

variable {e : TypeExpr} (h : e.Simple IsPlainName)

include h

private theorem not_infix_canonicalChars : ¬ " or ".toList <:+: e.canonicalChars := by
  induction h with
  | scalar scalar => cases scalar <;> decide
  | named hname => exact hname.no_separator
  | @array element helement ih =>
    rw [canonicalChars_array, List.infix_cons_iff, List.infix_cons_iff]
    rintro (h | h | h)
    · simp at h
    · simp at h
    · exact ih h
  | inputFile => decide
  | chatId => decide

private theorem not_mediaFront_canonicalChars : ¬ mediaFront <+: e.canonicalChars := by
  induction h with
  | scalar scalar => cases scalar <;> decide
  | named hname =>
    rintro ⟨rest, hrest⟩
    have hwords := hname.not_arrayWords
    rw [canonicalChars_named] at hrest
    rw [← hrest, List.take_append_of_le_length (by decide)] at hwords
    exact absurd hwords (by decide)
  | array =>
    have hfront : mediaFront = 'A' :: "rray of InputMediaAudio".toList := rfl
    rw [canonicalChars_array, hfront, List.cons_prefix_cons]
    exact fun h => absurd h.1 (by decide)
  | inputFile => decide
  | chatId => decide

private theorem read_eq_alternative_of_simple {t : List Char} (htrim : trim t = t)
    (hstarts : t <+: e.canonicalChars) : read t = alternative t := by
  refine read_eq_alternative ?_ ?_ <;> rw [htrim]
  · exact fun hoccurs => not_infix_canonicalChars h (hoccurs.trans hstarts.isInfix)
  · exact fun hmedia => not_mediaFront_canonicalChars h (hmedia.trans hstarts)

/-- The canonical text of a simple expression is an alternative that means the expression. -/
theorem alternative_canonicalChars : alternative e.canonicalChars = e := by
  induction h with
  | scalar scalar => cases scalar <;> decide +kernel
  | named hname =>
    rw [canonicalChars_named, alternative_of_not_marked hname.trim_eq hname.stripArrayMarker_eq,
      leaf_of_not_mem hname.not_mem_tokens hname.not_mem_proseWords, String.ofList_toList]
  | @array element helement ih =>
    have htrim := helement.wellFormed.trim_canonicalChars
    have hend := trimEnd_eq_self_iff.mpr (trim_eq_self_iff.mp htrim).2
    rw [canonicalChars_array, alternative_brackets, hend,
      read_eq_alternative_of_simple helement htrim List.prefix_rfl, ih]
  | inputFile => decide +kernel
  | chatId => decide +kernel

/-- Without the word at its end, a canonical text that ends in ` or` means something else. -/
theorem alternative_ne_of_append {y : List Char}
    (hy : y ++ " or".toList = e.canonicalChars) : alternative y ≠ e := by
  have hsuffix : " or".toList <:+ e.canonicalChars := ⟨y, hy⟩
  induction h generalizing y with
  | scalar scalar => exact absurd hsuffix (by cases scalar <;> decide)
  | named hname =>
    intro hnamed
    rw [alternative] at hnamed
    split at hnamed
    · cases hnamed
    · rcases leaf_cases (trim y) with hleaf | hleaf | ⟨scalar, hleaf⟩ | hleaf | ⟨hleaf, -⟩ <;>
        rw [hleaf] at hnamed <;> cases hnamed
      · exact absurd hsuffix (by decide)
      · have hlength := congrArg List.length hy
        have hle := length_trim_le y
        have hword : " or".toList.length = 3 := rfl
        simp only [canonicalChars_named, String.toList_ofList, List.length_append] at hlength
        omega
  | @array element helement ih =>
    rw [canonicalChars_array] at hy
    rcases y with _ | ⟨c, _ | ⟨d, y⟩⟩
    · simp at hy
    · simp at hy
    · simp only [List.cons_append, List.cons.injEq] at hy
      obtain ⟨rfl, rfl, hy⟩ := hy
      have hstarts : y <+: element.canonicalChars := ⟨_, hy⟩
      have htrim := trim_eq_trimEnd_of_start helement.wellFormed.trim_canonicalChars hstarts
      intro hread
      rw [alternative_brackets, ← htrim, read_eq_alternative_of_simple helement (trim_trim y)
        (htrim ▸ (trimEnd_prefix_self y).trans hstarts), alternative_trim] at hread
      exact ih hy ⟨y, hy⟩ (TypeExpr.array.inj hread)
  | inputFile => exact absurd hsuffix (by decide)
  | chatId => exact absurd hsuffix (by decide)

end

/-! ## Joined texts -/

section

variable {es : List TypeExpr} (hes : ∀ e ∈ es, e.Simple IsPlainName)

include hes

private theorem not_mediaFront_joinedChars : ¬ mediaFront <+: joinedChars es := by
  cases es with
  | nil => decide
  | cons e es =>
    have hfirst := not_mediaFront_canonicalChars (hes e List.mem_cons_self)
    cases es with
    | nil => exact hfirst
    | cons next es =>
      have huntouched : Untouched " or ".toList mediaFront := by decide
      exact fun hstarts => hfirst (huntouched.prefix_of_append hstarts)

private theorem joinedChars_ne_string : joinedChars es ≠ "String".toList := by
  match es, hes with
  | [], _ => decide
  | [e], hes =>
    intro heq
    rw [show joinedChars [e] = e.canonicalChars from rfl] at heq
    cases hes e List.mem_cons_self with
    | scalar scalar => exact absurd heq (by cases scalar <;> decide)
    | named hname =>
      rw [canonicalChars_named] at heq
      exact absurd (heq ▸ hname.not_mem_proseWords) (by decide +kernel)
    | array => exact absurd (List.cons.inj heq).1 (by decide)
    | inputFile => exact absurd heq (by decide)
    | chatId => exact absurd heq (by decide)
  | e :: next :: rest, _ =>
    intro heq
    have hoccurs : " or ".toList <:+: "String".toList :=
      heq ▸ ⟨e.canonicalChars, joinedChars (next :: rest), rfl⟩
    exact absurd hoccurs (by decide)

/-- The phrases with a fixed meaning are not joined texts: `String` is not a canonical text. -/
theorem joinedChars_ne_fixed {literal : List Char} (hoccurs : " or ".toList <:+: literal)
    (hstring : ∀ back ∈ literal.tails, " or ".toList <+: back → back.drop 4 = "String".toList) :
    joinedChars es ≠ literal := by
  rintro rfl
  match es, hes with
  | [], _ => exact absurd hoccurs (by decide)
  | [e], hes => exact not_infix_canonicalChars (hes e List.mem_cons_self) hoccurs
  | e :: next :: rest, hes =>
    refine @joinedChars_ne_string (next :: rest) (fun a ha => hes a ?_)
      (hstring (" or ".toList ++ joinedChars (next :: rest)) ?_ (List.prefix_append _ _))
    · exact List.mem_cons_of_mem e ha
    · rw [List.mem_tails]
      exact ⟨e.canonicalChars, (List.append_assoc _ _ _).symm⟩

/-- Reading the joined texts of simple expressions splits them at the separators. -/
theorem read_joinedChars (htrim : trim (joinedChars es) = joinedChars es) :
    read (joinedChars es)
      = ofAlternatives ((split " or ".toList (joinedChars es)).map alternative) := by
  have hfile : joinedChars es ≠ "InputFile or String".toList :=
    joinedChars_ne_fixed hes ⟨"InputFile".toList, "String".toList, rfl⟩ (by decide)
  have hchat : joinedChars es ≠ "Integer or String".toList :=
    joinedChars_ne_fixed hes ⟨"Integer".toList, "String".toList, rfl⟩ (by decide)
  rw [read_eq, htrim, if_neg hfile, if_neg hchat,
    alternatives_of_not_mediaFront (not_mediaFront_joinedChars hes)]

end

/-- The separator is found behind a text in which it does not occur, unless the text ends in all of
it but its last blank. -/
theorem clear_separator {t : List Char} (hoccurs : ¬ " or ".toList <:+: t)
    (hsuffix : ¬ " or".toList <:+ t) : Clear " or ".toList t := by
  intro rest back hback hne hstarts
  match back with
  | [] => exact hne rfl
  | [a] => simp at hstarts
  | [a, b] => simp at hstarts
  | [a, b, c] =>
    simp only [String.reduceToList, List.cons_append, List.cons_prefix_cons] at hstarts
    obtain ⟨rfl, rfl, rfl, -⟩ := hstarts
    exact hsuffix hback
  | a :: b :: c :: d :: more =>
    have hle : " or ".toList <+: a :: b :: c :: d :: more := by
      rw [List.append_assoc] at hstarts
      exact List.prefix_of_prefix_length_le hstarts (List.prefix_append _ _) (by simp)
    exact hoccurs (hle.isInfix.trans hback.isInfix)

/-- A text that ends in ` or` is cut at that word if the separator follows. -/
theorem cut_of_suffix {y : List Char} (hoccurs : ¬ " or ".toList <:+: y ++ " or".toList)
    (rest : List Char) :
    cut " or ".toList (y ++ " or".toList ++ " or ".toList ++ rest)
      = some (y, "or ".toList ++ rest) := by
  have hclear : Clear " or ".toList y := by
    apply clear_separator
    · exact fun h => hoccurs (h.trans (List.prefix_append y _).isInfix)
    · rintro ⟨z, rfl⟩
      exact hoccurs ⟨z, "or".toList, by simp⟩
  rw [← cut_of_clear (by decide) hclear]
  congr 1
  simp

/-- The alternatives are found again exactly if no text in front of a separator ends in ` or`. -/
theorem map_alternative_split_iff {es : List TypeExpr} (hes : ∀ e ∈ es, e.Simple IsPlainName)
    (hne : es ≠ []) :
    (split " or ".toList (joinedChars es)).map alternative = es ↔
      ∀ e ∈ es.dropLast, ¬ " or".toList <:+ e.canonicalChars := by
  induction es with
  | nil => exact absurd rfl hne
  | cons e es ih =>
    have he := hes e List.mem_cons_self
    have hoccurs := not_infix_canonicalChars he
    cases es with
    | nil =>
      have hsplit : split " or ".toList (joinedChars [e]) = [e.canonicalChars] :=
        split_eq_singleton (by decide) hoccurs
      rw [hsplit, List.map_singleton, alternative_canonicalChars he]
      simp
    | cons next es =>
      have hrest := ih (fun a ha => hes a (List.mem_cons_of_mem e ha)) (by simp)
      rw [joinedChars_cons_cons, List.dropLast_cons_of_ne_nil (by simp), List.forall_mem_cons,
        ← hrest]
      by_cases hsuffix : " or".toList <:+ e.canonicalChars
      · obtain ⟨y, hy⟩ := hsuffix
        have hcut := cut_of_suffix (hy ▸ hoccurs) (joinedChars (next :: es))
        rw [hy] at hcut
        rw [split_of_cut hcut, List.map_cons]
        constructor
        · intro heq
          exact absurd (List.cons.inj heq).1 (alternative_ne_of_append he hy)
        · exact fun h => absurd ⟨y, hy⟩ h.1
      · rw [split_of_cut (cut_of_clear (by decide) (clear_separator hoccurs hsuffix) _),
          List.map_cons, alternative_canonicalChars he]
        constructor
        · exact fun heq => ⟨hsuffix, (List.cons.inj heq).2⟩
        · exact fun h => congrArg (e :: ·) h.2

end Phrase

end BotBindings
