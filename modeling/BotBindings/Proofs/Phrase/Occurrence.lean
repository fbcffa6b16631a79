import BotBindings.Proofs.Phrase.WellFormed
import Mathlib.Logic.Function.Iterate

/-!
# Depth of reading and depth of meaning

Reading a phrase reads the element types marked in it as phrases of their own. They are shorter,
also in a media list, where a marker was put in front of an item that had none. So unrolling the
recursion a bounded number of times gives the meaning of a phrase. What can occur in that meaning is
the same at every depth.
-/

namespace BotBindings

namespace TypeExpr

/-- The expression `a` is `e` itself or occurs inside it, at any depth. -/
inductive Occurs (a : TypeExpr) : TypeExpr → Prop
  | here : Occurs a a
  | array {element : TypeExpr} (h : Occurs a element) : Occurs a (.array element)
  | union {es : List TypeExpr} {e : TypeExpr} (he : e ∈ es) (h : Occurs a e) : Occurs a (.union es)

/-- What occurs in a well-formed expression is well formed. -/
theorem WellFormed.of_occurs {a e : TypeExpr} (he : e.WellFormed) (h : Occurs a e) :
    a.WellFormed := by
  induction h with
  | here => exact he
  | array h ih =>
    cases he with
    | array helement => exact ih helement
  | union hmem h ih =>
    cases he with
    | union hlength hes => exact ih (hes _ hmem)

end TypeExpr

namespace Phrase

open Text TypeExpr

/-! ## One level of reading -/

/-- The phrases that are read as element types when `phrase` is read. -/
def elementPhrases (phrase : List Char) : List (List Char) :=
  (alternatives (trim phrase)).filterMap fun a => stripArrayMarker (trim a)

/-- What a phrase means if `meaning` says what the element types in it mean. -/
def readWith (meaning : List Char → TypeExpr) (phrase : List Char) : TypeExpr :=
  if trim phrase = "InputFile or String".toList then .inputFile
  else if trim phrase = "Integer or String".toList then .chatId
  else ofAlternatives <| (alternatives (trim phrase)).map fun a =>
    match stripArrayMarker (trim a) with
    | some inner => .array (meaning inner)
    | none => leaf (trim a)

private theorem readWith_read (phrase : List Char) : readWith read phrase = read phrase :=
  (read_eq phrase).symm

/-- Reading asks for no other meanings than those of the element types. -/
theorem readWith_congr {f g : List Char → TypeExpr} {phrase : List Char}
    (h : ∀ inner ∈ elementPhrases phrase, f inner = g inner) :
    readWith f phrase = readWith g phrase := by
  unfold readWith
  congr 3
  refine List.map_congr_left fun a ha => ?_
  cases hmarker : stripArrayMarker (trim a) with
  | none => rfl
  | some inner => exact congrArg TypeExpr.array (h inner (List.mem_filterMap.mpr ⟨a, ha, hmarker⟩))

private theorem length_lt_of_mem_elementPhrases {phrase inner : List Char}
    (h : inner ∈ elementPhrases phrase) : inner.length < phrase.length := by
  obtain ⟨a, ha, hmarker⟩ := List.mem_filterMap.mp h
  exact Nat.lt_of_lt_of_le (length_lt_of_mem_alternatives ha hmarker) (length_trim_le phrase)

/-- Unrolling the recursion more often than the phrase has characters gives its meaning, whatever
the recursion is cut off with. -/
theorem iterate_readWith {n : Nat} {phrase : List Char} (h : phrase.length < n)
    (start : List Char → TypeExpr) : (readWith^[n] start) phrase = read phrase := by
  induction n generalizing phrase with
  | zero => omega
  | succ n ih =>
    rw [Function.iterate_succ_apply', ← readWith_read phrase]
    refine readWith_congr fun inner hinner => ih ?_
    have hlength := length_lt_of_mem_elementPhrases hinner
    omega

/-! ## Every depth -/

/-- Reading a phrase comes to an end, because the phrases read inside it are shorter. In what it
means, at every depth, a union has at least two alternatives, none of them a union, and a name is
one that stands for itself. -/
theorem ofPhrase_occurrences (phrase : String) :
    (∀ inner ∈ elementPhrases phrase.toList, inner.length < phrase.toList.length) ∧
      (∀ n, phrase.toList.length < n → ∀ start : List Char → TypeExpr,
        (readWith^[n] start) phrase.toList = ofPhrase phrase) ∧
      (∀ es, Occurs (.union es) (ofPhrase phrase) →
        2 ≤ es.length ∧ ∀ e ∈ es, e.isUnion = false) ∧
      ∀ name, Occurs (.named name) (ofPhrase phrase) → IsPlainName name.toList := by
  have hwell : (ofPhrase phrase).WellFormed := wellFormed_read phrase.toList
  refine ⟨fun inner => length_lt_of_mem_elementPhrases, fun n hn => iterate_readWith hn, ?_, ?_⟩
  · intro es hes
    cases hwell.of_occurs hes with
    | union hlength _ hunion => exact ⟨hlength, hunion⟩
  · intro name hname
    cases hwell.of_occurs hname with
    | named hplain => exact hplain

/-- The second item of this media list is read as an element type, although the phrase has no marker
in front of it. -/
theorem ofPhrase_occurrences_mediaList :
    "[] Messages or x".toList
        ∈ elementPhrases "Array of InputMediaAudio,, [] Messages or x".toList ∧
      "[] Messages or x".toList.length
        < "Array of InputMediaAudio,, [] Messages or x".toList.length ∧
      (readWith^[50] fun _ => .chatId) "Array of InputMediaAudio,, [] Messages or x".toList
        = ofPhrase "Array of InputMediaAudio,, [] Messages or x" ∧
      Occurs (.named "x") (ofPhrase "Array of InputMediaAudio,, [] Messages or x") ∧
      IsPlainName "x".toList := by
  obtain ⟨hshorter, hunrolled, -, hnames⟩ :=
    ofPhrase_occurrences "Array of InputMediaAudio,, [] Messages or x"
  have hinner : "[] Messages or x".toList
      ∈ elementPhrases "Array of InputMediaAudio,, [] Messages or x".toList := by decide +kernel
  have hmeaning : ofPhrase "Array of InputMediaAudio,, [] Messages or x"
      = .union [.array (.named "InputMediaAudio"),
        .array (.union [.array (.named "Message"), .named "x"])] := by decide +kernel
  have hoccurs : Occurs (.named "x") (ofPhrase "Array of InputMediaAudio,, [] Messages or x") := by
    rw [hmeaning]
    exact .union (.tail _ (.head _)) (.array (.union (.tail _ (.head _)) .here))
  exact ⟨hinner, hshorter _ hinner, hunrolled 50 (by decide) _, hoccurs, hnames _ hoccurs⟩

end Phrase

end BotBindings
