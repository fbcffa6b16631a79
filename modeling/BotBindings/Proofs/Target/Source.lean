import BotBindings.Registry.Target
import Mathlib.Data.List.Basic
import Mathlib.Logic.Function.Iterate

/-!
# The texts of targets

The text of a list is written around the text of its elements. Apart from that, the text of a value
that is always there is a fixed word or a name from the reference. So where the word `Option` occurs
in such a text, it is part of that name.
-/

namespace BotBindings

/-! ## Words in texts -/

/-- A word that occurs behind a front part of a text, if no character of the word is in that
part. -/
theorem exists_of_front_append {front rest before word after : List Char}
    (h : front ++ rest = before ++ (word ++ after)) (hword : word ≠ [])
    (hfront : front.Disjoint word) :
    ∃ left, before = front ++ left ∧ rest = left ++ (word ++ after) := by
  rcases List.append_eq_append_iff.mp h with ⟨left, hbefore, hrest⟩ | ⟨overlap, hoverlap, hrest⟩
  · exact ⟨left, hbefore, hrest⟩
  · cases overlap with
    | nil => exact ⟨[], by simpa using hoverlap.symm, by simpa using hrest.symm⟩
    | cons c overlap =>
      -- The word would start within the front part.
      obtain ⟨first, word, rfl⟩ := List.exists_cons_of_ne_nil hword
      rw [List.cons_append, List.cons_append] at hrest
      have hfirst : first = c := (List.cons.inj hrest).1
      have hc : c ∈ front := by simp [hoverlap]
      exact (hfront hc (hfirst ▸ List.mem_cons_self)).elim

private theorem exists_of_append_back {inner back before word after : List Char}
    (h : inner ++ back = before ++ (word ++ after)) (hword : word ≠ [])
    (hback : back.Disjoint word) :
    ∃ right, after = right ++ back ∧ inner = before ++ (word ++ right) := by
  have hreverse : back.reverse ++ inner.reverse
      = after.reverse ++ (word.reverse ++ before.reverse) := by
    simpa using congrArg List.reverse h
  have hdisjoint : back.reverse.Disjoint word.reverse :=
    fun c hc hmem => hback (List.mem_reverse.mp hc) (List.mem_reverse.mp hmem)
  obtain ⟨right, hafter, hinner⟩ :=
    exists_of_front_append hreverse (by simpa using hword) hdisjoint
  refine ⟨right.reverse, ?_, ?_⟩
  · simpa using congrArg List.reverse hafter
  · simpa using congrArg List.reverse hinner

/-! ## Lists -/

/-- The text of a list type, around the text of its elements. -/
def listSource (element : String) : String :=
  "Vec<" ++ element ++ ">"

/-- The target of a required value is made from its type alone. -/
theorem Registry.resolve_true (r : Registry) (e : TypeExpr) :
    r.resolve e true = r.resolveRequired e := rfl

/-- As many levels of arrays, so many lists around the target of the innermost elements. -/
theorem Registry.source_resolve_arrays (r : Registry) (space : Option String) (depth : Nat)
    (e : TypeExpr) :
    (r.resolve (TypeExpr.array^[depth] e) true).source space
      = listSource^[depth] ((r.resolve e true).source space) := by
  induction depth with
  | zero => rfl
  | succ depth ih =>
    rw [Function.iterate_succ_apply', Function.iterate_succ_apply', ← ih]
    rfl

/-! ## Names -/

/-- The name that is part of the text of a target. -/
def Target.writtenName? : Target → Option String
  | .object name => some name
  | .inputFile => some inputFileName
  | .chatId => some chatIdName
  | .list element => element.writtenName?
  | .scalar _ | .dynamic | .optional _ | .boxed _ => none

/-- Wherever the word occurs in the text, it is part of an occurrence of the name. -/
def OccursOnlyWithin (word name text : List Char) : Prop :=
  ∀ before after, text = before ++ (word ++ after) →
    ∃ front left right back, text = front ++ (name ++ back) ∧ name = left ++ (word ++ right) ∧
      before = front ++ left ∧ after = right ++ back

private theorem occursOnlyWithin_self (word text : List Char) : OccursOnlyWithin word text text :=
  fun before after h => ⟨[], before, after, [], by simp, h, by simp, by simp⟩

/-- Brackets around a text add no occurrence of a word without their characters. -/
theorem OccursOnlyWithin.brackets {word name text front back : List Char}
    (h : OccursOnlyWithin word name text) (hword : word ≠ []) (hfront : front.Disjoint word)
    (hback : back.Disjoint word) : OccursOnlyWithin word name (front ++ (text ++ back)) := by
  intro before after heq
  obtain ⟨before, rfl, hrest⟩ := exists_of_front_append heq hword hfront
  obtain ⟨after, rfl, hinner⟩ := exists_of_append_back hrest hword hback
  obtain ⟨first, left, right, last, htext, hname, rfl, rfl⟩ := h before after hinner
  exact ⟨front ++ first, left, right, last ++ back, by simp [htext], hname, by simp, by simp⟩

/-- What it means that a text mentions `Option` only as part of a name. Without a name it does not
mention it at all. -/
def OptionOnlyInName (space : Option String) (name? : Option String) (text : String) : Prop :=
  match name? with
  | some name => OccursOnlyWithin "Option".toList (Target.qualify space name).toList text.toList
  | none => ¬ "Option".toList <:+: text.toList

private theorem OptionOnlyInName.listSource {space name? : Option String} {text : String}
    (h : OptionOnlyInName space name? text) :
    OptionOnlyInName space name? (listSource text) := by
  have hchars : (BotBindings.listSource text).toList
      = "Vec<".toList ++ (text.toList ++ ">".toList) := by
    simp [BotBindings.listSource]
  have hfront : "Vec<".toList.Disjoint "Option".toList := by simp
  have hback : ">".toList.Disjoint "Option".toList := by simp
  cases name? with
  | some name =>
    simp only [OptionOnlyInName, hchars]
    exact h.brackets (by simp) hfront hback
  | none =>
    simp only [OptionOnlyInName, hchars] at h ⊢
    rintro ⟨before, after, heq⟩
    rw [List.append_assoc] at heq
    obtain ⟨before, rfl, hrest⟩ := exists_of_front_append heq.symm (by simp) hfront
    obtain ⟨after, rfl, hinner⟩ := exists_of_append_back hrest (by simp) hback
    exact h ⟨before, after, by rw [hinner, List.append_assoc]⟩

private theorem option_not_infix_scalarSource (s : Scalar) :
    ¬ "Option".toList <:+: (Target.scalarSource s).toList := by
  cases s <;> decide +kernel

private theorem option_not_infix_dynamicSource :
    ¬ "Option".toList <:+: Target.dynamicSource.toList := by
  decide +kernel

/-- A value that is always there is not optional on any level of its type. -/
theorem Registry.optionOnlyInName_resolve (r : Registry) (space : Option String) :
    ∀ e : TypeExpr, OptionOnlyInName space (r.resolve e true).writtenName?
      ((r.resolve e true).source space)
  | .named name => by
    rw [resolve_true, resolveRequired]
    split
    · exact option_not_infix_dynamicSource
    · split
      · exact occursOnlyWithin_self _ _
      · exact option_not_infix_dynamicSource
  | .array element => (optionOnlyInName_resolve r space element).listSource
  | .inputFile | .chatId => occursOnlyWithin_self _ _
  | .scalar s => option_not_infix_scalarSource s
  | .union _ => option_not_infix_dynamicSource

end BotBindings
