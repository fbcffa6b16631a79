import BotBindings.Proofs.Code.Identifier
import BotBindings.Proofs.Text.Casing
import Mathlib.Data.List.Nodup

/-!
# Names that continue a name

The enums of a request are named by the name of the request and something of their own. What follows
a name is spelled character by character, so two continuations of one name clash exactly if they are
spelled alike. The only exceptions come from the names that are keywords.
-/

namespace BotBindings.Code

/-- A name that does not start with a small letter of ASCII. -/
def Capitalised (name : String) : Prop :=
  ∀ c, name.toList.head? = some c → c.isLower = false

/-- A name in pascal case starts with no small letter of ASCII. -/
theorem capitalised_pascalCase (name : String) : Capitalised (Text.pascalCase name) :=
  fun _ => Text.isLower_head_pascalCase

private theorem eq_self_of_capitalised_mem_pathKeywords {word : String} (h : word ∈ pathKeywords)
    (hword : Capitalised word) : word = "Self" := by
  have hothers : ∀ word ∈ pathKeywords, word ≠ "Self" →
      (word.toList.head?.any fun c => c.isLower) = true := by decide
  by_contra hne
  have hlower := hothers word h hne
  cases hhead : word.toList.head? with
  | none => simp [hhead] at hlower
  | some c => simp [hhead, hword c hhead] at hlower

/-- Of the words that cannot be escaped only one starts with a capital, and it has no capitals
elsewhere. -/
theorem eq_self_of_mem_pathKeywords {name suffix : String} (hne : name ≠ "")
    (hname : Capitalised name) (hsuffix : Capitalised suffix)
    (h : String.ofList (sanitize (name ++ suffix).toList) ∈ pathKeywords) :
    name = "Self" ∧ suffix = "" := by
  have hkept : sanitize (name ++ suffix).toList = (name ++ suffix).toList :=
    eq_of_underscore_not_mem_sanitize (by simpa using underscore_not_mem_of_mem_pathKeywords h)
  rw [hkept, String.ofList_toList] at h
  obtain ⟨first, front, hlist⟩ : ∃ first front, name.toList = first :: front :=
    List.exists_cons_of_ne_nil fun hnil => hne (String.toList_inj.mp hnil)
  have hjoined : (name ++ suffix).toList = first :: (front ++ suffix.toList) := by simp [hlist]
  have hself : name ++ suffix = "Self" := by
    refine eq_self_of_capitalised_mem_pathKeywords h fun c hc => hname c ?_
    rw [hjoined] at hc
    rw [hlist]
    exact hc
  have hempty : suffix = "" := by
    by_contra hsuffixNe
    obtain ⟨c, back, hback⟩ : ∃ c back, suffix.toList = c :: back :=
      List.exists_cons_of_ne_nil fun hnil => hsuffixNe (String.toList_inj.mp hnil)
    have hrest : front ++ suffix.toList = ['e', 'l', 'f'] := by
      have hletters : "Self".toList = 'S' :: ['e', 'l', 'f'] := by decide
      rw [hself, hletters] at hjoined
      exact (List.cons.inj hjoined).2.symm
    have hlower := hsuffix c (by rw [hback]; rfl)
    have hmem : c ∈ ['e', 'l', 'f'] := by simp [← hrest, hback]
    simp only [List.mem_cons, List.not_mem_nil, or_false] at hmem
    rcases hmem with rfl | rfl | rfl <;> cases hlower
  exact ⟨by simpa [hempty] using hself, hempty⟩

/-- The identifier of a request is its name with characters replaced, but for the one name that
cannot be escaped. -/
theorem text_ofName_capitalised {name : String} (hne : name ≠ "") (hname : Capitalised name) :
    (Identifier.ofName name).text
      = String.ofList (sanitize name.toList) ++ (if name = "Self" then "_" else "") := by
  rw [Identifier.text_ofName]
  by_cases hself : name = "Self"
  · subst hself
    decide
  · have hempty : Capitalised "" := nofun
    have hnot : String.ofList (sanitize name.toList) ∉ pathKeywords := fun h =>
      hself (eq_self_of_mem_pathKeywords hne hname hempty (by simpa using h)).1
    rw [if_neg hnot, if_neg hself, String.append_empty]

/-- The identifier of a name that is continued is the name with characters replaced, followed by the
spelling of the continuation. No such name is a word that cannot be escaped. -/
theorem text_ofName_append {name suffix : String} (hne : name ≠ "") (hname : Capitalised name)
    (hsuffix : Capitalised suffix) (hsuffixNe : suffix ≠ "") :
    (Identifier.ofName (name ++ suffix)).text
      = String.ofList (sanitize name.toList) ++ spelling suffix := by
  have hnot : String.ofList (sanitize (name ++ suffix).toList) ∉ pathKeywords := fun h =>
    hsuffixNe (eq_self_of_mem_pathKeywords hne hname hsuffix h).2
  have hlist : name.toList ≠ [] := fun hnil => hne (String.toList_inj.mp hnil)
  rw [Identifier.text_ofName, if_neg hnot, String.toList_append, sanitize_append hlist,
    String.ofList_append, spelling]

/-- A name and its continuations have different identifiers exactly if the continuations are
spelled differently and none is empty, except that the identifier of one name continues it. -/
theorem nodup_text_ofName_append_iff {name : String} {suffixes : List String} (hne : name ≠ "")
    (hname : Capitalised name) (hsuffixes : ∀ suffix ∈ suffixes, Capitalised suffix) :
    ((Identifier.ofName name).text
        :: suffixes.map fun suffix => (Identifier.ofName (name ++ suffix)).text).Nodup ↔
      ("" :: suffixes.map spelling).Nodup ∧ (name = "Self" → "_" ∉ suffixes.map spelling) := by
  by_cases hempty : "" ∈ suffixes
  · -- The empty continuation clashes on both sides.
    have hleft : (Identifier.ofName name).text
        ∈ suffixes.map fun suffix => (Identifier.ofName (name ++ suffix)).text :=
      List.mem_map.mpr ⟨"", hempty, by rw [String.append_empty]⟩
    have hright : "" ∈ suffixes.map spelling := List.mem_map.mpr ⟨"", hempty, rfl⟩
    simp only [List.nodup_cons, hleft, hright, not_true_eq_false, false_and]
  · have htexts : (suffixes.map fun suffix => (Identifier.ofName (name ++ suffix)).text)
        = (suffixes.map spelling).map (String.ofList (sanitize name.toList) ++ ·) := by
      rw [List.map_map]
      exact List.map_congr_left fun suffix hsuffix => text_ofName_append hne hname
        (hsuffixes suffix hsuffix) (fun h => hempty (h ▸ hsuffix))
    have hspelled : "" ∉ suffixes.map spelling := by
      intro hmem
      obtain ⟨suffix, hsuffix, hspelling⟩ := List.mem_map.mp hmem
      exact hempty (spelling_eq_empty_iff.mp hspelling ▸ hsuffix)
    have hinjective : Function.Injective (String.ofList (sanitize name.toList) ++ ·) :=
      fun _ _ h => (String.append_right_inj _).mp h
    rw [htexts, text_ofName_capitalised hne hname, ← List.map_cons, List.nodup_map_iff hinjective,
      List.nodup_cons, List.nodup_cons]
    by_cases hself : name = "Self"
    · simp [hself, hspelled, and_comm]
    · simp [hself, hspelled]

end BotBindings.Code
