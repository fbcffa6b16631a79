import BotBindings.Page.Extract
import Mathlib.Data.List.TakeWhile

/-!
# Sections of the reference

The reader of `BotBindings.Page.Extract` goes through the reference once. This file describes the
same reference by the sections it consists of: a section starts at an anchored heading with a text,
and its body is the run of elements up to the next heading or rule. The main statements say how the
sections of a beginning of the reference change when more elements follow.
-/

namespace BotBindings

open Html

/-- Whether an element ends the section before it. -/
def closesSection (node : Node) : Bool :=
  node.tag? == some "h3" || node.tag? == some "hr" || node.tag? == some "h4"

/-- The name of the section that an element starts, if it starts one. -/
def sectionName? (node : Node) : Option String :=
  if node.tag? = some "h4" ∧ hasSectionAnchor node = true ∧ node.visibleText ≠ "" then
    some node.visibleText
  else none

/-- A part of the reference that defines one type or operation. -/
structure Section where
  /-- The text of the heading. -/
  name : String
  /-- The elements between the heading and the next heading or rule. -/
  body : List Node

namespace Section

/-- What a section with this name defines. -/
def kindOf (name : String) : SectionKind :=
  if startsUppercase name then .type else .operation

/-- The elements with the given tag that lie directly in the body. -/
def tagged (part : Section) (tag : String) : List Node :=
  part.body.filter fun node => node.tag? == some tag

/-- The texts of the paragraphs that are not empty. -/
def paragraphs (part : Section) : List String :=
  ((part.tagged "p").map Node.visibleText).filter (· ≠ "")

/-- The paragraphs joined by single spaces. -/
def description (part : Section) : String :=
  " ".intercalate part.paragraphs

/-- The section of which only the heading was read. -/
def empty (name : String) : Section where
  name := name
  body := []

/-- The section with more elements at the end of its body. -/
def extend (part : Section) (more : List Node) : Section :=
  { part with body := part.body ++ more }

/-- The sections of a list of elements, in order. -/
def ofNodes : List Node → List Section
  | [] => []
  | node :: rest =>
    match sectionName? node with
    | some name => ⟨name, rest.takeWhile (!closesSection ·)⟩ :: ofNodes rest
    | none => ofNodes rest

/-- The sections with the given name, in order. -/
def named (name : String) (parts : List Section) : List Section :=
  parts.filter (·.name == name)

/-! ## Adding an element to a body -/

/-- An empty section has the name it is given. -/
@[simp] theorem name_empty (name : String) : (empty name).name = name := rfl

/-- More elements do not change the name of a section. -/
@[simp] theorem name_extend (part : Section) (more : List Node) :
    (part.extend more).name = part.name := rfl

@[simp] private theorem extend_nil (part : Section) : part.extend [] = part := by
  simp [extend]

private theorem extend_extend (part : Section) (more others : List Node) :
    (part.extend more).extend others = part.extend (more ++ others) := by
  simp [extend]

/-- One more element is listed under its tag, behind those that are there. -/
theorem tagged_extend (part : Section) (tag : String) (node : Node) :
    (part.extend [node]).tagged tag
      = part.tagged tag ++ if node.tag? = some tag then [node] else [] := by
  simp only [tagged, extend, List.filter_append]
  by_cases h : node.tag? = some tag <;> simp [h]

private theorem intercalate_ne_empty {texts : List String} (hne : texts ≠ [])
    (htexts : ∀ text ∈ texts, text ≠ "") : " ".intercalate texts ≠ "" := by
  cases texts with
  | nil => exact absurd rfl hne
  | cons text texts =>
    have htext := htexts text (by simp)
    cases texts <;> simp [htext]

/-- One more element changes the description only if it is a paragraph, and then as the reader
changes it. -/
theorem description_extend (part : Section) (node : Node) :
    (part.extend [node]).description
      = if node.tag? = some "p" then appendParagraph part.description node.visibleText
        else part.description := by
  have htexts : ∀ text ∈ part.paragraphs, text ≠ "" := by
    intro text htext
    simpa using (List.mem_filter.mp htext).2
  by_cases htag : node.tag? = some "p"
  · by_cases htext : node.visibleText = ""
    · simp [description, paragraphs, tagged_extend, htag, htext, appendParagraph]
    · have hparagraphs : (part.extend [node]).paragraphs
          = part.paragraphs ++ [node.visibleText] := by
        simp [paragraphs, tagged_extend, htag, htext]
      simp only [description, hparagraphs, htag, if_true]
      rcases List.eq_nil_or_concat part.paragraphs with hnil | ⟨front, last, hlast⟩
      · simp [hnil, appendParagraph, htext]
      · have hne : part.paragraphs ≠ [] := by simp [hlast]
        have hjoined := intercalate_ne_empty hne htexts
        rw [String.intercalate_append_of_ne_nil hne (by simp)]
        simp [appendParagraph, htext, hjoined]
  · simp [description, paragraphs, tagged_extend, htag]

/-! ## The sections of a longer list of elements -/

/-- An element that ends no section starts none. -/
theorem sectionName?_eq_none {node : Node} (h : closesSection node = false) :
    sectionName? node = none := by
  have htag : node.tag? ≠ some "h4" := by
    intro heq
    simp [closesSection, heq] at h
  simp [sectionName?, htag]

private theorem ofNodes_eq_nil {nodes : List Node}
    (h : ∀ node ∈ nodes, closesSection node = false) :
    ofNodes nodes = [] := by
  induction nodes with
  | nil => rfl
  | cons node nodes ih =>
    have hnode := sectionName?_eq_none (h node (by simp))
    simpa [ofNodes, hnode] using ih fun other hother => h other (by simp [hother])

/-- A heading or rule separates the sections before it from those after it. -/
theorem ofNodes_append_cons {node : Node} (h : closesSection node = true)
    (before after : List Node) :
    ofNodes (before ++ node :: after) = ofNodes before ++ ofNodes (node :: after) := by
  induction before with
  | nil => simp [ofNodes]
  | cons first before ih =>
    have htake : (before ++ node :: after).takeWhile (!closesSection ·)
        = before.takeWhile (!closesSection ·) := by
      rw [List.takeWhile_append]
      split
      · rename_i hlength
        simpa [h] using ((List.takeWhile_prefix _).eq_of_length hlength).symm
      · rfl
    simp only [List.cons_append, ofNodes, ih, htake]
    cases sectionName? first <;> rfl

/-- A heading or rule followed by elements that end no section is one section at most. -/
theorem ofNodes_cons {node : Node} {body : List Node}
    (hbody : ∀ other ∈ body, closesSection other = false) :
    ofNodes (node :: body) = (sectionName? node).toList.map fun name => ⟨name, body⟩ := by
  have htake : body.takeWhile (!closesSection ·) = body := by
    rw [List.takeWhile_eq_self_iff]
    simpa using hbody
  cases h : sectionName? node <;> simp [ofNodes, h, htake, ofNodes_eq_nil hbody]

/-- The elements `nodes` end within the section `current`, which follows the sections `earlier`:
whatever follows up to the next heading or rule belongs to its body. -/
def EndsWithin (nodes : List Node) (earlier : List Section) (current : Section) : Prop :=
  ∀ more : List Node, (∀ node ∈ more, closesSection node = false) →
    ofNodes (nodes ++ more) = earlier ++ [current.extend more]

/-- The elements `nodes` end outside all sections: what follows up to the next heading belongs to
no section. -/
def EndsOutside (nodes : List Node) : Prop :=
  ∀ more : List Node, (∀ node ∈ more, closesSection node = false) →
    ofNodes (nodes ++ more) = ofNodes nodes

/-- A list without elements ends outside of all sections. -/
theorem endsOutside_nil : EndsOutside [] := by
  intro more hmore
  simpa [ofNodes] using ofNodes_eq_nil hmore

/-- Behind an element that ends a section and starts none a list ends outside. -/
theorem endsOutside_append_singleton {nodes : List Node} {node : Node}
    (hcloses : closesSection node = true) (hname : sectionName? node = none) :
    EndsOutside (nodes ++ [node]) := by
  intro more hmore
  rw [List.append_assoc, List.singleton_append, ofNodes_append_cons hcloses,
    ofNodes_append_cons hcloses, ofNodes_cons hmore, ofNodes_cons (by simp)]
  simp [hname]

/-- An element that starts a section ends the one before it. -/
theorem closesSection_of_sectionName? {node : Node} {name : String}
    (h : sectionName? node = some name) : closesSection node = true := by
  by_contra hcloses
  simp [sectionName?_eq_none (by simpa using hcloses)] at h

/-- Behind an element that starts a section a list ends within an empty section of that name. -/
theorem endsWithin_append_singleton {nodes : List Node} {node : Node} {name : String}
    (hname : sectionName? node = some name) :
    EndsWithin (nodes ++ [node]) (ofNodes nodes) (empty name) := by
  intro more hmore
  rw [List.append_assoc, List.singleton_append,
    ofNodes_append_cons (closesSection_of_sectionName? hname), ofNodes_cons hmore]
  simp [hname, extend, empty]

/-- The sections of a list that ends within one are the earlier ones and this one. -/
theorem EndsWithin.ofNodes_eq {nodes : List Node} {earlier : List Section} {current : Section}
    (h : EndsWithin nodes earlier current) : ofNodes nodes = earlier ++ [current] := by
  simpa using h [] (by simp)

/-- An element that ends no section is added to the one that the list ends within. -/
theorem EndsWithin.append_singleton {nodes : List Node} {earlier : List Section}
    {current : Section} (h : EndsWithin nodes earlier current) {node : Node}
    (hnode : closesSection node = false) :
    EndsWithin (nodes ++ [node]) earlier (current.extend [node]) := by
  intro more hmore
  rw [List.append_assoc, List.singleton_append, extend_extend, List.singleton_append]
  refine h (node :: more) ?_
  simpa [hnode] using hmore

/-- An element that ends no section does not lead into one. -/
theorem EndsOutside.append_singleton {nodes : List Node} (h : EndsOutside nodes) {node : Node}
    (hnode : closesSection node = false) : EndsOutside (nodes ++ [node]) := by
  intro more hmore
  have hsingle := h [node] (by simpa using hnode)
  have hmany := h (node :: more) (by simpa [hnode] using hmore)
  rw [List.append_assoc, List.singleton_append, hmany, hsingle]

end Section

end BotBindings
