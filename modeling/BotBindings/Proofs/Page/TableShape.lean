import BotBindings.Proofs.Page.Extraction
import BotBindings.Proofs.Page.Row

/-!
# Pages that are no reference

Reading fails on two shapes: a page without the element that holds the reference, and a section with
a table in which some row has the wrong number of cells. This file describes both without the
reader, in terms of the elements below an element and of the sections of the page. The main
statement says that reading fails on these shapes only, and that it reports the first malformed row
of the first malformed table.
-/

namespace BotBindings

open Html Section

/-- Whether an element holds the reference. -/
def isContent (node : Node) : Bool :=
  node.tag? == some "div" && node.attribute? "id" == some contentId

/-- The reference is held by the first element that can hold it. -/
theorem contentOf?_eq (root : Node) : contentOf? root = root.descendants.find? isContent :=
  Finder.findNext_fst rfl root

/-! ## The shape of a table -/

/-- The table can list the fields of the definition with this name. -/
def WellShaped (name : String) (table : Node) : Prop :=
  ∀ row ∈ bodyRows table, cellCount row = (kindOf name).columns

/-- The number of cells of the first row that has too few or too many. -/
def malformedRow? (name : String) (table : Node) : Option Nat :=
  ((bodyRows table).map cellCount).find? (· ≠ (kindOf name).columns)

private theorem malformedRow?_eq_none_iff {name : String} {table : Node} :
    malformedRow? name table = none ↔ WellShaped name table := by
  simp [malformedRow?, WellShaped]

private theorem malformedRow?_eq_some_iff {name : String} {table : Node} {columns : Nat} :
    malformedRow? name table = some columns ↔
      ∃ front row back, bodyRows table = front ++ row :: back ∧
        (∀ other ∈ front, cellCount other = (kindOf name).columns) ∧
        cellCount row = columns ∧ columns ≠ (kindOf name).columns := by
  rw [malformedRow?, List.find?_eq_some_iff_append]
  constructor
  · rintro ⟨hne, fronts, backs, hrows, hfronts⟩
    obtain ⟨front, rest, hsplit, rfl, hrest⟩ := List.map_eq_append_iff.mp hrows
    obtain ⟨row, back, rfl, hrow, -⟩ := List.map_eq_cons_iff.mp hrest
    exact ⟨front, row, back, hsplit, by simpa using hfronts, hrow, by simpa using hne⟩
  · rintro ⟨front, row, back, hsplit, hfront, hrow, hne⟩
    refine ⟨by simpa using hne, front.map cellCount, back.map cellCount, ?_, by simpa using hfront⟩
    rw [hsplit, List.map_append, List.map_cons, hrow]

/-! ## Where reading a table fails -/

/-- Rows are read up to the first one with the wrong number of cells. -/
theorem readRows_eq_error_iff {kind : SectionKind} {name : String} {finders : RowFinders}
    (hfinders : finders.Searching) {fields : Fields} {rows : List Node} {e : ExtractError} :
    readRows kind name finders fields rows = .error e ↔
      ((rows.map cellCount).find? (· ≠ kind.columns)).map (.unexpectedTableShape name)
        = some e := by
  induction rows generalizing finders fields with
  | nil => simp [readRows]
  | cons row rows ih =>
    rcases hfinders.readRows_cons_cases name fields rows with
      ⟨field, finders', hgives, hfinders', heq⟩ | ⟨hne, heq⟩
    · rw [heq, ih hfinders']
      simp [hgives.cellCount_eq]
    · rw [heq]
      simp [hne]

/-- The error about a table of the named section, if it is malformed. -/
def tableError? (table : String × Node) : Option ExtractError :=
  (malformedRow? table.1 table.2).map (.unexpectedTableShape table.1)

private theorem readFields_eq_error_iff {name : String} {table : Node} {e : ExtractError} :
    readFields (kindOf name) name table = .error e ↔ tableError? (name, table) = some e := by
  rw [readFields, readRows_eq_error_iff searching_default, tableRows_eq, tableError?, malformedRow?]

/-- Only a table within a section makes a step fail. -/
theorem Reading.step_eq_error_iff {s : Reading} {node : Node} {e : ExtractError} :
    s.step node = .error e ↔
      node.tag? = some "table" ∧
        ∃ kind name, s.scope = .within kind name ∧ readFields kind name node = .error e := by
  constructor
  · intro h
    unfold step at h
    split at h
    case h_5 htag =>
      refine ⟨htag, ?_⟩
      cases hscope : s.scope with
      | outside => simp [table, hscope] at h
      | within kind name =>
        refine ⟨kind, name, rfl, ?_⟩
        cases hfields : readFields kind name node with
        | error other => cases kind <;> simpa [table, hscope, hfields, Except.map] using h
        | ok fields => cases kind <;> simp [table, hscope, hfields, Except.map] at h
    all_goals cases h
  · rintro ⟨htag, kind, name, hscope, hfields⟩
    cases kind <;> simp [step, htag, table, hscope, hfields, Except.map]

/-! ## Where reading a page fails -/

/-- The tables that lie directly in sections, each with the name of its section. -/
def fieldTables (parts : List Section) : List (String × Node) :=
  parts.flatMap fun part => (part.tagged "table").map (part.name, ·)

/-- The sections that elements make up for a reader in some scope: those that start among them,
after the rest of the section in which the reader is. -/
def Scope.parts : Scope → List Node → List Section
  | .outside, nodes => ofNodes nodes
  | .within _ name, nodes => ⟨name, nodes.takeWhile (!closesSection ·)⟩ :: ofNodes nodes

/-- The kind of the section is the one that its name asks for. -/
def Scope.Named : Scope → Prop
  | .outside => True
  | .within kind name => kind = kindOf name

/-- An element that ends no section belongs to the section in which the reader is. -/
theorem fieldTables_parts_cons {scope : Scope} {node : Node} (hcloses : closesSection node = false)
    (nodes : List Node) :
    fieldTables (scope.parts (node :: nodes)) = match scope with
      | .outside => fieldTables (scope.parts nodes)
      | .within _ name =>
        (if node.tag? = some "table" then [(name, node)] else [])
          ++ fieldTables (scope.parts nodes) := by
  have hname := sectionName?_eq_none hcloses
  cases scope with
  | outside => simp [Scope.parts, ofNodes, hname]
  | within kind name =>
    by_cases htag : node.tag? = some "table" <;>
      simp [Scope.parts, ofNodes, hname, hcloses, fieldTables, tagged, htag]

/-- An element that ends a section leaves nothing of it. -/
theorem fieldTables_parts_of_closes {scope : Scope} {node : Node}
    (hcloses : closesSection node = true) (nodes : List Node) :
    fieldTables (scope.parts (node :: nodes)) = fieldTables (ofNodes (node :: nodes)) := by
  cases scope <;> simp [Scope.parts, hcloses, fieldTables, tagged]

/-- Only headings and rules lead out of a section. -/
theorem Reading.scope_of_step {s s' : Reading} {node : Node} (hcloses : closesSection node = false)
    (h : s.step node = .ok s') : s'.scope = s.scope := by
  cases hscope : s.scope with
  | within kind name =>
    cases kind with
    | type => exact (step_within_type hscope hcloses h).1.trans hscope
    | operation => exact (step_within_operation hscope hcloses h).1.trans hscope
  | outside =>
    rcases step_cases h with ⟨hcloses', -⟩ | ⟨name, hname, -⟩ | ⟨-, -, rfl⟩ | ⟨-, -, htable⟩ |
      ⟨-, -, rfl⟩ | ⟨-, -, -, -, rfl⟩
    · rw [hcloses] at hcloses'
      cases hcloses'
    · rw [closesSection_of_sectionName? hname] at hcloses
      cases hcloses
    · simp [paragraph, hscope]
    · obtain rfl : s = s' := by simpa [table, hscope] using htable
      exact hscope
    · simp [list, hscope]
    · exact hscope

/-- A step that succeeds meets no malformed table, and leads to a scope in which what follows has
the tables that are left. -/
theorem Reading.findSome?_tableError?_of_step {s s' : Reading} {node : Node}
    (hnamed : s.scope.Named) (h : s.step node = .ok s') (nodes : List Node) :
    s'.scope.Named ∧
      (fieldTables (s.scope.parts (node :: nodes))).findSome? tableError?
        = (fieldTables (s'.scope.parts nodes)).findSome? tableError? := by
  cases hcloses : closesSection node with
  | true =>
    rw [fieldTables_parts_of_closes hcloses]
    rcases step_cases h with ⟨-, hname, hscope, -⟩ | ⟨name, hname, rfl⟩ | ⟨hfalse, -⟩ |
      ⟨hfalse, -⟩ | ⟨hfalse, -⟩ | ⟨hfalse, -⟩
    · rw [hscope]
      exact ⟨trivial, by simp [Scope.parts, ofNodes, hname]⟩
    · have hscope : (s.heading node).scope = .within (kindOf name) name := by
        cases hupper : startsUppercase name with
        | true => simpa [kindOf, hupper] using (heading_of_type hname hupper s).1
        | false => simpa [kindOf, hupper] using (heading_of_operation hname hupper s).1
      rw [hscope]
      exact ⟨rfl, by simp [Scope.parts, ofNodes, hname]⟩
    all_goals
      rw [hcloses] at hfalse
      cases hfalse
  | false =>
    rw [scope_of_step hcloses h, fieldTables_parts_cons hcloses]
    refine ⟨hnamed, ?_⟩
    cases hscope : s.scope with
    | outside => rfl
    | within kind name =>
      by_cases htag : node.tag? = some "table"
      · -- The step would have failed on a malformed table.
        have hfine : tableError? (name, node) = none := by
          rw [Option.eq_none_iff_forall_ne_some]
          intro e he
          have hkind : kind = kindOf name := by simpa [Scope.Named, hscope] using hnamed
          have hfields := readFields_eq_error_iff.mpr he
          rw [← hkind] at hfields
          rw [step_eq_error_iff.mpr ⟨htag, kind, name, hscope, hfields⟩] at h
          cases h
        simp [htag, hfine]
      · simp [htag]

/-- The reader stops with the error about the first malformed table that it meets in a section. -/
theorem Reading.steps_snd {s : Reading} (hnamed : s.scope.Named) (nodes : List Node) :
    (s.steps nodes).2 = (fieldTables (s.scope.parts nodes)).findSome? tableError? := by
  induction nodes generalizing s with
  | nil => cases hscope : s.scope <;> simp [steps, Scope.parts, ofNodes, fieldTables, tagged]
  | cons node nodes ih =>
    cases hstep : s.step node with
    | ok next =>
      obtain ⟨hnext, htables⟩ := findSome?_tableError?_of_step hnamed hstep nodes
      rw [steps, hstep, htables]
      exact ih hnext
    | error e =>
      obtain ⟨htag, kind, name, hscope, hfields⟩ := step_eq_error_iff.mp hstep
      have hkind : kind = kindOf name := by simpa [Scope.Named, hscope] using hnamed
      rw [hkind, readFields_eq_error_iff] at hfields
      have hcloses : closesSection node = false := by simp [closesSection, htag]
      rw [steps, hstep, fieldTables_parts_cons hcloses, hscope]
      simp [htag, hfields]

/-- Whether reading a page fails is decided by its first malformed table. -/
theorem extractNode_result_of_content {root content : Node}
    (hcontent : root.descendants.find? isContent = some content) :
    (∀ e, (extractNode root).result = .error e ↔
      (fieldTables (ofNodes content.childElements)).findSome? tableError? = some e) ∧
    ((∃ registry, (extractNode root).result = .ok registry) ↔
      (fieldTables (ofNodes content.childElements)).findSome? tableError? = none) := by
  have hsteps : (Reading.steps {} content.childElements).2
      = (fieldTables (ofNodes content.childElements)).findSome? tableError? :=
    Reading.steps_snd (s := {}) trivial content.childElements
  rw [← hsteps, extractNode, contentOf?_eq, hcontent]
  cases hread : Reading.steps {} content.childElements with
  | mk s failure => cases failure <;> simp [hread]

/-! ## The first malformed table -/

private theorem tableError?_eq_none_iff {table : String × Node} :
    tableError? table = none ↔ WellShaped table.1 table.2 := by
  rw [tableError?, Option.map_eq_none_iff, malformedRow?_eq_none_iff]

private theorem tableError?_eq_some_iff {table : String × Node} {name : String} {columns : Nat} :
    tableError? table = some (.unexpectedTableShape name columns) ↔
      table.1 = name ∧ malformedRow? name table.2 = some columns := by
  simp only [tableError?, Option.map_eq_some_iff, ExtractError.unexpectedTableShape.injEq]
  constructor
  · rintro ⟨found, hfound, hname, rfl⟩
    exact ⟨hname, hname ▸ hfound⟩
  · rintro ⟨hname, hfound⟩
    exact ⟨columns, hname ▸ hfound, hname, rfl⟩

/-- The error of a malformed table names a section and a number of cells. -/
theorem exists_tableError?_eq {table : String × Node} (h : ¬WellShaped table.1 table.2) :
    ∃ name columns, tableError? table = some (.unexpectedTableShape name columns) := by
  rw [← malformedRow?_eq_none_iff, ← ne_eq, Option.ne_none_iff_exists'] at h
  obtain ⟨columns, hcolumns⟩ := h
  exact ⟨table.1, columns, tableError?_eq_some_iff.mpr ⟨rfl, hcolumns⟩⟩

/-- All tables are well shaped exactly if there is no first malformed one. -/
theorem findSome?_tableError?_eq_none_iff {tables : List (String × Node)} :
    tables.findSome? tableError? = none ↔ ∀ table ∈ tables, WellShaped table.1 table.2 := by
  simp only [List.findSome?_eq_none_iff, tableError?_eq_none_iff]

/-- The first table error of a list is that of the first table that is not well shaped. -/
theorem findSome?_tableError?_eq_some_iff {tables : List (String × Node)} {name : String}
    {columns : Nat} :
    tables.findSome? tableError? = some (.unexpectedTableShape name columns) ↔
      ∃ before table after, tables = before ++ (name, table) :: after ∧
        (∀ earlier ∈ before, WellShaped earlier.1 earlier.2) ∧
        malformedRow? name table = some columns := by
  simp only [List.findSome?_eq_some_iff, tableError?_eq_none_iff, tableError?_eq_some_iff]
  constructor
  · rintro ⟨before, ⟨_, table⟩, after, hsplit, ⟨rfl, hrow⟩, hbefore⟩
    exact ⟨before, table, after, hsplit, hbefore, hrow⟩
  · rintro ⟨before, table, after, hsplit, hbefore, hrow⟩
    exact ⟨before, (name, table), after, hsplit, ⟨rfl, hrow⟩, hbefore⟩

/-- Some table is malformed exactly if there is an error about a table. -/
theorem exists_findSome?_tableError?_iff {tables : List (String × Node)} :
    (∃ name columns, tables.findSome? tableError? = some (.unexpectedTableShape name columns)) ↔
      ∃ table ∈ tables, ¬WellShaped table.1 table.2 := by
  constructor
  · rintro ⟨name, columns, hfirst⟩
    obtain ⟨table, hmem, htable⟩ := List.exists_of_findSome?_eq_some hfirst
    refine ⟨table, hmem, fun hfine => ?_⟩
    rw [tableError?_eq_none_iff.mpr hfine] at htable
    cases htable
  · rintro ⟨table, hmem, hbad⟩
    cases hfirst : tables.findSome? tableError? with
    | none => exact absurd (findSome?_tableError?_eq_none_iff.mp hfirst table hmem) hbad
    | some e =>
      obtain ⟨other, -, hother⟩ := List.exists_of_findSome?_eq_some hfirst
      have hbad' : ¬WellShaped other.1 other.2 := by
        rw [← tableError?_eq_none_iff, hother]
        simp
      obtain ⟨name, columns, herror⟩ := exists_tableError?_eq hbad'
      exact ⟨name, columns, by rw [← herror, hother]⟩

/-- Reading a page fails in two ways only. The page has no element that can hold the reference. Or a
table that lies directly in a section has, below its first body, a row with another number of cells
than four for an operation and three for a type; then the error names the section of the first such
table and the number of cells of its first such row. -/
theorem extractNode_error_iff (root : Node) :
    ((extractNode root).result = .error .contentNotFound ↔
      ∀ node ∈ root.descendants,
        ¬(node.tag? = some "div" ∧ node.attribute? "id" = some "dev_page_content")) ∧
    ∀ content, root.descendants.find? isContent = some content →
      let tables := fieldTables (ofNodes content.childElements)
      (∀ name columns, (extractNode root).result = .error (.unexpectedTableShape name columns) ↔
        ∃ before table after, tables = before ++ (name, table) :: after ∧
          (∀ earlier ∈ before, WellShaped earlier.1 earlier.2) ∧
          ∃ front row back, bodyRows table = front ++ row :: back ∧
            (∀ other ∈ front, cellCount other = (kindOf name).columns) ∧
            cellCount row = columns ∧ columns ≠ (kindOf name).columns) ∧
      ((∃ name columns, (extractNode root).result = .error (.unexpectedTableShape name columns)) ↔
        ∃ table ∈ tables, ¬WellShaped table.1 table.2) ∧
      ((∃ registry, (extractNode root).result = .ok registry) ↔
        ∀ table ∈ tables, WellShaped table.1 table.2) := by
  refine ⟨?_, fun content hcontent => ?_⟩
  · have hnone : root.descendants.find? isContent = none ↔ ∀ node ∈ root.descendants,
        ¬(node.tag? = some "div" ∧ node.attribute? "id" = some "dev_page_content") := by
      simp [isContent, contentId]
    rw [← hnone]
    cases hcontent : root.descendants.find? isContent with
    | none => simp [extractNode, contentOf?_eq, hcontent]
    | some content =>
      rw [(extractNode_result_of_content hcontent).1]
      simp only [reduceCtorEq, iff_false]
      intro hfirst
      obtain ⟨table, -, htable⟩ := List.exists_of_findSome?_eq_some hfirst
      simp [tableError?] at htable
  · intro tables
    obtain ⟨herror, hok⟩ := extractNode_result_of_content hcontent
    refine ⟨fun name columns => ?_, ?_, ?_⟩
    · rw [herror, findSome?_tableError?_eq_some_iff]
      simp only [malformedRow?_eq_some_iff]
      rfl
    · simp only [herror]
      exact exists_findSome?_tableError?_iff
    · exact hok.trans findSome?_tableError?_eq_none_iff

/-- A row of a table with as many cells as there are texts. -/
def tableRow (texts : List String) : Node :=
  .element "tr" [] (texts.map fun text => .element "td" [] [.text text])

/-- A table with these rows. -/
def fieldTable (rows : List Node) : Node :=
  .element "table" [] [.element "tbody" [] rows]

/-- The content of a page with malformed tables, only one of which is read. -/
def malformedContent : Node :=
  .element "div" [⟨"id", contentId, false⟩]
    [fieldTable [tableRow ["before all sections"]],
      anchoredHeading "Chat", fieldTable [tableRow ["id", "Integer", "Unique identifier"]],
      .element "hr" [] [], fieldTable [tableRow ["after a rule"]],
      anchoredHeading "getChat",
      .element "table" [] [tableRow ["without a body"]],
      fieldTable [tableRow ["chat_id", "Integer", "Yes", "The chat"], tableRow ["a", "b"]],
      fieldTable [tableRow ["after the first malformed table"]]]

/-- The page with that content. -/
def malformedPage : Node :=
  .element "html" [] [.element "body" [] [malformedContent]]

/-- The error is about the second row of the last table but one. -/
theorem extractNode_error_iff_malformedPage :
    (extractNode malformedPage).result = .error (.unexpectedTableShape "getChat" 2) ∧
      (extractNode malformedPage).result ≠ .error .contentNotFound := by
  obtain ⟨hnone, hcontent⟩ := extractNode_error_iff malformedPage
  obtain ⟨hfirst, -, -⟩ := hcontent malformedContent rfl
  have hcomputed : (fieldTables (ofNodes malformedContent.childElements)).findSome? tableError?
      = some (.unexpectedTableShape "getChat" 2) := by decide +kernel
  have hdescribed := findSome?_tableError?_eq_some_iff.mp hcomputed
  simp only [malformedRow?_eq_some_iff] at hdescribed
  have hmem : malformedContent ∈ malformedPage.descendants := by
    simp [malformedPage, malformedContent, Node.descendants, Node.descendantsOfList]
  exact ⟨(hfirst "getChat" 2).mpr hdescribed, fun h => hnone.mp h _ hmem ⟨rfl, rfl⟩⟩

end BotBindings
