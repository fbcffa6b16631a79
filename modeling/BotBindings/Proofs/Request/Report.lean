import BotBindings.Proofs.Request.Culprit

/-!
# The report of a generation

Types are planned by name and requests by key, and each list is translated up to its first failure.
So the report of a generation that does not break down is about the least culprit, and there is a
report exactly if there is a culprit.
-/

namespace BotBindings

open Code

/-! ## Sorted plans -/

private theorem pairwise_mergeSort_textLe {α : Type} (name : α → String) (as : List α) :
    (as.mergeSort fun a b => textLe (name a) (name b)).Pairwise fun a b => name a ≤ name b := by
  refine (List.pairwise_mergeSort ?_ ?_ as).imp of_decide_eq_true
  · intro a b c
    exact textLe_trans
  · intro a b
    exact textLe_total (name a) (name b)

namespace Registry

/-- Types are planned in the order of their names. -/
theorem pairwise_planTypes {r : Registry}
    (hnames : ∀ name d, r.types.get? name = some d → d.name = name) :
    r.planTypes.Pairwise fun a b => a.name ≤ b.name := by
  have hsorted : r.renderableNames.Pairwise (· ≤ ·) := pairwise_mergeSort_textLe id _
  rwa [← map_name_planTypes hnames, List.pairwise_map] at hsorted

private theorem pairwise_planRequests (r : Registry) :
    r.planRequests.Pairwise fun a b => a.key ≤ b.key :=
  pairwise_mergeSort_textLe RequestPlan.key _

private theorem mem_planRequests_iff {r : Registry} {plan : RequestPlan} :
    plan ∈ r.planRequests ↔ ∃ o ∈ r.operations.values, r.planRequest o = plan := by
  rw [planRequests, List.mem_mergeSort, List.mem_map]

end Registry

/-! ## Generation -/

/-- A generation that fails with a report fails for a type or for a request. -/
theorem generate_eq_error {r : Registry} {typesModule : String} {e : GenerateError}
    (h : generate r typesModule = .error e) (hreport : e.report?.isSome) :
    r.planTypes.mapM typeItem = .error e ∨
      ((∃ items, r.planTypes.mapM typeItem = .ok items) ∧
        r.planRequests.mapM (requestFile typesModule) = .error e) := by
  obtain ⟨report, hreport⟩ := Option.isSome_iff_exists.mp hreport
  -- A step that has nothing to blame does not fail with a report.
  have hblameless : ∀ {α : Type} {step : Except GenerateError α},
      Blames step "" False → step ≠ .error e :=
    fun hblames heq => (hblames e heq report hreport).2
  simp only [generate, bind_eq_error_iff] at h
  rcases h with htypes | ⟨items, hitems, h⟩
  · exact Or.inl htypes
  · rcases h with htexts | ⟨_, -, h⟩
    · exact absurd htexts (hblameless (blames_forM fun _ _ => blames_requireText _ _))
    · rcases h with hrequests | ⟨files, -, h⟩
      · exact Or.inr ⟨⟨items, hitems⟩, hrequests⟩
      · rcases h with hnames | ⟨_, -, h⟩
        · exact absurd hnames (hblameless (blames_forM fun _ _ => blames_requireName _ _))
        · cases h

/-- No type is to blame once the types were translated. -/
theorem not_isTypeCulprit_of_mapM {r : Registry}
    (hnames : ∀ name d, r.types.get? name = some d → d.name = name) {items : List StructItem}
    (h : r.planTypes.mapM typeItem = .ok items) (name : String) : ¬r.IsTypeCulprit name := by
  rw [Registry.isTypeCulprit_iff hnames]
  rintro ⟨plan, hplan, -, field, hfield, hculprit⟩
  obtain ⟨item, hitem, -⟩ := exists_mem_zip_of_mapM h hplan
  exact hculprit (parses_of_typeItem hitem field hfield)

/-- A report about the types is about the least of the culprits. -/
theorem isLeast_of_planTypes {r : Registry}
    (hnames : ∀ name d, r.types.get? name = some d → d.name = name) {e : GenerateError}
    (h : r.planTypes.mapM typeItem = .error e) {report : String × String}
    (hreport : e.report? = some report) : IsLeast {name | r.IsTypeCulprit name} report.1 := by
  obtain ⟨plan, hplan, hfails, hleast⟩ :=
    exists_least_of_mapM_eq_error h (Registry.pairwise_planTypes hnames)
  obtain ⟨hitem, hculprit⟩ := blames_typeItem plan e hfails report hreport
  rw [hitem]
  refine ⟨(Registry.isTypeCulprit_iff hnames _).mpr ⟨plan, hplan, rfl, hculprit⟩, ?_⟩
  intro name hname
  obtain ⟨other, hother, rfl, field, hfield, hfault⟩ :=
    (Registry.isTypeCulprit_iff hnames name).mp hname
  exact hleast other hother fun item hitem => hfault (parses_of_typeItem hitem field hfield)

/-- No operation is to blame once its request was translated. -/
theorem not_isOperationCulprit_of_requestFile {r : Registry} {typesModule : String} {o : Operation}
    {file : RequestFile} (h : requestFile typesModule (r.planRequest o) = .ok file) :
    IsPathText typesModule ∧ ¬r.IsOperationCulprit o := by
  obtain ⟨hpath, hparses⟩ := parses_of_requestFile h
  refine ⟨hpath, fun hculprit => ?_⟩
  obtain ⟨target, htarget, hfault⟩ := (r.isOperationCulprit_iff o).mp hculprit
  exact hfault (hparses target htarget)

/-- A report about the requests is about the least of the culprits, where a types module that is no
path makes all of them culprits. -/
theorem isLeast_of_planRequests {r : Registry} {typesModule : String} {e : GenerateError}
    (h : r.planRequests.mapM (requestFile typesModule) = .error e) {report : String × String}
    (hreport : e.report? = some report) :
    IsLeast {key | ∃ o ∈ r.operations.values, o.key = key ∧
      (¬IsPathText typesModule ∨ r.IsOperationCulprit o)} report.1 := by
  obtain ⟨plan, hplan, hfails, hleast⟩ :=
    exists_least_of_mapM_eq_error h r.pairwise_planRequests
  obtain ⟨hitem, hculprit⟩ := blames_requestFile typesModule plan e hfails report hreport
  obtain ⟨o, ho, rfl⟩ := Registry.mem_planRequests_iff.mp hplan
  rw [hitem]
  refine ⟨⟨o, ho, rfl, hculprit.imp_right (r.isOperationCulprit_iff o).mpr⟩, ?_⟩
  rintro key ⟨other, hother, rfl, hfault⟩
  refine hleast (r.planRequest other) (Registry.mem_planRequests_iff.mpr ⟨other, hother, rfl⟩) ?_
  intro file hfile
  obtain ⟨hpath, hblameless⟩ := not_isOperationCulprit_of_requestFile hfile
  exact hfault.elim (fun hnopath => hnopath hpath) hblameless

/-- There is no culprit if generation succeeds. -/
theorem not_isCulprit_of_generate {r : Registry} {typesModule : String} {code : GeneratedCode}
    (hnames : ∀ name d, r.types.get? name = some d → d.name = name)
    (h : generate r typesModule = .ok code) :
    (∀ name, ¬r.IsTypeCulprit name) ∧
      ∀ o ∈ r.operations.values, IsPathText typesModule ∧ ¬r.IsOperationCulprit o := by
  obtain ⟨items, -, hitems, -⟩ := generate_eq_ok h
  refine ⟨not_isTypeCulprit_of_mapM hnames hitems, fun o ho => ?_⟩
  obtain ⟨file, hfile, -⟩ := exists_requestFile_of_generate h ho
  exact not_isOperationCulprit_of_requestFile hfile

/-- A report is about the least culprit among the types or, if there is none, about the least among
the requests. -/
theorem isLeast_of_generate {r : Registry} {typesModule : String}
    (hnames : ∀ name d, r.types.get? name = some d → d.name = name) {e : GenerateError}
    (h : generate r typesModule = .error e) {report : String × String}
    (hreport : e.report? = some report) :
    IsLeast {name | r.IsTypeCulprit name} report.1 ∨
      ((¬∃ name, r.IsTypeCulprit name) ∧
        IsLeast {key | ∃ o ∈ r.operations.values, o.key = key ∧
          (¬IsPathText typesModule ∨ r.IsOperationCulprit o)} report.1) := by
  rcases generate_eq_error h (by simp [hreport]) with htypes | ⟨⟨items, hitems⟩, hrequests⟩
  · exact Or.inl (isLeast_of_planTypes hnames htypes hreport)
  · refine Or.inr ⟨?_, isLeast_of_planRequests hrequests hreport⟩
    rintro ⟨name, hname⟩
    exact not_isTypeCulprit_of_mapM hnames hitems name hname

/-- Generation reports a culprit if there is one, and fails for no other reason, unless it breaks
down: at a name that is missing, at a types module that is a path but not that of a module, or at a
type that no text is known for. The report is about the least culprit among the types or, if there
is none, about the least among the operations, all of which are culprits if the types module is no
path. -/
theorem generate_reports_least_culprit {r : Registry} {typesModule : String}
    (hnames : ∀ name d, r.types.get? name = some d → d.name = name)
    (hnamed : ∀ item, generate r typesModule ≠ .error (.anonymous item))
    (husable : ∀ path, generate r typesModule ≠ .error (.unusableModule path))
    (hwritable : ∀ item, generate r typesModule ≠ .error (.unwritable item)) :
    ((∃ e, generate r typesModule = .error e) ↔
      (∃ name, r.IsTypeCulprit name) ∨
      (r.operations.values ≠ [] ∧ ¬IsPathText typesModule) ∨
      ∃ o ∈ r.operations.values, r.IsOperationCulprit o) ∧
    ∀ e, generate r typesModule = .error e → ∃ item reason, e.report? = some (item, reason) ∧
      ((∃ name, r.IsTypeCulprit name) → IsLeast {name | r.IsTypeCulprit name} item) ∧
      ((¬∃ name, r.IsTypeCulprit name) → ¬IsPathText typesModule →
        IsLeast {key | ∃ o ∈ r.operations.values, o.key = key} item) ∧
      ((¬∃ name, r.IsTypeCulprit name) → IsPathText typesModule →
        IsLeast {key | ∃ o ∈ r.operations.values, o.key = key ∧ r.IsOperationCulprit o} item) := by
  have hreported : ∀ e, generate r typesModule = .error e → ∃ report, e.report? = some report := by
    intro e h
    cases e with
    | invalidTarget item target reason => exact ⟨_, rfl⟩
    | invalidModule item path reason => exact ⟨_, rfl⟩
    | anonymous item => exact absurd h (hnamed item)
    | unusableModule path => exact absurd h (husable path)
    | unwritable item => exact absurd h (hwritable item)
  refine ⟨⟨?_, ?_⟩, ?_⟩
  · rintro ⟨e, h⟩
    obtain ⟨report, hreport⟩ := hreported e h
    rcases isLeast_of_generate hnames h hreport with hleast | ⟨-, hleast⟩
    · exact Or.inl ⟨_, hleast.1⟩
    · obtain ⟨o, ho, -, hnopath | hculprit⟩ := hleast.1
      · exact Or.inr (Or.inl ⟨List.ne_nil_of_mem ho, hnopath⟩)
      · exact Or.inr (Or.inr ⟨o, ho, hculprit⟩)
  · intro hculprit
    cases h : generate r typesModule with
    | error e => exact ⟨e, rfl⟩
    | ok code =>
      obtain ⟨htypes, hoperations⟩ := not_isCulprit_of_generate hnames h
      rcases hculprit with ⟨name, hname⟩ | ⟨hsome, hnopath⟩ | ⟨o, ho, hculprit⟩
      · exact absurd hname (htypes name)
      · obtain ⟨o, ho⟩ := List.exists_mem_of_ne_nil _ hsome
        exact absurd (hoperations o ho).1 hnopath
      · exact absurd hculprit (hoperations o ho).2
  · intro e h
    obtain ⟨report, hreport⟩ := hreported e h
    refine ⟨report.1, report.2, hreport, ?_⟩
    rcases isLeast_of_generate hnames h hreport with hleast | ⟨hnone, hleast⟩
    · exact ⟨fun _ => hleast, fun hnone => absurd ⟨_, hleast.1⟩ hnone,
        fun hnone => absurd ⟨_, hleast.1⟩ hnone⟩
    · refine ⟨fun hsome => absurd hsome hnone, fun _ hnopath => ?_, fun _ hpath => ?_⟩
      · simpa [hnopath] using hleast
      · simpa [hpath] using hleast

/-! ## Two faulty registries -/

private theorem isPathText_defaultTypesModule : IsPathText defaultTypesModule :=
  exists_eq_ok_of_isSome (by decide +kernel)

/-- The error of a result that is one. -/
def failure? {ε α : Type} : Except ε α → Option ε
  | .ok _ => none
  | .error e => some e

private theorem eq_error_of_failure? {ε α : Type} {x : Except ε α} {e : ε}
    (h : failure? x = some e) :
    x = .error e := by
  cases x with
  | ok a => cases h
  | error e' => exact congrArg Except.error (Option.some.inj h)

private theorem Target.not_parses_of_isSome {target : Target} {space : Option String}
    (h : (TypeForm.parse (target.source space)).toOption.isSome = false) :
    ¬target.Parses space := by
  rintro ⟨type, htype⟩
  rw [htype] at h
  cases h

/-- A single required field. -/
def singleField (type : TypeExpr) : Fields :=
  .ofList [("value", ⟨"value", type, true⟩)]

/-- An operation with a variant of a parameter that is no type. -/
def getIt : Operation where
  key := "getIt"
  fields := singleField (.union [.named "Chat", .named "A B"])

/-- An operation with a response that is no type. -/
def setIt : Operation where
  key := "setIt"
  returnType := some (.named "A B")

/-- Two operations, inserted against the order of their keys. The types have targets that are no
types as well, but get no definitions. -/
def faultyRegistry : Registry where
  types := .ofList
    [("InputFile", { name := "InputFile", fields := singleField (.named "A B") }),
      ("Peer", { name := "Peer", subtypes := ["Chat"], fields := singleField (.named "A B") })]
  operations := .ofList [("setIt", setIt), ("getIt", getIt)]

private theorem planRequests_faultyRegistry : faultyRegistry.planRequests
    = [faultyRegistry.planRequest getIt, faultyRegistry.planRequest setIt] := by
  rw [Registry.planRequests_eq_map]
  exact congrArg (List.map faultyRegistry.planRequest) (mergeSort_pair (by decide))

/-- The report is about the operation that comes first by key. -/
theorem generate_reports_least_culprit_faultyRegistry :
    (∀ name d, faultyRegistry.types.get? name = some d → d.name = name) ∧
    (∀ item, generate faultyRegistry defaultTypesModule ≠ .error (.anonymous item)) ∧
    (∀ path, generate faultyRegistry defaultTypesModule ≠ .error (.unusableModule path)) ∧
    (∀ item, generate faultyRegistry defaultTypesModule ≠ .error (.unwritable item)) ∧
    (∃ o ∈ faultyRegistry.operations.values, faultyRegistry.IsOperationCulprit o) ∧
    generate faultyRegistry defaultTypesModule
      = .error (.invalidTarget "getIt" "types::A B" "unexpected token") ∧
    IsLeast {key | ∃ o ∈ faultyRegistry.operations.values, o.key = key ∧
      faultyRegistry.IsOperationCulprit o} "getIt" := by
  have hresult : generate faultyRegistry defaultTypesModule
      = .error (.invalidTarget "getIt" "types::A B" "unexpected token") := by
    apply eq_error_of_failure?
    unfold generate
    rw [planRequests_faultyRegistry]
    decide +kernel
  have hnames := Registry.name_eq_of_entries
    (by decide : ∀ entry ∈ faultyRegistry.types.entries, entry.2.name = entry.1)
  have hnamed : ∀ item, generate faultyRegistry defaultTypesModule ≠ .error (.anonymous item) := by
    simp [hresult]
  have husable : ∀ path,
      generate faultyRegistry defaultTypesModule ≠ .error (.unusableModule path) := by
    simp [hresult]
  have hwritable : ∀ item,
      generate faultyRegistry defaultTypesModule ≠ .error (.unwritable item) := by
    simp [hresult]
  obtain ⟨hculprit, hreport⟩ := generate_reports_least_culprit hnames hnamed husable hwritable
  have hnotype : ¬∃ name, faultyRegistry.IsTypeCulprit name := by
    rintro ⟨name, d, hd, hfile, hconcrete, -⟩
    have hmem := Registry.mem_renderableNames_iff.mpr ⟨d, hd, hfile, hconcrete⟩
    have hnone : faultyRegistry.renderableNames = [] := by decide +kernel
    rw [hnone] at hmem
    cases hmem
  obtain ⟨item, reason, hitem, -, -, hleast⟩ := hreport _ hresult
  obtain rfl : "getIt" = item := congrArg Prod.fst (Option.some.inj hitem)
  have hsome := ((hculprit.mp ⟨_, hresult⟩).resolve_left hnotype).resolve_left
    fun h => h.2 isPathText_defaultTypesModule
  exact ⟨hnames, hnamed, husable, hwritable, hsome, hresult,
    hleast hnotype isPathText_defaultTypesModule⟩

/-- An operation with a parameter that is no type. -/
def sendIt : Operation where
  key := "sendIt"
  fields := singleField (.named "A B")

/-- A type with a field whose type is read but not written, and a culprit among the operations. -/
def unwritableRegistry : Registry where
  types := .ofList
    [("Holder", { name := "Holder", fields := singleField (.named "Foo<dyn* A>") })]
  operations := .ofList [("sendIt", sendIt)]

/-- Generation breaks down at the type, though all names are there and the types module can be used,
so the culprit is not reported. -/
theorem not_reported_unwritableRegistry :
    (∀ name d, unwritableRegistry.types.get? name = some d → d.name = name) ∧
    (∀ name ∈ ["Holder", "SendIt", "send_it", "value"],
      (Identifier.ofName name).isAnonymous = false) ∧
    ((PathForm.parse defaultTypesModule).toOption.bind ModulePath.ofPath?).isSome = true ∧
    (∃ o ∈ unwritableRegistry.operations.values, unwritableRegistry.IsOperationCulprit o) ∧
    generate unwritableRegistry defaultTypesModule = .error (.unwritable "Holder") ∧
    (GenerateError.unwritable "Holder").report? = none := by
  have hnames := Registry.name_eq_of_entries
    (by decide : ∀ entry ∈ unwritableRegistry.types.entries, entry.2.name = entry.1)
  have hidentifiers : ∀ name ∈ ["Holder", "SendIt", "send_it", "value"],
      (Identifier.ofName name).isAnonymous = false := by
    decide +kernel
  have hmodule : ((PathForm.parse defaultTypesModule).toOption.bind ModulePath.ofPath?).isSome
      = true := by
    decide +kernel
  have hresult : generate unwritableRegistry defaultTypesModule
      = .error (.unwritable "Holder") :=
    eq_error_of_failure? (by decide +kernel)
  have hfault : ¬(unwritableRegistry.resolve (.named "A B") true).Parses (some typesSpace) :=
    Target.not_parses_of_isSome (by decide +kernel)
  have hfield : ⟨"value", .named "A B", true⟩ ∈ sendIt.fields.values := by decide
  exact ⟨hnames, hidentifiers, hmodule,
    ⟨sendIt, List.mem_singleton_self sendIt, .parameter hfield rfl hfault⟩, hresult, rfl⟩

end BotBindings
