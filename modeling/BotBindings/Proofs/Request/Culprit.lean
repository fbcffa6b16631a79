import BotBindings.Proofs.Code.Clash
import BotBindings.Proofs.Plan.InsertionOrder
import Mathlib.Order.Bounds.Basic

/-!
# What stops generation

Generation reads targets and the path of the types module, and reports the first that it cannot
read. Types come before requests and each of them in the order of their names, so the report is
about the least name among the culprits. A step that fails with a report is said to blame an item
for a cause; steps are put together along the way in which generation is.
-/

namespace BotBindings

open Code

/-! ## Culprits -/

/-- A target that denotes a type in a namespace. -/
def Target.Parses (target : Target) (space : Option String) : Prop :=
  ∃ type, TypeForm.parse (target.source space) = .ok type

/-- A text that is a path. -/
def IsPathText (text : String) : Prop :=
  ∃ path, PathForm.parse text = .ok path

namespace Registry

/-- The name of a type that gets a definition, of whose fields one has a target that is no type. -/
def IsTypeCulprit (r : Registry) (name : String) : Prop :=
  ∃ d, r.types.get? name = some d ∧ name ≠ inputFileName ∧ d.subtypes = [] ∧
    ∃ field ∈ d.fields.values, ¬(r.resolve field.type field.required).Parses none

/-- An operation with a value whose target is no type. -/
inductive IsOperationCulprit (r : Registry) (o : Operation) : Prop
  /-- A parameter that is no union. -/
  | parameter {field : FieldDef} (hfield : field ∈ o.fields.values)
      (hunion : field.type.isUnion = false)
      (h : ¬(r.resolve field.type field.required).Parses (some typesSpace))
  /-- A variant of a parameter that is a union. -/
  | variant {field : FieldDef} {variant : Variant} (hfield : field ∈ o.fields.values)
      (hunion : field.type.isUnion = true)
      (hvariant : variant ∈ (r.variantGroups field.type).flatten)
      (h : ¬variant.target.Parses (some typesSpace))
  /-- The response, if its type is not abstract. -/
  | response (hconcrete : r.responseSubtypes o.returnType = [])
      (h : ¬(r.resolve? o.returnType true).Parses (some typesSpace))
  /-- A variant of the response, if its type is abstract. -/
  | responseVariant {name : String} (hname : name ∈ r.responseSubtypes o.returnType)
      (h : ¬(r.resolve (.named name) true).Parses (some typesSpace))

end Registry

/-! ## Blame -/

namespace Code

/-- If a step fails with a report, then the report is about `item` and there is the given cause. -/
def Blames {α : Type} (step : Except GenerateError α) (item : String) (cause : Prop) : Prop :=
  ∀ e, step = .error e → ∀ report, e.report? = some report → report.1 = item ∧ cause

section Blame

variable {α β : Type} {item : String} {cause : Prop}

private theorem blames_ok (a : α) : Blames (.ok a) item cause := by
  intro e h
  cases h

private theorem blames_of_report?_eq_none {e : GenerateError} (he : e.report? = none) :
    Blames (.error e : Except GenerateError α) item cause := by
  intro e' h report hreport
  cases h
  rw [he] at hreport
  cases hreport

/-- A sequence of steps blames what each of its steps blames. -/
theorem Blames.bind {x : Except GenerateError α} {f : α → Except GenerateError β}
    (hx : Blames x item cause) (hf : ∀ a, Blames (f a) item cause) :
    Blames (x >>= f) item cause := by
  cases x with
  | error e => exact fun e' h => hx e' (by cases h; rfl)
  | ok a => exact hf a

private theorem Blames.mono {x : Except GenerateError α} {cause' : Prop} (hx : Blames x item cause)
    (hcause : cause → cause') : Blames x item cause' :=
  fun e h report hreport => (hx e h report hreport).imp_right hcause

/-- A list is to blame if a member is. -/
theorem blames_mapM {f : α → Except GenerateError β} {as : List α}
    (h : ∀ a ∈ as, Blames (f a) item cause) : Blames (as.mapM f) item cause := by
  induction as with
  | nil => exact blames_ok []
  | cons a as ih =>
    rw [List.mapM_cons]
    refine (h a List.mem_cons_self).bind fun b => ?_
    exact (ih fun a ha => h a (List.mem_cons_of_mem _ ha)).bind fun bs => blames_ok _

/-- A step for each member of a list blames what the step blames for every member. -/
theorem blames_forM {f : α → Except GenerateError PUnit} {as : List α}
    (h : ∀ a ∈ as, Blames (f a) item cause) : Blames (as.forM f) item cause := by
  induction as with
  | nil => exact blames_ok _
  | cons a as ih =>
    change Blames (f a >>= fun _ => as.forM f) item cause
    exact (h a List.mem_cons_self).bind fun _ => ih fun a ha => h a (List.mem_cons_of_mem _ ha)

/-- A missing name breaks generation down without a report. -/
theorem blames_requireName (item' : String) (name : Identifier) :
    Blames (requireName item' name) item cause := by
  rw [requireName]
  split
  · exact blames_of_report?_eq_none rfl
  · exact blames_ok ()

/-- A text that cannot be laid out breaks generation down without a report. -/
theorem blames_requireText (item' : String) (layouts : List (List Doc)) :
    Blames (requireText item' layouts) item cause := by
  rw [requireText]
  split
  · exact blames_ok ()
  · exact blames_of_report?_eq_none rfl

private theorem blames_readTarget (item : String) (space : Option String) (target : Target) :
    Blames (readTarget item space target) item (¬target.Parses space) := by
  simp only [readTarget]
  split
  · exact blames_ok _
  · rename_i reason hparse
    intro e h report hreport
    cases h
    cases hreport
    refine ⟨rfl, ?_⟩
    rintro ⟨type, htype⟩
    rw [hparse] at htype
    cases htype

end Blame

end Code

/-- The targets of the values of a parameter: those of its variants if it is a union. -/
def ParameterPlan.targets (plan : ParameterPlan) : List Target :=
  if plan.type.isUnion then plan.variants.flatten.map Variant.target else [plan.target]

/-- The targets of a response: those of its variants if there are any. -/
def RequestPlan.responseTargets (plan : RequestPlan) : List Target :=
  if plan.responseVariants.isEmpty then [plan.response] else plan.responseVariants

/-- All targets of a request. -/
def RequestPlan.targets (plan : RequestPlan) : List Target :=
  plan.fields.flatMap ParameterPlan.targets ++ plan.responseTargets

namespace Code

/-! ## Types -/

/-- The struct of a type is refused with a report only for the target of one of its fields. -/
theorem blames_typeItem (plan : TypePlan) :
    Blames (typeItem plan) plan.name (∃ field ∈ plan.fields, ¬field.target.Parses none) := by
  rw [typeItem]
  refine Blames.bind (blames_mapM fun field hfield => ?_) fun _ =>
    (blames_requireName _ _).bind fun _ => blames_ok _
  rw [typeField]
  refine Blames.bind ((blames_readTarget _ none field.target).mono fun h => ⟨field, hfield, h⟩)
    fun _ => blames_ok _

/-- The fields of a struct that was made have targets that denote types. -/
theorem parses_of_typeItem {plan : TypePlan} {item : StructItem} (h : typeItem plan = .ok item) :
    ∀ field ∈ plan.fields, field.target.Parses none := by
  intro field hfield
  obtain ⟨code, hcode, -⟩ := exists_mem_zip_of_mapM (typeItem_eq_ok h).2 hfield
  obtain ⟨type, htype, -⟩ := typeField_eq_ok hcode
  exact ⟨type, htype⟩

/-! ## Requests -/

private theorem blames_enumVariants (item : String) (enumName : Identifier) (taken : List String)
    (wanted : List WantedVariant) :
    Blames (enumVariants item enumName taken wanted) item
      (∃ w ∈ wanted, ¬w.target.Parses (some typesSpace)) := by
  induction wanted generalizing taken with
  | nil => exact blames_ok []
  | cons first wanted ih =>
    have hrest : ∀ candidate, Blames (enumVariants item enumName candidate wanted) item
        (∃ w ∈ first :: wanted, ¬w.target.Parses (some typesSpace)) := by
      intro candidate
      refine (ih candidate).mono ?_
      rintro ⟨w, hw, h⟩
      exact ⟨w, List.mem_cons_of_mem first hw, h⟩
    rw [enumVariants]
    refine Blames.bind ((blames_readTarget _ _ first.target).mono fun h =>
      ⟨first, List.mem_cons_self, h⟩) fun type => ?_
    -- Whether the variant is matched decides only which names have to be there.
    split
    · exact (blames_requireName _ _).bind fun _ => (blames_requireName _ _).bind fun _ =>
        (hrest _).bind fun _ => blames_ok _
    · exact (hrest _).bind fun _ => blames_ok _

private theorem blames_enumItem (item : String) (name : Identifier) (derives : List String)
    (wanted : List WantedVariant) :
    Blames (enumItem item name derives wanted) item
      (∃ w ∈ wanted, ¬w.target.Parses (some typesSpace)) := by
  rw [enumItem]
  exact (blames_enumVariants item name [] wanted).bind fun _ =>
    (blames_requireName _ _).bind fun _ =>
      (blames_forM fun _ _ => blames_requireName _ _).bind fun _ => blames_ok _

private theorem blames_unionParameter (item requestName : String) (plan : ParameterPlan)
    (name : Identifier) :
    Blames (unionParameter item requestName plan name) item
      (∃ variant ∈ plan.variants.flatten, ¬variant.target.Parses (some typesSpace)) := by
  rw [unionParameter]
  refine Blames.bind ((blames_enumItem _ _ _ _).mono ?_) fun _ => blames_ok _
  rintro ⟨w, hw, h⟩
  obtain ⟨variant, hvariant, rfl⟩ := List.mem_map.mp hw
  exact ⟨variant, hvariant, h⟩

private theorem blames_plainParameter (item : String) (plan : ParameterPlan) (name : Identifier) :
    Blames (plainParameter item plan name) item (¬plan.target.Parses (some typesSpace)) := by
  rw [plainParameter]
  exact (blames_readTarget _ _ _).bind fun _ => blames_ok _

private theorem blames_parameter (item requestName : String) (plan : ParameterPlan) :
    Blames (parameter item requestName plan) item
      (∃ target ∈ plan.targets, ¬target.Parses (some typesSpace)) := by
  have hnamed : ∀ code : ParameterCode, Blames (do
      requireName item (Identifier.ofName plan.name)
      pure code) item (∃ target ∈ plan.targets, ¬target.Parses (some typesSpace)) :=
    fun code => (blames_requireName _ _).bind fun _ => blames_ok code
  simp only [parameter]
  cases hunion : plan.type.isUnion with
  | true =>
    refine Blames.bind ((blames_unionParameter _ _ _ _).mono ?_) hnamed
    rintro ⟨variant, hvariant, h⟩
    rw [ParameterPlan.targets, if_pos hunion]
    exact ⟨variant.target, List.mem_map_of_mem hvariant, h⟩
  | false =>
    refine Blames.bind ((blames_plainParameter _ _ _).mono fun h => ?_) hnamed
    rw [ParameterPlan.targets, if_neg (by simp [hunion])]
    exact ⟨plan.target, List.mem_singleton_self _, h⟩

private theorem blames_responseCode (plan : RequestPlan) :
    Blames (responseCode plan) plan.key
      (∃ target ∈ plan.responseTargets, ¬target.Parses (some typesSpace)) := by
  rw [responseCode]
  unfold RequestPlan.responseTargets
  split
  · exact Blames.bind ((blames_readTarget _ _ _).mono fun h => ⟨_, List.mem_singleton_self _, h⟩)
      fun _ => blames_ok _
  · refine Blames.bind ((blames_enumItem _ _ _ _).mono ?_) fun _ => blames_ok _
    rintro ⟨w, hw, h⟩
    obtain ⟨target, htarget, rfl⟩ := List.mem_map.mp hw
    exact ⟨target, htarget, h⟩

/-- The file of a request is refused with a report only for the path of the types module or for one
of its targets. -/
theorem blames_requestFile (typesModule : String) (plan : RequestPlan) :
    Blames (requestFile typesModule plan) plan.key
      (¬IsPathText typesModule ∨ ∃ target ∈ plan.targets, ¬target.Parses (some typesSpace)) := by
  have hparameters : Blames (plan.fields.mapM (parameter plan.key plan.name)) plan.key
      (∃ target ∈ plan.targets, ¬target.Parses (some typesSpace)) := by
    refine blames_mapM fun field hfield => (blames_parameter _ _ field).mono ?_
    rintro ⟨target, htarget, h⟩
    exact ⟨target, List.mem_append_left _ (List.mem_flatMap_of_mem hfield htarget), h⟩
  have hresponse : Blames (responseCode plan) plan.key
      (∃ target ∈ plan.targets, ¬target.Parses (some typesSpace)) := by
    refine (blames_responseCode plan).mono ?_
    rintro ⟨target, htarget, h⟩
    exact ⟨target, List.mem_append_right _ htarget, h⟩
  simp only [requestFile]
  split
  · simp only [pure_bind]
    split
    · exact (hparameters.mono Or.inr).bind fun _ => (hresponse.mono Or.inr).bind fun _ =>
        (blames_requireName _ _).bind fun _ => (blames_requireText _ _).bind fun _ => blames_ok _
    · exact blames_of_report?_eq_none rfl
  · rename_i reason hparse
    intro e h report hreport
    cases h
    cases hreport
    refine ⟨rfl, Or.inl ?_⟩
    rintro ⟨path, hpath⟩
    rw [hparse] at hpath
    cases hpath

private theorem parses_of_enumItem {item : String} {name : Identifier} {derives : List String}
    {wanted : List WantedVariant} {enum : EnumItem}
    (h : enumItem item name derives wanted = .ok enum) :
    ∀ w ∈ wanted, w.target.Parses (some typesSpace) := by
  intro w hw
  obtain ⟨v, hparse, -⟩ := exists_mem_zip_of_forall₂ (enumItem_eq_ok h).2 hw
  exact ⟨v.type, hparse⟩

private theorem parses_of_parameter {item requestName : String} {plan : ParameterPlan}
    {code : ParameterCode} (h : parameter item requestName plan = .ok code) :
    ∀ target ∈ plan.targets, target.Parses (some typesSpace) := by
  have hcode := parameter_eq_ok h
  unfold ParameterPlan.targets
  split at hcode
  · rw [if_pos ‹_›]
    obtain ⟨enum, type, henum, -⟩ := unionParameter_eq_ok hcode
    have hwanted := parses_of_enumItem henum
    rw [wantedVariants, List.forall_mem_map] at hwanted
    exact List.forall_mem_map.mpr hwanted
  · rw [if_neg ‹_›]
    obtain ⟨type, htype, -⟩ := plainParameter_eq_ok hcode
    intro target htarget
    rw [List.mem_singleton.mp htarget]
    exact ⟨type, htype⟩

private theorem parses_of_responseCode {plan : RequestPlan} {code : TypeForm × Option EnumItem}
    (h : responseCode plan = .ok code) :
    ∀ target ∈ plan.responseTargets, target.Parses (some typesSpace) := by
  have hcode := responseCode_eq_ok h
  unfold RequestPlan.responseTargets
  intro target htarget
  split at hcode
  · rw [if_pos ‹_›] at htarget
    rw [List.mem_singleton.mp htarget]
    exact ⟨code.1, hcode.1⟩
  · rw [if_neg ‹_›] at htarget
    obtain ⟨enum, -, henum⟩ := hcode
    exact List.forall_mem_map.mp (parses_of_enumItem henum) target htarget

/-- A request for which there is a file has targets that denote types, and a path to them. -/
theorem parses_of_requestFile {typesModule : String} {plan : RequestPlan} {file : RequestFile}
    (h : requestFile typesModule plan = .ok file) :
    IsPathText typesModule ∧ ∀ target ∈ plan.targets, target.Parses (some typesSpace) := by
  obtain ⟨hpath, parameters, response, hmade⟩ := requestFile_eq_ok h
  refine ⟨hpath, fun target htarget => ?_⟩
  rcases List.mem_append.mp htarget with htarget | htarget
  · obtain ⟨field, hfield, htarget⟩ := List.mem_flatMap.mp htarget
    obtain ⟨code, hcode, -⟩ := exists_mem_zip_of_mapM hmade.parameters_eq hfield
    exact parses_of_parameter hcode target htarget
  · exact parses_of_responseCode hmade.response_eq target htarget

end Code

/-! ## Culprits and plans -/

namespace Registry

/-- The types that are rendered are those that are not abstract, apart from the helper for uploads.
-/
theorem mem_renderableNames_iff {r : Registry} {name : String} :
    name ∈ r.renderableNames
      ↔ ∃ d, r.types.get? name = some d ∧ name ≠ inputFileName ∧ d.subtypes = [] := by
  simp only [SameContent.renderableNames_eq_filter, List.mem_mergeSort, List.mem_filter,
    OrderedMap.mem_keys_iff, Bool.and_eq_true, bne_iff_ne, Bool.not_eq_true']
  constructor
  · rintro ⟨⟨d, hd⟩, hname, hconcrete⟩
    refine ⟨d, hd, hname, ?_⟩
    simpa [isAbstract, hd, TypeDef.isAbstract] using hconcrete
  · rintro ⟨d, hd, hname, hconcrete⟩
    refine ⟨⟨d, hd⟩, hname, ?_⟩
    simp [isAbstract, hd, TypeDef.isAbstract, hconcrete]

/-- The culprits among the types are the names of the plans with a target that is no type. -/
theorem isTypeCulprit_iff {r : Registry}
    (hnames : ∀ name d, r.types.get? name = some d → d.name = name) (name : String) :
    r.IsTypeCulprit name ↔ ∃ plan ∈ r.planTypes, plan.name = name ∧
      ∃ field ∈ plan.fields, ¬field.target.Parses none := by
  have hfields : ∀ d : TypeDef, (∃ field ∈ (r.planType d).fields, ¬field.target.Parses none)
      ↔ ∃ field ∈ d.fields.values, ¬(r.resolve field.type field.required).Parses none := by
    intro d
    simp [planType, planTypeField, Fields.sorted]
  constructor
  · rintro ⟨d, hd, hname, hconcrete, hculprit⟩
    have hmem := mem_renderableNames_iff.mpr ⟨d, hd, hname, hconcrete⟩
    exact ⟨r.planType d, List.mem_map_of_mem (List.mem_filterMap.mpr ⟨name, hmem, hd⟩),
      hnames name d hd, (hfields d).mpr hculprit⟩
  · rintro ⟨plan, hplan, rfl, hculprit⟩
    obtain ⟨d, hd, rfl⟩ := List.mem_map.mp hplan
    obtain ⟨name, hname, hd⟩ := List.mem_filterMap.mp hd
    obtain ⟨d', hd', hfile, hconcrete⟩ := mem_renderableNames_iff.mp hname
    obtain rfl := Option.some.inj (hd.symm.trans hd')
    have hsame : (r.planType d).name = name := hnames name d hd
    rw [hsame]
    exact ⟨d, hd, hfile, hconcrete, (hfields d).mp hculprit⟩

private theorem targets_planParameter (r : Registry) (field : FieldDef) :
    (r.planParameter field).targets
      = if field.type.isUnion then (r.variantGroups field.type).flatten.map Variant.target
        else [r.resolve field.type field.required] :=
  rfl

private theorem responseTargets_planRequest (r : Registry) (o : Operation) :
    (r.planRequest o).responseTargets = match r.responseSubtypes o.returnType with
      | [] => [r.resolve? o.returnType true]
      | names => names.map fun name => r.resolve (.named name) true := by
  rw [RequestPlan.responseTargets, planRequest]
  cases r.responseSubtypes o.returnType <;> rfl

/-- The targets of a request are those of its parameters and those of its response. -/
theorem mem_targets_planRequest_iff {r : Registry} {o : Operation} {target : Target} :
    target ∈ (r.planRequest o).targets ↔
      (∃ field ∈ o.fields.values, target ∈ (r.planParameter field).targets) ∨
      target ∈ (r.planRequest o).responseTargets := by
  have hfields : (r.planRequest o).fields = o.fields.sorted.map r.planParameter := rfl
  rw [RequestPlan.targets, List.mem_append, hfields, List.mem_flatMap]
  simp only [List.mem_map, exists_exists_and_eq_and, Fields.sorted, List.mem_mergeSort]

private theorem exists_target_of_isOperationCulprit {r : Registry} {o : Operation}
    (h : r.IsOperationCulprit o) :
    ∃ target ∈ (r.planRequest o).targets, ¬target.Parses (some typesSpace) := by
  simp only [mem_targets_planRequest_iff]
  cases h with
  | @parameter field hfield hunion h =>
    refine ⟨r.resolve field.type field.required, .inl ⟨field, hfield, ?_⟩, h⟩
    rw [targets_planParameter, if_neg (by simp [hunion])]
    exact List.mem_singleton_self _
  | @variant field variant hfield hunion hvariant h =>
    refine ⟨variant.target, .inl ⟨field, hfield, ?_⟩, h⟩
    rw [targets_planParameter, if_pos hunion]
    exact List.mem_map_of_mem hvariant
  | response hconcrete h =>
    refine ⟨_, .inr ?_, h⟩
    rw [responseTargets_planRequest, hconcrete]
    exact List.mem_singleton_self _
  | @responseVariant name hname h =>
    refine ⟨_, .inr ?_, h⟩
    rw [responseTargets_planRequest]
    split
    · rename_i hnone
      rw [hnone] at hname
      cases hname
    · exact List.mem_map_of_mem hname

private theorem isOperationCulprit_of_target {r : Registry} {o : Operation} {target : Target}
    (htarget : target ∈ (r.planRequest o).targets) (h : ¬target.Parses (some typesSpace)) :
    r.IsOperationCulprit o := by
  rcases mem_targets_planRequest_iff.mp htarget with ⟨field, hfield, htarget⟩ | htarget
  · rw [targets_planParameter] at htarget
    split at htarget
    · rename_i hunion
      obtain ⟨variant, hvariant, rfl⟩ := List.mem_map.mp htarget
      exact .variant hfield hunion hvariant h
    · rename_i hunion
      rw [List.mem_singleton.mp htarget] at h
      exact .parameter hfield (Bool.eq_false_iff.mpr hunion) h
  · rw [responseTargets_planRequest] at htarget
    split at htarget
    · rename_i hconcrete
      rw [List.mem_singleton.mp htarget] at h
      exact .response hconcrete h
    · obtain ⟨name, hname, rfl⟩ := List.mem_map.mp htarget
      exact .responseVariant hname h

/-- The culprits among the operations are those whose plan has a target that is no type. -/
theorem isOperationCulprit_iff (r : Registry) (o : Operation) :
    r.IsOperationCulprit o
      ↔ ∃ target ∈ (r.planRequest o).targets, ¬target.Parses (some typesSpace) := by
  refine ⟨exists_target_of_isOperationCulprit, ?_⟩
  rintro ⟨target, htarget, h⟩
  exact isOperationCulprit_of_target htarget h

end Registry

end BotBindings
