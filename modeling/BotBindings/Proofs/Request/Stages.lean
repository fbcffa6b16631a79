import BotBindings.Code.Generate
import BotBindings.Proofs.Result
import BotBindings.Proofs.Upload.FileLeaves

/-!
# What a generated file is made from

Generation stops at the first thing that is wrong. This file says what is known once it has not
stopped: which parts a parameter, a request and a whole registry were made into. Everything that is
proved about generated files starts from these facts and does not look at the single steps again.
-/

namespace BotBindings

/-- The plans of the requests are those of the operations, sorted by key. -/
theorem Registry.planRequests_eq_map (r : Registry) :
    r.planRequests
      = (r.operations.values.mergeSort fun a b => textLe a.key b.key).map r.planRequest := by
  refine (List.map_mergeSort fun a _ b _ => ?_).symm
  rfl

/-- If no registered type has a field for uploads, then the plan of a request is known without a
walk: no parameter has nested uploads. -/
theorem Registry.planRequest_eq_of_fileLeaves_eq_nil {r : Registry}
    (hplain : ∀ d ∈ r.types.values, d.fileLeaves = []) (o : Operation) :
    r.planRequest o = { r.planRequest o with
      fields := o.fields.sorted.map fun field =>
        { r.planParameter field with fileLeaves := [] } } := by
  have hparameter : ∀ field, r.planParameter field
      = { r.planParameter field with fileLeaves := [] } := fun field =>
    congrArg (fun leaves => { r.planParameter field with fileLeaves := leaves })
      (r.fileLeaves_eq_nil hplain field.type)
  have hfields := List.map_congr_left (l := o.fields.sorted) fun field _ => hparameter field
  exact congrArg (fun fields => { r.planRequest o with fields := fields }) hfields

/-- If no registered type has a field for uploads, then the plans of all requests are known without
a walk. -/
theorem Registry.planRequests_eq_of_fileLeaves_eq_nil {r : Registry}
    (hplain : ∀ d ∈ r.types.values, d.fileLeaves = []) :
    r.planRequests
      = (r.operations.values.mergeSort fun a b => textLe a.key b.key).map fun o =>
        { r.planRequest o with
          fields := o.fields.sorted.map fun field =>
            { r.planParameter field with fileLeaves := [] } } := by
  rw [r.planRequests_eq_map]
  exact List.map_congr_left fun o _ => r.planRequest_eq_of_fileLeaves_eq_nil hplain o

namespace Code

/-! ## Types -/

/-- A target that was read denotes the type that its source parses as. -/
theorem readTarget_eq_ok {item : String} {space : Option String} {target : Target}
    {type : TypeForm} (h : readTarget item space target = .ok type) :
    TypeForm.parse (target.source space) = .ok type := by
  simp only [readTarget] at h
  split at h
  · rename_i t hparse
    rw [hparse, Except.ok.inj h]
  · cases h

/-- A field of a struct has the key and the name of its plan, and the type that its target is
written as. -/
theorem typeField_eq_ok {item : String} {plan : TypeFieldPlan} {field : StructField}
    (h : typeField item plan = .ok field) :
    ∃ type, TypeForm.parse (plan.target.source none) = .ok type ∧
      field = ⟨plan.key, Identifier.ofName plan.name, Presence.of plan.required plan.target,
        type⟩ := by
  simp only [typeField, bind_eq_ok_iff] at h
  obtain ⟨type, htype, h⟩ := h
  exact ⟨type, readTarget_eq_ok htype, (Except.ok.inj h).symm⟩

/-- The struct of a type has the name of its plan and the fields of its plan, in order. -/
theorem typeItem_eq_ok {plan : TypePlan} {item : StructItem} (h : typeItem plan = .ok item) :
    item.name = Identifier.ofName plan.name ∧
      plan.fields.mapM (typeField plan.name) = .ok item.fields := by
  simp only [typeItem, bind_eq_ok_iff] at h
  obtain ⟨fields, hfields, _, -, h⟩ := h
  cases h
  exact ⟨rfl, hfields⟩

/-! ## Parameters -/

/-- The first variant of an enum has the name that is free for it and the type that its target is
written as, and that name is taken for the others. -/
theorem enumVariants_cons_eq_ok {item : String} {enumName : Identifier} {taken : List String}
    {first : WantedVariant} {wanted : List WantedVariant} {variants : List EnumVariant}
    (h : enumVariants item enumName taken (first :: wanted) = .ok variants) :
    ∃ type others, TypeForm.parse (first.target.source (some typesSpace)) = .ok type ∧
      enumVariants item enumName (uniqueName taken first.name :: taken) wanted = .ok others ∧
      variants = ⟨Identifier.ofName (uniqueName taken first.name), type⟩ :: others := by
  simp only [enumVariants, bind_eq_ok_iff] at h
  obtain ⟨type, htype, h⟩ := h
  -- Whether the variant is matched decides only which names have to be there.
  split at h
  · simp only [bind_eq_ok_iff] at h
    obtain ⟨_, -, _, -, others, hothers, h⟩ := h
    exact ⟨type, others, readTarget_eq_ok htype, hothers, (Except.ok.inj h).symm⟩
  · simp only [bind_eq_ok_iff] at h
    obtain ⟨others, hothers, h⟩ := h
    exact ⟨type, others, readTarget_eq_ok htype, hothers, (Except.ok.inj h).symm⟩

/-- The variants of an enum hold values of the types that their targets are written as. -/
theorem enumVariants_eq_ok {item : String} {enumName : Identifier} {taken : List String}
    {wanted : List WantedVariant} {variants : List EnumVariant}
    (h : enumVariants item enumName taken wanted = .ok variants) :
    List.Forall₂ (fun (w : WantedVariant) (v : EnumVariant) =>
      TypeForm.parse (w.target.source (some typesSpace)) = .ok v.type) wanted variants := by
  induction wanted generalizing taken variants with
  | nil =>
    cases h
    exact .nil
  | cons first wanted ih =>
    obtain ⟨type, others, htype, hothers, rfl⟩ := enumVariants_cons_eq_ok h
    exact .cons htype (ih hothers)

/-- An enum has the name that it was given, and variants of the types that are wanted. -/
theorem enumItem_eq_ok {item : String} {name : Identifier} {derives : List String}
    {wanted : List WantedVariant} {enum : EnumItem}
    (h : enumItem item name derives wanted = .ok enum) :
    enum.name = name ∧ List.Forall₂ (fun (w : WantedVariant) (v : EnumVariant) =>
      TypeForm.parse (w.target.source (some typesSpace)) = .ok v.type) wanted enum.variants := by
  simp only [enumItem, bind_eq_ok_iff] at h
  obtain ⟨variants, hvariants, _, -, _, -, h⟩ := h
  cases h
  exact ⟨rfl, enumVariants_eq_ok hvariants⟩

/-- The arm for a variant that is written by what it holds. -/
def ownArm (enumName : Identifier) (key : String) (v : Variant × EnumVariant) : Arm :=
  .variant enumName v.2.name ⟨v.1.kind.encoder, key⟩

/-- The arms of a union are those for such variants and, if there are others, one for these. -/
theorem unionArms_eq (enumName : Identifier) (key : String)
    (variants : List (Variant × EnumVariant)) :
    unionArms enumName key variants
      = (variants.filter fun v => isWrittenAlone v.1.kind).map (ownArm enumName key)
        ++ if ∀ v ∈ variants, isWrittenAlone v.1.kind = true then []
          else [.other ⟨.json, key⟩] := by
  simp only [unionArms, List.partition_eq_filter_filter, List.isEmpty_iff, List.filter_eq_nil_iff,
    Function.comp_apply, Bool.not_eq_true, Bool.not_eq_false']
  rfl

/-- Variants that have no arm of their own are written as JSON. -/
theorem encoder_of_not_writtenAlone {kind : ValueKind} (h : isWrittenAlone kind = false) :
    kind.encoder = .json := by
  cases kind <;> first | rfl | cases h

/-- The variants that the enum of a union is to have. -/
def wantedVariants (plan : ParameterPlan) : List WantedVariant :=
  plan.variants.flatten.map fun v => ⟨variantName v.type, v.target, isWrittenAlone v.kind⟩

/-- The code of a union-typed parameter: a field with the key of the plan, an enum, and arms for the
variants of the enum. -/
theorem unionParameter_eq_ok {item requestName : String} {plan : ParameterPlan}
    {name : Identifier} {code : ParameterCode}
    (h : unionParameter item requestName plan name = .ok code) :
    ∃ enum type, enumItem item (Identifier.ofName (requestName ++ Text.pascalCase plan.name))
        ["Debug", "Clone", "PartialEq", "Serialize"] (wantedVariants plan) = .ok enum ∧
      code = ⟨⟨plan.key, name, if plan.required then .required else .optional, type⟩,
        ⟨name, if plan.required then .required else .optional,
          .cases (unionArms (Identifier.ofName (requestName ++ Text.pascalCase plan.name)) plan.key
            (plan.variants.flatten.zip enum.variants))⟩, some enum⟩ := by
  simp only [unionParameter, bind_eq_ok_iff] at h
  obtain ⟨enum, henum, h⟩ := h
  exact ⟨enum, _, henum, (Except.ok.inj h).symm⟩

/-- There are as many variants as the union has. -/
theorem length_variants_enumItem {item : String} {name : Identifier} {derives : List String}
    {plan : ParameterPlan} {enum : EnumItem}
    (h : enumItem item name derives (wantedVariants plan) = .ok enum) :
    enum.variants.length = plan.variants.flatten.length := by
  have hlength := (enumItem_eq_ok h).2.length_eq
  rwa [wantedVariants, List.length_map, eq_comm] at hlength

/-- The code of any other parameter: a field of the type that its target is written as, and a call
of the encoder for its kind. -/
theorem plainParameter_eq_ok {item : String} {plan : ParameterPlan} {name : Identifier}
    {code : ParameterCode} (h : plainParameter item plan name = .ok code) :
    ∃ type, TypeForm.parse (plan.target.source (some typesSpace)) = .ok type ∧
      code = ⟨⟨plan.key, name, Presence.of plan.required plan.target, type⟩,
        ⟨name, Presence.of plan.required plan.target, .value ⟨plan.kind.encoder, plan.key⟩⟩,
        none⟩ := by
  simp only [plainParameter, bind_eq_ok_iff] at h
  obtain ⟨type, htype, h⟩ := h
  exact ⟨type, readTarget_eq_ok htype, (Except.ok.inj h).symm⟩

/-- A parameter is translated as a union or as a plain one, depending on its type. -/
theorem parameter_eq_ok {item requestName : String} {plan : ParameterPlan} {code : ParameterCode}
    (h : parameter item requestName plan = .ok code) :
    if plan.type.isUnion then
      unionParameter item requestName plan (Identifier.ofName plan.name) = .ok code
    else plainParameter item plan (Identifier.ofName plan.name) = .ok code := by
  simp only [parameter] at h
  cases hunion : plan.type.isUnion with
  | true =>
    rw [if_pos hunion, bind_eq_ok_iff] at h
    obtain ⟨found, hfound, h⟩ := h
    obtain ⟨_, -, h⟩ := bind_eq_ok_iff.mp h
    cases h
    exact hfound
  | false =>
    rw [if_neg (by simp [hunion]), bind_eq_ok_iff] at h
    obtain ⟨found, hfound, h⟩ := h
    obtain ⟨_, -, h⟩ := bind_eq_ok_iff.mp h
    cases h
    exact hfound

/-! ## Requests and registries -/

/-- The variants that the enum of a response is to have. -/
def wantedResponses (plan : RequestPlan) : List WantedVariant :=
  plan.responseVariants.map fun target =>
    ⟨Text.pascalCase (shortName (target.source (some typesSpace))), target, false⟩

/-- A response has the type that its target is written as or, if there are variants, an enum of
them. -/
theorem responseCode_eq_ok {plan : RequestPlan} {code : TypeForm × Option EnumItem}
    (h : responseCode plan = .ok code) :
    if plan.responseVariants.isEmpty then
      TypeForm.parse (plan.response.source (some typesSpace)) = .ok code.1 ∧ code.2 = none
    else ∃ enum, code.2 = some enum ∧
      enumItem plan.key (Identifier.ofName (plan.name ++ "Response"))
        ["Debug", "Clone", "PartialEq", "Deserialize"] (wantedResponses plan) = .ok enum := by
  unfold responseCode at h
  split at h
  · rw [if_pos ‹_›]
    simp only [bind_eq_ok_iff] at h
    obtain ⟨type, htype, h⟩ := h
    cases h
    exact ⟨readTarget_eq_ok htype, rfl⟩
  · rw [if_neg ‹_›]
    simp only [bind_eq_ok_iff] at h
    obtain ⟨enum, henum, h⟩ := h
    cases h
    exact ⟨enum, rfl, henum⟩

/-- The file of a request is made from the code of its parameters, in the order of the plan, and
from that of its response. -/
structure RequestFile.MadeFrom (file : RequestFile) (plan : RequestPlan)
    (parameters : List ParameterCode) (response : TypeForm × Option EnumItem) : Prop where
  /-- There is code for every parameter. -/
  parameters_eq : plan.fields.mapM (parameter plan.key plan.name) = .ok parameters
  /-- There is code for the response. -/
  response_eq : responseCode plan = .ok response
  /-- The request has a name. -/
  named : requireName plan.key (Identifier.ofName plan.name) = .ok ()
  name_eq : file.item.name = Identifier.ofName plan.name
  imports_eq : file.imports = plan.encoders
  fields_eq : file.item.fields = parameters.map ParameterCode.field
  writes_eq : file.writes = parameters.map ParameterCode.write
  /-- The enums of the parameters come first, then that of the response if there is one. -/
  enums_eq : file.enums = parameters.filterMap ParameterCode.enum? ++ response.2.toList

/-- If there is a file for a request, then the text for the types module is a path, and the file was
made from code that there is for every part of the plan. -/
theorem requestFile_eq_ok {typesModule : String} {plan : RequestPlan} {file : RequestFile}
    (h : requestFile typesModule plan = .ok file) :
    (∃ path, PathForm.parse typesModule = .ok path) ∧
      ∃ parameters response, file.MadeFrom plan parameters response := by
  simp only [requestFile] at h
  split at h
  · rename_i path hpath
    simp only [pure_bind] at h
    split at h
    · simp only [bind_eq_ok_iff] at h
      obtain ⟨parameters, hparameters, response, hresponse, _, hname, _, -, h⟩ := h
      cases h
      exact ⟨⟨path, hpath⟩, parameters, response,
        ⟨hparameters, hresponse, hname, rfl, rfl, rfl, rfl, rfl⟩⟩
    · cases h
  · cases h

/-- The generated code of a registry is printed from its structs and from the files of its requests,
in the order of the plans. -/
theorem generate_eq_ok {r : Registry} {typesModule : String} {generated : GeneratedCode}
    (h : generate r typesModule = .ok generated) :
    ∃ items files, r.planTypes.mapM typeItem = .ok items ∧
      r.planRequests.mapM (requestFile typesModule) = .ok files ∧
      generated.types = TypesFile.source ⟨items⟩ ∧
      generated.requests
        = (r.planRequests.zip files).map (fun (plan, file) => ⟨plan.fileStem, file.source⟩) ∧
      generated.requestsMod
        = modulesSource (r.planRequests.map fun plan => Identifier.ofName plan.fileStem) := by
  simp only [generate, bind_eq_ok_iff] at h
  obtain ⟨items, hitems, _, -, files, hfiles, _, -, h⟩ := h
  cases h
  exact ⟨items, files, hitems, hfiles, rfl, rfl, rfl⟩

/-- Each operation of a registry for which code was generated has its file among the requests. -/
theorem exists_requestFile_of_generate {r : Registry} {typesModule : String}
    {generated : GeneratedCode} (h : generate r typesModule = .ok generated) {o : Operation}
    (ho : o ∈ r.operations.values) :
    ∃ file, requestFile typesModule (r.planRequest o) = .ok file ∧
      ⟨(r.planRequest o).fileStem, file.source⟩ ∈ generated.requests := by
  obtain ⟨_, files, -, hfiles, -, hrequests, -⟩ := generate_eq_ok h
  have hplan : r.planRequest o ∈ r.planRequests :=
    List.mem_mergeSort.mpr (List.mem_map_of_mem ho)
  obtain ⟨file, hfile, hmem⟩ := exists_mem_zip_of_mapM hfiles hplan
  rw [hrequests]
  exact ⟨file, hfile, List.mem_map.mpr ⟨_, hmem, rfl⟩⟩

/-- Every request file is named by the snake case of the key of an operation. -/
theorem exists_operation_of_mem_requests {r : Registry} {typesModule : String}
    {generated : GeneratedCode} (h : generate r typesModule = .ok generated)
    {request : GeneratedRequest} (hrequest : request ∈ generated.requests) :
    ∃ o ∈ r.operations.values, request.fileStem = Text.snakeCase o.key := by
  obtain ⟨_, files, -, -, -, hrequests, -⟩ := generate_eq_ok h
  rw [hrequests] at hrequest
  obtain ⟨⟨plan, file⟩, hmem, rfl⟩ := List.mem_map.mp hrequest
  obtain ⟨o, ho, rfl⟩ := List.mem_map.mp (List.mem_mergeSort.mp (List.of_mem_zip hmem).1)
  exact ⟨o, ho, rfl⟩

end Code

end BotBindings
