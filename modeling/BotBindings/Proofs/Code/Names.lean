import BotBindings.Proofs.Code.Numbering
import BotBindings.Proofs.Request.Stages

/-!
# The names of generated definitions

What the structs, enums, fields and variants of a generated file are called, read off the plan that
the file is made from. An enum of a request is named by the request and a suffix of its own, and its
variants are numbered where they would be named alike.
-/

namespace BotBindings.Code

/-- A name is accepted for a definition exactly if it leaves more than an underscore. -/
theorem requireName_eq_ok_iff {item : String} {name : Identifier} :
    requireName item name = .ok () ↔ name.isAnonymous = false := by
  rw [requireName]
  split <;> simp_all

/-! ## Enums -/

/-- The name of an enum with those of its variants. -/
def EnumItem.names (enum : EnumItem) : Identifier × List Identifier :=
  (enum.name, enum.variants.map EnumVariant.name)

/-- The names of an enum, where `wanted` are the names that its variants are to have. -/
def enumNames (name : String) (wanted : List String) : Identifier × List Identifier :=
  (Identifier.ofName name, (numberedNames [] wanted).map Identifier.ofName)

/-- The variants of an enum are named by the wanted names, numbered where they are taken. -/
theorem map_name_enumVariants {item : String} {enumName : Identifier} {taken : List String}
    {wanted : List WantedVariant} {variants : List EnumVariant}
    (h : enumVariants item enumName taken wanted = .ok variants) :
    variants.map EnumVariant.name
      = (numberedNames taken (wanted.map WantedVariant.name)).map Identifier.ofName := by
  induction wanted generalizing taken variants with
  | nil =>
    cases h
    rfl
  | cons first wanted ih =>
    obtain ⟨type, others, -, hothers, rfl⟩ := enumVariants_cons_eq_ok h
    simp [numberedNames, ih hothers]

/-- An enum and its variants have the names that are wanted for them. -/
theorem names_enumItem {item name : String} {derives : List String} {wanted : List WantedVariant}
    {enum : EnumItem} (h : enumItem item (Identifier.ofName name) derives wanted = .ok enum) :
    enum.names = enumNames name (wanted.map WantedVariant.name) := by
  simp only [enumItem, bind_eq_ok_iff] at h
  obtain ⟨variants, hvariants, _, -, _, -, h⟩ := h
  cases h
  rw [EnumItem.names, enumNames, map_name_enumVariants hvariants]

end Code

/-- The names of the enum of a parameter, if it is a union. -/
def ParameterPlan.enumNames? (plan : ParameterPlan) (requestName : String) :
    Option (Code.Identifier × List Code.Identifier) :=
  if plan.type.isUnion then
    some (Code.enumNames (requestName ++ Text.pascalCase plan.name)
      (plan.variants.flatten.map fun variant => Code.variantName variant.type))
  else none

/-- The names of the enum of a response, if its type is abstract. -/
def RequestPlan.responseNames? (plan : RequestPlan) :
    Option (Code.Identifier × List Code.Identifier) :=
  if plan.responseVariants.isEmpty then none
  else some (Code.enumNames (plan.name ++ "Response") (plan.responseVariants.map fun target =>
    Text.pascalCase (Code.shortName (target.source (some typesSpace)))))

namespace Code

/-! ## Definitions of files -/

/-- The struct of a type and its fields have the names of the plan, made into identifiers. -/
theorem typeItem_names {plan : TypePlan} {item : StructItem} (h : typeItem plan = .ok item) :
    item.name = Identifier.ofName plan.name ∧
      item.fields.map StructField.name
        = plan.fields.map fun field => Identifier.ofName field.name := by
  obtain ⟨hname, hfields⟩ := typeItem_eq_ok h
  refine ⟨hname, map_eq_of_mapM hfields fun field code hcode => ?_⟩
  obtain ⟨type, -, rfl⟩ := typeField_eq_ok hcode
  rfl

/-- The field of a parameter is named as the plan has it, and so are its enum and the variants, if
it is a union. -/
theorem parameter_names {item requestName : String} {plan : ParameterPlan} {code : ParameterCode}
    (h : parameter item requestName plan = .ok code) :
    code.field.name = Identifier.ofName plan.name ∧
      code.enum?.map EnumItem.names = plan.enumNames? requestName := by
  have hcode := parameter_eq_ok h
  unfold ParameterPlan.enumNames?
  split at hcode
  · rw [if_pos ‹_›]
    obtain ⟨enum, type, henum, rfl⟩ := unionParameter_eq_ok hcode
    refine ⟨rfl, congrArg some ?_⟩
    rw [names_enumItem henum, wantedVariants, List.map_map]
    rfl
  · rw [if_neg ‹_›]
    obtain ⟨type, -, rfl⟩ := plainParameter_eq_ok hcode
    exact ⟨rfl, rfl⟩

/-- The enum of a response has the names of the plan, if there is one. -/
theorem responseCode_names {plan : RequestPlan} {code : TypeForm × Option EnumItem}
    (h : responseCode plan = .ok code) : code.2.map EnumItem.names = plan.responseNames? := by
  have hcode := responseCode_eq_ok h
  unfold RequestPlan.responseNames?
  split at hcode
  · rw [if_pos ‹_›, hcode.2]
    rfl
  · obtain ⟨enum, hsome, henum⟩ := hcode
    rw [if_neg ‹_›, hsome]
    refine congrArg some ?_
    rw [names_enumItem henum, wantedResponses, List.map_map]
    rfl

/-- What the struct of a request, its fields and the enums beside it are called. -/
theorem requestFile_names {typesModule : String} {plan : RequestPlan} {file : RequestFile}
    (h : requestFile typesModule plan = .ok file) :
    file.item.name = Identifier.ofName plan.name ∧ plan.name ≠ "" ∧
      file.item.fields.map StructField.name
        = plan.fields.map (fun parameter => Identifier.ofName parameter.name) ∧
      file.enums.map EnumItem.names
        = plan.fields.filterMap (fun parameter => parameter.enumNames? plan.name)
          ++ plan.responseNames?.toList := by
  obtain ⟨-, parameters, response, hmade⟩ := requestFile_eq_ok h
  have hnamed := requireName_eq_ok_iff.mp hmade.named
  have hfields := map_eq_of_mapM hmade.parameters_eq fun _ _ hcode => (parameter_names hcode).1
  have henums := filterMap_eq_of_mapM hmade.parameters_eq fun _ _ hcode =>
    (parameter_names hcode).2
  refine ⟨hmade.name_eq, ?_, ?_, ?_⟩
  · intro hempty
    rw [hempty] at hnamed
    revert hnamed
    decide
  · rw [hmade.fields_eq]
    exact List.map_map.trans hfields
  · rw [hmade.enums_eq, List.map_append, List.map_filterMap, henums,
      ← responseCode_names hmade.response_eq]
    cases response.2 <;> rfl

end BotBindings.Code
