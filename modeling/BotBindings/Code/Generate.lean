import BotBindings.Code.ItemLayout
import BotBindings.Code.PartReader
import BotBindings.Plan

/-!
# Generating code

The plans of a registry become files: one with all types, one for each request, and one that
declares the request files. A target that is no type stops generation. So does a name without any
character that an identifier can hold, where a name is needed; there is no report about it.
-/

namespace BotBindings

/-- Why no code was generated. -/
inductive GenerateError
  /-- The target of some value of the named type or operation is no type. -/
  | invalidTarget (item target reason : String)
  /-- The types module is no path. -/
  | invalidModule (item path reason : String)
  /-- A name is needed and the identifier is that of no name. -/
  | anonymous (item : String)
  /-- The types module is a path, but not the path of a module. -/
  | unusableModule (path : String)
  /-- A type in a generated file is one that no text is known for. -/
  | unwritable (item : String)
  deriving DecidableEq, Repr

/-- The type or operation that an error is about, and what is wrong with it. Missing names, unusable
modules and missing texts have no report. -/
def GenerateError.report? : GenerateError → Option (String × String)
  | .invalidTarget item target reason =>
    some (item, "invalid type `" ++ target ++ "`: " ++ reason)
  | .invalidModule item path reason =>
    some (item, "invalid types module `" ++ path ++ "`: " ++ reason)
  | .anonymous _ => none
  | .unusableModule _ => none
  | .unwritable _ => none

/-- The text of a report. -/
def renderMessage (item reason : String) : String :=
  "failed to render " ++ item ++ ": " ++ reason

/-- The file of one request. -/
structure GeneratedRequest where
  /-- The name of the file without its extension. -/
  fileStem : String
  /-- The text of the file. -/
  source : String
  deriving DecidableEq, Repr

/-- All generated files. -/
structure GeneratedCode where
  /-- The text of the file of all types. -/
  types : String
  /-- The files of the requests. -/
  requests : List GeneratedRequest
  /-- The text of the file that declares the request files. -/
  requestsMod : String
  deriving DecidableEq, Repr

namespace Code

/-- Stops where an identifier has to name something and does not. -/
def requireName (item : String) (name : Identifier) : Except GenerateError Unit :=
  if name.isAnonymous then .error (.anonymous item) else .ok ()

/-- Stops where a layout has a piece that no text is known for. -/
def requireText (item : String) (layouts : List (List Doc)) : Except GenerateError Unit :=
  if layouts.all Doc.areWritable then .ok () else .error (.unwritable item)

/-- The type that a target denotes. -/
def readTarget (item : String) (space : Option String) (target : Target) :
    Except GenerateError TypeForm :=
  let source := target.source space
  match TypeForm.parse source with
  | .ok t => .ok t
  | .error reason => .error (.invalidTarget item source reason)

/-! ## Types -/

/-- The field of a planned type. -/
def typeField (item : String) (plan : TypeFieldPlan) : Except GenerateError StructField := do
  let type ← readTarget item none plan.target
  let presence := Presence.of plan.required plan.target
  pure ⟨plan.key, Identifier.ofName plan.name, presence, type⟩

/-- The struct of a planned type. -/
def typeItem (plan : TypePlan) : Except GenerateError StructItem := do
  let name := Identifier.ofName plan.name
  let fields ← plan.fields.mapM (typeField plan.name)
  requireName plan.name name
  let derives := ["Debug", "Clone", "PartialEq", "Serialize", "Deserialize"]
  pure ⟨name, plan.description, derives, fields⟩

/-! ## Requests -/

/-- The name of the variant for an alternative. -/
def variantName : TypeExpr → String
  | .scalar .string => "String"
  | .scalar .int64 => "Integer"
  | .scalar .float64 => "Float"
  | .scalar .bool => "Boolean"
  | .named name => Text.pascalCase name
  | .array element => variantName element ++ "List"
  | .inputFile => "InputFile"
  | .chatId => "ChatId"
  | .union _ => "Other"

/-- Whether a variant is written by what it holds and not as a whole. -/
def isWrittenAlone (kind : ValueKind) : Bool :=
  kind.isSimple || kind == .inputFile

/-- A variant that an enum is to have. -/
structure WantedVariant where
  /-- The name wanted for it. -/
  name : String
  /-- The target of what it holds. -/
  target : Target
  /-- Whether an arm of its own matches it, so that it must be possible to refer to it. -/
  matched : Bool

/-- The variants of an enum. A name that is taken is numbered. -/
def enumVariants (item : String) (enumName : Identifier) :
    List String → List WantedVariant → Except GenerateError (List EnumVariant)
  | _, [] => .ok []
  | taken, wanted :: rest => do
    let candidate := uniqueName taken wanted.name
    let name := Identifier.ofName candidate
    let type ← readTarget item (some typesSpace) wanted.target
    if wanted.matched then
      requireName item enumName
      requireName item name
    let others ← enumVariants item enumName (candidate :: taken) rest
    pure (⟨name, type⟩ :: others)

/-- An enum with the wanted variants, all of which have names. -/
def enumItem (item : String) (name : Identifier) (derives : List String)
    (wanted : List WantedVariant) : Except GenerateError EnumItem := do
  let variants ← enumVariants item name [] wanted
  requireName item name
  variants.forM fun v => requireName item v.name
  pure ⟨name, derives, variants⟩

/-- The arms that write a union: one for each variant that is written by what it holds, and one for
all others if there are any. -/
def unionArms (enumName : Identifier) (key : String) (variants : List (Variant × EnumVariant)) :
    List Arm :=
  let (alone, whole) := variants.partition fun (variant, _) => isWrittenAlone variant.kind
  (alone.map fun (variant, named) => .variant enumName named.name ⟨variant.kind.encoder, key⟩)
    ++ if whole.isEmpty then [] else [.other ⟨.json, key⟩]

/-- What a parameter adds to the file of its request. -/
structure ParameterCode where
  /-- The field of the request. -/
  field : StructField
  /-- The statement that writes it. -/
  write : WriteStatement
  /-- The enum of a union. -/
  enum? : Option EnumItem

/-- The code of a union-typed parameter. -/
def unionParameter (item requestName : String) (plan : ParameterPlan) (name : Identifier) :
    Except GenerateError ParameterCode := do
  let enumName := Identifier.ofName (requestName ++ Text.pascalCase plan.name)
  let variants := plan.variants.flatten
  let enum ← enumItem item enumName ["Debug", "Clone", "PartialEq", "Serialize"]
    (variants.map fun v => ⟨variantName v.type, v.target, isWrittenAlone v.kind⟩)
  let presence : Presence := if plan.required then .required else .optional
  let own := TypeForm.named enumName.source
  let type := if plan.required then own else TypeForm.applied "Option" own
  let arms := unionArms enumName plan.key (variants.zip enum.variants)
  pure ⟨⟨plan.key, name, presence, type⟩, ⟨name, presence, .cases arms⟩, some enum⟩

/-- The code of a parameter that is no union. -/
def plainParameter (item : String) (plan : ParameterPlan) (name : Identifier) :
    Except GenerateError ParameterCode := do
  let type ← readTarget item (some typesSpace) plan.target
  let presence := Presence.of plan.required plan.target
  let write : WriteStatement := ⟨name, presence, .value ⟨plan.kind.encoder, plan.key⟩⟩
  pure ⟨⟨plan.key, name, presence, type⟩, write, none⟩

/-- The code of a parameter. The statement that writes it needs the name of its field. -/
def parameter (item requestName : String) (plan : ParameterPlan) :
    Except GenerateError ParameterCode := do
  let name := Identifier.ofName plan.name
  let code ← if plan.type.isUnion then unionParameter item requestName plan name
    else plainParameter item plan name
  requireName item name
  pure code

/-- The part of a qualified name after its last separator. -/
def shortName (name : String) : String :=
  String.ofList ((Text.split "::".toList name.toList).getLastD [])

/-- The type of a response, and the enum for it if the return type is abstract. -/
def responseCode (plan : RequestPlan) : Except GenerateError (TypeForm × Option EnumItem) := do
  if plan.responseVariants.isEmpty then
    let type ← readTarget plan.key (some typesSpace) plan.response
    pure (type, none)
  else
    let name := Identifier.ofName (plan.name ++ "Response")
    let enum ← enumItem plan.key name ["Debug", "Clone", "PartialEq", "Deserialize"]
      (plan.responseVariants.map fun target =>
        ⟨Text.pascalCase (shortName (target.source (some typesSpace))), target, false⟩)
    pure (TypeForm.named name.source, some enum)

/-- The nested fields of all parameters that may carry uploads. -/
def mediaEntries (plan : RequestPlan) : List MediaEntry :=
  plan.fields.flatMap fun field =>
    field.fileLeaves.map fun (name, required) => ⟨field.key, name, required⟩

/-- The file of a planned request. -/
def requestFile (typesModule : String) (plan : RequestPlan) : Except GenerateError RequestFile := do
  let path ← match PathForm.parse typesModule with
    | .ok p => pure p
    | .error reason => throw (.invalidModule plan.key typesModule reason)
  let module ← match ModulePath.ofPath? path with
    | some m => pure m
    | none => throw (.unusableModule typesModule)
  let parameters ← plan.fields.mapM (parameter plan.key plan.name)
  let (response, responseEnum) ← responseCode plan
  let name := Identifier.ofName plan.name
  requireName plan.key name
  let derives := ["Debug", "Clone", "PartialEq", "Serialize"]
  let file : RequestFile := {
    typesModule := module
    imports := plan.encoders
    item := ⟨name, plan.description, derives, parameters.map ParameterCode.field⟩
    enums := parameters.filterMap ParameterCode.enum? ++ responseEnum.toList
    key := plan.key
    response := response
    media := mediaEntries plan
    writes := parameters.map ParameterCode.write }
  requireText plan.key file.layouts
  pure file

end Code

/-- The option that requests find the generated types by, unless it is given. -/
def defaultTypesModule : String := "super::super::types"

/-- The generated code of a registry. -/
def generate (r : Registry) (typesModule : String) : Except GenerateError GeneratedCode := do
  let items ← r.planTypes.mapM Code.typeItem
  items.forM fun item => Code.requireText item.name.source [item.doc]
  let plans := r.planRequests
  let files ← plans.mapM (Code.requestFile typesModule)
  let modules := plans.map fun plan => Code.Identifier.ofName plan.fileStem
  plans.forM fun plan => Code.requireName plan.key (Code.Identifier.ofName plan.fileStem)
  pure {
    types := Code.TypesFile.source ⟨items⟩
    requests := (plans.zip files).map fun (plan, file) => ⟨plan.fileStem, file.source⟩
    requestsMod := Code.modulesSource modules }

end BotBindings
