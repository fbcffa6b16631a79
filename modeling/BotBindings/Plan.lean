import BotBindings.Registry.FieldOrder
import BotBindings.Registry.FileLeaf
import BotBindings.Registry.Parameter
import BotBindings.Text.Casing

/-!
# Plans

A plan holds what the code of one generated type or request depends on: names in the case of the
generated language, targets, kinds and the fields that take uploads. Types are planned in the order
of their names and requests in the order of their keys, so the plans do not depend on the order of
the reference.
-/

namespace BotBindings

/-- The plan of a field of a generated struct. -/
structure TypeFieldPlan where
  /-- The name in snake case. -/
  name : String
  /-- The name in the interface. -/
  key : String
  /-- What values it takes. -/
  type : TypeExpr
  /-- Whether a value must be given. -/
  required : Bool
  /-- Its type in the generated code. -/
  target : Target

/-- The plan of a generated struct. -/
structure TypePlan where
  /-- The name of the type. -/
  name : String
  /-- The description of the type. -/
  description : String
  /-- Its fields, required ones first. -/
  fields : List TypeFieldPlan

/-- The plan of a parameter of a request. -/
structure ParameterPlan where
  /-- The name in snake case. -/
  name : String
  /-- The name in the interface. -/
  key : String
  /-- What values it takes. -/
  type : TypeExpr
  /-- Whether a value must be given. -/
  required : Bool
  /-- How its value is written. -/
  kind : ValueKind
  /-- Its type in the generated code, unless it is a union. -/
  target : Target
  /-- The variants of a union-typed parameter. -/
  variants : List (List Variant)
  /-- The fields nested in its value that take uploads. -/
  fileLeaves : List FileLeaf

/-- The plan of a request. -/
structure RequestPlan where
  /-- The name of the operation in the interface. -/
  key : String
  /-- The name in pascal case. -/
  name : String
  /-- The name in snake case. -/
  fileStem : String
  /-- The description of the operation. -/
  description : String
  /-- What a call returns. -/
  returnType : Option TypeExpr
  /-- The type of a response. -/
  response : Target
  /-- The subtypes of an abstract return type. -/
  responseVariants : List Target
  /-- The parameters, required ones first. -/
  fields : List ParameterPlan
  /-- The encoders that the parameters need, each once. -/
  encoders : List Encoder

/-- Whether some parameter may hold an upload in a nested field. -/
def RequestPlan.hasMedia (plan : RequestPlan) : Bool :=
  plan.fields.any fun field => !field.fileLeaves.isEmpty

/-- The namespace from which requests refer to the generated types. -/
def typesSpace : String := "types"

namespace Registry

/-- The plan of a field of a generated struct. -/
def planTypeField (r : Registry) (field : FieldDef) : TypeFieldPlan where
  name := Text.snakeCase field.key
  key := field.key
  type := field.type
  required := field.required
  target := r.resolve field.type field.required

/-- The plan of the struct of an object type. -/
def planType (r : Registry) (d : TypeDef) : TypePlan where
  name := d.name
  description := d.description
  fields := d.fields.sorted.map r.planTypeField

/-- The plans of all types that are generated, by name. -/
def planTypes (r : Registry) : List TypePlan :=
  (r.renderableNames.filterMap r.types.get?).map r.planType

/-- The plan of a parameter. -/
def planParameter (r : Registry) (field : FieldDef) : ParameterPlan where
  name := Text.snakeCase field.key
  key := field.key
  type := field.type
  required := field.required
  kind := r.valueKind field.type
  target := r.resolve field.type field.required
  variants := r.variantGroups field.type
  fileLeaves := r.fileLeaves field.type

/-- The subtypes of the return type, if it names an abstract type. -/
def responseSubtypes (r : Registry) (returnType : Option TypeExpr) : List String :=
  match (returnType.bind TypeExpr.typeName?).bind r.types.get? with
  | some d => d.subtypes
  | none => []

/-- The plan of the request for an operation. -/
def planRequest (r : Registry) (operation : Operation) : RequestPlan :=
  let fields := operation.fields.sorted
  let needed := fields.flatMap fun field => r.encoders field.type
  { key := operation.key
    name := Text.pascalCase operation.key
    fileStem := Text.snakeCase operation.key
    description := operation.description
    returnType := operation.returnType
    response := r.resolve? operation.returnType true
    responseVariants :=
      (r.responseSubtypes operation.returnType).map fun name => r.resolve (.named name) true
    fields := fields.map r.planParameter
    encoders := Encoder.all.filter (needed.contains ·) }

/-- The plans of all requests, by key. -/
def planRequests (r : Registry) : List RequestPlan :=
  (r.operations.values.map r.planRequest).mergeSort fun a b => textLe a.key b.key

end Registry

end BotBindings
