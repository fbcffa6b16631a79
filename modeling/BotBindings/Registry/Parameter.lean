import BotBindings.Registry.Target

/-!
# Parameters

How the value of a parameter is written into a request. The kind of a value decides which encoder
writes it. A union-typed parameter is written alternative by alternative: alternatives whose type
alone tells them apart form groups of their own, and all others share one group at the end.
-/

namespace BotBindings

/-- How a single value is written into a request. -/
inductive ValueKind
  | text
  /-- An integer, a floating point number or a truth value. -/
  | scalar
  | chatId
  | object
  | array
  | inputFile
  | dynamic
  deriving DecidableEq, Repr

/-- The encoders of generated requests. -/
inductive Encoder
  | text
  | scalar
  | json
  | file
  deriving DecidableEq, Repr

/-- Every encoder, in the order in which requests import them. -/
def Encoder.all : List Encoder := [.text, .scalar, .json, .file]

/-- No encoder is missing from the list of all encoders. -/
@[simp] theorem Encoder.mem_all (encoder : Encoder) : encoder ∈ Encoder.all := by
  cases encoder <;> decide

/-- The function of the generated code that implements the encoder. -/
def Encoder.functionName : Encoder → String
  | .text => "text"
  | .scalar => "scalar"
  | .json => "json"
  | .file => "file"

namespace ValueKind

/-- Whether values of the kind can be told apart by their type alone. -/
def isSimple : ValueKind → Bool
  | .text | .scalar | .chatId => true
  | .object | .array | .inputFile | .dynamic => false

/-- The encoder that writes values of the kind. -/
def encoder : ValueKind → Encoder
  | .text => .text
  | .scalar | .chatId => .scalar
  | .inputFile => .file
  | .object | .array | .dynamic => .json

end ValueKind

namespace Registry

/-- The kind of the values of a type. -/
def valueKind (r : Registry) : TypeExpr → ValueKind
  | .scalar .string => .text
  | .scalar _ => .scalar
  | .chatId => .chatId
  | .inputFile => .inputFile
  | .array _ => .array
  | .named name => if r.isAbstract name || startsUppercase name then .object else .dynamic
  | .union _ => .dynamic

/-- The encoders that the alternatives of a type need, one for each. -/
def encoders (r : Registry) (e : TypeExpr) : List Encoder :=
  e.alternatives.map fun alternative => (r.valueKind alternative).encoder

end Registry

/-- One alternative of a union-typed parameter. -/
structure Variant where
  /-- The alternative. -/
  type : TypeExpr
  /-- The target of a value of that alternative. -/
  target : Target
  /-- How it is written. -/
  kind : ValueKind
  deriving DecidableEq, Repr

/-- The alternatives of a type, with a chat identifier spelled out as an integer or a string. -/
def TypeExpr.variantTypes (e : TypeExpr) : List TypeExpr :=
  e.alternatives.flatMap fun
    | .chatId => [.scalar .int64, .scalar .string]
    | alternative => [alternative]

namespace Registry

/-- The variant of an alternative. -/
def variant (r : Registry) (e : TypeExpr) : Variant :=
  ⟨e, r.resolve e true, r.valueKind e⟩

/-- The variants of a type in the groups that share a way of being told apart. A type with fewer
than two alternatives has none. -/
def variantGroups (r : Registry) (e : TypeExpr) : List (List Variant) :=
  let variants := e.variantTypes.map r.variant
  if variants.length < 2 then []
  else
    let (simple, structured) := variants.partition (·.kind.isSimple)
    simple.map ([·]) ++ if structured.isEmpty then [] else [structured]

end Registry

end BotBindings
