import BotBindings.Registry.Basic

/-!
# Targets

The target of a value is its type in the generated code. Scalars, uploads and chat identifiers have
fixed targets, an object has its own name as target, and a value without a single static type has
the dynamic target, which can hold any JSON value, absence included.

A target is data; `Target.source` writes it down, with the names of generated types qualified by the
namespace they are used from.
-/

namespace BotBindings

/-- A type of the generated code. -/
inductive Target
  | scalar (scalar : Scalar)
  /-- The struct generated for an object. -/
  | object (name : String)
  | inputFile
  | chatId
  | list (element : Target)
  /-- Any JSON value. -/
  | dynamic
  /-- A value that may be absent. -/
  | optional (target : Target)
  /-- A value behind a pointer, so that objects may contain each other. -/
  | boxed (target : Target)
  deriving DecidableEq, Repr

namespace Target

/-- The primitive type of a scalar. -/
def scalarSource : Scalar → String
  | .string => "String"
  | .int64 => "i64"
  | .float64 => "f64"
  | .bool => "bool"

/-- The type of values that have no single static type. -/
def dynamicSource : String := "serde_json::Value"

/-- A name as seen from outside its namespace. -/
def qualify (space : Option String) (name : String) : String :=
  match space with
  | none => name
  | some space => if space.isEmpty then name else space ++ "::" ++ name

/-- The text of a target. -/
def source (space : Option String) : Target → String
  | .scalar s => scalarSource s
  | .object name => qualify space name
  | .inputFile => qualify space inputFileName
  | .chatId => qualify space chatIdName
  | .list element => "Vec<" ++ element.source space ++ ">"
  | .dynamic => dynamicSource
  | .optional target => "Option<" ++ target.source space ++ ">"
  | .boxed target => "Box<" ++ target.source space ++ ">"

end Target

/-- How a generated field represents absence. -/
inductive Presence
  /-- A value is always there. -/
  | required
  /-- The target has an absent value of its own. -/
  | optional
  /-- The value is dynamic and absent when it is null. -/
  | nullable
  deriving DecidableEq, Repr

/-- The presence of a field with the given target. -/
def Presence.of (required : Bool) (target : Target) : Presence :=
  if required then .required
  else match target with
    | .optional _ => .optional
    | _ => .nullable

namespace Registry

/-- The target of a value that is always there. Names of abstract types, names that do not start
with an uppercase letter and unions have no single static type. -/
def resolveRequired (r : Registry) : TypeExpr → Target
  | .named name =>
    if r.isAbstract name then .dynamic
    else if startsUppercase name then .object name
    else .dynamic
  | .inputFile => .inputFile
  | .chatId => .chatId
  | .scalar s => .scalar s
  | .array element => .list (r.resolveRequired element)
  | .union _ => .dynamic

/-- The target of a value. An optional one is wrapped, except that dynamic values represent absence
themselves; an optional object is boxed too, since objects refer to each other through optional
fields. -/
def resolve (r : Registry) (e : TypeExpr) (required : Bool) : Target :=
  let target := r.resolveRequired e
  if required then target
  else match target with
    | .dynamic => .dynamic
    | .object _ => .optional (.boxed target)
    | _ => .optional target

/-- The target of a value whose type may be unknown. -/
def resolve? (r : Registry) (e : Option TypeExpr) (required : Bool) : Target :=
  match e with
  | some e => r.resolve e required
  | none => .dynamic

end Registry

end BotBindings
