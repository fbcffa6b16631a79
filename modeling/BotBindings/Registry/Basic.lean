import BotBindings.OrderedMap
import BotBindings.Text.Uppercase
import BotBindings.TypeExpr.Basic

/-!
# The registry

What the reference documents: object types and operations, each with its fields. Definitions refer
to each other by name only, so a name may be used before its definition, or without one.

A type with subtypes is abstract. It stands for the union of its subtypes and its own fields have no
meaning.
-/

namespace BotBindings

/-- A field of an object or a parameter of an operation. -/
structure FieldDef where
  /-- The field's name in the interface. -/
  key : String
  /-- What values it takes. -/
  type : TypeExpr
  /-- Whether a value must be given. -/
  required : Bool
  deriving DecidableEq, Repr

/-- The fields of one definition, by key. -/
abbrev Fields := OrderedMap FieldDef

/-- An object type. -/
structure TypeDef where
  /-- The name by which type phrases refer to it. -/
  name : String
  /-- The paragraphs that describe it, joined by spaces. -/
  description : String := ""
  /-- The names of the types that an abstract type stands for. -/
  subtypes : List String := []
  /-- The fields of its values. -/
  fields : Fields := ∅

/-- An operation of the interface. -/
structure Operation where
  /-- Its name in the interface. -/
  key : String
  /-- The paragraphs that describe it, joined by spaces. -/
  description : String := ""
  /-- What a call returns, where the description says so in a form that is understood. -/
  returnType : Option TypeExpr := none
  /-- Its parameters. -/
  fields : Fields := ∅

/-- Whether the type stands for the union of its subtypes. -/
def TypeDef.isAbstract (d : TypeDef) : Bool :=
  !d.subtypes.isEmpty

/-- All definitions of a reference. -/
structure Registry where
  /-- The object types, by name. -/
  types : OrderedMap TypeDef := ∅
  /-- The operations, by key. -/
  operations : OrderedMap Operation := ∅

instance : Inhabited Registry := ⟨{}⟩

/-- Whether a name starts with an uppercase letter, the way the names of objects do. -/
def startsUppercase (name : String) : Bool :=
  match name.toList with
  | [] => false
  | c :: _ => Text.isUppercase c

/-- The name of the helper type for uploads. It is never generated from its definition. -/
def inputFileName : String := "InputFile"

/-- The name of the helper type that identifies a chat. -/
def chatIdName : String := "ChatId"

/-- Whether a text comes before another, or is the same, in code point order. -/
def textLe (a b : String) : Bool :=
  decide (a ≤ b)

namespace Registry

/-- Whether `name` is the name of an abstract type. -/
def isAbstract (r : Registry) (name : String) : Bool :=
  (r.types.get? name).any TypeDef.isAbstract

/-- The names of the types that get a definition of their own, sorted. Abstract types are expressed
only through the unions that use them. -/
def renderableNames (r : Registry) : List String :=
  let kept := r.types.entries.filter fun (name, d) => name != inputFileName && !d.isAbstract
  (kept.map Prod.fst).mergeSort textLe

end Registry

end BotBindings
