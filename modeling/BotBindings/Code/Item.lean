import BotBindings.Code.Identifier
import BotBindings.Code.TypeForm
import BotBindings.Registry.FileLeaf
import BotBindings.Registry.Parameter

/-!
# Items of generated code

What the generated files consist of, as data: structs with their fields, enums with their variants,
and for a request the statements that write its parameters into a form. Texts are made of these at
the very end.
-/

namespace BotBindings.Code

/-- A field of a generated struct. -/
structure StructField where
  /-- The name of the field in the interface. -/
  key : String
  /-- Its name in generated code. -/
  name : Identifier
  /-- How it represents absence. -/
  presence : Presence
  /-- Its type. -/
  type : TypeForm

/-- The name to be declared for the serialised form, where it differs from the field's own. -/
def StructField.rename? (f : StructField) : Option String :=
  if f.name.serialName = f.key then none else some f.key

/-- A generated struct. -/
structure StructItem where
  /-- Its name. -/
  name : Identifier
  /-- What is said about it. -/
  description : String
  /-- The traits derived for it. -/
  derives : List String
  /-- Its fields. -/
  fields : List StructField

/-- A variant of a generated enum. -/
structure EnumVariant where
  /-- Its name. -/
  name : Identifier
  /-- The type of what it holds. -/
  type : TypeForm

/-- A generated enum. Its serialised form is that of what the variant holds. -/
structure EnumItem where
  /-- Its name. -/
  name : Identifier
  /-- The traits derived for it. -/
  derives : List String
  /-- Its variants. -/
  variants : List EnumVariant

/-- A call of an encoder. -/
structure EncoderCall where
  /-- The encoder. -/
  encoder : Encoder
  /-- The key under which the value is written. -/
  key : String
  deriving DecidableEq, Repr

/-- One way of writing a union. -/
inductive Arm
  /-- Writes what a variant of the enum holds. -/
  | variant (enumName name : Identifier) (call : EncoderCall)
  /-- Writes the enum itself. -/
  | other (call : EncoderCall)
  deriving DecidableEq, Repr

/-- How the value of a field is written. -/
inductive Encoding
  | value (call : EncoderCall)
  /-- By the variant that it is. -/
  | cases (arms : List Arm)
  deriving DecidableEq, Repr

/-- The statement that writes a field into a form. -/
structure WriteStatement where
  /-- The field. -/
  field : Identifier
  /-- How the field represents absence. An absent value is not written. -/
  presence : Presence
  /-- How the value is written. -/
  encoding : Encoding
  deriving DecidableEq, Repr

/-- A field nested in a parameter that may carry an upload. -/
structure MediaEntry where
  /-- The key of the parameter. -/
  parameter : String
  /-- The key of the nested field. -/
  name : String
  /-- Whether it is required. -/
  required : Bool
  deriving DecidableEq, Repr

/-- The module that a request finds the generated types in. -/
structure ModulePath where
  /-- Whether the path starts at the root of all names. -/
  rooted : Bool
  /-- The names of the path. -/
  names : List String
  deriving DecidableEq, Repr

/-- The module that a path names. A path with arguments names none, and neither does one that goes
through the type being defined. -/
def ModulePath.ofPath? (p : PathForm) : Option ModulePath :=
  let name? : Segment → Option String
    | .plain name => if name = "Self" then none else some name
    | _ => none
  (p.segments.mapM name?).map fun names => ⟨p.rooted, names⟩

/-- The file of a request. -/
structure RequestFile where
  /-- Where the generated types are. -/
  typesModule : ModulePath
  /-- The encoders it imports. -/
  imports : List Encoder
  /-- The struct of the request. -/
  item : StructItem
  /-- The enums of its unions. -/
  enums : List EnumItem
  /-- The name of the operation in the interface. -/
  key : String
  /-- The type of a response. -/
  response : TypeForm
  /-- The nested fields that may carry uploads. -/
  media : List MediaEntry
  /-- The statements that write the parameters. -/
  writes : List WriteStatement

/-- The file of all types. -/
structure TypesFile where
  /-- The structs. -/
  items : List StructItem

/-- The calls that an encoding makes. -/
def Encoding.calls : Encoding → List EncoderCall
  | .value call => [call]
  | .cases arms => arms.map fun
    | .variant _ _ call => call
    | .other call => call

end BotBindings.Code
