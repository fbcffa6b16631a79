import BotBindings.Registry.Basic

/-!
# The order of fields

Generated definitions list required fields first and then go by key, whatever the order of the
reference.
-/

namespace BotBindings

/-- Required comes before optional; among equals the smaller key comes first. -/
def fieldOrder (a b : Bool × String) : Ordering :=
  (compare b.1 a.1).then (compare a.2 b.2)

/-- What the order of a field depends on. -/
def FieldDef.rank (f : FieldDef) : Bool × String :=
  (f.required, f.key)

/-- Whether a pair does not come after another one. -/
def fieldLe (a b : Bool × String) : Bool :=
  (fieldOrder a b).isLE

/-- The fields in the order of generated definitions. -/
def Fields.sorted (fields : Fields) : List FieldDef :=
  fields.values.mergeSort fun a b => fieldLe a.rank b.rank

end BotBindings
