/-!
# Events

Reading a page is reported by events: which sections were met, which of them repeat a name, and
which operations state no return type.
-/

namespace BotBindings

/-- The weight of an event. -/
inductive Level
  | debug
  | info
  | warn
  deriving DecidableEq, Repr

/-- Something worth reporting. -/
inductive Event
  | typeSection (name : String)
  | operationSection (name : String)
  | repeatedType (name : String)
  | repeatedOperation (name : String)
  | unknownReturnType (key : String)
  | extracted (types operations : Nat)
  deriving DecidableEq, Repr

namespace Event

/-- The weight of the event. -/
def level : Event → Level
  | .typeSection _ | .operationSection _ => .debug
  | .repeatedType _ | .repeatedOperation _ | .unknownReturnType _ => .warn
  | .extracted .. => .info

/-- What happened. -/
def message : Event → String
  | .typeSection _ => "type section"
  | .operationSection _ => "method section"
  | .repeatedType _ => "type documented twice, keeping the first definition"
  | .repeatedOperation _ => "method documented twice, keeping the first definition"
  | .unknownReturnType _ => "no return type found in description"
  | .extracted .. => "extracted schema"

/-- To what it happened, by name. -/
def details : Event → List (String × String)
  | .typeSection name | .operationSection name => [("name", name)]
  | .repeatedType name | .repeatedOperation name => [("name", name)]
  | .unknownReturnType key => [("method", key)]
  | .extracted types operations =>
    [("types", toString types), ("operations", toString operations)]

end Event

end BotBindings
