import BotBindings.Code.TokenLayout

/-!
# Type forms

The form of a type in generated code, and how it is laid out. A type that is a mere path prints on
one line; the arguments of a path may be spread over several lines.

Constants, parameters and inputs are kept as their layouts, because nothing depends on their form.
-/

namespace BotBindings.Code

mutual

/-- A type. -/
inductive TypeForm
  | path (path : QualifiedPath)
  | tuple (items : List TypeForm)
  | paren (inner : TypeForm)
  | slice (element : TypeForm)
  | array (element : TypeForm) (length : List Doc)
  | pointer (isMutable : Bool) (target : TypeForm)
  | reference (lifetime : Option String) (isMutable : Bool) (target : TypeForm)
  | never
  | infer
  /-- Some type that meets the bounds. -/
  | anyOf (bounds : List Bound)
  /-- A value of any type that meets the bounds; `isOpen` if it was written as a mere bound, without
  a plus sign at its end. -/
  | object (isOpen : Bool) (bounds : List Bound)
  /-- A function; `binder` are the parameters it is given for. -/
  | function (binder : List Doc) (front : String) (inputs : List Doc) (output : Option TypeForm)
  | call (path : String) (delimiter : Delimiter) (tokens : List Token)
  /-- A type that no text is known for. -/
  | unwritable

/-- A path, possibly by way of a type. -/
inductive QualifiedPath
  | plain (path : PathForm)
  /-- A member of a type, possibly by way of a trait: `<T as A>::B`. -/
  | member (owner : TypeForm) (via : Option PathForm) (members : List Segment)

/-- A path. -/
inductive PathForm
  | mk (rooted : Bool) (segments : List Segment)

/-- A name of a path with its arguments. -/
inductive Segment
  | plain (name : String)
  | generic (name : String) (arguments : List Argument)
  | callable (name : String) (inputs : List TypeForm) (output : Option TypeForm)

/-- An argument of a path. -/
inductive Argument
  | lifetime (name : String)
  | type (type : TypeForm)
  | constant (value : List Doc)
  /-- What a member of a trait is: a type or a constant. -/
  | member (segment : Segment) (value : Argument)
  | constraint (segment : Segment) (bounds : List Bound)

/-- A bound. -/
inductive Bound
  | lifetime (name : String)
  | trait (inParens : Bool) (isOptional : Bool) (binder : List Doc) (path : PathForm)
  /-- The names that a type may depend on. -/
  | captures (names : List String)
  /-- A bound that no text is known for. -/
  | unwritable

end

/-- Whether an argument is printed before all others. -/
def Argument.isLifetime : Argument → Bool
  | .lifetime _ => true
  | _ => false

/-- The segments of a path. -/
def PathForm.segments : PathForm → List Segment
  | .mk _ segments => segments

/-- Whether the path starts at the root of all names. -/
def PathForm.rooted : PathForm → Bool
  | .mk rooted _ => rooted

/-- The text of a path without arguments. -/
def PathForm.plainText? (p : PathForm) : Option String :=
  let name? : Segment → Option String
    | .plain name => some name
    | _ => none
  (p.segments.mapM name?).map fun names =>
    (if p.rooted then "::" else "") ++ String.intercalate "::" names

namespace TypeForm

/-- The type that a name stands for. -/
def named (name : String) : TypeForm :=
  .path (.plain (.mk false [.plain name]))

/-- The type that a name with one argument stands for. -/
def applied (name : String) (argument : TypeForm) : TypeForm :=
  .path (.plain (.mk false [.generic name [.type argument]]))

/-! ## Layout -/

open Doc

/-- Documents joined by a text. -/
def joined (separator : String) (docs : List (List Doc)) : List Doc :=
  (docs.intersperse [.word separator]).flatten

/-- A tuple: a single item keeps its comma. -/
def tupleDoc (items : List (List Doc)) : List Doc :=
  match items with
  | [item] => [.word "(", block (cutPoint :: item ++ [.word ",", cutPointBack]), .word ")"]
  | items => [.word "("] ++ commaList items ++ [.word ")"]

/-- Arguments in angle brackets, lifetimes first. A path without arguments has no brackets. -/
def argumentsDoc (front : String) (arguments : List (Bool × List Doc)) : List Doc :=
  if arguments.isEmpty then []
  else
    let (lifetimes, others) := arguments.partition Prod.fst
    [.word front] ++ commaList ((lifetimes ++ others).map Prod.snd) ++ [.word ">"]

/-- The inputs of a trait for functions. The last break is there without any inputs too. -/
def inputsDoc (inputs : List (List Doc)) : List Doc :=
  let separated := (inputs.intersperse [.word ",", space]).flatten
  [.word "(", cutPoint] ++ (if inputs.isEmpty then [] else separated ++ [.gap { before := "," }])

/-- Bounds after what they are about. The line may break before each but the first. -/
def boundsDoc (bounds : List (List Doc)) : List Doc :=
  match bounds with
  | [] => []
  | first :: rest => [.word ": "] ++ first ++ rest.flatMap fun b => [space, .word "+ "] ++ b

/-- What stands before the arguments of a path: in an expression it is set off by colons. -/
def argumentMark (inExpression : Bool) : String :=
  if inExpression then "::<" else "<"

mutual

/-- The layout of a type. -/
def doc : TypeForm → List Doc
  | .path p => qualifiedDoc false p
  | .tuple items => tupleDoc (docs items)
  | .paren inner => .word "(" :: doc inner ++ [.word ")"]
  | .slice element => .word "[" :: doc element ++ [.word "]"]
  | .array element length => .word "[" :: doc element ++ [.word "; "] ++ length ++ [.word "]"]
  | .pointer isMutable target => .word (if isMutable then "*mut " else "*const ") :: doc target
  | .reference lifetime isMutable target =>
    .word "&" :: (match lifetime with
        | some name => [.word (name ++ " ")]
        | none => [])
      ++ (if isMutable then [.word "mut "] else []) ++ doc target
  | .never => [.word "!"]
  | .infer => [.word "_"]
  | .anyOf bounds => .word "impl " :: joined " + " (boundDocs bounds)
  | .object _ bounds => .word "dyn " :: joined " + " (boundDocs bounds)
  | .function binder front inputs output =>
    binder ++ [.word (front ++ "fn(")] ++ inputs ++ [.word ")"] ++ outputDoc output
  | .call name delimiter tokens => callDoc name delimiter tokens
  | .unwritable => [.unwritable]

/-- The layouts of several types. -/
def docs : List TypeForm → List (List Doc)
  | [] => []
  | t :: rest => doc t :: docs rest

/-- The layout of an output. -/
def outputDoc : Option TypeForm → List Doc
  | some t => .word " -> " :: doc t
  | none => []

/-- The layout of a path, as a type or as an expression. -/
def qualifiedDoc (inExpression : Bool) : QualifiedPath → List Doc
  | .plain p => pathDoc inExpression p
  | .member owner via members =>
    [.word "<"] ++ doc owner ++ viaDoc via ++ [.word ">::"]
      ++ joined "::" (segmentDocs inExpression members)

/-- The layout of the trait by way of which a member is named. -/
def viaDoc : Option PathForm → List Doc
  | some p => .word " as " :: pathDoc false p
  | none => []

/-- The layout of a path. -/
def pathDoc (inExpression : Bool) : PathForm → List Doc
  | .mk rooted segments =>
    (if rooted then [.word "::"] else []) ++ joined "::" (segmentDocs inExpression segments)

/-- The layout of a segment. -/
def segmentDoc (inExpression : Bool) : Segment → List Doc
  | .plain name => [.word name]
  | .generic name arguments =>
    .word name :: argumentsDoc (argumentMark inExpression) (argumentDocs arguments)
  | .callable name inputs output =>
    [.word name,
      block (outdent (inputsDoc (docs inputs)) ++ [.word ")"] ++ outputDoc output)]

/-- The layouts of several segments. -/
def segmentDocs (inExpression : Bool) : List Segment → List (List Doc)
  | [] => []
  | s :: rest => segmentDoc inExpression s :: segmentDocs inExpression rest

/-- The layout of an argument. -/
def argumentDoc : Argument → List Doc
  | .lifetime name => [.word name]
  | .type t => doc t
  | .constant value => value
  | .member segment value => segmentDoc false segment ++ [.word " = "] ++ argumentDoc value
  | .constraint segment bounds =>
    segmentDoc false segment ++ [.box indentStep false (boundsDoc (boundDocs bounds))]

/-- The layouts of several arguments, and whether they are lifetimes. -/
def argumentDocs : List Argument → List (Bool × List Doc)
  | [] => []
  | a :: rest => (a.isLifetime, argumentDoc a) :: argumentDocs rest

/-- The layout of a bound. -/
def boundDoc : Bound → List Doc
  | .lifetime name => [.word name]
  | .trait inParens isOptional binder p =>
    (if inParens then [.word "("] else []) ++ binder ++ (if isOptional then [.word "?"] else [])
      ++ pathDoc false p ++ (if inParens then [.word ")"] else [])
  | .captures names => [.word ("use<" ++ String.intercalate ", " names ++ ">")]
  | .unwritable => [.unwritable]

/-- The layouts of several bounds. -/
def boundDocs : List Bound → List (List Doc)
  | [] => []
  | b :: rest => boundDoc b :: boundDocs rest

end

/-! ## The end of a type -/

mutual

/-- Whether the last character of a type is a closing brace. -/
def endsInBrace : TypeForm → Bool
  | .pointer _ target => endsInBrace target
  | .reference _ _ target => endsInBrace target
  | .anyOf bounds => boundsEndInBrace bounds
  | .object _ bounds => boundsEndInBrace bounds
  | .function _ _ _ output => outputEndsInBrace output
  | .call _ delimiter _ => delimiter = .brace
  | _ => false

/-- Whether the last character of an output is a closing brace. -/
def outputEndsInBrace : Option TypeForm → Bool
  | some t => endsInBrace t
  | none => false

/-- Whether the last character of bounds is a closing brace. -/
def boundsEndInBrace : List Bound → Bool
  | [] => false
  | [.trait _ _ _ p] => pathEndsInBrace p
  | [_] => false
  | _ :: rest => boundsEndInBrace rest

/-- Whether the last character of a path is a closing brace. -/
def pathEndsInBrace : PathForm → Bool
  | .mk _ segments => segmentsEndInBrace segments

/-- Whether the last character of segments is a closing brace. -/
def segmentsEndInBrace : List Segment → Bool
  | [] => false
  | [.callable _ _ output] => outputEndsInBrace output
  | [_] => false
  | _ :: rest => segmentsEndInBrace rest

end

end TypeForm

end BotBindings.Code
