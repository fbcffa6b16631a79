import BotBindings.Code.Statement

/-!
# Declarations

How declarations are laid out that stand among statements: functions, types, traits and their
members, constants, imports and modules. Each ends its last line.
-/

namespace BotBindings.Code

open Doc

/-! ## Parameters and conditions -/

/-- A parameter of a declaration. -/
structure Parameter where
  /-- Whether it is a lifetime. Lifetimes come first. -/
  isLifetime : Bool
  /-- Its layout. -/
  doc : List Doc

/-- What a declaration is given for. -/
structure Generics where
  /-- The parameters, if there are angle brackets. -/
  parameters : Option (List Parameter) := none
  /-- The conditions on them, if there is a word for conditions. -/
  conditions : Option (List (List Doc)) := none

namespace Generics

/-- Whether a declaration is given for nothing in particular. -/
def isAbsent (g : Generics) : Bool :=
  g.parameters.isNone && g.conditions.isNone

/-- The layout of the parameters. -/
def doc (g : Generics) : List Doc :=
  let (lifetimes, others) := (g.parameters.getD []).partition Parameter.isLifetime
  let docs := (lifetimes ++ others).map Parameter.doc
  if docs.isEmpty then []
  else
    [.word "<", .box 0 true (cutPoint :: (docs.intersperse [.word ",", space]).flatten
      ++ [trailingComma]), .word ">"]

/-- The layout of conditions on lines of their own. -/
def conditionLines (conditions : List (List Doc)) (last : List Doc) : List Doc :=
  [newlineBack, .word "where", newline]
    ++ (conditions.intersperse [.word ",", newline]).flatten ++ last

/-- The layout of the conditions before a brace. -/
def beforeBody (g : Generics) : List Doc :=
  match g.conditions.getD [] with
  | [] => [.word " "]
  | conditions => conditionLines conditions [.word ",", newlineBack]

/-- The layout of the conditions at the end of a declaration. -/
def beforeEnd (g : Generics) : List Doc :=
  match g.conditions.getD [] with
  | [] => [.word ";"]
  | conditions => conditionLines conditions [.word ";"]

/-- The layout of conditions that stand on one line if they fit. -/
def conditionList (conditions : List (List Doc)) (last : List Doc) : List Doc :=
  [.gap { blanks := 1, shift := -indentStep }, .word "where", space]
    ++ (conditions.intersperse [.word ",", space]).flatten ++ last

/-- The layout of the conditions before an equals sign. -/
def beforeValue (g : Generics) : List Doc :=
  match g.conditions.getD [] with
  | [] => [.word " "]
  | conditions =>
    conditionList conditions [.gap { blanks := 1, shift := -indentStep, before := "," }]

/-- The layout of the conditions after a value. -/
def afterValue (g : Generics) : List Doc :=
  match g.conditions.getD [] with
  | [] => [.word ";"]
  | conditions => conditionList conditions [.word ";"]

end Generics

/-- The layout of a condition on what stands before the colon. -/
def conditionOn (subject : List Doc) (bounds : List (List Doc)) (indent : Int) : List Doc :=
  let content : List Doc := match bounds with
    | [] => []
    | first :: rest => [.word " "] ++ first ++ rest.flatMap fun b => [space, .word "+ "] ++ b
  subject ++ [.word ":", .box indent false content]

/-- The layout of bounds on one line. -/
def boundsInLine (bounds : List (List Doc)) : List Doc :=
  match bounds with
  | [] => []
  | bounds => .word ": " :: (bounds.intersperse [.word " + "]).flatten

/-! ## Functions -/

/-- What a function is to its callers. -/
structure Signature where
  /-- The words before its name, and the name. -/
  front : String
  /-- What it is given for. -/
  generics : Generics
  /-- Its inputs. -/
  inputs : List (List Doc)
  /-- What stands for all further inputs. -/
  rest : Option (List Doc)
  /-- Its output. -/
  output : Option TypeForm

/-- The layout of a signature, without its conditions. -/
def Signature.doc (s : Signature) : List Doc :=
  let inputs : List Doc := match s.rest with
    | some rest => (s.inputs.flatMap fun i => i ++ [.word ",", space]) ++ rest ++ [cutPointBack]
    | none =>
      if s.inputs.isEmpty then []
      else (s.inputs.intersperse [.word ",", space]).flatten ++ [trailingComma]
  [.word s.front] ++ s.generics.doc
    ++ [.word "(", joint, .box 0 true (cutPoint :: inputs), .word ")",
      .box (-indentStep) true (TypeForm.outputDoc s.output)]

namespace Declaration

/-- A declaration with its content in braces. -/
def braced (head content : List Doc) : List Doc :=
  [block (head ++ [.word "\x7b"] ++ outdent (newlineBetween :: content)), .word "\x7d", newline]

/-- The layout of a function. -/
def function (front : String) (s : Signature) (body : Block) : List Doc :=
  braced ([.word front] ++ s.doc ++ s.generics.beforeBody) (body.inner ++ body.lines)

/-- The layout of a function without a body. -/
def functionHead (front : String) (s : Signature) : List Doc :=
  [block ([.word front] ++ s.doc ++ s.generics.beforeEnd), newline]

/-! ## Values and types -/

/-- The layout of a constant or a variable; `front` ends in its name. -/
def value (front : String) (generics : List Doc) (type : TypeForm) (e : Option Expression) :
    List Doc :=
  let value : List Doc := match e with
    | some e => [.word " = ", joint] ++ e.doc (.whole false)
    | none => []
  [.box 0 true ([.word front] ++ generics ++ [.word ": "] ++ type.doc ++ value ++ [.word ";"]),
    newline]

/-- A type after an equals sign. -/
def definition (type : TypeForm) : List Doc :=
  [.word "= ", joint, .box (-indentStep) false type.doc]

/-- The layout of a name for a type. -/
def typeAlias (front : String) (g : Generics) (type : TypeForm) : List Doc :=
  [block ([.word front] ++ g.doc ++ g.beforeValue ++ definition type ++ [.word ";"]), newline]

/-- The layout of a type that belongs to a type or a trait. -/
def memberType (front : String) (g : Generics) (bounds : List (List Doc)) (type : Option TypeForm) :
    List Doc :=
  let value : List Doc := match type with
    | some t => .word " " :: definition t
    | none => []
  [block ([.word front] ++ g.doc ++ TypeForm.boundsDoc bounds ++ value ++ g.afterValue), newline]

/-! ## Data -/

/-- The layout of fields, each on a line of its own. -/
def fieldLines (fields : List (List Doc)) : List Doc :=
  fields.flatMap fun f => f ++ [.word ",", newline]

/-- The layout of a record. -/
def record (front : String) (g : Generics) (fields : List (List Doc)) : List Doc :=
  braced ([.word front] ++ g.doc ++ g.beforeBody) (fieldLines fields)

/-- The layout of fields without names. -/
def unnamedFields (fields : List (List Doc)) : List Doc :=
  [.word "("] ++ commaList fields ++ [.word ")"]

/-- The layout of a record whose fields have no names, or that has none. -/
def tuple (front : String) (g : Generics) (fields : Option (List (List Doc))) : List Doc :=
  let content : List Doc := match fields with
    | some fields => unnamedFields fields
    | none => []
  [block ([.word front] ++ g.doc ++ content ++ g.beforeEnd), newline]

/-- The layout of the fields of a variant. -/
def variantFields (fields : List (List Doc)) : List Doc :=
  [.word " \x7b", block (outdent (fieldList fields none)), .word "\x7d"]

/-! ## Traits -/

/-- The layout of a trait. -/
def trait (front : String) (g : Generics) (bounds : List (List Doc)) (content : List Doc) :
    List Doc :=
  braced ([.word front] ++ g.doc ++ boundsInLine bounds ++ g.beforeBody) content

/-- The layout of a name for traits. -/
def traitAlias (front : String) (g : Generics) (bounds : List (List Doc)) : List Doc :=
  [block ([.word front] ++ g.doc ++ [.word " = ", joint]
    ++ (bounds.intersperse [space, .word "+ "]).flatten ++ g.beforeEnd), newline]

/-- The layout of what a type has, possibly for a trait. -/
def implementation (front : String) (g : Generics) (trait : Option (List Doc)) (type : TypeForm)
    (content : List Doc) : List Doc :=
  let via : List Doc := match trait with
    | some path => path ++ [space, .word "for "]
    | none => []
  braced
    ([.box (-indentStep) false
      ([block ([.word front] ++ g.doc), .word " "] ++ via ++ type.doc)] ++ g.beforeBody) content

/-! ## Imports -/

/-- What is imported. -/
structure Import where
  /-- Its layout. -/
  doc : List Doc
  /-- Whether it ends in braces where it is read. -/
  isGroup : Bool := false
  /-- Whether it is what the braces around it belong to. -/
  isOwner : Bool := false

/-- The layouts of imports, each after the first on the same line unless the one before it ends in
braces. -/
def Import.separated : List Import → List Doc
  | [] => []
  | [last] => last.doc
  | first :: rest =>
    first.doc ++ [.word ",", if first.isGroup then newline else space] ++ separated rest

/-- Several imports in braces. A single one is written without them, unless it is what they belong
to. -/
def Import.group : List Import → Import
  | [⟨doc, _, false⟩] => { doc, isGroup := true }
  | imports =>
    { doc := [.word "\x7b", block [cutPoint, .box 0 false (separated imports), trailingComma],
        .word "\x7d"]
      isGroup := true }

/-- The layout of one line. -/
def line (content : List Doc) : List Doc :=
  content ++ [.word ";", newline]

end Declaration

end BotBindings.Code
