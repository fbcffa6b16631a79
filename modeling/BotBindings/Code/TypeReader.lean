import BotBindings.Code.AttributeLayout
import BotBindings.Code.Reader

/-!
# Reading types

Readers for types, for paths and their arguments, for bounds, and for attributes.
-/

namespace BotBindings.Code

namespace Reader

open Doc

/-! ## Attributes -/

/-- Reads a path without arguments. -/
def plainPath : Reader String := do
  let root := if ← mark? "::" then "::" else ""
  let name? : Reader (Option String) := do
    let tokens ← rest
    if startsIdentifier tokens || startsAnyWord ["super", "self", "Self", "crate"] tokens then
      some <$> anyIdentifier
    else pure none
  match ← name? with
  | none => identifier
  | some first =>
    let others ← repeated do
      if ← mark? "::" then
        match ← name? with
        | some name => pure (some name)
        | none => fail "expected path segment after `::`"
      else pure none
    pure (root ++ String.intercalate "::" (first :: others))

/-- The layout of a literal by itself. -/
def literalDocs (text : String) : List Doc :=
  if Literal.kind text = .fault then [.unwritable] else [.word text]

/-- Reads the value of an attribute. -/
def attributeValue (read : PartReader) (place : AttributePlace) (path : String) :
    Reader (List Doc) := do
  let tokens ← rest
  match (literalAt tokens).filter fun (_, after) => after.isEmpty with
  | some (text, after) =>
    goTo after
    match commentOf place path text with
    | some comment => pure comment
    | none => pure (attributeDoc place (.word (path ++ " = ") :: literalDocs text))
  | none =>
    if startsMark "#" tokens && startsGroup .bracket (afterOne tokens) then
      fail "unexpected attribute inside of attribute"
    else
      let e ← read.expression true
      pure (attributeDoc place (.word (path ++ " = ") :: e.doc (.whole false)))

/-- Reads the content of an attribute. -/
def attributeContent (read : PartReader) (place : AttributePlace) : Reader (List Doc) := do
  let path ← if ← word? "unsafe" then pure "unsafe" else plainPath
  match ← rest with
  | .group delimiter tokens :: _ =>
    skip 1
    pure (attributeDoc place (listDoc path delimiter tokens))
  | _ =>
    if ← mark? "=" then attributeValue read place path
    else pure (attributeDoc place [.word path])

/-- Reads the attributes before something. -/
def attributes (read : PartReader) : Reader (List Doc) := do
  let found ← repeated do
    if ← mark? "#" then some <$> group .bracket (attributeContent read .outside) else pure none
  pure found.flatten

/-- Reads the attributes at the start of the content of something. -/
def innerAttributes (read : PartReader) : Reader (List Doc) := do
  let found ← repeated do
    let tokens ← rest
    if startsMark "#" tokens && startsMark "!" (afterOne tokens) then
      skip 2
      some <$> group .bracket (attributeContent read .inside)
    else pure none
  pure found.flatten

/-! ## Blocks and constants -/

/-- Reads a block in braces. Only some blocks can have attributes inside. -/
def block (read : PartReader) (hasAttributes : Bool) : Reader Block :=
  group .brace do
    let inner ← if hasAttributes then innerAttributes read else pure []
    pure (Block.ofStatements inner (← read.statements))

/-- The literal expression of a text. -/
def literalExpression (text : String) : Expression :=
  if Literal.kind text = .fault then Expression.unwritable else Expression.literal text

/-- Whether the tokens start a constant that is no name. -/
def startsConstant (tokens : List Token) : Bool :=
  (literalAt tokens).isSome || startsGroup .brace tokens

/-- Reads a constant: a literal, a name or a block. -/
def constant (read : PartReader) : Reader Expression := do
  match literalAt (← rest) with
  | some (text, after) =>
    goTo after
    pure (literalExpression text)
  | none =>
    if startsIdentifier (← rest) then Expression.named <$> identifier
    else if startsGroup .brace (← rest) then
      Expression.ofBlock (.plain none) <$> block read true
    else failExpecting []

/-! ## Paths -/

/-- What is wrong where no type starts. -/
def notAType : List String :=
  ["`for`", "parentheses", "`fn`", "`unsafe`", "`extern`", "identifier", "`::`", "`<`", "`dyn`",
   "square brackets", "`*`", "`&`", "`!`", "`impl`", "`_`", "lifetime"]

/-- What is wrong where no type starts that can have parameters. -/
def notAQuantifiedType : List String :=
  ["identifier", "`fn`", "`unsafe`", "`extern`", "`super`", "`self`", "`Self`", "`crate`"]

/-- Whether the tokens start a path with a name. -/
def startsPath (tokens : List Token) : Bool :=
  startsIdentifier tokens || startsAnyWord ["super", "self", "Self", "crate"] tokens

/-- Whether the tokens go on with a bracketed list of types after colons or without them. -/
def startsInputs (tokens : List Token) : Bool :=
  startsGroup .parenthesis tokens
    || (startsMark "::" tokens && startsGroup .parenthesis (tokens.drop 2))

/-- Whether a path has no arguments. -/
def isPlain (p : PathForm) : Bool :=
  p.plainText?.isSome

/-- Reads an output, if there is one. -/
def output (read : PartReader) : Reader (Option TypeForm) := do
  if ← mark? "->" then some <$> read.type false else pure none

/-- Reads arguments in angle brackets. -/
def angleArguments (argument : Reader Argument) : Reader (List Argument) := do
  mark "<"
  let arguments ← angleItems argument
  mark ">"
  pure arguments

/-- Whether the tokens go on with a comma or a closing angle bracket. -/
def endsArgument (tokens : List Token) : Bool :=
  startsMark "," tokens || startsMark ">" tokens

/-- Reads what follows the name that an argument starts with: its value or its bounds. -/
def afterArgumentName (read : PartReader) (segment : Segment) : Reader Argument := do
  if ← mark? "=" then
    if startsConstant (← rest) then
      pure (.member segment (.constant ((← constant read).doc (.whole false))))
    else pure (.member segment (.type (← read.type true)))
  else if ← mark? ":" then
    pure (.constraint segment (← sum endsArgument (read.bound false true)))
  else pure (.type (.path (.plain (.mk false [segment]))))

/-- Reads an argument. -/
def argument (read : PartReader) : Reader Argument := do
  let tokens ← rest
  if startsLifetime tokens && !startsMark "+" (afterOne tokens) then .lifetime <$> lifetime
  else if startsConstant tokens then
    pure (.constant ((← constant read).doc (.whole false)))
  else
    match ← read.type true with
    | .path (.plain (.mk false [segment])) => afterArgumentName read segment
    | t => pure (.type t)

/-- Reads a segment of a path. In an expression its arguments have colons before them. -/
def segment (read : PartReader) (inExpression : Bool) : Reader Segment := do
  let tokens ← rest
  if startsAnyWord ["super", "self", "crate", "try"] tokens then .plain <$> anyIdentifier
  else
    let name ← if startsWord "Self" tokens then anyIdentifier else identifier
    let tokens ← rest
    let opens := startsMark "<" tokens && !startsMark "<=" tokens && !startsMark "<<=" tokens
    if (!inExpression && opens) || (startsMark "::" tokens && startsMark "<" (tokens.drop 2)) then
      discard <| mark? "::"
      pure (.generic name (← angleArguments (argument read)))
    else pure (.plain name)

/-- Reads a path. -/
def path (read : PartReader) (inExpression : Bool) : Reader PathForm := do
  let rooted ← mark? "::"
  let first ← segment read inExpression
  let others ← repeated do
    let tokens ← rest
    if startsMark "::" tokens && !startsGroup .parenthesis (tokens.drop 2) then
      skip 2
      some <$> segment read inExpression
    else pure none
  pure (.mk rooted (first :: others))

/-- Reads a path that may start with a type. -/
def qualifiedPath (read : PartReader) (inExpression : Bool) : Reader QualifiedPath := do
  if ← mark? "<" then
    let owner ← read.type true
    let via ← if ← word? "as" then some <$> read.path false else pure none
    mark ">"
    mark "::"
    let first ← segment read inExpression
    let others ← repeated do
      if ← mark? "::" then some <$> segment read inExpression else pure none
    pure (.member owner via (first :: others))
  else .plain <$> read.path inExpression

/-! ## Parameters and bounds -/

/-- The layout of a parameter that is a type. -/
def typeParameterDoc (name : String) (bounds : List Bound) (usual : Option TypeForm) : List Doc :=
  let value : List Doc := match usual with
    | some t => [space, .word "= "] ++ t.doc
    | none => []
  [.word name, .box indentStep false (TypeForm.boundsDoc (TypeForm.boundDocs bounds) ++ value)]

/-- Reads a parameter that is a type. -/
def typeParameter (read : PartReader) : Reader (List Doc) := do
  let name ← identifier
  let stops (tokens : List Token) : Bool :=
    tokens.isEmpty || endsArgument tokens || startsMark "=" tokens
  let bounds ← if ← mark? ":" then sum stops (read.bound false true) else pure []
  let usual ← if ← mark? "=" then some <$> read.type true else pure none
  pure (typeParameterDoc name bounds usual)

/-- Reads a parameter that is a lifetime. -/
def lifetimeParameter : Reader (List Doc) := do
  let name ← lifetime
  let stops (tokens : List Token) : Bool := tokens.isEmpty || endsArgument tokens
  let bounds ← if ← mark? ":" then sum stops lifetime else pure []
  let above := if bounds.isEmpty then "" else ": " ++ String.intercalate " + " bounds
  pure [.word (name ++ above)]

/-- Reads a parameter that is a constant. -/
def constantParameter (read : PartReader) : Reader (List Doc) := do
  word "const"
  let name ← identifier
  mark ":"
  let type ← read.type true
  let usual : List Doc ←
    if ← mark? "=" then pure (.word " = " :: (← constant read).doc (.whole false)) else pure []
  pure ([.word ("const " ++ name ++ ": ")] ++ type.doc ++ usual)

/-- Reads a parameter that a form is given for. -/
def genericParameter (read : PartReader) : Reader (List Doc) := do
  let attributes ← attributes read
  let tokens ← rest
  if startsIdentifier tokens then return attributes ++ (← typeParameter read)
  else if startsLifetime tokens then return attributes ++ (← lifetimeParameter)
  else if startsWord "const" tokens then return attributes ++ (← constantParameter read)
  else failExpecting ["identifier", "lifetime", "`const`"]

/-- Reads the parameters that a form is given for. -/
def binder (read : PartReader) : Reader (List Doc) := do
  word "for"
  mark "<"
  let parameters ← angleItems (genericParameter read)
  mark ">"
  pure ([.word "for<"] ++ TypeForm.joined ", " parameters ++ [.word "> "])

/-- Reads the parameters that a form is given for, if there are any. -/
def binder? (read : PartReader) : Reader (Option (List Doc)) := do
  if ← atWord "for" then some <$> binder read else pure none

/-- Reads the names that a type may depend on, at most `limit` of them. -/
def capturedNames : Nat → Reader (List String)
  | 0 => pure []
  | limit + 1 => do
    let tokens ← rest
    let name? ← if startsLifetime tokens then some <$> lifetime
      else if startsIdentifier tokens || startsWord "Self" tokens then some <$> anyIdentifier
      else if startsMark ">" tokens then pure none
      else failExpecting ["lifetime", "identifier", "`>`"]
    match name? with
    | none => pure []
    | some name =>
      if ← mark? "," then pure (name :: (← capturedNames limit))
      else if ← atMark ">" then pure [name]
      else failExpecting ["`,`", "`>`"]

/-- Reads a bound on names. -/
def capture : Reader (List String) := do
  word "use"
  mark "<"
  let names ← capturedNames ((← rest).length + 1)
  mark ">"
  pure names

/-- A path whose last name has inputs instead of arguments. -/
def withInputs (read : PartReader) (p : PathForm) : Reader PathForm := do
  let callable (name : String) : Reader PathForm := do
    discard <| mark? "::"
    let inputs ← group .parenthesis (items (read.type true))
    let segment := Segment.callable name inputs (← output read)
    pure (.mk p.rooted (p.segments.dropLast ++ [segment]))
  if startsInputs (← rest) then
    match p.segments.getLast? with
    | some (.plain name) => callable name
    | some (.generic name []) => callable name
    | _ => pure p
  else pure p

/-- What is wrong with a bound that need not be met and has parameters. -/
def optionalBinder : String :=
  "`for<...>` binder not allowed with `?` trait polarity modifier"

/-- Reads a bound by a trait. Only some may be bounds on constants, which have no text. -/
def traitBound (read : PartReader) (constants inParens : Bool) : Reader Bound := do
  let first ← binder? read
  let isGuarded := startsGroup .bracket (← rest)
  if isGuarded then
    group .bracket (word "const")
    unless constants do throw "`[const]` is not allowed here"
  let isConstant ← if isGuarded then pure true else word? "const"
  if isConstant && !isGuarded && !constants then throw "`const` is not allowed here"
  let isOptional ← mark? "?"
  let second ← if first.isNone && isOptional then binder? read else pure first
  let p ← withInputs read (← read.path false)
  if isOptional && second.isSome then throw optionalBinder
  else if isConstant then pure .unwritable
  else pure (.trait inParens isOptional (second.getD []) p)

/-- Reads a bound. -/
def bound (read : PartReader) (captures constants : Bool) : Reader Bound := do
  let tokens ← rest
  if startsLifetime tokens then .lifetime <$> lifetime
  else if startsWord "use" tokens then
    let names ← capture
    if captures then pure (.captures names)
    else throw "`use<...>` precise capturing syntax is not allowed here"
  else if startsGroup .parenthesis tokens then
    group .parenthesis (traitBound read constants true)
  else traitBound read constants false

/-- Whether the tokens go on with a further bound. -/
def startsBound (constants : Bool) (tokens : List Token) : Bool :=
  startsName tokens || startsMark "::" tokens || startsMark "?" tokens || startsLifetime tokens
    || startsGroup .parenthesis tokens || (constants && startsGroup .bracket tokens)

/-- Reads bounds; `plus` says whether there may be more than one. -/
def bounds (read : PartReader) (plus captures constants : Bool) : Reader (List Bound) := do
  let first ← read.bound captures constants
  if plus && (← atMark "+") then
    skip 1
    let stops (tokens : List Token) : Bool := !startsBound constants tokens
    pure (first :: (← sum stops (read.bound captures constants)))
  else pure [first]

/-- Reads further bounds, each after a plus sign. -/
def addedBounds (read : PartReader) : Reader (List Bound) :=
  repeated do
    if ← mark? "+" then some <$> read.bound false false else pure none

/-- Whether a bound is no mere limit on lifetimes or names. -/
def isTrait : Bound → Bool
  | .trait .. => true
  | .unwritable => true
  | .lifetime _ => false
  | .captures _ => false

/-- The type of values that meet the bounds, of which one must be a trait. -/
def objectOf (isOpen : Bool) (bounds : List Bound) : Reader TypeForm :=
  if bounds.any isTrait then pure (.object isOpen bounds)
  else throw "at least one trait is required for an object type"

/-! ## Function types -/

/-- An input of a function type. -/
structure Input where
  /-- Its layout. -/
  doc : List Doc
  /-- Whether it stands for all further inputs. -/
  isRest : Bool

/-- The layout of the inputs of a function type. -/
def inputDocs (inputs : List Input) : List Doc :=
  let content := ((inputs.map Input.doc).intersperse [.word ",", space]).flatten
  if inputs.isEmpty then []
  else if inputs.any Input.isRest then [Doc.block (cutPoint :: content ++ [cutPointBack])]
  else commaList (inputs.map Input.doc)

/-- Reads an input that stands for all further ones. -/
def restInput (attributes : List Doc) : Reader Input := do
  let name ← if startsName (← rest) then
      let name ← anyIdentifier
      mark ":"
      pure (name ++ ": ")
    else pure ""
  mark "..."
  discard <| mark? ","
  pure ⟨attributes ++ [.word (name ++ "...")], true⟩

/-- Reads an input of a function type. Only the first one may be what the function belongs to. -/
def typedInput (read : PartReader) (isFirst : Bool) (attributes : List Doc) : Reader Input := do
  let isMutableSelf := isFirst && startsWord "mut" (← rest)
    && startsWord "self" (afterOne (← rest))
  if isMutableSelf then skip 1
  let tokens ← rest
  let after := afterOne tokens
  let isName := startsIdentifier tokens || startsWord "_" tokens
    || (isFirst && startsWord "self" tokens)
  let name : List Doc ← if isName && startsMark ":" after && !startsMark "::" after then
      let name ← anyIdentifier
      mark ":"
      pure [.word (name ++ ": ")]
    else pure []
  let type ← read.type true
  if isMutableSelf then pure ⟨[.unwritable], false⟩
  else pure ⟨attributes ++ name ++ type.doc, false⟩

/-- Reads the inputs of a function type to the end of the group, at most `limit` of them. -/
def inputs (read : PartReader) : Nat → Bool → Reader (List Input)
  | 0, _ => pure []
  | limit + 1, isFirst => do
    if ← atEnd then pure []
    else
      let attributes ← attributes read
      let tokens ← rest
      let after := afterOne tokens
      let isNamed := startsIdentifier tokens || startsWord "_" tokens
      if startsMark "..." tokens
          || (isNamed && startsMark ":" after && startsMark "..." (afterOne after)) then
        pure [← restInput attributes]
      else
        let first ← typedInput read isFirst attributes
        if ← atEnd then pure [first]
        else
          mark ","
          pure (first :: (← inputs read limit false))

/-- Reads the rest of a function type. -/
def functionType (read : PartReader) (binder : List Doc) : Reader TypeForm := do
  let front := if ← word? "unsafe" then "unsafe " else ""
  let front ← if ← word? "extern" then
      match literalOf .text (← rest) with
      | some (text, after) =>
        goTo after
        pure (front ++ "extern " ++ text ++ " ")
      | none => pure (front ++ "extern ")
    else pure front
  word "fn"
  let inputs ← group .parenthesis do inputs read ((← rest).length + 1) true
  pure (.function binder front (inputDocs inputs) (← output read))

/-! ## Types -/

/-- What stands in parentheses. -/
inductive ParenContent
  /-- A type to which no bounds can be added. -/
  | whole (type : TypeForm)
  /-- A bound that need not be met, with its parentheses. -/
  | bound (bound : Bound)
  /-- A single type, without its parentheses. -/
  | type (type : TypeForm)

/-- Reads what stands in parentheses. -/
def parenContent (read : PartReader) : Reader ParenContent := do
  let tokens ← rest
  if tokens.isEmpty then pure (.whole (.tuple []))
  else if startsLifetime tokens then
    pure (.whole (.paren (← objectOf true (← bounds read true false false))))
  else if startsMark "?" tokens then .bound <$> traitBound read false true
  else
    let first ← read.type true
    if ← mark? "," then pure (.whole (.tuple (first :: (← items (read.type true)))))
    else pure (.type first)

/-- The bound that a type in parentheses is, if bounds can be added to it. -/
def boundOf : TypeForm → Option Bound
  | .path (.plain p) => some (.trait true false [] p)
  | .object true [.trait _ isOptional binder p] => some (.trait true isOptional binder p)
  | _ => none

/-- Reads a type that starts with a parenthesis. -/
def parenthesized (read : PartReader) (plus : Bool) : Reader TypeForm := do
  match ← group .parenthesis (parenContent read) with
  | .whole t => pure t
  | .bound b => pure (.object true (b :: (← addedBounds read)))
  | .type t =>
    match if plus && (← atMark "+") then boundOf t else none with
    | some b => pure (.object true (b :: (← addedBounds read)))
    | none => pure (.paren t)

/-- Reads a type that is a path, or starts with one. -/
def pathType (read : PartReader) (plus : Bool) (binder : Option (List Doc)) : Reader TypeForm := do
  match ← qualifiedPath read false with
  | .member owner via members => pure (.path (.member owner via members))
  | .plain p =>
    match if (← atMark "!") && !(← atMark "!=") then p.plainText? else none with
    | some name =>
      skip 1
      let (delimiter, tokens) ← anyGroup
      pure (.call name delimiter tokens)
    | none =>
      if binder.isSome || (plus && (← atMark "+")) then
        let first := Bound.trait false false (binder.getD []) p
        if plus && (← mark? "+") then
          let stops (tokens : List Token) : Bool := !startsBound false tokens
          let others ← sum stops (read.bound false false)
          pure (.object false (first :: others))
        else pure (.object true [first])
      else pure (.path (.plain p))

/-- Reads a type that starts with an ampersand. -/
def referenceType (read : PartReader) : Reader TypeForm := do
  mark "&"
  let name ← lifetime?
  let isMutable ← word? "mut"
  pure (.reference name isMutable (← read.type false))

/-- Reads a type that starts with an asterisk. -/
def pointerType (read : PartReader) : Reader TypeForm := do
  mark "*"
  if ← word? "const" then .pointer false <$> read.type false
  else if ← word? "mut" then .pointer true <$> read.type false
  else failExpecting ["`const`", "`mut`"]

/-- Reads a type in square brackets. -/
def bracketType (read : PartReader) : Reader TypeForm :=
  group .bracket do
    let element ← read.type true
    if ← mark? ";" then
      pure (.array element ((← read.expression true).doc (.whole false)))
    else pure (.slice element)

/-- Reads the type of values of any type. One of unknown size has no text. -/
def objectType (read : PartReader) (plus : Bool) : Reader TypeForm := do
  word "dyn"
  let isUnsized ← mark? "*"
  let t ← objectOf false (← bounds read plus false false)
  if isUnsized then pure .unwritable else pure t

/-- Reads some type that meets bounds. -/
def anyType (read : PartReader) (plus : Bool) : Reader TypeForm := do
  word "impl"
  let bounds ← bounds read plus true true
  if bounds.any isTrait then pure (.anyOf bounds)
  else throw "at least one trait must be specified"

/-- Reads a type; `plus` says whether bounds may be added to it. -/
def typeForm (read : PartReader) (plus : Bool) : Reader TypeForm := do
  let binder ← binder? read
  let tokens ← rest
  let startsFunction := startsAnyWord ["fn", "unsafe", "extern"] tokens
  if binder.isSome && !(startsPath tokens || startsFunction) then
    failExpecting notAQuantifiedType
  else if startsGroup .parenthesis tokens then parenthesized read plus
  else if startsFunction then functionType read (binder.getD [])
  else if startsPath tokens || startsMark "::" tokens || startsMark "<" tokens then
    pathType read plus binder
  else if startsWord "dyn" tokens then objectType read plus
  else if startsGroup .bracket tokens then bracketType read
  else if startsMark "*" tokens then pointerType read
  else if startsMark "&" tokens then referenceType read
  else if startsMark "!" tokens && !startsMark "=" tokens then
    skip 1
    pure .never
  else if startsWord "impl" tokens then anyType read plus
  else if startsWord "_" tokens then
    skip 1
    pure .infer
  else if startsLifetime tokens then
    objectOf true (← bounds read true false false)
  else failExpecting notAType

end Reader

end BotBindings.Code
