import BotBindings.Code.OperandReader

/-!
# Reading signatures

What declarations have in common: where they can be seen, the parameters and conditions that they
are given for, fields, and the inputs of functions.
-/

namespace BotBindings.Code

namespace Reader

open Doc

/-! ## Where a declaration can be seen -/

/-- Reads where a declaration can be seen. Brackets after the word may belong to what follows it. -/
def visibility : Reader String := do
  if ← word? "pub" then
    match ← rest with
    | .group .parenthesis content :: after =>
      if startsWord "in" content then
        let path ← group .parenthesis do
          word "in"
          plainPath
        let isNear := ["self", "super", "crate"].contains path
        pure ("pub(" ++ (if isNear then "" else "in ") ++ path ++ ") ")
      else
        match content with
        | [.ident name] =>
          if ["self", "super", "crate"].contains name then
            goTo after
            pure ("pub(" ++ name ++ ") ")
          else pure "pub "
        | _ => pure "pub "
    | _ => pure "pub "
  else pure ""

/-! ## Parameters and conditions -/

/-- Reads a parameter of a declaration. -/
def declaredParameter (read : PartReader) : Reader Parameter := do
  let attributes ← attributes read
  let tokens ← rest
  if startsLifetime tokens then return ⟨true, attributes ++ (← lifetimeParameter)⟩
  else if startsIdentifier tokens then return ⟨false, attributes ++ (← typeParameter read)⟩
  else if startsWord "const" tokens then
    return ⟨false, attributes ++ (← constantParameter read)⟩
  else if startsWord "_" tokens then
    skip 1
    return ⟨false, attributes ++ [.word "_"]⟩
  else failExpecting ["lifetime", "identifier", "`const`"]

/-- Reads the parameters of a declaration, if there are angle brackets. -/
def parameters? (read : PartReader) : Reader (Option (List Parameter)) := do
  if ← mark? "<" then
    let parameters ← angleItems (declaredParameter read)
    mark ">"
    pure (some parameters)
  else pure none

/-- Whether the tokens start with parameters of a declaration rather than with a type in angle
brackets. -/
def startsParameters (tokens : List Token) : Bool :=
  let after := tokens.drop 1
  let next := afterOne after
  startsMark "<" tokens
    && (startsMark ">" after || startsMark "#" after || startsWord "const" after
      || ((startsLifetime after || startsIdentifier after)
        && (startsMark ">" next || startsMark "," next || startsMark "=" next
          || (startsMark ":" next && !startsMark "::" next))))

/-- Whether the tokens end a condition. -/
def endsCondition (tokens : List Token) : Bool :=
  tokens.isEmpty || startsGroup .brace tokens || startsMark "," tokens || startsMark ";" tokens
    || (startsMark ":" tokens && !startsMark "::" tokens) || startsMark "=" tokens

/-- Reads a condition. -/
def condition (read : PartReader) : Reader (List Doc) := do
  let tokens ← rest
  if startsLifetime tokens && startsMark ":" (afterOne tokens) then
    let name ← lifetime
    mark ":"
    let stops (tokens : List Token) : Bool := endsCondition tokens || startsMark ":" tokens
    let bounds ← sum stops lifetime
    pure (conditionOn [.word name] (bounds.map fun b => [.word b]) indentStep)
  else
    let binder ← binder? read
    let type ← read.type true
    mark ":"
    let bounds ← sum endsCondition (read.bound false true)
    let indent := if bounds.length = 1 then 0 else indentStep
    pure (conditionOn (binder.getD [] ++ type.doc) (TypeForm.boundDocs bounds) indent)

/-- Reads conditions separated by commas, at most `limit` of them. -/
def conditionsUpTo (read : PartReader) : Nat → Reader (List (List Doc))
  | 0 => pure []
  | limit + 1 => do
    if endsCondition (← rest) then pure []
    else
      let first ← condition read
      if ← mark? "," then pure (first :: (← conditionsUpTo read limit)) else pure [first]

/-- Reads the conditions of a declaration, if there is a word for them. -/
def conditions? (read : PartReader) : Reader (Option (List (List Doc))) := do
  if ← word? "where" then
    if startsParameters (← rest) then
      fail "generic parameters on `where` clauses are reserved for future use"
    else some <$> conditionsUpTo read ((← rest).length + 1)
  else pure none

/-- Reads bounds joined by plus signs, possibly none, at most `limit` of them. Each but the last has
a plus sign behind it, and `stops` holds after the last. -/
def boundsUpTo (stops : List Token → Bool) (read : PartReader) : Nat → Reader (List Bound)
  | 0 => pure []
  | limit + 1 => do
    if stops (← rest) then pure []
    else
      let first ← read.bound false true
      if stops (← rest) then pure [first]
      else
        mark "+"
        pure (first :: (← boundsUpTo stops read limit))

/-- Reads bounds joined by plus signs up to where `stops` holds. -/
def boundsUntil (stops : List Token → Bool) (read : PartReader) : Reader (List Bound) := do
  boundsUpTo stops read ((← rest).length + 1)

/-! ## Fields -/

/-- Reads a field with a name. Without a name it may hold fields itself, which has no text. -/
def namedField (read : PartReader) : Reader (List Doc) := do
  let attributes ← attributes read
  let seen ← visibility
  let isNameless ← atWord "_"
  let name ← if isNameless then anyIdentifier else identifier
  mark ":"
  let front := attributes ++ [.word (seen ++ name ++ ": ")]
  let tokens ← rest
  let holdsFields := startsWord "struct" tokens
    || (startsWord "union" tokens && startsGroup .brace (afterOne tokens))
  if isNameless && holdsFields then
    skip 1
    group .brace (goTo [])
    pure [.unwritable]
  else pure (front ++ (← read.type true).doc)

/-- Reads a field without a name. -/
def unnamedField (read : PartReader) : Reader (List Doc) := do
  let attributes ← attributes read
  let seen ← visibility
  let front : List Doc := if seen.isEmpty then [] else [.word seen]
  pure (attributes ++ front ++ (← read.type true).doc)

/-- Reads fields with names. -/
def namedFields (read : PartReader) : Reader (List (List Doc)) :=
  group .brace (items (namedField read))

/-- Reads fields without names. -/
def unnamedFields (read : PartReader) : Reader (List (List Doc)) :=
  group .parenthesis (items (unnamedField read))

/-! ## Functions -/

/-- Reads the convention of a call, if there is a word for it. -/
def convention : Reader String := do
  if ← word? "extern" then
    match literalOf .text (← rest) with
    | some (text, after) =>
      goTo after
      pure ("extern " ++ text ++ " ")
    | none => pure "extern "
  else pure ""

/-- What follows a word at the start of the tokens, which need not be there. -/
def afterWord (word : String) (tokens : List Token) : List Token :=
  if startsWord word tokens then tokens.drop 1 else tokens

/-- Whether the tokens start the signature of a function. -/
def startsSignature (mayBeSafe : Bool) (tokens : List Token) : Bool :=
  let tokens := afterWord "async" (afterWord "const" tokens)
  let tokens := if mayBeSafe && startsWord "safe" tokens then tokens.drop 1
    else afterWord "unsafe" tokens
  let after := afterWord "extern" tokens
  let after := if startsWord "extern" tokens then
      match literalOf .text after with
      | some (_, after) => after
      | none => after
    else after
  startsWord "fn" after

/-- Reads what a function belongs to. -/
def receiver (read : PartReader) : Reader (List Doc) := do
  let isReference ← mark? "&"
  let name ← if isReference then lifetime? else pure none
  let isMutable ← word? "mut"
  word "self"
  let reference := if isReference then "&" else ""
  let lifetime := match name with
    | some name => name ++ " "
    | none => ""
  let front := reference ++ lifetime ++ (if isMutable then "mut self" else "self")
  if !isReference && (← mark? ":") then
    pure ([.word (front ++ ": ")] ++ (← read.type true).doc)
  else pure [.word front]

/-- What the inputs of a function are. -/
inductive InputKind
  | receiver
  | value
  /-- All further inputs. -/
  | rest
  deriving DecidableEq

/-- Reads an input of a function. -/
def functionInput (read : PartReader) : Reader (InputKind × List Doc) := do
  let attributes ← attributes read
  if ← mark? "..." then pure (.rest, attributes ++ [.word "..."])
  else
    match ← optional (receiver read) with
    | some doc => pure (.receiver, attributes ++ doc)
    | none =>
      let tokens ← rest
      if startsIdentifier tokens && startsMark "<" (afterOne tokens) then
        pure (.value, attributes ++ [.word "_: "] ++ (← read.type true).doc)
      else
        let p ← read.pattern
        mark ":"
        if ← mark? "..." then pure (.rest, attributes ++ p.doc ++ [.word ": ..."])
        else pure (.value, attributes ++ p.doc ++ [.word ": "] ++ (← read.type true).doc)

/-- What is wrong with an input that the function belongs to, which only the first may be. -/
def misplacedReceiver (hasReceiver : Bool) : String :=
  if hasReceiver then "unexpected second method receiver" else "unexpected method receiver"

/-- Reads the inputs of a function, at most `limit` of them, and what stands for all further
ones. -/
def functionInputs (read : PartReader) (isFirst hasReceiver : Bool) :
    Nat → Reader (List (List Doc) × Option (List Doc))
  | 0 => pure ([], none)
  | limit + 1 => do
    if ← atEnd then pure ([], none)
    else
      let (kind, first) ← functionInput read
      match kind with
      | .rest =>
        unless ← atEnd do mark ","
        pure ([], some first)
      | kind =>
        if kind = .receiver && !isFirst then throw (misplacedReceiver hasReceiver)
        else if ← atEnd then pure ([first], none)
        else
          mark ","
          let (others, rest) ← functionInputs read false (hasReceiver || kind = .receiver) limit
          pure (first :: others, rest)

/-- Reads the signature of a function. One that is called safe has no text. -/
def signature (read : PartReader) (mayBeSafe : Bool) : Reader (Bool × Signature) := do
  let early ← ["const", "async"].filterM word?
  let isSafe ← if mayBeSafe then word? "safe" else pure false
  let late ← if isSafe then pure [] else ["unsafe"].filterM word?
  let convention ← convention
  word "fn"
  let name ← identifier
  let parameters ← parameters? read
  let (inputs, rest) ← group .parenthesis do
    functionInputs read true false ((← rest).length + 1)
  let output ← output read
  let conditions ← conditions? read
  let words := String.join ((early ++ late).map (· ++ " "))
  let front := words ++ convention ++ "fn " ++ name
  pure (isSafe, { front, generics := { parameters, conditions }, inputs, rest, output })

end Reader

end BotBindings.Code
