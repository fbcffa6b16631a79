import BotBindings.Code.SignatureReader

/-!
# Reading members

Readers for what stands in the braces of a trait, of an implementation or of a block of foreign
declarations: functions, constants, types, variables and calls of macros. Some forms are read but
have no text: those that only look like members of such a block.
-/

namespace BotBindings.Code

namespace Reader

open Doc

/-- The layout of what has no text. -/
def unwritableLine : List Doc :=
  [.unwritable, newline]

/-- The layout, or none if there is no text. -/
def writableIf (isWritable : Bool) (content : List Doc) : List Doc :=
  if isWritable then content else unwritableLine

/-! ## Parts of members -/

/-- Reads the content of a function. -/
def functionBody (read : PartReader) : Reader Block :=
  block read true

/-- A constant as it is read. -/
structure ConstantParts where
  /-- The name. -/
  name : String
  /-- What it is given for. -/
  generics : Generics
  /-- Its type. -/
  type : TypeForm
  /-- Its value. -/
  value : Option Expression

/-- Reads the rest of a constant, from its name on. -/
def constantParts (read : PartReader) : Reader ConstantParts := do
  let name ← anyIdentifier
  let parameters ← parameters? read
  mark ":"
  let type ← read.type true
  let value ← if ← mark? "=" then some <$> read.expression true else pure none
  let conditions ← conditions? read
  mark ";"
  pure { name, generics := { parameters, conditions }, type, value }

/-- Whether the tokens start with a name or a blank for one. -/
def startsConstantName (tokens : List Token) : Bool :=
  startsIdentifier tokens || startsWord "_" tokens

/-- Where the conditions of a type stand. -/
inductive ConditionPlace
  | beforeValue
  | afterValue
  | either

/-- A type as it is declared. -/
structure TypeParts where
  /-- The name. -/
  name : String
  /-- What it is given for. -/
  generics : Generics
  /-- Its bounds, if there is a colon for them. -/
  bounds : Option (List Bound)
  /-- What it is. -/
  value : Option TypeForm

/-- Reads the rest of a type, from the word for it on. -/
def typeParts (read : PartReader) (place : ConditionPlace) : Reader TypeParts := do
  word "type"
  let name ← identifier
  let parameters ← parameters? read
  let stops (tokens : List Token) : Bool :=
    startsWord "where" tokens || startsMark "=" tokens || startsMark ";" tokens
  let bounds ← if ← mark? ":" then some <$> boundsUntil stops read else pure none
  let early ← match place with
    | .afterValue => pure none
    | _ => conditions? read
  let value ← if ← mark? "=" then some <$> read.type true else pure none
  let late ← match place, early with
    | .beforeValue, _ => pure none
    | _, some _ => pure none
    | _, none => conditions? read
  mark ";"
  pure { name, generics := { parameters, conditions := early.or late }, bounds, value }

/-- Reads the rest of a call of a macro, from its path on. Unless it ends in a brace, a semicolon
follows it. -/
def callMember : Reader (List Doc) := do
  let path ← plainPath
  mark "!"
  let (delimiter, tokens) ← anyGroup
  if delimiter = .brace then pure (callDoc path delimiter tokens ++ [newline])
  else
    mark ";"
    pure (Declaration.line (callDoc path delimiter tokens))

/-- Whether the tokens start a path. -/
def startsCall (tokens : List Token) : Bool :=
  startsIdentifier tokens || startsAnyWord ["self", "super", "crate"] tokens
    || startsMark "::" tokens

/-- What a path may start with. -/
def pathStarts : List String :=
  ["identifier", "`self`", "`super`", "`crate`", "`::`"]

/-! ## Members of a trait -/

/-- Reads a function of a trait, which may have a body. -/
def traitFunction (read : PartReader) : Reader (List Doc) := do
  let (_, signature) ← signature read false
  let tokens ← rest
  if startsGroup .brace tokens then
    pure (Declaration.function "" signature (← functionBody read))
  else if startsMark ";" tokens then
    skip 1
    pure (Declaration.functionHead "" signature)
  else failExpecting ["curly braces", "`;`"]

/-- Reads a constant of a trait, or a function that starts with the same word. -/
def traitConstant (read : PartReader) : Reader (List Doc) := do
  let after := afterOne (← rest)
  if startsConstantName after then
    skip 1
    let c ← constantParts read
    pure (writableIf c.generics.isAbsent
      (Declaration.value ("const " ++ c.name) [] c.type c.value))
  else if startsAnyWord ["async", "unsafe", "extern", "fn"] after then traitFunction read
  else
    skip 1
    failExpecting ["identifier", "`_`", "`async`", "`unsafe`", "`extern`", "`fn`"]

/-- Reads a type of a trait. -/
def traitType (read : PartReader) : Reader (List Doc) := do
  let t ← typeParts read .afterValue
  pure (Declaration.memberType ("type " ++ t.name) t.generics
    (TypeForm.boundDocs (t.bounds.getD [])) t.value)

/-- Reads a member of a trait. It cannot be seen from anywhere else than the trait. -/
def traitMember (read : PartReader) : Reader (List Doc) := do
  let attributes ← attributes read
  let seen ← visibility
  let isUsual ← word? "default"
  let isPlain := seen.isEmpty && !isUsual
  let tokens ← rest
  let content ←
    if startsSignature false tokens then traitFunction read
    else if startsWord "const" tokens then traitConstant read
    else if startsWord "type" tokens then traitType read
    else if isPlain && startsCall tokens then callMember
    else failExpecting (["`fn`", "`const`", "`type`"] ++ (if isPlain then pathStarts else []))
  pure (attributes ++ writableIf isPlain content)

/-! ## Members of an implementation -/

/-- Reads a function of an implementation. Without a body it has no text. -/
def ownFunction (read : PartReader) (front : String) : Reader (List Doc) := do
  let (_, signature) ← signature read false
  if ← mark? ";" then pure unwritableLine
  else pure (Declaration.function front signature (← functionBody read))

/-- Reads a constant of an implementation. Without a value it has no text. -/
def ownConstant (read : PartReader) (front : String) : Reader (List Doc) := do
  word "const"
  if startsConstantName (← rest) then
    let c ← constantParts read
    pure (writableIf (c.generics.isAbsent && c.value.isSome)
      (Declaration.value (front ++ "const " ++ c.name) [] c.type c.value))
  else failExpecting ["identifier", "`_`"]

/-- Reads a type of an implementation. With bounds or without a value it has no text. -/
def ownType (read : PartReader) (front : String) : Reader (List Doc) := do
  let t ← typeParts read .afterValue
  pure (writableIf (t.bounds.isNone && t.value.isSome)
    (Declaration.memberType (front ++ "type " ++ t.name) t.generics [] t.value))

/-- Reads a member of an implementation. -/
def ownMember (read : PartReader) : Reader (List Doc) := do
  let attributes ← attributes read
  let seen ← visibility
  let tokens ← rest
  let isUsual := startsWord "default" tokens && !startsMark "!" (afterOne tokens)
  if isUsual then skip 1
  let front := seen ++ (if isUsual then "default " else "")
  let tokens ← rest
  let starts := (if isUsual then [] else ["`default`"]) ++ ["`fn`", "`const`", "`type`"]
  let content ←
    if startsSignature false tokens then ownFunction read front
    else if startsWord "const" tokens then ownConstant read front
    else if startsWord "type" tokens then ownType read front
    else if front.isEmpty && startsCall tokens then callMember
    else failExpecting (starts ++ (if front.isEmpty then pathStarts else []))
  pure (attributes ++ content)

/-! ## Foreign declarations -/

/-- Reads a foreign function. With a body it has no text. -/
def foreignFunction (read : PartReader) (front : String) : Reader (List Doc) := do
  let (isSafe, signature) ← signature read true
  if startsGroup .brace (← rest) then
    discard (functionBody read)
    pure unwritableLine
  else
    mark ";"
    pure (writableIf (!isSafe) (Declaration.functionHead front signature))

/-- Reads a foreign variable. With a value or a word about its safety it has no text. -/
def foreignVariable (read : PartReader) (front : String) : Reader (List Doc) := do
  let safety ← ["unsafe", "safe"].filterM word?
  word "static"
  let isMutable ← word? "mut"
  let name ← identifier
  mark ":"
  let type ← read.type true
  let value ← if ← mark? "=" then some <$> read.expression true else pure none
  mark ";"
  let front := front ++ "static " ++ (if isMutable then "mut " else "") ++ name
  pure (writableIf (safety.isEmpty && value.isNone) (Declaration.value front [] type none))

/-- Reads a foreign type. With bounds or a value it has no text. -/
def foreignType (read : PartReader) (front : String) : Reader (List Doc) := do
  let t ← typeParts read .either
  pure (writableIf (t.bounds.isNone && t.value.isNone)
    [.box 0 true ([.word (front ++ "type " ++ t.name)] ++ t.generics.doc ++ [.word ";"]), newline])

/-- Whether the tokens start a foreign variable. -/
def startsForeignVariable (tokens : List Token) : Bool :=
  startsWord "static" tokens
    || (startsAnyWord ["unsafe", "safe"] tokens && startsWord "static" (afterOne tokens))

/-- Reads a foreign declaration. -/
def foreignMember (read : PartReader) : Reader (List Doc) := do
  let attributes ← attributes read
  let seen ← visibility
  let tokens ← rest
  let content ←
    if startsSignature true tokens then foreignFunction read seen
    else if startsForeignVariable tokens then foreignVariable read seen
    else if startsWord "type" tokens then foreignType read seen
    else if seen.isEmpty && startsCall tokens then callMember
    else
      failExpecting (["`fn`", "`static`", "`type`"] ++ (if seen.isEmpty then pathStarts else []))
  pure (attributes ++ content)

/-! ## Blocks of members -/

/-- Reads members in braces, behind the attributes inside them. -/
def members (read : PartReader) (member : Reader (List Doc)) : Reader (List Doc) :=
  group .brace do
    let inner ← innerAttributes read
    let content ← repeated do
      if ← atEnd then pure none else some <$> member
    pure (inner ++ content.flatten)

end Reader

end BotBindings.Code
