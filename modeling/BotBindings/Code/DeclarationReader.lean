import BotBindings.Code.MemberReader

/-!
# Reading declarations

A declaration is read by the words that it starts with. Some forms are read but have no text: those
that only look like declarations.
-/

namespace BotBindings.Code

namespace Reader

open Doc

/-! ## Functions, constants and types -/

/-- Reads a function. Without a body it has no text. -/
def functionDeclaration (read : PartReader) (seen : String) : Reader (List Doc) := do
  let (_, signature) ← signature read false
  if ← mark? ";" then pure unwritableLine
  else pure (Declaration.function seen signature (← functionBody read))

/-- Reads a constant. Without a value it has no text. -/
def constantDeclaration (read : PartReader) (seen : String) : Reader (List Doc) := do
  word "const"
  if startsConstantName (← rest) then
    let c ← constantParts read
    pure (writableIf (c.generics.isAbsent && c.value.isSome)
      (Declaration.value (seen ++ "const " ++ c.name) [] c.type c.value))
  else failExpecting ["identifier", "`_`"]

/-- Reads a variable. Without a type or a value it has no text. -/
def variableDeclaration (read : PartReader) (seen : String) : Reader (List Doc) := do
  word "static"
  let isMutable ← word? "mut"
  let name ← identifier
  if ← mark? "=" then
    discard (read.expression true)
    mark ";"
    pure unwritableLine
  else
    mark ":"
    let type ← read.type true
    if ← mark? ";" then pure unwritableLine
    else
      mark "="
      let value ← read.expression true
      mark ";"
      let front := seen ++ "static " ++ (if isMutable then "mut " else "") ++ name
      pure (Declaration.value front [] type (some value))

/-- Reads a name for a type. With bounds or without a type it has no text. -/
def aliasDeclaration (read : PartReader) (seen : String) : Reader (List Doc) := do
  let t ← typeParts read .beforeValue
  match t.value, t.bounds with
  | some type, none => pure (Declaration.typeAlias (seen ++ "type " ++ t.name) t.generics type)
  | _, _ => pure unwritableLine

/-! ## Data -/

/-- Reads a record with fields of either kind or without fields. -/
def recordDeclaration (read : PartReader) (seen : String) : Reader (List Doc) := do
  word "struct"
  let name ← identifier
  let parameters ← parameters? read
  let front := seen ++ "struct " ++ name
  let early ← conditions? read
  let tokens ← rest
  let generics : Generics := { parameters, conditions := early }
  let starts := if early.isNone then ["`where`", "parentheses"] else []
  if early.isNone && startsGroup .parenthesis tokens then
    let fields ← unnamedFields read
    let conditions ← conditions? read
    if ← mark? ";" then
      pure (Declaration.tuple front { parameters, conditions } (some fields))
    else failExpecting ((if conditions.isNone then ["`where`"] else []) ++ ["`;`"])
  else if startsGroup .brace tokens then
    pure (Declaration.record front generics (← namedFields read))
  else if ← mark? ";" then pure (Declaration.tuple front generics none)
  else failExpecting (starts ++ ["curly braces", "`;`"])

/-- Reads a record whose fields share their place. -/
def unionDeclaration (read : PartReader) (seen : String) : Reader (List Doc) := do
  word "union"
  let name ← identifier
  let parameters ← parameters? read
  let conditions ← conditions? read
  pure (Declaration.record (seen ++ "union " ++ name) { parameters, conditions }
    (← namedFields read))

/-- Reads a variant. Where it can be seen does not matter. -/
def variant (read : PartReader) : Reader (List Doc) := do
  let attributes ← attributes read
  discard visibility
  let name ← identifier
  let tokens ← rest
  let fields ←
    if startsGroup .brace tokens then Declaration.variantFields <$> namedFields read
    else if startsGroup .parenthesis tokens then Declaration.unnamedFields <$> unnamedFields read
    else pure []
  let value : List Doc ←
    if ← mark? "=" then
      pure (.word " = " :: (← read.expression true).doc (.whole false))
    else pure []
  pure (attributes ++ [.word name] ++ fields ++ value)

/-- Reads a type that is a choice between variants. -/
def choiceDeclaration (read : PartReader) (seen : String) : Reader (List Doc) := do
  word "enum"
  let name ← identifier
  let parameters ← parameters? read
  let conditions ← conditions? read
  let variants ← group .brace (items (variant read))
  pure (Declaration.record (seen ++ "enum " ++ name) { parameters, conditions } variants)

/-! ## Traits -/

/-- Whether the tokens end the bounds of a trait. -/
def endsTraitBounds (tokens : List Token) : Bool :=
  startsWord "where" tokens || startsGroup .brace tokens

/-- Reads the rest of a trait, from its bounds on. -/
def traitBody (read : PartReader) (front : String) (parameters : Option (List Parameter)) :
    Reader (List Doc) := do
  let bounds ← if ← mark? ":" then boundsUntil endsTraitBounds read else pure []
  let conditions ← conditions? read
  let content ← members read (traitMember read)
  pure (Declaration.trait front { parameters, conditions } (TypeForm.boundDocs bounds) content)

/-- Reads a trait with a word before the word for it. -/
def markedTrait (read : PartReader) (seen : String) : Reader (List Doc) := do
  let words ← ["unsafe", "auto"].filterM word?
  word "trait"
  let name ← identifier
  let parameters ← parameters? read
  traitBody read (seen ++ String.join (words.map (· ++ " ")) ++ "trait " ++ name) parameters

/-- Reads a trait or a name for traits. -/
def traitDeclaration (read : PartReader) (seen : String) : Reader (List Doc) := do
  word "trait"
  let name ← identifier
  let parameters ← parameters? read
  let front := seen ++ "trait " ++ name
  let tokens ← rest
  if startsGroup .brace tokens || startsMark ":" tokens || startsWord "where" tokens then
    traitBody read front parameters
  else if ← mark? "=" then
    let stops (tokens : List Token) : Bool := startsWord "where" tokens || startsMark ";" tokens
    let bounds ← boundsUntil stops read
    let conditions ← conditions? read
    mark ";"
    pure (Declaration.traitAlias front { parameters, conditions } (TypeForm.boundDocs bounds))
  else failExpecting ["curly braces", "`:`", "`where`", "`=`"]

/-! ## Implementations -/

/-- The path of the trait that a type is read for, if it is one. -/
def traitPath? : TypeForm → Option (List Doc)
  | .path (.plain p) => some (TypeForm.pathDoc false p)
  | _ => none

/-- Reads what a type has, possibly for a trait. One that can be seen from somewhere, or that is
constant, or that is for no trait but should be, has no text. -/
def implementation (read : PartReader) (seen : String) : Reader (List Doc) := do
  let words ← ["default", "unsafe"].filterM word?
  word "impl"
  let parameters ← if startsParameters (← rest) then parameters? read else pure none
  let tokens ← rest
  let isOptional := startsMark "?" tokens && startsWord "const" (afterOne tokens)
  if isOptional then skip 1
  let isConstant ← word? "const"
  let tokens ← rest
  let isNegative := startsMark "!" tokens && !startsGroup .brace (afterOne tokens)
  if isNegative then skip 1
  let first ← read.type true
  let isForTrait ← word? "for"
  let type ← if isForTrait then read.type true else pure first
  let conditions ← conditions? read
  let content ← members read (ownMember read)
  let via := (traitPath? first).map fun path => if isNegative then .word "!" :: path else path
  let isWritable := seen.isEmpty && !isConstant
    && (if isForTrait then via.isSome else !isNegative)
  let front := String.join (words.map (· ++ " ")) ++ "impl"
  pure (writableIf isWritable
    (Declaration.implementation front { parameters, conditions } (if isForTrait then via else none)
      type content))

/-! ## Foreign declarations, modules and imports -/

/-- Reads a block of foreign declarations. It is not for being seen from anywhere. -/
def foreignBlock (read : PartReader) (seen : String) : Reader (List Doc) := do
  if !seen.isEmpty then throw "expected `extern`"
  else
    let words ← ["unsafe"].filterM word?
    let convention ← convention
    let content ← members read (foreignMember read)
    pure (Declaration.braced [.word (String.join (words.map (· ++ " ")) ++ convention)] content)

/-- Reads the name of a crate. -/
def foreignCrate (seen : String) : Reader (List Doc) := do
  word "extern"
  word "crate"
  let name ← if ← atWord "self" then anyIdentifier else identifier
  let other ← if ← word? "as" then
      let other ← if ← atWord "_" then anyIdentifier else identifier
      pure (" as " ++ other)
    else pure ""
  mark ";"
  pure (Declaration.line [.word (seen ++ "extern crate " ++ name ++ other)])

/-- Reads what starts with the word for what is foreign. -/
def foreignDeclaration (read : PartReader) (seen : String) : Reader (List Doc) := do
  let after := afterOne (← rest)
  if startsWord "crate" after then foreignCrate seen
  else if startsGroup .brace after then foreignBlock read seen
  else
    match literalOf .text after with
    | some (_, next) =>
      if startsGroup .brace next then foreignBlock read seen
      else
        goTo next
        failExpecting ["curly braces"]
    | none =>
      skip 1
      failExpecting ["`crate`", "curly braces", "string literal"]

/-- Reads a module, with its content or without it. -/
def moduleDeclaration (read : PartReader) (seen : String) : Reader (List Doc) := do
  let words ← ["unsafe"].filterM word?
  word "mod"
  let name ← if ← atWord "try" then anyIdentifier else identifier
  let front := seen ++ String.join (words.map (· ++ " ")) ++ "mod " ++ name
  let tokens ← rest
  if startsMark ";" tokens then
    skip 1
    pure (Declaration.line [.word front])
  else if startsGroup .brace tokens then
    let content ← members read do
      let attributes ← attributes read
      pure (attributes ++ (← read.declaration))
    pure (Declaration.braced [.word (front ++ " ")] content)
  else failExpecting ["`;`", "curly braces"]

/-- Reads several imports in braces, at most `limit` of them. One that starts at the root of all
names has no text. -/
def importList (read : PartReader) (fromRoot : Bool) : Nat → Reader (List Declaration.Import)
  | 0 => pure []
  | limit + 1 => do
    if ← atEnd then pure []
    else
      let isRooted ← if fromRoot then mark? "::" else pure false
      let first ← read.imports (fromRoot && !isRooted)
      let first := if isRooted then { doc := [.unwritable] } else first
      if ← atEnd then pure [first]
      else
        mark ","
        pure (first :: (← importList read fromRoot limit))

/-- Reads what is imported. -/
def imports (read : PartReader) (fromRoot : Bool) : Reader Declaration.Import := do
  let tokens ← rest
  if startsIdentifier tokens || startsAnyWord ["self", "super", "crate", "try"] tokens then
    let name ← anyIdentifier
    if ← mark? "::" then
      let inner ← read.imports false
      pure { doc := .word (name ++ "::") :: inner.doc, isGroup := inner.isGroup }
    else if ← word? "as" then
      let tokens ← rest
      if startsIdentifier tokens || startsWord "_" tokens then
        let other ← anyIdentifier
        pure { doc := [.word (name ++ " as " ++ other)], isOwner := name = "self" }
      else fail "expected identifier or underscore"
    else pure { doc := [.word name], isOwner := name = "self" }
  else if ← mark? "*" then pure { doc := [.word "*"] }
  else if startsGroup .brace tokens then
    group .brace do
      Declaration.Import.group <$> importList read fromRoot ((← rest).length + 1)
  else
    failExpecting ["identifier", "`self`", "`super`", "`crate`", "`try`", "`*`", "curly braces"]

/-- Reads an import. -/
def importDeclaration (read : PartReader) (seen : String) : Reader (List Doc) := do
  word "use"
  let isRooted ← mark? "::"
  let imported ← read.imports (!isRooted)
  mark ";"
  let front := seen ++ "use " ++ (if isRooted then "::" else "")
  pure (Declaration.line (.word front :: imported.doc))

/-! ## Macros -/

/-- Reads the call of a macro that may declare a name. -/
def callDeclaration : Reader (List Doc) := do
  let path ← plainPath
  mark "!"
  let tokens ← rest
  let name ← if startsIdentifier tokens || startsWord "try" tokens then some <$> anyIdentifier
    else pure none
  let (delimiter, tokens) ← anyGroup
  unless delimiter = .brace do mark ";"
  let ending : List Doc := if delimiter = .brace then [] else [.word ";"]
  match name with
  | none => pure (callDoc path delimiter tokens ++ ending ++ [newline])
  | some name =>
    if path = "macro_rules" then pure (definitionDoc name tokens ++ [newline])
    else pure (namingCallDoc path name delimiter tokens ++ ending ++ [newline])

/-- Reads a macro that is declared like a function, which has no text. -/
def macroDeclaration : Reader (List Doc) := do
  skip 1
  discard identifier
  let hasInputs := startsGroup .parenthesis (← rest)
  if hasInputs then skip 1
  if startsGroup .brace (← rest) then
    skip 1
    pure unwritableLine
  else failExpecting ((if hasInputs then [] else ["parentheses"]) ++ ["curly braces"])

/-! ## Declarations -/

/-- What a declaration may start with. -/
def declarationStarts : List String :=
  ["`fn`", "`extern`", "`use`", "`static`", "`const`", "`unsafe`", "`mod`", "`type`", "`struct`",
   "`enum`", "`union`", "`trait`", "`auto`", "`impl`", "`default`", "`macro`"]

/-- Whether the tokens start a trait that is marked as one with implementations of its own. -/
def startsAutoTrait (tokens : List Token) : Bool :=
  startsWord "auto" tokens && startsWord "trait" (afterOne tokens)

/-- Reads what starts with the word for what is not checked. -/
def uncheckedDeclaration (read : PartReader) (seen : String) : Reader (List Doc) := do
  let after := afterOne (← rest)
  if startsWord "trait" after || startsAutoTrait after then markedTrait read seen
  else if startsWord "impl" after then implementation read seen
  else if startsWord "extern" after then foreignBlock read seen
  else if startsWord "mod" after then moduleDeclaration read seen
  else
    skip 1
    failExpecting ["`trait`", "`auto`", "`impl`", "`extern`", "`mod`"]

/-- Reads a declaration behind its attributes. -/
def declaration (read : PartReader) : Reader (List Doc) := do
  let seen ← visibility
  let tokens ← rest
  let after := afterOne tokens
  if startsSignature false tokens then functionDeclaration read seen
  else if startsWord "extern" tokens then foreignDeclaration read seen
  else if startsWord "use" tokens then importDeclaration read seen
  else if startsWord "static" tokens then variableDeclaration read seen
  else if startsWord "const" tokens then constantDeclaration read seen
  else if startsWord "unsafe" tokens then uncheckedDeclaration read seen
  else if startsWord "mod" tokens then moduleDeclaration read seen
  else if startsWord "type" tokens then aliasDeclaration read seen
  else if startsWord "struct" tokens then recordDeclaration read seen
  else if startsWord "enum" tokens then choiceDeclaration read seen
  else if startsWord "union" tokens && startsIdentifier after then unionDeclaration read seen
  else if startsWord "trait" tokens then traitDeclaration read seen
  else if startsAutoTrait tokens then markedTrait read seen
  else if startsWord "impl" tokens || (startsWord "default" tokens && !startsMark "!" after) then
    implementation read seen
  else if startsWord "macro" tokens then macroDeclaration
  else if seen.isEmpty && startsCall tokens then callDeclaration
  else failExpecting (declarationStarts ++ (if seen.isEmpty then pathStarts else []))

/-- Whether the tokens start a declaration, where an expression could stand too. -/
def startsDeclaration (tokens : List Token) : Bool :=
  let after := afterOne tokens
  let next := afterOne after
  let startsFunction (tokens : List Token) := startsAnyWord ["unsafe", "extern", "fn"] tokens
  startsAnyWord ["pub", "extern", "use", "fn", "mod", "type", "struct", "enum", "trait", "impl",
      "macro"] tokens
    || (startsWord "crate" tokens && !startsMark "::" after)
    || (startsWord "static" tokens && (startsWord "mut" after || startsIdentifier after))
    || (startsWord "const" tokens && !(startsGroup .brace after
        || startsAnyWord ["static", "move"] after || startsMark "|" after
        || (startsWord "async" after && !startsFunction next)))
    || (startsWord "unsafe" tokens && !startsGroup .brace after)
    || (startsWord "async" tokens && startsFunction after)
    || (startsWord "union" tokens && startsIdentifier after)
    || startsAutoTrait tokens
    || (startsWord "default" tokens && startsAnyWord ["unsafe", "impl"] after)

end Reader

end BotBindings.Code
