import BotBindings.Code.DeclarationReader

/-!
# Reading statements

A block consists of statements. An expression without a block of its own ends in a semicolon, unless
it is the last statement.
-/

namespace BotBindings.Code

namespace Reader

open Doc

/-- A statement that starts with the call of a macro. -/
inductive CallStart
  /-- The call declares a name. -/
  | declaration
  /-- The call is a statement by itself; `rest` follows its arguments in braces. -/
  | statement (path : String) (content rest : List Token)

/-- The start of a call of a macro that is no part of an expression. -/
def callStart? : Reader (Option CallStart) := do
  match ← attempt plainPath with
  | none => pure none
  | some (path, tokens) =>
    match tokens with
    | .punct '!' _ :: after =>
      if startsIdentifier after || startsWord "try" after then pure (some .declaration)
      else
        match after with
        | .group .brace content :: rest =>
          pure (if startsMember rest then none else some (.statement path content rest))
        | _ => pure none
    | _ => pure none

/-- Reads the rest of a statement that gives names to the parts of a value. -/
def definition (read : PartReader) (attributes : List Doc) : Reader Statement := do
  word "let"
  let p ← read.pattern
  let pattern ← if ← mark? ":" then Pattern.typed p <$> read.type true else pure p
  if ← mark? "=" then
    let value ← read.expression true
    let otherwise ← if !value.endsInBrace && (← word? "else") then some <$> block read false
      else pure none
    mark ";"
    pure (Statement.define attributes pattern (some value) otherwise)
  else
    mark ";"
    pure (Statement.define attributes pattern none none)

/-- Reads a statement that is an expression. -/
def expressionStatement (read : PartReader) (attributes : List Doc) : Reader Statement := do
  let e ← read.closing attributes
  let ends ← mark? ";"
  match e.invocation? with
  | some delimiter =>
    if ends || delimiter = .brace then
      pure (Statement.invocation delimiter (e.doc (.whole true)) ends)
    else pure (.expression e ends)
  | none => pure (.expression e ends)

/-- Reads a statement. -/
def statement (read : PartReader) : Reader Statement := do
  let attributes ← attributes read
  let declared : Reader Statement := do pure (.other (attributes ++ (← read.declaration)))
  match ← callStart? with
  | some (.statement path content after) =>
    goTo after
    let ends ← mark? ";"
    pure (Statement.invocation .brace (attributes ++ callDoc path .brace content) ends)
  | some .declaration => declared
  | none =>
    if ← atWord "let" then definition read attributes
    else if startsDeclaration (← rest) then declared
    else expressionStatement read attributes

/-- Reads statements to the end of the group, at most `limit` of them. -/
def statementsUpTo (read : PartReader) : Nat → Reader (List Statement)
  | 0 => pure []
  | limit + 1 => do
    if ← mark? ";" then
      pure (.other [] :: (← statementsUpTo read limit))
    else if ← atEnd then pure []
    else
      let first ← statement read
      if !first.isComplete && !(← atEnd) then fail "unexpected token, expected `;`"
      else pure (first :: (← statementsUpTo read limit))

/-- Reads statements to the end of the group. -/
def statements (read : PartReader) : Reader (List Statement) := do
  statementsUpTo read ((← rest).length + 1)

end Reader

end BotBindings.Code
