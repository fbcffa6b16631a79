import BotBindings.Code.PatternReader

/-!
# Reading expressions

An operand is an atom with the members, calls and indices applied to it, behind its operators.
Binary operators bind by their strength; comparisons do not chain, and nothing goes on after a
range.

Where a block has to follow, an expression does not end in a record.
-/

namespace BotBindings.Code

/-! ## Operators -/

/-- How strongly operators bind that are not among `binaryOperators`. -/
inductive Strength
  | jump
  | assignment
  | range
  | disjunction
  | conjunction
  | binding
  | comparison
  | bitOr
  | bitXor
  | bitAnd
  | shift
  | sum
  | product
  | cast
  deriving DecidableEq

/-- The rank of a strength: what has the higher rank binds more strongly. -/
def Strength.rank : Strength → Nat
  | .jump => 0
  | .assignment => 1
  | .range => 2
  | .disjunction => 3
  | .conjunction => 4
  | .binding => 5
  | .comparison => 6
  | .bitOr => 7
  | .bitXor => 8
  | .bitAnd => 9
  | .shift => 10
  | .sum => 11
  | .product => 12
  | .cast => 13

/-- The binary operators, each before those that it starts with. -/
def binaryOperators : List (String × Strength) :=
  Expression.updates.map (·, .assignment)
    ++ [("&&", .conjunction), ("||", .disjunction), ("<<", .shift), (">>", .shift),
      ("==", .comparison), ("<=", .comparison), ("!=", .comparison), (">=", .comparison),
      ("+", .sum), ("-", .sum), ("*", .product), ("/", .product), ("%", .product), ("^", .bitXor),
      ("&", .bitAnd), ("|", .bitOr), ("<", .comparison), (">", .comparison)]

/-- Whether an expression is a comparison. -/
def Expression.isComparison : Expression → Bool
  | .binary _ operator _ =>
    ["==", "<", "<=", "!=", ">=", ">"].contains operator
  | _ => false

/-- An expression behind its attributes, if there are any. -/
def Expression.behind (attributes : List Doc) (e : Expression) : Expression :=
  if attributes.isEmpty then e else .attributed attributes e

namespace Reader

/-- The binary operator that the tokens start with. -/
def operatorAt (tokens : List Token) : Option (String × Strength) :=
  binaryOperators.find? fun (text, _) => startsMark text tokens

/-- Whether the tokens start an assignment. -/
def startsAssignment (tokens : List Token) : Bool :=
  startsMark "=" tokens && !startsMark "=>" tokens

/-- How strongly the operator binds that the tokens start with. -/
def strengthAt (tokens : List Token) : Strength :=
  match operatorAt tokens with
  | some (_, strength) => strength
  | none =>
    if startsAssignment tokens then .assignment
    else if startsMark ".." tokens then .range
    else if startsWord "as" tokens then .cast
    else .jump

/-- Whether the tokens may start an expression. -/
def startsExpression (tokens : List Token) : Bool :=
  (startsName tokens && !startsWord "as" tokens)
    || startsGroup .parenthesis tokens || startsGroup .bracket tokens || startsGroup .brace tokens
    || (literalAt tokens).isSome
    || (startsMark "!" tokens && !startsMark "!=" tokens)
    || (startsMark "-" tokens && !startsMark "-=" tokens && !startsMark "->" tokens)
    || (startsMark "*" tokens && !startsMark "*=" tokens)
    || (startsMark "|" tokens && !startsMark "|=" tokens)
    || (startsMark "&" tokens && !startsMark "&=" tokens)
    || startsMark ".." tokens
    || (startsMark "<" tokens && !startsMark "<=" tokens && !startsMark "<<=" tokens)
    || startsMark "::" tokens || startsLifetime tokens || startsMark "#" tokens

/-- What a range may have in place of an end. -/
def marksAfterRange : List String :=
  [",", ";", "?", "=>", "=", "+", "/", "%", "^", ">", "<=", "!=", "-=", "*=", "&=", "|=", "<<="]

/-- Whether a range ends without a further expression. -/
def endsOpenRange (records : Bool) (tokens : List Token) : Bool :=
  tokens.isEmpty || marksAfterRange.any (startsMark · tokens)
    || (startsMark "." tokens && !startsMark ".." tokens)
    || (!records && startsGroup .brace tokens) || startsWord "as" tokens

/-- Reads the operand on the right of an operator, with all that binds more strongly; `limit` bounds
how many operators there are. -/
def rightOf (read : PartReader) (records : Bool) (strength : Strength) :
    Nat → Expression → Reader Expression
  | 0, e => pure e
  | limit + 1, e => do
    let tokens ← rest
    let next := strengthAt tokens
    if strength.rank < next.rank || (next = strength && strength = .assignment) then
      let e ← read.operation e records next.rank
      if (← rest).length = tokens.length then pure e else rightOf read records strength limit e
    else pure e

/-- Reads the operand on the right of an operator. -/
def rightOperand (read : PartReader) (records : Bool) (strength : Strength) :
    Reader Expression := do
  let e ← read.operand records []
  rightOf read records strength ((← rest).length + 1) e

/-- Reads the end of a range, if it has one. -/
def rangeEnd (read : PartReader) (records isClosed : Bool) : Reader (Option Expression) := do
  if !isClosed && endsOpenRange records (← rest) then pure none
  else some <$> rightOperand read records .range

/-- What a cast may not be followed by. -/
def afterCast? (tokens : List Token) : Option String :=
  let after := afterOne tokens
  if startsMark "." tokens && !startsMark ".." tokens then
    if startsWord "await" after then some "`.await`"
    else if startsIdentifier after
        && (startsGroup .parenthesis (afterOne after) || startsMark "::" (afterOne after)) then
      some "a method call"
    else some "a field access"
  else if startsMark "?" tokens then some "`?`"
  else if startsGroup .bracket tokens then some "indexing"
  else if startsGroup .parenthesis tokens then some "a function call"
  else none

/-- Reads the operators after an expression that bind at least as strongly as `least`; `limit`
bounds how many there are. -/
def operations (read : PartReader) (records : Bool) (least : Nat) :
    Nat → Expression → Reader Expression
  | 0, left => pure left
  | limit + 1, left => do
    let tokens ← rest
    if left.isRange then pure left
    else
      match operatorAt tokens with
      | some (operator, strength) =>
        if strength.rank < least then pure left
        else if strength = .comparison && left.isComparison then
          fail "comparison operators cannot be chained"
        else
          skip operator.length
          let right ← rightOperand read records strength
          operations read records least limit (.binary left operator right)
      | none =>
        if least ≤ Strength.assignment.rank && startsAssignment tokens then
          skip 1
          let value ← rightOperand read records .assignment
          operations read records least limit (.assign left value)
        else if least ≤ Strength.range.rank && startsMark ".." tokens then
          let isClosed ← rangeMark false
          let stop ← rangeEnd read records isClosed
          operations read records least limit (.range (some left) isClosed stop)
        else if least ≤ Strength.cast.rank && startsWord "as" tokens then
          skip 1
          let type ← read.type false
          match afterCast? (← rest) with
          | some kind => fail ("casts cannot be followed by " ++ kind)
          | none =>
            operations read records least limit (.cast left type.doc type.endsInBrace)
        else pure left

/-- Reads what binary operators that bind at least as strongly as `least` make of an expression. -/
def operation (read : PartReader) (left : Expression) (records : Bool) (least : Nat) :
    Reader Expression := do
  operations read records least ((← rest).length + 1) left

/-- Reads an expression. -/
def expression (read : PartReader) (records : Bool) : Reader Expression := do
  let first ← read.operand records []
  read.operation first records Strength.jump.rank

/-! ## Chains -/

/-- The parts of a number with points, which are members of members. -/
def memberNumbers (text : String) : Except String (List String) :=
  let chars := text.toList
  let chars := if chars.getLast? == some '.' then chars.dropLast else chars
  (Text.split ['.'] chars).mapM fun part => memberNumber (String.ofList part)

/-- Reads a member, or a call of it, after a point. -/
def memberOf (read : PartReader) (owner : Expression) : Reader Expression := do
  if ← word? "await" then pure (.await owner)
  else
    let m ← member
    let parameters : List Doc ← if !m.isNumber && (← atMark "::") then
        mark "::"
        let arguments ← angleArguments (argument read)
        pure (TypeForm.argumentsDoc "::<" (TypeForm.argumentDocs arguments))
      else pure []
    let isCall := !m.isNumber && (startsGroup .parenthesis (← rest) || !parameters.isEmpty)
    if isCall then
      let arguments ← group .parenthesis (items (read.expression true))
      pure (.methodCall owner m.text parameters arguments)
    else pure (.field owner m.text)

/-- Reads what follows a point. -/
def afterPoint (read : PartReader) (owner : Expression) : Reader Expression := do
  match literalOf .float (← rest) with
  | some (text, after) =>
    let numbers ← memberNumbers text
    goTo after
    let owner := numbers.foldl Expression.field owner
    if text.toList.getLast? == some '.' then memberOf read owner else pure owner
  | none => memberOf read owner

/-- Reads members, calls and indices that are applied to an expression, at most `limit` of them. -/
def links (read : PartReader) : Nat → Expression → Reader Expression
  | 0, e => pure e
  | limit + 1, e => do
    let tokens ← rest
    if startsGroup .parenthesis tokens then
      let arguments ← group .parenthesis (items (read.expression true))
      links read limit (.call e arguments)
    else if startsMark "." tokens && !startsMark ".." tokens && !e.isRange then
      skip 1
      links read limit (← afterPoint read e)
    else if startsGroup .bracket tokens then
      let key ← group .bracket (read.expression true)
      links read limit (.index e key)
    else if startsMark "?" tokens && !e.isRange then
      skip 1
      links read limit (.attempt e)
    else pure e

/-- Reads all members, calls and indices that are applied to an expression. -/
def chain (read : PartReader) (e : Expression) : Reader Expression := do
  links read ((← rest).length + 1) e

/-! ## Lists and records -/

/-- Reads an expression in parentheses, or a tuple. -/
def parenExpression (read : PartReader) : Reader Expression :=
  group .parenthesis do
    if ← atEnd then pure (Expression.tuple [])
    else
      let first ← read.expression true
      if ← atEnd then pure (.paren first)
      else
        mark ","
        pure (Expression.tuple (first :: (← items (read.expression true))))

/-- Reads a list in square brackets. -/
def bracketExpression (read : PartReader) : Reader Expression :=
  group .bracket do
    if ← atEnd then pure (Expression.array [])
    else
      let first ← read.expression true
      if ← atEnd then pure (Expression.array [first])
      else if ← mark? "," then
        pure (Expression.array (first :: (← items (read.expression true))))
      else if ← mark? ";" then
        pure (Expression.repeated first (← read.expression true))
      else fail "expected `,` or `;`"

/-- Reads a field of a record. -/
def fieldValue (read : PartReader) : Reader (List Doc) := do
  let attributes ← attributes read
  let m ← member
  if m.isNumber || (← atMark ":") then
    mark ":"
    pure (Expression.fieldDoc attributes m.text (some (← read.expression true)))
  else pure (Expression.fieldDoc attributes m.text none)

/-- Reads the fields of a record, at most `limit` of them, and what has all further ones. -/
def fieldValues (read : PartReader) : Nat → Reader (List (List Doc) × Option Expression)
  | 0 => pure ([], none)
  | limit + 1 => do
    if ← atEnd then pure ([], none)
    else if ← mark? ".." then
      if ← atEnd then pure ([], none)
      else
        let others ← read.expression true
        pure ([], some others)
    else
      let first ← fieldValue read
      if ← atEnd then pure ([first], none)
      else
        mark ","
        let (fields, others) ← fieldValues read limit
        pure (first :: fields, others)

/-- Reads an expression that starts with a path. -/
def pathExpression (read : PartReader) (records : Bool) : Reader Expression := do
  let p ← qualifiedPath read true
  let tokens ← rest
  let macroName := match p with
    | .plain p => if startsMark "!" tokens && !startsMark "!=" tokens then p.plainText? else none
    | .member .. => none
  match macroName with
  | some name =>
    skip 1
    let (delimiter, tokens) ← anyGroup
    pure (Expression.invocation name delimiter tokens)
  | none =>
    if records && startsGroup .brace tokens then
      group .brace do
        let (fields, others) ← fieldValues read ((← rest).length + 1)
        pure (Expression.record p fields others)
    else pure (Expression.ofPath p)

end Reader

end BotBindings.Code
