import BotBindings.Code.ExpressionReader

/-!
# Reading operands

Readers for what operators apply to: conditions, cases, loops, closures, jumps and everything else
that an expression can start with. An expression that ends in a block ends a statement or a case by
itself, unless a member of it follows.
-/

namespace BotBindings.Code

namespace Reader

open Doc

/-! ## Conditions and cases -/

/-- Reads a condition and its block. -/
def branch (read : PartReader) : Reader (Expression × Block) := do
  word "if"
  let condition ← read.expression false
  pure (condition, ← block read false)

/-- Reads the further branches of a choice, at most `limit` of them, and its last block. -/
def branches (read : PartReader) : Nat → Reader (List (Expression × Block) × Option Block)
  | 0 => pure ([], none)
  | limit + 1 => do
    if ← word? "else" then
      if ← atWord "if" then
        let next ← branch read
        let (others, otherwise) ← branches read limit
        pure (next :: others, otherwise)
      else if startsGroup .brace (← rest) then
        let otherwise ← block read false
        pure ([], some otherwise)
      else failExpecting ["`if`", "curly braces"]
    else pure ([], none)

/-- Reads a choice by conditions. -/
def choice (read : PartReader) : Reader Expression := do
  let (condition, first) ← branch read
  let (others, otherwise) ← branches read ((← rest).length + 1)
  pure (Expression.choice condition first others otherwise)

/-- Reads the condition that a value has the form of a pattern. -/
def binding (read : PartReader) (records : Bool) : Reader Expression := do
  word "let"
  let p ← choicePattern read
  mark "="
  let first ← read.operand records []
  let value ← read.operation first records Strength.comparison.rank
  pure (.binding p.doc value)

/-! ## Blocks and loops -/

/-- Reads a block of a kind, with the word for it before the braces. -/
def wordBlock (read : PartReader) (front : String) (kind : BlockKind) (hasAttributes : Bool) :
    Reader Expression := do
  word front
  Expression.ofBlock kind <$> block read hasAttributes

/-- Reads a loop. -/
def loop? (read : PartReader) (label : Option String) : Reader (Option Expression) := do
  if ← word? "while" then
    let condition ← read.expression false
    pure (some (Expression.whileLoop label condition (← block read true)))
  else if ← word? "for" then
    let p ← choicePattern read
    word "in"
    let items ← read.expression false
    pure (some (Expression.forLoop label p items (← block read true)))
  else if ← word? "loop" then
    pure (some (Expression.endless label (← block read true)))
  else pure none

/-- Reads a loop or a block with a label. -/
def labeled (read : PartReader) : Reader Expression := do
  let label ← lifetime
  mark ":"
  match ← loop? read (some label) with
  | some e => pure e
  | none =>
    if startsGroup .brace (← rest) then
      Expression.ofBlock (.plain (some label)) <$> block read true
    else fail "expected loop or block expression"

/-! ## Closures -/

/-- Whether the tokens start with the parameters that a closure is given for. -/
def startsQuantified (tokens : List Token) : Bool :=
  let after := afterOne tokens
  startsWord "for" tokens && startsMark "<" after
    && (startsLifetime (after.drop 1) || startsMark ">" (after.drop 1))

/-- Whether the tokens start a closure. -/
def startsClosure (tokens : List Token) : Bool :=
  let after := afterOne tokens
  startsMark "|" tokens || startsAnyWord ["move", "static"] tokens || startsQuantified tokens
    || (startsWord "const" tokens && !startsGroup .brace after)
    || (startsWord "async" tokens && (startsMark "|" after || startsWord "move" after))

/-- Reads an input of a closure. -/
def closureInput (read : PartReader) : Reader (List Doc) := do
  let attributes ← attributes read
  let p ← read.pattern
  if ← mark? ":" then
    let type ← read.type true
    pure (Pattern.attributed attributes (Pattern.typed p type)).doc
  else pure (Pattern.attributed attributes p).doc

/-- Reads a closure. With an output its body is a block. -/
def closure (read : PartReader) (records : Bool) : Reader Expression := do
  let binder ← binder? read
  let words ← ["const", "static", "async", "move"].filterM word?
  mark "|"
  let inputs ← itemsUntil (startsMark "|") (closureInput read) ((← rest).length + 1)
  mark "|"
  let front := binder.getD [] ++ words.map fun w => .word (w ++ " ")
  if ← mark? "->" then
    let type ← read.type true
    let body := Expression.ofBlock (.plain none) (← block read false)
    pure (.closure front inputs (some type.doc) body)
  else pure (.closure front inputs none (← read.expression records))

/-! ## Jumps -/

/-- Reads what a jump gives as a value, if it gives one. -/
def jumpValue (read : PartReader) (mayBeBlock : Bool) : Reader (Option Expression) := do
  let tokens ← rest
  if startsExpression tokens && (mayBeBlock || !startsGroup .brace tokens) then
    some <$> read.expression true
  else pure none

/-- Reads the end of a loop or a block. A label after the word is never that of a further loop. -/
def leave (read : PartReader) (records : Bool) : Reader Expression := do
  word "break"
  let tokens ← rest
  if startsLifetime tokens && startsMark ":" (afterOne tokens) then
    discard (read.expression true)
    throw "parentheses required"
  else
    let label ← lifetime?
    pure (.jump .leave label (← jumpValue read records))

/-! ## Cases of a value -/

/-- Reads a case. -/
def arm (read : PartReader) : Reader (List Doc) := do
  let attributes ← attributes read
  let p ← choicePattern read
  let guard ← if ← word? "if" then some <$> read.expression true else pure none
  mark "=>"
  let body ← read.closing []
  if !body.standsAlone && !(← atEnd) then mark "," else discard (mark? ",")
  pure (Expression.armDoc attributes p guard body)

/-- Reads the cases of a value. -/
def casesOf (read : PartReader) : Reader Expression := do
  word "match"
  let value ← read.expression false
  group .brace do
    let inner ← innerAttributes read
    let arms ← repeated do
      if ← atEnd then pure none else some <$> arm read
    pure (Expression.casesOf value inner arms)

/-! ## Words -/

/-- Whether the tokens start with a word before a block in braces. -/
def startsWordBlock (word : String) (tokens : List Token) : Bool :=
  startsWord word tokens && startsGroup .brace (afterOne tokens)

/-- Whether the tokens start a block that runs later. -/
def startsDeferred (tokens : List Token) : Bool :=
  startsWordBlock "async" tokens
    || (startsWord "async" tokens && startsWordBlock "move" (afterOne tokens))

/-- Reads a block that runs later. -/
def deferred (read : PartReader) : Reader Expression := do
  word "async"
  let captures ← word? "move"
  Expression.ofBlock (.deferred captures) <$> block read false

/-- Reads an expression that a compiler knows by itself. -/
def builtin : Reader Expression := do
  skip 2
  discard identifier
  group .parenthesis (goTo [])
  pure Expression.unwritable

/-- Whether the tokens start an expression with a path. -/
def startsPathExpression (tokens : List Token) : Bool :=
  let after := afterOne tokens
  startsPath tokens || startsMark "::" tokens || startsMark "<" tokens
    || (startsWord "try" tokens && (startsMark "!" after || startsMark "::" after))

/-! ## Expressions with blocks -/

/-- Reads an expression that ends in a block or in cases, and starts with a word for it or with the
block. -/
def blockExpression? (read : PartReader) : Reader (Option Expression) := do
  let tokens ← rest
  if startsWord "if" tokens then some <$> choice read
  else if startsAnyWord ["while", "loop"] tokens then loop? read none
  else if startsWord "for" tokens && !startsQuantified tokens then loop? read none
  else if startsWord "match" tokens then some <$> casesOf read
  else if startsWordBlock "try" tokens then some <$> wordBlock read "try" .guarded false
  else if startsWord "unsafe" tokens then some <$> wordBlock read "unsafe" .unchecked true
  else if startsWordBlock "const" tokens then some <$> wordBlock read "const" .constant true
  else if startsGroup .brace tokens then
    (fun b => some (Expression.ofBlock (.plain none) b)) <$> block read true
  else if startsLifetime tokens then some <$> labeled read
  else pure none

/-! ## Operands -/

/-- Reads what an operand starts with, which has no block of its own. -/
def atom (read : PartReader) (records : Bool) : Reader Expression := do
  let tokens ← rest
  match literalAt tokens with
  | some (text, after) =>
    goTo after
    pure (literalExpression text)
  | none =>
    if startsDeferred tokens then deferred read
    else if startsClosure tokens then closure read records
    else if startsWord "builtin" tokens && startsMark "#" (afterOne tokens) then builtin
    else if startsPathExpression tokens then pathExpression read records
    else if startsGroup .parenthesis tokens then parenExpression read
    else if startsWord "break" tokens then leave read records
    else if startsWord "continue" tokens then
      skip 1
      pure (.jump .proceed (← lifetime?) none)
    else if startsWord "return" tokens then
      skip 1
      pure (.jump .answer none (← jumpValue read true))
    else if startsWord "become" tokens then
      skip 1
      discard (read.expression true)
      pure Expression.unwritable
    else if startsGroup .bracket tokens then bracketExpression read
    else if startsWord "let" tokens then binding read records
    else if startsWord "yield" tokens then
      skip 1
      pure (.jump .offer none (← jumpValue read true))
    else if startsMark ".." tokens then
      let isClosed ← rangeMark false
      pure (.range none isClosed (← rangeEnd read records isClosed))
    else if startsWord "_" tokens then
      skip 1
      pure Expression.inferred
    else fail "expected an expression"

/-- Reads an expression that starts with an operator, if it does. -/
def prefixed? (read : PartReader) (records : Bool) : Reader (Option Expression) := do
  let tokens ← rest
  if startsMark "&" tokens then
    skip 1
    let after := tokens.drop 1
    let isRaw := startsWord "raw" after
      && startsAnyWord ["mut", "const"] (afterOne after)
    if isRaw then skip 1
    let isMutable ← word? "mut"
    if isRaw && !isMutable then word "const"
    let front := if isRaw then (if isMutable then "&raw mut " else "&raw const ")
      else if isMutable then "&mut " else "&"
    some <$> (.prefixed front <$> read.operand records [])
  else
    match ["*", "!", "-"].find? (startsMark · tokens) with
    | some operator =>
      skip 1
      some <$> (.prefixed operator <$> read.operand records [])
    | none => pure none

/-- What is wrong with attributes before a range without a start. -/
def attributedRange : String :=
  "attributes are not allowed on range expressions starting with `..`"

/-- Reads what operators apply to, behind the attributes `front`. -/
def operand (read : PartReader) (records : Bool) (front : List Doc) : Reader Expression := do
  let own ← attributes read
  match ← prefixed? read records with
  | some e => pure (Expression.behind (front ++ own) e)
  | none =>
    let first ← match ← blockExpression? read with
      | some e => pure e
      | none => atom read records
    let e ← chain read first
    if !own.isEmpty && e.isRange then throw attributedRange
    else pure (Expression.behind (front ++ own) e)

/-- Whether a member follows. -/
def startsMember (tokens : List Token) : Bool :=
  (startsMark "." tokens && !startsMark ".." tokens) || startsMark "?" tokens

/-- Reads an expression that is a statement or a case, behind the attributes `front`. It ends with
its block, if it starts with one and no member of it follows. -/
def closing (read : PartReader) (front : List Doc) : Reader Expression := do
  let front := front ++ (← attributes read)
  match ← blockExpression? read with
  | none =>
    let first ← read.operand true front
    if first.standsAlone then pure first else read.operation first true Strength.jump.rank
  | some e =>
    if e.standsAlone && !startsMember (← rest) then pure (Expression.behind front e)
    else
      let first ← chain read e
      read.operation (Expression.behind front first) true Strength.jump.rank

end Reader

end BotBindings.Code
