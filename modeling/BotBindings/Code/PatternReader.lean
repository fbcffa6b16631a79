import BotBindings.Code.TypeReader

/-!
# Reading patterns

A pattern is read by what it starts with. Names, literals and paths may turn out to start a range,
a record or a choice of a variant.
-/

namespace BotBindings.Code

namespace Reader

open Doc

/-! ## Members and ranges -/

/-- Reads the number of a member of a tuple. -/
def memberNumber (text : String) : Except String String :=
  let (n, suffix) := Literal.number text
  if Literal.kind text ≠ .integer then .error "expected integer literal"
  else if !suffix.isEmpty then .error "expected unsuffixed integer"
  else if text.toList.head? == some '-' then .error "invalid digit found in string"
  else if 4294967296 ≤ n then .error "number too large to fit in target type"
  else .ok (toString n)

/-- The name of a member, and whether it is a number. -/
structure Member where
  /-- The name or the number. -/
  text : String
  /-- Whether it is a number. -/
  isNumber : Bool

/-- Reads the name of a member. -/
def member : Reader Member := do
  let tokens ← rest
  if startsIdentifier tokens then
    pure ⟨← identifier, false⟩
  else
    match literalOf .integer tokens with
    | some (text, after) =>
      let number ← memberNumber text
      goTo after
      pure ⟨number, true⟩
    | none => fail "expected identifier or integer"

/-- Reads two points, and says whether an equals sign follows. Patterns may have a third point in
its place. -/
def rangeMark (inPattern : Bool) : Reader Bool := do
  if ← mark? "..=" then pure true
  else if ← atMark "..." then
    if inPattern then
      skip 3
      pure true
    else failExpecting ["`..=`"]
  else if ← mark? ".." then pure false
  else failExpecting ["`..`"]

/-! ## Values -/

/-- What is wrong where no end of a range starts. -/
def notABound : List String :=
  ["literal", "identifier", "`::`", "`<`", "`self`", "`Self`", "`super`", "`crate`", "`const`"]

/-- Whether nothing that ends a range comes next. -/
def endsRange (tokens : List Token) : Bool :=
  tokens.isEmpty || startsMark "|" tokens || startsMark "=" tokens
    || (startsMark ":" tokens && !startsMark "::" tokens) || startsMark "," tokens
    || startsMark ";" tokens || startsWord "if" tokens

/-- Reads a value that a range of a pattern can start or end with. -/
def rangeBound (read : PartReader) : Reader Expression := do
  let tokens ← rest
  match literalAt tokens with
  | some (text, after) =>
    goTo after
    pure (literalExpression text)
  | none =>
    if startsPath tokens || startsMark "::" tokens || startsMark "<" tokens then
      Expression.ofPath <$> qualifiedPath read true
    else if ← word? "const" then Expression.ofBlock .constant <$> block read true
    else failExpecting notABound

/-- Reads the rest of a range that starts with a value, if it is one. -/
def rangeFrom (read : PartReader) (start : Option Expression) : Reader Pattern := do
  let isClosed ← rangeMark start.isSome
  let stop ← if endsRange (← rest) then pure none else some <$> rangeBound read
  if isClosed && stop.isNone then fail "expected range upper bound"
  else if start.isNone && stop.isNone then pure Pattern.others
  else pure (Pattern.ofExpression (.range start isClosed stop))

/-- Reads a literal or a constant, or a range that starts with it. -/
def valuePattern (read : PartReader) : Reader Pattern := do
  let start ← rangeBound read
  if ← atMark ".." then rangeFrom read (some start) else pure (Pattern.ofExpression start)

/-! ## Choices and lists -/

/-- Whether the tokens go on with a further pattern of a choice. -/
def startsChoice (tokens : List Token) : Bool :=
  startsMark "|" tokens && !startsMark "||" tokens && !startsMark "|=" tokens

/-- Reads a pattern that may be a choice between several. -/
def choicePattern (read : PartReader) : Reader Pattern := do
  let isMarked ← mark? "|"
  let first ← read.pattern
  let others ← repeated do
    if startsChoice (← rest) then
      skip 1
      some <$> read.pattern
    else pure none
  if isMarked || !others.isEmpty then pure (Pattern.either (first :: others)) else pure first

/-- Reads patterns separated by commas to the end of the group, at most `limit` of them, and says
whether they end in a comma. -/
def patterns (read : PartReader) : Nat → Reader (List Pattern × Bool)
  | 0 => pure ([], false)
  | limit + 1 => do
    if ← atEnd then pure ([], true)
    else
      let first ← choicePattern read
      if ← atEnd then pure ([first], false)
      else
        mark ","
        let (others, endsInComma) ← patterns read limit
        pure (first :: others, endsInComma)

/-- Reads patterns in parentheses. A single one without a comma is no tuple, unless it stands for
all items. -/
def parenPattern (read : PartReader) : Reader Pattern :=
  group .parenthesis do
    match ← patterns read ((← rest).length + 1) with
    | ([p], false) => pure (if p.isRest then Pattern.tuple [p] false else Pattern.paren p)
    | (items, endsInComma) => pure (Pattern.tuple items endsInComma)

/-- Reads patterns in square brackets. -/
def slicePattern (read : PartReader) : Reader Pattern :=
  group .bracket do
    let items ← items do
      let p ← choicePattern read
      if p.isOpenRange then
        throw "range pattern is not allowed unparenthesized inside slice pattern"
      else pure p
    pure (Pattern.slice items)

/-! ## Records and variants -/

/-- Reads a field of a record pattern. -/
def fieldPattern (read : PartReader) (attributes : List Doc) : Reader FieldPattern := do
  let isBoxed ← word? "box"
  let isReference ← word? "ref"
  let isMutable ← word? "mut"
  if isBoxed || isReference || isMutable then
    let name ← identifier
    let p := if isBoxed then Pattern.unwritable else Pattern.named isReference isMutable name none
    pure ⟨attributes, none, p⟩
  else
    let m ← member
    if m.isNumber || (← atMark ":") then
      mark ":"
      pure ⟨attributes, some m.text, ← choicePattern read⟩
    else pure ⟨attributes, none, Pattern.named false false m.text none⟩

/-- Reads the fields of a record pattern, at most `limit` of them, and the attributes of what stands
for further fields. -/
def fieldPatterns (read : PartReader) : Nat → Reader (List FieldPattern × Option (List Doc))
  | 0 => pure ([], none)
  | limit + 1 => do
    if ← atEnd then pure ([], none)
    else
      let attributes ← attributes read
      if ← mark? ".." then pure ([], some attributes)
      else
        let first ← fieldPattern read attributes
        if ← atEnd then pure ([first], none)
        else
          mark ","
          let (others, rest) ← fieldPatterns read limit
          pure (first :: others, rest)

/-- Reads a pattern that starts with a path. -/
def pathPattern (read : PartReader) : Reader Pattern := do
  let p ← qualifiedPath read true
  let tokens ← rest
  let macroName := match p with
    | .plain p => if startsMark "!" tokens && !startsMark "!=" tokens then p.plainText? else none
    | .member .. => none
  match macroName with
  | some name =>
    skip 1
    let (delimiter, tokens) ← anyGroup
    pure (Pattern.ofExpression (Expression.invocation name delimiter tokens))
  | none =>
    if startsGroup .brace tokens then
      group .brace do
        let (fields, others) ← fieldPatterns read ((← rest).length + 1)
        pure (Pattern.record p fields others)
    else if startsGroup .parenthesis tokens then
      group .parenthesis do
        pure (Pattern.variant p (← items (choicePattern read)))
    else if startsMark ".." tokens then rangeFrom read (some (Expression.ofPath p))
    else pure (Pattern.ofExpression (Expression.ofPath p))

/-- Reads a pattern that gives a name to a value. -/
def namePattern (read : PartReader) : Reader Pattern := do
  let isReference ← word? "ref"
  let isMutable ← word? "mut"
  let name ← if ← atWord "self" then anyIdentifier else identifier
  let inner ← if ← mark? "@" then some <$> read.pattern else pure none
  pure (Pattern.named isReference isMutable name inner)

/-! ## Patterns -/

/-- What is wrong where no pattern starts. -/
def notAPattern : List String :=
  ["identifier", "`::`", "`<`", "`_`", "literal", "`const`", "`ref`", "`mut`", "`&`",
   "parentheses", "square brackets", "`..`"]

/-- Whether the tokens start a pattern with a path that is more than a name. -/
def startsPathPattern (tokens : List Token) : Bool :=
  let after := afterOne tokens
  let goesOn := startsMark "::" after || startsMark "!" after || startsGroup .brace after
    || startsGroup .parenthesis after || startsMark ".." after
  (startsIdentifier tokens && goesOn) || (startsWord "self" tokens && startsMark "::" after)
    || startsMark "::" tokens || startsMark "<" tokens
    || startsAnyWord ["Self", "super", "crate"] tokens

/-- Reads a pattern that is no choice between patterns. -/
def singlePattern (read : PartReader) : Reader Pattern := do
  let tokens ← rest
  if startsPathPattern tokens then pathPattern read
  else if startsWord "_" tokens then
    skip 1
    pure Pattern.any
  else if startsWord "box" tokens then
    skip 1
    discard read.pattern
    pure Pattern.unwritable
  else if startsMark "-" tokens || (literalAt tokens).isSome || startsWord "const" tokens then
    valuePattern read
  else if startsAnyWord ["ref", "mut", "self"] tokens || startsIdentifier tokens then
    namePattern read
  else if startsMark "&" tokens then
    skip 1
    let isMutable ← word? "mut"
    Pattern.reference isMutable <$> read.pattern
  else if startsGroup .parenthesis tokens then parenPattern read
  else if startsGroup .bracket tokens then slicePattern read
  else if startsMark ".." tokens && !startsMark "..." tokens then rangeFrom read none
  else failExpecting (if startsMark "..." tokens then notAPattern.dropLast else notAPattern)

end Reader

end BotBindings.Code
