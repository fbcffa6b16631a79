/-!
# Identifiers of generated code

Names of the interface become identifiers of generated code: characters that no identifier holds are
replaced by underscores, a digit at the start gets an underscore before it, and a keyword is
escaped. Of two equal names in one scope the later one is numbered.
-/

namespace BotBindings.Code

/-- The words that are no plain identifiers. -/
def keywords : List String :=
  ["as", "break", "const", "continue", "crate", "else", "enum", "extern", "false", "fn", "for",
   "if", "impl", "in", "let", "loop", "match", "mod", "move", "mut", "pub", "ref", "return",
   "self", "Self", "static", "struct", "super", "trait", "true", "type", "unsafe", "use", "where",
   "while", "async", "await", "dyn", "abstract", "become", "box", "do", "final", "macro",
   "override", "priv", "typeof", "unsized", "virtual", "yield", "try"]

/-- The keywords that cannot be escaped. They get an underscore at the end. -/
def pathKeywords : List String := ["crate", "self", "super", "Self"]

/-- An identifier of generated code. -/
structure Identifier where
  /-- The name itself. -/
  text : String
  /-- Whether the name is a keyword and needs an escape. -/
  escaped : Bool := false
  deriving DecidableEq, Repr

/-- The identifier as it is written. -/
def Identifier.source (i : Identifier) : String :=
  if i.escaped then "r#" ++ i.text else i.text

/-- The identifier's name for the serialised form, where every escape is dropped. -/
def Identifier.serialName (i : Identifier) : String :=
  i.text

/-- The characters of a name with those replaced that no identifier holds. -/
def sanitize (name : List Char) : List Char :=
  let replaced := name.map fun c => if c.isAlphanum || c == '_' then c else '_'
  match replaced with
  | [] => ['_']
  | c :: _ => if c.isDigit then '_' :: replaced else replaced

/-- The identifier of a name. -/
def Identifier.ofName (name : String) : Identifier :=
  let text := String.ofList (sanitize name.toList)
  if pathKeywords.contains text then ⟨text ++ "_", false⟩
  else ⟨text, keywords.contains text⟩

/-- Whether the identifier is a lone underscore, which stands for having no name. Only the fields of
generated types can do without one. -/
def Identifier.isAnonymous (i : Identifier) : Bool :=
  i.text == "_"

/-- The first of `name` with the numbers `n`, `n + 1` and so on that is not taken; `left` bounds how
many are tried. -/
def firstFree (taken : List String) (name : String) : Nat → Nat → String
  | 0, n => name ++ toString n
  | left + 1, n =>
    let candidate := name ++ toString n
    if taken.contains candidate then firstFree taken name left (n + 1) else candidate

/-- A name that is not taken: the name itself, or else the name with the smallest number from 2 on
that is free. Among one more numbers than there are taken names one is free. -/
def uniqueName (taken : List String) (name : String) : String :=
  if taken.contains name then firstFree taken name taken.length 2 else name

end BotBindings.Code
