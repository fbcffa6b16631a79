/-!
# Type expressions

The reference describes field and return types in prose. A type expression is what such a phrase
means: a scalar, a named object, an array, a union, an uploaded file or a chat identifier. Every
expression has a canonical text, in which `[]` marks an array and ` or ` separates the alternatives
of a union.
-/

namespace BotBindings

/-- The primitive types of the reference. -/
inductive Scalar
  | string
  | int64
  | float64
  | bool
  deriving DecidableEq, Repr

/-- The canonical word of a scalar. -/
def Scalar.token : Scalar → String
  | .string => "string"
  | .int64 => "int64"
  | .float64 => "float64"
  | .bool => "bool"

/-- The meaning of a type phrase. -/
inductive TypeExpr
  | scalar (scalar : Scalar)
  /-- An object, possibly one that no section of the reference defines. -/
  | named (name : String)
  | array (element : TypeExpr)
  /-- One of several alternatives. -/
  | union (alternatives : List TypeExpr)
  /-- An uploaded file or a reference to one. -/
  | inputFile
  /-- An integer or a string that identifies a chat. -/
  | chatId
  deriving Repr

instance : Inhabited TypeExpr := ⟨.scalar .string⟩

namespace TypeExpr

mutual

/-- Structural equality. -/
def beq : TypeExpr → TypeExpr → Bool
  | .scalar a, .scalar b => a == b
  | .named a, .named b => a == b
  | .array a, .array b => beq a b
  | .union as, .union bs => beqList as bs
  | .inputFile, .inputFile => true
  | .chatId, .chatId => true
  | _, _ => false

/-- Structural equality of lists of expressions. -/
def beqList : List TypeExpr → List TypeExpr → Bool
  | [], [] => true
  | a :: as, b :: bs => beq a b && beqList as bs
  | _, _ => false

end

mutual

private theorem eq_of_beq {a b : TypeExpr} (h : beq a b = true) : a = b := by
  cases a <;> cases b <;> simp_all [beq]
  case array a b => exact eq_of_beq h
  case union as bs => exact eq_of_beqList h

private theorem eq_of_beqList {as bs : List TypeExpr} (h : beqList as bs = true) : as = bs := by
  cases as <;> cases bs <;> simp_all [beqList]
  case cons a as b bs => exact ⟨eq_of_beq h.1, eq_of_beqList h.2⟩

end

mutual

private theorem beq_self (a : TypeExpr) : beq a a = true := by
  cases a <;> simp [beq]
  case array a => exact beq_self a
  case union as => exact beqList_self as

private theorem beqList_self (as : List TypeExpr) : beqList as as = true := by
  cases as <;> simp [beqList]
  case cons a as => exact ⟨beq_self a, beqList_self as⟩

end

instance : DecidableEq TypeExpr := fun a b =>
  if h : beq a b = true then isTrue (eq_of_beq h)
  else isFalse fun heq => h (heq ▸ beq_self a)

mutual

/-- The characters of the canonical text. -/
def canonicalChars : TypeExpr → List Char
  | .scalar s => s.token.toList
  | .named name => name.toList
  | .array element => '[' :: ']' :: canonicalChars element
  | .union alternatives => joinedChars alternatives
  | .inputFile => "InputFile".toList
  | .chatId => "ChatId".toList

/-- The canonical texts of several expressions, joined by ` or `. -/
def joinedChars : List TypeExpr → List Char
  | [] => []
  | [e] => canonicalChars e
  | e :: rest => canonicalChars e ++ " or ".toList ++ joinedChars rest

end

/-- The canonical text of a scalar is its token. -/
@[simp] theorem canonicalChars_scalar (scalar : Scalar) :
    canonicalChars (.scalar scalar) = scalar.token.toList := rfl

/-- The canonical text of a named type is its name. -/
@[simp] theorem canonicalChars_named (name : String) :
    canonicalChars (.named name) = name.toList := rfl

/-- The canonical text of an array puts brackets before that of its elements. -/
@[simp] theorem canonicalChars_array (element : TypeExpr) :
    canonicalChars (.array element) = '[' :: ']' :: canonicalChars element := rfl

/-- The canonical text of a union joins those of its alternatives. -/
@[simp] theorem canonicalChars_union (alternatives : List TypeExpr) :
    canonicalChars (.union alternatives) = joinedChars alternatives := rfl

/-- An upload has its type name for its canonical text. -/
@[simp] theorem canonicalChars_inputFile : canonicalChars .inputFile = "InputFile".toList := rfl

/-- A chat identifier has its type name for its canonical text. -/
@[simp] theorem canonicalChars_chatId : canonicalChars .chatId = "ChatId".toList := rfl

/-- Two alternatives that follow each other are joined by the word between them. -/
theorem joinedChars_cons_cons (e next : TypeExpr) (rest : List TypeExpr) :
    joinedChars (e :: next :: rest)
      = canonicalChars e ++ " or ".toList ++ joinedChars (next :: rest) := rfl

/-- The canonical text. -/
def canonical (e : TypeExpr) : String :=
  String.ofList e.canonicalChars

/-- Whether the expression is a union. -/
def isUnion : TypeExpr → Bool
  | .union _ => true
  | _ => false

/-- The alternatives of a union; any other expression is its own only alternative. -/
def alternatives : TypeExpr → List TypeExpr
  | .union alternatives => alternatives
  | e => [e]

/-- The expression without its outermost array marker, if it has one. -/
def stripArray : TypeExpr → TypeExpr
  | .array element => element
  | e => e

/-- The name of a named object. -/
def typeName? : TypeExpr → Option String
  | .named name => some name
  | _ => none

/-- Whether a value may be an uploaded file, directly or as an alternative. -/
def admitsInputFile (e : TypeExpr) : Bool :=
  e.alternatives.any (· == .inputFile)

end TypeExpr

end BotBindings
