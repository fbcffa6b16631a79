import BotBindings.Address.NameChar
import BotBindings.Address.Punycode
import BotBindings.Text.Composition
import BotBindings.Text.Direction
import BotBindings.Text.Joining
import BotBindings.Text.Split

/-!
# Names of hosts

A name consists of labels between points. Whichever way its letters were written, it is read in one
form. A label may be any word, which may be written in ASCII; but it does not start with a mark, has
marks that join letters only where they do, and if one label of a name is written from right to left
then every label has one direction throughout.
-/

namespace BotBindings.Address

open Text

/-- Whether no name of a host has a character. -/
def isForbidden (c : Char) : Bool :=
  c.toNat ≤ 0x20 || c.toNat == 0x7f || "%#/:<>?@[\\]^`\x7b|\x7d".toList.contains c

/-! ## Joiners -/

/-- Keeps its neighbours apart. -/
def nonJoiner : Char := '\u200c'

/-- Joins its neighbours. -/
def joiner : Char := '\u200d'

/-- The class of the marks that take the vowel away from a letter. -/
def silencingClass : Nat := 9

/-- Whether a joiner of either kind makes a difference between what stands before it, read backward,
and what follows it. -/
def joinerFits (c : Char) (before after : List Char) : Bool :=
  let next (s : List Char) : Option Char := (s.dropWhile isTransparent).head?
  match before with
  | [] => false
  | previous :: _ =>
    markClass previous == silencingClass
      || (c == nonJoiner && (next before).any joinsNext && (next after).any joinsPrevious)

/-- Whether all joiners make a difference in a label, of which `before` was read, the last character
first. -/
def joinersFit (before : List Char) : List Char → Bool
  | [] => true
  | c :: after =>
    ((c != nonJoiner && c != joiner) || joinerFits c before after) && joinersFit (c :: before) after

/-! ## Directions -/

/-- Whether a label is written from right to left, at least in part. -/
def turnsLeft (label : List Char) : Bool :=
  label.any fun c => Direction.of c == .rightToLeft || Direction.of c == .arabicDigit

/-- Whether a label has the directions of a label that is written from left to right. -/
def goesRight (directions : List Direction) : Bool :=
  directions.all (fun d => d != .rightToLeft && d != .arabicDigit)
    && match (directions.reverse.dropWhile (· == .mark)).head? with
      | some d => d == .leftToRight || d == .digit
      | none => false

/-- Whether a label has the directions of a label that is written from right to left, where digits
are all of one kind. -/
def goesLeft (directions : List Direction) : Bool :=
  directions.all (· != .leftToRight)
    && !(directions.contains .digit && directions.contains .arabicDigit)
    && match (directions.reverse.dropWhile (· == .mark)).head? with
      | some d => d == .rightToLeft || d == .digit || d == .arabicDigit
      | none => false

/-- Whether a label has one direction throughout, which its first letter shows. -/
def hasOneDirection (label : List Char) : Bool :=
  match label.map Direction.of with
  | [] => true
  | .leftToRight :: rest => goesRight (.leftToRight :: rest)
  | .rightToLeft :: rest => goesLeft (.rightToLeft :: rest)
  | _ => false

/-! ## Labels -/

/-- Whether a label with characters beyond ASCII is a word. -/
def isWord (label : List Char) : Bool :=
  !label.head?.any isMark && joinersFit [] label

/-- The word that stands in ASCII behind the mark of such labels. It must have characters beyond
ASCII, and be in the form that names are read in. -/
def encodedWord? (s : List Char) : Option (List Char) := do
  if s.isEmpty || s.getLast? == some '-' || s.any (0x80 ≤ ·.toNat) then none
  else
    let word ← Punycode.decode? s
    if word.all isSettled && normalForm word == word && isWord word
        && (stripFront "xn--".toList word).isNone then some word
    else none

/-- The word that a label stands for, if it is a label. -/
def label? (s : List Char) : Option (List Char) :=
  match stripFront "xn--".toList s with
  | some encoded => encodedWord? encoded
  | none => if s.all (fun c => c.toNat < 0x80) || isWord s then some s else none

/-- The labels of a name, if it is one. -/
def labels? (name : List Char) : Option (List (List Char)) := do
  let forms ← name.mapM nameForm?
  let name := normalForm forms.flatten
  if name.any isForbidden then none
  else
    let labels ← (split ['.'] name).mapM label?
    if labels.any turnsLeft && !labels.all hasOneDirection then none else some labels

end BotBindings.Address
