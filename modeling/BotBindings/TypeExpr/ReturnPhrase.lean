import BotBindings.Text.WordChar
import BotBindings.TypeExpr.Phrase

/-!
# Return phrases

A description states what an operation returns in a sentence such as `Returns an Array of Update
objects.` or `On success, the sent Message is returned.` A reading of a description is an opening
(`Returns` or `On success,`), a gap within the same line, the type phrase and a closing. Of all
readings the one with the earliest opening counts, and among those the one with the shortest gap.
-/

namespace BotBindings.ReturnPhrase

open Text

/-- What follows the first of several texts that `s` starts with. -/
def stripAny (fronts : List (List Char)) (s : List Char) : Option (List Char) :=
  fronts.findSome? fun front => stripFront front s

/-- The texts that open a return phrase. -/
def openings : List (List Char) :=
  ["Returns".toList, "On success,".toList]

/-- The texts that may stand between the type and the closing. -/
def qualifiers : List (List Char) :=
  [" that were sent".toList, " of the sent messages".toList, " of the sent message".toList]

/-- The texts that close a return phrase. -/
def closings : List (List Char) :=
  [" object".toList, " is returned".toList, " on success".toList]

/-- Whether a closing follows here, possibly after a qualifier. -/
def closes (s : List Char) : Bool :=
  (stripAny closings s).isSome ||
    qualifiers.any fun qualifier =>
      ((stripFront qualifier s).bind (stripAny closings)).isSome

/-- The object name at the start of `s`, with what follows it: a capital letter and all the word
characters after it, of which there is at least one. -/
def nameAt : List Char → Option (List Char × List Char)
  | c :: rest =>
    let word := rest.takeWhile isWordChar
    if 'A' ≤ c ∧ c ≤ 'Z' ∧ word ≠ [] then some (c :: word, rest.dropWhile isWordChar) else none
  | [] => none

/-- The type phrase at the start of `s` if a closing follows it. The array marker belongs to the
phrase where that is possible. -/
def typePhraseAt (s : List Char) : Option (List Char) :=
  let closed (front rest : List Char) : Option (List Char) :=
    (nameAt rest).bind fun (name, after) => if closes after then some (front ++ name) else none
  let marked : Option (List Char) :=
    ["Array of ".toList, "array of ".toList].findSome? fun marker =>
      (stripFront marker s).bind (closed marker)
  match marked with
  | some phrase => some phrase
  | none => closed [] s

/-- The first type phrase of the line. -/
def afterOpening : List Char → Option (List Char)
  | [] => none
  | c :: rest =>
    match typePhraseAt (c :: rest) with
    | some phrase => some phrase
    | none => if c = '\n' then none else afterOpening rest

/-- The type phrase of the earliest reading. -/
def find : List Char → Option (List Char)
  | [] => none
  | c :: rest =>
    match (stripAny openings (c :: rest)).bind afterOpening with
    | some phrase => some phrase
    | none => find rest

end BotBindings.ReturnPhrase

namespace BotBindings

/-- The return type that a description states, if it states one in a form that is understood. -/
def TypeExpr.returned? (description : String) : Option TypeExpr :=
  (ReturnPhrase.find description.toList).map Phrase.read

end BotBindings
