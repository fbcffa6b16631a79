import BotBindings.Text.Alphanumeric
import BotBindings.Text.CaseMap
import BotBindings.Text.Lowercase
import BotBindings.Text.Uppercase

/-!
# Snake case and pascal case

Names are recased word by word. Words end at every character that is neither a letter nor a number,
between a lowercase letter and an uppercase one (`chatId`), and before the last capital of a run of
capitals that a lowercase letter follows (`HTTPInfo` has the words `HTTP` and `Info`).
-/

namespace BotBindings.Text

/-- The last cased letter seen in the current word. -/
inductive LastCase
  /-- The word has no cased letter yet. -/
  | none
  /-- The last cased letter is lowercase. -/
  | lower
  /-- The last cased letter is uppercase. -/
  | upper
  deriving DecidableEq

/-- The last cased letter once `c` belongs to the word. -/
def LastCase.after (last : LastCase) (c : Char) : LastCase :=
  if isLowercase c then .lower else if isUppercase c then .upper else last

/-- Splits letters and numbers into the words of a name; `word` is the part of the current word
already read and `last` its last cased letter. -/
def caseWordsFrom (word : List Char) (last : LastCase) : List Char → List (List Char)
  | [] => if word.isEmpty then [] else [word]
  | [c] => [word ++ [c]]
  | c :: next :: rest =>
    let after := last.after c
    if after = .lower && isUppercase next then
      (word ++ [c]) :: caseWordsFrom [] .none (next :: rest)
    else if last = .upper && isUppercase c && isLowercase next then
      word :: caseWordsFrom [c] .none (next :: rest)
    else caseWordsFrom (word ++ [c]) after (next :: rest)

/-- The maximal runs of letters and numbers, where `run` is the part of the current run already
read. -/
def alphanumericRunsFrom (run : List Char) : List Char → List (List Char)
  | [] => if run.isEmpty then [] else [run]
  | c :: rest =>
    if isAlphanumeric c then alphanumericRunsFrom (run ++ [c]) rest
    else if run.isEmpty then alphanumericRunsFrom [] rest
    else run :: alphanumericRunsFrom [] rest

/-- The words of a name. -/
def caseWords (s : List Char) : List (List Char) :=
  (alphanumericRunsFrom [] s).flatMap (caseWordsFrom [] .none)

/-- A word in lowercase. A sigma that ends the word takes its final form. -/
def lowerWord : List Char → List Char
  | [] => []
  | [c] => if c = 'Σ' then ['ς'] else toLowercase c
  | c :: rest => toLowercase c ++ lowerWord rest

/-- A word in lowercase with its first letter in uppercase. -/
def capitalWord : List Char → List Char
  | [] => []
  | c :: rest => toUppercase c ++ lowerWord rest

/-- The name in lowercase words joined by underscores. -/
def snakeCase (name : String) : String :=
  String.ofList (((caseWords name.toList).map lowerWord).intersperse ['_']).flatten

/-- The name in capitalised words joined by nothing. -/
def pascalCase (name : String) : String :=
  String.ofList ((caseWords name.toList).map capitalWord).flatten

end BotBindings.Text
