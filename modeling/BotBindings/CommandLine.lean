import BotBindings.Code.Generate

/-!
# The command line

One word may name the page to read, and options say where the files go and how requests refer to
the types. A word after `--` is never an option. An option takes the next word as its value unless
that word begins with a dash, or takes what is attached to it.

The value of an option that is not attached is looked at only when the next option or page, or the
end, is reached, so an unknown option behind a bad value is what is reported.
-/

namespace BotBindings

/-- A language for which code can be generated. -/
inductive Language
  | rust
  deriving DecidableEq, Repr

/-- The language that a word names. -/
def Language.ofName? (name : String) : Option Language :=
  if name == "rust" then some .rust else none

/-- What the command line asks for. -/
structure Arguments where
  /-- The page to read: a file or an address. -/
  input : String := "https://core.telegram.org/bots/api"
  /-- The directory that receives the files. -/
  output : String := "api"
  /-- The language of the generated code. -/
  language : Language := .rust
  /-- The path under which requests import the types. -/
  typesModule : String := defaultTypesModule
  /-- How often more messages were asked for, counted up to 255. -/
  verbose : Nat := 0
  deriving DecidableEq, Repr

/-- What is wrong with a command line. -/
inductive UsageError
  /-- There is no such option, or no room for one more word. -/
  | unknownArgument
  /-- An option has no value, or one that it does not take. -/
  | invalidValue
  /-- An option with a value is given twice. -/
  | argumentConflict
  /-- An option that takes no value has one. -/
  | tooManyValues
  deriving DecidableEq, Repr

/-- Why a command line does not lead to a run. -/
inductive Stop
  | help
  | version
  | misuse (e : UsageError)
  deriving DecidableEq, Repr

/-- The exit code of a program that stops at its command line. -/
def Stop.exitCode : Stop → Nat
  | .help => 0
  | .version => 0
  | .misuse _ => 2

/-- An option that takes a value. -/
inductive Setting
  | output
  | generator
  | typesModule
  deriving DecidableEq, Repr

/-- An option. -/
inductive CommandOption
  | help
  | version
  | verbose
  | setting (s : Setting)
  deriving DecidableEq, Repr

namespace CommandOption

/-- The option with a name of one letter. -/
def ofLetter? : Char → Option CommandOption
  | 'h' => some .help
  | 'V' => some .version
  | 'v' => some .verbose
  | 'o' => some (.setting .output)
  | _ => none

/-- The option with a long name. -/
def ofName? (name : String) : Option CommandOption :=
  match name with
  | "help" => some .help
  | "version" => some .version
  | "verbose" => some .verbose
  | "output" => some (.setting .output)
  | "generator" => some (.setting .generator)
  | "types-module" => some (.setting .typesModule)
  | _ => none

end CommandOption

/-- The state of reading a command line. -/
structure ArgumentReading where
  /-- The word that is no option. -/
  input : Option String := none
  /-- The value given for the directory. -/
  output : Option String := none
  /-- The value given for the language. -/
  language : Option Language := none
  /-- The value given for the path of the types. -/
  typesModule : Option String := none
  /-- How often more messages were asked for. -/
  verbose : Nat := 0
  /-- An option with a value that is still to be looked at, and that value if it came. -/
  pending : Option (Setting × Option String) := none
  deriving DecidableEq, Repr

namespace ArgumentReading

/-- Gives a setting a value that was not given before. -/
def assign (s : ArgumentReading) (setting : Setting) (value : Option String) :
    Except Stop ArgumentReading :=
  match value, setting with
  | none, _ => .error (.misuse .invalidValue)
  | some value, .output =>
    if s.output.isSome then .error (.misuse .argumentConflict)
    else if value.isEmpty then .error (.misuse .invalidValue)
    else .ok { s with output := some value }
  | some value, .generator =>
    if s.language.isSome then .error (.misuse .argumentConflict)
    else match Language.ofName? value with
      | none => .error (.misuse .invalidValue)
      | some language => .ok { s with language := some language }
  | some value, .typesModule =>
    if s.typesModule.isSome then .error (.misuse .argumentConflict)
    else .ok { s with typesModule := some value }

/-- Looks at the option that is pending. -/
def settle (s : ArgumentReading) : Except Stop ArgumentReading :=
  match s.pending with
  | none => .ok s
  | some (setting, value) => { s with pending := none }.assign setting value

/-- Takes an option that has no value attached. -/
def takeOption (s : ArgumentReading) (option : CommandOption) : Except Stop ArgumentReading :=
  match s.settle with
  | .error stop => .error stop
  | .ok s =>
    match option with
    | .help => .error .help
    | .version => .error .version
    | .verbose => .ok { s with verbose := min (s.verbose + 1) 255 }
    | .setting setting => .ok { s with pending := some (setting, none) }

/-- Takes an option with the value that is attached to it. -/
def takeAttached (s : ArgumentReading) (option : CommandOption) (value : String) :
    Except Stop ArgumentReading :=
  match option with
  | .setting setting =>
    match s.settle with
    | .error stop => .error stop
    | .ok s => s.assign setting (some value)
  | _ => .error (.misuse .tooManyValues)

/-- Takes options of one letter. The letters behind one that takes a value are its value. -/
def takeLetters (s : ArgumentReading) : List Char → Except Stop ArgumentReading
  | [] => .ok s
  | letter :: rest =>
    match CommandOption.ofLetter? letter, rest with
    | none, _ => .error (.misuse .unknownArgument)
    | some (.setting setting), '=' :: value =>
      s.takeAttached (.setting setting) (String.ofList value)
    | some (.setting setting), c :: value =>
      s.takeAttached (.setting setting) (String.ofList (c :: value))
    | some option, rest =>
      match s.takeOption option with
      | .error stop => .error stop
      | .ok s => s.takeLetters rest

/-- Takes an option with a long name, which ends at the first equals sign. -/
def takeLong (s : ArgumentReading) (body : List Char) : Except Stop ArgumentReading :=
  match CommandOption.ofName? (String.ofList (body.takeWhile (· != '='))) with
  | none => .error (.misuse .unknownArgument)
  | some option =>
    match body.dropWhile (· != '=') with
    | [] => s.takeOption option
    | _ :: value => s.takeAttached option (String.ofList value)

/-- Takes a word that is no option. There is room for one. -/
def takePlain (s : ArgumentReading) (word : String) : Except Stop ArgumentReading :=
  if s.input.isSome then .error (.misuse .unknownArgument)
  else match s.settle with
    | .error stop => .error stop
    | .ok s => .ok { s with input := some word }

/-- Takes the words after `--`. -/
def takePlainWords (s : ArgumentReading) : List String → Except Stop ArgumentReading
  | [] => .ok s
  | word :: rest =>
    match s.takePlain word with
    | .error stop => .error stop
    | .ok s => s.takePlainWords rest

/-- Takes one word before `--`. -/
def takeWord (s : ArgumentReading) (word : String) : Except Stop ArgumentReading :=
  match word.toList with
  | '-' :: '-' :: body => s.takeLong body
  | '-' :: c :: letters => s.takeLetters (c :: letters)
  | _ =>
    match s.pending with
    | some (setting, none) => .ok { s with pending := some (setting, some word) }
    | _ => s.takePlain word

/-- Takes the words of a command line. -/
def takeWords (s : ArgumentReading) : List String → Except Stop ArgumentReading
  | [] => .ok s
  | word :: rest =>
    if word == "--" then s.takePlainWords rest
    else match s.takeWord word with
      | .error stop => .error stop
      | .ok s => s.takeWords rest

end ArgumentReading

/-- What a command line asks for. What it leaves open has the usual value. -/
def Arguments.ofWords (words : List String) : Except Stop Arguments :=
  match ({} : ArgumentReading).takeWords words with
  | .error stop => .error stop
  | .ok s =>
    match s.settle with
    | .error stop => .error stop
    | .ok s =>
      let usual : Arguments := {}
      .ok {
        input := s.input.getD usual.input
        output := s.output.getD usual.output
        language := s.language.getD usual.language
        typesModule := s.typesModule.getD usual.typesModule
        verbose := s.verbose }

end BotBindings
