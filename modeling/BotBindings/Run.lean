import BotBindings.Address
import BotBindings.CommandLine
import BotBindings.Files.Output
import BotBindings.Page.Extract

/-!
# A run

A run reads a page, extracts the reference, generates code from it and writes the code. The stages
before the last one only read, so a run that fails in them leaves the files as they were.

How a page is downloaded is left to the caller.
-/

namespace BotBindings

/-- Why a run failed. -/
inductive RunError
  /-- The page could not be downloaded. -/
  | fetch (address reason : String)
  /-- The page could not be read. -/
  | readInput (path : Path) (reason : String)
  /-- The page holds no reference that can be read. -/
  | extract (e : ExtractError)
  /-- No code could be generated. -/
  | render (e : GenerateError)
  /-- The code could not be written. -/
  | output (e : OutputError)
  deriving DecidableEq, Repr

namespace RunError

/-- The text of an error without its cause. There is none where generating code has no report. -/
def message? : RunError → Option String
  | .fetch address _ => some ("failed to fetch " ++ address)
  | .readInput path _ => some ("failed to read " ++ path.text)
  | .extract _ => some "failed to extract the API reference"
  | .render e => e.report?.map fun (item, reason) => renderMessage item reason
  | .output e => some e.message

/-- The cause of an error, where it is not part of its text. -/
def cause? : RunError → Option String
  | .fetch _ reason => some reason
  | .readInput _ reason => some reason
  | .extract e => some e.message
  | .render _ => none
  | .output e => some e.reason

/-- The text of an error followed by its cause. -/
def report? (e : RunError) : Option String :=
  e.message?.map fun message =>
    match e.cause? with
    | none => message
    | some cause => message ++ ": " ++ cause

/-- A character of a log, where no control changes how the log is shown. Only tabs and ends of lines
are left as they are. -/
def logged (c : Char) : String :=
  let code := String.ofList (Nat.toDigits 16 c.toNat)
  if [0x07, 0x08, 0x0c, 0x1b, 0x7f].contains c.toNat then
    "\\x" ++ (if c.toNat < 0x10 then "0" else "") ++ code
  else if 0x80 ≤ c.toNat && c.toNat < 0xa0 then "\\u\x7b" ++ code ++ "\x7d"
  else c.toString

/-- The text of an error in a log. -/
def log? (e : RunError) : Option String :=
  e.report?.map fun report => String.join (report.toList.map logged)

/-- The exit code of a program that ends with an error. -/
def exitCode (e : RunError) : Nat :=
  if e.message?.isSome then 1 else 101

end RunError

/-- The code generated from the text of a page. -/
def bindings (page typesModule : String) : Except RunError GeneratedCode :=
  match (extract page).result with
  | .error e => .error (.extract e)
  | .ok registry =>
    match generate registry typesModule with
    | .error e => .error (.render e)
    | .ok code => .ok code

/-- Gets the text of the page that a run reads. An address is checked before it is downloaded; any
text that is no address is taken for a path. -/
def loadPage (download : String → Except String String) (input : String) (t : FileTree) :
    Except RunError String :=
  match Address.ofText? input with
  | some address =>
    match address.check with
    | .error e => .error (.fetch input e.message)
    | .ok () => (download input).mapError fun reason => .fetch input reason
  | none => (t.readFile ⟨input⟩).mapError fun e => .readInput ⟨input⟩ e.message

/-- The code that a run is to write. -/
def prepare (download : String → Except String String) (arguments : Arguments) (t : FileTree) :
    Except RunError GeneratedCode :=
  match loadPage download arguments.input t with
  | .error e => .error e
  | .ok page =>
    match arguments.language with
    | .rust => bindings page arguments.typesModule

/-- Runs the program on a tree of files. -/
def run (download : String → Except String String) (arguments : Arguments) (t : FileTree) :
    FileTree × Option RunError :=
  match prepare download arguments t with
  | .error e => (t, some e)
  | .ok code =>
    match code.writeTo ⟨arguments.output⟩ t with
    | (t, none) => (t, none)
    | (t, some e) => (t, some (.output e))

end BotBindings
