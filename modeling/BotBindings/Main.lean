import BotBindings.Run

/-!
# The program

The command line program: it reads a page from a file, takes the steps of writing on the real files
and reports an error on the error stream. There is no way to download a page here, so an address
ends in an error.
-/

namespace BotBindings

/-- The lines that the program prints when it is asked for help. -/
def helpLines : List String := [
  "Generates Rust bindings from the Telegram Bot API reference",
  "",
  "Usage: dt-botdoc-generator [OPTIONS] [INPUT]",
  "",
  "Arguments:",
  "  [INPUT]  The source file or URL",
  "",
  "Options:",
  "  -o, --output <OUTPUT>              Directory receiving types.rs and the requests module",
  "      --generator <GENERATOR>        Language of the generated code [possible values: rust]",
  "      --types-module <TYPES_MODULE>  Path under which the requests import the types",
  "  -v, --verbose...                   Increase logging verbosity",
  "  -h, --help                         Print help",
  "  -V, --version                      Print version"]

/-- The name and the version of the program. -/
def versionText : String := "dt-botdoc-generator 0.1.0"

/-- What the program says about a command line that it does not take. -/
def UsageError.message : UsageError → String
  | .unknownArgument => "error: unexpected argument found"
  | .invalidValue => "error: invalid or missing value of an option"
  | .argumentConflict => "error: an option cannot be used multiple times"
  | .tooManyValues => "error: unexpected value of an option that takes none"

/-- The reason of a failed operation on real files. -/
def reasonOf : IO.Error → String
  | .noFileOrDirectory .. => FileError.notFound.message
  | .alreadyExists .. => FileError.alreadyExists.message
  | .inappropriateType _ 20 _ => FileError.notDirectory.message
  | .inappropriateType _ 21 _ => FileError.isDirectory.message
  | e => e.toString

/-- Takes a step of writing on the real files. -/
def OutputStep.perform : OutputStep → IO Unit
  | .createAll path => unless path.text.isEmpty do IO.FS.createDirAll path.text
  | .create path => IO.FS.createDir path.text
  | .clear path =>
    try IO.FS.removeDirAll path.text
    catch e => match e with
      | .noFileOrDirectory .. => pure ()
      | e => throw e
  | .write path text => IO.FS.writeFile path.text text

/-- Takes steps of writing on the real files until one fails. -/
def performAll : List OutputStep → IO (Option RunError)
  | [] => pure none
  | step :: rest => do
    match ← step.perform.toBaseIO with
    | .ok () => performAll rest
    | .error e => pure (some (.output (step.failure (reasonOf e))))

/-- Gets the text of the page that a run reads. -/
def loadRealPage (input : String) : IO (Except RunError String) := do
  if (Address.ofText? input).isSome then
    let t := FileTree.empty {}
    return loadPage (fun _ => .error "error sending request") input t
  match ← (IO.FS.readFile input).toBaseIO with
  | .ok page => return .ok page
  | .error e => return .error (.readInput ⟨input⟩ (reasonOf e))

/-- Runs the program on the real files. -/
def performRun (arguments : Arguments) : IO (Option RunError) := do
  match ← loadRealPage arguments.input with
  | .error e => return some e
  | .ok page =>
    match bindings page arguments.typesModule with
    | .error e => return some e
    | .ok code => performAll (code.outputSteps ⟨arguments.output⟩)

/-- Runs the program on the words of its command line and gives its exit code. -/
def program (words : List String) : IO UInt32 := do
  match Arguments.ofWords words with
  | .error .help =>
    IO.println ("\n".intercalate helpLines)
    return 0
  | .error .version =>
    IO.println versionText
    return 0
  | .error (.misuse e) =>
    IO.eprintln e.message
    return 2
  | .ok arguments =>
    match ← performRun arguments with
    | none => return 0
    | some e =>
      match e.log? with
      | some text => IO.eprintln ("ERROR " ++ text)
      | none => IO.eprintln "no identifier can be made from a name"
      return e.exitCode.toUInt32

end BotBindings

/-- Runs the program. -/
def main (words : List String) : IO UInt32 :=
  BotBindings.program words
