import BotBindings.Code.Generate
import BotBindings.Files.Tree

/-!
# Writing the generated files

The files go into one directory: `types.rs` beside a directory `requests`, which holds `mod.rs` and
one file for each request. The directory of the requests is made anew, so that no file of an
operation that is gone stays behind. Writing is a fixed list of steps and stops at the first step
that fails; what the steps before it did stays done.
-/

namespace BotBindings

/-- One step of writing. -/
inductive OutputStep
  /-- Creates a directory with the directories above it that are missing. -/
  | createAll (path : Path)
  /-- Creates one directory. -/
  | create (path : Path)
  /-- Removes a directory that may be there, with all it holds. -/
  | clear (path : Path)
  /-- Writes a file. -/
  | write (path : Path) (text : String)
  deriving DecidableEq, Repr

/-- What failed in a step that failed. -/
inductive OutputErrorKind
  | createDir
  | removeDir
  | write
  deriving DecidableEq, Repr

/-- Why writing stopped. -/
structure OutputError where
  /-- What failed. -/
  kind : OutputErrorKind
  /-- The path that it failed on. -/
  path : Path
  /-- The reason that the system gives. -/
  reason : String
  deriving DecidableEq, Repr

/-- The text of an error without its reason. -/
def OutputError.message (e : OutputError) : String :=
  match e.kind with
  | .createDir => "failed to create directory " ++ e.path.text
  | .removeDir => "failed to clear directory " ++ e.path.text
  | .write => "failed to write " ++ e.path.text

namespace OutputStep

/-- The error of a step that fails. -/
def failure (step : OutputStep) (reason : String) : OutputError :=
  match step with
  | .createAll path => ⟨.createDir, path, reason⟩
  | .create path => ⟨.createDir, path, reason⟩
  | .clear path => ⟨.removeDir, path, reason⟩
  | .write path _ => ⟨.write, path, reason⟩

/-- The tree after a step, unchanged if the step fails before it did anything. -/
def settle (t : FileTree) : Except FileError FileTree → FileTree × Option FileError
  | .ok t => (t, none)
  | .error e => (t, some e)

/-- Takes a step. It does not matter whether a directory to clear was there. -/
def apply (step : OutputStep) (t : FileTree) : FileTree × Option FileError :=
  match step with
  | .createAll path => t.createDirAll path
  | .create path => settle t (t.createDir path)
  | .clear path =>
    match t.removeDirAll path with
    | .error .notFound => (t, none)
    | cleared => settle t cleared
  | .write path text => settle t (t.writeFile path text)

/-- Takes steps until one fails. -/
def applyAll (t : FileTree) : List OutputStep → FileTree × Option OutputError
  | [] => (t, none)
  | step :: rest =>
    match step.apply t with
    | (t, none) => applyAll t rest
    | (t, some e) => (t, some (step.failure e.message))

end OutputStep

namespace GeneratedCode

/-- The name of the file of all types. -/
def typesFile : String := "types.rs"

/-- The name of the directory of the requests. -/
def requestsDir : String := "requests"

/-- The name of the file that declares the request files. -/
def requestsModFile : String := "mod.rs"

/-- The steps that write generated code into a directory. -/
def outputSteps (code : GeneratedCode) (dir : Path) : List OutputStep :=
  let requests := dir.join requestsDir
  [.createAll dir, .write (dir.join typesFile) code.types, .clear requests, .create requests]
    ++ code.requests.map (fun request =>
      .write (requests.join (request.fileStem ++ ".rs")) request.source)
    ++ [.write (requests.join requestsModFile) code.requestsMod]

/-- Writes generated code into a directory. -/
def writeTo (code : GeneratedCode) (dir : Path) (t : FileTree) : FileTree × Option OutputError :=
  OutputStep.applyAll t (code.outputSteps dir)

end GeneratedCode

end BotBindings
