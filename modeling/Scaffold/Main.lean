import Scaffold.Command.Run

/-!
# The program

The command with the files and variables of the process.
-/

namespace Scaffold.Program

open Command

/-- The outcome of an action, of whose errors only the words are kept. -/
def attempt {α : Type} (action : IO α) : IO (Except String α) := do
  try
    pure (.ok (← action))
  catch error =>
    pure (.error (toString error))

/-- Whether an action succeeds and says yes. -/
def succeeds (action : IO Bool) : IO Bool := do
  match ← attempt action with
  | .ok yes => pure yes
  | .error _ => pure false

def isFolderOnDisk (path : String) : IO Bool :=
  succeeds do (← IO.FS.realPath path).isDir

def isThereOnDisk (path : String) : IO Bool :=
  succeeds do (← IO.FS.realPath path).pathExists

/-- A path below a folder. -/
def below (folder path : String) : String :=
  if folder = "" then path else if path = "" then folder else folder ++ "/" ++ path

/-- Writes a text to a file, to a new one unless it may be overwritten. -/
def writeOnDisk (folder : String) (overwrite : Bool) (path : RelativePath)
    (artifact : Artifact) : IO (Except Failure Unit) := do
  let parent := below folder (Text.join "/" path.names.dropLast)
  try
    unless parent = "" do IO.FS.createDirAll parent
    let mode := if overwrite then IO.FS.Mode.write else IO.FS.Mode.writeNew
    IO.FS.withFile (below folder artifact.path) mode fun handle => handle.putStr artifact.text
    pure (.ok ())
  catch error =>
    match error with
    | .alreadyExists .. => pure (.error (.artifactExists artifact.path))
    | error => pure (.error (.output (toString error)))

/-- A folder on disk as a store. -/
def diskStore (folder : String) : Store IO where
  taken path :=
    match RelativePath.ofText? path with
    | none => throw (.invalid path .unsafePath)
    | some _ => ExceptT.lift (isThereOnDisk (below folder path))
  write overwrite artifact :=
    match RelativePath.ofText? artifact.path with
    | none => throw (.invalid artifact.path .unsafePath)
    | some path => ExceptT.mk (writeOnDisk folder overwrite path artifact)

/-- The files and variables of the process. -/
def process : Surroundings IO where
  isThere := isThereOnDisk
  isFolder := isFolderOnDisk
  isFile path := do pure ((← isThereOnDisk path) && !(← isFolderOnDisk path))
  read path := attempt (IO.FS.readFile path)
  value? name := IO.getEnv name
  store := diskStore

/-- How the command is called. -/
def usage : String :=
  "Usage: crudify [OPTIONS] <REQUESTS>"

/-- Tells the operator how a run ended. -/
def tell : Outcome → IO Unit
  | .refused .help => IO.println usage
  | .refused .version => IO.println generator
  | .refused .misuse => IO.eprintln usage
  | .fatal fault => IO.eprintln fault.message
  | .finished _ summary => IO.println summary

end Scaffold.Program

def main (arguments : List String) : IO UInt32 := do
  let outcome ← Scaffold.Command.run Scaffold.Program.process arguments
  Scaffold.Program.tell outcome
  pure outcome.status.toUInt32
