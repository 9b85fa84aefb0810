import Scaffold.Artifact.FileTree
import Scaffold.Command.EnvFile

/-!
# What a command has around it

A command sees files by their paths and variables by their names, and it writes artifacts below a
folder.  A tree of files in memory gives it all of that too: paths lead from a working folder, or
from the top of the tree if they start with a slash.
-/

namespace Scaffold.Command

/-- Files and variables, in a monad that holds their state. -/
structure Surroundings (m : Type → Type) where
  /-- Whether something lies at a path. -/
  isThere : String → m Bool
  isFolder : String → m Bool
  isFile : String → m Bool
  /-- The text of a file, or the reason why it cannot be read. -/
  read : String → m (Except String String)
  /-- The value of a variable that is set. -/
  value? : String → m (Option String)
  /-- The folder at a path, for artifacts. -/
  store : String → Store m

namespace Surroundings

variable {m : Type → Type} [Monad m]

/-- The variables among given ones that are set. -/
def environment (surroundings : Surroundings m) : List String → m EnvFile.Environment
  | [] => pure []
  | name :: names => do
      let value ← surroundings.value? name
      let others ← surroundings.environment names
      pure ((value.map fun text => (name, text)).toList ++ others)

end Surroundings

/-! ## Paths in a tree -/

namespace TreePath

/-- Where a path starts: at the top, or in the working folder. -/
def start (folder : List String) (path : String) : List String :=
  if path.toList.head? = some '/' then [] else folder

/-- The names to which segments of a path lead through folders that exist. -/
def walk (tree : FileTree) (names : List String) : List String → Option (List String)
  | [] => some names
  | segment :: segments =>
      if RelativePath.isName segment then walk tree (names ++ [segment]) segments
      else if (tree.find? names).any FileTree.isFolder then
        walk tree (if segment = ".." then names.dropLast else names) segments
      else none

/-- What lies at a path. -/
def find? (folder : List String) (path : String) (tree : FileTree) : Option FileTree :=
  if path = "" then none
  else (walk tree (start folder path) (RelativePath.segments path)).bind tree.find?

/-- The names of a folder, whose path may lead through folders that are still to be made. -/
def names (folder : List String) (path : String) : List String :=
  (RelativePath.segments path).foldl (fun names segment =>
    if RelativePath.isName segment then names ++ [segment]
    else if segment = ".." then names.dropLast else names) (start folder path)

end TreePath

/-- The file that is found at a path. -/
def readFound : Option FileTree → Except String String
  | some (.file text) => .ok text
  | some (.folder _) => .error DiskFault.isFolder.message
  | none => .error DiskFault.missing.message

/-- A tree of files, a working folder in it, and variables. -/
def Surroundings.ofTree (folder : List String) (values : EnvFile.Environment) :
    Surroundings (StateM FileTree) where
  isThere path := do pure (TreePath.find? folder path (← get)).isSome
  isFolder path := do pure ((TreePath.find? folder path (← get)).any FileTree.isFolder)
  isFile path := do pure ((TreePath.find? folder path (← get)).any (!·.isFolder))
  read path := do pure (readFound (TreePath.find? folder path (← get)))
  value? name := pure (values.lookup name)
  store path := FileTree.store (TreePath.names folder path)

end Scaffold.Command
