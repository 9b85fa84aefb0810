import Scaffold.Artifact.Store
import Scaffold.Entries

/-!
# Artifacts in memory

A shelf holds texts under paths, in the order of the paths.  Every text is a path here.
-/

namespace Scaffold

/-- Artifacts kept in memory. -/
structure Shelf where
  entries : List (String × String) := []
deriving DecidableEq, Repr

namespace Shelf

def empty : Shelf := {}

def get? (shelf : Shelf) (path : String) : Option String :=
  shelf.entries.lookup path

def put (shelf : Shelf) (path text : String) : Shelf :=
  ⟨Entries.put path text shelf.entries⟩

/-- The paths in order. -/
def paths (shelf : Shelf) : List String :=
  shelf.entries.map (·.1)

def size (shelf : Shelf) : Nat :=
  shelf.entries.length

@[simp] theorem get?_put (shelf : Shelf) (path other text : String) :
    (shelf.put path text).get? other = if other = path then some text else shelf.get? other :=
  Entries.lookup_put path other text shelf.entries

/-- Puts an artifact on the shelf unless that is not allowed. -/
def write (overwrite : Bool) (artifact : Artifact) (shelf : Shelf) : Except Failure Unit × Shelf :=
  if !overwrite && (shelf.get? artifact.path).isSome then
    (.error (.artifactExists artifact.path), shelf)
  else (.ok (), shelf.put artifact.path artifact.text)

/-- The shelf as a store. -/
def store : Store (StateM Shelf) where
  taken path := fun shelf => (.ok (shelf.get? path).isSome, shelf)
  write overwrite artifact := write overwrite artifact

end Shelf

end Scaffold
