import Scaffold.Failure

/-!
# Stores

Where finished artifacts go.  A store tells whether a path is taken and writes one artifact; when
it may not overwrite, it refuses a path that is taken and leaves it as it is.
-/

namespace Scaffold

/-- A place for artifacts, in a monad that holds its state. -/
structure Store (m : Type → Type) where
  taken : String → ExceptT Failure m Bool
  write : (overwrite : Bool) → Artifact → ExceptT Failure m Unit

namespace Store

variable {m : Type → Type} [Monad m]

/-- Refuses the first artifact whose path is taken. -/
def checkFree (store : Store m) : List Artifact → ExceptT Failure m Unit
  | [] => pure ()
  | artifact :: artifacts => do
      if ← store.taken artifact.path then throw (.artifactExists artifact.path)
      store.checkFree artifacts

/-- Writes artifacts one after the other. -/
def writeAll (store : Store m) (overwrite : Bool) : List Artifact → ExceptT Failure m Unit
  | [] => pure ()
  | artifact :: artifacts => do
      store.write overwrite artifact
      store.writeAll overwrite artifacts

/-- Writes the artifacts of one endpoint, none of them unless all paths may be written. -/
def save (store : Store m) (overwrite : Bool) (artifacts : List Artifact) :
    ExceptT Failure m Unit := do
  unless overwrite do store.checkFree artifacts
  store.writeAll overwrite artifacts

end Store

end Scaffold
