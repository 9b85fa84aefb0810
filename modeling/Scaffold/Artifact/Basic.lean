import Scaffold.Verb

/-!
# Artifacts

The files of an endpoint: what kinds there are, where each is stored, and how its lines are
counted.
-/

namespace Scaffold

/-- The kinds of files that make up an endpoint. -/
inductive ArtifactKind where
  | endpoint
  | service
  | listing
  | editor
deriving DecidableEq, Repr

namespace ArtifactKind

/-- The kinds in the order in which they are generated. -/
def all : List ArtifactKind := [.endpoint, .service, .listing, .editor]

theorem mem_all (kind : ArtifactKind) : kind ∈ all := by
  cases kind <;> decide

/-- The kind in messages. -/
def name : ArtifactKind → String
  | .endpoint => "endpoint definition"
  | .service => "service method"
  | .listing => "list component"
  | .editor => "modal edit component"

/-- Where the file of a kind is stored, below the directory of its module. -/
def path (kind : ArtifactKind) (verb : Verb) (moduleUrl stem : String) : String :=
  match kind with
  | .endpoint => "backend/" ++ moduleUrl ++ "/" ++ stem ++ "." ++ verb.name ++ ".endpoint.yaml"
  | .service =>
      "frontend/" ++ moduleUrl ++ "/" ++ stem ++ "/" ++ stem ++ "." ++ verb.name ++ ".service.ts"
  | .listing => "frontend/" ++ moduleUrl ++ "/" ++ stem ++ "/" ++ stem ++ "-list.component.ts"
  | .editor =>
      let mode := if verb = .post then "create" else "edit"
      "frontend/" ++ moduleUrl ++ "/" ++ stem ++ "/" ++ stem ++ "-" ++ mode ++ ".component.ts"

end ArtifactKind

/-- A finished file. -/
structure Artifact where
  path : String
  text : String
deriving DecidableEq, Repr

/-- The line feeds of a file. -/
def Artifact.lineCount (artifact : Artifact) : Nat :=
  artifact.text.toList.count '\n'

/-- The line feeds of several files together. -/
def totalLines (artifacts : List Artifact) : Nat :=
  artifacts.foldr (fun artifact lines => artifact.lineCount + lines) 0

end Scaffold
