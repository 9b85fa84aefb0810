import Scaffold.Artifact.Store
import Scaffold.Catalog.Basic
import Scaffold.Plan.Bindings

/-!
# Generating endpoints

An endpoint is planned, all its templates are expanded, and only then is anything written.  A batch
goes through its endpoints in order; one that fails does not stop the others.
-/

namespace Scaffold

/-- What was generated for an endpoint. -/
structure Generated where
  key : EndpointKey
  /-- The line feeds of all its files. -/
  lines : Nat
  paths : List String
deriving DecidableEq, Repr

/-- What all endpoints of a run share. -/
structure Generator where
  schema : Schema
  catalog : Catalog
  naming : Naming

namespace Generator

/-- The artifact of a kind. -/
def artifact (generator : Generator) (plan : Plan) (kind : ArtifactKind) :
    Except Failure Artifact :=
  let verb := plan.endpoint.verb
  match generator.catalog.select kind verb with
  | .error fault => .error (.template (kind.name ++ "." ++ verb.name) fault)
  | .ok template =>
      match template.expand (plan.context generator.naming) with
      | .error fault => .error (.template template.id fault)
      | .ok text => .ok ⟨kind.path verb plan.moduleUrl plan.fileStem, text⟩

/-- The artifacts of a plan, one for each kind with a template for the verb. -/
def artifacts (generator : Generator) (plan : Plan) : Except Failure (List Artifact) :=
  (generator.catalog.kindsFor plan.endpoint.verb).mapM (generator.artifact plan)

/-- The artifacts of an endpoint. -/
def render (generator : Generator) (endpoint : Endpoint) : Except Failure (List Artifact) := do
  generator.artifacts (← endpoint.plan generator.schema)

/-- What is reported of the artifacts of an endpoint. -/
def report (endpoint : Endpoint) (artifacts : List Artifact) : Generated :=
  { key := endpoint.key
    lines := totalLines artifacts
    paths := artifacts.map Artifact.path }

variable {m : Type → Type} [Monad m]

/-- Generates an endpoint into a store. -/
def generate (generator : Generator) (store : Store m) (endpoint : Endpoint) :
    ExceptT Failure m Generated := do
  let artifacts ← ExceptT.mk (pure (generator.render endpoint))
  store.save endpoint.overwrite artifacts
  pure (report endpoint artifacts)

end Generator

/-- An endpoint that was not generated. -/
structure Rejected where
  key : EndpointKey
  failure : Failure

/-- What became of the endpoints of a run. -/
structure Batch where
  succeeded : List Generated := []
  failed : List Rejected := []
  /-- The lines of all that succeeded. -/
  lines : Nat := 0

namespace Batch

def isComplete (batch : Batch) : Bool :=
  batch.failed.isEmpty

/-- The batch with one more outcome. -/
def record (batch : Batch) (key : EndpointKey) : Except Failure Generated → Batch
  | .ok generated =>
      { batch with
        succeeded := batch.succeeded ++ [generated], lines := batch.lines + generated.lines }
  | .error failure => { batch with failed := batch.failed ++ [⟨key, failure⟩] }

end Batch

namespace Generator

variable {m : Type → Type} [Monad m]

/-- Generates endpoints in order, after those of a batch. -/
def runAfter (generator : Generator) (store : Store m) (batch : Batch) :
    List Endpoint → m Batch
  | [] => pure batch
  | endpoint :: endpoints => do
      let outcome ← (generator.generate store endpoint).run
      generator.runAfter store (batch.record endpoint.key outcome) endpoints

/-- Generates endpoints in order. -/
def run (generator : Generator) (store : Store m) (endpoints : List Endpoint) : m Batch :=
  generator.runAfter store {} endpoints

end Generator

end Scaffold
