import Scaffold.Endpoint.Request
import Scaffold.Generation

/-!
# Batches of requests

Requests that mean an endpoint are generated in order.  Those that mean none are reported after
them.
-/

namespace Scaffold

namespace Request

/-- The endpoints that requests mean. -/
def accepted (requests : List Request) : List Endpoint :=
  requests.filterMap fun request => request.toEndpoint.toOption

/-- The requests that mean no endpoint, and why. -/
def refused (requests : List Request) : List Rejected :=
  requests.filterMap fun request =>
    match request.toEndpoint with
    | .ok _ => none
    | .error failure => some ⟨request.key, failure⟩

end Request

/-- The batch with rejections after its own. -/
def Batch.withRefused (batch : Batch) (refused : List Rejected) : Batch :=
  { batch with failed := batch.failed ++ refused }

namespace Generator

/-- Generates what requests mean. -/
def runRequests {m : Type → Type} [Monad m] (generator : Generator) (store : Store m)
    (requests : List Request) : m Batch := do
  let batch ← generator.run store (Request.accepted requests)
  pure (batch.withRefused (Request.refused requests))

end Generator

end Scaffold
