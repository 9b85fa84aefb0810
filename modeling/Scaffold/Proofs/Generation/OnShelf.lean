import Scaffold.Generation
import Scaffold.Proofs.Artifact.Path
import Scaffold.Proofs.Artifact.Shelf

/-!
# Generating onto a shelf

What one endpoint does to a shelf, in one equation, and a run as the list of its attempts: the
batch is read off the attempts, and the shelf is handed on from one attempt to the next.
-/

namespace Scaffold

namespace Generator

variable {generator : Generator} {plan : Plan} {endpoint : Endpoint} {artifacts : List Artifact}

/-! ## One endpoint -/

/-- An artifact is what the template of its kind expands to. -/
theorem artifact_eq_ok_iff {kind : ArtifactKind} {artifact : Artifact} :
    generator.artifact plan kind = .ok artifact ↔ ∃ template text,
      generator.catalog.get? kind plan.endpoint.verb = some template ∧
      template.expand (plan.context generator.naming) = .ok text ∧
      ⟨kind.path plan.endpoint.verb plan.moduleUrl plan.fileStem, text⟩ = artifact := by
  rw [Generator.artifact, Catalog.select]
  cases generator.catalog.get? kind plan.endpoint.verb with
  | none => simp
  | some template =>
      cases hexpand : template.expand (plan.context generator.naming) with
      | error fault => simp [hexpand]
      | ok text => simp [hexpand]

theorem path_of_artifact {kind : ArtifactKind} {artifact : Artifact}
    (h : generator.artifact plan kind = .ok artifact) :
    artifact.path = kind.path plan.endpoint.verb plan.moduleUrl plan.fileStem := by
  obtain ⟨_, _, -, -, rfl⟩ := artifact_eq_ok_iff.1 h
  rfl

theorem paths_of_artifacts (h : generator.artifacts plan = .ok artifacts) :
    artifacts.map Artifact.path =
      (generator.catalog.kindsFor plan.endpoint.verb).map fun kind =>
        kind.path plan.endpoint.verb plan.moduleUrl plan.fileStem := by
  have hall := mapM_eq_ok_iff.1 h
  rw [← List.forall₂_eq_eq_eq, List.forall₂_map_left_iff, List.forall₂_map_right_iff]
  exact hall.flip.imp fun _ _ hartifact => path_of_artifact hartifact

theorem nodup_paths_of_render (h : generator.render endpoint = .ok artifacts) :
    (artifacts.map Artifact.path).Nodup := by
  obtain ⟨plan, -, hartifacts⟩ := Except.bind_eq_ok_iff.1 h
  rw [paths_of_artifacts hartifacts]
  apply List.Nodup.map (ArtifactKind.path_injective _ _ _)
  exact ArtifactKind.nodup_all.filter _

/-- An endpoint is generated into a store if it renders and its artifacts are saved. -/
theorem runOn_generate_save {σ : Type} (generator : Generator) (store : Store (StateM σ))
    (endpoint : Endpoint) (state : σ) :
    runOn (generator.generate store endpoint) state =
      match generator.render endpoint with
      | .error failure => (.error failure, state)
      | .ok artifacts =>
          match runOn (store.save endpoint.overwrite artifacts) state with
          | (.ok (), after) => (.ok (report endpoint artifacts), after)
          | (.error failure, after) => (.error failure, after) := by
  rw [generate, runOn_bind]
  cases generator.render endpoint with
  | error failure => rfl
  | ok artifacts =>
      have hlift : runOn (ExceptT.mk (pure (.ok artifacts)) :
          ExceptT Failure (StateM σ) (List Artifact)) state = (.ok artifacts, state) := rfl
      rw [hlift]
      simp only
      rw [runOn_bind]
      rcases runOn (store.save endpoint.overwrite artifacts) state with ⟨outcome, after⟩
      cases outcome <;> rfl

/-- An endpoint either fails and leaves the shelf alone, or all its artifacts are put there. -/
theorem runOn_generate (generator : Generator) (endpoint : Endpoint) (shelf : Shelf) :
    runOn (generator.generate Shelf.store endpoint) shelf =
      match generator.render endpoint with
      | .error failure => (.error failure, shelf)
      | .ok artifacts =>
          match shelf.conflict? endpoint.overwrite artifacts with
          | some path => (.error (.artifactExists path), shelf)
          | none => (.ok (report endpoint artifacts), shelf.putAll artifacts) := by
  rw [runOn_generate_save]
  cases hrender : generator.render endpoint with
  | error failure => rfl
  | ok artifacts =>
      simp only
      rw [Shelf.runOn_save (nodup_paths_of_render hrender)]
      cases shelf.conflict? endpoint.overwrite artifacts <;> rfl

theorem shelf_of_error {shelf : Shelf} {failure : Failure}
    (h : (runOn (generator.generate Shelf.store endpoint) shelf).1 = .error failure) :
    (runOn (generator.generate Shelf.store endpoint) shelf).2 = shelf := by
  rw [runOn_generate] at h ⊢
  cases hrender : generator.render endpoint with
  | error failure => rfl
  | ok artifacts =>
      cases hconflict : shelf.conflict? endpoint.overwrite artifacts with
      | some path => simp only [hconflict]
      | none =>
          rw [hrender] at h
          simp only [hconflict, reduceCtorEq] at h

end Generator

/-! ## Runs -/

/-- An endpoint of a run and what became of it. -/
structure Attempt where
  endpoint : Endpoint
  outcome : Except Failure Generated

namespace Attempt

def generated? (attempt : Attempt) : Option Generated :=
  match attempt.outcome with
  | .ok generated => some generated
  | .error _ => none

def rejected? (attempt : Attempt) : Option Rejected :=
  match attempt.outcome with
  | .ok _ => none
  | .error failure => some ⟨attempt.endpoint.key, failure⟩

@[simp] theorem generated?_ok (endpoint : Endpoint) (generated : Generated) :
    generated? ⟨endpoint, .ok generated⟩ = some generated := rfl

@[simp] theorem generated?_error (endpoint : Endpoint) (failure : Failure) :
    generated? ⟨endpoint, .error failure⟩ = none := rfl

@[simp] theorem rejected?_ok (endpoint : Endpoint) (generated : Generated) :
    rejected? ⟨endpoint, .ok generated⟩ = none := rfl

@[simp] theorem rejected?_error (endpoint : Endpoint) (failure : Failure) :
    rejected? ⟨endpoint, .error failure⟩ = some ⟨endpoint.key, failure⟩ := rfl

end Attempt

/-- The batch that reports some attempts. -/
def Batch.ofAttempts (attempts : List Attempt) : Batch where
  succeeded := attempts.filterMap Attempt.generated?
  failed := attempts.filterMap Attempt.rejected?
  lines := (attempts.filterMap Attempt.generated?).foldr (fun generated lines =>
    generated.lines + lines) 0

/-- One batch after another. -/
def Batch.append (front back : Batch) : Batch where
  succeeded := front.succeeded ++ back.succeeded
  failed := front.failed ++ back.failed
  lines := front.lines + back.lines

theorem Batch.append_assoc (front middle back : Batch) :
    (front.append middle).append back = front.append (middle.append back) := by
  simp [Batch.append, Nat.add_assoc]

theorem Batch.record_eq_append (batch : Batch) (endpoint : Endpoint)
    (outcome : Except Failure Generated) :
    batch.record endpoint.key outcome = batch.append (.ofAttempts [⟨endpoint, outcome⟩]) := by
  cases outcome <;> simp [record, append, ofAttempts, List.filterMap_cons]

theorem Batch.ofAttempts_cons (attempt : Attempt) (attempts : List Attempt) :
    Batch.ofAttempts (attempt :: attempts) =
      (Batch.ofAttempts [attempt]).append (.ofAttempts attempts) := by
  cases hg : attempt.generated? <;> cases hr : attempt.rejected? <;>
    simp [Batch.append, Batch.ofAttempts, hg, hr]

namespace Generator

/-- The attempts of a run that starts on a shelf. -/
def attempts (generator : Generator) : Shelf → List Endpoint → List Attempt
  | _, [] => []
  | shelf, endpoint :: endpoints =>
      ⟨endpoint, (runOn (generator.generate Shelf.store endpoint) shelf).1⟩ ::
        generator.attempts (runOn (generator.generate Shelf.store endpoint) shelf).2 endpoints

/-- The shelf after a run. -/
def shelfAfter (generator : Generator) : Shelf → List Endpoint → Shelf
  | shelf, [] => shelf
  | shelf, endpoint :: endpoints =>
      generator.shelfAfter (runOn (generator.generate Shelf.store endpoint) shelf).2 endpoints

theorem runAfter_shelf (generator : Generator) (shelf : Shelf) (batch : Batch)
    (endpoints : List Endpoint) :
    ((generator.runAfter Shelf.store batch endpoints).run shelf).run =
      (batch.append (.ofAttempts (generator.attempts shelf endpoints)),
        generator.shelfAfter shelf endpoints) := by
  induction endpoints generalizing shelf batch with
  | nil => simp [runAfter, attempts, shelfAfter, Batch.append, Batch.ofAttempts]
  | cons endpoint endpoints ih =>
      rw [runAfter, StateT.run_bind, Id.run_bind, attempts, shelfAfter, Batch.ofAttempts_cons,
        ← Batch.append_assoc, ← Batch.record_eq_append]
      exact ih _ _

theorem run_shelf (generator : Generator) (shelf : Shelf) (endpoints : List Endpoint) :
    ((generator.run Shelf.store endpoints).run shelf).run =
      (.ofAttempts (generator.attempts shelf endpoints), generator.shelfAfter shelf endpoints) := by
  rw [run, runAfter_shelf]
  simp [Batch.append]

end Generator

end Scaffold
