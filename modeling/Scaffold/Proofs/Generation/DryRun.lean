import Scaffold.Batch
import Scaffold.Proofs.Artifact.Mirror
import Scaffold.Proofs.Generation.OnShelf

/-!
# Trying a run in memory

A run into an empty folder gives the batch of the same run on an empty shelf, and leaves the texts
of the shelf as its files: for every endpoint both stores do the same.
-/

namespace Scaffold

namespace Generator

open RelativePath (collapse)

variable {generator : Generator} {endpoint : Endpoint} {endpoints : List Endpoint}
  {artifacts : List Artifact}

theorem isArtifactPath_of_render (h : generator.render endpoint = .ok artifacts)
    {artifact : Artifact} (hartifact : artifact ∈ artifacts) : IsArtifactPath artifact.path := by
  obtain ⟨plan, hplan, hartifacts⟩ := Except.bind_eq_ok_iff.1 h
  obtain ⟨database, hplanned⟩ := Endpoint.plan_eq_ok_iff.1 hplan
  have hpath : artifact.path ∈ artifacts.map Artifact.path := List.mem_map_of_mem hartifact
  rw [paths_of_artifacts hartifacts] at hpath
  obtain ⟨kind, -, hkind⟩ := List.mem_map.1 hpath
  rw [← hkind]
  exact hplanned.isArtifactPath kind _

/-! ## Stores that agree -/

section

variable {σ τ : Type} {together : σ → τ → Prop} {allowed : String → Prop}
  {store : Store (StateM σ)} {other : Store (StateM τ)}
  (h : Store.Agrees together allowed store other)

include h

theorem generate_agrees (hallowed : ∀ artifacts, generator.render endpoint = .ok artifacts →
      ∀ artifact ∈ artifacts, allowed artifact.path) :
    Agree together (generator.generate store endpoint) (generator.generate other endpoint) := by
  intro state otherState htogether
  rw [runOn_generate_save, runOn_generate_save]
  cases hrender : generator.render endpoint with
  | error failure => exact ⟨rfl, htogether⟩
  | ok artifacts =>
      obtain ⟨hanswer, hafter⟩ :=
        h.save (hallowed artifacts hrender) endpoint.overwrite state otherState htogether
      simp only
      rcases hsave : runOn (store.save endpoint.overwrite artifacts) state with ⟨answer, after⟩
      rcases hother : runOn (other.save endpoint.overwrite artifacts) otherState with
        ⟨otherAnswer, otherAfter⟩
      rw [hsave, hother] at hanswer hafter
      simp only at hanswer hafter
      subst hanswer
      cases answer <;> exact ⟨rfl, hafter⟩

theorem runAfter_agrees (hallowed : ∀ endpoint ∈ endpoints, ∀ artifacts,
      generator.render endpoint = .ok artifacts → ∀ artifact ∈ artifacts, allowed artifact.path)
    {state : σ} {otherState : τ} (htogether : together state otherState) (batch : Batch) :
    let run := ((generator.runAfter store batch endpoints).run state).run
    let otherRun := ((generator.runAfter other batch endpoints).run otherState).run
    run.1 = otherRun.1 ∧ together run.2 otherRun.2 := by
  induction endpoints generalizing state otherState batch with
  | nil => exact ⟨rfl, htogether⟩
  | cons endpoint endpoints ih =>
      obtain ⟨hfirst, hrest⟩ := List.forall_mem_cons.1 hallowed
      obtain ⟨hanswer, hafter⟩ := generate_agrees h hfirst state otherState htogether
      simp only [runAfter, StateT.run_bind, Id.run_bind]
      have hbatch : batch.record endpoint.key
            ((generator.generate store endpoint).run.run state).run.1 =
          batch.record endpoint.key
            ((generator.generate other endpoint).run.run otherState).run.1 :=
        congrArg _ hanswer
      rw [hbatch]
      exact ih hrest hafter _

theorem runRequests_agrees {requests : List Request}
    (hallowed : ∀ endpoint ∈ Request.accepted requests, ∀ artifacts,
      generator.render endpoint = .ok artifacts → ∀ artifact ∈ artifacts, allowed artifact.path)
    {state : σ} {otherState : τ} (htogether : together state otherState) :
    let run := ((generator.runRequests store requests).run state).run
    let otherRun := ((generator.runRequests other requests).run otherState).run
    run.1 = otherRun.1 ∧ together run.2 otherRun.2 := by
  obtain ⟨hanswer, hafter⟩ := runAfter_agrees h hallowed htogether {}
  exact ⟨congrArg (·.withRefused (Request.refused requests)) hanswer, hafter⟩

end

/-! ## Disk and shelf -/

/-- A run on a disk where the names fit does what the same run does on a shelf. -/
theorem runRequests_mirrors (longest : Option Nat) {requests : List Request}
    (hfits : ∀ endpoint ∈ Request.accepted requests, ∀ artifacts,
      generator.render endpoint = .ok artifacts →
        ∀ artifact ∈ artifacts, FileTree.Fits longest artifact.path)
    {tree : FileTree} {shelf : Shelf} (h : Mirrors tree shelf) :
    let run := ((generator.runRequests (FileTree.storeWithin longest []) requests).run tree).run
    let dry := ((generator.runRequests Shelf.store requests).run shelf).run
    run.1 = dry.1 ∧ Mirrors run.2 dry.2 :=
  runRequests_agrees (storeWithin_agrees longest)
    (fun endpoint hendpoint artifacts hrender artifact hartifact =>
      ⟨isArtifactPath_of_render hrender hartifact,
        hfits endpoint hendpoint artifacts hrender artifact hartifact⟩) h

end Generator

namespace Mirrors

open RelativePath (namesOf collapse)

variable {tree : FileTree} {shelf : Shelf}

theorem mem_files_iff (h : Mirrors tree shelf) (file : String × String) :
    file ∈ tree.files [] ↔
      ∃ path, shelf.get? path = some file.2 ∧ collapse path = file.1 := by
  obtain ⟨name, text⟩ := file
  rw [h.ordered.mem_files_iff]
  constructor
  · rintro ⟨names, hfound, hname⟩
    obtain ⟨path, hpath, rfl⟩ := (h.text?_eq_some_iff names text).1 hfound
    exact ⟨path, hpath, hname.symm⟩
  · rintro ⟨path, hpath, hname⟩
    exact ⟨namesOf path, (h.text?_eq_some_iff _ _).2 ⟨path, hpath, rfl⟩, hname.symm⟩

theorem eq_of_collapse_eq (h : Mirrors tree shelf) {path other : String}
    (hpath : path ∈ shelf.paths) (hother : other ∈ shelf.paths)
    (hcollapse : collapse path = collapse other) : path = other :=
  (h.isArtifactPath path (Entries.isSome_lookup_iff.2 hpath)).eq_of_collapse_eq
    (h.isArtifactPath other (Entries.isSome_lookup_iff.2 hother)) hcollapse

end Mirrors

namespace Generator

open RelativePath (collapse)

/-- A run into an empty folder ends with the batch of a run in memory, and the files in the folder
are the texts in memory, with one slash for several in a row.  No two of these paths become one. -/
theorem dry_run_predicts_run (generator : Generator) (requests : List Request) :
    let dry := ((generator.runRequests Shelf.store requests).run .empty).run
    let run := ((generator.runRequests (FileTree.storeWithin none []) requests).run .empty).run
    run.1 = dry.1 ∧
      (∀ file, file ∈ run.2.files [] ↔
        ∃ path, dry.2.get? path = some file.2 ∧ collapse path = file.1) ∧
      ∀ path ∈ dry.2.paths, ∀ other ∈ dry.2.paths, collapse path = collapse other →
        path = other := by
  intro dry run
  have hfits : ∀ endpoint ∈ Request.accepted requests, ∀ artifacts,
      generator.render endpoint = .ok artifacts →
        ∀ artifact ∈ artifacts, FileTree.Fits none artifact.path :=
    fun _ _ _ _ artifact _ => FileTree.fits_none artifact.path
  obtain ⟨hbatch, hmirrors⟩ := runRequests_mirrors none hfits .empty
  exact ⟨hbatch, hmirrors.mem_files_iff, fun _ hpath _ hother =>
    hmirrors.eq_of_collapse_eq hpath hother⟩

end Generator

end Scaffold
