import Scaffold.Proofs.Generation.LastWord

/-!
# Running again without leave to overwrite

What a run has written is in the way of the next one.  A path that was taken stays taken, so an
endpoint that may not overwrite is refused the second time: for a path that is taken if it was
generated the first time, else for a reason of the same kind.
-/

namespace Scaffold

/-- The kind of failure that an endpoint meets with when it comes once more and may not
overwrite. -/
def Attempt.kindAgain (attempt : Attempt) : FailureKind :=
  match attempt.outcome with
  | .ok _ => .artifactExists
  | .error failure => failure.kind

/-- A second attempt at what has been attempted before, which fails. -/
structure Attempt.Refused (first second : Attempt) : Prop where
  endpoint_eq : second.endpoint = first.endpoint
  exists_failure : ∃ failure, second.outcome = .error failure ∧ failure.kind = first.kindAgain

theorem Attempt.Refused.generated?_eq_none {first second : Attempt} (h : first.Refused second) :
    second.generated? = none := by
  obtain ⟨failure, hfailure, -⟩ := h.exists_failure
  rw [generated?, hfailure]

theorem Batch.ofAttempts_of_refused {first second : List Attempt}
    (h : List.Forall₂ Attempt.Refused first second) :
    (Batch.ofAttempts second).succeeded = [] ∧ (Batch.ofAttempts second).lines = 0 := by
  have hnone : second.filterMap Attempt.generated? = [] := by
    induction h with
    | nil => rfl
    | cons hrefused _ ih => rw [List.filterMap_cons, hrefused.generated?_eq_none, ih]
  rw [ofAttempts, hnone]
  exact ⟨rfl, rfl⟩

/-- A shelf on which every path of another one is taken. -/
def Shelf.Covers (later earlier : Shelf) : Prop :=
  ∀ path, (earlier.get? path).isSome = true → (later.get? path).isSome = true

namespace Generator

variable {generator : Generator} {endpoint : Endpoint} {endpoints : List Endpoint}
  {artifacts : List Artifact} {shelf later : Shelf} {path : String}

theorem shelfAfter_covers (generator : Generator) (shelf : Shelf) (endpoints : List Endpoint) :
    (generator.shelfAfter shelf endpoints).Covers shelf := by
  induction endpoints generalizing shelf with
  | nil => exact fun _ htaken => htaken
  | cons endpoint endpoints ih =>
      exact fun path htaken => ih _ path (isSome_get?_generate htaken generator endpoint)

/-! ## One endpoint -/

theorem runOn_generate_of_taken (hkeeps : endpoint.overwrite = false)
    (hrender : generator.render endpoint = .ok artifacts)
    (hpath : path ∈ artifacts.map Artifact.path) (htaken : (shelf.get? path).isSome = true) :
    ∃ taken, runOn (generator.generate Shelf.store endpoint) shelf =
      (.error (.artifactExists taken), shelf) := by
  have hconflict : (shelf.conflict? false artifacts).isSome = true := by
    rw [Shelf.conflict?, if_neg Bool.false_ne_true, List.find?_isSome]
    exact ⟨path, hpath, htaken⟩
  obtain ⟨taken, htakenPath⟩ := Option.isSome_iff_exists.1 hconflict
  refine ⟨taken, ?_⟩
  rw [runOn_generate, hrender, hkeeps]
  simp only [htakenPath]

/-- An endpoint that renders is either refused for a path that is taken or takes its paths, so one
of them is taken when it has been handled. -/
theorem exists_taken_after (hcatalog : ∀ verb, generator.catalog.kindsFor verb ≠ [])
    (hkeeps : endpoint.overwrite = false) (hrender : generator.render endpoint = .ok artifacts)
    (shelf : Shelf) :
    (generator.alone shelf endpoint).kindAgain = .artifactExists ∧
      ∃ path ∈ artifacts.map Artifact.path,
        ((runOn (generator.generate Shelf.store endpoint) shelf).2.get? path).isSome = true := by
  rw [alone, Attempt.kindAgain, runOn_generate, hrender, hkeeps]
  cases hconflict : shelf.conflict? false artifacts with
  | some path =>
      simp only [hconflict]
      rw [Shelf.conflict?, if_neg Bool.false_ne_true] at hconflict
      have htaken := List.find?_some hconflict
      exact ⟨rfl, path, List.mem_of_find?_eq_some hconflict, htaken⟩
  | none =>
      simp only [hconflict]
      obtain ⟨plan, -, hartifacts⟩ := Except.bind_eq_ok_iff.1 hrender
      have hpaths : artifacts.map Artifact.path ≠ [] := by
        rw [paths_of_artifacts hartifacts]
        exact List.map_eq_nil_iff.not.2 (hcatalog _)
      obtain ⟨path, hpath⟩ := List.exists_mem_of_ne_nil _ hpaths
      obtain ⟨artifact, hartifact, rfl⟩ := List.mem_map.1 hpath
      refine ⟨trivial, artifact.path, hpath, ?_⟩
      rw [Shelf.get?_putAll_of_mem (nodup_paths_of_render hrender) hartifact]
      rfl

/-- Where all is taken that was taken when an endpoint had been handled, it is refused. -/
theorem alone_refused (hcatalog : ∀ verb, generator.catalog.kindsFor verb ≠ [])
    (hkeeps : endpoint.overwrite = false)
    (hcovers : later.Covers (runOn (generator.generate Shelf.store endpoint) shelf).2) :
    (generator.alone shelf endpoint).Refused (generator.alone later endpoint) ∧
      (runOn (generator.generate Shelf.store endpoint) later).2 = later := by
  cases hrender : generator.render endpoint with
  | error failure =>
      have hfails : ∀ shelf, runOn (generator.generate Shelf.store endpoint) shelf =
          (.error failure, shelf) := by
        intro shelf
        rw [runOn_generate, hrender]
      refine ⟨⟨rfl, failure, congrArg Prod.fst (hfails later), ?_⟩,
        congrArg Prod.snd (hfails later)⟩
      rw [alone, Attempt.kindAgain, hfails]
  | ok artifacts =>
      obtain ⟨hkind, path, hpath, htaken⟩ := exists_taken_after hcatalog hkeeps hrender shelf
      obtain ⟨taken, hrefused⟩ :=
        runOn_generate_of_taken hkeeps hrender hpath (hcovers path htaken)
      exact ⟨⟨rfl, _, congrArg Prod.fst hrefused, hkind.symm⟩, congrArg Prod.snd hrefused⟩

/-! ## Runs -/

theorem attempts_refused (hcatalog : ∀ verb, generator.catalog.kindsFor verb ≠ [])
    (hkeeps : ∀ endpoint ∈ endpoints, endpoint.overwrite = false)
    (hcovers : later.Covers (generator.shelfAfter shelf endpoints)) :
    List.Forall₂ Attempt.Refused (generator.attempts shelf endpoints)
        (generator.attempts later endpoints) ∧
      generator.shelfAfter later endpoints = later := by
  induction endpoints generalizing shelf with
  | nil => exact ⟨.nil, rfl⟩
  | cons endpoint endpoints ih =>
      obtain ⟨hfirst, hrest⟩ := List.forall_mem_cons.1 hkeeps
      have hnext : later.Covers (runOn (generator.generate Shelf.store endpoint) shelf).2 :=
        fun path htaken => hcovers path (generator.shelfAfter_covers _ endpoints path htaken)
      obtain ⟨hrefused, hsame⟩ := alone_refused hcatalog hfirst hnext
      obtain ⟨hall, hafter⟩ := ih hrest hcovers
      rw [attempts, attempts, shelfAfter, hsame]
      exact ⟨.cons hrefused hall, hafter⟩

/-- A second run of endpoints that may not overwrite writes nothing: those that were generated find
a path taken, and the others fail for a reason of the same kind. -/
theorem run_again_is_refused (hcatalog : ∀ verb, generator.catalog.kindsFor verb ≠ [])
    (hkeeps : ∀ endpoint ∈ endpoints, endpoint.overwrite = false) (shelf : Shelf) :
    let first := generator.runShelf shelf endpoints
    let second := generator.runShelf first.2 endpoints
    first.1 = .ofAttempts (generator.attempts shelf endpoints) ∧
      second.1 = .ofAttempts (generator.attempts first.2 endpoints) ∧
      List.Forall₂ Attempt.Refused (generator.attempts shelf endpoints)
        (generator.attempts first.2 endpoints) ∧
      second.1.succeeded = [] ∧ second.1.lines = 0 ∧ second.2 = first.2 := by
  intro first second
  have hfirst : first.2 = generator.shelfAfter shelf endpoints := generator.runShelf_snd _ _
  have hcovers : first.2.Covers (generator.shelfAfter shelf endpoints) := by
    rw [hfirst]
    exact fun _ htaken => htaken
  obtain ⟨hrefused, hafter⟩ := attempts_refused hcatalog hkeeps hcovers
  have hsecond : second.1 = .ofAttempts (generator.attempts first.2 endpoints) :=
    generator.runShelf_fst _ _
  obtain ⟨hsucceeded, hlines⟩ := Batch.ofAttempts_of_refused hrefused
  rw [← hsecond] at hsucceeded hlines
  exact ⟨generator.runShelf_fst _ _, hsecond, hrefused, hsucceeded, hlines,
    (generator.runShelf_snd _ _).trans hafter⟩

/-- A generator for the twins with a template for every verb. -/
def ofTwinVerbs : Generator where
  schema := .ofTwins
  catalog := Verb.all.foldl
    (fun catalog verb => catalog.insert verb ⟨"endpoint", .endpoint, "[[table]]\n"⟩) .empty
  naming := {}

/-- The first twin was generated, the second one found its path taken, and the third table does not
exist: in the second run both twins find it taken. -/
theorem run_twin_verbs_again :
    let endpoints := ["dbo.users", "dbo_users", "staff"].map (Endpoint.ofTable .mysql "crm" · .get)
    let first := ofTwinVerbs.runShelf .empty endpoints
    let second := ofTwinVerbs.runShelf first.2 endpoints
    (∀ verb, ofTwinVerbs.catalog.kindsFor verb ≠ []) ∧
      (∀ endpoint ∈ endpoints, endpoint.overwrite = false) ∧
      first.1.succeeded.map Generated.paths = [["backend/crm/dbo-users.get.endpoint.yaml"]] ∧
      first.1.failed.map (fun rejected => (rejected.key.table, rejected.failure.kind)) =
        [("dbo_users", .artifactExists), ("staff", .validation)] ∧
      second.1.failed.map (fun rejected => (rejected.key.table, rejected.failure.kind)) =
        [("dbo.users", .artifactExists), ("dbo_users", .artifactExists),
          ("staff", .validation)] ∧
      second.1.succeeded = [] ∧ second.1.lines = 0 ∧ second.2 = first.2 := by
  have hcatalog : ∀ verb, ofTwinVerbs.catalog.kindsFor verb ≠ [] := by
    intro verb
    cases verb <;> decide
  have hkeeps : ∀ endpoint ∈
      ["dbo.users", "dbo_users", "staff"].map (Endpoint.ofTable .mysql "crm" · .get),
      endpoint.overwrite = false := by
    simp [Endpoint.ofTable]
  obtain ⟨-, -, -, hsucceeded, hlines, hshelf⟩ := run_again_is_refused hcatalog hkeeps .empty
  exact ⟨hcatalog, hkeeps, by decide +kernel, by decide +kernel, by decide +kernel, hsucceeded,
    hlines, hshelf⟩

end Generator

end Scaffold
