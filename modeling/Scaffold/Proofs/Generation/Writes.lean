import Scaffold.Proofs.Artifact.Rewriting
import Scaffold.Proofs.Generation.Growth

/-!
# What a run writes

A run puts the artifacts of the endpoints that succeed on the shelf, one endpoint after the other,
and writes nothing else.  Endpoints that may overwrite never look at the shelf, so a run of them can
be repeated without any effect.
-/

namespace Scaffold

namespace Generator

variable {generator : Generator} {endpoint : Endpoint} {endpoints : List Endpoint} {shelf : Shelf}

/-- A run leaves the shelf as one write of all that its successful endpoints render would. -/
theorem shelfAfter_eq_putAll (generator : Generator) (shelf : Shelf) (endpoints : List Endpoint) :
    generator.shelfAfter shelf endpoints =
      shelf.putAll ((generator.kept shelf endpoints).flatMap generator.rendered) := by
  induction shelf, endpoints using generator.run_induction with
  | nil shelf => rfl
  | ok shelf endpoint endpoints generated h ih =>
      obtain ⟨-, -, -, hafter⟩ := inv_of_generated h
      rw [kept_cons_of_ok h, List.flatMap_cons, Shelf.putAll_append, shelfAfter, ih, hafter]
  | error shelf endpoint endpoints failure h ih =>
      rw [kept_cons_of_error h, shelfAfter, shelf_of_error h, ih]

/-! ## Endpoints that may overwrite -/

theorem outcome_of_overwriting (h : endpoint.overwrite = true) (shelf : Shelf) :
    (runOn (generator.generate Shelf.store endpoint) shelf).1 =
      (generator.render endpoint).map (report endpoint) := by
  rw [runOn_generate]
  cases generator.render endpoint with
  | error failure => rfl
  | ok artifacts =>
      have hfree : shelf.conflict? endpoint.overwrite artifacts = none := by
        rw [Shelf.conflict?, if_pos h]
      simp only [hfree]
      rfl

theorem attempts_of_overwriting (h : ∀ endpoint ∈ endpoints, endpoint.overwrite = true)
    (shelf : Shelf) :
    generator.attempts shelf endpoints =
      endpoints.map fun endpoint =>
        ⟨endpoint, (generator.render endpoint).map (report endpoint)⟩ := by
  induction endpoints generalizing shelf with
  | nil => rfl
  | cons endpoint endpoints ih =>
      obtain ⟨hfirst, hrest⟩ := List.forall_mem_cons.1 h
      rw [attempts, List.map_cons, outcome_of_overwriting hfirst, ih hrest]

theorem kept_of_overwriting (h : ∀ endpoint ∈ endpoints, endpoint.overwrite = true)
    (hrender : ∀ endpoint ∈ endpoints, ∃ artifacts, generator.render endpoint = .ok artifacts)
    (shelf : Shelf) : generator.kept shelf endpoints = endpoints := by
  have hsucceeds : ∀ attempt ∈ generator.attempts shelf endpoints,
      attempt.succeeds = true := by
    rw [attempts_of_overwriting h]
    intro attempt hattempt
    obtain ⟨endpoint, hendpoint, rfl⟩ := List.mem_map.1 hattempt
    obtain ⟨artifacts, hartifacts⟩ := hrender endpoint hendpoint
    rw [hartifacts]
    rfl
  rw [kept, List.filter_eq_self.2 hsucceeds, attempts_of_overwriting h, List.map_map]
  exact List.map_id endpoints

/-- A second run meets with the same outcomes, so it puts the same artifacts on the shelf, in the
same order. -/
theorem run_again_changes_nothing (generator : Generator) (shelf : Shelf)
    (h : ∀ endpoint ∈ endpoints, endpoint.overwrite = true) :
    let first := generator.runShelf shelf endpoints
    let second := generator.runShelf first.2 endpoints
    second.1 = first.1 ∧ second.2 = first.2 := by
  intro first second
  have hattempts : generator.attempts first.2 endpoints = generator.attempts shelf endpoints := by
    rw [attempts_of_overwriting h, attempts_of_overwriting h]
  constructor
  · rw [runShelf_fst, runShelf_fst, hattempts]
  · have hkept : generator.kept first.2 endpoints = generator.kept shelf endpoints := by
      rw [kept, kept, hattempts]
    have hfirst : first.2 =
        shelf.putAll ((generator.kept shelf endpoints).flatMap generator.rendered) := by
      rw [runShelf_snd, shelfAfter_eq_putAll]
    calc second.2
        = first.2.putAll ((generator.kept shelf endpoints).flatMap generator.rendered) := by
          rw [runShelf_snd, shelfAfter_eq_putAll, hkept]
      _ = first.2 := by rw [hfirst, Shelf.putAll_putAll_same]

end Generator

/-! ## Twins -/

/-- Two tables whose files have the same names. -/
def Schema.ofTwins : Schema where
  databases :=
    [{ name := "crm"
       tables :=
        [{ name := "dbo.users", columns := [{ name := "id", type := "int", primary := true }] },
         { name := "dbo_users", columns := [{ name := "id", type := "int", primary := true }] }] }]
  consistent := Schema.consistent_iff.2 rfl

/-- An endpoint that may overwrite. -/
def Endpoint.overwriting (table : String) (verb : Verb) : Endpoint :=
  { Endpoint.ofTable .mysql "crm" table verb with overwrite := true }

namespace Generator

/-- A generator of files that hold the name of the table. -/
def ofTwins : Generator where
  schema := .ofTwins
  catalog := Catalog.empty.insert .get ⟨"endpoint.get", .endpoint, "[[table]]\n"⟩
  naming := {}

/-- The second table takes the file of the first one, in both runs, and the third does not exist. -/
theorem run_twins_again :
    let endpoints := ["dbo.users", "dbo_users", "staff"].map (Endpoint.overwriting · .get)
    let first := ofTwins.runShelf .empty endpoints
    let second := ofTwins.runShelf first.2 endpoints
    (∀ endpoint ∈ endpoints, endpoint.overwrite = true) ∧
      first.1.succeeded.map Generated.paths =
        List.replicate 2 ["backend/crm/dbo-users.get.endpoint.yaml"] ∧
      first.1.failed.map (Rejected.key) = [⟨"crm", "staff", .get⟩] ∧
      first.2 = ⟨[("backend/crm/dbo-users.get.endpoint.yaml", "dbo_users\n")]⟩ ∧
      second.1 = first.1 ∧ second.2 = first.2 := by
  have hall : ∀ endpoint ∈ ["dbo.users", "dbo_users", "staff"].map (Endpoint.overwriting · .get),
      endpoint.overwrite = true := by
    simp [Endpoint.overwriting]
  exact ⟨hall, by decide +kernel, by decide +kernel, by decide +kernel,
    run_again_changes_nothing ofTwins .empty hall⟩

end Generator

end Scaffold
