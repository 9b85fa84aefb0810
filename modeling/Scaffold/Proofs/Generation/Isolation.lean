import Scaffold.Proofs.Generation.OnShelf

/-!
# Failures leave no trace

An endpoint that fails might as well not have been asked for: it leaves the shelf alone, and
without the endpoints that fail a run does everything else it did, in the same order.
-/

namespace Scaffold

namespace Attempt

def succeeds (attempt : Attempt) : Bool :=
  attempt.outcome.isOk

theorem succeeds_of_ok {endpoint : Endpoint} {generated : Generated} :
    succeeds ⟨endpoint, .ok generated⟩ = true := rfl

theorem not_succeeds_of_error {endpoint : Endpoint} {failure : Failure} :
    ¬ succeeds ⟨endpoint, .error failure⟩ = true := Bool.false_ne_true

theorem generated?_eq_none {attempt : Attempt} (h : attempt.succeeds = false) :
    attempt.generated? = none := by
  obtain ⟨endpoint, generated | failure⟩ := attempt
  · rfl
  · cases h

theorem rejected?_eq_none {attempt : Attempt} (h : attempt.succeeds = true) :
    attempt.rejected? = none := by
  obtain ⟨endpoint, failure | generated⟩ := attempt
  · cases h
  · rfl

end Attempt

/-- The attempts that succeed make the batch of all of them, save for what it says of failures. -/
theorem Batch.ofAttempts_filter_succeeds (attempts : List Attempt) :
    Batch.ofAttempts (attempts.filter Attempt.succeeds) =
      { Batch.ofAttempts attempts with failed := [] } := by
  have hgenerated : (attempts.filter Attempt.succeeds).filterMap Attempt.generated? =
      attempts.filterMap Attempt.generated? := by
    rw [List.filterMap_filter]
    congr 1
    funext attempt
    cases hsucceeds : attempt.succeeds with
    | true => rfl
    | false => exact (Attempt.generated?_eq_none hsucceeds).symm
  have hrejected : (attempts.filter Attempt.succeeds).filterMap Attempt.rejected? = [] := by
    rw [List.filterMap_eq_nil_iff]
    intro attempt hattempt
    exact Attempt.rejected?_eq_none (List.mem_filter.1 hattempt).2
  simp only [Batch.ofAttempts, hgenerated, hrejected]

namespace Generator

variable (generator : Generator)

/-- The endpoints of a run without those that fail when their turn comes. -/
def kept (shelf : Shelf) (endpoints : List Endpoint) : List Endpoint :=
  ((generator.attempts shelf endpoints).filter Attempt.succeeds).map Attempt.endpoint

/-- The batch of a run that starts on a shelf, and the shelf after it. -/
def runShelf (shelf : Shelf) (endpoints : List Endpoint) : Batch × Shelf :=
  ((generator.run Shelf.store endpoints).run shelf).run

variable {generator} {endpoint : Endpoint} {endpoints : List Endpoint} {shelf : Shelf}

theorem kept_cons_of_ok {generated : Generated}
    (h : (runOn (generator.generate Shelf.store endpoint) shelf).1 = .ok generated) :
    generator.kept shelf (endpoint :: endpoints) =
      endpoint :: generator.kept
        (runOn (generator.generate Shelf.store endpoint) shelf).2 endpoints := by
  rw [kept, attempts, h, List.filter_cons_of_pos Attempt.succeeds_of_ok]
  rfl

theorem kept_cons_of_error {failure : Failure}
    (h : (runOn (generator.generate Shelf.store endpoint) shelf).1 = .error failure) :
    generator.kept shelf (endpoint :: endpoints) = generator.kept shelf endpoints := by
  rw [kept, attempts, h, shelf_of_error h,
    List.filter_cons_of_neg Attempt.not_succeeds_of_error]
  rfl

/-- An endpoint that succeeds hands its shelf on to those to come; one that fails hands on the
shelf it came to. -/
@[elab_as_elim]
theorem run_induction {motive : Shelf → List Endpoint → Prop} (nil : ∀ shelf, motive shelf [])
    (ok : ∀ shelf endpoint endpoints generated,
      (runOn (generator.generate Shelf.store endpoint) shelf).1 = .ok generated →
        motive (runOn (generator.generate Shelf.store endpoint) shelf).2 endpoints →
          motive shelf (endpoint :: endpoints))
    (error : ∀ shelf endpoint endpoints failure,
      (runOn (generator.generate Shelf.store endpoint) shelf).1 = .error failure →
        motive shelf endpoints → motive shelf (endpoint :: endpoints))
    (shelf : Shelf) (endpoints : List Endpoint) : motive shelf endpoints := by
  induction endpoints generalizing shelf with
  | nil => exact nil shelf
  | cons endpoint endpoints ih =>
      cases h : (runOn (generator.generate Shelf.store endpoint) shelf).1 with
      | ok generated => exact ok shelf endpoint endpoints generated h (ih _)
      | error failure => exact error shelf endpoint endpoints failure h (ih shelf)

/-- What is kept meets the same shelves as before, so it succeeds again in the same way. -/
theorem attempts_kept (shelf : Shelf) (endpoints : List Endpoint) :
    generator.attempts shelf (generator.kept shelf endpoints) =
      (generator.attempts shelf endpoints).filter Attempt.succeeds := by
  induction shelf, endpoints using generator.run_induction with
  | nil shelf => rfl
  | ok shelf endpoint endpoints generated h ih =>
      rw [kept_cons_of_ok h, attempts, attempts, h, ih,
        List.filter_cons_of_pos Attempt.succeeds_of_ok]
  | error shelf endpoint endpoints failure h ih =>
      rw [kept_cons_of_error h, attempts, h, shelf_of_error h, ih,
        List.filter_cons_of_neg Attempt.not_succeeds_of_error]

theorem shelfAfter_kept (shelf : Shelf) (endpoints : List Endpoint) :
    generator.shelfAfter shelf (generator.kept shelf endpoints) =
      generator.shelfAfter shelf endpoints := by
  induction shelf, endpoints using generator.run_induction with
  | nil shelf => rfl
  | ok shelf endpoint endpoints generated h ih =>
      rw [kept_cons_of_ok h, shelfAfter, shelfAfter, ih]
  | error shelf endpoint endpoints failure h ih =>
      rw [kept_cons_of_error h, shelfAfter, shelf_of_error h, ih]

/-- A run without the endpoints that fail reports and leaves what the whole run does. -/
theorem failed_endpoint_leaves_no_trace (generator : Generator) :
    (∀ (endpoint : Endpoint) (failure : Failure) (before after : Shelf),
      runOn (generator.generate Shelf.store endpoint) before = (.error failure, after) →
        after = before) ∧
    ∀ (shelf : Shelf) (endpoints : List Endpoint),
      generator.runShelf shelf (generator.kept shelf endpoints) =
        ({ (generator.runShelf shelf endpoints).1 with failed := [] },
          (generator.runShelf shelf endpoints).2) := by
  constructor
  · intro endpoint failure before after h
    have hshelf := shelf_of_error (congrArg Prod.fst h)
    rw [h] at hshelf
    exact hshelf
  · intro shelf endpoints
    simp only [runShelf, run_shelf, attempts_kept, shelfAfter_kept,
      Batch.ofAttempts_filter_succeeds]

/-- A generator for one table with one column. -/
def ofOneTable : Generator where
  schema :=
    { databases :=
        [{ name := "d", tables := [{ name := "t", columns := [{ name := "c", type := "int" }] }] }]
      consistent := Schema.consistent_iff.2 rfl }
  catalog := Catalog.empty.insert .get ⟨"endpoint.get", .endpoint, "text"⟩
  naming := {}

/-- A generator for the same table with a template of two lines. -/
def ofTwoLines : Generator :=
  { ofOneTable with
    catalog := Catalog.empty.insert .get ⟨"endpoint.get", .endpoint, "first\nsecond\n"⟩ }

theorem failed_endpoint_on_taken_path :
    let shelf : Shelf := ⟨[("backend/d/t.get.endpoint.yaml", "kept")]⟩
    let answer := runOn (ofOneTable.generate Shelf.store (.ofTable .mysql "d" "t" .get)) shelf
    answer.1 = .error (.artifactExists "backend/d/t.get.endpoint.yaml") ∧ answer.2 = shelf :=
  ⟨rfl, (failed_endpoint_leaves_no_trace ofOneTable).1 (.ofTable .mysql "d" "t" .get)
    (.artifactExists "backend/d/t.get.endpoint.yaml") _ _ rfl⟩

end Generator

end Scaffold
