import Scaffold.Batch
import Scaffold.Proofs.Generation.Locality
import Scaffold.Proofs.Plan.IdleFlags

/-!
# Flags that do not concern a verb

The built-in templates for a verb avoid the names on which the flags bear that do not concern it.
So endpoints, and whole runs of requests, that differ in nothing else generate the same.
-/

namespace Scaffold

/-! ## Templates -/

/-- Each of the eleven templates avoids the idle names of its verb. -/
theorem Catalog.avoids_entries :
    ∀ entry ∈ entries, ∃ nodes, entry.template.nodes = .ok nodes ∧
      Template.avoidsAll entry.verb.idleNames nodes = true := by
  simp only [entries, List.forall_mem_cons, List.not_mem_nil, false_implies, implies_true,
    and_true]
  refine ⟨?_, ?_, ?_, ?_, ?_, ?_, ?_, ?_, ?_, ?_, ?_⟩
  all_goals exact exists_nodes_of_spelled (by repeat constructor) (by decide +kernel)

/-! ## Endpoints -/

namespace Generator

/-- Endpoints of which a generator makes the same, whatever store it generates them into: they have
the same outcome, and the same is stored afterwards. -/
def Alike (generator : Generator) (endpoint other : Endpoint) : Prop :=
  ∀ (m : Type → Type) [Monad m] (store : Store m),
    generator.generate store endpoint = generator.generate store other

theorem artifact_congr {generator : Generator} {plan other : Plan} {kind : ArtifactKind}
    (hverb : plan.endpoint.verb = other.endpoint.verb) (hurl : plan.moduleUrl = other.moduleUrl)
    (hstem : plan.fileStem = other.fileStem)
    (hexpand : ∀ template, generator.catalog.get? kind other.endpoint.verb = some template →
      template.expand (plan.context generator.naming) =
        template.expand (other.context generator.naming)) :
    generator.artifact plan kind = generator.artifact other kind := by
  rw [artifact, artifact, hverb, hurl, hstem, Catalog.select]
  cases htemplate : generator.catalog.get? kind other.endpoint.verb with
  | none => rfl
  | some template => simp only [hexpand template htemplate]

variable {schema : Schema} {naming : Naming}

theorem artifact_withFlags {plan : Plan} {join verbose : Bool}
    (hjoin : plan.endpoint.verb = .get → join = plan.endpoint.join)
    (hverbose : plan.endpoint.verb ≠ .delete → verbose = plan.endpoint.verbose)
    (kind : ArtifactKind) :
    artifact ⟨schema, .builtin, naming⟩ (plan.withFlags join verbose) kind =
      artifact ⟨schema, .builtin, naming⟩ plan kind := by
  refine artifact_congr rfl rfl rfl fun template htemplate => ?_
  obtain ⟨entry, hentry, hverb, rfl⟩ := Catalog.exists_entry_of_get? htemplate
  obtain ⟨nodes, hnodes, havoids⟩ := Catalog.avoids_entries entry hentry
  rw [hverb] at havoids
  exact Template.expand_congr hnodes havoids (Plan.context_withFlags hjoin hverbose naming)

theorem render_of_differsIdly {endpoint other : Endpoint} (h : endpoint.DiffersIdly other) :
    render ⟨schema, .builtin, naming⟩ other = render ⟨schema, .builtin, naming⟩ endpoint := by
  obtain ⟨join, verbose, hjoin, hverbose⟩ := h
  rw [render, render, endpoint.plan_withFlags join verbose schema]
  cases hplan : endpoint.plan schema with
  | error failure => rfl
  | ok plan =>
      obtain ⟨database, hplanned⟩ := Endpoint.plan_eq_ok_iff.1 hplan
      rw [← hplanned.endpoint_eq] at hjoin hverbose
      exact mapM_congr fun kind _ => artifact_withFlags hjoin hverbose kind

/-- A report has nothing of the flags. -/
theorem alike_of_differsIdly {endpoint other : Endpoint} (h : endpoint.DiffersIdly other) :
    Alike ⟨schema, .builtin, naming⟩ other endpoint := by
  intro m _ store
  rw [generate, generate, render_of_differsIdly h]
  obtain ⟨join, verbose, -, -⟩ := h
  rfl

/-! ## Runs -/

theorem runAfter_congr {generator : Generator} {m : Type → Type} [Monad m] (store : Store m)
    {endpoints others : List Endpoint}
    (h : List.Forall₂ (fun endpoint other =>
      endpoint.key = other.key ∧ generator.Alike endpoint other) endpoints others)
    (batch : Batch) :
    generator.runAfter store batch endpoints = generator.runAfter store batch others := by
  induction h generalizing batch with
  | nil => rfl
  | cons hfirst _ ih =>
      rw [runAfter, runAfter, hfirst.1, hfirst.2 m store]
      exact bind_congr fun outcome => ih _

end Generator

/-- Requests that differ at most in flags that do not concern their verb. -/
inductive Request.DiffersIdly (request : Request) : Request → Prop where
  | flags (join verbose returnId : Bool) (hjoin : request.verb = .get → join = request.join)
      (hverbose : request.verb ≠ .delete → verbose = request.verbose)
      (hreturnId : request.verb = .post → returnId = request.returnId) :
      request.DiffersIdly { request with join, verbose, returnId }

namespace Request

variable {request other : Request} {requests others : List Request}

/-- Only creation answers with the new key. -/
theorem toEndpoint_withFlags {returnId : Bool}
    (hreturnId : request.verb = .post → returnId = request.returnId) (join verbose : Bool) :
    { request with join, verbose, returnId }.toEndpoint =
      request.toEndpoint.map fun endpoint => endpoint.withFlags join verbose := by
  have hreturns : (returnId && request.verb == .post) =
      (request.returnId && request.verb == .post) := by
    by_cases hverb : request.verb = .post
    · rw [hreturnId hverb]
    · rw [beq_eq_false_iff_ne.2 hverb, Bool.and_false, Bool.and_false]
  have hreactors : { request with join, verbose, returnId }.reactors = request.reactors := rfl
  unfold toEndpoint
  simp only [hreactors, hreturns]
  cases Dialect.ofName? request.databaseType with
  | none => rfl
  | some dialect => cases request.reactors <;> rfl

theorem flags_of_toEndpoint {endpoint : Endpoint} (h : request.toEndpoint = .ok endpoint) :
    endpoint.verb = request.verb ∧ endpoint.join = request.join ∧
      endpoint.verbose = request.verbose := by
  unfold toEndpoint at h
  split at h
  · cases h
  · split at h
    · cases h
    · cases h
      exact ⟨rfl, rfl, rfl⟩

theorem toEndpoint_withReturnId {returnId : Bool}
    (h : request.verb = .post → returnId = request.returnId) :
    { request with returnId }.toEndpoint = request.toEndpoint := by
  refine (toEndpoint_withFlags h request.join request.verbose).trans ?_
  cases hendpoint : request.toEndpoint with
  | error failure => rfl
  | ok endpoint =>
      obtain ⟨-, hjoin, hverbose⟩ := flags_of_toEndpoint hendpoint
      rw [← hjoin, ← hverbose]
      rfl

/-- Requests that differ idly are refused alike, or their endpoints differ idly. -/
theorem DiffersIdly.toEndpoint (h : request.DiffersIdly other) :
    (∃ failure, request.toEndpoint = .error failure ∧ other.toEndpoint = .error failure) ∨
      ∃ endpoint made, request.toEndpoint = .ok endpoint ∧ other.toEndpoint = .ok made ∧
        endpoint.DiffersIdly made := by
  obtain ⟨join, verbose, returnId, hjoin, hverbose, hreturnId⟩ := h
  rw [toEndpoint_withFlags hreturnId]
  cases hendpoint : request.toEndpoint with
  | error failure => exact .inl ⟨failure, rfl, rfl⟩
  | ok endpoint =>
      obtain ⟨hverb, hjoined, htold⟩ := flags_of_toEndpoint hendpoint
      rw [← hverb, ← hjoined] at hjoin
      rw [← hverb, ← htold] at hverbose
      exact .inr ⟨endpoint, _, rfl, rfl, .flags join verbose hjoin hverbose⟩

theorem DiffersIdly.key_eq (h : request.DiffersIdly other) : request.key = other.key := by
  obtain ⟨join, verbose, returnId, -, -, -⟩ := h
  rfl

theorem accepted_of_differIdly (h : List.Forall₂ DiffersIdly requests others) :
    List.Forall₂ Endpoint.DiffersIdly (accepted requests) (accepted others) := by
  induction h with
  | nil => exact .nil
  | cons hfirst _ ih =>
      rw [accepted, accepted, List.filterMap_cons, List.filterMap_cons]
      obtain ⟨failure, hrequest, hother⟩ | ⟨endpoint, made, hrequest, hother, hdiffers⟩ :=
        hfirst.toEndpoint
      · rw [hrequest, hother]
        exact ih
      · rw [hrequest, hother]
        exact .cons hdiffers ih

theorem refused_of_differIdly (h : List.Forall₂ DiffersIdly requests others) :
    refused requests = refused others := by
  induction h with
  | nil => rfl
  | cons hfirst _ ih =>
      rw [refused, refused, List.filterMap_cons, List.filterMap_cons, hfirst.key_eq]
      obtain ⟨failure, hrequest, hother⟩ | ⟨endpoint, made, hrequest, hother, -⟩ :=
        hfirst.toEndpoint
      · rw [hrequest, hother]
        exact congrArg _ ih
      · rw [hrequest, hother]
        exact ih

end Request

namespace Generator

variable {schema : Schema} {naming : Naming}

/-- A run of requests that differ idly is the same run. -/
theorem runRequests_of_differIdly {requests others : List Request}
    (h : List.Forall₂ Request.DiffersIdly requests others) {m : Type → Type} [Monad m]
    (store : Store m) :
    runRequests ⟨schema, .builtin, naming⟩ store others =
      runRequests ⟨schema, .builtin, naming⟩ store requests := by
  have halike : List.Forall₂ (fun endpoint other => endpoint.key = other.key ∧
      Alike ⟨schema, .builtin, naming⟩ endpoint other)
      (Request.accepted others) (Request.accepted requests) := by
    refine (Request.accepted_of_differIdly h).flip.imp ?_
    intro other endpoint hdiffers
    exact ⟨hdiffers.key_eq.symm, alike_of_differsIdly hdiffers⟩
  rw [runRequests, runRequests, run, run, runAfter_congr store halike,
    Request.refused_of_differIdly h]

/-- Flags that do not concern a verb change nothing that is generated with the built-in catalog:
joins where nothing is read, verbosity where rows are deleted, and the new key where no row is
created.  Nor does a whole run change when any of its requests have other such flags. -/
theorem idle_flags_change_nothing (schema : Schema) (naming : Naming) :
    (∀ endpoint : Endpoint, endpoint.verb ≠ .get →
      Alike ⟨schema, .builtin, naming⟩ { endpoint with join := !endpoint.join } endpoint) ∧
    (∀ endpoint : Endpoint, endpoint.verb = .delete →
      Alike ⟨schema, .builtin, naming⟩ { endpoint with verbose := !endpoint.verbose } endpoint) ∧
    (∀ request : Request, request.verb ≠ .post →
      { request with returnId := !request.returnId }.toEndpoint = request.toEndpoint) ∧
    ∀ requests others : List Request, List.Forall₂ Request.DiffersIdly requests others →
      ∀ (m : Type → Type) [Monad m] (store : Store m),
        runRequests ⟨schema, .builtin, naming⟩ store others =
          runRequests ⟨schema, .builtin, naming⟩ store requests := by
  refine ⟨?join, ?verbose, ?returnId, ?run⟩
  case join =>
    intro endpoint hverb
    exact alike_of_differsIdly
      (.flags (!endpoint.join) endpoint.verbose (fun hget => absurd hget hverb) fun _ => rfl)
  case verbose =>
    intro endpoint hverb
    exact alike_of_differsIdly
      (.flags endpoint.join (!endpoint.verbose) (fun _ => rfl) fun hother => absurd hverb hother)
  case returnId =>
    intro request hverb
    exact Request.toEndpoint_withReturnId fun hpost => absurd hpost hverb
  case run =>
    intro requests others h m _ store
    exact runRequests_of_differIdly h store

/-- An invoice is created with the customers it may be for at hand, and a member of the staff is
deleted: once alone, and by two requests all of whose flags change. -/
theorem idle_flags_on_invoices :
    let generator : Generator := ⟨.ofInvoicesElsewhere, .builtin, {}⟩
    let creation := { Endpoint.ofTable .mysql "crm" "invoices" .post with join := true }
    let deletion := Endpoint.ofTable .mysql "crm" "staff" .delete
    let request (returnId join verbose : Bool) : Request :=
      { databaseType := "mysql", moduleName := "", moduleUrl := "", database := "crm"
        table := "staff", verb := .delete, returnId, overwrite := false, verbose, join
        notify := false }
    ((∃ generated, (runOn (generator.generate Shelf.store creation) .empty).1 = .ok generated) ∧
      runOn (generator.generate Shelf.store { creation with join := false }) .empty =
        runOn (generator.generate Shelf.store creation) .empty) ∧
    ((∃ generated, (runOn (generator.generate Shelf.store deletion) .empty).1 = .ok generated) ∧
      runOn (generator.generate Shelf.store { deletion with verbose := true }) .empty =
        runOn (generator.generate Shelf.store deletion) .empty) ∧
    (request true false false).toEndpoint = (request false false false).toEndpoint ∧
    (generator.runRequests Shelf.store [request true true true, request false true true]).run
        .empty =
      (generator.runRequests Shelf.store [request false false false, request true false true]).run
        .empty := by
  have hcreated : ∃ plan, { Endpoint.ofTable .mysql "crm" "invoices" .post with
      join := true }.plan .ofInvoicesElsewhere = .ok plan := ⟨_, rfl⟩
  have hdeleted : ∃ plan, (Endpoint.ofTable .mysql "crm" "staff" .delete).plan
      .ofInvoicesElsewhere = .ok plan := ⟨_, rfl⟩
  obtain ⟨_, hcreated⟩ := hcreated
  obtain ⟨_, hdeleted⟩ := hdeleted
  intro generator creation deletion request
  obtain ⟨hjoin, hverbose, hreturnId, hrun⟩ := idle_flags_change_nothing .ofInvoicesElsewhere {}
  refine ⟨⟨exists_generated hcreated {}, ?_⟩, ⟨exists_generated hdeleted {}, ?_⟩, ?_, ?_⟩
  · exact congrArg (runOn · .empty) (hjoin creation (by decide) _ Shelf.store)
  · exact congrArg (runOn · .empty) (hverbose deletion rfl _ Shelf.store)
  · exact hreturnId (request false false false) (by decide)
  · have hidle : ∀ returnId join verbose returnId' join' verbose',
        Request.DiffersIdly (request returnId join verbose) (request returnId' join' verbose') :=
      fun _ _ _ returnId join verbose =>
        .flags join verbose returnId (fun hget => by cases hget) (fun hother => absurd rfl hother)
          (fun hpost => by cases hpost)
    exact congrArg (·.run .empty)
      (hrun _ _ (.cons (hidle ..) (.cons (hidle ..) .nil)) _ Shelf.store)

end Generator

end Scaffold
