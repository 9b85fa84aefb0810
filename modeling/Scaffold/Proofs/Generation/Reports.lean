import Scaffold.Batch
import Scaffold.Command.Run
import Scaffold.Proofs.Generation.Growth

/-!
# What becomes of requests

Every request meets one of three fates: files are generated for its endpoint, its endpoint cannot be
generated, or it means no endpoint.  Requests are handled in order, and the report of a run tells
the fate of each of them once.
-/

namespace Scaffold

/-- What becomes of a request. -/
inductive Fate where
  | generated (report : Generated)
  /-- Its endpoint cannot be generated. -/
  | failed (rejected : Rejected)
  /-- It means no endpoint. -/
  | refused (rejected : Rejected)

namespace Fate

def key : Fate → EndpointKey
  | .generated report => report.key
  | .failed rejected => rejected.key
  | .refused rejected => rejected.key

def generated? : Fate → Option Generated
  | .generated report => some report
  | _ => none

def failed? : Fate → Option Rejected
  | .failed rejected => some rejected
  | _ => none

def refused? : Fate → Option Rejected
  | .refused rejected => some rejected
  | _ => none

end Fate

/-- The lines of several reports together. -/
def reportedLines (reports : List Generated) : Nat :=
  reports.foldr (fun report lines => report.lines + lines) 0

namespace Batch

/-- The batch that reports some fates; requests that mean no endpoint come last. -/
def ofFates (fates : List Fate) : Batch where
  succeeded := fates.filterMap Fate.generated?
  failed := fates.filterMap Fate.failed? ++ fates.filterMap Fate.refused?
  lines := reportedLines (fates.filterMap Fate.generated?)

/-- The batch that reports what became of the endpoints only. -/
def ofEndpointFates (fates : List Fate) : Batch where
  succeeded := fates.filterMap Fate.generated?
  failed := fates.filterMap Fate.failed?
  lines := reportedLines (fates.filterMap Fate.generated?)

end Batch

namespace Generator

variable {σ : Type}

/-- How a request changes a store, and what becomes of it.  Files are generated if all of them are
saved; their paths are reported then, and all their line feeds. -/
inductive Handles (generator : Generator) (store : Store (StateM σ)) :
    σ → Request → Fate → σ → Prop where
  | generated {before after : σ} {request : Request} {endpoint : Endpoint}
      {artifacts : List Artifact} :
      request.toEndpoint = .ok endpoint →
      generator.render endpoint = .ok artifacts →
      runOn (store.save endpoint.overwrite artifacts) before = (.ok (), after) →
      Handles generator store before request
        (.generated
          { key := request.key
            lines := (artifacts.flatMap fun artifact => artifact.text.toList).count '\n'
            paths := artifacts.map Artifact.path }) after
  | failed {before after : σ} {request : Request} {endpoint : Endpoint} {failure : Failure} :
      request.toEndpoint = .ok endpoint →
      runOn (generator.generate store endpoint) before = (.error failure, after) →
      Handles generator store before request (.failed ⟨request.key, failure⟩) after
  | refused {before : σ} {request : Request} {failure : Failure} :
      request.toEndpoint = .error failure →
      Handles generator store before request (.refused ⟨request.key, failure⟩) before

/-- Requests are handled one after the other. -/
inductive HandlesAll (generator : Generator) (store : Store (StateM σ)) :
    σ → List Request → List Fate → σ → Prop where
  | nil {state : σ} : HandlesAll generator store state [] [] state
  | cons {before between after : σ} {request : Request} {requests : List Request} {fate : Fate}
      {fates : List Fate} :
      Handles generator store before request fate between →
      HandlesAll generator store between requests fates after →
      HandlesAll generator store before (request :: requests) (fate :: fates) after

end Generator

/-! ## One request -/

theorem Request.key_of_toEndpoint {request : Request} {endpoint : Endpoint}
    (h : request.toEndpoint = .ok endpoint) : endpoint.key = request.key := by
  unfold toEndpoint at h
  split at h
  · cases h
  · split at h
    · cases h
    · cases h
      rfl

/-- The fate of a request whose endpoint meets with an outcome. -/
def Fate.ofOutcome (key : EndpointKey) : Except Failure Generated → Fate
  | .ok report => .generated report
  | .error failure => .failed ⟨key, failure⟩

theorem Batch.append_ofOutcome (batch : Batch) (key : EndpointKey)
    (outcome : Except Failure Generated) (fates : List Fate) :
    (batch.record key outcome).append (.ofEndpointFates fates) =
      batch.append (.ofEndpointFates (Fate.ofOutcome key outcome :: fates)) := by
  cases outcome with
  | ok report =>
      simp [record, append, ofEndpointFates, Fate.ofOutcome, List.filterMap_cons, Fate.generated?,
        Fate.failed?, reportedLines, Nat.add_assoc]
  | error failure =>
      simp [record, append, ofEndpointFates, Fate.ofOutcome, List.filterMap_cons, Fate.generated?,
        Fate.failed?]

theorem Batch.total_ofFates (fates : List Fate) : (Batch.ofFates fates).total = fates.length := by
  induction fates with
  | nil => rfl
  | cons fate fates ih =>
      simp only [total, ofFates, List.length_append] at ih ⊢
      cases fate with
      | generated _ | failed _ | refused _ =>
          simp only [List.filterMap_cons, Fate.generated?, Fate.failed?, Fate.refused?,
            List.length_cons]
          omega

namespace Generator

variable {σ : Type} {generator : Generator} {store : Store (StateM σ)} {before after : σ}
  {request : Request} {requests : List Request} {endpoint : Endpoint} {fate : Fate}
  {fates : List Fate}

theorem handles_generate (h : request.toEndpoint = .ok endpoint) (generator : Generator)
    (store : Store (StateM σ)) (before : σ) :
    generator.Handles store before request
      (.ofOutcome request.key (runOn (generator.generate store endpoint) before).1)
      (runOn (generator.generate store endpoint) before).2 := by
  cases houtcome : runOn (generator.generate store endpoint) before with
  | mk outcome after =>
      cases outcome with
      | error failure => exact .failed h houtcome
      | ok report =>
          rw [runOn_generate_save] at houtcome
          cases hrender : generator.render endpoint with
          | error failure => simp [hrender] at houtcome
          | ok artifacts =>
              cases hsave : runOn (store.save endpoint.overwrite artifacts) before with
              | mk saved reached =>
                  cases saved with
                  | error failure => simp [hrender, hsave] at houtcome
                  | ok _ =>
                      simp only [hrender, hsave, Prod.mk.injEq, Except.ok.injEq] at houtcome
                      obtain ⟨rfl, rfl⟩ := houtcome
                      rw [Fate.ofOutcome, Generator.report, Request.key_of_toEndpoint h,
                        totalLines_eq_count]
                      exact .generated h hrender hsave

theorem Handles.key_eq (h : generator.Handles store before request fate after) :
    fate.key = request.key := by
  cases h <;> rfl

/-- What a shelf holds once files are reported. -/
theorem Handles.exists_artifacts {shelf reached : Shelf} {report : Generated}
    (h : generator.Handles Shelf.store shelf request (.generated report) reached) :
    ∃ artifacts : List Artifact, report.paths = artifacts.map Artifact.path ∧
      report.lines = (artifacts.flatMap fun artifact => artifact.text.toList).count '\n' ∧
      ∀ artifact ∈ artifacts, reached.get? artifact.path = some artifact.text := by
  cases h with
  | @generated _ _ endpoint artifacts _ hrender hsave =>
      have hdistinct := nodup_paths_of_render hrender
      refine ⟨artifacts, rfl, rfl, fun artifact hartifact => ?_⟩
      rw [Shelf.runOn_save hdistinct] at hsave
      cases hconflict : shelf.conflict? endpoint.overwrite artifacts with
      | some path => simp [hconflict] at hsave
      | none =>
          simp only [hconflict, Prod.mk.injEq, true_and] at hsave
          rw [← hsave, Shelf.get?_putAll_of_mem hdistinct hartifact]

/-! ## All requests -/

theorem HandlesAll.map_key (h : generator.HandlesAll store before requests fates after) :
    fates.map Fate.key = requests.map Request.key := by
  induction h with
  | nil => rfl
  | cons hfirst _ ih => rw [List.map_cons, List.map_cons, hfirst.key_eq, ih]

theorem HandlesAll.refused_eq (h : generator.HandlesAll store before requests fates after) :
    Request.refused requests = fates.filterMap Fate.refused? := by
  induction h with
  | nil => rfl
  | cons hfirst _ ih =>
      cases hfirst with
      | generated hendpoint _ _ | failed hendpoint _ | refused hendpoint =>
          rw [Request.refused] at ih ⊢
          simp only [List.filterMap_cons, hendpoint, ih, Fate.refused?]

/-- A run goes through the endpoints that requests mean just as these are handled. -/
theorem exists_handlesAll (generator : Generator) (store : Store (StateM σ)) (before : σ)
    (requests : List Request) (batch : Batch) :
    ∃ fates after, generator.HandlesAll store before requests fates after ∧
      ((generator.runAfter store batch (Request.accepted requests)).run before).run =
        (batch.append (.ofEndpointFates fates), after) := by
  induction requests generalizing before batch with
  | nil =>
      exact ⟨[], before, .nil,
        by simp [Request.accepted, runAfter, Batch.append, Batch.ofEndpointFates, reportedLines]⟩
  | cons request requests ih =>
      cases hendpoint : request.toEndpoint with
      | error failure =>
          obtain ⟨fates, after, hall, hrun⟩ := ih before batch
          refine ⟨_, after, .cons (.refused hendpoint) hall, ?_⟩
          have hskipped : Request.accepted (request :: requests) = Request.accepted requests := by
            rw [Request.accepted, List.filterMap_cons, hendpoint]
            rfl
          rw [hskipped]
          exact hrun
      | ok endpoint =>
          have hnext : Request.accepted (request :: requests) =
              endpoint :: Request.accepted requests := by
            rw [Request.accepted, List.filterMap_cons, hendpoint]
            rfl
          have hstep := handles_generate hendpoint generator store before
          obtain ⟨fates, after, hall, hrun⟩ :=
            ih (runOn (generator.generate store endpoint) before).2
              (batch.record endpoint.key (runOn (generator.generate store endpoint) before).1)
          refine ⟨_, after, .cons hstep hall, ?_⟩
          rw [hnext, runAfter, StateT.run_bind, Id.run_bind]
          rw [← Batch.append_ofOutcome, ← Request.key_of_toEndpoint hendpoint]
          exact hrun

/-- The requests that mean no endpoint are added to the report once the others have run. -/
theorem exists_runRequests_eq (generator : Generator) (store : Store (StateM σ)) (before : σ)
    (requests : List Request) :
    ∃ fates after, generator.HandlesAll store before requests fates after ∧
      ((generator.runRequests store requests).run before).run = (.ofFates fates, after) := by
  obtain ⟨fates, after, hall, hrun⟩ := generator.exists_handlesAll store before requests {}
  refine ⟨fates, after, hall, ?_⟩
  rw [runRequests, StateT.run_bind, Id.run_bind, Generator.run, hrun, hall.refused_eq]
  simp [Batch.append, Batch.withRefused, Batch.ofEndpointFates, Batch.ofFates]

end Generator

/-! ## Reports -/

/-- A batch that tells the fates of some requests, in numbers and row by row. -/
structure Batch.Tells (batch : Batch) (requests : List Request) (fates : List Fate) : Prop where
  eq_ofFates : batch = .ofFates fates
  /-- Each request has one fate, under its own key. -/
  keys : fates.map Fate.key = requests.map Request.key
  total : batch.total = requests.length
  document : batch.write = .record
    [("total", .natural requests.length),
      ("lines_of_code", .natural (reportedLines batch.succeeded)),
      ("succeeded", .list (batch.succeeded.map fun report => .record
        [("unit", report.key.write), ("lines_of_code", .natural report.lines),
          ("artifact_paths", .texts report.paths)])),
      ("failed", .list (batch.failed.map fun rejected => .record
        [("database", .text rejected.key.database), ("table", .text rejected.key.table),
          ("verb", rejected.key.verb.write), ("kind", .text rejected.failure.kind.name),
          ("message", .text rejected.failure.message)]))]
  text : batch.textLines =
    ("crudify: " ++ toString (reportedLines batch.succeeded) ++ " lines of code from " ++
        toString batch.succeeded.length ++ " of " ++ toString requests.length ++ " units") ::
      batch.succeeded.flatMap Generated.textLines ++
        if batch.failed = [] then []
        else "failed:" :: batch.failed.map fun rejected =>
          "  " ++ rejected.failure.kind.name ++ "  " ++ rejected.key.render ++ ": " ++
            rejected.failure.message

theorem Batch.tells_ofFates {requests : List Request} {fates : List Fate}
    (hkeys : fates.map Fate.key = requests.map Request.key) :
    (Batch.ofFates fates).Tells requests fates := by
  have htotal : (ofFates fates).total = requests.length := by
    rw [total_ofFates, ← List.length_map Fate.key, hkeys, List.length_map]
  refine ⟨rfl, hkeys, htotal, ?_, ?_⟩
  · rw [write, htotal]
    rfl
  · unfold textLines headline
    rw [htotal]
    cases (ofFates fates).failed <;> rfl

/-! ## The command -/

namespace Command

theorem Outcome.status_finished (batch : Batch) (summary : String) :
    (Outcome.finished batch summary).status = if batch.failed = [] then 0 else 2 := by
  rw [status, Batch.isComplete]
  cases batch.failed <;> rfl

variable {σ : Type} {surroundings : Surroundings (StateM σ)} {values : List String}
  {arguments : Arguments} {job : Job} {dryRun : Bool} {before between after : σ}
  {fates : List Fate}

/-- A job handles all its requests: on a shelf of its own if it is only tried, else in the folder
for its output. -/
def Job.Handles (job : Job) (surroundings : Surroundings (StateM σ)) (dryRun : Bool) (before : σ)
    (fates : List Fate) (after : σ) : Prop :=
  if dryRun then
    after = before ∧ ∃ shelf, job.generator.HandlesAll Shelf.store .empty job.requests fates shelf
  else job.generator.HandlesAll (surroundings.store job.output) before job.requests fates after

theorem Job.Handles.map_key (h : job.Handles surroundings dryRun before fates after) :
    fates.map Fate.key = job.requests.map Request.key := by
  cases dryRun with
  | true =>
      obtain ⟨-, shelf, hall⟩ := h
      exact hall.map_key
  | false => exact Generator.HandlesAll.map_key h

theorem Job.exists_batch_eq (job : Job) (surroundings : Surroundings (StateM σ)) (dryRun : Bool)
    (before : σ) :
    ∃ fates after, job.Handles surroundings dryRun before fates after ∧
      ((job.batch surroundings dryRun).run before).run = (.ofFates fates, after) := by
  cases dryRun with
  | true =>
      obtain ⟨fates, shelf, hall, hrun⟩ :=
        job.generator.exists_runRequests_eq Shelf.store .empty job.requests
      exact ⟨fates, before, ⟨rfl, shelf, hall⟩, congrArg (·.1, before) hrun⟩
  | false =>
      exact job.generator.exists_runRequests_eq (surroundings.store job.output) before job.requests

/-- Once it is found out what to do, a run ends with a report on the requests. -/
theorem exists_run_eq (hparse : Arguments.parse values = .ok arguments)
    (hjob : runOn (surroundings.job arguments) before = (.ok job, between)) :
    ∃ fates after, job.Handles surroundings arguments.dryRun between fates after ∧
      let batch := Batch.ofFates fates
      ((run surroundings values).run before).run =
        (.finished batch (if arguments.json then batch.json else batch.text), after) := by
  obtain ⟨fates, after, hall, hbatch⟩ :=
    job.exists_batch_eq surroundings arguments.dryRun between
  refine ⟨fates, after, hall, ?_⟩
  have hsetup : (((surroundings.job arguments).run).run before).run = (.ok job, between) := hjob
  simp only [run, hparse, StateT.run_bind, Id.run_bind, hsetup, hbatch]
  rfl

end Command

/-- Requests are handled in order, each of them once.  The batch lists those with files, then those
whose endpoints fail, then those that mean no endpoint; the summary has a row for each of them, and
the exit status is zero if nothing failed.  The lines that are reported of a request are the line
feeds of the texts that lie under its paths when it has been handled. -/
theorem every_request_is_reported :
    (∀ {σ : Type} (generator : Generator) (store : Store (StateM σ)) (before : σ)
      (requests : List Request), ∃ fates after batch,
        generator.HandlesAll store before requests fates after ∧
        ((generator.runRequests store requests).run before).run = (batch, after) ∧
        batch.Tells requests fates) ∧
    (∀ (generator : Generator) (before after : Shelf) (request : Request) (report : Generated),
      generator.Handles Shelf.store before request (.generated report) after →
        ∃ artifacts : List Artifact, report.paths = artifacts.map Artifact.path ∧
          report.lines = (artifacts.flatMap fun artifact => artifact.text.toList).count '\n' ∧
          ∀ artifact ∈ artifacts, after.get? artifact.path = some artifact.text) ∧
    ∀ {σ : Type} (surroundings : Command.Surroundings (StateM σ)) (values : List String)
      (arguments : Command.Arguments) (job : Command.Job) (before between : σ),
      Command.Arguments.parse values = .ok arguments →
      runOn (surroundings.job arguments) before = (.ok job, between) →
        ∃ fates after batch, job.Handles surroundings arguments.dryRun between fates after ∧
          batch.Tells job.requests fates ∧
          let outcome := Command.Outcome.finished batch
            (if arguments.json then batch.json else batch.text)
          ((Command.run surroundings values).run before).run = (outcome, after) ∧
          outcome.status = if batch.failed = [] then 0 else 2 := by
  refine ⟨?_, fun _ _ _ _ _ h => h.exists_artifacts, ?_⟩
  · intro σ generator store before requests
    obtain ⟨fates, after, hall, hrun⟩ := generator.exists_runRequests_eq store before requests
    exact ⟨fates, after, _, hall, hrun, Batch.tells_ofFates hall.map_key⟩
  · intro σ surroundings values arguments job before between hparse hjob
    obtain ⟨fates, after, hall, hrun⟩ := Command.exists_run_eq hparse hjob
    exact ⟨fates, after, _, hall, Batch.tells_ofFates hall.map_key, hrun,
      Command.Outcome.status_finished _ _⟩

/-- A request for what `Endpoint.ofTable` makes in MySQL. -/
def Request.ofTable (database table : String) (verb : Verb) : Request where
  databaseType := "mysql"
  moduleName := database
  moduleUrl := database
  database := database
  table := table
  verb := verb
  overwrite := false
  verbose := false
  join := false
  notify := false

namespace Command

/-- No tables, and a request in a dialect that there is not. -/
def unknownDialect : FileTree :=
  .folder
    [("requests.json", .file
      ("[[\"oracle\",\"\",\"\",\"d\",\"t\",\"get\",false," ++
        "null,null,null,null,null,false,false,false,\x7b\x7d,null,false]]")),
     ("schema.json", .file "[]")]

def tryArguments : Arguments :=
  { requests := some "requests.json", schemaFile := some "schema.json", dryRun := true }

theorem exists_of_map_eq_some {ε α β τ : Type} {answer : Except ε α × τ} {f : α → β} {value : β}
    (h : answer.1.toOption.map f = some value) :
    ∃ a after, answer = (.ok a, after) ∧ f a = value := by
  obtain ⟨a, hanswer, hvalue⟩ := exists_of_map_toOption_eq_some h
  exact ⟨a, answer.2, Prod.ext hanswer rfl, hvalue⟩

theorem exists_job_of_unknownDialect :
    ∃ job after,
      runOn ((Surroundings.ofTree [] []).job tryArguments) unknownDialect = (.ok job, after) ∧
      job.requests.map Request.key = [⟨"d", "t", .get⟩] :=
  exists_of_map_eq_some (by decide +kernel)

end Command

/-- One request is generated on a shelf; the other one is found to mean nothing by the command. -/
theorem two_requests_are_reported :
    (∃ artifacts : List Artifact,
      ["backend/d/t.get.endpoint.yaml"] = artifacts.map Artifact.path ∧
      2 = (artifacts.flatMap fun artifact => artifact.text.toList).count '\n' ∧
      ∀ artifact ∈ artifacts,
        (Shelf.mk [("backend/d/t.get.endpoint.yaml", "first\nsecond\n")]).get? artifact.path =
          some artifact.text) ∧
    let surroundings := Command.Surroundings.ofTree [] []
    let values := ["requests.json", "--schema-file", "schema.json", "--dry-run"]
    Command.Arguments.parse values = .ok Command.tryArguments ∧
      ∃ (job : Command.Job) (between : FileTree) (fates : List Fate) (after : FileTree)
        (batch : Batch), job.requests.map Request.key = [⟨"d", "t", .get⟩] ∧
        job.Handles surroundings true between fates after ∧ batch.Tells job.requests fates ∧
        let outcome := Command.Outcome.finished batch batch.text
        ((Command.run surroundings values).run Command.unknownDialect).run = (outcome, after) ∧
        (outcome.status = if batch.failed = [] then 0 else 2) ∧ outcome.status = 2 := by
  constructor
  · have hendpoint : (Request.ofTable "d" "t" .get).toEndpoint =
        .ok (.ofTable .mysql "d" "t" .get) := rfl
    have hrender : Generator.ofTwoLines.render (.ofTable .mysql "d" "t" .get) =
        .ok [⟨"backend/d/t.get.endpoint.yaml", "first\nsecond\n"⟩] :=
      Except.toOption_eq_some_iff.1 (by decide +kernel)
    have hsave : runOn
        (Shelf.store.save false [⟨"backend/d/t.get.endpoint.yaml", "first\nsecond\n"⟩])
        Shelf.empty =
          (.ok (), ⟨[("backend/d/t.get.endpoint.yaml", "first\nsecond\n")]⟩) := rfl
    exact every_request_is_reported.2.1 .ofTwoLines .empty _ (.ofTable "d" "t" .get) _
      (.generated hendpoint hrender hsave)
  · have hparse : Command.Arguments.parse
        ["requests.json", "--schema-file", "schema.json", "--dry-run"] =
          .ok Command.tryArguments := by
      decide +kernel
    obtain ⟨job, between, hjob, hkeys⟩ := Command.exists_job_of_unknownDialect
    obtain ⟨fates, after, batch, hhandles, htells, hrun, hstatus⟩ :=
      every_request_is_reported.2.2 (.ofTree [] []) _ _ job _ between hparse hjob
    have htwo : ((Command.run (.ofTree [] [])
        ["requests.json", "--schema-file", "schema.json", "--dry-run"]).run
          Command.unknownDialect).run.1.status = 2 := by
      decide +kernel
    rw [hrun] at htwo
    exact ⟨hparse, job, between, fates, after, batch, hkeys, hhandles, htells, hrun, hstatus, htwo⟩

end Scaffold
