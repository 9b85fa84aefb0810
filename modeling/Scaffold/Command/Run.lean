import Scaffold.Batch
import Scaffold.Artifact.Shelf
import Scaffold.Catalog.Builtin
import Scaffold.Command.Arguments
import Scaffold.Command.Surroundings
import Scaffold.Introspection.Snapshot
import Scaffold.Summary

/-!
# Runs of the command

Arguments, variables and files lead to a generator and a list of requests.  Whatever is wrong with
them ends the run before anything is written; what is wrong with a single endpoint does not.
-/

namespace Scaffold.Command

/-- Why a run ends before it generates anything. -/
inductive Fault where
  | unreadVariables (path reason : String)
  | malformedVariables (path : String)
  | settings (fault : SettingsFault)
  | unreadRequests (path reason : String)
  | malformedRequests (path : String) (flaw : Document.Flaw)
  | schema (failure : Failure)
  /-- A live database is asked for, and there is no client for one. -/
  | noClient
  | noSchema
  | templates (failure : Failure)

def Fault.message : Fault → String
  | .unreadVariables path reason => "Failed to load " ++ path ++ ": " ++ reason
  | .malformedVariables path => "Failed to load " ++ path ++ ": malformed line"
  | .settings fault => "Failed to load generator configuration: " ++ fault.message
  | .unreadRequests path reason => "Failed to read requests from " ++ path ++ ": " ++ reason
  | .malformedRequests path flaw =>
      "Malformed generation requests in " ++ path ++ ": " ++ flaw.message
  | .schema failure => "Failed to load schema snapshot: " ++ failure.message
  | .noClient => "PostgreSQL support not enabled"
  | .noSchema => "Either --schema-file or --database is required"
  | .templates failure => "Failed to load templates: " ++ failure.message

/-- How a run ends. -/
inductive Outcome where
  | refused (refusal : Refusal)
  | fatal (fault : Fault)
  | finished (batch : Batch) (summary : String)

namespace Outcome

/-- The exit status: zero if everything that was asked for was done. -/
def status : Outcome → UInt8
  | .refused .help => 0
  | .refused .version => 0
  | .refused .misuse => 2
  | .fatal _ => 1
  | .finished batch _ => if batch.isComplete then 0 else 2

/-- The summary that is printed. -/
def summary? : Outcome → Option String
  | .finished _ summary => some summary
  | _ => none

end Outcome

/-- The file of variables that is read unless another is named. -/
def defaultEnvFile : String := "./.env"

/-- The settings of a run, of which the arguments replace some. -/
def Arguments.override (arguments : Arguments) (settings : RunSettings) : RunSettings :=
  { settings with
    output := arguments.output.getD settings.output
    templates := arguments.templates.or settings.templates
    parallel := (arguments.parallel.map RunSettings.atLeastOne).getD settings.parallel }

def Arguments.filter (arguments : Arguments) : TableFilter :=
  ⟨arguments.tables, arguments.exclude⟩

variable {m : Type → Type} [Monad m]

namespace Surroundings

/-- The assignments in a file of variables, none if there is no such file. -/
def assignments (surroundings : Surroundings m) (path : String) :
    ExceptT Fault m (List EnvFile.Assignment) := do
  unless ← surroundings.isThere path do return []
  match ← surroundings.read path with
  | .error reason => throw (.unreadVariables path reason)
  | .ok text => match EnvFile.ofText text with
      | some assignments => pure assignments
      | none => throw (.malformedVariables path)

/-- The settings by the variables that are set and by a file of variables. -/
def settings (surroundings : Surroundings m) (path : String) : ExceptT Fault m RunSettings := do
  let assignments ← surroundings.assignments path
  let environment ←
    surroundings.environment (RunSettings.names ++ EnvFile.mentioned assignments)
  let loaded := EnvFile.load environment [] assignments
  match RunSettings.ofLookup (fun name => loaded.lookup name) with
  | .ok settings => pure settings
  | .error fault => throw (.settings fault)

/-- The requests in a file. -/
def requests (surroundings : Surroundings m) (path : String) : ExceptT Fault m (List Request) := do
  match ← surroundings.read path with
  | .error reason => throw (.unreadRequests path reason)
  | .ok text => match Document.ofText Request.readAll text with
      | .ok requests => pure requests
      | .error flaw => throw (.malformedRequests path flaw)

/-- The schema that the arguments ask for. -/
def schema (surroundings : Surroundings m) (arguments : Arguments) : ExceptT Fault m Schema := do
  match arguments.schemaFile with
  | some path =>
      match Introspection.readSnapshot path (← surroundings.read path) arguments.filter with
      | .ok schema => pure schema
      | .error failure => throw (.schema failure)
  | none => throw (if arguments.database then .noClient else .noSchema)

/-- The sources of templates in a folder, by the names of their files. -/
def sources (surroundings : Surroundings m) (folder : String) :
    List String → ExceptT Fault m (List (String × String))
  | [] => pure []
  | name :: names => do
      let path := folder ++ "/" ++ name
      if ← surroundings.isFile path then
        match ← surroundings.read path with
        | .error reason => throw (.templates (.output reason))
        | .ok source => do
            let others ← surroundings.sources folder names
            pure ((name, source) :: others)
      else surroundings.sources folder names

/-- The built-in catalog, or the one that a folder of templates makes of it. -/
def catalog (surroundings : Surroundings m) : Option String → ExceptT Fault m Catalog
  | none => pure Catalog.builtin
  | some folder => do
      unless ← surroundings.isFolder folder do
        throw (.templates (Catalog.missingDirectory folder))
      let sources ← surroundings.sources folder (Catalog.entries.map Catalog.Entry.file)
      pure (Catalog.overridden fun name => sources.lookup name)

end Surroundings

/-- What a run works with. -/
structure Job where
  generator : Generator
  requests : List Request
  output : String

namespace Surroundings

/-- Finds out what a run works with. -/
def job (surroundings : Surroundings m) (arguments : Arguments) : ExceptT Fault m Job := do
  let settings ← surroundings.settings (arguments.envFile.getD defaultEnvFile)
  let settings := arguments.override settings
  let requests ← surroundings.requests (arguments.requests.getD "")
  let schema ← surroundings.schema arguments
  let catalog ← surroundings.catalog settings.templates
  pure ⟨⟨schema, catalog, ⟨settings.singularClasses⟩⟩, requests, settings.output⟩

end Surroundings

/-- Does a job: in memory if it is only tried. -/
def Job.batch (job : Job) (surroundings : Surroundings m) (dryRun : Bool) : m Batch :=
  if dryRun then
    pure (StateT.run (job.generator.runRequests Shelf.store job.requests) Shelf.empty).1
  else job.generator.runRequests (surroundings.store job.output) job.requests

/-- Runs the command with arguments. -/
def run (surroundings : Surroundings m) (values : List String) : m Outcome := do
  match Arguments.parse values with
  | .error refusal => pure (.refused refusal)
  | .ok arguments =>
      match ← (surroundings.job arguments).run with
      | .error fault => pure (.fatal fault)
      | .ok job => do
          let batch ← job.batch surroundings arguments.dryRun
          pure (.finished batch (if arguments.json then batch.json else batch.text))

end Scaffold.Command
