import Scaffold.Settings
import Scaffold.Text.Fields

/-!
# Command line arguments

The requests to read, and options with long names, some with a short one.  Arguments are gone
through from left to right.  A value follows its option or is attached with an equals sign; after
two hyphens there are no more options.
-/

namespace Scaffold.Command

/-- Why the arguments do not lead to a run. -/
inductive Refusal where
  /-- Help or the version was asked for. -/
  | help
  | version
  | misuse
deriving DecidableEq, Repr

/-- What a run was asked to do. -/
structure Arguments where
  requests : Option String := none
  schemaFile : Option String := none
  /-- Whether a live database is to be read. -/
  database : Bool := false
  schema : Option String := none
  output : Option String := none
  templates : Option String := none
  dryRun : Bool := false
  json : Bool := false
  parallel : Option Nat := none
  envFile : Option String := none
  tables : Option (List String) := none
  exclude : Option (List String) := none
  verbosity : Nat := 0
deriving DecidableEq, Repr

/-- The options that take a value. -/
inductive Parameter where
  | schemaFile
  | database
  | schema
  | output
  | templates
  | parallel
  | envFile
  | tables
  | exclude
deriving DecidableEq, Repr

/-- The options that take none. -/
inductive Switch where
  | dryRun
  | json
  | verbose
  | help
  | version
deriving DecidableEq, Repr

def parameters : List (String × Parameter) :=
  [("schema-file", .schemaFile), ("database", .database), ("schema", .schema),
    ("output", .output), ("templates", .templates), ("max-parallel", .parallel),
    ("env-file", .envFile), ("tables", .tables), ("exclude", .exclude)]

def switches : List (String × Switch) :=
  [("dry-run", .dryRun), ("json", .json), ("verbose", .verbose), ("help", .help),
    ("version", .version)]

/-- A value for an option that may be given once. -/
def once {α : Type} (earlier : Option α) (value : α) : Except Refusal (Option α) :=
  if earlier.isSome then .error .misuse else .ok (some value)

/-- A path, which must not be empty, for an option that may be given once. -/
def oncePath (earlier : Option String) (path : String) : Except Refusal (Option String) :=
  if path = "" then .error .misuse else once earlier path

/-- The parts of a value between commas. -/
def listed (value : String) : List String :=
  (Text.fields (· = ',') value.toList).map String.ofList

namespace Arguments

/-- The arguments with a value for an option. -/
def withValue (arguments : Arguments) (value : String) :
    Parameter → Except Refusal Arguments
  | .schemaFile => do
      pure { arguments with schemaFile := ← oncePath arguments.schemaFile value }
  | .database =>
      if value = "postgres" ∧ !arguments.database then .ok { arguments with database := true }
      else .error .misuse
  | .schema => do pure { arguments with schema := ← once arguments.schema value }
  | .output => do pure { arguments with output := ← oncePath arguments.output value }
  | .templates => do pure { arguments with templates := ← oncePath arguments.templates value }
  | .parallel =>
      match Settings.natural? UInt64.size value with
      | some n => do pure { arguments with parallel := ← once arguments.parallel n }
      | none => .error .misuse
  | .envFile => do pure { arguments with envFile := ← oncePath arguments.envFile value }
  | .tables => .ok { arguments with tables := some (arguments.tables.getD [] ++ listed value) }
  | .exclude => .ok { arguments with exclude := some (arguments.exclude.getD [] ++ listed value) }

/-- The arguments with an option that takes no value. -/
def withSwitch (arguments : Arguments) : Switch → Except Refusal Arguments
  | .dryRun => if arguments.dryRun then .error .misuse else .ok { arguments with dryRun := true }
  | .json => if arguments.json then .error .misuse else .ok { arguments with json := true }
  | .verbose => .ok { arguments with verbosity := arguments.verbosity + 1 }
  | .help => .error .help
  | .version => .error .version

/-- The arguments with one that belongs to no option. -/
def withPlain (arguments : Arguments) (value : String) : Except Refusal Arguments := do
  pure { arguments with requests := ← oncePath arguments.requests value }

/-- What short options in one argument leave to do. -/
inductive Short where
  | done (arguments : Arguments)
  /-- The last of them takes the next argument as its value. -/
  | wants (arguments : Arguments) (parameter : Parameter)

/-- Short options in one argument; what follows `o` is its value. -/
def withShort (arguments : Arguments) : List Char → Except Refusal Short
  | [] => .ok (.done arguments)
  | 'v' :: cs => withShort { arguments with verbosity := arguments.verbosity + 1 } cs
  | 'h' :: _ => .error .help
  | 'V' :: _ => .error .version
  | 'o' :: [] => .ok (.wants arguments .output)
  | 'o' :: '=' :: cs => (arguments.withValue (String.ofList cs) .output).map .done
  | 'o' :: cs => (arguments.withValue (String.ofList cs) .output).map .done
  | _ => .error .misuse

/-- Whether an argument is an option or the end of options, and so no option's value. -/
def isOption : List Char → Bool
  | '-' :: _ :: _ => true
  | _ => false

/-- Arguments that belong to no option. -/
def withPlains (arguments : Arguments) : List String → Except Refusal Arguments
  | [] => .ok arguments
  | value :: values => do withPlains (← arguments.withPlain value) values

/-- The arguments with further ones. -/
def parseAfter (arguments : Arguments) : List String → Except Refusal Arguments
  | [] => .ok arguments
  | argument :: rest =>
      match argument.toList with
      | ['-', '-'] => arguments.withPlains rest
      | '-' :: '-' :: cs =>
          let (name, value) := match Text.cut '=' cs with
            | some (name, value) => (name, some (String.ofList value))
            | none => (cs, none)
          match parameters.lookup (String.ofList name), value, rest with
          | some parameter, some value, rest => do
              parseAfter (← arguments.withValue value parameter) rest
          | some parameter, none, value :: rest =>
              if isOption value.toList then .error .misuse
              else do parseAfter (← arguments.withValue value parameter) rest
          | some _, none, [] => .error .misuse
          | none, some _, _ => .error .misuse
          | none, none, rest =>
              match switches.lookup (String.ofList name) with
              | some switch => do parseAfter (← arguments.withSwitch switch) rest
              | none => .error .misuse
      | '-' :: c :: cs => do
          match ← arguments.withShort (c :: cs), rest with
          | .done arguments, rest => parseAfter arguments rest
          | .wants arguments parameter, value :: rest =>
              if isOption value.toList then .error .misuse
              else do parseAfter (← arguments.withValue value parameter) rest
          | .wants _ _, [] => .error .misuse
      | _ => do parseAfter (← arguments.withPlain argument) rest

/-- The arguments of a run.  Requests must be given, and only one source of the schema. -/
def parse (values : List String) : Except Refusal Arguments := do
  let arguments ← parseAfter {} values
  if arguments.requests.isNone ∨ (arguments.schemaFile.isSome ∧ arguments.database) then
    throw .misuse
  pure arguments

end Arguments

end Scaffold.Command
