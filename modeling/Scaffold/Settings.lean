import Scaffold.Text.Blank
import Scaffold.Text.Case

/-!
# Settings

What variables say about the connection to a database and about a run of the generator.  Variables
are looked up by name; most of them have a default.
-/

namespace Scaffold

/-- What is wrong with a variable. -/
inductive SettingsFault where
  | badPort
  | missing (name : String)
  | badParallel
  | badSingular
deriving DecidableEq, Repr

def SettingsFault.message : SettingsFault → String
  | .badPort => "DB_PORT must be a valid port number"
  | .missing name => name ++ " environment variable is required"
  | .badParallel => "CRUDIFY_MAX_PARALLEL must be a positive integer"
  | .badSingular => "CRUDIFY_SINGULAR_CLASSES must be true or false"

namespace Settings

/-- Values of variables by name. -/
abbrev Lookup := String → Option String

/-- The number that decimal digits write. -/
def digits? : List Char → Option Nat
  | [] => none
  | cs => if cs.all Char.isDigit then
      some (cs.foldl (fun n c => n * 10 + (c.toNat - 0x30)) 0) else none

/-- A number below a bound: digits, after a plus sign or not, and nothing else. -/
def natural? (bound : Nat) (text : String) : Option Nat :=
  let digits := match text.toList with
    | '+' :: cs => cs
    | cs => cs
  (digits? digits).filter (· < bound)

/-- Yes or no in one of the usual words. -/
def flag? (text : String) : Option Bool :=
  let word := Text.toAsciiLower (Text.trim text)
  if ["1", "true", "yes", "on"].contains word then some true
  else if ["0", "false", "no", "off"].contains word then some false
  else none

/-- A variable with a default, read in a given way. -/
def readOr {α : Type} (lookup : Lookup) (name : String) (default : α) (fault : SettingsFault)
    (read : String → Option α) : Except SettingsFault α :=
  match lookup name with
  | none => .ok default
  | some text => match read text with
      | some value => .ok value
      | none => .error fault

def required (lookup : Lookup) (name : String) : Except SettingsFault String :=
  match lookup name with
  | some text => .ok text
  | none => .error (.missing name)

end Settings

/-- How a database is reached. -/
structure ConnectionSettings where
  host : String
  port : Nat
  database : String
  user : String
  password : String
deriving DecidableEq, Repr

namespace ConnectionSettings

open Settings

def ofLookup (lookup : Lookup) : Except SettingsFault ConnectionSettings := do
  let host := (lookup "DB_HOST").getD "localhost"
  let port ← readOr lookup "DB_PORT" 5432 .badPort (natural? UInt16.size)
  let database ← required lookup "DB_NAME"
  let user ← required lookup "DB_USER"
  let password ← required lookup "DB_PASSWORD"
  pure { host, port, database, user, password }

private def textWith (settings : ConnectionSettings) (password : String) : String :=
  "host=" ++ settings.host ++ " port=" ++ toString settings.port ++ " dbname=" ++
    settings.database ++ " user=" ++ settings.user ++ " password=" ++ password

/-- The text by which a client connects. -/
def text (settings : ConnectionSettings) : String :=
  settings.textWith settings.password

/-- The same text for logs, without the password. -/
def redacted (settings : ConnectionSettings) : String :=
  settings.textWith "***"

end ConnectionSettings

/-- How a run of the generator is set up. -/
structure RunSettings where
  /-- The folder that artifacts are written to. -/
  output : String := "./generated"
  /-- The folder whose files replace built-in templates. -/
  templates : Option String := none
  /-- How many endpoints may be worked on at a time, at least one. -/
  parallel : Nat := 8
  singularClasses : Bool := true
deriving DecidableEq, Repr

namespace RunSettings

open Settings

/-- The variables that set up a run. -/
def names : List String :=
  ["CRUDIFY_OUTPUT_DIR", "CRUDIFY_TEMPLATE_DIR", "CRUDIFY_MAX_PARALLEL", "CRUDIFY_SINGULAR_CLASSES"]

/-- At least one. -/
def atLeastOne (n : Nat) : Nat :=
  max n 1

def ofLookup (lookup : Lookup) : Except SettingsFault RunSettings := do
  let defaults : RunSettings := {}
  let parallel ← readOr lookup "CRUDIFY_MAX_PARALLEL" defaults.parallel .badParallel
    (natural? UInt64.size)
  let singularClasses ← readOr lookup "CRUDIFY_SINGULAR_CLASSES" defaults.singularClasses
    .badSingular flag?
  pure
    { output := (lookup "CRUDIFY_OUTPUT_DIR").getD defaults.output
      templates := lookup "CRUDIFY_TEMPLATE_DIR"
      parallel := atLeastOne parallel
      singularClasses }

end RunSettings

end Scaffold
