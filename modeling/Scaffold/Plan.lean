import Scaffold.Endpoint.Basic
import Scaffold.Join
import Scaffold.Policy.Check
import Scaffold.Schema.Snapshot

/-!
# Plans

Everything the files of an endpoint draw on, or the reason why the endpoint cannot be generated.
The checks are made in a fixed order, and the first one that fails gives the reason.
-/

namespace Scaffold

/-- An endpoint that can be generated. -/
structure Plan where
  endpoint : Endpoint
  table : Table
  policy : EffectivePolicy
  /-- The columns the verb works on, in order of declaration. -/
  surface : List Column
  /-- The columns of the key, in order of declaration. -/
  keys : List Column
  joins : List Join
  moduleName : String
  moduleUrl : String

namespace Endpoint

/-- What was asked for, else the table's, else the name of the database. -/
def pick (requested : String) (ofTable : Option String) (database : String) : String :=
  if requested ≠ "" then requested else ofTable.getD database

/-- The key columns: all of them, or those asked for. -/
def selectKeys (endpoint : Endpoint) (table : Table) : Except Problem (List Column) :=
  match endpoint.selection.primary with
  | none => .ok table.primaryKey
  | some names =>
      match names.find? fun name => !table.primaryKey.any (·.name == name) with
      | some name => .error (.notAKey name table.name)
      | none => .ok (table.primaryKey.filter fun column => names.contains column.name)

/-- The columns that can be asked for; a deletion has only those of the chosen key. -/
def eligible (endpoint : Endpoint) (table : Table) (keys : List Column) : List Column :=
  let offered := table.columnsFor endpoint.verb
  if endpoint.verb = .delete then
    offered.filter fun column => keys.any fun key => key.name == column.name
  else offered

/-- What is wrong with asking for a column. -/
def columnProblem? (endpoint : Endpoint) (table : Table) (offered : List Column)
    (name : String) : Option Problem :=
  if !table.hasColumn name then some (.unknownColumn name table.name)
  else if !offered.any (·.name == name) then some (.hiddenColumn name endpoint.verb)
  else none

/-- The columns the endpoint works on: all it can, or those asked for. -/
def selectSurface (endpoint : Endpoint) (table : Table) (keys : List Column) :
    Except Problem (List Column) :=
  let offered := endpoint.eligible table keys
  match endpoint.selection.columns with
  | none => .ok offered
  | some names =>
      if names.isEmpty then .error .emptySelection
      else match names.findSome? (endpoint.columnProblem? table offered) with
        | some problem => .error problem
        | none => .ok (offered.filter fun column => names.contains column.name)

/-- What the verb lacks. -/
def lack? (endpoint : Endpoint) (surface keys : List Column) : Option Problem :=
  match endpoint.verb with
  | .put =>
      if keys.isEmpty then some .updateWithoutKey
      else if surface.isEmpty then some .updateWithoutColumns
      else none
  | .delete => if surface.isEmpty then some .deleteWithoutKey else none
  | .post =>
      if surface.isEmpty then some .createWithoutColumns
      else if endpoint.returnId ∧ keys.isEmpty then some .returnWithoutKey
      else none
  | .get => if surface.isEmpty then some .readWithoutColumns else none

/-- The database and table of the endpoint. -/
def locate (endpoint : Endpoint) (schema : Schema) : Except Problem (Database × Table) :=
  if !isIdentifier endpoint.database then .error (.badDatabaseName endpoint.database)
  else if !isIdentifier endpoint.table then .error (.badTableName endpoint.table)
  else match schema.database? endpoint.database with
    | none => .error (.unknownDatabase endpoint.database)
    | some database =>
        match database.table? endpoint.table with
        | none => .error (.unknownTable endpoint.table endpoint.database)
        | some table => .ok (database, table)

/-- The name and URL of the module. -/
def moduleOf (endpoint : Endpoint) (database : Database) (table : Table) :
    Except Problem (String × String) :=
  let name := pick endpoint.moduleName table.moduleName database.name
  let url := pick endpoint.moduleUrl table.moduleUrl database.name
  if !isModuleName name then .error (.badModuleName name)
  else if !isModuleUrl url then .error (.badModuleUrl url)
  else .ok (name, url)

/-- The columns and keys the endpoint works on. -/
def columnsOf (endpoint : Endpoint) (table : Table) :
    Except Problem (List Column × List Column) := do
  let keys ← endpoint.selectKeys table
  let surface ← endpoint.selectSurface table keys
  match endpoint.lack? surface keys with
  | some problem => .error problem
  | none => .ok (surface, keys)

/-- The failure that a problem of the endpoint is. -/
def refuse {α : Type} (endpoint : Endpoint) : Except Problem α → Except Failure α
  | .ok a => .ok a
  | .error problem => .error (.invalid endpoint.key.render problem)

/-- The plan of an endpoint.  The foreign keys are checked for every verb that shows them, whether
they are joined or not. -/
def plan (endpoint : Endpoint) (schema : Schema) : Except Failure Plan := do
  let (database, table) ← endpoint.refuse (endpoint.locate schema)
  let (moduleName, moduleUrl) ← endpoint.refuse (endpoint.moduleOf database table)
  let (surface, keys) ← endpoint.refuse (endpoint.columnsOf table)
  let policy := endpoint.policy.resolve table.policy endpoint.verb
  policy.check endpoint.key.render endpoint.verb table
  let joins ← if endpoint.verb = .delete then pure [] else table.joins database
  pure { endpoint, table, policy, surface, keys, joins, moduleName, moduleUrl }

end Endpoint

end Scaffold
