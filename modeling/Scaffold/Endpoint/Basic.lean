import Scaffold.Dialect
import Scaffold.Policy.Document

/-!
# Endpoints

One table, one verb, and everything asked for about them.
-/

namespace Scaffold

open Document (Flaw Fields asText asList asRecord optional)

/-- The columns and keys an endpoint is narrowed to, if it is. -/
structure Selection where
  columns : Option (List String) := none
  primary : Option (List String) := none
deriving DecidableEq, Repr

namespace Selection

def fields : Fields Selection :=
  Selection.mk <$> optional "columns" (asList asText) <*> optional "primary" (asList asText)

def read : Document → Except Flaw Selection :=
  asRecord "struct ColumnSelection" fields

def write (selection : Selection) : Document :=
  .record [("columns", .option .texts selection.columns),
    ("primary", .option .texts selection.primary)]

end Selection

/-- What identifies an endpoint in reports. -/
structure EndpointKey where
  database : String
  table : String
  verb : Verb
deriving DecidableEq, Repr

namespace EndpointKey

/-- The key as `database.table [verb]`. -/
def render (key : EndpointKey) : String :=
  key.database ++ "." ++ key.table ++ " [" ++ key.verb.name ++ "]"

def write (key : EndpointKey) : Document :=
  .record [("database", .text key.database), ("table", .text key.table),
    ("verb", key.verb.write)]

end EndpointKey

/-- An endpoint to generate. -/
structure Endpoint where
  dialect : Dialect
  /-- The module and its URL; an empty one is left to the table or its database. -/
  moduleName : String
  moduleUrl : String
  database : String
  table : String
  verb : Verb
  policy : Policy := {}
  selection : Selection := {}
  /-- Whether creation answers with the new key. -/
  returnId : Bool := false
  /-- Whether existing files are replaced. -/
  overwrite : Bool := false
  verbose : Bool := false
  join : Bool := false

namespace Endpoint

/-- An endpoint of the module that has the name of its database. -/
def ofTable (dialect : Dialect) (database table : String) (verb : Verb) : Endpoint :=
  { dialect, moduleName := database, moduleUrl := database, database, table, verb }

def key (endpoint : Endpoint) : EndpointKey :=
  ⟨endpoint.database, endpoint.table, endpoint.verb⟩

end Endpoint

end Scaffold
