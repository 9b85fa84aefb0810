import Scaffold.Schema.Labels
import Scaffold.Schema.Snapshot
import Scaffold.Text.Search

/-!
# Schemas from a PostgreSQL server

A server answers questions with rows.  One connection sees one database, and the tables of one
schema of it are read.  The questions are noted in the order in which they are asked.
-/

namespace Scaffold

/-- A row about a column. -/
structure ColumnRow where
  name : String
  type : String
  nullable : Bool
  default : Option String
  identity : Bool
deriving DecidableEq, Repr

/-- A server, as its answers to the questions: rows, or the words of a refusal. -/
structure Server where
  database : Except String (List String)
  enums : (schema : String) → Except String (List String)
  tables : (schema : String) → Except String (List String)
  primaryKey : (table schema : String) → Except String (List String)
  columns : (table schema : String) → Except String (List ColumnRow)
  foreignKeys : (table schema : String) → Except String (List ForeignKey)

namespace Introspection

/-- Whether the default of a column is made by the server. -/
def isGeneratedDefault (default : String) : Bool :=
  let cs := Text.lowerChars default.toList
  Text.contains "nextval(".toList cs || Text.contains "generated".toList cs

/-- The column that a row tells of.  The types of a database's own enumerations are texts. -/
def columnOf (row : ColumnRow) (primary : Bool) (enums : List String) : Column :=
  { name := row.name
    type := row.type
    logicalType := if enums.contains row.type then some .text else none
    nullable := row.nullable
    primary
    hasDefault := row.default.isSome || row.identity
    automatic := row.identity || row.default.any isGeneratedDefault }

/-- The foreign key that a row tells of.  What is shown for it is not the server's to say. -/
def keyOf (row : ForeignKey) : ForeignKey :=
  { column := row.column
    referencedTable := row.referencedTable
    referencedColumn := row.referencedColumn }

/-- Introspection notes its questions and may fail. -/
abbrev Asking := ExceptT Failure (StateM (List Query))

/-- Asks a question about a schema. -/
def ask {α : Type} (schema : String) (query : Query) (answer : Except String α) : Asking α := do
  modify (· ++ [query])
  match answer with
  | .ok rows => pure rows
  | .error reason => throw (.introspection schema (.refused query reason))

/-- The one row that an answer must consist of. -/
def single : Except String (List String) → Except String String
  | .error reason => .error reason
  | .ok [row] => .ok row
  | .ok _ => .error "query returned an unexpected number of rows"

/-- A table, by three questions. -/
def tableOf (server : Server) (schema : String) (enums : List String) (name : String) :
    Asking Table := do
  let primary ← ask schema (.primaryKey name schema) (server.primaryKey name schema)
  let rows ← ask schema (.columns name schema) (server.columns name schema)
  let keys ← ask schema (.foreignKeys name schema) (server.foreignKeys name schema)
  let columns := rows.map fun row => columnOf row (primary.contains row.name) enums
  pure { name, columns, foreignKeys := keys.map keyOf }

/-- Tables in order. -/
def tablesOf (server : Server) (schema : String) (enums : List String) :
    List String → Asking (List Table)
  | [] => pure []
  | name :: names => do
      let table ← tableOf server schema enums name
      let tables ← tablesOf server schema enums names
      pure (table :: tables)

/-- The database that a server shows, with the kept tables only and with labels chosen. -/
def databaseOf (server : Server) (schema : String) (filter : TableFilter) : Asking Database := do
  let name ← ask schema .database (single server.database)
  let enums ← ask schema (.enums schema) (server.enums schema)
  let names ← ask schema (.tables schema) (server.tables schema)
  let tables ← tablesOf server schema enums (names.filter filter.keeps)
  pure { name, tables : Database }.inferLabels

/-- The schema that a server shows. -/
def introspect (server : Server) (schema : String) (filter : TableFilter) : Asking Schema := do
  let database ← databaseOf server schema filter
  match Schema.ofDatabases [database] with
  | .ok schema => pure schema
  | .error failure => throw failure

end Introspection

end Scaffold
