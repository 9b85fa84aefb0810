import Scaffold.Policy.Basic
import Scaffold.Schema.LogicalType

/-!
# Databases, tables and columns

The relational schema that endpoints are generated for.
-/

namespace Scaffold

/-- The verbs that may touch a column. -/
structure Exposure where
  post : Bool := true
  get : Bool := true
  put : Bool := true
  delete : Bool := true
deriving DecidableEq, Repr

namespace Exposure

def none : Exposure := ⟨false, false, false, false⟩

def allows (exposure : Exposure) : Verb → Bool
  | .post => exposure.post
  | .get => exposure.get
  | .put => exposure.put
  | .delete => exposure.delete

end Exposure

/-- Columns the server treats before it stores them. -/
inductive Treatment where
  /-- Hashed when written, never read back. -/
  | passwordHash
  /-- Encrypted when written, decrypted when read. -/
  | encrypt
deriving DecidableEq, Repr

def Treatment.name : Treatment → String
  | .passwordHash => "password_hash"
  | .encrypt => "encrypt"

structure Column where
  name : String
  /-- The type as the database reports it. -/
  type : String
  /-- The logical type, if it is not the one of the database's type. -/
  logicalType : Option LogicalType := none
  nullable : Bool := false
  primary : Bool := false
  /-- The server supplies a value where none is given. -/
  hasDefault : Bool := false
  /-- The server generates the value. -/
  automatic : Bool := false
  exposure : Exposure := {}
  treatment : Option Treatment := none
deriving DecidableEq, Repr

namespace Column

def asPrimary (column : Column) : Column :=
  { column with primary := true }

/-- A generated value is a default. -/
def asAutomatic (column : Column) : Column :=
  { column with automatic := true, hasDefault := true }

def asNullable (column : Column) : Column :=
  { column with nullable := true }

def withDefault (column : Column) : Column :=
  { column with hasDefault := true }

def withExposure (exposure : Exposure) (column : Column) : Column :=
  { column with exposure }

def withTreatment (treatment : Treatment) (column : Column) : Column :=
  { column with treatment := some treatment }

def logical (column : Column) : LogicalType :=
  column.logicalType.getD (LogicalType.ofDatabaseType column.type)

/-- Whether a verb may touch the column.  A generated key is never given on creation. -/
def isExposed (column : Column) (verb : Verb) : Bool :=
  if verb = .post ∧ column.primary ∧ column.automatic then false
  else column.exposure.allows verb

/-- Whether a row cannot be created without a value. -/
def isRequiredOnCreate (column : Column) : Bool :=
  !column.nullable && !column.hasDefault

end Column

/-- A reference from a column to a column of another table. -/
structure ForeignKey where
  column : String
  referencedTable : String
  referencedColumn : String
  /-- The column shown instead of the referenced one. -/
  labelColumn : Option String := none
  /-- Whether the values are looked up by searching, being too many for a list. -/
  long : Bool := false
deriving DecidableEq, Repr

namespace ForeignKey

def withLabel (label : String) (key : ForeignKey) : ForeignKey :=
  { key with labelColumn := some label }

def asLong (key : ForeignKey) : ForeignKey :=
  { key with long := true }

/-- The column shown for the key. -/
def label (key : ForeignKey) : String :=
  key.labelColumn.getD key.referencedColumn

end ForeignKey

structure Table where
  name : String
  /-- The module of the generated files, if it is not the database's. -/
  moduleName : Option String := none
  moduleUrl : Option String := none
  columns : List Column
  foreignKeys : List ForeignKey := []
  policy : TablePolicy := {}

namespace Table

def withForeignKey (table : Table) (key : ForeignKey) : Table :=
  { table with foreignKeys := table.foreignKeys ++ [key] }

def column? (table : Table) (name : String) : Option Column :=
  table.columns.find? fun column => column.name == name

def hasColumn (table : Table) (name : String) : Bool :=
  (table.column? name).isSome

/-- The columns of the primary key, in order of declaration. -/
def primaryKey (table : Table) : List Column :=
  table.columns.filter (·.primary)

/-- Whether a verb works on a column: updates leave keys alone, deletions name keys only, and
password hashes are never read. -/
def offers (verb : Verb) (column : Column) : Bool :=
  column.isExposed verb && match verb with
    | .post => true
    | .get => column.treatment != some .passwordHash
    | .put => !column.primary
    | .delete => column.primary

/-- The columns a verb works on, in order of declaration. -/
def columnsFor (table : Table) (verb : Verb) : List Column :=
  table.columns.filter (offers verb)

end Table

structure Database where
  name : String
  tables : List Table := []

namespace Database

def table? (database : Database) (name : String) : Option Table :=
  database.tables.find? fun table => table.name == name

end Database

end Scaffold
