import Scaffold.Failure
import Scaffold.Schema.Document

/-!
# Snapshots

A list of databases in which every name is unique where it is declared, every table has a column
and every foreign key starts at one.  The first place that breaks a rule is the one reported:
databases, their tables and the parts of a table are gone through in order.
-/

namespace Scaffold

/-- The first element whose name occurs before it. -/
def firstRepeated {α : Type} (name : α → String) (seen : List String) : List α → Option α
  | [] => none
  | a :: as =>
      if seen.contains (name a) then some a else firstRepeated name (name a :: seen) as

theorem firstRepeated_eq_none_iff {α : Type} {name : α → String} {seen : List String}
    {as : List α} :
    firstRepeated name seen as = none ↔
      (as.map name).Nodup ∧ ∀ a ∈ as, name a ∉ seen := by
  induction as generalizing seen with
  | nil => simp [firstRepeated]
  | cons a as ih =>
      by_cases h : name a ∈ seen
      · simp [firstRepeated, h]
      · simp only [firstRepeated, List.contains_iff_mem, h, if_false, ih, List.map_cons,
          List.nodup_cons, List.mem_map, List.mem_cons, not_or, not_exists, not_and,
          forall_eq_or_imp, not_false_eq_true, true_and]
        grind

/-! ## Consistency -/

/-- A table with columns that can be told apart, from which its foreign keys start. -/
structure Table.Consistent (table : Table) : Prop where
  columns_ne_nil : table.columns ≠ []
  nodup_columns : (table.columns.map Column.name).Nodup
  sources : ∀ key ∈ table.foreignKeys, key.column ∈ table.columns.map Column.name

structure Database.Consistent (database : Database) : Prop where
  nodup_tables : (database.tables.map Table.name).Nodup
  tables : ∀ table ∈ database.tables, table.Consistent

/-- Databases that can be told apart, each of them consistent. -/
structure Consistent (databases : List Database) : Prop where
  nodup_databases : (databases.map Database.name).Nodup
  databases : ∀ database ∈ databases, database.Consistent

/-! ## The first failure -/

namespace Table

theorem hasColumn_iff {table : Table} {name : String} :
    table.hasColumn name ↔ name ∈ table.columns.map Column.name := by
  simp [hasColumn, column?]

/-- What is wrong with a table, whatever its database. -/
def problem? (table : Table) : Option Problem :=
  if table.columns.isEmpty then some .noColumns
  else match firstRepeated Column.name [] table.columns with
    | some column => some (.repeatedColumn column.name)
    | none =>
        (table.foreignKeys.find? fun key => !table.hasColumn key.column).map fun key =>
          .missingKeyColumn key.column

theorem problem?_eq_none_iff {table : Table} : table.problem? = none ↔ table.Consistent := by
  unfold problem?
  split
  · next h =>
      simp only [reduceCtorEq, false_iff]
      exact fun consistent => consistent.columns_ne_nil (List.isEmpty_iff.1 h)
  · next hne =>
      split
      · next column h =>
          simp only [reduceCtorEq, false_iff]
          intro consistent
          rw [firstRepeated_eq_none_iff.2 ⟨consistent.nodup_columns, by simp⟩] at h
          cases h
      · next h =>
          simp only [Option.map_eq_none_iff, List.find?_eq_none, Bool.not_eq_true',
            Bool.not_eq_false, hasColumn_iff]
          exact ⟨fun sources => ⟨by simpa using hne, (firstRepeated_eq_none_iff.1 h).1, sources⟩,
            Consistent.sources⟩

end Table

namespace Database

/-- The first failure among tables, given the names of the tables before them. -/
def tableFailure? (database : String) (seen : List String) : List Table → Option Failure
  | [] => none
  | table :: tables =>
      let target := database ++ "." ++ table.name
      if seen.contains table.name then some (.invalid target .repeatedTable)
      else match table.problem? with
        | some problem => some (.invalid target problem)
        | none => tableFailure? database (table.name :: seen) tables

theorem tableFailure?_eq_none_iff {database : String} {seen : List String}
    {tables : List Table} :
    tableFailure? database seen tables = none ↔
      firstRepeated Table.name seen tables = none ∧ ∀ table ∈ tables, table.Consistent := by
  induction tables generalizing seen with
  | nil => simp [tableFailure?, firstRepeated]
  | cons table tables ih =>
      by_cases h : table.name ∈ seen
      · simp [tableFailure?, firstRepeated, h]
      · cases hp : table.problem? with
        | none =>
            simp [tableFailure?, firstRepeated, h, hp, ih, Table.problem?_eq_none_iff.1 hp]
        | some problem =>
            have : ¬ table.Consistent := fun consistent => by
              simp [Table.problem?_eq_none_iff.2 consistent] at hp
            simp [tableFailure?, h, hp, this]

/-- The first failure among databases, given the names of the databases before them. -/
def failure? (seen : List String) : List Database → Option Failure
  | [] => none
  | database :: databases =>
      if seen.contains database.name then some (.invalid database.name .repeatedDatabase)
      else match tableFailure? database.name [] database.tables with
        | some failure => some failure
        | none => failure? (database.name :: seen) databases

theorem consistent_iff {database : Database} :
    database.Consistent ↔ tableFailure? database.name [] database.tables = none := by
  rw [tableFailure?_eq_none_iff, firstRepeated_eq_none_iff]
  exact ⟨fun h => ⟨⟨h.nodup_tables, by simp⟩, h.tables⟩, fun h => ⟨h.1.1, h.2⟩⟩

theorem failure?_eq_none_iff {seen : List String} {databases : List Database} :
    failure? seen databases = none ↔
      firstRepeated Database.name seen databases = none ∧
        ∀ database ∈ databases, database.Consistent := by
  induction databases generalizing seen with
  | nil => simp [failure?, firstRepeated]
  | cons database databases ih =>
      by_cases h : database.name ∈ seen
      · simp [failure?, firstRepeated, h]
      · cases hf : tableFailure? database.name [] database.tables with
        | none => simp [failure?, firstRepeated, h, hf, ih, consistent_iff]
        | some failure => simp [failure?, h, hf, consistent_iff]

end Database

/-- A consistent snapshot. -/
structure Schema where
  databases : List Database
  consistent : Consistent databases

namespace Schema

theorem consistent_iff {databases : List Database} :
    Consistent databases ↔ Database.failure? [] databases = none := by
  rw [Database.failure?_eq_none_iff, firstRepeated_eq_none_iff]
  exact ⟨fun h => ⟨⟨h.nodup_databases, by simp⟩, h.databases⟩, fun h => ⟨h.1.1, h.2⟩⟩

def empty : Schema := ⟨[], consistent_iff.2 rfl⟩

def ofDatabases (databases : List Database) : Except Failure Schema :=
  match h : Database.failure? [] databases with
  | none => .ok ⟨databases, consistent_iff.2 h⟩
  | some failure => .error failure

def database? (schema : Schema) (name : String) : Option Database :=
  schema.databases.find? fun database => database.name == name

theorem ofDatabases_eq_ok_iff {databases : List Database} {schema : Schema} :
    ofDatabases databases = .ok schema ↔ schema.databases = databases := by
  obtain ⟨kept, consistent⟩ := schema
  unfold ofDatabases
  split
  · simp [eq_comm]
  · next failure h =>
      simp only [reduceCtorEq, false_iff]
      rintro rfl
      rw [consistent_iff.1 consistent] at h
      cases h

end Schema

end Scaffold
