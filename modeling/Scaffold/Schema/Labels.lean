import Scaffold.Schema.Basic

/-!
# Choosing tables and labels

Which tables of a database are kept, and which column of a referenced table is shown for a foreign
key that does not say.
-/

namespace Scaffold

/-- Tables to keep, if given, and tables to leave out. -/
structure TableFilter where
  only : Option (List String) := none
  without : Option (List String) := none

namespace TableFilter

def keeps (filter : TableFilter) (table : String) : Bool :=
  filter.only.all (·.contains table) && !filter.without.any (·.contains table)

/-- Whether the filter was given no list at all. -/
def isEmpty (filter : TableFilter) : Bool :=
  filter.only.isNone && filter.without.isNone

/-- The database with the kept tables only. -/
def apply (filter : TableFilter) (database : Database) : Database :=
  { database with tables := database.tables.filter fun table => filter.keeps table.name }

theorem keeps_of_isEmpty {filter : TableFilter} (h : filter.isEmpty) (table : String) :
    filter.keeps table := by
  obtain ⟨only, without⟩ := filter
  cases only <;> cases without <;> simp_all [isEmpty, keeps]

end TableFilter

namespace Table

/-- Names that a column for display usually has, the preferred one first. -/
def labelNames : List String := ["name", "title", "label", "description"]

/-- The column that stands for a row: one with a usual name, or the first text column outside the
key. -/
def display? (table : Table) : Option String :=
  let named := labelNames.findSome? fun name => table.column? name
  let shown := named.or
    (table.columns.find? fun column => !column.primary && column.logical == .text)
  shown.map Column.name

end Table

namespace Database

/-- The label of a foreign key, chosen if it is absent and the referenced table is known. -/
def inferLabel (database : Database) (key : ForeignKey) : ForeignKey :=
  { key with
    labelColumn := key.labelColumn.or ((database.table? key.referencedTable).bind Table.display?) }

/-- The database with the labels of all foreign keys chosen. -/
def inferLabels (database : Database) : Database :=
  { database with
    tables := database.tables.map fun table =>
      { table with foreignKeys := table.foreignKeys.map database.inferLabel } }

end Database

end Scaffold
