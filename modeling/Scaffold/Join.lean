import Scaffold.Failure
import Scaffold.Schema.Basic

/-!
# Joins

The tables that the foreign keys of a table lead to.  A join goes one step and never follows the
foreign keys of the table it reaches, so tables that refer to each other in a circle do no harm.
-/

namespace Scaffold

/-- How a value of another table is chosen in a form. -/
inductive Selector where
  /-- By searching. -/
  | long
  /-- From a list. -/
  | short
deriving DecidableEq, Repr

def Selector.name : Selector → String
  | .long => "long"
  | .short => "short"

/-- A foreign key with the names it is joined under. -/
structure Join where
  /-- The column of the table that is generated. -/
  column : String
  referencedTable : String
  referencedColumn : String
  /-- The name of the joined table in a query. -/
  tableAlias : String
  /-- The name of the referenced column in a query's result. -/
  columnAlias : String
  /-- The column shown for the key, and its name in a query's result. -/
  labelColumn : String
  labelAlias : String
  selector : Selector
deriving DecidableEq, Repr

namespace Join

/-- Whether another column than the referenced one is shown. -/
def hasDistinctLabel (join : Join) : Bool :=
  join.labelColumn != join.referencedColumn

/-- The join of a foreign key. -/
def ofKey (key : ForeignKey) : Join :=
  { column := key.column
    referencedTable := key.referencedTable
    referencedColumn := key.referencedColumn
    tableAlias := key.column ++ "_ref"
    columnAlias := key.column ++ "_" ++ key.referencedColumn
    labelColumn := key.label
    labelAlias := key.column ++ "_" ++ key.label
    selector := if key.long then .long else .short }

/-- The join for a column: that of its first foreign key. -/
def forColumn? (joins : List Join) (column : String) : Option Join :=
  joins.find? fun join => join.column == column

end Join

namespace ForeignKey

/-- The column a foreign key refers to in vain: the referenced one, or the one to show. -/
def danglingColumn? (database : Database) (key : ForeignKey) : Option String :=
  match database.table? key.referencedTable with
  | none => some key.referencedColumn
  | some referenced =>
      if !referenced.hasColumn key.referencedColumn then some key.referencedColumn
      else if !referenced.hasColumn key.label then some key.label
      else none

end ForeignKey

namespace Table

/-- The join of a foreign key of the table. -/
def joinFor (table : Table) (database : Database) (key : ForeignKey) : Except Failure Join :=
  match key.danglingColumn? database with
  | some column =>
      .error (.unresolvedForeignKey table.name key.column key.referencedTable column)
  | none => .ok (Join.ofKey key)

/-- The joins of a table, in the order of its foreign keys. -/
def joins (table : Table) (database : Database) : Except Failure (List Join) :=
  table.foreignKeys.mapM (table.joinFor database)

end Table

end Scaffold
