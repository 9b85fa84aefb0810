import Scaffold.Join
import Scaffold.Text.Fields

/-!
# Statements

The database statements that endpoints run.  A select reads columns of one table and of the tables
joined to it, whose columns it returns under names of their own.
-/

namespace Scaffold

inductive Statement where
  | insert (table : String) (columns : List String)
  | select (table : String) (columns : List String) (joins : List Join)
  | update (table : String) (columns keys : List String)
  | delete (table : String) (keys : List String)
deriving DecidableEq, Repr

/-- A column that a select returns: where it is read and what it is called in the result. -/
structure Output where
  table : String
  column : String
  name : String
deriving DecidableEq, Repr

namespace Join

/-- What a join adds to a result: the referenced column, and the label if it is another one. -/
def outputs (join : Join) : List Output :=
  ⟨join.referencedTable, join.referencedColumn, join.columnAlias⟩ ::
    if join.hasDistinctLabel then [⟨join.referencedTable, join.labelColumn, join.labelAlias⟩]
    else []

/-- The same as text, each part after a comma. -/
def selected (join : Join) : String :=
  ", " ++ join.tableAlias ++ "." ++ join.referencedColumn ++ " as " ++ join.columnAlias ++
    if join.hasDistinctLabel then
      ", " ++ join.tableAlias ++ "." ++ join.labelColumn ++ " as " ++ join.labelAlias
    else ""

/-- The clause that joins a table to the one that refers to it. -/
def clause (join : Join) (table : String) : String :=
  " left join " ++ join.referencedTable ++ " " ++ join.tableAlias ++ " on " ++
    join.tableAlias ++ "." ++ join.referencedColumn ++ " = " ++ table ++ "." ++ join.column

end Join

namespace Statement

/-- A column set to, or compared with, the parameter of its name. -/
def assignment (column : String) : String :=
  column ++ " = @" ++ column

def render : Statement → String
  | .insert table columns =>
      "insert into " ++ table ++ " (" ++ Text.join ", " columns ++ ") values (" ++
        Text.join ", " (columns.map ("@" ++ ·)) ++ ")"
  | .select table columns joins =>
      "select " ++ Text.join ", " (columns.map fun column => table ++ "." ++ column) ++
        String.join (joins.map Join.selected) ++ " from " ++ table ++
        String.join (joins.map fun join => join.clause table)
  | .update table columns keys =>
      "update " ++ table ++ " set " ++ Text.join ", " (columns.map assignment) ++ " where " ++
        Text.join " and " (keys.map assignment)
  | .delete table keys =>
      "delete from " ++ table ++ " where " ++ Text.join " and " (keys.map assignment)

/-- The columns of the result. -/
def outputs : Statement → List Output
  | .select table columns joins =>
      columns.map (fun column => ⟨table, column, column⟩) ++ joins.flatMap Join.outputs
  | _ => []

/-- The columns that decide which rows are touched. -/
def condition : Statement → List String
  | .update _ _ keys => keys
  | .delete _ keys => keys
  | _ => []

/-- The columns that are given values. -/
def assigned : Statement → List String
  | .insert _ columns => columns
  | .update _ columns _ => columns
  | _ => []

end Statement

end Scaffold
