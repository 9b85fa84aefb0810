import Scaffold.Plan.Bindings
import Scaffold.Statement

/-!
# The statement of a plan

What the endpoint definition of a plan has the database do.
-/

namespace Scaffold

/-- The word before a statement in an endpoint definition. -/
def Verb.statementLabel : Verb → String
  | .post => "insert"
  | .get => "select"
  | .put => "update"
  | .delete => "delete"

namespace Plan

def statement (plan : Plan) : Statement :=
  let columns := plan.surface.map Column.name
  match plan.endpoint.verb with
  | .post => .insert plan.table.name columns
  | .get => .select plan.table.name columns plan.activeJoins
  | .put => .update plan.table.name columns (plan.keys.map Column.name)
  | .delete => .delete plan.table.name columns

/-- The lines of the endpoint definition that give the statement. -/
def statementLines (plan : Plan) : String :=
  "sql:\n  " ++ plan.endpoint.verb.statementLabel ++ ": " ++ plan.statement.render ++ "\n"

end Plan

end Scaffold
