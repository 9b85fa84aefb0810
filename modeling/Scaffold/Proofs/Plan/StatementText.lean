import Scaffold.Plan.Statement
import Scaffold.Proofs.Plan.Lookup
import Scaffold.Proofs.Template.Assembly

/-!
# The text of a statement

The lines of a template that give the statement of a verb, and what every plan makes of them.
-/

namespace Scaffold

open Template (Node expandAll expand_text expand_scalar expand_list expand_conditional
  expandAll_of_forall₂
  scalarIn?_of_some scalarIn?_of_none sequenceIn?_of_some)

theorem Text.join_empty (texts : List String) : join "" texts = String.join texts := by
  induction texts with
  | nil => rfl
  | cons first rest ih =>
      cases rest with
      | nil => simp [join]
      | cons second rest =>
          rw [join, ih, String.append_empty]
          simp only [String.join_cons]

/-! ## The lines -/

/-- A column set to, or compared with, the parameter of its name. -/
def assignmentNodes (line : Nat) : List Node :=
  [.scalar "column" [] line, .text " = @", .scalar "column" [] line]

/-- The label that a select returns of a join. -/
def labelNodes (line : Nat) : List Node :=
  [.text ", ", .scalar "join_table_alias" [] line, .text ".",
    .scalar "join_label_column" [] line, .text " as ", .scalar "join_label_alias" [] line]

/-- What a select returns of a join. -/
def selectedNodes (line : Nat) : List Node :=
  [.text ", ", .scalar "join_table_alias" [] line, .text ".",
    .scalar "join_referenced_column" [] line, .text " as ", .scalar "join_alias" [] line,
    .list "join_label" "" (labelNodes line) line]

/-- The clause of a join. -/
def clauseNodes (line : Nat) : List Node :=
  [.text " left join ", .scalar "join_table" [] line, .text " ",
    .scalar "join_table_alias" [] line, .text " on ", .scalar "join_table_alias" [] line,
    .text ".", .scalar "join_referenced_column" [] line, .text " = ", .scalar "table" [] line,
    .text ".", .scalar "join_column" [] line]

/-- The nodes that give the statement of a verb on a line of a template, with the heading of the
line before. -/
def Verb.statementNodes (line : Nat) : Verb → List Node
  | .post =>
      [.text "sql:\n  insert: insert into ", .scalar "table" [] line, .text " (",
        .list "columns" ", " [.scalar "column" [] line] line, .text ") values (",
        .list "columns" ", " [.text "@", .scalar "column" [] line] line, .text ")\n"]
  | .get =>
      [.text "sql:\n  select: select ",
        .list "columns" ", "
          [.scalar "table" [] line, .text ".", .scalar "column" [] line] line,
        .conditional "join" false [.list "joins" "" (selectedNodes line) line] line,
        .text " from ", .scalar "table" [] line,
        .conditional "join" false [.list "joins" "" (clauseNodes line) line] line, .text "\n"]
  | .put =>
      [.text "sql:\n  update: update ", .scalar "table" [] line, .text " set ",
        .list "columns" ", " (assignmentNodes line) line, .text " where ",
        .list "primary_keys" " and " (assignmentNodes line) line, .text "\n"]
  | .delete =>
      [.text "sql:\n  delete: delete from ", .scalar "table" [] line, .text " where ",
        .list "columns" " and " (assignmentNodes line) line, .text "\n"]

/-! ## Columns -/

namespace Column

variable (column : Column) (verb : Verb) (lookup : Option Join) (line : Nat) {context : Context}
  {scopes : List Scope}

theorem expand_bound {name value : String} (h : (name, value) ∈ column.scalars verb) :
    (Node.scalar name [] line).expand context (column.scope verb lookup :: scopes) = .ok value :=
  expand_scalar (scalarIn?_of_some (column.scalar?_scope verb lookup h))

theorem expand_name :
    (Node.scalar "column" [] line).expand context (column.scope verb lookup :: scopes) =
      .ok column.name :=
  column.expand_bound verb lookup line (by simp [scalars])

theorem expandAll_name :
    expandAll context (column.scope verb lookup :: scopes) [.scalar "column" [] line] =
      .ok column.name := by
  refine expandAll_of_forall₂ (.cons (column.expand_name verb lookup line) .nil) ?_
  rw [String.join_cons, String.join_nil, String.append_empty]

theorem expandAll_parameter :
    expandAll context (column.scope verb lookup :: scopes)
      [.text "@", .scalar "column" [] line] = .ok ("@" ++ column.name) := by
  refine expandAll_of_forall₂
    (.cons (expand_text _) <| .cons (column.expand_name verb lookup line) .nil) ?_
  simp only [String.join_cons, String.join_nil, String.append_empty]

theorem expandAll_assignmentNodes :
    expandAll context (column.scope verb lookup :: scopes) (assignmentNodes line) =
      .ok (Statement.assignment column.name) := by
  refine expandAll_of_forall₂
    (.cons (column.expand_name verb lookup line) <| .cons (expand_text _) <|
      .cons (column.expand_name verb lookup line) .nil) ?_
  unfold Statement.assignment
  simp only [String.join_cons, String.join_nil, String.append_empty, String.append_assoc]

/-- A column has no table of its own, so this is that of the root. -/
theorem expandAll_qualified {table : String}
    (h : Template.scalarIn? scopes "table" = some table) :
    expandAll context (column.scope verb lookup :: scopes)
      [.scalar "table" [] line, .text ".", .scalar "column" [] line] =
        .ok (table ++ "." ++ column.name) := by
  rw [← scalarIn?_of_none (column.scalar?_table verb lookup)] at h
  refine expandAll_of_forall₂
    (.cons (expand_scalar h) <| .cons (expand_text _) <|
      .cons (column.expand_name verb lookup line) .nil) ?_
  simp only [String.join_cons, String.join_nil, String.append_empty, String.append_assoc]

end Column

/-! ## Joins -/

namespace Join

variable (join : Join) (line : Nat) {context : Context} {scopes : List Scope}

theorem expand_scalar {name value : String} (h : (name, value) ∈ join.scalars) :
    (Node.scalar name [] line).expand context (join.scope :: scopes) = .ok value :=
  Template.expand_scalar (scalarIn?_of_some (join.scalar?_scope h))

theorem expandAll_labelNodes {scope : Scope} (h : scope ∈ join.labelScopes) :
    expandAll context (scope :: join.scope :: scopes) (labelNodes line) =
      .ok (", " ++ join.tableAlias ++ "." ++ join.labelColumn ++ " as " ++ join.labelAlias) := by
  obtain ⟨hcolumn, hlabel, htable⟩ := join.scalar?_of_mem_labelScopes h
  have halias : Template.scalarIn? (scope :: join.scope :: scopes) "join_table_alias" =
      some join.tableAlias := by
    rw [scalarIn?_of_none htable]
    exact scalarIn?_of_some (join.scalar?_scope (by simp [scalars]))
  refine expandAll_of_forall₂
    (.cons (expand_text _) <| .cons (Template.expand_scalar halias) <|
      .cons (expand_text _) <| .cons (Template.expand_scalar (scalarIn?_of_some hcolumn)) <|
      .cons (expand_text _) <|
      .cons (Template.expand_scalar (scalarIn?_of_some hlabel)) .nil) ?_
  simp only [String.join_cons, String.join_nil, String.append_empty, String.append_assoc]

theorem expand_label :
    (Node.list "join_label" "" (labelNodes line) line).expand context (join.scope :: scopes) =
      .ok (if join.hasDistinctLabel then
        ", " ++ join.tableAlias ++ "." ++ join.labelColumn ++ " as " ++ join.labelAlias
      else "") := by
  have hlabels : Template.sequenceIn? (join.scope :: scopes) "join_label" =
      some (join.labelScopes.map id) := by
    rw [List.map_id]
    exact sequenceIn?_of_some join.sequence?_label
  rw [expand_list hlabels fun scope hscope => join.expandAll_labelNodes line hscope, labelScopes]
  split <;> rfl

theorem expandAll_selectedNodes :
    expandAll context (join.scope :: scopes) (selectedNodes line) = .ok join.selected := by
  have halias : (Node.scalar "join_table_alias" [] line).expand context (join.scope :: scopes) =
      .ok join.tableAlias := join.expand_scalar line (by simp [scalars])
  have hcolumn : (Node.scalar "join_referenced_column" [] line).expand context
      (join.scope :: scopes) = .ok join.referencedColumn := join.expand_scalar line (by simp [scalars])
  have hname : (Node.scalar "join_alias" [] line).expand context (join.scope :: scopes) =
      .ok join.columnAlias := join.expand_scalar line (by simp [scalars])
  refine expandAll_of_forall₂
    (.cons (expand_text _) <| .cons halias <| .cons (expand_text _) <| .cons hcolumn <|
      .cons (expand_text _) <| .cons hname <| .cons (join.expand_label line) .nil) ?_
  unfold selected
  simp only [String.join_cons, String.join_nil, String.append_empty, String.append_assoc]

theorem expandAll_clauseNodes {table : String}
    (h : Template.scalarIn? scopes "table" = some table) :
    expandAll context (join.scope :: scopes) (clauseNodes line) = .ok (join.clause table) := by
  have hreferenced : (Node.scalar "join_table" [] line).expand context (join.scope :: scopes) =
      .ok join.referencedTable := join.expand_scalar line (by simp [scalars])
  have halias : (Node.scalar "join_table_alias" [] line).expand context (join.scope :: scopes) =
      .ok join.tableAlias := join.expand_scalar line (by simp [scalars])
  have hcolumn : (Node.scalar "join_referenced_column" [] line).expand context
      (join.scope :: scopes) = .ok join.referencedColumn := join.expand_scalar line (by simp [scalars])
  have hkey : (Node.scalar "join_column" [] line).expand context (join.scope :: scopes) =
      .ok join.column := join.expand_scalar line (by simp [scalars])
  -- A join has no table of its own either.
  rw [← scalarIn?_of_none join.scalar?_table] at h
  refine expandAll_of_forall₂
    (.cons (expand_text _) <| .cons hreferenced <| .cons (expand_text _) <| .cons halias <|
      .cons (expand_text _) <| .cons halias <| .cons (expand_text _) <| .cons hcolumn <|
      .cons (expand_text _) <| .cons (Template.expand_scalar h) <| .cons (expand_text _) <|
      .cons hkey .nil) ?_
  unfold clause
  simp only [String.join_cons, String.join_nil, String.append_empty, String.append_assoc]

end Join

/-! ## Plans -/

namespace Plan

variable (plan : Plan) (naming : Naming) (line : Nat)

theorem scalarIn?_table :
    Template.scalarIn? [(plan.context naming).root] "table" = some plan.table.name :=
  scalarIn?_of_some (plan.scalar?_of_mem naming (by simp [fixedScalars]))

theorem expand_columns {body : List Node} {textOf : Column → String} (separator : String)
    (hbody : ∀ (column : Column) (lookup : Option Join),
      expandAll (plan.context naming)
        [column.scope plan.endpoint.verb lookup, (plan.context naming).root] body =
          .ok (textOf column)) :
    (Node.list "columns" separator body line).expand (plan.context naming)
      [(plan.context naming).root] = .ok (Text.join separator (plan.surface.map textOf)) :=
  expand_list (sequenceIn?_of_some (plan.sequence?_columns naming))
    fun column _ => hbody column _

theorem expand_primaryKeys :
    (Node.list "primary_keys" " and " (assignmentNodes line) line).expand (plan.context naming)
      [(plan.context naming).root] =
        .ok (Text.join " and " (plan.keys.map fun key => Statement.assignment key.name)) := by
  have hkeys : Template.sequenceIn? [(plan.context naming).root] "primary_keys" = some
      (plan.keys.map fun column => column.scope plan.endpoint.verb none) :=
    sequenceIn?_of_some (plan.sequence?_of_mem naming (by simp [sequences]))
  exact expand_list hkeys fun key _ => key.expandAll_assignmentNodes _ _ line

/-- A list over the joins may stand under a conditional, as it is empty without joins anyway. -/
theorem expand_joins {body : List Node} {textOf : Join → String}
    (hbody : ∀ join : Join,
      expandAll (plan.context naming) [join.scope, (plan.context naming).root] body =
        .ok (textOf join)) :
    (Node.conditional "join" false [.list "joins" "" body line] line).expand
      (plan.context naming) [(plan.context naming).root] =
        .ok (String.join (plan.activeJoins.map textOf)) := by
  have hjoin : (plan.context naming).root.predicate? "join" = some (!plan.activeJoins.isEmpty) :=
    plan.predicate?_of_mem naming (by simp [predicates])
  have hjoins : Template.sequenceIn? [(plan.context naming).root] "joins" =
      some (plan.activeJoins.map Join.scope) :=
    sequenceIn?_of_some (plan.sequence?_of_mem naming (by simp [sequences]))
  have hlist : expandAll (plan.context naming) [(plan.context naming).root]
      [.list "joins" "" body line] = .ok (String.join (plan.activeJoins.map textOf)) := by
    refine expandAll_of_forall₂ (.cons (expand_list hjoins fun join _ => hbody join) .nil) ?_
    rw [String.join_cons, String.join_nil, String.append_empty, Text.join_empty]
  rw [expand_conditional hjoin, hlist]
  cases plan.activeJoins with
  | nil => rfl
  | cons join joins => rfl

/-- The lines of the statement come out as the statement of the plan, under a heading and a
label. -/
theorem expandAll_statementNodes :
    expandAll (plan.context naming) [(plan.context naming).root]
      (plan.endpoint.verb.statementNodes line) = .ok plan.statementLines := by
  have htable : (Node.scalar "table" [] line).expand (plan.context naming)
      [(plan.context naming).root] = .ok plan.table.name :=
    expand_scalar (plan.scalarIn?_table naming)
  have hassignments := fun separator => plan.expand_columns naming line separator
    fun column lookup => column.expandAll_assignmentNodes _ lookup line
  unfold statementLines statement Statement.render
  cases hverb : plan.endpoint.verb with
  | post =>
      have hnames := plan.expand_columns naming line ", " fun column lookup =>
        column.expandAll_name _ lookup line
      have hparameters := plan.expand_columns naming line ", " fun column lookup =>
        column.expandAll_parameter _ lookup line
      refine expandAll_of_forall₂
        (.cons (expand_text _) <| .cons htable <| .cons (expand_text _) <| .cons hnames <|
          .cons (expand_text _) <| .cons hparameters <| .cons (expand_text _) .nil) ?_
      simp only [Verb.statementLabel, List.map_map, Function.comp_def, String.join_cons,
        String.join_nil, String.append_empty, ← String.append_assoc, String.reduceAppend]
      have hclosing : ")\n" = ")" ++ "\n" := by simp only [String.reduceAppend]
      rw [hclosing, ← String.append_assoc]
  | get =>
      have hqualified := plan.expand_columns naming line ", " fun column lookup =>
        column.expandAll_qualified _ lookup line (plan.scalarIn?_table naming)
      have hselected := plan.expand_joins naming line fun join =>
        join.expandAll_selectedNodes line
      have hclauses := plan.expand_joins naming line fun join =>
        join.expandAll_clauseNodes line (plan.scalarIn?_table naming)
      refine expandAll_of_forall₂
        (.cons (expand_text _) <| .cons hqualified <| .cons hselected <| .cons (expand_text _) <|
          .cons htable <| .cons hclauses <| .cons (expand_text _) .nil) ?_
      simp only [Verb.statementLabel, List.map_map, Function.comp_def, String.join_cons,
        String.join_nil, String.append_empty, ← String.append_assoc, String.reduceAppend]
  | put =>
      refine expandAll_of_forall₂
        (.cons (expand_text _) <| .cons htable <| .cons (expand_text _) <|
          .cons (hassignments ", ") <| .cons (expand_text _) <|
          .cons (plan.expand_primaryKeys naming line) <| .cons (expand_text _) .nil) ?_
      simp only [Verb.statementLabel, List.map_map, Function.comp_def, String.join_cons,
        String.join_nil, String.append_empty, ← String.append_assoc, String.reduceAppend]
  | delete =>
      refine expandAll_of_forall₂
        (.cons (expand_text _) <| .cons htable <| .cons (expand_text _) <|
          .cons (hassignments " and ") <| .cons (expand_text _) .nil) ?_
      simp only [Verb.statementLabel, List.map_map, Function.comp_def, String.join_cons,
        String.join_nil, String.append_empty, ← String.append_assoc, String.reduceAppend]

end Plan

end Scaffold
