import Scaffold.Proofs.Naming.FileStem
import Scaffold.Proofs.Plan.StatementText

/-!
# The text of a form's fields

The lines of the templates for forms that make a field of each column, and what every plan makes of
them.  A field whose column is joined tells where to look its values up.
-/

namespace Scaffold

open Template (Node expandAll expand_text expand_scalar expand_filtered expand_list
  expandAll_of_forall₂ scalarIn?_of_some scalarIn?_of_none sequenceIn?_of_some)

namespace Naming

theorem applyNamed_kebab (naming : Naming) (value : String) :
    naming.applyNamed value ["kebab"] = .ok (fileStem value) := by
  have hfilter : Filter.ofName? "kebab" = some .kebab := by decide
  rw [applyNamed, hfilter, ← naming.kebab_eq_fileStem]
  rfl

theorem applyNamed_label (naming : Naming) (value : String) :
    naming.applyNamed value ["label"] = .ok (label value) := by
  have hfilter : Filter.ofName? "label" = some .label := by decide
  rw [applyNamed, hfilter]
  rfl

end Naming

/-! ## The texts -/

namespace Join

/-- Where a form looks values up: the referenced table's place in the module of the form. -/
def lookupUrl (join : Join) (moduleUrl : String) : String :=
  "modules/" ++ moduleUrl ++ "/" ++ Naming.fileStem join.referencedTable

/-- The line of a field that tells how to look its values up. -/
def lookupLine (join : Join) (moduleUrl : String) : String :=
  "      lookup: \x7b endpoint: '" ++ join.lookupUrl moduleUrl ++ "', value: '" ++
    join.referencedColumn ++ "', label: '" ++ join.labelColumn ++ "', selector: '" ++
    join.selector.name ++ "' \x7d,\n"

end Join

/-- The lines of a form for a column. -/
def Column.fieldLines (column : Column) (verb : Verb) (lookup : Option Join) (moduleUrl : String) :
    String :=
  "    \x7b\n      name: '" ++ column.name ++ "',\n      label: '" ++ Naming.label column.name ++
    "',\n      control: '" ++ column.logical.formControl ++ "',\n      required: " ++
    toString (column.isRequired verb) ++ ",\n" ++
    ((lookup.map fun join => join.lookupLine moduleUrl).getD "") ++ "    \x7d,\n"

/-- The fields of a plan's form, one for each column. -/
def Plan.fieldLines (plan : Plan) : String :=
  String.join (plan.surface.map fun column => column.fieldLines plan.endpoint.verb
    (Join.forColumn? plan.joins column.name) plan.moduleUrl)

/-! ## The lines of the templates -/

/-- The line of a template that tells how to look values up. -/
def lookupNodes (line : Nat) : List Node :=
  [.text "      lookup: \x7b endpoint: 'modules/", .scalar "module_url" [] line, .text "/",
    .scalar "join_table" ["kebab"] line, .text "', value: '",
    .scalar "join_referenced_column" [] line, .text "', label: '",
    .scalar "join_display_column" [] line, .text "', selector: '", .scalar "join_kind" [] line,
    .text "' \x7d,\n"]

/-- The lines of a template for one field, which start below a line. -/
def fieldNodes (line : Nat) : List Node :=
  [.text "    \x7b\n      name: '", .scalar "column" [] (line + 2), .text "',\n      label: '",
    .scalar "column" ["label"] (line + 3), .text "',\n      control: '",
    .scalar "column_control" [] (line + 4), .text "',\n      required: ",
    .scalar "column_required" [] (line + 5), .text ",\n",
    .list "column_lookup" "" (lookupNodes (line + 7)) (line + 6), .text "    \x7d,\n"]

/-- The lines of a template for all fields. -/
def fieldsNode (line : Nat) : Node :=
  .list "columns" "" (fieldNodes line) line

/-! ## What becomes of them -/

theorem Join.expandAll_lookupNodes (join : Join) (line : Nat) {context : Context}
    {scopes : List Scope} {moduleUrl : String}
    (h : Template.scalarIn? scopes "module_url" = some moduleUrl) :
    expandAll context (join.scope :: scopes) (lookupNodes line) =
      .ok (join.lookupLine moduleUrl) := by
  have htable : Template.scalarIn? (join.scope :: scopes) "join_table" =
      some join.referencedTable := scalarIn?_of_some (join.scalar?_scope (by simp [scalars]))
  have hvalue : (Node.scalar "join_referenced_column" [] line).expand context
      (join.scope :: scopes) = .ok join.referencedColumn :=
    join.expand_scalar line (by simp [scalars])
  have hlabel : (Node.scalar "join_display_column" [] line).expand context
      (join.scope :: scopes) = .ok join.labelColumn :=
    join.expand_scalar line (by simp [scalars])
  have hkind : (Node.scalar "join_kind" [] line).expand context (join.scope :: scopes) =
      .ok join.selector.name := join.expand_scalar line (by simp [scalars])
  -- A join has no module of its own.
  rw [← scalarIn?_of_none join.scalar?_moduleUrl] at h
  refine expandAll_of_forall₂
    (.cons (expand_text _) <| .cons (Template.expand_scalar h) <| .cons (expand_text _) <|
      .cons (expand_filtered htable (context.naming.applyNamed_kebab join.referencedTable)) <|
      .cons (expand_text _) <| .cons hvalue <| .cons (expand_text _) <| .cons hlabel <|
      .cons (expand_text _) <| .cons hkind <| .cons (expand_text _) .nil) ?_
  unfold lookupLine lookupUrl
  simp only [String.join_cons, String.join_nil, String.append_empty, ← String.append_assoc,
    String.reduceAppend]

namespace Column

variable (column : Column) (verb : Verb) (lookup : Option Join) (line : Nat) {context : Context}
  {scopes : List Scope} {moduleUrl : String}

theorem expand_lookup (h : Template.scalarIn? scopes "module_url" = some moduleUrl) :
    (Node.list "column_lookup" "" (lookupNodes (line + 1)) line).expand context
      (column.scope verb lookup :: scopes) =
        .ok ((lookup.map fun join => join.lookupLine moduleUrl).getD "") := by
  rw [← scalarIn?_of_none (column.scalar?_moduleUrl verb lookup)] at h
  rw [expand_list (sequenceIn?_of_some (column.sequence?_lookup verb lookup))
    fun join _ => join.expandAll_lookupNodes (line + 1) h]
  cases lookup <;> rfl

theorem expandAll_fieldNodes (h : Template.scalarIn? scopes "module_url" = some moduleUrl) :
    expandAll context (column.scope verb lookup :: scopes) (fieldNodes line) =
      .ok (column.fieldLines verb lookup moduleUrl) := by
  have hname : Template.scalarIn? (column.scope verb lookup :: scopes) "column" =
      some column.name := scalarIn?_of_some (column.scalar?_column verb lookup)
  have hcontrol : Template.scalarIn? (column.scope verb lookup :: scopes) "column_control" =
      some column.logical.formControl :=
    scalarIn?_of_some (column.scalar?_scope verb lookup (by simp [scalars]))
  have hrequired : Template.scalarIn? (column.scope verb lookup :: scopes) "column_required" =
      some (toString (column.isRequired verb)) :=
    scalarIn?_of_some (column.scalar?_scope verb lookup (by simp [scalars]))
  refine expandAll_of_forall₂
    (.cons (expand_text _) <| .cons (expand_scalar hname) <| .cons (expand_text _) <|
      .cons (expand_filtered hname (context.naming.applyNamed_label column.name)) <|
      .cons (expand_text _) <| .cons (expand_scalar hcontrol) <| .cons (expand_text _) <|
      .cons (expand_scalar hrequired) <| .cons (expand_text _) <|
      .cons (column.expand_lookup verb lookup (line + 6) h) <| .cons (expand_text _) .nil) ?_
  unfold fieldLines
  simp only [String.join_cons, String.join_nil, String.append_empty, ← String.append_assoc]

end Column

namespace Plan

variable (plan : Plan) (naming : Naming)

theorem expand_fieldsNode (line : Nat) :
    (fieldsNode line).expand (plan.context naming) [(plan.context naming).root] =
      .ok plan.fieldLines := by
  have hmodule : Template.scalarIn? [(plan.context naming).root] "module_url" =
      some plan.moduleUrl :=
    scalarIn?_of_some (plan.scalar?_of_mem naming (by simp [fixedScalars]))
  rw [fieldsNode, expand_list (sequenceIn?_of_some (plan.sequence?_columns naming)) fun column _ =>
    column.expandAll_fieldNodes plan.endpoint.verb _ line hmodule, Text.join_empty, fieldLines]

/-- The lines of a plan's form for one of its columns. -/
theorem exists_fieldLines_eq {column : Column} (hcolumn : column ∈ plan.surface) :
    ∃ before after, plan.fieldLines = before ++ column.fieldLines plan.endpoint.verb
      (Join.forColumn? plan.joins column.name) plan.moduleUrl ++ after := by
  obtain ⟨front, back, hsurface⟩ := List.append_of_mem hcolumn
  rw [fieldLines, hsurface, List.map_append, List.map_cons, String.join_append, String.join_cons]
  exact ⟨_, _, String.append_assoc.symm⟩

theorem expand_url (line : Nat) :
    (Node.scalar "endpoint_url" [] line).expand (plan.context naming)
      [(plan.context naming).root] = .ok plan.url :=
  expand_scalar (scalarIn?_of_some (plan.scalar?_of_mem naming (by simp [fixedScalars])))

end Plan

end Scaffold
