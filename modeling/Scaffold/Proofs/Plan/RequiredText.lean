import Scaffold.Proofs.Plan.LookupText

/-!
# The text of required columns

The files of an endpoint that creates rows say three times which columns must be given: the
definition in its input, the service in the type of its input, and the form in its fields.
-/

namespace Scaffold

open Template (Node expandAll expand_text expand_conditional expandAll_of_forall₂)

/-! ## The texts -/

namespace Column

/-- The lines of a definition's input for a column. -/
def inputLines (column : Column) (verb : Verb) (verbose : Bool) : String :=
  "  " ++ column.name ++ ":\n    type: " ++ column.logical.name ++ "\n    required: " ++
    toString (column.isRequired verb) ++ "\n    special: " ++
    (column.treatment.map Treatment.name).getD "none" ++ "\n" ++
    if verbose then
      "    db-type: " ++ column.type ++ "\n    nullable: " ++ toString column.nullable ++ "\n"
    else ""

/-- The line of a service's input type for a column. -/
def propertyLine (column : Column) (verb : Verb) : String :=
  "  " ++ column.name ++ (if column.isRequired verb then "" else "?") ++ ": " ++
    column.logical.tsType ++ ";\n"

end Column

namespace Plan

variable (plan : Plan)

/-- The input of a definition. -/
def inputText : String :=
  "input:\n" ++ String.join (plan.surface.map fun column =>
    column.inputLines plan.endpoint.verb plan.endpoint.verbose)

/-- The input type of a service that creates rows. -/
def propertiesText : String :=
  "CreateInput \x7b\n" ++
    String.join (plan.surface.map fun column => column.propertyLine plan.endpoint.verb) ++
    "\x7d\n\n"

/-- The fields of a form for new rows. -/
def fieldsText : String :=
  "CreateInput> = \x7b\x7d;\n  fields: FieldDefinition[] = [\n" ++ plan.fieldLines ++
    "  ];\n\n  constructor(private service: "

end Plan

/-! ## The lines of the templates -/

/-- What a template says of a column besides, if asked for more. -/
def detailNodes (line : Nat) : List Node :=
  [.text "    db-type: ", .scalar "column_type" [] (line + 1), .text "\n    nullable: ",
    .scalar "column_nullable" [] (line + 2), .text "\n"]

/-- The lines of a template for one column of an input, which start below a line. -/
def inputNodes (line : Nat) : List Node :=
  [.text "  ", .scalar "column" [] (line + 1), .text ":\n    type: ",
    .scalar "column_logical" [] (line + 2), .text "\n    required: ",
    .scalar "column_required" [] (line + 3), .text "\n    special: ",
    .scalar "column_special" [] (line + 4), .text "\n",
    .conditional "verbose" false (detailNodes (line + 5)) (line + 5)]

/-- The line of a template for one column of an input type. -/
def propertyNodes (line : Nat) : List Node :=
  [.text "  ", .scalar "column" [] line, .scalar "column_optional" [] line, .text ": ",
    .scalar "column_ts_type" [] line, .text ";\n"]

namespace Catalog

/-- The input in the definition of an endpoint that creates rows. -/
def inputBlock : List Node :=
  [.text "input:\n", .list "columns" "" (inputNodes 22) 22]

/-- The input type in the service of such an endpoint. -/
def propertiesBlock : List Node :=
  [.text "CreateInput \x7b\n", .list "columns" "" (propertyNodes 8) 7, .text "\x7d\n\n"]

/-- The fields in the form of such an endpoint. -/
def fieldsBlock : List Node :=
  [.text "CreateInput> = \x7b\x7d;\n  fields: FieldDefinition[] = [\n", fieldsNode 25,
    .text "  ];\n\n  constructor(private service: "]

end Catalog

/-! ## What becomes of them -/

namespace Column

variable (column : Column) (verb : Verb) (lookup : Option Join) (line : Nat) {context : Context}
  {scopes : List Scope}

theorem expandAll_detailNodes :
    expandAll context (column.scope verb lookup :: scopes) (detailNodes line) =
      .ok ("    db-type: " ++ column.type ++ "\n    nullable: " ++ toString column.nullable ++
        "\n") := by
  have htype : ("column_type", column.type) ∈ column.scalars verb := by simp [scalars]
  have hnullable : ("column_nullable", toString column.nullable) ∈ column.scalars verb := by
    simp [scalars]
  refine expandAll_of_forall₂
    (.cons (expand_text _) <| .cons (column.expand_bound verb lookup _ htype) <|
      .cons (expand_text _) <| .cons (column.expand_bound verb lookup _ hnullable) <|
      .cons (expand_text _) .nil) ?_
  simp only [String.join_cons, String.join_nil, String.append_empty, String.append_assoc]

theorem expandAll_inputNodes {verbose : Bool}
    (h : context.root.predicate? "verbose" = some verbose) :
    expandAll context (column.scope verb lookup :: scopes) (inputNodes line) =
      .ok (column.inputLines verb verbose) := by
  have hlogical : ("column_logical", column.logical.name) ∈ column.scalars verb := by
    simp [scalars]
  have hrequired : ("column_required", toString (column.isRequired verb)) ∈
      column.scalars verb := by simp [scalars]
  have htreatment : ("column_special", (column.treatment.map Treatment.name).getD "none") ∈
      column.scalars verb := by simp [scalars]
  have hdetails : (Node.conditional "verbose" false (detailNodes (line + 5)) (line + 5)).expand
      context (column.scope verb lookup :: scopes) = .ok (if verbose then
        "    db-type: " ++ column.type ++ "\n    nullable: " ++ toString column.nullable ++ "\n"
      else "") := by
    rw [expand_conditional h, column.expandAll_detailNodes]
    cases verbose <;> rfl
  refine expandAll_of_forall₂
    (.cons (expand_text _) <| .cons (column.expand_name verb lookup _) <| .cons (expand_text _) <|
      .cons (column.expand_bound verb lookup _ hlogical) <| .cons (expand_text _) <|
      .cons (column.expand_bound verb lookup _ hrequired) <| .cons (expand_text _) <|
      .cons (column.expand_bound verb lookup _ htreatment) <| .cons (expand_text _) <|
      .cons hdetails .nil) ?_
  unfold inputLines
  simp only [String.join_cons, String.join_nil, String.append_empty, String.append_assoc]

theorem expandAll_propertyNodes :
    expandAll context (column.scope verb lookup :: scopes) (propertyNodes line) =
      .ok (column.propertyLine verb) := by
  have hoptional : ("column_optional", if column.isRequired verb then "" else "?") ∈
      column.scalars verb := by simp [scalars]
  have htype : ("column_ts_type", column.logical.tsType) ∈ column.scalars verb := by
    simp [scalars]
  refine expandAll_of_forall₂
    (.cons (expand_text _) <| .cons (column.expand_name verb lookup _) <|
      .cons (column.expand_bound verb lookup _ hoptional) <| .cons (expand_text _) <|
      .cons (column.expand_bound verb lookup _ htype) <| .cons (expand_text _) .nil) ?_
  unfold propertyLine
  simp only [String.join_cons, String.join_nil, String.append_empty, String.append_assoc]

end Column

namespace Plan

variable (plan : Plan) (naming : Naming)

theorem expandAll_inputBlock :
    expandAll (plan.context naming) [(plan.context naming).root] Catalog.inputBlock =
      .ok plan.inputText := by
  have hverbose : (plan.context naming).root.predicate? "verbose" = some plan.endpoint.verbose :=
    plan.predicate?_of_mem naming (by simp [predicates])
  have hcolumns := plan.expand_columns naming 22 "" fun column lookup =>
    column.expandAll_inputNodes _ lookup 22 hverbose
  refine expandAll_of_forall₂ (.cons (expand_text _) <| .cons hcolumns .nil) ?_
  unfold inputText
  simp only [String.join_cons, String.join_nil, String.append_empty, Text.join_empty]

theorem expandAll_propertiesBlock :
    expandAll (plan.context naming) [(plan.context naming).root] Catalog.propertiesBlock =
      .ok plan.propertiesText := by
  have hcolumns := plan.expand_columns naming 7 "" fun column lookup =>
    column.expandAll_propertyNodes _ lookup 8
  refine expandAll_of_forall₂
    (.cons (expand_text _) <| .cons hcolumns <| .cons (expand_text _) .nil) ?_
  unfold propertiesText
  simp only [String.join_cons, String.join_nil, String.append_empty, String.append_assoc,
    Text.join_empty]

theorem expandAll_fieldsBlock :
    expandAll (plan.context naming) [(plan.context naming).root] Catalog.fieldsBlock =
      .ok plan.fieldsText := by
  have hfields := plan.expand_fieldsNode naming 25
  refine expandAll_of_forall₂
    (.cons (expand_text _) <| .cons hfields <| .cons (expand_text _) .nil) ?_
  unfold fieldsText
  simp only [String.join_cons, String.join_nil, String.append_empty, String.append_assoc]

end Plan

end Scaffold
