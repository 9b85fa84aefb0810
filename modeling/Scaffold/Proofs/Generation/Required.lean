import Scaffold.Introspection.Server
import Scaffold.Proofs.Document.Parts
import Scaffold.Proofs.Generation.LookupEndpoint
import Scaffold.Proofs.Plan.RequiredText

/-!
# Values that the server generates

A generated value is a default, so nobody must give one on creation.  Columns that are put together
here or read from a server have it so.  A snapshot has two flags for the two facts, and a column
that is only said to be automatic is asked for in all three files.
-/

namespace Scaffold

namespace Column

/-- A value that the server generates stands in for one that is not given. -/
def KeepsDefault (column : Column) : Prop :=
  column.automatic = true → column.hasDefault = true

/-! ## Where columns come from -/

/-- Columns that are put together step by step, in any order. -/
inductive IsBuilt : Column → Prop where
  | start (name type : String) : IsBuilt { name, type }
  | asPrimary {column : Column} : IsBuilt column → IsBuilt column.asPrimary
  | asAutomatic {column : Column} : IsBuilt column → IsBuilt column.asAutomatic
  | asNullable {column : Column} : IsBuilt column → IsBuilt column.asNullable
  | withDefault {column : Column} : IsBuilt column → IsBuilt column.withDefault
  | withExposure {column : Column} (exposure : Exposure) :
      IsBuilt column → IsBuilt (column.withExposure exposure)
  | withTreatment {column : Column} (treatment : Treatment) :
      IsBuilt column → IsBuilt (column.withTreatment treatment)

/-- No step takes a default away, and the one that makes a column automatic gives it one. -/
theorem IsBuilt.keepsDefault {column : Column} (h : IsBuilt column) : column.KeepsDefault := by
  induction h with
  | start name type => exact nofun
  | asAutomatic _ _ => exact fun _ => rfl
  | withDefault _ _ => exact fun _ => rfl
  | asPrimary _ ih => exact ih
  | asNullable _ ih => exact ih
  | withExposure _ _ ih => exact ih
  | withTreatment _ _ ih => exact ih

/-- A row from a server tells of generated values by its default, or by being an identity. -/
theorem keepsDefault_columnOf (row : ColumnRow) (primary : Bool) (enums : List String) :
    (Introspection.columnOf row primary enums).KeepsDefault := by
  intro hautomatic
  change (row.default.isSome || row.identity) = true
  change (row.identity || row.default.any Introspection.isGeneratedDefault) = true at hautomatic
  rw [Bool.or_eq_true] at hautomatic ⊢
  rcases hautomatic with hidentity | hgenerated
  · exact .inr hidentity
  · cases hdefault : row.default with
    | none =>
        rw [hdefault] at hgenerated
        cases hgenerated
    | some default => exact .inl rfl

theorem Tells.keepsDefault_iff {part : Document} {column : Column} (h : Tells part column) :
    column.KeepsDefault ↔
      (affirmed part "automatic" = true → affirmed part "has_default" = true) := by
  rw [KeepsDefault, h.automatic, h.hasDefault]

end Column

/-! ## What files say of them -/

namespace Catalog

theorem hasNodes_inputBlock : HasNodes .endpoint .post inputBlock :=
  hasNodes_of_template rfl (exists_nodes_of_spelled (by repeat constructor) (by decide +kernel))

theorem hasNodes_propertiesBlock : HasNodes .service .post propertiesBlock :=
  hasNodes_of_template rfl (exists_nodes_of_spelled (by repeat constructor) (by decide +kernel))

theorem hasNodes_fieldsBlock : HasNodes .editor .post fieldsBlock :=
  hasNodes_of_template rfl (exists_nodes_of_spelled (by repeat constructor) (by decide +kernel))

end Catalog

namespace Plan

/-- Any template finds for each column whether a value must be given. -/
def MarksColumns (plan : Plan) (naming : Naming) : Prop :=
  ∃ scopes, (plan.context naming).root.sequence? "columns" = some scopes ∧
    List.Forall₂ (fun (column : Column) (scope : Scope) =>
      scope.scalar? "column_required" = some (toString (column.isRequired plan.endpoint.verb)) ∧
      scope.scalar? "column_optional" =
        some (if column.isRequired plan.endpoint.verb then "" else "?")) plan.surface scopes

theorem marksColumns (plan : Plan) (naming : Naming) : plan.MarksColumns naming := by
  refine ⟨_, plan.sequence?_columns naming, ?_⟩
  rw [List.forall₂_map_right_iff, List.forall₂_same]
  exact fun column _ => ⟨column.scalar?_scope _ _ (by simp [Column.scalars]),
    column.scalar?_scope _ _ (by simp [Column.scalars])⟩

end Plan

namespace Endpoint.Planned

variable {schema : Schema} {endpoint : Endpoint} {database : Database} {plan : Plan}

theorem writes_required (h : endpoint.Planned schema database plan) (naming : Naming)
    (hverb : endpoint.verb = .post) :
    let generator : Generator := ⟨schema, .builtin, naming⟩
    let path := fun kind => ArtifactKind.path kind endpoint.verb plan.moduleUrl plan.fileStem
    generator.Writes endpoint (path .endpoint) plan.inputText ∧
      generator.Writes endpoint (path .service) plan.propertiesText ∧
      generator.Writes endpoint (path .editor) plan.fieldsText :=
  ⟨h.writes (hverb ▸ Catalog.hasNodes_inputBlock) (plan.expandAll_inputBlock naming),
    h.writes (hverb ▸ Catalog.hasNodes_propertiesBlock) (plan.expandAll_propertiesBlock naming),
    h.writes (hverb ▸ Catalog.hasNodes_fieldsBlock) (plan.expandAll_fieldsBlock naming)⟩

theorem mem_columns (h : endpoint.Planned schema database plan) {column : Column}
    (hcolumn : column ∈ plan.surface) : column ∈ schema.databases.flatMap Database.columns := by
  obtain ⟨-, -, hdatabase, htable⟩ := Endpoint.locate_eq_ok_iff.1 h.located
  have hmem : column ∈ plan.table.columns :=
    List.mem_of_mem_filter (h.surface_sublist.subset hcolumn)
  exact List.mem_flatMap.2 ⟨database, Schema.mem_of_database? hdatabase,
    List.mem_flatMap.2 ⟨plan.table, Database.mem_of_table? htable, hmem⟩⟩

end Endpoint.Planned

theorem Column.isRequired_post_iff {column : Column} (hautomatic : column.automatic = true) :
    column.isRequired .post = true ↔ column.nullable = false ∧ ¬ column.KeepsDefault := by
  rw [isRequired, if_pos rfl, isRequiredOnCreate, Bool.and_eq_true, Bool.not_eq_true',
    Bool.not_eq_true', KeepsDefault, hautomatic]
  simp

namespace Generator

/-- The files of an endpoint that creates rows mark each of its columns, and an automatic column is
required if it is not nullable and has lost its default.  Columns that are built or read from a
server never lose it.  In a snapshot those have that are said to be automatic, but not to have a
default. -/
theorem automatic_is_required_iff (naming : Naming) {schema : Schema} {endpoint : Endpoint}
    {plan : Plan} (hverb : endpoint.verb = .post) (hplan : endpoint.plan schema = .ok plan) :
    let generator : Generator := ⟨schema, .builtin, naming⟩
    let path := fun kind => ArtifactKind.path kind endpoint.verb plan.moduleUrl plan.fileStem
    (generator.Writes endpoint (path .endpoint) plan.inputText ∧
      generator.Writes endpoint (path .service) plan.propertiesText ∧
      generator.Writes endpoint (path .editor) plan.fieldsText) ∧
    plan.MarksColumns naming ∧
    (∀ column ∈ plan.surface, column ∈ schema.databases.flatMap Database.columns ∧
      (column.automatic = true → (column.isRequired plan.endpoint.verb = true ↔
        column.nullable = false ∧ ¬ column.KeepsDefault))) ∧
    (∀ column : Column, column.IsBuilt → column.KeepsDefault) ∧
    (∀ row primary enums, (Introspection.columnOf row primary enums).KeepsDefault) ∧
    ∀ (source text : String) (databases : List Database),
      Introspection.parseSnapshot source text = .ok databases →
      ∃ document, Document.ofText? text = some document ∧
        List.Forall₂ (fun part column => Column.read part = .ok column ∧
          (column.KeepsDefault ↔ (Column.affirmed part "automatic" = true →
            Column.affirmed part "has_default" = true)))
          (document.items.flatMap Database.columnParts) (databases.flatMap Database.columns) := by
  intro generator path
  obtain ⟨database, hplanned⟩ := Endpoint.plan_eq_ok_iff.1 hplan
  refine ⟨hplanned.writes_required naming hverb, plan.marksColumns naming, ?columns,
    fun column => Column.IsBuilt.keepsDefault, Column.keepsDefault_columnOf, ?snapshot⟩
  case columns =>
    rw [hplanned.endpoint_eq, hverb]
    exact fun column hcolumn => ⟨hplanned.mem_columns hcolumn, Column.isRequired_post_iff⟩
  case snapshot =>
    intro source text databases hread
    obtain ⟨document, hdocument, htells⟩ := Introspection.columns_of_parseSnapshot hread
    exact ⟨document, hdocument, htells.imp fun _ _ h => ⟨h.read, h.keepsDefault_iff⟩⟩

end Generator

/-! ## Tickets with numbers from the server -/

/-- A column of numbers that the server generates. -/
def Column.number : Column :=
  asAutomatic { name := "number", type := "int" }

/-- Tickets, which are numbered by the server. -/
def Schema.ofTickets : Schema where
  databases :=
    [{ name := "desk"
       tables :=
        [{ name := "tickets", columns := [{ name := "subject", type := "text" }, .number] }] }]
  consistent := Schema.consistent_iff.2 rfl

namespace Generator

theorem number_is_optional :
    let endpoint := Endpoint.ofTable .mysql "desk" "tickets" .post
    ∃ plan, endpoint.plan .ofTickets = .ok plan ∧ .number ∈ plan.surface ∧
      Column.number.isRequired plan.endpoint.verb = false ∧
      Generator.Writes ⟨.ofTickets, .builtin, {}⟩ endpoint
        (ArtifactKind.service.path endpoint.verb plan.moduleUrl plan.fileStem)
        "CreateInput \x7b\n  subject: string;\n  number?: number;\n\x7d\n\n" := by
  intro endpoint
  have hplan : ((endpoint.plan .ofTickets).toOption.map fun plan =>
      (decide (.number ∈ plan.surface), plan.propertiesText)) =
        some (true, "CreateInput \x7b\n  subject: string;\n  number?: number;\n\x7d\n\n") := by
    decide +kernel
  obtain ⟨plan, hplan, hparts⟩ := exists_of_map_toOption_eq_some hplan
  obtain ⟨hnumber, htext⟩ := Prod.mk.inj hparts
  obtain ⟨⟨-, hservice, -⟩, -, hcolumns, hbuilt, -⟩ := automatic_is_required_iff {} rfl hplan
  have hkeeps : Column.number.KeepsDefault :=
    hbuilt .number (.asAutomatic (.start "number" "int"))
  rw [htext] at hservice
  refine ⟨plan, hplan, of_decide_eq_true hnumber, ?_, hservice⟩
  rw [Bool.eq_false_iff]
  intro hrequired
  exact ((hcolumns _ (of_decide_eq_true hnumber)).2 rfl |>.1 hrequired).2 hkeeps

end Generator

/-- A column that is said to be automatic, and nothing else. -/
def Column.bareNumber : Column :=
  { name := "number", type := "int", automatic := true }

/-- A snapshot with this column, in which its default is not mentioned. -/
def ticketsText : String :=
  "[\x7b\"name\":\"desk\",\"tables\":[\x7b\"name\":\"tickets\",
    \"columns\":[\x7b\"name\":\"number\",\"type\":\"int\",\"automatic\":true\x7d]\x7d]\x7d]"

/-- Whether an endpoint that creates tickets asks for this column and nothing else. -/
def demandsNumber (databases : List Database) : Bool :=
  (Schema.ofDatabases databases).toOption.any fun schema =>
    ((Endpoint.ofTable .mysql "desk" "tickets" .post).plan schema).toOption.map
      (fun plan => (plan.surface, plan.inputText, plan.propertiesText)) =
        some ([.bareNumber],
          "input:\n  number:\n    type: integer\n    required: true\n    special: none\n",
          "CreateInput \x7b\n  number: number;\n\x7d\n\n")

theorem number_is_demanded :
    let endpoint := Endpoint.ofTable .mysql "desk" "tickets" .post
    Column.bareNumber.automatic = true ∧ Column.bareNumber.hasDefault = false ∧
    ∃ databases schema plan, Introspection.parseSnapshot "desk" ticketsText = .ok databases ∧
      Schema.ofDatabases databases = .ok schema ∧ endpoint.plan schema = .ok plan ∧
      .bareNumber ∈ plan.surface ∧
      Generator.Writes ⟨schema, .builtin, {}⟩ endpoint
        (ArtifactKind.endpoint.path endpoint.verb plan.moduleUrl plan.fileStem)
        "input:\n  number:\n    type: integer\n    required: true\n    special: none\n" ∧
      Generator.Writes ⟨schema, .builtin, {}⟩ endpoint
        (ArtifactKind.service.path endpoint.verb plan.moduleUrl plan.fileStem)
        "CreateInput \x7b\n  number: number;\n\x7d\n\n" := by
  intro endpoint
  have htext : ∃ databases, Document.ofText Database.readAll ticketsText = .ok databases ∧
      demandsNumber databases = true :=
    Document.exists_of_spells (by decide +kernel)
  obtain ⟨databases, hdatabases, hdemands⟩ := htext
  obtain ⟨schema, hschema, hplan⟩ := (Option.any_eq_true _ _).1 hdemands
  obtain ⟨plan, hplan, hparts⟩ := exists_of_map_toOption_eq_some (of_decide_eq_true hplan)
  obtain ⟨hsurface, hparts⟩ := Prod.mk.inj hparts
  obtain ⟨hinput, hproperties⟩ := Prod.mk.inj hparts
  obtain ⟨_, hplanned⟩ := Endpoint.plan_eq_ok_iff.1 hplan
  obtain ⟨hdefinition, hservice, -⟩ := hplanned.writes_required {} rfl
  rw [hinput] at hdefinition
  rw [hproperties] at hservice
  refine ⟨rfl, rfl, databases, schema, plan, Introspection.parseSnapshot_eq_ok_iff.2 hdatabases,
    Except.toOption_eq_some_iff.1 hschema, hplan, ?_, hdefinition, hservice⟩
  rw [hsurface]
  exact List.mem_singleton.2 rfl

end Scaffold
