import Mathlib.Data.List.TakeWhile
import Scaffold.Proofs.Generation.Covered
import Scaffold.Proofs.Generation.Growth
import Scaffold.Proofs.Plan.StatementText
import Scaffold.Proofs.Plan.Success
import Scaffold.Text.Search

/-!
# The statement in the file

The endpoint definition of a plan gives the statement of the plan under the one heading that its
template has for it.  An update or a deletion always has a condition.
-/

namespace Scaffold

open Template (Node expandAll)

/-! ## Headings -/

namespace Template

mutual

/-- Whether the heading of a statement stands in a node or within it. -/
def Node.holdsHeading : Node → Bool
  | .text content => Text.contains "sql:".toList content.toList
  | .scalar _ _ _ => false
  | .list _ _ body _ => anyHolds body
  | .conditional _ _ body _ => anyHolds body

def anyHolds : List Node → Bool
  | [] => false
  | node :: nodes => node.holdsHeading || anyHolds nodes

end

/-- Whether nodes have the lines of a statement where a heading first stands, and no other
heading. -/
def states (lines nodes : List Node) : Bool :=
  let rest := nodes.dropWhile fun node => !node.holdsHeading
  lines.isPrefixOf rest && !anyHolds (rest.drop lines.length)

theorem anyHolds_eq_false_iff {nodes : List Node} :
    anyHolds nodes = false ↔ ∀ node ∈ nodes, node.holdsHeading = false := by
  induction nodes with
  | nil => simp [anyHolds]
  | cons node nodes ih => simp [anyHolds, ih]

theorem exists_append_of_states {lines nodes : List Node} (h : states lines nodes = true) :
    ∃ above below, above ++ lines ++ below = nodes ∧
      ∀ node ∈ above ++ below, node.holdsHeading = false := by
  rw [states, Bool.and_eq_true, Bool.not_eq_true', anyHolds_eq_false_iff,
    List.isPrefixOf_iff_prefix] at h
  obtain ⟨⟨below, hrest⟩, hbelow⟩ := h
  rw [← hrest, List.drop_left] at hbelow
  refine ⟨nodes.takeWhile fun node => !node.holdsHeading, below, ?_, ?_⟩
  · rw [List.append_assoc, hrest, List.takeWhile_append_dropWhile]
  · intro node hnode
    rcases List.mem_append.1 hnode with habove | hafter
    · simpa using List.mem_takeWhile_imp habove
    · exact hbelow node hafter

end Template

-- The lines count from the top of each source.
theorem Catalog.exists_states (verb : Verb) :
    ∃ template line, builtin.get? .endpoint verb = some template ∧
      ∃ nodes, template.nodes = .ok nodes ∧
        Template.states (verb.statementNodes line) nodes = true := by
  cases verb with
  | post => exact ⟨_, 39, rfl, exists_nodes_of_spelled (by repeat constructor) (by decide +kernel)⟩
  | get => exact ⟨_, 57, rfl, exists_nodes_of_spelled (by repeat constructor) (by decide +kernel)⟩
  | put => exact ⟨_, 43, rfl, exists_nodes_of_spelled (by repeat constructor) (by decide +kernel)⟩
  | delete =>
      exact ⟨_, 26, rfl, exists_nodes_of_spelled (by repeat constructor) (by decide +kernel)⟩

/-- The text of a template is made of what it writes above its one heading, of lines from there on,
and of what it writes below. -/
def Template.WritesAtHeading (template : Template) (context : Context) (lines text : String) :
    Prop :=
  ∃ above heading below before after,
    template.nodes = .ok (above ++ heading ++ below) ∧
    (∀ node ∈ above ++ below, node.holdsHeading = false) ∧
    (∃ opening ∈ heading.head?, opening.holdsHeading = true) ∧
    expandAll context [context.root] above = .ok before ∧
    expandAll context [context.root] heading = .ok lines ∧
    expandAll context [context.root] below = .ok after ∧
    before ++ lines ++ after = text

theorem Verb.holdsHeading_statementNodes (verb : Verb) (line : Nat) :
    ∃ opening ∈ (verb.statementNodes line).head?, opening.holdsHeading = true := by
  cases verb <;> exact ⟨_, rfl, by decide⟩

/-! ## Files of a plan -/

theorem Plan.exists_writesAtHeading (plan : Plan) (naming : Naming) :
    ∃ template text, Catalog.builtin.get? .endpoint plan.endpoint.verb = some template ∧
      template.expand (plan.context naming) = .ok text ∧
      template.WritesAtHeading (plan.context naming) plan.statementLines text := by
  obtain ⟨template, line, htemplate, nodes, hnodes, hstates⟩ :=
    Catalog.exists_states plan.endpoint.verb
  obtain ⟨entry, hentry, -, rfl⟩ := Catalog.exists_entry_of_get? htemplate
  obtain ⟨covered, hcovered, hcovers⟩ := Catalog.isCovered_entries entry hentry
  obtain ⟨text, htext⟩ := plan.exists_expandAll naming hcovers
  rw [hcovered] at hnodes
  cases hnodes
  obtain ⟨above, below, rfl, hheading⟩ := Template.exists_append_of_states hstates
  obtain ⟨front, after, hfront, hafter, rfl⟩ := Template.expandAll_append_eq_ok_iff.1 htext
  obtain ⟨before, lines, hbefore, hlines, rfl⟩ := Template.expandAll_append_eq_ok_iff.1 hfront
  rw [plan.expandAll_statementNodes naming line] at hlines
  cases hlines
  refine ⟨entry.template, _, htemplate, ?_, above, plan.endpoint.verb.statementNodes line, below,
    before, after, hcovered, hheading, plan.endpoint.verb.holdsHeading_statementNodes line, hbefore,
    plan.expandAll_statementNodes naming line, hafter, rfl⟩
  rw [Template.expand, hcovered]
  exact htext

/-- What the parts of every plan keep to. -/
structure Plan.Sound (plan : Plan) : Prop where
  /-- The columns and the keys are in order of declaration. -/
  surface : plan.surface.Sublist plan.table.columns
  keys : plan.keys.Sublist plan.table.primaryKey
  surface_ne_nil : plan.surface ≠ []
  /-- An update leaves keys alone. -/
  primary_eq_false : plan.endpoint.verb = .put → ∀ column ∈ plan.surface, column.primary = false
  /-- A deletion goes by the chosen keys only. -/
  mem_keys : plan.endpoint.verb = .delete → ∀ column ∈ plan.surface, column ∈ plan.keys
  /-- A read makes all joins or none, in the order of the foreign keys. -/
  activeJoins : plan.endpoint.verb = .get → plan.activeJoins =
    if plan.endpoint.join then plan.table.foreignKeys.map Join.ofKey else []
  condition_ne_nil : plan.endpoint.verb = .put ∨ plan.endpoint.verb = .delete →
    plan.statement.condition ≠ []

namespace Endpoint.Planned

variable {endpoint : Endpoint} {schema : Schema} {database : Database} {plan : Plan}

theorem condition_ne_nil (h : endpoint.Planned schema database plan)
    (hverb : endpoint.verb = .put ∨ endpoint.verb = .delete) :
    plan.statement.condition ≠ [] := by
  rw [Plan.statement, h.endpoint_eq]
  rcases hverb with hput | hdelete
  · rw [hput]
    exact List.map_eq_nil_iff.not.2 (h.keys_ne_nil hput)
  · rw [hdelete]
    exact List.map_eq_nil_iff.not.2 h.surface_ne_nil

theorem sound (h : endpoint.Planned schema database plan) : plan.Sound := by
  have hendpoint := h.endpoint_eq
  constructor
  · exact h.surface_sublist.trans List.filter_sublist
  · exact h.keys_sublist
  · exact h.surface_ne_nil
  · rw [hendpoint]
    exact fun hverb _ => h.primary_eq_false hverb
  · rw [hendpoint]
    exact fun hverb _ => h.mem_keys hverb
  · intro hverb
    rw [hendpoint] at hverb ⊢
    exact h.activeJoins_eq (by rw [hverb]; decide)
  · rw [hendpoint]
    exact h.condition_ne_nil

end Endpoint.Planned

namespace Generator

theorem mem_render {schema : Schema} {endpoint : Endpoint} {plan : Plan} {naming : Naming}
    {kind : ArtifactKind} {template : Template} {text : String}
    (hplan : endpoint.plan schema = .ok plan)
    (htemplate : Catalog.builtin.get? kind plan.endpoint.verb = some template)
    (htext : template.expand (plan.context naming) = .ok text) :
    ∃ artifacts, Generator.render ⟨schema, .builtin, naming⟩ endpoint = .ok artifacts ∧
      ⟨kind.path plan.endpoint.verb plan.moduleUrl plan.fileStem, text⟩ ∈ artifacts := by
  obtain ⟨artifacts, hrender⟩ := exists_render hplan naming
  refine ⟨artifacts, hrender, ?_⟩
  obtain ⟨other, hother, hartifacts⟩ := Except.bind_eq_ok_iff.1 hrender
  rw [hplan] at hother
  cases hother
  exact mem_of_mapM_eq_ok hartifacts (Catalog.mem_kindsFor.2 ⟨template, htemplate⟩)
    (artifact_eq_ok_iff.2 ⟨template, text, htemplate, htext, rfl⟩)

end Generator

/-- The endpoint definition of every plan gives, at the one heading of its template, the statement
of the plan: on the columns and by the keys that were selected, in order of declaration, and for an
update or a deletion under a condition. -/
theorem Generator.endpoint_file_states_plan {schema : Schema} {endpoint : Endpoint} {plan : Plan}
    (hplan : endpoint.plan schema = .ok plan) :
    plan.endpoint = endpoint ∧
    (∃ database, schema.database? endpoint.database = some database ∧
      database.table? endpoint.table = some plan.table) ∧
    plan.Sound ∧
    ∀ naming : Naming, ∃ template text,
      Catalog.builtin.get? .endpoint endpoint.verb = some template ∧
      template.WritesAtHeading (plan.context naming) plan.statementLines text ∧
      ∃ artifacts, Generator.render ⟨schema, .builtin, naming⟩ endpoint = .ok artifacts ∧
        let path := ArtifactKind.endpoint.path endpoint.verb plan.moduleUrl plan.fileStem
        ⟨path, text⟩ ∈ artifacts ∧
        ∀ (shelf : Shelf) (generated : Generated),
          let outcome :=
            runOn (Generator.generate ⟨schema, .builtin, naming⟩ Shelf.store endpoint) shelf
          outcome.1 = .ok generated → outcome.2.get? path = some text := by
  obtain ⟨database, h⟩ := Endpoint.plan_eq_ok_iff.1 hplan
  have hlocated := Endpoint.locate_eq_ok_iff.1 h.located
  refine ⟨h.endpoint_eq, ⟨database, hlocated.2.2.1, h.table?_eq⟩, h.sound, fun naming => ?_⟩
  obtain ⟨template, text, htemplate, htext, hwrites⟩ := plan.exists_writesAtHeading naming
  obtain ⟨artifacts, hrender, hartifact⟩ := mem_render hplan htemplate htext
  rw [h.endpoint_eq] at htemplate hartifact
  refine ⟨template, text, htemplate, hwrites, artifacts, hrender, hartifact, ?_⟩
  intro shelf generated outcome hgenerated
  exact get?_of_generated hgenerated hrender hartifact

theorem Generator.invoices_file_states_joins :
    let endpoint := { Endpoint.ofTable .mysql "crm" "invoices" .get with join := true }
    ∃ plan, endpoint.plan .ofInvoices = .ok plan ∧ plan.Sound ∧
      (∃ template text, Template.WritesAtHeading template (plan.context {}) plan.statementLines
        text) ∧
      plan.statementLines =
        "sql:\n  select: select invoices.id, invoices.customer_id, invoices.staff_id" ++
          ", customer_id_ref.id as customer_id_id, customer_id_ref.name as customer_id_name" ++
          ", staff_id_ref.id as staff_id_id from invoices" ++
          " left join customers customer_id_ref on customer_id_ref.id = invoices.customer_id" ++
          " left join staff staff_id_ref on staff_id_ref.id = invoices.staff_id\n" := by
  obtain ⟨-, -, hsound, hfiles⟩ := @endpoint_file_states_plan .ofInvoices
    { Endpoint.ofTable .mysql "crm" "invoices" .get with join := true } _ rfl
  obtain ⟨template, text, -, hwrites, -⟩ := hfiles {}
  exact ⟨_, rfl, hsound, ⟨template, text, hwrites⟩, by decide +kernel⟩

end Scaffold
