import Scaffold.Proofs.Generation.LookupEndpoint
import Scaffold.Proofs.Plan.Selection

/-!
# The rows that a statement touches

An update goes by the keys it was asked to go by, which are all keys if it was not asked.  A deletion
names only those of them that are exposed to deletions and were not left out of the columns asked
for; so it goes by the same keys exactly if that leaves out none.
-/

namespace Scaffold

namespace Endpoint

variable {endpoint : Endpoint} {table : Table}

/-- Whether a deletion names a column of the chosen key: it must be exposed, and among the columns
asked for, where some were named. -/
def deletesBy (endpoint : Endpoint) (column : Column) : Bool :=
  column.exposure.delete && endpoint.selection.columns.all (·.contains column.name)

theorem eligible_of_deletion (hconsistent : table.Consistent) (hverb : endpoint.verb = .delete) :
    endpoint.eligible table (endpoint.chosenKeys table) =
      (endpoint.chosenKeys table).filter fun column => column.exposure.delete := by
  rw [eligible_eq_filter hconsistent.nodup_columns (endpoint.chosenKeys_subset table), hverb]
  have hsame : ∀ column ∈ table.columns,
      column.isEligible .delete (endpoint.chosenKeys table) =
        (column.exposure.delete &&
          endpoint.selection.primary.all (·.contains column.name) && column.primary) := by
    intro column hcolumn
    rw [Bool.and_assoc, Column.isEligible, Bool.eq_iff_iff, Bool.and_eq_true, Bool.and_eq_true,
      List.contains_iff_mem, chosenKeys, Table.primaryKey, List.filter_filter, List.mem_filter]
    exact and_congr_right fun _ => and_iff_right hcolumn
  rw [List.filter_congr hsame, chosenKeys, Table.primaryKey, List.filter_filter,
    List.filter_filter]

namespace Planned

variable {schema : Schema} {database : Database} {plan : Plan}

theorem table_eq (h : endpoint.Planned schema database plan) {other : Endpoint}
    {otherDatabase : Database} {otherPlan : Plan}
    (hother : other.Planned schema otherDatabase otherPlan)
    (hdatabase : other.database = endpoint.database) (htable : other.table = endpoint.table) :
    otherPlan.table = plan.table := by
  have hlocated := locate_eq_ok_iff.1 hother.located
  rw [hdatabase, htable, (locate_eq_ok_iff.1 h.located).2.2.1] at hlocated
  obtain ⟨-, -, hsame, hfound⟩ := hlocated
  cases hsame
  rw [h.table?_eq] at hfound
  exact (Option.some.inj hfound).symm

theorem keys_eq (h : endpoint.Planned schema database plan) :
    endpoint.chosenKeys plan.table = plan.keys :=
  (selectKeys_eq_ok_iff.1 (columnsOf_eq_ok_iff.1 h.columns_eq).1).2

theorem surface_of_deletion (h : endpoint.Planned schema database plan)
    (hverb : endpoint.verb = .delete) :
    (endpoint.chosenKeys plan.table).filter endpoint.deletesBy = plan.surface := by
  have hsurface := (selectSurface_eq_ok_iff.1 (columnsOf_eq_ok_iff.1 h.columns_eq).2.1).2
  rw [← h.keys_eq, eligible_of_deletion h.consistent hverb, List.filter_filter] at hsurface
  rw [← hsurface]
  exact List.filter_congr fun column _ => Bool.and_comm _ _

theorem condition_of_deletion (h : endpoint.Planned schema database plan)
    (hverb : endpoint.verb = .delete) :
    plan.statement.condition =
      ((endpoint.chosenKeys plan.table).filter endpoint.deletesBy).map Column.name := by
  rw [Plan.statement, h.endpoint_eq, hverb, h.surface_of_deletion hverb]
  rfl

theorem condition_of_update (h : endpoint.Planned schema database plan)
    (hverb : endpoint.verb = .put) :
    plan.statement.condition = (endpoint.chosenKeys plan.table).map Column.name := by
  rw [Plan.statement, h.endpoint_eq, hverb, h.keys_eq]
  rfl

theorem statementLines_of_deletion (h : endpoint.Planned schema database plan)
    (hverb : endpoint.verb = .delete) :
    plan.statementLines = "sql:\n  delete: delete from " ++ plan.table.name ++ " where " ++
      Text.join " and " (plan.statement.condition.map Statement.assignment) ++ "\n" := by
  unfold Plan.statementLines Plan.statement
  rw [h.endpoint_eq, hverb]
  change "sql:\n  " ++ "delete" ++ ": " ++ ("delete from " ++ plan.table.name ++ " where " ++
    Text.join " and " ((plan.surface.map Column.name).map Statement.assignment)) ++ "\n" =
      "sql:\n  delete: delete from " ++ plan.table.name ++ " where " ++
        Text.join " and " ((plan.surface.map Column.name).map Statement.assignment) ++ "\n"
  simp only [← String.append_assoc, String.reduceAppend]

/-- The endpoint definition has the lines of the statement. -/
theorem writes_statement (h : endpoint.Planned schema database plan) (naming : Naming) :
    Generator.Writes ⟨schema, .builtin, naming⟩ endpoint
      (ArtifactKind.endpoint.path endpoint.verb plan.moduleUrl plan.fileStem)
      plan.statementLines := by
  obtain ⟨template, line, htemplate, nodes, hnodes, hstates⟩ := Catalog.exists_states endpoint.verb
  obtain ⟨above, below, hsplit, -⟩ := Template.exists_append_of_states hstates
  have hlines := plan.expandAll_statementNodes naming line
  rw [h.endpoint_eq] at hlines
  exact h.writes ⟨template, htemplate, nodes, hnodes, above, below, hsplit⟩ hlines

end Planned

end Endpoint

/-- The condition of a deletion names the keys that were chosen, without those that are hidden from
deletions or not among the columns asked for.  So it is the condition of an update by the same
keys, and without a choice names the whole primary key, exactly if none is left out. -/
theorem deletion_names_keys {schema : Schema} {endpoint : Endpoint} {plan : Plan}
    (hplan : endpoint.plan schema = .ok plan) (hverb : endpoint.verb = .delete) :
    let chosen := endpoint.chosenKeys plan.table
    let named := chosen.filter endpoint.deletesBy
    (endpoint.selection.primary = none → chosen = plan.table.primaryKey) ∧
      plan.statement.condition = named.map Column.name ∧
      (∀ naming, Generator.Writes ⟨schema, .builtin, naming⟩ endpoint
        (ArtifactKind.endpoint.path .delete plan.moduleUrl plan.fileStem)
        ("sql:\n  delete: delete from " ++ plan.table.name ++ " where " ++
          Text.join " and " ((named.map Column.name).map Statement.assignment) ++ "\n")) ∧
      (plan.statement.condition = chosen.map Column.name ↔
        ∀ key ∈ chosen, endpoint.deletesBy key = true) ∧
      ∀ update updatePlan, Endpoint.plan update schema = .ok updatePlan → update.verb = .put →
        update.database = endpoint.database → update.table = endpoint.table →
        update.selection.primary = endpoint.selection.primary →
          updatePlan.statement.condition = chosen.map Column.name := by
  intro chosen named
  obtain ⟨database, h⟩ := Endpoint.plan_eq_ok_iff.1 hplan
  have hcondition := h.condition_of_deletion hverb
  refine ⟨fun hnone => Endpoint.chosenKeys_eq_primaryKey hnone _, hcondition, ?_, ?_, ?_⟩
  · intro naming
    have hwrites := h.writes_statement naming
    rw [h.statementLines_of_deletion hverb, hcondition, hverb] at hwrites
    exact hwrites
  · rw [hcondition, ← List.length_filter_eq_length_iff]
    constructor
    · intro hsame
      have hlengths := congrArg List.length hsame
      rw [List.length_map, List.length_map] at hlengths
      exact hlengths
    · intro hlengths
      rw [List.filter_eq_self.2 (List.length_filter_eq_length_iff.1 hlengths)]
  · intro update updatePlan hupdate hput hdatabase htable hprimary
    obtain ⟨other, hplanned⟩ := Endpoint.plan_eq_ok_iff.1 hupdate
    rw [hplanned.condition_of_update hput, h.table_eq hplanned hdatabase htable,
      Endpoint.chosenKeys, hprimary]
    rfl

/-- Seats of a hall, each known by its row and its number in the row. -/
def Schema.ofSeats (number : Exposure) : Schema where
  databases :=
    [{ name := "hall"
       tables :=
        [{ name := "seats"
           columns :=
            [{ name := "row", type := "int", primary := true },
              { name := "number", type := "int", primary := true, exposure := number },
              { name := "taken", type := "bool" }] }] }]
  consistent := Schema.consistent_iff.2 rfl

theorem seats_are_deleted_by_row_and_number :
    let deletion := Endpoint.ofTable .mysql "hall" "seats" .delete
    let update := Endpoint.ofTable .mysql "hall" "seats" .put
    ∃ plan updatePlan, deletion.plan (.ofSeats {}) = .ok plan ∧
      update.plan (.ofSeats {}) = .ok updatePlan ∧
      plan.statement.condition = ["row", "number"] ∧
      updatePlan.statement.condition = plan.statement.condition := by
  intro deletion update
  have hkeys : ((deletion.plan (.ofSeats {})).toOption.map fun plan =>
      (deletion.chosenKeys plan.table).map fun key => (key.name, deletion.deletesBy key)) =
        some [("row", true), ("number", true)] := by
    decide +kernel
  have hupdated : ((update.plan (.ofSeats {})).toOption.map Plan.moduleName) = some "hall" := by
    decide +kernel
  obtain ⟨plan, hplan, hkeys⟩ := exists_of_map_toOption_eq_some hkeys
  obtain ⟨updatePlan, hupdatePlan, -⟩ := exists_of_map_toOption_eq_some hupdated
  obtain ⟨-, -, -, hwhole, hupdate⟩ := deletion_names_keys hplan rfl
  have hnames : (deletion.chosenKeys plan.table).map Column.name = ["row", "number"] := by
    have hfirst := congrArg (List.map Prod.fst) hkeys
    rw [List.map_map] at hfirst
    exact hfirst
  have hshown : ∀ key ∈ deletion.chosenKeys plan.table, deletion.deletesBy key = true := by
    intro key hkey
    have hmember := List.mem_map_of_mem
      (f := fun key : Column => (key.name, deletion.deletesBy key)) hkey
    rw [hkeys] at hmember
    simp only [List.mem_cons, List.not_mem_nil, Prod.mk.injEq, or_false] at hmember
    exact hmember.elim And.right And.right
  have hcondition : plan.statement.condition = ["row", "number"] :=
    (hwhole.2 hshown).trans hnames
  have hsame := hupdate update updatePlan hupdatePlan rfl rfl rfl rfl
  exact ⟨plan, updatePlan, hplan, hupdatePlan, hcondition,
    hsame.trans (hnames.trans hcondition.symm)⟩

/-- A part of the key that deletions do not show is left out of the condition: the seats of a whole
row go at once. -/
theorem hidden_key_is_not_named :
    let deletion := Endpoint.ofTable .mysql "hall" "seats" .delete
    let schema := Schema.ofSeats { delete := false }
    (∃ generated, (runOn (Generator.generate ⟨schema, .builtin, {}⟩ Shelf.store deletion)
      .empty).1 = .ok generated) ∧
    ∃ plan, deletion.plan schema = .ok plan ∧ deletion.selection.primary = none ∧
      plan.table.primaryKey.map Column.name = ["row", "number"] ∧
      plan.statement.condition = ["row"] ∧
      Generator.Writes ⟨schema, .builtin, {}⟩ deletion
        (ArtifactKind.endpoint.path .delete plan.moduleUrl plan.fileStem)
        "sql:\n  delete: delete from seats where row = @row\n" := by
  intro deletion schema
  have hfacts : ((deletion.plan schema).toOption.map fun plan =>
      (plan.table.name, plan.table.primaryKey.map Column.name, plan.statement.condition)) =
        some ("seats", ["row", "number"], ["row"]) := by
    decide +kernel
  obtain ⟨plan, hplan, hfacts⟩ := exists_of_map_toOption_eq_some hfacts
  obtain ⟨htable, hkeys, hcondition⟩ : plan.table.name = "seats" ∧
      plan.table.primaryKey.map Column.name = ["row", "number"] ∧
      plan.statement.condition = ["row"] := by
    simpa using hfacts
  obtain ⟨database, h⟩ := Endpoint.plan_eq_ok_iff.1 hplan
  refine ⟨Generator.exists_generated hplan {}, plan, hplan, rfl, hkeys, hcondition, ?_⟩
  have hwrites := h.writes_statement {}
  rw [h.statementLines_of_deletion rfl, hcondition, htable] at hwrites
  exact hwrites

end Scaffold
