import Mathlib.Data.List.Nodup
import Scaffold.Plan.Statement
import Scaffold.Proofs.Generation.Covered
import Scaffold.Proofs.Plan.Success

/-!
# Names in the result of a read

A read returns the columns of its table under their own names, and those of joined tables under
names glued from that of a foreign key's column and that of the column read.  Gluing can make one
name of different ones; here is when.
-/

namespace Scaffold

/-! ## Glued names -/

/-- Whether two pairs of names make one name with an underscore between them: because they are the
same, or because the front of one goes on where that of the other ends. -/
def GluedAlike (front back front' back' : String) : Prop :=
  (front = front' ∧ back = back') ∨
    (∃ rest, front' = front ++ "_" ++ rest ∧ back = rest ++ "_" ++ back') ∨
      ∃ rest, front = front' ++ "_" ++ rest ∧ back' = rest ++ "_" ++ back

theorem toList_glued (front back : String) :
    (front ++ "_" ++ back).toList = front.toList ++ '_' :: back.toList := by
  rw [String.toList_append, String.toList_append, List.append_assoc]
  rfl

/-- The underscores are in the same place, or that of the longer front lies in the other's back. -/
theorem same_or_longer {front back front' back' : String} {middle : List Char}
    (hfront : front'.toList = front.toList ++ middle)
    (hback : '_' :: back.toList = middle ++ '_' :: back'.toList) :
    (front = front' ∧ back = back') ∨
      ∃ rest, front' = front ++ "_" ++ rest ∧ back = rest ++ "_" ++ back' := by
  cases middle with
  | nil =>
      rw [List.append_nil] at hfront
      exact .inl ⟨(String.toList_inj.1 hfront).symm, String.toList_inj.1 (List.cons.inj hback).2⟩
  | cons c rest =>
      obtain ⟨rfl, htail⟩ := List.cons.inj hback
      refine .inr ⟨String.ofList rest, String.toList_inj.1 ?_, String.toList_inj.1 ?_⟩
      · rw [toList_glued, String.toList_ofList, hfront]
      · rw [toList_glued, String.toList_ofList]
        exact htail

theorem glued_eq_iff (front back front' back' : String) :
    front ++ "_" ++ back = front' ++ "_" ++ back' ↔ GluedAlike front back front' back' := by
  constructor
  · intro h
    have hchars := congrArg String.toList h
    rw [toList_glued, toList_glued, List.append_eq_append_iff] at hchars
    rcases hchars with ⟨middle, hfront, hback⟩ | ⟨middle, hfront, hback⟩
    · exact (same_or_longer hfront hback).imp_right .inl
    · rcases same_or_longer hfront hback with ⟨rfl, rfl⟩ | hlonger
      · exact .inl ⟨rfl, rfl⟩
      · exact .inr (.inr hlonger)
  · rintro (⟨rfl, rfl⟩ | ⟨rest, rfl, rfl⟩ | ⟨rest, rfl, rfl⟩)
    · rfl
    · simp only [String.append_assoc]
    · simp only [String.append_assoc]

/-! ## Aliases of foreign keys -/

namespace ForeignKey

/-- The columns that a join reads: the referenced one, and the label if it is another. -/
def reads (key : ForeignKey) : List String :=
  key.referencedColumn :: if key.label ≠ key.referencedColumn then [key.label] else []

/-- The names under which a join returns what it reads. -/
def aliases (key : ForeignKey) : List String :=
  key.reads.map fun read => key.column ++ "_" ++ read

theorem nodup_reads (key : ForeignKey) : key.reads.Nodup := by
  rw [reads]
  split
  · next hlabel => simpa using Ne.symm hlabel
  · simp

theorem nodup_aliases (key : ForeignKey) : key.aliases.Nodup := by
  apply key.nodup_reads.map
  intro read other h
  exact (String.append_right_inj _).1 h

theorem outputs_ofKey (key : ForeignKey) :
    (Join.ofKey key).outputs =
      key.reads.map fun read => ⟨key.referencedTable, read, key.column ++ "_" ++ read⟩ := by
  rw [Join.outputs, reads]
  by_cases hlabel : key.label = key.referencedColumn
  · simp [Join.hasDistinctLabel, Join.ofKey, hlabel]
  · simp [Join.hasDistinctLabel, Join.ofKey, hlabel]

theorem map_name_outputs (key : ForeignKey) :
    (Join.ofKey key).outputs.map Output.name = key.aliases := by
  rw [outputs_ofKey, List.map_map]
  rfl

end ForeignKey

/-- Foreign keys none of whose aliases is also one of another key. -/
def AliasesApart (key other : ForeignKey) : Prop :=
  ∀ read ∈ key.reads, ∀ read' ∈ other.reads, ¬ GluedAlike key.column read other.column read'

theorem disjoint_aliases_iff {key other : ForeignKey} :
    key.aliases.Disjoint other.aliases ↔ AliasesApart key other := by
  constructor
  · intro h read hread read' hread' halike
    refine h (List.mem_map_of_mem hread) ?_
    rw [(glued_eq_iff _ _ _ _).2 halike]
    exact List.mem_map_of_mem hread'
  · intro h name hname hname'
    obtain ⟨read, hread, rfl⟩ := List.mem_map.1 hname
    obtain ⟨read', hread', heq⟩ := List.mem_map.1 hname'
    exact h read hread read' hread' ((glued_eq_iff _ _ _ _).1 heq.symm)

/-! ## Results of reads -/

namespace Endpoint.Planned

variable {endpoint : Endpoint} {schema : Schema} {database : Database} {plan : Plan}

/-- The names in the result of a read with joins. -/
theorem map_name_outputs (h : endpoint.Planned schema database plan) (hverb : endpoint.verb = .get)
    (hjoin : endpoint.join = true) :
    plan.statement.outputs.map Output.name =
      plan.surface.map Column.name ++ plan.table.foreignKeys.flatMap ForeignKey.aliases := by
  have hjoins := h.activeJoins_eq (by rw [hverb]; decide)
  rw [if_pos hjoin] at hjoins
  rw [Plan.statement, h.endpoint_eq, hverb]
  dsimp only
  rw [Statement.outputs, hjoins, List.map_append, List.map_map, List.map_map, List.map_flatMap,
    List.flatMap_map]
  simp only [ForeignKey.map_name_outputs]
  rfl

theorem map_tableAlias_joins (h : endpoint.Planned schema database plan)
    (hverb : endpoint.verb = .get) :
    plan.joins.map Join.tableAlias =
      plan.table.foreignKeys.map fun key => key.column ++ "_ref" := by
  rw [h.joins_eq_map (by rw [hverb]; decide), List.map_map]
  rfl

theorem nodup_outputs_iff (h : endpoint.Planned schema database plan)
    (hverb : endpoint.verb = .get) (hjoin : endpoint.join = true) :
    (plan.statement.outputs.map Output.name).Nodup ↔
      plan.table.foreignKeys.Pairwise AliasesApart ∧
        ∀ column ∈ plan.surface, ∀ key ∈ plan.table.foreignKeys, column.name ∉ key.aliases := by
  rw [h.map_name_outputs hverb hjoin, List.nodup_append', List.nodup_flatMap]
  have hpairwise : plan.table.foreignKeys.Pairwise
      (Function.onFun List.Disjoint ForeignKey.aliases) ↔
        plan.table.foreignKeys.Pairwise AliasesApart :=
    List.Pairwise.iff fun _ _ => disjoint_aliases_iff
  rw [hpairwise]
  constructor
  · rintro ⟨-, ⟨-, hapart⟩, hdisjoint⟩
    refine ⟨hapart, fun column hcolumn key hkey halias => ?_⟩
    exact hdisjoint (List.mem_map_of_mem hcolumn) (List.mem_flatMap.2 ⟨key, hkey, halias⟩)
  · rintro ⟨hapart, hfree⟩
    refine ⟨h.nodup_surface, ⟨fun key _ => key.nodup_aliases, hapart⟩, ?_⟩
    intro name hname halias
    obtain ⟨column, hcolumn, rfl⟩ := List.mem_map.1 hname
    obtain ⟨key, hkey, halias⟩ := List.mem_flatMap.1 halias
    exact hfree column hcolumn key hkey halias

theorem nodup_tableAliases_iff (h : endpoint.Planned schema database plan)
    (hverb : endpoint.verb = .get) :
    (plan.joins.map Join.tableAlias).Nodup ↔
      (plan.table.foreignKeys.map ForeignKey.column).Nodup := by
  have hinjective : Function.Injective fun column : String => column ++ "_ref" :=
    fun _ _ heq => (String.append_left_inj _).1 heq
  have haliases : (plan.table.foreignKeys.map fun key => key.column ++ "_ref") =
      (plan.table.foreignKeys.map ForeignKey.column).map fun column => column ++ "_ref" := by
    rw [List.map_map]
    rfl
  rw [h.map_tableAlias_joins hverb, haliases, List.nodup_map_iff hinjective]

end Endpoint.Planned

/-- The names of a read with joins are told apart exactly if no two foreign keys glue the same
alias and no column shown is called like one; the joined tables are told apart exactly if no two
foreign keys start at one column, and from the table itself if it is not called like one. -/
theorem join_names_distinct_iff {schema : Schema} {endpoint : Endpoint} {plan : Plan}
    (hplan : endpoint.plan schema = .ok plan) (hverb : endpoint.verb = .get)
    (hjoin : endpoint.join = true) :
    (plan.surface.map Column.name).Nodup ∧
    (∀ join ∈ plan.joins, (join.outputs.map Output.name).Nodup) ∧
    ((plan.statement.outputs.map Output.name).Nodup ↔
      plan.table.foreignKeys.Pairwise AliasesApart ∧
        ∀ column ∈ plan.surface, ∀ key ∈ plan.table.foreignKeys, column.name ∉ key.aliases) ∧
    ((plan.joins.map Join.tableAlias).Nodup ↔
      (plan.table.foreignKeys.map ForeignKey.column).Nodup) ∧
    (plan.table.name ∈ plan.joins.map Join.tableAlias ↔
      ∃ key ∈ plan.table.foreignKeys, plan.table.name = key.column ++ "_ref") := by
  obtain ⟨database, h⟩ := Endpoint.plan_eq_ok_iff.1 hplan
  refine ⟨h.nodup_surface, ?_, h.nodup_outputs_iff hverb hjoin, h.nodup_tableAliases_iff hverb, ?_⟩
  · rw [h.joins_eq_map (by rw [hverb]; decide), List.forall_mem_map]
    intro key _
    rw [ForeignKey.map_name_outputs]
    exact key.nodup_aliases
  · rw [h.map_tableAlias_joins hverb, List.mem_map]
    simp only [eq_comm]

theorem join_names_of_invoices :
    let endpoint := { Endpoint.ofTable .mysql "crm" "invoices" .get with join := true }
    ∃ plan, endpoint.plan .ofInvoices = .ok plan ∧
      plan.statement.outputs.map Output.name =
        ["id", "customer_id", "staff_id", "customer_id_id", "customer_id_name", "staff_id_id"] ∧
      plan.table.foreignKeys.Pairwise AliasesApart := by
  refine ⟨_, rfl, by decide, ?_⟩
  have houtputs := (@join_names_distinct_iff .ofInvoices
    { Endpoint.ofTable .mysql "crm" "invoices" .get with join := true } _ rfl rfl rfl).2.2.1
  exact (houtputs.1 (by decide)).1

/-- A table with two foreign keys that glue one alias of different names, and with a third on the
column of the first. -/
def Schema.ofGluedNames : Schema where
  databases :=
    [{ name := "d"
       tables :=
        [{ name := "t"
           columns := [{ name := "c", type := "int" }, { name := "b_c", type := "int" }] },
         { name := "a_ref"
           columns := [{ name := "a", type := "int" }, { name := "a_b", type := "int" }]
           foreignKeys :=
            [{ column := "a", referencedTable := "t", referencedColumn := "b_c" },
             { column := "a_b", referencedTable := "t", referencedColumn := "c" },
             { column := "a", referencedTable := "t", referencedColumn := "c" }] }] }]
  consistent := Schema.consistent_iff.2 rfl

theorem join_names_may_clash :
    let endpoint := { Endpoint.ofTable .mysql "d" "a_ref" .get with join := true }
    (∃ generated, (runOn (Generator.generate ⟨.ofGluedNames, .builtin, {}⟩ Shelf.store endpoint)
      .empty).1 = .ok generated) ∧
    ∃ plan, endpoint.plan .ofGluedNames = .ok plan ∧
      plan.statement.outputs.map Output.name = ["a", "a_b", "a_b_c", "a_b_c", "a_c"] ∧
      plan.joins.map Join.tableAlias = ["a_ref", "a_b_ref", "a_ref"] ∧
      ¬ (plan.statement.outputs.map Output.name).Nodup ∧
      ¬ (plan.joins.map Join.tableAlias).Nodup ∧
      plan.table.name ∈ plan.joins.map Join.tableAlias :=
  ⟨Generator.exists_generated rfl {}, _, rfl, by decide, by decide, by decide, by decide, by decide⟩

end Scaffold
