import Mathlib.Data.List.Nodup
import Scaffold.Plan.Bindings
import Scaffold.Proofs.Outcome

/-!
# What a plan says

All the checks that an endpoint with a plan has passed, and where the parts of the plan come from.
-/

namespace Scaffold

/-! ## Places in a schema -/

theorem Schema.mem_of_database? {schema : Schema} {database : Database} {name : String}
    (h : schema.database? name = some database) : database ∈ schema.databases :=
  List.mem_of_find?_eq_some h

theorem Schema.name_of_database? {schema : Schema} {database : Database} {name : String}
    (h : schema.database? name = some database) : database.name = name := by
  rw [database?] at h
  have hname := List.find?_some h
  exact eq_of_beq hname

theorem Database.mem_of_table? {database : Database} {table : Table} {name : String}
    (h : database.table? name = some table) : table ∈ database.tables :=
  List.mem_of_find?_eq_some h

theorem Database.name_of_table? {database : Database} {table : Table} {name : String}
    (h : database.table? name = some table) : table.name = name := by
  rw [table?] at h
  have hname := List.find?_some h
  exact eq_of_beq hname

theorem Table.mem_of_column? {table : Table} {column : Column} {name : String}
    (h : table.column? name = some column) : column ∈ table.columns :=
  List.mem_of_find?_eq_some h

theorem Table.name_of_column? {table : Table} {column : Column} {name : String}
    (h : table.column? name = some column) : column.name = name := by
  rw [column?] at h
  have hname := List.find?_some h
  exact eq_of_beq hname

/-! ## Joins -/

namespace Table

variable {table : Table} {database : Database}

theorem joinFor_eq_ok_iff {key : ForeignKey} {join : Join} :
    table.joinFor database key = .ok join ↔
      key.danglingColumn? database = none ∧ Join.ofKey key = join := by
  rw [joinFor]
  cases key.danglingColumn? database <;> simp

theorem joins_eq_ok_iff {joins : List Join} :
    table.joins database = .ok joins ↔
      (∀ key ∈ table.foreignKeys, key.danglingColumn? database = none) ∧
        table.foreignKeys.map Join.ofKey = joins := by
  rw [Table.joins, mapM_eq_ok_iff]
  simp only [joinFor_eq_ok_iff]
  rw [List.forall₂_and_left, ← List.forall₂_map_left_iff, List.forall₂_eq_eq_eq]

end Table

/-! ## Plans -/

theorem EffectivePolicy.check_eq_ok_iff {policy : EffectivePolicy} {target : String} {verb : Verb}
    {table : Table} :
    policy.check target verb table = .ok () ↔ policy.problem? verb table = none := by
  rw [check]
  cases policy.problem? verb table <;> simp

namespace Endpoint

variable {endpoint : Endpoint} {schema : Schema} {database : Database} {table : Table}

theorem refuse_eq_ok_iff {α : Type} {outcome : Except Problem α} {a : α} :
    endpoint.refuse outcome = .ok a ↔ outcome = .ok a := by
  cases outcome <;> simp [refuse]

theorem locate_eq_ok_iff :
    endpoint.locate schema = .ok (database, table) ↔
      isIdentifier endpoint.database = true ∧ isIdentifier endpoint.table = true ∧
        schema.database? endpoint.database = some database ∧
          database.table? endpoint.table = some table := by
  constructor
  · intro h
    rw [locate] at h
    split at h
    · cases h
    · next hdatabaseName =>
        split at h
        · cases h
        · next htableName =>
            split at h
            · cases h
            · next found hfound =>
                split at h
                · cases h
                · next htable =>
                    cases h
                    exact ⟨by simpa using hdatabaseName, by simpa using htableName, hfound, htable⟩
  · rintro ⟨hdatabaseName, htableName, hdatabase, htable⟩
    simp [locate, hdatabaseName, htableName, hdatabase, htable]

/-- The joins of an endpoint; a deletion shows no foreign keys. -/
def joinsOn (endpoint : Endpoint) (database : Database) (table : Table) :
    Except Failure (List Join) :=
  if endpoint.verb = .delete then .ok [] else table.joins database

/-- The plan of an endpoint on a table that has been found. -/
def planOn (endpoint : Endpoint) (database : Database) (table : Table) : Except Failure Plan := do
  let (moduleName, moduleUrl) ← endpoint.refuse (endpoint.moduleOf database table)
  let (surface, keys) ← endpoint.refuse (endpoint.columnsOf table)
  let policy := endpoint.policy.resolve table.policy endpoint.verb
  policy.check endpoint.key.render endpoint.verb table
  let joins ← endpoint.joinsOn database table
  pure { endpoint, table, policy, surface, keys, joins, moduleName, moduleUrl }

theorem plan_eq_planOn (endpoint : Endpoint) (schema : Schema) :
    endpoint.plan schema = (do
      let (database, table) ← endpoint.refuse (endpoint.locate schema)
      endpoint.planOn database table) := by
  by_cases hverb : endpoint.verb = .delete
  · simp only [plan, planOn, joinsOn, if_pos hverb]
    rfl
  · simp only [plan, planOn, joinsOn, if_neg hverb]

/-- What has been found out about an endpoint once it has a plan. -/
structure Planned (endpoint : Endpoint) (schema : Schema) (database : Database) (plan : Plan) :
    Prop where
  endpoint_eq : plan.endpoint = endpoint
  located : endpoint.locate schema = .ok (database, plan.table)
  module_eq : endpoint.moduleOf database plan.table = .ok (plan.moduleName, plan.moduleUrl)
  columns_eq : endpoint.columnsOf plan.table = .ok (plan.surface, plan.keys)
  policy_eq : endpoint.policy.resolve plan.table.policy endpoint.verb = plan.policy
  checked : plan.policy.problem? endpoint.verb plan.table = none
  joins_eq : endpoint.joinsOn database plan.table = .ok plan.joins

theorem plan_eq_ok_iff {plan : Plan} :
    endpoint.plan schema = .ok plan ↔ ∃ database, endpoint.Planned schema database plan := by
  rw [plan_eq_planOn]
  constructor
  · intro h
    obtain ⟨⟨database, table⟩, hlocated, h⟩ := Except.bind_eq_ok_iff.1 h
    obtain ⟨⟨moduleName, moduleUrl⟩, hmodule, h⟩ := Except.bind_eq_ok_iff.1 h
    obtain ⟨⟨surface, keys⟩, hcolumns, h⟩ := Except.bind_eq_ok_iff.1 h
    obtain ⟨_, hchecked, h⟩ := Except.bind_eq_ok_iff.1 h
    obtain ⟨joins, hjoins, h⟩ := Except.bind_eq_ok_iff.1 h
    cases h
    exact ⟨database, rfl, refuse_eq_ok_iff.1 hlocated, refuse_eq_ok_iff.1 hmodule,
      refuse_eq_ok_iff.1 hcolumns, rfl, EffectivePolicy.check_eq_ok_iff.1 hchecked, hjoins⟩
  · rintro ⟨database, rfl, hlocated, hmodule, hcolumns, hpolicy, hchecked, hjoins⟩
    refine Except.bind_eq_ok_iff.2 ⟨_, refuse_eq_ok_iff.2 hlocated, ?_⟩
    refine Except.bind_eq_ok_iff.2 ⟨_, refuse_eq_ok_iff.2 hmodule, ?_⟩
    refine Except.bind_eq_ok_iff.2 ⟨_, refuse_eq_ok_iff.2 hcolumns, ?_⟩
    dsimp only
    rw [hpolicy]
    refine Except.bind_eq_ok_iff.2 ⟨_, EffectivePolicy.check_eq_ok_iff.2 hchecked, ?_⟩
    exact Except.bind_eq_ok_iff.2 ⟨_, hjoins, rfl⟩

/-! ## Parts of a plan -/

theorem moduleOf_eq_ok_iff {name url : String} :
    endpoint.moduleOf database table = .ok (name, url) ↔
      name = pick endpoint.moduleName table.moduleName database.name ∧
        url = pick endpoint.moduleUrl table.moduleUrl database.name ∧
        isModuleName name = true ∧ isModuleUrl url = true := by
  rw [moduleOf]
  by_cases hname : isModuleName (pick endpoint.moduleName table.moduleName database.name) = true
  · by_cases hurl : isModuleUrl (pick endpoint.moduleUrl table.moduleUrl database.name) = true
    · simp only [hname, hurl, Bool.not_true, Bool.false_eq_true, if_false, Except.ok.injEq,
        Prod.mk.injEq]
      constructor
      · rintro ⟨rfl, rfl⟩
        exact ⟨rfl, rfl, hname, hurl⟩
      · rintro ⟨rfl, rfl, -, -⟩
        exact ⟨rfl, rfl⟩
    · simp only [hname, hurl, Bool.not_true, Bool.false_eq_true, if_false, Bool.not_false, if_true,
        reduceCtorEq, false_iff]
      rintro ⟨-, rfl, -, hvalid⟩
      exact hurl hvalid
  · simp only [hname, Bool.not_false, if_true, reduceCtorEq, false_iff]
    rintro ⟨rfl, -, hvalid, -⟩
    exact hname hvalid

theorem columnsOf_eq_ok_iff {surface keys : List Column} :
    endpoint.columnsOf table = .ok (surface, keys) ↔
      endpoint.selectKeys table = .ok keys ∧ endpoint.selectSurface table keys = .ok surface ∧
        endpoint.lack? surface keys = none := by
  constructor
  · intro h
    obtain ⟨chosen, hkeys, h⟩ := Except.bind_eq_ok_iff.1 h
    obtain ⟨shown, hsurface, h⟩ := Except.bind_eq_ok_iff.1 h
    split at h
    · cases h
    · next hlack =>
        cases h
        exact ⟨hkeys, hsurface, hlack⟩
  · rintro ⟨hkeys, hsurface, hlack⟩
    refine Except.bind_eq_ok_iff.2 ⟨keys, hkeys, Except.bind_eq_ok_iff.2 ⟨surface, hsurface, ?_⟩⟩
    rw [hlack]

theorem eligible_sublist (endpoint : Endpoint) (table : Table) (keys : List Column) :
    (endpoint.eligible table keys).Sublist (table.columnsFor endpoint.verb) := by
  rw [eligible]
  split
  · exact List.filter_sublist
  · exact .refl _

theorem selectSurface_sublist_eligible {keys surface : List Column}
    (h : endpoint.selectSurface table keys = .ok surface) :
    surface.Sublist (endpoint.eligible table keys) := by
  rw [selectSurface] at h
  split at h
  · cases h
    exact .refl _
  · split at h
    · cases h
    · split at h
      · cases h
      · cases h
        exact List.filter_sublist

theorem selectSurface_sublist {keys surface : List Column}
    (h : endpoint.selectSurface table keys = .ok surface) :
    surface.Sublist (table.columnsFor endpoint.verb) :=
  (selectSurface_sublist_eligible h).trans (endpoint.eligible_sublist table keys)

theorem selectKeys_sublist {keys : List Column} (h : endpoint.selectKeys table = .ok keys) :
    keys.Sublist table.primaryKey := by
  rw [selectKeys] at h
  split at h
  · cases h
    exact .refl _
  · split at h
    · cases h
    · cases h
      exact List.filter_sublist

theorem surface_ne_nil_of_lack? {surface keys : List Column}
    (h : endpoint.lack? surface keys = none) : surface ≠ [] := by
  rintro rfl
  rw [lack?] at h
  split at h
  · cases keys <;> cases h
  · cases h
  · cases h
  · cases h

namespace Planned

variable {plan : Plan}

theorem table?_eq (h : endpoint.Planned schema database plan) :
    database.table? endpoint.table = some plan.table :=
  (locate_eq_ok_iff.1 h.located).2.2.2

theorem consistent (h : endpoint.Planned schema database plan) : plan.table.Consistent := by
  have hdatabase := Schema.mem_of_database? (locate_eq_ok_iff.1 h.located).2.2.1
  exact (schema.consistent.databases database hdatabase).tables _
    (Database.mem_of_table? h.table?_eq)

theorem surface_sublist (h : endpoint.Planned schema database plan) :
    plan.surface.Sublist (plan.table.columnsFor endpoint.verb) :=
  selectSurface_sublist (columnsOf_eq_ok_iff.1 h.columns_eq).2.1

theorem surface_ne_nil (h : endpoint.Planned schema database plan) : plan.surface ≠ [] :=
  surface_ne_nil_of_lack? (columnsOf_eq_ok_iff.1 h.columns_eq).2.2

theorem keys_sublist (h : endpoint.Planned schema database plan) :
    plan.keys.Sublist plan.table.primaryKey :=
  selectKeys_sublist (columnsOf_eq_ok_iff.1 h.columns_eq).1

theorem keys_ne_nil (h : endpoint.Planned schema database plan) (hverb : endpoint.verb = .put) :
    plan.keys ≠ [] := by
  have hlack := (columnsOf_eq_ok_iff.1 h.columns_eq).2.2
  intro hempty
  rw [lack?, hverb, hempty] at hlack
  cases hlack

theorem primary_eq_false (h : endpoint.Planned schema database plan)
    (hverb : endpoint.verb = .put) {column : Column} (hcolumn : column ∈ plan.surface) :
    column.primary = false := by
  have hoffered := (List.mem_filter.1 (h.surface_sublist.subset hcolumn)).2
  rw [hverb, Table.offers, Bool.and_eq_true] at hoffered
  simpa using hoffered.2

/-- The keys that bear the names of the columns to delete by are these columns, as no two columns
of a table share a name. -/
theorem mem_keys (h : endpoint.Planned schema database plan) (hverb : endpoint.verb = .delete)
    {column : Column} (hcolumn : column ∈ plan.surface) : column ∈ plan.keys := by
  have heligible := (selectSurface_sublist_eligible
    (columnsOf_eq_ok_iff.1 h.columns_eq).2.1).subset hcolumn
  rw [eligible, if_pos hverb, List.mem_filter, List.any_eq_true] at heligible
  obtain ⟨hoffered, key, hkey, hname⟩ := heligible
  have hdeclared : key ∈ plan.table.columns :=
    List.filter_sublist.subset (h.keys_sublist.subset hkey)
  have hsame : key = column :=
    List.inj_on_of_nodup_map h.consistent.nodup_columns hdeclared (List.mem_filter.1 hoffered).1
      (eq_of_beq hname)
  rw [← hsame]
  exact hkey

theorem nodup_surface (h : endpoint.Planned schema database plan) :
    (plan.surface.map Column.name).Nodup := by
  have hsublist : plan.surface.Sublist plan.table.columns :=
    h.surface_sublist.trans List.filter_sublist
  exact h.consistent.nodup_columns.sublist (hsublist.map Column.name)

theorem joins_eq_map (h : endpoint.Planned schema database plan)
    (hverb : endpoint.verb ≠ .delete) : plan.joins = plan.table.foreignKeys.map Join.ofKey := by
  have hjoins := h.joins_eq
  rw [joinsOn, if_neg hverb] at hjoins
  exact (Table.joins_eq_ok_iff.1 hjoins).2.symm

theorem activeJoins_eq (h : endpoint.Planned schema database plan)
    (hverb : endpoint.verb ≠ .delete) :
    plan.activeJoins =
      if endpoint.join then plan.table.foreignKeys.map Join.ofKey else [] := by
  rw [Plan.activeJoins, h.endpoint_eq, h.joins_eq_map hverb]

end Planned

end Endpoint

/-! ## Invoices -/

/-- Invoices that refer to their customer and to the staff who wrote them. -/
def Table.invoices : Table where
  name := "invoices"
  columns :=
    [{ name := "id", type := "int" }, { name := "customer_id", type := "int" },
      { name := "staff_id", type := "int" }]
  foreignKeys :=
    [{ column := "customer_id", referencedTable := "customers", referencedColumn := "id"
       labelColumn := some "name" },
     { column := "staff_id", referencedTable := "staff", referencedColumn := "id" }]

def Schema.ofInvoices : Schema where
  databases :=
    [{ name := "crm"
       tables :=
        [{ name := "customers"
           columns := [{ name := "id", type := "int" }, { name := "name", type := "text" }] },
         { name := "staff", columns := [{ name := "id", type := "int" }] },
         .invoices] }]
  consistent := Schema.consistent_iff.2 rfl

end Scaffold
