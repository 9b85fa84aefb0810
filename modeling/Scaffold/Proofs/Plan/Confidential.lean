import Scaffold.Proofs.Plan.Aliases
import Scaffold.Schema.Labels

/-!
# What a read gives away

The columns of its own table that a read returns are exposed to reads and hold no password hashes.
A join asks for neither: it returns what its foreign key refers to, wherever the key starts and
whatever the column read holds.
-/

namespace Scaffold

/-! ## Columns by their names -/

theorem Table.Consistent.eq_of_name_eq {table : Table} (h : table.Consistent)
    {column other : Column} (hcolumn : column ∈ table.columns) (hother : other ∈ table.columns)
    (hname : column.name = other.name) : column = other :=
  List.inj_on_of_nodup_map h.nodup_columns hcolumn hother hname

theorem Table.Consistent.column?_name {table : Table} (h : table.Consistent) {column : Column}
    (hcolumn : column ∈ table.columns) : table.column? column.name = some column := by
  have hfound : (table.column? column.name).isSome = true :=
    Table.hasColumn_iff.2 (List.mem_map_of_mem hcolumn)
  obtain ⟨found, hfound⟩ := Option.isSome_iff_exists.1 hfound
  rw [hfound,
    h.eq_of_name_eq (Table.mem_of_column? hfound) hcolumn (Table.name_of_column? hfound)]

/-- Whether a database has a table of a name with a column of a name that holds password hashes. -/
def Database.hashes (database : Database) (table column : String) : Bool :=
  ((database.table? table).bind fun table => table.column? column).any fun column =>
    column.treatment = some .passwordHash

theorem Table.offers_get_iff {column : Column} :
    Table.offers .get column = true ↔
      column.exposure.get = true ∧ column.treatment ≠ some .passwordHash := by
  simp [offers, Column.isExposed, Exposure.allows]

/-! ## Results of reads -/

namespace Endpoint.Planned

variable {endpoint : Endpoint} {schema : Schema} {database : Database} {plan : Plan}

/-- A read returns the columns it works on and, with joins, what the foreign keys refer to. -/
theorem mem_outputs_iff (h : endpoint.Planned schema database plan) (hverb : endpoint.verb = .get)
    {output : Output} :
    output ∈ plan.statement.outputs ↔
      (∃ column ∈ plan.surface, ⟨plan.table.name, column.name, column.name⟩ = output) ∨
        endpoint.join = true ∧ ∃ key ∈ plan.table.foreignKeys, ∃ read ∈ key.reads,
          ⟨key.referencedTable, read, key.column ++ "_" ++ read⟩ = output := by
  have hjoins := h.activeJoins_eq (by rw [hverb]; decide)
  rw [Plan.statement, h.endpoint_eq, hverb]
  dsimp only
  rw [Statement.outputs, hjoins, List.mem_append, List.map_map, List.mem_map, List.mem_flatMap]
  cases endpoint.join with
  | true => simp [ForeignKey.outputs_ofKey]
  | false => simp

theorem hashes_eq_false_of_mem_surface (h : endpoint.Planned schema database plan)
    (hverb : endpoint.verb = .get) {column : Column} (hcolumn : column ∈ plan.surface) :
    database.hashes plan.table.name column.name = false := by
  obtain ⟨hdeclared, hoffered⟩ := List.mem_filter.1 (h.surface_sublist.subset hcolumn)
  rw [hverb, Table.offers_get_iff] at hoffered
  have htable : database.table? plan.table.name = some plan.table := by
    rw [Database.name_of_table? h.table?_eq, h.table?_eq]
  rw [Database.hashes, htable, Option.bind_some, h.consistent.column?_name hdeclared]
  exact decide_eq_false hoffered.2

theorem exists_source (h : endpoint.Planned schema database plan) {key : ForeignKey}
    (hkey : key ∈ plan.table.foreignKeys) :
    ∃ column ∈ plan.table.columns, column.name = key.column :=
  List.mem_map.1 (h.consistent.sources key hkey)

/-- The source of a foreign key is offered to reads if it is exposed to them and no hash. -/
theorem offers_source_iff (h : endpoint.Planned schema database plan) {key : ForeignKey}
    (hkey : key ∈ plan.table.foreignKeys) :
    (∃ column ∈ plan.table.columnsFor .get, column.name = key.column) ↔
      ∀ column ∈ plan.table.columns, column.name = key.column →
        column.exposure.get = true ∧ column.treatment ≠ some .passwordHash := by
  constructor
  · rintro ⟨shown, hshown, hname⟩ column hcolumn hcolumnName
    obtain ⟨hdeclared, hoffered⟩ := List.mem_filter.1 hshown
    have hsame : shown = column :=
      h.consistent.eq_of_name_eq hdeclared hcolumn (hname.trans hcolumnName.symm)
    rw [← hsame]
    exact Table.offers_get_iff.1 hoffered
  · intro hall
    obtain ⟨column, hcolumn, hname⟩ := h.exists_source hkey
    have hoffered := Table.offers_get_iff.2 (hall column hcolumn hname)
    exact ⟨column, List.mem_filter.2 ⟨hcolumn, hoffered⟩, hname⟩

end Endpoint.Planned

/-! ## Password hashes -/

/-- A read returns password hashes exactly if it makes joins and one of its foreign keys refers to
a column of hashes, or shows one as its label. -/
theorem read_returns_hash_iff {schema : Schema} {endpoint : Endpoint} {plan : Plan}
    (hplan : endpoint.plan schema = .ok plan) (hverb : endpoint.verb = .get) :
    ∃ database, schema.database? endpoint.database = some database ∧
      (∀ column ∈ plan.surface, database.hashes plan.table.name column.name = false) ∧
      ((∃ output ∈ plan.statement.outputs, database.hashes output.table output.column = true) ↔
        endpoint.join = true ∧ ∃ key ∈ plan.table.foreignKeys, ∃ read ∈ key.reads,
          database.hashes key.referencedTable read = true) := by
  obtain ⟨database, h⟩ := Endpoint.plan_eq_ok_iff.1 hplan
  refine ⟨database, (Endpoint.locate_eq_ok_iff.1 h.located).2.2.1,
    fun _ => h.hashes_eq_false_of_mem_surface hverb, ?_⟩
  constructor
  · rintro ⟨output, houtput, hhash⟩
    rcases (h.mem_outputs_iff hverb).1 houtput with ⟨column, hcolumn, rfl⟩ | hjoined
    · rw [h.hashes_eq_false_of_mem_surface hverb hcolumn] at hhash
      cases hhash
    · obtain ⟨hjoin, key, hkey, read, hread, rfl⟩ := hjoined
      exact ⟨hjoin, key, hkey, read, hread, hhash⟩
  · rintro ⟨hjoin, key, hkey, read, hread, hhash⟩
    exact ⟨_, (h.mem_outputs_iff hverb).2 (.inr ⟨hjoin, key, hkey, read, hread, rfl⟩), hhash⟩

theorem invoices_return_no_hash :
    let endpoint := { Endpoint.ofTable .mysql "crm" "invoices" .get with join := true }
    ∃ plan, endpoint.plan .ofInvoices = .ok plan ∧ ∃ database,
      Schema.ofInvoices.database? "crm" = some database ∧
        ¬ ∃ output ∈ plan.statement.outputs,
          database.hashes output.table output.column = true := by
  refine ⟨_, rfl, ?_⟩
  obtain ⟨database, hdatabase, -, hreturns⟩ := @read_returns_hash_iff .ofInvoices
    { Endpoint.ofTable .mysql "crm" "invoices" .get with join := true } _ rfl rfl
  refine ⟨database, hdatabase, fun hhash => ?_⟩
  cases hdatabase
  exact absurd (hreturns.1 hhash).2 (by decide)

/-- A database in which the label of a foreign key is chosen: the first text column of the table
that it refers to, which holds password hashes. -/
def Schema.ofChosenLabel : Schema where
  databases :=
    [Database.inferLabels
      { name := "crm"
        tables :=
          [{ name := "customers"
             columns :=
              [{ name := "id", type := "int", primary := true },
                { name := "password", type := "text", treatment := some .passwordHash }] },
           { name := "invoices"
             columns := [{ name := "id", type := "int" }, { name := "customer_id", type := "int" }]
             foreignKeys :=
              [{ column := "customer_id", referencedTable := "customers",
                 referencedColumn := "id" }] }] }]
  consistent := Schema.consistent_iff.2 rfl

theorem chosen_label_returns_hash :
    let endpoint := { Endpoint.ofTable .mysql "crm" "invoices" .get with join := true }
    (∃ generated, (runOn (Generator.generate ⟨.ofChosenLabel, .builtin, {}⟩ Shelf.store endpoint)
      .empty).1 = .ok generated) ∧
    ∃ plan database, endpoint.plan .ofChosenLabel = .ok plan ∧
      Schema.ofChosenLabel.database? "crm" = some database ∧
      ⟨"customers", "password", "customer_id_password"⟩ ∈ plan.statement.outputs ∧
      database.hashes "customers" "password" = true :=
  ⟨Generator.exists_generated rfl {}, _, _, rfl, rfl, by decide, by decide⟩

/-! ## Hidden columns -/

/-- A read with joins makes one for every foreign key.  All of them start at columns that it may
show exactly if no key starts at a hidden one. -/
theorem joins_start_shown_iff {schema : Schema} {endpoint : Endpoint} {plan : Plan}
    (hplan : endpoint.plan schema = .ok plan) (hverb : endpoint.verb = .get) :
    plan.activeJoins = (if endpoint.join then plan.table.foreignKeys.map Join.ofKey else []) ∧
    (∀ key ∈ plan.table.foreignKeys, ∃ column ∈ plan.table.columns, column.name = key.column) ∧
    ((∀ join ∈ plan.activeJoins,
        ∃ column ∈ plan.table.columnsFor .get, column.name = join.column) ↔
      (endpoint.join = true → ∀ key ∈ plan.table.foreignKeys, ∀ column ∈ plan.table.columns,
        column.name = key.column →
          column.exposure.get = true ∧ column.treatment ≠ some .passwordHash)) := by
  obtain ⟨database, h⟩ := Endpoint.plan_eq_ok_iff.1 hplan
  have hjoins := h.activeJoins_eq (by rw [hverb]; decide)
  refine ⟨hjoins, fun _ => h.exists_source, ?_⟩
  rw [hjoins]
  cases endpoint.join with
  | false => simp
  | true =>
      rw [if_pos rfl, List.forall_mem_map]
      constructor
      · intro hshown _ key hkey
        exact (h.offers_source_iff hkey).1 (hshown key hkey)
      · intro hall key hkey
        exact (h.offers_source_iff hkey).2 (hall rfl key hkey)

theorem joins_of_invoices_start_shown :
    let endpoint := { Endpoint.ofTable .mysql "crm" "invoices" .get with join := true }
    ∃ plan, endpoint.plan .ofInvoices = .ok plan ∧ ∀ join ∈ plan.activeJoins,
      ∃ column ∈ plan.table.columnsFor .get, column.name = join.column := by
  refine ⟨_, rfl, ?_⟩
  have hjoins := (@joins_start_shown_iff .ofInvoices
    { Endpoint.ofTable .mysql "crm" "invoices" .get with join := true } _ rfl rfl).2.2
  exact hjoins.2 (by decide)

/-- Invoices that hide their customer from reads. -/
def Schema.ofHiddenKey : Schema where
  databases :=
    [{ name := "crm"
       tables :=
        [{ name := "customers", columns := [{ name := "id", type := "int" }] },
         { name := "invoices"
           columns :=
            [{ name := "id", type := "int" },
              { name := "customer_id", type := "int"
                exposure := { get := false } }]
           foreignKeys :=
            [{ column := "customer_id", referencedTable := "customers",
               referencedColumn := "id" }] }] }]
  consistent := Schema.consistent_iff.2 rfl

theorem hidden_key_is_joined :
    let endpoint := { Endpoint.ofTable .mysql "crm" "invoices" .get with join := true }
    (∃ generated, (runOn (Generator.generate ⟨.ofHiddenKey, .builtin, {}⟩ Shelf.store endpoint)
      .empty).1 = .ok generated) ∧
    ∃ plan, endpoint.plan .ofHiddenKey = .ok plan ∧
      plan.activeJoins.map Join.column = ["customer_id"] ∧
      (plan.table.columnsFor .get).map Column.name = ["id"] ∧
      ⟨"customers", "id", "customer_id_id"⟩ ∈ plan.statement.outputs ∧
      ¬ ∀ join ∈ plan.activeJoins,
        ∃ column ∈ plan.table.columnsFor .get, column.name = join.column :=
  ⟨Generator.exists_generated rfl {}, _, rfl, by decide, by decide, by decide, by decide⟩

end Scaffold
