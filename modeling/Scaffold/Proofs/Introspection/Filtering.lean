import Scaffold.Introspection.Server
import Scaffold.Proofs.Outcome

/-!
# Filtering before the questions

A server that is asked about the kept tables only shows what it shows of them when it is asked about
all.  Only labels tell the difference: a foreign key whose table was never asked about has none.
-/

namespace Scaffold

/-! ## Foreign keys of a database -/

namespace Database

/-- The database with every foreign key changed. -/
def mapKeys (change : ForeignKey → ForeignKey) (database : Database) : Database :=
  { database with
    tables := database.tables.map fun table =>
      { table with foreignKeys := table.foreignKeys.map change } }

theorem mapKeys_mapKeys (change further : ForeignKey → ForeignKey) (database : Database) :
    (database.mapKeys change).mapKeys further = database.mapKeys (further ∘ change) := by
  simp only [mapKeys, List.map_map, Function.comp_def]

theorem mapKeys_congr {change other : ForeignKey → ForeignKey} {database : Database}
    (h : ∀ table ∈ database.tables, ∀ key ∈ table.foreignKeys, change key = other key) :
    database.mapKeys change = database.mapKeys other := by
  have htables : ∀ table ∈ database.tables,
      { table with foreignKeys := table.foreignKeys.map change } =
        { table with foreignKeys := table.foreignKeys.map other } := by
    intro table htable
    rw [List.map_congr_left (h table htable)]
  rw [mapKeys, mapKeys, List.map_congr_left htables]

theorem inferLabels_eq_mapKeys (database : Database) :
    database.inferLabels = database.mapKeys database.inferLabel := rfl

/-- No label has been given or chosen. -/
def HasNoLabels (database : Database) : Prop :=
  ∀ table ∈ database.tables, ∀ key ∈ table.foreignKeys, key.labelColumn = none

end Database

namespace TableFilter

theorem apply_mapKeys (filter : TableFilter) (change : ForeignKey → ForeignKey)
    (database : Database) :
    filter.apply (database.mapKeys change) = (filter.apply database).mapKeys change := by
  simp only [apply, Database.mapKeys, List.filter_map, Function.comp_def]

/-- Of two tables with one name a filter keeps both or none, so the first one stays the first. -/
theorem table?_apply (filter : TableFilter) (database : Database) (name : String) :
    (filter.apply database).table? name =
      if filter.keeps name then database.table? name else none := by
  rw [apply, Database.table?, Database.table?, List.find?_filter]
  split
  · next hkeeps =>
      congr 1
      funext table
      by_cases hname : table.name = name
      · simp [hname, hkeeps]
      · simp [hname]
  · next hkeeps =>
      rw [List.find?_eq_none]
      intro table _ hfound
      simp only [beq_iff_eq, decide_eq_true_eq] at hfound
      rw [hfound.2] at hfound
      exact hkeeps hfound.1

/-- A foreign key as it stands where only the kept tables are known. -/
def unlabel (filter : TableFilter) (key : ForeignKey) : ForeignKey :=
  if filter.keeps key.referencedTable then key else { key with labelColumn := none }

theorem inferLabel_apply (filter : TableFilter) (database : Database) {key : ForeignKey}
    (hlabel : key.labelColumn = none) :
    (filter.apply database).inferLabel key = filter.unlabel (database.inferLabel key) := by
  rw [Database.inferLabel, table?_apply, hlabel, unlabel]
  have hreferenced : (database.inferLabel key).referencedTable = key.referencedTable := rfl
  rw [hreferenced]
  split
  · rw [Database.inferLabel, hlabel]
  · rfl

theorem inferLabels_apply (filter : TableFilter) {database : Database}
    (h : database.HasNoLabels) :
    (filter.apply database).inferLabels =
      (filter.apply database.inferLabels).mapKeys filter.unlabel := by
  rw [Database.inferLabels_eq_mapKeys, Database.inferLabels_eq_mapKeys, apply_mapKeys,
    Database.mapKeys_mapKeys]
  refine Database.mapKeys_congr fun table htable key hkey => ?_
  exact inferLabel_apply filter database (h table (List.mem_filter.1 htable).1 key hkey)

end TableFilter

/-! ## What a server shows -/

namespace Introspection

/-- A server tells all that there is in a table. -/
def Tells (server : Server) (schema : String) (enums : List String) (name : String)
    (table : Table) : Prop :=
  ∃ primary rows keys, server.primaryKey name schema = .ok primary ∧
    server.columns name schema = .ok rows ∧ server.foreignKeys name schema = .ok keys ∧
    { name
      columns := rows.map fun row => columnOf row (primary.contains row.name) enums
      foreignKeys := keys.map keyOf : Table } = table

variable {server : Server} {schema : String} {enums : List String}

theorem Tells.name_eq {name : String} {table : Table} (h : Tells server schema enums name table) :
    table.name = name := by
  obtain ⟨_, _, _, -, -, -, rfl⟩ := h
  rfl

theorem Tells.labelColumn_eq_none {name : String} {table : Table}
    (h : Tells server schema enums name table) {key : ForeignKey} (hkey : key ∈ table.foreignKeys) :
    key.labelColumn = none := by
  obtain ⟨_, _, _, -, -, -, rfl⟩ := h
  obtain ⟨row, -, rfl⟩ := List.mem_map.1 hkey
  rfl

@[simp] theorem runOn_ask {α : Type} {query : Query} {answer : Except String α}
    {asked : List Query} :
    runOn (ask schema query answer) asked =
      (answer.mapError fun reason => .introspection schema (.refused query reason),
        asked ++ [query]) := by
  cases answer <;> rfl

@[simp] theorem mapError_eq_ok_iff {ε δ α : Type} {outcome : Except ε α} {f : ε → δ} {a : α} :
    outcome.mapError f = .ok a ↔ outcome = .ok a := by
  cases outcome <;> simp [Except.mapError]

theorem tableOf_eq_ok_iff {name : String} {table : Table} {asked : List Query} :
    (runOn (tableOf server schema enums name) asked).1 = .ok table ↔
      Tells server schema enums name table := by
  simp only [tableOf, runOn_bind_eq_ok_iff, runOn_ask, mapError_eq_ok_iff, runOn_pure,
    Except.ok.injEq, Tells]
  constructor
  · rintro ⟨primary, hprimary, rows, hrows, keys, hkeys, rfl⟩
    exact ⟨primary, rows, keys, hprimary, hrows, hkeys, rfl⟩
  · rintro ⟨primary, rows, keys, hprimary, hrows, hkeys, rfl⟩
    exact ⟨primary, hprimary, rows, hrows, keys, hkeys, rfl⟩

theorem tablesOf_eq_ok_iff {names : List String} {tables : List Table} {asked : List Query} :
    (runOn (tablesOf server schema enums names) asked).1 = .ok tables ↔
      List.Forall₂ (Tells server schema enums) names tables := by
  induction names generalizing tables asked with
  | nil => simp [tablesOf, eq_comm]
  | cons name names ih =>
      simp only [tablesOf, runOn_bind_eq_ok_iff, tableOf_eq_ok_iff, ih, runOn_pure,
        Except.ok.injEq, List.forall₂_cons_left_iff]
      constructor
      · rintro ⟨table, htable, tables, htables, rfl⟩
        exact ⟨table, tables, htable, htables, rfl⟩
      · rintro ⟨table, tables, htable, htables, rfl⟩
        exact ⟨table, htable, tables, htables, rfl⟩

/-- A server shows a database, before labels are chosen, to those who ask about some tables. -/
structure Shows (server : Server) (schema : String) (keeps : String → Bool) (database : Database) :
    Prop where
  name_eq : single server.database = .ok database.name
  tables : ∃ enums names, server.enums schema = .ok enums ∧ server.tables schema = .ok names ∧
    List.Forall₂ (Tells server schema enums) (names.filter keeps) database.tables

theorem databaseOf_eq_ok_iff {filter : TableFilter} {database : Database} {asked : List Query} :
    (runOn (databaseOf server schema filter) asked).1 = .ok database ↔
      ∃ shown, Shows server schema filter.keeps shown ∧ shown.inferLabels = database := by
  simp only [databaseOf, runOn_bind_eq_ok_iff, runOn_ask, mapError_eq_ok_iff, tablesOf_eq_ok_iff,
    runOn_pure, Except.ok.injEq]
  constructor
  · rintro ⟨name, hname, enums, henums, names, hnames, tables, htables, rfl⟩
    exact ⟨⟨name, tables⟩, ⟨hname, enums, names, henums, hnames, htables⟩, rfl⟩
  · rintro ⟨⟨name, tables⟩, ⟨hname, enums, names, henums, hnames, htables⟩, rfl⟩
    exact ⟨name, hname, enums, henums, names, hnames, tables, htables, rfl⟩

/-! ## Shown databases -/

theorem Shows.hasNoLabels {keeps : String → Bool} {database : Database}
    (h : Shows server schema keeps database) : database.HasNoLabels := by
  obtain ⟨enums, names, -, -, htables⟩ := h.tables
  have hboth : List.Forall₂ (fun table name =>
      (∀ key ∈ table.foreignKeys, key.labelColumn = none) ∧ Tells server schema enums name table)
      database.tables (names.filter keeps) :=
    htables.flip.imp fun _ _ htells => ⟨fun _ hkey => Tells.labelColumn_eq_none htells hkey, htells⟩
  exact ((List.forall₂_and_left _ _).1 hboth).1

theorem Shows.apply {nothing : TableFilter} (hnothing : nothing.isEmpty) {database : Database}
    (h : Shows server schema nothing.keeps database) (filter : TableFilter) :
    Shows server schema filter.keeps (filter.apply database) := by
  obtain ⟨hname, enums, names, henums, hnames, htables⟩ := h
  have hall : names.filter nothing.keeps = names :=
    List.filter_eq_self.2 fun name _ => TableFilter.keeps_of_isEmpty hnothing name
  rw [hall] at htables
  refine ⟨hname, enums, names, henums, hnames, List.rel_filter ?_ htables⟩
  intro name table htells
  dsimp only
  rw [htells.name_eq]

/-- A server that can be asked about all its tables can be asked about those that a filter keeps.
They come in the same order and with the same columns and foreign keys as if the others had been
left out afterwards, except that no label is chosen from a table that is not kept. -/
theorem databaseOf_filter {nothing : TableFilter} (hnothing : nothing.isEmpty)
    {database : Database} {asked : List Query}
    (h : (runOn (databaseOf server schema nothing) asked).1 = .ok database)
    (filter : TableFilter) (before : List Query) :
    (runOn (databaseOf server schema filter) before).1 =
      .ok ((filter.apply database).mapKeys filter.unlabel) := by
  obtain ⟨shown, hshown, rfl⟩ := databaseOf_eq_ok_iff.1 h
  rw [databaseOf_eq_ok_iff]
  exact ⟨filter.apply shown, hshown.apply hnothing filter,
    filter.inferLabels_apply hshown.hasNoLabels⟩

/-- A server that knows of invoices, of the customers they go to and of the staff who write them. -/
def shop : Server where
  database := .ok ["crm"]
  enums _ := .ok []
  tables _ := .ok ["customers", "invoices", "staff"]
  primaryKey _ _ := .ok ["id"]
  columns name _ := .ok <|
    if name = "invoices" then
      [⟨"id", "int", false, none, true⟩, ⟨"customer_id", "int", false, none, false⟩,
        ⟨"staff_id", "int", true, none, false⟩]
    else [⟨"id", "int", false, none, true⟩, ⟨"name", "text", false, none, false⟩]
  foreignKeys name _ := .ok <|
    if name = "invoices" then
      [{ column := "customer_id", referencedTable := "customers", referencedColumn := "id" },
        { column := "staff_id", referencedTable := "staff", referencedColumn := "id" }]
    else []

/-- The labels of the foreign keys of each table. -/
def labelsOf (database : Database) : List (String × List (Option String)) :=
  database.tables.map fun table => (table.name, table.foreignKeys.map ForeignKey.labelColumn)

theorem shop_without_staff :
    let filter : TableFilter := { without := some ["staff"] }
    ∃ database kept, (runOn (databaseOf shop "public" {}) []).1 = .ok database ∧
      (runOn (databaseOf shop "public" filter) []).1 = .ok kept ∧
      labelsOf database =
        [("customers", []), ("invoices", [some "name", some "name"]), ("staff", [])] ∧
      labelsOf kept = [("customers", []), ("invoices", [some "name", none])] := by
  intro filter
  have hlabels : ((runOn (databaseOf shop "public" {}) []).1.toOption.map fun database =>
      (labelsOf database, labelsOf ((filter.apply database).mapKeys filter.unlabel))) =
        some ([("customers", []), ("invoices", [some "name", some "name"]), ("staff", [])],
          [("customers", []), ("invoices", [some "name", none])]) := by
    decide +kernel
  obtain ⟨database, hdatabase, hlabels⟩ := exists_of_map_toOption_eq_some hlabels
  obtain ⟨hall, hkept⟩ := Prod.mk.inj hlabels
  exact ⟨database, _, hdatabase, databaseOf_filter rfl hdatabase filter [], hall, hkept⟩

end Introspection

end Scaffold
