import Scaffold.Proofs.Plan.Success
import Scaffold.Schema.Labels
import Scaffold.Schema.Snapshot

/-!
# What a snapshot is refused for

A snapshot that is not consistent is refused for the first thing that is wrong: all that stands in
front of it is consistent.  Leaving tables out never makes a consistent snapshot inconsistent.
-/

namespace Scaffold

/-! ## The first failure of a list -/

/-- The first failure among elements, given the names of those before them: a name that is there
already, or what is wrong with the element itself. -/
def firstFailure {α β : Type} (name : α → String) (repeated : α → β) (own : α → Option β)
    (seen : List String) : List α → Option β
  | [] => none
  | a :: as =>
      if seen.contains (name a) then some (repeated a)
      else match own a with
        | some failure => some failure
        | none => firstFailure name repeated own (name a :: seen) as

section FirstFailure

variable {α β : Type} {name : α → String} {repeated : α → β} {own : α → Option β}
  {seen : List String} {failure : β}

theorem firstFailure_append (before after : List α) :
    firstFailure name repeated own seen (before ++ after) =
      (firstFailure name repeated own seen before).or
        (firstFailure name repeated own ((before.map name).reverse ++ seen) after) := by
  induction before generalizing seen with
  | nil => rfl
  | cons a before ih =>
      rw [List.cons_append, firstFailure, firstFailure]
      by_cases hseen : seen.contains (name a) = true
      · rw [if_pos hseen, if_pos hseen, Option.some_or]
      · rw [if_neg hseen, if_neg hseen]
        cases own a with
        | some failure => rfl
        | none =>
            dsimp only
            rw [ih, List.map_cons, List.reverse_cons, List.append_assoc]
            rfl

/-- Where a list fails, nothing in front does. -/
theorem exists_of_firstFailure_eq_some {as : List α}
    (h : firstFailure name repeated own seen as = some failure) :
    ∃ before a after, as = before ++ a :: after ∧
      firstFailure name repeated own seen before = none ∧
      firstFailure name repeated own ((before.map name).reverse ++ seen) [a] = some failure := by
  induction as generalizing seen with
  | nil => cases h
  | cons a as ih =>
      cases hfirst : firstFailure name repeated own seen [a] with
      | some found =>
          rw [← List.singleton_append, firstFailure_append, hfirst, Option.some_or] at h
          exact ⟨[], a, as, rfl, rfl, hfirst.trans h⟩
      | none =>
          rw [← List.singleton_append, firstFailure_append, hfirst, Option.none_or] at h
          obtain ⟨before, b, after, rfl, hbefore, hb⟩ := ih h
          refine ⟨a :: before, b, after, rfl, ?_, ?_⟩
          · rw [← List.singleton_append, firstFailure_append, hfirst, Option.none_or]
            exact hbefore
          · rw [List.map_cons, List.reverse_cons, List.append_assoc]
            exact hb

theorem firstFailure_singleton_eq_some_iff {a : α} :
    firstFailure name repeated own seen [a] = some failure ↔
      name a ∈ seen ∧ repeated a = failure ∨ name a ∉ seen ∧ own a = some failure := by
  rw [firstFailure]
  by_cases hseen : name a ∈ seen
  · simp [hseen]
  · cases own a <;> simp [hseen, firstFailure]

/-- An element fails whose name occurs in front of it, or which is wrong itself. -/
theorem firstFailure_eq_some_iff {as : List α} :
    firstFailure name repeated own [] as = some failure ↔
      ∃ before a after, as = before ++ a :: after ∧
        firstFailure name repeated own [] before = none ∧
        (name a ∈ before.map name ∧ repeated a = failure ∨
          name a ∉ before.map name ∧ own a = some failure) := by
  have hnames : ∀ (before : List α) (a : α),
      (firstFailure name repeated own ((before.map name).reverse ++ []) [a] = some failure ↔
        name a ∈ before.map name ∧ repeated a = failure ∨
          name a ∉ before.map name ∧ own a = some failure) := by
    intro before a
    rw [firstFailure_singleton_eq_some_iff, List.append_nil, List.mem_reverse]
  constructor
  · intro h
    obtain ⟨before, a, after, has, hbefore, ha⟩ := exists_of_firstFailure_eq_some h
    exact ⟨before, a, after, has, hbefore, (hnames before a).1 ha⟩
  · rintro ⟨before, a, after, rfl, hbefore, ha⟩
    rw [firstFailure_append, hbefore, Option.none_or, ← List.singleton_append,
      firstFailure_append, (hnames before a).2 ha, Option.some_or]

end FirstFailure

theorem firstRepeated_eq_firstFailure {α : Type} (name : α → String) (seen : List String)
    (as : List α) : firstRepeated name seen as = firstFailure name id (fun _ => none) seen as := by
  induction as generalizing seen with
  | nil => rfl
  | cons a as ih =>
      rw [firstRepeated, firstFailure, ih]
      rfl

theorem firstRepeated_eq_some_iff {α : Type} {name : α → String} {as : List α} {a : α} :
    firstRepeated name [] as = some a ↔
      ∃ before after, as = before ++ a :: after ∧ (before.map name).Nodup ∧
        name a ∈ before.map name := by
  have hnodup : ∀ before : List α, firstFailure name id (fun _ => none) [] before = none ↔
      (before.map name).Nodup := by
    intro before
    rw [← firstRepeated_eq_firstFailure, firstRepeated_eq_none_iff]
    exact and_iff_left fun _ _ => List.not_mem_nil
  rw [firstRepeated_eq_firstFailure, firstFailure_eq_some_iff]
  simp only [hnodup, id_eq, reduceCtorEq, and_false, or_false]
  constructor
  · rintro ⟨before, _, after, has, hbefore, hname, rfl⟩
    exact ⟨before, after, has, hbefore, hname⟩
  · rintro ⟨before, after, has, hbefore, hname⟩
    exact ⟨before, a, after, has, hbefore, hname, rfl⟩

/-! ## Tables -/

namespace Table

/-- What a table is refused for. -/
inductive Refused (table : Table) : Problem → Prop
  | noColumns (h : table.columns = []) : table.Refused .noColumns
  | repeatedColumn {before after : List Column} {column : Column}
      (h : table.columns = before ++ column :: after) (hbefore : (before.map Column.name).Nodup)
      (hname : column.name ∈ before.map Column.name) :
      table.Refused (.repeatedColumn column.name)
  | missingKeyColumn {before after : List ForeignKey} {key : ForeignKey}
      (h : table.foreignKeys = before ++ key :: after)
      (hbefore : ({ table with foreignKeys := before } : Table).Consistent)
      (hkey : key.column ∉ table.columns.map Column.name) :
      table.Refused (.missingKeyColumn key.column)

theorem problem?_eq_some_iff {table : Table} {problem : Problem} :
    table.problem? = some problem ↔ table.Refused problem := by
  constructor
  · intro h
    rw [problem?] at h
    split at h
    · next hempty =>
        cases h
        exact .noColumns (List.isEmpty_iff.1 hempty)
    · next hne =>
        split at h
        · next column hrepeated =>
            cases h
            obtain ⟨before, after, hcolumns, hbefore, hname⟩ :=
              firstRepeated_eq_some_iff.1 hrepeated
            exact .repeatedColumn hcolumns hbefore hname
        · next hdistinct =>
            obtain ⟨key, hfound, rfl⟩ := Option.map_eq_some_iff.1 h
            obtain ⟨hkey, before, after, hkeys, hbefore⟩ := List.find?_eq_some_iff_append.1 hfound
            simp only [Bool.not_not, hasColumn_iff] at hbefore
            refine .missingKeyColumn hkeys ⟨?_, ?_, hbefore⟩ ?_
            · exact fun hnil => hne (List.isEmpty_iff.2 hnil)
            · exact (firstRepeated_eq_none_iff.1 hdistinct).1
            · rw [← hasColumn_iff]
              simpa using hkey
  · intro h
    rw [problem?]
    cases h with
    | noColumns hnil => rw [hnil]; rfl
    | repeatedColumn hcolumns hbefore hname =>
        have hne : table.columns.isEmpty = false := by rw [hcolumns]; simp
        rw [hne, firstRepeated_eq_some_iff.2 ⟨_, _, hcolumns, hbefore, hname⟩]
        rfl
    | @missingKeyColumn before after key hkeys hbefore hkey =>
        have hne : table.columns.isEmpty = false := by
          simpa using hbefore.columns_ne_nil
        have hdistinct : firstRepeated Column.name [] table.columns = none :=
          firstRepeated_eq_none_iff.2 ⟨hbefore.nodup_columns, fun _ _ => List.not_mem_nil⟩
        have hfound : (table.foreignKeys.find? fun key => !table.hasColumn key.column) =
            some key := by
          refine List.find?_eq_some_iff_append.2 ⟨?_, before, after, hkeys, ?_⟩
          · rw [← hasColumn_iff] at hkey
            simpa using hkey
          · simp only [Bool.not_not, hasColumn_iff]
            exact hbefore.sources
        rw [hne, hdistinct, hfound]
        rfl

end Table

/-! ## Databases -/

namespace Database

/-- What a database is refused for. -/
inductive Refused (database : Database) : Failure → Prop
  | repeatedTable {before after : List Table} {table : Table}
      (h : database.tables = before ++ table :: after)
      (hbefore : ({ database with tables := before } : Database).Consistent)
      (hname : table.name ∈ before.map Table.name) :
      database.Refused (.invalid (database.name ++ "." ++ table.name) .repeatedTable)
  | table {before after : List Table} {table : Table} {problem : Problem}
      (h : database.tables = before ++ table :: after)
      (hbefore : ({ database with tables := before } : Database).Consistent)
      (hname : table.name ∉ before.map Table.name) (hproblem : table.Refused problem) :
      database.Refused (.invalid (database.name ++ "." ++ table.name) problem)

theorem tableFailure?_eq_firstFailure (database : String) (seen : List String)
    (tables : List Table) :
    tableFailure? database seen tables =
      firstFailure Table.name (fun table => .invalid (database ++ "." ++ table.name) .repeatedTable)
        (fun table => table.problem?.map (.invalid (database ++ "." ++ table.name))) seen
        tables := by
  induction tables generalizing seen with
  | nil => rfl
  | cons table tables ih =>
      rw [tableFailure?, firstFailure, ih]
      cases table.problem? <;> rfl

theorem tableFailure?_eq_some_iff {database : Database} {failure : Failure} :
    tableFailure? database.name [] database.tables = some failure ↔ database.Refused failure := by
  have hconsistent : ∀ before : List Table, tableFailure? database.name [] before = none ↔
      ({ database with tables := before } : Database).Consistent :=
    fun before => (@consistent_iff { database with tables := before }).symm
  rw [tableFailure?_eq_firstFailure, firstFailure_eq_some_iff]
  simp only [← tableFailure?_eq_firstFailure, hconsistent, Option.map_eq_some_iff,
    Table.problem?_eq_some_iff]
  constructor
  · rintro ⟨before, table, after, htables, hbefore, ⟨hname, rfl⟩ | ⟨hname, problem, hproblem, rfl⟩⟩
    · exact .repeatedTable htables hbefore hname
    · exact .table htables hbefore hname hproblem
  · rintro (⟨htables, hbefore, hname⟩ | ⟨htables, hbefore, hname, hproblem⟩)
    · exact ⟨_, _, _, htables, hbefore, .inl ⟨hname, rfl⟩⟩
    · exact ⟨_, _, _, htables, hbefore, .inr ⟨hname, _, hproblem, rfl⟩⟩

theorem failure?_eq_firstFailure (seen : List String) (databases : List Database) :
    failure? seen databases =
      firstFailure Database.name (fun database => .invalid database.name .repeatedDatabase)
        (fun database => tableFailure? database.name [] database.tables) seen databases := by
  induction databases generalizing seen with
  | nil => rfl
  | cons database databases ih =>
      rw [failure?, firstFailure, ih]
      cases tableFailure? database.name [] database.tables <;> rfl

end Database

/-! ## Snapshots -/

/-- What a snapshot is refused for. -/
inductive Refused (databases : List Database) : Failure → Prop
  | repeatedDatabase {before after : List Database} {database : Database}
      (h : databases = before ++ database :: after) (hbefore : Consistent before)
      (hname : database.name ∈ before.map Database.name) :
      Refused databases (.invalid database.name .repeatedDatabase)
  | database {before after : List Database} {database : Database} {failure : Failure}
      (h : databases = before ++ database :: after) (hbefore : Consistent before)
      (hname : database.name ∉ before.map Database.name) (hfailure : database.Refused failure) :
      Refused databases failure

theorem Database.failure?_eq_some_iff {databases : List Database} {failure : Failure} :
    failure? [] databases = some failure ↔ Scaffold.Refused databases failure := by
  rw [failure?_eq_firstFailure, firstFailure_eq_some_iff]
  simp only [← failure?_eq_firstFailure, ← Schema.consistent_iff, tableFailure?_eq_some_iff]
  constructor
  · rintro ⟨before, database, after, hall, hbefore, ⟨hname, rfl⟩ | ⟨hname, hfailure⟩⟩
    · exact .repeatedDatabase hall hbefore hname
    · exact .database hall hbefore hname hfailure
  · rintro (⟨hall, hbefore, hname⟩ | ⟨hall, hbefore, hname, hfailure⟩)
    · exact ⟨_, _, _, hall, hbefore, .inl ⟨hname, rfl⟩⟩
    · exact ⟨_, _, _, hall, hbefore, .inr ⟨hname, hfailure⟩⟩

theorem Schema.ofDatabases_eq_error_iff {databases : List Database} {failure : Failure} :
    ofDatabases databases = .error failure ↔ Refused databases failure := by
  rw [← Database.failure?_eq_some_iff, ofDatabases]
  split
  · next h => simp [h]
  · next found h => simp [h]

/-! ## Leaving tables out -/

theorem Database.Consistent.apply {database : Database} (h : database.Consistent)
    (filter : TableFilter) : (filter.apply database).Consistent where
  nodup_tables := h.nodup_tables.sublist (List.filter_sublist.map Table.name)
  tables _ htable := h.tables _ (List.mem_filter.1 htable).1

theorem Consistent.map_apply {databases : List Database} (h : Consistent databases)
    (filterOf : Database → TableFilter) :
    Consistent (databases.map fun database => (filterOf database).apply database) where
  nodup_databases := by
    rw [List.map_map]
    exact h.nodup_databases
  databases := List.forall_mem_map.2 fun database hdatabase =>
    (h.databases database hdatabase).apply (filterOf database)

/-- Databases are accepted as they are if they are consistent, and refused for the first thing that
is wrong with them otherwise.  What was accepted is still accepted once tables have been left out,
of each database its own. -/
theorem consistent_databases_are_accepted (databases : List Database) :
    ((∃ schema, Schema.ofDatabases databases = .ok schema ∧ schema.databases = databases) ↔
      Consistent databases) ∧
    (∀ failure, Schema.ofDatabases databases = .error failure ↔ Refused databases failure) ∧
    ∀ schema, Schema.ofDatabases databases = .ok schema → ∀ filterOf : Database → TableFilter,
      let kept := databases.map fun database => (filterOf database).apply database
      ∃ narrowed, Schema.ofDatabases kept = .ok narrowed ∧ narrowed.databases = kept := by
  have haccepted : ∀ others : List Database, Consistent others →
      ∃ schema, Schema.ofDatabases others = .ok schema ∧ schema.databases = others :=
    fun others h => ⟨⟨others, h⟩, Schema.ofDatabases_eq_ok_iff.2 rfl, rfl⟩
  refine ⟨⟨?_, haccepted databases⟩, fun _ => Schema.ofDatabases_eq_error_iff, ?_⟩
  · rintro ⟨schema, -, rfl⟩
    exact schema.consistent
  · intro schema hschema filterOf kept
    have hconsistent : Consistent databases :=
      Schema.ofDatabases_eq_ok_iff.1 hschema ▸ schema.consistent
    exact haccepted kept (hconsistent.map_apply filterOf)

/-- Invoices are accepted without the staff that they refer to. -/
theorem invoices_are_accepted_without_staff :
    let filter : TableFilter := { without := some ["staff"] }
    ∃ narrowed, Schema.ofDatabases (Schema.ofInvoices.databases.map filter.apply) = .ok narrowed ∧
      narrowed.databases.map (fun database => database.tables.map Table.name) =
        [["customers", "invoices"]] := by
  intro filter
  obtain ⟨-, -, hkept⟩ := consistent_databases_are_accepted Schema.ofInvoices.databases
  obtain ⟨narrowed, hnarrowed, hdatabases⟩ :=
    hkept .ofInvoices (Schema.ofDatabases_eq_ok_iff.2 rfl) fun _ => filter
  refine ⟨narrowed, hnarrowed, ?_⟩
  rw [hdatabases]
  decide

end Scaffold
