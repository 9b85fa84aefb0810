import Scaffold.Proofs.Generation.Covered
import Scaffold.Proofs.Plan.Success

/-!
# What an endpoint sees of a schema

Of all that a schema holds, an endpoint sees its own table and, through each foreign key of that
table, a glimpse of another: whether the table is there, and whether it has the column referred to
and the column shown.  Schemas that look the same from there are the same to the endpoint.
-/

namespace Scaffold

namespace ForeignKey

/-- Whether the referenced table is there, and whether it has the referenced column and the one to
show. -/
def glimpse (database : Database) (key : ForeignKey) : Option (Bool × Bool) :=
  (database.table? key.referencedTable).map fun referenced =>
    (referenced.hasColumn key.referencedColumn, referenced.hasColumn key.label)

theorem danglingColumn?_congr {key : ForeignKey} {database other : Database}
    (h : key.glimpse database = key.glimpse other) :
    key.danglingColumn? database = key.danglingColumn? other := by
  rw [glimpse, glimpse] at h
  rw [danglingColumn?, danglingColumn?]
  cases hfirst : database.table? key.referencedTable with
  | none =>
      cases hsecond : other.table? key.referencedTable with
      | none => rfl
      | some _ => simp [hfirst, hsecond] at h
  | some referenced =>
      cases hsecond : other.table? key.referencedTable with
      | none => simp [hfirst, hsecond] at h
      | some referenced' =>
          simp only [hfirst, hsecond, Option.map_some, Option.some.injEq, Prod.mk.injEq] at h
          simp only [h.1, h.2]

end ForeignKey

/-- Databases that look the same from a table. -/
def Table.SeesAlike (table : Table) (database other : Database) : Prop :=
  ∀ key ∈ table.foreignKeys, key.glimpse database = key.glimpse other

theorem Table.joins_congr {table : Table} {database other : Database}
    (h : table.SeesAlike database other) : table.joins database = table.joins other := by
  apply mapM_congr
  intro key hkey
  rw [joinFor, joinFor, ForeignKey.danglingColumn?_congr (h key hkey)]

namespace Endpoint

variable {endpoint : Endpoint} {database other : Database} {table : Table}

/-- A database gives a module its name and nothing else. -/
theorem moduleOf_congr (hname : database.name = other.name) :
    endpoint.moduleOf database table = endpoint.moduleOf other table := by
  rw [moduleOf, moduleOf, hname]

theorem planOn_congr (hname : database.name = other.name) (hsees : table.SeesAlike database other) :
    endpoint.planOn database table = endpoint.planOn other table := by
  rw [planOn, planOn, moduleOf_congr hname, joinsOn, joinsOn, Table.joins_congr hsees]

theorem plan_congr {schema schema' : Schema}
    (hdatabase : schema.database? endpoint.database = some database)
    (hother : schema'.database? endpoint.database = some other)
    (htable : database.table? endpoint.table = some table)
    (htable' : other.table? endpoint.table = some table)
    (hsees : table.SeesAlike database other) : endpoint.plan schema = endpoint.plan schema' := by
  rw [plan_eq_planOn, plan_eq_planOn]
  by_cases hnames : isIdentifier endpoint.database = true ∧ isIdentifier endpoint.table = true
  · have hname : database.name = other.name :=
      (Schema.name_of_database? hdatabase).trans (Schema.name_of_database? hother).symm
    rw [locate_eq_ok_iff.2 ⟨hnames.1, hnames.2, hdatabase, htable⟩,
      locate_eq_ok_iff.2 ⟨hnames.1, hnames.2, hother, htable'⟩]
    exact planOn_congr hname hsees
  · -- A name that is none is refused before the schema is looked into.
    have hlocate : endpoint.locate schema = endpoint.locate schema' := by
      rw [locate, locate]
      grind
    rw [hlocate]

end Endpoint

/-- Schemas with the same table, which looks the same from there, make the same of an endpoint on
that table: in every store the same outcome, and the same content afterwards. -/
theorem Generator.generate_eq_of_seesAlike {schema schema' : Schema} {endpoint : Endpoint}
    {database other : Database} {table : Table}
    (hdatabase : schema.database? endpoint.database = some database)
    (hother : schema'.database? endpoint.database = some other)
    (htable : database.table? endpoint.table = some table)
    (htable' : other.table? endpoint.table = some table)
    (hsees : table.SeesAlike database other) (catalog : Catalog) (naming : Naming) :
    (∀ (m : Type → Type) [Monad m] (store : Store m),
      generate ⟨schema, catalog, naming⟩ store endpoint =
        generate ⟨schema', catalog, naming⟩ store endpoint) ∧
    ∀ shelf, runOn (generate ⟨schema, catalog, naming⟩ Shelf.store endpoint) shelf =
      runOn (generate ⟨schema', catalog, naming⟩ Shelf.store endpoint) shelf := by
  have hrender : render ⟨schema, catalog, naming⟩ endpoint =
      render ⟨schema', catalog, naming⟩ endpoint := by
    rw [render, render, Endpoint.plan_congr hdatabase hother htable htable' hsees]
    -- Past the plan nothing looks into the schema.
    rfl
  have hgenerate : ∀ (m : Type → Type) [Monad m] (store : Store m),
      generate ⟨schema, catalog, naming⟩ store endpoint =
        generate ⟨schema', catalog, naming⟩ store endpoint := by
    intro m _ store
    rw [generate, generate, hrender]
  exact ⟨hgenerate, fun shelf => by rw [hgenerate]⟩

/-- The same invoices where customers are others, refer back to them and keep their names to
themselves, among more tables and databases. -/
def Schema.ofInvoicesElsewhere : Schema where
  databases :=
    [{ name := "hr"
       tables := [{ name := "staff", columns := [{ name := "name", type := "text" }] }] },
     { name := "crm"
       tables :=
        [.invoices,
         { name := "ledgers", columns := [{ name := "id", type := "int" }] },
         { name := "staff"
           columns := [{ name := "id", type := "uuid", primary := true }] },
         { name := "customers"
           columns :=
            [{ name := "name", type := "json", exposure := .none, treatment := some .passwordHash },
              { name := "id", type := "uuid", nullable := true }]
           foreignKeys :=
            [{ column := "id", referencedTable := "invoices", referencedColumn := "gone" }] }] }]
  consistent := Schema.consistent_iff.2 rfl

theorem Generator.generate_invoices_elsewhere :
    let endpoint := { Endpoint.ofTable .mysql "crm" "invoices" .get with join := true }
    (∃ generated, (runOn (generate ⟨.ofInvoices, .builtin, {}⟩ Shelf.store endpoint)
      .empty).1 = .ok generated) ∧
    runOn (generate ⟨.ofInvoices, .builtin, {}⟩ Shelf.store endpoint) .empty =
      runOn (generate ⟨.ofInvoicesElsewhere, .builtin, {}⟩ Shelf.store endpoint) .empty := by
  refine ⟨exists_generated rfl {}, ?_⟩
  refine (generate_eq_of_seesAlike rfl rfl rfl rfl ?_ .builtin {}).2 .empty
  exact List.forall_mem_cons.2 ⟨rfl, List.forall_mem_singleton.2 rfl⟩

end Scaffold
