import Scaffold.Proofs.Generation.Locality
import Scaffold.Proofs.Introspection.Filtering

/-!
# Choosing labels

Labels are chosen for the foreign keys that have none, each from the columns of the referenced
table.  All that joins look for is there afterwards exactly if it was there before, and what is
chosen for one key does not depend on the labels of others: however many of them were chosen
earlier, the rest come out the same.
-/

namespace Scaffold

/-! ## Databases that differ in foreign keys -/

/-- Tables that differ at most in their foreign keys, which are related one by one. -/
structure Table.KeysRelate (related : ForeignKey → ForeignKey → Prop) (before after : Table) :
    Prop where
  others : { after with foreignKeys := before.foreignKeys } = before
  keys : List.Forall₂ related before.foreignKeys after.foreignKeys

namespace Table.KeysRelate

variable {related : ForeignKey → ForeignKey → Prop} {before after : Table}

theorem name_eq (h : before.KeysRelate related after) : after.name = before.name := by
  rw [← h.others]

theorem columns_eq (h : before.KeysRelate related after) : after.columns = before.columns := by
  rw [← h.others]

end Table.KeysRelate

/-- Databases that differ at most in the foreign keys of their tables. -/
structure Database.KeysRelate (related : ForeignKey → ForeignKey → Prop)
    (before after : Database) : Prop where
  name : after.name = before.name
  tables : List.Forall₂ (Table.KeysRelate related) before.tables after.tables

theorem map_eq_map_of_forall₂ {α β γ : Type} {f : α → γ} {g : β → γ} {as : List α} {bs : List β}
    (h : List.Forall₂ (fun a b => f a = g b) as bs) : as.map f = bs.map g := by
  rw [← List.forall₂_eq_eq_eq, List.forall₂_map_left_iff, List.forall₂_map_right_iff]
  exact h

namespace Database

variable {related : ForeignKey → ForeignKey → Prop} {before after : Database}

theorem keysRelate_mapKeys (database : Database) {change : ForeignKey → ForeignKey}
    (h : ∀ key, related key (change key)) :
    database.KeysRelate related (database.mapKeys change) := by
  refine ⟨rfl, List.forall₂_map_right_iff.2 (List.forall₂_same.2 fun table _ => ⟨rfl, ?_⟩)⟩
  exact List.forall₂_map_right_iff.2 (List.forall₂_same.2 fun key _ => h key)

/-- A change that related keys have in common wipes out the difference. -/
theorem KeysRelate.mapKeys_eq (h : before.KeysRelate related after)
    {change : ForeignKey → ForeignKey}
    (hchange : ∀ key other, related key other → change key = change other) :
    after.mapKeys change = before.mapKeys change := by
  have htable : ∀ table other, Table.KeysRelate related table other →
      { table with foreignKeys := table.foreignKeys.map change } =
        { other with foreignKeys := other.foreignKeys.map change } := by
    intro table other hrelate
    have hkeys : table.foreignKeys.map change = other.foreignKeys.map change :=
      map_eq_map_of_forall₂ (hrelate.keys.imp hchange)
    have hothers := congrArg (fun t : Table =>
      { t with foreignKeys := table.foreignKeys.map change }) hrelate.others
    rw [← hkeys]
    exact hothers.symm
  rw [mapKeys, mapKeys, h.name, map_eq_map_of_forall₂ (h.tables.imp htable)]

/-- A name leads to no table in both, or to tables with the same columns. -/
theorem KeysRelate.table? (h : before.KeysRelate related after) (name : String) :
    Option.Rel (fun table other => other.columns = table.columns) (before.table? name)
      (after.table? name) := by
  obtain ⟨_, tables⟩ := before
  obtain ⟨_, others⟩ := after
  have htables : List.Forall₂ (Table.KeysRelate related) tables others := h.tables
  rw [Database.table?, Database.table?]
  clear h
  induction htables with
  | nil => exact .none
  | @cons table other _ _ hfirst _ ih =>
      rw [List.find?_cons, List.find?_cons, hfirst.name_eq]
      cases table.name == name with
      | true => exact .some hfirst.columns_eq
      | false => exact ih

end Database

/-! ## What columns tell -/

namespace Table

variable {table other : Table}

theorem hasColumn_congr (h : other.columns = table.columns) (name : String) :
    other.hasColumn name = table.hasColumn name := by
  rw [hasColumn, hasColumn, column?, column?, h]

theorem display?_congr (h : other.columns = table.columns) : other.display? = table.display? := by
  have hcolumn : other.column? = table.column? := by
    funext name
    rw [column?, column?, h]
  rw [display?, display?, h, hcolumn]

/-- What stands for a row is one of its columns. -/
theorem hasColumn_of_display? {label : String} (h : table.display? = some label) :
    table.hasColumn label = true := by
  obtain ⟨column, hcolumn, rfl⟩ := Option.map_eq_some_iff.1 h
  have hmem : column ∈ table.columns := by
    rcases Option.or_eq_some_iff.1 hcolumn with hnamed | ⟨-, htext⟩
    · obtain ⟨name, -, hfound⟩ := List.exists_of_findSome?_eq_some hnamed
      exact mem_of_column? hfound
    · exact List.mem_of_find?_eq_some htext
  exact hasColumn_iff.2 (List.mem_map_of_mem hmem)

end Table

namespace Database.KeysRelate

variable {related : ForeignKey → ForeignKey → Prop} {before after : Database}

/-- What is read off the columns of a table is the same in both. -/
theorem bind_table?_eq {α : Type} (h : before.KeysRelate related after) (name : String)
    {view : Table → Option α}
    (hview : ∀ table other : Table, other.columns = table.columns → view other = view table) :
    (after.table? name).bind view = (before.table? name).bind view := by
  have htable := h.table? name
  generalize before.table? name = found, after.table? name = other at htable ⊢
  cases htable with
  | none => rfl
  | some hcolumns => exact hview _ _ hcolumns

theorem glimpse_eq (h : before.KeysRelate related after) (key : ForeignKey) :
    key.glimpse after = key.glimpse before := by
  rw [ForeignKey.glimpse, ForeignKey.glimpse, Option.map_eq_bind, Option.map_eq_bind]
  refine h.bind_table?_eq key.referencedTable fun table other hcolumns => ?_
  dsimp only [Function.comp_apply]
  rw [Table.hasColumn_congr hcolumns, Table.hasColumn_congr hcolumns]

theorem inferLabel_eq (h : before.KeysRelate related after) (key : ForeignKey) :
    after.inferLabel key = before.inferLabel key := by
  rw [inferLabel, inferLabel,
    h.bind_table?_eq key.referencedTable fun _ _ hcolumns => Table.display?_congr hcolumns]

end Database.KeysRelate

/-! ## Chosen labels -/

/-- The same foreign key, but for a label that was absent and is now a column of the referenced
table. -/
structure ForeignKey.LabelledIn (database : Database) (before after : ForeignKey) : Prop where
  others : { after with labelColumn := before.labelColumn } = before
  given : ∀ label, before.labelColumn = some label → after.labelColumn = some label
  chosen : ∀ label, before.labelColumn = none → after.labelColumn = some label →
    ∃ referenced, database.table? before.referencedTable = some referenced ∧
      referenced.hasColumn label = true

namespace Database

variable (database : Database)

theorem inferLabel_labelledIn (key : ForeignKey) :
    key.LabelledIn database (database.inferLabel key) := by
  refine ⟨rfl, fun label hgiven => ?_, fun label hnone hchosen => ?_⟩
  · rw [inferLabel, hgiven, Option.some_or]
  · rw [inferLabel, hnone, Option.none_or] at hchosen
    obtain ⟨referenced, hreferenced, hdisplay⟩ := Option.bind_eq_some_iff.1 hchosen
    exact ⟨referenced, hreferenced, Table.hasColumn_of_display? hdisplay⟩

theorem inferLabels_keysRelate :
    database.KeysRelate (ForeignKey.LabelledIn database) database.inferLabels :=
  database.keysRelate_mapKeys database.inferLabel_labelledIn

theorem inferLabel_inferLabel (key : ForeignKey) :
    database.inferLabel (database.inferLabel key) = database.inferLabel key := by
  rw [inferLabel, inferLabel, Option.or_assoc, Option.or_self]

/-- Labels that were chosen earlier make no difference to the choice of the others. -/
theorem inferLabels_of_keysRelate {partly : Database}
    (h : database.KeysRelate
      (fun key filled => filled = key ∨ filled = database.inferLabel key) partly) :
    partly.inferLabels = database.inferLabels := by
  have hinfer : partly.inferLabel = database.inferLabel := funext h.inferLabel_eq
  rw [inferLabels_eq_mapKeys, inferLabels_eq_mapKeys, hinfer]
  refine h.mapKeys_eq fun key filled hfilled => ?_
  rcases hfilled with rfl | rfl
  · rfl
  · exact (database.inferLabel_inferLabel key).symm

end Database

/-! ## Joins -/

/-- A join apart from what it shows. -/
def Join.unlabelled (join : Join) : Join :=
  { join with labelColumn := "", labelAlias := "" }

/-- Where the referenced column is there, another label than before is there as the one before. -/
theorem Database.label_inferLabel {database : Database} {key : ForeignKey} {referenced : Table}
    (hreferenced : database.table? key.referencedTable = some referenced)
    (hcolumn : referenced.hasColumn key.referencedColumn = true) :
    (database.inferLabel key).label = key.label ∨
      referenced.hasColumn (database.inferLabel key).label = true ∧
        referenced.hasColumn key.label = true := by
  have hlabelled := database.inferLabel_labelledIn key
  cases hgiven : key.labelColumn with
  | some label =>
      have hkept := hlabelled.given label hgiven
      exact .inl (by rw [ForeignKey.label, ForeignKey.label, hkept, hgiven]; rfl)
  | none =>
      have hbefore : key.label = key.referencedColumn := by
        rw [ForeignKey.label, hgiven, Option.getD_none]
      cases hchosen : (database.inferLabel key).labelColumn with
      | none =>
          have hafter : (database.inferLabel key).label = key.referencedColumn := by
            rw [ForeignKey.label, hchosen]
            rfl
          exact .inl (hafter.trans hbefore.symm)
      | some label =>
          obtain ⟨table, htable, hlabel⟩ := hlabelled.chosen label hgiven hchosen
          rw [hreferenced] at htable
          have hafter : (database.inferLabel key).label = label := by
            rw [ForeignKey.label, hchosen, Option.getD_some]
          rw [hafter, hbefore, Option.some.inj htable]
          exact .inr ⟨hlabel, Option.some.inj htable ▸ hcolumn⟩

theorem ForeignKey.danglingColumn?_inferLabel (database : Database) (key : ForeignKey) :
    (database.inferLabel key).danglingColumn? database = key.danglingColumn? database := by
  have htable : (database.inferLabel key).referencedTable = key.referencedTable := rfl
  have hcolumn : (database.inferLabel key).referencedColumn = key.referencedColumn := rfl
  rw [danglingColumn?, danglingColumn?, htable, hcolumn]
  cases hreferenced : database.table? key.referencedTable with
  | none => rfl
  | some referenced =>
      dsimp only
      cases hthere : referenced.hasColumn key.referencedColumn with
      | false => rfl
      | true =>
          rcases Database.label_inferLabel hreferenced hthere with hsame | ⟨hafter, hbefore⟩
          · rw [hsame]
          · rw [hafter, hbefore]
            rfl

namespace Table

/-- The table with the labels of its foreign keys chosen. -/
def labelled (database : Database) (table : Table) : Table :=
  { table with foreignKeys := table.foreignKeys.map database.inferLabel }

theorem joinFor_labelled (table : Table) (database : Database) (key : ForeignKey) :
    ((table.labelled database).joinFor database (database.inferLabel key)).map Join.unlabelled =
      (table.joinFor database key).map Join.unlabelled := by
  rw [joinFor, joinFor, key.danglingColumn?_inferLabel]
  cases key.danglingColumn? database <;> rfl

theorem joins_labelled (table : Table) (database : Database) :
    ((table.labelled database).joins database).map (List.map Join.unlabelled) =
      (table.joins database).map (List.map Join.unlabelled) := by
  have hkeys : (table.labelled database).foreignKeys =
      table.foreignKeys.map database.inferLabel := rfl
  rw [joins, joins, ← mapM_map, ← mapM_map, hkeys, List.mapM_map]
  exact mapM_congr fun key _ => table.joinFor_labelled database key

theorem joins_inferLabels (table : Table) (database : Database) :
    table.joins database.inferLabels = table.joins database :=
  joins_congr fun key _ => database.inferLabels_keysRelate.glimpse_eq key

end Table

/-- Choosing labels changes absent labels only, each into a column of the referenced table.  Every
table has the same joins afterwards, or fails to have them for the same reason; the joins of the
database's own tables differ in what they show.  Choosing labels again changes nothing, and it
makes no difference which of the absent labels were there already as they are chosen. -/
theorem chosen_labels_are_safe_and_stable (database : Database) :
    database.KeysRelate (ForeignKey.LabelledIn database) database.inferLabels ∧
    (∀ table : Table, table.joins database.inferLabels = table.joins database) ∧
    List.Forall₂ (fun before after : Table =>
      (after.joins database.inferLabels).map (List.map Join.unlabelled) =
        (before.joins database).map (List.map Join.unlabelled))
      database.tables database.inferLabels.tables ∧
    database.inferLabels.inferLabels = database.inferLabels ∧
    ∀ partly, database.KeysRelate
      (fun key filled => filled = key ∨ filled = database.inferLabel key) partly →
      partly.inferLabels = database.inferLabels := by
  refine ⟨database.inferLabels_keysRelate, fun table => table.joins_inferLabels database, ?_, ?_,
    fun _ => database.inferLabels_of_keysRelate⟩
  · refine List.forall₂_map_right_iff.2 (List.forall₂_same.2 fun table _ => ?_)
    rw [Table.joins_inferLabels]
    exact table.joins_labelled database
  · exact database.inferLabels_of_keysRelate (database.keysRelate_mapKeys fun _ => .inr rfl)

/-- People with superiors among them, a team, a desk of which nothing is known, and a badge that is
shown by a column it does not have; and another table of the same name. -/
def Database.office : Database where
  name := "office"
  tables :=
    [{ name := "people"
       columns := [{ name := "id", type := "int" }, { name := "title", type := "text" }]
       foreignKeys :=
        [{ column := "superior", referencedTable := "people", referencedColumn := "id" },
         { column := "team", referencedTable := "teams", referencedColumn := "id" },
         { column := "desk", referencedTable := "desks", referencedColumn := "id" },
         { column := "badge", referencedTable := "people", referencedColumn := "id"
           labelColumn := some "colour" }] },
     { name := "teams"
       columns := [{ name := "id", type := "int" }, { name := "motto", type := "varchar(80)" }]
       foreignKeys :=
        [{ column := "leader", referencedTable := "people", referencedColumn := "id" }] },
     { name := "people", columns := [] }]

theorem labels_of_office :
    let partly := Database.office.mapKeys fun key =>
      if key.column = "leader" then Database.office.inferLabel key else key
    Introspection.labelsOf partly =
      [("people", [none, none, none, some "colour"]), ("teams", [some "title"]), ("people", [])] ∧
    partly.inferLabels = Database.office.inferLabels ∧
    Introspection.labelsOf Database.office.inferLabels =
      [("people", [some "title", some "motto", none, some "colour"]), ("teams", [some "title"]),
        ("people", [])] := by
  intro partly
  have hpartly : Database.office.KeysRelate
      (fun key filled => filled = key ∨ filled = Database.office.inferLabel key) partly := by
    refine Database.office.keysRelate_mapKeys fun key => ?_
    split
    · exact .inr rfl
    · exact .inl rfl
  obtain ⟨-, -, -, -, hstable⟩ := chosen_labels_are_safe_and_stable Database.office
  exact ⟨by decide +kernel, hstable partly hpartly, by decide +kernel⟩

end Scaffold
