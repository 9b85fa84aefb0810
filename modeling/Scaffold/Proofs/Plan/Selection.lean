import Scaffold.Proofs.Plan.Success

/-!
# What a selection selects

The keys and columns of an endpoint are filtered from those of its table.  A selection is refused
exactly if it asks for something that is not there to be selected, or for no column at all; how
often and in which order it names things makes no difference.
-/

namespace Scaffold

/-- What a verb may work on, once the keys are chosen. -/
def Column.isEligible (column : Column) (verb : Verb) (keys : List Column) : Bool :=
  match verb with
  | .post => column.exposure.post && !(column.primary && column.automatic)
  | .get => column.exposure.get && column.treatment != some .passwordHash
  | .put => column.exposure.put && !column.primary
  | .delete => column.exposure.delete && keys.contains column

/-- Names asked for, or none, that are the same but for their order and repetitions. -/
def SameNames : Option (List String) → Option (List String) → Prop :=
  Option.Rel fun names others => ∀ name, name ∈ names ↔ name ∈ others

namespace Endpoint

variable {endpoint : Endpoint} {table : Table} {keys surface : List Column}

/-! ## Keys -/

/-- The key columns that were asked for; all of them, where none were named. -/
def chosenKeys (endpoint : Endpoint) (table : Table) : List Column :=
  table.primaryKey.filter fun column => endpoint.selection.primary.all (·.contains column.name)

theorem chosenKeys_eq_primaryKey (h : endpoint.selection.primary = none) (table : Table) :
    endpoint.chosenKeys table = table.primaryKey := by
  rw [chosenKeys, h]
  exact List.filter_eq_self.2 fun _ _ => rfl

theorem selectKeys_eq_ok_iff :
    endpoint.selectKeys table = .ok keys ↔
      (∀ names ∈ endpoint.selection.primary, ∀ name ∈ names,
        ∃ key ∈ table.primaryKey, key.name = name) ∧ endpoint.chosenKeys table = keys := by
  rw [selectKeys]
  cases hprimary : endpoint.selection.primary with
  | none => simp [chosenKeys_eq_primaryKey hprimary]
  | some names =>
      have hchosen : endpoint.chosenKeys table =
          table.primaryKey.filter fun column => names.contains column.name := by
        rw [chosenKeys, hprimary]
        rfl
      have hknown : names.find? (fun name => !table.primaryKey.any (·.name == name)) = none ↔
          ∀ name ∈ names, ∃ key ∈ table.primaryKey, key.name = name := by
        simp
      simp only [Option.mem_some_iff, forall_eq', ← hknown, hchosen]
      cases names.find? fun name => !table.primaryKey.any (·.name == name) with
      | none => simp
      | some name => simp

/-! ## Columns -/

theorem columnProblem?_eq_none_iff {offered : List Column} (hoffered : offered ⊆ table.columns)
    {name : String} :
    endpoint.columnProblem? table offered name = none ↔
      ∃ column ∈ offered, column.name = name := by
  have hhas : (∃ column ∈ offered, column.name = name) → table.hasColumn name = true := by
    rintro ⟨column, hcolumn, rfl⟩
    exact Table.hasColumn_iff.2 (List.mem_map_of_mem (hoffered hcolumn))
  have hany : offered.any (·.name == name) = true ↔ ∃ column ∈ offered, column.name = name := by
    simp
  rw [columnProblem?, ← hany]
  rw [← hany] at hhas
  cases hmem : offered.any (·.name == name) with
  | true => simp [hhas hmem]
  | false => cases table.hasColumn name <;> simp

theorem selectSurface_eq_ok_iff :
    endpoint.selectSurface table keys = .ok surface ↔
      (∀ names ∈ endpoint.selection.columns, names ≠ [] ∧ ∀ name ∈ names,
        ∃ column ∈ endpoint.eligible table keys, column.name = name) ∧
      (endpoint.eligible table keys).filter
        (fun column => endpoint.selection.columns.all (·.contains column.name)) = surface := by
  have hdeclared : endpoint.eligible table keys ⊆ table.columns :=
    ((endpoint.eligible_sublist table keys).trans List.filter_sublist).subset
  rw [selectSurface]
  cases endpoint.selection.columns with
  | none => simp
  | some names =>
      have hknown : names.findSome?
          (endpoint.columnProblem? table (endpoint.eligible table keys)) = none ↔
            ∀ name ∈ names, ∃ column ∈ endpoint.eligible table keys, column.name = name := by
        simp only [List.findSome?_eq_none_iff, columnProblem?_eq_none_iff hdeclared]
      simp only [Option.mem_some_iff, forall_eq', ← hknown, Option.all_some]
      cases names with
      | nil => simp
      | cons name names =>
          cases List.findSome? (endpoint.columnProblem? table (endpoint.eligible table keys))
            (name :: names) with
          | none => simp
          | some problem => simp

/-- No two columns share a name, so the chosen key of a column's name is that column. -/
theorem any_name_eq_contains (hnodup : (table.columns.map Column.name).Nodup)
    (hkeys : keys ⊆ table.columns) {column : Column} (hcolumn : column ∈ table.columns) :
    (keys.any fun key => key.name == column.name) = keys.contains column := by
  rw [Bool.eq_iff_iff, List.any_eq_true, List.contains_iff_mem]
  constructor
  · rintro ⟨key, hkey, hname⟩
    rw [← List.inj_on_of_nodup_map hnodup (hkeys hkey) hcolumn (eq_of_beq hname)]
    exact hkey
  · intro hkey
    exact ⟨column, hkey, beq_self_eq_true _⟩

theorem offers_eq_isEligible {verb : Verb} (hverb : verb ≠ .delete) (column : Column)
    (keys : List Column) : Table.offers verb column = column.isEligible verb keys := by
  cases verb with
  | post =>
      cases hprimary : column.primary <;> cases hautomatic : column.automatic <;>
        simp [Table.offers, Column.isExposed, Exposure.allows, Column.isEligible, hprimary,
          hautomatic]
  | get | put => simp [Table.offers, Column.isExposed, Exposure.allows, Column.isEligible]
  | delete => exact absurd rfl hverb

theorem offers_delete (column : Column) :
    Table.offers .delete column = (column.exposure.delete && column.primary) := by
  simp [Table.offers, Column.isExposed, Exposure.allows]

theorem eligible_eq_filter (hnodup : (table.columns.map Column.name).Nodup)
    (hkeys : keys ⊆ table.primaryKey) (endpoint : Endpoint) :
    endpoint.eligible table keys =
      table.columns.filter fun column => column.isEligible endpoint.verb keys := by
  rw [eligible, Table.columnsFor]
  by_cases hverb : endpoint.verb = .delete
  · rw [if_pos hverb, hverb, List.filter_filter]
    refine List.filter_congr fun column hcolumn => ?_
    have hdeclared : keys ⊆ table.columns := fun key hkey =>
      List.filter_sublist.subset (hkeys hkey)
    rw [any_name_eq_contains hnodup hdeclared hcolumn, offers_delete, Column.isEligible]
    -- A chosen key is primary, so its flag need not be looked at again.
    cases hkey : keys.contains column with
    | false => rw [Bool.false_and, Bool.and_false]
    | true =>
        rw [(List.mem_filter.1 (hkeys (List.contains_iff_mem.1 hkey))).2, Bool.true_and]
  · rw [if_neg hverb]
    exact List.filter_congr fun column _ => offers_eq_isEligible hverb column keys

/-! ## Selections -/

theorem chosenKeys_subset (endpoint : Endpoint) (table : Table) :
    endpoint.chosenKeys table ⊆ table.primaryKey :=
  List.filter_sublist.subset

theorem chosenKeys_sublist (endpoint : Endpoint) (table : Table) :
    (endpoint.chosenKeys table).Sublist table.columns :=
  List.filter_sublist.trans List.filter_sublist

end Endpoint

namespace SameNames

variable {names others : Option (List String)}

theorem all_contains_eq (h : SameNames names others) (name : String) :
    names.all (·.contains name) = others.all (·.contains name) := by
  cases h with
  | none => rfl
  | some hsame =>
      rw [Option.all_some, Option.all_some, Bool.eq_iff_iff, List.contains_iff_mem,
        List.contains_iff_mem]
      exact hsame name

theorem forall_iff (h : SameNames names others) {allowed : String → Prop} :
    (∀ asked ∈ names, ∀ name ∈ asked, allowed name) ↔
      ∀ asked ∈ others, ∀ name ∈ asked, allowed name := by
  cases h with
  | none => exact Iff.rfl
  | some hsame => simp only [Option.mem_some_iff, forall_eq', hsame]

theorem forall_ne_nil_iff (h : SameNames names others) :
    (∀ asked ∈ names, asked ≠ []) ↔ ∀ asked ∈ others, asked ≠ [] := by
  cases h with
  | none => exact Iff.rfl
  | some hsame =>
      simp only [Option.mem_some_iff, forall_eq', ne_eq, List.eq_nil_iff_forall_not_mem, hsame]

end SameNames

namespace Endpoint

variable {endpoint : Endpoint} {table : Table} {selection : Selection}

theorem selectKeys_congr (h : SameNames selection.primary endpoint.selection.primary) :
    (selectKeys { endpoint with selection } table).toOption =
      (endpoint.selectKeys table).toOption := by
  apply Except.toOption_congr
  intro keys
  have hchosen : chosenKeys { endpoint with selection } table = endpoint.chosenKeys table :=
    List.filter_congr fun column _ => h.all_contains_eq column.name
  rw [selectKeys_eq_ok_iff, selectKeys_eq_ok_iff, hchosen, h.forall_iff]

theorem selectSurface_congr (h : SameNames selection.columns endpoint.selection.columns)
    (keys : List Column) :
    (selectSurface { endpoint with selection } table keys).toOption =
      (endpoint.selectSurface table keys).toOption := by
  apply Except.toOption_congr
  intro surface
  have heligible : eligible { endpoint with selection } table keys =
      endpoint.eligible table keys := rfl
  have hselected : (endpoint.eligible table keys).filter
        (fun column => selection.columns.all (·.contains column.name)) =
      (endpoint.eligible table keys).filter
        (fun column => endpoint.selection.columns.all (·.contains column.name)) :=
    List.filter_congr fun column _ => h.all_contains_eq column.name
  rw [selectSurface_eq_ok_iff, selectSurface_eq_ok_iff, heligible, hselected]
  simp only [forall_and, h.forall_ne_nil_iff, h.forall_iff]

/-- Keys and columns are selected exactly if every name that was asked for is that of a key and of
an eligible column, and at least one column is asked for, if any list is given; what is selected
are these columns as the table declares them.  Order and repetitions of the names do not count. -/
theorem selection_is_exact {table : Table} (hnodup : (table.columns.map Column.name).Nodup)
    (endpoint : Endpoint) :
    (∀ keys, endpoint.selectKeys table = .ok keys ↔
      (∀ names ∈ endpoint.selection.primary, ∀ name ∈ names,
        ∃ column ∈ table.columns, column.primary = true ∧ column.name = name) ∧
      keys = table.columns.filter fun column =>
        column.primary && endpoint.selection.primary.all (·.contains column.name)) ∧
    (∀ keys, endpoint.selectKeys table = .ok keys →
      (∀ surface, endpoint.selectSurface table keys = .ok surface ↔
        (∀ names ∈ endpoint.selection.columns, names ≠ [] ∧ ∀ name ∈ names,
          ∃ column ∈ table.columns,
            column.isEligible endpoint.verb keys = true ∧ column.name = name) ∧
        surface = table.columns.filter fun column =>
          column.isEligible endpoint.verb keys &&
            endpoint.selection.columns.all (·.contains column.name)) ∧
      keys.Sublist table.columns ∧ (keys.map Column.name).Nodup ∧
      ∀ surface, endpoint.selectSurface table keys = .ok surface →
        surface.Sublist table.columns ∧ (surface.map Column.name).Nodup ∧
          (endpoint.verb = .put → keys.Disjoint surface)) ∧
    ∀ selection : Selection, SameNames selection.primary endpoint.selection.primary →
      SameNames selection.columns endpoint.selection.columns →
        let other := { endpoint with selection }
        (other.selectKeys table).toOption = (endpoint.selectKeys table).toOption ∧
        ∀ keys, (other.selectSurface table keys).toOption =
          (endpoint.selectSurface table keys).toOption := by
  refine ⟨fun keys => ?_, fun keys hkeys => ?_, fun selection hprimary hcolumns =>
    ⟨selectKeys_congr hprimary, selectSurface_congr hcolumns⟩⟩
  · rw [selectKeys_eq_ok_iff, chosenKeys, Table.primaryKey, List.filter_filter, eq_comm]
    simp only [List.mem_filter, and_assoc, Bool.and_comm]
  · have hchosen := (selectKeys_eq_ok_iff.1 hkeys).2
    have hprimary : keys ⊆ table.primaryKey := hchosen ▸ endpoint.chosenKeys_subset table
    have hdeclared : keys.Sublist table.columns :=
      hchosen ▸ endpoint.chosenKeys_sublist table
    have heligible := eligible_eq_filter hnodup hprimary endpoint
    refine ⟨fun surface => ?_, hdeclared, hnodup.sublist (hdeclared.map _), fun surface h => ?_⟩
    · rw [selectSurface_eq_ok_iff, heligible, List.filter_filter, eq_comm]
      simp only [List.mem_filter, and_assoc, Bool.and_comm]
    · have hsublist : surface.Sublist table.columns :=
        (selectSurface_sublist h).trans List.filter_sublist
      refine ⟨hsublist, hnodup.sublist (hsublist.map _), fun hverb column hkey hcolumn => ?_⟩
      -- A key is primary, and nothing that an update sets is.
      have hupdated := (selectSurface_sublist_eligible h).subset hcolumn
      rw [heligible, List.mem_filter, hverb, Column.isEligible,
        (List.mem_filter.1 (hprimary hkey)).2, Bool.not_true, Bool.and_false] at hupdated
      exact Bool.false_ne_true hupdated.2

/-- The key of the seats is as declared, in whatever order it was asked for; only the number was
asked for to delete by, once or twice. -/
theorem seats_selected_by_number :
    let number : Column := { name := "number", type := "int", primary := true }
    let table : Table :=
      { name := "seats"
        columns := [{ name := "row", type := "int", primary := true }, number,
          { name := "guest", type := "text" }] }
    let deletion : Endpoint :=
      { Endpoint.ofTable .mysql "hall" "seats" .delete with
        selection := ⟨some ["number"], some ["number", "row", "number"]⟩ }
    let twice : Endpoint :=
      { deletion with selection := ⟨some ["number", "number"], some ["row", "number"]⟩ }
    (table.columns.map Column.name).Nodup ∧
      deletion.selectKeys table = .ok table.primaryKey ∧
      deletion.selectSurface table table.primaryKey = .ok [number] ∧
      (twice.selectSurface table table.primaryKey).toOption = some [number] := by
  intro number table deletion twice
  have hnodup : (table.columns.map Column.name).Nodup := by decide
  obtain ⟨hkeys, hsurface, hsame⟩ := selection_is_exact hnodup deletion
  have hselected : deletion.selectKeys table = .ok table.primaryKey :=
    (hkeys _).2 ⟨by decide, by decide⟩
  have hnumber : deletion.selectSurface table table.primaryKey = .ok [number] :=
    ((hsurface _ hselected).1 _).2 ⟨by decide, by decide⟩
  have hprimary : SameNames (some ["row", "number"]) (some ["number", "row", "number"]) :=
    .some (by simp [or_comm])
  have hcolumns : SameNames (some ["number", "number"]) (some ["number"]) := .some (by simp)
  have htwice := (hsame twice.selection hprimary hcolumns).2 table.primaryKey
  exact ⟨hnodup, hselected, hnumber, htwice.trans (congrArg Except.toOption hnumber)⟩

end Endpoint

end Scaffold
