import Scaffold.Plan.Bindings
import Scaffold.Proofs.Entries

/-!
# What names stand for

The values that a template finds under the names of a plan, and under those of the elements of its
sequences.  No name is bound twice at one level, so each stands for what it was bound to.
-/

namespace Scaffold

section Bindings

variable {scalars : List (String × String)} {sequences : List (String × List Scope)}
  {predicates : List (String × Bool)} {name : String}

theorem Scope.scalar?_ofBindings_of_mem {value : String} (hnodup : (scalars.map Prod.fst).Nodup)
    (h : (name, value) ∈ scalars) :
    (ofBindings scalars sequences predicates).scalar? name = some value :=
  Entries.lookup_ofList_of_mem hnodup h

theorem Scope.scalar?_ofBindings_of_not_mem (h : name ∉ scalars.map Prod.fst) :
    (ofBindings scalars sequences predicates).scalar? name = none := by
  rw [← Option.not_isSome_iff_eq_none, scalar?, ofBindings, Entries.isSome_lookup_ofList_iff]
  exact h

theorem Scope.sequence?_ofBindings_of_mem {items : List Scope}
    (hnodup : (sequences.map Prod.fst).Nodup) (h : (name, items) ∈ sequences) :
    (ofBindings scalars sequences predicates).sequence? name = some items :=
  Entries.lookup_ofList_of_mem hnodup h

theorem Scope.predicate?_ofBindings_of_mem {holds : Bool}
    (hnodup : (predicates.map Prod.fst).Nodup) (h : (name, holds) ∈ predicates) :
    (ofBindings scalars sequences predicates).predicate? name = some holds :=
  Entries.lookup_ofList_of_mem hnodup h

end Bindings

/-! ## Elements -/

namespace Column

variable (column : Column) (verb : Verb) (lookup : Option Join)

/-- What the names of a column stand for. -/
def scalars (column : Column) (verb : Verb) : List (String × String) :=
  [("column", column.name), ("column_type", column.type), ("column_logical", column.logical.name),
    ("column_ts_type", column.logical.tsType), ("column_control", column.logical.formControl),
    ("column_nullable", toString column.nullable),
    ("column_required", toString (column.isRequired verb)),
    ("column_optional", if column.isRequired verb then "" else "?"),
    ("column_special", (column.treatment.map Treatment.name).getD "none")]

theorem scalar?_scope {name value : String} (h : (name, value) ∈ column.scalars verb) :
    (column.scope verb lookup).scalar? name = some value :=
  Scope.scalar?_ofBindings_of_mem (by simp) h

theorem scalar?_column : (column.scope verb lookup).scalar? "column" = some column.name :=
  column.scalar?_scope verb lookup (by simp [scalars])

theorem scalar?_moduleUrl : (column.scope verb lookup).scalar? "module_url" = none :=
  Scope.scalar?_ofBindings_of_not_mem (by simp)

theorem sequence?_lookup : (column.scope verb lookup).sequence? "column_lookup" =
    some (lookup.toList.map Join.scope) := by
  have hlookup : lookup.toList.map Join.scope = (lookup.map Join.scope).toList := by
    cases lookup <;> rfl
  rw [hlookup]
  exact Scope.sequence?_ofBindings_of_mem (by simp) (by simp)

theorem scalar?_table : (column.scope verb lookup).scalar? "table" = none :=
  Scope.scalar?_ofBindings_of_not_mem (by simp)

end Column

namespace Join

variable (join : Join)

/-- What the names of a join stand for. -/
def scalars : List (String × String) :=
  [("join_column", join.column), ("join_table", join.referencedTable),
    ("join_table_alias", join.tableAlias), ("join_referenced_column", join.referencedColumn),
    ("join_alias", join.columnAlias), ("join_display_column", join.labelColumn),
    ("join_kind", join.selector.name)]

theorem scalar?_scope {name value : String} (h : (name, value) ∈ join.scalars) :
    join.scope.scalar? name = some value :=
  Scope.scalar?_ofBindings_of_mem (by simp) h

theorem scalar?_table : join.scope.scalar? "table" = none :=
  Scope.scalar?_ofBindings_of_not_mem (by simp)

theorem scalar?_moduleUrl : join.scope.scalar? "module_url" = none :=
  Scope.scalar?_ofBindings_of_not_mem (by simp)

theorem sequence?_label : join.scope.sequence? "join_label" = some join.labelScopes :=
  Scope.sequence?_ofBindings_of_mem (by simp) (by simp)

theorem scalar?_of_mem_labelScopes {scope : Scope} (h : scope ∈ join.labelScopes) :
    scope.scalar? "join_label_column" = some join.labelColumn ∧
      scope.scalar? "join_label_alias" = some join.labelAlias ∧
        scope.scalar? "join_table_alias" = none := by
  rw [labelScopes] at h
  split at h
  · rw [List.mem_singleton.1 h]
    exact ⟨Scope.scalar?_ofBindings_of_mem (by simp) (by simp),
      Scope.scalar?_ofBindings_of_mem (by simp) (by simp),
      Scope.scalar?_ofBindings_of_not_mem (by simp)⟩
  · cases h

end Join

/-! ## The root -/

namespace Plan

variable (plan : Plan) (naming : Naming) {name : String}

/-- The names of the scalars that only some policies have. -/
def policyNames : List String :=
  ["captcha", "log_message", "cache_ttl", "cache_scope", "cqrs_mode", "cqrs_roles"]

theorem fst_mem_of_mem_policyScalars {entry : String × String} (h : entry ∈ plan.policyScalars) :
    entry.1 ∈ policyNames := by
  simp only [policyScalars, List.mem_append, Option.mem_toList, Option.map_eq_some_iff] at h
  rcases h with (((hcaptcha | hlog) | hcache) | hmode) | hroles
  · obtain ⟨score, -, rfl⟩ := hcaptcha
    simp [policyNames]
  · obtain ⟨message, -, rfl⟩ := hlog
    simp [policyNames]
  · split at hcache
    · rcases List.mem_pair.1 hcache with rfl | rfl
      · simp [policyNames]
      · simp [policyNames]
    · cases hcache
  · obtain ⟨audience, -, rfl⟩ := hmode
    simp [policyNames]
  · split at hroles
    · cases hroles
    · rw [List.mem_singleton.1 hroles]
      simp [policyNames]

theorem not_mem_policyNames {entry : String × String} (h : entry ∈ plan.fixedScalars naming) :
    entry.1 ∉ policyNames := by
  have hall : ∀ fixed ∈ plan.fixedScalars naming, fixed.1 ∉ policyNames := by
    simp [fixedScalars, policyNames]
  exact hall entry h

theorem scalar?_of_mem {value : String} (h : (name, value) ∈ plan.fixedScalars naming) :
    (plan.context naming).root.scalar? name = some value := by
  have hpolicy : plan.policyScalars.reverse.lookup name = none := by
    rw [← Option.not_isSome_iff_eq_none, Entries.isSome_lookup_iff, List.map_reverse,
      List.mem_reverse, List.mem_map]
    rintro ⟨entry, hentry, hname⟩
    have hmem := plan.fst_mem_of_mem_policyScalars hentry
    rw [hname] at hmem
    exact plan.not_mem_policyNames naming h hmem
  have hfixed : (Entries.ofList (plan.fixedScalars naming)).lookup name = some value :=
    Entries.lookup_ofList_of_mem (by simp [fixedScalars]) h
  rw [context, Scope.scalar?, Scope.ofBindings, Entries.lookup_ofList, List.reverse_append,
    List.lookup_append, hpolicy, ← Entries.lookup_ofList, hfixed]
  rfl

theorem sequence?_of_mem {items : List Scope} (h : (name, items) ∈ plan.sequences) :
    (plan.context naming).root.sequence? name = some items :=
  Scope.sequence?_ofBindings_of_mem (by simp [sequences]) h

theorem sequence?_columns : (plan.context naming).root.sequence? "columns" = some
    (plan.surface.map fun column =>
      column.scope plan.endpoint.verb (Join.forColumn? plan.joins column.name)) :=
  plan.sequence?_of_mem naming (by simp [sequences])

theorem predicate?_of_mem {holds : Bool} (h : (name, holds) ∈ plan.predicates) :
    (plan.context naming).root.predicate? name = some holds :=
  Scope.predicate?_ofBindings_of_mem (by simp [predicates]) h

end Plan

end Scaffold
