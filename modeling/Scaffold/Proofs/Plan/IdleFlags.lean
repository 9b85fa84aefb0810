import Scaffold.Proofs.Plan.Success
import Scaffold.Proofs.Template.Unused

/-!
# Flags and plans

Only reading joins, and deleting is the same whether it is verbose or not.  The flags of an endpoint
decide on nothing that is checked, so its plan is the same but for them, and a template sees a
difference only in the names they bear on.
-/

namespace Scaffold

/-- The names on which the flags bear that do not concern a verb. -/
def Verb.idleNames : Verb → Template.BlockNames
  | .get => ⟨[], []⟩
  | .post => ⟨["joins"], ["join"]⟩
  | .put => ⟨["joins"], ["join"]⟩
  | .delete => ⟨["joins"], ["join", "verbose"]⟩

/-- The endpoint with flags of its own. -/
def Endpoint.withFlags (endpoint : Endpoint) (join verbose : Bool) : Endpoint :=
  { endpoint with join, verbose }

/-- Endpoints that differ at most in flags that do not concern their verb. -/
inductive Endpoint.DiffersIdly (endpoint : Endpoint) : Endpoint → Prop where
  | flags (join verbose : Bool) (hjoin : endpoint.verb = .get → join = endpoint.join)
      (hverbose : endpoint.verb ≠ .delete → verbose = endpoint.verbose) :
      endpoint.DiffersIdly (endpoint.withFlags join verbose)

theorem Endpoint.DiffersIdly.key_eq {endpoint other : Endpoint} (h : endpoint.DiffersIdly other) :
    endpoint.key = other.key := by
  obtain ⟨join, verbose, -, -⟩ := h
  rfl

/-- The plan with flags of its own. -/
def Plan.withFlags (plan : Plan) (join verbose : Bool) : Plan :=
  { plan with endpoint := plan.endpoint.withFlags join verbose }

namespace Endpoint

variable (endpoint : Endpoint) (join verbose : Bool)

theorem planOn_withFlags (database : Database) (table : Table) :
    (endpoint.withFlags join verbose).planOn database table =
      (endpoint.planOn database table).map fun plan => plan.withFlags join verbose := by
  -- Nothing that is checked looks at the flags.
  have hmodule : (endpoint.withFlags join verbose).refuse
      ((endpoint.withFlags join verbose).moduleOf database table) =
        endpoint.refuse (endpoint.moduleOf database table) := rfl
  have hcolumns : (endpoint.withFlags join verbose).refuse
      ((endpoint.withFlags join verbose).columnsOf table) =
        endpoint.refuse (endpoint.columnsOf table) := rfl
  have hpolicy : (endpoint.withFlags join verbose).policy = endpoint.policy := rfl
  have hkey : (endpoint.withFlags join verbose).key = endpoint.key := rfl
  have hverb : (endpoint.withFlags join verbose).verb = endpoint.verb := rfl
  have hjoins : (endpoint.withFlags join verbose).joinsOn database table =
      endpoint.joinsOn database table := rfl
  rw [planOn, planOn, hmodule, hcolumns, hpolicy, hkey, hverb, hjoins]
  cases endpoint.refuse (endpoint.moduleOf database table) with
  | error failure => rfl
  | ok module =>
      cases endpoint.refuse (endpoint.columnsOf table) with
      | error failure => rfl
      | ok columns =>
          simp only [Except.ok_bind]
          cases (endpoint.policy.resolve table.policy endpoint.verb).check endpoint.key.render
            endpoint.verb table with
          | error failure => rfl
          | ok _ => cases endpoint.joinsOn database table <;> rfl

theorem plan_withFlags (schema : Schema) :
    (endpoint.withFlags join verbose).plan schema =
      (endpoint.plan schema).map fun plan => plan.withFlags join verbose := by
  have hplace : (endpoint.withFlags join verbose).refuse
      ((endpoint.withFlags join verbose).locate schema) =
        endpoint.refuse (endpoint.locate schema) := rfl
  rw [plan_eq_planOn, plan_eq_planOn, hplace]
  cases endpoint.refuse (endpoint.locate schema) with
  | error failure => rfl
  | ok place => exact endpoint.planOn_withFlags join verbose place.1 place.2

end Endpoint

namespace Plan

variable {plan : Plan} {join verbose : Bool} {names : Template.BlockNames}

theorem filter_sequences_withFlags
    (hjoin : join = plan.endpoint.join ∨ "joins" ∈ names.sequences) :
    ((plan.withFlags join verbose).sequences.filter fun entry =>
        !names.sequences.contains entry.1) =
      plan.sequences.filter fun entry => !names.sequences.contains entry.1 := by
  rcases hjoin with rfl | hidle
  · rfl
  · simp only [sequences, List.filter_cons, List.contains_eq_mem, hidle]
    rfl

theorem filter_predicates_withFlags
    (hjoin : join = plan.endpoint.join ∨ "join" ∈ names.predicates)
    (hverbose : verbose = plan.endpoint.verbose ∨ "verbose" ∈ names.predicates) :
    ((plan.withFlags join verbose).predicates.filter fun entry =>
        !names.predicates.contains entry.1) =
      plan.predicates.filter fun entry => !names.predicates.contains entry.1 := by
  rcases hjoin with rfl | hjoin <;> rcases hverbose with rfl | hverbose
  · rfl
  · simp only [predicates, List.filter_cons, List.contains_eq_mem, hverbose]
    rfl
  · simp only [predicates, List.filter_cons, List.contains_eq_mem, hjoin]
    rfl
  · simp only [predicates, List.filter_cons, List.contains_eq_mem, hjoin, hverbose]
    rfl

theorem context_withFlags (hjoin : plan.endpoint.verb = .get → join = plan.endpoint.join)
    (hverbose : plan.endpoint.verb ≠ .delete → verbose = plan.endpoint.verbose)
    (naming : Naming) :
    (Environment.ofScope ((plan.withFlags join verbose).context naming).root).AgreesBut
      plan.endpoint.verb.idleNames (.ofScope (plan.context naming).root) := by
  refine Environment.agreesBut_ofBindings _ ?_ ?_
  · apply filter_sequences_withFlags
    cases hverb : plan.endpoint.verb with
    | get => exact .inl (hjoin hverb)
    | post | put | delete => exact .inr (by simp [Verb.idleNames])
  · apply filter_predicates_withFlags
    · cases hverb : plan.endpoint.verb with
      | get => exact .inl (hjoin hverb)
      | post | put | delete => exact .inr (by simp [Verb.idleNames])
    · cases hverb : plan.endpoint.verb with
      | get | post | put => exact .inl (hverbose (by simp [hverb]))
      | delete => exact .inr (by simp [Verb.idleNames])

end Plan

end Scaffold
