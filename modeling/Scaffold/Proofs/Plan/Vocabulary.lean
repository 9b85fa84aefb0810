import Scaffold.Plan.Vocabulary
import Scaffold.Proofs.Entries
import Scaffold.Proofs.Template.Guarded

/-!
# Plans keep their vocabulary

Whatever a plan is like, its context has a value for every name of the vocabulary, and a value that
may be missing is there whenever the predicate of its presence holds.
-/

namespace Scaffold

open Template (Provides Vocabulary)

section Bindings

variable {scalars : List (String × String)} {sequences : List (String × List Scope)}
  {predicates : List (String × Bool)}

theorem Scope.predicate?_ofBindings (name : String) :
    (ofBindings scalars sequences predicates).predicate? name =
      predicates.reverse.lookup name := by
  rw [predicate?, ofBindings, Entries.lookup_ofList]

/-- Bindings provide a vocabulary with the same sequences and at least its scalars. -/
theorem Template.Provides.ofBindings {root : Scope} {vocabulary : Vocabulary}
    (hscalars : ∀ name ∈ vocabulary.scalars, name ∈ scalars.map Prod.fst)
    (hguarded : ∀ entry ∈ vocabulary.guarded, root.predicate? entry.2 = some true →
      entry.1 ∈ scalars.map Prod.fst)
    (hsequences : sequences.map Prod.fst = vocabulary.sequences.map Prod.fst)
    (helements : ∀ sequence ∈ sequences, ∀ entry ∈ vocabulary.sequences,
      sequence.1 = entry.1 → ∀ element ∈ sequence.2, Provides root entry.2 element) :
    Provides root vocabulary (.ofBindings scalars sequences predicates) := by
  refine .intro ?_ ?_ ?_ ?_
  · intro name hname
    exact Entries.isSome_lookup_ofList_iff.2 (hscalars name hname)
  · intro entry hentry hholds
    exact Entries.isSome_lookup_ofList_iff.2 (hguarded entry hentry hholds)
  · intro name
    rw [Bool.eq_iff_iff, Entries.isSome_lookup_iff, ← hsequences]
    exact Entries.isSome_lookup_ofList_iff
  · intro name level items element hlevel hitems
    exact helements (name, items) (Entries.mem_of_lookup_ofList hitems) (name, level)
      (Entries.mem_of_lookup hlevel) rfl element

end Bindings

/-! ## Elements -/

variable (root : Scope)

theorem roleScope_provides (role : String) : Provides root roleVocabulary (roleScope role) :=
  .ofBindings (fun _ h => h) (by simp [roleVocabulary]) rfl (by simp)

theorem Reactor.scope_provides (reactor : Reactor) :
    Provides root Reactor.vocabulary reactor.scope :=
  .ofBindings (fun _ h => h) (by simp [vocabulary]) rfl (by simp)

theorem Join.labelScopes_provide (join : Join) :
    ∀ label ∈ join.labelScopes, Provides root Join.labelVocabulary label := by
  intro label hlabel
  rw [labelScopes] at hlabel
  split at hlabel
  · rw [List.mem_singleton.1 hlabel]
    exact .ofBindings (fun _ h => h) (by simp [labelVocabulary]) rfl (by simp)
  · cases hlabel

theorem Join.scope_provides (join : Join) : Provides root Join.vocabulary join.scope := by
  refine .ofBindings (fun _ h => h) (by simp [vocabulary]) rfl ?_
  simpa [vocabulary] using join.labelScopes_provide root

theorem Column.scope_provides (column : Column) (verb : Verb) (lookup : Option Join) :
    Provides root Column.vocabulary (column.scope verb lookup) := by
  refine .ofBindings (fun _ h => h) (by simp [vocabulary]) rfl ?_
  simp only [vocabulary, List.mem_singleton, forall_eq, forall_const, Option.mem_toList,
    Option.map_eq_some_iff]
  rintro element ⟨join, -, rfl⟩
  exact join.scope_provides root

namespace Plan

variable (plan : Plan) (naming : Naming)

/-! ## The root -/

theorem predicate?_context (name : String) :
    (plan.context naming).root.predicate? name = plan.predicates.reverse.lookup name :=
  Scope.predicate?_ofBindings name

theorem isSome_predicate?_context :
    ∀ predicate ∈ predicateNames, ((plan.context naming).root.predicate? predicate).isSome := by
  intro predicate hpredicate
  rw [predicate?_context, Entries.isSome_lookup_iff, List.map_reverse, List.mem_reverse]
  exact hpredicate

/-- Each scalar of the policy is there under the condition that its own predicate tells. -/
theorem guarded_mem_policyScalars :
    ∀ entry ∈ vocabulary.guarded, (plan.context naming).root.predicate? entry.2 = some true →
      entry.1 ∈ plan.policyScalars.map Prod.fst := by
  simp only [predicate?_context, vocabulary, List.forall_mem_cons, List.not_mem_nil,
    false_implies, implies_true, and_true, policyScalars, List.map_append, List.mem_append]
  refine ⟨fun h => ?captcha, fun h => ?log, fun h => ?ttl, fun h => ?scope, fun h => ?mode,
    fun h => ?roles⟩
  case captcha =>
    have hpresent : plan.policy.captcha.isSome = true := Option.some.inj h
    obtain ⟨score, hscore⟩ := Option.isSome_iff_exists.1 hpresent
    exact .inl (.inl (.inl (.inl (by simp [hscore]))))
  case log =>
    have hpresent : plan.policy.log.isSome = true := Option.some.inj h
    obtain ⟨message, hmessage⟩ := Option.isSome_iff_exists.1 hpresent
    exact .inl (.inl (.inl (.inr (by simp [hmessage]))))
  case ttl =>
    have hpresent : plan.policy.cache.isSome = true := Option.some.inj h
    obtain ⟨cache, hcache⟩ := Option.isSome_iff_exists.1 hpresent
    exact .inl (.inl (.inr (by simp [hcache])))
  case scope =>
    have hpresent : plan.policy.cache.isSome = true := Option.some.inj h
    obtain ⟨cache, hcache⟩ := Option.isSome_iff_exists.1 hpresent
    exact .inl (.inl (.inr (by simp [hcache])))
  case mode =>
    have hpresent : plan.policy.audience.isSome = true := Option.some.inj h
    obtain ⟨audience, haudience⟩ := Option.isSome_iff_exists.1 hpresent
    exact .inl (.inr (by simp [haudience]))
  case roles =>
    have hpresent : (!plan.audienceRoles.isEmpty) = true := Option.some.inj h
    rw [Bool.not_eq_true'] at hpresent
    exact .inr (by simp [hpresent])

theorem sequences_provide (root : Scope) :
    ∀ sequence ∈ plan.sequences, ∀ entry ∈ vocabulary.sequences, sequence.1 = entry.1 →
      ∀ element ∈ sequence.2, Provides root entry.2 element := by
  simp only [sequences, vocabulary, List.mem_cons, List.not_mem_nil, or_false, forall_eq_or_imp,
    forall_eq, List.mem_map, forall_exists_index, and_imp, forall_apply_eq_imp_iff₂, forall_const,
    String.reduceEq, IsEmpty.forall_iff, and_self, and_true, true_and]
  exact ⟨fun role _ => roleScope_provides root role,
    fun reactor _ => reactor.scope_provides root,
    fun join _ => join.scope_provides root,
    fun column _ => column.scope_provides root _ _,
    fun column _ => column.scope_provides root _ _⟩

theorem context_provides :
    Provides (plan.context naming).root vocabulary (plan.context naming).root := by
  refine .ofBindings ?_ ?_ rfl (plan.sequences_provide _)
  · intro name hname
    rw [List.map_append]
    exact List.mem_append_left _ hname
  · intro entry hentry hholds
    rw [List.map_append]
    exact List.mem_append_right _ (plan.guarded_mem_policyScalars naming entry hentry hholds)

end Plan

end Scaffold
