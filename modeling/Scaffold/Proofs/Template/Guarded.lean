import Scaffold.Proofs.Outcome
import Scaffold.Template.Expansion
import Scaffold.Template.Guarded

/-!
# Guarded templates expand

A vocabulary is announced before there are values.  Scopes that keep what it announces, at every
level around a node, have a value for each name that a guarded node reaches.
-/

namespace Scaffold.Template

/-- A scope below a root has the names of a vocabulary, and no other sequences: those could hide
announced ones of an outer scope. -/
inductive Provides (root : Scope) : Vocabulary → Scope → Prop where
  | intro {vocabulary : Vocabulary} {scope : Scope}
      (scalars : ∀ name ∈ vocabulary.scalars, (scope.scalar? name).isSome)
      (guarded : ∀ entry ∈ vocabulary.guarded, root.predicate? entry.2 = some true →
        (scope.scalar? entry.1).isSome)
      (sequences : ∀ name,
        (scope.sequence? name).isSome = (vocabulary.sequences.lookup name).isSome)
      (elements : ∀ name level items element, vocabulary.sequences.lookup name = some level →
        scope.sequence? name = some items → element ∈ items → Provides root level element) :
      Provides root vocabulary scope

section Lookup

variable {root : Scope} {held : List String} {level : Vocabulary} {levels : List Vocabulary}
  {scope : Scope} {scopes : List Scope}

theorem Provides.scalar?_isSome (hprovides : Provides root level scope)
    (hheld : ∀ predicate ∈ held, root.predicate? predicate = some true) {name : String}
    (hbinds : level.binds held name = true) : (scope.scalar? name).isSome := by
  cases hprovides with
  | intro scalars guarded _ _ =>
      rw [Vocabulary.binds, Bool.or_eq_true, List.any_eq_true] at hbinds
      rcases hbinds with hscalar | ⟨entry, hentry, hguard⟩
      · exact scalars name (List.contains_iff_mem.1 hscalar)
      · rw [Bool.and_eq_true, beq_iff_eq, List.contains_iff_mem] at hguard
        rw [← hguard.1]
        exact guarded entry hentry (hheld entry.2 hguard.2)

theorem exists_scalarIn? (hlevels : List.Forall₂ (Provides root) levels scopes)
    (hheld : ∀ predicate ∈ held, root.predicate? predicate = some true) {name : String}
    (hbinds : levels.any (·.binds held name) = true) :
    ∃ value, scalarIn? scopes name = some value := by
  induction hlevels with
  | nil => cases hbinds
  | @cons level scope levels scopes hlevel _ ih =>
      rw [scalarIn?, List.findSome?_cons]
      cases hscalar : scope.scalar? name with
      | some value => exact ⟨value, rfl⟩
      | none =>
          rw [List.any_cons, Bool.or_eq_true] at hbinds
          rcases hbinds with hhead | htail
          · have hsome := hlevel.scalar?_isSome hheld hhead
            rw [hscalar] at hsome
            cases hsome
          · exact ih htail

theorem exists_sequenceIn? (hlevels : List.Forall₂ (Provides root) levels scopes) {name : String}
    (helements : Vocabulary.elements? levels name = some level) :
    ∃ items, sequenceIn? scopes name = some items ∧
      ∀ element ∈ items, Provides root level element := by
  induction hlevels with
  | nil => cases helements
  | @cons outer scope levels scopes hlevel _ ih =>
      cases hlevel with
      | intro _ _ sequences elements =>
          have hsequence := sequences name
          rw [Vocabulary.elements?, List.findSome?_cons] at helements
          rw [sequenceIn?, List.findSome?_cons]
          cases hlookup : outer.sequences.lookup name with
          | some found =>
              rw [hlookup] at helements hsequence
              cases helements
              obtain ⟨items, hitems⟩ := Option.isSome_iff_exists.1 hsequence
              rw [hitems]
              exact ⟨items, rfl, fun element => elements name _ items element hlookup hitems⟩
          | none =>
              rw [hlookup] at helements hsequence
              rw [Option.not_isSome_iff_eq_none.1 (ne_of_eq_of_ne hsequence Bool.false_ne_true)]
              exact ih helements

theorem exists_applyNamed (naming : Naming) (value : String) {filters : List String}
    (hfilters : filters.all (fun filter => (Filter.ofName? filter).isSome) = true) :
    ∃ text, naming.applyNamed value filters = .ok text := by
  induction filters generalizing value with
  | nil => exact ⟨value, rfl⟩
  | cons filter filters ih =>
      rw [List.all_cons, Bool.and_eq_true] at hfilters
      obtain ⟨conversion, hconversion⟩ := Option.isSome_iff_exists.1 hfilters.1
      rw [Naming.applyNamed, hconversion]
      exact ih (naming.apply value conversion) hfilters.2

end Lookup

/-! ## Expansion -/

variable {context : Context} {predicates : List String}

mutual

theorem Node.exists_expand_of_isGuarded {held : List String}
    {levels : List Vocabulary} {scopes : List Scope}
    (hpredicates : ∀ predicate ∈ predicates, (context.root.predicate? predicate).isSome)
    (hheld : ∀ predicate ∈ held, context.root.predicate? predicate = some true)
    (hlevels : List.Forall₂ (Provides context.root) levels scopes) (node : Node)
    (hguarded : node.isGuarded predicates held levels = true) :
    ∃ text, node.expand context scopes = .ok text := by
  cases node with
  | text content => exact ⟨content, by rw [Node.expand]⟩
  | scalar name filters line =>
      rw [Node.isGuarded, Bool.and_eq_true] at hguarded
      obtain ⟨value, hvalue⟩ := exists_scalarIn? hlevels hheld hguarded.1
      obtain ⟨text, htext⟩ := exists_applyNamed context.naming value hguarded.2
      exact ⟨text, by rw [Node.expand]; simp only [hvalue, htext]⟩
  | list sequence separator body line =>
      rw [Node.isGuarded] at hguarded
      cases helements : Vocabulary.elements? levels sequence with
      | none => simp [helements] at hguarded
      | some level =>
          simp only [helements] at hguarded
          obtain ⟨items, hitems, hprovides⟩ := exists_sequenceIn? hlevels helements
          have hbodies : ∀ item ∈ items,
              ∃ text, expandAll context (item :: scopes) body = .ok text := by
            intro item hitem
            exact exists_expandAll_of_areGuarded hpredicates hheld
              (.cons (hprovides item hitem) hlevels) body hguarded
          obtain ⟨texts, htexts⟩ := exists_mapM_eq_ok hbodies
          exact ⟨Text.join separator texts,
            by rw [Node.expand]; simp only [hitems, htexts, Except.ok_bind, Except.pure_eq_ok]⟩
  | conditional predicate negated body line =>
      rw [Node.isGuarded, Bool.and_eq_true, List.contains_iff_mem] at hguarded
      obtain ⟨holds, hholds⟩ := Option.isSome_iff_exists.1 (hpredicates predicate hguarded.1)
      rw [Node.expand]
      simp only [hholds]
      by_cases hkept : (holds != negated) = true
      · rw [if_pos hkept]
        refine exists_expandAll_of_areGuarded hpredicates ?_ hlevels body hguarded.2
        cases negated with
        | true => exact hheld
        | false =>
            -- A positive conditional that is kept has shown its predicate to hold.
            have hnow : holds = true := by simpa using hkept
            rw [hnow] at hholds
            intro known hknown
            rcases List.mem_cons.1 hknown with rfl | hbefore
            · exact hholds
            · exact hheld known hbefore
      · exact ⟨"", if_neg hkept⟩

theorem exists_expandAll_of_areGuarded {held : List String}
    {levels : List Vocabulary} {scopes : List Scope}
    (hpredicates : ∀ predicate ∈ predicates, (context.root.predicate? predicate).isSome)
    (hheld : ∀ predicate ∈ held, context.root.predicate? predicate = some true)
    (hlevels : List.Forall₂ (Provides context.root) levels scopes) (nodes : List Node)
    (hguarded : areGuarded predicates held levels nodes = true) :
    ∃ text, expandAll context scopes nodes = .ok text := by
  cases nodes with
  | nil => exact ⟨"", by rw [expandAll]⟩
  | cons node nodes =>
      rw [areGuarded, Bool.and_eq_true] at hguarded
      obtain ⟨text, htext⟩ :=
        node.exists_expand_of_isGuarded hpredicates hheld hlevels hguarded.1
      obtain ⟨rest, hrest⟩ :=
        exists_expandAll_of_areGuarded hpredicates hheld hlevels nodes hguarded.2
      exact ⟨text ++ rest, by rw [expandAll, htext, hrest]; rfl⟩

end

end Scaffold.Template
