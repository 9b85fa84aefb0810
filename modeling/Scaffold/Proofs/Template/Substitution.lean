import Scaffold.Proofs.Outcome
import Scaffold.Template.Expansion
import Scaffold.Template.Substitution

/-!
# Expansion is substitution

Expanding looks a name up along a chain of scopes.  The chain is one flat environment in which
inner scopes have taken the place of outer ones, so a template expands to its meaning there.  The
meaning in turn is settled by what the tokens reached from left to right yield: the first fault
among them, or else all texts one after the other.
-/

namespace Scaffold

attribute [ext] Environment

namespace Environment

/-- What a chain of scopes, innermost first, and the predicates of the root stand for. -/
def ofScopes (root : Scope) (scopes : List Scope) : Environment :=
  ⟨Template.scalarIn? scopes, Template.sequenceIn? scopes, root.predicate?⟩

theorem ofScopes_cons (root scope : Scope) (scopes : List Scope) :
    ofScopes root (scope :: scopes) = (ofScopes root scopes).override scope := by
  have hscalars : Template.scalarIn? (scope :: scopes) =
      fun name => (scope.scalar? name).or (Template.scalarIn? scopes name) := by
    funext name
    rw [Template.scalarIn?, List.findSome?_cons]
    cases scope.scalar? name <;> rfl
  have hsequences : Template.sequenceIn? (scope :: scopes) =
      fun name => (scope.sequence? name).or (Template.sequenceIn? scopes name) := by
    funext name
    rw [Template.sequenceIn?, List.findSome?_cons]
    cases scope.sequence? name <;> rfl
  rw [ofScopes, hscalars, hsequences]
  rfl

theorem ofScopes_root (root : Scope) : ofScopes root [root] = ofScope root := by
  have hscalars : Template.scalarIn? [root] = root.scalar? := by
    funext name
    simp [Template.scalarIn?]
  have hsequences : Template.sequenceIn? [root] = root.sequence? := by
    funext name
    simp [Template.sequenceIn?]
  rw [ofScopes, hscalars, hsequences, ofScope]

end Environment

/-! ## Filters -/

/-- Filters are found and applied one by one; all of them can be found first. -/
theorem Naming.applyNamed_eq_filtered (naming : Naming) (value : String) (names : List String) :
    naming.applyNamed value names = naming.filtered value names := by
  induction names generalizing value with
  | nil => rfl
  | cons name names ih =>
      rw [applyNamed, filtered, List.find?_cons, List.filterMap_cons]
      cases Filter.ofName? name with
      | none => rfl
      | some filter => exact ih (naming.apply value filter)

/-! ## From the chain to the environment -/

namespace Template

mutual

theorem Node.expand_eq_meaning (context : Context) (scopes : List Scope) (node : Node) :
    node.expand context scopes =
      node.meaning context.naming (.ofScopes context.root scopes) := by
  cases node with
  | text content => rw [Node.expand, Node.meaning]
  | scalar name filters line =>
      rw [Node.expand, Node.meaning]
      simp only [Environment.ofScopes, Naming.applyNamed_eq_filtered]
      cases scalarIn? scopes name with
      | none => rfl
      | some value =>
          simp only
          cases context.naming.filtered value filters <;> rfl
  | list sequence separator body line =>
      rw [Node.expand, Node.meaning]
      have hbodies : ∀ item, expandAll context (item :: scopes) body =
          meaningOf context.naming ((Environment.ofScopes context.root scopes).override item)
            body := by
        intro item
        rw [← Environment.ofScopes_cons]
        exact expandAll_eq_meaningOf context (item :: scopes) body
      simp only [hbodies]
      rfl
  | conditional predicate negated body line =>
      rw [Node.expand, Node.meaning, expandAll_eq_meaningOf context scopes body]
      simp only [Environment.ofScopes]
      cases context.root.predicate? predicate with
      | none => rfl
      | some holds => cases holds <;> cases negated <;> rfl

theorem expandAll_eq_meaningOf (context : Context) (scopes : List Scope) (nodes : List Node) :
    expandAll context scopes nodes =
      meaningOf context.naming (.ofScopes context.root scopes) nodes := by
  cases nodes with
  | nil => rw [expandAll, meaningOf]
  | cons node nodes =>
      rw [expandAll, meaningOf, Node.expand_eq_meaning context scopes node,
        expandAll_eq_meaningOf context scopes nodes]

end

/-! ## The tokens that are reached -/

mutual

/-- What the tokens reached in a node yield, from left to right: a text or a fault. -/
def Node.trace (naming : Naming) (environment : Environment) :
    Node → List (Except Fault String)
  | .text content => [.ok content]
  | .scalar name filters line =>
      match environment.scalars name with
      | none => [.error (.unresolvedScalar name line)]
      | some value =>
          [(naming.filtered value filters).mapError fun filter => .unknownFilter filter line]
  | .list sequence separator body line =>
      match environment.sequences sequence with
      | none => [.error (.unknownSequence sequence line)]
      | some elements =>
          List.intercalate [.ok separator] <| elements.map fun element =>
            traceOf naming (environment.override element) body
  | .conditional predicate negated body line =>
      match environment.predicates predicate with
      | none => [.error (.unknownPredicate predicate line)]
      | some holds => if holds = negated then [] else traceOf naming environment body

def traceOf (naming : Naming) (environment : Environment) :
    List Node → List (Except Fault String)
  | [] => []
  | node :: nodes => node.trace naming environment ++ traceOf naming environment nodes

end

/-- The fault of an outcome. -/
def faultOf? : Except Fault String → Option Fault
  | .ok _ => none
  | .error fault => some fault

/-- The first fault of a trace, or else its texts one after the other. -/
def settle (trace : List (Except Fault String)) : Except Fault String :=
  match trace.findSome? faultOf? with
  | some fault => .error fault
  | none => .ok (String.join (trace.filterMap Except.toOption))

theorem settle_nil : settle [] = .ok "" := by
  simp [settle]

theorem settle_error_cons (fault : Fault) (trace : List (Except Fault String)) :
    settle (.error fault :: trace) = .error fault := rfl

theorem settle_ok_cons (text : String) (trace : List (Except Fault String)) :
    settle (.ok text :: trace) = (do pure (text ++ (← settle trace))) := by
  simp only [settle, List.findSome?_cons, faultOf?, List.filterMap_cons, Except.toOption,
    String.join_cons]
  cases trace.findSome? faultOf? <;> rfl

theorem settle_singleton (outcome : Except Fault String) : settle [outcome] = outcome := by
  cases outcome with
  | error fault => exact settle_error_cons fault []
  | ok text => simp [settle_ok_cons, settle_nil]

theorem settle_append (front back : List (Except Fault String)) :
    settle (front ++ back) = (do
      let text ← settle front
      let rest ← settle back
      pure (text ++ rest)) := by
  induction front with
  | nil =>
      rw [List.nil_append, settle_nil]
      cases settle back <;> simp
  | cons outcome front ih =>
      cases outcome with
      | error fault => rfl
      | ok text =>
          rw [List.cons_append, settle_ok_cons, settle_ok_cons, ih]
          cases settle front with
          | error fault => rfl
          | ok first => cases settle back <;> simp [String.append_assoc]

/-- Repeating a body settles like the bodies with a separator between neighbours. -/
theorem settle_intercalate (separator : String) (trace : Scope → List (Except Fault String))
    (elements : List Scope) :
    settle (List.intercalate [.ok separator] (elements.map trace)) = (do
      let bodies ← elements.mapM fun element => settle (trace element)
      pure (Text.join separator bodies)) := by
  induction elements with
  | nil => exact settle_nil
  | cons element elements ih =>
      cases elements with
      | nil =>
          rw [List.map_singleton, List.intercalate_singleton, List.mapM_cons, List.mapM_nil]
          cases settle (trace element) <;> rfl
      | cons next elements =>
          rw [List.map_cons, List.map_cons, List.intercalate_cons_cons, ← List.map_cons,
            settle_append, settle_append, settle_singleton, ih]
          simp only [List.mapM_cons]
          cases settle (trace element) with
          | error fault => rfl
          | ok first =>
              cases settle (trace next) with
              | error fault => rfl
              | ok second =>
                  cases elements.mapM fun element => settle (trace element) <;>
                    simp [Text.join]

mutual

theorem Node.meaning_eq_settle (naming : Naming) (environment : Environment) (node : Node) :
    node.meaning naming environment = settle (node.trace naming environment) := by
  cases node with
  | text content => rw [Node.meaning, Node.trace, settle_singleton]
  | scalar name filters line =>
      rw [Node.meaning, Node.trace]
      cases environment.scalars name with
      | none => exact (settle_singleton _).symm
      | some value => exact (settle_singleton _).symm
  | list sequence separator body line =>
      rw [Node.meaning, Node.trace]
      cases environment.sequences sequence with
      | none => exact (settle_singleton _).symm
      | some elements =>
          have hbodies : ∀ element, meaningOf naming (environment.override element) body =
              settle (traceOf naming (environment.override element) body) := by
            intro element
            exact meaningOf_eq_settle naming (environment.override element) body
          simp only [hbodies]
          rw [settle_intercalate]
  | conditional predicate negated body line =>
      rw [Node.meaning, Node.trace]
      cases environment.predicates predicate with
      | none => exact (settle_singleton _).symm
      | some holds =>
          simp only
          split
          · exact settle_nil.symm
          · exact meaningOf_eq_settle naming environment body

theorem meaningOf_eq_settle (naming : Naming) (environment : Environment) (nodes : List Node) :
    meaningOf naming environment nodes = settle (traceOf naming environment nodes) := by
  cases nodes with
  | nil => rw [meaningOf, traceOf, settle_nil]
  | cons node nodes =>
      rw [meaningOf, traceOf, settle_append, Node.meaning_eq_settle naming environment node,
        meaningOf_eq_settle naming environment nodes]

end

end Template

/-! ## Predicates of elements -/

namespace Scope

mutual

/-- The scope without predicates, its own or those of the elements of its sequences. -/
def unconditional : Scope → Scope
  | ⟨scalars, sequences, _⟩ => ⟨scalars, unconditionalSequences sequences, []⟩

def unconditionalSequences : List (String × List Scope) → List (String × List Scope)
  | [] => []
  | (name, items) :: rest => (name, unconditionalItems items) :: unconditionalSequences rest

def unconditionalItems : List Scope → List Scope
  | [] => []
  | item :: items => unconditional item :: unconditionalItems items

end

/-- The scope with its own predicates, but none in the elements of its sequences. -/
def withUnconditionalElements (scope : Scope) : Scope :=
  { scope with sequences := unconditionalSequences scope.sequences }

theorem unconditionalItems_eq_map (items : List Scope) :
    unconditionalItems items = items.map unconditional := by
  induction items with
  | nil => rfl
  | cons item items ih => rw [unconditionalItems, ih, List.map_cons]

theorem lookup_unconditionalSequences (sequences : List (String × List Scope)) (name : String) :
    (unconditionalSequences sequences).lookup name =
      (sequences.lookup name).map (List.map unconditional) := by
  induction sequences with
  | nil => rfl
  | cons entry sequences ih =>
      obtain ⟨other, items⟩ := entry
      rw [unconditionalSequences, List.lookup_cons, List.lookup_cons, ih]
      split
      · rw [unconditionalItems_eq_map, Option.map_some]
      · rfl

end Scope

namespace Environment

/-- The environment whose elements have no predicates. -/
def unconditional (environment : Environment) : Environment :=
  { environment with
    sequences := fun name => (environment.sequences name).map (List.map Scope.unconditional) }

theorem unconditional_ofScope (root : Scope) :
    (ofScope root).unconditional = ofScope root.withUnconditionalElements := by
  have hsequences : (ofScope root).unconditional.sequences =
      root.withUnconditionalElements.sequence? := by
    funext name
    exact (Scope.lookup_unconditionalSequences root.sequences name).symm
  exact Environment.ext rfl hsequences rfl

theorem unconditional_override (environment : Environment) (element : Scope) :
    (environment.override element).unconditional =
      environment.unconditional.override element.unconditional := by
  obtain ⟨scalars, sequences, predicates⟩ := element
  have hsequences : ∀ name,
      ((sequences.lookup name).or (environment.sequences name)).map
          (List.map Scope.unconditional) =
        ((Scope.unconditionalSequences sequences).lookup name).or
          ((environment.sequences name).map (List.map Scope.unconditional)) := by
    intro name
    rw [Scope.lookup_unconditionalSequences]
    cases sequences.lookup name <;> rfl
  exact Environment.ext rfl (funext hsequences) rfl

end Environment

namespace Template

mutual

theorem Node.meaning_unconditional (naming : Naming) (environment : Environment) (node : Node) :
    node.meaning naming environment.unconditional = node.meaning naming environment := by
  cases node with
  | text content => rw [Node.meaning, Node.meaning]
  | scalar name filters line => rw [Node.meaning, Node.meaning, Environment.unconditional]
  | list sequence separator body line =>
      rw [Node.meaning, Node.meaning]
      simp only [Environment.unconditional]
      cases environment.sequences sequence with
      | none => rfl
      | some elements =>
          have hbodies : ∀ element : Scope,
              meaningOf naming (environment.unconditional.override element.unconditional) body =
                meaningOf naming (environment.override element) body := by
            intro element
            rw [← Environment.unconditional_override]
            exact meaningOf_unconditional naming (environment.override element) body
          simp only [Option.map_some, List.mapM_map, ← hbodies]
          rfl
  | conditional predicate negated body line =>
      rw [Node.meaning, Node.meaning, meaningOf_unconditional naming environment body]
      rfl

theorem meaningOf_unconditional (naming : Naming) (environment : Environment)
    (nodes : List Node) :
    meaningOf naming environment.unconditional nodes = meaningOf naming environment nodes := by
  cases nodes with
  | nil => rw [meaningOf, meaningOf]
  | cons node nodes =>
      rw [meaningOf, meaningOf, Node.meaning_unconditional naming environment node,
        meaningOf_unconditional naming environment nodes]

end

/-! ## Templates -/

theorem expand_eq_meaningOf (template : Template) (context : Context) :
    template.expand context = (do
      meaningOf context.naming (.ofScope context.root) (← template.nodes)) := by
  simp only [expand, expandAll_eq_meaningOf, Environment.ofScopes_root]

theorem expand_unconditional (template : Template) (context : Context) :
    template.expand { context with root := context.root.withUnconditionalElements } =
      template.expand context := by
  rw [expand_eq_meaningOf, expand_eq_meaningOf]
  simp only [← Environment.unconditional_ofScope, meaningOf_unconditional]

/-- A template expands to its meaning in the environment of the root; what its tokens yield, from
left to right, settles the outcome; and the predicates of elements have no say in it. -/
theorem expand_is_substitution (template : Template) (context : Context) :
    template.expand context = (do
        meaningOf context.naming (.ofScope context.root) (← template.nodes)) ∧
      template.expand context = (do
        settle (traceOf context.naming (.ofScope context.root) (← template.nodes))) ∧
      ∀ root : Scope,
        root.withUnconditionalElements = context.root.withUnconditionalElements →
          template.expand { context with root } = template.expand context := by
  refine ⟨expand_eq_meaningOf template context, ?_, ?_⟩
  · rw [expand_eq_meaningOf]
    simp only [meaningOf_eq_settle]
  · intro root hroot
    calc template.expand { context with root }
      _ = template.expand { context with root := root.withUnconditionalElements } :=
        (expand_unconditional template { context with root }).symm
      _ = template.expand { context with root := context.root.withUnconditionalElements } := by
        rw [hroot]
      _ = template.expand context := expand_unconditional template context

/-- A list whose elements contradict the root about a predicate, and whose scalars go through two
filters. -/
theorem expand_contradicting_elements :
    let column (name : String) (hidden : Bool) : Scope :=
      .ofBindings [("column", name)] [] [("hidden", hidden)]
    let root (hidden : Bool) : Scope :=
      .ofBindings [] [("columns", [column "row_id" hidden, column "label" hidden])]
        [("hidden", true)]
    let template : Template := ⟨"names", .endpoint,
      "[[[columns|,]]][[column|kebab|upper]][[?hidden]]*[[/?hidden]][[[/columns]]]"⟩
    (root false).withUnconditionalElements = (root true).withUnconditionalElements ∧
      template.expand ⟨{}, root false⟩ = template.expand ⟨{}, root true⟩ ∧
      template.expand ⟨{}, root true⟩ = .ok "ROW-ID*,LABEL*" :=
  ⟨rfl, (expand_is_substitution _ ⟨{}, _⟩).2.2 _ rfl,
    (expand_is_substitution _ ⟨{}, _⟩).1.trans (by decide +kernel)⟩

end Template

end Scaffold
