import Scaffold.Proofs.Outcome
import Scaffold.Template.Expansion

/-!
# Putting expansions together

Nodes expand one after the other, so the text of a stretch of nodes is made of the texts of its
parts.  Here is what each kind of node adds when its names are there.
-/

namespace Scaffold.Template

variable {context : Context} {scopes : List Scope}

theorem expandAll_nil : expandAll context scopes [] = .ok "" := rfl

theorem expandAll_cons (node : Node) (nodes : List Node) :
    expandAll context scopes (node :: nodes) = (do
      let text ← node.expand context scopes
      let rest ← expandAll context scopes nodes
      pure (text ++ rest)) := rfl

theorem expandAll_append (front back : List Node) :
    expandAll context scopes (front ++ back) = (do
      let text ← expandAll context scopes front
      let rest ← expandAll context scopes back
      pure (text ++ rest)) := by
  induction front with
  | nil =>
      rw [List.nil_append, expandAll_nil]
      cases expandAll context scopes back <;> simp
  | cons node front ih =>
      rw [List.cons_append, expandAll_cons, expandAll_cons, ih]
      cases node.expand context scopes with
      | error fault => rfl
      | ok first =>
          cases expandAll context scopes front with
          | error fault => rfl
          | ok text => cases expandAll context scopes back <;> simp [String.append_assoc]

theorem expandAll_append_eq_ok_iff {front back : List Node} {text : String} :
    expandAll context scopes (front ++ back) = .ok text ↔
      ∃ first second, expandAll context scopes front = .ok first ∧
        expandAll context scopes back = .ok second ∧ first ++ second = text := by
  simp only [expandAll_append, Except.bind_eq_ok_iff, Except.pure_eq_ok, Except.ok.injEq]
  constructor
  · rintro ⟨first, hfirst, second, hsecond, heq⟩
    exact ⟨first, second, hfirst, hsecond, heq⟩
  · rintro ⟨first, second, hfirst, hsecond, heq⟩
    exact ⟨first, hfirst, second, hsecond, heq⟩

/-- Nodes whose texts are known one by one. -/
theorem expandAll_of_forall₂ {nodes : List Node} {texts : List String} {text : String}
    (h : List.Forall₂ (fun node text => node.expand context scopes = .ok text) nodes texts)
    (htext : String.join texts = text) : expandAll context scopes nodes = .ok text := by
  rw [← htext]
  induction h generalizing text with
  | nil => rfl
  | cons hnode _ ih =>
      rw [expandAll_cons, hnode, ih rfl, String.join_cons]
      rfl

/-! ## Looking names up -/

theorem scalarIn?_of_some {scope : Scope} {name value : String}
    (h : scope.scalar? name = some value) : scalarIn? (scope :: scopes) name = some value := by
  rw [scalarIn?, List.findSome?_cons, h]

theorem scalarIn?_of_none {scope : Scope} {name : String} (h : scope.scalar? name = none) :
    scalarIn? (scope :: scopes) name = scalarIn? scopes name := by
  rw [scalarIn?, List.findSome?_cons, h]
  rfl

theorem sequenceIn?_of_some {scope : Scope} {name : String} {items : List Scope}
    (h : scope.sequence? name = some items) :
    sequenceIn? (scope :: scopes) name = some items := by
  rw [sequenceIn?, List.findSome?_cons, h]

/-! ## Kinds of nodes -/

theorem expand_text (content : String) :
    (Node.text content).expand context scopes = .ok content := rfl

theorem expand_scalar_eq_ok_iff {name text : String} {filters : List String} {line : Nat} :
    (Node.scalar name filters line).expand context scopes = .ok text ↔
      ∃ value, scalarIn? scopes name = some value ∧
        context.naming.applyNamed value filters = .ok text := by
  rw [Node.expand]
  cases scalarIn? scopes name with
  | none => simp
  | some value =>
      simp only [Option.some.injEq, exists_eq_left']
      cases context.naming.applyNamed value filters <;> simp

theorem expand_filtered {name value text : String} {filters : List String} {line : Nat}
    (h : scalarIn? scopes name = some value)
    (hfilters : context.naming.applyNamed value filters = .ok text) :
    (Node.scalar name filters line).expand context scopes = .ok text :=
  expand_scalar_eq_ok_iff.2 ⟨value, h, hfilters⟩

theorem expand_scalar {name value : String} {line : Nat} (h : scalarIn? scopes name = some value) :
    (Node.scalar name [] line).expand context scopes = .ok value :=
  expand_filtered h rfl

/-- A list over things that have scopes is made of the texts for the things. -/
theorem expand_list {α : Type} {things : List α} {scopeOf : α → Scope} {textOf : α → String}
    {sequence separator : String} {body : List Node} {line : Nat}
    (hsequence : sequenceIn? scopes sequence = some (things.map scopeOf))
    (hbody : ∀ a ∈ things, expandAll context (scopeOf a :: scopes) body = .ok (textOf a)) :
    (Node.list sequence separator body line).expand context scopes =
      .ok (Text.join separator (things.map textOf)) := by
  have hbodies : (things.map scopeOf).mapM (fun item => expandAll context (item :: scopes) body) =
      .ok (things.map textOf) := by
    rw [mapM_eq_ok_iff, List.forall₂_map_left_iff, List.forall₂_map_right_iff]
    exact List.forall₂_same.2 hbody
  rw [Node.expand, hsequence]
  dsimp only
  rw [hbodies]
  rfl

theorem expand_conditional {predicate : String} {holds negated : Bool} {body : List Node}
    {line : Nat} (h : context.root.predicate? predicate = some holds) :
    (Node.conditional predicate negated body line).expand context scopes =
      if holds != negated then expandAll context scopes body else .ok "" := by
  rw [Node.expand, h]

end Scaffold.Template
