import Scaffold.Proofs.Template.Substitution

/-!
# Further names

A template that expands goes on to expand to the same text when more names are bound.  A name that
had a value keeps it, be it the value of the root or of an element around the tag; and what a
template has passed over, it passes over again.
-/

namespace Scaffold

/-! ## Environments with more names -/

namespace Environment

/-- An environment with all names of another one, which stand for the same. -/
structure Extends (extended environment : Environment) : Prop where
  scalars : ∀ name value, environment.scalars name = some value →
    extended.scalars name = some value
  sequences : ∀ name items, environment.sequences name = some items →
    extended.sequences name = some items
  predicates : ∀ name holds, environment.predicates name = some holds →
    extended.predicates name = some holds

variable {extended environment : Environment}

theorem Extends.trans {further : Environment} (h : further.Extends extended)
    (h' : extended.Extends environment) : further.Extends environment :=
  ⟨fun name value hvalue => h.scalars name value (h'.scalars name value hvalue),
    fun name items hitems => h.sequences name items (h'.sequences name items hitems),
    fun name holds hholds => h.predicates name holds (h'.predicates name holds hholds)⟩

theorem or_eq_some_of_imp {α : Type} {own around further : Option α} {value : α}
    (himp : around = some value → further = some value) (h : own.or around = some value) :
    own.or further = some value := by
  cases own with
  | some kept => exact h
  | none => exact himp h

/-- A name of an element hides that name of either environment. -/
theorem Extends.override (h : extended.Extends environment) (element : Scope) :
    (extended.override element).Extends (environment.override element) :=
  ⟨fun name value => or_eq_some_of_imp (h.scalars name value),
    fun name items => or_eq_some_of_imp (h.sequences name items), h.predicates⟩

end Environment

/-! ## Scopes with more names -/

namespace Scope

/-- A scope with all names of another one, which stand for the same. -/
def Extends (extended scope : Scope) : Prop :=
  (Environment.ofScope extended).Extends (Environment.ofScope scope)

theorem lookup_put_of_new {α : Type} {entries : List (String × α)} {fresh : String}
    (hfresh : entries.lookup fresh = none) (added : α) {name : String} {value : α}
    (h : entries.lookup name = some value) :
    (Entries.put fresh added entries).lookup name = some value := by
  have hne : name ≠ fresh := by
    rintro rfl
    rw [hfresh] at h
    cases h
  rw [Entries.lookup_put, if_neg hne, h]

variable {scope : Scope} {fresh : String}

theorem extends_scalar (hfresh : scope.scalar? fresh = none) (added : String) :
    (scope.scalar fresh added).Extends scope :=
  ⟨fun _ _ h => lookup_put_of_new hfresh added h, fun _ _ h => h, fun _ _ h => h⟩

theorem extends_sequence (hfresh : scope.sequence? fresh = none) (added : List Scope) :
    (scope.sequence fresh added).Extends scope :=
  ⟨fun _ _ h => h, fun _ _ h => lookup_put_of_new hfresh added h, fun _ _ h => h⟩

theorem extends_predicate (hfresh : scope.predicate? fresh = none) (added : Bool) :
    (scope.predicate fresh added).Extends scope :=
  ⟨fun _ _ h => h, fun _ _ h => h, fun _ _ h => lookup_put_of_new hfresh added h⟩

end Scope

/-! ## Meanings -/

namespace Template

variable {naming : Naming}

mutual

theorem Node.meaning_of_extends {extended environment : Environment}
    (hextends : extended.Extends environment) (node : Node) {text : String}
    (h : node.meaning naming environment = .ok text) :
    node.meaning naming extended = .ok text := by
  cases node with
  | text content => rwa [Node.meaning] at h ⊢
  | scalar name filters line =>
      rw [Node.meaning] at h ⊢
      cases hvalue : environment.scalars name with
      | none =>
          rw [hvalue] at h
          cases h
      | some value =>
          rw [hvalue] at h
          rw [hextends.scalars name value hvalue]
          exact h
  | list sequence separator body line =>
      rw [Node.meaning] at h ⊢
      cases hitems : environment.sequences sequence with
      | none =>
          rw [hitems] at h
          cases h
      | some items =>
          rw [hitems] at h
          rw [hextends.sequences sequence items hitems]
          obtain ⟨bodies, hbodies, htext⟩ := Except.bind_eq_ok_iff.1 h
          have hextended : items.mapM (fun element =>
              meaningOf naming (extended.override element) body) = .ok bodies :=
            mapM_of_imp
              (fun element _ => meaningOf_of_extends (hextends.override element) body) hbodies
          exact Except.bind_eq_ok_iff.2 ⟨bodies, hextended, htext⟩
  | conditional predicate negated body line =>
      rw [Node.meaning] at h ⊢
      cases hholds : environment.predicates predicate with
      | none =>
          rw [hholds] at h
          cases h
      | some holds =>
          rw [hholds] at h
          rw [hextends.predicates predicate holds hholds]
          dsimp only at h ⊢
          split at h
          · next hdropped =>
              rw [if_pos hdropped]
              exact h
          · next hkept =>
              rw [if_neg hkept]
              exact meaningOf_of_extends hextends body h

theorem meaningOf_of_extends {extended environment : Environment}
    (hextends : extended.Extends environment) (nodes : List Node) {text : String}
    (h : meaningOf naming environment nodes = .ok text) :
    meaningOf naming extended nodes = .ok text := by
  cases nodes with
  | nil => rwa [meaningOf] at h ⊢
  | cons node nodes =>
      rw [meaningOf] at h ⊢
      obtain ⟨first, hfirst, hnext⟩ := Except.bind_eq_ok_iff.1 h
      obtain ⟨rest, hrest, htext⟩ := Except.bind_eq_ok_iff.1 hnext
      rw [Node.meaning_of_extends hextends node hfirst,
        meaningOf_of_extends hextends nodes hrest]
      exact htext

end

/-- What a template expands to stays when the root gets further names. -/
theorem expand_with_further_names (naming : Naming) {root extended : Scope}
    (hroot : extended.Extends root) (template : Template) {text : String}
    (h : template.expand ⟨naming, root⟩ = .ok text) :
    template.expand ⟨naming, extended⟩ = .ok text := by
  rw [expand_eq_meaningOf] at h ⊢
  obtain ⟨nodes, hnodes, hmeaning⟩ := Except.bind_eq_ok_iff.1 h
  exact Except.bind_eq_ok_iff.2 ⟨nodes, hnodes, meaningOf_of_extends hroot nodes hmeaning⟩

/-- The root gets a scalar that the elements of a list have, and names that stand in a dropped
conditional. -/
theorem expand_users_with_further_names :
    let column : Scope := .ofBindings [("column", "inner")] [] []
    let root : Scope :=
      .ofBindings [("table", "users")] [("columns", [column])] [("verbose", false)]
    let extended : Scope :=
      ((root.scalar "column" "outer").sequence "joins" [column, column]).predicate "join" true
    let template : Template :=
      ⟨"names", .endpoint, "[[[columns]]][[table]].[[column]][[[/columns]]]" ++
        "[[?verbose]][[[joins]]][[column]][[[/joins]]][[/?verbose]]"⟩
    template.expand ⟨{}, root⟩ = .ok "users.inner" ∧
      template.expand ⟨{}, extended⟩ = .ok "users.inner" := by
  intro column root extended template
  have htext : template.expand ⟨{}, root⟩ = .ok "users.inner" := by decide +kernel
  have hextends : extended.Extends root :=
    (Scope.extends_predicate rfl true).trans <| (Scope.extends_sequence rfl _).trans <|
      Scope.extends_scalar rfl "outer"
  exact ⟨htext, expand_with_further_names {} hextends template htext⟩

end Template

end Scaffold
