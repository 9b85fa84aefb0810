import Scaffold.Proofs.Entries
import Scaffold.Proofs.Template.Substitution

/-!
# Names a template does not use

A template that mentions neither some sequences nor some predicates, at the root or in the body of
any block, means the same whatever these stand for.
-/

namespace Scaffold

/-- Names of sequences, and names of predicates. -/
structure Template.BlockNames where
  sequences : List String
  predicates : List String

namespace Template

mutual

/-- Whether no block of a node, itself included, has one of some names. -/
def Node.avoids (names : BlockNames) : Node → Bool
  | .text _ => true
  | .scalar _ _ _ => true
  | .list sequence _ body _ => !names.sequences.contains sequence && avoidsAll names body
  | .conditional predicate _ body _ =>
      !names.predicates.contains predicate && avoidsAll names body

def avoidsAll (names : BlockNames) : List Node → Bool
  | [] => true
  | node :: nodes => node.avoids names && avoidsAll names nodes

end

end Template

namespace Environment

/-- Environments in which only some sequences and predicates may stand for something else. -/
structure AgreesBut (names : Template.BlockNames) (environment other : Environment) : Prop where
  scalars : environment.scalars = other.scalars
  sequences : ∀ name ∉ names.sequences, environment.sequences name = other.sequences name
  predicates : ∀ name ∉ names.predicates, environment.predicates name = other.predicates name

variable {names : Template.BlockNames} {environment other : Environment}

/-- The bindings of an element hide those of either environment. -/
theorem AgreesBut.override (h : environment.AgreesBut names other) (element : Scope) :
    (environment.override element).AgreesBut names (other.override element) where
  scalars := by simp only [Environment.override, h.scalars]
  sequences name hname := by simp only [Environment.override, h.sequences name hname]
  predicates := h.predicates

theorem agreesBut_ofBindings (scalars : List (String × String))
    {sequences sequences' : List (String × List Scope)} {predicates predicates' : List (String × Bool)}
    (hsequences : (sequences.filter fun entry => !names.sequences.contains entry.1) =
      sequences'.filter fun entry => !names.sequences.contains entry.1)
    (hpredicates : (predicates.filter fun entry => !names.predicates.contains entry.1) =
      predicates'.filter fun entry => !names.predicates.contains entry.1) :
    (ofScope (.ofBindings scalars sequences predicates)).AgreesBut names
      (ofScope (.ofBindings scalars sequences' predicates')) where
  scalars := rfl
  sequences name hname :=
    Entries.lookup_ofList_congr (fun name => !names.sequences.contains name)
      (by simpa using hname) hsequences
  predicates name hname :=
    Entries.lookup_ofList_congr (fun name => !names.predicates.contains name)
      (by simpa using hname) hpredicates

end Environment

namespace Template

variable {names : BlockNames} {naming : Naming}

mutual

theorem Node.meaning_congr {environment other : Environment}
    (hagrees : environment.AgreesBut names other) (node : Node)
    (h : node.avoids names = true) :
    node.meaning naming environment = node.meaning naming other := by
  cases node with
  | text content => rw [Node.meaning, Node.meaning]
  | scalar name filters line => rw [Node.meaning, Node.meaning, hagrees.scalars]
  | list sequence separator body line =>
      rw [Node.avoids, Bool.and_eq_true, Bool.not_eq_true', List.contains_eq_mem,
        decide_eq_false_iff_not] at h
      obtain ⟨hsequence, hbody⟩ := h
      have hbodies : ∀ element, meaningOf naming (environment.override element) body =
          meaningOf naming (other.override element) body :=
        fun element => meaningOf_congr (hagrees.override element) body hbody
      rw [Node.meaning, Node.meaning, hagrees.sequences sequence hsequence]
      simp only [hbodies]
  | conditional predicate negated body line =>
      rw [Node.avoids, Bool.and_eq_true, Bool.not_eq_true', List.contains_eq_mem,
        decide_eq_false_iff_not] at h
      obtain ⟨hpredicate, hbody⟩ := h
      rw [Node.meaning, Node.meaning, hagrees.predicates predicate hpredicate,
        meaningOf_congr hagrees body hbody]

theorem meaningOf_congr {environment other : Environment}
    (hagrees : environment.AgreesBut names other) (nodes : List Node)
    (h : avoidsAll names nodes = true) :
    meaningOf naming environment nodes = meaningOf naming other nodes := by
  cases nodes with
  | nil => rw [meaningOf, meaningOf]
  | cons node nodes =>
      rw [avoidsAll, Bool.and_eq_true] at h
      rw [meaningOf, meaningOf, Node.meaning_congr hagrees node h.1,
        meaningOf_congr hagrees nodes h.2]

end

/-- What a template expands to does not depend on what names it avoids stand for. -/
theorem expand_congr {template : Template} {nodes : List Node} {root other : Scope}
    (hnodes : template.nodes = .ok nodes) (havoids : avoidsAll names nodes = true)
    (hagrees : (Environment.ofScope root).AgreesBut names (.ofScope other)) :
    template.expand ⟨naming, root⟩ = template.expand ⟨naming, other⟩ := by
  rw [expand_eq_meaningOf, expand_eq_meaningOf, hnodes]
  exact meaningOf_congr hagrees nodes havoids

end Template

end Scaffold
