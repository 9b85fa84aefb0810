import Scaffold.Entries
import Scaffold.Naming

/-!
# Scopes

The named values a template sees: scalars, sequences of further scopes, and predicates.  Each kind
of name is kept in order, so scopes with the same bindings are equal.
-/

namespace Scaffold

/-- The values visible at one level of a template. -/
structure Scope where
  scalars : List (String × String) := []
  sequences : List (String × List Scope) := []
  predicates : List (String × Bool) := []
deriving Inhabited

namespace Scope

def empty : Scope := {}

/-- The scope with given bindings, of which the last one counts where a name is given twice. -/
def ofBindings (scalars : List (String × String)) (sequences : List (String × List Scope))
    (predicates : List (String × Bool)) : Scope :=
  { scalars := Entries.ofList scalars
    sequences := Entries.ofList sequences
    predicates := Entries.ofList predicates }

def scalar (name value : String) (scope : Scope) : Scope :=
  { scope with scalars := Entries.put name value scope.scalars }

def sequence (name : String) (items : List Scope) (scope : Scope) : Scope :=
  { scope with sequences := Entries.put name items scope.sequences }

def predicate (name : String) (value : Bool) (scope : Scope) : Scope :=
  { scope with predicates := Entries.put name value scope.predicates }

def scalar? (scope : Scope) (name : String) : Option String :=
  scope.scalars.lookup name

def sequence? (scope : Scope) (name : String) : Option (List Scope) :=
  scope.sequences.lookup name

def predicate? (scope : Scope) (name : String) : Option Bool :=
  scope.predicates.lookup name

mutual

/-- Whether two scopes have the same bindings. -/
def same : Scope → Scope → Bool
  | ⟨scalars, sequences, predicates⟩, ⟨scalars', sequences', predicates'⟩ =>
      scalars == scalars' && predicates == predicates' && sameSequences sequences sequences'

def sameSequences : List (String × List Scope) → List (String × List Scope) → Bool
  | [], [] => true
  | (name, items) :: rest, (name', items') :: rest' =>
      name == name' && sameItems items items' && sameSequences rest rest'
  | _, _ => false

def sameItems : List Scope → List Scope → Bool
  | [], [] => true
  | item :: items, item' :: items' => same item item' && sameItems items items'
  | _, _ => false

end

end Scope

/-- What one expansion of a template sees. -/
structure Context where
  naming : Naming
  root : Scope

end Scaffold
