import Scaffold.Template.Scope
import Scaffold.Template.Basic

/-!
# Templates as substitution

The meaning of a template in one flat environment.  The body of a list is read once for each
element of its sequence, in the environment in which the element's own bindings take the place of
those around it; predicates never change.  A value goes through its filters only if each of them is
known.
-/

namespace Scaffold

/-- What names stand for. -/
structure Environment where
  scalars : String → Option String
  sequences : String → Option (List Scope)
  predicates : String → Option Bool

namespace Environment

def ofScope (scope : Scope) : Environment :=
  ⟨scope.scalar?, scope.sequence?, scope.predicate?⟩

/-- The environment with the scalars and sequences of a scope in place of its own. -/
def override (environment : Environment) (scope : Scope) : Environment where
  scalars name := (scope.scalar? name).or (environment.scalars name)
  sequences name := (scope.sequence? name).or (environment.sequences name)
  predicates := environment.predicates

end Environment

/-- A value after the conversions of some names, the first of them first; or else the first name
that is no filter. -/
def Naming.filtered (naming : Naming) (value : String) (names : List String) :
    Except String String :=
  match names.find? fun name => (Filter.ofName? name).isNone with
  | some unknown => .error unknown
  | none => .ok ((names.filterMap Filter.ofName?).foldl naming.apply value)

namespace Template

mutual

/-- The text of a node in an environment. -/
def Node.meaning (naming : Naming) (environment : Environment) : Node → Except Fault String
  | .text content => .ok content
  | .scalar name filters line =>
      match environment.scalars name with
      | none => .error (.unresolvedScalar name line)
      | some value => (naming.filtered value filters).mapError fun filter =>
          .unknownFilter filter line
  | .list sequence separator body line =>
      match environment.sequences sequence with
      | none => .error (.unknownSequence sequence line)
      | some elements => do
          let bodies ← elements.mapM fun element =>
            meaningOf naming (environment.override element) body
          pure (Text.join separator bodies)
  | .conditional predicate negated body line =>
      match environment.predicates predicate with
      | none => .error (.unknownPredicate predicate line)
      | some holds => if holds = negated then .ok "" else meaningOf naming environment body

def meaningOf (naming : Naming) (environment : Environment) : List Node → Except Fault String
  | [] => .ok ""
  | node :: nodes => do
      let text ← node.meaning naming environment
      let rest ← meaningOf naming environment nodes
      pure (text ++ rest)

end

end Template

end Scaffold
