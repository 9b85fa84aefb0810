import Scaffold.Template.Parser
import Scaffold.Template.Scope

/-!
# Expanding templates

Scalars and sequences are looked up from the innermost list element outwards to the root.
Predicates belong to the root, so a conditional inside a list is the same for every element.
-/

namespace Scaffold

namespace Template

/-- The scalar of the innermost scope that has it. -/
def scalarIn? (scopes : List Scope) (name : String) : Option String :=
  scopes.findSome? fun scope => scope.scalar? name

/-- The sequence of the innermost scope that has it. -/
def sequenceIn? (scopes : List Scope) (name : String) : Option (List Scope) :=
  scopes.findSome? fun scope => scope.sequence? name

mutual

/-- The text of a node, given the scopes around it, innermost first and the root last. -/
def Node.expand (context : Context) (scopes : List Scope) : Node → Except Fault String
  | .text text => .ok text
  | .scalar name filters line =>
      match scalarIn? scopes name with
      | none => .error (.unresolvedScalar name line)
      | some value =>
          match context.naming.applyNamed value filters with
          | .ok text => .ok text
          | .error filter => .error (.unknownFilter filter line)
  | .list sequence separator body line =>
      match sequenceIn? scopes sequence with
      | none => .error (.unknownSequence sequence line)
      | some items => do
          let texts ← items.mapM fun item => expandAll context (item :: scopes) body
          pure (Text.join separator texts)
  | .conditional predicate negated body line =>
      match context.root.predicate? predicate with
      | none => .error (.unknownPredicate predicate line)
      | some holds => if holds != negated then expandAll context scopes body else .ok ""

/-- The texts of nodes one after the other. -/
def expandAll (context : Context) (scopes : List Scope) : List Node → Except Fault String
  | [] => .ok ""
  | node :: nodes => do
      let text ← node.expand context scopes
      let rest ← expandAll context scopes nodes
      pure (text ++ rest)

end

end Template

/-- A template under a name of its own.  It is kept as it was written, sound or not. -/
structure Template where
  id : String
  kind : ArtifactKind
  source : String
deriving DecidableEq, Repr

namespace Template

def nodes (template : Template) : Except Fault (List Node) :=
  parse template.source

/-- The text of a template. -/
def expand (template : Template) (context : Context) : Except Fault String := do
  expandAll context [context.root] (← template.nodes)

end Template

end Scaffold
