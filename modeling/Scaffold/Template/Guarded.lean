import Scaffold.Template.Basic
import Scaffold.Naming

/-!
# Guarded templates

What can be said of a template before there is a context for it: every name it uses has been
announced, and a value that may be missing is used only where the predicate of its presence holds.
-/

namespace Scaffold.Template

/-- The names at one level of a context. -/
structure Vocabulary where
  /-- Values that are always there. -/
  scalars : List String := []
  /-- Values that may be missing, with the predicate that says that they are there. -/
  guarded : List (String × String) := []
  /-- Sequences, with the names that each of their elements has. -/
  sequences : List (String × Vocabulary) := []
deriving Inhabited

namespace Vocabulary

/-- Whether a value is there when some predicates are known to hold. -/
def binds (vocabulary : Vocabulary) (held : List String) (name : String) : Bool :=
  vocabulary.scalars.contains name ||
    vocabulary.guarded.any fun entry => entry.1 == name && held.contains entry.2

/-- The elements of the innermost sequence of a name. -/
def elements? (levels : List Vocabulary) (name : String) : Option Vocabulary :=
  levels.findSome? fun level => level.sequences.lookup name

end Vocabulary

mutual

/-- Whether a node is guarded, given the predicates that exist, those known to hold, and the names
around the node, innermost first. -/
def Node.isGuarded (predicates held : List String) (levels : List Vocabulary) : Node → Bool
  | .text _ => true
  | .scalar name filters _ =>
      levels.any (·.binds held name) && filters.all fun filter => (Filter.ofName? filter).isSome
  | .list sequence _ body _ =>
      match Vocabulary.elements? levels sequence with
      | none => false
      | some level => areGuarded predicates held (level :: levels) body
  | .conditional predicate negated body _ =>
      predicates.contains predicate &&
        areGuarded predicates (if negated then held else predicate :: held) levels body

def areGuarded (predicates held : List String) (levels : List Vocabulary) : List Node → Bool
  | [] => true
  | node :: nodes =>
      node.isGuarded predicates held levels && areGuarded predicates held levels nodes

end

end Scaffold.Template
