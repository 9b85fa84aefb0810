import Scaffold.Artifact.Basic

/-!
# Templates

A template is text with tags.  A scalar tag stands for a value, a list repeats its body for each
element of a sequence, and a conditional keeps its body when a predicate has the wanted value.
-/

namespace Scaffold

namespace Template

/-- A part of a template.  Lines are counted from one and are those of the opening tag. -/
inductive Node where
  | text (text : String)
  | scalar (name : String) (filters : List String) (line : Nat)
  | list (sequence separator : String) (body : List Node) (line : Nat)
  | conditional (predicate : String) (negated : Bool) (body : List Node) (line : Nat)
deriving Inhabited

mutual

/-- Whether two nodes are equal, their lines included. -/
def Node.same : Node → Node → Bool
  | .text content, .text content' => content == content'
  | .scalar name filters line, .scalar name' filters' line' =>
      name == name' && filters == filters' && line == line'
  | .list sequence separator body line, .list sequence' separator' body' line' =>
      sequence == sequence' && separator == separator' && sameAll body body' && line == line'
  | .conditional predicate negated body line, .conditional predicate' negated' body' line' =>
      predicate == predicate' && negated == negated' && sameAll body body' && line == line'
  | _, _ => false

def sameAll : List Node → List Node → Bool
  | [], [] => true
  | node :: nodes, node' :: nodes' => node.same node' && sameAll nodes nodes'
  | _, _ => false

end

mutual

theorem Node.same_iff (node other : Node) : node.same other = true ↔ node = other := by
  cases node with
  | text content => cases other <;> simp [Node.same]
  | scalar name filters line => cases other <;> simp [Node.same, and_assoc]
  | list sequence separator body line =>
      cases other with
      | list _ _ body' _ => simp [Node.same, sameAll_iff body body', and_assoc]
      | _ => simp [Node.same]
  | conditional predicate negated body line =>
      cases other with
      | conditional _ _ body' _ => simp [Node.same, sameAll_iff body body', and_assoc]
      | _ => simp [Node.same]

theorem sameAll_iff (nodes others : List Node) : sameAll nodes others = true ↔ nodes = others := by
  cases nodes with
  | nil => cases others <;> simp [sameAll]
  | cons node nodes =>
      cases others with
      | nil => simp [sameAll]
      | cons other others =>
          simp [sameAll, Node.same_iff node other, sameAll_iff nodes others]

end

instance : DecidableEq Node := fun node other =>
  decidable_of_iff (node.same other = true) (node.same_iff other)

/-- Why a template cannot be read or expanded. -/
inductive Fault where
  | unresolvedScalar (name : String) (line : Nat)
  | unknownSequence (name : String) (line : Nat)
  | unknownPredicate (name : String) (line : Nat)
  | unknownFilter (filter : String) (line : Nat)
  | unterminatedTag (line : Nat)
  | malformedTag (tag : String) (line : Nat)
  | unclosedBlock (block : String) (line : Nat)
  | mismatchedClose (expected found : String) (line : Nat)
  | unexpectedClose (name : String) (line : Nat)
  | unknownTemplate (kind : ArtifactKind) (verb : Verb)
deriving DecidableEq, Repr

private def onLine (line : Nat) : String :=
  " on line " ++ toString line

def Fault.message : Fault → String
  | .unresolvedScalar name line => "unresolved scalar token '" ++ name ++ "'" ++ onLine line
  | .unknownSequence name line => "unknown sequence '" ++ name ++ "'" ++ onLine line
  | .unknownPredicate name line => "unknown predicate '" ++ name ++ "'" ++ onLine line
  | .unknownFilter filter line => "unknown filter '" ++ filter ++ "'" ++ onLine line
  | .unterminatedTag line => "unterminated tag" ++ onLine line
  | .malformedTag tag line => "malformed tag " ++ tag ++ onLine line
  | .unclosedBlock block line =>
      "block " ++ block ++ " opened" ++ onLine line ++ " is never closed"
  | .mismatchedClose expected found line =>
      "expected the close of " ++ expected ++ " but found " ++ found ++ onLine line
  | .unexpectedClose name line =>
      "close of '" ++ name ++ "'" ++ onLine line ++ " has no matching open"
  | .unknownTemplate kind verb =>
      "no template registered for " ++ kind.name ++ " on '" ++ verb.name ++ "'"

/-- Names of values: ASCII letters, digits, underscores and points, at least one. -/
def isTokenName (name : List Char) : Bool :=
  !name.isEmpty && name.all fun c => c.isAlpha || c.isDigit || c = '_' || c = '.'

end Template

end Scaffold
