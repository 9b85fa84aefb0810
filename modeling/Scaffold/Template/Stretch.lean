import Scaffold.Template.Expansion

/-!
# Stretches of a text

The text of a template with the origin of its parts: a stretch is a part of the template itself, or
a value that has been put in.  A value stands between quotes where the template itself has opened a
quote before it and closes it after it.
-/

namespace Scaffold.Template

inductive Stretch where
  | own (text : String)
  | value (text : String)
deriving DecidableEq, Repr

def Stretch.text : Stretch → String
  | .own text => text
  | .value text => text

mutual

/-- The stretches of a node's text, given the scopes around it, innermost first. -/
def Node.stretches (context : Context) (scopes : List Scope) :
    Node → Except Fault (List Stretch)
  | .text content => .ok [.own content]
  | .scalar name filters line =>
      ((Node.scalar name filters line).expand context scopes).map fun text => [.value text]
  | .list sequence separator body line =>
      match sequenceIn? scopes sequence with
      | none => .error (.unknownSequence sequence line)
      | some items => do
          let parts ← items.mapM fun item => stretchesOf context (item :: scopes) body
          pure (List.intercalate [.own separator] parts)
  | .conditional predicate negated body line =>
      match context.root.predicate? predicate with
      | none => .error (.unknownPredicate predicate line)
      | some holds => if holds != negated then stretchesOf context scopes body else .ok []

def stretchesOf (context : Context) (scopes : List Scope) :
    List Node → Except Fault (List Stretch)
  | [] => .ok []
  | node :: nodes => do
      let front ← node.stretches context scopes
      let back ← stretchesOf context scopes nodes
      pure (front ++ back)

end

/-- The stretches of a template's text. -/
def stretches (template : Template) (context : Context) : Except Fault (List Stretch) := do
  stretchesOf context [context.root] (← template.nodes)

/-! ## Quotes -/

/-- The apostrophe, the double quote and the grave accent. -/
def isQuote (c : Char) : Bool :=
  c = '\'' || c = '"' || c.toNat = 0x60

/-- The quote that is open after a character. -/
def stepQuote (quote : Option Char) (c : Char) : Option Char :=
  if isQuote c then if quote = none then some c else if quote = some c then none else quote
  else quote

/-- The quote that is open after a text of the template. -/
def quoteAfter (quote : Option Char) (text : String) : Option Char :=
  text.toList.foldl stepQuote quote

/-- The values among stretches, each with the quote in which it stands. -/
def valuesIn (quote : Option Char) : List Stretch → List (Option Char × String)
  | [] => []
  | .own text :: rest => valuesIn (quoteAfter quote text) rest
  | .value text :: rest => (quote, text) :: valuesIn quote rest

/-- A value that does not leave its place: it neither ends the line nor the quote it stands in. -/
def IsConfined (quote : Option Char) (value : String) : Prop :=
  '\n' ∉ value.toList ∧ ∀ opening ∈ quote, opening ∉ value.toList

end Scaffold.Template
