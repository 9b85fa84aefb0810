import Scaffold.Proofs.Outcome
import Scaffold.Proofs.Template.Assembly
import Scaffold.Template.Stretch

/-!
# Values stay in their places

The stretches of a template are its text.  Which quote a value stands in can be told from the
template alone, if its lists and conditionals close the quotes they open; so it can be found out
beforehand which values stand where.
-/

namespace Scaffold.Template

/-! ## Stretches make the text -/

def joinStretches (parts : List Stretch) : String :=
  String.join (parts.map Stretch.text)

theorem joinStretches_append (front back : List Stretch) :
    joinStretches (front ++ back) = joinStretches front ++ joinStretches back := by
  rw [joinStretches, List.map_append, String.join_append]
  rfl

theorem joinStretches_own (text : String) : joinStretches [.own text] = text := by
  rw [joinStretches, List.map_singleton, String.join_cons, String.join_nil, String.append_empty]
  rfl

theorem joinStretches_intercalate (separator : String) (parts : List (List Stretch)) :
    joinStretches (List.intercalate [.own separator] parts) =
      Text.join separator (parts.map joinStretches) := by
  induction parts with
  | nil => rfl
  | cons first rest ih =>
      cases rest with
      | nil => rw [List.intercalate_singleton]; rfl
      | cons second rest =>
          rw [List.intercalate_cons_cons, joinStretches_append, joinStretches_append,
            joinStretches_own, ih]
          rfl

variable {context : Context}

mutual

theorem Node.expand_eq_map_joinStretches (scopes : List Scope) (node : Node) :
    node.expand context scopes = (node.stretches context scopes).map joinStretches := by
  cases node with
  | text content =>
      rw [Node.expand, Node.stretches, Except.map, joinStretches_own]
  | scalar name filters line =>
      rw [Node.stretches]
      cases (Node.scalar name filters line).expand context scopes with
      | error fault => rfl
      | ok text => exact congrArg Except.ok (joinStretches_own text).symm
  | list sequence separator body line =>
      rw [Node.expand, Node.stretches]
      cases sequenceIn? scopes sequence with
      | none => rfl
      | some items =>
          simp only [expandAll_eq_map_joinStretches _ body, mapM_map]
          cases items.mapM fun item => stretchesOf context (item :: scopes) body with
          | error fault => rfl
          | ok parts => exact congrArg Except.ok (joinStretches_intercalate separator parts).symm
  | conditional predicate negated body line =>
      rw [Node.expand, Node.stretches]
      cases context.root.predicate? predicate with
      | none => rfl
      | some holds =>
          simp only [expandAll_eq_map_joinStretches _ body]
          cases holds != negated <;> rfl

theorem expandAll_eq_map_joinStretches (scopes : List Scope) (nodes : List Node) :
    expandAll context scopes nodes = (stretchesOf context scopes nodes).map joinStretches := by
  cases nodes with
  | nil => rfl
  | cons node nodes =>
      rw [expandAll, stretchesOf, Node.expand_eq_map_joinStretches scopes node,
        expandAll_eq_map_joinStretches scopes nodes]
      cases node.stretches context scopes with
      | error fault => rfl
      | ok front =>
          cases stretchesOf context scopes nodes with
          | error fault => rfl
          | ok back => exact congrArg Except.ok (joinStretches_append front back).symm

end

/-! ## Scalars of a kind -/

/-- Every scalar of a scope, and of the elements of its sequences, has a property of its name and
value. -/
inductive HoldsOf (property : String → String → Prop) : Scope → Prop where
  | intro {scope : Scope}
      (scalars : ∀ name value, scope.scalar? name = some value → property name value)
      (elements : ∀ name items, scope.sequence? name = some items →
        ∀ element ∈ items, HoldsOf property element) :
      HoldsOf property scope

section Lookup

variable {property : String → String → Prop} {scopes : List Scope}

theorem holds_of_scalarIn? (hscopes : ∀ scope ∈ scopes, HoldsOf property scope)
    {name value : String} (h : scalarIn? scopes name = some value) : property name value := by
  obtain ⟨scope, hmem, hvalue⟩ := List.exists_of_findSome?_eq_some h
  cases hscopes scope hmem with
  | intro scalars _ => exact scalars name value hvalue

theorem holdsOf_of_sequenceIn? (hscopes : ∀ scope ∈ scopes, HoldsOf property scope)
    {name : String} {items : List Scope} (h : sequenceIn? scopes name = some items) :
    ∀ element ∈ items, HoldsOf property element := by
  obtain ⟨scope, hmem, hitems⟩ := List.exists_of_findSome?_eq_some h
  cases hscopes scope hmem with
  | intro _ elements => exact elements name items hitems

end Lookup

/-! ## Quotes -/

/-- The quote that is open after stretches. -/
def quoteAfterAll (quote : Option Char) : List Stretch → Option Char
  | [] => quote
  | .own text :: rest => quoteAfterAll (quoteAfter quote text) rest
  | .value _ :: rest => quoteAfterAll quote rest

theorem quoteAfterAll_append (quote : Option Char) (front back : List Stretch) :
    quoteAfterAll quote (front ++ back) = quoteAfterAll (quoteAfterAll quote front) back := by
  induction front generalizing quote with
  | nil => rfl
  | cons stretch front ih => cases stretch <;> exact ih _

theorem valuesIn_append (quote : Option Char) (front back : List Stretch) :
    valuesIn quote (front ++ back) =
      valuesIn quote front ++ valuesIn (quoteAfterAll quote front) back := by
  induction front generalizing quote with
  | nil => rfl
  | cons stretch front ih =>
      cases stretch with
      | own text => exact ih _
      | value text => exact congrArg (_ :: ·) (ih _)

mutual

/-- The quote that is open after a node, if it puts values only where they are allowed, and if a
part that may be repeated or left out closes the quotes it opens. -/
def Node.quoteAfter? (allows : Option Char → String → List String → Bool) (quote : Option Char) :
    Node → Option (Option Char)
  | .text content => some (quoteAfter quote content)
  | .scalar name filters _ => if allows quote name filters then some quote else none
  | .list _ separator body _ =>
      if quoteAfter quote separator = quote ∧ quoteAfterAll? allows quote body = some quote then
        some quote
      else none
  | .conditional _ _ body _ =>
      if quoteAfterAll? allows quote body = some quote then some quote else none

def quoteAfterAll? (allows : Option Char → String → List String → Bool) (quote : Option Char) :
    List Node → Option (Option Char)
  | [] => some quote
  | node :: nodes => do quoteAfterAll? allows (← node.quoteAfter? allows quote) nodes

end

/-- What is known of stretches that begin and end in some quotes. -/
structure Keeps (good : Option Char → String → Prop) (quote after : Option Char)
    (parts : List Stretch) : Prop where
  quoteAfterAll_eq : quoteAfterAll quote parts = after
  good : ∀ entry ∈ valuesIn quote parts, good entry.1 entry.2

theorem Keeps.append {good : Option Char → String → Prop} {quote between after : Option Char}
    {front back : List Stretch} (hfront : Keeps good quote between front)
    (hback : Keeps good between after back) : Keeps good quote after (front ++ back) := by
  constructor
  · rw [quoteAfterAll_append, hfront.quoteAfterAll_eq, hback.quoteAfterAll_eq]
  · rw [valuesIn_append, hfront.quoteAfterAll_eq]
    exact List.forall_mem_append.2 ⟨hfront.good, hback.good⟩

theorem Keeps.intercalate {good : Option Char → String → Prop} {quote : Option Char}
    {separator : String} (hseparator : quoteAfter quote separator = quote)
    {parts : List (List Stretch)} (hparts : ∀ part ∈ parts, Keeps good quote quote part) :
    Keeps good quote quote (List.intercalate [.own separator] parts) := by
  have hown : Keeps good quote quote [.own separator] :=
    ⟨hseparator, List.forall_mem_nil _⟩
  induction parts with
  | nil => exact ⟨rfl, List.forall_mem_nil _⟩
  | cons first rest ih =>
      obtain ⟨hfirst, hrest⟩ := List.forall_mem_cons.1 hparts
      cases rest with
      | nil =>
          rw [List.intercalate_singleton]
          exact hfirst
      | cons second rest =>
          rw [List.intercalate_cons_cons]
          exact (hfirst.append hown).append (ih hrest)

section Keeping

variable {allows : Option Char → String → List String → Bool} {good : Option Char → String → Prop}
  {property : String → String → Prop}

mutual

theorem Node.keeps_stretches
    (hallows : ∀ quote name filters value text, allows quote name filters = true →
      property name value → context.naming.applyNamed value filters = .ok text → good quote text)
    {scopes : List Scope} (hscopes : ∀ scope ∈ scopes, HoldsOf property scope)
    {quote after : Option Char} (node : Node) (hquote : node.quoteAfter? allows quote = some after)
    {parts : List Stretch} (hparts : node.stretches context scopes = .ok parts) :
    Keeps good quote after parts := by
  cases node with
  | text content =>
      rw [Node.quoteAfter?] at hquote
      rw [Node.stretches] at hparts
      cases hquote
      cases hparts
      exact ⟨rfl, List.forall_mem_nil _⟩
  | scalar name filters line =>
      rw [Node.quoteAfter?] at hquote
      split at hquote
      · next hallowed =>
          cases hquote
          rw [Node.stretches, Except.map_eq_ok_iff] at hparts
          obtain ⟨text, htext, rfl⟩ := hparts
          obtain ⟨value, hvalue, happlied⟩ := expand_scalar_eq_ok_iff.1 htext
          have hgood := hallows quote name filters value text hallowed
            (holds_of_scalarIn? hscopes hvalue) happlied
          exact ⟨rfl, List.forall_mem_singleton.2 hgood⟩
      · cases hquote
  | list sequence separator body line =>
      rw [Node.quoteAfter?] at hquote
      split at hquote
      · next hbody =>
          cases hquote
          rw [Node.stretches] at hparts
          cases hitems : sequenceIn? scopes sequence with
          | none =>
              rw [hitems] at hparts
              cases hparts
          | some items =>
              rw [hitems] at hparts
              obtain ⟨bodies, hbodies, hdone⟩ := Except.bind_eq_ok_iff.1 hparts
              cases hdone
              refine Keeps.intercalate hbody.1 fun part hpart => ?_
              obtain ⟨item, hitem, hstretches⟩ := exists_of_mem_mapM hbodies hpart
              refine keeps_stretchesOf hallows ?_ body hbody.2 hstretches
              exact List.forall_mem_cons.2
                ⟨holdsOf_of_sequenceIn? hscopes hitems item hitem, hscopes⟩
      · cases hquote
  | conditional predicate negated body line =>
      rw [Node.quoteAfter?] at hquote
      split at hquote
      · next hbody =>
          cases hquote
          rw [Node.stretches] at hparts
          split at hparts
          · cases hparts
          · split at hparts
            · exact keeps_stretchesOf hallows hscopes body hbody hparts
            · cases hparts
              exact ⟨rfl, List.forall_mem_nil _⟩
      · cases hquote

theorem keeps_stretchesOf
    (hallows : ∀ quote name filters value text, allows quote name filters = true →
      property name value → context.naming.applyNamed value filters = .ok text → good quote text)
    {scopes : List Scope} (hscopes : ∀ scope ∈ scopes, HoldsOf property scope)
    {quote after : Option Char} (nodes : List Node)
    (hquote : quoteAfterAll? allows quote nodes = some after) {parts : List Stretch}
    (hparts : stretchesOf context scopes nodes = .ok parts) : Keeps good quote after parts := by
  cases nodes with
  | nil =>
      cases hquote
      cases hparts
      exact ⟨rfl, List.forall_mem_nil _⟩
  | cons node nodes =>
      rw [quoteAfterAll?] at hquote
      rw [stretchesOf] at hparts
      obtain ⟨between, hnode, hnodes⟩ := Option.bind_eq_some_iff.1 hquote
      obtain ⟨front, hfront, hrest⟩ := Except.bind_eq_ok_iff.1 hparts
      obtain ⟨back, hback, hdone⟩ := Except.bind_eq_ok_iff.1 hrest
      cases hdone
      exact (node.keeps_stretches hallows hscopes hnode hfront).append
        (keeps_stretchesOf hallows hscopes nodes hnodes hback)

end

end Keeping

end Scaffold.Template
