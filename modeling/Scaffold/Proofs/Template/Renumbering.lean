import Scaffold.Proofs.Template.Lexemes
import Scaffold.Template.Expansion

/-!
# Other line numbers

The lines of a template are counted while it is scanned, carried by its pieces and nodes, and told
by faults; nothing is ever decided by them.  So a template whose lines are counted differently is
read and expanded in the same way, and its faults tell the other numbers.
-/

namespace Scaffold.Template

/-- The fault, told of another line. -/
def Fault.mapLine (f : Nat → Nat) : Fault → Fault
  | .unresolvedScalar name line => .unresolvedScalar name (f line)
  | .unknownSequence name line => .unknownSequence name (f line)
  | .unknownPredicate name line => .unknownPredicate name (f line)
  | .unknownFilter filter line => .unknownFilter filter (f line)
  | .unterminatedTag line => .unterminatedTag (f line)
  | .malformedTag tag line => .malformedTag tag (f line)
  | .unclosedBlock block line => .unclosedBlock block (f line)
  | .mismatchedClose expected found line => .mismatchedClose expected found (f line)
  | .unexpectedClose name line => .unexpectedClose name (f line)
  | .unknownTemplate kind verb => .unknownTemplate kind verb

/-- An outcome whose value and whose fault tell of other lines. -/
def renumbered {α : Type} (f : Nat → Nat) (change : α → α) : Except Fault α → Except Fault α
  | .ok a => .ok (change a)
  | .error fault => .error (fault.mapLine f)

theorem renumbered_bind {α β : Type} {f : Nat → Nat} {change : α → α} {further : β → β}
    {next other : α → Except Fault β} (outcome : Except Fault α)
    (h : ∀ a, other (change a) = renumbered f further (next a)) :
    renumbered f change outcome >>= other = renumbered f further (outcome >>= next) := by
  cases outcome with
  | error fault => rfl
  | ok a => exact h a

theorem renumbered_eq_mapError {α : Type} (f : Nat → Nat) (outcome : Except Fault α) :
    renumbered f (fun a => a) outcome = outcome.mapError (Fault.mapLine f) := by
  cases outcome <;> rfl

/-! ## Pieces -/

def Piece.mapLine (f : Nat → Nat) : Piece → Piece
  | .text content => .text content
  | .tag mark line => .tag mark (f line)

variable (f : Nat → Nat)

theorem map_mapLine_textPiece (seen : List Char) :
    (textPiece seen).map (Piece.mapLine f) = textPiece seen := by
  cases seen <;> rfl

/-- The scanner makes the same of lexemes wherever their line stands. -/
theorem renumbered_collect (line : Nat) (seen : List Char) (found : List Lexeme) :
    renumbered f (List.map (Piece.mapLine f)) (collect line seen found) =
      collect (f line) seen found := by
  induction found generalizing seen with
  | nil => exact congrArg Except.ok (map_mapLine_textPiece f seen)
  | cons lexeme found ih =>
      cases lexeme with
      | char c => exact ih (c :: seen)
      | escaped =>
          rw [collect, collect, ← ih]
          refine (renumbered_bind _ fun others => ?_).symm
          rfl
      | enclosed brackets inner =>
          rw [collect, collect, ← ih]
          cases brackets.read inner with
          | none => rfl
          | some mark =>
              refine (renumbered_bind _ fun others => congrArg Except.ok ?_).symm
              rw [List.map_append, map_mapLine_textPiece]
              rfl
      | unterminated brackets rest => rfl

theorem isTag_comp_mapLine : Piece.isTag ∘ Piece.mapLine f = Piece.isTag := by
  funext piece
  cases piece <;> rfl

theorem isStandalone_map_mapLine (found : List Piece) :
    isStandalone (found.map (Piece.mapLine f)) = isStandalone found := by
  have hvisible : Piece.isVisibleText ∘ Piece.mapLine f = Piece.isVisibleText := by
    funext piece
    cases piece <;> rfl
  have hblock : ∀ piece : Piece, (piece.mapLine f).isBlock = piece.isBlock := by
    intro piece
    rcases piece with content | ⟨_ | _ | _, line⟩ <;> rfl
  rw [isStandalone, isStandalone, List.filter_map, isTag_comp_mapLine,
    List.any_map, hvisible]
  match found.filter Piece.isTag with
  | [] => rfl
  | [tag] => exact congrArg (· && _) (hblock tag)
  | _ :: _ :: _ => rfl

theorem renumbered_scanLine (line : Nat) (cs : List Char) :
    renumbered f (List.map (Piece.mapLine f)) (scanLine line cs) = scanLine (f line) cs := by
  rw [scanLine, scanLine, scan_line_eq_collect, scan_line_eq_collect, ← renumbered_collect]
  refine (renumbered_bind _ fun found => ?_).symm
  rw [isStandalone_map_mapLine]
  cases isStandalone found with
  | true => simp [renumbered, List.filter_map, isTag_comp_mapLine]
  | false => rfl

theorem renumbered_scanLines (more line : Nat) (rest : List (List Char)) :
    renumbered (· + more) (List.map (Piece.mapLine (· + more))) (scanLines line rest) =
      scanLines (line + more) rest := by
  induction rest generalizing line with
  | nil => rfl
  | cons cs rest ih =>
      rw [scanLines, scanLines, ← renumbered_scanLine (· + more),
        show line + more + 1 = line + 1 + more by omega, ← ih]
      refine (renumbered_bind _ fun found => ?_).symm
      refine renumbered_bind _ fun others => ?_
      simp [renumbered]

/-! ## Nodes -/

mutual

def Node.mapLines (f : Nat → Nat) : Node → Node
  | .text content => .text content
  | .scalar name filters line => .scalar name filters (f line)
  | .list sequence separator body line =>
      .list sequence separator (mapAllLines f body) (f line)
  | .conditional predicate negated body line =>
      .conditional predicate negated (mapAllLines f body) (f line)

def mapAllLines (f : Nat → Nat) : List Node → List Node
  | [] => []
  | node :: nodes => node.mapLines f :: mapAllLines f nodes

end

theorem mapAllLines_eq_map (nodes : List Node) : mapAllLines f nodes = nodes.map (Node.mapLines f) := by
  induction nodes with
  | nil => rfl
  | cons node nodes ih => rw [mapAllLines, ih, List.map_cons]

def Open.mapLines (frame : Open) : Open :=
  { frame with line := f frame.line, before := frame.before.map (Node.mapLines f) }

theorem Open.mapLines_close (frame : Open) (body : List Node) :
    (frame.close body).mapLines f = (frame.mapLines f).close (body.map (Node.mapLines f)) := by
  rw [close, close, mapLines]
  cases frame.block with
  | list sequence => rw [Node.mapLines, mapAllLines_eq_map]
  | conditional predicate negated => rw [Node.mapLines, mapAllLines_eq_map]

theorem map_mapLines_addText (text : String) (body : List Node) :
    (addText text body).map (Node.mapLines f) = addText text (body.map (Node.mapLines f)) := by
  match body with
  | [] => rfl
  | .text earlier :: nodes => rfl
  | .scalar _ _ _ :: nodes => rfl
  | .list _ _ _ _ :: nodes => rfl
  | .conditional _ _ _ _ :: nodes => rfl

theorem renumbered_build (body : List Node) (frames : List Open) (found : List Piece) :
    renumbered f (List.map (Node.mapLines f)) (build body frames found) =
      build (body.map (Node.mapLines f)) (frames.map (Open.mapLines f))
        (found.map (Piece.mapLine f)) := by
  induction found generalizing body frames with
  | nil =>
      cases frames with
      | nil => exact congrArg Except.ok List.map_reverse
      | cons frame frames => rfl
  | cons piece found ih =>
      rw [List.map_cons]
      match piece with
      | .text content =>
          rw [Piece.mapLine, build, build, ih, map_mapLines_addText]
      | .tag (.scalar name filters) line =>
          rw [Piece.mapLine, build, build, ih]
          rfl
      | .tag (.opens block separator) line =>
          rw [Piece.mapLine, build, build, ih]
          rfl
      | .tag (.closes block) line =>
          cases frames with
          | nil => rfl
          | cons frame frames =>
              rw [Piece.mapLine, List.map_cons, build, build]
              by_cases hblock : frame.block = block
              · have hmapped : (frame.mapLines f).block = block := hblock
                rw [if_pos hblock, if_pos hmapped, ih, List.map_cons, Open.mapLines_close,
                  List.map_reverse]
                rfl
              · have hmapped : ¬(frame.mapLines f).block = block := hblock
                rw [if_neg hblock, if_neg hmapped]
                rfl

/-! ## Expansions -/

variable (context : Context)

mutual

theorem Node.expand_mapLines (scopes : List Scope) (node : Node) :
    (node.mapLines f).expand context scopes = renumbered f (fun text => text) (node.expand context scopes) := by
  cases node with
  | text content =>
      rw [Node.mapLines, Node.expand]
      rfl
  | scalar name filters line =>
      rw [Node.mapLines, Node.expand, Node.expand]
      cases scalarIn? scopes name with
      | none => rfl
      | some value =>
          dsimp only
          cases context.naming.applyNamed value filters <;> rfl
  | list sequence separator body line =>
      have hbody : ∀ items : List Scope,
          items.mapM (fun item => expandAll context (item :: scopes) (mapAllLines f body)) =
            renumbered f (fun text => text) (items.mapM fun item => expandAll context (item :: scopes) body) := by
        intro items
        induction items with
        | nil => rfl
        | cons item items ih =>
            rw [List.mapM_cons, List.mapM_cons, ih,
              expandAll_mapAllLines (item :: scopes) body]
            refine renumbered_bind _ fun text => ?_
            exact renumbered_bind _ fun texts => rfl
      rw [Node.mapLines, Node.expand, Node.expand]
      cases sequenceIn? scopes sequence with
      | none => rfl
      | some items =>
          dsimp only
          rw [hbody]
          exact renumbered_bind _ fun texts => rfl
  | conditional predicate negated body line =>
      rw [Node.mapLines, Node.expand, Node.expand]
      cases context.root.predicate? predicate with
      | none => rfl
      | some holds =>
          dsimp only
          rw [expandAll_mapAllLines scopes body]
          split <;> rfl

theorem expandAll_mapAllLines (scopes : List Scope) (nodes : List Node) :
    expandAll context scopes (mapAllLines f nodes) =
      renumbered f (fun text => text) (expandAll context scopes nodes) := by
  cases nodes with
  | nil => rfl
  | cons node nodes =>
      rw [mapAllLines, expandAll, expandAll, Node.expand_mapLines scopes node,
        expandAll_mapAllLines scopes nodes]
      refine renumbered_bind _ fun text => ?_
      exact renumbered_bind _ fun rest => rfl

end

theorem expandAll_map_mapLines (scopes : List Scope) (nodes : List Node) :
    expandAll context scopes (nodes.map (Node.mapLines f)) =
      (expandAll context scopes nodes).mapError (Fault.mapLine f) := by
  rw [← mapAllLines_eq_map, expandAll_mapAllLines, renumbered_eq_mapError]

end Scaffold.Template
