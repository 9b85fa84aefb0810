import Scaffold.Proofs.Template.Source

/-!
# Writing and reading back

The source of printable nodes is read as the same nodes, each with the line on which it starts.
The source of a tree is a list of pieces, and the pieces are made of atoms; reading goes the same
way back.
-/

namespace Scaffold.Template

/-! ## Numbered pieces -/

theorem Atom.line_add_count_source (line : Nat) {atom : Atom} (hsound : atom.isSound = true) :
    line + atom.source.count '\n' = if atom.isFeed then line + 1 else line := by
  cases hfeed : atom.isFeed with
  | true =>
      cases atom with
      | char c => rw [source, of_decide_eq_true hfeed]; rfl
      | _ => cases hfeed
  | false => rw [List.count_eq_zero.2 (feed_not_mem_source hsound hfeed)]; rfl

theorem Atom.piecesFrom_append (line : Nat) {front : List Atom}
    (hsound : ∀ atom ∈ front, atom.isSound = true) (back : List Atom) :
    piecesFrom line (front ++ back) =
      piecesFrom line front ++ piecesFrom (line + (sourceOf front).count '\n') back := by
  induction front generalizing line with
  | nil => rfl
  | cons atom front ih =>
      rw [List.cons_append, piecesFrom, ih _ fun other hother =>
        hsound other (List.mem_cons_of_mem atom hother), piecesFrom, sourceOf, sourceOf,
        List.flatMap_cons, List.count_append, ← Nat.add_assoc,
        line_add_count_source line (hsound atom List.mem_cons_self), List.cons_append]

/-- The piece on a line. -/
def Piece.onLine (line : Nat) : Piece → Piece
  | .text content => .text content
  | .tag mark _ => .tag mark line

/-- The line feeds in the source of pieces. -/
def feeds (pieces : List Piece) : Nat :=
  (pieces.flatMap Piece.source).count '\n'

/-- Pieces with the lines they have in a source that starts on a given one. -/
def numberPieces (line : Nat) : List Piece → List Piece
  | [] => []
  | piece :: pieces =>
      piece.onLine line :: numberPieces (line + piece.source.count '\n') pieces

theorem feeds_cons (piece : Piece) (pieces : List Piece) :
    feeds (piece :: pieces) = piece.source.count '\n' + feeds pieces := by
  rw [feeds, List.flatMap_cons, List.count_append, feeds]

theorem numberPieces_append (line : Nat) (front back : List Piece) :
    numberPieces line (front ++ back) =
      numberPieces line front ++ numberPieces (line + feeds front) back := by
  induction front generalizing line with
  | nil => rfl
  | cons piece front ih =>
      rw [List.cons_append, numberPieces, ih, numberPieces, feeds_cons, Nat.add_assoc,
        List.cons_append]

theorem piecesFrom_atoms (line : Nat) {piece : Piece} (hsound : piece.isSound = true) :
    BuildAlike (Atom.piecesFrom line piece.atoms) [piece.onLine line] := by
  cases piece with
  | text content =>
      have htext : textOf content.toList = [.text content] := by
        have hne : content.toList.isEmpty = false :=
          List.isEmpty_eq_false_iff.2 (Piece.toList_ne_nil_of_isSound hsound)
        rw [textOf, hne, if_neg Bool.false_ne_true, String.ofList_toList]
      have halike := (textAtoms_makesUp content.toList).buildAlike line
      rw [htext] at halike
      exact halike
  | tag mark _ => exact .refl _

theorem piecesFrom_flatMap_atoms (line : Nat) {pieces : List Piece}
    (hsound : ∀ piece ∈ pieces, piece.isSound = true) :
    BuildAlike (Atom.piecesFrom line (pieces.flatMap Piece.atoms)) (numberPieces line pieces) := by
  induction pieces generalizing line with
  | nil => exact .refl _
  | cons piece pieces ih =>
      have hpiece := hsound piece List.mem_cons_self
      rw [List.flatMap_cons, Atom.piecesFrom_append line (Piece.isSound_of_mem_atoms hpiece),
        Piece.sourceOf_atoms]
      exact (piecesFrom_atoms line hpiece).append
        (ih _ fun other hother => hsound other (List.mem_cons_of_mem piece hother))

/-! ## Building nodes -/

def Node.isText : Node → Bool
  | .text _ => true
  | _ => false

/-- Pieces after nodes, newest first: they do not go on with the last text. -/
def Separate (body : List Node) (pieces : List Piece) : Prop :=
  ∀ earlier ∈ body.head?, ∀ next ∈ pieces.head?, earlier.isText = true → next.isTag = true

theorem Separate.addText_eq {body : List Node} {content : String} {pieces : List Piece}
    (h : Separate body (.text content :: pieces)) :
    addText content body = .text content :: body := by
  match body with
  | [] => rfl
  | .text earlier :: body => cases h (.text earlier) rfl (.text content) rfl rfl
  | .scalar _ _ _ :: body => rfl
  | .list _ _ _ _ :: body => rfl
  | .conditional _ _ _ _ :: body => rfl

theorem separate_of_not_isText {node : Node} (h : node.isText = false) (body : List Node)
    (pieces : List Piece) : Separate (node :: body) pieces := by
  intro earlier hearlier next _ htext
  cases hearlier
  rw [h] at htext
  cases htext

theorem Separate.nil (pieces : List Piece) : Separate [] pieces := by
  intro earlier hearlier
  cases hearlier

theorem Separate.left {body : List Node} {front back : List Piece} (hne : front ≠ [])
    (h : Separate body (front ++ back)) : Separate body front := by
  rw [Separate, List.head?_append_of_ne_nil front hne] at h
  exact h

theorem Node.pieces_ne_nil (node : Node) : node.pieces ≠ [] := by
  cases node <;> rw [Node.pieces] <;> exact List.cons_ne_nil _ _

/-- A numbered node and the pieces after it. -/
theorem Node.separate {node : Node} {pieces : List Piece}
    (hapart : (node.pieces ++ pieces).IsChain Piece.Apart) (line : Nat) (body : List Node) :
    Separate (node.numbered line :: body) pieces := by
  cases node with
  | text content =>
      rw [Node.pieces] at hapart
      intro _ _ next hnext _
      have hnext : Piece.Apart (.text content) next :=
        (List.isChain_append.1 hapart).2.2 (.text content) rfl next hnext
      cases next with
      | text _ => cases hnext
      | tag _ _ => rfl
  | scalar _ _ _ => exact separate_of_not_isText (by rw [Node.numbered]; rfl) body pieces
  | list _ _ _ _ => exact separate_of_not_isText (by rw [Node.numbered]; rfl) body pieces
  | conditional _ _ _ _ => exact separate_of_not_isText (by rw [Node.numbered]; rfl) body pieces

/-- Pieces between the tags of a block. -/
def enclose (block : Block) (separator : String) (first last : Nat) (pieces : List Piece) :
    List Piece :=
  .tag (.opens block separator) first :: pieces ++ [.tag (.closes block) last]

/-- A block is built if what it encloses is. -/
theorem build_enclose {block : Block} {separator : String} {pieces : List Piece}
    {nodes : List Node} {line first last : Nat}
    (hsound : ∀ piece ∈ enclose block separator first last pieces, piece.isSound = true)
    (hapart : (enclose block separator first last pieces).IsChain Piece.Apart)
    (hpieces : ∀ frames rest, (∀ piece ∈ pieces, piece.isSound = true) →
      pieces.IsChain Piece.Apart → Separate [] pieces →
        build [] frames (numberPieces line pieces ++ rest) =
          build (nodes.reverse ++ []) frames rest)
    (body : List Node) (frames : List Open) (rest : List Piece) :
    build body frames (numberPieces line (enclose block separator first last pieces) ++ rest) =
      build (Open.close ⟨block, separator, line, body⟩ nodes :: body) frames rest := by
  have hpart : pieces <:+: enclose block separator first last pieces :=
    ⟨[.tag (.opens block separator) first], [.tag (.closes block) last], rfl⟩
  have hpiecesApart : pieces.IsChain Piece.Apart := List.IsChain.infix hapart hpart
  have hcount : (Piece.tag (.opens block separator) first).source.count '\n' = 0 :=
    List.count_eq_zero.2 (Tag.feed_not_mem_source (hsound _ List.mem_cons_self))
  rw [enclose, List.cons_append, numberPieces, hcount, Nat.add_zero, numberPieces_append,
    List.cons_append, Piece.onLine, build, List.append_assoc,
    hpieces _ _ (fun piece hpiece => hsound piece (hpart.subset hpiece)) hpiecesApart (.nil pieces)]
  simp only [numberPieces, Piece.onLine, List.cons_append, List.nil_append, List.append_nil, build,
    if_pos, List.reverse_reverse]

-- The rest is arbitrary, so that what follows a block can stand behind its closing tag.
mutual

theorem Node.build_pieces (node : Node) (line : Nat) (body : List Node) (frames : List Open)
    (rest : List Piece) (hsound : ∀ piece ∈ node.pieces, piece.isSound = true)
    (hapart : node.pieces.IsChain Piece.Apart) (hbody : Separate body node.pieces) :
    build body frames (numberPieces line node.pieces ++ rest) =
      build (node.numbered line :: body) frames rest := by
  cases node with
  | text content =>
      rw [Node.pieces] at hbody ⊢
      rw [Node.numbered, numberPieces, numberPieces, Piece.onLine, List.singleton_append, build,
        hbody.addText_eq]
  | scalar name filters _ =>
      rw [Node.pieces, Node.numbered, numberPieces, numberPieces, Piece.onLine,
        List.singleton_append, build]
  | list sequence separator nodes first =>
      rw [Node.pieces] at hsound hapart ⊢
      rw [Node.numbered]
      exact build_enclose hsound hapart (build_piecesOf nodes line []) body frames rest
  | conditional predicate negated nodes first =>
      rw [Node.pieces] at hsound hapart ⊢
      rw [Node.numbered]
      exact build_enclose hsound hapart (build_piecesOf nodes line []) body frames rest

theorem build_piecesOf (nodes : List Node) (line : Nat) (body : List Node) (frames : List Open)
    (rest : List Piece) (hsound : ∀ piece ∈ piecesOf nodes, piece.isSound = true)
    (hapart : (piecesOf nodes).IsChain Piece.Apart) (hbody : Separate body (piecesOf nodes)) :
    build body frames (numberPieces line (piecesOf nodes) ++ rest) =
      build ((numberedFrom line nodes).reverse ++ body) frames rest := by
  cases nodes with
  | nil => rw [piecesOf, numberPieces, numberedFrom]; rfl
  | cons node nodes =>
      rw [piecesOf] at hsound hapart hbody ⊢
      rw [numberedFrom, numberPieces_append, List.append_assoc,
        node.build_pieces line body frames _
          (fun piece hpiece => hsound piece (List.mem_append_left _ hpiece))
          hapart.left_of_append (hbody.left node.pieces_ne_nil),
        build_piecesOf nodes _ _ frames rest
          (fun piece hpiece => hsound piece (List.mem_append_right _ hpiece))
          hapart.right_of_append (Node.separate hapart line body),
        List.reverse_cons, List.append_assoc]
      rfl

end

/-! ## Reading a source back -/

theorem parse_of_printable {nodes : List Node} (h : Printable nodes) :
    parse (String.ofList (sourceOf nodes)) = .ok (numberedFrom 1 nodes) := by
  have hsource : Atom.sourceOf ((piecesOf nodes).flatMap Piece.atoms) = sourceOf nodes :=
    Piece.sourceOf_flatMap_atoms (piecesOf nodes)
  have hsound := Piece.isSound_of_mem_flatMap_atoms h.sound
  have hapart := Piece.isChain_of_inSequence h.apart
  have hkept : ∀ row ∈ Atom.rows ((piecesOf nodes).flatMap Piece.atoms),
      ¬ Atom.IsStandalone row := by
    intro row hrow hstandalone
    have hrowSound : ∀ atom ∈ row, atom.isSound = true :=
      fun atom hatom => hsound atom ((Atom.infix_of_mem_rows hrow).subset hatom)
    refine h.lines (Atom.sourceOf row) ?_ (Atom.isBlockLine_of_isStandalone hrowSound hstandalone)
    rw [← hsource, Atom.lines_sourceOf hsound]
    exact List.mem_map_of_mem hrow
  rw [← hsource, parse_sourceOf hsound (Piece.isChain_flatMap_atoms h.sound hapart) hkept,
    (piecesFrom_flatMap_atoms 1 h.sound).build_eq, ← List.append_nil (numberPieces 1 _),
    build_piecesOf nodes 1 [] [] [] h.sound hapart (.nil _), List.append_nil, build,
    List.reverse_reverse]

/-- Without tags no line stands alone. -/
theorem parse_escapeText (text : String) :
    parse (String.ofList (escapeText text.toList)) =
      .ok (if text = "" then [] else [.text text]) := by
  have hmade : MakesUp text.toList (textAtoms text.toList) := textAtoms_makesUp text.toList
  have hkept : ∀ row ∈ Atom.rows (textAtoms text.toList), ¬ Atom.IsStandalone row := by
    rintro row hrow ⟨mark, hmark, -⟩
    have hnone : row.filterMap Atom.mark? = [] := List.filterMap_eq_nil_iff.2 fun atom hatom =>
      (hmade.atom_isText atom ((Atom.infix_of_mem_rows hrow).subset hatom)).2
    rw [hnone] at hmark
    cases hmark
  rw [← hmade.sourceOf_eq, parse_sourceOf (fun atom hatom => (hmade.atom_isText atom hatom).1)
    hmade.isChain hkept, (hmade.buildAlike 1).build_eq]
  by_cases hempty : text = ""
  · rw [hempty]
    rfl
  · have hne : text.toList.isEmpty = false :=
      List.isEmpty_eq_false_iff.2 fun hnil => hempty (String.toList_eq_nil_iff.1 hnil)
    rw [textOf, hne, if_neg Bool.false_ne_true, if_neg hempty, String.ofList_toList]
    rfl

/-- Reading undoes writing, and there is no text that cannot be written. -/
theorem parse_undoes_writing :
    (∀ nodes : List Node, Printable nodes →
      parse (String.ofList (sourceOf nodes)) = .ok (numberedFrom 1 nodes)) ∧
    ∀ text : String, parse (String.ofList (escapeText text.toList)) =
      .ok (if text = "" then [] else [.text text]) :=
  ⟨fun _ => parse_of_printable, parse_escapeText⟩

theorem not_isBlockLine {line : List Char}
    (h : (Text.trimChars line).head? ≠ some '[' ∨ (Text.trimChars line).getLast? ≠ some ']') :
    ¬ IsBlockLine line := by
  rintro ⟨tag, -, -, heq⟩
  rw [heq, tag.head?_source, tag.getLast?_source] at h
  rcases h with hhead | hlast
  · exact hhead rfl
  · exact hlast rfl

/-- A list with a conditional in it, after a line with brackets in its text. -/
def nestedNodes (line : Nat) : List Node :=
  [.text "a[[b\n",
    .list "columns" "\n" [.scalar "column" ["upper"] line,
      .conditional "join" true [.text "x"] line] line,
    .text "!"]

theorem parse_nestedNodes :
    Printable (nestedNodes 0) ∧
      parse (String.ofList (sourceOf (nestedNodes 0))) = .ok (nestedNodes 2) := by
  have hlines : Text.lines (sourceOf (nestedNodes 0)) =
      ["a\\[[b\n".toList,
        "[[[columns|\\n]]][[column|upper]][[?!join]]x[[/?!join]][[[/columns]]]!".toList] := by
    decide +kernel
  have hprintable : Printable (nestedNodes 0) := by
    refine ⟨by decide +kernel, by decide +kernel, ?_⟩
    rw [hlines, List.forall_mem_cons, List.forall_mem_singleton]
    exact ⟨not_isBlockLine (.inl (by decide +kernel)), not_isBlockLine (.inr (by decide +kernel))⟩
  exact ⟨hprintable, parse_undoes_writing.1 (nestedNodes 0) hprintable⟩

end Scaffold.Template
