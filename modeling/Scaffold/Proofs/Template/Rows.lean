import Scaffold.Proofs.Template.Line
import Scaffold.Proofs.Template.Regrouping

/-!
# Reading a source line by line

A source is scanned in lines, and each line makes pieces of its own.  What is built from them is
what is built from the atoms of the whole source, each with the number of its line.
-/

namespace Scaffold.Template

namespace Atom

/-- Whether an atom ends its line. -/
def isFeed : Atom → Bool
  | .char c => c = '\n'
  | _ => false

/-- The atoms of each line. -/
def rows : List Atom → List (List Atom)
  | [] => []
  | atom :: atoms =>
      if atom.isFeed then [atom] :: rows atoms
      else match rows atoms with
        | [] => [[atom]]
        | row :: rest => (atom :: row) :: rest

theorem flatten_rows (atoms : List Atom) : (rows atoms).flatten = atoms := by
  induction atoms with
  | nil => rfl
  | cons atom atoms ih =>
      rw [rows]
      split
      · rw [List.flatten_cons, ih, List.singleton_append]
      · split
        · next hrows =>
            rw [hrows] at ih
            rw [← ih]
            rfl
        · next row rest hrows =>
            rw [hrows] at ih
            rw [← ih]
            rfl

theorem infix_of_mem_rows {row atoms : List Atom} (h : row ∈ rows atoms) : row <:+: atoms := by
  rw [← flatten_rows atoms]
  exact List.infix_of_mem_flatten h

theorem source_ne_nil (atom : Atom) : atom.source ≠ [] := by
  cases atom with
  | char c => exact List.cons_ne_nil c []
  | brackets => exact List.cons_ne_nil _ _
  | tag mark =>
      intro hnil
      have hhead := mark.head?_source
      rw [← source, hnil] at hhead
      cases hhead

theorem feed_not_mem_source {atom : Atom} (hsound : atom.isSound = true)
    (hfeed : atom.isFeed = false) : '\n' ∉ atom.source := by
  cases atom with
  | char c =>
      rw [source, List.mem_singleton]
      exact fun heq => decide_eq_false_iff_not.1 hfeed heq.symm
  | brackets => decide
  | tag mark => exact Tag.feed_not_mem_source hsound

/-- The lines of a source are the sources of its rows. -/
theorem lines_sourceOf {atoms : List Atom} (hsound : ∀ atom ∈ atoms, atom.isSound = true) :
    Text.lines (sourceOf atoms) = (rows atoms).map sourceOf := by
  induction atoms with
  | nil => rfl
  | cons atom atoms ih =>
      have hlines := ih fun other hother => hsound other (List.mem_cons_of_mem atom hother)
      rw [sourceOf, List.flatMap_cons, ← sourceOf, rows]
      cases hfeed : atom.isFeed with
      | true =>
          have hsource : atom.source = ['\n'] := by
            cases atom with
            | char c => rw [source, of_decide_eq_true hfeed]
            | _ => cases hfeed
          rw [if_pos rfl, hsource, List.singleton_append, Text.lines_feed, hlines, List.map_cons,
            sourceOf, List.flatMap_singleton, hsource]
      | false =>
          rw [if_neg Bool.false_ne_true, Text.lines_append atom.source_ne_nil
            (feed_not_mem_source (hsound atom List.mem_cons_self) hfeed), hlines]
          cases rows atoms with
          | nil =>
              rw [List.map_nil, List.map_singleton, sourceOf, List.flatMap_singleton]
          | cons row rest =>
              rw [List.map_cons, List.map_cons, sourceOf, sourceOf, List.flatMap_cons]

/-! ## Pieces of atoms -/

/-- The pieces of atoms in lines from a given one. -/
def piecesFrom (line : Nat) : List Atom → List Piece
  | [] => []
  | atom :: atoms =>
      atom.piece line :: piecesFrom (if atom.isFeed then line + 1 else line) atoms

/-- The pieces of rows in lines from a given one. -/
def piecesOfRows (line : Nat) : List (List Atom) → List Piece
  | [] => []
  | row :: rest => row.map (piece line) ++ piecesOfRows (line + 1) rest

/-- What a scanner makes of rows in lines from a given one. -/
def collectRows (line : Nat) : List (List Atom) → List Piece
  | [] => []
  | row :: rest => collect line [] row ++ collectRows (line + 1) rest

theorem piecesOfRows_rows (line : Nat) (atoms : List Atom) :
    piecesOfRows line (rows atoms) = piecesFrom line atoms := by
  induction atoms generalizing line with
  | nil => rfl
  | cons atom atoms ih =>
      rw [rows, piecesFrom, ← ih]
      split
      · rfl
      · cases rows atoms <;> rfl

theorem collect_buildAlike (line : Nat) (seen : List Char) (atoms : List Atom) :
    BuildAlike (collect line seen atoms) (textPiece seen ++ atoms.map (piece line)) := by
  induction atoms generalizing seen with
  | nil =>
      rw [collect, List.map_nil, List.append_nil]
      exact .refl _
  | cons atom atoms ih =>
      cases atom with
      | char c =>
          have htext : BuildAlike (textPiece (c :: seen)) (textPiece seen ++ textOf [c]) := by
            rw [textPiece_eq_textOf, textPiece_eq_textOf, List.reverse_cons]
            exact (textOf_append seen.reverse [c]).symm
          have hall := htext.append (.refl (atoms.map (piece line)))
          rw [List.append_assoc] at hall
          exact (ih (c :: seen)).trans hall
      | brackets =>
          have htext : BuildAlike (textOf (seen.reverse ++ ['[', '[']))
              (textPiece seen ++ textOf ['[', '[']) := by
            rw [textPiece_eq_textOf]
            exact (textOf_append seen.reverse ['[', '[']).symm
          -- The scanner puts the brackets behind what it holds, in one text.
          have hpiece : textOf (seen.reverse ++ ['[', '[']) =
              [.text (String.ofList (seen.reverse ++ ['[', '[']))] := by
            rw [textOf, if_neg (by simp)]
          rw [hpiece] at htext
          have hall := htext.append (ih [])
          rw [List.append_assoc] at hall
          exact hall
      | tag mark =>
          rw [collect, List.map_cons]
          exact .append_left _ (.append_left [.tag mark line] (ih []))

theorem collectRows_buildAlike (line : Nat) (rest : List (List Atom)) :
    BuildAlike (collectRows line rest) (piecesOfRows line rest) := by
  induction rest generalizing line with
  | nil => exact .refl _
  | cons row rest ih => exact (collect_buildAlike line [] row).append (ih (line + 1))

end Atom

/-! ## Scanning all lines -/

/-- A line that does not stand alone keeps what is on it. -/
theorem scanLine_sourceOf {line : Nat} {row : List Atom}
    (hsound : ∀ atom ∈ row, atom.isSound = true) (hapart : row.IsChain Atom.Apart)
    (hkept : ¬ Atom.IsStandalone row) :
    scanLine line (Atom.sourceOf row) = .ok (Atom.collect line [] row) := by
  rw [scanLine, scan_sourceOf hsound hapart, Except.ok_bind,
    if_neg fun h => hkept (Atom.isStandalone_collect.1 h)]
  rfl

/-- Of a line that stands alone only the tag is kept. -/
theorem scanLine_of_isStandalone {line : Nat} {row : List Atom}
    (hsound : ∀ atom ∈ row, atom.isSound = true) (hapart : row.IsChain Atom.Apart)
    (halone : Atom.IsStandalone row) :
    scanLine line (Atom.sourceOf row) = .ok ((row.filterMap Atom.mark?).map (.tag · line)) := by
  rw [scanLine, scan_sourceOf hsound hapart, Except.ok_bind,
    if_pos (Atom.isStandalone_collect.2 halone), Atom.filter_isTag_collect]
  rfl

theorem scanLines_map_sourceOf {line : Nat} {rest : List (List Atom)}
    (h : ∀ row ∈ rest, ∀ line, scanLine line (Atom.sourceOf row) = .ok (Atom.collect line [] row)) :
    scanLines line (rest.map Atom.sourceOf) = .ok (Atom.collectRows line rest) := by
  induction rest generalizing line with
  | nil => rfl
  | cons row rest ih =>
      rw [List.map_cons, scanLines, h row List.mem_cons_self line, Except.ok_bind,
        ih fun other hother => h other (List.mem_cons_of_mem row hother)]
      rfl

/-- Sound atoms that stay apart are parsed as if each were a piece. -/
theorem parse_sourceOf {atoms : List Atom} (hsound : ∀ atom ∈ atoms, atom.isSound = true)
    (hapart : atoms.IsChain Atom.Apart) (hkept : ∀ row ∈ Atom.rows atoms, ¬ Atom.IsStandalone row) :
    parse (String.ofList (Atom.sourceOf atoms)) = build [] [] (Atom.piecesFrom 1 atoms) := by
  have hscan : ∀ row ∈ Atom.rows atoms, ∀ line,
      scanLine line (Atom.sourceOf row) = .ok (Atom.collect line [] row) := by
    intro row hrow line
    have hpart := Atom.infix_of_mem_rows hrow
    have hrowApart : row.IsChain Atom.Apart := List.IsChain.infix hapart hpart
    exact scanLine_sourceOf (fun atom hatom => hsound atom (hpart.subset hatom)) hrowApart
      (hkept row hrow)
  rw [parse, pieces, String.toList_ofList, Atom.lines_sourceOf hsound,
    scanLines_map_sourceOf hscan, Except.ok_bind, ← Atom.piecesOfRows_rows]
  exact (Atom.collectRows_buildAlike 1 (Atom.rows atoms)).build_eq [] []

end Scaffold.Template
