import Scaffold.Proofs.Template.Rows

/-!
# The atoms of pieces

A text is made of characters and of the pairs of brackets that a backslash protects, and a tag is
an atom by itself.  Pieces that stay apart are made of atoms that do.
-/

namespace Scaffold.Template

/-! ## Texts -/

/-- The atoms of a text. -/
def textAtoms : List Char → List Atom
  | [] => []
  | '[' :: '[' :: cs => .brackets :: textAtoms cs
  | c :: cs => .char c :: textAtoms cs

/-- Atoms that make up a text, in which no pair of brackets is left in two characters. -/
inductive MakesUp : List Char → List Atom → Prop where
  | nil : MakesUp [] []
  | brackets {cs : List Char} {atoms : List Atom} :
      MakesUp cs atoms → MakesUp ('[' :: '[' :: cs) (.brackets :: atoms)
  | char {c : Char} {cs : List Char} {atoms : List Atom}
      (alone : c = '[' → ∀ rest, cs ≠ '[' :: rest) :
      MakesUp cs atoms → MakesUp (c :: cs) (.char c :: atoms)

theorem textAtoms_makesUp (cs : List Char) : MakesUp cs (textAtoms cs) := by
  fun_induction textAtoms cs with
  | case1 => exact .nil
  | case2 cs ih => exact .brackets ih
  | case3 c cs hpair ih => exact .char (fun hc rest hcs => hpair rest hc hcs) ih

namespace MakesUp

variable {cs : List Char} {atoms : List Atom}

theorem sourceOf_eq (h : MakesUp cs atoms) : Atom.sourceOf atoms = escapeText cs := by
  induction h with
  | nil => rfl
  | brackets _ ih =>
      rw [Atom.sourceOf, List.flatMap_cons, ← Atom.sourceOf, ih, escapeText]
      rfl
  | char alone _ ih =>
      rw [Atom.sourceOf, List.flatMap_cons, ← Atom.sourceOf, ih, escapeText]
      · rfl
      · exact fun rest hc hcs => alone hc rest hcs

theorem atom_isText (h : MakesUp cs atoms) :
    ∀ atom ∈ atoms, atom.isSound = true ∧ atom.mark? = none := by
  induction h with
  | nil => exact List.forall_mem_nil _
  | brackets _ ih => exact List.forall_mem_cons.2 ⟨⟨rfl, rfl⟩, ih⟩
  | char _ _ ih => exact List.forall_mem_cons.2 ⟨⟨rfl, rfl⟩, ih⟩

theorem nil_iff (h : MakesUp cs atoms) : atoms = [] ↔ cs = [] := by
  cases h <;> simp

theorem head?_eq (h : MakesUp cs atoms) {c : Char} (hhead : atoms.head? = some (.char c)) :
    ∃ rest, cs = c :: rest := by
  cases h with
  | nil => cases hhead
  | brackets _ => cases hhead
  | @char _ cs _ _ _ =>
      cases hhead
      exact ⟨cs, rfl⟩

theorem isChain (h : MakesUp cs atoms) : atoms.IsChain Atom.Apart := by
  induction h with
  | nil => exact .nil
  | brackets _ ih => exact List.isChain_cons.2 ⟨fun _ _ => trivial, ih⟩
  | char alone hrest ih =>
      refine List.isChain_cons.2 ⟨?_, ih⟩
      intro atom hatom
      cases atom with
      | char d =>
          rintro hc rfl
          obtain ⟨rest, heq⟩ := hrest.head?_eq hatom
          exact alone hc rest heq
      | brackets => trivial
      | tag mark => cases (hrest.atom_isText (.tag mark) (List.mem_of_mem_head? hatom)).2

theorem getLast?_eq (h : MakesUp cs atoms) {c : Char} (hlast : atoms.getLast? = some (.char c)) :
    cs.getLast? = some c := by
  induction h with
  | nil => cases hlast
  | @brackets cs atoms _ ih =>
      cases atoms with
      | nil => cases hlast
      | cons atom atoms =>
          rw [List.getLast?_cons_cons] at hlast
          rw [List.getLast?_cons, List.getLast?_cons, ih hlast]
          rfl
  | @char d cs atoms _ hrest ih =>
      cases atoms with
      | nil =>
          cases hlast
          rw [hrest.nil_iff.1 rfl]
          rfl
      | cons atom atoms =>
          rw [List.getLast?_cons_cons] at hlast
          rw [List.getLast?_cons, ih hlast]
          rfl

/-- The pieces of its atoms build what the text builds. -/
theorem buildAlike (h : MakesUp cs atoms) (line : Nat) :
    BuildAlike (Atom.piecesFrom line atoms) (textOf cs) := by
  induction h generalizing line with
  | nil => exact .refl _
  | @brackets cs _ _ ih =>
      exact (BuildAlike.append_left _ (ih line)).trans (textOf_append ['[', '['] cs)
  | @char c cs _ _ _ ih =>
      exact (BuildAlike.append_left _ (ih _)).trans (textOf_append [c] cs)

end MakesUp

/-! ## Pieces -/

namespace Piece

def atoms : Piece → List Atom
  | .text content => textAtoms content.toList
  | .tag mark _ => [.tag mark]

theorem sourceOf_atoms (piece : Piece) : Atom.sourceOf piece.atoms = piece.source := by
  cases piece with
  | text content => exact (textAtoms_makesUp content.toList).sourceOf_eq
  | tag mark line => exact List.append_nil mark.source

theorem sourceOf_flatMap_atoms (pieces : List Piece) :
    Atom.sourceOf (pieces.flatMap atoms) = pieces.flatMap source := by
  rw [Atom.sourceOf, List.flatMap_assoc]
  congr 1
  funext piece
  exact piece.sourceOf_atoms

theorem isSound_of_mem_atoms {piece : Piece} (hsound : piece.isSound = true) :
    ∀ atom ∈ piece.atoms, atom.isSound = true := by
  intro atom hatom
  cases piece with
  | text content => exact ((textAtoms_makesUp content.toList).atom_isText atom hatom).1
  | tag mark line =>
      rw [List.mem_singleton.1 hatom]
      exact hsound

theorem isSound_of_mem_flatMap_atoms {pieces : List Piece}
    (hsound : ∀ piece ∈ pieces, piece.isSound = true) :
    ∀ atom ∈ pieces.flatMap atoms, atom.isSound = true := by
  intro atom hatom
  obtain ⟨piece, hpiece, hmem⟩ := List.mem_flatMap.1 hatom
  exact isSound_of_mem_atoms (hsound piece hpiece) atom hmem

theorem toList_ne_nil_of_isSound {content : String} (hsound : (text content).isSound = true) :
    content.toList ≠ [] :=
  fun hnil => of_decide_eq_true hsound (String.toList_eq_nil_iff.1 hnil)

theorem atoms_ne_nil {piece : Piece} (hsound : piece.isSound = true) : piece.atoms ≠ [] := by
  cases piece with
  | text content =>
      intro hnil
      have hempty := (textAtoms_makesUp content.toList).nil_iff.1 hnil
      exact toList_ne_nil_of_isSound hsound hempty
  | tag mark line => exact List.cons_ne_nil _ _

/-- Neighbours that stay two. -/
def Apart (first second : Piece) : Prop :=
  staysApart first second = true

theorem isChain_of_inSequence {pieces : List Piece}
    (h : inSequence staysApart pieces = true) : pieces.IsChain Apart := by
  fun_induction inSequence staysApart pieces with
  | case1 => exact .nil
  | case2 piece => exact .singleton piece
  | case3 first second rest ih =>
      rw [Bool.and_eq_true] at h
      exact .cons_cons h.1 (ih h.2)

theorem isChain_atoms (piece : Piece) : piece.atoms.IsChain Atom.Apart := by
  cases piece with
  | text content => exact (textAtoms_makesUp content.toList).isChain
  | tag mark line => exact .singleton _

/-- The last atom of a piece and the first one of its neighbour. -/
theorem apart_atoms {first second : Piece} (h : Apart first second) {last next : Atom}
    (hlast : last ∈ first.atoms.getLast?) (hnext : next ∈ second.atoms.head?) :
    last.Apart next := by
  cases first with
  | tag mark line =>
      cases hlast
      cases next <;> trivial
  | text content =>
      cases second with
      | text _ => cases h
      | tag mark line =>
          cases hnext
          cases last with
          | char c =>
              have hc := (textAtoms_makesUp content.toList).getLast?_eq hlast
              simp only [Apart, staysApart, hc, Bool.not_eq_true', Bool.or_eq_false_iff,
                decide_eq_false_iff_not, Option.some.injEq] at h
              exact h
          | brackets => trivial
          | tag _ => trivial

theorem isChain_flatMap_atoms {pieces : List Piece}
    (hsound : ∀ piece ∈ pieces, piece.isSound = true) (hapart : pieces.IsChain Apart) :
    (pieces.flatMap atoms).IsChain Atom.Apart := by
  induction pieces with
  | nil => exact .nil
  | cons piece pieces ih =>
      rw [List.isChain_cons] at hapart
      have hrest :=
        ih (fun other hother => hsound other (List.mem_cons_of_mem piece hother)) hapart.2
      rw [List.flatMap_cons, List.isChain_append]
      refine ⟨piece.isChain_atoms, hrest, ?_⟩
      intro last hlast next hnext
      cases pieces with
      | nil => cases hnext
      | cons second pieces =>
          rw [List.flatMap_cons, List.head?_append_of_ne_nil] at hnext
          · exact apart_atoms (hapart.1 second rfl) hlast hnext
          · exact atoms_ne_nil (hsound second (List.mem_cons_of_mem piece List.mem_cons_self))

end Piece

end Scaffold.Template
