import Mathlib.Data.List.Chain
import Scaffold.Proofs.Outcome
import Scaffold.Proofs.Template.Tag

/-!
# Reading a line

A source is made of atoms: characters, pairs of brackets that are text, and tags.  Where no two
neighbours can be taken for something else, the atoms of a line are read back.
-/

namespace Scaffold.Template

/-- The least that a scanner takes from a source. -/
inductive Atom where
  | char (c : Char)
  /-- Two opening brackets that are text. -/
  | brackets
  | tag (mark : Tag)

namespace Atom

def source : Atom → List Char
  | .char c => [c]
  | .brackets => ['\\', '[', '[']
  | .tag mark => mark.source

def isSound : Atom → Bool
  | .tag mark => mark.isSound
  | _ => true

/-- What an atom means by itself. -/
def piece (line : Nat) : Atom → Piece
  | .char c => .text (String.ofList [c])
  | .brackets => .text "[["
  | .tag mark => .tag mark line

/-- A bracket makes a tag of the bracket after it, and moves the start of a tag; a backslash makes
text of a tag. -/
def Apart : Atom → Atom → Prop
  | .char c, .char d => c = '[' → d ≠ '['
  | .char c, .tag _ => c ≠ '[' ∧ c ≠ '\\'
  | _, _ => True

/-- The source of atoms. -/
def sourceOf (atoms : List Atom) : List Char :=
  atoms.flatMap source

theorem sourceOf_map_char (cs : List Char) : sourceOf (cs.map char) = cs := by
  rw [sourceOf, List.flatMap_map]
  exact List.flatMap_singleton' cs

/-- The pieces that a scanner makes of atoms, after characters it holds newest first. -/
def collect (line : Nat) : List Char → List Atom → List Piece
  | seen, [] => textPiece seen
  | seen, .char c :: atoms => collect line (c :: seen) atoms
  | seen, .brackets :: atoms =>
      .text (String.ofList (seen.reverse ++ ['[', '['])) :: collect line [] atoms
  | seen, .tag mark :: atoms => textPiece seen ++ .tag mark line :: collect line [] atoms

end Atom

/-! ## Scanning -/

namespace Atom

/-- The lexeme that a scanner finds where an atom was written. -/
def lexeme : Atom → Lexeme
  | .char c => .char c
  | .brackets => .escaped
  | .tag mark => .enclosed mark.brackets mark.inner

theorem sourceOf_ne_bracket {atoms : List Atom}
    (h : ∀ atom ∈ atoms.head?, Apart (.char '[') atom) (rest : List Char) :
    sourceOf atoms ≠ '[' :: rest := by
  cases atoms with
  | nil => exact (List.cons_ne_nil '[' rest).symm
  | cons atom atoms =>
      have hapart : Apart (.char '[') atom := h atom rfl
      intro heq
      cases atom with
      | char c => exact hapart rfl (List.cons_eq_cons.1 heq).1
      | brackets => exact absurd (List.cons_eq_cons.1 heq).1 (by decide)
      | tag mark => exact hapart.1 rfl

/-- Behind a backslash there is no tag, and no bracket is followed by another one. -/
theorem sourceOf_ne_brackets {atoms : List Atom} (hapart : atoms.IsChain Apart)
    (h : ∀ atom ∈ atoms.head?, Apart (.char '\\') atom) (rest : List Char) :
    sourceOf atoms ≠ '[' :: '[' :: rest := by
  cases atoms with
  | nil => exact (List.cons_ne_nil '[' _).symm
  | cons atom atoms =>
      intro heq
      cases atom with
      | char c =>
          obtain ⟨rfl, hrest⟩ := List.cons_eq_cons.1 heq
          exact sourceOf_ne_bracket (List.isChain_cons.1 hapart).1 rest hrest
      | brackets => exact absurd (List.cons_eq_cons.1 heq).1 (by decide)
      | tag mark => exact (h (.tag mark) rfl).2 rfl

/-- Sound atoms that stay apart are the lexemes of their source. -/
theorem lexemes_sourceOf {atoms : List Atom} (hsound : ∀ atom ∈ atoms, atom.isSound = true)
    (hapart : atoms.IsChain Apart) : lexemes (sourceOf atoms) = atoms.map lexeme := by
  induction atoms with
  | nil => rw [sourceOf, List.flatMap_nil, lexemes_nil, List.map_nil]
  | cons atom atoms ih =>
      obtain ⟨hhead, htail⟩ := List.isChain_cons.1 hapart
      have hrest := ih (fun other hother => hsound other (List.mem_cons_of_mem atom hother)) htail
      rw [sourceOf, List.flatMap_cons, ← sourceOf, List.map_cons, ← hrest]
      cases atom with
      | char c =>
          refine lexemes_char ?_ ?_
          · rintro rfl
            exact sourceOf_ne_brackets htail hhead
          · rintro rfl
            exact sourceOf_ne_bracket hhead
      | brackets => exact lexemes_escaped _
      | tag mark =>
          have hmark : mark.isSound = true := hsound (.tag mark) List.mem_cons_self
          rw [source, Tag.source_eq]
          exact lexemes_enclosed (Tag.not_mem_inner hmark (.inr rfl)) (Tag.opens_inner hmark) _

theorem collect_map_lexeme {atoms : List Atom} (hsound : ∀ atom ∈ atoms, atom.isSound = true)
    (line : Nat) (seen : List Char) :
    Template.collect line seen (atoms.map lexeme) = .ok (collect line seen atoms) := by
  induction atoms generalizing seen with
  | nil => rfl
  | cons atom atoms ih =>
      obtain ⟨hatom, hatoms⟩ := List.forall_mem_cons.1 hsound
      rw [List.map_cons]
      cases atom with
      | char c => exact ih hatoms (c :: seen)
      | brackets =>
          rw [lexeme, Template.collect, ih hatoms]
          rfl
      | tag mark =>
          rw [lexeme, Template.collect, Tag.read_inner hatom]
          dsimp only
          rw [ih hatoms]
          rfl

end Atom

/-- Sound atoms that stay apart are read back. -/
theorem scan_sourceOf {atoms : List Atom} (hsound : ∀ atom ∈ atoms, atom.isSound = true)
    (hapart : atoms.IsChain Atom.Apart) (line : Nat) :
    scan line (.text []) (Atom.sourceOf atoms) = .ok (Atom.collect line [] atoms) := by
  rw [scan_line_eq_collect, Atom.lexemes_sourceOf hsound hapart, Atom.collect_map_lexeme hsound]

/-! ## Lines with a single block tag -/

namespace Atom

def mark? : Atom → Option Tag
  | .tag mark => some mark
  | _ => none

/-- Whether an atom is text that can be seen. -/
def isVisible : Atom → Bool
  | .char c => !Text.isBlank c
  | .brackets => true
  | .tag _ => false

/-- One list or conditional tag, and otherwise white space. -/
def IsStandalone (atoms : List Atom) : Prop :=
  ∃ mark, atoms.filterMap mark? = [mark] ∧ (Piece.tag mark 0).isBlock = true ∧
    ∀ atom ∈ atoms, atom.isVisible = false

theorem filter_isTag_collect (line : Nat) (seen : List Char) (atoms : List Atom) :
    (collect line seen atoms).filter Piece.isTag =
      (atoms.filterMap mark?).map fun mark => .tag mark line := by
  induction atoms generalizing seen with
  | nil => exact filter_isTag_textPiece seen
  | cons atom atoms ih =>
      cases atom with
      | char c => exact ih (c :: seen)
      | brackets => exact ih []
      | tag mark =>
          rw [collect, List.filter_append, filter_isTag_textPiece, List.nil_append,
            List.filter_cons_of_pos rfl, ih]
          rfl

theorem isVisibleText_ofList (cs : List Char) :
    Piece.isVisibleText (.text (String.ofList cs)) = cs.any fun c => !Text.isBlank c := by
  rw [Piece.isVisibleText, String.toList_ofList, List.not_all_eq_any_not]

theorem any_isVisibleText_textPiece (seen : List Char) :
    (textPiece seen).any Piece.isVisibleText = seen.any fun c => !Text.isBlank c := by
  cases seen with
  | nil => rfl
  | cons c seen =>
      rw [textPiece, if_neg (by exact Bool.false_ne_true), List.any_cons, List.any_nil,
        Bool.or_false, isVisibleText_ofList, List.any_reverse]

theorem any_isVisibleText_collect (line : Nat) (seen : List Char) (atoms : List Atom) :
    (collect line seen atoms).any Piece.isVisibleText =
      ((seen.any fun c => !Text.isBlank c) || atoms.any isVisible) := by
  induction atoms generalizing seen with
  | nil => rw [collect, any_isVisibleText_textPiece, List.any_nil, Bool.or_false]
  | cons atom atoms ih =>
      cases atom with
      | char c =>
          rw [collect, ih, List.any_cons, List.any_cons, isVisible, Bool.or_assoc,
            Bool.or_left_comm]
      | brackets =>
          have hbrackets : (['[', '['].any fun c => !Text.isBlank c) = true := by decide
          rw [collect, List.any_cons, isVisibleText_ofList, List.any_append, hbrackets,
            List.any_cons, isVisible]
          simp only [Bool.or_true, Bool.true_or]
      | tag mark =>
          rw [collect, List.any_append, any_isVisibleText_textPiece, List.any_cons, ih,
            List.any_cons]
          rfl

theorem isStandalone_collect {line : Nat} {atoms : List Atom} :
    isStandalone (collect line [] atoms) = true ↔ IsStandalone atoms := by
  rw [isStandalone, filter_isTag_collect, any_isVisibleText_collect, List.any_nil,
    Bool.false_or]
  constructor
  · intro h
    split at h
    · next piece hpiece =>
        rw [List.map_eq_singleton_iff] at hpiece
        obtain ⟨mark, hmark, rfl⟩ := hpiece
        rw [Bool.and_eq_true, Bool.not_eq_true', List.any_eq_false] at h
        refine ⟨mark, hmark, ?_, fun atom hatom => Bool.eq_false_iff.2 (h.2 atom hatom)⟩
        cases mark <;> exact h.1
    · cases h
  · rintro ⟨mark, hmark, hblock, hhidden⟩
    have hnone : atoms.any isVisible = false :=
      List.any_eq_false.2 fun atom hatom => Bool.eq_false_iff.1 (hhidden atom hatom)
    rw [hmark, hnone]
    cases mark <;> exact hblock

theorem isBlank_of_mem_sourceOf {atoms : List Atom} (hmark : atoms.filterMap mark? = [])
    (hhidden : ∀ atom ∈ atoms, atom.isVisible = false) :
    ∀ c ∈ sourceOf atoms, Text.isBlank c = true := by
  intro c hc
  obtain ⟨atom, hatom, hmem⟩ := List.mem_flatMap.1 hc
  have hnone : atom.mark? = none := List.filterMap_eq_nil_iff.1 hmark atom hatom
  have hinvisible : atom.isVisible = false := hhidden atom hatom
  cases atom with
  | char d =>
      rw [isVisible, Bool.not_eq_false'] at hinvisible
      rw [List.mem_singleton.1 hmem]
      exact hinvisible
  | brackets => cases hinvisible
  | tag mark => cases hnone

/-- White space, a tag, white space. -/
theorem exists_sourceOf_eq {atoms : List Atom} {mark : Tag}
    (hmark : atoms.filterMap mark? = [mark]) (hhidden : ∀ atom ∈ atoms, atom.isVisible = false) :
    ∃ front back, sourceOf atoms = front ++ (mark.source ++ back) ∧
      (∀ c ∈ front, Text.isBlank c = true) ∧ ∀ c ∈ back, Text.isBlank c = true := by
  induction atoms with
  | nil => cases hmark
  | cons atom atoms ih =>
      have hrest := fun other hother => hhidden other (List.mem_cons_of_mem atom hother)
      have hinvisible : atom.isVisible = false := hhidden atom List.mem_cons_self
      cases atom with
      | char c =>
          obtain ⟨front, back, heq, hfront, hback⟩ := ih hmark hrest
          refine ⟨c :: front, back, congrArg (c :: ·) heq, ?_, hback⟩
          rw [isVisible, Bool.not_eq_false'] at hinvisible
          exact List.forall_mem_cons.2 ⟨hinvisible, hfront⟩
      | brackets => cases hinvisible
      | tag other =>
          have hcons : other :: atoms.filterMap mark? = [mark] := hmark
          rw [List.cons_eq_cons] at hcons
          refine ⟨[], sourceOf atoms, ?_, List.forall_mem_nil _,
            isBlank_of_mem_sourceOf hcons.2 hrest⟩
          rw [← hcons.1]
          rfl

theorem isBlockLine_of_isStandalone {atoms : List Atom}
    (hsound : ∀ atom ∈ atoms, atom.isSound = true) (h : IsStandalone atoms) :
    IsBlockLine (sourceOf atoms) := by
  obtain ⟨mark, hmark, hblock, hhidden⟩ := h
  obtain ⟨front, back, heq, hfront, hback⟩ := exists_sourceOf_eq hmark hhidden
  have hmem : mark ∈ atoms.filterMap mark? := by
    rw [hmark]
    exact List.mem_singleton_self mark
  obtain ⟨atom, hatom, hsome⟩ := List.mem_filterMap.1 hmem
  have hmarkSound : mark.isSound = true := by
    cases atom with
    | tag other =>
        cases hsome
        exact hsound (.tag mark) hatom
    | _ => cases hsome
  refine ⟨mark, hmarkSound, hblock, ?_⟩
  rw [heq]
  apply Text.trimChars_padded hfront hback
  · intro hnil
    have hhead := mark.head?_source
    rw [hnil] at hhead
    cases hhead
  · intro c hc
    rw [mark.head?_source] at hc
    cases hc
    decide
  · intro c hc
    rw [mark.getLast?_source] at hc
    cases hc
    decide

end Atom

end Scaffold.Template
