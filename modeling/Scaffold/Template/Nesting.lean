import Scaffold.Template.Piece

/-!
# Nesting of blocks

Pieces are well nested if every block that is opened is closed by its own tag, with well nested
pieces between.  `Opened` says which blocks are open after the beginning of a template, and `Blamed`
which tag is at fault where pieces are not well nested.
-/

namespace Scaffold.Template

/-- Well nested pieces. -/
inductive Nested : List Piece → Prop where
  | nil : Nested []
  | text {content : String} {rest : List Piece} : Nested rest → Nested (.text content :: rest)
  | scalar {name : String} {filters : List String} {line : Nat} {rest : List Piece} :
      Nested rest → Nested (.tag (.scalar name filters) line :: rest)
  | block {block : Block} {separator : String} {first last : Nat} {body rest : List Piece} :
      Nested body → Nested rest →
      Nested (.tag (.opens block separator) first :: body ++ .tag (.closes block) last :: rest)

/-- Pieces after which some blocks are open, innermost first, each with the line of its tag. -/
inductive Opened : List Piece → List (Block × Nat) → Prop where
  | closed {pieces : List Piece} : Nested pieces → Opened pieces []
  | opens {before body : List Piece} {blocks : List (Block × Nat)} {block : Block}
      {separator : String} {line : Nat} :
      Opened before blocks → Nested body →
      Opened (before ++ .tag (.opens block separator) line :: body) ((block, line) :: blocks)

/-- The fault of pieces that are not well nested: that of the first closing tag that does not close
the innermost open block, or else of the innermost block that is never closed. -/
inductive Blamed : List Piece → Fault → Prop where
  | unexpected {before after : List Piece} {block : Block} {line : Nat} :
      Opened before [] →
      Blamed (before ++ .tag (.closes block) line :: after) (.unexpectedClose block.name line)
  | mismatched {before after : List Piece} {blocks : List (Block × Nat)} {innermost block : Block}
      {first line : Nat} :
      Opened before ((innermost, first) :: blocks) → innermost ≠ block →
      Blamed (before ++ .tag (.closes block) line :: after)
        (.mismatchedClose innermost.opening block.closing line)
  | unclosed {pieces : List Piece} {blocks : List (Block × Nat)} {innermost : Block}
      {first : Nat} :
      Opened pieces ((innermost, first) :: blocks) →
      Blamed pieces (.unclosedBlock innermost.opening first)

/-- What a tree of nodes keeps of a piece: all but the line of a closing tag. -/
def Piece.kept : Piece → Piece
  | .tag (.closes block) _ => .tag (.closes block) 0
  | piece => piece

/-- Pieces with neighbouring texts put together. -/
def mergeTexts : List Piece → List Piece
  | [] => []
  | .tag tag line :: pieces => .tag tag line :: mergeTexts pieces
  | .text content :: pieces =>
      match mergeTexts pieces with
      | .text more :: rest => .text (content ++ more) :: rest
      | rest => .text content :: rest

theorem Nested.append {front back : List Piece} (hf : Nested front) (hb : Nested back) :
    Nested (front ++ back) := by
  induction hf with
  | nil => exact hb
  | text _ ih => exact .text ih
  | scalar _ ih => exact .scalar ih
  | block hbody _ _ ih => simpa using Nested.block hbody ih

end Scaffold.Template
