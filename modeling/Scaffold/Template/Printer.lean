import Scaffold.Template.Piece

/-!
# Writing templates

A template as the pieces it consists of, and its source.  Not every tree of nodes can be told from
its source; `Printable` says which can: neighbouring texts would become one, a bracket or backslash
at the end of a text would join the tag after it, and a line with a single block tag would lose the
white space around it.
-/

namespace Scaffold.Template

/-- A text as it stands in a source: a backslash before each pair of opening brackets. -/
def escapeText : List Char → List Char
  | [] => []
  | '[' :: '[' :: cs => '\\' :: '[' :: '[' :: escapeText cs
  | c :: cs => c :: escapeText cs

/-- A character of a separator as it stands in a tag. -/
def escapeChar (c : Char) : List Char :=
  if c = '\n' then ['\\', 'n'] else if c = '\t' then ['\\', 't']
  else if c = '\\' then ['\\', '\\'] else [c]

/-- A separator as it stands in a tag. -/
def escapeSeparator (cs : List Char) : List Char :=
  cs.flatMap escapeChar

theorem unescape_cons {c : Char} (h : c ≠ '\\') (cs : List Char) :
    unescape (c :: cs) = c :: unescape cs := by
  cases cs <;> simp [unescape, h]

theorem unescape_escapeSeparator (cs : List Char) : unescape (escapeSeparator cs) = cs := by
  induction cs with
  | nil => rfl
  | cons c cs ih =>
      unfold escapeSeparator at ih ⊢
      rw [List.flatMap_cons]
      by_cases hn : c = '\n'
      · subst hn
        simp [escapeChar, unescape, ih]
      · by_cases ht : c = '\t'
        · subst ht
          simp [escapeChar, unescape, ih]
        · by_cases hb : c = '\\'
          · subst hb
            simp [escapeChar, unescape, ih]
          · have hc : escapeChar c = [c] := by simp [escapeChar, hn, ht, hb]
            rw [hc, List.singleton_append, unescape_cons hb, ih]

namespace Tag

def source : Tag → List Char
  | .scalar name filters =>
      "[[".toList ++ (Text.join "|" (name :: filters)).toList ++ "]]".toList
  | .opens (.list sequence) separator =>
      "[[[".toList ++ sequence.toList ++ '|' :: escapeSeparator separator.toList ++ "]]]".toList
  | .opens block _ => block.opening.toList
  | .closes block => block.closing.toList

/-- Names that are names, and separators that do not look like the end of the tag. -/
def isSound : Tag → Bool
  | .scalar name filters => (name :: filters).all fun token => isTokenName token.toList
  | .opens (.list sequence) separator =>
      isTokenName sequence.toList && !separator.toList.contains ']'
  | .opens (.conditional predicate _) separator => isTokenName predicate.toList && separator = ""
  | .closes block => isTokenName block.name.toList

end Tag

namespace Piece

def source : Piece → List Char
  | .text content => escapeText content.toList
  | .tag mark _ => mark.source

/-- Sound tags, and texts that are there. -/
def isSound : Piece → Bool
  | .text content => content ≠ ""
  | .tag mark _ => mark.isSound

/-- Whether two pieces stay two when they stand next to each other. -/
def staysApart : Piece → Piece → Bool
  | .text _, .text _ => false
  | .text content, .tag _ _ =>
      !(content.toList.getLast? = some '[' || content.toList.getLast? = some '\\')
  | .tag _ _, _ => true

/-- Whether a relation holds between any two neighbours. -/
def inSequence (related : Piece → Piece → Bool) : List Piece → Bool
  | [] => true
  | [_] => true
  | first :: second :: rest => related first second && inSequence related (second :: rest)

end Piece

mutual

/-- The pieces of a node.  A node does not know the line of its closing tag, which is 0 here. -/
def Node.pieces : Node → List Piece
  | .text content => [.text content]
  | .scalar name filters line => [.tag (.scalar name filters) line]
  | .list sequence separator body line =>
      .tag (.opens (.list sequence) separator) line ::
        piecesOf body ++ [.tag (.closes (.list sequence)) 0]
  | .conditional predicate negated body line =>
      .tag (.opens (.conditional predicate negated) "") line ::
        piecesOf body ++ [.tag (.closes (.conditional predicate negated)) 0]

def piecesOf : List Node → List Piece
  | [] => []
  | node :: nodes => node.pieces ++ piecesOf nodes

end

/-- The source of nodes. -/
def sourceOf (nodes : List Node) : List Char :=
  (piecesOf nodes).flatMap Piece.source

/-- The lines that a node goes on over in the source. -/
def Node.lineFeeds (node : Node) : Nat :=
  (node.pieces.flatMap Piece.source).count '\n'

mutual

/-- The node with the lines of its tags in the source, if it starts on the given line. -/
def Node.numbered (line : Nat) : Node → Node
  | .text content => .text content
  | .scalar name filters _ => .scalar name filters line
  | .list sequence separator body _ => .list sequence separator (numberedFrom line body) line
  | .conditional predicate negated body _ =>
      .conditional predicate negated (numberedFrom line body) line

def numberedFrom (line : Nat) : List Node → List Node
  | [] => []
  | node :: nodes => node.numbered line :: numberedFrom (line + node.lineFeeds) nodes

end

/-- Nothing but white space and one block tag. -/
def IsBlockLine (line : List Char) : Prop :=
  ∃ tag : Tag, tag.isSound ∧ (Piece.tag tag 0).isBlock ∧ Text.trimChars line = tag.source

/-- What can be told from the source. -/
structure Printable (nodes : List Node) : Prop where
  sound : ∀ piece ∈ piecesOf nodes, piece.isSound
  apart : Piece.inSequence Piece.staysApart (piecesOf nodes)
  lines : ∀ line ∈ Text.lines (sourceOf nodes), ¬ IsBlockLine line

end Scaffold.Template
