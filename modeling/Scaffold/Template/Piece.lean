import Scaffold.Template.Basic
import Scaffold.Text.Blank
import Scaffold.Text.Fields

/-!
# Pieces of a template

The tags of a template and the text between them, line by line:

```text
[[name]]  [[name|filter|filter]]        scalar
[[[sequence]]]  [[[sequence|separator]]]  opens a list, [[[/sequence]]] closes it
[[?predicate]]  [[?!predicate]]          opens a conditional, [[/?predicate]] closes it
```

A backslash before `[[` makes it text.  A tag ends on the line where it starts.  A list or
conditional tag with nothing but white space beside it takes the whole line with it.
-/

namespace Scaffold.Template

/-- What a list or conditional tag speaks of. -/
inductive Block where
  | list (sequence : String)
  | conditional (predicate : String) (negated : Bool)
deriving DecidableEq, Repr

/-- The sequence or predicate of a block. -/
def Block.name : Block → String
  | .list sequence => sequence
  | .conditional predicate _ => predicate

/-- The opening tag of a block, without a separator. -/
def Block.opening : Block → String
  | .list sequence => "[[[" ++ sequence ++ "]]]"
  | .conditional predicate negated => "[[?" ++ (if negated then "!" else "") ++ predicate ++ "]]"

/-- The closing tag of a block. -/
def Block.closing : Block → String
  | .list sequence => "[[[/" ++ sequence ++ "]]]"
  | .conditional predicate negated => "[[/?" ++ (if negated then "!" else "") ++ predicate ++ "]]"

inductive Tag where
  | scalar (name : String) (filters : List String)
  /-- Only lists have a separator; that of a conditional is empty. -/
  | opens (block : Block) (separator : String)
  | closes (block : Block)
deriving DecidableEq, Repr

inductive Piece where
  | text (text : String)
  | tag (tag : Tag) (line : Nat)
deriving DecidableEq, Repr

/-! ## Tags -/

/-- A separator as it is meant: `\n`, `\t` and `\\` stand for one character. -/
def unescape : List Char → List Char
  | [] => []
  | '\\' :: 'n' :: cs => '\n' :: unescape cs
  | '\\' :: 't' :: cs => '\t' :: unescape cs
  | '\\' :: '\\' :: cs => '\\' :: unescape cs
  | '\\' :: c :: cs => '\\' :: c :: unescape cs
  | c :: cs => c :: unescape cs

/-- The name that is left when white space is trimmed off. -/
def tokenName? (cs : List Char) : Option String :=
  let name := Text.trimChars cs
  if isTokenName name then some (String.ofList name) else none

/-- The tag between three brackets. -/
def listTag? : List Char → Option Tag
  | '/' :: cs => (tokenName? cs).map fun sequence => .closes (.list sequence)
  | cs =>
      let (name, separator) := (Text.cut '|' cs).getD (cs, [])
      (tokenName? name).map fun sequence =>
        .opens (.list sequence) (String.ofList (unescape separator))

/-- A value's name and its filters. -/
def scalarTag? (cs : List Char) : Option Tag :=
  match (Text.fields (· = '|') cs).mapM tokenName? with
  | some (name :: filters) => some (.scalar name filters)
  | _ => none

/-- The tag between two brackets. -/
def plainTag? : List Char → Option Tag
  | '/' :: '?' :: '!' :: cs =>
      (tokenName? cs).map fun predicate => .closes (.conditional predicate true)
  | '/' :: '?' :: cs =>
      (tokenName? cs).map fun predicate => .closes (.conditional predicate false)
  | '?' :: '!' :: cs =>
      (tokenName? cs).map fun predicate => .opens (.conditional predicate true) ""
  | '?' :: cs =>
      (tokenName? cs).map fun predicate => .opens (.conditional predicate false) ""
  | cs => scalarTag? cs

/-! ## Lines -/

/-- What is being read: text, or a tag after two or three brackets.  The characters read so far
are held newest first. -/
inductive Reading where
  | text (seen : List Char)
  | plain (seen : List Char)
  | list (seen : List Char)

/-- The text read so far, unless there is none. -/
def textPiece (seen : List Char) : List Piece :=
  if seen.isEmpty then [] else [.text (String.ofList seen.reverse)]

/-- The piece of a tag, given what stands between the brackets, newest first. -/
def tagPiece (line : Nat) (brackets : String × String) (read : List Char → Option Tag)
    (seen : List Char) : Except Fault Piece :=
  match read seen.reverse with
  | some tag => .ok (.tag tag line)
  | none =>
      .error (.malformedTag (brackets.1 ++ String.ofList seen.reverse ++ brackets.2) line)

/-- The pieces of one line. -/
def scan (line : Nat) : Reading → List Char → Except Fault (List Piece)
  | .text ('\\' :: seen), '[' :: '[' :: cs => do
      let rest ← scan line (.text []) cs
      pure (.text (String.ofList (seen.reverse ++ ['[', '['])) :: rest)
  | .text seen, '[' :: '[' :: '[' :: cs => do
      let rest ← scan line (.list []) cs
      pure (textPiece seen ++ rest)
  | .text seen, '[' :: '[' :: cs => do
      let rest ← scan line (.plain []) cs
      pure (textPiece seen ++ rest)
  | .text seen, c :: cs => scan line (.text (c :: seen)) cs
  | .text seen, [] => .ok (textPiece seen)
  | .plain seen, ']' :: ']' :: cs => do
      let piece ← tagPiece line ("[[", "]]") plainTag? seen
      let rest ← scan line (.text []) cs
      pure (piece :: rest)
  | .plain seen, c :: cs => scan line (.plain (c :: seen)) cs
  | .list seen, ']' :: ']' :: ']' :: cs => do
      let piece ← tagPiece line ("[[[", "]]]") listTag? seen
      let rest ← scan line (.text []) cs
      pure (piece :: rest)
  | .list seen, c :: cs => scan line (.list (c :: seen)) cs
  | .plain _, [] => .error (.unterminatedTag line)
  | .list _, [] => .error (.unterminatedTag line)

/-- Text that is not only white space. -/
def Piece.isVisibleText : Piece → Bool
  | .text content => !content.toList.all Text.isBlank
  | .tag _ _ => false

def Piece.isBlock : Piece → Bool
  | .tag (.scalar _ _) _ => false
  | .tag _ _ => true
  | .text _ => false

def Piece.isTag : Piece → Bool
  | .tag _ _ => true
  | .text _ => false

/-- One list or conditional tag, and otherwise white space. -/
def isStandalone (pieces : List Piece) : Bool :=
  match pieces.filter Piece.isTag with
  | [tag] => tag.isBlock && !pieces.any Piece.isVisibleText
  | _ => false

/-- The pieces of one line, without the white space around a tag that stands alone. -/
def scanLine (line : Nat) (cs : List Char) : Except Fault (List Piece) := do
  let pieces ← scan line (.text []) cs
  pure (if isStandalone pieces then pieces.filter Piece.isTag else pieces)

/-- The pieces of numbered lines. -/
def scanLines (line : Nat) : List (List Char) → Except Fault (List Piece)
  | [] => .ok []
  | cs :: rest => do
      let pieces ← scanLine line cs
      let others ← scanLines (line + 1) rest
      pure (pieces ++ others)

/-- The pieces of a template. -/
def pieces (source : String) : Except Fault (List Piece) :=
  scanLines 1 (Text.lines source.toList)

end Scaffold.Template
