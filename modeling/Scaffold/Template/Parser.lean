import Scaffold.Template.Piece

/-!
# From pieces to templates

Blocks are closed in the order in which they were opened last.  Neighbouring texts become one.
-/

namespace Scaffold.Template

/-- A block that is open: its opening tag and what came before it, newest first. -/
structure Open where
  block : Block
  separator : String
  line : Nat
  before : List Node

/-- The node of a closed block. -/
def Open.close (frame : Open) (body : List Node) : Node :=
  match frame.block with
  | .list sequence => .list sequence frame.separator body frame.line
  | .conditional predicate negated => .conditional predicate negated body frame.line

/-- Adds text to nodes, newest first; it continues a text that is newest. -/
def addText (text : String) : List Node → List Node
  | .text earlier :: nodes => .text (earlier ++ text) :: nodes
  | nodes => .text text :: nodes

/-- The nodes that pieces add to those of the innermost open block, newest first. -/
def build (body : List Node) (frames : List Open) : List Piece → Except Fault (List Node)
  | [] =>
      match frames with
      | [] => .ok body.reverse
      | frame :: _ => .error (.unclosedBlock frame.block.opening frame.line)
  | .text text :: pieces => build (addText text body) frames pieces
  | .tag (.scalar name filters) line :: pieces =>
      build (.scalar name filters line :: body) frames pieces
  | .tag (.opens block separator) line :: pieces =>
      build [] ({ block, separator, line, before := body } :: frames) pieces
  | .tag (.closes block) line :: pieces =>
      match frames with
      | [] => .error (.unexpectedClose block.name line)
      | frame :: frames =>
          if frame.block = block then
            build (frame.close body.reverse :: frame.before) frames pieces
          else .error (.mismatchedClose frame.block.opening block.closing line)

/-- The nodes of a source. -/
def parse (source : String) : Except Fault (List Node) := do
  build [] [] (← pieces source)

end Scaffold.Template
