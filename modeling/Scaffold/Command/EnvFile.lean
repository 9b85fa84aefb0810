import Scaffold.Text.Alphanumeric
import Scaffold.Text.Blank
import Scaffold.Text.Fields

/-!
# Files of variables

Lines of the form `NAME=value`, with an optional `export` in front and comments after `#`.  Values
may be quoted: between single quotes every character stands for itself, between double quotes a
backslash escapes, and a quoted value may go over several lines.  Outside single quotes `$NAME` and
`${NAME}` stand for the value of a variable, from the environment or from a line before.
-/

namespace Scaffold.Command.EnvFile

/-! ## Logical lines -/

/-- Where in a logical line the reading is. -/
inductive LineState where
  | plain
  | afterBlank
  | escape
  | single
  | singleEscape
  | double
  | doubleEscape
  | comment
deriving DecidableEq, Repr

private def singleQuote : Char := Char.ofNat 0x27

/-- The state after a character. -/
def LineState.next (state : LineState) (c : Char) : LineState :=
  let opened (otherwise : LineState) : LineState :=
    if c = '\\' then .escape
    else if c = '"' then .double
    else if c = singleQuote then .single
    else otherwise
  match state with
  | .comment => .comment
  | .afterBlank => if c = '#' then .comment else opened .plain
  | .escape => .plain
  | .plain =>
      if Text.isBlank c && c != '\n' && c != '\r' then .afterBlank else opened .plain
  | .double => if c = '\\' then .doubleEscape else if c = '"' then .plain else .double
  | .doubleEscape => .double
  | .single =>
      if c = '\\' then .singleEscape else if c = singleQuote then .plain else .single
  | .singleEscape => .single

/-- The state at the end of a physical line and what is left of it without its comment. -/
def scanPhysical (state : LineState) : List Char → LineState × List Char
  | [] => (state, [])
  | c :: cs =>
      match state.next c with
      | .comment => (.comment, [])
      | next =>
          let (last, kept) := scanPhysical next cs
          (last, c :: kept)

/-- A line without its line feed and the carriage return before it. -/
def withoutLineEnd (cs : List Char) : List Char :=
  match cs.reverse with
  | '\n' :: '\r' :: rest => rest.reverse
  | '\n' :: rest => rest.reverse
  | _ => cs

/-- The logical lines of physical ones, given the beginning of the one that is being read.  Nothing
if the last one does not end. -/
def logicalLines (state : LineState) (begun : List Char) :
    List (List Char) → Option (List (List Char))
  | [] => if state = .plain then some [] else none
  | line :: rest =>
      let text := begun ++ line
      if (text.dropWhile Text.isBlank).head? = some '#' then
        (logicalLines .plain [] rest).map ([] :: ·)
      else
        match scanPhysical state line with
        | (.plain, _) => (logicalLines .plain [] rest).map (withoutLineEnd text :: ·)
        | (.comment, kept) => (logicalLines .plain [] rest).map ((begun ++ kept) :: ·)
        | (state, _) => logicalLines state text rest

/-! ## Values -/

/-- A part of a value. -/
inductive Part where
  | char (c : Char)
  | variable (name : String)
deriving DecidableEq, Repr

/-- Where in a value the reading is. -/
inductive ValueState where
  | plain
  | single
  /-- After a backslash, inside double quotes or not. -/
  | escape (quoted : Bool)
  | double
  /-- The name after a dollar sign, newest character first. -/
  | name (quoted : Bool) (seen : List Char)
  /-- The name after a dollar sign and a brace. -/
  | braced (quoted : Bool) (seen : List Char)
  /-- After the value; only blanks and a comment may follow. -/
  | ended
deriving DecidableEq, Repr

def variablePart (seen : List Char) : Part :=
  .variable (String.ofList seen.reverse)

/-- The state inside or outside double quotes. -/
def ValueState.inside (quoted : Bool) : ValueState :=
  if quoted then .double else .plain

/-- The parts of a value.  Nothing if a quote or brace is left open, something follows the value, or
a backslash escapes what it cannot. -/
def parts : ValueState → List Char → Option (List Part)
  | .plain, [] => some []
  | .ended, [] => some []
  | .escape quoted, [] => if quoted then none else some []
  | .name quoted seen, [] => if quoted then none else some [variablePart seen]
  | .single, [] => none
  | .double, [] => none
  | .braced _ _, [] => none
  | .ended, c :: cs =>
      if c = ' ' ∨ c = '\t' then parts .ended cs
      else if c = '#' then some []
      else none
  | .escape quoted, c :: cs =>
      if c = '\\' ∨ c = singleQuote ∨ c = '"' ∨ c = '$' ∨ c = ' ' then
        (parts (.inside quoted) cs).map (.char c :: ·)
      else if c = 'n' then (parts (.inside quoted) cs).map (.char '\n' :: ·)
      else none
  | .single, c :: cs =>
      if c = singleQuote then parts .plain cs else (parts .single cs).map (.char c :: ·)
  | .name quoted seen, c :: cs =>
      if Text.isAlphanumeric c then parts (.name quoted (c :: seen)) cs
      else if c = '\x7b' ∧ seen.isEmpty then parts (.braced quoted []) cs
      else if c = '$' then (parts (.name quoted []) cs).map (variablePart seen :: ·)
      else (parts (.inside quoted) cs).map fun rest => variablePart seen :: .char c :: rest
  | .braced quoted seen, c :: cs =>
      if c = '\x7d' then (parts (.inside quoted) cs).map (variablePart seen :: ·)
      else parts (.braced quoted (c :: seen)) cs
  | .double, c :: cs =>
      if c = '$' then parts (.name true []) cs
      else if c = '"' then parts .plain cs
      else if c = '\\' then parts (.escape true) cs
      else (parts .double cs).map (.char c :: ·)
  | .plain, c :: cs =>
      if c = '$' then parts (.name false []) cs
      else if c = singleQuote then parts .single cs
      else if c = '"' then parts .double cs
      else if c = '\\' then parts (.escape false) cs
      else if c = ' ' ∨ c = '\t' then parts .ended cs
      else (parts .plain cs).map (.char c :: ·)

/-! ## Assignments -/

/-- A variable and the parts of its value. -/
structure Assignment where
  name : String
  value : List Part
deriving DecidableEq, Repr

/-- A name in front: a letter or underscore, then letters, digits, underscores and points. -/
def nameInFront (cs : List Char) : Option (List Char × List Char) :=
  match cs with
  | c :: _ =>
      if c.isAlpha || c = '_' then
        some (cs.span fun c => c.isAlpha || c.isDigit || c = '_' || c = '.')
      else none
  | [] => none

private def skipBlank (cs : List Char) : List Char :=
  cs.dropWhile Text.isBlank

/-- A name and what follows the equals sign after it. -/
def assigned (cs : List Char) : Option (String × List Char) := do
  let (name, rest) ← nameInFront cs
  match skipBlank rest with
  | '=' :: value => some (String.ofList name, value)
  | rest =>
      if name = "export".toList then
        let (name, rest) ← nameInFront rest
        match skipBlank rest with
        | '=' :: value => some (String.ofList name, value)
        | _ => none
      else none

/-- The assignment of a logical line; the inner nothing is a line without one. -/
def assignment (line : List Char) : Option (Option Assignment) :=
  match Text.trimChars line with
  | [] => some none
  | '#' :: _ => some none
  | cs => do
      let (name, value) ← assigned cs
      match skipBlank value with
      | [] => some (some ⟨name, []⟩)
      | '#' :: _ => some (some ⟨name, []⟩)
      | value => do
          let value ← parts .plain value
          some (some ⟨name, value⟩)

/-- A file without the mark that may stand in front of it. -/
def withoutMark : List Char → List Char
  | c :: cs => if c.toNat = 0xFEFF then cs else c :: cs
  | [] => []

/-- The assignments of a file.  Nothing if some line of it is malformed. -/
def parse (lines : List (List Char)) : Option (List Assignment) := do
  let logical ← logicalLines .plain [] lines
  let assignments ← logical.mapM assignment
  some (assignments.filterMap id)

/-- The assignments in a text. -/
def ofText (text : String) : Option (List Assignment) :=
  parse (Text.lines (withoutMark text.toList))

/-! ## Loading -/

/-- Variables that are set. -/
abbrev Environment := List (String × String)

/-- The text of parts, by variables that are set and variables of lines before. -/
def textOf (environment stored : Environment) : List Part → String
  | [] => ""
  | .char c :: parts => String.ofList [c] ++ textOf environment stored parts
  | .variable name :: parts =>
      ((environment.lookup name).or (stored.lookup name)).getD "" ++
        textOf environment stored parts

/-- The environment after assignments; a variable that is set stays as it is. -/
def load (environment stored : Environment) : List Assignment → Environment
  | [] => environment
  | ⟨name, value⟩ :: assignments =>
      let text := textOf environment stored value
      let environment :=
        if (environment.lookup name).isSome then environment else (name, text) :: environment
      load environment ((name, text) :: stored) assignments

/-- The variables that assignments set or refer to. -/
def mentioned (assignments : List Assignment) : List String :=
  assignments.flatMap fun assignment =>
    assignment.name :: assignment.value.filterMap fun
      | .variable name => some name
      | .char _ => none

end Scaffold.Command.EnvFile
