import Scaffold.Document.Basic
import Scaffold.Decimal.Layout
import Scaffold.Text.Fields

/-!
# Writing documents

On one line without spaces, or spread over lines with two spaces for each level.
-/

namespace Scaffold.Document

/-- The lower-case hexadecimal digit of a value below sixteen. -/
def hexDigit (n : Nat) : Char :=
  if n < 10 then Char.ofNat (0x30 + n) else Char.ofNat (0x61 + n - 10)

/-- Quote, backslash and the control characters are escaped, all else stands for itself. -/
def escape (c : Char) : List Char :=
  if c = '"' then ['\\', '"']
  else if c = '\\' then ['\\', '\\']
  else if c = '\n' then ['\\', 'n']
  else if c = '\r' then ['\\', 'r']
  else if c = '\t' then ['\\', 't']
  else if c = '\x08' then ['\\', 'b']
  else if c = '\x0C' then ['\\', 'f']
  else if c.toNat < 0x20 then
    ['\\', 'u', '0', '0', hexDigit (c.toNat / 16), hexDigit (c.toNat % 16)]
  else [c]

def quoted (text : String) : String :=
  String.ofList ('"' :: text.toList.flatMap escape ++ ['"'])

mutual

/-- The document on one line. -/
def render : Document → String
  | .null => "null"
  | .bool value => toString value
  | .integer value => toString value
  | .real value => Decimal.compact value
  | .text value => quoted value
  | .list items => "[" ++ Text.join "," (renderItems items) ++ "]"
  | .record members => "\x7b" ++ Text.join "," (renderMembers members) ++ "\x7d"
  | .unreadable => "null"

def renderItems : List Document → List String
  | [] => []
  | item :: items => item.render :: renderItems items

def renderMembers : List (String × Document) → List String
  | [] => []
  | (name, value) :: members => (quoted name ++ ":" ++ value.render) :: renderMembers members

end

/-- A new line inside `depth` containers. -/
private def newline (depth : Nat) : String :=
  String.ofList ('\n' :: List.replicate (2 * depth) ' ')

/-- A container with one part on each line; an empty one stays on its line. -/
private def block (opening closing : String) (depth : Nat) (parts : List String) : String :=
  if parts.isEmpty then opening ++ closing
  else opening ++ newline (depth + 1) ++ Text.join ("," ++ newline (depth + 1)) parts ++
    newline depth ++ closing

mutual

/-- The document spread over lines, inside `depth` containers. -/
def renderAt (depth : Nat) : Document → String
  | .list items => block "[" "]" depth (linesOfItems depth items)
  | .record members => block "\x7b" "\x7d" depth (linesOfMembers depth members)
  | document => document.render

def linesOfItems (depth : Nat) : List Document → List String
  | [] => []
  | item :: items => item.renderAt (depth + 1) :: linesOfItems depth items

def linesOfMembers (depth : Nat) : List (String × Document) → List String
  | [] => []
  | (name, value) :: members =>
      (quoted name ++ ": " ++ value.renderAt (depth + 1)) :: linesOfMembers depth members

end

/-- The document spread over lines. -/
def pretty (document : Document) : String :=
  document.renderAt 0

end Scaffold.Document
