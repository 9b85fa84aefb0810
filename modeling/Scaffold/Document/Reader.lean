import Scaffold.Document.Numeral

/-!
# Reading documents

JSON text to documents.  Each function reads from the front and returns what follows; nothing means
the text is not JSON.  The fuel is the length of the text, and every call consumes a character.
-/

namespace Scaffold.Document

/-- Characters that may stand between the parts of a document. -/
def isGap (c : Char) : Bool :=
  c = ' ' || c = '\n' || c = '\t' || c = '\r'

def skipGap (cs : List Char) : List Char :=
  cs.dropWhile isGap

/-- The value of a hexadecimal digit. -/
def hexDigit? (c : Char) : Option Nat :=
  if c.isDigit then some (c.toNat - 0x30)
  else if 'a' ≤ c ∧ c ≤ 'f' then some (c.toNat - 0x61 + 10)
  else if 'A' ≤ c ∧ c ≤ 'F' then some (c.toNat - 0x41 + 10)
  else none

/-- The code unit that four hexadecimal digits write. -/
def hexUnit? : List Char → Option (Nat × List Char)
  | a :: b :: c :: d :: rest => do
      let a ← hexDigit? a
      let b ← hexDigit? b
      let c ← hexDigit? c
      let d ← hexDigit? d
      some (((a * 16 + b) * 16 + c) * 16 + d, rest)
  | _ => none

/-- The character of an escape that is a single letter. -/
def shortEscape? (c : Char) : Option Char :=
  if c = '"' then some '"'
  else if c = '\\' then some '\\'
  else if c = '/' then some '/'
  else if c = 'b' then some '\x08'
  else if c = 'f' then some '\x0C'
  else if c = 'n' then some '\n'
  else if c = 'r' then some '\r'
  else if c = 't' then some '\t'
  else none

/-- One character of a text, as it was written: a character or a code unit. -/
abbrev Written := Char ⊕ Nat

/-- The body of a text up to its closing quote. -/
def readWritten : Nat → List Char → Option (List Written × List Char)
  | 0, _ => none
  | _ + 1, [] => none
  | fuel + 1, c :: cs =>
      if c = '"' then some ([], cs)
      else if c = '\\' then
        match cs with
        | 'u' :: rest => do
            let (unit, rest) ← hexUnit? rest
            let (written, rest) ← readWritten fuel rest
            some (.inr unit :: written, rest)
        | e :: rest => do
            let plain ← shortEscape? e
            let (written, rest) ← readWritten fuel rest
            some (.inl plain :: written, rest)
        | [] => none
      else if c.toNat < 0x20 then none
      else do
        let (written, rest) ← readWritten fuel cs
        some (.inl c :: written, rest)

/-- The characters that were written; code units must pair up. -/
def spell : List Written → Option (List Char)
  | [] => some []
  | .inl c :: written => (spell written).map (c :: ·)
  | .inr high :: .inr low :: written =>
      if 0xD800 ≤ high ∧ high ≤ 0xDBFF then
        if 0xDC00 ≤ low ∧ low ≤ 0xDFFF then
          let code := 0x10000 + (high - 0xD800) * 0x400 + (low - 0xDC00)
          (spell written).map (Char.ofNat code :: ·)
        else none
      else if 0xDC00 ≤ high ∧ high ≤ 0xDFFF then none
      else (spell (.inr low :: written)).map (Char.ofNat high :: ·)
  | .inr unit :: written =>
      if 0xD800 ≤ unit ∧ unit ≤ 0xDFFF then none
      else (spell written).map (Char.ofNat unit :: ·)

/-- A text after its opening quote; the inner nothing is a text that denotes none. -/
def readText (cs : List Char) : Option (Option String × List Char) :=
  (readWritten (cs.length + 1) cs).map fun (written, rest) =>
    ((spell written).map String.ofList, rest)

/-- The digits in front, as values. -/
def readDigits : List Char → List Nat × List Char
  | [] => ([], [])
  | c :: cs =>
      if c.isDigit then
        let (digits, rest) := readDigits cs
        ((c.toNat - 0x30) :: digits, rest)
      else ([], c :: cs)

def readFraction : List Char → Option (List Nat × List Char)
  | '.' :: cs =>
      match readDigits cs with
      | ([], _) => none
      | (digits, rest) => some (digits, rest)
  | cs => some ([], cs)

def readExponent : List Char → Option (Option (Bool × List Nat) × List Char)
  | c :: cs =>
      if c = 'e' ∨ c = 'E' then
        let (positive, cs) := match cs with
          | '+' :: rest => (true, rest)
          | '-' :: rest => (false, rest)
          | rest => (true, rest)
        match readDigits cs with
        | ([], _) => none
        | (digits, rest) => some (some (positive, digits), rest)
      else some (none, c :: cs)
  | [] => some (none, [])

/-- A number; a leading zero stands alone. -/
def readNumber (cs : List Char) : Option (Document × List Char) := do
  let (negative, cs) := match cs with
    | '-' :: rest => (true, rest)
    | rest => (false, rest)
  let (whole, rest) := readDigits cs
  match whole with
  | [] => none
  | 0 :: _ :: _ => none
  | _ =>
      let (fraction, rest) ← readFraction rest
      let (exponent, rest) ← readExponent rest
      some (({ negative, whole, fraction, exponent : Numeral }).value, rest)

/-- What follows a given word. -/
def expect? : List Char → List Char → Option (List Char)
  | [], cs => some cs
  | _ :: _, [] => none
  | p :: ps, c :: cs => if p = c then expect? ps cs else none

/-- Containers may be nested this deep. -/
def deepest : Nat := 127

/-- A container at a depth; one that lies too deep can only be passed over. -/
def atDepth (depth : Nat) (container : Document) : Document :=
  if depth ≤ deepest then container else .unreadable

mutual

/-- A value that lies inside `depth` containers. -/
def readValue (depth : Nat) : Nat → List Char → Option (Document × List Char)
  | 0, _ => none
  | _ + 1, [] => none
  | fuel + 1, c :: cs =>
      if c = '"' then
        (readText cs).map fun (spelled, rest) => (spelled.elim .unreadable .text, rest)
      else if c = '[' then
        match skipGap cs with
        | ']' :: rest => some (atDepth (depth + 1) (.list []), rest)
        | cs => (readItems (depth + 1) fuel cs).map fun (items, rest) =>
            (atDepth (depth + 1) (.list items), rest)
      else if c = '\x7b' then
        match skipGap cs with
        | '\x7d' :: rest => some (atDepth (depth + 1) (.record []), rest)
        | cs => (readMembers (depth + 1) fuel cs).map fun (members, rest) =>
            (match members with
              | some members => atDepth (depth + 1) (.record members)
              | none => .unreadable, rest)
      else if c = 't' then (expect? ['r', 'u', 'e'] cs).map fun rest => (.bool true, rest)
      else if c = 'f' then (expect? ['a', 'l', 's', 'e'] cs).map fun rest => (.bool false, rest)
      else if c = 'n' then (expect? ['u', 'l', 'l'] cs).map fun rest => (.null, rest)
      else readNumber (c :: cs)

/-- The items of a list, at least one, up to the closing bracket. -/
def readItems (depth : Nat) : Nat → List Char → Option (List Document × List Char)
  | 0, _ => none
  | fuel + 1, cs => do
      let (item, rest) ← readValue depth fuel (skipGap cs)
      match skipGap rest with
      | ',' :: rest =>
          let (items, rest) ← readItems depth fuel rest
          some (item :: items, rest)
      | ']' :: rest => some ([item], rest)
      | _ => none

/-- The members of a record, at least one, up to the closing brace.  The inner nothing tells of a
name that denotes no text. -/
def readMembers (depth : Nat) : Nat →
    List Char → Option (Option (List (String × Document)) × List Char)
  | 0, _ => none
  | fuel + 1, cs => do
      let cs ← expect? ['"'] (skipGap cs)
      let (name, rest) ← readText cs
      let rest ← expect? [':'] (skipGap rest)
      let (value, rest) ← readValue depth fuel (skipGap rest)
      match skipGap rest with
      | ',' :: rest =>
          let (members, rest) ← readMembers depth fuel rest
          some (members.bind fun members => name.map fun name => (name, value) :: members, rest)
      | '\x7d' :: rest => some (name.map fun name => [(name, value)], rest)
      | _ => none

end

/-- The document a text writes, with nothing but white space around it. -/
def ofText? (text : String) : Option Document :=
  let cs := text.toList
  match readValue 0 (2 * cs.length + 2) (skipGap cs) with
  | some (document, rest) => if (skipGap rest).isEmpty then some document else none
  | none => none

end Scaffold.Document
