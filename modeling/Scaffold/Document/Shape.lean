import Scaffold.Document.Reader
import Scaffold.Decimal.Layout
import Scaffold.Text.Fields
import Scaffold.Text.Printable

/-!
# The shape of documents

Reading values of the domain from documents.  A reading succeeds or names the first problem in the
order in which the document was written; a member that is missing is noticed where its record ends.
The readings of a record's fields are independent of each other and are put together with `<*>`.
-/

namespace Scaffold.Document

/-- Why a document does not have the shape asked for. -/
inductive Flaw where
  /-- The text is no document. -/
  | unreadable
  | wrongType (got expected : String)
  | outOfRange (value : Int) (expected : String)
  | missing (field : String)
  | repeated (field : String)
  | unknownVariant (name : String) (known : List String)
  | badLength (present : Nat) (expected : String)
  | notAVariant
  | leftover
  | rejected (reason : String)
deriving DecidableEq, Repr

/-- The alternatives of a choice, in words. -/
def alternatives (names : List String) : String :=
  let ticked := names.map fun name => "`" ++ name ++ "`"
  match ticked with
  | [one] => one
  | [one, other] => one ++ " or " ++ other
  | many => "one of " ++ Text.join ", " many

def Flaw.message : Flaw → String
  | .unreadable => "not a document"
  | .wrongType got expected => "invalid type: " ++ got ++ ", expected " ++ expected
  | .outOfRange value expected =>
      "invalid value: integer `" ++ toString value ++ "`, expected " ++ expected
  | .missing field => "missing field `" ++ field ++ "`"
  | .repeated field => "duplicate field `" ++ field ++ "`"
  | .unknownVariant name known =>
      "unknown variant `" ++ name ++ "`, expected " ++ alternatives known
  | .badLength present expected =>
      "invalid length " ++ toString present ++ ", expected " ++ expected
  | .notAVariant => "expected value"
  | .leftover => "trailing characters"
  | .rejected reason => reason

/-- How a message speaks of a value. -/
def described : Document → String
  | .null => "null"
  | .bool value => "boolean `" ++ toString value ++ "`"
  | .integer value => "integer `" ++ toString value ++ "`"
  | .real value => "floating point `" ++ Decimal.compact value ++ "`"
  | .text value => "string " ++ Text.display value
  | .list _ => "sequence"
  | .record _ => "map"
  | .unreadable => "nothing"

def mismatch {α : Type} (document : Document) (expected : String) : Except Flaw α :=
  .error (.wrongType document.described expected)

/-! ## Single values -/

def asText : Document → Except Flaw String
  | .text value => .ok value
  | document => document.mismatch "a string"

def asBool : Document → Except Flaw Bool
  | .bool value => .ok value
  | document => document.mismatch "a boolean"

/-- A natural number below `2 ^ 32`. -/
def asCount : Document → Except Flaw Nat
  | .integer value =>
      if 0 ≤ value ∧ value < UInt32.size then .ok value.toNat else .error (.outOfRange value "u32")
  | document => document.mismatch "u32"

/-- A number, whole or not. -/
def asReal : Document → Except Flaw Float
  | .real value => .ok value
  | .integer value => .ok (Float.ofInt value)
  | document => document.mismatch "f64"

/-- Absent as `null`. -/
def asOption {α : Type} (read : Document → Except Flaw α) : Document → Except Flaw (Option α)
  | .null => .ok none
  | document => (read document).map some

def asList {α : Type} (read : Document → Except Flaw α) : Document → Except Flaw (List α)
  | .list items => items.mapM read
  | document => document.mismatch "a sequence"

/-- The value that a name stands for. -/
def choose {α : Type} (variants : List (String × α)) (name : String) : Except Flaw α :=
  match variants.lookup name with
  | some value => .ok value
  | none => .error (.unknownVariant name (variants.map (·.1)))

/-- One of some named values, written as its name or as a record of its name and `null`. -/
def asChoice {α : Type} (variants : List (String × α)) : Document → Except Flaw α
  | .text name => choose variants name
  | .record ((name, content) :: rest) => do
      let value ← choose variants name
      match content with
      | .null => if rest.isEmpty then .ok value else .error .notAVariant
      | content => content.mismatch "unit"
  | _ => .error .notAVariant

/-! ## Records -/

/-- A problem of a record: one at a member, or a field that no member gives. -/
inductive Fault where
  | at (position : Nat) (flaw : Flaw)
  | absent (field : String)

/-- The problem that is noticed first; of two absent fields the one declared first. -/
def Fault.earlier : Fault → Fault → Fault
  | .at p flaw, .at q other => if q < p then .at q other else .at p flaw
  | .absent _, .at q other => .at q other
  | fault, _ => fault

/-- A reading of some fields of a record, which are listed in the order of declaration. -/
structure Fields (α : Type) where
  names : List String
  read : List (String × Document) → Except Fault α

instance : Applicative Fields where
  pure a := { names := [], read := fun _ => .ok a }
  seq f x :=
    { names := f.names ++ (x ()).names
      read := fun members =>
        match f.read members, (x ()).read members with
        | .ok g, .ok a => .ok (g a)
        | .ok _, .error fault => .error fault
        | .error fault, .ok _ => .error fault
        | .error fault, .error other => .error (fault.earlier other) }

/-- The positions and values of the members with a name, counted from `position`. -/
def occurrences (name : String) (position : Nat) :
    List (String × Document) → List (Nat × Document)
  | [] => []
  | (key, value) :: members =>
      if key = name then (position, value) :: occurrences name (position + 1) members
      else occurrences name (position + 1) members

/-- A field that takes a default, if it has one, when no member gives it. -/
def Fields.field {α : Type} (name : String) (default : Option α)
    (read : Document → Except Flaw α) : Fields α where
  names := [name]
  read members :=
    match occurrences name 0 members with
    | [] => match default with
        | some value => .ok value
        | none => .error (.absent name)
    | (position, value) :: rest =>
        match read value with
        | .error flaw => .error (.at position flaw)
        | .ok a => match rest with
            | [] => .ok a
            | (second, _) :: _ => .error (.at second (.repeated name))

def required {α : Type} (name : String) (read : Document → Except Flaw α) : Fields α :=
  .field name none read

def defaulted {α : Type} (name : String) (default : α) (read : Document → Except Flaw α) :
    Fields α :=
  .field name (some default) read

/-- A field that is absent by default and as `null`. -/
def optional {α : Type} (name : String) (read : Document → Except Flaw α) :
    Fields (Option α) :=
  .field name (some none) (asOption read)

/-- A count of elements, in words. -/
def elements (n : Nat) : String :=
  if n = 1 then "1 element" else toString n ++ " elements"

/-- The fields from a record, whose other members are passed over. -/
def Fields.ofMembers {α : Type} (fields : Fields α) (members : List (String × Document)) :
    Except Flaw α :=
  match fields.read members with
  | .ok a => .ok a
  | .error (.at _ flaw) => .error flaw
  | .error (.absent field) => .error (.missing field)

/-- The fields from a list, in the order of declaration. -/
def Fields.ofItems {α : Type} (fields : Fields α) (kind : String) (extra : Flaw)
    (items : List Document) : Except Flaw α :=
  match fields.read (fields.names.zip items) with
  | .ok a => if items.length ≤ fields.names.length then .ok a else .error extra
  | .error (.at _ flaw) => .error flaw
  | .error (.absent field) =>
      .error (.badLength (fields.names.idxOf field)
        (kind ++ " with " ++ elements fields.names.length))

/-- A record, written with member names or as the list of its fields. -/
def asRecord {α : Type} (kind : String) (fields : Fields α) : Document → Except Flaw α
  | .record members => fields.ofMembers members
  | .list items => fields.ofItems kind .leftover items
  | document => document.mismatch kind

/-- Reads a document.  A flaw of its shape does not count where some part of it denotes nothing. -/
def shaped {α : Type} (document : Document) (read : Document → Except Flaw α) : Except Flaw α :=
  match read document with
  | .ok a => .ok a
  | .error flaw => .error (if document.isReadable then flaw else .unreadable)

/-- Reads a text. -/
def ofText {α : Type} (read : Document → Except Flaw α) (text : String) : Except Flaw α :=
  match ofText? text with
  | none => .error .unreadable
  | some document => document.shaped read

end Scaffold.Document
