import Scaffold.Document.Shape
import Scaffold.Text.Blank
import Scaffold.Text.Case

/-!
# Logical types

What the type of a column means, whatever the dialect that reports it.
-/

namespace Scaffold

inductive LogicalType where
  | integer
  | decimal
  | boolean
  | text
  | date
  | dateTime
  | time
  | uuid
  | json
  | binary
  | other
deriving DecidableEq, Repr

namespace LogicalType

/-- Names in documents and templates. -/
def named : List (String × LogicalType) :=
  [("integer", .integer), ("decimal", .decimal), ("boolean", .boolean), ("text", .text),
    ("date", .date), ("date_time", .dateTime), ("time", .time), ("uuid", .uuid),
    ("json", .json), ("binary", .binary), ("other", .other)]

/-- The name that templates show. -/
def name : LogicalType → String
  | .integer => "integer"
  | .decimal => "decimal"
  | .boolean => "boolean"
  | .text => "text"
  | .date => "date"
  | .dateTime => "datetime"
  | .time => "time"
  | .uuid => "uuid"
  | .json => "json"
  | .binary => "binary"
  | .other => "other"

/-- The name in documents. -/
def documentName : LogicalType → String
  | .dateTime => "date_time"
  | logical => logical.name

/-- The TypeScript type of a value. -/
def tsType : LogicalType → String
  | .integer | .decimal => "number"
  | .boolean => "boolean"
  | .date | .dateTime => "Date"
  | .json => "unknown"
  | .text | .time | .uuid | .binary | .other => "string"

/-- The form control that edits a value. -/
def formControl : LogicalType → String
  | .integer | .decimal => "number"
  | .boolean => "checkbox"
  | .date => "date"
  | .dateTime => "datetime"
  | .time => "time"
  | .json => "json"
  | .text | .uuid | .binary | .other => "text"

def read : Document → Except Document.Flaw LogicalType :=
  Document.asChoice named

def write (logical : LogicalType) : Document :=
  .text logical.documentName

theorem read_write (logical : LogicalType) : read logical.write = .ok logical := by
  cases logical <;> rfl

/-! ## Database types -/

/-- The part before the first parenthesis. -/
def beforeParenthesis (cs : List Char) : List Char :=
  cs.takeWhile (· ≠ '(')

/-- Drops ` unsigned` from the reversed end as often as it is there. -/
def dropUnsignedReversed : List Char → List Char
  | 'd' :: 'e' :: 'n' :: 'g' :: 'i' :: 's' :: 'n' :: 'u' :: ' ' :: cs => dropUnsignedReversed cs
  | cs => cs

/-- The type without the modifier ` unsigned` at its end. -/
def dropUnsigned (cs : List Char) : List Char :=
  (dropUnsignedReversed cs.reverse).reverse

/-- Types that hold one bit. -/
def bitTypes : List String := ["tinyint(1)", "bit", "bit(1)"]

/-- Beginnings that decide the logical type. -/
def families : List (String × LogicalType) :=
  [("timestamp", .dateTime), ("datetime", .dateTime), ("time", .time), ("character", .text)]

/-- Types that are known by their whole name. -/
def plainTypes : List (List String × LogicalType) :=
  [(["tinyint", "smallint", "mediumint", "int", "integer", "bigint", "int2", "int4", "int8",
      "serial", "bigserial", "smallserial"], .integer),
    (["numeric", "decimal", "real", "float", "float4", "float8", "double", "double precision",
      "money", "smallmoney"], .decimal),
    (["boolean", "bool"], .boolean),
    (["text", "varchar", "nvarchar", "char", "nchar", "ntext", "tinytext", "mediumtext",
      "longtext", "citext", "enum"], .text),
    (["date"], .date),
    (["uuid", "uniqueidentifier"], .uuid),
    (["json", "jsonb"], .json),
    (["bytea", "blob", "binary", "varbinary", "image", "tinyblob", "mediumblob", "longblob"],
      .binary)]

/-- The logical type of a type without modifiers. -/
def ofBase (base : List Char) : LogicalType :=
  match families.find? fun (beginning, _) => beginning.toList.isPrefixOf base with
  | some (_, logical) => logical
  | none =>
      match plainTypes.find? fun (names, _) => names.contains (String.ofList base) with
      | some (_, logical) => logical
      | none => .other

/-- The logical type of a type as a database reports it, such as `varchar(255)`. -/
def ofDatabaseType (type : String) : LogicalType :=
  let cs := Text.trimChars (Text.lowerChars type.toList)
  if bitTypes.contains (String.ofList cs) then .boolean
  else ofBase (dropUnsigned (Text.trimChars (beforeParenthesis cs)))

end LogicalType

end Scaffold
