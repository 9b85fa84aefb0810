import Scaffold.Policy.Document
import Scaffold.Schema.Basic

/-!
# Schemas in documents

A snapshot is a list of databases.  What has a default may be left out when it is written by hand;
everything is there when the library writes it.
-/

namespace Scaffold

open Document (Flaw Fields asText asBool asList asRecord asChoice required defaulted optional)

namespace Exposure

def fields : Fields Exposure :=
  Exposure.mk <$> defaulted "post" true asBool <*> defaulted "get" true asBool
    <*> defaulted "put" true asBool <*> defaulted "delete" true asBool

def read : Document → Except Flaw Exposure :=
  asRecord "struct Exposure" fields

def write (exposure : Exposure) : Document :=
  .record [("post", .bool exposure.post), ("get", .bool exposure.get),
    ("put", .bool exposure.put), ("delete", .bool exposure.delete)]

end Exposure

namespace Treatment

def named : List (String × Treatment) :=
  [("password_hash", .passwordHash), ("encrypt", .encrypt)]

def read : Document → Except Flaw Treatment :=
  asChoice named

def write (treatment : Treatment) : Document :=
  .text treatment.name

end Treatment

namespace Column

def fields : Fields Column :=
  Column.mk <$> required "name" asText <*> required "type" asText
    <*> optional "logical_type" LogicalType.read <*> defaulted "nullable" false asBool
    <*> defaulted "primary" false asBool <*> defaulted "has_default" false asBool
    <*> defaulted "automatic" false asBool <*> defaulted "exposure" {} Exposure.read
    <*> optional "special" Treatment.read

def read : Document → Except Flaw Column :=
  asRecord "struct Column" fields

def write (column : Column) : Document :=
  .record [("name", .text column.name), ("type", .text column.type),
    ("logical_type", .option LogicalType.write column.logicalType),
    ("nullable", .bool column.nullable), ("primary", .bool column.primary),
    ("has_default", .bool column.hasDefault), ("automatic", .bool column.automatic),
    ("exposure", column.exposure.write), ("special", .option Treatment.write column.treatment)]

end Column

namespace ForeignKey

def fields : Fields ForeignKey :=
  ForeignKey.mk <$> required "column" asText <*> required "referenced_table" asText
    <*> required "referenced_column" asText <*> optional "label_column" asText
    <*> defaulted "long" false asBool

def read : Document → Except Flaw ForeignKey :=
  asRecord "struct ForeignKey" fields

def write (key : ForeignKey) : Document :=
  .record [("column", .text key.column), ("referenced_table", .text key.referencedTable),
    ("referenced_column", .text key.referencedColumn),
    ("label_column", .option .text key.labelColumn), ("long", .bool key.long)]

end ForeignKey

namespace Table

def fields : Fields Table :=
  Table.mk <$> required "name" asText <*> optional "module_name" asText
    <*> optional "module_url" asText <*> required "columns" (asList Column.read)
    <*> defaulted "foreign_keys" [] (asList ForeignKey.read)
    <*> defaulted "policy" {} TablePolicy.read

def read : Document → Except Flaw Table :=
  asRecord "struct Table" fields

def write (table : Table) : Document :=
  .record [("name", .text table.name), ("module_name", .option .text table.moduleName),
    ("module_url", .option .text table.moduleUrl),
    ("columns", .list (table.columns.map Column.write)),
    ("foreign_keys", .list (table.foreignKeys.map ForeignKey.write)),
    ("policy", table.policy.write)]

end Table

namespace Database

def fields : Fields Database :=
  Database.mk <$> required "name" asText <*> defaulted "tables" [] (asList Table.read)

def read : Document → Except Flaw Database :=
  asRecord "struct Database" fields

/-- The databases of a snapshot. -/
def readAll : Document → Except Flaw (List Database) :=
  asList read

def write (database : Database) : Document :=
  .record [("name", .text database.name), ("tables", .list (database.tables.map Table.write))]

def writeAll (databases : List Database) : Document :=
  .list (databases.map write)

end Database

end Scaffold
