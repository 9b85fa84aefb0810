import Scaffold.Text.Blank
import Scaffold.Text.Case

/-!
# SQL dialects
-/

namespace Scaffold

/-- The kind of database an endpoint talks to. -/
inductive Dialect where
  | mysql
  | pgsql
  | mssql
  | sqlite
deriving DecidableEq, Repr

namespace Dialect

def name : Dialect → String
  | .mysql => "mysql"
  | .pgsql => "pgsql"
  | .mssql => "mssql"
  | .sqlite => "sqlite"

/-- The names in use for each dialect. -/
def aliases : List (String × Dialect) :=
  [("mysql", .mysql), ("pgsql", .pgsql), ("postgres", .pgsql), ("postgresql", .pgsql),
    ("mssql", .mssql), ("sqlserver", .mssql), ("sqlite", .sqlite)]

/-- A name as it is looked up: without white space around it and in ASCII lower case. -/
def normalized (name : String) : String :=
  Text.toAsciiLower (Text.trim name)

def ofName? (name : String) : Option Dialect :=
  aliases.lookup (normalized name)

/-- What is said of a name that no dialect has. -/
def unsupported (name : String) : String :=
  "unsupported database type '" ++ normalized name ++ "'"

end Dialect

end Scaffold
