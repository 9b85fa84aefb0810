import Scaffold.Document.Shape

/-!
# Questions to a database server

The six questions by which a schema is found out, and what can go wrong in finding it out.
-/

namespace Scaffold

/-- A question to a server.  Questions about a table name it and the schema it lies in. -/
inductive Query where
  | database
  | enums (schema : String)
  | tables (schema : String)
  | primaryKey (table schema : String)
  | columns (table schema : String)
  | foreignKeys (table schema : String)
deriving DecidableEq, Repr

/-- What a question asks for, in messages. -/
def Query.subject : Query → String
  | .database => "database name"
  | .enums _ => "enums"
  | .tables _ => "tables"
  | .primaryKey table _ => "primary key for table '" ++ table ++ "'"
  | .columns table _ => "columns for table '" ++ table ++ "'"
  | .foreignKeys table _ => "foreign keys for table '" ++ table ++ "'"

/-- Why a schema cannot be found out. -/
inductive IntrospectionFault where
  /-- The file of a snapshot cannot be read. -/
  | unreadFile (reason : String)
  | malformed (flaw : Document.Flaw)
  | refused (query : Query) (reason : String)
  | stated (words : String)
deriving DecidableEq, Repr

def IntrospectionFault.message : IntrospectionFault → String
  | .unreadFile reason => "Failed to read snapshot: " ++ reason
  | .malformed flaw => "Malformed snapshot: " ++ flaw.message
  | .refused query reason => "Failed to query " ++ query.subject ++ ": " ++ reason
  | .stated words => words

end Scaffold
