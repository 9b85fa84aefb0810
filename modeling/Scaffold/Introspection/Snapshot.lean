import Scaffold.Schema.Labels
import Scaffold.Schema.Snapshot

/-!
# Schemas from snapshots

A snapshot is a document saved earlier.  Its name stands for it in failures.
-/

namespace Scaffold.Introspection

/-- The databases of a snapshot. -/
def parseSnapshot (source text : String) : Except Failure (List Database) :=
  match Document.ofText Database.readAll text with
  | .ok databases => .ok databases
  | .error flaw => .error (.introspection source (.malformed flaw))

/-- The schema of the kept tables. -/
def schemaOf (filter : TableFilter) (databases : List Database) : Except Failure Schema :=
  Schema.ofDatabases (databases.map filter.apply)

/-- The schema in a file, given its text or the reason why it cannot be read. -/
def readSnapshot (source : String) (file : Except String String) (filter : TableFilter) :
    Except Failure Schema :=
  match file with
  | .error reason => .error (.introspection source (.unreadFile reason))
  | .ok text => do
      let databases ← parseSnapshot source text
      schemaOf filter databases

end Scaffold.Introspection
