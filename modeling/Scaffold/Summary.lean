import Scaffold.Document.Printer
import Scaffold.Generation

/-!
# Summaries

What an operator is told of a batch, as text or as a document.
-/

namespace Scaffold

namespace Batch

/-- How many endpoints were asked for. -/
def total (batch : Batch) : Nat :=
  batch.succeeded.length + batch.failed.length

end Batch

namespace Generated

/-- The endpoint and its files, each on a line of its own. -/
def textLines (generated : Generated) : List String :=
  ("  ok  " ++ generated.key.render ++ " " ++ toString generated.lines ++ " lines") ::
    generated.paths.map fun path => "        " ++ path

def write (generated : Generated) : Document :=
  .record [("unit", generated.key.write), ("lines_of_code", .natural generated.lines),
    ("artifact_paths", .texts generated.paths)]

end Generated

namespace Rejected

/-- The category, the endpoint and the reason. -/
def textLine (rejected : Rejected) : String :=
  "  " ++ rejected.failure.kind.name ++ "  " ++ rejected.key.render ++ ": " ++
    rejected.failure.message

def write (rejected : Rejected) : Document :=
  .record [("database", .text rejected.key.database), ("table", .text rejected.key.table),
    ("verb", rejected.key.verb.write), ("kind", .text rejected.failure.kind.name),
    ("message", .text rejected.failure.message)]

end Rejected

namespace Batch

/-- The first line of a summary in text. -/
def headline (batch : Batch) : String :=
  "crudify: " ++ toString batch.lines ++ " lines of code from " ++
    toString batch.succeeded.length ++ " of " ++ toString batch.total ++ " units"

/-- The lines of a summary in text. -/
def textLines (batch : Batch) : List String :=
  batch.headline :: batch.succeeded.flatMap Generated.textLines ++
    if batch.failed.isEmpty then [] else "failed:" :: batch.failed.map Rejected.textLine

/-- The summary as text. -/
def text (batch : Batch) : String :=
  String.join (batch.textLines.map fun line => line ++ "\n")

def write (batch : Batch) : Document :=
  .record [("total", .natural batch.total), ("lines_of_code", .natural batch.lines),
    ("succeeded", .list (batch.succeeded.map Generated.write)),
    ("failed", .list (batch.failed.map Rejected.write))]

/-- The summary as a document spread over lines. -/
def json (batch : Batch) : String :=
  batch.write.pretty

end Batch

end Scaffold
