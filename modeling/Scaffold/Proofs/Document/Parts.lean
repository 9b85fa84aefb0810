import Mathlib.Data.List.Forall2
import Scaffold.Introspection.Snapshot
import Scaffold.Proofs.Document.Reloading

/-!
# What snapshots are read from

A field reads the member of its name, or takes its default where there is none.  So every column of
a snapshot was read from a part of it, and its flags are what this part says: a flag that the part
does not mention is off, whatever the others are.
-/

namespace Scaffold

namespace Document

variable {α : Type} {read : Document → Except Flaw α} {members : List (String × Document)}
  {name : String}

/-! ## Flags -/

/-- Whether the member of a name is `true`. -/
def affirms (members : List (String × Document)) (name : String) : Bool :=
  match members.lookup name with
  | some (.bool value) => value
  | _ => false

/-- A flag that is off by default is on if its member is `true`. -/
theorem Fields.Reads.affirms_eq {value : Bool}
    (h : (defaulted name false asBool).Reads members value) : affirms members name = value := by
  rw [affirms]
  rcases h.inv with ⟨document, hlookup, hread⟩ | ⟨hlookup, hdefault⟩
  · rw [hlookup]
    cases document with
    | bool flag => exact Except.ok.inj hread
    | _ => cases hread
  · rw [hlookup]
    exact Option.some.inj hdefault

/-! ## Lists -/

def items : Document → List Document
  | .list items => items
  | _ => []

/-- The items of the member of a name. -/
def itemsUnder (members : List (String × Document)) (name : String) : List Document :=
  (members.lookup name).elim [] items

/-- A value is read from each item. -/
def ReadFrom (read : Document → Except Flaw α) (documents : List Document) (as : List α) : Prop :=
  List.Forall₂ (fun document a => read document = .ok a) documents as

theorem readFrom_of_asList {document : Document} {as : List α}
    (h : asList read document = .ok as) : ReadFrom read document.items as := by
  cases document with
  | list items => exact mapM_eq_ok_iff.1 h
  | _ => cases h

/-- A list that is empty by default is read from the items of its member. -/
theorem Fields.Reads.readFrom {default : Option (List α)} (hdefault : ∀ as ∈ default, as = [])
    {as : List α} (h : (Fields.field name default (asList read)).Reads members as) :
    ReadFrom read (itemsUnder members name) as := by
  rw [itemsUnder]
  rcases h.inv with ⟨document, hlookup, hread⟩ | ⟨hlookup, has⟩
  · rw [hlookup]
    exact readFrom_of_asList hread
  · rw [hlookup, hdefault as has]
    exact .nil

end Document

open Document (affirms itemsUnder ReadFrom reads_of_asRecord)

/-! ## Columns -/

/-- Whether a document says that a flag of its column is on. -/
def Column.affirmed (part : Document) (flag : String) : Bool :=
  affirms (fields.membersOf part) flag

/-- The flags that tell of values from the server, as the document has them. -/
structure Column.Tells (part : Document) (column : Column) : Prop where
  read : Column.read part = .ok column
  automatic : column.automatic = affirmed part "automatic"
  hasDefault : column.hasDefault = affirmed part "has_default"

theorem Column.tells_of_read {part : Document} {column : Column}
    (hread : Column.read part = .ok column) : Tells part column := by
  have h := reads_of_asRecord hread
  suffices hflags : column.automatic = affirmed part "automatic" ∧
      column.hasDefault = affirmed part "has_default" from ⟨hread, hflags.1, hflags.2⟩
  obtain ⟨treatment, _, rfl, -, h⟩ := h.inv_seq
  obtain ⟨exposure, _, rfl, -, h⟩ := h.inv_seq
  obtain ⟨automatic, _, rfl, hautomatic, h⟩ := h.inv_seq
  obtain ⟨hasDefault, _, rfl, hdefault, h⟩ := h.inv_seq
  obtain ⟨primary, _, rfl, -, h⟩ := h.inv_seq
  obtain ⟨nullable, _, rfl, -, h⟩ := h.inv_seq
  obtain ⟨logical, _, rfl, -, h⟩ := h.inv_seq
  obtain ⟨type, _, rfl, -, h⟩ := h.inv_seq
  obtain ⟨name, -, rfl⟩ := Document.Fields.map_reads_iff.1 h
  exact ⟨hautomatic.affirms_eq.symm, hdefault.affirms_eq.symm⟩

/-- The parts of a table's document that its columns are read from. -/
def Table.columnParts (document : Document) : List Document :=
  itemsUnder (fields.membersOf document) "columns"

theorem Table.readFrom_columnParts {document : Document} {table : Table}
    (hread : Table.read document = .ok table) :
    ReadFrom Column.read (columnParts document) table.columns := by
  have h := reads_of_asRecord hread
  obtain ⟨policy, _, rfl, -, h⟩ := h.inv_seq
  obtain ⟨keys, _, rfl, -, h⟩ := h.inv_seq
  obtain ⟨columns, _, rfl, hcolumns, h⟩ := h.inv_seq
  obtain ⟨moduleUrl, _, rfl, -, h⟩ := h.inv_seq
  obtain ⟨moduleName, _, rfl, -, h⟩ := h.inv_seq
  obtain ⟨name, -, rfl⟩ := Document.Fields.map_reads_iff.1 h
  exact hcolumns.readFrom (by simp)

/-- The parts of a database's document that the columns of its tables are read from. -/
def Database.columnParts (document : Document) : List Document :=
  (itemsUnder (fields.membersOf document) "tables").flatMap Table.columnParts

namespace Database

/-- The columns of all tables. -/
def columns (database : Database) : List Column :=
  database.tables.flatMap Table.columns

theorem readFrom_columnParts {document : Document} {database : Database}
    (hread : Database.read document = .ok database) :
    ReadFrom Column.read (columnParts document) database.columns := by
  have h := reads_of_asRecord hread
  obtain ⟨tables, _, rfl, htables, h⟩ := h.inv_seq
  obtain ⟨name, -, rfl⟩ := Document.Fields.map_reads_iff.1 h
  have hparts : ReadFrom Table.read _ tables :=
    htables.readFrom fun _ hsome => (Option.some.inj hsome).symm
  exact List.rel_flatMap hparts fun _ _ => Table.readFrom_columnParts

end Database

/-- The columns of a snapshot, each with the part of the text's document that tells of it. -/
theorem Introspection.columns_of_parseSnapshot {source text : String} {databases : List Database}
    (h : parseSnapshot source text = .ok databases) :
    ∃ document, Document.ofText? text = some document ∧
      List.Forall₂ Column.Tells (document.items.flatMap Database.columnParts)
        (databases.flatMap Database.columns) := by
  obtain ⟨document, hdocument, hread⟩ := Document.ofText_eq_ok_iff.1 (parseSnapshot_eq_ok_iff.1 h)
  refine ⟨document, hdocument, ?_⟩
  have hcolumns : ReadFrom Column.read (document.items.flatMap Database.columnParts)
      (databases.flatMap Database.columns) :=
    List.rel_flatMap (Document.readFrom_of_asList hread) fun _ _ => Database.readFrom_columnParts
  exact hcolumns.imp fun _ _ => Column.tells_of_read

end Scaffold
