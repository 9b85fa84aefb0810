import Scaffold.Document.Shape

/-!
# Verbs

The four operations an endpoint may offer, and tables with at most one entry for each.
-/

namespace Scaffold

inductive Verb where
  | post
  | get
  | put
  | delete
deriving DecidableEq, Repr

namespace Verb

def all : List Verb := [.post, .get, .put, .delete]

theorem mem_all (verb : Verb) : verb ∈ all := by
  cases verb <;> decide

/-- The verb in paths, messages and documents. -/
def name : Verb → String
  | .post => "post"
  | .get => "get"
  | .put => "put"
  | .delete => "delete"

/-- The method of the HTTP request. -/
def method : Verb → String
  | .post => "POST"
  | .get => "GET"
  | .put => "PUT"
  | .delete => "DELETE"

/-- What the verb does to a row. -/
def action : Verb → String
  | .post => "create"
  | .get => "read"
  | .put => "update"
  | .delete => "delete"

/-- The names a document may use, in the order in which messages list them. -/
def variants : List (String × Verb) :=
  [("create", .post), ("post", .post), ("get", .get), ("read", .get), ("put", .put),
    ("update", .put), ("delete", .delete)]

def read : Document → Except Document.Flaw Verb :=
  Document.asChoice variants

def write (verb : Verb) : Document :=
  .text verb.name

theorem read_write (verb : Verb) : read verb.write = .ok verb := by
  cases verb <;> rfl

end Verb

/-- At most one value for each verb. -/
structure PerVerb (α : Type) where
  post : Option α := none
  get : Option α := none
  put : Option α := none
  delete : Option α := none

namespace PerVerb

variable {α : Type}

def get? (table : PerVerb α) : Verb → Option α
  | .post => table.post
  | .get => table.get
  | .put => table.put
  | .delete => table.delete

/-- The table with a value for one verb, in place of an earlier one. -/
def insert (table : PerVerb α) (verb : Verb) (value : α) : PerVerb α :=
  match verb with
  | .post => { table with post := some value }
  | .get => { table with get := some value }
  | .put => { table with put := some value }
  | .delete => { table with delete := some value }

@[simp] theorem get?_insert (table : PerVerb α) (verb other : Verb) (value : α) :
    (table.insert verb value).get? other =
      if verb = other then some value else table.get? other := by
  cases verb <;> cases other <;> rfl

/-- The entries in the order of the verbs. -/
def toList (table : PerVerb α) : List (Verb × α) :=
  Verb.all.filterMap fun verb => (table.get? verb).map fun value => (verb, value)

/-- Members named by verbs; of two for one verb the last one counts. -/
def ofMembers (readValue : Document → Except Document.Flaw α) (table : PerVerb α) :
    List (String × Document) → Except Document.Flaw (PerVerb α)
  | [] => .ok table
  | (name, value) :: members => do
      let verb ← Document.choose Verb.variants name
      let value ← readValue value
      ofMembers readValue (table.insert verb value) members

def read (readValue : Document → Except Document.Flaw α) :
    Document → Except Document.Flaw (PerVerb α)
  | .record members => ofMembers readValue {} members
  | document => document.mismatch "a map"

def write (writeValue : α → Document) (table : PerVerb α) : Document :=
  .record (table.toList.map fun (verb, value) => (verb.name, writeValue value))

end PerVerb

end Scaffold
