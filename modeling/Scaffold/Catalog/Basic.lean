import Scaffold.Template.Expansion

/-!
# Catalogs

At most one template for each kind of artifact and each verb.
-/

namespace Scaffold

structure Catalog where
  get? : ArtifactKind → Verb → Option Template

namespace Catalog

def empty : Catalog := ⟨fun _ _ => none⟩

/-- The catalog with a template for a verb, in place of an earlier one of its kind. -/
def insert (catalog : Catalog) (verb : Verb) (template : Template) : Catalog :=
  ⟨fun kind other =>
    if kind = template.kind ∧ other = verb then some template else catalog.get? kind other⟩

/-- The template of a kind for a verb. -/
def select (catalog : Catalog) (kind : ArtifactKind) (verb : Verb) :
    Except Template.Fault Template :=
  match catalog.get? kind verb with
  | some template => .ok template
  | none => .error (.unknownTemplate kind verb)

/-- The kinds with a template for a verb, in the order in which they are generated. -/
def kindsFor (catalog : Catalog) (verb : Verb) : List ArtifactKind :=
  ArtifactKind.all.filter fun kind => (catalog.get? kind verb).isSome

/-- How many templates there are. -/
def size (catalog : Catalog) : Nat :=
  (Verb.all.flatMap catalog.kindsFor).length

theorem mem_kindsFor {catalog : Catalog} {kind : ArtifactKind} {verb : Verb} :
    kind ∈ catalog.kindsFor verb ↔ ∃ template, catalog.get? kind verb = some template := by
  simp [kindsFor, ArtifactKind.mem_all, Option.isSome_iff_exists]

/-- The text of some lines, each ended by a line feed. -/
def sourceOfLines (lines : List String) : String :=
  String.join (lines.map fun line => line ++ "\n")

end Catalog

end Scaffold
