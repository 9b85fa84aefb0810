import Scaffold.Plan.Vocabulary
import Scaffold.Proofs.Catalog.Insertion
import Scaffold.Proofs.Outcome

/-!
# The built-in templates

Each built-in template can be read and uses only names that every plan has, which is found out by
reading it once.
-/

namespace Scaffold.Catalog

/-! ## Reading a source -/

theorem toList_sourceOfLines (lines : List String) :
    (sourceOfLines lines).toList = lines.flatMap fun line => line.toList ++ ['\n'] := by
  rw [sourceOfLines]
  induction lines with
  | nil => rfl
  | cons line lines ih => simp [ih]

/-- Lines and the characters they are spelled with. -/
inductive Spelled : List String → List (List Char) → Prop where
  | nil : Spelled [] []
  | cons {cs : List Char} {lines : List String} {spelling : List (List Char)} :
      Spelled lines spelling → Spelled (String.ofList cs :: lines) (cs :: spelling)

theorem Spelled.toList_eq {lines : List String} {spelling : List (List Char)}
    (h : Spelled lines spelling) :
    (sourceOfLines lines).toList = spelling.flatMap fun cs => cs ++ ['\n'] := by
  rw [toList_sourceOfLines]
  induction h with
  | nil => rfl
  | cons _ ih => simp [ih]

/-- Whether characters are the source of nodes of some kind. -/
def readsAs (isOfKind : List Template.Node → Bool) (source : List Char) : Bool :=
  match Template.scanLines 1 (Text.lines source) >>= Template.build [] [] with
  | .ok nodes => isOfKind nodes
  | .error _ => false

theorem exists_nodes_of_spelled {isOfKind : List Template.Node → Bool} {id : String}
    {kind : ArtifactKind} {lines : List String} {spelling : List (List Char)}
    (hspelled : Spelled lines spelling)
    (h : readsAs isOfKind (spelling.flatMap fun cs => cs ++ ['\n']) = true) :
    ∃ nodes, (Template.mk id kind (sourceOfLines lines)).nodes = .ok nodes ∧
      isOfKind nodes = true := by
  rw [← hspelled.toList_eq, readsAs] at h
  split at h
  · next nodes hnodes => exact ⟨nodes, hnodes, h⟩
  · cases h

/-- A template that can be read, all of whose names every plan has. -/
def IsCovered (template : Template) : Prop :=
  ∃ nodes, template.nodes = .ok nodes ∧ Plan.covers nodes = true

-- The spelling comes from the literals by unification; evaluating them would be slow.
/-- Each of the eleven templates is covered. -/
theorem isCovered_entries : ∀ entry ∈ entries, IsCovered entry.template := by
  simp only [entries, List.forall_mem_cons, List.not_mem_nil, false_implies, implies_true,
    and_true]
  refine ⟨?_, ?_, ?_, ?_, ?_, ?_, ?_, ?_, ?_, ?_, ?_⟩
  all_goals exact exists_nodes_of_spelled (by repeat constructor) (by decide +kernel)

end Scaffold.Catalog
