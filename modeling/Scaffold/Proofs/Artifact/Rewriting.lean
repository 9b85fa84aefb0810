import Scaffold.Proofs.Artifact.Shelf
import Scaffold.Proofs.Entries

/-!
# Shelves written to more than once

Of the texts put under one path the last one counts, and texts under different paths may be put in
any order.  So it changes nothing to put the same artifacts once more.
-/

namespace Scaffold.Shelf

variable {artifacts front back : List Artifact} {path other : String}

theorem put_put_same (shelf : Shelf) (path first second : String) :
    (shelf.put path first).put path second = shelf.put path second :=
  congrArg Shelf.mk (Entries.put_put_same path first second shelf.entries)

theorem put_comm (h : path ≠ other) (shelf : Shelf) (text otherText : String) :
    (shelf.put path text).put other otherText = (shelf.put other otherText).put path text :=
  congrArg Shelf.mk (Entries.put_comm h text otherText shelf.entries)

theorem putAll_append (shelf : Shelf) (front back : List Artifact) :
    shelf.putAll (front ++ back) = (shelf.putAll front).putAll back := by
  rw [putAll, putAll, putAll, List.foldl_append]

/-- What is written under a path does not show once the path is written again. -/
theorem putAll_put_of_mem (h : path ∈ artifacts.map Artifact.path) (shelf : Shelf)
    (text : String) : (shelf.put path text).putAll artifacts = shelf.putAll artifacts := by
  induction artifacts generalizing shelf with
  | nil => cases h
  | cons first artifacts ih =>
      rw [putAll_cons, putAll_cons]
      by_cases hfirst : path = first.path
      · rw [hfirst, put_put_same]
      · have hrest : path ∈ artifacts.map Artifact.path := by
          rw [List.map_cons, List.mem_cons] at h
          exact h.resolve_left hfirst
        rw [put_comm hfirst, ih hrest]

theorem putAll_put_of_not_mem (h : path ∉ artifacts.map Artifact.path) (shelf : Shelf)
    (text : String) :
    (shelf.put path text).putAll artifacts = (shelf.putAll artifacts).put path text := by
  induction artifacts generalizing shelf with
  | nil => rfl
  | cons first artifacts ih =>
      rw [List.map_cons, List.mem_cons, not_or] at h
      rw [putAll_cons, putAll_cons, put_comm h.1, ih h.2]

theorem putAll_comm (h : (front.map Artifact.path).Disjoint (back.map Artifact.path))
    (shelf : Shelf) : (shelf.putAll front).putAll back = (shelf.putAll back).putAll front := by
  induction front generalizing shelf with
  | nil => rfl
  | cons artifact front ih =>
      rw [List.map_cons, List.disjoint_cons_left] at h
      rw [putAll_cons, putAll_cons, ih h.2, putAll_put_of_not_mem h.1]

/-- Of each path only the last text counts, and the same texts come last again. -/
theorem putAll_putAll_same (shelf : Shelf) (artifacts : List Artifact) :
    (shelf.putAll artifacts).putAll artifacts = shelf.putAll artifacts := by
  induction artifacts generalizing shelf with
  | nil => rfl
  | cons first artifacts ih =>
      rw [putAll_cons, putAll_cons]
      by_cases hmem : first.path ∈ artifacts.map Artifact.path
      · rw [putAll_put_of_mem hmem, putAll_put_of_mem hmem]
        exact ih shelf
      · rw [← putAll_put_of_not_mem hmem, put_put_same]
        exact ih _

theorem isSome_get?_putAll {shelf : Shelf} (h : (shelf.get? path).isSome = true)
    (artifacts : List Artifact) : ((shelf.putAll artifacts).get? path).isSome = true := by
  induction artifacts generalizing shelf with
  | nil => exact h
  | cons first artifacts ih =>
      rw [putAll_cons]
      apply ih
      rw [get?_put]
      by_cases hfirst : path = first.path
      · rw [if_pos hfirst]
        rfl
      · rw [if_neg hfirst]
        exact h

end Scaffold.Shelf
