import Mathlib.Data.List.Nodup
import Scaffold.Artifact.Shelf
import Scaffold.Proofs.Artifact.Store

/-!
# Saving on a shelf

Artifacts with distinct paths are saved all together or not at all: once their paths have been
found free, no write can fail.
-/

namespace Scaffold.Shelf

/-- The shelf with artifacts put on it one after the other. -/
def putAll (shelf : Shelf) (artifacts : List Artifact) : Shelf :=
  artifacts.foldl (fun shelf artifact => shelf.put artifact.path artifact.text) shelf

/-- The first path of some artifacts that may not be written. -/
def conflict? (shelf : Shelf) (overwrite : Bool) (artifacts : List Artifact) : Option String :=
  if overwrite then none
  else (artifacts.map Artifact.path).find? fun path => (shelf.get? path).isSome

theorem putAll_cons (shelf : Shelf) (artifact : Artifact) (artifacts : List Artifact) :
    shelf.putAll (artifact :: artifacts) =
      (shelf.put artifact.path artifact.text).putAll artifacts := rfl

theorem get?_putAll_of_not_mem {artifacts : List Artifact} {path : String}
    (h : path ∉ artifacts.map Artifact.path) (shelf : Shelf) :
    (shelf.putAll artifacts).get? path = shelf.get? path := by
  induction artifacts generalizing shelf with
  | nil => rfl
  | cons artifact artifacts ih =>
      rw [List.map_cons, List.mem_cons, not_or] at h
      rw [putAll_cons, ih h.2, get?_put, if_neg h.1]

theorem get?_putAll_of_mem {artifacts : List Artifact}
    (hdistinct : (artifacts.map Artifact.path).Nodup) {artifact : Artifact}
    (h : artifact ∈ artifacts) (shelf : Shelf) :
    (shelf.putAll artifacts).get? artifact.path = some artifact.text := by
  induction artifacts generalizing shelf with
  | nil => cases h
  | cons first artifacts ih =>
      rw [List.map_cons, List.nodup_cons] at hdistinct
      rw [putAll_cons]
      rcases List.mem_cons.1 h with rfl | hrest
      · rw [get?_putAll_of_not_mem hdistinct.1, get?_put, if_pos rfl]
      · exact ih hdistinct.2 hrest _

theorem conflict?_eq_none_iff {shelf : Shelf} {artifacts : List Artifact} :
    shelf.conflict? false artifacts = none ↔
      ∀ artifact ∈ artifacts, shelf.get? artifact.path = none := by
  simp [conflict?]

theorem conflict?_empty (overwrite : Bool) (artifacts : List Artifact) :
    empty.conflict? overwrite artifacts = none := by
  cases overwrite with
  | true => rfl
  | false => exact conflict?_eq_none_iff.2 fun _ _ => rfl

theorem runOn_taken (shelf : Shelf) (path : String) :
    runOn (store.taken path) shelf = (.ok (shelf.get? path).isSome, shelf) := rfl

theorem runOn_write (shelf : Shelf) (overwrite : Bool) (artifact : Artifact) :
    runOn (store.write overwrite artifact) shelf = shelf.write overwrite artifact := rfl

theorem runOn_checkFree (shelf : Shelf) (artifacts : List Artifact) :
    runOn (store.checkFree artifacts) shelf =
      (match shelf.conflict? false artifacts with
        | some path => .error (.artifactExists path)
        | none => .ok (), shelf) := by
  rw [conflict?, if_neg Bool.false_ne_true]
  exact Store.runOn_checkFree fun artifact _ => runOn_taken shelf artifact.path

theorem runOn_writeAll_overwriting (shelf : Shelf) (artifacts : List Artifact) :
    runOn (store.writeAll true artifacts) shelf = (.ok (), shelf.putAll artifacts) := by
  induction artifacts generalizing shelf with
  | nil => rfl
  | cons artifact artifacts ih =>
      rw [Store.writeAll, runOn_bind, runOn_write, write]
      exact ih (shelf.put artifact.path artifact.text)

/-- Each write leaves the paths of the others as they were. -/
theorem runOn_writeAll_free {shelf : Shelf} {artifacts : List Artifact}
    (hdistinct : (artifacts.map Artifact.path).Nodup)
    (hfree : ∀ artifact ∈ artifacts, shelf.get? artifact.path = none) :
    runOn (store.writeAll false artifacts) shelf = (.ok (), shelf.putAll artifacts) := by
  induction artifacts generalizing shelf with
  | nil => rfl
  | cons artifact artifacts ih =>
      rw [List.map_cons, List.nodup_cons] at hdistinct
      have hfirst : shelf.get? artifact.path = none := hfree artifact List.mem_cons_self
      -- The path just taken is none of those to come.
      have hrest : ∀ other ∈ artifacts,
          (shelf.put artifact.path artifact.text).get? other.path = none := by
        intro other hother
        have hne : other.path ≠ artifact.path := by
          intro heq
          rw [← heq] at hdistinct
          exact hdistinct.1 (List.mem_map_of_mem hother)
        rw [get?_put, if_neg hne]
        exact hfree other (List.mem_cons_of_mem artifact hother)
      rw [Store.writeAll, runOn_bind, runOn_write, write, hfirst]
      exact ih hdistinct.2 hrest

/-- Saving is all or nothing. -/
theorem runOn_save {artifacts : List Artifact}
    (hdistinct : (artifacts.map Artifact.path).Nodup) (shelf : Shelf) (overwrite : Bool) :
    runOn (store.save overwrite artifacts) shelf =
      match shelf.conflict? overwrite artifacts with
      | some path => (.error (.artifactExists path), shelf)
      | none => (.ok (), shelf.putAll artifacts) := by
  cases overwrite with
  | true => exact runOn_writeAll_overwriting shelf artifacts
  | false =>
      have hsave : store.save false artifacts =
          (do store.checkFree artifacts; store.writeAll false artifacts) := rfl
      rw [hsave, runOn_bind, runOn_checkFree]
      cases hconflict : shelf.conflict? false artifacts with
      | some path => rfl
      | none => exact runOn_writeAll_free hdistinct (conflict?_eq_none_iff.1 hconflict)

/-! ## Shelves that grow -/

/-- A shelf that holds what another one does, and artifacts besides, each under a free path of its
own. -/
structure Extends (before after : Shelf) (added : List Artifact) : Prop where
  distinct : (added.map Artifact.path).Nodup
  free : ∀ artifact ∈ added, before.get? artifact.path = none
  get?_eq_some_iff : ∀ path text,
    after.get? path = some text ↔ before.get? path = some text ∨ ⟨path, text⟩ ∈ added

namespace Extends

variable {before between after shelf : Shelf} {added more : List Artifact}

theorem refl (shelf : Shelf) : shelf.Extends shelf [] :=
  ⟨.nil, List.forall_mem_nil _, by simp⟩

theorem keeps (h : before.Extends after added) {path text : String}
    (hbefore : before.get? path = some text) : after.get? path = some text :=
  (h.get?_eq_some_iff path text).2 (.inl hbefore)

theorem get?_of_mem (h : before.Extends after added) {artifact : Artifact}
    (hadded : artifact ∈ added) : after.get? artifact.path = some artifact.text :=
  (h.get?_eq_some_iff _ _).2 (.inr hadded)

theorem trans (hfirst : before.Extends between added) (hsecond : between.Extends after more) :
    before.Extends after (added ++ more) where
  distinct := by
    rw [List.map_append, List.nodup_append']
    refine ⟨hfirst.distinct, hsecond.distinct, ?_⟩
    intro path hpath hother
    obtain ⟨artifact, hartifact, rfl⟩ := List.mem_map.1 hpath
    obtain ⟨other, hother, heq⟩ := List.mem_map.1 hother
    -- The first of two artifacts with one path would have taken it.
    have htaken := hfirst.get?_of_mem hartifact
    rw [← heq, hsecond.free other hother] at htaken
    cases htaken
  free := by
    intro artifact hartifact
    rcases List.mem_append.1 hartifact with hadded | hmore
    · exact hfirst.free artifact hadded
    · cases hbefore : before.get? artifact.path with
      | none => rfl
      | some text =>
          have hkept := hfirst.keeps hbefore
          rw [hsecond.free artifact hmore] at hkept
          cases hkept
  get?_eq_some_iff := by
    intro path text
    rw [hsecond.get?_eq_some_iff, hfirst.get?_eq_some_iff, List.mem_append, or_assoc]

theorem mem_paths_of_new (h : before.Extends after added) {path : String}
    (hbefore : before.get? path = none) (hafter : (after.get? path).isSome = true) :
    path ∈ added.map Artifact.path := by
  obtain ⟨text, htext⟩ := Option.isSome_iff_exists.1 hafter
  rcases (h.get?_eq_some_iff path text).1 htext with hold | hnew
  · rw [hbefore] at hold
    cases hold
  · exact List.mem_map_of_mem hnew

end Extends

theorem extends_putAll {shelf : Shelf} {artifacts : List Artifact}
    (hdistinct : (artifacts.map Artifact.path).Nodup)
    (hfree : ∀ artifact ∈ artifacts, shelf.get? artifact.path = none) :
    shelf.Extends (shelf.putAll artifacts) artifacts where
  distinct := hdistinct
  free := hfree
  get?_eq_some_iff := by
    intro path text
    by_cases hpath : path ∈ artifacts.map Artifact.path
    · obtain ⟨artifact, hartifact, rfl⟩ := List.mem_map.1 hpath
      rw [get?_putAll_of_mem hdistinct hartifact, hfree artifact hartifact]
      constructor
      · rintro heq
        cases heq
        exact .inr hartifact
      · rintro (hnone | hother)
        · cases hnone
        · have hsame := List.inj_on_of_nodup_map hdistinct hartifact hother rfl
          rw [hsame]
    · rw [get?_putAll_of_not_mem hpath]
      constructor
      · exact .inl
      · rintro (hbefore | hother)
        · exact hbefore
        · exact absurd (List.mem_map_of_mem hother) hpath

end Scaffold.Shelf
