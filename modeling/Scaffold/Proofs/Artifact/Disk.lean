import Mathlib.Data.List.Infix
import Scaffold.Proofs.Artifact.FileTree
import Scaffold.Proofs.Artifact.Folders
import Scaffold.Proofs.Outcome

/-!
# Artifacts on a disk

Three things can become of an artifact: something is in the way, its file is there already, or the
file and the folders above it are there afterwards.  A file that cannot be written changes no other
one.
-/

namespace Scaffold.FileTree

open RelativePath (namesOf)

variable {longest : Option Nat} {overwrite : Bool} {tree after : FileTree}
  {artifact : Artifact} {path text name : String} {folders names : List String} {failure : Failure}

/-- Whether no name along a path is too long. -/
def Fits (longest : Option Nat) (path : String) : Prop :=
  ∀ name ∈ namesOf path, isTooLong longest name = false

theorem fits_none (path : String) : Fits none path :=
  fun _ _ => rfl

/-- What is in the way of opening a file in a place. -/
def Place.fault? (overwrite : Bool) : Option Place → Option DiskFault
  | none => none
  | some (.file _) => if overwrite then none else some .exists
  | some .folder => some (if overwrite then .isFolder else .exists)

theorem openFault?_of_name (hnul : hasNul name = false) (hfits : isTooLong longest name = false)
    (found : Option FileTree) :
    openFault? longest overwrite .name name found = Place.fault? overwrite (found.map place) := by
  unfold openFault?
  rw [hnul, hfits]
  cases found with
  | none => rfl
  | some tree => cases tree <;> rfl

/-! ## What stands in the way -/

/-- Whether a file stands where folders are needed, or a folder in the place of the file. -/
def isObstructed (tree : FileTree) (names : List String) : Bool :=
  names.dropLast.inits.any (fun front => (tree.text? front).isSome) ||
    decide (tree.place? names = some .folder)

theorem isObstructed_concat_eq_false_iff :
    tree.isObstructed (folders ++ [name]) = false ↔
      (∀ front, front <+: folders → tree.text? front = none) ∧
        tree.place? (folders ++ [name]) ≠ some .folder := by
  rw [isObstructed, List.dropLast_concat, Bool.or_eq_false_iff, decide_eq_false_iff_not,
    List.any_eq_false]
  simp only [List.mem_inits, Option.not_isSome_iff_eq_none]

/-! ## Writing -/

/-- What lies in a tree once a file has been written into another one. -/
def Gained (before after : FileTree) (names : List String) (text : String) : Prop :=
  ∀ other, after.place? other =
    if other = names then some (.file text)
    else if other <+: names.dropLast then some .folder
    else before.place? other

/-- Folders that are made above a file are made where no file was. -/
theorem Gained.text?_eq (h : tree.Gained after names text)
    (hclear : tree.isObstructed names = false) (other : List String) :
    after.text? other = if other = names then some text else tree.text? other := by
  have hfronts : ∀ front, front <+: names.dropLast → tree.text? front = none := by
    rw [isObstructed, Bool.or_eq_false_iff, List.any_eq_false] at hclear
    intro front hfront
    exact Option.not_isSome_iff_eq_none.1 (hclear.1 front ((List.mem_inits _ _).2 hfront))
  rw [text?_eq_bind, h other]
  by_cases hsame : other = names
  · rw [if_pos hsame, if_pos hsame]
    rfl
  · rw [if_neg hsame, if_neg hsame]
    by_cases hfront : other <+: names.dropLast
    · rw [if_pos hfront, hfronts other hfront]
      rfl
    · rw [if_neg hfront, text?_eq_bind]

theorem writeWithin_eq (h : LeadsTo artifact.path folders name) :
    writeWithin longest [] overwrite artifact tree =
      let made := makeFolders longest tree folders
      let written := writeFile longest overwrite .name artifact.text made.2 (folders ++ [name])
      match made.1 with
      | .error fault => (.error (.output fault.message), made.2)
      | .ok () => (written.1.mapError (failureOf artifact.path), written.2) := by
  have hclean : folders.any hasNul = false := by
    rw [List.any_eq_false]
    intro folder hfolder
    rw [h.no_nul folder (by rw [h.namesOf_eq]; exact List.mem_append_left _ hfolder)]
    exact Bool.false_ne_true
  have hwritten := writeWithin_of_accepted h.ofText?_eq longest [] overwrite tree
  dsimp only at hwritten
  rw [List.nil_append, h.namesOf_eq, List.dropLast_concat, hclean,
    if_neg Bool.false_ne_true] at hwritten
  exact hwritten

/-- Where folders have been made a file finds in its place what was there before. -/
theorem place?_concat_makeFolders (hmade : (makeFolders longest tree folders).1 = .ok ()) :
    (makeFolders longest tree folders).2.place? (folders ++ [name]) =
      tree.place? (folders ++ [name]) := by
  rw [place?_makeFolders hmade, if_neg]
  intro hfront
  have hlength := hfront.length_le
  rw [List.length_append, List.length_singleton] at hlength
  omega

theorem place?_folders_makeFolders (hmade : (makeFolders longest tree folders).1 = .ok ()) :
    (makeFolders longest tree folders).2.place? folders = some .folder := by
  rw [place?_makeFolders hmade, if_pos (List.prefix_refl folders)]

theorem text?_of_place?_eq (h : after.place? names = tree.place? names) :
    after.text? names = tree.text? names := by
  rw [text?_eq_bind, text?_eq_bind, h]

/-- A file that cannot be written changes no other one, and it is not there itself. -/
theorem text?_writeWithin_of_error (h : LeadsTo artifact.path folders name)
    (herror : (writeWithin longest [] overwrite artifact tree).1 = .error failure)
    (other : List String) :
    (writeWithin longest [] overwrite artifact tree).2.text? other = tree.text? other := by
  rw [writeWithin_eq h] at herror ⊢
  cases hmade : (makeFolders longest tree folders).1 with
  | error fault =>
      simp only [hmade]
      exact text?_makeFolders longest tree folders other
  | ok made =>
      simp only [hmade] at herror ⊢
      have hfolder := place?_folders_makeFolders hmade
      cases hfault : openFault? longest overwrite .name name
          ((makeFolders longest tree folders).2.find? (folders ++ [name])) with
      | none =>
          obtain ⟨hok, -⟩ := writeFile_of_free artifact.text hfolder hfault
          rw [hok] at herror
          cases herror
      | some fault =>
          -- The folders that were made stay, but they hold no file.
          obtain ⟨-, hsame⟩ := writeFile_of_fault artifact.text hfolder hfault
          rw [text?_of_place?_eq (hsame other), text?_makeFolders]

/-- Nothing was in the way of a file that has been written. -/
theorem isObstructed_eq_false_of_written (h : LeadsTo artifact.path folders name)
    (hok : (writeWithin longest [] overwrite artifact tree).1 = .ok ()) :
    tree.isObstructed (namesOf artifact.path) = false := by
  rw [h.namesOf_eq, isObstructed_concat_eq_false_iff]
  rw [writeWithin_eq h] at hok
  cases hmade : (makeFolders longest tree folders).1 with
  | error fault => simp only [hmade, reduceCtorEq] at hok
  | ok made =>
      refine ⟨(makeFolders_eq_ok_iff.1 hmade).2, fun hplace => ?_⟩
      simp only [hmade] at hok
      have hfolder := place?_folders_makeFolders hmade
      cases hfault : openFault? longest overwrite .name name
          ((makeFolders longest tree folders).2.find? (folders ++ [name])) with
      | none =>
          rw [← place?_concat_makeFolders hmade, place?] at hplace
          rcases file_of_openFault?_eq_none hfault with hnone | ⟨kept, hkept⟩
          · rw [hnone] at hplace
            cases hplace
          · rw [hkept] at hplace
            cases hplace
      | some fault =>
          obtain ⟨herror, -⟩ := writeFile_of_fault artifact.text hfolder hfault
          rw [herror] at hok
          cases hok

section

variable (h : LeadsTo artifact.path folders name) (hfits : Fits longest artifact.path)
  (hclear : tree.isObstructed (namesOf artifact.path) = false)

include h hfits hclear

theorem makeFolders_eq_ok : (makeFolders longest tree folders).1 = .ok () := by
  rw [h.namesOf_eq, isObstructed_concat_eq_false_iff] at hclear
  refine makeFolders_eq_ok_iff.2 ⟨fun folder hfolder => hfits folder ?_, hclear.1⟩
  rw [h.namesOf_eq]
  exact List.mem_append_left _ hfolder

theorem openFault?_made :
    openFault? longest overwrite .name name
        ((makeFolders longest tree folders).2.find? (folders ++ [name])) =
      Place.fault? overwrite (tree.place? (namesOf artifact.path)) := by
  have hname : name ∈ namesOf artifact.path := by
    rw [h.namesOf_eq]
    exact List.mem_append_right _ List.mem_cons_self
  rw [openFault?_of_name (h.no_nul name hname) (hfits name hname), h.namesOf_eq,
    ← place?_concat_makeFolders (makeFolders_eq_ok h hfits hclear)]
  rfl

theorem writeWithin_of_free (hfree : overwrite = true ∨ tree.text? (namesOf artifact.path) = none) :
    let written := writeWithin longest [] overwrite artifact tree
    written.1 = .ok () ∧ tree.Gained written.2 (namesOf artifact.path) artifact.text := by
  have hmade := makeFolders_eq_ok h hfits hclear
  have hfault : Place.fault? overwrite (tree.place? (namesOf artifact.path)) = none := by
    have hplace := (isObstructed_concat_eq_false_iff.1 (h.namesOf_eq ▸ hclear)).2
    rw [← h.namesOf_eq] at hplace
    rw [text?_eq_bind] at hfree
    rcases hfound : tree.place? (namesOf artifact.path) with _ | kept | _
    · rfl
    · rcases hfree with rfl | hnone
      · rfl
      · rw [hfound] at hnone
        cases hnone
    · exact absurd hfound hplace
  obtain ⟨hok, hplaces⟩ := writeFile_of_free artifact.text (place?_folders_makeFolders hmade)
    ((openFault?_made h hfits hclear).trans hfault)
  rw [writeWithin_eq h]
  simp only [hmade, hok]
  refine ⟨rfl, fun other => ?_⟩
  rw [hplaces, place?_makeFolders hmade, h.namesOf_eq, List.dropLast_concat]

theorem writeWithin_of_taken (htaken : (tree.text? (namesOf artifact.path)).isSome = true) :
    let written := writeWithin longest [] false artifact tree
    written.1 = .error (.artifactExists artifact.path) ∧ ∀ other, written.2.place? other =
      if other <+: folders then some .folder else tree.place? other := by
  have hmade := makeFolders_eq_ok h hfits hclear
  have hfault : Place.fault? false (tree.place? (namesOf artifact.path)) = some .exists := by
    rw [text?_eq_bind] at htaken
    rcases hfound : tree.place? (namesOf artifact.path) with _ | kept | _
    · rw [hfound] at htaken
      cases htaken
    · rfl
    · rfl
  obtain ⟨herror, hsame⟩ := writeFile_of_fault artifact.text
    (place?_folders_makeFolders hmade) ((openFault?_made h hfits hclear).trans hfault)
  rw [writeWithin_eq h]
  simp only [hmade, herror]
  refine ⟨rfl, fun other => ?_⟩
  rw [hsame, place?_makeFolders hmade]

end

theorem Ordered.writeWithin (hordered : tree.Ordered) (h : LeadsTo artifact.path folders name)
    (longest : Option Nat) (overwrite : Bool) :
    (FileTree.writeWithin longest [] overwrite artifact tree).2.Ordered := by
  rw [writeWithin_eq h]
  have hmade := hordered.makeFolders longest folders
  cases houtcome : (FileTree.makeFolders longest tree folders).1 with
  | error fault =>
      simp only [houtcome]
      exact hmade
  | ok made =>
      simp only [houtcome]
      exact hmade.writeFile longest overwrite .name artifact.text (folders ++ [name])

/-- Whether anything lies under the names along a path. -/
def hasPath (tree : FileTree) (path : String) : Bool :=
  (tree.place? (namesOf path)).isSome

theorem runOn_taken (h : LeadsTo path folders name) (longest : Option Nat) (tree : FileTree) :
    runOn ((storeWithin longest []).taken path) tree = (.ok (tree.hasPath path), tree) := by
  change (taken [] path tree, tree) = _
  rw [taken, h.ofText?_eq, hasPath, place?, Option.isSome_map]
  simp only [isTaken, List.nil_append]
  cases tree.find? (namesOf path) <;> rfl

theorem runOn_write (longest : Option Nat) (overwrite : Bool) (artifact : Artifact)
    (tree : FileTree) :
    runOn ((storeWithin longest []).write overwrite artifact) tree =
      writeWithin longest [] overwrite artifact tree := rfl

end Scaffold.FileTree
