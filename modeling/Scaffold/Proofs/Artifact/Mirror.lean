import Scaffold.Proofs.Artifact.Disk
import Scaffold.Proofs.Artifact.Shelf

/-!
# A disk that mirrors a shelf

A tree that holds artifacts only mirrors a shelf: its files are the texts of the shelf, under the
names along their paths.  Nothing is in the way of an artifact in such a tree, as no folder has the
name of a file, so disk and shelf agree on every artifact.
-/

namespace Scaffold

open RelativePath (namesOf)

/-- A tree of the artifacts of a shelf, and of the folders above them. -/
structure Mirrors (tree : FileTree) (shelf : Shelf) : Prop where
  ordered : tree.Ordered
  text?_eq_some_iff : ∀ names text, tree.text? names = some text ↔
    ∃ path, shelf.get? path = some text ∧ namesOf path = names
  isArtifactPath : ∀ path, (shelf.get? path).isSome = true → IsArtifactPath path
  folders_plain : ∀ names, tree.place? names = some .folder →
    ∀ name ∈ names, '.' ∉ name.toList

namespace Mirrors

variable {tree : FileTree} {shelf : Shelf} {longest : Option Nat} {path name : String}
  {folders : List String}

theorem empty : Mirrors .empty .empty where
  ordered := .empty
  text?_eq_some_iff := by
    intro names text
    constructor
    · intro h
      cases names <;> cases h
    · rintro ⟨path, h, -⟩
      cases h
  isArtifactPath := fun _ h => nomatch h
  folders_plain := by
    intro names h name hname
    cases names with
    | nil => cases hname
    | cons first rest => cases h

variable (h : Mirrors tree shelf)

include h

theorem text?_namesOf (hpath : IsArtifactPath path) :
    tree.text? (namesOf path) = shelf.get? path := by
  apply Option.ext
  intro text
  rw [h.text?_eq_some_iff]
  constructor
  · rintro ⟨other, hother, hnames⟩
    have hartifact := h.isArtifactPath other (by rw [hother]; rfl)
    rw [← hartifact.eq_of_namesOf_eq hpath hnames]
    exact hother
  · intro hpath
    exact ⟨path, hpath, rfl⟩

/-- No file has the name of a folder. -/
theorem text?_eq_none (hplain : ∀ name ∈ folders, '.' ∉ name.toList) :
    tree.text? folders = none := by
  rw [Option.eq_none_iff_forall_not_mem]
  intro text htext
  obtain ⟨path, hpath, rfl⟩ := (h.text?_eq_some_iff _ _).1 htext
  obtain ⟨above, name, hleads⟩ := (h.isArtifactPath path (by rw [hpath]; rfl)).exists_leadsTo
  refine hplain name ?_ hleads.point_mem
  rw [hleads.namesOf_eq]
  exact List.mem_append_right _ List.mem_cons_self

theorem isObstructed_eq_false (hleads : LeadsTo path folders name) :
    tree.isObstructed (namesOf path) = false := by
  rw [hleads.namesOf_eq, FileTree.isObstructed_concat_eq_false_iff]
  constructor
  · intro front hfront
    exact h.text?_eq_none fun part hpart => hleads.folders_plain part (hfront.subset hpart)
  · intro hplace
    exact h.folders_plain _ hplace name (List.mem_append_right _ List.mem_cons_self)
      hleads.point_mem

theorem hasPath_eq (hpath : IsArtifactPath path) :
    tree.hasPath path = (shelf.get? path).isSome := by
  obtain ⟨folders, name, hleads⟩ := hpath.exists_leadsTo
  have hclear := h.isObstructed_eq_false hleads
  rw [hleads.namesOf_eq, FileTree.isObstructed_concat_eq_false_iff, ← hleads.namesOf_eq] at hclear
  rw [← h.text?_namesOf hpath, FileTree.text?_eq_bind, FileTree.hasPath]
  rcases hplace : tree.place? (namesOf path) with _ | _ | _
  · rfl
  · rfl
  · exact absurd hplace hclear.2

/-! ## One artifact -/

/-- What is put on the shelf is gained by the tree. -/
theorem of_gained {after : FileTree} {text : String} (hleads : LeadsTo path folders name)
    (hpath : IsArtifactPath path) (hordered : after.Ordered)
    (hgained : tree.Gained after (namesOf path) text) :
    Mirrors after (shelf.put path text) where
  ordered := hordered
  text?_eq_some_iff := by
    intro names other
    rw [hgained.text?_eq (h.isObstructed_eq_false hleads)]
    constructor
    · intro hfound
      by_cases hsame : names = namesOf path
      · rw [if_pos hsame] at hfound
        exact ⟨path, by rw [Shelf.get?_put, if_pos rfl, hfound], hsame.symm⟩
      · rw [if_neg hsame, h.text?_eq_some_iff] at hfound
        obtain ⟨found, hother, hnames⟩ := hfound
        refine ⟨found, ?_, hnames⟩
        rw [Shelf.get?_put, if_neg]
        · exact hother
        · rintro rfl
          exact hsame hnames.symm
    · rintro ⟨found, hfound, rfl⟩
      rw [Shelf.get?_put] at hfound
      by_cases hsame : found = path
      · rw [if_pos hsame] at hfound
        rw [if_pos (congrArg namesOf hsame), hfound]
      · rw [if_neg hsame] at hfound
        -- Another artifact lies under other names, so its text is not the one written now.
        have hartifact := h.isArtifactPath found (by rw [hfound]; rfl)
        rw [if_neg fun hnames => hsame (hartifact.eq_of_namesOf_eq hpath hnames),
          h.text?_namesOf hartifact, hfound]
  isArtifactPath := by
    intro found hfound
    rw [Shelf.get?_put] at hfound
    split at hfound
    · next heq => exact heq ▸ hpath
    · exact h.isArtifactPath found hfound
  folders_plain := by
    intro names hplace
    rw [hgained names] at hplace
    split at hplace
    · cases hplace
    · split at hplace
      · next hfront =>
          rw [hleads.namesOf_eq, List.dropLast_concat] at hfront
          exact fun part hpart => hleads.folders_plain part (hfront.subset hpart)
      · exact h.folders_plain names hplace

/-- Folders alone do not show on the shelf. -/
theorem of_folders {after : FileTree} (hleads : LeadsTo path folders name)
    (hordered : after.Ordered)
    (hplaces : ∀ other, after.place? other =
      if other <+: folders then some .folder else tree.place? other) : Mirrors after shelf where
  ordered := hordered
  text?_eq_some_iff := by
    intro names text
    rw [← h.text?_eq_some_iff, FileTree.text?_eq_bind, hplaces names]
    split
    · next hfront =>
        rw [h.text?_eq_none fun part hpart => hleads.folders_plain part (hfront.subset hpart)]
        rfl
    · rw [FileTree.text?_eq_bind]
  isArtifactPath := h.isArtifactPath
  folders_plain := by
    intro names hplace
    rw [hplaces names] at hplace
    split at hplace
    · next hfront => exact fun part hpart => hleads.folders_plain part (hfront.subset hpart)
    · exact h.folders_plain names hplace

end Mirrors

/-- A disk on which the names fit agrees with a shelf on artifacts. -/
theorem storeWithin_agrees (longest : Option Nat) :
    Store.Agrees Mirrors (fun path => IsArtifactPath path ∧ FileTree.Fits longest path)
      (FileTree.storeWithin longest []) Shelf.store where
  taken := by
    rintro path ⟨hpath, -⟩ tree shelf h
    obtain ⟨folders, name, hleads⟩ := hpath.exists_leadsTo
    rw [FileTree.runOn_taken hleads, Shelf.runOn_taken]
    exact ⟨congrArg Except.ok (h.hasPath_eq hpath), h⟩
  write := by
    rintro overwrite artifact ⟨hpath, hfits⟩ tree shelf h
    obtain ⟨folders, name, hleads⟩ := hpath.exists_leadsTo
    have hclear := h.isObstructed_eq_false hleads
    have hordered := h.ordered.writeWithin hleads longest overwrite
    rw [FileTree.runOn_write, Shelf.runOn_write, Shelf.write]
    by_cases hrefused : overwrite = false ∧ (shelf.get? artifact.path).isSome = true
    · obtain ⟨rfl, htaken⟩ := hrefused
      rw [← h.text?_namesOf hpath] at htaken
      obtain ⟨herror, hplaces⟩ := FileTree.writeWithin_of_taken hleads hfits hclear htaken
      rw [h.text?_namesOf hpath] at htaken
      simp only [htaken, herror]
      exact ⟨rfl, h.of_folders hleads hordered hplaces⟩
    · have hfree : overwrite = true ∨ tree.text? (namesOf artifact.path) = none := by
        rw [h.text?_namesOf hpath]
        cases overwrite with
        | true => exact .inl rfl
        | false => exact .inr (Option.not_isSome_iff_eq_none.1 fun htaken => hrefused ⟨rfl, htaken⟩)
      obtain ⟨hok, hgained⟩ := FileTree.writeWithin_of_free hleads hfits hclear hfree
      have hwritten : (!overwrite && (shelf.get? artifact.path).isSome) = false := by
        rw [← h.text?_namesOf hpath]
        rcases hfree with rfl | hnone
        · rfl
        · rw [hnone, Option.isSome_none, Bool.and_false]
      simp only [hwritten, hok]
      exact ⟨rfl, h.of_gained hleads hpath hordered hgained⟩

end Scaffold
