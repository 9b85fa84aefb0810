import Scaffold.Artifact.FileTree
import Scaffold.Proofs.Entries

/-!
# What lies in a tree

A tree is seen as what lies under each list of names.  Making folders changes no file, and writing a
file changes what lies under its own names only.  As long as the entries of every folder stand in
order, the files that are listed are those that are found under their names.
-/

namespace Scaffold.FileTree

/-- What lies under a list of names. -/
inductive Place where
  | file (text : String)
  | folder
deriving DecidableEq, Repr

def Place.text? : Place → Option String
  | .file text => some text
  | .folder => none

def place : FileTree → Place
  | .file text => .file text
  | .folder _ => .folder

def place? (tree : FileTree) (names : List String) : Option Place :=
  (tree.find? names).map place

variable {tree child : FileTree} {entries : List (String × FileTree)} {name text : String}
  {names folders : List String}

@[simp] theorem place?_nil (tree : FileTree) : tree.place? [] = some tree.place := rfl

@[simp] theorem place?_file_cons (text name : String) (names : List String) :
    (file text).place? (name :: names) = none := rfl

@[simp] theorem place?_folder_cons (entries : List (String × FileTree)) (name : String)
    (names : List String) :
    (folder entries).place? (name :: names) = (entries.lookup name).bind (·.place? names) := by
  rw [place?, find?]
  cases entries.lookup name <;> rfl

theorem place?_put (name : String) (child : FileTree) (entries : List (String × FileTree))
    (other : String) (names : List String) :
    (folder (Entries.put name child entries)).place? (other :: names) =
      if other = name then child.place? names else (folder entries).place? (other :: names) := by
  rw [place?_folder_cons, place?_folder_cons, Entries.lookup_put]
  by_cases h : other = name
  · rw [if_pos h, if_pos h, Option.bind_some]
  · rw [if_neg h, if_neg h]

/-- A folder that is not there yet has nothing in it. -/
theorem place?_getD_empty (entries : List (String × FileTree)) (name : String)
    (hne : names ≠ []) :
    ((entries.lookup name).getD empty).place? names =
      (folder entries).place? (name :: names) := by
  rw [place?_folder_cons]
  cases entries.lookup name with
  | none =>
      cases names with
      | nil => exact absurd rfl hne
      | cons first rest => rfl
  | some child => rfl

theorem eq_folder_of_place (h : tree.place = .folder) : ∃ entries, tree = folder entries := by
  cases tree with
  | file text => cases h
  | folder entries => exact ⟨entries, rfl⟩

theorem text?_eq_bind (tree : FileTree) (names : List String) :
    tree.text? names = (tree.place? names).bind Place.text? := by
  rw [text?, place?]
  cases tree.find? names with
  | none => rfl
  | some found => cases found <;> rfl

theorem text?_eq_some_iff :
    tree.text? names = some text ↔ tree.place? names = some (.file text) := by
  rw [text?_eq_bind]
  cases tree.place? names with
  | none => simp
  | some found => cases found <;> simp [Place.text?]

theorem text?_getD_empty (entries : List (String × FileTree)) (name : String)
    (names : List String) :
    ((entries.lookup name).getD empty).text? names = (folder entries).text? (name :: names) := by
  by_cases h : names = []
  · subst h
    rw [text?_eq_bind, text?_eq_bind, place?_folder_cons]
    cases entries.lookup name <;> rfl
  · rw [text?_eq_bind, text?_eq_bind, place?_getD_empty entries name h]

/-! ## Making folders -/

/-- The step of making folders below a folder. -/
theorem makeFolders_cons {longest : Option Nat} (hfits : isTooLong longest name = false) :
    makeFolders longest (folder entries) (name :: names) =
      let made := makeFolders longest ((entries.lookup name).getD empty) names
      (made.1, folder (Entries.put name made.2 entries)) := by
  rw [makeFolders, hfits]
  rfl

theorem makeFolders_cons_of_tooLong {longest : Option Nat} (h : isTooLong longest name = true) :
    makeFolders longest (folder entries) (name :: names) =
      (.error .nameTooLong, folder entries) := by
  rw [makeFolders, h]
  rfl

/-- Folders are made along the names and where nothing was. -/
theorem place?_makeFolders_cases (longest : Option Nat) (tree : FileTree)
    (names found : List String) :
    (makeFolders longest tree names).2.place? found = tree.place? found ∨
      found <+: names ∧ tree.place? found = none ∧
        (makeFolders longest tree names).2.place? found = some .folder := by
  induction names generalizing tree found with
  | nil =>
      rw [makeFolders]
      split <;> exact .inl rfl
  | cons name names ih =>
      cases tree with
      | file text => exact .inl rfl
      | folder entries =>
          cases hlong : isTooLong longest name with
          | true =>
              rw [makeFolders_cons_of_tooLong hlong]
              exact .inl rfl
          | false =>
              rw [makeFolders_cons hlong]
              cases found with
              | nil => exact .inl rfl
              | cons first rest =>
                  rw [place?_put]
                  by_cases heq : first = name
                  · subst heq
                    rw [if_pos rfl]
                    have hmade := ih ((entries.lookup first).getD empty) rest
                    by_cases hrest : rest = []
                    · subst hrest
                      -- What is made is a folder, and so is what was there, if anything.
                      have hsame := hmade.resolve_right fun h => Option.some_ne_none _ h.2.1
                      rw [place?_folder_cons]
                      cases hchild : entries.lookup first with
                      | none =>
                          rw [hchild] at hsame
                          exact .inr ⟨⟨names, rfl⟩, rfl, hsame⟩
                      | some child =>
                          rw [hchild] at hsame
                          exact .inl hsame
                    · rw [place?_getD_empty entries first hrest] at hmade
                      exact hmade.imp_right fun h => ⟨List.cons_prefix_cons.2 ⟨rfl, h.1⟩, h.2⟩
                  · rw [if_neg heq]
                    exact .inl rfl

theorem text?_makeFolders (longest : Option Nat) (tree : FileTree) (names other : List String) :
    (makeFolders longest tree names).2.text? other = tree.text? other := by
  rw [text?_eq_bind, text?_eq_bind]
  rcases place?_makeFolders_cases longest tree names other with hsame | ⟨-, hnone, hmade⟩
  · rw [hsame]
  · rw [hnone, hmade]
    rfl

/-- Folders can be made where no name is too long and no file is in the way. -/
theorem makeFolders_eq_ok_iff {longest : Option Nat} :
    (makeFolders longest tree names).1 = .ok () ↔
      (∀ name ∈ names, isTooLong longest name = false) ∧
        ∀ front, front <+: names → tree.text? front = none := by
  induction names generalizing tree with
  | nil =>
      have hfronts : (∀ front, front <+: [] → tree.text? front = none) ↔ tree.text? [] = none := by
        simp
      rw [hfronts]
      cases tree <;> simp [makeFolders, isFolder, text?, find?]
  | cons name names ih =>
      cases tree with
      | file text =>
          constructor
          · intro h
            cases h
          · rintro ⟨-, hfree⟩
            exact absurd (hfree [] List.nil_prefix) (by simp [text?, find?])
      | folder entries =>
          cases hlong : isTooLong longest name with
          | true => simp [makeFolders_cons_of_tooLong hlong, hlong]
          | false =>
              have hfronts : (∀ front, front <+: name :: names →
                  (folder entries).text? front = none) ↔
                  ∀ front, front <+: names → (folder entries).text? (name :: front) = none := by
                constructor
                · intro h front hfront
                  exact h _ (List.cons_prefix_cons.2 ⟨rfl, hfront⟩)
                · intro h front hfront
                  cases front with
                  | nil => rfl
                  | cons first rest =>
                      obtain ⟨rfl, hrest⟩ := List.cons_prefix_cons.1 hfront
                      exact h rest hrest
              rw [makeFolders_cons hlong, hfronts]
              simp only [ih, text?_getD_empty, List.forall_mem_cons, hlong, true_and]

/-- Where folders have been made there are folders, and all else is as it was. -/
theorem place?_makeFolders {longest : Option Nat}
    (h : (makeFolders longest tree names).1 = .ok ()) (other : List String) :
    (makeFolders longest tree names).2.place? other =
      if other <+: names then some .folder else tree.place? other := by
  induction names generalizing tree other with
  | nil =>
      rw [makeFolders] at h ⊢
      cases tree with
      | file text => cases h
      | folder entries =>
          cases other with
          | nil => rfl
          | cons first rest => simp [isFolder]
  | cons name names ih =>
      cases tree with
      | file text => cases h
      | folder entries =>
          have hlong : isTooLong longest name = false :=
            (makeFolders_eq_ok_iff.1 h).1 name List.mem_cons_self
          rw [makeFolders_cons hlong] at h ⊢
          cases other with
          | nil => rw [if_pos List.nil_prefix]; rfl
          | cons first rest =>
              rw [place?_put]
              by_cases heq : first = name
              · subst heq
                rw [if_pos rfl, ih h]
                simp only [List.cons_prefix_cons, true_and]
                by_cases hrest : rest <+: names
                · rw [if_pos hrest, if_pos hrest]
                · have hne : rest ≠ [] := by
                    rintro rfl
                    exact hrest List.nil_prefix
                  rw [if_neg hrest, if_neg hrest, place?_getD_empty entries first hne]
              · rw [if_neg heq, if_neg fun hfront => heq (List.cons_prefix_cons.1 hfront).1]

/-! ## Writing a file -/

section

variable {longest : Option Nat} {overwrite : Bool} {ending : PathEnd} {first : String}

/-- The step of writing a file below a folder. -/
theorem writeFile_cons (hchild : entries.lookup first = some child) :
    writeFile longest overwrite ending text (folder entries) (first :: (folders ++ [name])) =
      let written := writeFile longest overwrite ending text child (folders ++ [name])
      (written.1, folder (Entries.put first written.2 entries)) := by
  cases folders with
  | nil => rw [List.nil_append, writeFile, hchild]
  | cons second rest => rw [List.cons_append, writeFile, hchild]

theorem exists_child_of_place? (h : tree.place? (first :: folders) = some .folder) :
    ∃ entries child, tree = folder entries ∧ entries.lookup first = some child ∧
      child.place? folders = some .folder := by
  cases tree with
  | file text => cases h
  | folder entries =>
      rw [place?_folder_cons, Option.bind_eq_some_iff] at h
      obtain ⟨child, hchild, hfolder⟩ := h
      exact ⟨entries, child, rfl, hchild, hfolder⟩

theorem find?_cons (hchild : entries.lookup first = some child) (names : List String) :
    (folder entries).find? (first :: names) = child.find? names := by
  rw [find?, hchild]

theorem writeFile_of_fault (text : String) {fault : DiskFault}
    (hfolder : tree.place? folders = some .folder)
    (hfault : openFault? longest overwrite ending name (tree.find? (folders ++ [name])) =
      some fault) :
    let written := writeFile longest overwrite ending text tree (folders ++ [name])
    written.1 = .error fault ∧ ∀ other, written.2.place? other = tree.place? other := by
  induction folders generalizing tree with
  | nil =>
      obtain ⟨entries, rfl⟩ := eq_folder_of_place (Option.some.inj hfolder)
      have hfound : (folder entries).find? ([] ++ [name]) = entries.lookup name := by
        rw [List.nil_append, find?]
        cases entries.lookup name <;> rfl
      rw [hfound] at hfault
      rw [List.nil_append, writeFile, hfault]
      exact ⟨rfl, fun _ => rfl⟩
  | cons first folders ih =>
      obtain ⟨entries, child, rfl, hchild, hchildFolder⟩ := exists_child_of_place? hfolder
      rw [List.cons_append, find?_cons hchild] at hfault
      obtain ⟨houtcome, hsame⟩ := ih hchildFolder hfault
      rw [List.cons_append, writeFile_cons hchild]
      refine ⟨houtcome, fun other => ?_⟩
      cases other with
      | nil => rfl
      | cons second rest =>
          rw [place?_put]
          split
          · next heq => rw [hsame, heq, place?_folder_cons, hchild, Option.bind_some]
          · rfl

/-- A file can be opened only where there is none or one that may be overwritten. -/
theorem file_of_openFault?_eq_none {found : Option FileTree}
    (h : openFault? longest overwrite ending name found = none) :
    found = none ∨ ∃ kept, found = some (file kept) := by
  cases found with
  | none => exact .inl rfl
  | some tree =>
      cases tree with
      | file kept => exact .inr ⟨kept, rfl⟩
      | folder entries =>
          have hfault :
              openFault? longest overwrite ending name (some (folder entries)) ≠ none := by
            unfold openFault?
            cases hasNul name <;> cases ending <;> cases isTooLong longest name <;> simp
          exact absurd h hfault

theorem writeFile_of_free (text : String) (hfolder : tree.place? folders = some .folder)
    (hfree : openFault? longest overwrite ending name (tree.find? (folders ++ [name])) = none) :
    let written := writeFile longest overwrite ending text tree (folders ++ [name])
    written.1 = .ok () ∧ ∀ other, written.2.place? other =
      if other = folders ++ [name] then some (.file text) else tree.place? other := by
  induction folders generalizing tree with
  | nil =>
      obtain ⟨entries, rfl⟩ := eq_folder_of_place (Option.some.inj hfolder)
      have hfound : (folder entries).find? ([] ++ [name]) = entries.lookup name := by
        rw [List.nil_append, find?]
        cases entries.lookup name <;> rfl
      rw [hfound] at hfree
      rw [List.nil_append, writeFile, hfree]
      refine ⟨rfl, fun other => ?_⟩
      cases other with
      | nil => rfl
      | cons second rest =>
          rw [place?_put]
          by_cases heq : second = name
          · subst heq
            rw [if_pos rfl]
            cases rest with
            | nil => rw [if_pos rfl]; rfl
            | cons third rest =>
                rw [if_neg (by simp), place?_file_cons, place?_folder_cons]
                -- Nothing lies below a file, neither before nor now.
                rcases file_of_openFault?_eq_none hfree with hnone | ⟨kept, hkept⟩
                · rw [hnone, Option.bind_none]
                · rw [hkept, Option.bind_some, place?_file_cons]
          · rw [if_neg heq, if_neg (by simp [heq])]
  | cons first folders ih =>
      obtain ⟨entries, child, rfl, hchild, hchildFolder⟩ := exists_child_of_place? hfolder
      rw [List.cons_append, find?_cons hchild] at hfree
      obtain ⟨houtcome, hplaces⟩ := ih hchildFolder hfree
      rw [List.cons_append, writeFile_cons hchild]
      refine ⟨houtcome, fun other => ?_⟩
      cases other with
      | nil => rfl
      | cons second rest =>
          rw [place?_put]
          by_cases heq : second = first
          · subst heq
            rw [if_pos rfl, hplaces, place?_folder_cons, hchild, Option.bind_some]
            simp only [List.cons.injEq, true_and]
          · rw [if_neg heq, if_neg (by simp [heq])]

/-- An artifact with an accepted path is written once the folders above it have been made. -/
theorem writeWithin_of_accepted {artifact : Artifact} {relative : RelativePath}
    (h : RelativePath.ofText? artifact.path = some relative) (longest : Option Nat)
    (root : List String) (overwrite : Bool) (tree : FileTree) :
    writeWithin longest root overwrite artifact tree =
      let names := root ++ relative.names
      let made := makeFolders longest tree names.dropLast
      let written := writeFile longest overwrite relative.ending artifact.text made.2 names
      if names.dropLast.any hasNul then (.error (.output DiskFault.nul.message), tree)
      else match made.1 with
        | .error fault => (.error (.output fault.message), made.2)
        | .ok () => (written.1.mapError (failureOf artifact.path), written.2) := by
  rw [writeWithin, h]
  dsimp only
  split
  · rfl
  · rcases makeFolders longest tree (root ++ relative.names).dropLast with ⟨outcome, made⟩
    cases outcome with
    | error fault => rfl
    | ok done =>
        dsimp only
        rcases writeFile longest overwrite _ artifact.text made _ with ⟨written, left⟩
        cases written <;> rfl

end

/-! ## Listing files -/

/-- A tree whose folders have their entries in the order of their names. -/
inductive Ordered : FileTree → Prop where
  | file (text : String) : Ordered (.file text)
  | folder {entries : List (String × FileTree)}
    (names : (entries.map Prod.fst).Pairwise (· < ·))
    (children : ∀ entry ∈ entries, Ordered entry.2) : Ordered (.folder entries)

namespace Ordered

theorem empty : FileTree.empty.Ordered :=
  .folder .nil (fun _ h => nomatch h)

theorem of_lookup (h : (FileTree.folder entries).Ordered)
    (hchild : entries.lookup name = some child) : child.Ordered := by
  cases h with
  | folder _ children => exact children _ (Entries.mem_of_lookup hchild)

theorem put (h : (FileTree.folder entries).Ordered) (hchild : child.Ordered) (name : String) :
    (FileTree.folder (Entries.put name child entries)).Ordered := by
  cases h with
  | folder names children =>
      refine .folder (Entries.pairwise_put names name child) fun entry hentry => ?_
      rcases Entries.mem_of_mem_put hentry with rfl | hmem
      · exact hchild
      · exact children entry hmem

theorem makeFolders (h : tree.Ordered) (longest : Option Nat) (names : List String) :
    (FileTree.makeFolders longest tree names).2.Ordered := by
  induction names generalizing tree with
  | nil =>
      rw [FileTree.makeFolders]
      split <;> exact h
  | cons name names ih =>
      cases tree with
      | file text => exact h
      | folder entries =>
          cases hlong : isTooLong longest name with
          | true =>
              rw [makeFolders_cons_of_tooLong hlong]
              exact h
          | false =>
              rw [makeFolders_cons hlong]
              refine h.put (ih ?_) name
              cases hchild : entries.lookup name with
              | none => exact .empty
              | some child => exact h.of_lookup hchild

theorem writeFile (h : tree.Ordered) (longest : Option Nat) (overwrite : Bool) (ending : PathEnd)
    (text : String) (names : List String) :
    (FileTree.writeFile longest overwrite ending text tree names).2.Ordered := by
  induction names generalizing tree with
  | nil => exact h
  | cons name names ih =>
      cases tree with
      | file kept => exact h
      | folder entries =>
          cases names with
          | nil =>
              rw [FileTree.writeFile]
              split
              · exact h
              · exact h.put (.file text) name
          | cons second rest =>
              rw [FileTree.writeFile]
              split
              · exact h
              · next child hchild => exact h.put (ih (h.of_lookup hchild)) name

end Ordered

theorem filesOf_eq_flatMap (base : List String) (entries : List (String × FileTree)) :
    filesOf base entries = entries.flatMap fun entry => entry.2.files (base ++ [entry.1]) := by
  induction entries with
  | nil => rfl
  | cons entry entries ih => rw [filesOf, ih, List.flatMap_cons]

/-- The files that are listed are those that are found under their names. -/
theorem Ordered.mem_files_iff (h : tree.Ordered) (base : List String) (path text : String) :
    (path, text) ∈ tree.files base ↔
      ∃ names, tree.text? names = some text ∧ path = Text.join "/" (base ++ names) := by
  induction h generalizing base with
  | file kept =>
      rw [files, List.mem_singleton, Prod.mk.injEq]
      constructor
      · rintro ⟨rfl, rfl⟩
        exact ⟨[], rfl, by rw [List.append_nil]⟩
      · rintro ⟨names, hfound, rfl⟩
        cases names with
        | nil =>
            rw [List.append_nil]
            exact ⟨rfl, (Option.some.inj hfound).symm⟩
        | cons name names => cases hfound
  | folder names children ih =>
      rename_i entries
      have hnodup : (entries.map Prod.fst).Nodup :=
        names.imp fun hlt => by
          rintro rfl
          exact String.lt_irrefl _ hlt
      rw [files, filesOf_eq_flatMap, List.mem_flatMap]
      constructor
      · rintro ⟨⟨name, child⟩, hentry, hfile⟩
        obtain ⟨below, hfound, hpath⟩ := (ih _ hentry _).1 hfile
        refine ⟨name :: below, ?_, by rw [hpath, List.append_assoc]; rfl⟩
        rw [text?_eq_bind, place?_folder_cons, Entries.lookup_of_mem hnodup hentry]
        rw [text?_eq_bind] at hfound
        exact hfound
      · rintro ⟨found, hfound, rfl⟩
        cases found with
        | nil => cases hfound
        | cons name below =>
            rw [text?_eq_some_iff, place?_folder_cons, Option.bind_eq_some_iff] at hfound
            obtain ⟨child, hchild, hplace⟩ := hfound
            have hentry := Entries.mem_of_lookup hchild
            refine ⟨(name, child), hentry, (ih _ hentry _).2 ⟨below, ?_, ?_⟩⟩
            · exact text?_eq_some_iff.2 hplace
            · rw [List.append_assoc]
              rfl

end Scaffold.FileTree
