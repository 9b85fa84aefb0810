import Mathlib.Data.List.Infix
import Scaffold.Proofs.Artifact.FileTree
import Scaffold.Proofs.Artifact.Folders
import Scaffold.Proofs.Outcome

/-!
# What a store reaches

A store below a folder accepts the paths that step down and nowhere else.  What it answers depends
only on what lies at the beginnings of the folder's names followed by the names of the path, and
nothing else is different afterwards; above the path there is a folder more at most.
-/

namespace Scaffold

namespace FileTree

/-! ## Changes -/

variable {longest : Option Nat} {overwrite : Bool} {ending : PathEnd} {tree other : FileTree}
  {entries : List (String × FileTree)} {names more : List String} {text : String}

/-- Writing a file leaves alone what does not lie under its own names. -/
theorem place?_writeFile {found : List String} (hne : found ≠ names) :
    (writeFile longest overwrite ending text tree names).2.place? found = tree.place? found := by
  induction names generalizing tree found with
  | nil => rfl
  | cons name names ih =>
      cases tree with
      | file kept => rfl
      | folder entries =>
          cases names with
          | nil =>
              rw [writeFile]
              cases hfault : openFault? longest overwrite ending name (entries.lookup name) with
              | some fault => rfl
              | none =>
                  cases found with
                  | nil => rfl
                  | cons first rest =>
                      rw [place?_put]
                      by_cases heq : first = name
                      · subst heq
                        rw [if_pos rfl, place?_folder_cons]
                        obtain ⟨second, rest, rfl⟩ := List.exists_cons_of_ne_nil
                          fun hrest : rest = [] => hne (by rw [hrest])
                        rcases file_of_openFault?_eq_none hfault with hnone | ⟨kept, hkept⟩
                        · rw [hnone]
                          rfl
                        · rw [hkept]
                          rfl
                      · rw [if_neg heq]
          | cons second rest =>
              rw [writeFile]
              cases hchild : entries.lookup name with
              | none => rfl
              | some child =>
                  cases found with
                  | nil => rfl
                  | cons first others =>
                      rw [place?_put]
                      by_cases heq : first = name
                      · subst heq
                        rw [if_pos rfl, place?_folder_cons, hchild, Option.bind_some]
                        exact ih fun hsame => hne (by rw [hsame])
                      · rw [if_neg heq]

/-! ## Agreement -/

/-- Two trees with the same at every beginning of some names. -/
def AgreesAlong (names : List String) (tree other : FileTree) : Prop :=
  ∀ front, front <+: names → tree.place? front = other.place? front

theorem files_or_folders (h : tree.place = other.place) :
    (∃ text, tree = file text ∧ other = file text) ∨
      ∃ entries others, tree = folder entries ∧ other = folder others := by
  cases tree with
  | file text =>
      cases other with
      | file kept => cases h; exact .inl ⟨text, rfl, rfl⟩
      | folder others => cases h
  | folder entries =>
      cases other with
      | file kept => cases h
      | folder others => exact .inr ⟨entries, others, rfl, rfl⟩

theorem AgreesAlong.place_eq (h : AgreesAlong names tree other) : tree.place = other.place :=
  Option.some.inj (h [] List.nil_prefix)

section Children

variable {name : String} {entries others : List (String × FileTree)}

theorem AgreesAlong.lookup (h : AgreesAlong (name :: names) (folder entries) (folder others)) :
    (entries.lookup name).map place = (others.lookup name).map place := by
  have hchild := h [name] ⟨names, rfl⟩
  rw [place?_folder_cons, place?_folder_cons] at hchild
  simpa [Option.map_eq_bind, Function.comp_def] using hchild

theorem AgreesAlong.child (h : AgreesAlong (name :: names) (folder entries) (folder others)) :
    AgreesAlong names ((entries.lookup name).getD empty) ((others.lookup name).getD empty) := by
  intro front hfront
  by_cases hne : front = []
  · have hplace := h.lookup
    subst hne
    revert hplace
    cases entries.lookup name <;> cases others.lookup name <;> simp
  · rw [place?_getD_empty entries name hne, place?_getD_empty others name hne]
    exact h (name :: front) (List.cons_prefix_cons.2 ⟨rfl, hfront⟩)

theorem AgreesAlong.put {child otherChild : FileTree} (h : AgreesAlong names child otherChild) :
    AgreesAlong (name :: names) (folder (Entries.put name child entries))
      (folder (Entries.put name otherChild others)) := by
  intro front hfront
  cases front with
  | nil => rfl
  | cons first rest =>
      obtain ⟨rfl, hrest⟩ := List.cons_prefix_cons.1 hfront
      rw [place?_put, place?_put, if_pos rfl, if_pos rfl, h rest hrest]

end Children

theorem makeFolders_congr (longest : Option Nat) (h : AgreesAlong (names ++ more) tree other) :
    (makeFolders longest tree names).1 = (makeFolders longest other names).1 ∧
      AgreesAlong (names ++ more) (makeFolders longest tree names).2
        (makeFolders longest other names).2 := by
  induction names generalizing tree other with
  | nil =>
      rcases files_or_folders h.place_eq with ⟨text, rfl, rfl⟩ | ⟨entries, others, rfl, rfl⟩
      · exact ⟨rfl, h⟩
      · exact ⟨rfl, h⟩
  | cons name names ih =>
      rcases files_or_folders h.place_eq with ⟨text, rfl, rfl⟩ | ⟨entries, others, rfl, rfl⟩
      · exact ⟨rfl, h⟩
      · cases hlong : isTooLong longest name with
        | true =>
            rw [makeFolders_cons_of_tooLong hlong, makeFolders_cons_of_tooLong hlong]
            exact ⟨rfl, h⟩
        | false =>
            rw [makeFolders_cons hlong, makeFolders_cons hlong]
            obtain ⟨houtcome, hagree⟩ := ih h.child
            exact ⟨houtcome, hagree.put⟩

/-- Opening a file asks only whether there is a file or a folder in its place. -/
theorem openFault?_congr {found otherFound : Option FileTree} (name : String)
    (h : found.map place = otherFound.map place) :
    openFault? longest overwrite ending name found =
      openFault? longest overwrite ending name otherFound := by
  cases found with
  | none =>
      rw [Option.map_none, eq_comm, Option.map_eq_none_iff] at h
      rw [h]
  | some tree =>
      rw [Option.map_some, eq_comm, Option.map_eq_some_iff] at h
      obtain ⟨other, rfl, hplace⟩ := h
      rcases files_or_folders hplace with ⟨text, rfl, rfl⟩ | ⟨entries, others, rfl, rfl⟩ <;> rfl

theorem writeFile_congr (h : AgreesAlong names tree other) :
    (writeFile longest overwrite ending text tree names).1 =
        (writeFile longest overwrite ending text other names).1 ∧
      AgreesAlong names (writeFile longest overwrite ending text tree names).2
        (writeFile longest overwrite ending text other names).2 := by
  induction names generalizing tree other with
  | nil => exact ⟨rfl, h⟩
  | cons name names ih =>
      rcases files_or_folders h.place_eq with ⟨kept, rfl, rfl⟩ | ⟨entries, others, rfl, rfl⟩
      · exact ⟨rfl, h⟩
      · cases names with
        | nil =>
            rw [writeFile, writeFile, openFault?_congr name h.lookup]
            cases openFault? longest overwrite ending name (others.lookup name) with
            | some fault => exact ⟨rfl, h⟩
            | none => exact ⟨rfl, AgreesAlong.put fun _ _ => rfl⟩
        | cons second rest =>
            rw [writeFile, writeFile]
            have hplace := h.lookup
            have hagree := h.child
            cases hchild : entries.lookup name with
            | none =>
                rw [hchild, Option.map_none, eq_comm, Option.map_eq_none_iff] at hplace
                rw [hplace]
                exact ⟨rfl, h⟩
            | some child =>
                rw [hchild, Option.map_some, eq_comm, Option.map_eq_some_iff] at hplace
                obtain ⟨otherChild, hother, -⟩ := hplace
                rw [hchild, hother] at hagree
                obtain ⟨houtcome, hwritten⟩ := ih hagree
                rw [hother]
                exact ⟨houtcome, hwritten.put⟩

theorem isTaken_eq (tree : FileTree) (path : RelativePath) :
    tree.isTaken path =
      (tree.place? path.names).any fun place => path.ending = .name || place = .folder := by
  unfold isTaken place?
  rcases tree.find? path.names with _ | _ | _ <;> simp [isFolder, place]

/-! ## A store below a folder -/

section Store

open RelativePath (ownNames StepsDown segments ofText?_of_stepsDown ofText?_of_not_stepsDown)

variable {root : List String} {path : String} {artifact : Artifact}

theorem taken_of_not_stepsDown (h : ¬ StepsDown path) (root : List String) (tree : FileTree) :
    taken root path tree = .error (.invalid path .unsafePath) := by
  rw [taken, ofText?_of_not_stepsDown h]

theorem writeWithin_of_not_stepsDown (h : ¬ StepsDown artifact.path) (longest : Option Nat)
    (root : List String) (overwrite : Bool) (tree : FileTree) :
    writeWithin longest root overwrite artifact tree =
      (.error (.invalid artifact.path .unsafePath), tree) := by
  rw [writeWithin, ofText?_of_not_stepsDown h]

theorem taken_congr (h : AgreesAlong (root ++ ownNames path) tree other) :
    taken root path tree = taken root path other := by
  by_cases hdown : StepsDown path
  · rw [taken, taken, ofText?_of_stepsDown hdown]
    simp only [isTaken_eq, h _ (List.prefix_refl _)]
  · rw [taken_of_not_stepsDown hdown, taken_of_not_stepsDown hdown]

theorem writeWithin_congr (h : AgreesAlong (root ++ ownNames artifact.path) tree other) :
    let written := writeWithin longest root overwrite artifact
    (written tree).1 = (written other).1 ∧
      AgreesAlong (root ++ ownNames artifact.path) (written tree).2 (written other).2 := by
  intro written
  unfold written
  by_cases hdown : StepsDown artifact.path
  · have haccepted := ofText?_of_stepsDown hdown
    rw [writeWithin_of_accepted haccepted, writeWithin_of_accepted haccepted]
    dsimp only
    generalize root ++ ownNames artifact.path = names at h ⊢
    by_cases hnul : names.dropLast.any hasNul = true
    · rw [if_pos hnul, if_pos hnul]
      exact ⟨rfl, h⟩
    · rw [if_neg hnul, if_neg hnul]
      obtain ⟨last, hlast⟩ := List.dropLast_prefix names
      obtain ⟨hfolders, hmade⟩ := makeFolders_congr longest (hlast.symm ▸ h)
      rw [hlast] at hmade
      rw [hfolders]
      cases (makeFolders longest other names.dropLast).1 with
      | error fault => exact ⟨rfl, hmade⟩
      | ok done =>
          obtain ⟨houtcome, hwritten⟩ := writeFile_congr hmade
          exact ⟨congrArg (Except.mapError _) houtcome, hwritten⟩
  · rw [writeWithin_of_not_stepsDown hdown, writeWithin_of_not_stepsDown hdown]
    exact ⟨rfl, h⟩

/-- An artifact is written under its names, with folders made in front of it. -/
theorem place?_writeWithin_cases (longest : Option Nat) (root : List String) (overwrite : Bool)
    (artifact : Artifact) (tree : FileTree) (found : List String) :
    let after := (writeWithin longest root overwrite artifact tree).2
    let names := root ++ ownNames artifact.path
    after.place? found = tree.place? found ∨ found = names ∨
      found <+: names ∧ tree.place? found = none ∧ after.place? found = some .folder := by
  intro after names
  unfold after
  by_cases hdown : StepsDown artifact.path
  · rw [writeWithin_of_accepted (ofText?_of_stepsDown hdown)]
    have hmade := place?_makeFolders_cases longest tree names.dropLast found
    replace hmade := hmade.imp_right (And.imp_left fun h => h.trans (List.dropLast_prefix names))
    dsimp only
    by_cases hnul : names.dropLast.any hasNul = true
    · rw [if_pos hnul]
      exact .inl rfl
    · rw [if_neg hnul]
      cases (makeFolders longest tree names.dropLast).1 with
      | error fault => exact hmade.imp_right .inr
      | ok done =>
          by_cases hfound : found = names
          · exact .inr (.inl hfound)
          · dsimp only
            rw [place?_writeFile hfound]
            exact hmade.imp_right .inr
  · rw [writeWithin_of_not_stepsDown hdown]
    exact .inl rfl

/-- A beginning of the names of a file below a folder leads to the folder, above it or below it. -/
theorem prefix_above_or_below {found root names : List String} (h : found <+: root ++ names) :
    found <+: root ∨ ∃ below, below ≠ [] ∧ below <+: names ∧ found = root ++ below := by
  by_cases habove : found <+: root
  · exact .inl habove
  · have hprefixes := List.prefix_or_prefix_of_prefix h (List.prefix_append root names)
    obtain ⟨below, rfl⟩ := hprefixes.resolve_left habove
    refine .inr ⟨below, ?_, (List.prefix_append_right_inj root).1 h, rfl⟩
    rintro rfl
    rw [List.append_nil] at habove
    exact habove (List.prefix_refl root)

/-- A store below a folder accepts the paths that step down and refuses all others without a look.
What it answers and leaves depends on the folder, what is above it, and what lies along the names of
the path below it; and nothing else changes, save that folders down to its own are made. -/
theorem store_stays_below_root (longest : Option Nat) (root : List String) (path : String) :
    let store := storeWithin longest root
    let reached := root ++ ownNames path
    ((RelativePath.ofText? path).isSome = true ↔
      path ≠ "" ∧ path.toList.head? ≠ some '/' ∧ (segments path).head? ≠ some "." ∧
        ".." ∉ segments path) ∧
    (∀ tree, (runOn (store.taken path) tree).2 = tree) ∧
    (RelativePath.ofText? path = none → ∀ overwrite text tree,
      (runOn (store.taken path) tree).1 = .error (.invalid path .unsafePath) ∧
        runOn (store.write overwrite ⟨path, text⟩) tree =
          (.error (.invalid path .unsafePath), tree)) ∧
    ∀ overwrite text tree,
      let after := fun tree => runOn (store.write overwrite ⟨path, text⟩) tree
      (∀ other, AgreesAlong reached tree other →
        (runOn (store.taken path) tree).1 = (runOn (store.taken path) other).1 ∧
          (after tree).1 = (after other).1 ∧ AgreesAlong reached (after tree).2 (after other).2) ∧
      ∀ found, (after tree).2.place? found ≠ tree.place? found →
        (found <+: root ∧ tree.place? found = none ∧ (after tree).2.place? found = some .folder) ∨
          ∃ below, below ≠ [] ∧ below <+: ownNames path ∧ found = root ++ below := by
  intro store reached
  have hdown : StepsDown path ↔ (RelativePath.ofText? path).isSome = true := by
    rw [Option.isSome_iff_exists]
    simp only [RelativePath.ofText?_eq_some_iff, exists_and_left, exists_eq, and_true]
  refine ⟨?_, fun tree => rfl, fun hrefused overwrite text tree => ?_,
    fun overwrite text tree => ?_⟩
  · rw [← hdown]
    exact ⟨fun h => ⟨h.ne_empty, h.not_absolute, h.not_here, h.not_up⟩,
      fun ⟨hempty, habsolute, hhere, hup⟩ => ⟨hempty, habsolute, hhere, hup⟩⟩
  · have hnot : ¬ StepsDown path := by
      rw [hdown, hrefused]
      exact Bool.false_ne_true
    exact ⟨taken_of_not_stepsDown hnot root tree,
      writeWithin_of_not_stepsDown hnot longest root overwrite tree⟩
  · intro after
    refine ⟨fun other h => ⟨taken_congr h, writeWithin_congr h⟩, fun found hchanged => ?_⟩
    have haccepted : StepsDown path := by
      by_contra hnot
      exact hchanged (congrArg (fun outcome => outcome.2.place? found)
        (writeWithin_of_not_stepsDown hnot longest root overwrite tree))
    have hcases := place?_writeWithin_cases longest root overwrite ⟨path, text⟩ tree found
    rcases hcases.resolve_left hchanged with hown | ⟨hfront, hmade⟩
    · exact .inr ⟨ownNames path, haccepted.ownNames_ne_nil, List.prefix_refl _, hown⟩
    · exact (prefix_above_or_below hfront).imp_left fun h => ⟨h, hmade⟩

/-- A tree with a file that no artifact may replace. -/
def ofPasswords : FileTree :=
  .folder [("etc", .folder [("passwd", .file "root")])]

theorem notes_stay_below_srv :
    let store := storeWithin none ["srv"]
    let after := fun tree => runOn (store.write true ⟨"a/.//notes.txt", "new"⟩) tree
    RelativePath.ofText? "a/../../etc/passwd" = none ∧
      runOn (store.write true ⟨"a/../../etc/passwd", ""⟩) ofPasswords =
        (.error (.invalid "a/../../etc/passwd" .unsafePath), ofPasswords) ∧
      AgreesAlong (["srv"] ++ ownNames "a/.//notes.txt") empty ofPasswords ∧
      (after empty).1 = (after ofPasswords).1 ∧
      (after empty).2.place? ["srv", "a"] ≠ empty.place? ["srv", "a"] ∧
      (["srv", "a"] <+: ["srv"] ∧ empty.place? ["srv", "a"] = none ∧
          (after empty).2.place? ["srv", "a"] = some .folder ∨
        ∃ below, below ≠ [] ∧ below <+: ownNames "a/.//notes.txt" ∧
          ["srv", "a"] = ["srv"] ++ below) := by
  intro store after
  have hrefused : RelativePath.ofText? "a/../../etc/passwd" = none := by decide +kernel
  have hagree : AgreesAlong (["srv"] ++ ownNames "a/.//notes.txt") empty ofPasswords := by
    intro front hfront
    cases front with
    | nil => rfl
    | cons name rest =>
        obtain ⟨rfl, -⟩ := List.cons_prefix_cons.1 hfront
        rfl
  have hchanged : (after empty).2.place? ["srv", "a"] ≠ empty.place? ["srv", "a"] := by
    decide +kernel
  obtain ⟨-, -, hrefusal, -⟩ := store_stays_below_root none ["srv"] "a/../../etc/passwd"
  obtain ⟨-, -, -, hwrites⟩ := store_stays_below_root none ["srv"] "a/.//notes.txt"
  obtain ⟨hsame, hchanges⟩ := hwrites true "new" empty
  exact ⟨hrefused, (hrefusal hrefused true "" ofPasswords).2, hagree,
    (hsame ofPasswords hagree).2.1, hchanged, hchanges ["srv", "a"] hchanged⟩

end Store

end FileTree

end Scaffold
