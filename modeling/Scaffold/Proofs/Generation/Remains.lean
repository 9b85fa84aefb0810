import Mathlib.Data.List.TakeWhile
import Scaffold.Proofs.Artifact.Disk
import Scaffold.Proofs.Generation.DryRun
import Scaffold.Proofs.Generation.Order

/-!
# What a failure leaves on a disk

The paths of an endpoint are looked up before its first file is written, but nothing looks for a
file in the place of a folder, nor, with leave to overwrite, for a folder in the place of a file.
The files in front of the first one that is obstructed so are written and stay.
-/

namespace Scaffold

open RelativePath (namesOf)

namespace FileTree

variable {longest : Option Nat} {overwrite : Bool} {tree after : FileTree}
  {path other text : String} {artifacts : List Artifact}

/-- Two trees with the same files. -/
def SameFiles (tree other : FileTree) : Prop :=
  ∀ names, tree.text? names = other.text? names

/-- The text that the first of some artifacts has under a list of names. -/
def textAt? (artifacts : List Artifact) (names : List String) : Option String :=
  (artifacts.find? fun artifact => namesOf artifact.path = names).map Artifact.text

/-- The artifacts in front of the first one that something is in the way of. -/
def reached (tree : FileTree) (artifacts : List Artifact) : List Artifact :=
  artifacts.takeWhile fun artifact => !tree.isObstructed (namesOf artifact.path)

/-- The artifacts that are written: none if a path is taken that may not be overwritten. -/
def written (tree : FileTree) (overwrite : Bool) (artifacts : List Artifact) : List Artifact :=
  if !overwrite && (artifacts.map Artifact.path).any tree.hasPath then []
  else tree.reached artifacts

theorem textAt?_nil (names : List String) : textAt? [] names = none := rfl

theorem textAt?_cons (artifact : Artifact) (artifacts : List Artifact) (names : List String) :
    textAt? (artifact :: artifacts) names =
      if namesOf artifact.path = names then some artifact.text else textAt? artifacts names := by
  rw [textAt?, List.find?_cons]
  by_cases h : namesOf artifact.path = names
  · rw [if_pos h, decide_eq_true h]
    rfl
  · rw [if_neg h, decide_eq_false h]
    rfl

theorem textAt?_eq_none {names : List String}
    (h : ∀ artifact ∈ artifacts, namesOf artifact.path ≠ names) :
    textAt? artifacts names = none := by
  rw [textAt?, List.find?_eq_none.2 fun artifact hartifact => by simpa using h artifact hartifact]
  rfl

theorem exists_of_textAt? {names : List String} (h : textAt? artifacts names = some text) :
    ∃ artifact ∈ artifacts, namesOf artifact.path = names ∧ artifact.text = text := by
  obtain ⟨artifact, hfound, htext⟩ := Option.map_eq_some_iff.1 h
  have hnames := List.find?_some hfound
  exact ⟨artifact, List.mem_of_find?_eq_some hfound, of_decide_eq_true hnames, htext⟩

theorem textAt?_of_mem (hdistinct : (artifacts.map Artifact.path).Nodup)
    (hpaths : ∀ artifact ∈ artifacts, IsArtifactPath artifact.path) {artifact : Artifact}
    (hartifact : artifact ∈ artifacts) :
    textAt? artifacts (namesOf artifact.path) = some artifact.text := by
  cases hfound : textAt? artifacts (namesOf artifact.path) with
  | none =>
      rw [textAt?, Option.map_eq_none_iff, List.find?_eq_none] at hfound
      exact absurd (decide_eq_true rfl) (hfound artifact hartifact)
  | some text =>
      obtain ⟨found, hmem, hnames, rfl⟩ := exists_of_textAt? hfound
      have hpath := (hpaths found hmem).eq_of_namesOf_eq (hpaths artifact hartifact) hnames
      rw [List.inj_on_of_nodup_map hdistinct hmem hartifact hpath]

theorem reached_cons_of_obstructed {artifact : Artifact}
    (h : tree.isObstructed (namesOf artifact.path) = true) (artifacts : List Artifact) :
    tree.reached (artifact :: artifacts) = [] := by
  rw [reached, List.takeWhile_cons_of_neg]
  simp [h]

theorem reached_cons_of_clear {artifact : Artifact}
    (h : tree.isObstructed (namesOf artifact.path) = false) (artifacts : List Artifact) :
    tree.reached (artifact :: artifacts) = artifact :: tree.reached artifacts := by
  rw [reached, List.takeWhile_cons_of_pos (by simp [h]), reached]

theorem reached_sublist (tree : FileTree) (artifacts : List Artifact) :
    (tree.reached artifacts).Sublist artifacts :=
  List.takeWhile_sublist _

theorem reached_eq_self (h : ∀ artifact ∈ artifacts,
      tree.isObstructed (namesOf artifact.path) = false) : tree.reached artifacts = artifacts := by
  rw [reached, List.takeWhile_eq_self_iff]
  intro artifact hartifact
  rw [h artifact hartifact, Bool.not_false]

theorem reached_congr (h : ∀ artifact ∈ artifacts,
      after.isObstructed (namesOf artifact.path) = tree.isObstructed (namesOf artifact.path)) :
    after.reached artifacts = tree.reached artifacts := by
  induction artifacts with
  | nil => rfl
  | cons artifact artifacts ih =>
      obtain ⟨hfirst, hrest⟩ := List.forall_mem_cons.1 h
      cases hobstructed : tree.isObstructed (namesOf artifact.path) with
      | true =>
          rw [reached_cons_of_obstructed hobstructed,
            reached_cons_of_obstructed (hfirst.trans hobstructed)]
      | false =>
          rw [reached_cons_of_clear hobstructed, reached_cons_of_clear (hfirst.trans hobstructed),
            ih hrest]

/-! ## Writing one artifact after another -/

/-- What is written for one artifact is not in the way of another one. -/
theorem Gained.isObstructed_eq (h : tree.Gained after (namesOf path) text)
    (hclear : tree.isObstructed (namesOf path) = false) (hpath : IsArtifactPath path)
    (hother : IsArtifactPath other) (hne : namesOf other ≠ namesOf path) :
    after.isObstructed (namesOf other) = tree.isObstructed (namesOf other) := by
  obtain ⟨folders, name, hleads⟩ := hpath.exists_leadsTo
  obtain ⟨otherFolders, otherName, hotherLeads⟩ := hother.exists_leadsTo
  -- A file has a point in its name and no folder has one, so neither path leads through the other.
  have hfronts : ∀ front, front <+: otherFolders → after.text? front = tree.text? front := by
    intro front hfront
    rw [h.text?_eq hclear, if_neg]
    rintro rfl
    refine hotherLeads.folders_plain name (hfront.subset ?_) hleads.point_mem
    rw [hleads.namesOf_eq]
    exact List.mem_append_right _ List.mem_cons_self
  have hplace : after.place? (namesOf other) = tree.place? (namesOf other) := by
    rw [h (namesOf other), if_neg hne, if_neg]
    intro hfront
    rw [hleads.namesOf_eq, List.dropLast_concat] at hfront
    refine hleads.folders_plain otherName (hfront.subset ?_) hotherLeads.point_mem
    rw [hotherLeads.namesOf_eq]
    exact List.mem_append_right _ List.mem_cons_self
  have hiff : after.isObstructed (namesOf other) = false ↔
      tree.isObstructed (namesOf other) = false := by
    rw [hotherLeads.namesOf_eq] at hplace ⊢
    rw [isObstructed_concat_eq_false_iff, isObstructed_concat_eq_false_iff, hplace]
    refine and_congr_left fun _ => forall₂_congr fun front hfront => ?_
    rw [hfronts front hfront]
  rw [Bool.eq_iff_iff, ← not_iff_not, Bool.not_eq_true, Bool.not_eq_true]
  exact hiff

/-- The artifacts that follow a written one find what they would have found before. -/
theorem Gained.reached_eq (h : tree.Gained after (namesOf path) text)
    (hclear : tree.isObstructed (namesOf path) = false) (hpath : IsArtifactPath path)
    (hpaths : ∀ artifact ∈ artifacts, IsArtifactPath artifact.path)
    (hne : ∀ artifact ∈ artifacts, namesOf artifact.path ≠ namesOf path) :
    after.reached artifacts = tree.reached artifacts :=
  reached_congr fun artifact hartifact =>
    h.isObstructed_eq hclear hpath (hpaths artifact hartifact) (hne artifact hartifact)

/-- A written artifact stands in front of what the following ones leave. -/
theorem Gained.textAt?_reached (h : tree.Gained after (namesOf path) text)
    (hclear : tree.isObstructed (namesOf path) = false)
    (hne : ∀ artifact ∈ artifacts, namesOf artifact.path ≠ namesOf path) (names : List String) :
    (textAt? (tree.reached artifacts) names).or (after.text? names) =
      (textAt? (⟨path, text⟩ :: tree.reached artifacts) names).or (tree.text? names) := by
  rw [h.text?_eq hclear, textAt?_cons]
  by_cases hsame : namesOf path = names
  · have hlater : textAt? (tree.reached artifacts) names = none :=
      textAt?_eq_none fun later hlater => hsame ▸
        hne later ((tree.reached_sublist artifacts).subset hlater)
    rw [hlater, if_pos hsame, if_pos hsame.symm]
    rfl
  · rw [if_neg hsame, if_neg (Ne.symm hsame)]

/-- The artifacts are written up to the first one that something is in the way of. -/
theorem runOn_writeAll (hpaths : ∀ artifact ∈ artifacts, IsArtifactPath artifact.path)
    (hfits : ∀ artifact ∈ artifacts, Fits longest artifact.path)
    (hdistinct : (artifacts.map Artifact.path).Nodup)
    (hfree : overwrite = true ∨ ∀ artifact ∈ artifacts, tree.text? (namesOf artifact.path) = none) :
    let run := runOn ((storeWithin longest []).writeAll overwrite artifacts) tree
    (run.1 = .ok () ↔ tree.reached artifacts = artifacts) ∧
      ∀ names, run.2.text? names =
        (textAt? (tree.reached artifacts) names).or (tree.text? names) := by
  -- What is left to write meets a tree with the written files in it, so the tree is general.
  induction artifacts generalizing tree with
  | nil => exact ⟨⟨fun _ => rfl, fun _ => rfl⟩, fun _ => rfl⟩
  | cons artifact artifacts ih =>
      obtain ⟨hpath, hrestPaths⟩ := List.forall_mem_cons.1 hpaths
      obtain ⟨hfirstFits, hrestFits⟩ := List.forall_mem_cons.1 hfits
      rw [List.map_cons, List.nodup_cons] at hdistinct
      obtain ⟨folders, name, hleads⟩ := hpath.exists_leadsTo
      have hrun : runOn ((storeWithin longest []).write overwrite artifact) tree =
          writeWithin longest [] overwrite artifact tree := runOn_write _ _ _ _
      rw [Store.writeAll]
      cases hobstructed : tree.isObstructed (namesOf artifact.path) with
      | true =>
          cases houtcome : (writeWithin longest [] overwrite artifact tree).1 with
          | ok done =>
              have hclear := isObstructed_eq_false_of_written hleads houtcome
              rw [hobstructed] at hclear
              cases hclear
          | error failure =>
              rw [runOn_bind_of_error (hrun ▸ houtcome), hrun,
                reached_cons_of_obstructed hobstructed]
              refine ⟨iff_of_false (by simp) (by simp), fun names => ?_⟩
              rw [textAt?_nil, Option.none_or]
              exact text?_writeWithin_of_error hleads houtcome names
      | false =>
          have hkept : overwrite = true ∨ tree.text? (namesOf artifact.path) = none :=
            hfree.imp_right fun hall => hall _ List.mem_cons_self
          obtain ⟨hok, hgained⟩ := writeWithin_of_free hleads hfirstFits hobstructed hkept
          rw [runOn_bind_of_ok (hrun ▸ hok), hrun]
          generalize (writeWithin longest [] overwrite artifact tree).2 = between at hgained ⊢
          have hnames : ∀ later ∈ artifacts, namesOf later.path ≠ namesOf artifact.path := by
            intro later hlater heq
            have hsame := (hrestPaths later hlater).eq_of_namesOf_eq hpath heq
            exact hdistinct.1 (hsame ▸ List.mem_map_of_mem hlater)
          have hrestFree : overwrite = true ∨
              ∀ later ∈ artifacts, between.text? (namesOf later.path) = none := by
            refine hfree.imp_right fun hall later hlater => ?_
            rw [hgained.text?_eq hobstructed, if_neg (hnames later hlater)]
            exact hall later (List.mem_cons_of_mem _ hlater)
          obtain ⟨hall, htexts⟩ := ih hrestPaths hrestFits hdistinct.2 hrestFree
          rw [hgained.reached_eq hobstructed hpath hrestPaths hnames] at hall htexts
          rw [reached_cons_of_clear hobstructed]
          refine ⟨?_, fun names => ?_⟩
          · rw [hall, List.cons.injEq, and_iff_right rfl]
          · rw [htexts, hgained.textAt?_reached hobstructed hnames]

/-! ## Checking before writing -/

theorem text?_of_hasPath_eq_false (h : tree.hasPath path = false) :
    tree.text? (namesOf path) = none := by
  rw [hasPath, Option.isSome_eq_false_iff, Option.isNone_iff_eq_none] at h
  rw [text?_eq_bind, h]
  rfl

theorem written_of_taken (hpath : path ∈ artifacts.map Artifact.path)
    (htaken : tree.hasPath path = true) : tree.written false artifacts = [] := by
  rw [written, if_pos]
  rw [Bool.not_false, Bool.true_and, List.any_eq_true]
  exact ⟨path, hpath, htaken⟩

theorem written_of_free (h : ∀ path ∈ artifacts.map Artifact.path, tree.hasPath path = false) :
    tree.written false artifacts = tree.reached artifacts := by
  rw [written, if_neg]
  rw [Bool.not_false, Bool.true_and, Bool.not_eq_true, List.any_eq_false]
  exact fun path hpath => by rw [h path hpath, Bool.not_eq_true]

theorem written_sublist (tree : FileTree) (overwrite : Bool) (artifacts : List Artifact) :
    (tree.written overwrite artifacts).Sublist artifacts := by
  rw [written]
  split
  · exact List.nil_sublist artifacts
  · exact tree.reached_sublist artifacts

theorem runOn_save (hpaths : ∀ artifact ∈ artifacts, IsArtifactPath artifact.path)
    (hfits : ∀ artifact ∈ artifacts, Fits longest artifact.path)
    (hdistinct : (artifacts.map Artifact.path).Nodup) :
    let run := runOn ((storeWithin longest []).save overwrite artifacts) tree
    (run.1 = .ok () ↔ tree.written overwrite artifacts = artifacts) ∧
      ∀ names, run.2.text? names =
        (textAt? (tree.written overwrite artifacts) names).or (tree.text? names) := by
  cases overwrite with
  | true => exact runOn_writeAll hpaths hfits hdistinct (.inl rfl)
  | false =>
      have htaken : ∀ artifact ∈ artifacts,
          runOn ((storeWithin longest []).taken artifact.path) tree =
            (.ok (tree.hasPath artifact.path), tree) := by
        intro artifact hartifact
        obtain ⟨folders, name, hleads⟩ := (hpaths artifact hartifact).exists_leadsTo
        exact runOn_taken hleads longest tree
      have hcheck := Store.runOn_checkFree htaken
      have hsave : (storeWithin longest []).save false artifacts = (do
          (storeWithin longest []).checkFree artifacts
          (storeWithin longest []).writeAll false artifacts) := rfl
      rw [hsave]
      cases hfound : (artifacts.map Artifact.path).find? tree.hasPath with
      | some path =>
          rw [hfound] at hcheck
          have hwritten : tree.written false artifacts = [] :=
            written_of_taken (List.mem_of_find?_eq_some hfound) (List.find?_some hfound)
          rw [runOn_bind_of_error (congrArg Prod.fst hcheck), hcheck, hwritten]
          refine ⟨⟨nofun, ?_⟩, fun names => rfl⟩
          rintro rfl
          cases hfound
      | none =>
          rw [hfound] at hcheck
          have hnone : ∀ path ∈ artifacts.map Artifact.path, tree.hasPath path = false :=
            fun path hpath => Bool.eq_false_of_not_eq_true (List.find?_eq_none.1 hfound path hpath)
          have hfree : ∀ artifact ∈ artifacts, tree.text? (namesOf artifact.path) = none :=
            fun artifact hartifact =>
              text?_of_hasPath_eq_false (hnone _ (List.mem_map_of_mem hartifact))
          rw [runOn_bind_of_ok (congrArg Prod.fst hcheck), hcheck, written_of_free hnone]
          exact runOn_writeAll hpaths hfits hdistinct (.inr hfree)

/-- Files that are written change nothing if they were there with the same texts. -/
theorem sameFiles_iff {left : List Artifact}
    (htexts : ∀ names, after.text? names = (textAt? left names).or (tree.text? names))
    (hdistinct : (left.map Artifact.path).Nodup)
    (hpaths : ∀ artifact ∈ left, IsArtifactPath artifact.path) :
    after.SameFiles tree ↔
      ∀ artifact ∈ left, tree.text? (namesOf artifact.path) = some artifact.text := by
  constructor
  · intro hsame artifact hartifact
    rw [← hsame, htexts, textAt?_of_mem hdistinct hpaths hartifact]
    rfl
  · intro hthere names
    rw [htexts]
    cases hfound : textAt? left names with
    | none => rw [Option.none_or]
    | some text =>
        obtain ⟨artifact, hartifact, rfl, rfl⟩ := exists_of_textAt? hfound
        rw [hthere artifact hartifact]
        rfl

end FileTree

namespace Generator

open FileTree (textAt? storeWithin Fits)

variable {generator : Generator} {endpoint : Endpoint} {tree : FileTree} {longest : Option Nat}
  {artifacts : List Artifact}

/-- The artifacts of an endpoint that are written into a tree. -/
def writtenInto (generator : Generator) (tree : FileTree) (endpoint : Endpoint) : List Artifact :=
  tree.written endpoint.overwrite (generator.rendered endpoint)

theorem rendered_of_error {failure : Failure} (h : generator.render endpoint = .error failure) :
    generator.rendered endpoint = [] := by
  rw [rendered, h]
  rfl

theorem writtenInto_of_render (h : generator.render endpoint = .ok artifacts)
    (tree : FileTree) : generator.writtenInto tree endpoint =
      tree.written endpoint.overwrite artifacts := by
  rw [writtenInto, rendered_of_render h]

theorem writtenInto_of_error {failure : Failure} (h : generator.render endpoint = .error failure)
    (tree : FileTree) : generator.writtenInto tree endpoint = [] := by
  have hsublist := tree.written_sublist endpoint.overwrite (generator.rendered endpoint)
  rw [rendered_of_error h, List.sublist_nil] at hsublist
  rw [writtenInto, rendered_of_error h, hsublist]

theorem text?_generate (hfits : ∀ artifacts, generator.render endpoint = .ok artifacts →
      ∀ artifact ∈ artifacts, Fits longest artifact.path) (names : List String) :
    (runOn (generator.generate (storeWithin longest []) endpoint) tree).2.text? names =
      (textAt? (generator.writtenInto tree endpoint) names).or (tree.text? names) := by
  rw [runOn_generate_save]
  cases hrender : generator.render endpoint with
  | error failure =>
      rw [writtenInto_of_error hrender]
      rfl
  | ok artifacts =>
      obtain ⟨-, htexts⟩ := FileTree.runOn_save
        (fun _ => isArtifactPath_of_render hrender) (hfits artifacts hrender)
        (nodup_paths_of_render hrender)
      rw [writtenInto_of_render hrender, ← htexts names]
      simp only
      rcases runOn ((storeWithin longest []).save endpoint.overwrite artifacts) tree with
        ⟨outcome, left⟩
      cases outcome <;> rfl

/-- An endpoint that fails though it renders has not written all of its files. -/
theorem writtenInto_ne_of_error (hfits : ∀ artifacts, generator.render endpoint = .ok artifacts →
      ∀ artifact ∈ artifacts, Fits longest artifact.path)
    (hrender : generator.render endpoint = .ok artifacts) {failure : Failure}
    (h : (runOn (generator.generate (storeWithin longest []) endpoint) tree).1 = .error failure) :
    generator.writtenInto tree endpoint ≠ artifacts := by
  intro hall
  obtain ⟨hsaved, -⟩ := FileTree.runOn_save
    (fun _ => isArtifactPath_of_render hrender) (hfits artifacts hrender)
    (nodup_paths_of_render hrender)
  rw [writtenInto_of_render hrender] at hall
  rw [runOn_generate_save, hrender] at h
  have hok := hsaved.2 hall
  simp only at h
  rcases hrun : runOn ((storeWithin longest []).save endpoint.overwrite artifacts) tree with
    ⟨outcome, left⟩
  rw [hrun] at h hok
  rw [show outcome = .ok () from hok] at h
  cases h

/-- Where nothing is in the way of an endpoint, all of its files are written or none. -/
theorem writtenInto_of_clear (hclear : ∀ path ∈ generator.targets endpoint,
      tree.isObstructed (namesOf path) = false) :
    generator.writtenInto tree endpoint = [] ∨
      generator.writtenInto tree endpoint = generator.rendered endpoint := by
  rw [writtenInto, FileTree.written]
  split
  · exact .inl rfl
  · exact .inr (FileTree.reached_eq_self fun artifact hartifact =>
      hclear _ (List.mem_map_of_mem hartifact))

/-- An endpoint that fails leaves the files in front of the first one that is obstructed, if no path
was found to be taken, and no others.  So it changes nothing only if these files were there before
with the same texts, as it is where nothing is in the way of any of them. -/
theorem failure_leaves_files_in_front {failure : Failure}
    (h : (runOn (generator.generate (storeWithin none []) endpoint) tree).1 = .error failure) :
    let after := (runOn (generator.generate (storeWithin none []) endpoint) tree).2
    let left := generator.writtenInto tree endpoint
    (∀ names, after.text? names = (textAt? left names).or (tree.text? names)) ∧
      (after.SameFiles tree ↔
        ∀ artifact ∈ left, tree.text? (namesOf artifact.path) = some artifact.text) ∧
      ((∀ path ∈ generator.targets endpoint, tree.isObstructed (namesOf path) = false) →
        after.SameFiles tree) := by
  intro after left
  have hfits : ∀ artifacts, generator.render endpoint = .ok artifacts →
      ∀ artifact ∈ artifacts, Fits none artifact.path :=
    fun _ _ artifact _ => FileTree.fits_none artifact.path
  have htexts : ∀ names, after.text? names = (textAt? left names).or (tree.text? names) :=
    text?_generate hfits
  refine ⟨htexts, ?_, fun hclear => ?_⟩
  · cases hrender : generator.render endpoint with
    | error failure =>
        have hleft : left = [] := writtenInto_of_error hrender tree
        rw [hleft] at htexts ⊢
        exact FileTree.sameFiles_iff htexts .nil (List.forall_mem_nil _)
    | ok artifacts =>
        have hsublist : left.Sublist artifacts := by
          have hwritten := tree.written_sublist endpoint.overwrite artifacts
          rwa [← writtenInto_of_render hrender] at hwritten
        exact FileTree.sameFiles_iff htexts
          ((nodup_paths_of_render hrender).sublist (hsublist.map Artifact.path))
          fun artifact hartifact => isArtifactPath_of_render hrender (hsublist.subset hartifact)
  · have hleft : left = [] := by
      rcases writtenInto_of_clear hclear with hnone | hall
      · exact hnone
      · cases hrender : generator.render endpoint with
        | error failure => exact writtenInto_of_error hrender tree
        | ok artifacts =>
            rw [rendered_of_render hrender] at hall
            exact absurd hall (writtenInto_ne_of_error hfits hrender h)
    intro names
    rw [htexts, hleft]
    rfl

/-- A generator of a definition and a service for one table. -/
def ofTwoFiles : Generator where
  schema := ofOneTable.schema
  catalog := ofOneTable.catalog.insert .get ⟨"service.get", .service, "code"⟩
  naming := {}

/-- A file stands where the folder of the definitions would be, and nothing is left. -/
theorem first_file_is_obstructed :
    let tree : FileTree := .folder [("backend", .file "kept")]
    let endpoint := Endpoint.ofTable .mysql "d" "t" .get
    let answer := runOn (ofTwoFiles.generate (storeWithin none []) endpoint) tree
    answer.1.mapError Failure.message =
        .error "Failed to write output: Not a directory (os error 20)" ∧
      answer.2.SameFiles tree := by
  intro tree endpoint answer
  have hmessage : answer.1.mapError Failure.message =
      .error "Failed to write output: Not a directory (os error 20)" := by
    decide +kernel
  obtain ⟨failure, hfailure, -⟩ := exists_of_mapError_eq_error hmessage
  have hleft : ofTwoFiles.writtenInto tree endpoint = [] := by
    decide +kernel
  refine ⟨hmessage, (failure_leaves_files_in_front hfailure).2.1.2 ?_⟩
  rw [hleft]
  exact List.forall_mem_nil _

/-- A file stands where the folder of the client's files would be, and the definition is left. -/
theorem second_file_is_obstructed :
    let tree : FileTree := .folder [("frontend", .file "kept")]
    let endpoint := Endpoint.ofTable .mysql "d" "t" .get
    let answer := runOn (ofTwoFiles.generate (storeWithin none []) endpoint) tree
    answer.1.mapError Failure.message =
        .error "Failed to write output: Not a directory (os error 20)" ∧
      tree.files [] = [("frontend", "kept")] ∧
      answer.2.files [] = [("backend/d/t.get.endpoint.yaml", "text"), ("frontend", "kept")] := by
  decide +kernel

end Generator

end Scaffold
