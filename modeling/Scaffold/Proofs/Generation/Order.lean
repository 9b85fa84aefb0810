import Mathlib.Data.List.Find
import Mathlib.Data.List.Lattice
import Scaffold.Proofs.Generation.Writes

/-!
# Endpoints in any order

What becomes of an endpoint depends on the paths of its own artifacts only, and it writes to no
others.  Endpoints that share no path therefore do not notice each other: in whatever order they
come, each meets with the outcome it has alone, and the shelf ends up the same.
-/

namespace Scaffold

theorem Shelf.conflict?_congr {shelf other : Shelf} {artifacts : List Artifact}
    (h : ∀ path ∈ artifacts.map Artifact.path, shelf.get? path = other.get? path)
    (overwrite : Bool) : shelf.conflict? overwrite artifacts = other.conflict? overwrite artifacts := by
  rw [conflict?, conflict?]
  have hfind : (artifacts.map Artifact.path).find? (fun path => (shelf.get? path).isSome) =
      (artifacts.map Artifact.path).find? fun path => (other.get? path).isSome :=
    List.find?_congr fun path hpath => by rw [h path hpath]
  rw [hfind]

/-- Blocks of artifacts without a common path may be put on a shelf in any order. -/
theorem Shelf.putAll_flatMap_perm {α : Type} {f : α → List Artifact} {as bs : List α}
    (h : as.Perm bs)
    (hapart : as.Pairwise fun a b =>
      ((f a).map Artifact.path).Disjoint ((f b).map Artifact.path)) (shelf : Shelf) :
    shelf.putAll (as.flatMap f) = shelf.putAll (bs.flatMap f) := by
  induction h generalizing shelf with
  | nil => rfl
  | cons a _ ih =>
      rw [List.flatMap_cons, List.flatMap_cons, putAll_append, putAll_append,
        ih (List.pairwise_cons.1 hapart).2]
  | swap a b rest =>
      have hdisjoint := (List.pairwise_cons.1 hapart).1 a List.mem_cons_self
      simp only [List.flatMap_cons, putAll_append]
      rw [putAll_comm hdisjoint]
  | trans hfirst _ ih ihsecond =>
      rw [ih hapart, ihsecond (hfirst.pairwise hapart fun hab => hab.symm)]

theorem Batch.lines_ofAttempts_perm {attempts others : List Attempt} (h : attempts.Perm others) :
    (Batch.ofAttempts attempts).lines = (Batch.ofAttempts others).lines := by
  have hlines : ∀ attempts : List Attempt, (Batch.ofAttempts attempts).lines =
      ((attempts.filterMap Attempt.generated?).map Generated.lines).sum := by
    intro attempts
    rw [List.sum_eq_foldr, List.foldr_map]
    rfl
  rw [hlines, hlines]
  exact ((h.filterMap _).map _).sum_nat

namespace Generator

variable {generator : Generator} {endpoint : Endpoint} {endpoints order : List Endpoint}
  {shelf other : Shelf}

/-- The paths of the artifacts an endpoint renders to; none if it fails to. -/
def targets (generator : Generator) (endpoint : Endpoint) : List String :=
  (generator.rendered endpoint).map Artifact.path

/-- Endpoints no two of which share a path. -/
def Apart (generator : Generator) (endpoints : List Endpoint) : Prop :=
  endpoints.Pairwise fun endpoint other =>
    (generator.targets endpoint).Disjoint (generator.targets other)

/-- An endpoint with the outcome it has as the first one to come to a shelf. -/
def alone (generator : Generator) (shelf : Shelf) (endpoint : Endpoint) : Attempt :=
  ⟨endpoint, (runOn (generator.generate Shelf.store endpoint) shelf).1⟩

theorem Apart.perm (h : generator.Apart endpoints) (hperm : endpoints.Perm order) :
    generator.Apart order :=
  hperm.pairwise h fun hdisjoint => hdisjoint.symm

/-! ## One endpoint -/

theorem get?_of_not_mem_targets {path : String} (h : path ∉ generator.targets endpoint)
    (shelf : Shelf) :
    (runOn (generator.generate Shelf.store endpoint) shelf).2.get? path = shelf.get? path := by
  cases houtcome : (runOn (generator.generate Shelf.store endpoint) shelf).1 with
  | ok generated =>
      obtain ⟨-, -, -, hafter⟩ := inv_of_generated houtcome
      rw [hafter, Shelf.get?_putAll_of_not_mem h]
  | error failure => rw [shelf_of_error houtcome]

theorem alone_congr (h : ∀ path ∈ generator.targets endpoint, shelf.get? path = other.get? path) :
    generator.alone shelf endpoint = generator.alone other endpoint := by
  rw [alone, alone, runOn_generate, runOn_generate]
  cases hrender : generator.render endpoint with
  | error failure => rfl
  | ok artifacts =>
      rw [targets, rendered_of_render hrender] at h
      simp only [Shelf.conflict?_congr h]
      cases other.conflict? endpoint.overwrite artifacts <;> rfl

/-! ## Runs -/

theorem attempts_of_apart (h : generator.Apart endpoints) (shelf : Shelf) :
    generator.attempts shelf endpoints = endpoints.map (generator.alone shelf) := by
  induction endpoints generalizing shelf with
  | nil => rfl
  | cons endpoint endpoints ih =>
      obtain ⟨hdisjoint, hrest⟩ := List.pairwise_cons.1 h
      rw [attempts, ih hrest, List.map_cons]
      -- The paths of the endpoints to come are as they were.
      have hunchanged : ∀ later ∈ endpoints,
          generator.alone (runOn (generator.generate Shelf.store endpoint) shelf).2 later =
            generator.alone shelf later := by
        intro later hlater
        apply alone_congr
        intro path hpath
        exact get?_of_not_mem_targets (fun hown => hdisjoint later hlater hown hpath) shelf
      rw [List.map_congr_left hunchanged]
      rfl

theorem kept_of_apart (h : generator.Apart endpoints) (shelf : Shelf) :
    generator.kept shelf endpoints =
      endpoints.filter fun endpoint => (generator.alone shelf endpoint).succeeds := by
  rw [kept, attempts_of_apart h, List.filter_map, List.map_map]
  exact List.map_id _

theorem shelfAfter_perm (h : generator.Apart endpoints) (hperm : order.Perm endpoints)
    (shelf : Shelf) :
    generator.shelfAfter shelf order = generator.shelfAfter shelf endpoints := by
  have horder : generator.Apart order := h.perm hperm.symm
  rw [shelfAfter_eq_putAll, shelfAfter_eq_putAll, kept_of_apart horder, kept_of_apart h]
  exact Shelf.putAll_flatMap_perm (hperm.filter _) (horder.filter _) shelf

/-- Endpoints that share no path may come in any order: each has the outcome it has alone, and so
the lines and the shelf are the same. -/
theorem order_makes_no_difference (h : generator.Apart endpoints) (hperm : order.Perm endpoints)
    (shelf : Shelf) :
    generator.attempts shelf endpoints = endpoints.map (generator.alone shelf) ∧
    generator.attempts shelf order = order.map (generator.alone shelf) ∧
    let run := generator.runShelf shelf endpoints
    let other := generator.runShelf shelf order
    run.1 = .ofAttempts (endpoints.map (generator.alone shelf)) ∧
    other.1 = .ofAttempts (order.map (generator.alone shelf)) ∧
    other.1.lines = run.1.lines ∧ other.2 = run.2 := by
  have hattempts := attempts_of_apart h shelf
  have horder := attempts_of_apart (h.perm hperm.symm) shelf
  refine ⟨hattempts, horder, ?_, ?_, ?_, ?_⟩
  · rw [runShelf_fst, hattempts]
  · rw [runShelf_fst, horder]
  · rw [runShelf_fst, runShelf_fst, hattempts, horder]
    exact Batch.lines_ofAttempts_perm (hperm.map _)
  · rw [runShelf_snd, runShelf_snd, shelfAfter_perm h hperm]

/-- Endpoints of the twins in modules of their own, with one between them that has no table. -/
def twinEndpoints : List Endpoint :=
  [.ofTable .mysql "crm" "dbo.users" .get, .ofTable .mysql "crm" "staff" .get,
    { Endpoint.overwriting "dbo_users" .get with moduleUrl := "hr" }]

/-- Only the second twin succeeds, as the path of the first one is taken. -/
theorem twins_in_either_order :
    let shelf : Shelf := ⟨[("backend/crm/dbo-users.get.endpoint.yaml", "kept")]⟩
    let run := ofTwins.runShelf shelf twinEndpoints
    let other := ofTwins.runShelf shelf twinEndpoints.reverse
    ofTwins.Apart twinEndpoints ∧ twinEndpoints.reverse.Perm twinEndpoints ∧
      run.1.succeeded.map Generated.paths = [["backend/hr/dbo-users.get.endpoint.yaml"]] ∧
      run.1.failed.map (fun rejected => rejected.key.table) = ["dbo.users", "staff"] ∧
      other.1.failed.map (fun rejected => rejected.key.table) = ["staff", "dbo.users"] ∧
      other.1 = .ofAttempts (twinEndpoints.reverse.map (ofTwins.alone shelf)) ∧
      other.1.lines = run.1.lines ∧ other.2 = run.2 := by
  have hpaths : twinEndpoints.Pairwise fun endpoint other =>
      ∀ path ∈ ofTwins.targets endpoint, path ∉ ofTwins.targets other := by
    decide +kernel
  have hapart : ofTwins.Apart twinEndpoints := hpaths.imp List.disjoint_left.2
  have hperm : twinEndpoints.reverse.Perm twinEndpoints := twinEndpoints.reverse_perm
  obtain ⟨-, -, -, hother, hlines, hshelf⟩ := order_makes_no_difference hapart hperm
    ⟨[("backend/crm/dbo-users.get.endpoint.yaml", "kept")]⟩
  exact ⟨hapart, hperm, by decide +kernel, by decide +kernel, by decide +kernel, hother, hlines,
    hshelf⟩

end Generator

end Scaffold
