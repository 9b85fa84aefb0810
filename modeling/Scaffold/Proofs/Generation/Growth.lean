import Mathlib.Data.List.Nodup
import Scaffold.Proofs.Generation.Isolation

/-!
# Runs that only add

An endpoint that may not overwrite puts its artifacts under paths that are free when its turn
comes.  A run of such endpoints keeps all that was on the shelf and adds the artifacts of those that
succeed, so every new path stands in exactly one report.
-/

namespace Scaffold

/-- The lines of artifacts are the line feeds among all their characters. -/
theorem totalLines_eq_count (artifacts : List Artifact) :
    totalLines artifacts =
      (artifacts.flatMap fun artifact => artifact.text.toList).count '\n' := by
  induction artifacts with
  | nil => rfl
  | cons artifact artifacts ih =>
      rw [List.flatMap_cons, List.count_append, ← ih]
      rfl

/-- Lists that share nothing have each of their elements at one place only. -/
theorem existsUnique_index_of_nodup_flatMap {α β : Type} {lists : List α} {f : α → List β} {b : β}
    (hnodup : (lists.flatMap f).Nodup) (hb : b ∈ lists.flatMap f) :
    ∃! i : Fin lists.length, b ∈ f lists[i] := by
  obtain ⟨a, ha, hba⟩ := List.mem_flatMap.1 hb
  obtain ⟨i, hi, rfl⟩ := List.mem_iff_getElem.1 ha
  refine ⟨⟨i, hi⟩, hba, ?_⟩
  rintro ⟨j, hj⟩ hbj
  have hdisjoint := List.pairwise_iff_getElem.1 (List.nodup_flatMap.1 hnodup).2
  rcases Nat.lt_trichotomy i j with hlt | heq | hgt
  · exact absurd hbj (hdisjoint i j hi hj hlt hba)
  · exact Fin.ext heq.symm
  · exact absurd hba (hdisjoint j i hj hi hgt hbj)

namespace Generator

variable {generator : Generator} {endpoint : Endpoint} {endpoints front : List Endpoint}
  {shelf : Shelf}

/-- The artifacts an endpoint renders to; none if it fails to. -/
def rendered (generator : Generator) (endpoint : Endpoint) : List Artifact :=
  (generator.render endpoint).toOption.getD []

theorem rendered_of_render {artifacts : List Artifact}
    (h : generator.render endpoint = .ok artifacts) : generator.rendered endpoint = artifacts := by
  rw [rendered, h]
  rfl

/-! ## One endpoint -/

/-- An endpoint that succeeds has rendered its artifacts, found their paths to be writable, and put
all of them on the shelf. -/
theorem inv_of_generated {generated : Generated}
    (h : (runOn (generator.generate Shelf.store endpoint) shelf).1 = .ok generated) :
    generator.render endpoint = .ok (generator.rendered endpoint) ∧
      shelf.conflict? endpoint.overwrite (generator.rendered endpoint) = none ∧
      generated = report endpoint (generator.rendered endpoint) ∧
      (runOn (generator.generate Shelf.store endpoint) shelf).2 =
        shelf.putAll (generator.rendered endpoint) := by
  rw [runOn_generate] at h ⊢
  cases hrender : generator.render endpoint with
  | error failure =>
      rw [hrender] at h
      cases h
  | ok artifacts =>
      rw [hrender] at h
      rw [rendered_of_render hrender]
      cases hconflict : shelf.conflict? endpoint.overwrite artifacts with
      | some path => simp only [hconflict, reduceCtorEq] at h
      | none =>
          simp only [hconflict, Except.ok.injEq] at h ⊢
          exact ⟨trivial, trivial, h.symm, trivial⟩

theorem get?_of_generated {generated : Generated} {artifacts : List Artifact} {artifact : Artifact}
    (h : (runOn (generator.generate Shelf.store endpoint) shelf).1 = .ok generated)
    (hrender : generator.render endpoint = .ok artifacts) (hartifact : artifact ∈ artifacts) :
    (runOn (generator.generate Shelf.store endpoint) shelf).2.get? artifact.path =
      some artifact.text := by
  obtain ⟨-, -, -, hafter⟩ := inv_of_generated h
  rw [hafter, rendered_of_render hrender]
  exact Shelf.get?_putAll_of_mem (nodup_paths_of_render hrender) hartifact shelf

theorem extends_of_generated {generated : Generated} (hkeeps : endpoint.overwrite = false)
    (h : (runOn (generator.generate Shelf.store endpoint) shelf).1 = .ok generated) :
    shelf.Extends (runOn (generator.generate Shelf.store endpoint) shelf).2
      (generator.rendered endpoint) := by
  obtain ⟨hrender, hfree, -, hafter⟩ := inv_of_generated h
  rw [hkeeps] at hfree
  rw [hafter]
  exact Shelf.extends_putAll (nodup_paths_of_render hrender) (Shelf.conflict?_eq_none_iff.1 hfree)

/-- Without leave to overwrite, an endpoint keeps what is there when its turn comes. -/
theorem get?_of_generate (hkeeps : endpoint.overwrite = false) {path text : String}
    (hbefore : shelf.get? path = some text) :
    (runOn (generator.generate Shelf.store endpoint) shelf).2.get? path = some text := by
  cases h : (runOn (generator.generate Shelf.store endpoint) shelf).1 with
  | ok generated => exact (extends_of_generated hkeeps h).keeps hbefore
  | error failure => rw [shelf_of_error h, hbefore]

/-! ## Runs -/

theorem runShelf_fst (generator : Generator) (shelf : Shelf) (endpoints : List Endpoint) :
    (generator.runShelf shelf endpoints).1 = .ofAttempts (generator.attempts shelf endpoints) :=
  congrArg Prod.fst (generator.run_shelf shelf endpoints)

theorem runShelf_snd (generator : Generator) (shelf : Shelf) (endpoints : List Endpoint) :
    (generator.runShelf shelf endpoints).2 = generator.shelfAfter shelf endpoints :=
  congrArg Prod.snd (generator.run_shelf shelf endpoints)

theorem shelfAfter_concat (shelf : Shelf) (front : List Endpoint) (endpoint : Endpoint) :
    generator.shelfAfter shelf (front ++ [endpoint]) =
      (runOn (generator.generate Shelf.store endpoint) (generator.shelfAfter shelf front)).2 := by
  induction front generalizing shelf with
  | nil => rfl
  | cons first front ih => exact ih _

theorem render_of_mem_kept (h : endpoint ∈ generator.kept shelf endpoints) :
    generator.render endpoint = .ok (generator.rendered endpoint) := by
  induction shelf, endpoints using generator.run_induction with
  | nil shelf => cases h
  | ok shelf first endpoints generated hfirst ih =>
      rw [kept_cons_of_ok hfirst] at h
      rcases List.mem_cons.1 h with rfl | hrest
      · exact (inv_of_generated hfirst).1
      · exact ih hrest
  | error shelf first endpoints failure hfirst ih =>
      rw [kept_cons_of_error hfirst] at h
      exact ih h

/-- A run reports what it keeps, in order, and counts the line feeds in all of it. -/
theorem ofAttempts_attempts (generator : Generator) (shelf : Shelf) (endpoints : List Endpoint) :
    let batch := Batch.ofAttempts (generator.attempts shelf endpoints)
    let kept := generator.kept shelf endpoints
    batch.succeeded = kept.map (fun endpoint => report endpoint (generator.rendered endpoint)) ∧
      batch.lines = ((kept.flatMap generator.rendered).flatMap fun artifact =>
        artifact.text.toList).count '\n' := by
  induction shelf, endpoints using generator.run_induction with
  | nil shelf => exact ⟨rfl, rfl⟩
  | ok shelf endpoint endpoints generated h ih =>
      obtain ⟨hsucceeded, hlines⟩ := ih
      obtain ⟨-, -, rfl, -⟩ := inv_of_generated h
      simp only [kept_cons_of_ok h, attempts, h, List.map_cons, List.flatMap_cons,
        List.flatMap_append, List.count_append, ← totalLines_eq_count (generator.rendered endpoint),
        ← hsucceeded, ← hlines]
      exact ⟨rfl, rfl⟩
  | error shelf endpoint endpoints failure h ih =>
      simp only [kept_cons_of_error h, attempts, h, shelf_of_error h]
      exact ih

theorem shelfAfter_extends (generator : Generator) (shelf : Shelf)
    (hkeeps : ∀ endpoint ∈ endpoints, endpoint.overwrite = false) :
    shelf.Extends (generator.shelfAfter shelf endpoints)
      ((generator.kept shelf endpoints).flatMap generator.rendered) := by
  induction shelf, endpoints using generator.run_induction with
  | nil shelf => exact Shelf.Extends.refl shelf
  | ok shelf endpoint endpoints generated h ih =>
      obtain ⟨hfirst, hrest⟩ := List.forall_mem_cons.1 hkeeps
      rw [kept_cons_of_ok h, List.flatMap_cons, shelfAfter]
      exact (extends_of_generated hfirst h).trans (ih hrest)
  | error shelf endpoint endpoints failure h ih =>
      rw [kept_cons_of_error h, shelfAfter, shelf_of_error h]
      exact ih (List.forall_mem_cons.1 hkeeps).2

/-- What is new on a shelf that grew by some reports stands in one of them. -/
theorem existsUnique_report {reports : List Generated} {reported : List Endpoint} {after : Shelf}
    (hreports : reports =
      reported.map fun endpoint => report endpoint (generator.rendered endpoint))
    (hextends : shelf.Extends after (reported.flatMap generator.rendered)) {path : String}
    (hbefore : shelf.get? path = none) (hafter : (after.get? path).isSome = true) :
    ∃! i : Fin reports.length, path ∈ reports[i].paths := by
  have hpaths : (reported.flatMap generator.rendered).map Artifact.path =
      reports.flatMap Generated.paths := by
    rw [hreports, List.map_flatMap, List.flatMap_map]
    rfl
  apply existsUnique_index_of_nodup_flatMap (f := Generated.paths)
  · rw [← hpaths]
    exact hextends.distinct
  · rw [← hpaths]
    exact hextends.mem_paths_of_new hbefore hafter

/-- A run of endpoints that may not overwrite keeps every path and adds exactly the artifacts of
those that succeed, each of which stands in one report, and its lines are the line feeds of what it
adds; among endpoints that may, one that may not still changes nothing that is there when its turn
comes. -/
theorem run_never_clobbers (generator : Generator) :
    (∀ (shelf : Shelf) (endpoints : List Endpoint),
      (∀ endpoint ∈ endpoints, endpoint.overwrite = false) →
        let batch := (generator.runShelf shelf endpoints).1
        let after := (generator.runShelf shelf endpoints).2
        let kept := generator.kept shelf endpoints
        (∀ path text, shelf.get? path = some text → after.get? path = some text) ∧
        (∀ path, shelf.get? path = none → (after.get? path).isSome = true →
          ∃! i : Fin batch.succeeded.length, path ∈ batch.succeeded[i].paths) ∧
        (∀ endpoint ∈ kept, generator.render endpoint = .ok (generator.rendered endpoint)) ∧
        batch.succeeded =
          kept.map (fun endpoint => report endpoint (generator.rendered endpoint)) ∧
        shelf.Extends after (kept.flatMap generator.rendered) ∧
        batch.lines = ((kept.flatMap generator.rendered).flatMap fun artifact =>
          artifact.text.toList).count '\n') ∧
    ∀ (shelf : Shelf) (front : List Endpoint) (endpoint : Endpoint),
      endpoint.overwrite = false → ∀ path text,
        (generator.runShelf shelf front).2.get? path = some text →
          (generator.runShelf shelf (front ++ [endpoint])).2.get? path = some text := by
  constructor
  · intro shelf endpoints hkeeps
    have hextends := generator.shelfAfter_extends shelf hkeeps
    obtain ⟨hsucceeded, hlines⟩ := generator.ofAttempts_attempts shelf endpoints
    rw [← runShelf_snd] at hextends
    rw [← runShelf_fst] at hsucceeded hlines
    exact ⟨fun _ _ => hextends.keeps, fun _ => existsUnique_report hsucceeded hextends,
      fun _ => render_of_mem_kept, hsucceeded, hextends, hlines⟩
  · intro shelf front endpoint hkeeps path text hbefore
    rw [runShelf_snd] at hbefore
    rw [runShelf_snd, shelfAfter_concat]
    exact get?_of_generate hkeeps hbefore

/-- The second of two equal requests finds its path taken and changes nothing; the lines are those
of the first. -/
theorem run_twice_beside_notes :
    let shelf : Shelf := ⟨[("notes.md", "kept")]⟩
    let endpoint := Endpoint.ofTable .mysql "d" "t" .get
    let added : List Artifact := [⟨"backend/d/t.get.endpoint.yaml", "first\nsecond\n"⟩]
    let run := ofTwoLines.runShelf shelf [endpoint, endpoint]
    run.1.succeeded.flatMap Generated.paths = ["backend/d/t.get.endpoint.yaml"] ∧
      run.2.get? "notes.md" = some "kept" ∧ shelf.Extends run.2 added ∧
      run.1.lines = (added.flatMap fun artifact => artifact.text.toList).count '\n' ∧
      run.1.lines = 2 ∧
      (ofTwoLines.runShelf shelf [endpoint]).2.get? "notes.md" = some "kept" := by
  intro shelf endpoint added run
  have hkeeps : ∀ other ∈ [endpoint, endpoint], Endpoint.overwrite other = false := by decide
  have hpaths : run.1.succeeded.flatMap Generated.paths = ["backend/d/t.get.endpoint.yaml"] := by
    decide +kernel
  have hadded : (ofTwoLines.kept shelf [endpoint, endpoint]).flatMap ofTwoLines.rendered =
      added := by
    decide +kernel
  have htwo : run.1.lines = 2 := by decide +kernel
  obtain ⟨hkept, -, -, -, hextends, hlines⟩ :=
    (run_never_clobbers ofTwoLines).1 shelf [endpoint, endpoint] hkeeps
  have hlast := (run_never_clobbers ofTwoLines).2 shelf [] endpoint rfl "notes.md" "kept" rfl
  rw [hadded] at hextends hlines
  exact ⟨hpaths, hkept _ _ rfl, hextends, hlines, htwo, hlast⟩

end Generator

end Scaffold
