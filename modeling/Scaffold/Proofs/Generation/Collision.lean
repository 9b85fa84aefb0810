import Scaffold.Proofs.Artifact.Folders
import Scaffold.Proofs.Generation.Covered
import Scaffold.Proofs.Generation.Order

/-!
# Where files collide

Two files of the built-in catalog have one path only if they are the same file of the same table's
stem in the same module.  No file lies where another one needs a folder, since files have a point in
their names and folders have none.
-/

namespace Scaffold

open RelativePath (segments namesOf)

/-! ## Files and folders -/

namespace RelativePath

/-- A path that is no folder above another one: not by the names along it, and not as it is
written. -/
def IsNoFolderOf (path other : String) : Prop :=
  (namesOf path <+: namesOf other → path = other) ∧ ∀ below, other ≠ path ++ ("/" ++ below)

theorem namesOf_append (front back : String) :
    namesOf (front ++ ("/" ++ back)) = namesOf front ++ namesOf back := by
  rw [namesOf, segments_append, List.filter_append]
  rfl

/-- What is written below a path has the names of the path in front. -/
theorem isNoFolderOf_of_prefix {path other : String}
    (h : namesOf path <+: namesOf other → path = other) : IsNoFolderOf path other := by
  refine ⟨h, ?_⟩
  rintro below rfl
  have heq := h (by rw [namesOf_append]; exact List.prefix_append _ _)
  have hlength := congrArg (fun text => text.toList.length) heq
  simp only [String.toList_append, List.length_append] at hlength
  have hslash : "/".toList.length = 1 := rfl
  omega

end RelativePath

namespace ArtifactKind

variable {kind other : ArtifactKind} {verb otherVerb : Verb} {moduleUrl otherUrl stem : String}
  {otherStem : String}

theorem point_mem_fileName (kind : ArtifactKind) (verb : Verb) (stem : String) :
    '.' ∈ (kind.fileName verb stem).toList := by
  rw [toList_fileName]
  exact List.mem_append_right _ (Catalog.isFileEnding (kind, verb)).1

/-- The folders of a file are those of its module, and perhaps one for its stem. -/
theorem point_not_mem_folder (hurl : isModuleUrl moduleUrl = true) (hstem : IsStem stem)
    (kind : ArtifactKind) {folder : String}
    (h : folder ∈ kind.side :: (segments moduleUrl ++ (kind.ownFolder stem).filter (· ≠ ""))) :
    '.' ∉ folder.toList := by
  rw [List.mem_cons, List.mem_append, List.mem_filter] at h
  rcases h with rfl | hmodule | ⟨hown, -⟩
  · exact kind.isPlain_side.2.point_not_mem
  · exact (isPlain_of_isModuleUrl hurl hmodule).2.point_not_mem
  · rw [ownFolder] at hown
    split at hown
    · cases hown
    · rw [List.mem_singleton.1 hown]
      exact hstem.2

theorem path_eq_of_prefix (hurl : isModuleUrl moduleUrl = true)
    (hotherUrl : isModuleUrl otherUrl = true) (hstem : IsStem stem) (hotherStem : IsStem otherStem)
    (h : namesOf (kind.path verb moduleUrl stem) <+:
      namesOf (other.path otherVerb otherUrl otherStem)) :
    kind.path verb moduleUrl stem = other.path otherVerb otherUrl otherStem := by
  have hother := namesOf_path hotherUrl hotherStem.1 other otherVerb
  rw [hother, List.prefix_concat_iff, ← hother] at h
  rcases h with heq | hfolders
  · exact path_eq_of_namesOf_eq hurl hotherUrl hstem.1 hotherStem.1 heq
  · -- Otherwise the file of the one is a folder of the other.
    have hfile : kind.fileName verb stem ∈ namesOf (kind.path verb moduleUrl stem) := by
      rw [namesOf_path hurl hstem.1]
      exact List.mem_append_right _ List.mem_cons_self
    have hpoint := point_not_mem_folder hotherUrl hotherStem other (hfolders.subset hfile)
    exact absurd (point_mem_fileName kind verb stem) hpoint

end ArtifactKind

/-! ## Endpoints -/

namespace Generator

variable {schema : Schema} {endpoint : Endpoint} {plan : Plan}

/-- With the built-in catalog the files of a plan are those of its site. -/
theorem targets_of_plan (hplan : endpoint.plan schema = .ok plan) (naming : Naming) :
    let generator : Generator := ⟨schema, .builtin, naming⟩
    generator.render endpoint = .ok (generator.rendered endpoint) ∧
      generator.targets endpoint = plan.site.paths .builtin := by
  intro generator
  obtain ⟨artifacts, hrender⟩ := exists_render hplan naming
  obtain ⟨found, hfound, hartifacts⟩ := Except.bind_eq_ok_iff.1 hrender
  rw [hplan] at hfound
  cases hfound
  have hrendered : generator.rendered endpoint = artifacts := rendered_of_render hrender
  refine ⟨by rw [hrendered, hrender], ?_⟩
  rw [targets, hrendered, paths_of_artifacts hartifacts]
  rfl

/-- Two paths of built-in files are the same only if they were made from the same parts, and none is
a folder above another.  So two endpoints with plans have all their paths in common if verb, module
URL and stem are the same, and none if they are not. -/
theorem files_collide_on_one_site_only :
    (∀ (kind other : ArtifactKind) (verb otherVerb : Verb)
      (moduleUrl otherUrl stem otherStem : String),
      kind ∈ Catalog.builtin.kindsFor verb → other ∈ Catalog.builtin.kindsFor otherVerb →
      isModuleUrl moduleUrl = true → isModuleUrl otherUrl = true →
      IsStem stem → IsStem otherStem →
        (kind.path verb moduleUrl stem = other.path otherVerb otherUrl otherStem →
          kind = other ∧ verb = otherVerb ∧ moduleUrl = otherUrl ∧ stem = otherStem) ∧
        RelativePath.IsNoFolderOf (kind.path verb moduleUrl stem)
          (other.path otherVerb otherUrl otherStem)) ∧
    ∀ (schema otherSchema : Schema) (naming otherNaming : Naming) (endpoint other : Endpoint)
      (plan otherPlan : Plan), endpoint.plan schema = .ok plan →
      other.plan otherSchema = .ok otherPlan →
        let generator : Generator := ⟨schema, .builtin, naming⟩
        let otherGenerator : Generator := ⟨otherSchema, .builtin, otherNaming⟩
        let paths := generator.targets endpoint
        let otherPaths := otherGenerator.targets other
        generator.render endpoint = .ok (generator.rendered endpoint) ∧
        otherGenerator.render other = .ok (otherGenerator.rendered other) ∧
        (if endpoint.verb = other.verb ∧ plan.moduleUrl = otherPlan.moduleUrl ∧
            plan.fileStem = otherPlan.fileStem then paths = otherPaths
          else paths.Disjoint otherPaths) ∧
        ∀ path ∈ paths, ∀ otherPath ∈ otherPaths, RelativePath.IsNoFolderOf path otherPath := by
  constructor
  · intro kind other verb otherVerb moduleUrl otherUrl stem otherStem hkind hother hurl hotherUrl
      hstem hotherStem
    constructor
    · intro hpath
      obtain ⟨hfile, hurls, hstems⟩ :=
        ArtifactKind.path_inj hkind hother hstem hotherStem hpath
      exact ⟨(Prod.mk.inj hfile).1, (Prod.mk.inj hfile).2, hurls, hstems⟩
    · exact RelativePath.isNoFolderOf_of_prefix
        (ArtifactKind.path_eq_of_prefix hurl hotherUrl hstem hotherStem)
  · intro schema otherSchema naming otherNaming endpoint other plan otherPlan hplan hotherPlan
      generator otherGenerator paths otherPaths
    obtain ⟨database, h⟩ := Endpoint.plan_eq_ok_iff.1 hplan
    obtain ⟨otherDatabase, hother⟩ := Endpoint.plan_eq_ok_iff.1 hotherPlan
    obtain ⟨hrender, hpaths⟩ := targets_of_plan hplan naming
    obtain ⟨hotherRender, hotherPaths⟩ := targets_of_plan hotherPlan otherNaming
    have hsite : endpoint.verb = other.verb ∧ plan.moduleUrl = otherPlan.moduleUrl ∧
        plan.fileStem = otherPlan.fileStem ↔ plan.site = otherPlan.site := by
      rw [Plan.site, Plan.site, h.endpoint_eq, hother.endpoint_eq, Site.mk.injEq]
    refine ⟨hrender, hotherRender, ?_, ?_⟩
    · split
      · next hsame =>
          exact hpaths.trans ((congrArg _ (hsite.1 hsame)).trans hotherPaths.symm)
      · next hdiffer =>
          change (generator.targets endpoint).Disjoint (otherGenerator.targets other)
          rw [hpaths, hotherPaths]
          exact Site.disjoint_paths h.isStem hother.isStem fun heq => hdiffer (hsite.2 heq)
    · intro path hpath otherPath hotherPath
      obtain ⟨-, -, -, hurl⟩ := Endpoint.moduleOf_eq_ok_iff.1 h.module_eq
      obtain ⟨-, -, -, hotherUrl⟩ := Endpoint.moduleOf_eq_ok_iff.1 hother.module_eq
      change path ∈ generator.targets endpoint at hpath
      change otherPath ∈ otherGenerator.targets other at hotherPath
      rw [hpaths] at hpath
      rw [hotherPaths] at hotherPath
      obtain ⟨kind, -, rfl⟩ := List.mem_map.1 hpath
      obtain ⟨otherKind, -, rfl⟩ := List.mem_map.1 hotherPath
      exact RelativePath.isNoFolderOf_of_prefix
        (ArtifactKind.path_eq_of_prefix hurl hotherUrl h.isStem hother.isStem)

/-- A table whose name leaves no stem, in a module named like a stem of another module. -/
def ofNameless : Generator where
  schema :=
    { databases :=
        [{ name := "crm"
           tables := [{ name := "_", columns := [{ name := "id", type := "int" }] }] }]
      consistent := Schema.consistent_iff.2 rfl }
  catalog := .builtin
  naming := {}

/-- The twins collide.  The files of the nameless table lie in the folder of the twins' files, where
they meet none of them. -/
theorem twins_collide_and_nameless_does_not :
    let twins : Generator := ⟨.ofTwins, .builtin, {}⟩
    let nameless := { Endpoint.ofTable .mysql "crm" "_" .get with moduleUrl := "crm/dbo-users" }
    twins.targets (.overwriting "dbo.users" .get) = twins.targets (.overwriting "dbo_users" .get) ∧
      (twins.targets (.overwriting "dbo_users" .get)).Disjoint (ofNameless.targets nameless) ∧
      ArtifactKind.listing.path .get "crm" "dbo-users" ≠
        ArtifactKind.editor.path .put "crm/dbo-users" "" := by
  intro twins nameless
  obtain ⟨hparts, hendpoints⟩ := files_collide_on_one_site_only
  obtain ⟨first, hfirst, hfirstSite⟩ :
      ∃ plan, (Endpoint.overwriting "dbo.users" .get).plan .ofTwins = .ok plan ∧
        plan.moduleUrl = "crm" ∧ plan.fileStem = "dbo-users" :=
    ⟨_, rfl, rfl, by decide +kernel⟩
  obtain ⟨second, hsecond, hsecondSite⟩ :
      ∃ plan, (Endpoint.overwriting "dbo_users" .get).plan .ofTwins = .ok plan ∧
        plan.moduleUrl = "crm" ∧ plan.fileStem = "dbo-users" :=
    ⟨_, rfl, rfl, by decide +kernel⟩
  obtain ⟨third, hthird, hthirdUrl⟩ :
      ∃ plan, nameless.plan ofNameless.schema = .ok plan ∧ plan.moduleUrl = "crm/dbo-users" :=
    exists_of_map_toOption_eq_some (by decide +kernel)
  obtain ⟨-, -, hsame, -⟩ := hendpoints _ _ {} {} _ _ _ _ hfirst hsecond
  obtain ⟨-, -, hapart, -⟩ := hendpoints _ _ {} {} _ _ _ _ hsecond hthird
  rw [if_pos ⟨rfl, hfirstSite.1.trans hsecondSite.1.symm,
    hfirstSite.2.trans hsecondSite.2.symm⟩] at hsame
  have hdiffer : second.moduleUrl ≠ third.moduleUrl := by
    rw [hsecondSite.1, hthirdUrl]
    decide
  rw [if_neg fun hsite => hdiffer hsite.2.1] at hapart
  refine ⟨hsame, hapart, fun hpath => ?_⟩
  have hkinds := (hparts .listing .editor .get .put "crm" "crm/dbo-users" "dbo-users" ""
    (Catalog.mem_kindsFor.2 ⟨_, rfl⟩) (Catalog.mem_kindsFor.2 ⟨_, rfl⟩) (by decide) (by decide)
    ⟨by decide, by decide⟩ ⟨by decide, by decide⟩).1 hpath
  exact absurd hkinds.1 (by decide)

end Generator

end Scaffold
