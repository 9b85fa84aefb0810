import Scaffold.Proofs.Artifact.Site
import Scaffold.Proofs.Generation.Order
import Scaffold.Proofs.Generation.StatementFile

/-!
# The last word on a path

Tables with different names may have one stem, and so endpoints with different keys may share their
paths.  The files of an endpoint stand until a later one of the same site takes them, for which it
needs leave to overwrite.
-/

namespace Scaffold

namespace Generator

variable {generator : Generator} {endpoint : Endpoint} {endpoints front back : List Endpoint}
  {shelf : Shelf} {path : String}

/-! ## Paths that are taken -/

theorem isSome_get?_generate (h : (shelf.get? path).isSome = true) (generator : Generator)
    (endpoint : Endpoint) :
    ((runOn (generator.generate Shelf.store endpoint) shelf).2.get? path).isSome = true := by
  cases houtcome : (runOn (generator.generate Shelf.store endpoint) shelf).1 with
  | ok generated =>
      obtain ⟨-, -, -, hafter⟩ := inv_of_generated houtcome
      rw [hafter]
      exact Shelf.isSome_get?_putAll h _
  | error failure =>
      rw [shelf_of_error houtcome]
      exact h

/-- Without leave to overwrite, an endpoint that succeeds has none of the paths that are taken. -/
theorem not_mem_targets_of_kept (htaken : (shelf.get? path).isSome = true)
    (hkept : endpoint ∈ generator.kept shelf endpoints) (hkeeps : endpoint.overwrite = false) :
    path ∉ generator.targets endpoint := by
  induction shelf, endpoints using generator.run_induction with
  | nil shelf => cases hkept
  | ok shelf first endpoints generated hfirst ih =>
      rw [kept_cons_of_ok hfirst] at hkept
      rcases List.mem_cons.1 hkept with rfl | hrest
      · obtain ⟨-, hfree, -, -⟩ := inv_of_generated hfirst
        rw [hkeeps] at hfree
        intro hpath
        obtain ⟨artifact, hartifact, rfl⟩ := List.mem_map.1 hpath
        rw [Shelf.conflict?_eq_none_iff.1 hfree artifact hartifact] at htaken
        cases htaken
      · exact ih (isSome_get?_generate htaken generator first) hrest
  | error shelf first endpoints failure hfirst ih =>
      rw [kept_cons_of_error hfirst] at hkept
      exact ih htaken hkept

theorem pairwise_kept (generator : Generator) (shelf : Shelf) (endpoints : List Endpoint) :
    (generator.kept shelf endpoints).Pairwise fun endpoint other =>
      other.overwrite = false → (generator.targets endpoint).Disjoint (generator.targets other) := by
  induction shelf, endpoints using generator.run_induction with
  | nil shelf => exact .nil
  | ok shelf first endpoints generated hfirst ih =>
      rw [kept_cons_of_ok hfirst]
      refine List.pairwise_cons.2 ⟨fun other hother hkeeps path hpath => ?_, ih⟩
      obtain ⟨artifact, hartifact, rfl⟩ := List.mem_map.1 hpath
      obtain ⟨hrender, -, -, -⟩ := inv_of_generated hfirst
      have htaken := get?_of_generated hfirst hrender hartifact
      exact not_mem_targets_of_kept (by rw [htaken]; rfl) hother hkeeps
  | error shelf first endpoints failure hfirst ih =>
      rw [kept_cons_of_error hfirst]
      exact ih

theorem kept_sublist (generator : Generator) (shelf : Shelf) (endpoints : List Endpoint) :
    (generator.kept shelf endpoints).Sublist endpoints := by
  induction shelf, endpoints using generator.run_induction with
  | nil shelf => exact .slnil
  | ok shelf first endpoints generated hfirst ih =>
      rw [kept_cons_of_ok hfirst]
      exact ih.cons_cons first
  | error shelf first endpoints failure hfirst ih =>
      rw [kept_cons_of_error hfirst]
      exact ih.cons first

/-- The files of an endpoint that succeeds are there at the end, unless a later one has their
paths too. -/
theorem get?_of_kept (h : generator.kept shelf endpoints = front ++ endpoint :: back)
    {artifact : Artifact} (hartifact : artifact ∈ generator.rendered endpoint)
    (hlast : ∀ other ∈ back, artifact.path ∉ generator.targets other) :
    (generator.shelfAfter shelf endpoints).get? artifact.path = some artifact.text := by
  have hrender : generator.render endpoint = .ok (generator.rendered endpoint) := by
    apply render_of_mem_kept
    rw [h]
    exact List.mem_append_right front List.mem_cons_self
  have hback : artifact.path ∉ (back.flatMap generator.rendered).map Artifact.path := by
    rw [List.map_flatMap, List.mem_flatMap]
    rintro ⟨other, hother, hpath⟩
    exact hlast other hother hpath
  rw [shelfAfter_eq_putAll, h, List.flatMap_append, List.flatMap_cons, Shelf.putAll_append,
    Shelf.putAll_append, Shelf.get?_putAll_of_not_mem hback,
    Shelf.get?_putAll_of_mem (nodup_paths_of_render hrender) hartifact]

end Generator

/-! ## Sites -/

/-- Where the files of an endpoint would lie, if it has a plan. -/
def Endpoint.site? (endpoint : Endpoint) (schema : Schema) : Option Site :=
  (endpoint.plan schema).toOption.map Plan.site

namespace Generator

variable {schema : Schema} {naming : Naming} {endpoint other : Endpoint}

theorem exists_site {artifacts : List Artifact}
    (h : Generator.render ⟨schema, .builtin, naming⟩ endpoint = .ok artifacts) :
    ∃ site, endpoint.site? schema = some site ∧ IsStem site.stem ∧ site.verb = endpoint.verb ∧
      Generator.targets ⟨schema, .builtin, naming⟩ endpoint = site.paths .builtin := by
  obtain ⟨plan, hplan, hartifacts⟩ := Except.bind_eq_ok_iff.1 h
  obtain ⟨database, hplanned⟩ := Endpoint.plan_eq_ok_iff.1 hplan
  refine ⟨plan.site, ?_, hplanned.isStem, congrArg Endpoint.verb hplanned.endpoint_eq, ?_⟩
  · rw [Endpoint.site?, hplan]
    rfl
  · rw [targets, rendered_of_render h, paths_of_artifacts hartifacts]
    rfl

/-- Of two endpoints that succeed and share a site, the later one may overwrite. -/
theorem overwrite_of_site (hrelated : other.overwrite = false →
      (Generator.targets ⟨schema, .builtin, naming⟩ endpoint).Disjoint
        (Generator.targets ⟨schema, .builtin, naming⟩ other)) {site : Site}
    (htargets : Generator.targets ⟨schema, .builtin, naming⟩ endpoint = site.paths .builtin)
    (hother : Generator.targets ⟨schema, .builtin, naming⟩ other = site.paths .builtin) :
    other.overwrite = true := by
  apply Bool.eq_true_of_not_eq_false
  intro hkeeps
  have hdisjoint := hrelated hkeeps
  rw [htargets, hother] at hdisjoint
  exact hdisjoint site.endpoint_mem_paths site.endpoint_mem_paths

/-- The files of an endpoint that succeeds stand at the end, unless a later one that succeeds has
the same verb, module URL and stem.  Such a one may overwrite, is made for another table, and has
the same paths. -/
theorem files_stand_or_are_overwritten (hkeys : (endpoints.map Endpoint.key).Nodup)
    (schema : Schema) (naming : Naming) (shelf : Shelf) :
    let generator : Generator := ⟨schema, .builtin, naming⟩
    let run := generator.runShelf shelf endpoints
    let kept := generator.kept shelf endpoints
    run.1.succeeded = kept.map (fun endpoint => report endpoint (generator.rendered endpoint)) ∧
    ∀ front endpoint back, kept = front ++ endpoint :: back →
      generator.render endpoint = .ok (generator.rendered endpoint) ∧
      ((∀ other ∈ back, other.site? schema ≠ endpoint.site? schema) →
        ∀ artifact ∈ generator.rendered endpoint,
          run.2.get? artifact.path = some artifact.text) ∧
      ∀ other ∈ back, other.site? schema = endpoint.site? schema →
        other.overwrite = true ∧
        (other.database ≠ endpoint.database ∨ other.table ≠ endpoint.table) ∧
        generator.targets other = generator.targets endpoint := by
  intro generator run kept
  constructor
  · have hreports := (generator.ofAttempts_attempts shelf endpoints).1
    rw [← runShelf_fst] at hreports
    exact hreports
  intro front endpoint back hsplit
  have hrender : ∀ {later : Endpoint}, later ∈ endpoint :: back →
      generator.render later = .ok (generator.rendered later) := by
    intro later hlater
    have hkept : later ∈ kept := by
      rw [hsplit]
      exact List.mem_append_right front hlater
    exact render_of_mem_kept hkept
  -- What holds of everything kept and all that follow it holds of the endpoint and the back.
  have hrelated : ∀ {R : Endpoint → Endpoint → Prop}, kept.Pairwise R →
      ∀ other ∈ back, R endpoint other := by
    intro R hpairwise
    rw [hsplit] at hpairwise
    exact (List.pairwise_cons.1 (List.pairwise_append.1 hpairwise).2.1).1
  obtain ⟨site, hsite, hstem, hverb, htargets⟩ := exists_site (hrender List.mem_cons_self)
  refine ⟨hrender List.mem_cons_self, ?_, ?_⟩
  · intro hothers artifact hartifact
    rw [runShelf_snd]
    apply get?_of_kept hsplit hartifact
    intro other hother
    obtain ⟨otherSite, hotherSite, hotherStem, -, hotherTargets⟩ :=
      exists_site (hrender (List.mem_cons_of_mem endpoint hother))
    have hne : site ≠ otherSite := by
      rintro rfl
      exact hothers other hother (hotherSite.trans hsite.symm)
    have hpath : artifact.path ∈ site.paths .builtin := by
      rw [← htargets]
      exact List.mem_map_of_mem hartifact
    rw [hotherTargets]
    exact Site.disjoint_paths hstem hotherStem hne hpath
  · intro other hother hsame
    obtain ⟨otherSite, hotherSite, -, hotherVerb, hotherTargets⟩ :=
      exists_site (hrender (List.mem_cons_of_mem endpoint hother))
    have heq : otherSite = site := by
      apply Option.some.inj
      rw [← hotherSite, hsame, hsite]
    subst heq
    refine ⟨?_, ?_, hotherTargets.trans htargets.symm⟩
    · exact overwrite_of_site (hrelated (generator.pairwise_kept shelf endpoints) other hother)
        htargets hotherTargets
    · have hdistinct : kept.Pairwise fun endpoint other => endpoint.key ≠ other.key :=
        List.pairwise_map.1 (hkeys.sublist ((generator.kept_sublist shelf endpoints).map _))
      have hkey := hrelated hdistinct other hother
      rw [← not_and_or]
      rintro ⟨hdatabase, htable⟩
      apply hkey
      rw [Endpoint.key, Endpoint.key, hdatabase, htable, ← hverb, ← hotherVerb]

/-! ## Twins -/

/-- The twins with the built-in catalog. -/
def ofBuiltinTwins : Generator := ⟨.ofTwins, .builtin, {}⟩

def twinDeletions : List Endpoint :=
  [.overwriting "dbo.users" .delete, .overwriting "dbo_users" .delete]

theorem kept_of_plans {schema : Schema} {endpoints : List Endpoint}
    (h : ∀ endpoint ∈ endpoints, endpoint.overwrite = true)
    (hplan : ∀ endpoint ∈ endpoints, ∃ plan, endpoint.plan schema = .ok plan) (naming : Naming)
    (shelf : Shelf) : Generator.kept ⟨schema, .builtin, naming⟩ shelf endpoints = endpoints := by
  apply kept_of_overwriting h
  intro endpoint hendpoint
  obtain ⟨plan, hplan⟩ := hplan endpoint hendpoint
  exact exists_render hplan naming

theorem exists_plan_of_twinDeletions :
    ∀ endpoint ∈ twinDeletions, ∃ plan, endpoint.plan .ofTwins = .ok plan :=
  List.forall_mem_cons.2 ⟨⟨_, rfl⟩, List.forall_mem_singleton.2 ⟨_, rfl⟩⟩

/-- The files of the second twin stand, and they are where those of the first one were; an endpoint
that comes after them lies elsewhere. -/
theorem second_twin_stands :
    let endpoints := twinDeletions ++ [.overwriting "dbo_users" .get]
    (endpoints.map Endpoint.key).Nodup ∧
      (∀ artifact ∈ ofBuiltinTwins.rendered (.overwriting "dbo_users" .delete),
        (ofBuiltinTwins.runShelf .empty endpoints).2.get? artifact.path = some artifact.text) ∧
      ofBuiltinTwins.targets (.overwriting "dbo_users" .delete) =
        ofBuiltinTwins.targets (.overwriting "dbo.users" .delete) := by
  intro endpoints
  have hkeys : (endpoints.map Endpoint.key).Nodup := by decide
  have hplan : ∀ endpoint ∈ endpoints, ∃ plan, endpoint.plan .ofTwins = .ok plan :=
    List.forall_mem_append.2 ⟨exists_plan_of_twinDeletions, List.forall_mem_singleton.2 ⟨_, rfl⟩⟩
  have hkept : ofBuiltinTwins.kept .empty endpoints = endpoints :=
    kept_of_plans (by decide) hplan {} .empty
  have hsame : (Endpoint.overwriting "dbo_users" .delete).site? .ofTwins =
      (Endpoint.overwriting "dbo.users" .delete).site? .ofTwins := by
    decide +kernel
  have helsewhere : (Endpoint.overwriting "dbo_users" .get).site? .ofTwins ≠
      (Endpoint.overwriting "dbo_users" .delete).site? .ofTwins := by
    decide +kernel
  obtain ⟨-, hall⟩ := files_stand_or_are_overwritten hkeys .ofTwins {} .empty
  obtain ⟨-, -, hover⟩ := hall [] _ _ hkept
  obtain ⟨-, hstand, -⟩ := hall [.overwriting "dbo.users" .delete] _ _ hkept
  exact ⟨hkeys, hstand (List.forall_mem_singleton.2 helsewhere),
    (hover _ List.mem_cons_self hsame).2.2⟩

end Generator

/-- The definition of a deletion starts with the name of the table's class. -/
theorem Plan.exists_deletion_text (plan : Plan) (naming : Naming) :
    ∃ template rest, Catalog.builtin.get? .endpoint .delete = some template ∧
      template.expand (plan.context naming) =
        .ok ("# " ++ (naming.className plan.table.name ++ rest)) := by
  have hbuiltin : (Catalog.builtin.get? .endpoint .delete) =
      some ⟨"endpoint.delete", .endpoint, Catalog.deleteEndpoint⟩ := rfl
  obtain ⟨nodes, hnodes, htitled⟩ :
      ∃ nodes, (Template.mk "endpoint.delete" .endpoint Catalog.deleteEndpoint).nodes = .ok nodes ∧
        List.isPrefixOf [.text "# ", .scalar "class_name" [] 1] nodes = true :=
    Catalog.exists_nodes_of_spelled (by repeat constructor) (by decide +kernel)
  obtain ⟨entry, hentry, -, htemplate⟩ := Catalog.exists_entry_of_get? hbuiltin
  obtain ⟨covered, hcovered, hcovers⟩ := Catalog.isCovered_entries entry hentry
  rw [htemplate, hnodes, Except.ok.injEq] at hcovered
  subst hcovered
  obtain ⟨text, htext⟩ := plan.exists_expandAll naming hcovers
  obtain ⟨below, rfl⟩ := List.isPrefixOf_iff_prefix.1 htitled
  obtain ⟨title, rest, htitle, -, rfl⟩ := Template.expandAll_append_eq_ok_iff.1 htext
  have hclass : (plan.context naming).root.scalar? "class_name" =
      some (naming.className plan.table.name) :=
    plan.scalar?_of_mem naming (by simp [Plan.fixedScalars])
  have hheading : Template.expandAll (plan.context naming) [(plan.context naming).root]
      [.text "# ", .scalar "class_name" [] 1] =
        .ok ("# " ++ naming.className plan.table.name) := by
    refine Template.expandAll_of_forall₂ (.cons (Template.expand_text _) <|
      .cons (Template.expand_scalar (Template.scalarIn?_of_some hclass)) .nil) ?_
    simp only [String.join_cons, String.join_nil, String.append_empty]
  rw [hheading, Except.ok.injEq] at htitle
  refine ⟨_, rest, hbuiltin, ?_⟩
  rw [Template.expand, hnodes, ← String.append_assoc, htitle]
  exact htext

namespace Generator

theorem exists_deletion_artifact {schema : Schema} {endpoint : Endpoint} {plan : Plan}
    (hplan : endpoint.plan schema = .ok plan)
    (hverb : plan.endpoint.verb = .delete) (naming : Naming) :
    ∃ rest, ⟨ArtifactKind.endpoint.path plan.site.verb plan.site.moduleUrl plan.site.stem,
      "# " ++ (naming.className plan.table.name ++ rest)⟩ ∈
        Generator.rendered ⟨schema, .builtin, naming⟩ endpoint := by
  obtain ⟨template, rest, htemplate, htext⟩ := plan.exists_deletion_text naming
  rw [← hverb] at htemplate
  obtain ⟨artifacts, hrender, hartifact⟩ := mem_render hplan htemplate htext
  refine ⟨rest, ?_⟩
  rw [rendered_of_render hrender]
  exact hartifact

/-- Both twins succeed, and a file of the first one is lost. -/
theorem first_twin_is_lost :
    (twinDeletions.map Endpoint.key).Nodup ∧
      ofBuiltinTwins.kept .empty twinDeletions = twinDeletions ∧
      ∃ artifact ∈ ofBuiltinTwins.rendered (.overwriting "dbo.users" .delete),
        (ofBuiltinTwins.runShelf .empty twinDeletions).2.get? artifact.path ≠
          some artifact.text := by
  have hsplit : ofBuiltinTwins.kept .empty twinDeletions =
      [.overwriting "dbo.users" .delete] ++ [.overwriting "dbo_users" .delete] :=
    kept_of_plans (by decide) exists_plan_of_twinDeletions {} .empty
  refine ⟨by decide, hsplit, ?_⟩
  obtain ⟨first, hfirst, hfirstVerb, hfirstClass, hfirstSite⟩ :
      ∃ plan, (Endpoint.overwriting "dbo.users" .delete).plan .ofTwins = .ok plan ∧
        plan.endpoint.verb = .delete ∧ Naming.className {} plan.table.name = "User" ∧
        plan.site = ⟨.delete, "crm", "dbo-users"⟩ :=
    ⟨_, rfl, rfl, by decide +kernel, by decide +kernel⟩
  obtain ⟨second, hsecond, hsecondVerb, hsecondClass, hsecondSite⟩ :
      ∃ plan, (Endpoint.overwriting "dbo_users" .delete).plan .ofTwins = .ok plan ∧
        plan.endpoint.verb = .delete ∧ Naming.className {} plan.table.name = "DboUser" ∧
        plan.site = ⟨.delete, "crm", "dbo-users"⟩ :=
    ⟨_, rfl, rfl, by decide +kernel, by decide +kernel⟩
  obtain ⟨lost, hlost⟩ := exists_deletion_artifact hfirst hfirstVerb {}
  obtain ⟨rest, hrest⟩ := exists_deletion_artifact hsecond hsecondVerb {}
  rw [hfirstClass, hfirstSite] at hlost
  rw [hsecondClass, hsecondSite] at hrest
  refine ⟨_, hlost, ?_⟩
  have hstands := get?_of_kept hsplit hrest (List.forall_mem_nil _)
  have hdiffer : "DboUser" ++ rest ≠ "User" ++ lost :=
    append_ne_append_of_head_ne (by decide) _ _ _ _
  rw [runShelf_snd]
  intro hheld
  apply hdiffer
  have htexts := Option.some.inj (hstands.symm.trans hheld)
  exact (String.append_right_inj "# ").1 htexts

end Generator

end Scaffold
