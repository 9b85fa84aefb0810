import Scaffold.Proofs.Artifact.Site
import Scaffold.Proofs.Generation.Covered
import Scaffold.Proofs.Generation.Growth
import Scaffold.Proofs.Template.FaultLines

/-!
# Templates that are not there

What is generated for a verb are the kinds that the catalog has templates for.  So a template that
is not there is never asked for: it fails no endpoint, and an endpoint without a template for its
definition succeeds without one.
-/

namespace Scaffold

namespace Generator

variable {generator : Generator} {plan : Plan} {endpoint : Endpoint} {shelf : Shelf}

/-- A kind that is generated fails only on a line of its template. -/
theorem exists_line_of_artifact_eq_error {kind : ArtifactKind} {failure : Failure}
    (hkind : kind ∈ generator.catalog.kindsFor plan.endpoint.verb)
    (h : generator.artifact plan kind = .error failure) :
    ∃ id fault line, failure = .template id fault ∧ fault.line? = some line := by
  obtain ⟨⟨id, kind, source⟩, htemplate⟩ := Catalog.mem_kindsFor.1 hkind
  rw [artifact, Catalog.select, htemplate] at h
  cases hexpand : Template.expand ⟨id, kind, source⟩ (plan.context generator.naming) with
  | ok text =>
      simp only [hexpand] at h
      cases h
  | error fault =>
      simp only [hexpand] at h
      cases h
      obtain ⟨line, _, -, hblamed⟩ := Template.exists_blamed_lexeme hexpand
      exact ⟨id, fault, line, rfl, hblamed.line?⟩

theorem exists_line_of_generate_eq_error {id : String} {fault : Template.Fault}
    (h : (runOn (generator.generate Shelf.store endpoint) shelf).1 = .error (.template id fault)) :
    ∃ line, fault.line? = some line := by
  rw [runOn_generate] at h
  cases hrender : generator.render endpoint with
  | ok artifacts =>
      rw [hrender] at h
      dsimp only at h
      split at h <;> cases h
  | error failure =>
      rw [hrender] at h
      cases h
      rcases Except.bind_eq_error_iff.1 hrender with hplan | ⟨plan, -, hartifacts⟩
      · exact absurd hplan (endpoint.plan_noTemplateFault generator.schema id fault)
      · obtain ⟨kind, hkind, hartifact⟩ := exists_of_mapM_eq_error hartifacts
        obtain ⟨_, _, line, heq, hline⟩ := exists_line_of_artifact_eq_error hkind hartifact
        cases heq
        exact ⟨line, hline⟩

/-- What succeeds reports the kinds that the catalog has templates for. -/
theorem exists_plan_of_generated {generated : Generated}
    (h : (runOn (generator.generate Shelf.store endpoint) shelf).1 = .ok generated) :
    ∃ plan, endpoint.plan generator.schema = .ok plan ∧ plan.endpoint = endpoint ∧
      generator.artifacts plan = .ok (generator.rendered endpoint) ∧
      generated.paths = (generator.catalog.kindsFor endpoint.verb).map fun kind =>
        kind.path endpoint.verb plan.moduleUrl plan.fileStem := by
  obtain ⟨hrender, -, rfl, -⟩ := inv_of_generated h
  obtain ⟨plan, hplan, hartifacts⟩ := Except.bind_eq_ok_iff.1 hrender
  obtain ⟨database, hplanned⟩ := Endpoint.plan_eq_ok_iff.1 hplan
  have hpaths := paths_of_artifacts hartifacts
  rw [hplanned.endpoint_eq] at hpaths
  exact ⟨plan, hplan, hplanned.endpoint_eq, hartifacts, hpaths⟩

/-- A file that is reported is what the template of its kind expands to, and is there afterwards. -/
theorem exists_template_of_mem_paths {generated : Generated} {kind : ArtifactKind}
    (h : (runOn (generator.generate Shelf.store plan.endpoint) shelf).1 = .ok generated)
    (hartifacts : generator.artifacts plan = .ok (generator.rendered plan.endpoint))
    (hpath : kind.path plan.endpoint.verb plan.moduleUrl plan.fileStem ∈ generated.paths) :
    ∃ template text, generator.catalog.get? kind plan.endpoint.verb = some template ∧
      template.expand (plan.context generator.naming) = .ok text ∧
      (runOn (generator.generate Shelf.store plan.endpoint) shelf).2.get?
        (kind.path plan.endpoint.verb plan.moduleUrl plan.fileStem) = some text := by
  obtain ⟨hrender, -, rfl, -⟩ := inv_of_generated h
  obtain ⟨artifact, hmem, heq⟩ := List.mem_map.1 hpath
  obtain ⟨made, -, hmade⟩ := exists_of_mem_mapM hartifacts hmem
  have hkind : made = kind :=
    ArtifactKind.path_injective _ _ _ ((path_of_artifact hmade).symm.trans heq)
  subst hkind
  have hstored := get?_of_generated h hrender hmem
  obtain ⟨template, text, htemplate, hexpand, rfl⟩ := artifact_eq_ok_iff.1 hmade
  exact ⟨template, text, htemplate, hexpand, hstored⟩

/-- No endpoint fails for a template that is not there.  One that succeeds reports a definition, and
has stored it, exactly if the catalog has a template for it; otherwise what stands in its place
stays.  A catalog that grew from the built-in one has a template for each definition, and one that
grew from nothing has those that were inserted. -/
theorem definition_is_reported_iff (generator : Generator) (endpoint : Endpoint) (shelf : Shelf) :
    let answer := runOn (generator.generate Shelf.store endpoint) shelf
    let template? := generator.catalog.get? .endpoint endpoint.verb
    (∀ id kind verb, answer.1 ≠ .error (.template id (.unknownTemplate kind verb))) ∧
    (∀ generated, answer.1 = .ok generated →
      ∃ plan, endpoint.plan generator.schema = .ok plan ∧
        let path := ArtifactKind.endpoint.path endpoint.verb plan.moduleUrl plan.fileStem
        (path ∈ generated.paths ↔ template?.isSome = true) ∧
        (path ∈ generated.paths → ∃ template text, template? = some template ∧
          template.expand (plan.context generator.naming) = .ok text ∧
          answer.2.get? path = some text) ∧
        (path ∉ generated.paths → answer.2.get? path = shelf.get? path)) ∧
    ∀ inserted : List (Verb × Template),
      (generator.catalog = Catalog.builtin.insertAll inserted → template?.isSome = true) ∧
      (generator.catalog = Catalog.empty.insertAll inserted →
        (template?.isSome = true ↔
          ∃ entry ∈ inserted, entry.1 = endpoint.verb ∧ entry.2.kind = .endpoint)) := by
  intro answer template?
  refine ⟨?unknown, ?succeeded, fun inserted => ⟨?builtin, ?empty⟩⟩
  case unknown =>
    intro id kind verb h
    obtain ⟨line, hline⟩ := exists_line_of_generate_eq_error h
    cases hline
  case succeeded =>
    intro generated h
    obtain ⟨plan, hplan, rfl, hartifacts, hpaths⟩ := exists_plan_of_generated h
    refine ⟨plan, hplan, ?_, exists_template_of_mem_paths h hartifacts, fun hpath => ?_⟩
    · rw [hpaths, List.mem_map_of_injective (ArtifactKind.path_injective _ _ _),
        Catalog.mem_kindsFor, Option.isSome_iff_exists]
    · obtain ⟨-, -, rfl, hafter⟩ := inv_of_generated h
      rw [hafter]
      exact Shelf.get?_putAll_of_not_mem hpath shelf
  case builtin =>
    intro hcatalog
    have hbuiltin := Catalog.mem_kindsFor.1 (Catalog.endpoint_mem_kindsFor endpoint.verb)
    simp only [template?, hcatalog]
    exact Catalog.isSome_get?_insertAll_iff.2 (.inr (Option.isSome_iff_exists.2 hbuiltin))
  case empty =>
    intro hcatalog
    simp only [template?, hcatalog]
    rw [Catalog.isSome_get?_insertAll_iff]
    simp [Catalog.empty]

/-- A catalog to which a template for the definition was added, and nothing else. -/
theorem one_table_reports_definition :
    let answer := runOn (ofOneTable.generate Shelf.store (.ofTable .mysql "d" "t" .get)) .empty
    ∃ generated, answer.1 = .ok generated ∧
      "backend/d/t.get.endpoint.yaml" ∈ generated.paths ∧
      (answer.2.get? "backend/d/t.get.endpoint.yaml").isSome = true := by
  have hpath : ∃ plan, (Endpoint.ofTable .mysql "d" "t" .get).plan ofOneTable.schema = .ok plan ∧
      ArtifactKind.endpoint.path .get plan.moduleUrl plan.fileStem =
        "backend/d/t.get.endpoint.yaml" := ⟨_, rfl, by decide +kernel⟩
  have hgenerated : ∃ generated, (runOn (ofOneTable.generate Shelf.store
      (.ofTable .mysql "d" "t" .get)) .empty).1 = .ok generated := ⟨_, rfl⟩
  obtain ⟨generated, hgenerated⟩ := hgenerated
  obtain ⟨-, hsucceeded, hinserted⟩ :=
    definition_is_reported_iff ofOneTable (.ofTable .mysql "d" "t" .get) .empty
  obtain ⟨plan, hplan, hreported, hstored, -⟩ := hsucceeded generated hgenerated
  obtain ⟨_, hplanned, heq⟩ := hpath
  cases hplanned.symm.trans hplan
  have htemplate := ((hinserted [(.get, ⟨"endpoint.get", .endpoint, "text"⟩)]).2 rfl).2
    ⟨_, List.mem_cons_self, rfl, rfl⟩
  have hmem := hreported.2 htemplate
  obtain ⟨_, text, -, -, htext⟩ := hstored hmem
  rw [← heq]
  exact ⟨generated, hgenerated, hmem, Option.isSome_iff_exists.2 ⟨text, htext⟩⟩

/-- With a template for the service only, the endpoint succeeds, and its definition is neither
reported nor there. -/
theorem missing_definition_is_skipped :
    let catalog := Catalog.empty.insertAll [(.get, ⟨"service.get", .service, "code"⟩)]
    let endpoint := Endpoint.ofTable .mysql "d" "t" .get
    let answer := runOn (generate ⟨ofOneTable.schema, catalog, {}⟩ Shelf.store endpoint) .empty
    (endpoint.plan ofOneTable.schema).toBool = true ∧ catalog.get? .endpoint .get = none ∧
      answer.1.toOption = some
        { key := endpoint.key, lines := 0, paths := ["frontend/d/t/t.get.service.ts"] } ∧
      answer.2 = ⟨[("frontend/d/t/t.get.service.ts", "code")]⟩ := by
  decide +kernel

end Generator

end Scaffold
