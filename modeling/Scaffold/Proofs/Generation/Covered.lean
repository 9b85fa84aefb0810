import Scaffold.Artifact.FileTree
import Scaffold.Generation
import Scaffold.Proofs.Artifact.Shelf
import Scaffold.Proofs.Catalog.Builtin
import Scaffold.Proofs.Generation.Isolation
import Scaffold.Proofs.Plan.Vocabulary

/-!
# No template fails

A template whose names are those of every plan expands for every plan.  With the built-in catalog
an endpoint can therefore fail in many ways, but never for the sake of a template.
-/

namespace Scaffold

/-- An outcome that is not the failure of a template. -/
def NoTemplateFault {α : Type} (outcome : Except Failure α) : Prop :=
  ∀ id fault, outcome ≠ .error (.template id fault)

namespace NoTemplateFault

variable {α β σ : Type}

theorem ok (a : α) : NoTemplateFault (.ok a) :=
  fun _ _ h => by cases h

theorem bind {x : Except Failure α} {f : α → Except Failure β} (hx : NoTemplateFault x)
    (hf : ∀ a, NoTemplateFault (f a)) : NoTemplateFault (x >>= f) := by
  intro id fault h
  rcases Except.bind_eq_error_iff.1 h with hfirst | ⟨a, -, hnext⟩
  · exact hx id fault hfirst
  · exact hf a id fault hnext

theorem mapM {f : α → Except Failure β} (hf : ∀ a, NoTemplateFault (f a)) (as : List α) :
    NoTemplateFault (as.mapM f) := by
  induction as with
  | nil => exact ok []
  | cons a as ih =>
      rw [List.mapM_cons]
      exact (hf a).bind fun b => ih.bind fun bs => ok (b :: bs)

theorem runOn_bind {program : ExceptT Failure (StateM σ) α}
    {next : α → ExceptT Failure (StateM σ) β}
    (hprogram : ∀ state, NoTemplateFault (runOn program state).1)
    (hnext : ∀ a state, NoTemplateFault (runOn (next a) state).1) (state : σ) :
    NoTemplateFault (runOn (program >>= next) state).1 := by
  have hfirst := hprogram state
  rw [Scaffold.runOn_bind]
  rcases hrun : runOn program state with ⟨failure | a, after⟩
  · rw [hrun] at hfirst
    exact fun id fault h => hfirst id fault (by cases h; rfl)
  · exact hnext a after

end NoTemplateFault

/-! ## Planning -/

namespace Endpoint

variable (endpoint : Endpoint)

theorem refuse_noTemplateFault {α : Type} (outcome : Except Problem α) :
    NoTemplateFault (endpoint.refuse outcome) := by
  intro id fault h
  cases outcome <;> cases h

end Endpoint

theorem EffectivePolicy.check_noTemplateFault (policy : EffectivePolicy) (target : String)
    (verb : Verb) (table : Table) : NoTemplateFault (policy.check target verb table) := by
  intro id fault h
  rw [check] at h
  split at h <;> cases h

theorem Table.joins_noTemplateFault (table : Table) (database : Database) :
    NoTemplateFault (table.joins database) := by
  refine NoTemplateFault.mapM (fun key => ?_) table.foreignKeys
  intro id fault h
  rw [joinFor] at h
  split at h <;> cases h

theorem Endpoint.plan_noTemplateFault (endpoint : Endpoint) (schema : Schema) :
    NoTemplateFault (endpoint.plan schema) := by
  refine (endpoint.refuse_noTemplateFault _).bind fun (database, table) => ?_
  refine (endpoint.refuse_noTemplateFault _).bind fun (moduleName, moduleUrl) => ?_
  refine (endpoint.refuse_noTemplateFault _).bind fun (surface, keys) => ?_
  refine (EffectivePolicy.check_noTemplateFault _ _ _ _).bind fun _ => ?_
  dsimp only
  split
  · exact (NoTemplateFault.ok []).bind fun _ => .ok _
  · exact (table.joins_noTemplateFault database).bind fun _ => .ok _

/-! ## Saving -/

namespace Store

variable {σ : Type} {store : Store (StateM σ)}

theorem save_noTemplateFault
    (htaken : ∀ path state, NoTemplateFault (runOn (store.taken path) state).1)
    (hwrite : ∀ overwrite artifact state,
      NoTemplateFault (runOn (store.write overwrite artifact) state).1)
    (overwrite : Bool) (artifacts : List Artifact) (state : σ) :
    NoTemplateFault (runOn (store.save overwrite artifacts) state).1 := by
  have hcheck : ∀ artifacts state, NoTemplateFault (runOn (store.checkFree artifacts) state).1 := by
    intro artifacts
    induction artifacts with
    | nil => exact fun _ => .ok ()
    | cons artifact artifacts ih =>
        rw [checkFree]
        refine NoTemplateFault.runOn_bind (htaken artifact.path) fun taken state => ?_
        cases taken with
        | true => exact fun id fault h => by cases h
        | false => exact ih state
  have hall : ∀ artifacts state,
      NoTemplateFault (runOn (store.writeAll overwrite artifacts) state).1 := by
    intro artifacts
    induction artifacts with
    | nil => exact fun _ => .ok ()
    | cons artifact artifacts ih =>
        rw [writeAll]
        exact NoTemplateFault.runOn_bind (hwrite overwrite artifact) fun _ => ih
  rw [save]
  cases overwrite with
  | true => exact hall artifacts state
  | false => exact NoTemplateFault.runOn_bind (hcheck artifacts) (fun _ => hall artifacts) state

end Store

theorem Shelf.write_noTemplateFault (overwrite : Bool) (artifact : Artifact) (shelf : Shelf) :
    NoTemplateFault (shelf.write overwrite artifact).1 := by
  intro id fault h
  rw [write] at h
  split at h <;> cases h

namespace FileTree

theorem taken_noTemplateFault (root : List String) (path : String) (tree : FileTree) :
    NoTemplateFault (tree.taken root path) := by
  intro id fault h
  rw [taken] at h
  split at h <;> cases h

theorem failureOf_ne_template (path : String) (reason : DiskFault) (id : String)
    (fault : Template.Fault) : failureOf path reason ≠ .template id fault := by
  cases reason <;> intro h <;> cases h

theorem write_noTemplateFault (root : List String) (overwrite : Bool) (artifact : Artifact)
    (tree : FileTree) : NoTemplateFault (tree.write root overwrite artifact).1 := by
  intro id fault h
  rw [write, writeWithin] at h
  split at h
  · cases h
  · simp only at h
    split at h
    · cases h
    · split at h
      · cases h
      · split at h
        · exact failureOf_ne_template _ _ _ _ (Except.error.inj h)
        · cases h

end FileTree

/-! ## Generating -/

theorem Plan.exists_expandAll (plan : Plan) (naming : Naming) {nodes : List Template.Node}
    (hcovers : Plan.covers nodes = true) :
    ∃ text, Template.expandAll (plan.context naming) [(plan.context naming).root] nodes =
      .ok text :=
  Template.exists_expandAll_of_areGuarded (plan.isSome_predicate?_context naming)
    (List.forall_mem_nil _) (.cons (plan.context_provides naming) .nil) nodes hcovers

namespace Generator

theorem exists_artifact (schema : Schema) (naming : Naming) (plan : Plan) {kind : ArtifactKind}
    (hkind : kind ∈ Catalog.builtin.kindsFor plan.endpoint.verb) :
    ∃ artifact, Generator.artifact ⟨schema, .builtin, naming⟩ plan kind = .ok artifact := by
  obtain ⟨template, htemplate⟩ := Catalog.mem_kindsFor.1 hkind
  obtain ⟨entry, hentry, -, rfl⟩ := Catalog.exists_entry_of_get? htemplate
  obtain ⟨nodes, hnodes, hcovers⟩ := Catalog.isCovered_entries entry hentry
  obtain ⟨text, htext⟩ := plan.exists_expandAll naming hcovers
  have hexpand : entry.template.expand (plan.context naming) = .ok text := by
    rw [Template.expand, hnodes]
    exact htext
  exact ⟨_, artifact_eq_ok_iff.2 ⟨_, _, htemplate, hexpand, rfl⟩⟩

theorem exists_render {schema : Schema} {endpoint : Endpoint} {plan : Plan}
    (hplan : endpoint.plan schema = .ok plan) (naming : Naming) :
    ∃ artifacts, Generator.render ⟨schema, .builtin, naming⟩ endpoint = .ok artifacts := by
  obtain ⟨made, hmade⟩ := exists_mapM_eq_ok fun _ hkind => exists_artifact schema naming plan hkind
  exact ⟨made, Except.bind_eq_ok_iff.2 ⟨plan, hplan, hmade⟩⟩

/-- With the built-in catalog and a shelf that is empty, a plan is all it takes. -/
theorem exists_generated {schema : Schema} {endpoint : Endpoint} {plan : Plan}
    (hplan : endpoint.plan schema = .ok plan) (naming : Naming) :
    ∃ generated, (runOn (Generator.generate ⟨schema, .builtin, naming⟩ Shelf.store endpoint)
      .empty).1 = .ok generated := by
  obtain ⟨made, hmade⟩ := exists_render hplan naming
  refine ⟨report endpoint made, ?_⟩
  rw [runOn_generate, hmade]
  simp only [Shelf.conflict?_empty]

theorem render_noTemplateFault (schema : Schema) (naming : Naming) (endpoint : Endpoint) :
    NoTemplateFault (Generator.render ⟨schema, .builtin, naming⟩ endpoint) := by
  refine (endpoint.plan_noTemplateFault schema).bind fun plan => ?_
  obtain ⟨made, hmade⟩ := exists_mapM_eq_ok fun _ hkind => exists_artifact schema naming plan hkind
  rw [artifacts, hmade]
  exact .ok made

theorem generate_noTemplateFault {σ : Type} {store : Store (StateM σ)} (schema : Schema)
    (naming : Naming) (endpoint : Endpoint)
    (hsave : ∀ artifacts state,
      NoTemplateFault (runOn (store.save endpoint.overwrite artifacts) state).1) (state : σ) :
    NoTemplateFault
      (runOn (Generator.generate ⟨schema, .builtin, naming⟩ store endpoint) state).1 := by
  rw [generate]
  refine NoTemplateFault.runOn_bind (fun _ => ?_) (fun artifacts => ?_) state
  · exact render_noTemplateFault schema naming endpoint
  · exact NoTemplateFault.runOn_bind (hsave artifacts) fun _ _ => .ok _

/-- A covered template expands for every plan and naming.  All built-in templates are covered, so
with them no endpoint ever fails because of a template. -/
theorem covered_templates_never_fail :
    (∀ (plan : Plan) (naming : Naming) (nodes : List Template.Node), Plan.covers nodes = true →
      ∃ text, Template.expandAll (plan.context naming) [(plan.context naming).root] nodes =
        .ok text) ∧
    (∀ entry ∈ Catalog.entries, Catalog.IsCovered entry.template) ∧
    ∀ (schema : Schema) (naming : Naming) (endpoint : Endpoint) (id : String)
      (fault : Template.Fault),
      (∀ shelf, (runOn (Generator.generate ⟨schema, .builtin, naming⟩ Shelf.store endpoint)
        shelf).1 ≠ .error (.template id fault)) ∧
      ∀ root tree, (runOn (Generator.generate ⟨schema, .builtin, naming⟩ (FileTree.store root)
        endpoint) tree).1 ≠ .error (.template id fault) := by
  refine ⟨fun plan naming _ => plan.exists_expandAll naming, Catalog.isCovered_entries, ?_⟩
  intro schema naming endpoint id fault
  constructor
  · intro shelf
    refine generate_noTemplateFault schema naming endpoint (fun artifacts => ?_) shelf id fault
    have htaken : ∀ path shelf, NoTemplateFault (runOn (Shelf.store.taken path) shelf).1 :=
      fun _ _ => .ok _
    exact Store.save_noTemplateFault htaken Shelf.write_noTemplateFault _ artifacts
  · intro root tree
    refine generate_noTemplateFault schema naming endpoint (fun artifacts => ?_) tree id fault
    exact Store.save_noTemplateFault (FileTree.taken_noTemplateFault root)
      (FileTree.write_noTemplateFault root) _ artifacts

/-- Roles that are told of a change, named where they are known to be there. -/
theorem covered_audience_roles :
    let nodes : List Template.Node :=
      [.conditional "cqrs_restricted" false
        [.text "roles: ", .scalar "cqrs_roles" ["upper"] 1, .list "columns" ", "
          [.scalar "column" [] 1] 1] 1]
    let endpoint := { Endpoint.ofTable .mysql "d" "t" .get with
      policy := { audience := some (.roles ["staff"]) } }
    Plan.covers nodes = true ∧
      ∃ plan, endpoint.plan ofOneTable.schema = .ok plan ∧
        ∃ text, Template.expandAll (plan.context {}) [(plan.context {}).root] nodes = .ok text :=
  ⟨by decide, _, rfl, covered_templates_never_fail.1 _ {} _ (by decide)⟩

end Generator

end Scaffold
