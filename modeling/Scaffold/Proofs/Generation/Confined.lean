import Scaffold.Proofs.Generation.StatementFile
import Scaffold.Proofs.Plan.Confined
import Scaffold.Proofs.Template.Quotes

/-!
# Values that keep their places

The templates of the catalog write a message between double quotes, types of columns outside of
quotes, and everything else where any plain text may stand.  So the values of a tidy plan stay on
their lines and between their quotes, in every file; those of other plans need not.
-/

namespace Scaffold

open Template (Place Lexeme IsConfined lexemesOf quoteAfterAll? joinStretches stretchesOf valuesIn)

/-! ## Places in the templates -/

namespace Catalog

/-- Whether values stand in characters where those of tidy plans may stand, and no quote is left
open. -/
def keepsPlaces (source : List Char) : Bool :=
  (lexemesOf source).foldlM (Lexeme.step? Plan.allows) ⟨none, []⟩ == some ⟨none, []⟩

/-- A template in whose nodes values stand where those of tidy plans may stand. -/
def KeepsPlaces (template : Template) : Prop :=
  ∀ nodes, template.nodes = .ok nodes → quoteAfterAll? Plan.allows none nodes = some none

theorem keepsPlaces_of_spelled {id : String} {kind : ArtifactKind} {lines : List String}
    {spelling : List (List Char)} (hspelled : Spelled lines spelling)
    (h : keepsPlaces (spelling.flatMap fun cs => cs ++ ['\n']) = true) :
    KeepsPlaces ⟨id, kind, sourceOfLines lines⟩ := by
  intro nodes hnodes
  rw [← hspelled.toList_eq, keepsPlaces, beq_iff_eq] at h
  exact Template.quoteAfterAll?_of_lexemesOf Plan.allows h hnodes

/-- Each of the eleven templates keeps places. -/
theorem keepsPlaces_entries : ∀ entry ∈ entries, KeepsPlaces entry.template := by
  simp only [entries, List.forall_mem_cons, List.not_mem_nil, false_implies, implies_true,
    and_true]
  refine ⟨?_, ?_, ?_, ?_, ?_, ?_, ?_, ?_, ?_, ?_, ?_⟩
  all_goals exact keepsPlaces_of_spelled (by repeat constructor) (by decide +kernel)

end Catalog

/-! ## Statements -/

namespace Endpoint.Planned

variable {endpoint : Endpoint} {schema : Schema} {database : Database} {plan : Plan}

theorem isIdentifier_names (h : endpoint.Planned schema database plan) (htidy : plan.Tidy) :
    ∀ name ∈ plan.statement.names, isIdentifier name = true := by
  have htable := h.isIdentifier_table
  have hsurface : ∀ name ∈ plan.surface.map Column.name, isIdentifier name = true :=
    List.forall_mem_map.2 fun column hcolumn =>
      htidy.columns column (List.mem_append_left _ hcolumn)
  have hkeys : ∀ name ∈ plan.keys.map Column.name, isIdentifier name = true :=
    List.forall_mem_map.2 fun column hcolumn =>
      htidy.columns column (List.mem_append_right _ hcolumn)
  have hjoins : ∀ join ∈ plan.activeJoins, ∀ name ∈
      [join.column, join.referencedTable, join.referencedColumn, join.labelColumn],
      isIdentifier name = true := by
    intro join hjoin
    rw [Plan.activeJoins] at hjoin
    split at hjoin
    · simpa using htidy.joins join hjoin
    · cases hjoin
  rw [Plan.statement]
  cases plan.endpoint.verb with
  | post => exact List.forall_mem_cons.2 ⟨htable, hsurface⟩
  | get =>
      refine List.forall_mem_append.2 ⟨List.forall_mem_cons.2 ⟨htable, hsurface⟩, ?_⟩
      intro name hname
      obtain ⟨join, hjoin, hname⟩ := List.mem_flatMap.1 hname
      exact hjoins join hjoin name hname
  | put => exact List.forall_mem_append.2 ⟨List.forall_mem_cons.2 ⟨htable, hsurface⟩, hkeys⟩
  | delete => exact List.forall_mem_cons.2 ⟨htable, hsurface⟩

/-! ## Files -/

theorem exists_stretches (h : endpoint.Planned schema database plan) (htidy : plan.Tidy)
    {naming : Naming} {kind : ArtifactKind} {verb : Verb} {template : Template} {text : String}
    (htemplate : Catalog.builtin.get? kind verb = some template)
    (htext : template.expand (plan.context naming) = .ok text) :
    ∃ parts, template.stretches (plan.context naming) = .ok parts ∧ joinStretches parts = text ∧
      ∀ entry ∈ valuesIn none parts, IsConfined entry.1 entry.2 := by
  obtain ⟨entry, hentry, -, rfl⟩ := Catalog.exists_entry_of_get? htemplate
  obtain ⟨nodes, hnodes, htext⟩ := Except.bind_eq_ok_iff.1 htext
  rw [Template.expandAll_eq_map_joinStretches, Except.map_eq_ok_iff] at htext
  obtain ⟨parts, hparts, hjoin⟩ := htext
  have hallowed (quote : Option Char) (name : String) (filters : List String)
      (value text : String) (hallows : Plan.allows quote name filters = true)
      (hsuits : Plan.Suits name value)
      (hvalue : (plan.context naming).naming.applyNamed value filters = .ok text) :
      IsConfined quote text := Plan.isConfined_of_allows hallows hsuits hvalue
  have hkeeps := Template.keeps_stretchesOf hallowed
    (List.forall_mem_singleton.2 (h.context_suits htidy naming)) nodes
    (Catalog.keepsPlaces_entries entry hentry nodes hnodes) hparts
  refine ⟨parts, ?_, hjoin, hkeeps.good⟩
  rw [Template.stretches, hnodes]
  exact hparts

end Endpoint.Planned

/-- The names in the statement of a tidy plan are identifiers, and in all its files no value ends
the line or the quote that it stands in. -/
theorem Generator.values_keep_places {schema : Schema} {endpoint : Endpoint} {plan : Plan}
    (hplan : endpoint.plan schema = .ok plan) (htidy : plan.Tidy) :
    (∀ name ∈ plan.statement.names, isIdentifier name = true) ∧
    ∀ naming : Naming, ∃ artifacts,
      Generator.render ⟨schema, .builtin, naming⟩ endpoint = .ok artifacts ∧
      (∃ template text, Catalog.builtin.get? .endpoint endpoint.verb = some template ∧
        template.WritesAtHeading (plan.context naming) plan.statementLines text ∧
        ⟨ArtifactKind.endpoint.path endpoint.verb plan.moduleUrl plan.fileStem, text⟩ ∈
          artifacts) ∧
      ∀ artifact ∈ artifacts, ∃ kind template parts,
        Catalog.builtin.get? kind endpoint.verb = some template ∧
        artifact.path = kind.path endpoint.verb plan.moduleUrl plan.fileStem ∧
        template.stretches (plan.context naming) = .ok parts ∧
        joinStretches parts = artifact.text ∧
        ∀ entry ∈ valuesIn none parts, IsConfined entry.1 entry.2 := by
  obtain ⟨database, h⟩ := Endpoint.plan_eq_ok_iff.1 hplan
  refine ⟨h.isIdentifier_names htidy, fun naming => ?_⟩
  obtain ⟨template, text, htemplate, htext, hwrites⟩ := plan.exists_writesAtHeading naming
  obtain ⟨artifacts, hrender, hartifact⟩ := mem_render hplan htemplate htext
  rw [h.endpoint_eq] at htemplate hartifact
  refine ⟨artifacts, hrender, ⟨template, text, htemplate, hwrites, hartifact⟩, ?_⟩
  intro artifact hmem
  obtain ⟨other, hother, hartifacts⟩ := Except.bind_eq_ok_iff.1 hrender
  rw [hplan] at hother
  cases hother
  obtain ⟨kind, -, hkind⟩ := exists_of_mem_mapM hartifacts hmem
  obtain ⟨template, text, htemplate, htext, rfl⟩ := artifact_eq_ok_iff.1 hkind
  obtain ⟨parts, hparts, hjoin, hconfined⟩ := h.exists_stretches htidy htemplate htext
  rw [h.endpoint_eq] at htemplate ⊢
  exact ⟨kind, template, parts, htemplate, rfl, hparts, hjoin, hconfined⟩

theorem Generator.invoice_message_keeps_place :
    let endpoint := { Endpoint.ofTable .mysql "crm" "invoices" .get with
      join := true, policy := { log := some "invoice's read" } }
    ∃ plan, endpoint.plan .ofInvoices = .ok plan ∧ plan.Tidy ∧
      (∀ name ∈ plan.statement.names, isIdentifier name = true) ∧
      ∃ artifacts, Generator.render ⟨.ofInvoices, .builtin, {}⟩ endpoint = .ok artifacts ∧
        ∀ artifact ∈ artifacts, ∃ template parts,
          Template.stretches template (plan.context {}) = .ok parts ∧
          joinStretches parts = artifact.text ∧
          ∀ entry ∈ valuesIn none parts, IsConfined entry.1 entry.2 := by
  have hplanned : ∃ plan, Endpoint.plan { Endpoint.ofTable .mysql "crm" "invoices" .get with
      join := true, policy := { log := some "invoice's read" } } .ofInvoices = .ok plan ∧
      plan.Tidy := by
    refine ⟨_, rfl, by decide, by decide, by decide, List.forall_mem_nil _, ?_⟩
    intro message hmessage
    cases hmessage
    refine ⟨by decide, fun opening hopening => ?_⟩
    cases hopening
    decide
  obtain ⟨plan, hplan, htidy⟩ := hplanned
  obtain ⟨hnames, hfiles⟩ := values_keep_places hplan htidy
  obtain ⟨artifacts, hrender, -, hconfined⟩ := hfiles {}
  refine ⟨plan, hplan, htidy, hnames, artifacts, hrender, fun artifact hartifact => ?_⟩
  obtain ⟨_, template, parts, -, -, hparts⟩ := hconfined artifact hartifact
  exact ⟨template, parts, hparts⟩

/-! ## Notes -/

/-- Notes with a column whose name ends the statement it is written in. -/
def Schema.ofNotes : Schema where
  databases :=
    [{ name := "desk"
       tables :=
        [{ name := "notes"
           columns :=
            [{ name := "id", type := "int", primary := true },
             { name := "body; drop table notes", type := "text" }] }] }]
  consistent := Schema.consistent_iff.2 rfl

/-- A message that ends the quote and the line it is written in. -/
def newNote : String := "a \"new\" note\nin two lines"

def Endpoint.ofNotes : Endpoint :=
  { Endpoint.ofTable .mysql "desk" "notes" .post with policy := { log := some newNote } }

/-- Whether nodes write a value in a quote. -/
def Template.writesIn (context : Context) (entry : Option Char × String) (nodes : List Node) :
    Bool :=
  match stretchesOf context [context.root] nodes with
  | .ok parts => (valuesIn none parts).contains entry
  | .error _ => false

theorem Template.exists_stretches_of_writesIn {template : Template} {context : Context}
    {entry : Option Char × String}
    (h : ∃ nodes, template.nodes = .ok nodes ∧ writesIn context entry nodes = true) :
    ∃ parts, template.stretches context = .ok parts ∧ entry ∈ valuesIn none parts := by
  obtain ⟨nodes, hnodes, hwrites⟩ := h
  rw [writesIn] at hwrites
  split at hwrites
  · next parts hparts =>
      refine ⟨parts, ?_, List.contains_iff_mem.1 hwrites⟩
      rw [stretches, hnodes]
      exact hparts
  · cases hwrites

theorem Generator.note_leaves_its_place :
    (∃ generated, (runOn (Generator.generate ⟨.ofNotes, .builtin, {}⟩ Shelf.store .ofNotes)
      .empty).1 = .ok generated) ∧
    ∃ plan template parts, Endpoint.ofNotes.plan .ofNotes = .ok plan ∧
      "body; drop table notes" ∈ plan.statement.names ∧
      isIdentifier "body; drop table notes" = false ∧
      Catalog.builtin.get? .endpoint .post = some template ∧
      template.stretches (plan.context {}) = .ok parts ∧
      (some '"', newNote) ∈ valuesIn none parts ∧ '"' ∈ newNote.toList ∧
      '\n' ∈ newNote.toList := by
  have hwrites : ∃ plan template, Endpoint.ofNotes.plan .ofNotes = .ok plan ∧
      Catalog.builtin.get? .endpoint .post = some template ∧ ∃ nodes, template.nodes = .ok nodes ∧
        Template.writesIn (plan.context {}) (some '"', newNote) nodes = true :=
    ⟨_, _, rfl, rfl, Catalog.exists_nodes_of_spelled (by repeat constructor) (by decide +kernel)⟩
  obtain ⟨plan, template, hplan, htemplate, hnodes⟩ := hwrites
  obtain ⟨parts, hparts, hmessage⟩ := Template.exists_stretches_of_writesIn hnodes
  refine ⟨Generator.exists_generated hplan {}, plan, template, parts, hplan, ?_, by decide,
    htemplate, hparts, hmessage, by decide, by decide⟩
  cases hplan
  decide

end Scaffold
