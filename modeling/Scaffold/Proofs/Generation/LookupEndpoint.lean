import Mathlib.Data.List.Infix
import Scaffold.Proofs.Generation.StatementFile
import Scaffold.Proofs.Plan.LookupText

/-!
# Where lookups lead

A form looks up the values of a joined column in its own module, under the file stem of the
referenced table.  The endpoint that reads this table has the same stem, and the module of its own
table; so the form finds it if both tables are generated into one module.
-/

namespace Scaffold

open Template (Node expandAll expand_text expandAll_of_forall₂)

/-! ## Lines of the templates -/

/-- The address in a definition, on its second line. -/
def definitionUrlNodes : List Node :=
  [.text "\nendpoint: ", .scalar "endpoint_url" [] 2, .text "\nmethod: "]

/-- The address in a service that reads. -/
def serviceUrlNodes : List Node :=
  [.text "[]>('", .scalar "endpoint_url" [] 33, .text "', \x7b params \x7d);\n  \x7d\n\x7d\n"]

namespace Catalog

/-- Whether the built-in template for a file has some nodes in a row. -/
def HasNodes (kind : ArtifactKind) (verb : Verb) (lines : List Node) : Prop :=
  ∃ template, builtin.get? kind verb = some template ∧
    ∃ nodes, template.nodes = .ok nodes ∧ lines <:+: nodes

theorem hasNodes_of_template {kind : ArtifactKind} {verb : Verb} {lines : List Node}
    {template : Template} (htemplate : builtin.get? kind verb = some template)
    (h : ∃ nodes, template.nodes = .ok nodes ∧ decide (lines <:+: nodes) = true) :
    HasNodes kind verb lines := by
  obtain ⟨nodes, hnodes, hinfix⟩ := h
  exact ⟨template, htemplate, nodes, hnodes, of_decide_eq_true hinfix⟩

theorem exists_hasNodes_fieldsNode {verb : Verb} (h : verb = .post ∨ verb = .put) :
    ∃ line, HasNodes .editor verb [fieldsNode line] := by
  rcases h with rfl | rfl
  · exact ⟨25, hasNodes_of_template rfl
      (exists_nodes_of_spelled (by repeat constructor) (by decide +kernel))⟩
  · exact ⟨26, hasNodes_of_template rfl
      (exists_nodes_of_spelled (by repeat constructor) (by decide +kernel))⟩

theorem hasNodes_definitionUrl : HasNodes .endpoint .get definitionUrlNodes :=
  hasNodes_of_template rfl (exists_nodes_of_spelled (by repeat constructor) (by decide +kernel))

theorem hasNodes_serviceUrl : HasNodes .service .get serviceUrlNodes :=
  hasNodes_of_template rfl (exists_nodes_of_spelled (by repeat constructor) (by decide +kernel))

end Catalog

/-! ## Lines of the files -/

/-- A generated endpoint has a file with some lines in it, and the shelf has it when the endpoint
has succeeded. -/
def Generator.Writes (generator : Generator) (endpoint : Endpoint) (path lines : String) : Prop :=
  ∃ artifacts before after, generator.render endpoint = .ok artifacts ∧
    ⟨path, before ++ lines ++ after⟩ ∈ artifacts ∧
    ∀ (shelf : Shelf) (generated : Generated),
      let outcome := runOn (generator.generate Shelf.store endpoint) shelf
      outcome.1 = .ok generated → outcome.2.get? path = some (before ++ lines ++ after)

namespace Endpoint.Planned

variable {schema : Schema} {endpoint : Endpoint} {database : Database} {plan : Plan}
  {kind : ArtifactKind} {middle : List Node} {lines : String}

/-- What becomes of some nodes of a template stands in the file. -/
theorem writes (h : endpoint.Planned schema database plan) {naming : Naming}
    (hnodes : Catalog.HasNodes kind endpoint.verb middle)
    (hmiddle : expandAll (plan.context naming) [(plan.context naming).root] middle = .ok lines) :
    Generator.Writes ⟨schema, .builtin, naming⟩ endpoint
      (kind.path endpoint.verb plan.moduleUrl plan.fileStem) lines := by
  obtain ⟨template, htemplate, nodes, hread, above, below, rfl⟩ := hnodes
  obtain ⟨entry, hentry, -, rfl⟩ := Catalog.exists_entry_of_get? htemplate
  obtain ⟨covered, hcovered, hcovers⟩ := Catalog.isCovered_entries entry hentry
  obtain ⟨text, htext⟩ := plan.exists_expandAll naming hcovers
  rw [hcovered] at hread
  cases hread
  have hexpand : entry.template.expand (plan.context naming) = .ok text := by
    rw [Template.expand, hcovered]
    exact htext
  obtain ⟨front, after, hfront, -, rfl⟩ := Template.expandAll_append_eq_ok_iff.1 htext
  obtain ⟨before, found, -, hfound, rfl⟩ := Template.expandAll_append_eq_ok_iff.1 hfront
  rw [hmiddle] at hfound
  cases hfound
  rw [← h.endpoint_eq] at htemplate
  obtain ⟨artifacts, hrender, hartifact⟩ :=
    Generator.mem_render (Endpoint.plan_eq_ok_iff.2 ⟨database, h⟩) htemplate hexpand
  rw [h.endpoint_eq] at hartifact
  exact ⟨artifacts, before, after, hrender, hartifact,
    fun _ _ hgenerated => Generator.get?_of_generated hgenerated hrender hartifact⟩

theorem writes_field (h : endpoint.Planned schema database plan) (naming : Naming)
    (hverb : endpoint.verb = .post ∨ endpoint.verb = .put) {column : Column}
    (hcolumn : column ∈ plan.surface) :
    Generator.Writes ⟨schema, .builtin, naming⟩ endpoint
      (ArtifactKind.editor.path endpoint.verb plan.moduleUrl plan.fileStem)
      (column.fieldLines endpoint.verb (Join.forColumn? plan.joins column.name)
        plan.moduleUrl) := by
  obtain ⟨line, hnodes⟩ := Catalog.exists_hasNodes_fieldsNode hverb
  have hfields : expandAll (plan.context naming) [(plan.context naming).root] [fieldsNode line] =
      .ok plan.fieldLines := by
    refine expandAll_of_forall₂ (.cons (plan.expand_fieldsNode naming line) .nil) ?_
    rw [String.join_cons, String.join_nil, String.append_empty]
  obtain ⟨artifacts, above, below, hrender, hartifact, hshelf⟩ := h.writes hnodes hfields
  obtain ⟨before, after, hlines⟩ := plan.exists_fieldLines_eq hcolumn
  rw [h.endpoint_eq] at hlines
  have htext : above ++ plan.fieldLines ++ below =
      (above ++ before) ++ column.fieldLines endpoint.verb
        (Join.forColumn? plan.joins column.name) plan.moduleUrl ++ (after ++ below) := by
    rw [hlines]
    simp only [String.append_assoc]
  rw [htext] at hartifact
  simp only [htext] at hshelf
  exact ⟨artifacts, _, _, hrender, hartifact, hshelf⟩

theorem writes_definitionUrl (h : endpoint.Planned schema database plan) (naming : Naming)
    (hverb : endpoint.verb = .get) :
    Generator.Writes ⟨schema, .builtin, naming⟩ endpoint
      (ArtifactKind.endpoint.path endpoint.verb plan.moduleUrl plan.fileStem)
      ("\nendpoint: " ++ plan.url ++ "\nmethod: ") := by
  refine h.writes (hverb ▸ Catalog.hasNodes_definitionUrl) ?_
  refine expandAll_of_forall₂
    (.cons (expand_text _) <| .cons (plan.expand_url naming 2) <| .cons (expand_text _) .nil) ?_
  simp only [String.join_cons, String.join_nil, String.append_empty, String.append_assoc]

theorem writes_serviceUrl (h : endpoint.Planned schema database plan) (naming : Naming)
    (hverb : endpoint.verb = .get) :
    Generator.Writes ⟨schema, .builtin, naming⟩ endpoint
      (ArtifactKind.service.path endpoint.verb plan.moduleUrl plan.fileStem)
      ("[]>('" ++ plan.url ++ "', \x7b params \x7d);\n  \x7d\n\x7d\n") := by
  refine h.writes (hverb ▸ Catalog.hasNodes_serviceUrl) ?_
  refine expandAll_of_forall₂
    (.cons (expand_text _) <| .cons (plan.expand_url naming 33) <| .cons (expand_text _) .nil) ?_
  simp only [String.join_cons, String.join_nil, String.append_empty, String.append_assoc]

end Endpoint.Planned

/-! ## Modules -/

theorem Endpoint.pick_eq_iff {requested database : String} {ofTable ofOther : Option String} :
    pick requested ofTable database = pick requested ofOther database ↔
      requested ≠ "" ∨ ofTable.getD database = ofOther.getD database := by
  rw [pick, pick]
  by_cases h : requested = ""
  · rw [if_neg (not_not_intro h), if_neg (not_not_intro h)]
    simp [h]
  · rw [if_pos h, if_pos h]
    simp [h]

/-- Within one module lookups lead to the endpoint that reads the referenced table. -/
theorem Join.lookupUrl_eq_url_iff {join : Join} {plan : Plan} {moduleUrl : String}
    (h : join.referencedTable = plan.table.name) :
    join.lookupUrl moduleUrl = plan.url ↔ moduleUrl = plan.moduleUrl := by
  rw [lookupUrl, Plan.url, Plan.fileStem, h]
  constructor
  · intro heq
    have hchars := congrArg String.toList heq
    simp only [String.toList_append, List.append_assoc] at hchars
    have hback := List.append_cancel_left hchars
    simp only [← List.append_assoc] at hback
    exact String.toList_injective (List.append_cancel_right (List.append_cancel_right hback))
  · rintro rfl
    rfl

/-- The form for a table with a joined column tells to look values up in the form's module, and the
files that read the referenced table give an address in that table's module.  These are one address
if the module was asked for by its URL, or if both tables are in one module by default. -/
theorem lookup_finds_endpoint_iff {schema : Schema} (naming : Naming) {form reader : Endpoint}
    {formPlan readerPlan : Plan} (hform : form.plan schema = .ok formPlan)
    (hreader : reader.plan schema = .ok readerPlan)
    (hverb : form.verb = .post ∨ form.verb = .put) (hget : reader.verb = .get)
    (hdatabase : form.database = reader.database) (hurl : form.moduleUrl = reader.moduleUrl)
    {column : Column} (hcolumn : column ∈ formPlan.surface) {join : Join}
    (hjoin : Join.forColumn? formPlan.joins column.name = some join)
    (hreferenced : join.referencedTable = reader.table) :
    let generator : Generator := ⟨schema, .builtin, naming⟩
    let lookup := join.lookupUrl formPlan.moduleUrl
    generator.Writes form
        (ArtifactKind.editor.path form.verb formPlan.moduleUrl formPlan.fileStem)
        (column.fieldLines form.verb (some join) formPlan.moduleUrl) ∧
      generator.Writes reader
        (ArtifactKind.endpoint.path reader.verb readerPlan.moduleUrl readerPlan.fileStem)
        ("\nendpoint: " ++ readerPlan.url ++ "\nmethod: ") ∧
      generator.Writes reader
        (ArtifactKind.service.path reader.verb readerPlan.moduleUrl readerPlan.fileStem)
        ("[]>('" ++ readerPlan.url ++ "', \x7b params \x7d);\n  \x7d\n\x7d\n") ∧
      (lookup = readerPlan.url ↔ form.moduleUrl ≠ "" ∨
        formPlan.table.moduleUrl.getD form.database =
          readerPlan.table.moduleUrl.getD form.database) := by
  intro generator lookup
  obtain ⟨database, hplanned⟩ := Endpoint.plan_eq_ok_iff.1 hform
  obtain ⟨other, hreaderPlanned⟩ := Endpoint.plan_eq_ok_iff.1 hreader
  obtain ⟨-, -, hlocated, -⟩ := Endpoint.locate_eq_ok_iff.1 hplanned.located
  obtain ⟨-, -, hreaderLocated, htable⟩ := Endpoint.locate_eq_ok_iff.1 hreaderPlanned.located
  obtain ⟨-, hformUrl, -, -⟩ := Endpoint.moduleOf_eq_ok_iff.1 hplanned.module_eq
  obtain ⟨-, hreaderUrl, -, -⟩ := Endpoint.moduleOf_eq_ok_iff.1 hreaderPlanned.module_eq
  have hsame : other = database := by
    rw [← hdatabase, hlocated] at hreaderLocated
    exact (Option.some.inj hreaderLocated).symm
  have hname : join.referencedTable = readerPlan.table.name :=
    hreferenced.trans (Database.name_of_table? htable).symm
  have hfield := hplanned.writes_field naming hverb hcolumn
  rw [hjoin] at hfield
  refine ⟨hfield, hreaderPlanned.writes_definitionUrl naming hget,
    hreaderPlanned.writes_serviceUrl naming hget, ?_⟩
  rw [Join.lookupUrl_eq_url_iff hname, hformUrl, hreaderUrl, hsame, ← hurl, Endpoint.pick_eq_iff,
    Schema.name_of_database? hlocated]

/-- The customer of an invoice. -/
def Column.customerId : Column :=
  { name := "customer_id", type := "int" }

/-- The join of an invoice with its customer, who is shown by name. -/
def Join.customer : Join :=
  .ofKey
    { column := "customer_id", referencedTable := "customers", referencedColumn := "id"
      labelColumn := some "name" }

theorem lookup_finds_customers :
    let form := Endpoint.ofTable .mysql "crm" "invoices" .post
    let reader := Endpoint.ofTable .mysql "crm" "customers" .get
    ∃ formPlan readerPlan, form.plan .ofInvoices = .ok formPlan ∧
      reader.plan .ofInvoices = .ok readerPlan ∧ .customerId ∈ formPlan.surface ∧
      Join.forColumn? formPlan.joins "customer_id" = some .customer ∧
      Join.customer.lookupUrl formPlan.moduleUrl = readerPlan.url ∧
      readerPlan.url = "modules/crm/customers" := by
  intro form reader
  have hform : ((form.plan .ofInvoices).toOption.map fun plan =>
      (decide (.customerId ∈ plan.surface), Join.forColumn? plan.joins "customer_id")) =
        some (true, some .customer) := by
    decide +kernel
  have hreader : ((reader.plan .ofInvoices).toOption.map Plan.url) =
      some "modules/crm/customers" := by
    decide +kernel
  obtain ⟨formPlan, hform, hparts⟩ := exists_of_map_toOption_eq_some hform
  obtain ⟨readerPlan, hreader, hurl⟩ := exists_of_map_toOption_eq_some hreader
  obtain ⟨hcolumn, hjoin⟩ := Prod.mk.inj hparts
  obtain ⟨-, -, -, hiff⟩ := lookup_finds_endpoint_iff {} hform hreader (.inl rfl) rfl rfl
    rfl (of_decide_eq_true hcolumn) hjoin rfl
  exact ⟨formPlan, readerPlan, hform, hreader, of_decide_eq_true hcolumn, hjoin,
    hiff.2 (.inl (by decide)), hurl⟩

/-- The invoices belong to a module of their own. -/
def Schema.ofTwoModules : Schema where
  databases :=
    [{ name := "crm"
       tables :=
        [{ name := "customers"
           columns := [{ name := "id", type := "int" }, { name := "name", type := "text" }] },
         { name := "staff", columns := [{ name := "id", type := "int" }] },
         { Table.invoices with moduleUrl := some "sales" }] }]
  consistent := Schema.consistent_iff.2 rfl

/-- Where no module is asked for, the form looks customers up in the module of the invoices. -/
theorem lookup_misses_customers :
    let form : Endpoint :=
      { Endpoint.ofTable .mysql "crm" "invoices" .post with moduleName := "", moduleUrl := "" }
    let reader : Endpoint :=
      { Endpoint.ofTable .mysql "crm" "customers" .get with moduleName := "", moduleUrl := "" }
    let generator : Generator := ⟨.ofTwoModules, .builtin, {}⟩
    ∃ formPlan readerPlan, form.plan .ofTwoModules = .ok formPlan ∧
      reader.plan .ofTwoModules = .ok readerPlan ∧ .customerId ∈ formPlan.surface ∧
      Join.forColumn? formPlan.joins "customer_id" = some .customer ∧
      generator.Writes form
        (ArtifactKind.editor.path .post formPlan.moduleUrl formPlan.fileStem)
        (Column.customerId.fieldLines .post (some .customer) formPlan.moduleUrl) ∧
      Join.customer.lookupUrl formPlan.moduleUrl = "modules/sales/customers" ∧
      generator.Writes reader
        (ArtifactKind.endpoint.path .get readerPlan.moduleUrl readerPlan.fileStem)
        "\nendpoint: modules/crm/customers\nmethod: " := by
  intro form reader generator
  have hform : ((form.plan .ofTwoModules).toOption.map fun plan =>
      (decide (.customerId ∈ plan.surface), Join.forColumn? plan.joins "customer_id",
        Join.customer.lookupUrl plan.moduleUrl)) =
        some (true, some .customer, "modules/sales/customers") := by
    decide +kernel
  have hreader : ((reader.plan .ofTwoModules).toOption.map fun plan =>
      "\nendpoint: " ++ plan.url ++ "\nmethod: ") =
        some "\nendpoint: modules/crm/customers\nmethod: " := by
    decide +kernel
  obtain ⟨formPlan, hform, hparts⟩ := exists_of_map_toOption_eq_some hform
  obtain ⟨readerPlan, hreader, hurl⟩ := exists_of_map_toOption_eq_some hreader
  obtain ⟨hcolumn, hparts⟩ := Prod.mk.inj hparts
  obtain ⟨hjoin, hlookup⟩ := Prod.mk.inj hparts
  obtain ⟨_, hformPlanned⟩ := Endpoint.plan_eq_ok_iff.1 hform
  obtain ⟨_, hreaderPlanned⟩ := Endpoint.plan_eq_ok_iff.1 hreader
  have hfield := hformPlanned.writes_field {} (.inl rfl) (of_decide_eq_true hcolumn)
  have hdefinition := hreaderPlanned.writes_definitionUrl {} rfl
  rw [show Column.customerId.name = "customer_id" from rfl, hjoin] at hfield
  rw [hurl] at hdefinition
  exact ⟨formPlan, readerPlan, hform, hreader, of_decide_eq_true hcolumn, hjoin, hfield, hlookup,
    hdefinition⟩

end Scaffold
