import Scaffold.Plan.Statement
import Scaffold.Proofs.Entries
import Scaffold.Proofs.Naming.Plain
import Scaffold.Proofs.Plan.Success
import Scaffold.Proofs.Policy.Reactors
import Scaffold.Proofs.Template.Stretches

/-!
# Values of a plan that keep their places

The checks that a plan passes make most of its values plain: its database, table and module, its
roles, its numbers, and all that is made of them.  They say nothing about the names and types of
columns, the tables that are joined, the message to log, and the rules of reactors, which only
reading them checks.  `Tidy` asks of these what the checks ask of the others.
-/

namespace Scaffold

open Template (HoldsOf IsConfined)

/-- The names of tables and columns that a statement is made with. -/
def Statement.names : Statement → List String
  | .insert table columns => table :: columns
  | .select table columns joins =>
      table :: columns ++ joins.flatMap fun join =>
        [join.column, join.referencedTable, join.referencedColumn, join.labelColumn]
  | .update table columns keys => table :: columns ++ keys
  | .delete table keys => table :: keys

namespace Plan

/-- What the checks of a plan leave open: names that are identifiers, types on one line, and a
message on one line without the quote it is written in. -/
structure Tidy (plan : Plan) : Prop where
  columns : ∀ column ∈ plan.surface ++ plan.keys, isIdentifier column.name = true
  types : ∀ column ∈ plan.surface ++ plan.keys, '\n' ∉ column.type.toList
  joins : ∀ join ∈ plan.joins, isIdentifier join.column = true ∧
    isIdentifier join.referencedTable = true ∧ isIdentifier join.referencedColumn = true ∧
    isIdentifier join.labelColumn = true
  reactors : ∀ reactor ∈ plan.policy.reactors, reactor.Named
  log : ∀ message ∈ plan.policy.log, IsConfined (some '"') message

/-- What is asked of the value of a name in templates. -/
def Suits (name value : String) : Prop :=
  if name = "column_type" then IsConfined none value
  else if name = "log_message" then IsConfined (some '"') value
  else Text.isPlain value = true

/-- Where the value of a name may stand, and which filters it may go through. -/
def allows (quote : Option Char) (name : String) (filters : List String) : Bool :=
  quote.all Template.isQuote &&
    if name = "column_type" then quote.isNone && filters.isEmpty
    else if name = "log_message" then quote == some '"' && filters.isEmpty
    else filters.all Naming.plainFilters.contains

theorem isConfined_of_allows {naming : Naming} {quote : Option Char} {name value text : String}
    {filters : List String} (hallows : allows quote name filters = true)
    (hsuits : Suits name value) (htext : naming.applyNamed value filters = .ok text) :
    IsConfined quote text := by
  rw [allows, Bool.and_eq_true] at hallows
  obtain ⟨hquote, hallows⟩ := hallows
  rw [Suits] at hsuits
  split at hsuits
  · next htype =>
      rw [if_pos htype, Bool.and_eq_true, Option.isNone_iff_eq_none, List.isEmpty_iff] at hallows
      obtain ⟨rfl, rfl⟩ := hallows
      cases htext
      exact hsuits
  · next htype =>
      rw [if_neg htype] at hallows
      split at hsuits
      · next hlog =>
          rw [if_pos hlog, Bool.and_eq_true, beq_iff_eq, List.isEmpty_iff] at hallows
          obtain ⟨rfl, rfl⟩ := hallows
          cases htext
          exact hsuits
      · next hlog =>
          rw [if_neg hlog, List.all_eq_true] at hallows
          refine Text.isConfined_of_isPlain (Naming.isPlain_of_applyNamed ?_ hsuits htext) ?_
          · exact fun filter hfilter => List.contains_iff_mem.1 (hallows filter hfilter)
          · rintro opening rfl
            exact hquote

end Plan

/-! ## Scopes -/

theorem Template.HoldsOf.ofBindings {property : String → String → Prop}
    {scalars : List (String × String)} {sequences : List (String × List Scope)}
    {predicates : List (String × Bool)}
    (hscalars : ∀ entry ∈ scalars, property entry.1 entry.2)
    (helements : ∀ entry ∈ sequences, ∀ element ∈ entry.2, HoldsOf property element) :
    HoldsOf property (.ofBindings scalars sequences predicates) :=
  .intro (fun name value h => hscalars (name, value) (Entries.mem_of_lookup_ofList h))
    fun name items h => helements (name, items) (Entries.mem_of_lookup_ofList h)

theorem roleScope_suits {role : String} (h : isIdentifier role = true) :
    HoldsOf Plan.Suits (roleScope role) := by
  refine .ofBindings ?_ (List.forall_mem_nil _)
  exact List.forall_mem_singleton.2 (Text.isPlain_of_isIdentifier h)

theorem Reactor.isPlain_render {reactor : Reactor} (h : reactor.Named) :
    Text.isPlain reactor.render = true :=
  Text.isPlain_iff.2 (forall_mem_render h (fun _ => Text.isPlainChar_of_isNamePart)
    (by decide) (by decide) (by decide))

theorem Reactor.scope_suits {reactor : Reactor} (h : reactor.Named) :
    HoldsOf Plan.Suits reactor.scope := by
  refine .ofBindings ?_ (List.forall_mem_nil _)
  simp only [List.forall_mem_cons, List.not_mem_nil, false_implies, implies_true, and_true]
  refine ⟨isPlain_render h, ?_, Text.isPlain_of_isIdentifier h.name, ?_⟩
  · change Text.isPlain reactor.kind.name = true
    cases reactor.kind <;> decide
  · change Text.isPlain (reactor.column.getD "") = true
    cases heq : reactor.column with
    | none => decide
    | some column => exact Text.isPlain_of_isIdentifier (h.column column heq)

namespace Join

/-- A join whose names are identifiers, under the names it gets. -/
structure Tidy (join : Join) : Prop where
  column : Text.isPlain join.column = true
  referencedTable : Text.isPlain join.referencedTable = true
  referencedColumn : Text.isPlain join.referencedColumn = true
  labelColumn : Text.isPlain join.labelColumn = true
  tableAlias : Text.isPlain join.tableAlias = true
  columnAlias : Text.isPlain join.columnAlias = true
  labelAlias : Text.isPlain join.labelAlias = true

variable {join : Join}

theorem tidy_ofKey {key : ForeignKey} (hcolumn : isIdentifier key.column = true)
    (htable : isIdentifier key.referencedTable = true)
    (hreferenced : isIdentifier key.referencedColumn = true)
    (hlabel : isIdentifier key.label = true) : (ofKey key).Tidy := by
  have hplain := Text.isPlain_of_isIdentifier hcolumn
  have hreferencedPlain := Text.isPlain_of_isIdentifier hreferenced
  have hlabelPlain := Text.isPlain_of_isIdentifier hlabel
  exact ⟨hplain, Text.isPlain_of_isIdentifier htable, hreferencedPlain, hlabelPlain,
    Text.isPlain_append hplain (by decide),
    Text.isPlain_append (Text.isPlain_append hplain (by decide)) hreferencedPlain,
    Text.isPlain_append (Text.isPlain_append hplain (by decide)) hlabelPlain⟩

theorem labelScopes_suit (h : join.Tidy) :
    ∀ label ∈ join.labelScopes, HoldsOf Plan.Suits label := by
  rw [labelScopes]
  split
  · refine List.forall_mem_singleton.2 (.ofBindings ?_ (List.forall_mem_nil _))
    exact List.forall_mem_cons.2 ⟨h.labelColumn, List.forall_mem_singleton.2 h.labelAlias⟩
  · exact List.forall_mem_nil _

theorem scope_suits (h : join.Tidy) : HoldsOf Plan.Suits join.scope := by
  refine .ofBindings ?_ (List.forall_mem_singleton.2 (labelScopes_suit h))
  simp only [List.forall_mem_cons, List.not_mem_nil, false_implies, implies_true, and_true]
  refine ⟨h.column, h.referencedTable, h.tableAlias, h.referencedColumn, h.columnAlias,
    h.labelColumn, ?_⟩
  change Text.isPlain join.selector.name = true
  cases join.selector <;> decide

end Join

theorem Text.isPlain_boolToString (b : Bool) : isPlain (toString b) = true := by
  cases b <;> decide

theorem LogicalType.isPlain_names (logical : LogicalType) :
    Text.isPlain logical.name = true ∧ Text.isPlain logical.tsType = true ∧
      Text.isPlain logical.formControl = true := by
  cases logical <;> decide

theorem Column.scope_suits {column : Column} (hname : isIdentifier column.name = true)
    (htype : '\n' ∉ column.type.toList) (verb : Verb) {lookup : Option Join}
    (hlookup : ∀ join ∈ lookup, join.Tidy) : HoldsOf Plan.Suits (column.scope verb lookup) := by
  have hlogical := column.logical.isPlain_names
  refine .ofBindings ?_ (List.forall_mem_singleton.2 ?_)
  · simp only [List.forall_mem_cons, List.not_mem_nil, false_implies, implies_true, and_true]
    refine ⟨Text.isPlain_of_isIdentifier hname, ⟨htype, nofun⟩, hlogical.1, hlogical.2.1,
      hlogical.2.2, Text.isPlain_boolToString _, Text.isPlain_boolToString _, ?_, ?_⟩
    · change Text.isPlain (if column.isRequired verb then "" else "?") = true
      split <;> decide
    · change Text.isPlain ((column.treatment.map Treatment.name).getD "none") = true
      rcases column.treatment with _ | (_ | _) <;> decide
  · intro element helement
    obtain ⟨join, hjoin, rfl⟩ := Option.map_eq_some_iff.1 (Option.mem_toList.1 helement)
    exact Join.scope_suits (hlookup join hjoin)

/-! ## Checks of a policy -/

theorem isIdentifier_of_find? {names : List String}
    (h : (names.find? fun name => !isIdentifier name) = none) :
    ∀ name ∈ names, isIdentifier name = true := by
  intro name hname
  simpa using List.find?_eq_none.1 h name hname

theorem Audience.isIdentifier_of_problem? {names : List String}
    (h : problem? (.roles names) = none) : ∀ name ∈ names, isIdentifier name = true := by
  rw [problem?] at h
  split at h
  · cases h
  · exact isIdentifier_of_find? (Option.map_eq_none_iff.1 h)

namespace Endpoint.Planned

variable {endpoint : Endpoint} {schema : Schema} {database : Database} {plan : Plan}

theorem isIdentifier_auth (h : endpoint.Planned schema database plan) :
    ∀ role ∈ plan.policy.auth, isIdentifier role = true := by
  have hchecked := h.checked
  rw [EffectivePolicy.problem?, Option.or_eq_none_iff, Option.map_eq_none_iff] at hchecked
  exact isIdentifier_of_find? hchecked.1

theorem isIdentifier_audienceRoles (h : endpoint.Planned schema database plan) :
    ∀ role ∈ plan.audienceRoles, isIdentifier role = true := by
  have hchecked := h.checked
  simp only [EffectivePolicy.problem?, Option.or_eq_none_iff] at hchecked
  have haudience := hchecked.2.2.2.1
  rw [Plan.audienceRoles, EffectivePolicy.audienceRoles]
  cases haudienceOf : plan.policy.audience with
  | none => exact List.forall_mem_nil _
  | some audience =>
      rw [haudienceOf, Option.bind_some] at haudience
      cases audience with
      | everyone => exact List.forall_mem_nil _
      | callers => exact h.isIdentifier_auth
      | roles names => exact Audience.isIdentifier_of_problem? haudience

theorem tidy_joins (h : endpoint.Planned schema database plan) (htidy : plan.Tidy) :
    ∀ join ∈ plan.joins, join.Tidy := by
  by_cases hverb : endpoint.verb = .delete
  · have hjoins := h.joins_eq
    rw [joinsOn, if_pos hverb, Except.ok.injEq] at hjoins
    rw [← hjoins]
    exact List.forall_mem_nil _
  · have hnames := htidy.joins
    rw [h.joins_eq_map hverb, List.forall_mem_map] at hnames ⊢
    intro key hkey
    obtain ⟨hcolumn, htable, hreferenced, hlabel⟩ := hnames key hkey
    exact Join.tidy_ofKey hcolumn htable hreferenced hlabel

theorem tidy_forColumn? (h : endpoint.Planned schema database plan) (htidy : plan.Tidy)
    (column : String) : ∀ join ∈ Join.forColumn? plan.joins column, join.Tidy :=
  fun join hjoin => h.tidy_joins htidy join (List.mem_of_find?_eq_some hjoin)

theorem isIdentifier_table (h : endpoint.Planned schema database plan) :
    isIdentifier plan.table.name = true := by
  obtain ⟨-, htable, -, hfound⟩ := locate_eq_ok_iff.1 h.located
  rw [Database.name_of_table? hfound]
  exact htable

theorem fixedScalars_suit (h : endpoint.Planned schema database plan) (naming : Naming) :
    ∀ entry ∈ plan.fixedScalars naming, Plan.Suits entry.1 entry.2 := by
  have hdatabase := (locate_eq_ok_iff.1 h.located).1
  obtain ⟨-, -, hmodule, hurl⟩ := moduleOf_eq_ok_iff.1 h.module_eq
  have htable := Text.isPlain_of_isIdentifier h.isIdentifier_table
  have hstem : Text.isPlain plan.fileStem = true := Text.isPlain_fileStem h.isIdentifier_table
  have hplainUrl := Text.isPlain_of_isModuleUrl hurl
  have hauth : ∀ role ∈ plan.policy.auth, Text.isPlain role = true := fun role hrole =>
    Text.isPlain_of_isIdentifier (h.isIdentifier_auth role hrole)
  rw [Plan.fixedScalars, h.endpoint_eq]
  simp only [List.forall_mem_cons, List.not_mem_nil, false_implies, implies_true, and_true]
  refine ⟨?generator, ?dialect, Text.isPlain_of_isIdentifier hdatabase, htable,
    Text.isPlain_of_isModuleName hmodule, hplainUrl, ?verb, ?method, ?action,
    naming.isPlain_className htable, hstem, ?url, Text.isPlain_join (by decide) hauth⟩
  case generator =>
    change Text.isPlain generator = true
    decide
  case dialect =>
    change Text.isPlain endpoint.dialect.name = true
    cases endpoint.dialect <;> decide
  case verb =>
    change Text.isPlain endpoint.verb.name = true
    cases endpoint.verb <;> decide
  case method =>
    change Text.isPlain endpoint.verb.method = true
    cases endpoint.verb <;> decide
  case action =>
    change Text.isPlain endpoint.verb.action = true
    cases endpoint.verb <;> decide
  case url =>
    exact Text.isPlain_append
      (Text.isPlain_append (Text.isPlain_append (by decide) hplainUrl) (by decide)) hstem

theorem policyScalars_suit (h : endpoint.Planned schema database plan) (htidy : plan.Tidy) :
    ∀ entry ∈ plan.policyScalars, Plan.Suits entry.1 entry.2 := by
  simp only [Plan.policyScalars, List.forall_mem_append]
  refine ⟨⟨⟨⟨?captcha, ?log⟩, ?cache⟩, ?mode⟩, ?roles⟩
  case captcha =>
    intro entry hentry
    obtain ⟨score, -, rfl⟩ := Option.map_eq_some_iff.1 (Option.mem_toList.1 hentry)
    exact Decimal.isPlain_positional score
  case log =>
    intro entry hentry
    obtain ⟨message, hmessage, rfl⟩ := Option.map_eq_some_iff.1 (Option.mem_toList.1 hentry)
    exact htidy.log message hmessage
  case cache =>
    split
    · next cache _ =>
        refine List.forall_mem_cons.2 ⟨Text.isPlain_natToString _, List.forall_mem_singleton.2 ?_⟩
        change Text.isPlain (if cache.shared then "public" else "private") = true
        split <;> decide
    · exact List.forall_mem_nil _
  case mode =>
    intro entry hentry
    obtain ⟨audience, -, rfl⟩ := Option.map_eq_some_iff.1 (Option.mem_toList.1 hentry)
    change Text.isPlain audience.mode = true
    rcases audience with _ | _ | _ <;> simp only [Audience.mode] <;> decide
  case roles =>
    split
    · exact List.forall_mem_nil _
    · exact List.forall_mem_singleton.2 (Text.isPlain_join (by decide) fun role hrole =>
        Text.isPlain_of_isIdentifier (h.isIdentifier_audienceRoles role hrole))

theorem sequences_suit (h : endpoint.Planned schema database plan) (htidy : plan.Tidy) :
    ∀ entry ∈ plan.sequences, ∀ element ∈ entry.2, HoldsOf Plan.Suits element := by
  have hcolumn (column : Column) (hmem : column ∈ plan.surface ++ plan.keys)
      (lookup : Option Join) (hlookup : ∀ join ∈ lookup, join.Tidy) :
      HoldsOf Plan.Suits (column.scope plan.endpoint.verb lookup) :=
    column.scope_suits (htidy.columns column hmem) (htidy.types column hmem) _ hlookup
  simp only [Plan.sequences, List.forall_mem_cons, List.not_mem_nil, false_implies, implies_true,
    and_true, List.forall_mem_map]
  refine ⟨?roles, ?reactors, ?joins, ?columns, ?keys⟩
  case roles => exact fun role hrole => roleScope_suits (h.isIdentifier_auth role hrole)
  case reactors =>
    exact fun reactor hreactor => Reactor.scope_suits (htidy.reactors reactor hreactor)
  case joins =>
    intro join hjoin
    rw [Plan.activeJoins] at hjoin
    split at hjoin
    · exact Join.scope_suits (h.tidy_joins htidy join hjoin)
    · cases hjoin
  case columns =>
    exact fun column hmem => hcolumn column (List.mem_append_left _ hmem) _
      (h.tidy_forColumn? htidy column.name)
  case keys =>
    exact fun column hmem => hcolumn column (List.mem_append_right _ hmem) none (by simp)

/-- Every value that the templates of a tidy plan can write suits its name. -/
theorem context_suits (h : endpoint.Planned schema database plan) (htidy : plan.Tidy)
    (naming : Naming) : HoldsOf Plan.Suits (plan.context naming).root :=
  .ofBindings (List.forall_mem_append.2 ⟨h.fixedScalars_suit naming, h.policyScalars_suit htidy⟩)
    (h.sequences_suit htidy)

end Endpoint.Planned

end Scaffold
