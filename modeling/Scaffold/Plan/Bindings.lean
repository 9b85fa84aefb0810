import Scaffold.Plan
import Scaffold.Template.Scope

/-!
# What templates can say about a plan

The names that the templates of a catalog may use.

* Root scalars: `generator`, `database_type`, `database`, `table`, `module_name`, `module_url`,
  `verb`, `http_method`, `crud_action`, `class_name`, `file_stem`, `endpoint_url` and `auth`; also
  `captcha`, `log_message`, `cache_ttl`, `cache_scope`, `cqrs_mode` and `cqrs_roles` where the
  policy has them.
* Sequences: `columns`, `primary_keys`, `joins`, `reactors` and `roles`.
* Predicates: `has_auth`, `has_captcha`, `has_log`, `has_cache`, `cqrs`, `cqrs_restricted`,
  `verbose`, `join`, `return_id`, `has_reactors`, `has_columns`, `has_foreign_keys`, `has_key` and
  `composite_key`.
-/

namespace Scaffold

/-- What is written into every file as the name of its maker. -/
def generator : String := "crudify 0.1.0"

/-- The scope of a role. -/
def roleScope (role : String) : Scope :=
  .ofBindings [("role", role)] [] []

namespace Reactor

def scope (reactor : Reactor) : Scope :=
  .ofBindings
    [("reactor", reactor.render), ("reactor_kind", reactor.kind.name),
      ("reactor_name", reactor.name), ("reactor_column", reactor.column.getD "")]
    [] []

end Reactor

namespace Join

/-- The label of a join, as a sequence that is empty where the key itself is shown. -/
def labelScopes (join : Join) : List Scope :=
  if join.hasDistinctLabel then
    [.ofBindings
      [("join_label_column", join.labelColumn), ("join_label_alias", join.labelAlias)] [] []]
  else []

def scope (join : Join) : Scope :=
  .ofBindings
    [("join_column", join.column), ("join_table", join.referencedTable),
      ("join_table_alias", join.tableAlias), ("join_referenced_column", join.referencedColumn),
      ("join_alias", join.columnAlias), ("join_display_column", join.labelColumn),
      ("join_kind", join.selector.name)]
    [("join_label", join.labelScopes)]
    []

end Join

namespace Column

/-- Whether a value must be given: on creation a default may stand in for it. -/
def isRequired (column : Column) (verb : Verb) : Bool :=
  if verb = .post then column.isRequiredOnCreate else !column.nullable

/-- The scope of a column, with the join by which its values can be looked up. -/
def scope (column : Column) (verb : Verb) (lookup : Option Join) : Scope :=
  let logical := column.logical
  let required := column.isRequired verb
  .ofBindings
    [("column", column.name), ("column_type", column.type), ("column_logical", logical.name),
      ("column_ts_type", logical.tsType), ("column_control", logical.formControl),
      ("column_nullable", toString column.nullable), ("column_required", toString required),
      ("column_optional", if required then "" else "?"),
      ("column_special", (column.treatment.map Treatment.name).getD "none")]
    [("column_lookup", (lookup.map Join.scope).toList)]
    []

end Column

namespace Plan

/-- The beginning of the names of the plan's files. -/
def fileStem (plan : Plan) : String :=
  Naming.fileStem plan.table.name

/-- Where the endpoint is reached. -/
def url (plan : Plan) : String :=
  "modules/" ++ plan.moduleUrl ++ "/" ++ plan.fileStem

/-- The joins that the query makes. -/
def activeJoins (plan : Plan) : List Join :=
  if plan.endpoint.join then plan.joins else []

/-- The roles that are told of a change; none where nobody or everybody is. -/
def audienceRoles (plan : Plan) : List String :=
  plan.policy.audienceRoles.getD []

/-- The scalars that every plan has. -/
def fixedScalars (plan : Plan) (naming : Naming) : List (String × String) :=
  let verb := plan.endpoint.verb
  [("generator", generator), ("database_type", plan.endpoint.dialect.name),
    ("database", plan.endpoint.database), ("table", plan.table.name),
    ("module_name", plan.moduleName), ("module_url", plan.moduleUrl), ("verb", verb.name),
    ("http_method", verb.method), ("crud_action", verb.action),
    ("class_name", naming.className plan.table.name), ("file_stem", plan.fileStem),
    ("endpoint_url", plan.url), ("auth", Text.join "," plan.policy.auth)]

/-- The scalars that depend on the policy. -/
def policyScalars (plan : Plan) : List (String × String) :=
  let policy := plan.policy
  (policy.captcha.map fun score => ("captcha", Decimal.positional score)).toList ++
    (policy.log.map fun message => ("log_message", message)).toList ++
    (match policy.cache with
      | some cache =>
          [("cache_ttl", toString cache.seconds),
            ("cache_scope", if cache.shared then "public" else "private")]
      | none => []) ++
    (policy.audience.map fun audience => ("cqrs_mode", audience.mode)).toList ++
    (if plan.audienceRoles.isEmpty then []
      else [("cqrs_roles", Text.join "," plan.audienceRoles)])

def sequences (plan : Plan) : List (String × List Scope) :=
  let verb := plan.endpoint.verb
  [("roles", plan.policy.auth.map roleScope),
    ("reactors", plan.policy.reactors.map Reactor.scope),
    ("joins", plan.activeJoins.map Join.scope),
    ("columns", plan.surface.map fun column =>
      column.scope verb (Join.forColumn? plan.joins column.name)),
    ("primary_keys", plan.keys.map fun column => column.scope verb none)]

def predicates (plan : Plan) : List (String × Bool) :=
  let policy := plan.policy
  [("has_auth", !policy.auth.isEmpty), ("has_captcha", policy.captcha.isSome),
    ("has_log", policy.log.isSome), ("has_cache", policy.cache.isSome),
    ("cqrs", policy.audience.isSome), ("cqrs_restricted", !plan.audienceRoles.isEmpty),
    ("has_reactors", !policy.reactors.isEmpty), ("join", !plan.activeJoins.isEmpty),
    ("verbose", plan.endpoint.verbose),
    ("return_id", plan.endpoint.returnId && plan.endpoint.verb == .post),
    ("has_columns", !plan.surface.isEmpty),
    ("has_foreign_keys", !plan.table.foreignKeys.isEmpty), ("has_key", !plan.keys.isEmpty),
    ("composite_key", 1 < plan.keys.length)]

/-- Everything the templates of the plan can see. -/
def context (plan : Plan) (naming : Naming) : Context :=
  { naming
    root := .ofBindings (plan.fixedScalars naming ++ plan.policyScalars) plan.sequences
      plan.predicates }

end Plan

end Scaffold
