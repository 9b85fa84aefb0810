import Scaffold.Plan.Bindings
import Scaffold.Template.Guarded

/-!
# The vocabulary of plans

The names that a template may count on, whatever the plan: those of `Plan.context`.
-/

namespace Scaffold

open Template (Vocabulary)

def roleVocabulary : Vocabulary where
  scalars := ["role"]

def Reactor.vocabulary : Vocabulary where
  scalars := ["reactor", "reactor_kind", "reactor_name", "reactor_column"]

namespace Join

def labelVocabulary : Vocabulary where
  scalars := ["join_label_column", "join_label_alias"]

def vocabulary : Vocabulary where
  scalars :=
    ["join_column", "join_table", "join_table_alias", "join_referenced_column", "join_alias",
      "join_display_column", "join_kind"]
  sequences := [("join_label", labelVocabulary)]

end Join

def Column.vocabulary : Vocabulary where
  scalars :=
    ["column", "column_type", "column_logical", "column_ts_type", "column_control",
      "column_nullable", "column_required", "column_optional", "column_special"]
  sequences := [("column_lookup", Join.vocabulary)]

namespace Plan

/-- The names at the root. -/
def vocabulary : Vocabulary where
  scalars :=
    ["generator", "database_type", "database", "table", "module_name", "module_url", "verb",
      "http_method", "crud_action", "class_name", "file_stem", "endpoint_url", "auth"]
  guarded :=
    [("captcha", "has_captcha"), ("log_message", "has_log"), ("cache_ttl", "has_cache"),
      ("cache_scope", "has_cache"), ("cqrs_mode", "cqrs"), ("cqrs_roles", "cqrs_restricted")]
  sequences :=
    [("roles", roleVocabulary), ("reactors", Reactor.vocabulary), ("joins", Join.vocabulary),
      ("columns", Column.vocabulary), ("primary_keys", Column.vocabulary)]

def predicateNames : List String :=
  ["has_auth", "has_captcha", "has_log", "has_cache", "cqrs", "cqrs_restricted", "has_reactors",
    "join", "verbose", "return_id", "has_columns", "has_foreign_keys", "has_key", "composite_key"]

/-- Whether the names that nodes use are there in every plan's context. -/
def covers (nodes : List Template.Node) : Bool :=
  Template.areGuarded predicateNames [] [vocabulary] nodes

end Plan

end Scaffold
