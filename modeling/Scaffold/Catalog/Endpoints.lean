import Scaffold.Catalog.Basic

/-!
# Endpoint definitions

What the server is told about an endpoint: its address, its protection, its input or output, and
the statement it runs.
-/

namespace Scaffold.Catalog

/-- Creates a row. -/
def postEndpoint : String := sourceOfLines [
  "# [[class_name]] create endpoint, generated by [[generator]]",
  "endpoint: [[endpoint_url]]",
  "method: [[http_method]]",
  "action: [[crud_action]]",
  "database:",
  "  type: [[database_type]]",
  "  name: [[database]]",
  "  table: [[table]]",
  "[[?has_auth]]",
  "auth:",
  "[[[roles]]]",
  "  - [[role]]",
  "[[[/roles]]]",
  "[[/?has_auth]]",
  "[[?has_captcha]]",
  "captcha: [[captcha]]",
  "[[/?has_captcha]]",
  "[[?has_log]]",
  "log: \"[[log_message]]\"",
  "[[/?has_log]]",
  "input:",
  "[[[columns]]]",
  "  [[column]]:",
  "    type: [[column_logical]]",
  "    required: [[column_required]]",
  "    special: [[column_special]]",
  "[[?verbose]]",
  "    db-type: [[column_type]]",
  "    nullable: [[column_nullable]]",
  "[[/?verbose]]",
  "[[[/columns]]]",
  "[[?has_reactors]]",
  "pipeline:",
  "[[[reactors]]]",
  "  - [[reactor]]",
  "[[[/reactors]]]",
  "[[/?has_reactors]]",
  "sql:",
  "  insert: insert into [[table]] ([[[columns|, ]]][[column]][[[/columns]]]) values ([[[columns|, ]]]@[[column]][[[/columns]]])",
  "[[?return_id]]",
  "  return-id: [[[primary_keys|, ]]][[column]][[[/primary_keys]]]",
  "[[/?return_id]]",
  "[[?cqrs]]",
  "cqrs:",
  "  event: [[module_name]].[[table]].[[verb]]",
  "  mode: [[cqrs_mode]]",
  "[[?cqrs_restricted]]",
  "  roles: \"[[cqrs_roles]]\"",
  "[[/?cqrs_restricted]]",
  "[[/?cqrs]]"]

/-- Reads rows, with the columns joined in when asked. -/
def getEndpoint : String := sourceOfLines [
  "# [[class_name]] read endpoint, generated by [[generator]]",
  "endpoint: [[endpoint_url]]",
  "method: [[http_method]]",
  "action: [[crud_action]]",
  "database:",
  "  type: [[database_type]]",
  "  name: [[database]]",
  "  table: [[table]]",
  "[[?has_auth]]",
  "auth:",
  "[[[roles]]]",
  "  - [[role]]",
  "[[[/roles]]]",
  "[[/?has_auth]]",
  "[[?has_captcha]]",
  "captcha: [[captcha]]",
  "[[/?has_captcha]]",
  "[[?has_log]]",
  "log: \"[[log_message]]\"",
  "[[/?has_log]]",
  "[[?has_cache]]",
  "cache:",
  "  ttl: [[cache_ttl]]",
  "  scope: [[cache_scope]]",
  "[[/?has_cache]]",
  "output:",
  "[[[columns]]]",
  "  [[column]]: [[column_logical]]",
  "[[[/columns]]]",
  "[[?join]]",
  "joins:",
  "[[[joins]]]",
  "  - table: [[join_table]]",
  "    as: [[join_table_alias]]",
  "    on: [[join_table_alias]].[[join_referenced_column]] = [[table]].[[join_column]]",
  "    select:",
  "      [[join_alias]]: [[join_table_alias]].[[join_referenced_column]]",
  "[[[join_label]]]",
  "      [[join_label_alias]]: [[join_table_alias]].[[join_label_column]]",
  "[[[/join_label]]]",
  "    selector: [[join_kind]]",
  "[[[/joins]]]",
  "[[/?join]]",
  "filters:",
  "  limit: integer",
  "  offset: integer",
  "  order: [ [[[columns|, ]]][[column]][[[/columns]]] ]",
  "[[[columns]]]",
  "  [[column]].eq: [[column_logical]]",
  "[[?verbose]]",
  "  [[column]].neq: [[column_logical]]",
  "  [[column]].lt: [[column_logical]]",
  "  [[column]].gt: [[column_logical]]",
  "[[/?verbose]]",
  "[[[/columns]]]",
  "sql:",
  "  select: select [[[columns|, ]]][[table]].[[column]][[[/columns]]][[?join]][[[joins]]], [[join_table_alias]].[[join_referenced_column]] as [[join_alias]][[[join_label]]], [[join_table_alias]].[[join_label_column]] as [[join_label_alias]][[[/join_label]]][[[/joins]]][[/?join]] from [[table]][[?join]][[[joins]]] left join [[join_table]] [[join_table_alias]] on [[join_table_alias]].[[join_referenced_column]] = [[table]].[[join_column]][[[/joins]]][[/?join]]"]

/-- Updates the row with a key. -/
def putEndpoint : String := sourceOfLines [
  "# [[class_name]] update endpoint, generated by [[generator]]",
  "endpoint: [[endpoint_url]]",
  "method: [[http_method]]",
  "action: [[crud_action]]",
  "database:",
  "  type: [[database_type]]",
  "  name: [[database]]",
  "  table: [[table]]",
  "[[?has_auth]]",
  "auth:",
  "[[[roles]]]",
  "  - [[role]]",
  "[[[/roles]]]",
  "[[/?has_auth]]",
  "[[?has_captcha]]",
  "captcha: [[captcha]]",
  "[[/?has_captcha]]",
  "[[?has_log]]",
  "log: \"[[log_message]]\"",
  "[[/?has_log]]",
  "input:",
  "  key:",
  "[[[primary_keys]]]",
  "    [[column]]: [[column_logical]]",
  "[[[/primary_keys]]]",
  "  values:",
  "[[[columns]]]",
  "    [[column]]:",
  "      type: [[column_logical]]",
  "      special: [[column_special]]",
  "[[?verbose]]",
  "      db-type: [[column_type]]",
  "      nullable: [[column_nullable]]",
  "[[/?verbose]]",
  "[[[/columns]]]",
  "[[?has_reactors]]",
  "pipeline:",
  "[[[reactors]]]",
  "  - [[reactor]]",
  "[[[/reactors]]]",
  "[[/?has_reactors]]",
  "sql:",
  "  update: update [[table]] set [[[columns|, ]]][[column]] = @[[column]][[[/columns]]] where [[[primary_keys| and ]]][[column]] = @[[column]][[[/primary_keys]]]",
  "[[?cqrs]]",
  "cqrs:",
  "  event: [[module_name]].[[table]].[[verb]]",
  "  mode: [[cqrs_mode]]",
  "[[?cqrs_restricted]]",
  "  roles: \"[[cqrs_roles]]\"",
  "[[/?cqrs_restricted]]",
  "[[/?cqrs]]"]

/-- Deletes the row with a key. -/
def deleteEndpoint : String := sourceOfLines [
  "# [[class_name]] delete endpoint, generated by [[generator]]",
  "endpoint: [[endpoint_url]]",
  "method: [[http_method]]",
  "action: [[crud_action]]",
  "database:",
  "  type: [[database_type]]",
  "  name: [[database]]",
  "  table: [[table]]",
  "[[?has_auth]]",
  "auth:",
  "[[[roles]]]",
  "  - [[role]]",
  "[[[/roles]]]",
  "[[/?has_auth]]",
  "[[?has_captcha]]",
  "captcha: [[captcha]]",
  "[[/?has_captcha]]",
  "[[?has_log]]",
  "log: \"[[log_message]]\"",
  "[[/?has_log]]",
  "input:",
  "[[[columns]]]",
  "  [[column]]: [[column_logical]]",
  "[[[/columns]]]",
  "sql:",
  "  delete: delete from [[table]] where [[[columns| and ]]][[column]] = @[[column]][[[/columns]]]",
  "[[?cqrs]]",
  "cqrs:",
  "  event: [[module_name]].[[table]].[[verb]]",
  "  mode: [[cqrs_mode]]",
  "[[?cqrs_restricted]]",
  "  roles: \"[[cqrs_roles]]\"",
  "[[/?cqrs_restricted]]",
  "[[/?cqrs]]"]

end Scaffold.Catalog
