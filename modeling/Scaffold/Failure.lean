import Scaffold.Decimal.Layout
import Scaffold.Introspection.Query
import Scaffold.Reactor
import Scaffold.Template.Basic

/-!
# Failures

Why something was refused or went wrong, the category an operator is told, and the words.
-/

namespace Scaffold

/-- What is wrong with a schema, an endpoint or a path. -/
inductive Problem where
  | repeatedDatabase
  | repeatedTable
  | noColumns
  | repeatedColumn (name : String)
  | missingKeyColumn (name : String)
  | badDatabaseName (name : String)
  | badTableName (name : String)
  | unknownDatabase (name : String)
  | unknownTable (table database : String)
  | badModuleName (name : String)
  | badModuleUrl (url : String)
  | notAKey (column table : String)
  | emptySelection
  | unknownColumn (column table : String)
  | hiddenColumn (column : String) (verb : Verb)
  | updateWithoutKey
  | updateWithoutColumns
  | deleteWithoutKey
  | createWithoutColumns
  | returnWithoutKey
  | readWithoutColumns
  | badRole (role : String)
  | badScore (score : Float)
  | cacheOn (verb : Verb)
  | noAudienceRoles
  | badAudienceRole (role : String)
  | reactorColumn (reactor : Reactor) (column : String)
  | unsupportedDialect (words : String)
  | badReactor (fault : Reactor.Fault)
  | unsafePath
  /-- A problem in the words of whoever found it. -/
  | stated (words : String)

def Problem.message : Problem → String
  | .repeatedDatabase => "database appears more than once in the snapshot"
  | .repeatedTable => "table name is not unique within its database"
  | .noColumns => "table has no columns"
  | .repeatedColumn name => "column '" ++ name ++ "' is declared more than once"
  | .missingKeyColumn name => "foreign key source column '" ++ name ++ "' does not exist"
  | .badDatabaseName name => "'" ++ name ++ "' is not a valid database name"
  | .badTableName name => "'" ++ name ++ "' is not a valid table name"
  | .unknownDatabase name => "database '" ++ name ++ "' is not in the schema snapshot"
  | .unknownTable table database =>
      "table '" ++ table ++ "' is not in database '" ++ database ++ "'"
  | .badModuleName name => "'" ++ name ++ "' is not a valid module name"
  | .badModuleUrl url => "'" ++ url ++ "' is not a valid module URL"
  | .notAKey column table => "'" ++ column ++ "' is not a primary key column of '" ++ table ++ "'"
  | .emptySelection => "column selection is empty"
  | .unknownColumn column table => "column '" ++ column ++ "' does not exist on '" ++ table ++ "'"
  | .hiddenColumn column verb =>
      "column '" ++ column ++ "' is not exposed on '" ++ verb.name ++ "'"
  | .updateWithoutKey => "update needs a primary key"
  | .updateWithoutColumns => "update has no non-key columns to set"
  | .deleteWithoutKey => "delete needs an exposed primary key"
  | .createWithoutColumns => "create has no input columns"
  | .returnWithoutKey => "returnId needs a primary key"
  | .readWithoutColumns => "read has no output columns"
  | .badRole role => "'" ++ role ++ "' is not a valid role name"
  | .badScore score => "captcha score " ++ Decimal.positional score ++ " is outside 0.0..=1.0"
  | .cacheOn verb => "caching is only supported on 'get', not '" ++ verb.name ++ "'"
  | .noAudienceRoles => "CQRS authorisation 'roles' needs at least one role"
  | .badAudienceRole role => "'" ++ role ++ "' is not a valid CQRS role name"
  | .reactorColumn reactor column =>
      "reactor '" ++ reactor.render ++ "' targets unknown column '" ++ column ++ "'"
  | .unsupportedDialect words => words
  | .badReactor fault => fault.message
  | .unsafePath => "artifact path must be relative and stay inside the output directory"
  | .stated words => words

/-- The category of a failure. -/
inductive FailureKind where
  | validation
  | unresolvedForeignKey
  | artifactExists
  | templateResolution
  | introspection
  | configuration
  | output
  | task
deriving DecidableEq, Repr

def FailureKind.name : FailureKind → String
  | .validation => "ValidationError"
  | .unresolvedForeignKey => "UnresolvedForeignKeyError"
  | .artifactExists => "ArtifactExistsError"
  | .templateResolution => "TemplateResolutionError"
  | .introspection => "IntrospectionError"
  | .configuration => "ConfigurationError"
  | .output => "OutputError"
  | .task => "TaskError"

inductive Failure where
  | invalid (target : String) (problem : Problem)
  | unresolvedForeignKey (table column referencedTable referencedColumn : String)
  | artifactExists (path : String)
  | template (id : String) (fault : Template.Fault)
  | connection (reason : String)
  | introspection (schema : String) (fault : IntrospectionFault)
  | request (flaw : Document.Flaw)
  | output (reason : String)
  | configuration (reason : String)
  | task (reason : String)

namespace Failure

def kind : Failure → FailureKind
  | .invalid _ _ => .validation
  | .unresolvedForeignKey .. => .unresolvedForeignKey
  | .artifactExists _ => .artifactExists
  | .template _ _ => .templateResolution
  | .connection _ | .introspection _ _ => .introspection
  | .request _ | .configuration _ => .configuration
  | .output _ => .output
  | .task _ => .task

def message : Failure → String
  | .invalid target problem => "Validation failed for '" ++ target ++ "': " ++ problem.message
  | .unresolvedForeignKey table column referencedTable referencedColumn =>
      "Foreign key '" ++ table ++ "." ++ column ++ "' references '" ++ referencedTable ++ "." ++
        referencedColumn ++ "', which is not in the schema snapshot"
  | .artifactExists path => "Artifact '" ++ path ++ "' already exists and overwrite is disabled"
  | .template id fault => "Template '" ++ id ++ "' failed to resolve: " ++ fault.message
  | .connection reason => "Failed to connect to database: " ++ reason
  | .introspection schema fault =>
      "Failed to introspect schema '" ++ schema ++ "': " ++ fault.message
  | .request flaw => "Malformed generation request: " ++ flaw.message
  | .output reason => "Failed to write output: " ++ reason
  | .configuration reason => "Configuration error: " ++ reason
  | .task reason => "Generation task did not complete: " ++ reason

end Failure

end Scaffold
