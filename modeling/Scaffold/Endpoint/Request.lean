import Scaffold.Endpoint.Basic
import Scaffold.Failure
import Scaffold.Policy.Roles

/-!
# Requests

How an operator writes an endpoint down, and the endpoint that is meant: lists are texts with
separators, and what changes nothing for the verb is dropped.
-/

namespace Scaffold

open Document
  (Flaw Fields asText asBool asCount asReal asList asRecord asChoice required defaulted optional)

/-- Who is told of a change, without the list of roles. -/
inductive AudienceMode where
  | everyone
  | callers
  | roles
deriving DecidableEq, Repr

namespace AudienceMode

def named : List (String × AudienceMode) :=
  [("none", .everyone), ("inherited", .callers), ("roles", .roles)]

def name : AudienceMode → String
  | .everyone => "none"
  | .callers => "inherited"
  | .roles => "roles"

def read : Document → Except Flaw AudienceMode :=
  asChoice named

def write (mode : AudienceMode) : Document :=
  .text mode.name

end AudienceMode

structure Request where
  databaseType : String
  moduleName : String
  moduleUrl : String
  database : String
  table : String
  verb : Verb
  returnId : Bool := false
  /-- Roles with commas between them. -/
  auth : Option String := none
  captcha : Option Float := none
  log : Option String := none
  /-- Seconds; none of them means no cache. -/
  cache : Option Nat := none
  publicCache : Option Bool := none
  overwrite : Bool
  verbose : Bool
  join : Bool
  selection : Selection := {}
  /-- A pipeline of reactors. -/
  validators : Option String := none
  notify : Bool
  audienceMode : Option AudienceMode := none
  /-- Roles with commas between them. -/
  audienceRoles : Option String := none

namespace Request

def fields : Fields Request :=
  Request.mk <$> required "databaseType" asText <*> required "moduleName" asText
    <*> required "moduleUrl" asText <*> required "database" asText
    <*> required "table" asText <*> required "verb" Verb.read
    <*> defaulted "returnId" false asBool <*> optional "auth" asText
    <*> optional "captcha" asReal <*> optional "log" asText <*> optional "cache" asCount
    <*> optional "publicCache" asBool <*> required "overwrite" asBool
    <*> required "verbose" asBool <*> required "join" asBool
    <*> defaulted "args" {} Selection.read <*> optional "validators" asText
    <*> required "cqrs" asBool <*> optional "cqrsAuthorisation" AudienceMode.read
    <*> optional "cqrsAuthorisationValues" asText

def read : Document → Except Flaw Request :=
  asRecord "struct UnitRequest" fields

def readAll : Document → Except Flaw (List Request) :=
  asList read

def write (request : Request) : Document :=
  .record [("databaseType", .text request.databaseType),
    ("moduleName", .text request.moduleName), ("moduleUrl", .text request.moduleUrl),
    ("database", .text request.database), ("table", .text request.table),
    ("verb", request.verb.write), ("returnId", .bool request.returnId),
    ("auth", .option .text request.auth), ("captcha", .option .real request.captcha),
    ("log", .option .text request.log), ("cache", .option .natural request.cache),
    ("publicCache", .option .bool request.publicCache), ("overwrite", .bool request.overwrite),
    ("verbose", .bool request.verbose), ("join", .bool request.join),
    ("args", request.selection.write), ("validators", .option .text request.validators),
    ("cqrs", .bool request.notify),
    ("cqrsAuthorisation", .option AudienceMode.write request.audienceMode),
    ("cqrsAuthorisationValues", .option .text request.audienceRoles)]

def key (request : Request) : EndpointKey :=
  ⟨request.database, request.table, request.verb⟩

/-- The audience, where changes are published at all. -/
def audience (request : Request) : Option Audience :=
  if request.notify then
    some (match request.audienceMode.getD .everyone with
      | .everyone => .everyone
      | .callers => .callers
      | .roles => .roles (Roles.parse (request.audienceRoles.getD "")))
  else none

/-- The cache, unless it lasts no time. -/
def caching (request : Request) : Option Caching :=
  (request.cache.filter (0 < ·)).map fun seconds => ⟨seconds, request.publicCache.getD false⟩

/-- The steps of the pipeline, if one is given. -/
def reactors (request : Request) : Except Reactor.Fault (Option (List Reactor)) :=
  match request.validators with
  | none => .ok none
  | some source => (Reactor.parsePipeline source).map some

/-- The endpoint that is meant. -/
def toEndpoint (request : Request) : Except Failure Endpoint :=
  let target := request.key.render
  match Dialect.ofName? request.databaseType with
  | none =>
      .error (.invalid target (.unsupportedDialect (Dialect.unsupported request.databaseType)))
  | some dialect =>
      match request.reactors with
      | .error fault => .error (.invalid target (.badReactor fault))
      | .ok reactors => .ok
          { dialect
            moduleName := request.moduleName
            moduleUrl := request.moduleUrl
            database := request.database
            table := request.table
            verb := request.verb
            policy :=
              { auth := request.auth.map Roles.parse
                captcha := request.captcha
                log := request.log.filter fun message => Text.trim message ≠ ""
                reactors
                cache := request.caching
                audience := request.audience }
            selection := request.selection
            returnId := request.returnId && request.verb == .post
            overwrite := request.overwrite
            verbose := request.verbose
            join := request.join }

end Request

end Scaffold
