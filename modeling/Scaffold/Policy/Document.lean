import Scaffold.Policy.Basic

/-!
# Policies in documents
-/

namespace Scaffold

open Document (Flaw Fields asText asBool asCount asReal asList asRecord required defaulted optional)

namespace Caching

def fields : Fields Caching :=
  Caching.mk <$> required "ttl_seconds" asCount <*> defaulted "public" false asBool

def read : Document → Except Flaw Caching :=
  asRecord "struct CachePolicy" fields

def write (caching : Caching) : Document :=
  .record [("ttl_seconds", .natural caching.seconds), ("public", .bool caching.shared)]

end Caching

namespace Audience

/-- The modes and what each of them is, before its roles are known. -/
def modes : List (String × Audience) :=
  [("none", .everyone), ("inherited", .callers), ("roles", .roles [])]

def readMode : Document → Except Flaw Audience
  | .text name => Document.choose modes name
  | document => document.mismatch "variant identifier"

/-- The member that tells the mode, wherever it stands. -/
def modeOf (members : List (String × Document)) : Except Flaw Audience :=
  match Document.occurrences "mode" 0 members with
  | [] => .error (.missing "mode")
  | (_, value) :: rest => do
      let audience ← readMode value
      if rest.isEmpty then .ok audience else .error (.repeated "mode")

def rolesField : Fields Audience :=
  Audience.roles <$> required "roles" (asList asText)

/-- A record with a mode, or a list that starts with one.  Parts without use must be readable. -/
def read : Document → Except Flaw Audience
  | .record members => do
      let audience ← modeOf members
      if !Document.haveReadable members then throw .unreadable
      match audience with
      | .roles _ => rolesField.ofMembers members
      | other => pure other
  | .list [] => .error (.missing "mode")
  | .list (mode :: rest) => do
      let audience ← readMode mode
      if !Document.areReadable rest then throw .unreadable
      match audience with
      | .roles _ =>
          rolesField.ofItems "struct variant CqrsAuthorisation::Roles"
            (.badLength rest.length "1 element in sequence") rest
      | other =>
          if rest.isEmpty then pure other
          else throw (.badLength rest.length "0 elements in sequence")
  | document => document.mismatch "internally tagged enum CqrsAuthorisation"

def write (audience : Audience) : Document :=
  .record (("mode", .text audience.mode) :: match audience with
    | .roles names => [("roles", .texts names)]
    | _ => [])

/-- An audience stands in a record of its own. -/
def readWrapped : Document → Except Flaw Audience :=
  asRecord "struct CqrsPolicy" (required "authorisation" read)

def writeWrapped (audience : Audience) : Document :=
  .record [("authorisation", audience.write)]

end Audience

namespace VerbPolicy

def fields : Fields VerbPolicy :=
  VerbPolicy.mk <$> defaulted "auth" [] (asList asText) <*> optional "captcha" asReal
    <*> optional "log" asText <*> defaulted "reactors" [] (asList Reactor.read)

def read : Document → Except Flaw VerbPolicy :=
  asRecord "struct VerbPolicy" fields

def write (policy : VerbPolicy) : Document :=
  .record [("auth", .texts policy.auth), ("captcha", .option .real policy.captcha),
    ("log", .option .text policy.log), ("reactors", .list (policy.reactors.map Reactor.write))]

end VerbPolicy

namespace TablePolicy

def fields : Fields TablePolicy :=
  TablePolicy.mk <$> defaulted "verbs" {} (PerVerb.read VerbPolicy.read)
    <*> optional "cache" Caching.read <*> optional "cqrs" Audience.readWrapped

def read : Document → Except Flaw TablePolicy :=
  asRecord "struct TablePolicy" fields

def write (policy : TablePolicy) : Document :=
  .record [("verbs", policy.verbs.write VerbPolicy.write),
    ("cache", .option Caching.write policy.cache),
    ("cqrs", .option Audience.writeWrapped policy.audience)]

end TablePolicy

namespace Policy

/-- Where a policy of its own is written down, every part of it may be absent. -/
def fields : Fields Policy :=
  Policy.mk <$> optional "auth" (asList asText) <*> optional "captcha" asReal
    <*> optional "log" asText <*> optional "reactors" (asList Reactor.read)
    <*> optional "cache" Caching.read <*> optional "cqrs" Audience.readWrapped

def read : Document → Except Flaw Policy :=
  asRecord "a policy" fields

def write (writeReactor : Reactor → Document) (policy : Policy) : Document :=
  .record [("auth", .option .texts policy.auth), ("captcha", .option .real policy.captcha),
    ("log", .option .text policy.log),
    ("reactors", .option (fun reactors => .list (reactors.map writeReactor)) policy.reactors),
    ("cache", .option Caching.write policy.cache),
    ("cqrs", .option Audience.writeWrapped policy.audience)]

end Policy

end Scaffold
