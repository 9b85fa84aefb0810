import Scaffold.Reactor
import Scaffold.Verb

/-!
# Policies

Who may call an endpoint, what protects and records a call, how long an answer may be cached, who
is told of a change, and which steps an input goes through.  A table has defaults; an endpoint asks
for what it wants and takes the table's default for the rest.
-/

namespace Scaffold

/-- Caching of answers, for everybody or for each caller alone. -/
structure Caching where
  seconds : Nat
  shared : Bool
deriving DecidableEq, Repr

/-- Who is told of a change. -/
inductive Audience where
  | everyone
  /-- The roles that may call the endpoint. -/
  | callers
  | roles (names : List String)
deriving DecidableEq, Repr

/-- The mode in documents and templates. -/
def Audience.mode : Audience → String
  | .everyone => "none"
  | .callers => "inherited"
  | .roles _ => "roles"

/-- A table's defaults for one verb. -/
structure VerbPolicy where
  /-- The roles that may call; none of them means everybody. -/
  auth : List String := []
  /-- The least score a caller must reach. -/
  captcha : Option Float := none
  log : Option String := none
  reactors : List Reactor := []

/-- A table's defaults. -/
structure TablePolicy where
  verbs : PerVerb VerbPolicy := {}
  cache : Option Caching := none
  audience : Option Audience := none

/-- What an endpoint asks for; what is absent is left to the table. -/
structure Policy where
  auth : Option (List String) := none
  captcha : Option Float := none
  log : Option String := none
  reactors : Option (List Reactor) := none
  cache : Option Caching := none
  audience : Option Audience := none

/-- What holds for an endpoint. -/
structure EffectivePolicy where
  auth : List String
  captcha : Option Float
  log : Option String
  reactors : List Reactor
  cache : Option Caching
  audience : Option Audience

/-- The policy of an endpoint, where the table's cache concerns reading only. -/
def Policy.resolve (policy : Policy) (defaults : TablePolicy) (verb : Verb) : EffectivePolicy :=
  let verbDefaults := (defaults.verbs.get? verb).getD {}
  { auth := policy.auth.getD verbDefaults.auth
    captcha := policy.captcha.or verbDefaults.captcha
    log := policy.log.or verbDefaults.log
    reactors := policy.reactors.getD verbDefaults.reactors
    cache := policy.cache.or (if verb = .get then defaults.cache else none)
    audience := policy.audience.or defaults.audience }

/-- The roles that are told of a change; none of them means everybody. -/
def EffectivePolicy.audienceRoles (policy : EffectivePolicy) : Option (List String) :=
  policy.audience.map fun
    | .everyone => []
    | .callers => policy.auth
    | .roles names => names

end Scaffold
