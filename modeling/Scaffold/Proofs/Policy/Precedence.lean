import Scaffold.Endpoint.Request
import Scaffold.Proofs.Outcome

/-!
# Requests before tables

What a request asks for holds whatever the defaults of the table are, and what it does not ask for
is the default.  To be there is not enough to be asked for: a cache of no seconds, a blank log and a
notification that is off leave the matter to the table.
-/

namespace Scaffold

/-- The parts of a policy, each of which an endpoint or its table decides. -/
inductive Aspect where
  | auth
  | captcha
  | log
  | reactors
  | cache
  | audience
deriving DecidableEq, Repr

namespace Aspect

/-- What can be decided about an aspect. -/
abbrev Value : Aspect → Type
  | auth => List String
  | captcha => Option Float
  | log => Option String
  | reactors => List Reactor
  | cache => Option Caching
  | audience => Option Audience

/-- What holds about an aspect. -/
def ofEffective (policy : EffectivePolicy) : (aspect : Aspect) → aspect.Value
  | auth => policy.auth
  | captcha => policy.captcha
  | log => policy.log
  | reactors => policy.reactors
  | cache => policy.cache
  | audience => policy.audience

/-- What a table says about an aspect for a verb; its cache is one for reads only. -/
def ofTable (defaults : TablePolicy) (verb : Verb) : (aspect : Aspect) → aspect.Value
  | auth => ((defaults.verbs.get? verb).getD {}).auth
  | captcha => ((defaults.verbs.get? verb).getD {}).captcha
  | log => ((defaults.verbs.get? verb).getD {}).log
  | reactors => ((defaults.verbs.get? verb).getD {}).reactors
  | cache => if verb = .get then defaults.cache else none
  | audience => defaults.audience

/-- What an endpoint asks for, if it does. -/
def ofPolicy? (policy : Policy) : (aspect : Aspect) → Option aspect.Value
  | auth => policy.auth
  | captcha => policy.captcha.map some
  | log => policy.log.map some
  | reactors => policy.reactors
  | cache => policy.cache.map some
  | audience => policy.audience.map some

/-- What a request asks for, if it does: a log unless it is blank, a cache unless it lasts no time,
an audience if it is to be notified, and the rest if it is there. -/
def ofRequest? (request : Request) : (aspect : Aspect) → Option aspect.Value
  | auth => request.auth.map Roles.parse
  | captcha => request.captcha.map some
  | log => (request.log.filter fun message => Text.trim message ≠ "").map some
  | reactors => request.reactors.toOption.join
  | cache => request.caching.map some
  | audience => request.audience.map some

/-! ## One rule for every aspect -/

theorem getD_map_some {α : Type} (wish default : Option α) :
    (wish.map some).getD default = wish.or default := by
  cases wish <;> rfl

theorem ofEffective_resolve (policy : Policy) (defaults : TablePolicy) (verb : Verb)
    (aspect : Aspect) :
    aspect.ofEffective (policy.resolve defaults verb) =
      (aspect.ofPolicy? policy).getD (aspect.ofTable defaults verb) := by
  cases aspect with
  | auth => rfl
  | reactors => rfl
  | captcha => exact (getD_map_some policy.captcha _).symm
  | log => exact (getD_map_some policy.log _).symm
  | cache => exact (getD_map_some policy.cache _).symm
  | audience => exact (getD_map_some policy.audience _).symm

end Aspect

namespace Request

variable {request : Request} {endpoint : Endpoint}

/-- Whether the request says anything about an aspect.  It always says whether to notify. -/
def mentions (request : Request) : Aspect → Bool
  | .auth => request.auth.isSome
  | .captcha => request.captcha.isSome
  | .log => request.log.isSome
  | .reactors => request.validators.isSome
  | .cache => request.cache.isSome
  | .audience => true

/-- Whether the request asks for something and does not only mention it. -/
def asksFor (request : Request) : Aspect → Bool
  | .auth => request.auth.isSome
  | .captcha => request.captcha.isSome
  | .log => request.log.any fun message => Text.trim message ≠ ""
  | .reactors => request.validators.isSome
  | .cache => request.cache.any (0 < ·)
  | .audience => request.notify

/-- What the conversion of a request makes of its verb and its policy. -/
theorem exists_reactors_of_toEndpoint (h : request.toEndpoint = .ok endpoint) :
    ∃ reactors, request.reactors = .ok reactors ∧ endpoint.verb = request.verb ∧
      endpoint.policy =
        { auth := request.auth.map Roles.parse
          captcha := request.captcha
          log := request.log.filter fun message => Text.trim message ≠ ""
          reactors
          cache := request.caching
          audience := request.audience } := by
  simp only [toEndpoint] at h
  split at h
  · cases h
  · split at h
    · cases h
    · next reactors hreactors =>
        cases h
        exact ⟨reactors, hreactors, rfl, rfl⟩

theorem ofPolicy?_of_toEndpoint (h : request.toEndpoint = .ok endpoint) (aspect : Aspect) :
    aspect.ofPolicy? endpoint.policy = aspect.ofRequest? request := by
  obtain ⟨reactors, hreactors, -, hpolicy⟩ := exists_reactors_of_toEndpoint h
  rw [hpolicy]
  cases aspect with
  | reactors =>
      rw [Aspect.ofRequest?, hreactors]
      cases reactors <;> rfl
  | auth | captcha | log | cache | audience => rfl

theorem isSome_of_reactors {reactors : Option (List Reactor)}
    (h : request.reactors = .ok reactors) : reactors.isSome = request.validators.isSome := by
  rw [Request.reactors] at h
  cases hsource : request.validators with
  | none =>
      rw [hsource] at h
      cases h
      rfl
  | some source =>
      rw [hsource] at h
      simp only at h
      cases hparsed : Reactor.parsePipeline source with
      | error fault =>
          rw [hparsed] at h
          cases h
      | ok steps =>
          rw [hparsed] at h
          cases h
          rfl

theorem isSome_ofRequest? (h : request.toEndpoint = .ok endpoint) (aspect : Aspect) :
    (aspect.ofRequest? request).isSome = request.asksFor aspect := by
  cases aspect with
  | auth => exact Option.isSome_map
  | captcha => exact Option.isSome_map
  | log => exact Option.isSome_map.trans Option.isSome_filter
  | reactors =>
      obtain ⟨reactors, hreactors, -, -⟩ := exists_reactors_of_toEndpoint h
      rw [Aspect.ofRequest?, hreactors, asksFor, ← isSome_of_reactors hreactors]
      cases reactors <;> rfl
  | cache =>
      have hcaching : request.caching.isSome = request.cache.any (0 < ·) :=
        Option.isSome_map.trans Option.isSome_filter
      exact Option.isSome_map.trans hcaching
  | audience =>
      have haudience : request.audience.isSome = request.notify := by
        rw [audience]
        cases request.notify <;> rfl
      exact Option.isSome_map.trans haudience

end Request

/-- Whatever a request asks for holds whatever the defaults of the table are, and what it does not
ask for is the table's default. -/
theorem request_decides_what_it_asks_for {request : Request} {endpoint : Endpoint}
    (h : request.toEndpoint = .ok endpoint) (aspect : Aspect) :
    (request.asksFor aspect = true → ∃ value, aspect.ofRequest? request = some value ∧
      ∀ defaults, aspect.ofEffective (endpoint.policy.resolve defaults endpoint.verb) = value) ∧
    (request.asksFor aspect = false → ∀ defaults,
      aspect.ofEffective (endpoint.policy.resolve defaults endpoint.verb) =
        aspect.ofTable defaults request.verb) := by
  obtain ⟨-, -, hverb, -⟩ := Request.exists_reactors_of_toEndpoint h
  have hresolve : ∀ defaults,
      aspect.ofEffective (endpoint.policy.resolve defaults endpoint.verb) =
        (aspect.ofRequest? request).getD (aspect.ofTable defaults request.verb) := by
    intro defaults
    rw [Aspect.ofEffective_resolve, Request.ofPolicy?_of_toEndpoint h, hverb]
  rw [← Request.isSome_ofRequest? h aspect]
  cases hwish : aspect.ofRequest? request with
  | some value =>
      constructor
      · intro _
        refine ⟨value, rfl, fun defaults => ?_⟩
        rw [hresolve, hwish, Option.getD_some]
      · intro hnone
        cases hnone
  | none =>
      constructor
      · intro hsome
        cases hsome
      · intro _ defaults
        rw [hresolve, hwish, Option.getD_none]

/-- A request for roles whose log, cache and notification ask for nothing. -/
def Request.ofRolesOnly : Request where
  databaseType := "mysql"
  moduleName := ""
  moduleUrl := ""
  database := "d"
  table := "t"
  verb := .get
  auth := some "admin, staff"
  log := some " "
  cache := some 0
  overwrite := false
  verbose := false
  join := false
  notify := false

theorem request_decides_roles_only :
    ∃ endpoint, Request.ofRolesOnly.toEndpoint = .ok endpoint ∧
      (∀ defaults,
        (endpoint.policy.resolve defaults endpoint.verb).auth = ["admin", "staff"]) ∧
      ∀ defaults,
        (endpoint.policy.resolve defaults endpoint.verb).cache = defaults.cache := by
  refine ⟨_, rfl, ?_, ?_⟩
  · obtain ⟨value, hvalue, hall⟩ :=
      (@request_decides_what_it_asks_for .ofRolesOnly _ rfl .auth).1 rfl
    have hroles : ["admin", "staff"] = value := Option.some.inj hvalue
    rw [hroles]
    exact hall
  · exact (@request_decides_what_it_asks_for .ofRolesOnly _ rfl .cache).2 rfl

/-- Defaults for all that the request leaves open. -/
def TablePolicy.ofReads : TablePolicy where
  verbs := { get := some { log := some "read" } }
  cache := some ⟨30, true⟩
  audience := some .everyone

theorem mention_decides_nothing :
    ∃ endpoint, Request.ofRolesOnly.toEndpoint = .ok endpoint ∧
      ∀ aspect ∈ [Aspect.log, .cache, .audience], Request.ofRolesOnly.mentions aspect = true ∧
        aspect.ofEffective (endpoint.policy.resolve {} endpoint.verb) ≠
          aspect.ofEffective (endpoint.policy.resolve .ofReads endpoint.verb) := by
  refine ⟨_, rfl, ?_⟩
  rw [List.forall_mem_cons, List.forall_mem_cons, List.forall_mem_singleton]
  refine ⟨⟨rfl, ?log⟩, ⟨rfl, ?cache⟩, ⟨rfl, ?audience⟩⟩
  case log => exact (Option.some_ne_none "read").symm
  case cache => exact (Option.some_ne_none (⟨30, true⟩ : Caching)).symm
  case audience => exact (Option.some_ne_none Audience.everyone).symm

end Scaffold
