import Scaffold.Failure
import Scaffold.Schema.Basic

/-!
# Policies that make sense

What may be wrong with a policy for a verb of a table, in the order in which it is looked for.
-/

namespace Scaffold

/-- Whether a score is one, from zero to one. -/
def isScore (score : Float) : Bool :=
  0 ≤ score && score ≤ 1

namespace Audience

/-- What is wrong with an audience of roles. -/
def problem? : Audience → Option Problem
  | .roles names =>
      if names.isEmpty then some .noAudienceRoles
      else (names.find? fun name => !isIdentifier name).map .badAudienceRole
  | _ => none

end Audience

namespace Reactor

/-- A reactor may only act on a column of its table. -/
def problem? (table : Table) (reactor : Reactor) : Option Problem :=
  match reactor.column with
  | some column => if table.hasColumn column then none else some (.reactorColumn reactor column)
  | none => none

end Reactor

namespace EffectivePolicy

def problem? (policy : EffectivePolicy) (verb : Verb) (table : Table) : Option Problem :=
  ((policy.auth.find? fun role => !isIdentifier role).map Problem.badRole).or <|
    ((policy.captcha.filter fun score => !isScore score).map Problem.badScore).or <|
      (if policy.cache.isSome ∧ verb ≠ .get then some (.cacheOn verb) else none).or <|
        (policy.audience.bind Audience.problem?).or <|
          policy.reactors.findSome? (Reactor.problem? table)

/-- Refuses a policy with a problem. -/
def check (policy : EffectivePolicy) (target : String) (verb : Verb) (table : Table) :
    Except Failure Unit :=
  match policy.problem? verb table with
  | some problem => .error (.invalid target problem)
  | none => .ok ()

end EffectivePolicy

end Scaffold
