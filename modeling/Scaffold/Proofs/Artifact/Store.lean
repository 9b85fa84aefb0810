import Scaffold.Artifact.Store
import Scaffold.Proofs.Outcome

/-!
# Stores that agree

Two programs with different states agree if they answer alike wherever they start, as long as their
states belong together, and leave states that belong together again.  Stores that agree on single
artifacts agree on all that is done with them.
-/

namespace Scaffold

variable {σ τ ε α β : Type}

/-- Two programs give the same answer in states that belong together, and these stay together. -/
def Agree (together : σ → τ → Prop) (program : ExceptT ε (StateM σ) α)
    (other : ExceptT ε (StateM τ) α) : Prop :=
  ∀ state otherState, together state otherState →
    (runOn program state).1 = (runOn other otherState).1 ∧
      together (runOn program state).2 (runOn other otherState).2

namespace Agree

variable {together : σ → τ → Prop}

theorem pure (a : α) :
    Agree together (Pure.pure a : ExceptT ε (StateM σ) α) (Pure.pure a) :=
  fun _ _ h => ⟨rfl, h⟩

theorem throw (e : ε) :
    Agree together (MonadExcept.throw e : ExceptT ε (StateM σ) α) (MonadExcept.throw e) :=
  fun _ _ h => ⟨rfl, h⟩

theorem bind {program : ExceptT ε (StateM σ) α} {other : ExceptT ε (StateM τ) α}
    {next : α → ExceptT ε (StateM σ) β} {otherNext : α → ExceptT ε (StateM τ) β}
    (hfirst : Agree together program other)
    (hnext : ∀ a, Agree together (next a) (otherNext a)) :
    Agree together (program >>= next) (other >>= otherNext) := by
  intro state otherState h
  obtain ⟨hanswer, hafter⟩ := hfirst state otherState h
  cases hrun : (runOn program state).1 with
  | error e =>
      rw [runOn_bind_of_error hrun, runOn_bind_of_error (hanswer ▸ hrun)]
      exact ⟨rfl, hafter⟩
  | ok a =>
      rw [runOn_bind_of_ok hrun, runOn_bind_of_ok (hanswer ▸ hrun)]
      exact hnext a _ _ hafter

end Agree

namespace Store

/-- Artifacts are refused for the first path that is taken. -/
theorem runOn_checkFree {store : Store (StateM σ)} {state : σ} {isTaken : String → Bool}
    {artifacts : List Artifact} (htaken : ∀ artifact ∈ artifacts,
      runOn (store.taken artifact.path) state = (.ok (isTaken artifact.path), state)) :
    runOn (store.checkFree artifacts) state =
      (match (artifacts.map Artifact.path).find? isTaken with
        | some path => .error (.artifactExists path)
        | none => .ok (), state) := by
  induction artifacts with
  | nil => rfl
  | cons artifact artifacts ih =>
      obtain ⟨hfirst, hrest⟩ := List.forall_mem_cons.1 htaken
      rw [Store.checkFree, runOn_bind, hfirst, List.map_cons, List.find?_cons]
      cases htakenFirst : isTaken artifact.path with
      | true => rfl
      | false => exact ih hrest

variable {store : Store (StateM σ)} {other : Store (StateM τ)} {together : σ → τ → Prop}
  {allowed : String → Prop} {artifacts : List Artifact}

/-- Two stores do the same with every artifact whose path is allowed. -/
structure Agrees (together : σ → τ → Prop) (allowed : String → Prop) (store : Store (StateM σ))
    (other : Store (StateM τ)) : Prop where
  taken : ∀ path, allowed path → Agree together (store.taken path) (other.taken path)
  write : ∀ overwrite artifact, allowed artifact.path →
    Agree together (store.write overwrite artifact) (other.write overwrite artifact)

namespace Agrees

variable (h : Agrees together allowed store other)

include h

theorem checkFree (hallowed : ∀ artifact ∈ artifacts, allowed artifact.path) :
    Agree together (store.checkFree artifacts) (other.checkFree artifacts) := by
  induction artifacts with
  | nil => exact .pure ()
  | cons artifact artifacts ih =>
      obtain ⟨hfirst, hrest⟩ := List.forall_mem_cons.1 hallowed
      rw [Store.checkFree, Store.checkFree]
      refine .bind (h.taken _ hfirst) fun taken => ?_
      cases taken with
      | true => exact .bind (.throw _) fun _ => ih hrest
      | false => exact ih hrest

theorem writeAll (hallowed : ∀ artifact ∈ artifacts, allowed artifact.path) (overwrite : Bool) :
    Agree together (store.writeAll overwrite artifacts) (other.writeAll overwrite artifacts) := by
  induction artifacts with
  | nil => exact .pure ()
  | cons artifact artifacts ih =>
      obtain ⟨hfirst, hrest⟩ := List.forall_mem_cons.1 hallowed
      rw [Store.writeAll, Store.writeAll]
      exact .bind (h.write overwrite artifact hfirst) fun _ => ih hrest

theorem save (hallowed : ∀ artifact ∈ artifacts, allowed artifact.path) (overwrite : Bool) :
    Agree together (store.save overwrite artifacts) (other.save overwrite artifacts) := by
  cases overwrite with
  | true => exact h.writeAll hallowed true
  | false => exact .bind (h.checkFree hallowed) fun _ => h.writeAll hallowed false

end Agrees

end Store

end Scaffold
