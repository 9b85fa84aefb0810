import Mathlib.Data.List.Forall2

/-!
# Outcomes

Programs that stop at their first failure: how one step opens, and when a list is gone through to
its end.  Where they also have a state, `runOn` tells what they do to it.
-/

namespace Scaffold

@[simp] theorem Except.ok_bind {ε α β : Type} (a : α) (f : α → Except ε β) :
    (Except.ok a >>= f) = f a := rfl

@[simp] theorem Except.error_bind {ε α β : Type} (e : ε) (f : α → Except ε β) :
    (Except.error e >>= f) = .error e := rfl

@[simp] theorem Except.pure_eq_ok {ε α : Type} (a : α) :
    (pure a : Except ε α) = .ok a := rfl

theorem Except.bind_eq_ok_iff {ε α β : Type} {x : Except ε α} {f : α → Except ε β} {b : β} :
    x >>= f = .ok b ↔ ∃ a, x = .ok a ∧ f a = .ok b := by
  cases x <;> simp

theorem Except.bind_eq_error_iff {ε α β : Type} {x : Except ε α} {f : α → Except ε β} {e : ε} :
    x >>= f = .error e ↔ x = .error e ∨ ∃ a, x = .ok a ∧ f a = .error e := by
  cases x <;> simp

theorem Except.map_eq_ok_iff {ε α β : Type} {f : α → β} {x : Except ε α} {b : β} :
    x.map f = .ok b ↔ ∃ a, x = .ok a ∧ f a = b := by
  cases x <;> simp [Except.map]

theorem Except.toOption_eq_some_iff {ε α : Type} {x : Except ε α} {a : α} :
    x.toOption = some a ↔ x = .ok a := by
  cases x <;> simp [Except.toOption]

theorem Except.toOption_congr {ε δ α : Type} {x : Except ε α} {y : Except δ α}
    (h : ∀ a, x = .ok a ↔ y = .ok a) : x.toOption = y.toOption := by
  apply Option.ext
  intro a
  rw [toOption_eq_some_iff, toOption_eq_some_iff, h a]

theorem exists_of_map_toOption_eq_some {ε α β : Type} {outcome : Except ε α} {f : α → β} {b : β}
    (h : outcome.toOption.map f = some b) : ∃ a, outcome = .ok a ∧ f a = b := by
  cases outcome with
  | error e => cases h
  | ok a => exact ⟨a, rfl, Option.some.inj h⟩

theorem exists_of_mapError_eq_error {ε δ α : Type} {outcome : Except ε α} {f : ε → δ} {d : δ}
    (h : outcome.mapError f = .error d) : ∃ e, outcome = .error e ∧ f e = d := by
  cases outcome with
  | error e => exact ⟨e, rfl, Except.error.inj h⟩
  | ok a => cases h

theorem mapM_eq_ok_iff {ε α β : Type} {f : α → Except ε β} {as : List α} {bs : List β} :
    as.mapM f = .ok bs ↔ List.Forall₂ (fun a b => f a = .ok b) as bs := by
  induction as generalizing bs with
  | nil => cases bs <;> simp
  | cons a as ih =>
      rw [List.mapM_cons, List.forall₂_cons_left_iff, Except.bind_eq_ok_iff]
      simp only [Except.bind_eq_ok_iff, ih, Except.pure_eq_ok, Except.ok.injEq]
      constructor
      · rintro ⟨b, hb, rest, hrest, rfl⟩
        exact ⟨b, rest, hb, hrest, rfl⟩
      · rintro ⟨b, rest, hb, hrest, rfl⟩
        exact ⟨b, hb, rest, hrest, rfl⟩

theorem mem_of_mapM_eq_ok {ε α β : Type} {f : α → Except ε β} {as : List α} {bs : List β} {a : α}
    {b : β} (h : as.mapM f = .ok bs) (ha : a ∈ as) (hb : f a = .ok b) : b ∈ bs := by
  rw [mapM_eq_ok_iff] at h
  induction h with
  | nil => cases ha
  | cons hfirst _ ih =>
      rcases List.mem_cons.1 ha with rfl | hrest
      · rw [hb] at hfirst
        rw [Except.ok.inj hfirst]
        exact List.mem_cons_self
      · exact List.mem_cons_of_mem _ (ih hrest)

theorem exists_of_mem_mapM {ε α β : Type} {f : α → Except ε β} {as : List α} {bs : List β} {b : β}
    (h : as.mapM f = .ok bs) (hb : b ∈ bs) : ∃ a ∈ as, f a = .ok b := by
  rw [mapM_eq_ok_iff] at h
  induction h with
  | nil => cases hb
  | @cons a _ _ _ hfirst _ ih =>
      rcases List.mem_cons.1 hb with rfl | hrest
      · exact ⟨a, List.mem_cons_self, hfirst⟩
      · obtain ⟨other, hother, hbefore⟩ := ih hrest
        exact ⟨other, List.mem_cons_of_mem a hother, hbefore⟩

theorem exists_of_mapM_eq_error {ε α β : Type} {f : α → Except ε β} {as : List α} {e : ε}
    (h : as.mapM f = .error e) : ∃ a ∈ as, f a = .error e := by
  induction as with
  | nil => cases h
  | cons a as ih =>
      rw [List.mapM_cons, Except.bind_eq_error_iff] at h
      rcases h with hfirst | ⟨b, -, hrest⟩
      · exact ⟨a, List.mem_cons_self, hfirst⟩
      · rcases Except.bind_eq_error_iff.1 hrest with htail | ⟨bs, -, hdone⟩
        · obtain ⟨other, hother, herror⟩ := ih htail
          exact ⟨other, List.mem_cons_of_mem a hother, herror⟩
        · cases hdone

theorem mapM_of_imp {ε α β : Type} {f g : α → Except ε β} {as : List α} {bs : List β}
    (himp : ∀ a b, f a = .ok b → g a = .ok b) (h : as.mapM f = .ok bs) : as.mapM g = .ok bs :=
  mapM_eq_ok_iff.2 ((mapM_eq_ok_iff.1 h).imp himp)

theorem mapM_congr {ε α β : Type} {f g : α → Except ε β} {as : List α}
    (h : ∀ a ∈ as, f a = g a) : as.mapM f = as.mapM g := by
  induction as with
  | nil => rfl
  | cons a as ih =>
      rw [List.mapM_cons, List.mapM_cons, h a List.mem_cons_self,
        ih fun x hx => h x (List.mem_cons_of_mem a hx)]

theorem mapM_map {ε α β γ : Type} (f : α → Except ε β) (g : β → γ) (as : List α) :
    (as.mapM fun a => (f a).map g) = (as.mapM f).map (List.map g) := by
  induction as with
  | nil => rfl
  | cons a as ih =>
      rw [List.mapM_cons, List.mapM_cons, ih]
      cases f a with
      | error e => rfl
      | ok b => cases as.mapM f <;> rfl

theorem exists_mapM_eq_ok {ε α β : Type} {f : α → Except ε β} {as : List α}
    (h : ∀ a ∈ as, ∃ b, f a = .ok b) : ∃ bs, as.mapM f = .ok bs := by
  induction as with
  | nil => exact ⟨[], rfl⟩
  | cons a as ih =>
      obtain ⟨b, hb⟩ := h a List.mem_cons_self
      obtain ⟨bs, hbs⟩ := ih fun x hx => h x (List.mem_cons_of_mem a hx)
      exact ⟨b :: bs, by rw [List.mapM_cons, hb, hbs]; rfl⟩

/-! ## Programs with a state -/

/-- What a program answers in a state, and the state it leaves. -/
def runOn {σ ε α : Type} (program : ExceptT ε (StateM σ) α) (state : σ) : Except ε α × σ :=
  (program.run.run state).run

@[simp] theorem runOn_pure {σ ε α : Type} (a : α) (state : σ) :
    runOn (pure a : ExceptT ε (StateM σ) α) state = (.ok a, state) := rfl

@[simp] theorem runOn_throw {σ ε α : Type} (e : ε) (state : σ) :
    runOn (throw e : ExceptT ε (StateM σ) α) state = (.error e, state) := rfl

theorem runOn_bind {σ ε α β : Type} (program : ExceptT ε (StateM σ) α)
    (next : α → ExceptT ε (StateM σ) β) (state : σ) :
    runOn (program >>= next) state =
      match runOn program state with
      | (.ok a, after) => runOn (next a) after
      | (.error e, after) => (.error e, after) := by
  change ((program.run >>= fun
    | .ok a => (next a).run
    | .error e => pure (.error e)).run state).run = _
  rw [StateT.run_bind, Id.run_bind]
  simp only [runOn]
  rcases (program.run.run state).run with ⟨outcome, after⟩
  cases outcome <;> rfl

theorem runOn_bind_of_ok {σ ε α β : Type} {program : ExceptT ε (StateM σ) α}
    {next : α → ExceptT ε (StateM σ) β} {state : σ} {a : α}
    (h : (runOn program state).1 = .ok a) :
    runOn (program >>= next) state = runOn (next a) (runOn program state).2 := by
  rw [runOn_bind]
  rcases hrun : runOn program state with ⟨outcome, after⟩
  rw [hrun] at h
  rw [show outcome = .ok a from h]

theorem runOn_bind_of_error {σ ε α β : Type} {program : ExceptT ε (StateM σ) α}
    {next : α → ExceptT ε (StateM σ) β} {state : σ} {e : ε}
    (h : (runOn program state).1 = .error e) :
    runOn (program >>= next) state = (.error e, (runOn program state).2) := by
  rw [runOn_bind]
  rcases hrun : runOn program state with ⟨outcome, after⟩
  rw [hrun] at h
  rw [show outcome = .error e from h]

theorem runOn_bind_eq_ok_iff {σ ε α β : Type} {program : ExceptT ε (StateM σ) α}
    {next : α → ExceptT ε (StateM σ) β} {state : σ} {b : β} :
    (runOn (program >>= next) state).1 = .ok b ↔
      ∃ a, (runOn program state).1 = .ok a ∧
        (runOn (next a) (runOn program state).2).1 = .ok b := by
  cases h : (runOn program state).1 with
  | ok a => simp [runOn_bind_of_ok h]
  | error e => simp [runOn_bind_of_error h]

end Scaffold
