import Mathlib.Tactic.Basic

/-! Computations over a state that either complete or fail and undo everything
they did. `StateT` over `Except` is exactly that: a failure carries no state, so
the caller still holds the one it started from. The rules below take a completed
run apart step by step; nothing else about the monad is needed to reason about
programs written in it. -/
namespace DexKnight.Support.Reverting

/-- A computation that keeps its changes only if it completes. -/
abbrev Program (σ ε : Type) := StateT σ (Except ε)

variable {σ ε α β : Type} {s : σ}

/-- Fail unless the condition holds. -/
def require (condition : Prop) [Decidable condition] (failure : ε) : Program σ ε Unit :=
  fun s => if condition then .ok ((), s) else .error failure

/-- Fail unless there is a value. -/
def demand (value : Option α) (failure : ε) : Program σ ε α :=
  fun s => match value with
    | some a => .ok (a, s)
    | none => .error failure

/-- The state after an attempt: the new one on completion, the old one otherwise. -/
def settle (run : Program σ ε α) (s : σ) : σ :=
  match run s with
  | .ok (_, after) => after
  | .error _ => s

/-- A sequence completes exactly when its first part does and the rest
completes from the state that part left. -/
theorem bind_completes {x : Program σ ε α} {f : α → Program σ ε β} {r : β × σ} :
    (x >>= f) s = .ok r ↔ ∃ a middle, x s = .ok (a, middle) ∧ f a middle = .ok r := by
  simp only [bind, StateT.bind, Except.bind]
  cases x s with
  | error e => simp
  | ok result =>
    obtain ⟨a, middle⟩ := result
    simp [and_assoc]

/-- The same for a computation without a state. -/
theorem except_bind_ok {x : Except ε α} {f : α → Except ε β} {b : β} :
    (x >>= f) = .ok b ↔ ∃ a, x = .ok a ∧ f a = .ok b := by
  cases x with
  | error e => simp [bind, Except.bind]
  | ok a => simp [bind, Except.bind]

@[simp] theorem pure_completes {a : α} {r : α × σ} :
    (pure a : Program σ ε α) s = .ok r ↔ r = (a, s) := by
  change Except.ok (a, s) = Except.ok r ↔ r = (a, s)
  rw [Except.ok.injEq, eq_comm]

/-! Steps that only look at the state, guard it or replace it leave nothing to
guess: the rest runs from a state that is already known. -/

@[simp] theorem require_bind_completes {condition : Prop} [Decidable condition] {failure : ε}
    {f : Unit → Program σ ε β} {r : β × σ} :
    (require condition failure >>= f) s = .ok r ↔ condition ∧ f () s = .ok r := by
  by_cases holds : condition <;> simp [require, bind, StateT.bind, Except.bind, holds]

@[simp] theorem demand_bind_completes {value : Option α} {failure : ε}
    {f : α → Program σ ε β} {r : β × σ} :
    (demand value failure >>= f) s = .ok r ↔ ∃ a, value = some a ∧ f a s = .ok r := by
  cases value <;> simp [demand, bind, StateT.bind, Except.bind]

@[simp] theorem get_bind_run {f : σ → Program σ ε β} : (get >>= f) s = f s s := rfl

@[simp] theorem modify_bind_run {g : σ → σ} {f : PUnit → Program σ ε β} :
    (modify g >>= f) s = f ⟨⟩ (g s) := rfl

@[simp] theorem bind_bind_run {γ : Type} {x : Program σ ε α} {f : α → Program σ ε β}
    {g : β → Program σ ε γ} : ((x >>= f) >>= g) s = (x >>= fun a => f a >>= g) s := by
  rw [bind_assoc]

@[simp] theorem require_completes {condition : Prop} [Decidable condition] {failure : ε}
    {r : Unit × σ} : require condition failure s = .ok r ↔ condition ∧ r = ((), s) := by
  unfold require
  split <;> simp_all [eq_comm]

@[simp] theorem demand_completes {value : Option α} {failure : ε} {r : α × σ} :
    demand value failure s = .ok r ↔ value = some r.1 ∧ r.2 = s := by
  unfold demand
  cases value with
  | none => simp
  | some a => cases r; simp [eq_comm]

@[simp] theorem modify_completes {f : σ → σ} {r : PUnit × σ} :
    (modify f : Program σ ε PUnit) s = .ok r ↔ r = (⟨⟩, f s) := by
  change Except.ok (⟨⟩, f s) = Except.ok r ↔ r = (⟨⟩, f s)
  rw [Except.ok.injEq, eq_comm]

@[simp] theorem discard_completes {x : Program σ ε α} {r : Unit × σ} :
    (discard x : Program σ ε Unit) s = .ok r ↔ ∃ a, x s = .ok (a, r.2) := by
  simp only [discard, Functor.discard, Functor.mapConst, Function.comp, StateT.map,
    bind, Except.bind, pure, Except.pure]
  cases x s with
  | error e => simp
  | ok result =>
    obtain ⟨a, after⟩ := result
    obtain ⟨_, expected⟩ := r
    simp

/-! The same steps when the run fails: which of them failed, and with what. -/

theorem bind_fails {x : Program σ ε α} {f : α → Program σ ε β} {e : ε} :
    (x >>= f) s = .error e ↔
      x s = .error e ∨ ∃ a middle, x s = .ok (a, middle) ∧ f a middle = .error e := by
  simp only [bind, StateT.bind, Except.bind]
  cases x s with
  | error e' => simp
  | ok result =>
    obtain ⟨a, middle⟩ := result
    simp [and_assoc]

theorem require_bind_fails {condition : Prop} [Decidable condition] {failure e : ε}
    {f : Unit → Program σ ε β} :
    (require condition failure >>= f) s = .error e ↔
      (¬ condition ∧ failure = e) ∨ (condition ∧ f () s = .error e) := by
  by_cases holds : condition <;> simp [require, bind, StateT.bind, Except.bind, holds]

theorem demand_bind_fails {value : Option α} {failure e : ε} {f : α → Program σ ε β} :
    (demand value failure >>= f) s = .error e ↔
      (value = none ∧ failure = e) ∨ ∃ a, value = some a ∧ f a s = .error e := by
  cases value <;> simp [demand, bind, StateT.bind, Except.bind]

theorem require_fails {condition : Prop} [Decidable condition] {failure e : ε} :
    require condition failure s = .error e ↔ ¬ condition ∧ failure = e := by
  unfold require
  split <;> simp_all

theorem pure_fails {a : α} {e : ε} : ¬ (pure a : Program σ ε α) s = .error e := by
  intro failed
  cases failed

/-- From `s` the program completes under exactly this guard, and then with this
answer and this state: everything a caller may know about it. -/
def Settles (x : Program σ ε α) (s : σ) (guard : Prop) (a : α) (after : σ) : Prop :=
  ∀ r, x s = .ok r ↔ guard ∧ r = (a, after)

/-- A caller runs a program with a known outcome by its outcome alone. -/
theorem Settles.bind_completes {x : Program σ ε α} {guard : Prop} {a : α} {after : σ}
    (outcome : Settles x s guard a after) {f : α → Program σ ε β} {r : β × σ} :
    (x >>= f) s = .ok r ↔ guard ∧ f a after = .ok r := by
  rw [Reverting.bind_completes]
  constructor
  · rintro ⟨a', middle, ran, rest⟩
    obtain ⟨held, same⟩ := (outcome _).mp ran
    cases same
    exact ⟨held, rest⟩
  · rintro ⟨held, rest⟩
    exact ⟨a, after, (outcome _).mpr ⟨held, rfl⟩, rest⟩

theorem Settles.guarded {x : Program σ ε α} {guard guard' : Prop} {a : α} {after : σ}
    (outcome : Settles x s guard a after) (same : guard ↔ guard') : Settles x s guard' a after :=
  fun r => (outcome r).trans (and_congr_left fun _ => same)

theorem completes_of_isOk {run : Program σ ε α} (ok : (run s).isOk = true) :
    ∃ r, run s = .ok r := by
  cases outcome : run s with
  | error e => simp [outcome, Except.isOk, Except.toBool] at ok
  | ok r => exact ⟨r, rfl⟩

/-- Why a run failed, if it did: unlike the run's result, something to compute with. -/
def failure (run : Program σ ε α) (s : σ) : Option ε :=
  match run s with
  | .error e => some e
  | .ok _ => none

theorem failure_eq_some {run : Program σ ε α} {e : ε} (failed : failure run s = some e) :
    run s = .error e := by
  unfold failure at failed
  cases outcome : run s with
  | error e' => simpa [outcome] using failed
  | ok r => simp [outcome] at failed

/-- After an attempt the state is what a completed run left, or untouched. -/
theorem settle_cases (run : Program σ ε α) (s : σ) :
    (∃ a, run s = .ok (a, settle run s)) ∨ settle run s = s := by
  unfold settle
  cases run s with
  | error e => exact .inr rfl
  | ok result => exact .inl ⟨result.1, rfl⟩

end DexKnight.Support.Reverting
