import Mathlib.Tactic.Basic

/-! Threads that take turns forever. An execution is fair when no thread is ready from
some point on and never moves again. Fairness alone brings a goal about where, in every
state short of it, some thread helps: it is ready, its moves use up a measure, and no
other move adds to the measure or makes another thread the one that helps. -/
namespace DexKnight.Support.Fairness

/-- A system whose moves belong to threads, or to nobody. A thread is ready when it can
move whatever its environment does. -/
structure Scheduled (σ ι κ : Type) where
  initial : σ → Prop
  step : σ → κ → σ → Prop
  owner : κ → Option ι
  ready : ι → σ → Prop

variable {σ ι κ : Type}

/-- What happens, one move after another; where there is none, nothing happens. -/
structure Execution (system : Scheduled σ ι κ) where
  state : Nat → σ
  move : Nat → Option κ
  starts : system.initial (state 0)
  moves : ∀ n label, move n = some label → system.step (state n) label (state (n + 1))
  idles : ∀ n, move n = none → state (n + 1) = state n

variable {system : Scheduled σ ι κ}

namespace Execution

/-- A thread that stays ready moves. -/
def Fair (execution : Execution system) : Prop :=
  ∀ thread start, (∀ n ≥ start, system.ready thread (execution.state n)) →
    ∃ n ≥ start, ∃ label, execution.move n = some label ∧ system.owner label = some thread

/-- What every move keeps holds from any point on. -/
theorem holds_on (execution : Execution system) (Holds : σ → Prop)
    (keeps : ∀ s label s', Holds s → system.step s label s' → Holds s') {start n : Nat}
    (later : start ≤ n) (holds : Holds (execution.state start)) : Holds (execution.state n) := by
  induction later with
  | refl => exact holds
  | @step n _ ih =>
    cases moved : execution.move n with
    | none => exact execution.idles n moved ▸ ih
    | some label => exact keeps _ _ _ ih (execution.moves n label moved)

/-- The invariant rule. -/
theorem invariant (execution : Execution system) (Holds : σ → Prop)
    (starts : ∀ s, system.initial s → Holds s)
    (keeps : ∀ s label s', Holds s → system.step s label s' → Holds s') (n : Nat) :
    Holds (execution.state n) :=
  execution.holds_on Holds keeps (Nat.zero_le n) (starts _ execution.starts)

/-- How helpful threads bring a goal about: `Region` is never left, the thread that helps is
ready, and every move reaches the goal, uses up the measure, or is another thread's and
leaves the measure and the helper as they are. -/
structure Helped (system : Scheduled σ ι κ) (Region Goal : σ → Prop) (measure : σ → Nat)
    (helper : σ → ι) : Prop where
  stays : ∀ s label s', Region s → system.step s label s' → Region s'
  ready : ∀ s, Region s → ¬Goal s → system.ready (helper s) s
  descends : ∀ s label s', Region s → ¬Goal s → system.step s label s' →
    Goal s' ∨ measure s' < measure s ∨
      (measure s' = measure s ∧ helper s' = helper s ∧ system.owner label ≠ some (helper s))

/-- **Helpful threads.** A fair execution gets from the region to the goal. -/
theorem reaches {Region Goal : σ → Prop} {measure : σ → Nat} {helper : σ → ι}
    (helped : Helped system Region Goal measure helper) (execution : Execution system)
    (fair : execution.Fair) {start : Nat} (region : Region (execution.state start)) :
    ∃ n ≥ start, Goal (execution.state n) := by
  induction budget : measure (execution.state start) using Nat.strongRecOn generalizing start with
  | _ used ih =>
    refine Classical.byContradiction fun unreached => ?_
    have never : ∀ n ≥ start, ¬Goal (execution.state n) := fun n later reached =>
      unreached ⟨n, later, reached⟩
    have inside : ∀ n ≥ start, Region (execution.state n) := fun n later =>
      execution.holds_on Region helped.stays later region
    -- No move uses up the measure, or the rest would reach the goal by induction.
    have unmoved : ∀ n ≥ start, measure (execution.state n) = used ∧
        helper (execution.state n) = helper (execution.state start) := by
      intro n later
      induction later with
      | refl => exact ⟨budget, rfl⟩
      | @step n before known =>
        cases moved : execution.move n with
        | none => rwa [execution.idles n moved]
        | some label =>
          rcases helped.descends _ _ _ (inside n before) (never n before) (execution.moves n label moved) with
            reached | fewer | ⟨same, sameHelper, _⟩
          · exact absurd reached (never (n + 1) (Nat.le_succ_of_le before))
          · rw [known.1] at fewer
            obtain ⟨m, after, reached⟩ := ih _ fewer (inside (n + 1) (Nat.le_succ_of_le before)) rfl
            exact absurd reached (never m (Nat.le_trans (Nat.le_succ_of_le before) after))
          · exact ⟨same.trans known.1, sameHelper.trans known.2⟩
    -- So the same thread is ready from now on, and its move uses up the measure.
    obtain ⟨n, later, label, moved, owned⟩ := fair (helper (execution.state start)) start
      fun n later => by
      have isReady := helped.ready _ (inside n later) (never n later)
      rwa [(unmoved n later).2] at isReady
    rcases helped.descends _ _ _ (inside n later) (never n later) (execution.moves n label moved) with
      reached | fewer | ⟨_, _, others⟩
    · exact never (n + 1) (Nat.le_succ_of_le later) reached
    · rw [(unmoved n later).1, (unmoved (n + 1) (Nat.le_succ_of_le later)).1] at fewer
      exact Nat.lt_irrefl _ fewer
    · rw [(unmoved n later).2] at others
      exact others owned

/-- An execution that does what a list says, as far as it can be done, and then nothing. -/
def replay (system : Scheduled σ ι κ) (perform : σ → κ → Option σ)
    (sound : ∀ s label s', perform s label = some s' → system.step s label s') (first : σ)
    (starts : system.initial first) (labels : List κ) : Execution system where
  state n := (labels.take n).foldl (fun s label => (perform s label).getD s) first
  move n := labels[n]?.filter fun label =>
    (perform ((labels.take n).foldl (fun s label => (perform s label).getD s) first) label).isSome
  starts := by simpa using starts
  moves n label moved := by
    obtain ⟨isLabel, possible⟩ := Option.filter_eq_some_iff.mp moved
    obtain ⟨after, performed⟩ := Option.isSome_iff_exists.mp possible
    refine sound _ _ _ ?_
    simp [List.take_add_one, isLabel, List.foldl_append, performed]
  idles n still := by
    cases isLabel : labels[n]? with
    | none => simp [List.take_add_one, isLabel]
    | some label =>
      have impossible := Option.filter_eq_none_iff.mp still label isLabel
      rw [Option.not_isSome_iff_eq_none] at impossible
      simp [List.take_add_one, isLabel, List.foldl_append, impossible]

/-- Where no thread is ready, whatever it did before, an execution that has stopped is fair. -/
theorem fair_of_stopped (execution : Execution system) {last : Nat}
    (stopped : ∀ n ≥ last, ∀ thread, ¬system.ready thread (execution.state n)) : execution.Fair := by
  intro thread start ready
  exact absurd (ready (max start last) (Nat.le_max_left _ _))
    (stopped _ (Nat.le_max_right _ _) thread)

end Execution

end DexKnight.Support.Fairness
