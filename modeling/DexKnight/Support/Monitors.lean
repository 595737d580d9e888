import Mathlib.Data.Finset.Card
import DexKnight.Support.Runs

/-! An object behind a mutex with one condition variable, as in C++: a waiter whose
predicate does not hold sleeps; a thread that changed the object notifies one sleeper or
all of them, but only after it has given the lock back, so other threads may hold it in
between; and a sleeper may wake for no reason. What every critical section does to the
number of waiters the object has something for decides whether a wakeup can be lost. -/
namespace DexKnight.Support.Monitors
open Runs

/-- What a critical section calls once it has given the lock back. -/
inductive Notification
  | none
  | one
  | all
  deriving DecidableEq, Repr

/-- `signal` is a critical section that changes the object, `take` is what a waiter does
once its predicate holds, and nothing while it does not. -/
structure Monitor (σ ι ρ : Type) where
  initial : σ → Prop
  signal : σ → ι → σ × Notification
  take : σ → Option (ρ × σ)

/-- The object and the threads around it: who sleeps, who was woken and has not held the
lock since, and the notifications that are still to be called. -/
structure Threads (τ σ : Type) where
  shared : σ
  asleep : Finset τ := ∅
  woken : Finset τ := ∅
  ones : Nat := 0
  alls : Nat := 0

inductive Move (τ ι ρ : Type)
  | signals (input : ι)
  | notifiesOne
  | notifiesAll
  | stirs (waiter : τ)
  | takes (waiter : τ) (answer : ρ)
  | sleeps (waiter : τ)

variable {τ σ ι ρ : Type} [DecidableEq τ]

/-- A notification is owed. -/
def Threads.owes (threads : Threads τ σ) : Notification → Threads τ σ
  | .none => threads
  | .one => { threads with ones := threads.ones + 1 }
  | .all => { threads with alls := threads.alls + 1 }

def Threads.wake (threads : Threads τ σ) (waiter : τ) : Threads τ σ :=
  { threads with asleep := threads.asleep.erase waiter, woken := insert waiter threads.woken }

/-- One move of one thread. Who takes or falls asleep has just called, or was woken. -/
inductive Step (monitor : Monitor σ ι ρ) (threads : Threads τ σ) : Move τ ι ρ → Threads τ σ → Prop
  | signals (input : ι) :
      Step monitor threads (.signals input)
        ({ threads with shared := (monitor.signal threads.shared input).1 }.owes
          (monitor.signal threads.shared input).2)
  | notifiesOne {ones : Nat} {waiter : τ} : threads.ones = ones + 1 → waiter ∈ threads.asleep →
      Step monitor threads .notifiesOne ({ threads with ones }.wake waiter)
  | notifiesNobody {ones : Nat} : threads.ones = ones + 1 → threads.asleep = ∅ →
      Step monitor threads .notifiesOne { threads with ones }
  | notifiesAll {alls : Nat} : threads.alls = alls + 1 →
      Step monitor threads .notifiesAll
        { threads with alls, asleep := ∅, woken := threads.woken ∪ threads.asleep }
  | stirs {waiter : τ} : waiter ∈ threads.asleep →
      Step monitor threads (.stirs waiter) (threads.wake waiter)
  | takes {waiter : τ} {answer : ρ} {shared : σ} : waiter ∉ threads.asleep →
      monitor.take threads.shared = some (answer, shared) →
      Step monitor threads (.takes waiter answer)
        { threads with shared, woken := threads.woken.erase waiter }
  | sleeps {waiter : τ} : waiter ∉ threads.asleep → monitor.take threads.shared = none →
      Step monitor threads (.sleeps waiter) { threads with
        asleep := insert waiter threads.asleep, woken := threads.woken.erase waiter }

/-- All threads, in any interleaving, from an object nobody waits for. -/
def threads (τ : Type) [DecidableEq τ] (monitor : Monitor σ ι ρ) : Machine (Threads τ σ) (Move τ ι ρ) where
  initial threads := ∃ shared, monitor.initial shared ∧ threads = { shared }
  step := Step monitor

/-- How a critical section may change what the object has for its waiters: `supply` of
them can take something each, unless it was `released` to all. One notification answers
for one waiter, and a waiter that takes leaves less, unless there is only one. -/
structure Supplies (monitor : Monitor σ ι ρ) (τ : Type) (supply : σ → Nat) (released : σ → Prop) :
    Prop where
  vain : ∀ {shared}, monitor.take shared = none → supply shared = 0 ∧ ¬released shared
  stays : ∀ {shared answer after}, monitor.take shared = some (answer, after) →
    released after → released shared
  takes : ∀ {shared answer after}, monitor.take shared = some (answer, after) →
    supply after ≤ supply shared - 1 ∨ Subsingleton τ ∧ supply after ≤ supply shared
  silent : ∀ {shared input}, (monitor.signal shared input).2 = .none →
    (released (monitor.signal shared input).1 → released shared) ∧
      supply (monitor.signal shared input).1 ≤ supply shared
  single : ∀ {shared input}, (monitor.signal shared input).2 = .one →
    (released (monitor.signal shared input).1 → released shared) ∧
      supply (monitor.signal shared input).1 ≤ supply shared + 1

/-- Nobody sleeps, or all are about to be woken, or the object has nothing for more
waiters than were woken or are about to be. -/
structure Heeded (supply : σ → Nat) (released : σ → Prop) (threads : Threads τ σ) : Prop where
  apart : Disjoint threads.asleep threads.woken
  heeded : threads.asleep = ∅ ∨ 0 < threads.alls ∨
    (¬released threads.shared ∧ supply threads.shared ≤ threads.ones + threads.woken.card)

variable {monitor : Monitor σ ι ρ} {supply : σ → Nat} {released : σ → Prop} {before after : Threads τ σ}
  {move : Move τ ι ρ}

omit [DecidableEq τ] in
theorem Heeded.signals (supplies : Supplies monitor τ supply released)
    (heeded : Heeded supply released before) (input : ι) :
    Heeded supply released ({ before with shared := (monitor.signal before.shared input).1 }.owes
      (monitor.signal before.shared input).2) := by
  obtain ⟨apart, nobody | all | ⟨notReleased, enough⟩⟩ := heeded
  · cases (monitor.signal before.shared input).2 <;> exact ⟨apart, .inl nobody⟩
  · cases (monitor.signal before.shared input).2
    · exact ⟨apart, .inr (.inl all)⟩
    · exact ⟨apart, .inr (.inl all)⟩
    · exact ⟨apart, .inr (.inl (Nat.succ_pos _))⟩
  · cases notified : (monitor.signal before.shared input).2 with
    | none =>
      obtain ⟨stays, bound⟩ := supplies.silent notified
      exact ⟨apart, .inr (.inr ⟨fun impossible => notReleased (stays impossible), bound.trans enough⟩)⟩
    | one =>
      obtain ⟨stays, bound⟩ := supplies.single notified
      refine ⟨apart, .inr (.inr ⟨fun impossible => notReleased (stays impossible), ?_⟩)⟩
      simp only [Threads.owes]
      omega
    | all => exact ⟨apart, .inr (.inl (Nat.succ_pos _))⟩

/-- Waking a sleeper makes up for one notification that was owed. -/
theorem Heeded.wake {ones : Nat} {waiter : τ} (heeded : Heeded supply released before)
    (owed : before.ones ≤ ones + 1) (sleeper : waiter ∈ before.asleep) :
    Heeded supply released ({ before with ones }.wake waiter) := by
  obtain ⟨apart, heeded⟩ := heeded
  have wasAsleep : waiter ∉ before.woken := Finset.disjoint_left.mp apart sleeper
  refine ⟨?_, ?_⟩
  · simp only [Threads.wake, Finset.disjoint_insert_right, Finset.mem_erase]
    exact ⟨fun impossible => impossible.1 rfl, Finset.disjoint_of_subset_left (Finset.erase_subset _ _) apart⟩
  · rcases heeded with nobody | all | ⟨notReleased, enough⟩
    · rw [nobody] at sleeper
      cases sleeper
    · exact .inr (.inl all)
    · refine .inr (.inr ⟨notReleased, ?_⟩)
      simp only [Threads.wake, Finset.card_insert_of_notMem wasAsleep]
      omega

theorem Heeded.takes {waiter : τ} {answer : ρ} {shared : σ} (supplies : Supplies monitor τ supply released)
    (heeded : Heeded supply released before) (awake : waiter ∉ before.asleep)
    (taken : monitor.take before.shared = some (answer, shared)) :
    Heeded supply released { before with shared, woken := before.woken.erase waiter } := by
  obtain ⟨apart, heeded⟩ := heeded
  refine ⟨Finset.disjoint_of_subset_right (Finset.erase_subset _ _) apart, ?_⟩
  rcases heeded with nobody | all | ⟨notReleased, enough⟩
  · exact .inl nobody
  · exact .inr (.inl all)
  · rcases supplies.takes taken with fewer | ⟨alone, _⟩
    · refine .inr (.inr ⟨fun impossible => notReleased (supplies.stays taken impossible), ?_⟩)
      have lost : before.woken.card - 1 ≤ (before.woken.erase waiter).card := Finset.pred_card_le_card_erase
      dsimp only
      omega
    · -- The only waiter there is has just taken.
      refine .inl (Finset.eq_empty_of_forall_notMem fun other sleeper => ?_)
      exact awake (Subsingleton.elim other waiter ▸ sleeper)

theorem Step.heeded (supplies : Supplies monitor τ supply released)
    (heeded : Heeded supply released before) (step : Step monitor before move after) :
    Heeded supply released after := by
  cases step with
  | signals input => exact heeded.signals supplies input
  | notifiesOne owed sleeper => exact heeded.wake owed.le sleeper
  | notifiesNobody owed nobody => exact ⟨heeded.apart, .inl nobody⟩
  | notifiesAll owed => exact ⟨Finset.disjoint_empty_left _, .inl rfl⟩
  | stirs sleeper => exact heeded.wake (Nat.le_succ _) sleeper
  | takes awake taken => exact heeded.takes supplies awake taken
  | sleeps awake nothing =>
    obtain ⟨noSupply, notReleased⟩ := supplies.vain nothing
    refine ⟨?_, .inr (.inr ⟨notReleased, ?_⟩)⟩
    · rw [Finset.disjoint_insert_left]
      exact ⟨Finset.notMem_erase _ _,
        Finset.disjoint_of_subset_right (Finset.erase_subset _ _) heeded.apart⟩
    · rw [noSupply]
      exact Nat.zero_le _

/-- Over whole runs: no wakeup is lost. -/
theorem Run.heeded {moves : List (Move τ ι ρ)} (supplies : Supplies monitor τ supply released)
    (run : (threads τ monitor).Run moves after) : Heeded supply released after := by
  refine Run.invariant (Heeded supply released) run ?_ fun _ _ _ heeded step => step.heeded supplies heeded
  rintro _ ⟨shared, _, rfl⟩
  exact ⟨Finset.disjoint_empty_left _, .inl rfl⟩

end DexKnight.Support.Monitors
