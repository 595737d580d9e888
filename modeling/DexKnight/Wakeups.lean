import DexKnight.BoundedQueue
import DexKnight.SourceProofs
import DexKnight.Support.Monitors

/-! The two condition variables that Knight's threads sleep on: the one of its event queue
(`queue.h`) and the one of the candidate source (`candidate_source.cpp`). Both notify after
they have given the lock back, so between a change and its notification anybody may call,
take, sleep or wake. No wakeup is lost all the same: for the queue whoever waits, for the
source because it is the runtime alone that waits. -/
namespace DexKnight.Wakeups
open Core.Types Core.Ingress Core.CandidateState SourceProofs Support.Runs Support.Monitors
open BoundedQueue (tryPush_cases)

/-! ## The event queue -/

section Queues

variable {τ α : Type} [DecidableEq τ] {capacity : Nat} {state : Threads τ (Queue α capacity)}

end Queues

/-! ## The candidate source -/

section Source

variable {pools : List Pool} {source : CandidateSource} {state : Threads Consumer CandidateSource}

/-- The critical sections of `CandidateSource` that wait for nothing. -/
inductive SourceCall
  | markStateInvalid (blockNumber : UInt64)
  | applyStateSnapshot (snapshot : CandidateSnapshot) (pools : List PoolSnapshot)
  | applyPendingCandidate (candidate : Candidate)
  | closeStateWaiters

/-- What each does, and whom it notifies: what was refused notifies nobody, and neither
does a snapshot without candidates. -/
def signalSource (source : CandidateSource) : SourceCall → CandidateSource × Notification
  | .markStateInvalid blockNumber =>
    match source.markStateInvalid blockNumber with
    | (true, source) => (source, .one)
    | (false, source) => (source, .none)
  | .applyStateSnapshot snapshot pools =>
    match source.applyStateSnapshot snapshot pools with
    | (true, source) => (source, if 0 < source.state.size then .one else .none)
    | (false, source) => (source, .none)
  | .applyPendingCandidate candidate =>
    match source.applyPendingCandidate candidate with
    | (true, source) => (source, .one)
    | (false, source) => (source, .none)
  | .closeStateWaiters => (source.closeStateWaiters, .all)

/-- `CandidateSource` around `m_state_cv`. -/
def sourceMonitor (pools : List Pool) :
    Monitor CandidateSource SourceCall (Except Error StateSnapshot) where
  initial source := source = { pools }
  signal := signalSource
  take := CandidateSource.waitPopState

/-- There is a state to hand over. -/
def reportable (source : CandidateSource) : Bool :=
  source.invalidSnapshotPending || decide (0 < source.state.size)

theorem waitPopState_eq_none :
    source.waitPopState = none ↔ source.closed = false ∧ reportable source = false := by
  simp [CandidateSource.waitPopState, CandidateSource.awake, reportable, and_assoc]

/-- Two calls of `wait_pop_state` at a time would be one too many: a snapshot with two
candidates notifies once, and one of them sleeps on beside the other candidate. -/
theorem second_waiter_sleeps_through_a_candidate :
    ∃ moves, ∃ state : Threads Bool CandidateSource,
      (threads Bool (sourceMonitor [])).Run moves state ∧ state.asleep = {true} ∧ state.woken = ∅ ∧
        state.ones = 0 ∧ state.alls = 0 ∧ reportable state.shared = true := by
  let candidate (seqNum : UInt64) : Candidate := ⟨{ seqNum }, ⟨[], [], []⟩, .aForB⟩
  let snapshot : CandidateSnapshot := ⟨7, 2, [candidate 1, candidate 2]⟩
  let holding : CandidateSource := { pools := [], state := snapshotted snapshot [] }
  have started : (threads Bool (sourceMonitor [])).Run [] { shared := { pools := [] } } :=
    .start ⟨_, rfl, rfl⟩
  have nothing : ({ pools := [] } : CandidateSource).waitPopState = none :=
    waitPopState_eq_none.mpr ⟨rfl, by decide +kernel⟩
  have asleep := (started.step (.sleeps (show false ∉ ∅ by simp) nothing)).step
    (.sleeps (show true ∉ {false} by simp) nothing)
  have applied : signalSource { pools := [] } (.applyStateSnapshot snapshot []) = (holding, .one) := by
    rw [signalSource, applyStateSnapshot_eq]
    have some : 0 < (snapshotted snapshot []).size := by decide +kernel
    rw [if_neg (by decide)]
    dsimp only
    rw [if_pos some]
  have signalled := asleep.step (.signals (.applyStateSnapshot snapshot []))
  rw [show (sourceMonitor []).signal = signalSource from rfl, applied] at signalled
  have notified := signalled.step (.notifiesOne rfl (show false ∈ {true, false} by simp))
  have another : (holding.waitPopState.any fun result => reportable result.2) = true := by decide +kernel
  obtain ⟨⟨answer, after⟩, taken, reports⟩ := (Option.any_eq_true _ _).mp another
  have popped := notified.step (.takes (show false ∉ Finset.erase {true, false} false by simp) taken)
  refine ⟨_, _, popped, ?_, ?_, rfl, rfl, reports⟩
  · exact show Finset.erase {true, false} false = {true} by decide
  · exact show (insert false ∅ : Finset Bool).erase false = ∅ by decide

end Source

end DexKnight.Wakeups
