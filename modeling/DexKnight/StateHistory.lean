import DexKnight.SourceProofs
import DexKnight.Support.Runs

/-! `candidate::State` over whole runs of its four operations, with any arguments. The
state remembers nothing about where its content came from, so the statement looks back
at the calls and their answers: a valid state is the latest accepted snapshot, the
pending transactions accepted after it, and nothing else, less what was popped. -/
namespace DexKnight.StateHistory
open Core.Types Core.CandidateState Support.Runs SourceProofs

/-- The operations that may change the state. -/
inductive Operation
  | applySnapshot (snapshot : CandidateSnapshot) (pools : List PoolSnapshot)
  | applyPendingTx (candidate : Candidate)
  | markInvalid (blockNumber : UInt64)
  | popNextSnapshot

inductive Answer
  | decided (accepted : Bool)
  | popped (snapshot : Option StateSnapshot)

/-- `false`, or `std::nullopt`. -/
def Answer.Refused : Answer → Prop
  | .decided accepted => accepted = false
  | .popped snapshot => snapshot = none

/-- One operation: its answer and the state it leaves. -/
def perform (state : State) : Operation → Answer × State
  | .applySnapshot snapshot pools => (state.applySnapshot snapshot pools).map .decided id
  | .applyPendingTx candidate => (state.applyPendingTx candidate).map .decided id
  | .markInvalid blockNumber => (state.markInvalid blockNumber).map .decided id
  | .popNextSnapshot => state.popNextSnapshot.map .popped id

structure Call where
  operation : Operation
  answer : Answer

/-- The state under calls in any order, from the initial one. -/
def calls : Machine State Call where
  initial state := state = {}
  step state call after := perform state call.operation = (call.answer, after)

variable {state after : State} {operation : Operation} {answer : Answer}

/-! ## One operation -/

/-- Everything an operation can do. -/
inductive Outcome (state : State) : Operation → Answer → State → Prop
  | refused {operation : Operation} {answer : Answer} : answer.Refused →
      Outcome state operation answer state
  | snapshotted {snapshot : CandidateSnapshot} {pools : List PoolSnapshot} :
      state.isOlder snapshot.blockNumber = false →
      state.localMempool.snapshotSeq ≤ snapshot.snapshotSeq →
      Outcome state (.applySnapshot snapshot pools) (.decided true)
        (SourceProofs.snapshotted snapshot pools)
  | pending {candidate : Candidate} : state.valid = true →
      state.localMempool.snapshotSeq < candidate.tx.seqNum →
      Outcome state (.applyPendingTx candidate) (.decided true)
        { state with localMempool := { state.localMempool with
          candidates := LocalMempool.insertOrAssign state.localMempool.candidates candidate } }
  | invalidated {blockNumber : UInt64} : state.isOlder blockNumber = false →
      Outcome state (.markInvalid blockNumber) (.decided true) (SourceProofs.invalidated blockNumber)
  | popped {seqNum : UInt64} {candidate : Candidate} : state.valid = true →
      state.localMempool.candidates[seqNum]? = some candidate →
      (∀ other entry, state.localMempool.candidates[other]? = some entry → seqNum ≤ other) →
      Outcome state .popNextSnapshot (.popped (some (state.makeSnapshot (some candidate))))
        { state with localMempool := { state.localMempool with
          candidates := state.localMempool.candidates.erase seqNum } }

/-- A pop that answers took the least entry; one that does not took nothing. -/
private theorem popNextSnapshot_outcome (state : State) :
    Outcome state .popNextSnapshot (.popped state.popNextSnapshot.1) state.popNextSnapshot.2 := by
  have nothing : Outcome state .popNextSnapshot (.popped none) state := .refused rfl
  unfold State.popNextSnapshot
  by_cases valid : state.valid = true
  · rw [if_pos valid]
    rcases popNextCandidate_cases state.localMempool with
      ⟨_, empty⟩ | ⟨seqNum, candidate, found, least, popped⟩
    · rw [empty]
      exact nothing
    · rw [popped]
      exact .popped valid found least
  · rw [if_neg valid]
    exact nothing

/-- A valid state with an entry answers a pop. -/
theorem popNextSnapshot_answers (valid : state.valid = true)
    (loaded : state.localMempool.candidates ≠ ∅) :
    ∃ returned after, state.popNextSnapshot = (some returned, after) := by
  rcases popNextCandidate_cases state.localMempool with ⟨empty, _⟩ | ⟨_, _, _, _, popped⟩
  · exact absurd empty loaded
  · rw [State.popNextSnapshot, if_pos valid, popped]
    exact ⟨_, _, rfl⟩

theorem perform_outcome (performed : perform state operation = (answer, after)) :
    Outcome state operation answer after := by
  cases operation with
  | applySnapshot snapshot pools =>
    rw [perform, applySnapshot_eq] at performed
    split at performed
    · cases performed
      exact .refused rfl
    · next accepted =>
      cases performed
      obtain ⟨current, fresh⟩ := not_or.mp accepted
      exact .snapshotted (Bool.eq_false_iff.mpr current) (UInt64.not_lt.mp fresh)
  | applyPendingTx candidate =>
    rw [perform, applyPendingTx_eq] at performed
    split at performed
    · cases performed
      exact .refused rfl
    · next accepted =>
      cases performed
      obtain ⟨valid, fresh⟩ := not_or.mp accepted
      exact .pending (Bool.eq_true_of_not_eq_false valid) (UInt64.not_le.mp fresh)
  | markInvalid blockNumber =>
    rw [perform, markInvalid_eq] at performed
    split at performed
    · cases performed
      exact .refused rfl
    · next accepted =>
      cases performed
      exact .invalidated (Bool.eq_false_iff.mpr accepted)
  | popNextSnapshot =>
    have outcome := popNextSnapshot_outcome state
    cases performed
    exact outcome

theorem perform_of_refused (performed : perform state operation = (answer, after))
    (refused : answer.Refused) : after = state := by
  cases perform_outcome performed with
  | refused _ => rfl
  | snapshotted _ _ => cases refused
  | pending _ _ => cases refused
  | invalidated _ => cases refused
  | popped _ _ _ => cases refused

/-- A block number that is recorded is only ever replaced by one that is no older. -/
theorem perform_blockNumber {blockNumber : UInt64}
    (performed : perform state operation = (answer, after))
    (recorded : state.blockNumber = some blockNumber) :
    ∃ later, after.blockNumber = some later ∧ blockNumber ≤ later := by
  have newer {other : UInt64} (current : state.isOlder other = false) : blockNumber ≤ other := by
    simpa [State.isOlder, recorded] using current
  cases perform_outcome performed with
  | refused _ => exact ⟨blockNumber, recorded, UInt64.le_refl _⟩
  | snapshotted current _ => exact ⟨_, rfl, newer current⟩
  | pending _ _ => exact ⟨blockNumber, recorded, UInt64.le_refl _⟩
  | invalidated current => exact ⟨_, rfl, newer current⟩
  | popped _ _ _ => exact ⟨blockNumber, recorded, UInt64.le_refl _⟩

theorem leads_blockNumber {labels : List Call} {blockNumber : UInt64}
    (leads : calls.Leads state labels after) (recorded : state.blockNumber = some blockNumber) :
    ∃ later, after.blockNumber = some later ∧ blockNumber ≤ later := by
  induction leads generalizing blockNumber with
  | done => exact ⟨blockNumber, recorded, UInt64.le_refl _⟩
  | step taken _ ih =>
    obtain ⟨middle, recorded, newer⟩ := perform_blockNumber taken recorded
    obtain ⟨later, recorded, newest⟩ := ih recorded
    exact ⟨later, recorded, UInt64.le_trans newer newest⟩

/-! ## Looking back -/

/-- An accepted snapshot, as a call. -/
def snapshotCall (snapshot : CandidateSnapshot) (pools : List PoolSnapshot) : Call :=
  ⟨.applySnapshot snapshot pools, .decided true⟩

/-- An accepted pending transaction, as a call. -/
def pendingCall (candidate : Candidate) : Call := ⟨.applyPendingTx candidate, .decided true⟩

/-- This snapshot was accepted, none after it was, and these calls came after it. -/
def Latest (labels : List Call) (snapshot : CandidateSnapshot) (pools : List PoolSnapshot)
    (later : List Call) : Prop :=
  (∃ earlier, labels = earlier ++ snapshotCall snapshot pools :: later) ∧
    ∀ other otherPools, snapshotCall other otherPools ∉ later

theorem Latest.append {labels later : List Call} {snapshot : CandidateSnapshot}
    {pools : List PoolSnapshot} {call : Call} (latest : Latest labels snapshot pools later)
    (noSnapshot : ∀ other otherPools, call ≠ snapshotCall other otherPools) :
    Latest (labels ++ [call]) snapshot pools (later ++ [call]) := by
  obtain ⟨⟨earlier, rfl⟩, none⟩ := latest
  refine ⟨⟨earlier, by simp⟩, ?_⟩
  intro other otherPools member
  rcases List.mem_append.mp member with before | last
  · exact none other otherPools before
  · exact noSnapshot other otherPools (List.mem_singleton.mp last).symm

/-- What is in a valid state: the pools and the block of one snapshot, and entries of
that snapshot or accepted above its sequence number since. -/
structure Holds (state : State) (snapshot : CandidateSnapshot) (pools : List PoolSnapshot)
    (later : List Call) : Prop where
  pools : state.pools = pools
  blockNumber : state.blockNumber = some snapshot.blockNumber
  snapshotSeq : state.localMempool.snapshotSeq = snapshot.snapshotSeq
  entries : ∀ seqNum candidate, state.localMempool.candidates[seqNum]? = some candidate →
    candidate.tx.seqNum = seqNum ∧
      (candidate ∈ snapshot.candidates ∨
        (pendingCall candidate ∈ later ∧ snapshot.snapshotSeq < seqNum))

/-- The invariant: an invalid state is empty, and a valid one is accounted for. -/
structure Accounted (labels : List Call) (state : State) : Prop where
  empty : state.valid = false → state.localMempool.candidates = ∅ ∧ state.pools = [] ∧
    state.localMempool.snapshotSeq = 0
  holds : state.valid = true → ∃ snapshot pools later,
    Latest labels snapshot pools later ∧ Holds state snapshot pools later

/-- A call that leaves the entries of the state alone, or removes some. -/
private theorem Accounted.kept {labels : List Call} {call : Call} (accounted : Accounted labels state)
    (noSnapshot : ∀ other otherPools, call ≠ snapshotCall other otherPools)
    (valid : after.valid = state.valid) (samePools : after.pools = state.pools)
    (sameBlock : after.blockNumber = state.blockNumber)
    (sameSeq : after.localMempool.snapshotSeq = state.localMempool.snapshotSeq)
    (fewer : ∀ (seqNum : UInt64) candidate, after.localMempool.candidates[seqNum]? = some candidate →
      state.localMempool.candidates[seqNum]? = some candidate) :
    Accounted (labels ++ [call]) after := by
  constructor
  · intro invalid
    rw [valid] at invalid
    obtain ⟨empty, noPools, noSeq⟩ := accounted.empty invalid
    refine ⟨Std.ExtTreeMap.ext_getElem? fun seqNum => ?_, samePools.trans noPools,
      sameSeq.trans noSeq⟩
    cases found : after.localMempool.candidates[seqNum]? with
    | none => simp
    | some candidate =>
      have before := fewer seqNum candidate found
      rw [empty] at before
      simp at before
  · intro isValid
    rw [valid] at isValid
    obtain ⟨snapshot, pools, later, latest, holds⟩ := accounted.holds isValid
    refine ⟨snapshot, pools, later ++ [call], latest.append noSnapshot, samePools.trans holds.pools,
      sameBlock.trans holds.blockNumber, sameSeq.trans holds.snapshotSeq, ?_⟩
    intro seqNum candidate found
    obtain ⟨own, origin⟩ := holds.entries seqNum candidate (fewer seqNum candidate found)
    refine ⟨own, origin.imp_right fun accepted => ?_⟩
    exact ⟨List.mem_append_left _ accepted.1, accepted.2⟩

/-- **One step.** Every call keeps the state accounted for. -/
theorem step_accounted {labels : List Call} {call : Call} (accounted : Accounted labels state)
    (performed : perform state call.operation = (call.answer, after)) :
    Accounted (labels ++ [call]) after := by
  obtain ⟨operation, answer⟩ := call
  cases perform_outcome performed with
  | refused refused =>
    refine accounted.kept ?_ rfl rfl rfl rfl fun _ _ found => found
    rintro _ _ ⟨⟩
    cases refused
  | snapshotted current fresh =>
    next snapshot pools =>
    constructor
    · intro invalid
      cases invalid
    · intro _
      refine ⟨snapshot, pools, [], ⟨⟨labels, rfl⟩, by simp⟩, rfl, rfl, rfl, ?_⟩
      intro seqNum candidate found
      rcases lookup_foldl found with before | ⟨member, own⟩
      · simp at before
      · exact ⟨own, .inl member⟩
  | pending valid fresh =>
    next candidate =>
    refine ⟨fun invalid => absurd (valid.symm.trans invalid) (by decide), fun _ => ?_⟩
    obtain ⟨snapshot, pools, later, latest, holds⟩ := accounted.holds valid
    refine ⟨snapshot, pools, later ++ [pendingCall candidate], latest.append ?_, holds.pools,
      holds.blockNumber, holds.snapshotSeq, ?_⟩
    · rintro _ _ ⟨⟩
    · intro seqNum entry found
      rw [lookup_insertOrAssign] at found
      split at found
      · next own =>
        cases found
        refine ⟨own, .inr ⟨List.mem_append_right _ List.mem_cons_self, ?_⟩⟩
        rw [← holds.snapshotSeq, ← own]
        exact fresh
      · obtain ⟨own, origin⟩ := holds.entries seqNum entry found
        exact ⟨own, origin.imp_right fun accepted =>
          ⟨List.mem_append_left _ accepted.1, accepted.2⟩⟩
  | invalidated current =>
    exact ⟨fun _ => ⟨rfl, rfl, rfl⟩, fun valid => by cases valid⟩
  | popped valid found least =>
    refine accounted.kept ?_ rfl rfl rfl rfl ?_
    · rintro _ _ ⟨⟩
    · intro seqNum candidate kept
      rw [lookup_erase] at kept
      split at kept
      · cases kept
      · exact kept

theorem run_accounted {labels : List Call} (run : calls.Run labels state) :
    Accounted labels state := by
  refine Run.history Accounted run ?_ fun labels s call s' => step_accounted
  rintro _ rfl
  exact ⟨fun _ => ⟨rfl, rfl, rfl⟩, fun valid => by cases valid⟩

/-- **The state over whole runs.** Whatever was called and answered before: an invalid
state has no entries, no pools and no sequence number; a recorded block number stays
recorded and never goes down; a refused call changes nothing; a valid state holds the
pools and the block of the latest accepted snapshot, and every entry is stored under its
own sequence number and came with that snapshot or was accepted after it above its
sequence number; a pop of a valid state with entries answers; and a pop that answers
takes exactly the least entry and returns it with the pools and the block of that
snapshot. -/
theorem state_accounted_over_runs {labels : List Call} (run : calls.Run labels state) :
    (state.valid = false → state.localMempool.candidates = ∅ ∧ state.pools = [] ∧
      state.localMempool.snapshotSeq = 0) ∧
    (∀ later after blockNumber, calls.Leads state later after →
      state.blockNumber = some blockNumber →
        ∃ newer, after.blockNumber = some newer ∧ blockNumber ≤ newer) ∧
    (∀ operation answer after, perform state operation = (answer, after) → answer.Refused →
      after = state) ∧
    (state.valid = true → ∃ snapshot pools later,
      Latest labels snapshot pools later ∧ Holds state snapshot pools later) ∧
    (state.valid = true → state.localMempool.candidates ≠ ∅ →
      ∃ returned after, state.popNextSnapshot = (some returned, after)) ∧
    ∀ returned after, state.popNextSnapshot = (some returned, after) →
      ∃ seqNum candidate snapshot pools later,
        state.localMempool.candidates[seqNum]? = some candidate ∧
        (∀ other entry, state.localMempool.candidates[other]? = some entry → seqNum ≤ other) ∧
        after = { state with localMempool := { state.localMempool with
          candidates := state.localMempool.candidates.erase seqNum } } ∧
        Latest labels snapshot pools later ∧
        returned = ⟨true, some snapshot.blockNumber, pools, some candidate⟩ := by
  have accounted := run_accounted run
  refine ⟨accounted.empty, fun _ _ _ => leads_blockNumber, fun _ _ _ => perform_of_refused,
    accounted.holds, popNextSnapshot_answers, ?_⟩
  intro returned after popped
  have outcome := popNextSnapshot_outcome state
  rw [popped] at outcome
  cases outcome with
  | refused refused => cases refused
  | popped valid found least =>
    obtain ⟨snapshot, pools, later, latest, holds⟩ := accounted.holds valid
    refine ⟨_, _, snapshot, pools, later, found, least, rfl, latest, ?_⟩
    rw [State.makeSnapshot, valid, holds.blockNumber, holds.pools]

/-- A snapshot of block five with the transactions two and one, and transaction four
after it: the pop takes transaction one. -/
theorem state_accounted_over_runs_popped :
    let entry (seqNum : UInt64) : Candidate := ⟨{ seqNum }, ⟨[1], [2], [3]⟩, .aForB⟩
    let snapshot : CandidateSnapshot := ⟨5, 3, [entry 2, entry 1]⟩
    let labels := [snapshotCall snapshot [], pendingCall (entry 4)]
    let state := ((snapshotted snapshot []).applyPendingTx (entry 4)).2
    calls.Run labels state ∧
      (∃ latest pools later, Latest labels latest pools later ∧ Holds state latest pools later) ∧
      ∃ (returned : StateSnapshot) (after : State) (seqNum : UInt64) (candidate : Candidate),
        state.popNextSnapshot = (some returned, after) ∧
        state.localMempool.candidates[seqNum]? = some candidate ∧
        (∀ (other : UInt64) stored, state.localMempool.candidates[other]? = some stored →
          seqNum ≤ other) ∧
        returned.candidate = some (entry 1) := by
  intro entry snapshot labels state
  have start : calls.Run [] {} := .start rfl
  have performed : perform {} (.applySnapshot snapshot []) =
      (.decided true, snapshotted snapshot []) := by
    rw [perform, applySnapshot_eq]
    rfl
  have first : calls.Run [snapshotCall snapshot []] (snapshotted snapshot []) := .step start performed
  have run : calls.Run labels state := .step first rfl
  have least : state.popNextSnapshot.1.bind StateSnapshot.candidate = some (entry 1) := by
    decide +kernel
  have loaded : state.localMempool.candidates ≠ ∅ := by
    intro empty
    have size := congrArg Std.ExtTreeMap.size empty
    revert size
    decide +kernel
  obtain ⟨_, _, _, holds, answers, pops⟩ := state_accounted_over_runs run
  obtain ⟨returned, after, popped⟩ := answers rfl loaded
  obtain ⟨seqNum, candidate, _, _, _, found, below, _⟩ := pops returned after popped
  rw [popped] at least
  exact ⟨run, holds rfl, returned, after, seqNum, candidate, popped, found, below, least⟩

end DexKnight.StateHistory
