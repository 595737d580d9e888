import Mathlib.Data.List.Nodup
import DexKnight.SourceProofs

/-! The pending stream in any order. Transactions and the snapshot that covers some of
them reach the state over different connections, so their order is not fixed. A snapshot
replaces what came before it, it covers every sequence number up to its own, and entries
under different numbers do not touch each other; so all orders that deliver the uncovered
transactions after the snapshot end in one state. -/
namespace DexKnight.PendingOrder
open Core.Types Core.CandidateState SourceProofs

/-- One call on the state: the snapshot, or a pending candidate. -/
inductive Call
  | snapshot
  | pending (candidate : Candidate)
  deriving DecidableEq, Repr

def Call.candidate : Call → Option Candidate
  | .snapshot => none
  | .pending candidate => some candidate

/-- The state after a pending candidate, accepted or not. -/
def receive (state : State) (candidate : Candidate) : State := (state.applyPendingTx candidate).2

/-- The state after these calls, oldest first. -/
def applyAll (snapshot : CandidateSnapshot) (pools : List PoolSnapshot) (state : State)
    (calls : List Call) : State :=
  calls.foldl (fun state call =>
    match call with
    | .snapshot => (state.applySnapshot snapshot pools).2
    | .pending candidate => receive state candidate) state

/-- Beyond what the snapshot covers. -/
def Uncovered (snapshotSeq : UInt64) (candidate : Candidate) : Bool :=
  snapshotSeq < candidate.tx.seqNum

/-- The order of the sequence numbers. -/
def bySeqNum (first second : Candidate) : Bool := first.tx.seqNum ≤ second.tx.seqNum

variable {state : State} {snapshot : CandidateSnapshot} {pools : List PoolSnapshot}
  {candidates items items' : List Candidate} {calls : List Call} {entries : CandidateMap}

/-! ## Single calls -/

theorem receive_frame (state : State) (candidate : Candidate) :
    (receive state candidate).blockNumber = state.blockNumber ∧
      (receive state candidate).localMempool.snapshotSeq = state.localMempool.snapshotSeq := by
  rw [receive, applyPendingTx_eq]
  split <;> exact ⟨rfl, rfl⟩

/-- A snapshot that is accepted is accepted after any candidates too, with the same
effect. -/
theorem applySnapshot_after_receive (accepted : (state.applySnapshot snapshot pools).1 = true)
    (items : List Candidate) :
    ((items.foldl receive state).applySnapshot snapshot pools).2 = snapshotted snapshot pools := by
  induction items generalizing state with
  | nil =>
    rw [List.foldl_nil]
    rw [applySnapshot_eq] at accepted ⊢
    split at accepted
    · cases accepted
    · rw [if_neg ‹_›]
  | cons first rest ih =>
    apply ih
    obtain ⟨sameBlock, sameSeq⟩ := receive_frame state first
    rw [applySnapshot_eq] at accepted ⊢
    rw [State.isOlder, sameBlock, sameSeq]
    split at accepted
    · cases accepted
    · rw [State.isOlder] at *
      rw [if_neg ‹_›]

/-- The state with these entries in its mempool. -/
def holding (state : State) (entries : CandidateMap) : State :=
  { state with localMempool := { state.localMempool with candidates := entries } }

/-- A valid state takes exactly the uncovered candidates, in their order. -/
theorem foldl_receive (valid : state.valid = true) (items : List Candidate) :
    items.foldl receive state = holding state
      ((items.filter (Uncovered state.localMempool.snapshotSeq)).foldl
        LocalMempool.insertOrAssign state.localMempool.candidates) := by
  induction items generalizing state with
  | nil => rfl
  | cons first rest ih =>
    rw [List.foldl_cons, receive, applyPendingTx_eq]
    by_cases covered : first.tx.seqNum ≤ state.localMempool.snapshotSeq
    · have isCovered : Uncovered state.localMempool.snapshotSeq first = false := by
        simpa [Uncovered] using covered
      rw [if_pos (.inr covered), ih valid, List.filter_cons_of_neg (by simp [isCovered])]
    · have isUncovered : Uncovered state.localMempool.snapshotSeq first = true := by
        simpa [Uncovered] using covered
      have taken : (holding state (LocalMempool.insertOrAssign state.localMempool.candidates
          first)).valid = true := valid
      rw [if_neg (by simp [valid, covered]), List.filter_cons_of_pos isUncovered]
      exact ih taken

/-! ## Entries under different numbers -/

theorem insertOrAssign_comm {first second : Candidate}
    (differ : first.tx.seqNum ≠ second.tx.seqNum) :
    LocalMempool.insertOrAssign (LocalMempool.insertOrAssign entries first) second =
      LocalMempool.insertOrAssign (LocalMempool.insertOrAssign entries second) first := by
  apply Std.ExtTreeMap.ext_getElem?
  intro key
  simp only [lookup_insertOrAssign]
  by_cases isFirst : first.tx.seqNum = key
  · have notSecond : second.tx.seqNum ≠ key := fun same => differ (isFirst.trans same.symm)
    simp [isFirst, notSecond]
  · simp [isFirst]

/-- No two of these candidates have one sequence number. -/
def Distinct (candidates : List Candidate) : Prop :=
  (candidates.map fun candidate => candidate.tx.seqNum).Nodup

/-- Distinct candidates make one map in every order. -/
theorem foldl_insertOrAssign_perm (distinct : Distinct items) (reordered : items.Perm items')
    (entries : CandidateMap) :
    items.foldl LocalMempool.insertOrAssign entries =
      items'.foldl LocalMempool.insertOrAssign entries := by
  apply reordered.foldl_eq'
  intro first inItems second alsoIn entries
  by_cases same : first.tx.seqNum = second.tx.seqNum
  · rw [List.inj_on_of_nodup_map distinct inItems alsoIn same]
  · exact insertOrAssign_comm same

/-! ## Sequences of calls -/

/-- Calls without the snapshot are the candidates they bring. -/
theorem applyAll_pending (noSnapshot : Call.snapshot ∉ calls) (state : State) :
    applyAll snapshot pools state calls =
      (calls.filterMap Call.candidate).foldl receive state := by
  induction calls generalizing state with
  | nil => rfl
  | cons first rest ih =>
    have others := ih fun member => noSnapshot (List.mem_cons_of_mem _ member)
    cases first with
    | snapshot => exact absurd List.mem_cons_self noSnapshot
    | pending candidate => exact others (receive state candidate)

theorem applyAll_around (state : State) (earlier later : List Call) :
    applyAll snapshot pools state (earlier ++ .snapshot :: later) = applyAll snapshot pools
      ((applyAll snapshot pools state earlier).applySnapshot snapshot pools).2 later := by
  simp [applyAll]

/-- Every order has one place for the snapshot, and the candidates around it. -/
theorem exists_split (order : calls.Perm (.snapshot :: candidates.map .pending)) :
    ∃ earlier later, calls = earlier ++ .snapshot :: later ∧
      Call.snapshot ∉ earlier ∧ Call.snapshot ∉ later ∧
      (earlier.filterMap Call.candidate ++ later.filterMap Call.candidate).Perm candidates := by
  obtain ⟨earlier, later, rfl⟩ := List.append_of_mem (order.mem_iff.mpr List.mem_cons_self)
  have around : (earlier ++ later).Perm (candidates.map .pending) :=
    (List.perm_middle.symm.trans order).cons_inv
  have noSnapshot : Call.snapshot ∉ earlier ++ later := by
    intro member
    obtain ⟨_, _, impossible⟩ := List.mem_map.mp (around.mem_iff.mp member)
    cases impossible
  refine ⟨earlier, later, rfl, fun member => noSnapshot (List.mem_append_left _ member),
    fun member => noSnapshot (List.mem_append_right _ member), ?_⟩
  have brought := around.filterMap Call.candidate
  rw [List.filterMap_append, List.filterMap_map] at brought
  have whole : candidates.filterMap (Call.candidate ∘ Call.pending) = candidates := by
    simp [Function.comp_def, Call.candidate]
  rwa [whole] at brought

/-- What is beyond the snapshot is brought by the calls behind it. -/
theorem uncovered_perm {earlier later : List Candidate} {snapshotSeq : UInt64}
    (brought : (earlier ++ later).Perm candidates)
    (covered : ∀ candidate ∈ earlier, candidate.tx.seqNum ≤ snapshotSeq) :
    (later.filter (Uncovered snapshotSeq)).Perm (candidates.filter (Uncovered snapshotSeq)) := by
  have noneBefore : earlier.filter (Uncovered snapshotSeq) = [] := by
    apply List.filter_eq_nil_iff.mpr
    intro candidate member
    simpa [Uncovered] using covered candidate member
  have kept := brought.filter (Uncovered snapshotSeq)
  rwa [List.filter_append, noneBefore, List.nil_append] at kept

/-- After the snapshot, the uncovered candidates alone decide, in any order. -/
theorem foldl_receive_perm (distinct : Distinct items)
    (reordered : (items.filter (Uncovered snapshot.snapshotSeq)).Perm items') :
    items.foldl receive (snapshotted snapshot pools) =
      items'.foldl receive (snapshotted snapshot pools) := by
  have allUncovered : items'.filter (Uncovered snapshot.snapshotSeq) = items' := by
    apply List.filter_eq_self.mpr
    intro candidate member
    exact (List.mem_filter.mp (reordered.mem_iff.mpr member)).2
  have apart : Distinct (items.filter (Uncovered snapshot.snapshotSeq)) :=
    distinct.sublist (List.filter_sublist.map _)
  have seq : (snapshotted snapshot pools).localMempool.snapshotSeq = snapshot.snapshotSeq := rfl
  rw [foldl_receive rfl, foldl_receive rfl, seq, allUncovered,
    foldl_insertOrAssign_perm apart reordered]

/-- **The pending stream is order independent.** For every list of candidates with
distinct sequence numbers and every snapshot the state accepts, whatever the order of the
calls, as long as no candidate beyond the snapshot comes before it: the state is the one
that the snapshot and then the uncovered candidates in increasing order leave. -/
theorem pending_stream_order_independent (distinct : Distinct candidates)
    (accepted : (state.applySnapshot snapshot pools).1 = true)
    (order : calls.Perm (.snapshot :: candidates.map .pending))
    (coveredFirst : ∀ earlier later, calls = earlier ++ .snapshot :: later →
      ∀ candidate, .pending candidate ∈ earlier → candidate.tx.seqNum ≤ snapshot.snapshotSeq) :
    applyAll snapshot pools state calls =
      ((candidates.filter (Uncovered snapshot.snapshotSeq)).mergeSort bySeqNum).foldl receive
        (state.applySnapshot snapshot pools).2 := by
  obtain ⟨earlier, later, rfl, noneBefore, noneAfter, brought⟩ := exists_split order
  have landed : (state.applySnapshot snapshot pools).2 = snapshotted snapshot pools :=
    applySnapshot_after_receive accepted []
  have covered : ∀ candidate ∈ earlier.filterMap Call.candidate,
      candidate.tx.seqNum ≤ snapshot.snapshotSeq := by
    intro candidate member
    obtain ⟨call, inEarlier, isPending⟩ := List.mem_filterMap.mp member
    cases call with
    | snapshot => cases isPending
    | pending other =>
      cases isPending
      exact coveredFirst earlier later rfl candidate inEarlier
  have sorted := List.mergeSort_perm (candidates.filter (Uncovered snapshot.snapshotSeq)) bySeqNum
  have apart : Distinct (later.filterMap Call.candidate) :=
    ((brought.map _).nodup_iff.mpr distinct).sublist ((List.sublist_append_right _ _).map _)
  rw [applyAll_around, applyAll_pending noneBefore, applySnapshot_after_receive accepted,
    applyAll_pending noneAfter, landed]
  exact foldl_receive_perm apart ((uncovered_perm brought covered).trans sorted.symm)

def sampleCandidate (seqNum : UInt64) : Candidate where
  tx := { seqNum }
  pool := { address := [], tokenA := [], tokenB := [] }
  swapKind := .aForB

/-- Numbers 1 to 3 and a snapshot that covers 1, delivered as 1, snapshot, 3, 2. -/
theorem pending_stream_order_independent_three :
    let candidates := [sampleCandidate 1, sampleCandidate 3, sampleCandidate 2]
    let snapshot : CandidateSnapshot := ⟨7, 1, [sampleCandidate 1]⟩
    let state : State := { blockNumber := some 6, valid := true }
    let calls := [.pending (sampleCandidate 1), .snapshot, .pending (sampleCandidate 3),
      .pending (sampleCandidate 2)]
    applyAll snapshot [] state calls =
      ((candidates.filter (Uncovered 1)).mergeSort bySeqNum).foldl receive
        (state.applySnapshot snapshot []).2 := by
  intro candidates snapshot state calls
  apply pending_stream_order_independent
  · rw [Distinct]
    decide
  · decide
  · decide
  · intro earlier later split candidate member
    cases earlier with
    | nil => cases member
    | cons first rest =>
      obtain ⟨isFirst, split⟩ := List.cons.inj split
      cases rest with
      | nil =>
        cases isFirst.trans (List.mem_singleton.mp member).symm
        decide
      | cons second rest =>
        obtain ⟨_, split⟩ := List.cons.inj split
        have again : Call.snapshot ∈
            [Call.pending (sampleCandidate 3), Call.pending (sampleCandidate 2)] := by
          rw [split]
          exact List.mem_append_right _ List.mem_cons_self
        simp at again

end DexKnight.PendingOrder
