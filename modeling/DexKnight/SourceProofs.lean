import Mathlib.Tactic.Basic
import DexKnight.Core.CandidateState

/-! What one operation of the candidate source can do. A new block either leaves the
source alone, or invalidates it, or replaces its whole content by one snapshot; a
pending transaction either changes nothing or adds one entry; a pop either takes
nothing or takes the least entry. Every invariant is derived from these cases. -/
namespace DexKnight.SourceProofs
open Core.Types Core.Wire Core.Codec Core.CandidateState

variable {lib : Libraries} {source : CandidateSource} {state : State} {mempool : LocalMempool}
  {candidate : Candidate} {key : UInt64} {candidates : CandidateMap}

/-! ## The map -/

theorem lookup_insertOrAssign :
    (LocalMempool.insertOrAssign candidates candidate)[key]? =
      if candidate.tx.seqNum = key then some candidate else candidates[key]? := by
  simp [LocalMempool.insertOrAssign, Std.ExtTreeMap.getElem?_insert]

/-- An entry of a map built from a list was in the map before or is in the list,
under its own sequence number. -/
theorem lookup_foldl {items : List Candidate}
    (found : (items.foldl LocalMempool.insertOrAssign candidates)[key]? = some candidate) :
    candidates[key]? = some candidate ∨ (candidate ∈ items ∧ candidate.tx.seqNum = key) := by
  induction items generalizing candidates with
  | nil => exact .inl found
  | cons first rest ih =>
    rcases ih found with before | ⟨member, isKey⟩
    · rw [lookup_insertOrAssign] at before
      split at before
      · next isFirst =>
        cases before
        exact .inr ⟨List.mem_cons_self, isFirst⟩
      · exact .inl before
    · exact .inr ⟨List.mem_cons_of_mem _ member, isKey⟩

/-- Nothing in the list overwrites another key. -/
theorem lookup_foldl_of_not_mem {items : List Candidate}
    (absent : ∀ item ∈ items, item.tx.seqNum ≠ key) :
    (items.foldl LocalMempool.insertOrAssign candidates)[key]? = candidates[key]? := by
  induction items generalizing candidates with
  | nil => rfl
  | cons first rest ih =>
    rw [List.foldl_cons, ih fun item member => absent item (List.mem_cons_of_mem _ member),
      lookup_insertOrAssign, if_neg (absent first List.mem_cons_self)]

/-- With distinct sequence numbers every element of the list ends up in the map. -/
theorem lookup_foldl_of_mem {items : List Candidate}
    (distinct : (items.map fun item => item.tx.seqNum).Nodup) (member : candidate ∈ items) :
    (items.foldl LocalMempool.insertOrAssign candidates)[candidate.tx.seqNum]? = some candidate := by
  induction items generalizing candidates with
  | nil => cases member
  | cons first rest ih =>
    obtain ⟨fresh, distinct⟩ := List.nodup_cons.mp distinct
    rcases List.mem_cons.mp member with rfl | inRest
    · rw [List.foldl_cons, lookup_foldl_of_not_mem, lookup_insertOrAssign, if_pos rfl]
      intro item inRest sameSeq
      exact fresh (List.mem_map.mpr ⟨item, inRest, sameSeq⟩)
    · exact ih distinct inRest

/-! ## Popping -/

/-- What a pop does: nothing on an empty map, else it takes an entry that was there,
with the least key, and leaves every other entry. -/
theorem popNextCandidate_cases (mempool : LocalMempool) :
    (mempool.candidates = ∅ ∧ mempool.popNextCandidate = (none, mempool)) ∨
      ∃ seqNum candidate, mempool.candidates[seqNum]? = some candidate ∧
        (∀ other entry, mempool.candidates[other]? = some entry → seqNum ≤ other) ∧
        mempool.popNextCandidate =
          (some candidate, { mempool with candidates := mempool.candidates.erase seqNum }) := by
  unfold LocalMempool.popNextCandidate
  cases entries : mempool.candidates.toList with
  | nil => exact .inl ⟨Std.ExtTreeMap.toList_eq_nil_iff.mp entries, rfl⟩
  | cons first rest =>
    obtain ⟨seqNum, candidate⟩ := first
    refine .inr ⟨seqNum, candidate, ?_, ?_, rfl⟩
    · rw [← Std.ExtTreeMap.mem_toList_iff_getElem?_eq_some, entries]
      exact List.mem_cons_self
    · intro other entry found
      rw [← Std.ExtTreeMap.mem_toList_iff_getElem?_eq_some, entries] at found
      rcases List.mem_cons.mp found with same | later
      · cases same
        exact UInt64.le_refl _
      · have ordered : (mempool.candidates.toList).Pairwise _ := Std.ExtTreeMap.ordered_keys_toList
        rw [entries] at ordered
        have below := (List.pairwise_cons.mp ordered).1 _ later
        exact UInt64.le_of_lt (Std.compare_eq_lt.mp below)

theorem lookup_erase {seqNum : UInt64} :
    (candidates.erase seqNum)[key]? = if seqNum = key then none else candidates[key]? := by
  simp [Std.ExtTreeMap.getElem?_erase]

theorem size_pos_iff : 0 < state.size ↔ state.localMempool.candidates ≠ ∅ := by
  unfold State.size LocalMempool.size
  rw [Nat.pos_iff_ne_zero, ne_eq, ne_eq, ← Std.ExtTreeMap.isEmpty_iff,
    Std.ExtTreeMap.isEmpty_eq_size_beq_zero, beq_iff_eq]

/-! ## A new block -/

/-- The answer to the pending-snapshot request as the handler reads it. -/
def snapshotOf (lib : Libraries) (blockNumber : UInt64) (response : Option Body) :
    Option PendingSnapshot := do
  let body ← response
  let json ← parseToJsonObject body
  PendingSnapshot.fromJson lib json blockNumber

theorem snapshotOf_blockNumber {blockNumber : UInt64} {response : Option Body}
    {snapshot : PendingSnapshot} (read : snapshotOf lib blockNumber response = some snapshot) :
    snapshot.blockNumber = blockNumber := by
  obtain ⟨body, _, read⟩ := Option.bind_eq_some_iff.mp read
  obtain ⟨json, _, read⟩ := Option.bind_eq_some_iff.mp read
  obtain ⟨seq, _, read⟩ := Option.bind_eq_some_iff.mp read
  obtain ⟨transactions, _, read⟩ := Option.bind_eq_some_iff.mp read
  cases read
  rfl

/-- The state an accepted snapshot leaves. -/
def snapshotted (snapshot : CandidateSnapshot) (pools : List PoolSnapshot) : State where
  localMempool := {
    candidates := snapshot.candidates.foldl LocalMempool.insertOrAssign ∅
    snapshotSeq := snapshot.snapshotSeq }
  pools := pools
  blockNumber := some snapshot.blockNumber
  valid := true

/-- The state an invalidation leaves. -/
def invalidated (blockNumber : UInt64) : State where
  blockNumber := some blockNumber

theorem applySnapshot_eq (state : State) (snapshot : CandidateSnapshot) (pools : List PoolSnapshot) :
    state.applySnapshot snapshot pools =
      if state.isOlder snapshot.blockNumber = true ∨
          snapshot.snapshotSeq < state.localMempool.snapshotSeq then (false, state)
      else (true, snapshotted snapshot pools) := by
  unfold State.applySnapshot LocalMempool.applySnapshot
  by_cases older : state.isOlder snapshot.blockNumber = true
  · simp [older]
  · by_cases stale : snapshot.snapshotSeq < state.localMempool.snapshotSeq
    · simp [older, stale]
    · simp [older, stale, snapshotted]

theorem markInvalid_eq (state : State) (blockNumber : UInt64) :
    state.markInvalid blockNumber =
      if state.isOlder blockNumber = true then (false, state)
      else (true, invalidated blockNumber) := rfl

theorem markStateInvalid_eq (source : CandidateSource) (blockNumber : UInt64) :
    source.markStateInvalid blockNumber =
      if source.closed = true ∨ source.state.isOlder blockNumber = true then (false, source)
      else (true, { source with
        state := invalidated blockNumber, invalidSnapshotPending := true }) := by
  unfold CandidateSource.markStateInvalid
  rw [markInvalid_eq]
  by_cases closed : source.closed = true
  · rw [if_pos closed, if_pos (.inl closed)]
  · rw [if_neg closed]
    by_cases older : source.state.isOlder blockNumber = true
    · rw [if_pos older, if_pos (.inr older)]
    · rw [if_neg older, if_neg (not_or.mpr ⟨closed, older⟩)]

theorem applyStateSnapshot_eq (source : CandidateSource) (snapshot : CandidateSnapshot)
    (pools : List PoolSnapshot) :
    source.applyStateSnapshot snapshot pools =
      if source.closed = true ∨ source.state.isOlder snapshot.blockNumber = true ∨
          snapshot.snapshotSeq < source.state.localMempool.snapshotSeq then (false, source)
      else (true, { source with
        state := snapshotted snapshot pools, invalidSnapshotPending := false }) := by
  unfold CandidateSource.applyStateSnapshot
  rw [applySnapshot_eq]
  by_cases closed : source.closed = true
  · rw [if_pos closed, if_pos (.inl closed)]
  · rw [if_neg closed]
    by_cases rejected : source.state.isOlder snapshot.blockNumber = true ∨
        snapshot.snapshotSeq < source.state.localMempool.snapshotSeq
    · rw [if_pos rejected, if_pos (.inr rejected)]
    · rw [if_neg rejected, if_neg (not_or.mpr ⟨closed, rejected⟩)]

section NewBlock

variable {blockNumber : UInt64} {requestChainCall : Nat → Fields → Option Body}
  {requestSnapshot : Option Body}

/-- The handler is decided by its two requests. -/
theorem handleNewBlockEvent_eq :
    source.handleNewBlockEvent lib blockNumber requestChainCall requestSnapshot =
      match CandidateSource.requestPoolSnapshots lib requestChainCall blockNumber 0 source.pools,
        snapshotOf lib blockNumber requestSnapshot with
      | some poolSnapshots, some snapshot =>
        (source.applyStateSnapshot (CandidateFilter.filterSnapshot source.pools snapshot)
          poolSnapshots).2
      | _, _ => (source.markStateInvalid blockNumber).2 := by
  unfold CandidateSource.handleNewBlockEvent snapshotOf
  cases CandidateSource.requestPoolSnapshots lib requestChainCall blockNumber 0 source.pools with
  | none => rfl
  | some poolSnapshots =>
    cases requestSnapshot with
    | none => rfl
    | some body =>
      cases json : parseToJsonObject body with
      | none => simp [json]
      | some fields =>
        cases snapshot : PendingSnapshot.fromJson lib fields blockNumber with
        | none => simp [json, snapshot]
        | some read => simp [json, snapshot]

/-- What a new-block event did to the source. -/
inductive BlockOutcome (lib : Libraries) (source : CandidateSource) (blockNumber : UInt64)
    (requestChainCall : Nat → Fields → Option Body) (requestSnapshot : Option Body) :
    CandidateSource → Prop
  /-- Closed, or the event is older than what is recorded. -/
  | ignored : source.closed = true ∨ source.state.isOlder blockNumber = true →
      BlockOutcome lib source blockNumber requestChainCall requestSnapshot source
  /-- A well-formed snapshot with an older sequence number is dropped. -/
  | stale {poolSnapshots : List PoolSnapshot} {snapshot : PendingSnapshot} :
      source.closed = false → source.state.isOlder blockNumber = false →
      CandidateSource.requestPoolSnapshots lib requestChainCall blockNumber 0 source.pools =
        some poolSnapshots →
      snapshotOf lib blockNumber requestSnapshot = some snapshot →
      snapshot.snapshotSeq < source.state.localMempool.snapshotSeq →
      BlockOutcome lib source blockNumber requestChainCall requestSnapshot source
  | invalidated : source.closed = false → source.state.isOlder blockNumber = false →
      (CandidateSource.requestPoolSnapshots lib requestChainCall blockNumber 0 source.pools = none ∨
        snapshotOf lib blockNumber requestSnapshot = none) →
      BlockOutcome lib source blockNumber requestChainCall requestSnapshot
        { source with
          state := SourceProofs.invalidated blockNumber, invalidSnapshotPending := true }
  | applied {poolSnapshots : List PoolSnapshot} {snapshot : PendingSnapshot} :
      source.closed = false → source.state.isOlder blockNumber = false →
      CandidateSource.requestPoolSnapshots lib requestChainCall blockNumber 0 source.pools =
        some poolSnapshots →
      snapshotOf lib blockNumber requestSnapshot = some snapshot →
      source.state.localMempool.snapshotSeq ≤ snapshot.snapshotSeq →
      BlockOutcome lib source blockNumber requestChainCall requestSnapshot
        { source with
          state := snapshotted (CandidateFilter.filterSnapshot source.pools snapshot) poolSnapshots
          invalidSnapshotPending := false }

private theorem markStateInvalid_outcome
    (unread : CandidateSource.requestPoolSnapshots lib requestChainCall blockNumber 0 source.pools =
      none ∨ snapshotOf lib blockNumber requestSnapshot = none) :
    BlockOutcome lib source blockNumber requestChainCall requestSnapshot
      (source.markStateInvalid blockNumber).2 := by
  rw [markStateInvalid_eq]
  split
  · next ignored => exact .ignored ignored
  · next accepted =>
    obtain ⟨opened, current⟩ := not_or.mp accepted
    exact .invalidated (Bool.eq_false_iff.mpr opened) (Bool.eq_false_iff.mpr current) unread

/-- Everything a new-block event can do to the source. -/
theorem handleNewBlockEvent_outcome (lib : Libraries) (source : CandidateSource)
    (blockNumber : UInt64) (requestChainCall : Nat → Fields → Option Body)
    (requestSnapshot : Option Body) :
    BlockOutcome lib source blockNumber requestChainCall requestSnapshot
      (source.handleNewBlockEvent lib blockNumber requestChainCall requestSnapshot) := by
  rw [handleNewBlockEvent_eq]
  cases reserves : CandidateSource.requestPoolSnapshots lib requestChainCall blockNumber 0
    source.pools with
  | none => exact markStateInvalid_outcome (.inl reserves)
  | some poolSnapshots =>
    cases read : snapshotOf lib blockNumber requestSnapshot with
    | none => exact markStateInvalid_outcome (.inr read)
    | some snapshot =>
      have isBlock : (CandidateFilter.filterSnapshot source.pools snapshot).blockNumber =
          blockNumber := snapshotOf_blockNumber read
      dsimp only
      rw [applyStateSnapshot_eq, isBlock]
      split
      · next rejected =>
        rcases rejected with closed | older | stale
        · exact .ignored (.inl closed)
        · exact .ignored (.inr older)
        · by_cases ignored : source.closed = true ∨ source.state.isOlder blockNumber = true
          · exact .ignored ignored
          · obtain ⟨opened, current⟩ := not_or.mp ignored
            exact .stale (Bool.eq_false_iff.mpr opened) (Bool.eq_false_iff.mpr current) reserves read
              stale
      · next accepted =>
        obtain ⟨opened, accepted⟩ := not_or.mp accepted
        obtain ⟨current, fresh⟩ := not_or.mp accepted
        exact .applied (Bool.eq_false_iff.mpr opened) (Bool.eq_false_iff.mpr current) reserves read
          (UInt64.not_lt.mp fresh)

end NewBlock

/-! ## A pending transaction -/

/-- What a pending-transaction event did to the source: nothing, or one new entry
above the snapshot's sequence number. -/
inductive PendingOutcome (source : CandidateSource) (tx : PendingTransaction) : CandidateSource → Prop
  | ignored : (source.closed = true ∨ source.state.valid = false ∨
        CandidateFilter.filter source.pools tx = none ∨
        tx.seqNum ≤ source.state.localMempool.snapshotSeq) →
      PendingOutcome source tx source
  | accepted {candidate : Candidate} : source.closed = false → source.state.valid = true →
      CandidateFilter.filter source.pools tx = some candidate →
      source.state.localMempool.snapshotSeq < tx.seqNum →
      PendingOutcome source tx { source with state := { source.state with
        localMempool := { source.state.localMempool with
          candidates := LocalMempool.insertOrAssign source.state.localMempool.candidates candidate } } }

/-- A candidate is its transaction, aimed at a configured pool. -/
theorem filter_eq_some {pools : List Pool} {tx : PendingTransaction}
    (kept : CandidateFilter.filter pools tx = some candidate) :
    candidate.tx = tx ∧ candidate.pool ∈ pools := by
  obtain ⟨recipient, _, kept⟩ := Option.bind_eq_some_iff.mp kept
  obtain ⟨pool, found, kept⟩ := Option.bind_eq_some_iff.mp kept
  obtain ⟨kind, _, kept⟩ := Option.bind_eq_some_iff.mp kept
  cases kept
  exact ⟨rfl, List.mem_of_find?_eq_some found⟩

theorem applyPendingTx_eq (state : State) (candidate : Candidate) :
    state.applyPendingTx candidate =
      if state.valid = false ∨ candidate.tx.seqNum ≤ state.localMempool.snapshotSeq then
        (false, state)
      else (true, { state with localMempool := { state.localMempool with
        candidates := LocalMempool.insertOrAssign state.localMempool.candidates candidate } }) := by
  unfold State.applyPendingTx LocalMempool.applyPendingTx
  by_cases valid : state.valid = true
  · rw [if_pos valid]
    by_cases covered : candidate.tx.seqNum ≤ state.localMempool.snapshotSeq
    · rw [if_pos covered, if_pos (.inr covered)]
    · rw [if_neg covered, if_neg (by simp [valid, covered])]
  · rw [if_neg valid, if_pos (.inl (Bool.eq_false_iff.mpr valid))]

theorem handlePendingTxEvent_outcome (source : CandidateSource) (tx : PendingTransaction) :
    PendingOutcome source tx (source.handlePendingTxEvent tx) := by
  unfold CandidateSource.handlePendingTxEvent
  cases kept : CandidateFilter.filter source.pools tx with
  | none => exact .ignored (.inr (.inr (.inl kept)))
  | some candidate =>
    have isTx := (filter_eq_some kept).1
    dsimp only
    unfold CandidateSource.applyPendingCandidate
    rw [applyPendingTx_eq, isTx]
    by_cases closed : source.closed = true
    · rw [if_pos closed]
      exact .ignored (.inl closed)
    · rw [if_neg closed]
      by_cases refused : source.state.valid = false ∨
          tx.seqNum ≤ source.state.localMempool.snapshotSeq
      · rw [if_pos refused]
        exact .ignored (.inr (refused.imp_right .inr))
      · rw [if_neg refused]
        obtain ⟨valid, fresh⟩ := not_or.mp refused
        exact .accepted (Bool.eq_false_iff.mpr closed) (Bool.eq_true_of_not_eq_false valid) kept
          (UInt64.not_le.mp fresh)

/-! ## A pop -/

/-- What an awake `wait_pop_state` returned and did. -/
inductive PopOutcome (source : CandidateSource) :
    Except Error StateSnapshot → CandidateSource → Prop
  | closed : source.closed = true → PopOutcome source (.error .closed) source
  | invalid : source.closed = false → source.invalidSnapshotPending = true →
      PopOutcome source (.ok source.state.snapshot) { source with invalidSnapshotPending := false }
  /-- The branch behind a pop that found nothing. -/
  | emptied : source.closed = false → source.invalidSnapshotPending = false →
      0 < source.state.size → source.state.valid = false →
      PopOutcome source (.error .closed) source
  | popped {seqNum : UInt64} {candidate : Candidate} : source.closed = false →
      source.invalidSnapshotPending = false → source.state.valid = true →
      source.state.localMempool.candidates[seqNum]? = some candidate →
      (∀ other entry, source.state.localMempool.candidates[other]? = some entry → seqNum ≤ other) →
      PopOutcome source (.ok (source.state.makeSnapshot (some candidate)))
        { source with state := { source.state with
          localMempool := { source.state.localMempool with
            candidates := source.state.localMempool.candidates.erase seqNum } } }

theorem waitPopState_outcome {result : Except Error StateSnapshot} {after : CandidateSource}
    (returned : source.waitPopState = some (result, after)) : PopOutcome source result after := by
  unfold CandidateSource.waitPopState at returned
  split at returned
  · next awake =>
    have returned := Option.some.inj returned
    split at returned
    · next closed =>
      cases returned
      exact .closed closed
    · next opened =>
      have opened := Bool.eq_false_iff.mpr opened
      split at returned
      · next pending =>
        cases returned
        exact .invalid opened pending
      · next quiet =>
        have quiet := Bool.eq_false_iff.mpr quiet
        have loaded : 0 < source.state.size := by
          simpa [CandidateSource.awake, opened, quiet] using awake
        unfold State.popNextSnapshot at returned
        cases valid : source.state.valid with
        | false =>
          rw [valid] at returned
          cases returned
          exact .emptied opened quiet loaded valid
        | true =>
          rcases popNextCandidate_cases source.state.localMempool with
            ⟨empty, _⟩ | ⟨seqNum, candidate, found, least, popped⟩
          · exact absurd empty (size_pos_iff.mp loaded)
          · rw [if_pos valid, popped] at returned
            cases returned
            exact .popped opened quiet valid found least
  · cases returned

end DexKnight.SourceProofs
