import DexKnight.Core.Calculator
import DexKnight.SourceProofs
import DexKnight.WireProofs
import DexKnight.Support.Runs

/-! Coherence of what the runtime receives. The joint invariant of the candidate
source: a pending invalidation means an invalid state, an invalid state holds no
candidates, and a valid one holds the configured pools as they were read at its
block, with every candidate aimed at one of them. It is kept by every critical
section in any order, whatever the builder answers. -/
namespace DexKnight.SourceCoherence
open Core.Types Core.Wire Core.Codec Core.CandidateState Core.Calculator SourceProofs WireProofs
  Support.Runs

variable {lib : Libraries} {pools : List Pool} {source after : CandidateSource}

/-- One critical section, with the answers its requests got. -/
inductive Action
  | newBlock (blockNumber : UInt64) (requestChainCall : Nat → Fields → Option Body)
      (requestSnapshot : Option Body)
  | pendingTx (tx : PendingTransaction)
  | close
  | pop

/-- `none` while a pop would sleep. -/
def Action.perform (lib : Libraries) (source : CandidateSource) : Action → Option CandidateSource
  | .newBlock blockNumber requestChainCall requestSnapshot =>
    some (source.handleNewBlockEvent lib blockNumber requestChainCall requestSnapshot)
  | .pendingTx tx => some (source.handlePendingTxEvent tx)
  | .close => some source.closeStateWaiters
  | .pop => source.waitPopState.map Prod.snd

/-- The candidate source under any interleaving of its critical sections. -/
def candidateSource (lib : Libraries) (pools : List Pool) : Machine CandidateSource Action where
  initial source := source = { pools }
  step source action after := action.perform lib source = some after

/-! ## Reserve requests -/

/-- A snapshot is of the pool it was read for. -/
theorem poolSnapshot_pool {pool : Pool} {json : Json} {snapshot : PoolSnapshot}
    (parsed : PoolSnapshot.fromJson lib pool json = some snapshot) : snapshot.pool = pool := by
  obtain ⟨fields, _, parsed⟩ := Option.bind_eq_some_iff.mp parsed
  obtain ⟨raw, _, parsed⟩ := Option.bind_eq_some_iff.mp parsed
  obtain ⟨result, _, parsed⟩ := Option.bind_eq_some_iff.mp parsed
  obtain ⟨reserves, _, parsed⟩ := Option.bind_eq_some_iff.mp parsed
  cases parsed
  rfl

/-- An answered request is one answer after another. -/
theorem requestPoolSnapshots_cons {requestChainCall : Nat → Fields → Option Body}
    {blockNumber : UInt64} {index : Nat} {pool : Pool} {rest : List Pool}
    {snapshots : List PoolSnapshot}
    (read : CandidateSource.requestPoolSnapshots lib requestChainCall blockNumber index
      (pool :: rest) = some snapshots) :
    ∃ json snapshot others,
      requestChainCall index (CandidateSource.reservesPayload pool blockNumber) = some (some json) ∧
      PoolSnapshot.fromJson lib pool json = some snapshot ∧
      CandidateSource.requestPoolSnapshots lib requestChainCall blockNumber (index + 1) rest =
        some others ∧
      snapshots = snapshot :: others := by
  obtain ⟨response, answered, read⟩ := Option.bind_eq_some_iff.mp read
  obtain ⟨json, isJson, read⟩ := Option.bind_eq_some_iff.mp read
  obtain ⟨snapshot, parsed, read⟩ := Option.bind_eq_some_iff.mp read
  obtain ⟨others, readRest, isAll⟩ := Option.bind_eq_some_iff.mp read
  rw [isJson] at answered
  exact ⟨json, snapshot, others, answered, parsed, readRest, (Option.some.inj isAll).symm⟩

/-- The pools of an answered request are the requested ones, in order. -/
theorem requestPoolSnapshots_pools {requestChainCall : Nat → Fields → Option Body}
    {blockNumber : UInt64} {index : Nat} {snapshots : List PoolSnapshot}
    (read : CandidateSource.requestPoolSnapshots lib requestChainCall blockNumber index pools =
      some snapshots) : snapshots.map PoolSnapshot.pool = pools := by
  induction pools generalizing index snapshots with
  | nil =>
    cases read
    rfl
  | cons pool rest ih =>
    obtain ⟨json, snapshot, others, _, parsed, readRest, rfl⟩ := requestPoolSnapshots_cons read
    rw [List.map_cons, poolSnapshot_pool parsed, ih readRest]

/-- Each snapshot of an answered request was parsed from the answer for its pool. -/
theorem requestPoolSnapshots_members {requestChainCall : Nat → Fields → Option Body}
    {blockNumber : UInt64} {index : Nat} {snapshots : List PoolSnapshot}
    (read : CandidateSource.requestPoolSnapshots lib requestChainCall blockNumber index pools =
      some snapshots) {snapshot : PoolSnapshot} (member : snapshot ∈ snapshots) :
    ∃ position pool json, pools[position]? = some pool ∧
      requestChainCall (index + position) (CandidateSource.reservesPayload pool blockNumber) =
        some (some json) ∧
      PoolSnapshot.fromJson lib pool json = some snapshot := by
  induction pools generalizing index snapshots with
  | nil =>
    cases read
    cases member
  | cons pool rest ih =>
    obtain ⟨json, first, others, answered, parsed, readRest, rfl⟩ := requestPoolSnapshots_cons read
    rcases List.mem_cons.mp member with rfl | later
    · exact ⟨0, pool, json, rfl, answered, parsed⟩
    · obtain ⟨position, other, otherJson, isOther, isAnswer, isParsed⟩ := ih readRest later
      refine ⟨position + 1, other, otherJson, isOther, ?_, isParsed⟩
      rw [← Nat.add_assoc, Nat.add_right_comm]
      exact isAnswer

/-! ## The joint invariant -/

/-- The pools of a state were read at this block, by one of the steps taken. -/
def ReadAt (lib : Libraries) (pools : List Pool) (labels : List Action) (blockNumber : UInt64)
    (snapshots : List PoolSnapshot) : Prop :=
  ∃ requestChainCall requestSnapshot,
    .newBlock blockNumber requestChainCall requestSnapshot ∈ labels ∧
      CandidateSource.requestPoolSnapshots lib requestChainCall blockNumber 0 pools = some snapshots

theorem ReadAt.later {labels : List Action} {blockNumber : UInt64} {snapshots : List PoolSnapshot}
    (read : ReadAt lib pools labels blockNumber snapshots) (label : Action) :
    ReadAt lib pools (labels ++ [label]) blockNumber snapshots := by
  obtain ⟨requestChainCall, requestSnapshot, member, answered⟩ := read
  exact ⟨requestChainCall, requestSnapshot, List.mem_append_left _ member, answered⟩

structure Coherent (lib : Libraries) (pools : List Pool) (labels : List Action)
    (source : CandidateSource) : Prop where
  configured : source.pools = pools
  announced : source.invalidSnapshotPending = true → source.state.valid = false
  emptied : source.state.valid = false → source.state.localMempool = {}
  read : source.state.valid = true → ∃ blockNumber, source.state.blockNumber = some blockNumber ∧
    ReadAt lib pools labels blockNumber source.state.pools
  aimed : ∀ (seqNum : UInt64) (candidate : Candidate),
    source.state.localMempool.candidates[seqNum]? = some candidate → candidate.pool ∈ pools

namespace Coherent

variable {labels : List Action}

theorem later (coherent : Coherent lib pools labels source) (label : Action) :
    Coherent lib pools (labels ++ [label]) source where
  configured := coherent.configured
  announced := coherent.announced
  emptied := coherent.emptied
  read valid := by
    obtain ⟨blockNumber, recorded, read⟩ := coherent.read valid
    exact ⟨blockNumber, recorded, read.later label⟩
  aimed := coherent.aimed

/-- Every candidate a snapshot brings passed the filter. -/
private theorem aimed_snapshotted {snapshot : PendingSnapshot} {snapshots : List PoolSnapshot}
    {seqNum : UInt64} {candidate : Candidate}
    (found : (snapshotted (CandidateFilter.filterSnapshot pools snapshot)
      snapshots).localMempool.candidates[seqNum]? = some candidate) : candidate.pool ∈ pools := by
  rcases lookup_foldl found with impossible | ⟨member, _⟩
  · simp at impossible
  · obtain ⟨tx, _, kept⟩ := List.mem_filterMap.mp member
    exact (filter_eq_some kept).2

/-- One step of the joint invariant: a new block. -/
theorem newBlock (coherent : Coherent lib pools labels source) (blockNumber : UInt64)
    (requestChainCall : Nat → Fields → Option Body) (requestSnapshot : Option Body) :
    Coherent lib pools (labels ++ [.newBlock blockNumber requestChainCall requestSnapshot])
      (source.handleNewBlockEvent lib blockNumber requestChainCall requestSnapshot) := by
  have configured := coherent.configured
  generalize same : source.handleNewBlockEvent lib blockNumber requestChainCall requestSnapshot = after
  have outcome := same ▸ handleNewBlockEvent_outcome lib source blockNumber requestChainCall
    requestSnapshot
  cases outcome with
  | ignored => exact coherent.later _
  | stale => exact coherent.later _
  | invalidated opened current =>
    refine ⟨configured, fun _ => rfl, fun _ => rfl, ?_, ?_⟩
    · intro valid
      cases valid
    · intro seqNum candidate found
      simp [SourceProofs.invalidated] at found
  | applied opened current answered parsed fresh =>
    rw [configured] at answered
    refine ⟨configured, ?_, ?_, ?_, ?_⟩
    · intro pending
      cases pending
    · intro invalid
      cases invalid
    · intro _
      refine ⟨blockNumber, congrArg some (snapshotOf_blockNumber parsed), requestChainCall,
        requestSnapshot, ?_, answered⟩
      exact List.mem_append_right _ (List.mem_singleton.mpr rfl)
    · intro seqNum candidate found
      rw [configured] at found
      exact aimed_snapshotted found

/-- One step of the joint invariant: a pending transaction. -/
theorem pendingTx (coherent : Coherent lib pools labels source) (tx : PendingTransaction) :
    Coherent lib pools (labels ++ [.pendingTx tx]) (source.handlePendingTxEvent tx) := by
  have later := coherent.later (.pendingTx tx)
  generalize same : source.handlePendingTxEvent tx = after
  have outcome := same ▸ handlePendingTxEvent_outcome source tx
  cases outcome with
  | ignored => exact later
  | accepted opened valid kept fresh =>
    refine ⟨later.configured, later.announced, ?_, later.read, ?_⟩
    · intro invalid
      rw [valid] at invalid
      cases invalid
    · intro seqNum candidate found
      rw [lookup_insertOrAssign] at found
      split at found
      · cases found
        rw [coherent.configured] at kept
        exact (filter_eq_some kept).2
      · exact coherent.aimed seqNum candidate found

/-- One step of the joint invariant: a pop. -/
theorem pop (coherent : Coherent lib pools labels source)
    {result : Except Error StateSnapshot} (returned : source.waitPopState = some (result, after)) :
    Coherent lib pools (labels ++ [.pop]) after := by
  have later := coherent.later .pop
  cases waitPopState_outcome returned with
  | closed => exact later
  | invalid opened pending =>
    refine ⟨later.configured, ?_, later.emptied, later.read, later.aimed⟩
    intro impossible
    cases impossible
  | emptied => exact later
  | popped opened quiet valid found least =>
    refine ⟨later.configured, later.announced, ?_, later.read, ?_⟩
    · intro invalid
      rw [valid] at invalid
      cases invalid
    · intro seqNum candidate found
      rw [lookup_erase] at found
      split at found
      · cases found
      · exact coherent.aimed seqNum candidate found

/-- **Every run.** The joint invariant holds wherever the critical sections lead. -/
theorem reached (run : (candidateSource lib pools).Run labels source) :
    Coherent lib pools labels source := by
  refine Run.history (Coherent lib pools) run ?_ ?_
  · rintro source rfl
    refine ⟨rfl, ?_, fun _ => rfl, ?_, ?_⟩
    · intro impossible
      cases impossible
    · intro impossible
      cases impossible
    · intro seqNum candidate found
      simp at found
  · intro labels source action after coherent performed
    cases action with
    | newBlock blockNumber requestChainCall requestSnapshot =>
      cases performed
      exact coherent.newBlock blockNumber requestChainCall requestSnapshot
    | pendingTx tx =>
      cases performed
      exact coherent.pendingTx tx
    | close =>
      cases performed
      have later := coherent.later .close
      exact ⟨later.configured, later.announced, later.emptied, later.read, later.aimed⟩
    | pop =>
      obtain ⟨⟨result, popped⟩, returned, same⟩ := Option.map_eq_some_iff.mp performed
      cases same
      exact coherent.pop returned

end Coherent

/-! ## What a caller of `wait_pop_state` sees -/

/-- The views a coherent source hands out. -/
structure CoherentView (lib : Libraries) (pools : List Pool) (labels : List Action)
    (snapshot : StateSnapshot) : Prop where
  carries : snapshot.valid = true ↔ snapshot.candidate.isSome = true
  complete : snapshot.valid = true → snapshot.pools.map PoolSnapshot.pool = pools
  requested : snapshot.valid = true → ∃ blockNumber, snapshot.blockNumber = some blockNumber ∧
    ReadAt lib pools labels blockNumber snapshot.pools
  listed : ∀ candidate, snapshot.valid = true → snapshot.candidate = some candidate →
    (findPoolSnapshot snapshot candidate).isSome = true

/-- A pool on the list is found on it. -/
private theorem findPoolSnapshot_isSome {snapshot : StateSnapshot} {candidate : Candidate}
    (complete : snapshot.pools.map PoolSnapshot.pool = pools) (aimed : candidate.pool ∈ pools) :
    (findPoolSnapshot snapshot candidate).isSome = true := by
  rw [← complete] at aimed
  obtain ⟨listed, member, same⟩ := List.mem_map.mp aimed
  refine List.find?_isSome.mpr ⟨listed, member, ?_⟩
  simp [same]

theorem Coherent.view {labels : List Action} (coherent : Coherent lib pools labels source)
    {snapshot : StateSnapshot} (returned : source.waitPopState = some (.ok snapshot, after)) :
    CoherentView lib pools labels snapshot := by
  cases waitPopState_outcome returned with
  | invalid opened pending =>
    have invalid := coherent.announced pending
    refine ⟨?_, ?_, ?_, ?_⟩
    · change source.state.valid = true ↔ _
      rw [invalid]
      simp [State.snapshot, State.makeSnapshot]
    · intro valid
      cases valid.symm.trans invalid
    · intro valid
      cases valid.symm.trans invalid
    · intro candidate valid
      cases valid.symm.trans invalid
  | popped opened quiet valid found least =>
    obtain ⟨blockNumber, recorded, read⟩ := coherent.read valid
    have complete : source.state.pools.map PoolSnapshot.pool = pools := by
      obtain ⟨_, _, _, answered⟩ := read
      exact requestPoolSnapshots_pools answered
    refine ⟨?_, fun _ => complete, fun _ => ⟨blockNumber, recorded, read⟩, ?_⟩
    · change source.state.valid = true ↔ true = true
      rw [valid]
    · intro candidate _ carried
      cases carried
      exact findPoolSnapshot_isSome complete (coherent.aimed _ _ found)

/-- Once closed, no critical section changes anything. -/
theorem perform_closed (closed : source.closed = true) {action : Action}
    (performed : action.perform lib source = some after) : after = source := by
  cases action with
  | newBlock blockNumber requestChainCall requestSnapshot =>
    cases performed
    generalize same : source.handleNewBlockEvent lib blockNumber requestChainCall requestSnapshot =
      after
    have outcome := same ▸ handleNewBlockEvent_outcome lib source blockNumber requestChainCall
      requestSnapshot
    cases outcome with
    | ignored => rfl
    | stale => rfl
    | invalidated opened => cases closed.symm.trans opened
    | applied opened => cases closed.symm.trans opened
  | pendingTx tx =>
    cases performed
    generalize same : source.handlePendingTxEvent tx = after
    have outcome := same ▸ handlePendingTxEvent_outcome source tx
    cases outcome with
    | ignored => rfl
    | accepted opened => cases closed.symm.trans opened
  | close =>
    cases performed
    rw [CandidateSource.closeStateWaiters, ← closed]
  | pop =>
    obtain ⟨⟨result, popped⟩, returned, same⟩ := Option.map_eq_some_iff.mp performed
    cases same
    cases waitPopState_outcome returned with
    | closed => rfl
    | invalid opened => cases closed.symm.trans opened
    | emptied => rfl
    | popped opened => cases closed.symm.trans opened

theorem waitPopState_closed (closed : source.closed = true) :
    source.waitPopState = some (.error .closed, source) := by
  simp [CandidateSource.waitPopState, CandidateSource.awake, closed]

/-- **Coherence.** In every state the critical sections can reach, whatever the
builder answered: a closed answer means the source is closed; a returned view is
valid exactly when it carries a candidate; a valid one lists exactly the configured
pools, in order, all read at the view's block, and the candidate's pool is among
them; and a closed source stays as it is and answers closed forever. -/
theorem received_views_are_coherent {labels : List Action}
    (run : (candidateSource lib pools).Run labels source) :
    (∀ after, source.waitPopState = some (.error .closed, after) → source.closed = true) ∧
      (∀ snapshot after, source.waitPopState = some (.ok snapshot, after) →
        CoherentView lib pools labels snapshot) ∧
      (source.closed = true → ∀ actions later,
        (candidateSource lib pools).Leads source actions later →
          later = source ∧ later.waitPopState = some (.error .closed, later)) := by
  have coherent := Coherent.reached run
  refine ⟨?_, ?_, ?_⟩
  · intro after returned
    cases waitPopState_outcome returned with
    | closed closed => exact closed
    | emptied opened quiet loaded invalid =>
      rw [size_pos_iff, coherent.emptied invalid] at loaded
      exact absurd rfl loaded
  · intro snapshot after returned
    exact coherent.view returned
  · intro closed actions later leads
    have same : later = source := Leads.stuck leads fun _ _ performed => perform_closed closed performed
    subst later
    exact ⟨rfl, waitPopState_closed closed⟩

/-! A source over one pool, and builder answers it accepts. -/

def samplePool : Pool := ⟨List.replicate 20 0xD1, [], []⟩

/-- Reserves 7 and 9, as two words. -/
def sampleWords : Bytes := List.replicate 31 0 ++ 7 :: List.replicate 31 0 ++ [9]

def sampleReserves : Json := .object [("result", .string (hexData sampleWords))]

/-- One pending swap of A for B in the pool. -/
def samplePending (seqNum : Int) : Body :=
  some (.object [("snapshotSeq", .int seqNum), ("transactions", .array [.object [
    ("mempoolTxId", .string "mp-1"), ("seqNum", .int seqNum), ("transaction", .object [
      ("nonce", .string "0x0"), ("from", .string (hexData (List.replicate 20 0x71))),
      ("to", .string (hexData samplePool.address)), ("gas", .string "0x5208"),
      ("input", .string "0x4cabca0a")])]])])

def sampleCall : Nat → Fields → Option Body := fun _ _ => some (some sampleReserves)

def sampleBlock (blockNumber : UInt64) (seqNum : Int) : Action :=
  .newBlock blockNumber sampleCall (some (samplePending seqNum))

/-- One more pool whose request is answered. -/
theorem requestPoolSnapshots_answered {requestChainCall : Nat → Fields → Option Body}
    {blockNumber : UInt64} {index : Nat} {pool : Pool} {rest : List Pool} {json : Json}
    {snapshot : PoolSnapshot} {others : List PoolSnapshot}
    (answered : requestChainCall index (CandidateSource.reservesPayload pool blockNumber) =
      some (some json))
    (read : PoolSnapshot.fromJson lib pool json = some snapshot)
    (readRest : CandidateSource.requestPoolSnapshots lib requestChainCall blockNumber (index + 1)
      rest = some others) :
    CandidateSource.requestPoolSnapshots lib requestChainCall blockNumber index (pool :: rest) =
      some (snapshot :: others) := by
  simp only [CandidateSource.requestPoolSnapshots, answered, read, readRest, Option.bind_eq_bind,
    Option.bind_some]

theorem sampleCall_read (blockNumber : UInt64) :
    CandidateSource.requestPoolSnapshots documented sampleCall blockNumber 0 [samplePool] =
      some [⟨samplePool, 7, 9⟩] := by
  have decoded : documented.decodePair sampleWords = some (7, 9) := by
    decide +kernel
  have read : PoolSnapshot.fromJson documented samplePool sampleReserves = some ⟨samplePool, 7, 9⟩ :=
    poolSnapshot_hexData rfl decoded
  exact requestPoolSnapshots_answered rfl read rfl

/-- The source after one block. -/
def sampleSource (blockNumber : UInt64) (seqNum : Int) : CandidateSource :=
  CandidateSource.handleNewBlockEvent documented { pools := [samplePool] } blockNumber sampleCall
    (some (samplePending seqNum))

theorem sampleSource_run (blockNumber : UInt64) (seqNum : Int) :
    (candidateSource documented [samplePool]).Run [sampleBlock blockNumber seqNum]
      (sampleSource blockNumber seqNum) :=
  .step (.start rfl) rfl

/-- A first block that is answered well is accepted. -/
theorem handleNewBlockEvent_first {blockNumber : UInt64}
    {requestChainCall : Nat → Fields → Option Body} {requestSnapshot : Option Body}
    {snapshots : List PoolSnapshot} {snapshot : PendingSnapshot}
    (answered : CandidateSource.requestPoolSnapshots lib requestChainCall blockNumber 0 pools =
      some snapshots)
    (read : snapshotOf lib blockNumber requestSnapshot = some snapshot) :
    CandidateSource.handleNewBlockEvent lib { pools } blockNumber requestChainCall requestSnapshot = {
      pools, state := snapshotted (CandidateFilter.filterSnapshot pools snapshot) snapshots } := by
  rw [handleNewBlockEvent_eq, answered, read]
  dsimp only
  rw [applyStateSnapshot_eq, if_neg]
  simp [State.isOlder]

/-- What the pending answer reads as. -/
def sampleSnapshot (blockNumber seqNum : UInt64) : PendingSnapshot where
  blockNumber := blockNumber
  snapshotSeq := seqNum
  transactions := [{
    input := CandidateFilter.swapExactAForBSelector, source := List.replicate 20 0x71, gas := 21000
    recipient := some samplePool.address, mempoolTxId := "mp-1", seqNum }]

/-- The pending transaction, without its record. -/
private theorem sampleTransaction_read :
    EvmTransaction.fromJson documented (.object [
      ("nonce", .string "0x0"), ("from", .string (hexData (List.replicate 20 0x71))),
      ("to", .string (hexData samplePool.address)), ("gas", .string "0x5208"),
      ("input", .string "0x4cabca0a")]) = some {
        input := CandidateFilter.swapExactAForBSelector, source := List.replicate 20 0x71
        gas := 21000, recipient := some samplePool.address } := by
  decide +kernel

theorem samplePending_read {blockNumber number : UInt64} {seqNum : Int}
    (isNumber : jsonUint64 [("seqNum", .int seqNum)] "seqNum" = some number) :
    snapshotOf documented blockNumber (some (samplePending seqNum)) =
      some (sampleSnapshot blockNumber number) := by
  have record : PendingTransaction.fromJson documented (.object [
      ("mempoolTxId", .string "mp-1"), ("seqNum", .int seqNum), ("transaction", .object [
        ("nonce", .string "0x0"), ("from", .string (hexData (List.replicate 20 0x71))),
        ("to", .string (hexData samplePool.address)), ("gas", .string "0x5208"),
        ("input", .string "0x4cabca0a")])]) = some {
      input := CandidateFilter.swapExactAForBSelector, source := List.replicate 20 0x71
      gas := 21000, recipient := some samplePool.address, mempoolTxId := "mp-1"
      seqNum := number } := by
    refine (read_then (show asObject _ = some _ from rfl) _).trans ?_
    refine (read_then (show jsonUint64 _ "seqNum" = some number from isNumber) _).trans ?_
    refine (read_then (show ifContains _ "transaction" = some _ from rfl) _).trans ?_
    refine (read_then sampleTransaction_read _).trans ?_
    rfl
  change PendingSnapshot.fromJson documented _ blockNumber = _
  refine (read_then (show jsonUint64 _ "snapshotSeq" = some number from isNumber) _).trans ?_
  refine (read_then (show jsonArray _ "transactions" = some _ from rfl) _).trans ?_
  rw [List.filterMap_cons, record]
  rfl

/-- After one block with one pending swap, the view handed out is valid and coherent. -/
theorem received_views_are_coherent_sample :
    ∃ snapshot after, (sampleSource 7 1).waitPopState = some (.ok snapshot, after) ∧
      snapshot.valid = true ∧
      CoherentView documented [samplePool] [sampleBlock 7 1] snapshot := by
  have valid : (sampleSource 7 1).waitPopState.map (fun popped => popped.1.toOption.map
      StateSnapshot.valid) = some (some true) := by
    rw [sampleSource, handleNewBlockEvent_first (sampleCall_read 7)
      (samplePending_read rfl)]
    decide +kernel
  obtain ⟨⟨result, after⟩, returned, isValid⟩ := Option.map_eq_some_iff.mp valid
  cases result with
  | error error => cases isValid
  | ok snapshot =>
    exact ⟨snapshot, after, returned, Option.some.inj isValid,
      (received_views_are_coherent (sampleSource_run 7 1)).2.1 snapshot after returned⟩

end DexKnight.SourceCoherence
