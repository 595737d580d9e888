import Std.Data.ExtTreeMap
import DexKnight.Core.Codec

/-! Knight's candidate source: the local mempool, the state around it, the filter,
and the critical sections of `CandidateSource` with the two event handlers. Each
operation returns its answer and the state it leaves; a mutex makes it one step. -/
namespace DexKnight.Core.CandidateState
open Core.Types Wire Codec

/-! ## `local_mempool.cpp` -/

/-- `std::map<uint64_t, Candidate>`. -/
abbrev CandidateMap := Std.ExtTreeMap UInt64 Candidate

structure LocalMempool where
  candidates : CandidateMap := ∅
  snapshotSeq : UInt64 := 0

namespace LocalMempool

/-- `insert_or_assign` under the candidate's own sequence number. -/
def insertOrAssign (candidates : CandidateMap) (candidate : Candidate) : CandidateMap :=
  candidates.insert candidate.tx.seqNum candidate

def applySnapshot (mempool : LocalMempool) (snapshot : CandidateSnapshot) : Bool × LocalMempool :=
  let nextCandidates := snapshot.candidates.foldl insertOrAssign ∅
  if snapshot.snapshotSeq < mempool.snapshotSeq then
    (false, mempool)
  else
    (true, { candidates := nextCandidates, snapshotSeq := snapshot.snapshotSeq })

def applyPendingTx (mempool : LocalMempool) (candidate : Candidate) : Bool × LocalMempool :=
  if candidate.tx.seqNum ≤ mempool.snapshotSeq then
    (false, mempool)
  else
    (true, { mempool with candidates := insertOrAssign mempool.candidates candidate })

/-- The entry at `begin()` is the one with the least key. -/
def popNextCandidate (mempool : LocalMempool) : Option Candidate × LocalMempool :=
  match mempool.candidates.toList with
  | [] => (none, mempool)
  | (seqNum, candidate) :: _ =>
    (some candidate, { mempool with candidates := mempool.candidates.erase seqNum })

def clear (_ : LocalMempool) : LocalMempool := { candidates := ∅, snapshotSeq := 0 }

def size (mempool : LocalMempool) : Nat := mempool.candidates.size

end LocalMempool

/-! ## `state.cpp` -/

structure State where
  localMempool : LocalMempool := {}
  pools : List PoolSnapshot := []
  blockNumber : Option UInt64 := none
  valid : Bool := false

namespace State

/-- `m_block_number && block_number < *m_block_number`. -/
def isOlder (state : State) (blockNumber : UInt64) : Bool :=
  match state.blockNumber with
  | none => false
  | some current => blockNumber < current

def applySnapshot (state : State) (snapshot : CandidateSnapshot) (pools : List PoolSnapshot) :
    Bool × State :=
  if state.isOlder snapshot.blockNumber then
    (false, state)
  else
    match state.localMempool.applySnapshot snapshot with
    | (false, _) => (false, state)
    | (true, localMempool) =>
      (true, { localMempool, pools, blockNumber := some snapshot.blockNumber, valid := true })

def applyPendingTx (state : State) (candidate : Candidate) : Bool × State :=
  if state.valid then
    let (accepted, localMempool) := state.localMempool.applyPendingTx candidate
    (accepted, { state with localMempool })
  else
    (false, state)

def markInvalid (state : State) (blockNumber : UInt64) : Bool × State :=
  if state.isOlder blockNumber then
    (false, state)
  else
    (true, {
      localMempool := state.localMempool.clear, pools := [], blockNumber := some blockNumber
      valid := false })

/-- `make_snapshot_locked`. -/
def makeSnapshot (state : State) (candidate : Option Candidate) : StateSnapshot where
  valid := state.valid
  blockNumber := state.blockNumber
  pools := state.pools
  candidate := candidate

def popNextSnapshot (state : State) : Option StateSnapshot × State :=
  if state.valid then
    match state.localMempool.popNextCandidate with
    | (none, localMempool) => (none, { state with localMempool })
    | (some candidate, localMempool) =>
      let state := { state with localMempool }
      (some (state.makeSnapshot (some candidate)), state)
  else
    (none, state)

def snapshot (state : State) : StateSnapshot := state.makeSnapshot none

def size (state : State) : Nat := state.localMempool.size

end State

/-! ## `candidate_filter.cpp` -/

namespace CandidateFilter

def swapExactAForBSelector : Bytes := [0x4c, 0xab, 0xca, 0x0a]
def swapExactBForASelector : Bytes := [0xdd, 0x4f, 0x16, 0x11]

def startsWithSelector (input selector : Bytes) : Bool :=
  selector.length ≤ input.length && input.take selector.length == selector

def swapKindFromInput (input : Bytes) : Option SwapKind :=
  if startsWithSelector input swapExactAForBSelector then some .aForB
  else if startsWithSelector input swapExactBForASelector then some .bForA
  else none

def findPool (pools : List Pool) (address : Bytes) : Option Pool :=
  pools.find? fun pool => pool.address = address

def filter (pools : List Pool) (tx : PendingTransaction) : Option Candidate := do
  let recipient ← tx.recipient
  let pool ← findPool pools recipient
  let swapKind ← swapKindFromInput tx.input
  some { tx, pool, swapKind }

def filterSnapshot (pools : List Pool) (snapshot : PendingSnapshot) : CandidateSnapshot where
  blockNumber := snapshot.blockNumber
  snapshotSeq := snapshot.snapshotSeq
  candidates := snapshot.transactions.filterMap (filter pools)

end CandidateFilter

/-! ## `candidate_source.cpp` -/

inductive Error
  | closed
  deriving DecidableEq, Repr

/-- The shared part of `CandidateSource`: the state, and what its wait mutex guards. -/
structure CandidateSource where
  pools : List Pool
  state : State := {}
  closed : Bool := false
  invalidSnapshotPending : Bool := false

namespace CandidateSource

def closeStateWaiters (source : CandidateSource) : CandidateSource := { source with closed := true }

def markStateInvalid (source : CandidateSource) (blockNumber : UInt64) : Bool × CandidateSource :=
  if source.closed then
    (false, source)
  else
    match source.state.markInvalid blockNumber with
    | (false, state) => (false, { source with state })
    | (true, state) => (true, { source with state, invalidSnapshotPending := true })

def applyStateSnapshot (source : CandidateSource) (snapshot : CandidateSnapshot)
    (pools : List PoolSnapshot) : Bool × CandidateSource :=
  if source.closed then
    (false, source)
  else
    match source.state.applySnapshot snapshot pools with
    | (false, state) => (false, { source with state })
    | (true, state) => (true, { source with state, invalidSnapshotPending := false })

def applyPendingCandidate (source : CandidateSource) (candidate : Candidate) :
    Bool × CandidateSource :=
  if source.closed then
    (false, source)
  else
    let (accepted, state) := source.state.applyPendingTx candidate
    (accepted, { source with state })

/-- The condition `wait_pop_state` sleeps on. -/
def awake (source : CandidateSource) : Bool :=
  source.closed || source.invalidSnapshotPending || 0 < source.state.size

/-- `wait_pop_state` past its wait: `none` while it would still sleep. -/
def waitPopState (source : CandidateSource) :
    Option (Except Error StateSnapshot × CandidateSource) :=
  if source.awake then
    some <|
      if source.closed then
        (.error .closed, source)
      else if source.invalidSnapshotPending then
        (.ok source.state.snapshot, { source with invalidSnapshotPending := false })
      else
        match source.state.popNextSnapshot with
        | (none, state) => (.error .closed, { source with state })
        | (some snapshot, state) => (.ok snapshot, { source with state })
  else
    none

/-! The handlers. A request is its outcome: `none` when every attempt failed, the
parsed body otherwise. -/

variable (lib : Libraries)

/-- `GetReserves::kSelector`. -/
def getReservesSelector : Bytes := [0x09, 0x02, 0xf1, 0xac]

/-- The payload of one reserve request. -/
def reservesPayload (pool : Pool) (blockNumber : UInt64) : Fields :=
  [("to", .string (hexData pool.address)), ("data", .string (hexData getReservesSelector)),
    ("block", .string (hexQuantity blockNumber))]

/-- The loop of `request_pool_snapshots`: it stops at the first pool whose request
or answer fails. Requests are numbered, since two of them may carry one payload and
still be answered differently. -/
def requestPoolSnapshots (requestChainCall : Nat → Fields → Option Body) (blockNumber : UInt64) :
    Nat → List Pool → Option (List PoolSnapshot)
  | _, [] => some []
  | index, pool :: rest => do
    let rawResponse ← requestChainCall index (reservesPayload pool blockNumber)
    let responseJson ← rawResponse
    let poolSnapshot ← PoolSnapshot.fromJson lib pool responseJson
    let result ← requestPoolSnapshots requestChainCall blockNumber (index + 1) rest
    some (poolSnapshot :: result)

def handleNewBlockEvent (source : CandidateSource) (blockNumber : UInt64)
    (requestChainCall : Nat → Fields → Option Body) (requestSnapshot : Option Body) :
    CandidateSource :=
  match requestPoolSnapshots lib requestChainCall blockNumber 0 source.pools with
  | none => (source.markStateInvalid blockNumber).2
  | some poolSnapshots =>
    match requestSnapshot with
    | none => (source.markStateInvalid blockNumber).2
    | some body =>
      match parseToJsonObject body with
      | none => (source.markStateInvalid blockNumber).2
      | some snapshotJson =>
        match PendingSnapshot.fromJson lib snapshotJson blockNumber with
        | none => (source.markStateInvalid blockNumber).2
        | some snapshot =>
          (source.applyStateSnapshot (CandidateFilter.filterSnapshot source.pools snapshot)
            poolSnapshots).2

def handlePendingTxEvent (source : CandidateSource) (tx : PendingTransaction) : CandidateSource :=
  match CandidateFilter.filter source.pools tx with
  | none => source
  | some candidate => (source.applyPendingCandidate candidate).2

end CandidateSource

end DexKnight.Core.CandidateState
