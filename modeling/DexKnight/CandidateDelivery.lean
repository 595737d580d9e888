import DexKnight.MempoolProofs
import DexKnight.SourceCoherence

/-! Delivery of candidates from the builder to Knight, over two paths that race: the
snapshot a new block asks for, and the stream of messages. A message arrives at most
once, in any order, or never; a snapshot is taken at some moment between the start of
a block event and its end. Nothing is lost between the two: a snapshot that is
accepted covers everything its worker has handled, since the worker asked for it
afterwards and the builder's counter never goes down. Nothing is taken twice: a
candidate leaves the local mempool for good until the next accepted snapshot. -/
namespace DexKnight.CandidateDelivery
open Core.Types Core.Wire Core.Codec Core.CandidateState SourceProofs MempoolProofs WireProofs
  Support.Runs
open Core.BlockBuilder hiding BundleItem Bundle

variable {lib : Libraries} {pools : List Pool}

/-! ## The parties -/

/-- What Knight's worker is doing: waiting for an event, or handling a new block
before or after its pending snapshot was answered. -/
inductive Worker
  | idle
  | requesting (blockNumber : UInt64)
  | answered (blockNumber : UInt64) (response : Option Body)

structure System where
  mempool : Mempool := {}
  /-- Messages broadcast and not handled; each is the record as it was broadcast. -/
  inFlight : List MempoolRecord := []
  source : CandidateSource
  worker : Worker := .idle
  /-- Sequence numbers of the messages Knight has handled. -/
  handled : List Nat := []
  /-- What was popped since the last accepted snapshot. -/
  popped : List Candidate := []

/-- Who takes a step. -/
inductive Party
  | builder
  | worker
  | consumer
  deriving DecidableEq, Repr

/-- Whether a new-block event ends with its snapshot applied. -/
def accepts (lib : Libraries) (source : CandidateSource) (blockNumber : UInt64)
    (requestChainCall : Nat → Fields → Option Body) (response : Option Body) : Bool :=
  match CandidateSource.requestPoolSnapshots lib requestChainCall blockNumber 0 source.pools,
    snapshotOf lib blockNumber response with
  | some poolSnapshots, some snapshot =>
    (source.applyStateSnapshot (CandidateFilter.filterSnapshot source.pools snapshot)
      poolSnapshots).1
  | _, _ => false

/-- A message as the feed parses it and the worker handles it. -/
def handleMessage (lib : Libraries) (source : CandidateSource) (payload : Body) : CandidateSource :=
  (parsePendingTxEvent lib payload).elim source source.handlePendingTxEvent

def poppedCandidates : Except Error StateSnapshot → List Candidate
  | .ok snapshot => snapshot.candidate.toList
  | .error _ => []

inductive Step (lib : Libraries) (system : System) : Party → System → Prop
  | addTransaction (transaction : Transaction) (uuid now : String) :
      Step lib system .builder { system with
        mempool := (system.mempool.addTransaction transaction uuid now).2
        inFlight := (system.mempool.addTransaction transaction uuid now).1 :: system.inFlight }
  | markMined {mempoolTxId chainTxHash now : String} {status : TxStatus} {receipt : Option Fields}
      {mempool : Mempool} :
      system.mempool.markMined mempoolTxId chainTxHash status receipt now = .ok mempool →
      Step lib system .builder { system with mempool }
  | newBlock (blockNumber : UInt64) : system.worker = .idle →
      Step lib system .worker { system with worker := .requesting blockNumber }
  | pendingSnapshot {blockNumber : UInt64} : system.worker = .requesting blockNumber →
      Step lib system .builder { system with
        worker := .answered blockNumber (some (some system.mempool.pendingSnapshot)) }
  /-- Every attempt failed, or what arrived is not a snapshot. -/
  | requestFails {blockNumber : UInt64} (response : Option Body) :
      system.worker = .requesting blockNumber → snapshotOf lib blockNumber response = none →
      Step lib system .worker { system with worker := .answered blockNumber response }
  /-- The chain calls are answered in any way. -/
  | finishBlock {blockNumber : UInt64} {response : Option Body}
      (requestChainCall : Nat → Fields → Option Body) :
      system.worker = .answered blockNumber response →
      Step lib system .worker { system with
        source := system.source.handleNewBlockEvent lib blockNumber requestChainCall response
        worker := .idle
        popped := if accepts lib system.source blockNumber requestChainCall response then []
          else system.popped }
  | deliver {earlier later : List MempoolRecord} {record : MempoolRecord} :
      system.worker = .idle → system.inFlight = earlier ++ record :: later →
      Step lib system .worker { system with
        inFlight := earlier ++ later
        source := handleMessage lib system.source (some record.message)
        handled := record.seqNum :: system.handled }
  | pop {result : Except Error StateSnapshot} {source : CandidateSource} :
      system.source.waitPopState = some (result, source) →
      Step lib system .consumer { system with
        source, popped := poppedCandidates result ++ system.popped }

/-- Builder and Knight from their start, in any interleaving. -/
def delivery (lib : Libraries) (pools : List Pool) : Machine System Party where
  initial system := system = { source := { pools } }
  step := Step lib

/-- What a record is to Knight, if it parses and passes the filter. -/
def candidateOf (lib : Libraries) (pools : List Pool) (record : MempoolRecord) : Option Candidate :=
  (PendingTransaction.fromJson lib record.toJson).bind (CandidateFilter.filter pools)

theorem candidateOf_seqNum {record : MempoolRecord} {candidate : Candidate}
    (known : candidateOf lib pools record = some candidate) :
    candidate.tx.seqNum.toNat = record.seqNum := by
  unfold candidateOf at known
  obtain ⟨tx, parsed, kept⟩ := Option.bind_eq_some_iff.mp known
  rw [(filter_eq_some kept).1]
  exact fromJson_seqNum parsed

/-! ## The builder and the channel -/

/-- How the mempool may change: no record becomes pending but new ones, above the
counter. -/
structure Grows (before after : Mempool) : Prop where
  numbered : WellNumbered after
  counter : before.lastSeqNum ≤ after.lastSeqNum
  pending : ∀ record ∈ after.transactions, record.status = .pending →
    record ∈ before.transactions ∨ before.lastSeqNum < record.seqNum

theorem addTransaction_grows {mempool : Mempool} (numbered : WellNumbered mempool)
    (transaction : Transaction) (uuid now : String) :
    Grows mempool (mempool.addTransaction transaction uuid now).2 where
  numbered := addTransaction_wellNumbered numbered transaction uuid now
  counter := Nat.le_succ _
  pending := by
    intro record member _
    rcases mem_setItem member with rfl | ⟨isOld, _⟩
    · exact .inr (Nat.lt_succ_self _)
    · exact .inl isOld

theorem markMined_grows {mempool after : Mempool} (numbered : WellNumbered mempool)
    {mempoolTxId chainTxHash now : String} {status : TxStatus} {receipt : Option Fields}
    (marked : mempool.markMined mempoolTxId chainTxHash status receipt now = .ok after) :
    Grows mempool after where
  numbered := markMined_wellNumbered numbered marked
  counter := by
    obtain ⟨_, _, _, rfl⟩ := markMined_cases marked
    exact Nat.le_refl _
  pending record member isPending := .inl (markMined_pending marked member isPending)

/-- Messages in flight are numbered, none was handled, and a record that is still
pending is what its message says. -/
structure Stream (mempool : Mempool) (inFlight : List MempoolRecord) (handled : List Nat) : Prop where
  numbered : WellNumbered mempool
  handledBound : ∀ seqNum ∈ handled, seqNum ≤ mempool.lastSeqNum
  once : (inFlight.map MempoolRecord.seqNum).Nodup
  bound : ∀ message ∈ inFlight, message.seqNum ≤ mempool.lastSeqNum
  undelivered : ∀ message ∈ inFlight, message.seqNum ∉ handled
  current : ∀ message ∈ inFlight, ∀ record ∈ mempool.transactions, record.status = .pending →
    record.seqNum = message.seqNum → record = message

namespace Stream

variable {mempool after : Mempool} {inFlight : List MempoolRecord} {handled : List Nat}

theorem grows (stream : Stream mempool inFlight handled) (grows : Grows mempool after) :
    Stream after inFlight handled where
  numbered := grows.numbered
  handledBound seqNum member := (stream.handledBound seqNum member).trans grows.counter
  once := stream.once
  bound message member := (stream.bound message member).trans grows.counter
  undelivered := stream.undelivered
  current := by
    intro message sent record member isPending same
    rcases grows.pending record member isPending with isOld | isNew
    · exact stream.current message sent record isOld isPending same
    · have bound := stream.bound message sent
      omega

/-- The message of a record that was just added. -/
theorem broadcast (stream : Stream mempool inFlight handled) (transaction : Transaction)
    (uuid now : String) :
    Stream (mempool.addTransaction transaction uuid now).2
      ((mempool.addTransaction transaction uuid now).1 :: inFlight) handled := by
  have grown := stream.grows (addTransaction_grows stream.numbered transaction uuid now)
  refine ⟨grown.numbered, grown.handledBound, ?_, ?_, ?_, ?_⟩
  · rw [List.map_cons, List.nodup_cons]
    refine ⟨?_, stream.once⟩
    intro reused
    obtain ⟨message, sent, same⟩ := List.mem_map.mp reused
    have bound := stream.bound message sent
    have isNew : message.seqNum = mempool.lastSeqNum + 1 := same
    omega
  · intro message sent
    rcases List.mem_cons.mp sent with rfl | isOld
    · exact Nat.le_refl _
    · exact grown.bound message isOld
  · intro message sent
    rcases List.mem_cons.mp sent with rfl | isOld
    · intro impossible
      exact absurd (stream.handledBound _ impossible) (Nat.not_succ_le_self _)
    · exact stream.undelivered message isOld
  · intro message sent record member isPending same
    rcases List.mem_cons.mp sent with rfl | isOld
    · rcases mem_setItem member with isNew | ⟨isRecord, _⟩
      · exact isNew
      · have bound := stream.numbered.bounded record isRecord
        have isNew : record.seqNum = mempool.lastSeqNum + 1 := same
        omega
    · exact grown.current message isOld record member isPending same

/-- A message leaves the channel as it is handled. -/
theorem deliver {earlier later : List MempoolRecord} {record : MempoolRecord}
    (stream : Stream mempool (earlier ++ record :: later) handled) :
    Stream mempool (earlier ++ later) (record.seqNum :: handled) := by
  have others : ∀ message ∈ earlier ++ later, message ∈ earlier ++ record :: later := by
    intro message stays
    rcases List.mem_append.mp stays with isEarlier | isLater
    · exact List.mem_append_left _ isEarlier
    · exact List.mem_append_right _ (List.mem_cons_of_mem _ isLater)
  have once := stream.once
  rw [List.map_append, List.map_cons, List.nodup_middle, List.nodup_cons, ← List.map_append] at once
  refine ⟨stream.numbered, ?_, once.2, ?_, ?_, ?_⟩
  · intro seqNum isHandled
    rcases List.mem_cons.mp isHandled with rfl | before
    · exact stream.bound record (List.mem_append_right _ List.mem_cons_self)
    · exact stream.handledBound seqNum before
  · exact fun message stays => stream.bound message (others message stays)
  · intro message stays
    rw [List.mem_cons, not_or]
    refine ⟨?_, stream.undelivered message (others message stays)⟩
    intro same
    exact once.1 (same ▸ List.mem_map_of_mem stays)
  · exact fun message stays => stream.current message (others message stays)

end Stream

/-! ## A snapshot on its way -/

/-- A snapshot taken at this point of a run or before: it covers every handled
message, and lists every record up to its number that is still pending and parses. -/
structure Captured (lib : Libraries) (mempool : Mempool) (handled : List Nat)
    (snapshot : PendingSnapshot) : Prop where
  past : snapshot.snapshotSeq.toNat ≤ mempool.lastSeqNum
  seen : ∀ seqNum ∈ handled, seqNum ≤ snapshot.snapshotSeq.toNat
  lists : ∀ record ∈ mempool.transactions, record.status = .pending →
    record.seqNum ≤ snapshot.snapshotSeq.toNat →
    ∀ tx, PendingTransaction.fromJson lib record.toJson = some tx → tx ∈ snapshot.transactions
  distinct : (snapshot.transactions.map PendingTransaction.seqNum).Nodup
  bounded : ∀ tx ∈ snapshot.transactions, tx.seqNum ≤ snapshot.snapshotSeq

/-- Distinct keys stay distinct through a partial map that keeps them. -/
private theorem filterMap_keys_nodup {α β κ : Type} {f : α → Option β} {keyOf : α → κ} {keyOf' : β → κ}
    (keeps : ∀ a b, f a = some b → keyOf' b = keyOf a) {items : List α}
    (distinct : (items.map keyOf).Nodup) : ((items.filterMap f).map keyOf').Nodup := by
  induction items with
  | nil => exact List.nodup_nil
  | cons first rest ih =>
    rw [List.map_cons, List.nodup_cons] at distinct
    obtain ⟨fresh, distinct⟩ := distinct
    rw [List.filterMap_cons]
    cases image : f first with
    | none => exact ih distinct
    | some b =>
      dsimp only
      rw [List.map_cons, List.nodup_cons]
      refine ⟨?_, ih distinct⟩
      intro reused
      obtain ⟨other, member, same⟩ := List.mem_map.mp reused
      obtain ⟨a, isItem, isOther⟩ := List.mem_filterMap.mp member
      refine fresh (List.mem_map.mpr ⟨a, isItem, ?_⟩)
      rw [← keeps a other isOther, ← keeps first b image, same]

/-- Distinct records parse to distinct sequence numbers. -/
private theorem parsed_seqNums_nodup {records : List MempoolRecord}
    (distinct : (records.map MempoolRecord.seqNum).Nodup) :
    ((records.filterMap fun record => PendingTransaction.fromJson lib record.toJson).map
      PendingTransaction.seqNum).Nodup := by
  have asNumbers : ((records.filterMap fun record =>
      PendingTransaction.fromJson lib record.toJson).map fun tx => tx.seqNum.toNat).Nodup :=
    filterMap_keys_nodup (fun _ _ parsed => fromJson_seqNum parsed) distinct
  refine List.Nodup.of_map UInt64.toNat ?_
  rw [List.map_map]
  exact asNumbers

namespace Captured

variable {mempool after : Mempool} {inFlight : List MempoolRecord} {handled : List Nat}
  {snapshot : PendingSnapshot}

/-- A snapshot as the builder takes it. -/
theorem taken (stream : Stream mempool inFlight handled) {blockNumber : UInt64}
    (read : snapshotOf lib blockNumber (some (some mempool.pendingSnapshot)) = some snapshot) :
    Captured lib mempool handled snapshot := by
  obtain ⟨isCounter, listed⟩ := snapshotOf_pendingSnapshot read
  refine ⟨isCounter.le, ?_, ?_, ?_, ?_⟩
  · rw [isCounter]
    exact stream.handledBound
  · intro record member isPending _ tx parsed
    rw [listed, List.mem_filterMap]
    exact ⟨record, mem_pendingRecords.mpr ⟨member, isPending⟩, parsed⟩
  · rw [listed]
    refine parsed_seqNums_nodup ?_
    exact stream.numbered.seqNums.sublist (List.filter_sublist.map _)
  · intro tx member
    rw [listed] at member
    obtain ⟨record, isRecord, parsed⟩ := List.mem_filterMap.mp member
    rw [UInt64.le_iff_toNat_le, isCounter, fromJson_seqNum parsed]
    exact stream.numbered.bounded record (mem_pendingRecords.mp isRecord).1

/-- What the builder does afterwards takes nothing from it. -/
theorem grows (captured : Captured lib mempool handled snapshot) (grows : Grows mempool after) :
    Captured lib after handled snapshot where
  past := captured.past.trans grows.counter
  seen := captured.seen
  lists := by
    intro record member isPending covered
    rcases grows.pending record member isPending with isOld | isNew
    · exact captured.lists record isOld isPending covered
    · have past := captured.past
      omega
  distinct := captured.distinct
  bounded := captured.bounded

end Captured

/-! ## Knight's side -/

/-- Below the snapshot, or handled. -/
def Accounted (source : CandidateSource) (handled : List Nat) (seqNum : Nat) : Prop :=
  seqNum ≤ source.state.localMempool.snapshotSeq.toNat ∨ seqNum ∈ handled

/-- The local mempool against the builder's: nothing accounted for is missing, and
what was popped is gone. -/
structure Kept (lib : Libraries) (pools : List Pool) (mempool : Mempool) (handled : List Nat)
    (source : CandidateSource) (popped : List Candidate) : Prop where
  configured : source.pools = pools
  opened : source.closed = false
  past : source.state.valid = true →
    source.state.localMempool.snapshotSeq.toNat ≤ mempool.lastSeqNum
  keyed : ∀ (seqNum : UInt64) (candidate : Candidate),
    source.state.localMempool.candidates[seqNum]? = some candidate → candidate.tx.seqNum = seqNum
  covered : source.state.valid = true → ∀ record ∈ mempool.transactions, record.status = .pending →
    ∀ candidate, candidateOf lib pools record = some candidate →
      Accounted source handled record.seqNum →
        source.state.localMempool.candidates[candidate.tx.seqNum]? = some candidate ∨
          candidate ∈ popped
  accounted : source.state.valid = true → ∀ (seqNum : UInt64) (candidate : Candidate),
    source.state.localMempool.candidates[seqNum]? = some candidate →
      Accounted source handled seqNum.toNat
  gone : source.state.valid = true → ∀ candidate ∈ popped,
    source.state.localMempool.candidates[candidate.tx.seqNum]? = none ∧
      Accounted source handled candidate.tx.seqNum.toNat
  once : (popped.map fun candidate => candidate.tx.seqNum).Nodup

namespace Kept

variable {mempool after : Mempool} {inFlight : List MempoolRecord} {handled : List Nat}
  {source : CandidateSource} {popped : List Candidate}

theorem initially : Kept lib pools {} [] { pools } [] := by
  refine ⟨rfl, rfl, ?_, ?_, ?_, ?_, ?_, List.nodup_nil⟩
  · intro impossible
    cases impossible
  · intro seqNum candidate found
    simp at found
  · intro impossible
    cases impossible
  · intro impossible
    cases impossible
  · intro impossible
    cases impossible

/-- The builder's steps: a new record is above everything accounted for. -/
theorem grows (kept : Kept lib pools mempool handled source popped)
    (handledBound : ∀ seqNum ∈ handled, seqNum ≤ mempool.lastSeqNum) (grows : Grows mempool after) :
    Kept lib pools after handled source popped where
  configured := kept.configured
  opened := kept.opened
  past valid := (kept.past valid).trans grows.counter
  keyed := kept.keyed
  covered := by
    intro valid record member isPending candidate known accounted
    rcases grows.pending record member isPending with isOld | isNew
    · exact kept.covered valid record isOld isPending candidate known accounted
    · rcases accounted with below | isHandled
      · have past := kept.past valid
        omega
      · have bound := handledBound _ isHandled
        omega
  accounted := kept.accounted
  gone := kept.gone
  once := kept.once

/-- An invalidation leaves nothing to keep. -/
theorem invalidate (kept : Kept lib pools mempool handled source popped) (blockNumber : UInt64) :
    Kept lib pools mempool handled
      { source with state := invalidated blockNumber, invalidSnapshotPending := true } popped := by
  refine ⟨kept.configured, kept.opened, ?_, ?_, ?_, ?_, ?_, kept.once⟩
  · intro impossible
    cases impossible
  · intro seqNum candidate found
    simp [invalidated] at found
  · intro impossible
    cases impossible
  · intro impossible
    cases impossible
  · intro impossible
    cases impossible

/-- Candidates of a snapshot have its sequence numbers. -/
private theorem filterSnapshot_seqNums_nodup {snapshot : PendingSnapshot}
    (distinct : (snapshot.transactions.map PendingTransaction.seqNum).Nodup) :
    ((CandidateFilter.filterSnapshot pools snapshot).candidates.map
      fun candidate => candidate.tx.seqNum).Nodup :=
  filterMap_keys_nodup (fun _ _ kept => congrArg PendingTransaction.seqNum (filter_eq_some kept).1)
    distinct

/-- An accepted snapshot has everything that was handled before it was asked for. -/
theorem snapshot (kept : Kept lib pools mempool handled source popped) {snapshot : PendingSnapshot}
    (captured : Captured lib mempool handled snapshot) (poolSnapshots : List PoolSnapshot) :
    Kept lib pools mempool handled { source with
      state := snapshotted (CandidateFilter.filterSnapshot pools snapshot) poolSnapshots
      invalidSnapshotPending := false } [] := by
  refine ⟨kept.configured, kept.opened, fun _ => captured.past, ?_, ?_, ?_, ?_, List.nodup_nil⟩
  · intro seqNum candidate found
    rcases lookup_foldl found with impossible | ⟨_, isKey⟩
    · simp at impossible
    · exact isKey
  · intro _ record member isPending candidate known accounted
    have covered : record.seqNum ≤ snapshot.snapshotSeq.toNat := by
      rcases accounted with below | isHandled
      · exact below
      · exact captured.seen _ isHandled
    unfold candidateOf at known
    obtain ⟨tx, parsed, passed⟩ := Option.bind_eq_some_iff.mp known
    have listed := captured.lists record member isPending covered tx parsed
    refine .inl (lookup_foldl_of_mem (filterSnapshot_seqNums_nodup captured.distinct) ?_)
    exact List.mem_filterMap.mpr ⟨tx, listed, passed⟩
  · intro _ seqNum candidate found
    rcases lookup_foldl found with impossible | ⟨member, isKey⟩
    · simp at impossible
    · obtain ⟨tx, listed, passed⟩ := List.mem_filterMap.mp member
      have bounded := captured.bounded tx listed
      rw [← (filter_eq_some passed).1, isKey, UInt64.le_iff_toNat_le] at bounded
      exact .inl bounded
  · intro _ candidate impossible
    cases impossible

/-- A block event ends in one of three ways. -/
private theorem finishBlock_cases (source : CandidateSource) (blockNumber : UInt64)
    (requestChainCall : Nat → Fields → Option Body) (response : Option Body) :
    (accepts lib source blockNumber requestChainCall response = true ∧
      ∃ poolSnapshots snapshot, snapshotOf lib blockNumber response = some snapshot ∧
        source.handleNewBlockEvent lib blockNumber requestChainCall response = { source with
          state := snapshotted (CandidateFilter.filterSnapshot source.pools snapshot) poolSnapshots
          invalidSnapshotPending := false }) ∨
      (accepts lib source blockNumber requestChainCall response = false ∧
        (source.handleNewBlockEvent lib blockNumber requestChainCall response = source ∨
          source.handleNewBlockEvent lib blockNumber requestChainCall response =
            { source with state := invalidated blockNumber, invalidSnapshotPending := true })) := by
  rw [handleNewBlockEvent_eq, accepts]
  have unread : (source.markStateInvalid blockNumber).2 = source ∨
      (source.markStateInvalid blockNumber).2 =
        { source with state := invalidated blockNumber, invalidSnapshotPending := true } := by
    rw [markStateInvalid_eq]
    split
    · exact .inl rfl
    · exact .inr rfl
  cases CandidateSource.requestPoolSnapshots lib requestChainCall blockNumber 0 source.pools with
  | none => exact .inr ⟨rfl, unread⟩
  | some poolSnapshots =>
    cases snapshotOf lib blockNumber response with
    | none => exact .inr ⟨rfl, unread⟩
    | some snapshot =>
      dsimp only
      rw [applyStateSnapshot_eq]
      split
      · exact .inr ⟨rfl, .inl rfl⟩
      · exact .inl ⟨rfl, poolSnapshots, snapshot, rfl, rfl⟩

theorem finishBlock (kept : Kept lib pools mempool handled source popped) (blockNumber : UInt64)
    (requestChainCall : Nat → Fields → Option Body) (response : Option Body)
    (captured : ∀ snapshot, snapshotOf lib blockNumber response = some snapshot →
      Captured lib mempool handled snapshot) :
    Kept lib pools mempool handled
      (source.handleNewBlockEvent lib blockNumber requestChainCall response)
      (if accepts lib source blockNumber requestChainCall response then [] else popped) := by
  obtain rfl := kept.configured
  rcases finishBlock_cases source blockNumber requestChainCall response with
    ⟨accepted, poolSnapshots, snapshot, read, same⟩ | ⟨refused, same | same⟩
  · rw [accepted, if_pos rfl, same]
    exact kept.snapshot (captured snapshot read) poolSnapshots
  · rw [refused, if_neg (by decide), same]
    exact kept
  · rw [refused, if_neg (by decide), same]
    exact kept.invalidate blockNumber

/-- The feed reads a broadcast message as the record in it. -/
theorem parsePendingTxEvent_record (json : Json) :
    parsePendingTxEvent lib
        (some (.object [("type", .string "pending_transaction"), ("record", json)])) =
      PendingTransaction.fromJson lib json := by
  have isType : jsonString [("type", .string "pending_transaction"), ("record", json)] "type" =
      some "pending_transaction" := by
    have whole : cString "pending_transaction" = "pending_transaction" := by decide +kernel
    simp [jsonString, ifContains, whole]
  have isRecord : ifContains [("type", .string "pending_transaction"), ("record", json)] "record" =
      some json := by
    simp [ifContains]
  simp only [parsePendingTxEvent, parseToJsonObject, Option.bind_eq_bind, Option.bind_some, isType,
    isRecord, ↓reduceIte]

theorem handled_mono {seqNum new : Nat} (accounted : Accounted source handled seqNum) :
    Accounted source (new :: handled) seqNum :=
  accounted.imp_right (List.mem_cons_of_mem _)

/-- A message that changes nothing is one whose record needs nothing: it is not a
candidate, or the snapshot covers it, or the state is invalid. -/
private theorem ignoreMessage (kept : Kept lib pools mempool handled source popped)
    {record : MempoolRecord}
    (needless : source.state.valid = true → ∀ pending ∈ mempool.transactions,
      pending.status = .pending → pending.seqNum = record.seqNum → ∀ candidate,
        candidateOf lib pools pending = some candidate → Accounted source handled record.seqNum) :
    Kept lib pools mempool (record.seqNum :: handled) source popped where
  configured := kept.configured
  opened := kept.opened
  past := kept.past
  keyed := kept.keyed
  covered := by
    intro valid pending member isPending candidate known accounted
    refine kept.covered valid pending member isPending candidate known ?_
    rcases accounted with below | isHandled
    · exact .inl below
    · rcases List.mem_cons.mp isHandled with same | before
      · rw [same]
        exact needless valid pending member isPending same candidate known
      · exact .inr before
  accounted valid seqNum candidate found := handled_mono (kept.accounted valid seqNum candidate found)
  gone valid candidate member := by
    obtain ⟨absent, accounted⟩ := kept.gone valid candidate member
    exact ⟨absent, handled_mono accounted⟩
  once := kept.once

/-- A message that adds its candidate: no entry and no popped candidate has its
number, since it was neither handled before nor below the snapshot. -/
private theorem acceptMessage (kept : Kept lib pools mempool handled source popped)
    {record : MempoolRecord} {candidate : Candidate}
    (known : candidateOf lib pools record = some candidate)
    (undelivered : record.seqNum ∉ handled)
    (current : ∀ pending ∈ mempool.transactions, pending.status = .pending →
      pending.seqNum = record.seqNum → pending = record)
    (fresh : source.state.localMempool.snapshotSeq < candidate.tx.seqNum) :
    Kept lib pools mempool (record.seqNum :: handled) { source with state := { source.state with
      localMempool := { source.state.localMempool with
        candidates := LocalMempool.insertOrAssign source.state.localMempool.candidates candidate } } }
      popped := by
  have isSeq := candidateOf_seqNum known
  refine ⟨kept.configured, kept.opened, kept.past, ?_, ?_, ?_, ?_, kept.once⟩
  · intro seqNum entry found
    rw [lookup_insertOrAssign] at found
    split at found
    · next isKey =>
      cases found
      exact isKey
    · exact kept.keyed seqNum entry found
  · intro valid pending member isPending other isOther accounted
    rw [lookup_insertOrAssign]
    by_cases same : pending.seqNum = record.seqNum
    · cases current pending member isPending same
      rw [known] at isOther
      cases isOther
      exact .inl (if_pos rfl)
    · have distinct : candidate.tx.seqNum ≠ other.tx.seqNum := by
        intro sameSeq
        rw [← candidateOf_seqNum isOther, ← isSeq, sameSeq] at same
        exact same rfl
      rw [if_neg distinct]
      refine kept.covered valid pending member isPending other isOther ?_
      rcases accounted with below | isHandled
      · exact .inl below
      · rcases List.mem_cons.mp isHandled with impossible | before
        · exact absurd impossible same
        · exact .inr before
  · intro valid seqNum entry found
    rw [lookup_insertOrAssign] at found
    split at found
    · next isKey =>
      refine .inr (List.mem_cons.mpr (.inl ?_))
      rw [← isKey, isSeq]
    · exact handled_mono (kept.accounted valid seqNum entry found)
  · intro valid other member
    obtain ⟨absent, accounted⟩ := kept.gone valid other member
    refine ⟨?_, handled_mono accounted⟩
    rw [lookup_insertOrAssign, if_neg]
    · exact absent
    · intro same
      rw [← same, isSeq] at accounted
      rcases accounted with below | isHandled
      · rw [UInt64.lt_iff_toNat_lt, isSeq] at fresh
        omega
      · exact undelivered isHandled

/-- One message, whatever it parses to and whatever the state of the source. -/
private theorem handleParsed {record : MempoolRecord} {parsed : Option PendingTransaction}
    (kept : Kept lib pools mempool handled source popped)
    (isCandidate : candidateOf lib pools record = parsed.bind (CandidateFilter.filter pools))
    (isSeq : ∀ tx, parsed = some tx → tx.seqNum.toNat = record.seqNum)
    (undelivered : record.seqNum ∉ handled)
    (current : ∀ pending ∈ mempool.transactions, pending.status = .pending →
      pending.seqNum = record.seqNum → pending = record) :
    Kept lib pools mempool (record.seqNum :: handled)
      (parsed.elim source source.handlePendingTxEvent) popped := by
  -- A pending record under this number is this record, with this record's candidate.
  have nothing : candidateOf lib pools record = none → ∀ pending ∈ mempool.transactions,
      pending.status = .pending → pending.seqNum = record.seqNum → ∀ candidate,
        candidateOf lib pools pending ≠ some candidate := by
    intro none pending member isPending same candidate known
    rw [current pending member isPending same, none] at known
    cases known
  cases parsed with
  | none =>
    refine kept.ignoreMessage ?_
    intro _ pending member isPending same candidate known
    exact absurd known (nothing isCandidate pending member isPending same candidate)
  | some tx =>
    rw [Option.bind_some] at isCandidate
    rw [Option.elim_some]
    generalize isAfter : source.handlePendingTxEvent tx = after
    have outcome := isAfter ▸ handlePendingTxEvent_outcome source tx
    cases outcome with
    | ignored why =>
      refine kept.ignoreMessage ?_
      intro valid pending member isPending same candidate known
      rcases why with closed | invalid | dropped | below
      · cases closed.symm.trans kept.opened
      · cases valid.symm.trans invalid
      · rw [kept.configured, ← isCandidate] at dropped
        exact absurd known (nothing dropped pending member isPending same candidate)
      · refine .inl ?_
        rw [UInt64.le_iff_toNat_le, isSeq tx rfl] at below
        exact below
    | accepted opened valid passed fresh =>
      rw [kept.configured] at passed
      refine kept.acceptMessage (isCandidate.trans passed) undelivered current ?_
      rw [(filter_eq_some passed).1]
      exact fresh

theorem deliver {earlier later : List MempoolRecord} {record : MempoolRecord}
    (kept : Kept lib pools mempool handled source popped)
    (stream : Stream mempool (earlier ++ record :: later) handled) :
    Kept lib pools mempool (record.seqNum :: handled)
      (handleMessage lib source (some record.message)) popped := by
  have sent : record ∈ earlier ++ record :: later :=
    List.mem_append_right _ List.mem_cons_self
  rw [handleMessage, MempoolRecord.message, parsePendingTxEvent_record]
  exact kept.handleParsed (by rw [candidateOf]) (fun _ parsed => fromJson_seqNum parsed)
    (stream.undelivered record sent) (stream.current record sent)

/-- One pop. -/
theorem pop {source' : CandidateSource} {result : Except Error StateSnapshot}
    (kept : Kept lib pools mempool handled source popped)
    (returned : source.waitPopState = some (result, source')) :
    Kept lib pools mempool handled source' (poppedCandidates result ++ popped) := by
  cases waitPopState_outcome returned with
  | closed => exact kept
  | invalid =>
    exact ⟨kept.configured, kept.opened, kept.past, kept.keyed, kept.covered, kept.accounted,
      kept.gone, kept.once⟩
  | emptied => exact kept
  | @popped seqNum candidate opened quiet valid found least =>
    have isKey := kept.keyed seqNum candidate found
    change Kept lib pools mempool handled _ (candidate :: popped)
    refine ⟨kept.configured, kept.opened, kept.past, ?_, ?_, ?_, ?_, ?_⟩
    · intro other entry stays
      rw [lookup_erase] at stays
      split at stays
      · cases stays
      · exact kept.keyed other entry stays
    · intro _ record member isPending other known accounted
      rw [lookup_erase]
      rcases kept.covered valid record member isPending other known accounted with inMap | wasPopped
      · by_cases same : seqNum = other.tx.seqNum
        · rw [← same, found] at inMap
          cases inMap
          exact .inr List.mem_cons_self
        · rw [if_neg same]
          exact .inl inMap
      · exact .inr (List.mem_cons_of_mem _ wasPopped)
    · intro _ other entry stays
      rw [lookup_erase] at stays
      split at stays
      · cases stays
      · exact kept.accounted valid other entry stays
    · intro _ other member
      rw [lookup_erase]
      rcases List.mem_cons.mp member with rfl | before
      · rw [isKey, if_pos rfl]
        exact ⟨rfl, kept.accounted valid seqNum other found⟩
      · obtain ⟨absent, accounted⟩ := kept.gone valid other before
        refine ⟨?_, accounted⟩
        split
        · rfl
        · exact absent
    · rw [List.map_cons, List.nodup_cons]
      refine ⟨?_, kept.once⟩
      intro again
      obtain ⟨other, before, same⟩ := List.mem_map.mp again
      have absent := (kept.gone valid other before).1
      rw [same, isKey, found] at absent
      cases absent

end Kept

/-! ## Every interleaving -/

/-- The joint invariant of builder, channel, worker and consumer. -/
structure Tracked (lib : Libraries) (pools : List Pool) (system : System) : Prop where
  stream : Stream system.mempool system.inFlight system.handled
  kept : Kept lib pools system.mempool system.handled system.source system.popped
  captured : ∀ blockNumber response snapshot, system.worker = .answered blockNumber response →
    snapshotOf lib blockNumber response = some snapshot →
      Captured lib system.mempool system.handled snapshot

/-- Every step keeps the joint invariant. -/
theorem Tracked.step {system after : System} {party : Party} (tracked : Tracked lib pools system)
    (taken : Step lib system party after) : Tracked lib pools after := by
  obtain ⟨stream, kept, captured⟩ := tracked
  cases taken with
  | addTransaction transaction uuid now =>
    have grows := addTransaction_grows stream.numbered transaction uuid now
    refine ⟨stream.broadcast transaction uuid now, kept.grows stream.handledBound grows, ?_⟩
    intro blockNumber response snapshot isAnswered read
    exact (captured blockNumber response snapshot isAnswered read).grows grows
  | markMined marked =>
    have grows := markMined_grows stream.numbered marked
    refine ⟨stream.grows grows, kept.grows stream.handledBound grows, ?_⟩
    intro blockNumber response snapshot isAnswered read
    exact (captured blockNumber response snapshot isAnswered read).grows grows
  | newBlock blockNumber isIdle =>
    refine ⟨stream, kept, ?_⟩
    intro _ _ _ impossible
    cases impossible
  | pendingSnapshot isRequesting =>
    refine ⟨stream, kept, ?_⟩
    intro blockNumber response snapshot isAnswered read
    cases isAnswered
    exact .taken stream read
  | requestFails response isRequesting unread =>
    refine ⟨stream, kept, ?_⟩
    intro blockNumber response snapshot isAnswered read
    cases isAnswered
    rw [unread] at read
    cases read
  | @finishBlock blockNumber response requestChainCall isAnswered =>
    refine ⟨stream, ?_, ?_⟩
    · exact kept.finishBlock blockNumber requestChainCall response fun snapshot read =>
        captured blockNumber response snapshot isAnswered read
    · intro _ _ _ impossible
      cases impossible
  | deliver isIdle isSent =>
    rw [isSent] at stream
    refine ⟨stream.deliver, ?_, ?_⟩
    · dsimp only
      exact kept.deliver stream
    · intro _ _ _ impossible
      cases isIdle.symm.trans impossible
  | pop returned => exact ⟨stream, kept.pop returned, captured⟩

/-- **Every run.** The joint invariant holds wherever the parties can get. -/
theorem Tracked.reached {system : System} {parties : List Party}
    (run : (delivery lib pools).Run parties system) : Tracked lib pools system := by
  refine Run.invariant (Tracked lib pools) run ?_ ?_
  · rintro system rfl
    refine ⟨⟨empty_wellNumbered, ?_, List.nodup_nil, ?_, ?_, ?_⟩, Kept.initially, ?_⟩
    · intro _ impossible
      cases impossible
    · intro _ impossible
      cases impossible
    · intro _ impossible
      cases impossible
    · intro _ impossible
      cases impossible
    · intro _ _ _ impossible
      cases impossible
  · intro system party after tracked taken
    exact tracked.step taken

/-- **No candidate is lost, none is taken twice.** In every reachable state whose
local state is valid, every builder record that is still pending, parses and passes
the filter, and that the snapshot covers or whose message was handled, is in the
local mempool or was popped since the last accepted snapshot; and no sequence number
was popped twice since then. -/
theorem no_candidate_lost_or_duplicated {system : System} {parties : List Party}
    (run : (delivery lib pools).Run parties system) :
    (system.source.state.valid = true → ∀ record ∈ system.mempool.transactions,
      record.status = .pending → ∀ candidate, candidateOf lib pools record = some candidate →
      (record.seqNum ≤ system.source.state.localMempool.snapshotSeq.toNat ∨
        record.seqNum ∈ system.handled) →
      system.source.state.localMempool.candidates[candidate.tx.seqNum]? = some candidate ∨
        candidate ∈ system.popped) ∧
      (system.popped.map fun candidate => candidate.tx.seqNum).Nodup := by
  have kept := (Tracked.reached run).kept
  refine ⟨?_, kept.once⟩
  intro valid record member isPending candidate known accounted
  exact kept.covered valid record member isPending candidate known accounted

/-! One swap submitted to the builder, then a block whose snapshot covers it. -/

def sampleTransaction : Transaction where
  hash := none
  type := none
  chainId := none
  nonce := "0x0"
  fromAddress := hexData (List.replicate 20 0x71)
  toAddress := some (hexData SourceCoherence.samplePool.address)
  value := "0x0"
  gas := "0x5208"
  gasPrice := none
  maxFeePerGas := none
  maxPriorityFeePerGas := none
  input := "0x4cabca0a"

def sampleMempool : Mempool := (({} : Mempool).addTransaction sampleTransaction "1" "now").2

def sampleRecord : MempoolRecord := (({} : Mempool).addTransaction sampleTransaction "1" "now").1

/-- What Knight reads of the record. -/
def sampleTx : PendingTransaction where
  input := CandidateFilter.swapExactAForBSelector
  source := List.replicate 20 0x71
  gas := 21000
  recipient := some SourceCoherence.samplePool.address
  mempoolTxId := "mp-1"
  seqNum := 1
  status := "pending"
  submittedAt := "now"

def sampleSystem : System where
  mempool := sampleMempool
  inFlight := [sampleRecord]
  source := {
    pools := [SourceCoherence.samplePool]
    state := snapshotted
      (CandidateFilter.filterSnapshot [SourceCoherence.samplePool] ⟨7, 1, [sampleTx]⟩)
      [⟨SourceCoherence.samplePool, 7, 9⟩] }

private theorem sampleRecord_read :
    PendingTransaction.fromJson documented sampleRecord.toJson = some sampleTx := by
  decide +kernel

private theorem sampleSystem_run :
    (delivery documented [SourceCoherence.samplePool]).Run [.builder, .worker, .builder, .worker]
      sampleSystem := by
  have read : snapshotOf documented 7 (some (some sampleMempool.pendingSnapshot)) =
      some ⟨7, 1, [sampleTx]⟩ := by
    unfold snapshotOf Mempool.pendingSnapshot
    refine (read_then rfl _).trans ?_
    refine (read_then (show parseToJsonObject _ = some _ from rfl) _).trans ?_
    refine (read_then (show jsonUint64 _ "snapshotSeq" = some 1 from rfl) _).trans ?_
    refine (read_then (show jsonArray _ "transactions" = some [sampleRecord.toJson]
      from rfl) _).trans ?_
    rw [List.filterMap_cons, sampleRecord_read]
    rfl
  have applied : CandidateSource.handleNewBlockEvent documented
      { pools := [SourceCoherence.samplePool] } 7 SourceCoherence.sampleCall
      (some (some sampleMempool.pendingSnapshot)) = sampleSystem.source :=
    SourceCoherence.handleNewBlockEvent_first (SourceCoherence.sampleCall_read 7) read
  have started : (delivery documented [SourceCoherence.samplePool]).Run []
      { source := { pools := [SourceCoherence.samplePool] } } := .start rfl
  have answered : (delivery documented [SourceCoherence.samplePool]).Run [.builder, .worker, .builder] {
      mempool := sampleMempool, inFlight := [sampleRecord]
      source := { pools := [SourceCoherence.samplePool] }
      worker := .answered 7 (some (some sampleMempool.pendingSnapshot)) } :=
    ((started.step (.addTransaction sampleTransaction "1" "now")).step (.newBlock 7 rfl)).step
      (.pendingSnapshot rfl)
  have finished := answered.step (.finishBlock SourceCoherence.sampleCall rfl)
  dsimp only at finished
  rw [applied, ite_self] at finished
  exact finished

/-- The swap is in Knight's mempool once the snapshot that covers it is accepted. -/
theorem no_candidate_lost_or_duplicated_sample :
    sampleSystem.source.state.valid = true ∧ sampleRecord ∈ sampleSystem.mempool.transactions ∧
      ∃ candidate, candidateOf documented [SourceCoherence.samplePool] sampleRecord = some candidate ∧
        (sampleSystem.source.state.localMempool.candidates[candidate.tx.seqNum]? = some candidate ∨
          candidate ∈ sampleSystem.popped) := by
  have member : sampleRecord ∈ sampleSystem.mempool.transactions := List.mem_singleton.mpr rfl
  have known : candidateOf documented [SourceCoherence.samplePool] sampleRecord =
      some ⟨sampleTx, SourceCoherence.samplePool, .aForB⟩ := by
    rw [candidateOf, sampleRecord_read]
    decide
  refine ⟨rfl, member, _, known, ?_⟩
  exact (no_candidate_lost_or_duplicated sampleSystem_run).1 rfl sampleRecord member rfl _ known
    (.inl (by decide +kernel))

end DexKnight.CandidateDelivery
