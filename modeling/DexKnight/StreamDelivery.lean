import DexKnight.BoundedQueue
import DexKnight.Broadcasting
import DexKnight.CandidateDelivery
import DexKnight.Core.Ingress

/-! Delivery from end to end: the builder's broadcaster with all its subscribers, one
websocket of them read by Knight's feed, the bounded queue and the worker behind it. This
is the channel that delivery of candidates was settled for, whatever it loses; and what it
loses is known. A connection that stands delivers everything since its subscription, so
what Knight can miss was published between its last snapshot and that subscription, or
refused by a full queue. -/
namespace DexKnight.StreamDelivery
open Core.Types Core.Wire Core.Codec Core.CandidateState SourceProofs MempoolProofs WireProofs
  Support.Runs Core.Broadcast Broadcasting
open Core.BlockBuilder hiding BundleItem Bundle
open Core.Ingress (Queue)
open BoundedQueue (tryPush_cases)
open CandidateDelivery (Worker delivery candidateOf accepts poppedCandidates handleMessage Tracked)

variable {lib : Libraries} {pools : List Pool} {capacity : Nat}

/-! ## The parties -/

/-- An event of Knight's queue. A transaction stands beside the message it was read from. -/
inductive Arrival
  | newBlock (blockNumber : UInt64)
  | pendingTransaction (record : MempoolRecord) (tx : PendingTransaction)

/-- The builder and Knight, with a queue of some capacity. -/
structure System (capacity : Nat) where
  hub : Hub := {}
  /-- The websocket that Knight's feed reads, and how many of its messages it has read. -/
  connection : Option WebSocket := none
  read : Nat := 0
  queue : Queue Arrival capacity := {}
  /-- Sequence numbers of the messages the queue refused. Nothing reads it. -/
  refused : List Nat := []
  source : CandidateSource
  worker : Worker := .idle
  handled : List Nat := []
  popped : List Candidate := []

/-- `CandidateSource::publish_pending_transaction`. -/
def publishPendingTransaction (system : System capacity) (record : MempoolRecord)
    (tx : PendingTransaction) : System capacity :=
  match system.queue.tryPush (.pendingTransaction record tx) with
  | (true, queue) => { system with queue }
  | (false, queue) => { system with queue, refused := record.seqNum :: system.refused }

/-- `PendingFeed::on_ws_message`: a message that does not parse goes no further. -/
def onWsMessage (lib : Libraries) (system : System capacity) (record : MempoolRecord) :
    System capacity :=
  (parsePendingTxEvent lib (some record.message)).elim system
    (publishPendingTransaction system record)

/-- Who takes a step. -/
inductive Party
  | builder
  | feed
  | syncer
  | worker
  | consumer
  deriving DecidableEq, Repr

inductive Step (lib : Libraries) (system : System capacity) : Party → System capacity → Prop
  /-- Anything at the builder, other clients' connections included. -/
  | builder {action : Action} {hub : Hub} : system.hub.perform action = some hub →
      Step lib system .builder { system with hub }
  | connects {hub : Hub} : system.hub.perform .connect = some hub →
      Step lib system .feed { system with
        hub, connection := some system.hub.nextWebSocket, read := 0 }
  | loses : Step lib system .feed { system with connection := none }
  | arrives {websocket : WebSocket} {record : MempoolRecord} : system.connection = some websocket →
      (system.hub.outbox websocket)[system.read]? = some record →
      Step lib system .feed (onWsMessage lib { system with read := system.read + 1 } record)
  | newHead (blockNumber : UInt64) :
      Step lib system .syncer { system with
        queue := (system.queue.tryPush (.newBlock blockNumber)).2 }
  | newBlock {blockNumber : UInt64} {queue : Queue Arrival capacity} : system.worker = .idle →
      system.queue.waitPop = some (some (.newBlock blockNumber), queue) →
      Step lib system .worker { system with queue, worker := .requesting blockNumber }
  | deliver {record : MempoolRecord} {tx : PendingTransaction} {queue : Queue Arrival capacity} :
      system.worker = .idle →
      system.queue.waitPop = some (some (.pendingTransaction record tx), queue) →
      Step lib system .worker { system with
        queue, source := system.source.handlePendingTxEvent tx
        handled := record.seqNum :: system.handled }
  | pendingSnapshot {blockNumber : UInt64} : system.worker = .requesting blockNumber →
      Step lib system .builder { system with
        worker := .answered blockNumber (some (some system.hub.mempool.pendingSnapshot)) }
  | requestFails {blockNumber : UInt64} (response : Option Body) :
      system.worker = .requesting blockNumber → snapshotOf lib blockNumber response = none →
      Step lib system .worker { system with worker := .answered blockNumber response }
  | finishBlock {blockNumber : UInt64} {response : Option Body}
      (requestChainCall : Nat → Fields → Option Body) :
      system.worker = .answered blockNumber response →
      Step lib system .worker { system with
        source := system.source.handleNewBlockEvent lib blockNumber requestChainCall response
        worker := .idle
        popped := if accepts lib system.source blockNumber requestChainCall response then []
          else system.popped }
  | pop {result : Except Error StateSnapshot} {source : CandidateSource} :
      system.source.waitPopState = some (result, source) →
      Step lib system .consumer { system with
        source, popped := poppedCandidates result ++ system.popped }

/-- Everyone from their start, in any interleaving. -/
def streaming (lib : Libraries) (pools : List Pool) (capacity : Nat) : Machine (System capacity) Party where
  initial system := system = { source := { pools } }
  step := Step lib

/-! ## Messages on their way -/

/-- The messages among a queue's events. -/
def queued (arrivals : List Arrival) : List MempoolRecord :=
  arrivals.filterMap fun
    | .newBlock _ => none
    | .pendingTransaction record _ => some record

/-- What was written to Knight's websocket and not read, and what will be written. -/
def unread (system : System capacity) : List MempoolRecord :=
  match system.connection with
  | none => []
  | some websocket => (system.hub.outbox websocket).drop system.read ++
      toSend system.hub.sendings websocket

/-- The messages that Knight's worker is still to handle. -/
def onTheWay (system : System capacity) : List MempoolRecord := queued system.queue.items ++ unread system

/-- The system with its stream as a channel. -/
def view (system : System capacity) (inFlight : List MempoolRecord) : CandidateDelivery.System where
  mempool := system.hub.mempool
  inFlight := inFlight
  source := system.source
  worker := system.worker
  handled := system.handled
  popped := system.popped

/-- A message that was read is in the queue, handled, refused, or does not parse. -/
def Settled (lib : Libraries) (system : System capacity) (record : MempoolRecord) : Prop :=
  record ∈ queued system.queue.items ∨ record.seqNum ∈ system.handled ∨
    record.seqNum ∈ system.refused ∨ PendingTransaction.fromJson lib record.toJson = none

/-- The stream implements the channel: whatever is on its way is in flight, once. -/
structure Refines (lib : Libraries) (system : System capacity) (inFlight : List MempoolRecord) : Prop where
  orderly : Orderly system.hub
  numbered : Numbered system.hub.mempool system.hub.published
  once : (onTheWay system).Nodup
  sent : ∀ record ∈ onTheWay system, record ∈ inFlight
  parsed : ∀ record tx, .pendingTransaction record tx ∈ system.queue.items →
    PendingTransaction.fromJson lib record.toJson = some tx
  within : ∀ websocket, system.connection = some websocket →
    system.read ≤ (system.hub.outbox websocket).length
  settled : ∀ websocket, system.connection = some websocket →
    ∀ record ∈ (system.hub.outbox websocket).take system.read, Settled lib system record

variable {system after : System capacity} {inFlight : List MempoolRecord} {hub hub' : Hub}
  {websocket : WebSocket} {record : MempoolRecord}

/-! ## The builder's steps -/

private theorem nodup_of_subperm {α : Type} {first second : List α} (sub : first.Subperm second)
    (distinct : second.Nodup) : first.Nodup := by
  obtain ⟨part, same, isPart⟩ := sub
  exact same.nodup_iff.mp (distinct.sublist isPart)

/-- What a step adds to a stream from some place on: at most what it publishes. -/
private theorem Serves.dropped {count : Nat} (serves : Serves hub hub' websocket)
    (within : count ≤ (hub.outbox websocket).length) :
    ((hub'.outbox websocket).drop count ++ toSend hub'.sendings websocket).Subperm
        ((hub.outbox websocket).drop count ++ toSend hub.sendings websocket ++
          hub'.published.drop hub.published.length) ∧
      (hub'.outbox websocket).take count = (hub.outbox websocket).take count ∧
      count ≤ (hub'.outbox websocket).length := by
  obtain ⟨⟨extra, isExtra⟩, served⟩ := serves
  have split := List.take_append_drop count (hub.outbox websocket)
  refine ⟨?_, ?_, ?_⟩
  · refine (List.subperm_append_left ((hub.outbox websocket).take count)).mp ?_
    rw [← isExtra] at served ⊢
    rw [List.drop_append_of_le_length within]
    rw [← split] at served
    simpa only [List.append_assoc] using served
  · rw [← isExtra, List.take_append_of_le_length within]
  · rw [← isExtra, List.length_append]
    exact Nat.le_add_right_of_le within

/-- What is on its way after a step of the builder. -/
theorem Refines.onTheWay_builder {action : Action} (refines : Refines lib system inFlight)
    (performed : system.hub.perform action = some hub') :
    (onTheWay { system with hub := hub' }).Subperm
      (onTheWay system ++ hub'.published.drop system.hub.published.length) := by
  unfold onTheWay unread
  rw [List.append_assoc]
  refine (List.subperm_append_left _).mpr ?_
  dsimp only
  cases isConnection : system.connection with
  | none => exact (List.nil_sublist _).subperm
  | some websocket =>
    exact (Serves.dropped (perform_serves refines.orderly performed websocket)
      (refines.within websocket isConnection)).1

/-- A step of the builder after which what is on its way is in flight. -/
theorem Refines.builder {action : Action} {inFlight' : List MempoolRecord}
    (refines : Refines lib system inFlight) (performed : system.hub.perform action = some hub')
    (once : (onTheWay { system with hub := hub' }).Nodup)
    (sent : ∀ record ∈ onTheWay { system with hub := hub' }, record ∈ inFlight') :
    Refines lib { system with hub := hub' } inFlight' where
  orderly := perform_orderly refines.orderly performed
  numbered := perform_numbered refines.numbered performed
  once := once
  sent := sent
  parsed := refines.parsed
  within websocket isConnection :=
    (Serves.dropped (perform_serves refines.orderly performed websocket)
      (refines.within websocket isConnection)).2.2
  settled websocket isConnection record member := by
    have same := (Serves.dropped (perform_serves refines.orderly performed websocket)
      (refines.within websocket isConnection)).2.1
    dsimp only at member
    rw [same] at member
    exact refines.settled websocket isConnection record member

theorem Refines.builder_step {action : Action} {parties : List CandidateDelivery.Party}
    (reached : (delivery lib pools).Run parties (view system inFlight))
    (refines : Refines lib system inFlight) (performed : system.hub.perform action = some hub') :
    ∃ more inFlight', (delivery lib pools).Leads (view system inFlight) more
        (view { system with hub := hub' } inFlight') ∧
      Refines lib { system with hub := hub' } inFlight' := by
  have onTheWay' := refines.onTheWay_builder performed
  rcases perform_records performed with ⟨transaction, uuid, now, isMempool, isPublished⟩ |
    ⟨mempoolTxId, chainTxHash, status, receipt, now, isMarked, isPublished⟩ | ⟨isMempool, isPublished⟩
  · -- The new record is above everything in flight.
    have bound := (Tracked.reached reached).stream.bound
    have fresh : (system.hub.mempool.addTransaction transaction uuid now).1 ∉ onTheWay system := by
      intro impossible
      exact Nat.not_succ_le_self _ (bound _ (refines.sent _ impossible))
    rw [isPublished, List.drop_left] at onTheWay'
    have taken : (delivery lib pools).step (view system inFlight) .builder
        (view { system with hub := hub' }
          ((system.hub.mempool.addTransaction transaction uuid now).1 :: inFlight)) := by
      unfold view
      dsimp only
      rw [isMempool]
      exact .addTransaction transaction uuid now
    refine ⟨[.builder], _, .step taken .done, refines.builder performed ?_ ?_⟩
    · refine nodup_of_subperm onTheWay' (List.nodup_append.mpr ⟨refines.once, List.nodup_singleton _, ?_⟩)
      rintro record member _ isNew rfl
      rw [List.mem_singleton] at isNew
      exact fresh (isNew ▸ member)
    · intro record member
      rcases List.mem_append.mp (onTheWay'.subset member) with isOld | isNew
      · exact List.mem_cons_of_mem _ (refines.sent record isOld)
      · rw [List.mem_singleton] at isNew
        rw [isNew]
        exact List.mem_cons_self
  · rw [isPublished, List.drop_length, List.append_nil] at onTheWay'
    have taken : (delivery lib pools).step (view system inFlight) .builder
        (view { system with hub := hub' } inFlight) := .markMined isMarked
    exact ⟨[.builder], inFlight, .step taken .done,
      refines.builder performed (nodup_of_subperm onTheWay' refines.once)
        fun record member => refines.sent record (onTheWay'.subset member)⟩
  · rw [isPublished, List.drop_length, List.append_nil] at onTheWay'
    refine ⟨[], inFlight, ?_, refines.builder performed (nodup_of_subperm onTheWay' refines.once)
      fun record member => refines.sent record (onTheWay'.subset member)⟩
    have sameView : view { system with hub := hub' } inFlight = view system inFlight := by
      rw [view, isMempool]
      rfl
    rw [sameView]
    exact .done

/-! ## Knight's steps -/

@[simp] theorem queued_append (first second : List Arrival) :
    queued (first ++ second) = queued first ++ queued second := List.filterMap_append ..

@[simp] theorem queued_newBlock {blockNumber : UInt64} {rest : List Arrival} :
    queued (.newBlock blockNumber :: rest) = queued rest := rfl

@[simp] theorem queued_pendingTransaction {tx : PendingTransaction} {rest : List Arrival} :
    queued (.pendingTransaction record tx :: rest) = record :: queued rest := rfl

theorem waitPop_some {queue queue' : Queue Arrival capacity} {arrival : Arrival}
    (popped : queue.waitPop = some (some arrival, queue')) :
    ∃ rest, queue.items = arrival :: rest ∧ queue'.items = rest := by
  unfold Queue.waitPop at popped
  split at popped
  · split at popped <;> cases popped
  · next first rest isItems =>
    cases popped
    exact ⟨rest, isItems, rfl⟩

/-- A new connection has nothing to read yet. -/
theorem Refines.connected (refines : Refines lib system inFlight)
    (performed : system.hub.perform .connect = some hub') :
    Refines lib { system with hub := hub', connection := some system.hub.nextWebSocket, read := 0 }
      inFlight := by
  cases performed
  have unused : ¬Connected system.hub system.hub.nextWebSocket := fun impossible =>
    Nat.lt_irrefl _ impossible.1
  have nothing : unread { system with
      hub := { system.hub with
        accepting := system.hub.nextWebSocket :: system.hub.accepting
        nextWebSocket := system.hub.nextWebSocket + 1 }
      connection := some system.hub.nextWebSocket, read := 0 } = [] := by
    unfold unread
    dsimp only
    rw [refines.orderly.unused _ unused, refines.orderly.toSend_unused unused]
    rfl
  have fewer : (queued system.queue.items).Sublist (onTheWay system) := List.sublist_append_left _ _
  refine ⟨refines.orderly.connect, refines.numbered, ?_, ?_, refines.parsed, ?_, ?_⟩
  · rw [onTheWay, nothing, List.append_nil]
    exact refines.once.sublist fewer
  · rw [onTheWay, nothing, List.append_nil]
    exact fun record member => refines.sent record (fewer.subset member)
  · exact fun _ _ => Nat.zero_le _
  · intro websocket _ record member
    cases member

theorem Refines.lost (refines : Refines lib system inFlight) :
    Refines lib { system with connection := none } inFlight := by
  have fewer : (onTheWay { system with connection := none }).Sublist (onTheWay system) := by
    unfold onTheWay
    exact (List.Sublist.refl _).append (List.nil_sublist _)
  refine ⟨refines.orderly, refines.numbered, refines.once.sublist fewer,
    fun record member => refines.sent record (fewer.subset member), refines.parsed, ?_, ?_⟩
  · intro _ impossible
    cases impossible
  · intro _ impossible
    cases impossible

/-- A message that was read is the next one of the stream. -/
private theorem unread_next (isConnection : system.connection = some websocket)
    (isNext : (system.hub.outbox websocket)[system.read]? = some record) :
    unread system = record :: unread { system with read := system.read + 1 } := by
  obtain ⟨inside, isRecord⟩ := List.getElem?_eq_some_iff.mp isNext
  unfold unread
  simp only [isConnection]
  rw [List.drop_eq_getElem_cons inside, isRecord, List.cons_append]

/-- One more message of the connection was read, and is settled. -/
private theorem settled_next {after : System capacity} (refines : Refines lib system inFlight)
    (isConnection : system.connection = some websocket)
    (isNext : (system.hub.outbox websocket)[system.read]? = some record)
    (stays : ∀ record, Settled lib system record → Settled lib after record)
    (settled : Settled lib after record) :
    ∀ other ∈ (system.hub.outbox websocket).take (system.read + 1), Settled lib after other := by
  obtain ⟨inside, isRecord⟩ := List.getElem?_eq_some_iff.mp isNext
  intro other member
  rw [← List.take_concat_get' _ _ inside, isRecord, List.mem_append, List.mem_singleton] at member
  rcases member with wasRead | rfl
  · exact stays other (refines.settled websocket isConnection other wasRead)
  · exact settled

/-- The feed reads the record of a message. -/
private theorem parse_message (record : MempoolRecord) :
    parsePendingTxEvent lib (some record.message) = PendingTransaction.fromJson lib record.toJson := by
  unfold MempoolRecord.message
  exact CandidateDelivery.Kept.parsePendingTxEvent_record record.toJson

private theorem read_within (isConnection : system.connection = some websocket)
    (isNext : (system.hub.outbox websocket)[system.read]? = some record) :
    ∀ other, system.connection = some other → system.read + 1 ≤ (system.hub.outbox other).length := by
  intro other isOther
  cases isConnection.symm.trans isOther
  exact (List.getElem?_eq_some_iff.mp isNext).1

/-- A message arrives: it is queued, refused or not understood. -/
theorem Refines.arrived (refines : Refines lib system inFlight)
    (isConnection : system.connection = some websocket)
    (isNext : (system.hub.outbox websocket)[system.read]? = some record) :
    Refines lib (onWsMessage lib { system with read := system.read + 1 } record) inFlight := by
  have next : onTheWay system = queued system.queue.items ++
      record :: unread { system with read := system.read + 1 } := by
    rw [onTheWay, unread_next isConnection isNext]
  have fewer : (queued system.queue.items ++ unread { system with read := system.read + 1 }).Sublist
      (onTheWay system) := by
    rw [next]
    exact (List.Sublist.refl _).append (List.sublist_cons_self _ _)
  have within := read_within isConnection isNext
  rw [onWsMessage, parse_message]
  cases isTx : PendingTransaction.fromJson lib record.toJson with
  | none =>
    refine ⟨refines.orderly, refines.numbered, refines.once.sublist fewer,
      fun other member => refines.sent other (fewer.subset member), refines.parsed, within, ?_⟩
    intro other isOther
    cases isConnection.symm.trans isOther
    exact settled_next refines isConnection isNext (fun _ settled => settled) (.inr (.inr (.inr isTx)))
  | some tx =>
    rcases tryPush_cases system.queue (.pendingTransaction record tx) with taken | full
    · rw [Option.elim_some, publishPendingTransaction, taken]
      have moved : onTheWay ({ system with
          read := system.read + 1
          queue := { system.queue with
            items := system.queue.items ++ [.pendingTransaction record tx] } } : System capacity) =
              onTheWay system := by
        rw [next, onTheWay, queued_append, List.append_assoc]
        rfl
      refine ⟨refines.orderly, refines.numbered, moved ▸ refines.once, moved ▸ refines.sent, ?_, within, ?_⟩
      · intro other otherTx member
        rcases List.mem_append.mp member with isOld | isNew
        · exact refines.parsed other otherTx isOld
        · rw [List.mem_singleton] at isNew
          cases isNew
          exact isTx
      · intro other isOther
        cases isConnection.symm.trans isOther
        refine settled_next refines isConnection isNext ?_ ?_
        · rintro other (isQueued | isElse)
          · refine .inl ?_
            dsimp only
            rw [queued_append]
            exact List.mem_append_left _ isQueued
          · exact .inr isElse
        · refine .inl ?_
          dsimp only
          rw [queued_append]
          exact List.mem_append_right _ List.mem_cons_self
    · rw [Option.elim_some, publishPendingTransaction, full]
      refine ⟨refines.orderly, refines.numbered, refines.once.sublist fewer,
        fun other member => refines.sent other (fewer.subset member), refines.parsed, within, ?_⟩
      intro other isOther
      cases isConnection.symm.trans isOther
      refine settled_next refines isConnection isNext ?_ (.inr (.inr (.inl List.mem_cons_self)))
      rintro other (isQueued | isHandled | isRefused | unparsed)
      · exact .inl isQueued
      · exact .inr (.inl isHandled)
      · exact .inr (.inr (.inl (List.mem_cons_of_mem _ isRefused)))
      · exact .inr (.inr (.inr unparsed))

/-- What becomes of the queue when the messages in it stay. -/
theorem Refines.requeued (refines : Refines lib system inFlight) {queue : Queue Arrival capacity}
    (same : queued queue.items = queued system.queue.items)
    (fewer : ∀ record tx, .pendingTransaction record tx ∈ queue.items →
      .pendingTransaction record tx ∈ system.queue.items) :
    Refines lib { system with queue } inFlight := by
  have kept : onTheWay { system with queue } = onTheWay system := by
    rw [onTheWay, same]
    rfl
  refine ⟨refines.orderly, refines.numbered, kept ▸ refines.once, kept ▸ refines.sent,
    fun record tx member => refines.parsed record tx (fewer record tx member), refines.within, ?_⟩
  intro websocket isConnection record member
  unfold Settled
  dsimp only
  rw [same]
  exact refines.settled websocket isConnection record member

/-- The worker handles the oldest message. -/
theorem Refines.delivered (refines : Refines lib system inFlight) {earlier later : List MempoolRecord}
    {tx : PendingTransaction} {queue : Queue Arrival capacity} (source : CandidateSource)
    (isFirst : system.queue.items = .pendingTransaction record tx :: queue.items)
    (isFlight : inFlight = earlier ++ record :: later) :
    Refines lib { system with queue, source, handled := record.seqNum :: system.handled }
      (earlier ++ later) := by
  have moved : onTheWay system = record ::
      onTheWay { system with queue, source, handled := record.seqNum :: system.handled } := by
    rw [onTheWay, isFirst]
    rfl
  have once := refines.once
  rw [moved, List.nodup_cons] at once
  refine ⟨refines.orderly, refines.numbered, once.2, ?_, ?_, refines.within, ?_⟩
  · intro other member
    have differ : other ≠ record := by
      rintro rfl
      exact once.1 member
    have wasSent := refines.sent other (by rw [moved]; exact List.mem_cons_of_mem _ member)
    rw [isFlight, List.mem_append, List.mem_cons] at wasSent
    rcases wasSent with isEarlier | isRecord | isLater
    · exact List.mem_append_left _ isEarlier
    · exact absurd isRecord differ
    · exact List.mem_append_right _ isLater
  · intro other otherTx member
    refine refines.parsed other otherTx ?_
    rw [isFirst]
    exact List.mem_cons_of_mem _ member
  · intro websocket isConnection other member
    rcases refines.settled websocket isConnection other member with
      isQueued | isHandled | isRefused | unparsed
    · rw [isFirst, queued_pendingTransaction, List.mem_cons] at isQueued
      rcases isQueued with rfl | isQueued
      · exact .inr (.inl List.mem_cons_self)
      · exact .inl isQueued
    · exact .inr (.inl (List.mem_cons_of_mem _ isHandled))
    · exact .inr (.inr (.inl isRefused))
    · exact .inr (.inr (.inr unparsed))

/-- Nothing that the stream is about changes. -/
theorem Refines.inside (refines : Refines lib system inFlight) (source : CandidateSource)
    (worker : Worker) (popped : List Candidate) :
    Refines lib { system with source, worker, popped } inFlight :=
  ⟨refines.orderly, refines.numbered, refines.once, refines.sent, refines.parsed, refines.within,
    refines.settled⟩

/-- **One step.** Any step of anybody is one step of the channel and its parties, or none. -/
theorem Refines.step {party : Party} {parties : List CandidateDelivery.Party}
    (reached : (delivery lib pools).Run parties (view system inFlight))
    (refines : Refines lib system inFlight) (taken : Step lib system party after) :
    ∃ more inFlight', (delivery lib pools).Leads (view system inFlight) more
        (view after inFlight') ∧ Refines lib after inFlight' := by
  have stutters {after : System capacity} (sameView : view after inFlight = view system inFlight)
      (refines' : Refines lib after inFlight) :
      ∃ more inFlight', (delivery lib pools).Leads (view system inFlight) more
        (view after inFlight') ∧ Refines lib after inFlight' :=
    ⟨[], inFlight, sameView ▸ .done, refines'⟩
  have steps {after : System capacity} {party : CandidateDelivery.Party} {inFlight' : List MempoolRecord}
      (abstract : (delivery lib pools).step (view system inFlight) party (view after inFlight'))
      (refines' : Refines lib after inFlight') :
      ∃ more inFlight', (delivery lib pools).Leads (view system inFlight) more
        (view after inFlight') ∧ Refines lib after inFlight' :=
    ⟨[party], inFlight', .step abstract .done, refines'⟩
  cases taken with
  | builder performed => exact refines.builder_step reached performed
  | connects performed =>
    refine stutters ?_ (refines.connected performed)
    cases performed
    rfl
  | loses => exact stutters rfl refines.lost
  | arrives isConnection isNext =>
    refine stutters ?_ (refines.arrived isConnection isNext)
    rw [onWsMessage]
    cases parsePendingTxEvent lib (some _) with
    | none => rfl
    | some tx =>
      rw [Option.elim_some, publishPendingTransaction]
      split <;> rfl
  | newHead blockNumber =>
    refine stutters rfl (refines.requeued ?_ ?_)
    · rcases tryPush_cases system.queue (.newBlock blockNumber) with pushed | full
      · rw [pushed]
        simp [queued]
      · rw [full]
    · intro record tx member
      rcases tryPush_cases system.queue (.newBlock blockNumber) with pushed | full
      · rw [pushed] at member
        simpa using member
      · rwa [full] at member
  | @newBlock blockNumber queue isIdle popped =>
    obtain ⟨rest, isItems, isRest⟩ := waitPop_some popped
    have requeued : Refines lib { system with queue } inFlight := by
      refine refines.requeued ?_ fun record tx member => ?_
      · rw [isItems, isRest, queued_newBlock]
      · rw [isRest] at member
        rw [isItems]
        exact List.mem_cons_of_mem _ member
    exact steps (.newBlock blockNumber isIdle) (requeued.inside system.source _ system.popped)
  | @deliver record tx queue isIdle popped =>
    obtain ⟨rest, isItems, rfl⟩ := waitPop_some popped
    have isSent : record ∈ inFlight := by
      refine refines.sent record (List.mem_append_left _ ?_)
      rw [isItems]
      exact List.mem_cons_self
    have isParsed : parsePendingTxEvent lib (some record.message) = some tx := by
      rw [parse_message]
      refine refines.parsed record tx ?_
      rw [isItems]
      exact List.mem_cons_self
    have isHandled : handleMessage lib system.source (some record.message) =
        system.source.handlePendingTxEvent tx := by
      rw [handleMessage, isParsed]
      rfl
    obtain ⟨earlier, later, rfl⟩ := List.append_of_mem isSent
    have abstract : (delivery lib pools).step (view system (earlier ++ record :: later)) .worker
        (view { system with
          queue, source := system.source.handlePendingTxEvent tx
          handled := record.seqNum :: system.handled } (earlier ++ later)) := by
      unfold view
      dsimp only
      rw [← isHandled]
      exact .deliver isIdle rfl
    exact steps abstract (refines.delivered _ isItems rfl)
  | pendingSnapshot isRequesting => exact steps (.pendingSnapshot isRequesting) (refines.inside _ _ _)
  | requestFails response isRequesting isNot =>
    exact steps (.requestFails response isRequesting isNot) (refines.inside _ _ _)
  | finishBlock requestChainCall isAnswered =>
    exact steps (.finishBlock requestChainCall isAnswered) (refines.inside _ _ _)
  | pop returned => exact steps (.pop returned) (refines.inside _ _ _)

/-! ## Runs -/

theorem Refines.initially : Refines lib ({ source := { pools } } : System capacity) [] where
  orderly := .initially
  numbered := ⟨rfl, empty_wellNumbered, fun _ impossible => by cases impossible⟩
  once := List.nodup_nil
  sent _ impossible := by cases impossible
  parsed _ _ impossible := by cases impossible
  within _ impossible := by cases impossible
  settled _ impossible := by cases impossible

/-- **The stream implements the channel.** Every run of the builder, its subscribers and
Knight's feed, queue and worker is a run over a channel. -/
theorem streaming_refines {parties : List Party}
    (run : (streaming lib pools capacity).Run parties system) :
    ∃ moves inFlight, (delivery lib pools).Run moves (view system inFlight) ∧
      Refines lib system inFlight := by
  have simulated : ∃ moves abstract, (delivery lib pools).Run moves abstract ∧
      ∃ inFlight, abstract = view system inFlight ∧ Refines lib system inFlight := by
    refine Run.simulated
      (fun system abstract => ∃ inFlight, abstract = view system inFlight ∧ Refines lib system inFlight)
      run ?_ ?_
    · rintro system rfl
      exact ⟨{ source := { pools } }, rfl, [], rfl, .initially⟩
    · rintro system party after moves abstract reached ⟨inFlight, rfl, refines⟩ taken
      obtain ⟨more, inFlight', leads, refines'⟩ := refines.step reached taken
      exact ⟨more, _, leads, inFlight', rfl, refines'⟩
  obtain ⟨moves, abstract, reached, inFlight, rfl, refines⟩ := simulated
  exact ⟨moves, inFlight, reached, refines⟩

/-- A record with a number above some place was published after it. -/
private theorem mem_published_drop {published : List MempoolRecord} {count joined : Nat}
    (inOrder : published.map MempoolRecord.seqNum = List.range' 1 count)
    (member : record ∈ published) (above : joined < record.seqNum) : record ∈ published.drop joined := by
  rw [← List.take_append_drop joined published, List.mem_append] at member
  refine member.resolve_left fun isEarly => ?_
  obtain ⟨place, bound, isThere⟩ := List.mem_take_iff_getElem.mp isEarly
  have number := congrArg (fun numbers : List Nat => numbers[place]?) inOrder
  have inside : place < published.length := by omega
  have bounded : place < count := by
    have sameLength := congrArg List.length inOrder
    simp only [List.length_map, List.length_range'] at sameLength
    omega
  rw [List.getElem?_map, List.getElem?_eq_getElem inside, isThere, Option.map_some,
    List.getElem?_range' bounded, Option.some.injEq] at number
  omega

/-- **Only a gap or a full queue loses a candidate.** Whatever order the builder, its other
clients and Knight's threads take turns in: while Knight's state is valid and its connection
is a subscriber that has raised in no running broadcast, every record that is still pending,
parses and passes the filter is in Knight's mempool, or was popped since the last accepted
snapshot, or is on its way; unless a full queue refused it, or it was published after the
snapshot was taken and before the connection subscribed. -/
theorem only_gaps_and_refusals_lose_candidates {parties : List Party}
    (run : (streaming lib pools capacity).Run parties system)
    (valid : system.source.state.valid = true) (isConnection : system.connection = some websocket)
    (stands : Standing system.hub websocket) :
    ∀ record ∈ system.hub.mempool.transactions, record.status = .pending →
      ∀ candidate, candidateOf lib pools record = some candidate →
        system.source.state.localMempool.candidates[candidate.tx.seqNum]? = some candidate ∨
          candidate ∈ system.popped ∨ record ∈ onTheWay system ∨ record.seqNum ∈ system.refused ∨
          (system.source.state.localMempool.snapshotSeq.toNat < record.seqNum ∧
            record.seqNum ≤ system.hub.joined websocket) := by
  obtain ⟨moves, inFlight, reached, refines⟩ := streaming_refines run
  have kept := (Tracked.reached reached).kept
  intro record member isPending candidate known
  have covered (accounted : CandidateDelivery.Accounted system.source system.handled record.seqNum) :
      system.source.state.localMempool.candidates[candidate.tx.seqNum]? = some candidate ∨
        candidate ∈ system.popped :=
    kept.covered valid record member isPending candidate known accounted
  rcases Nat.lt_or_ge system.source.state.localMempool.snapshotSeq.toNat record.seqNum with above | below
  · rcases Nat.lt_or_ge (system.hub.joined websocket) record.seqNum with later | earlier
    · -- The connection was served with it, so it was read or still is to be.
      have published : record ∈ system.hub.published.drop (system.hub.joined websocket) :=
        mem_published_drop refines.numbered.inOrder
          (refines.numbered.pending record member isPending) later
      have served := (refines.orderly.complete websocket stands).mem_iff.mpr published
      rw [← List.take_append_drop system.read (system.hub.outbox websocket), List.append_assoc,
        List.mem_append] at served
      rcases served with wasRead | isUnread
      · rcases refines.settled websocket isConnection record wasRead with
          isQueued | isHandled | isRefused | unparsed
        · exact .inr (.inr (.inl (List.mem_append_left _ isQueued)))
        · rcases covered (.inr isHandled) with inMempool | wasPopped
          · exact .inl inMempool
          · exact .inr (.inl wasPopped)
        · exact .inr (.inr (.inr (.inl isRefused)))
        · rw [candidateOf, unparsed] at known
          cases known
      · refine .inr (.inr (.inl (List.mem_append_right _ ?_)))
        rw [unread, isConnection]
        exact isUnread
    · exact .inr (.inr (.inr (.inr ⟨above, earlier⟩)))
  · rcases covered (.inl below) with inMempool | wasPopped
    · exact .inl inMempool
    · exact .inr (.inl wasPopped)

/-- A websocket subscribes, then a swap is posted and sent to it. -/
def subscribedActions : List Action :=
  [.connect, .accepted 0, .submit CandidateDelivery.sampleTransaction "1" "now" [0], .sent 0]

/-- The builder after so many of them. -/
def subscribedHub (count : Nat) : Hub := ((subscribedActions.take count).foldlM Hub.perform {}).getD {}

/-- Knight's state from a snapshot of an empty builder. -/
def emptySource : CandidateSource where
  pools := [SourceCoherence.samplePool]
  state := snapshotted (CandidateFilter.filterSnapshot [SourceCoherence.samplePool] ⟨7, 0, []⟩)
    [⟨SourceCoherence.samplePool, 7, 9⟩]

/-- The swap was posted, sent, queued and handled. -/
def subscribedSystem : System 4 where
  hub := subscribedHub 4
  connection := some 0
  read := 1
  source := emptySource.handlePendingTxEvent CandidateDelivery.sampleTx
  handled := [1]

private theorem subscribedRecord_read :
    parsePendingTxEvent documented (some CandidateDelivery.sampleRecord.message) =
      some CandidateDelivery.sampleTx := by
  rw [parse_message]
  decide +kernel

private theorem emptySnapshot_read :
    snapshotOf documented 7 (some (some ({} : Mempool).pendingSnapshot)) = some ⟨7, 0, []⟩ := by
  unfold snapshotOf Mempool.pendingSnapshot
  refine (read_then rfl _).trans ?_
  refine (read_then (show parseToJsonObject _ = some _ from rfl) _).trans ?_
  refine (read_then (show jsonUint64 _ "snapshotSeq" = some 0 from rfl) _).trans ?_
  exact (read_then (show jsonArray _ "transactions" = some [] from rfl) _).trans rfl

private theorem subscribedSystem_run :
    ∃ parties, (streaming documented [SourceCoherence.samplePool] 4).Run parties subscribedSystem := by
  have applied : CandidateSource.handleNewBlockEvent documented
      { pools := [SourceCoherence.samplePool] } 7 SourceCoherence.sampleCall
      (some (some ({} : Mempool).pendingSnapshot)) = emptySource :=
    SourceCoherence.handleNewBlockEvent_first (SourceCoherence.sampleCall_read 7) emptySnapshot_read
  have started : (streaming documented [SourceCoherence.samplePool] 4).Run []
      { source := { pools := [SourceCoherence.samplePool] } } := .start rfl
  have accepted : (subscribedHub 1).perform (.accepted 0) = some (subscribedHub 2) := rfl
  have subscribed := (started.step (.connects rfl)).step (.builder accepted)
  have answered := ((subscribed.step (.newHead 7)).step (.newBlock rfl rfl)).step (.pendingSnapshot rfl)
  have finished := answered.step (.finishBlock SourceCoherence.sampleCall rfl)
  dsimp only at finished
  rw [show (subscribedHub 2).mempool = {} from rfl, applied, ite_self] at finished
  have submitted : (subscribedHub 2).perform
      (.submit CandidateDelivery.sampleTransaction "1" "now" [0]) = some (subscribedHub 3) := rfl
  have sent : (subscribedHub 3).perform (.sent 0) = some (subscribedHub 4) := rfl
  have written : ((subscribedHub 4).outbox 0)[0]? = some CandidateDelivery.sampleRecord := rfl
  have arrived := ((finished.step (.builder submitted)).step (.builder sent)).step (.arrives rfl written)
  rw [onWsMessage, subscribedRecord_read] at arrived
  have queued : (streaming documented [SourceCoherence.samplePool] 4).Run _ {
      hub := subscribedHub 4, connection := some 0, read := 1, source := emptySource
      queue := { items := [.pendingTransaction CandidateDelivery.sampleRecord CandidateDelivery.sampleTx] } } :=
    arrived
  have popped : ({ items := [.pendingTransaction CandidateDelivery.sampleRecord
      CandidateDelivery.sampleTx] } : Queue Arrival 4).waitPop =
        some (some (.pendingTransaction CandidateDelivery.sampleRecord CandidateDelivery.sampleTx), {}) := rfl
  have delivered := queued.step (.deliver rfl popped)
  exact ⟨_, delivered⟩

/-- The swap is in Knight's mempool, which heard of it by the stream alone. -/
theorem only_gaps_and_refusals_lose_candidates_posted :
    ∃ candidate, candidateOf documented [SourceCoherence.samplePool] CandidateDelivery.sampleRecord =
        some candidate ∧
      subscribedSystem.source.state.localMempool.candidates[candidate.tx.seqNum]? = some candidate := by
  have known : candidateOf documented [SourceCoherence.samplePool] CandidateDelivery.sampleRecord =
      some ⟨CandidateDelivery.sampleTx, SourceCoherence.samplePool, .aForB⟩ := by
    have read := subscribedRecord_read
    rw [parse_message] at read
    rw [candidateOf, read]
    decide
  obtain ⟨parties, run⟩ := subscribedSystem_run
  refine ⟨_, known, ?_⟩
  have stands : Standing subscribedSystem.hub 0 := ⟨by decide, fun _ impossible => by cases impossible⟩
  rcases only_gaps_and_refusals_lose_candidates run rfl rfl stands CandidateDelivery.sampleRecord
    (List.mem_singleton.mpr rfl) rfl _ known with inMempool | wasPopped | onItsWay | wasRefused | missed
  · exact inMempool
  · cases wasPopped
  · cases onItsWay
  · cases wasRefused
  · exact absurd missed.2 (by decide)

end DexKnight.StreamDelivery
