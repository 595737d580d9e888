import DexKnight.Core.Codec

/-! How events reach the candidate source's worker: the bounded queue (`queue.h`), the
two publishers of `candidate_source.cpp` and the block syncer that polls the head of the
chain (`block_syncer.cpp`). A critical section is one step. The block syncer's own thread
is the only one that touches its current block, so one pass of its loop is one step too,
taken where it reaches the queue. -/
namespace DexKnight.Core.Ingress
open Core.Types Wire Codec

/-! ## `queue.h` -/

/-- `Queue<T, Capacity>`. -/
structure Queue (α : Type) (capacity : Nat) where
  items : List α := []
  closed : Bool := false
  deriving DecidableEq, Repr

namespace Queue

variable {α : Type} {capacity : Nat}

def tryPush (queue : Queue α capacity) (item : α) : Bool × Queue α capacity :=
  if queue.closed then (false, queue)
  else if queue.items.length ≥ capacity then (false, queue)
  else (true, { queue with items := queue.items ++ [item] })

/-- No answer while the caller waits: the queue is empty and open. -/
def waitPop (queue : Queue α capacity) : Option (Option α × Queue α capacity) :=
  match queue.items with
  | [] => if queue.closed then some (none, queue) else none
  | item :: rest => some (some item, { queue with items := rest })

def close (queue : Queue α capacity) : Queue α capacity := { queue with closed := true }

end Queue

/-! ## `event.h` -/

structure NewBlockEvent where
  ingressTime : Int
  source : String
  blockNumber : UInt64
  deriving DecidableEq, Repr

structure PendingTransactionEvent where
  ingressTime : Int
  source : String
  tx : PendingTransaction
  deriving DecidableEq, Repr

inductive Event
  | newBlock (event : NewBlockEvent)
  | pendingTransaction (event : PendingTransactionEvent)
  deriving DecidableEq, Repr

/-- `Queue<Event, 10'000>` with a record of every event it took, oldest first. -/
structure EventQueue where
  queue : Queue Event 10000 := {}
  accepted : List Event := []
  deriving DecidableEq, Repr

namespace EventQueue

def tryPush (events : EventQueue) (event : Event) : Bool × EventQueue :=
  match events.queue.tryPush event with
  | (true, queue) => (true, { queue, accepted := events.accepted ++ [event] })
  | (false, queue) => (false, { events with queue })

/-- `CandidateSource::publish_new_block`: a refusal is logged and goes no further. -/
def publishNewBlock (events : EventQueue) (now : Int) (blockNumber : UInt64) : EventQueue :=
  (events.tryPush (.newBlock { ingressTime := now, source := "builder", blockNumber })).2

/-- `CandidateSource::publish_pending_transaction`. -/
def publishPendingTransaction (events : EventQueue) (now : Int) (host : String)
    (transaction : PendingTransaction) : EventQueue :=
  (events.tryPush
    (.pendingTransaction { ingressTime := now, source := host, tx := transaction })).2

end EventQueue

/-! ## `block_syncer.cpp` -/

/-- `BlockSyncer::State`. -/
inductive SyncerState
  | stopped
  | starting
  | ready
  | failed
  deriving DecidableEq, Repr

/-- Where the worker thread is: not there, at the top of `run`, in the loop, or past
its end and not joined yet. -/
inductive Thread
  | absent
  | entered
  | looping
  | returned
  deriving DecidableEq, Repr

structure BlockSyncer where
  currentBlock : Option UInt64 := none
  state : SyncerState := .stopped
  running : Bool := false
  thread : Thread := .absent
  deriving DecidableEq, Repr

namespace BlockSyncer

def parseLastBlock (body : Body) : Option UInt64 := do
  let json ← parseToJsonObject body
  let blockNumberRaw ← jsonString json "blockNumber"
  parseHexQuantity blockNumberRaw

/-- A request that failed has no body. -/
def fetchLastBlock (response : Option Body) : Option UInt64 := do
  let head ← response
  parseLastBlock head

def start (syncer : BlockSyncer) : BlockSyncer :=
  if syncer.running then syncer
  else { syncer with state := .starting, running := true, thread := .entered }

/-- The thread is joined, so it has left its loop. -/
def stop (syncer : BlockSyncer) : BlockSyncer :=
  if syncer.running then { syncer with state := .stopped, running := false, thread := .absent }
  else { syncer with state := .stopped }

section Publishing

variable {σ : Type}

/-- The handler changes what it was made for and answers nothing. -/
def publishNewBlock (onNewBlock : Option (UInt64 → σ → σ)) (blockNumber : UInt64) (sink : σ) :
    Bool × σ :=
  match onNewBlock with
  | none => (false, sink)
  | some handler => (true, handler blockNumber sink)

variable (syncer : BlockSyncer) (onNewBlock : Option (UInt64 → σ → σ)) (response : Option Body)
  (sink : σ)

/-- `run`, up to its loop. -/
def run : BlockSyncer × σ :=
  match fetchLastBlock response with
  | none => ({ syncer with state := .failed, thread := .returned }, sink)
  | some lastBlock =>
    match publishNewBlock onNewBlock lastBlock sink with
    | (false, sink) => ({ syncer with state := .failed, thread := .returned }, sink)
    | (true, sink) =>
      ({ syncer with currentBlock := some lastBlock, state := .ready, thread := .looping }, sink)

/-- One pass of `run_core_loop` after its wait timed out. -/
def poll : BlockSyncer × σ :=
  match fetchLastBlock response with
  | none => (syncer, sink)
  | some lastBlock =>
    if syncer.currentBlock = some lastBlock then (syncer, sink)
    else
      match publishNewBlock onNewBlock lastBlock sink with
      | (false, sink) => (syncer, sink)
      | (true, sink) => ({ syncer with currentBlock := some lastBlock }, sink)

end Publishing

end BlockSyncer

/-! ## The threads around the queue -/

/-- What `CandidateSource` reads from: its syncer, its event queue and the host of its
pending feed. -/
structure Inputs where
  host : String
  syncer : BlockSyncer := {}
  events : EventQueue := {}
  deriving DecidableEq, Repr

/-- What the threads do: the source starts and stops the syncer, the syncer enters `run`
and polls, the pending feed hands over a transaction, the worker pops, and the source
closes the queue. -/
inductive Action
  | startSyncer
  | stopSyncer
  | run (now : Int) (response : Option Body)
  | poll (now : Int) (response : Option Body)
  | transaction (now : Int) (transaction : PendingTransaction)
  | pop
  | close

namespace Inputs

/-- The handler the candidate source gave its syncer. -/
def onNewBlock (now : Int) : Option (UInt64 → EventQueue → EventQueue) :=
  some fun blockNumber events => events.publishNewBlock now blockNumber

def perform (inputs : Inputs) : Action → Option Inputs
  | .startSyncer => some { inputs with syncer := inputs.syncer.start }
  | .stopSyncer => some { inputs with syncer := inputs.syncer.stop }
  | .run now response =>
    if inputs.syncer.thread = .entered then
      let (syncer, events) := inputs.syncer.run (onNewBlock now) response inputs.events
      some { inputs with syncer, events }
    else none
  | .poll now response =>
    if inputs.syncer.thread = .looping then
      let (syncer, events) := inputs.syncer.poll (onNewBlock now) response inputs.events
      some { inputs with syncer, events }
    else none
  | .transaction now transaction =>
    some { inputs with
      events := inputs.events.publishPendingTransaction now inputs.host transaction }
  | .pop => do
    let (_, queue) ← inputs.events.queue.waitPop
    some { inputs with events := { inputs.events with queue } }
  | .close =>
    some { inputs with events := { inputs.events with queue := inputs.events.queue.close } }

end Inputs

end DexKnight.Core.Ingress
