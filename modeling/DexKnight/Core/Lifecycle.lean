import DexKnight.Core.Ingress

/-! Knight's threads, from the start of the signal listener to the end of the program
(`main.cpp`, `signal_listener.cpp`, `Runtime::run` and `stop`, `worker.h` and what
`CandidateSource` and `BlockSyncer` make of it). What a thread does between two points
where it may wait, or where another thread sees what it did, is one step. Requests and
timed waits end in some way that the environment chooses. -/
namespace DexKnight.Core.Lifecycle
open Ingress (Event Queue)

/-- `BlockSyncer::stop`: before the flag is cleared, and before the thread is joined. -/
inductive SyncerStop
  | stopping
  | joining
  deriving DecidableEq, Repr

/-- `CandidateSource::stop`. -/
inductive SourceStop
  | inputs (point : SyncerStop)
  | closingQueue
  | closingWaiters
  | stoppingWorker
  | joiningWorker
  deriving DecidableEq, Repr

/-- `Runtime::stop`. -/
inductive RuntimeStop
  | entering
  | source (point : SourceStop)
  | stoppingIo
  | checkingIo
  | joiningIo
  deriving DecidableEq, Repr

/-- `main`, with `Runtime::run`, its core loop, `SignalListener::stop` and `~Runtime`. -/
inductive Main
  | starting
  | begun
  | threaded
  | looping
  | waiting
  | working
  | leaving
  | waking
  | joining
  | stopping (point : RuntimeStop)
  | dismantling (point : SourceStop)
  | droppingSyncer (point : SyncerStop)
  | droppingThreads
  | exited
  /-- By `std::terminate`. -/
  | aborted
  /-- By a signal that nobody blocks any more. -/
  | killed
  deriving DecidableEq, Repr

/-- `SignalListener::run` and the handler that `main` gave it. -/
inductive Listener
  | waiting
  | woken
  | stopping (point : RuntimeStop)
  | finished
  deriving DecidableEq, Repr

/-- `CandidateSource::run`. -/
inductive Worker
  | absent
  | startingSyncer
  | awaitingSyncer
  | awaitingFeed
  | failing (point : SyncerStop)
  | failed
  | popping
  | handling
  | finished
  deriving DecidableEq, Repr

/-- `BlockSyncer::run`. -/
inductive Syncer
  | absent
  | fetching
  | polling
  | refetching
  | finished
  deriving DecidableEq, Repr

/-- The thread in `m_io_ctx.run()`. -/
inductive Io
  | absent
  | running
  | finished
  deriving DecidableEq, Repr

structure Process where
  main : Main := .starting
  listener : Listener := .waiting
  worker : Worker := .absent
  syncer : Syncer := .absent
  io : Io := .absent
  /-- `Runtime::m_running`. -/
  running : Bool := false
  /-- A signal that the listener waits for is pending. -/
  signalled : Bool := false
  stopRequested : Bool := false
  ioStopped : Bool := false
  ioJoined : Bool := false
  /-- `m_running` of the candidate source and of the block syncer. -/
  workerRunning : Bool := false
  workerJoined : Bool := false
  syncerRunning : Bool := false
  syncerJoined : Bool := false
  events : Queue Event 10000 := {}
  /-- `CandidateSource::m_closed`. -/
  closed : Bool := false

def Main.ended : Main → Bool
  | .exited | .aborted | .killed => true
  | _ => false

/-- `SignalListener::stop` has restored the signal mask. -/
def Main.unmasked : Main → Bool
  | .stopping _ | .dismantling _ | .droppingSyncer _ | .droppingThreads => true
  | _ => false

/-! Each of these is performed by whichever thread calls it. `none` while the caller waits;
otherwise where the call is then, if it has not returned, and what it left. -/

/-- `Worker::stop` of the block syncer. -/
def SyncerStop.perform (process : Process) : SyncerStop → Option (Option SyncerStop × Process)
  | .stopping =>
    if process.syncerRunning then some (some .joining, { process with syncerRunning := false })
    else some (none, process)
  | .joining =>
    if process.syncer = .finished then some (none, { process with syncerJoined := true }) else none

def SourceStop.perform (process : Process) : SourceStop → Option (Option SourceStop × Process)
  | .inputs point => (point.perform process).map fun (next, process) =>
    (some (match next with | some point => .inputs point | none => .closingQueue), process)
  | .closingQueue => some (some .closingWaiters, { process with events := process.events.close })
  | .closingWaiters => some (some .stoppingWorker, { process with closed := true })
  | .stoppingWorker =>
    if process.workerRunning then some (some .joiningWorker, { process with workerRunning := false })
    else some (none, process)
  | .joiningWorker =>
    if process.worker = .finished then some (none, { process with workerJoined := true }) else none

def RuntimeStop.perform (process : Process) : RuntimeStop → Option (Option RuntimeStop × Process)
  -- `m_running.exchange(false)`.
  | .entering =>
    if process.running then some (some (.source (.inputs .stopping)), { process with running := false })
    else some (none, process)
  | .source point => (point.perform process).map fun (next, process) =>
    (some (match next with | some point => .source point | none => .stoppingIo), process)
  | .stoppingIo => some (some .checkingIo, { process with ioStopped := true })
  -- `m_io_thread.joinable()`.
  | .checkingIo =>
    if process.io ≠ .absent ∧ process.ioJoined = false then some (some .joiningIo, process)
    else some (none, process)
  | .joiningIo =>
    if process.io = .finished then some (none, { process with ioJoined := true }) else none

/-! ## The threads -/

/-- A destructor of `std::thread` that finds it joinable calls `std::terminate`. -/
def Process.anyJoinable (process : Process) : Bool :=
  (process.syncer ≠ .absent && !process.syncerJoined) ||
    (process.worker ≠ .absent && !process.workerJoined) ||
    (process.io ≠ .absent && !process.ioJoined)

/-- `found`: the source has a state to hand over. -/
def Process.performMain (process : Process) (found : Bool) : Option Process :=
  match process.main with
  | .starting => some { process with main := .begun, running := true }
  | .begun => some { process with main := .threaded, io := .running }
  | .threaded =>
    if process.workerRunning then some { process with main := .looping }
    else some { process with main := .looping, workerRunning := true, worker := .startingSyncer }
  | .looping => some { process with main := if process.running then .waiting else .leaving }
  | .waiting =>
    if process.closed then some { process with main := .leaving }
    else if found then some { process with main := .working }
    else none
  | .working => some { process with main := .looping }
  | .leaving => some { process with main := .waking, stopRequested := true }
  -- `pthread_kill`.
  | .waking => some { process with main := .joining, signalled := true }
  | .joining =>
    if process.listener = .finished then some { process with main := .stopping .entering } else none
  | .stopping point => (point.perform process).map fun (next, process) => { process with
      main := match next with | some point => .stopping point | none => .dismantling (.inputs .stopping) }
  | .dismantling point => (point.perform process).map fun (next, process) => { process with
      main := match next with | some point => .dismantling point | none => .droppingSyncer .stopping }
  | .droppingSyncer point => (point.perform process).map fun (next, process) => { process with
      main := match next with | some point => .droppingSyncer point | none => .droppingThreads }
  | .droppingThreads => some { process with main := if process.anyJoinable then .aborted else .exited }
  | .exited | .aborted | .killed => none

def Process.performListener (process : Process) : Option Process :=
  match process.listener with
  | .waiting =>
    if process.signalled then some { process with listener := .woken, signalled := false } else none
  | .woken => some { process with
      listener := if process.stopRequested then .finished else .stopping .entering }
  | .stopping point => (point.perform process).map fun (next, process) => { process with
      listener := match next with | some point => .stopping point | none => .finished }
  | .finished => none

/-- `succeeds`: what a `wait_until_ready` answers. -/
def Process.performWorker (process : Process) (succeeds : Bool) : Option Process :=
  match process.worker with
  | .absent => none
  | .startingSyncer =>
    if process.syncerRunning then some { process with worker := .awaitingSyncer }
    else some { process with worker := .awaitingSyncer, syncerRunning := true, syncer := .fetching }
  | .awaitingSyncer => some { process with
      worker := if succeeds then .awaitingFeed else .failing .stopping }
  | .awaitingFeed => some { process with worker := if succeeds then .popping else .failing .stopping }
  | .failing point => (point.perform process).map fun (next, process) => { process with
      worker := match next with | some point => .failing point | none => .failed }
  | .failed => some { process with worker := .finished, closed := true }
  | .popping => process.events.waitPop.map fun (event, events) => { process with
      worker := if event.isSome then .handling else .finished, events }
  | .handling => some { process with worker := .popping }
  | .finished => none

/-- `head`: the event for the block that a request answered with, if it is a new one. -/
def Process.performSyncer (process : Process) (head : Option Event) : Option Process :=
  let published := match head with
    | some event => (process.events.tryPush event).2
    | none => process.events
  match process.syncer with
  | .absent => none
  | .fetching => some { process with
      syncer := if head.isSome then .polling else .finished, events := published }
  | .polling => some { process with syncer := if process.syncerRunning then .refetching else .finished }
  | .refetching => some { process with syncer := .polling, events := published }
  | .finished => none

/-- `message`: the event for a message that the pending feed read. -/
def Process.performIo (process : Process) (message : Option Event) : Option Process :=
  match process.io with
  | .absent => none
  | .running =>
    if process.ioStopped then some { process with io := .finished }
    else message.map fun event => { process with events := (process.events.tryPush event).2 }
  | .finished => none

inductive Thread
  | main
  | listener
  | worker
  | syncer
  | io
  deriving DecidableEq, Repr

/-- One step of one thread, or a signal to the process. -/
inductive Move
  | signal
  | main (found : Bool)
  | listener
  | worker (succeeds : Bool)
  | syncer (head : Option Event)
  | io (message : Option Event)
  deriving DecidableEq, Repr

def Move.thread : Move → Option Thread
  | .signal => none
  | .main _ => some .main
  | .listener => some .listener
  | .worker _ => some .worker
  | .syncer _ => some .syncer
  | .io _ => some .io

/-- `none` when the thread cannot take the step now. A signal that is still pending when the
mask is restored counts as one that arrives then. -/
def Process.perform (process : Process) (move : Move) : Option Process :=
  if process.main.ended then none
  else
    match move with
    | .signal =>
      if process.main.unmasked then some { process with main := .killed }
      else some { process with signalled := true }
    | .main found => process.performMain found
    | .listener => process.performListener
    | .worker succeeds => process.performWorker succeeds
    | .syncer head => process.performSyncer head
    | .io message => process.performIo message

end DexKnight.Core.Lifecycle
