import DexKnight.Core.Lifecycle
import DexKnight.BoundedQueue
import DexKnight.Support.Fairness

/-! What Knight's threads do, step by step (`DexKnight.Core.Lifecycle`), and what holds of
them whatever the order of their steps. Whoever stops something knows what was stopped
before, and no step of another thread takes that back: a flag that is down stays down, a
closed queue stays closed, and a thread that was started is there until it has finished. So
the invariant is proved point by point, each thread's own steps apart from what the others do. -/
namespace DexKnight.LifecycleProofs
open Core.Lifecycle Support.Fairness

variable {process after : Process}

/-- Knight from the start of its signal listener on. -/
def knight : Scheduled Process Thread Move where
  initial process := process = {}
  step process move after := process.perform move = some after
  owner := Move.thread
  ready thread process := ∀ move, move.thread = some thread → (process.perform move).isSome

/-! ## What one step does -/

/-- `BlockSyncer::stop`, and where it is then. -/
inductive SyncerStopped (process : Process) : SyncerStop → Option SyncerStop → Process → Prop
  | cleared : process.syncerRunning = true →
      SyncerStopped process .stopping (some .joining) { process with syncerRunning := false }
  | idle : process.syncerRunning = false → SyncerStopped process .stopping none process
  | joined : process.syncer = .finished →
      SyncerStopped process .joining none { process with syncerJoined := true }

theorem SyncerStop.performed {point : SyncerStop} {next : Option SyncerStop}
    (performed : point.perform process = some (next, after)) : SyncerStopped process point next after := by
  cases point with
  | stopping =>
    simp only [SyncerStop.perform] at performed
    split at performed
    · next isRunning =>
      cases performed
      exact .cleared isRunning
    · next isIdle =>
      cases performed
      exact .idle (by simpa using isIdle)
  | joining =>
    simp only [SyncerStop.perform] at performed
    split at performed
    · next isFinished =>
      cases performed
      exact .joined isFinished
    · cases performed

/-- `CandidateSource::stop`. -/
inductive SourceStopped (process : Process) : SourceStop → Option SourceStop → Process → Prop
  | inputs {point next : SyncerStop} {after : Process} : SyncerStopped process point (some next) after →
      SourceStopped process (.inputs point) (some (.inputs next)) after
  | inputsStopped {point : SyncerStop} {after : Process} : SyncerStopped process point none after →
      SourceStopped process (.inputs point) (some .closingQueue) after
  | queueClosed : SourceStopped process .closingQueue (some .closingWaiters)
      { process with events := process.events.close }
  | waitersClosed : SourceStopped process .closingWaiters (some .stoppingWorker)
      { process with closed := true }
  | cleared : process.workerRunning = true →
      SourceStopped process .stoppingWorker (some .joiningWorker) { process with workerRunning := false }
  | idle : process.workerRunning = false → SourceStopped process .stoppingWorker none process
  | joined : process.worker = .finished →
      SourceStopped process .joiningWorker none { process with workerJoined := true }

theorem SourceStop.performed {point : SourceStop} {next : Option SourceStop}
    (performed : point.perform process = some (next, after)) : SourceStopped process point next after := by
  cases point with
  | inputs point =>
    obtain ⟨⟨inner, left⟩, stopped, same⟩ := Option.map_eq_some_iff.mp performed
    cases same
    have moved := SyncerStop.performed stopped
    cases inner with
    | some next => exact .inputs moved
    | none => exact .inputsStopped moved
  | closingQueue =>
    cases performed
    exact .queueClosed
  | closingWaiters =>
    cases performed
    exact .waitersClosed
  | stoppingWorker =>
    simp only [SourceStop.perform] at performed
    split at performed
    · next isRunning =>
      cases performed
      exact .cleared isRunning
    · next isIdle =>
      cases performed
      exact .idle (by simpa using isIdle)
  | joiningWorker =>
    simp only [SourceStop.perform] at performed
    split at performed
    · next isFinished =>
      cases performed
      exact .joined isFinished
    · cases performed

/-- `Runtime::stop`. -/
inductive RuntimeStopped (process : Process) : RuntimeStop → Option RuntimeStop → Process → Prop
  | entered : process.running = true →
      RuntimeStopped process .entering (some (.source (.inputs .stopping))) { process with running := false }
  | late : process.running = false → RuntimeStopped process .entering none process
  | source {point next : SourceStop} {after : Process} : SourceStopped process point (some next) after →
      RuntimeStopped process (.source point) (some (.source next)) after
  | sourceStopped {point : SourceStop} {after : Process} : SourceStopped process point none after →
      RuntimeStopped process (.source point) (some .stoppingIo) after
  | ioStopped : RuntimeStopped process .stoppingIo (some .checkingIo) { process with ioStopped := true }
  | joinable : process.io ≠ .absent → process.ioJoined = false →
      RuntimeStopped process .checkingIo (some .joiningIo) process
  | notJoinable : process.io = .absent ∨ process.ioJoined = true →
      RuntimeStopped process .checkingIo none process
  | joined : process.io = .finished →
      RuntimeStopped process .joiningIo none { process with ioJoined := true }

theorem RuntimeStop.performed {point : RuntimeStop} {next : Option RuntimeStop}
    (performed : point.perform process = some (next, after)) : RuntimeStopped process point next after := by
  cases point with
  | entering =>
    simp only [RuntimeStop.perform] at performed
    split at performed
    · next isRunning =>
      cases performed
      exact .entered isRunning
    · next isLate =>
      cases performed
      exact .late (by simpa using isLate)
  | source point =>
    obtain ⟨⟨inner, left⟩, stopped, same⟩ := Option.map_eq_some_iff.mp performed
    cases same
    have moved := SourceStop.performed stopped
    cases inner with
    | some next => exact .source moved
    | none => exact .sourceStopped moved
  | stoppingIo =>
    cases performed
    exact .ioStopped
  | checkingIo =>
    simp only [RuntimeStop.perform] at performed
    split at performed
    · next isJoinable =>
      cases performed
      exact .joinable isJoinable.1 isJoinable.2
    · next isNot =>
      cases performed
      refine .notJoinable ?_
      by_cases there : process.io = .absent
      · exact .inl there
      · exact .inr (by simpa [there] using isNot)
  | joiningIo =>
    simp only [RuntimeStop.perform] at performed
    split at performed
    · next isFinished =>
      cases performed
      exact .joined isFinished
    · cases performed

/-- Everything one step of the program can do. -/
inductive Moved (process : Process) : Move → Process → Prop
  | signalled : process.main.unmasked = false → Moved process .signal { process with signalled := true }
  | killed : process.main.unmasked = true → Moved process .signal { process with main := .killed }
  | started {found : Bool} : process.main = .starting →
      Moved process (.main found) { process with main := .begun, running := true }
  | ioStarted {found : Bool} : process.main = .begun →
      Moved process (.main found) { process with main := .threaded, io := .running }
  | workerKnown {found : Bool} : process.main = .threaded → process.workerRunning = true →
      Moved process (.main found) { process with main := .looping }
  | workerStarted {found : Bool} : process.main = .threaded → process.workerRunning = false →
      Moved process (.main found)
        { process with main := .looping, workerRunning := true, worker := .startingSyncer }
  | goesOn {found : Bool} : process.main = .looping → process.running = true →
      Moved process (.main found) { process with main := .waiting }
  | leaves {found : Bool} : process.main = .looping → process.running = false →
      Moved process (.main found) { process with main := .leaving }
  | closed {found : Bool} : process.main = .waiting → process.closed = true →
      Moved process (.main found) { process with main := .leaving }
  | received : process.main = .waiting → process.closed = false →
      Moved process (.main true) { process with main := .working }
  | worked {found : Bool} : process.main = .working →
      Moved process (.main found) { process with main := .looping }
  | requests {found : Bool} : process.main = .leaving →
      Moved process (.main found) { process with main := .waking, stopRequested := true }
  | prods {found : Bool} : process.main = .waking →
      Moved process (.main found) { process with main := .joining, signalled := true }
  | listenerJoined {found : Bool} : process.main = .joining → process.listener = .finished →
      Moved process (.main found) { process with main := .stopping .entering }
  | stops {found : Bool} {point next : RuntimeStop} {left : Process} : process.main = .stopping point →
      RuntimeStopped process point (some next) left →
      Moved process (.main found) { left with main := .stopping next }
  | stopped {found : Bool} {point : RuntimeStop} {left : Process} : process.main = .stopping point →
      RuntimeStopped process point none left →
      Moved process (.main found) { left with main := .dismantling (.inputs .stopping) }
  | dismantles {found : Bool} {point next : SourceStop} {left : Process} :
      process.main = .dismantling point → SourceStopped process point (some next) left →
      Moved process (.main found) { left with main := .dismantling next }
  | dismantled {found : Bool} {point : SourceStop} {left : Process} :
      process.main = .dismantling point → SourceStopped process point none left →
      Moved process (.main found) { left with main := .droppingSyncer .stopping }
  | drops {found : Bool} {point next : SyncerStop} {left : Process} :
      process.main = .droppingSyncer point → SyncerStopped process point (some next) left →
      Moved process (.main found) { left with main := .droppingSyncer next }
  | dropped {found : Bool} {point : SyncerStop} {left : Process} :
      process.main = .droppingSyncer point → SyncerStopped process point none left →
      Moved process (.main found) { left with main := .droppingThreads }
  | aborts {found : Bool} : process.main = .droppingThreads → process.anyJoinable = true →
      Moved process (.main found) { process with main := .aborted }
  | exits {found : Bool} : process.main = .droppingThreads → process.anyJoinable = false →
      Moved process (.main found) { process with main := .exited }
  | wakes : process.listener = .waiting → process.signalled = true →
      Moved process .listener { process with listener := .woken, signalled := false }
  | dismissed : process.listener = .woken → process.stopRequested = true →
      Moved process .listener { process with listener := .finished }
  | handles : process.listener = .woken → process.stopRequested = false →
      Moved process .listener { process with listener := .stopping .entering }
  | handlerStops {point next : RuntimeStop} {left : Process} : process.listener = .stopping point →
      RuntimeStopped process point (some next) left →
      Moved process .listener { left with listener := .stopping next }
  | handlerStopped {point : RuntimeStop} {left : Process} : process.listener = .stopping point →
      RuntimeStopped process point none left → Moved process .listener { left with listener := .finished }
  | syncerKnown {succeeds : Bool} : process.worker = .startingSyncer → process.syncerRunning = true →
      Moved process (.worker succeeds) { process with worker := .awaitingSyncer }
  | syncerStarted {succeeds : Bool} : process.worker = .startingSyncer → process.syncerRunning = false →
      Moved process (.worker succeeds)
        { process with worker := .awaitingSyncer, syncerRunning := true, syncer := .fetching }
  | syncerReady : process.worker = .awaitingSyncer →
      Moved process (.worker true) { process with worker := .awaitingFeed }
  | feedReady : process.worker = .awaitingFeed →
      Moved process (.worker true) { process with worker := .popping }
  | fails : process.worker = .awaitingSyncer ∨ process.worker = .awaitingFeed →
      Moved process (.worker false) { process with worker := .failing .stopping }
  | failing {succeeds : Bool} {point next : SyncerStop} {left : Process} :
      process.worker = .failing point → SyncerStopped process point (some next) left →
      Moved process (.worker succeeds) { left with worker := .failing next }
  | failed {succeeds : Bool} {point : SyncerStop} {left : Process} :
      process.worker = .failing point → SyncerStopped process point none left →
      Moved process (.worker succeeds) { left with worker := .failed }
  | gaveUp {succeeds : Bool} : process.worker = .failed →
      Moved process (.worker succeeds) { process with worker := .finished, closed := true }
  | popped {succeeds : Bool} {event : Core.Ingress.Event} {rest : List Core.Ingress.Event} :
      process.worker = .popping → process.events.items = event :: rest →
      Moved process (.worker succeeds)
        { process with worker := .handling, events := { process.events with items := rest } }
  | drained {succeeds : Bool} : process.worker = .popping → process.events.items = [] →
      process.events.closed = true → Moved process (.worker succeeds) { process with worker := .finished }
  | handled {succeeds : Bool} : process.worker = .handling →
      Moved process (.worker succeeds) { process with worker := .popping }
  | headUnknown : process.syncer = .fetching →
      Moved process (.syncer none) { process with syncer := .finished }
  | fetched {event : Core.Ingress.Event} : process.syncer = .fetching → Moved process (.syncer (some event))
      { process with syncer := .polling, events := (process.events.tryPush event).2 }
  | polls {head : Option Core.Ingress.Event} : process.syncer = .polling → process.syncerRunning = true →
      Moved process (.syncer head) { process with syncer := .refetching }
  | pollsNoMore {head : Option Core.Ingress.Event} : process.syncer = .polling →
      process.syncerRunning = false → Moved process (.syncer head) { process with syncer := .finished }
  | nothingNew : process.syncer = .refetching →
      Moved process (.syncer none) { process with syncer := .polling }
  | refetched {event : Core.Ingress.Event} : process.syncer = .refetching →
      Moved process (.syncer (some event))
        { process with syncer := .polling, events := (process.events.tryPush event).2 }
  | ioFinished {message : Option Core.Ingress.Event} : process.io = .running → process.ioStopped = true →
      Moved process (.io message) { process with io := .finished }
  | heard {event : Core.Ingress.Event} : process.io = .running → process.ioStopped = false →
      Moved process (.io (some event)) { process with events := (process.events.tryPush event).2 }

theorem performMain_moved {found : Bool} (performed : process.performMain found = some after) :
    Moved process (.main found) after := by
  cases isMain : process.main with
  | threaded =>
    simp only [Process.performMain, isMain] at performed
    split at performed
    · next isKnown =>
      cases performed
      exact .workerKnown isMain isKnown
    · next notKnown =>
      cases performed
      exact .workerStarted isMain (by simpa using notKnown)
  | looping =>
    simp only [Process.performMain, isMain] at performed
    cases performed
    by_cases running : process.running = true
    · rw [if_pos running]
      exact .goesOn isMain running
    · rw [if_neg running]
      exact .leaves isMain (by simpa using running)
  | waiting =>
    simp only [Process.performMain, isMain] at performed
    split at performed
    · next isClosed =>
      cases performed
      exact .closed isMain isClosed
    · next notClosed =>
      split at performed
      · next isFound =>
        cases performed
        exact isFound ▸ .received isMain (by simpa using notClosed)
      · cases performed
  | joining =>
    simp only [Process.performMain, isMain] at performed
    split at performed
    · next isFinished =>
      cases performed
      exact .listenerJoined isMain isFinished
    · cases performed
  | stopping point =>
    simp only [Process.performMain, isMain] at performed
    obtain ⟨⟨next, left⟩, stopped, rfl⟩ := Option.map_eq_some_iff.mp performed
    cases next with
    | some next => exact .stops isMain (RuntimeStop.performed stopped)
    | none => exact .stopped isMain (RuntimeStop.performed stopped)
  | dismantling point =>
    simp only [Process.performMain, isMain] at performed
    obtain ⟨⟨next, left⟩, stopped, rfl⟩ := Option.map_eq_some_iff.mp performed
    cases next with
    | some next => exact .dismantles isMain (SourceStop.performed stopped)
    | none => exact .dismantled isMain (SourceStop.performed stopped)
  | droppingSyncer point =>
    simp only [Process.performMain, isMain] at performed
    obtain ⟨⟨next, left⟩, stopped, rfl⟩ := Option.map_eq_some_iff.mp performed
    cases next with
    | some next => exact .drops isMain (SyncerStop.performed stopped)
    | none => exact .dropped isMain (SyncerStop.performed stopped)
  | droppingThreads =>
    simp only [Process.performMain, isMain] at performed
    cases performed
    by_cases joinable : process.anyJoinable = true
    · rw [if_pos joinable]
      exact .aborts isMain joinable
    · rw [if_neg joinable]
      exact .exits isMain (by simpa using joinable)
  | starting =>
    simp only [Process.performMain, isMain] at performed
    cases performed
    exact .started isMain
  | begun =>
    simp only [Process.performMain, isMain] at performed
    cases performed
    exact .ioStarted isMain
  | working =>
    simp only [Process.performMain, isMain] at performed
    cases performed
    exact .worked isMain
  | leaving =>
    simp only [Process.performMain, isMain] at performed
    cases performed
    exact .requests isMain
  | waking =>
    simp only [Process.performMain, isMain] at performed
    cases performed
    exact .prods isMain
  | exited => simp only [Process.performMain, isMain, reduceCtorEq] at performed
  | aborted => simp only [Process.performMain, isMain, reduceCtorEq] at performed
  | killed => simp only [Process.performMain, isMain, reduceCtorEq] at performed

theorem performListener_moved (performed : process.performListener = some after) :
    Moved process .listener after := by
  cases isListener : process.listener with
  | waiting =>
    simp only [Process.performListener, isListener] at performed
    split at performed
    · next isSignalled =>
      cases performed
      exact .wakes isListener isSignalled
    · cases performed
  | woken =>
    simp only [Process.performListener, isListener] at performed
    cases performed
    by_cases isRequested : process.stopRequested = true
    · rw [if_pos isRequested]
      exact .dismissed isListener isRequested
    · rw [if_neg isRequested]
      exact .handles isListener (by simpa using isRequested)
  | stopping point =>
    simp only [Process.performListener, isListener] at performed
    obtain ⟨⟨next, left⟩, stopped, rfl⟩ := Option.map_eq_some_iff.mp performed
    cases next with
    | some next => exact .handlerStops isListener (RuntimeStop.performed stopped)
    | none => exact .handlerStopped isListener (RuntimeStop.performed stopped)
  | finished => simp only [Process.performListener, isListener, reduceCtorEq] at performed

theorem performWorker_moved {succeeds : Bool} (performed : process.performWorker succeeds = some after) :
    Moved process (.worker succeeds) after := by
  cases isWorker : process.worker with
  | absent => simp only [Process.performWorker, isWorker, reduceCtorEq] at performed
  | startingSyncer =>
    simp only [Process.performWorker, isWorker] at performed
    split at performed
    · next isKnown =>
      cases performed
      exact .syncerKnown isWorker isKnown
    · next notKnown =>
      cases performed
      exact .syncerStarted isWorker (by simpa using notKnown)
  | awaitingSyncer =>
    simp only [Process.performWorker, isWorker] at performed
    cases performed
    cases succeeds with
    | true => exact .syncerReady isWorker
    | false => exact .fails (.inl isWorker)
  | awaitingFeed =>
    simp only [Process.performWorker, isWorker] at performed
    cases performed
    cases succeeds with
    | true => exact .feedReady isWorker
    | false => exact .fails (.inr isWorker)
  | failing point =>
    simp only [Process.performWorker, isWorker] at performed
    obtain ⟨⟨next, left⟩, stopped, rfl⟩ := Option.map_eq_some_iff.mp performed
    cases next with
    | some next => exact .failing isWorker (SyncerStop.performed stopped)
    | none => exact .failed isWorker (SyncerStop.performed stopped)
  | failed =>
    simp only [Process.performWorker, isWorker] at performed
    cases performed
    exact .gaveUp isWorker
  | popping =>
    simp only [Process.performWorker, isWorker] at performed
    obtain ⟨⟨event, events⟩, popped, rfl⟩ := Option.map_eq_some_iff.mp performed
    unfold Core.Ingress.Queue.waitPop at popped
    split at popped
    · next isEmpty =>
      split at popped
      · next isClosed =>
        cases popped
        exact .drained isWorker isEmpty isClosed
      · cases popped
    · next first rest isItems =>
      cases popped
      exact .popped isWorker isItems
  | handling =>
    simp only [Process.performWorker, isWorker] at performed
    cases performed
    exact .handled isWorker
  | finished => simp only [Process.performWorker, isWorker, reduceCtorEq] at performed

theorem performSyncer_moved {head : Option Core.Ingress.Event}
    (performed : process.performSyncer head = some after) : Moved process (.syncer head) after := by
  cases isSyncer : process.syncer with
  | absent => simp only [Process.performSyncer, isSyncer, reduceCtorEq] at performed
  | fetching =>
    simp only [Process.performSyncer, isSyncer] at performed
    cases performed
    cases head with
    | none => exact .headUnknown isSyncer
    | some event => exact .fetched isSyncer
  | polling =>
    simp only [Process.performSyncer, isSyncer] at performed
    cases performed
    by_cases running : process.syncerRunning = true
    · rw [if_pos running]
      exact .polls isSyncer running
    · rw [if_neg running]
      exact .pollsNoMore isSyncer (by simpa using running)
  | refetching =>
    simp only [Process.performSyncer, isSyncer] at performed
    cases performed
    cases head with
    | none => exact .nothingNew isSyncer
    | some event => exact .refetched isSyncer
  | finished => simp only [Process.performSyncer, isSyncer, reduceCtorEq] at performed

theorem performIo_moved {message : Option Core.Ingress.Event}
    (performed : process.performIo message = some after) : Moved process (.io message) after := by
  cases isIo : process.io with
  | absent => simp only [Process.performIo, isIo, reduceCtorEq] at performed
  | running =>
    simp only [Process.performIo, isIo] at performed
    split at performed
    · next isStopped =>
      cases performed
      exact .ioFinished isIo isStopped
    · next notStopped =>
      obtain ⟨event, rfl, rfl⟩ := Option.map_eq_some_iff.mp performed
      rw [← isIo]
      exact .heard isIo (by simpa using notStopped)
  | finished => simp only [Process.performIo, isIo, reduceCtorEq] at performed

theorem perform_moved {move : Move} (performed : process.perform move = some after) :
    process.main.ended = false ∧ Moved process move after := by
  unfold Process.perform at performed
  split at performed
  · cases performed
  · next goesOn =>
    refine ⟨by simpa using goesOn, ?_⟩
    cases move with
    | signal =>
      dsimp only at performed
      split at performed
      · next isUnmasked =>
        cases performed
        exact .killed isUnmasked
      · next isMasked =>
        cases performed
        exact .signalled (by simpa using isMasked)
    | main found => exact performMain_moved performed
    | listener => exact performListener_moved performed
    | worker succeeds => exact performWorker_moved performed
    | syncer head => exact performSyncer_moved performed
    | io message => exact performIo_moved performed

/-- Stopping moves no other thread, and starts nothing. -/
@[grind cases]
structure Stops (process after : Process) : Prop where
  main : after.main = process.main
  listener : after.listener = process.listener
  worker : after.worker = process.worker
  syncer : after.syncer = process.syncer
  io : after.io = process.io
  signalled : after.signalled = process.signalled
  stopRequested : after.stopRequested = process.stopRequested
  items : after.events.items = process.events.items
  running : process.running = false → after.running = false
  ioStopped : process.ioStopped = true → after.ioStopped = true
  workerRunning : process.workerRunning = false → after.workerRunning = false
  syncerRunning : process.syncerRunning = false → after.syncerRunning = false
  drained : process.events.closed = true → after.events.closed = true
  closed : process.closed = true → after.closed = true
  ioJoined : process.ioJoined = true → after.ioJoined = true

theorem Stops.refl : Stops process process where
  main := rfl
  listener := rfl
  worker := rfl
  syncer := rfl
  io := rfl
  signalled := rfl
  stopRequested := rfl
  items := rfl
  running := id
  ioStopped := id
  workerRunning := id
  syncerRunning := id
  drained := id
  closed := id
  ioJoined := id

@[grind →]
theorem SyncerStopped.stops {point : SyncerStop} {next : Option SyncerStop}
    (stopped : SyncerStopped process point next after) : Stops process after := by
  cases stopped with
  | cleared _ => exact { Stops.refl with syncerRunning := fun _ => rfl }
  | idle _ => exact .refl
  | joined _ => exact { Stops.refl with }

@[grind →]
theorem SourceStopped.stops {point : SourceStop} {next : Option SourceStop}
    (stopped : SourceStopped process point next after) : Stops process after := by
  cases stopped with
  | inputs inner => exact inner.stops
  | inputsStopped inner => exact inner.stops
  | queueClosed => exact { Stops.refl with drained := fun _ => rfl }
  | waitersClosed => exact { Stops.refl with closed := fun _ => rfl }
  | cleared _ => exact { Stops.refl with workerRunning := fun _ => rfl }
  | idle _ => exact .refl
  | joined _ => exact { Stops.refl with }

@[grind →]
theorem RuntimeStopped.stops {point : RuntimeStop} {next : Option RuntimeStop}
    (stopped : RuntimeStopped process point next after) : Stops process after := by
  cases stopped with
  | entered _ => exact { Stops.refl with running := fun _ => rfl }
  | source inner => exact inner.stops
  | sourceStopped inner => exact inner.stops
  | ioStopped => exact { Stops.refl with ioStopped := fun _ => rfl }
  | joined _ => exact { Stops.refl with ioJoined := fun _ => rfl }
  | late _ | joinable _ _ | notJoinable _ => exact .refl

/-! ## What holds throughout -/

/-- How far `main` is. -/
def phase : Main → Nat
  | .starting => 0
  | .begun => 1
  | .threaded => 2
  | .looping | .waiting | .working => 3
  | .leaving => 4
  | .waking => 5
  | .joining => 6
  | .stopping _ | .killed => 7
  | .dismantling _ => 8
  | .droppingSyncer _ => 9
  | .droppingThreads => 10
  | .exited | .aborted => 11

/-- What whoever is at a point of `BlockSyncer::stop` can rely on. -/
def SyncerKnown (process : Process) : SyncerStop → Prop
  | .stopping => True
  | .joining => process.syncerRunning = false ∧ process.syncer ≠ .absent

def SourceKnown (process : Process) : SourceStop → Prop
  | .inputs point => SyncerKnown process point
  | .closingQueue => True
  | .closingWaiters => process.events.closed = true
  | .stoppingWorker => process.events.closed = true ∧ process.closed = true
  | .joiningWorker => process.events.closed = true ∧ process.closed = true ∧
      process.workerRunning = false ∧ process.worker ≠ .absent

def RuntimeKnown (process : Process) : RuntimeStop → Prop
  | .entering => True
  | .source point => process.running = false ∧ 0 < phase process.main ∧ SourceKnown process point
  | .stoppingIo => process.running = false ∧ 0 < phase process.main ∧ process.closed = true
  | .checkingIo => process.running = false ∧ 0 < phase process.main ∧ process.closed = true ∧
      process.ioStopped = true
  | .joiningIo => process.running = false ∧ 0 < phase process.main ∧ process.closed = true ∧
      process.ioStopped = true ∧ process.io ≠ .absent

/-- What `main` has started and asked for, by how far it is. -/
structure Phased (process : Process) : Prop where
  begun : phase process.main = 0 → process.running = false
  io : process.io = .absent ↔ phase process.main ≤ 1
  worker : process.worker = .absent ↔ phase process.main ≤ 2
  leaving : 4 ≤ phase process.main → process.running = false ∨ process.closed = true
  requested : process.stopRequested = true ↔ 5 ≤ phase process.main
  prodded : phase process.main = 6 → process.listener = .waiting → process.signalled = true
  dismissed : 7 ≤ phase process.main → process.listener = .finished
  workerRuns : process.workerRunning = true → process.worker ≠ .absent

/-- The block syncer is started by the worker. -/
structure Threaded (process : Process) : Prop where
  syncer : process.worker = .absent ∨ process.worker = .startingSyncer →
    process.syncer = .absent ∧ process.syncerRunning = false
  started : process.worker ≠ .absent → process.worker ≠ .startingSyncer → process.syncer ≠ .absent
  syncerRuns : process.syncerRunning = true → process.syncer ≠ .absent

/-- Whoever stops something knows what was stopped before. -/
structure Points (process : Process) : Prop where
  handling : ∀ point, process.listener = .stopping point → RuntimeKnown process point
  stopping : ∀ point, process.main = .stopping point → RuntimeKnown process point
  dismantling : ∀ point, process.main = .dismantling point → SourceKnown process point
  dropping : ∀ point, process.main = .droppingSyncer point → SyncerKnown process point
  failing : ∀ point, process.worker = .failing point → SyncerKnown process point

/-- What no step takes back. -/
structure Lasting (process after : Process) : Prop where
  begun : 0 < phase process.main → 0 < phase after.main
  running : 0 < phase process.main → process.running = false → after.running = false
  closed : process.closed = true → after.closed = true
  drained : process.events.closed = true → after.events.closed = true
  worker : process.worker ≠ .absent → after.worker ≠ .absent
  workerRunning : process.worker ≠ .absent → process.workerRunning = false → after.workerRunning = false
  syncer : process.syncer ≠ .absent → after.syncer ≠ .absent
  syncerRunning : process.syncer ≠ .absent → process.syncerRunning = false → after.syncerRunning = false
  io : process.io ≠ .absent → after.io ≠ .absent
  ioStopped : process.ioStopped = true → after.ioStopped = true

theorem tryPush_closed {queue : Core.Ingress.Queue Core.Ingress.Event 10000} {event : Core.Ingress.Event} :
    (queue.tryPush event).2.closed = queue.closed := by
  rcases BoundedQueue.tryPush_cases queue event with accepted | refused
  · simp [accepted]
  · simp [refused]

theorem tryPush_bounded {queue : Core.Ingress.Queue Core.Ingress.Event 10000} {event : Core.Ingress.Event}
    (bounded : queue.items.length ≤ 10000) : (queue.tryPush event).2.items.length ≤ 10000 := by
  unfold Core.Ingress.Queue.tryPush
  split
  · exact bounded
  · split
    · exact bounded
    · next room =>
      simp only [List.length_append, List.length_singleton]
      omega

theorem phase_unmasked {main : Main} (unmasked : main.unmasked = true) : 7 ≤ phase main := by
  cases main <;> simp_all [phase, Main.unmasked]

theorem Phased.step {move : Move} (phased : Phased process) (moved : Moved process move after) :
    Phased after := by
  obtain ⟨begun, io, worker, leaving, requested, prodded, dismissed, workerRuns⟩ := phased
  -- Most steps touch nothing of it.
  constructor
  case begun => cases moved <;> first | exact begun | grind -ring -linarith [phase, phase_unmasked]
  case io => cases moved <;> first | exact io | grind -ring -linarith [phase, phase_unmasked]
  case worker => cases moved <;> first | exact worker | grind -ring -linarith [phase, phase_unmasked]
  case leaving => cases moved <;> first | exact leaving | grind -ring -linarith [phase, phase_unmasked]
  case requested => cases moved <;> first | exact requested | grind -ring -linarith [phase, phase_unmasked]
  case prodded => cases moved <;> first | exact prodded | grind -ring -linarith [phase, phase_unmasked]
  case dismissed => cases moved <;> first | exact dismissed | grind -ring -linarith [phase, phase_unmasked]
  case workerRuns => cases moved <;> first | exact workerRuns | grind -ring -linarith [phase]

theorem Threaded.step {move : Move} (threaded : Threaded process) (phased : Phased process)
    (moved : Moved process move after) : Threaded after := by
  obtain ⟨syncer, started, syncerRuns⟩ := threaded
  have worker := phased.worker
  constructor
  case syncer => cases moved <;> first | exact syncer | grind -ring -linarith [phase]
  case started => cases moved <;> first | exact started | grind -ring -linarith [phase]
  case syncerRuns => cases moved <;> first | exact syncerRuns | grind -ring -linarith [phase]

theorem Moved.lasting {move : Move} (moved : Moved process move after) (phased : Phased process)
    (threaded : Threaded process) : Lasting process after := by
  have worker := phased.worker
  have syncer := threaded.syncer
  constructor
  case begun => cases moved <;> first | exact id | grind -ring -linarith [phase]
  case running => cases moved <;> first | exact fun _ => id | grind -ring -linarith [phase]
  case closed => cases moved <;> first | exact id | grind -ring -linarith
  case drained => cases moved <;> first | exact id | grind -ring -linarith [tryPush_closed]
  case worker => cases moved <;> first | exact id | grind -ring -linarith
  case workerRunning => cases moved <;> first | exact fun _ => id | grind -ring -linarith [phase]
  case syncer => cases moved <;> first | exact id | grind -ring -linarith
  case syncerRunning => cases moved <;> first | exact fun _ => id | grind -ring -linarith
  case io => cases moved <;> first | exact id | grind -ring -linarith
  case ioStopped => cases moved <;> first | exact id | grind -ring -linarith

theorem SyncerKnown.lasts {point : SyncerStop} (known : SyncerKnown process point)
    (lasting : Lasting process after) : SyncerKnown after point := by
  cases point with
  | stopping => trivial
  | joining => exact ⟨lasting.syncerRunning known.2 known.1, lasting.syncer known.2⟩

theorem SourceKnown.lasts {point : SourceStop} (known : SourceKnown process point)
    (lasting : Lasting process after) : SourceKnown after point := by
  cases point with
  | inputs point => exact SyncerKnown.lasts known lasting
  | closingQueue => trivial
  | closingWaiters => exact lasting.drained known
  | stoppingWorker => exact ⟨lasting.drained known.1, lasting.closed known.2⟩
  | joiningWorker =>
    obtain ⟨drained, closed, stopped, there⟩ := known
    exact ⟨lasting.drained drained, lasting.closed closed, lasting.workerRunning there stopped,
      lasting.worker there⟩

theorem RuntimeKnown.lasts {point : RuntimeStop} (known : RuntimeKnown process point)
    (lasting : Lasting process after) : RuntimeKnown after point := by
  cases point with
  | entering => trivial
  | source point =>
    obtain ⟨stopped, begun, inside⟩ := known
    exact ⟨lasting.running begun stopped, lasting.begun begun, SourceKnown.lasts inside lasting⟩
  | stoppingIo =>
    obtain ⟨stopped, begun, closed⟩ := known
    exact ⟨lasting.running begun stopped, lasting.begun begun, lasting.closed closed⟩
  | checkingIo =>
    obtain ⟨stopped, begun, closed, ioStopped⟩ := known
    exact ⟨lasting.running begun stopped, lasting.begun begun, lasting.closed closed,
      lasting.ioStopped ioStopped⟩
  | joiningIo =>
    obtain ⟨stopped, begun, closed, ioStopped, there⟩ := known
    exact ⟨lasting.running begun stopped, lasting.begun begun, lasting.closed closed,
      lasting.ioStopped ioStopped, lasting.io there⟩

theorem SyncerStopped.known {point next : SyncerStop}
    (stopped : SyncerStopped process point (some next) after)
    (runs : process.syncerRunning = true → process.syncer ≠ .absent) : SyncerKnown after next := by
  cases stopped with
  | cleared running => exact ⟨rfl, runs running⟩

theorem SourceStopped.known {point next : SourceStop}
    (stopped : SourceStopped process point (some next) after)
    (phased : Phased process) (threaded : Threaded process) (known : SourceKnown process point) :
    SourceKnown after next := by
  cases stopped with
  | inputs inner => exact inner.known threaded.syncerRuns
  | inputsStopped _ => trivial
  | queueClosed => rfl
  | waitersClosed => exact ⟨known, rfl⟩
  | cleared running => exact ⟨known.1, known.2, rfl, phased.workerRuns running⟩

theorem SourceStopped.closed {point : SourceStop} (stopped : SourceStopped process point none after)
    (known : SourceKnown process point) : after.closed = true ∧ after.workerRunning = false := by
  cases stopped with
  | idle idle => exact ⟨known.2, idle⟩
  | joined _ => exact ⟨known.2.1, known.2.2.1⟩

theorem SyncerStopped.idles {point : SyncerStop} (stopped : SyncerStopped process point none after)
    (known : SyncerKnown process point) : after.syncerRunning = false := by
  cases stopped with
  | idle idle => exact idle
  | joined _ => exact known.1

theorem RuntimeStopped.known {point next : RuntimeStop}
    (stopped : RuntimeStopped process point (some next) after) (phased : Phased process)
    (threaded : Threaded process) (known : RuntimeKnown process point) : RuntimeKnown after next := by
  cases stopped with
  | entered running =>
    refine ⟨rfl, Nat.pos_of_ne_zero fun early => ?_, trivial⟩
    simp [phased.begun early] at running
  | source inner =>
    obtain ⟨stopped, begun, inside⟩ := known
    exact ⟨inner.stops.running stopped, inner.stops.main ▸ begun, inner.known phased threaded inside⟩
  | sourceStopped inner =>
    obtain ⟨stopped, begun, inside⟩ := known
    exact ⟨inner.stops.running stopped, inner.stops.main ▸ begun, (inner.closed inside).1⟩
  | ioStopped =>
    obtain ⟨stopped, begun, closed⟩ := known
    exact ⟨stopped, begun, closed, rfl⟩
  | joinable there _ =>
    obtain ⟨stopped, begun, closed, ioStopped⟩ := known
    exact ⟨stopped, begun, closed, ioStopped, there⟩

theorem RuntimeStopped.stopped {point : RuntimeStop} (stopped : RuntimeStopped process point none after)
    (known : RuntimeKnown process point) : after.running = false := by
  cases stopped with
  | late late => exact late
  | notJoinable _ => exact known.1
  | joined _ => exact known.1

/-- What is known does not depend on who moves on. -/
theorem Lasting.turn (main : Main) (listener : Listener) (worker : Worker)
    (begun : 0 < phase process.main → 0 < phase main)
    (there : process.worker ≠ .absent → worker ≠ .absent) :
    Lasting process { process with main, listener, worker } where
  begun := begun
  running _ := id
  closed := id
  drained := id
  worker := there
  workerRunning _ := id
  syncer := id
  syncerRunning _ := id
  io := id
  ioStopped := id

theorem Points.step {move : Move} (points : Points process) (phased : Phased process)
    (threaded : Threaded process) (moved : Moved process move after) : Points after := by
  have lasting := moved.lasting phased threaded
  obtain ⟨handling, stopping, dismantling, dropping, failing⟩ := points
  constructor
  case handling =>
    intro point here
    cases moved with
    | handles =>
      cases here
      trivial
    | @handlerStops _ _ left isListener stopped =>
      cases here
      exact (stopped.known phased threaded (handling _ isListener)).lasts
        (.turn left.main _ left.worker id id)
    | _ => grind -ring -linarith [RuntimeKnown.lasts]
  case stopping =>
    intro point here
    cases moved with
    | listenerJoined =>
      cases here
      trivial
    | @stops _ _ _ left isMain stopped =>
      cases here
      exact (stopped.known phased threaded (stopping _ isMain)).lasts
        (.turn _ left.listener left.worker (fun _ => by simp [phase]) id)
    | _ => grind -ring -linarith [RuntimeKnown.lasts]
  case dismantling =>
    intro point here
    cases moved with
    | stopped =>
      cases here
      trivial
    | @dismantles _ _ _ left isMain stopped =>
      cases here
      exact (stopped.known phased threaded (dismantling _ isMain)).lasts
        (.turn _ left.listener left.worker (fun _ => by simp [phase]) id)
    | _ => grind -ring -linarith [SourceKnown.lasts]
  case dropping =>
    intro point here
    cases moved with
    | dismantled =>
      cases here
      trivial
    | @drops _ _ _ left isMain stopped =>
      cases here
      exact (stopped.known threaded.syncerRuns).lasts
        (.turn _ left.listener left.worker (fun _ => by simp [phase]) id)
    | _ => grind -ring -linarith [SyncerKnown.lasts]
  case failing =>
    intro point here
    cases moved with
    | fails =>
      cases here
      trivial
    | @failing _ _ _ left isWorker stopped =>
      cases here
      exact (stopped.known threaded.syncerRuns).lasts
        (.turn left.main left.listener _ id (fun _ => by simp))
    | _ => grind -ring -linarith [SyncerKnown.lasts]

/-- A stop whose thread is joined at `joining`: elsewhere it leaves the thread alone, or clears
its flag and goes to join it. -/
def Joins {α : Type} (flag joined : Process → Bool) (finished : Process → Prop) (joining : α)
    (process : Process) (point : α) (next : Option α) (after : Process) : Prop :=
  (point ≠ joining ∧ joined after = joined process ∧
      (flag after = flag process ∨ next = some joining)) ∨
    (point = joining ∧ joined after = true ∧ finished process)

theorem SyncerStopped.syncer {point : SyncerStop} {next : Option SyncerStop}
    (stopped : SyncerStopped process point next after) :
    Joins (·.syncerRunning) (·.syncerJoined) (·.syncer = .finished) .joining process point next after := by
  cases stopped with
  | cleared _ => exact .inl ⟨by simp, rfl, .inr rfl⟩
  | idle _ => exact .inl ⟨by simp, rfl, .inl rfl⟩
  | joined finished => exact .inr ⟨rfl, rfl, finished⟩

theorem SyncerStopped.worker {point : SyncerStop} {next : Option SyncerStop}
    (stopped : SyncerStopped process point next after) :
    after.workerRunning = process.workerRunning ∧ after.workerJoined = process.workerJoined := by
  cases stopped <;> exact ⟨rfl, rfl⟩

theorem SourceStopped.syncer {point : SourceStop} {next : Option SourceStop}
    (stopped : SourceStopped process point next after) :
    Joins (·.syncerRunning) (·.syncerJoined) (·.syncer = .finished) (.inputs .joining)
      process point next after := by
  cases stopped with
  | inputs inner =>
    have joins := inner.syncer
    simp only [Joins, ne_eq, SourceStop.inputs.injEq, Option.some.injEq] at joins ⊢
    exact joins
  | inputsStopped inner =>
    have joins := inner.syncer
    simp only [Joins, ne_eq, SourceStop.inputs.injEq, Option.some.injEq, reduceCtorEq] at joins ⊢
    exact joins
  | queueClosed | waitersClosed | cleared _ | idle _ | joined _ => exact .inl ⟨by simp, rfl, .inl rfl⟩

theorem SourceStopped.worker {point : SourceStop} {next : Option SourceStop}
    (stopped : SourceStopped process point next after) :
    Joins (·.workerRunning) (·.workerJoined) (·.worker = .finished) .joiningWorker
      process point next after := by
  cases stopped with
  | inputs inner => exact .inl ⟨by simp, inner.worker.2, .inl inner.worker.1⟩
  | inputsStopped inner => exact .inl ⟨by simp, inner.worker.2, .inl inner.worker.1⟩
  | cleared _ => exact .inl ⟨by simp, rfl, .inr rfl⟩
  | joined finished => exact .inr ⟨rfl, rfl, finished⟩
  | queueClosed | waitersClosed | idle _ => exact .inl ⟨by simp, rfl, .inl rfl⟩

theorem RuntimeStopped.syncer {point : RuntimeStop} {next : Option RuntimeStop}
    (stopped : RuntimeStopped process point next after) :
    Joins (·.syncerRunning) (·.syncerJoined) (·.syncer = .finished) (.source (.inputs .joining))
      process point next after := by
  cases stopped with
  | source inner =>
    have joins := inner.syncer
    simp only [Joins, ne_eq, RuntimeStop.source.injEq, Option.some.injEq] at joins ⊢
    exact joins
  | sourceStopped inner =>
    have joins := inner.syncer
    simp only [Joins, ne_eq, RuntimeStop.source.injEq, Option.some.injEq, reduceCtorEq] at joins ⊢
    exact joins
  | entered _ | late _ | ioStopped | joinable _ _ | notJoinable _ | joined _ =>
    exact .inl ⟨by simp, rfl, .inl rfl⟩

theorem RuntimeStopped.worker {point : RuntimeStop} {next : Option RuntimeStop}
    (stopped : RuntimeStopped process point next after) :
    Joins (·.workerRunning) (·.workerJoined) (·.worker = .finished) (.source .joiningWorker)
      process point next after := by
  cases stopped with
  | source inner =>
    have joins := inner.worker
    simp only [Joins, ne_eq, RuntimeStop.source.injEq, Option.some.injEq] at joins ⊢
    exact joins
  | sourceStopped inner =>
    have joins := inner.worker
    simp only [Joins, ne_eq, RuntimeStop.source.injEq, Option.some.injEq, reduceCtorEq] at joins ⊢
    exact joins
  | entered _ | late _ | ioStopped | joinable _ _ | notJoinable _ | joined _ =>
    exact .inl ⟨by simp, rfl, .inl rfl⟩

/-- A thread that was stopped is joined, or somebody is about to join it. -/
structure Joined (process : Process) : Prop where
  workerJoined : process.workerJoined = true → process.worker = .finished
  syncerJoined : process.syncerJoined = true → process.syncer = .finished
  worker : process.main = .killed ∨ process.worker = .absent ∨ process.workerRunning = true ∨
    process.workerJoined = true ∨ process.listener = .stopping (.source .joiningWorker) ∨
    process.main = .stopping (.source .joiningWorker) ∨ process.main = .dismantling .joiningWorker
  syncer : process.main = .killed ∨ process.syncer = .absent ∨ process.syncerRunning = true ∨
    process.syncerJoined = true ∨ process.listener = .stopping (.source (.inputs .joining)) ∨
    process.main = .stopping (.source (.inputs .joining)) ∨
    process.main = .dismantling (.inputs .joining) ∨ process.main = .droppingSyncer .joining ∨
    process.worker = .failing .joining

theorem Joined.step {move : Move} (joined : Joined process) (phased : Phased process)
    (threaded : Threaded process) (moved : Moved process move after) : Joined after := by
  obtain ⟨workerJoined, syncerJoined, worker, syncer⟩ := joined
  have unstarted := phased.worker
  have unsynced := threaded.syncer
  constructor
  case workerJoined =>
    cases moved <;> first
      | exact workerJoined
      | grind -ring -linarith [phase, Joins, → RuntimeStopped.worker, → SourceStopped.worker,
          → SyncerStopped.worker]
  case syncerJoined =>
    cases moved <;> first
      | exact syncerJoined
      | grind -ring -linarith [phase, Joins, → RuntimeStopped.syncer, → SourceStopped.syncer,
          → SyncerStopped.syncer]
  case worker =>
    cases moved <;> first
      | exact worker
      | grind -ring -linarith [phase, Joins, → RuntimeStopped.worker, → SourceStopped.worker,
          → SyncerStopped.worker]
  case syncer =>
    cases moved <;> first
      | exact syncer
      | grind -ring -linarith [phase, Joins, → RuntimeStopped.syncer, → SourceStopped.syncer,
          → SyncerStopped.syncer]

/-- `main` takes a thread down when nobody runs it any more. -/
structure Dismantled (process : Process) : Prop where
  running : 8 ≤ phase process.main → process.running = false
  workerRunning : 9 ≤ phase process.main → process.workerRunning = false
  syncerRunning : 10 ≤ phase process.main → process.syncerRunning = false

theorem Dismantled.finished (dismantled : Dismantled process) (phased : Phased process)
    (joined : Joined process) (far : 9 ≤ phase process.main) : process.worker = .finished := by
  have stopped := dismantled.workerRunning far
  have there : process.worker ≠ .absent := fun absent => absurd (phased.worker.mp absent) (by omega)
  have dismissed := phased.dismissed (by omega)
  refine joined.workerJoined ?_
  rcases joined.worker with killed | absent | runs | joined | handles | stops | dismantles
  · simp [killed, phase] at far
  · exact absurd absent there
  · simp [stopped] at runs
  · exact joined
  · simp [handles] at dismissed
  · simp [stops, phase] at far
  · simp [dismantles, phase] at far

theorem Dismantled.step {move : Move} (dismantled : Dismantled process) (points : Points process)
    (phased : Phased process) (threaded : Threaded process) (joined : Joined process)
    (moved : Moved process move after) : Dismantled after := by
  have lasting := moved.lasting phased threaded
  have finished := dismantled.finished phased joined
  obtain ⟨running, workerRunning, syncerRunning⟩ := dismantled
  have worker := phased.worker
  constructor
  case running =>
    intro far
    cases moved with
    | stopped isMain stopped => exact stopped.stopped (points.stopping _ isMain)
    | _ => grind -ring -linarith [phase, phase_unmasked]
  case workerRunning =>
    intro far
    cases moved with
    | dismantled isMain stopped => exact (stopped.closed (points.dismantling _ isMain)).2
    | _ => grind -ring -linarith [phase, phase_unmasked]
  case syncerRunning =>
    intro far
    cases moved with
    | dropped isMain stopped => exact stopped.idles (points.dropping _ isMain)
    | syncerStarted isWorker _ =>
      have isFinished := finished (by simp only at far; omega)
      simp [isWorker] at isFinished
    | _ => grind -ring -linarith [phase, phase_unmasked]

/-- All of it, and the bound of the queue. -/
structure Sound (process : Process) : Prop where
  phased : Phased process
  threaded : Threaded process
  points : Points process
  joined : Joined process
  dismantled : Dismantled process
  bounded : process.events.items.length ≤ 10000

theorem Sound.initial : Sound {} where
  phased := ⟨fun _ => rfl, by simp [phase], by simp [phase], by simp [phase], by simp [phase],
    by simp [phase], by simp [phase], by simp⟩
  threaded := ⟨by simp, by simp, by simp⟩
  points := ⟨by simp, by simp, by simp, by simp, by simp⟩
  joined := ⟨by simp, by simp, .inr (.inl rfl), .inr (.inl rfl)⟩
  dismantled := ⟨by simp, by simp, by simp⟩
  bounded := by simp

theorem Sound.step {move : Move} (sound : Sound process) (moved : Moved process move after) :
    Sound after where
  phased := sound.phased.step moved
  threaded := sound.threaded.step sound.phased moved
  points := sound.points.step sound.phased sound.threaded moved
  joined := sound.joined.step sound.phased sound.threaded moved
  dismantled := sound.dismantled.step sound.points sound.phased sound.threaded sound.joined moved
  bounded := by
    have bounded := sound.bounded
    cases moved <;> grind -ring -linarith [tryPush_bounded]

end DexKnight.LifecycleProofs
