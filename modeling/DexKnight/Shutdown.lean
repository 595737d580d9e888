import DexKnight.LifecycleProofs

/-! How Knight ends. A signal is handled on a thread of its own, which stops the source, the
block syncer and the io thread one after another and joins each, while `main` finds its loop
over, waits for the listener and takes everything down again. Whoever waits for a thread
waits for one that was told to end, so under a fair scheduler the program comes to its end
once it was told to; a signal that is handled before `Runtime::run` has set its flag tells
it nothing. And no thread is left joinable, unless the handler looked for the io thread
before it was there. -/
namespace DexKnight.Shutdown
open Core.Lifecycle Support.Fairness LifecycleProofs

variable {process after : Process}

/-! ## Who is waited for -/

/-- The thread that somebody at a point of `BlockSyncer::stop` waits for, if not itself. -/
def syncerHelper (process : Process) (self : Thread) : SyncerStop → Thread
  | .stopping => self
  | .joining => if process.syncer = .finished then self else .syncer

def workerHelper (process : Process) : Thread :=
  match process.worker with
  | .failing point => syncerHelper process .worker point
  | _ => .worker

def sourceHelper (process : Process) (self : Thread) : SourceStop → Thread
  | .inputs point => syncerHelper process self point
  | .joiningWorker => if process.worker = .finished then self else workerHelper process
  | _ => self

def runtimeHelper (process : Process) (self : Thread) : RuntimeStop → Thread
  | .source point => sourceHelper process self point
  | .joiningIo => if process.io = .finished then self else .io
  | _ => self

def mainHelper (process : Process) : Thread :=
  match process.main with
  | .stopping point => runtimeHelper process .main point
  | .dismantling point => sourceHelper process .main point
  | .droppingSyncer point => syncerHelper process .main point
  | _ => .main

/-- The thread whose next step brings the end closer. -/
def helper (process : Process) : Thread :=
  match process.listener with
  | .woken => .listener
  | .stopping point => runtimeHelper process .listener point
  | .waiting =>
    if process.signalled then .listener
    else if process.running && !process.closed then workerHelper process
    else mainHelper process
  | .finished =>
    if process.running && !process.closed then workerHelper process else mainHelper process

section Ready

variable {self : Thread} (alive : process.main.ended = false)
include alive

theorem syncer_ready (there : process.syncer ≠ .absent) (unfinished : process.syncer ≠ .finished) :
    knight.ready .syncer process := by
  intro move owned
  cases move with
  | syncer head =>
    simp only [Process.perform, alive, Bool.false_eq_true, if_false, Process.performSyncer]
    cases isSyncer : process.syncer with
    | absent => exact absurd isSyncer there
    | finished => exact absurd isSyncer unfinished
    | fetching | polling | refetching => rfl
  | _ => cases owned

theorem io_ready (running : process.io = .running) (stopped : process.ioStopped = true) :
    knight.ready .io process := by
  intro move owned
  cases move with
  | io message =>
    simp [Process.perform, alive, Process.performIo, running, stopped]
  | _ => cases owned

theorem worker_ready (can : ∀ succeeds, (process.performWorker succeeds).isSome) :
    knight.ready .worker process := by
  intro move owned
  cases move with
  | worker succeeds => simpa [Process.perform, alive] using can succeeds
  | _ => cases owned

theorem listener_ready (can : process.performListener.isSome) : knight.ready .listener process := by
  intro move owned
  cases move with
  | listener => simpa [Process.perform, alive] using can
  | _ => cases owned

theorem main_ready (can : ∀ found, (process.performMain found).isSome) : knight.ready .main process := by
  intro move owned
  cases move with
  | main found => simpa [Process.perform, alive] using can found
  | _ => cases owned

theorem syncerHelper_ready {point : SyncerStop} (known : SyncerKnown process point)
    (own : (point.perform process).isSome → knight.ready self process) :
    knight.ready (syncerHelper process self point) process := by
  cases point with
  | stopping =>
    refine own ?_
    simp only [SyncerStop.perform]
    split <;> rfl
  | joining =>
    rw [syncerHelper]
    split
    · next finished => exact own (by simp [SyncerStop.perform, finished])
    · next unfinished => exact syncer_ready alive known.2 unfinished

theorem workerHelper_ready (points : Points process) (there : process.worker ≠ .absent)
    (unfinished : process.worker ≠ .finished)
    (drained : process.worker = .popping → process.events.closed = true) :
    knight.ready (workerHelper process) process := by
  unfold workerHelper
  split
  · next point isWorker =>
    refine syncerHelper_ready alive (points.failing _ isWorker) fun can => ?_
    exact worker_ready alive fun _ => by simpa [Process.performWorker, isWorker] using can
  · next others =>
    refine worker_ready alive fun succeeds => ?_
    cases isWorker : process.worker with
    | absent => exact absurd isWorker there
    | finished => exact absurd isWorker unfinished
    | failing point => exact absurd isWorker (others point)
    | popping =>
      simp only [Process.performWorker, isWorker, Option.isSome_map]
      rw [BoundedQueue.waitPop_closed (drained isWorker)]
      rfl
    | startingSyncer =>
      simp only [Process.performWorker, isWorker]
      split <;> rfl
    | awaitingSyncer | awaitingFeed | failed | handling => simp [Process.performWorker, isWorker]

theorem sourceHelper_ready (points : Points process) {point : SourceStop}
    (known : SourceKnown process point)
    (own : (point.perform process).isSome → knight.ready self process) :
    knight.ready (sourceHelper process self point) process := by
  cases point with
  | inputs point =>
    exact syncerHelper_ready alive known fun can => own (by simpa [SourceStop.perform] using can)
  | closingQueue => exact own rfl
  | closingWaiters => exact own rfl
  | stoppingWorker =>
    refine own ?_
    simp only [SourceStop.perform]
    split <;> rfl
  | joiningWorker =>
    rw [sourceHelper]
    split
    · next finished => exact own (by simp [SourceStop.perform, finished])
    · next unfinished =>
      exact workerHelper_ready alive points known.2.2.2 unfinished fun _ => known.1

theorem runtimeHelper_ready (points : Points process) {point : RuntimeStop}
    (known : RuntimeKnown process point)
    (own : (point.perform process).isSome → knight.ready self process) :
    knight.ready (runtimeHelper process self point) process := by
  cases point with
  | entering =>
    refine own ?_
    simp only [RuntimeStop.perform]
    split <;> rfl
  | source point =>
    exact sourceHelper_ready alive points known.2.2 fun can => own (by simpa [RuntimeStop.perform] using can)
  | stoppingIo => exact own rfl
  | checkingIo =>
    refine own ?_
    simp only [RuntimeStop.perform]
    split <;> rfl
  | joiningIo =>
    rw [runtimeHelper]
    obtain ⟨_, _, _, ioStopped, there⟩ := known
    split
    · next finished => exact own (by simp [RuntimeStop.perform, finished])
    · next unfinished =>
      refine io_ready alive ?_ ioStopped
      cases isIo : process.io with
      | absent => exact absurd isIo there
      | running => rfl
      | finished => exact absurd isIo unfinished

end Ready

/-! ## What has been told -/

/-- `CandidateSource::stop` has not told the waiters yet. -/
def untold : SourceStop → Bool
  | .inputs _ | .closingQueue | .closingWaiters => true
  | .stoppingWorker | .joiningWorker => false

def runtimeUntold : RuntimeStop → Bool
  | .source point => untold point
  | _ => false

def listenerUntold : Listener → Bool
  | .stopping point => runtimeUntold point
  | _ => false

def mainUntold : Main → Bool
  | .stopping point => runtimeUntold point
  | _ => false

theorem source_tells {point : SourceStop} {next : Option SourceStop}
    (stopped : SourceStopped process point next after) (early : untold point = true) :
    after.closed = true ∨ next.any untold = true := by
  cases stopped with
  | inputs _ | inputsStopped _ | queueClosed => exact .inr rfl
  | waitersClosed => exact .inl rfl
  | cleared _ | idle _ | joined _ => cases early

theorem runtime_tells {point : RuntimeStop} {next : Option RuntimeStop}
    (stopped : RuntimeStopped process point next after) (early : runtimeUntold point = true) :
    after.closed = true ∨ next.any runtimeUntold = true := by
  cases stopped with
  | source inner => exact source_tells inner early
  | sourceStopped inner => exact (source_tells inner early).imp_right fun never => by cases never
  | _ => cases early

theorem syncer_runs {point : SyncerStop} {next : Option SyncerStop}
    (stopped : SyncerStopped process point next after) : after.running = process.running := by
  cases stopped <;> rfl

theorem source_runs {point : SourceStop} {next : Option SourceStop}
    (stopped : SourceStopped process point next after) : after.running = process.running := by
  cases stopped with
  | inputs inner => exact syncer_runs inner
  | inputsStopped inner => exact syncer_runs inner
  | _ => rfl

theorem runtime_runs {point : RuntimeStop} {next : Option RuntimeStop}
    (stopped : RuntimeStopped process point next after) :
    after.running = process.running ∨ next.any runtimeUntold = true := by
  cases stopped with
  | entered _ => exact .inr rfl
  | source inner => exact .inl (source_runs inner)
  | sourceStopped inner => exact .inl (source_runs inner)
  | _ => exact .inl rfl

/-- Whoever stops the runtime closes the source, or is about to. -/
def Silenced (process : Process) : Prop :=
  process.running = false → phase process.main = 0 ∨ process.main = .killed ∨ process.closed = true ∨
    listenerUntold process.listener = true ∨ mainUntold process.main = true

theorem Silenced.step {move : Move} (silenced : Silenced process) (moved : Moved process move after) :
    Silenced after := by
  unfold Silenced at silenced ⊢
  cases moved <;> grind -ring -linarith [phase, listenerUntold, mainUntold, → runtime_tells,
    → runtime_runs, → source_runs, → syncer_runs]

def givesUp : Worker → Bool
  | .failing _ | .failed => true
  | _ => false

/-- The signal listener has heard a signal, or is about to. -/
def alarmed (process : Process) : Bool :=
  match process.listener with
  | .waiting => process.signalled
  | .woken | .stopping _ => true
  | .finished => false

/-- The runtime runs, or did, and knows that it has to end: from a signal that came while the
listener could still hear it, or from a source that could not start. -/
def Told (process : Process) : Prop :=
  0 < phase process.main ∧ (process.running = false ∨ process.closed = true ∨
    givesUp process.worker = true ∨ alarmed process = true)

theorem told_stays {move : Move} (told : Told process) (sound : Sound process)
    (moved : Moved process move after) : Told after := by
  have lasting := moved.lasting sound.phased sound.threaded
  obtain ⟨begun, reason⟩ := told
  refine ⟨lasting.begun begun, ?_⟩
  have leaving := sound.phased.leaving
  have requested := sound.phased.requested
  have handling := sound.points.handling
  unfold alarmed at reason ⊢
  cases moved with
  | handlerStopped isListener stopped =>
    exact .inl (stopped.stopped (handling _ isListener))
  | _ => grind -ring -linarith [givesUp, cases Lasting]

/-- What is known of a program that was told to end. -/
structure Ending (process : Process) : Prop where
  sound : Sound process
  silenced : Silenced process
  told : Told process

theorem mainHelper_ready (ending : Ending process) (alive : process.main.ended = false)
    (quiet : alarmed process = false) (ends : process.running = false ∨ process.closed = true) :
    knight.ready (mainHelper process) process := by
  obtain ⟨sound, silenced, begun, _⟩ := ending
  unfold mainHelper
  split
  · next point isMain =>
    refine runtimeHelper_ready alive sound.points (sound.points.stopping _ isMain) fun can => ?_
    exact main_ready alive fun _ => by simpa [Process.performMain, isMain] using can
  · next point isMain =>
    refine sourceHelper_ready alive sound.points (sound.points.dismantling _ isMain) fun can => ?_
    exact main_ready alive fun _ => by simpa [Process.performMain, isMain] using can
  · next point isMain =>
    refine syncerHelper_ready alive (sound.points.dropping _ isMain) fun can => ?_
    exact main_ready alive fun _ => by simpa [Process.performMain, isMain] using can
  · next notStopping notDismantling notDropping =>
    refine main_ready alive fun found => ?_
    cases isMain : process.main with
    | stopping point => exact absurd isMain (notStopping point)
    | dismantling point => exact absurd isMain (notDismantling point)
    | droppingSyncer point => exact absurd isMain (notDropping point)
    | exited | aborted | killed => simp [isMain, Main.ended] at alive
    | threaded =>
      simp only [Process.performMain, isMain]
      split <;> rfl
    | waiting =>
      -- A stop that has not told the waiters would be the listener's or main's own.
      have closed : process.closed = true := by
        rcases ends with stopped | closed
        · have silent := silenced stopped
          unfold alarmed at quiet
          grind -ring -linarith [phase, listenerUntold, mainUntold]
        · exact closed
      simp [Process.performMain, isMain, closed]
    | joining =>
      have finished : process.listener = .finished := by
        have prodded := sound.phased.prodded (by simp [isMain, phase])
        unfold alarmed at quiet
        grind -ring -linarith
      simp [Process.performMain, isMain, finished]
    | starting | begun | looping | working | leaving | waking | droppingThreads =>
      simp [Process.performMain, isMain]

theorem workerHelper_gives_up (sound : Sound process) (alive : process.main.ended = false)
    (gives : givesUp process.worker = true) : knight.ready (workerHelper process) process := by
  refine workerHelper_ready alive sound.points ?_ ?_ ?_
  all_goals
    intro isWorker
    simp [isWorker, givesUp] at gives

/-- The thread that helps can move. -/
theorem helper_ready (ending : Ending process) (alive : process.main.ended = false) :
    knight.ready (helper process) process := by
  obtain ⟨sound, silenced, begun, reason⟩ := id ending
  have others (quiet : alarmed process = false) : knight.ready
      (if process.running && !process.closed then workerHelper process else mainHelper process) process := by
    split
    · next goesOn =>
      refine workerHelper_gives_up sound alive ?_
      simp only [Bool.and_eq_true, Bool.not_eq_true'] at goesOn
      simpa [goesOn.1, goesOn.2, quiet] using reason
    · next ends =>
      refine mainHelper_ready ending alive quiet ?_
      simpa [or_comm, imp_iff_or_not] using ends
  unfold helper
  cases isListener : process.listener with
  | woken => exact listener_ready alive (by simp [Process.performListener, isListener])
  | stopping point =>
    refine runtimeHelper_ready alive sound.points (sound.points.handling _ isListener) fun can => ?_
    exact listener_ready alive (by simpa [Process.performListener, isListener] using can)
  | waiting =>
    dsimp only
    split
    · next signalled =>
      exact listener_ready alive (by simp [Process.performListener, isListener, signalled])
    · next unsignalled => exact others (by simpa [alarmed, isListener] using unsignalled)
  | finished => exact others (by simp [alarmed, isListener])

/-! ## What there is left to do -/

def syncerStopLeft : SyncerStop → Nat
  | .stopping => 2
  | .joining => 1

def sourceStopLeft : SourceStop → Nat
  | .inputs point => 4 + syncerStopLeft point
  | .closingQueue => 4
  | .closingWaiters => 3
  | .stoppingWorker => 2
  | .joiningWorker => 1

def runtimeStopLeft : RuntimeStop → Nat
  | .entering => 10
  | .source point => 3 + sourceStopLeft point
  | .stoppingIo => 3
  | .checkingIo => 2
  | .joiningIo => 1

def listenerLeft (signalled : Bool) : Listener → Nat
  | .waiting => if signalled then 12 else 13
  | .woken => 11
  | .stopping point => runtimeStopLeft point
  | .finished => 0

/-- While nothing has told it, the loop of `main` may go round. -/
def mainLeft (running closed : Bool) : Main → Nat
  | .starting => 31
  | .begun => 30
  | .threaded => 29
  | .looping => if closed then 24 else if running then 28 else 25
  | .waiting => if closed then 23 else if running then 28 else 27
  | .working => if closed then 25 else if running then 28 else 26
  | .leaving => 22
  | .waking => 21
  | .joining => 20
  | .stopping point => 9 + runtimeStopLeft point
  | .dismantling point => 3 + sourceStopLeft point
  | .droppingSyncer point => 1 + syncerStopLeft point
  | .droppingThreads => 1
  | .exited | .aborted | .killed => 0

/-- While its queue is open, the worker may go round; before that it has more to do than a
full queue takes. -/
def workerLeft (closed : Bool) (items : Nat) : Worker → Nat
  | .absent => 20010
  | .startingSyncer => 20009
  | .awaitingSyncer => 20008
  | .awaitingFeed => 20007
  | .handling => if closed then 2 * items + 2 else 20003
  | .popping => if closed then 2 * items + 1 else 20003
  | .failing point => 1 + syncerStopLeft point
  | .failed => 1
  | .finished => 0

/-- While it is not stopped, the block syncer may go round. -/
def syncerLeft (running : Bool) : Syncer → Nat
  | .absent => 5
  | .fetching | .refetching => if running then 4 else 3
  | .polling => if running then 4 else 2
  | .finished => 0

def ioLeft : Io → Nat
  | .absent => 2
  | .running => 1
  | .finished => 0

def toDo (process : Process) : Nat :=
  listenerLeft process.signalled process.listener + mainLeft process.running process.closed process.main +
    workerLeft process.events.closed process.events.items.length process.worker +
    syncerLeft process.syncerRunning process.syncer + ioLeft process.io

theorem mainLeft_mono {running closed running' closed' : Bool} (main : Main)
    (fewer : running = false → running' = false) (more : closed = true → closed' = true) :
    mainLeft running' closed' main ≤ mainLeft running closed main := by
  cases main <;> grind -ring -linarith [mainLeft]

theorem workerLeft_mono {closed closed' : Bool} {items : Nat} (worker : Worker)
    (more : closed = true → closed' = true) (bounded : items ≤ 10000) :
    workerLeft closed' items worker ≤ workerLeft closed items worker := by
  cases worker <;> grind -ring -linarith [workerLeft]

theorem syncerLeft_mono {running running' : Bool} (syncer : Syncer)
    (fewer : running = false → running' = false) :
    syncerLeft running' syncer ≤ syncerLeft running syncer := by
  cases syncer <;> grind -ring -linarith [syncerLeft]

theorem syncer_stops_sooner {point next : SyncerStop}
    (stopped : SyncerStopped process point (some next) after) :
    syncerStopLeft next < syncerStopLeft point := by
  cases stopped with
  | cleared _ => decide

theorem syncerStopLeft_pos (point : SyncerStop) : 0 < syncerStopLeft point := by
  cases point <;> decide

theorem source_stops_sooner {point next : SourceStop}
    (stopped : SourceStopped process point (some next) after) :
    sourceStopLeft next < sourceStopLeft point := by
  cases stopped with
  | inputs inner => exact Nat.add_lt_add_left (syncer_stops_sooner inner) 4
  | @inputsStopped point =>
    have := syncerStopLeft_pos point
    simp only [sourceStopLeft]
    omega
  | queueClosed | waitersClosed | cleared _ => decide

theorem sourceStopLeft_pos (point : SourceStop) : 0 < sourceStopLeft point := by
  cases point <;> simp [sourceStopLeft]

theorem runtime_stops_sooner {point next : RuntimeStop}
    (stopped : RuntimeStopped process point (some next) after) :
    runtimeStopLeft next < runtimeStopLeft point := by
  cases stopped with
  | source inner => exact Nat.add_lt_add_left (source_stops_sooner inner) 3
  | @sourceStopped point =>
    have := sourceStopLeft_pos point
    simp only [runtimeStopLeft]
    omega
  | entered _ | ioStopped | joinable _ _ => decide

theorem runtimeStopLeft_pos (point : RuntimeStop) : 0 < runtimeStopLeft point := by
  cases point <;> simp [runtimeStopLeft]

/-! A stop leaves the others no more to do than they had, so it is enough that the caller has less. -/

section Stopping

variable {stoppedAt : Process} (stops : Stops process stoppedAt)
  (bounded : process.events.items.length ≤ 10000)
include stops bounded

theorem main_has_less {main : Main}
    (less : mainLeft process.running process.closed main <
      mainLeft process.running process.closed process.main) :
    toDo { stoppedAt with main } < toDo process := by
  have mains := mainLeft_mono main stops.running stops.closed
  have workers := workerLeft_mono process.worker stops.drained bounded
  have syncers := syncerLeft_mono process.syncer stops.syncerRunning
  simp only [toDo, stops.listener, stops.signalled, stops.worker, stops.items, stops.syncer, stops.io]
  omega

theorem listener_has_less {listener : Listener}
    (less : listenerLeft process.signalled listener < listenerLeft process.signalled process.listener) :
    toDo { stoppedAt with listener } < toDo process := by
  have mains := mainLeft_mono process.main stops.running stops.closed
  have workers := workerLeft_mono process.worker stops.drained bounded
  have syncers := syncerLeft_mono process.syncer stops.syncerRunning
  simp only [toDo, stops.main, stops.signalled, stops.worker, stops.items, stops.syncer, stops.io]
  omega

theorem worker_has_less {worker : Worker}
    (less : workerLeft process.events.closed process.events.items.length worker <
      workerLeft process.events.closed process.events.items.length process.worker) :
    toDo { stoppedAt with worker } < toDo process := by
  have mains := mainLeft_mono process.main stops.running stops.closed
  have workers := workerLeft_mono worker stops.drained bounded
  have syncers := syncerLeft_mono process.syncer stops.syncerRunning
  simp only [toDo, stops.main, stops.listener, stops.signalled, stops.items, stops.syncer, stops.io]
  omega

end Stopping

/-! ## What a step does to it -/

theorem syncerHelper_cases (self : Thread) {point : SyncerStop} (known : SyncerKnown process point) :
    syncerHelper process self point = self ∨
      (syncerHelper process self point = .syncer ∧ process.syncerRunning = false) := by
  cases point with
  | stopping => exact .inl rfl
  | joining =>
    rw [syncerHelper]
    split
    · exact .inl rfl
    · exact .inr ⟨rfl, known.1⟩

theorem workerHelper_cases (points : Points process) : workerHelper process = .worker ∨
    (workerHelper process = .syncer ∧ process.syncerRunning = false) := by
  unfold workerHelper
  split
  · next point isWorker => exact syncerHelper_cases _ (points.failing _ isWorker)
  · exact .inl rfl

/-- A thread that is waited for has been told to end. -/
def Awaited (process : Process) : Thread → Prop
  | .syncer => process.syncerRunning = false
  | .worker => process.events.closed = true ∨ givesUp process.worker = true
  | .io => process.ioStopped = true
  | .main => process.running = false ∨ process.closed = true
  | .listener => True

theorem sourceHelper_awaited (self : Thread) {point : SourceStop} (points : Points process)
    (known : SourceKnown process point) (own : Awaited process self) :
    Awaited process (sourceHelper process self point) := by
  cases point with
  | inputs point =>
    rcases syncerHelper_cases self known with same | ⟨same, stopped⟩
    · rwa [sourceHelper, same]
    · rwa [sourceHelper, same]
  | joiningWorker =>
    rw [sourceHelper]
    split
    · exact own
    · rcases workerHelper_cases points with same | ⟨same, stopped⟩
      · rw [same]
        exact .inl known.1
      · rwa [same]
  | closingQueue | closingWaiters | stoppingWorker => exact own

theorem runtimeHelper_awaited (self : Thread) {point : RuntimeStop} (points : Points process)
    (known : RuntimeKnown process point) (own : Awaited process self) :
    Awaited process (runtimeHelper process self point) := by
  cases point with
  | source point => exact sourceHelper_awaited self points known.2.2 own
  | joiningIo =>
    rw [runtimeHelper]
    split
    · exact own
    · exact known.2.2.2.1
  | entering | stoppingIo | checkingIo => exact own

theorem mainHelper_awaited (points : Points process)
    (ends : process.running = false ∨ process.closed = true) :
    Awaited process (mainHelper process) := by
  unfold mainHelper
  split
  · next point isMain => exact runtimeHelper_awaited _ points (points.stopping _ isMain) ends
  · next point isMain => exact sourceHelper_awaited _ points (points.dismantling _ isMain) ends
  · next point isMain =>
    rcases syncerHelper_cases .main (points.dropping _ isMain) with same | ⟨same, stopped⟩
    · rwa [same]
    · rwa [same]
  · exact ends

theorem helper_awaited (ending : Ending process) : Awaited process (helper process) := by
  obtain ⟨sound, _, _, reason⟩ := ending
  have others (quiet : alarmed process = false) : Awaited process
      (if process.running && !process.closed then workerHelper process else mainHelper process) := by
    split
    · next goesOn =>
      simp only [Bool.and_eq_true, Bool.not_eq_true'] at goesOn
      have gives : givesUp process.worker = true := by simpa [goesOn.1, goesOn.2, quiet] using reason
      rcases workerHelper_cases sound.points with same | ⟨same, stopped⟩
      · rw [same]
        exact .inr gives
      · rwa [same]
    · next ends =>
      refine mainHelper_awaited sound.points ?_
      simpa [or_comm, imp_iff_or_not] using ends
  unfold helper
  cases isListener : process.listener with
  | woken => trivial
  | stopping point =>
    exact runtimeHelper_awaited _ sound.points (sound.points.handling _ isListener) trivial
  | waiting =>
    dsimp only
    split
    · trivial
    · next unsignalled => exact others (by simpa [alarmed, isListener] using unsignalled)
  | finished => exact others (by simp [alarmed, isListener])

/-- One step further, the program has ended or has less to do, or a thread that nobody waits
for has gone round. -/
def Advances (process : Process) (move : Move) (after : Process) : Prop :=
  after.main.ended = true ∨ toDo after < toDo process ∨
    (toDo after = toDo process ∧ helper after = helper process ∧ move.thread ≠ some (helper process))

/-- An item more is nothing more to do while the queue is open, and a closed one takes none. -/
theorem push_left (queue : Core.Ingress.Queue Core.Ingress.Event 10000) (event : Core.Ingress.Event)
    (worker : Worker) :
    workerLeft (queue.tryPush event).2.closed (queue.tryPush event).2.items.length worker =
      workerLeft queue.closed queue.items.length worker := by
  cases isClosed : queue.closed with
  | true => rw [BoundedQueue.tryPush_refuses (.inl isClosed) event, isClosed]
  | false =>
    rw [tryPush_closed, isClosed]
    cases worker <;> rfl

theorem listenerLeft_signalled (signalled : Bool) (listener : Listener) :
    listenerLeft true listener ≤ listenerLeft signalled listener := by
  cases listener <;> cases signalled <;> simp [listenerLeft]

/-- Who is waited for does not depend on where the loop of `main` is while it goes on. -/
theorem helper_loops (main : Main) (running : process.running = true) (notClosed : process.closed = false) :
    helper { process with main } = helper process := by
  unfold helper
  cases isListener : process.listener with
  | waiting | finished =>
    simp only [running, notClosed, Bool.not_false, Bool.and_self, if_true]
    rfl
  | woken | stopping _ => rfl

section Same

variable (syncer : after.syncer = .finished ↔ process.syncer = .finished)
  (worker : after.worker = .finished ↔ process.worker = .finished)
  (io : after.io = .finished ↔ process.io = .finished)
  (workers : workerHelper after = workerHelper process)

include syncer in
theorem syncerHelper_same (self : Thread) (point : SyncerStop) :
    syncerHelper after self point = syncerHelper process self point := by
  cases point with
  | stopping => rfl
  | joining => simp only [syncerHelper, syncer]

include syncer in
theorem workerHelper_same (same : after.worker = process.worker) :
    workerHelper after = workerHelper process := by
  unfold workerHelper
  simp only [same, syncerHelper_same syncer]

include syncer worker workers in
theorem sourceHelper_same (self : Thread) (point : SourceStop) :
    sourceHelper after self point = sourceHelper process self point := by
  cases point with
  | inputs point => exact syncerHelper_same syncer self point
  | joiningWorker => simp only [sourceHelper, worker, workers]
  | closingQueue | closingWaiters | stoppingWorker => rfl

include syncer worker io workers in
theorem runtimeHelper_same (self : Thread) (point : RuntimeStop) :
    runtimeHelper after self point = runtimeHelper process self point := by
  cases point with
  | source point => exact sourceHelper_same syncer worker workers self point
  | joiningIo => simp only [runtimeHelper, io]
  | entering | stoppingIo | checkingIo => rfl

include syncer worker io workers in
/-- Who is waited for depends on the worker, the block syncer and the io thread only in whether
they have finished and in whom the worker waits for. -/
theorem helper_same (main : after.main = process.main) (listener : after.listener = process.listener)
    (signalled : after.signalled = process.signalled) (running : after.running = process.running)
    (closed : after.closed = process.closed) : helper after = helper process := by
  have mains : mainHelper after = mainHelper process := by
    unfold mainHelper
    simp only [main, runtimeHelper_same syncer worker io workers, sourceHelper_same syncer worker workers,
      syncerHelper_same syncer]
  unfold helper
  simp only [listener, signalled, running, closed, mains, workers,
    runtimeHelper_same syncer worker io workers]

end Same

theorem helper_works (worker : Worker) (events : Core.Ingress.Queue Core.Ingress.Event 10000)
    (before : process.worker = .popping ∨ process.worker = .handling)
    (now : worker = .popping ∨ worker = .handling) :
    helper { process with worker, events } = helper process := by
  refine helper_same Iff.rfl ?_ Iff.rfl ?_ rfl rfl rfl rfl rfl
  · rcases before with before | before <;> rcases now with now | now <;> simp [before, now]
  · rcases before with before | before <;> rcases now with now | now <;> simp [workerHelper, before, now]

theorem helper_syncs (syncer : Syncer) (events : Core.Ingress.Queue Core.Ingress.Event 10000)
    (before : process.syncer ≠ .finished) (now : syncer ≠ .finished) :
    helper { process with syncer, events } = helper process := by
  have same : syncer = .finished ↔ process.syncer = .finished := by simp [before, now]
  exact helper_same same Iff.rfl Iff.rfl (workerHelper_same same rfl) rfl rfl rfl rfl rfl

theorem helper_hears (known : process.listener = .waiting → process.signalled = true) :
    helper { process with signalled := true } = helper process := by
  unfold helper
  cases isListener : process.listener with
  | waiting => simp [known isListener]
  | _ => rfl

theorem advances {move : Move} (ending : Ending process) (moved : Moved process move after) :
    Advances process move after := by
  have awaited := helper_awaited ending
  have bounded := ending.sound.bounded
  have worker := ending.sound.phased.worker
  have io := ending.sound.phased.io
  have unsynced := ending.sound.threaded.syncer
  cases moved with
  | killed _ | exits _ _ | aborts _ _ => exact .inl rfl
  | stops isMain stopped =>
    have sooner := runtime_stops_sooner stopped
    refine .inr (.inl (main_has_less stopped.stops bounded ?_))
    simp only [isMain, mainLeft]
    omega
  | @stopped _ point _ isMain stopped =>
    have sooner := runtimeStopLeft_pos point
    refine .inr (.inl (main_has_less stopped.stops bounded ?_))
    simp only [isMain, mainLeft, sourceStopLeft, syncerStopLeft]
    omega
  | dismantles isMain stopped =>
    have sooner := source_stops_sooner stopped
    refine .inr (.inl (main_has_less stopped.stops bounded ?_))
    simp only [isMain, mainLeft]
    omega
  | @dismantled _ point _ isMain stopped =>
    have sooner := sourceStopLeft_pos point
    refine .inr (.inl (main_has_less stopped.stops bounded ?_))
    simp only [isMain, mainLeft, syncerStopLeft]
    omega
  | drops isMain stopped =>
    have sooner := syncer_stops_sooner stopped
    refine .inr (.inl (main_has_less stopped.stops bounded ?_))
    simp only [isMain, mainLeft]
    omega
  | @dropped _ point _ isMain stopped =>
    have sooner := syncerStopLeft_pos point
    refine .inr (.inl (main_has_less stopped.stops bounded ?_))
    simp only [isMain, mainLeft]
    omega
  | handlerStops isListener stopped =>
    have sooner := runtime_stops_sooner stopped
    refine .inr (.inl (listener_has_less stopped.stops bounded ?_))
    simp only [isListener, listenerLeft]
    omega
  | @handlerStopped point _ isListener stopped =>
    have sooner := runtimeStopLeft_pos point
    refine .inr (.inl (listener_has_less stopped.stops bounded ?_))
    simp only [isListener, listenerLeft]
    omega
  | failing isWorker stopped =>
    have sooner := syncer_stops_sooner stopped
    refine .inr (.inl (worker_has_less stopped.stops bounded ?_))
    simp only [isWorker, workerLeft]
    omega
  | @failed _ point _ isWorker stopped =>
    have sooner := syncerStopLeft_pos point
    refine .inr (.inl (worker_has_less stopped.stops bounded ?_))
    simp only [isWorker, workerLeft]
    omega
  | signalled _ =>
    by_cases idle : process.listener = .waiting ∧ process.signalled = false
    · refine .inr (.inl ?_)
      simp [toDo, listenerLeft, idle.1, idle.2]
    · have known : process.listener = .waiting → process.signalled = true := by simpa using idle
      refine .inr (.inr ⟨?_, helper_hears known, by simp [Move.thread]⟩)
      cases isListener : process.listener <;> simp_all [toDo, listenerLeft]
  | goesOn isMain running =>
    rcases Bool.eq_false_or_eq_true process.closed with isClosed | notClosed
    · refine .inr (.inl ?_)
      simp [toDo, mainLeft, isMain, isClosed]
    · refine .inr (.inr ⟨by simp [toDo, mainLeft, isMain, notClosed, running],
        helper_loops _ running notClosed, fun helps => ?_⟩)
      simp [← Option.some.inj helps, Awaited, running, notClosed] at awaited
  | received isMain notClosed =>
    rcases Bool.eq_false_or_eq_true process.running with running | stopped
    · refine .inr (.inr ⟨by simp [toDo, mainLeft, isMain, notClosed, running],
        helper_loops _ running notClosed, fun helps => ?_⟩)
      simp [← Option.some.inj helps, Awaited, running, notClosed] at awaited
    · refine .inr (.inl ?_)
      simp [toDo, mainLeft, isMain, notClosed, stopped]
  | worked isMain =>
    by_cases goesOn : process.running = true ∧ process.closed = false
    · refine .inr (.inr ⟨by simp [toDo, mainLeft, isMain, goesOn.1, goesOn.2],
        helper_loops _ goesOn.1 goesOn.2, fun helps => ?_⟩)
      simp [← Option.some.inj helps, Awaited, goesOn.1, goesOn.2] at awaited
    · refine .inr (.inl ?_)
      grind -ring -linarith [toDo, mainLeft]
  | popped isWorker isItems =>
    rcases Bool.eq_false_or_eq_true process.events.closed with drained | isOpen
    · refine .inr (.inl ?_)
      simp [toDo, workerLeft, isWorker, isItems, drained]
      omega
    · refine .inr (.inr ⟨by simp [toDo, workerLeft, isWorker, isOpen],
        helper_works _ _ (.inl isWorker) (.inr rfl), fun helps => ?_⟩)
      simp [← Option.some.inj helps, Awaited, isOpen, isWorker, givesUp] at awaited
  | handled isWorker =>
    rcases Bool.eq_false_or_eq_true process.events.closed with drained | isOpen
    · refine .inr (.inl ?_)
      simp [toDo, workerLeft, isWorker, drained]
    · refine .inr (.inr ⟨by simp [toDo, workerLeft, isWorker, isOpen],
        helper_works _ _ (.inr isWorker) (.inl rfl), fun helps => ?_⟩)
      simp [← Option.some.inj helps, Awaited, isOpen, isWorker, givesUp] at awaited
  | fetched isSyncer =>
    rcases Bool.eq_false_or_eq_true process.syncerRunning with running | stopped
    · refine .inr (.inr ⟨by simp [toDo, syncerLeft, isSyncer, running, push_left],
        helper_syncs _ _ (by simp [isSyncer]) (by simp), fun helps => ?_⟩)
      simp [← Option.some.inj helps, Awaited, running] at awaited
    · refine .inr (.inl ?_)
      simp [toDo, syncerLeft, isSyncer, stopped, push_left]
  | polls isSyncer running =>
    refine .inr (.inr ⟨by simp [toDo, syncerLeft, isSyncer, running],
      helper_syncs _ _ (by simp [isSyncer]) (by simp), fun helps => ?_⟩)
    simp [← Option.some.inj helps, Awaited, running] at awaited
  | nothingNew isSyncer =>
    rcases Bool.eq_false_or_eq_true process.syncerRunning with running | stopped
    · refine .inr (.inr ⟨by simp [toDo, syncerLeft, isSyncer, running],
        helper_syncs _ _ (by simp [isSyncer]) (by simp), fun helps => ?_⟩)
      simp [← Option.some.inj helps, Awaited, running] at awaited
    · refine .inr (.inl ?_)
      simp [toDo, syncerLeft, isSyncer, stopped]
  | refetched isSyncer =>
    rcases Bool.eq_false_or_eq_true process.syncerRunning with running | stopped
    · refine .inr (.inr ⟨by simp [toDo, syncerLeft, isSyncer, running, push_left],
        helper_syncs _ _ (by simp [isSyncer]) (by simp), fun helps => ?_⟩)
      simp [← Option.some.inj helps, Awaited, running] at awaited
    · refine .inr (.inl ?_)
      simp [toDo, syncerLeft, isSyncer, stopped, push_left]
  | heard isIo notStopped =>
    refine .inr (.inr ⟨by simp [toDo, push_left], rfl, fun helps => ?_⟩)
    simp [← Option.some.inj helps, Awaited, notStopped] at awaited
  | prods isMain =>
    have less := listenerLeft_signalled process.signalled process.listener
    refine .inr (.inl ?_)
    simp only [toDo, isMain, mainLeft]
    omega
  | gaveUp isWorker =>
    have less := mainLeft_mono process.main (fun stopped : process.running = false => stopped)
      (fun _ : process.closed = true => rfl)
    refine .inr (.inl ?_)
    simp only [toDo, isWorker, workerLeft]
    omega
  | _ =>
    refine .inr (.inl ?_)
    grind -ring -linarith [toDo, mainLeft, listenerLeft, workerLeft, syncerLeft, ioLeft, runtimeStopLeft,
      syncerStopLeft, phase]

/-! ## How it ends -/

theorem sound_throughout (execution : Execution knight) (n : Nat) :
    Sound (execution.state n) ∧ Silenced (execution.state n) := by
  refine execution.invariant (fun process => Sound process ∧ Silenced process) ?_ ?_ n
  · rintro _ rfl
    exact ⟨.initial, fun _ => .inl rfl⟩
  · rintro process move after ⟨sound, silenced⟩ performed
    have moved := (perform_moved performed).2
    exact ⟨sound.step moved, silenced.step moved⟩

/-- Towards its end, the thread at the end of a chain of joins helps. -/
theorem ending_helped :
    Execution.Helped knight Ending (fun process => process.main.ended = true) toDo helper where
  stays process move after ending performed := by
    have moved := (perform_moved performed).2
    exact ⟨ending.sound.step moved, ending.silenced.step moved, told_stays ending.told ending.sound moved⟩
  ready process ending alive := helper_ready ending (by simpa using alive)
  descends process move after ending _ performed := advances ending (perform_moved performed).2

/-- Nothing ends `main` but what it was told. -/
theorem told_of_ended (sound : Sound process) (ended : process.main.ended = true) : Told process := by
  have leaving := sound.phased.leaving
  cases isMain : process.main <;> simp_all [Main.ended, Told, phase]
  all_goals grind -ring -linarith

/-- **Knight comes to an end, if it is told.** Under a fair scheduler, and however requests,
waits and messages come out, Knight ends exactly when at some time after it set its running
flag a signal reached its listener or the source gave up. -/
theorem knight_ends_once_told (execution : Execution knight) (fair : execution.Fair) :
    (∃ n, (execution.state n).main.ended = true) ↔ ∃ n, Told (execution.state n) := by
  constructor
  · rintro ⟨n, ended⟩
    exact ⟨n, told_of_ended (sound_throughout execution n).1 ended⟩
  · rintro ⟨n, told⟩
    obtain ⟨sound, silenced⟩ := sound_throughout execution n
    obtain ⟨m, _, ended⟩ := Execution.reaches ending_helped execution fair ⟨sound, silenced, told⟩
    exact ⟨m, ended⟩

/-! ## A signal that comes early -/

/-- A signal reaches the handler before the io thread is there. -/
def earlySignal : List Move :=
  [.main false, .signal] ++ List.replicate 9 .listener ++ List.replicate 11 (.main false) ++
    List.replicate 4 (.worker true) ++ List.replicate 2 (.main false) ++ [.syncer none] ++
    List.replicate 2 (.main false)

def signalledEarly : Execution knight :=
  .replay knight Process.perform (fun _ _ _ => id) {} rfl earlySignal

theorem signalledEarly_ends (n : Nat) (late : 31 ≤ n) : (signalledEarly.state n).main = .aborted := by
  have whole : signalledEarly.state n = signalledEarly.state 31 := by
    simp only [signalledEarly, Execution.replay]
    rw [List.take_of_length_le (by simpa [earlySignal] using late)]
    rfl
  rw [whole]
  decide +kernel

theorem ended_not_ready (ended : process.main.ended = true) (thread : Thread) :
    ¬knight.ready thread process := by
  intro ready
  cases thread with
  | main => simpa [Process.perform, ended] using ready (.main false) rfl
  | listener => simpa [Process.perform, ended] using ready .listener rfl
  | worker => simpa [Process.perform, ended] using ready (.worker false) rfl
  | syncer => simpa [Process.perform, ended] using ready (.syncer none) rfl
  | io => simpa [Process.perform, ended] using ready (.io none) rfl

theorem knight_ends_once_told_early : Told (signalledEarly.state 3) ∧
    ∃ n, (signalledEarly.state n).main.ended = true := by
  have told : Told (signalledEarly.state 3) := ⟨by decide, .inr (.inr (.inr rfl))⟩
  have fair : signalledEarly.Fair := signalledEarly.fair_of_stopped fun n late thread =>
    ended_not_ready (by rw [signalledEarly_ends n late]; rfl) thread
  exact ⟨told, (knight_ends_once_told signalledEarly fair).mpr ⟨3, told⟩⟩

end DexKnight.Shutdown
