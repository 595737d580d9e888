import DexKnight.Shutdown

/-! Which of Knight's threads are joined when `main` drops them; one that is not makes its
destructor call `std::terminate`. Whoever clears the flag of a worker joins its thread, and
whoever clears that of the runtime joins the io thread. But `Runtime::run` sets its flag
before it starts that thread: a handler that comes in between finds nothing to join, and
nobody joins it after that. -/
namespace DexKnight.JoinedThreads
open Core.Lifecycle Support.Fairness LifecycleProofs Shutdown

variable {process after : Process}

/-- Past the flag of `Runtime::stop`. -/
def inside : RuntimeStop → Bool
  | .entering => false
  | _ => true

def listenerInside : Listener → Bool
  | .stopping point => inside point
  | _ => false

def mainInside : Main → Bool
  | .stopping point => inside point
  | _ => false

/-- The handler looks for the io thread, and `main` has not started it yet. -/
def Skips (process : Process) : Prop :=
  process.listener = .stopping .checkingIo ∧ process.io = .absent

theorem syncer_keeps_io {point : SyncerStop} {next : Option SyncerStop}
    (stopped : SyncerStopped process point next after) : after.ioJoined = process.ioJoined := by
  cases stopped <;> rfl

theorem source_keeps_io {point : SourceStop} {next : Option SourceStop}
    (stopped : SourceStopped process point next after) : after.ioJoined = process.ioJoined := by
  cases stopped with
  | inputs inner => exact syncer_keeps_io inner
  | inputsStopped inner => exact syncer_keeps_io inner
  | _ => rfl

theorem runtime_joins_io {point : RuntimeStop} {next : Option RuntimeStop}
    (stopped : RuntimeStopped process point next after) :
    after.ioJoined = process.ioJoined ∨ process.io = .finished := by
  cases stopped with
  | source inner => exact .inl (source_keeps_io inner)
  | sourceStopped inner => exact .inl (source_keeps_io inner)
  | joined finished => exact .inr finished
  | _ => exact .inl rfl

/-- A call of `Runtime::stop` goes on to join the io thread, unless it came late or the thread
was not there. -/
theorem runtime_serves {point : RuntimeStop} {next : Option RuntimeStop}
    (stopped : RuntimeStopped process point next after) :
    after.ioJoined = true ∨ next.any inside = true ∨
      (point = .entering ∧ after = process) ∨ (point = .checkingIo ∧ process.io = .absent) := by
  cases stopped with
  | late _ => exact .inr (.inr (.inl ⟨rfl, rfl⟩))
  | notJoinable without =>
    rcases without with absent | joined
    · exact .inr (.inr (.inr ⟨rfl, absent⟩))
    · exact .inl joined
  | joined _ => exact .inl rfl
  | _ => exact .inr (.inl rfl)

/-- The io thread is joined once it has finished, and how `main` ended says what it found. -/
structure Settled (process : Process) : Prop where
  ioJoined : process.ioJoined = true → process.io = .finished
  exited : process.main = .exited → process.anyJoinable = false
  aborted : process.main = .aborted → process.anyJoinable = true

theorem Settled.step {move : Move} (settled : Settled process) (sound : Sound process)
    (alive : process.main.ended = false) (moved : Moved process move after) : Settled after where
  ioJoined := by
    have ioJoined := settled.ioJoined
    have io := sound.phased.io
    cases moved <;> grind -ring -linarith [phase, → runtime_joins_io, → source_keeps_io,
      → syncer_keeps_io]
  exited := by
    intro ends
    cases moved with
    | exits _ without => exact without
    | _ => grind -ring -linarith [Main.ended]
  aborted := by
    intro ends
    cases moved with
    | aborts _ joinable => exact joinable
    | _ => grind -ring -linarith [Main.ended]

/-- Whoever cleared the runtime's flag joins the io thread. -/
def Served (process : Process) : Prop :=
  process.running = false → phase process.main = 0 ∨ process.main = .killed ∨
    process.ioJoined = true ∨ listenerInside process.listener = true ∨ mainInside process.main = true

theorem Served.step {move : Move} (served : Served process) (sound : Sound process)
    (moved : Moved process move after) (found : ¬(move = .listener ∧ Skips process)) : Served after := by
  have io := sound.phased.io
  unfold Served at served ⊢
  unfold Skips at found
  cases moved <;> grind -ring -linarith [phase, listenerInside, mainInside, inside, → runtime_serves,
    → source_runs, → syncer_runs]

/-- Nobody will join the io thread any more. -/
structure Lost (process : Process) : Prop where
  unjoined : process.ioJoined = false
  stopped : process.running = false
  begun : 0 < phase process.main
  listener : process.listener = .finished
  main : mainInside process.main = false

theorem Lost.step {move : Move} (lost : Lost process) (moved : Moved process move after) : Lost after := by
  obtain ⟨unjoined, stopped, begun, listener, main⟩ := lost
  cases moved with
  | @stops _ point _ _ isMain stop =>
    -- `main` is not past the flag, and the flag is down.
    cases stop with
    | entered running => simp [stopped] at running
    | _ => simp [isMain, mainInside, inside] at main
  | @stopped _ point _ isMain stop =>
    cases stop with
    | late _ => exact ⟨unjoined, stopped, by simp [phase], listener, rfl⟩
    | _ => simp [isMain, mainInside, inside] at main
  | _ =>
    constructor <;> grind -ring -linarith [phase, mainInside, inside, → source_keeps_io,
      → syncer_keeps_io]

theorem lost_of_skips (sound : Sound process) (settled : Settled process) (skips : Skips process)
    (moved : Moved process .listener after) : Lost after := by
  obtain ⟨isListener, absent⟩ := skips
  obtain ⟨stopped, begun, _, _⟩ := sound.points.handling _ isListener
  have unjoined : process.ioJoined = false := by
    have finished := settled.ioJoined
    simpa [absent] using finished
  have early := sound.phased.io.mp absent
  cases moved with
  | wakes waiting => simp [waiting] at isListener
  | dismissed woken => simp [woken] at isListener
  | handles woken => simp [woken] at isListener
  | handlerStops here stop =>
    cases here.symm.trans isListener
    cases stop with
    | joinable there _ => exact absurd absent there
  | handlerStopped here stop =>
    cases here.symm.trans isListener
    cases stop with
    | notJoinable _ =>
      refine ⟨unjoined, stopped, begun, rfl, ?_⟩
      cases isMain : process.main <;> simp_all [phase, mainInside]

/-- What every execution keeps, besides. -/
theorem settled_throughout (execution : Execution knight) (n : Nat) :
    Sound (execution.state n) ∧ Settled (execution.state n) := by
  refine execution.invariant (fun process => Sound process ∧ Settled process) ?_ ?_ n
  · rintro _ rfl
    exact ⟨.initial, by simp, by simp, by simp⟩
  · rintro process move after ⟨sound, settled⟩ performed
    obtain ⟨alive, moved⟩ := perform_moved performed
    exact ⟨sound.step moved, settled.step sound alive moved⟩

/-- Step by step up to `n`, the handler found the io thread: so whoever cleared the flag joins it. -/
theorem served_until (execution : Execution knight) (n : Nat)
    (found : ∀ m < n, ¬(execution.move m = some .listener ∧ Skips (execution.state m))) :
    Served (execution.state n) := by
  induction n with
  | zero =>
    have first : execution.state 0 = {} := execution.starts
    rw [first]
    exact fun _ => .inl rfl
  | succ n ih =>
    have served := ih fun m before => found m (Nat.lt_succ_of_lt before)
    cases isMove : execution.move n with
    | none => rwa [execution.idles n isMove]
    | some move =>
      have moved := (perform_moved (execution.moves n move isMove)).2
      refine served.step (settled_throughout execution n).1 moved ?_
      rintro ⟨rfl, skips⟩
      exact found n (Nat.lt_succ_self n) ⟨isMove, skips⟩

/-- When `main` drops its threads, the worker and the block syncer are joined. -/
theorem joined_last (sound : Sound process) (last : 10 ≤ phase process.main) :
    process.workerJoined = true ∧ process.syncerJoined = true := by
  have phased := sound.phased
  have finished := sound.dismantled.finished phased sound.joined (by omega)
  have dismissed := phased.dismissed (by omega)
  have workerStopped := sound.dismantled.workerRunning (by omega)
  have syncerStopped := sound.dismantled.syncerRunning last
  have started := sound.threaded.started (by simp [finished]) (by simp [finished])
  have worker := sound.joined.worker
  have syncer := sound.joined.syncer
  constructor <;> grind -ring -linarith [phase]

theorem anyJoinable_last (sound : Sound process) (last : 10 ≤ phase process.main) :
    process.anyJoinable = true ↔ process.ioJoined = false := by
  obtain ⟨workerJoined, syncerJoined⟩ := joined_last sound last
  have io : process.io ≠ .absent := fun absent => absurd (sound.phased.io.mp absent) (by omega)
  simp [Process.anyJoinable, workerJoined, syncerJoined, io]

/-- **Which threads are joined.** When `main` has ended other than by a signal, the listener, the
worker and the block syncer have finished; and the io thread has, unless `std::terminate` cut it
off, which happens exactly when the handler looked for it before `main` had started it. -/
theorem knight_joins_its_threads (execution : Execution knight) (n : Nat)
    (ends : (execution.state n).main = .exited ∨ (execution.state n).main = .aborted) :
    ((execution.state n).main = .aborted ↔
      ∃ m < n, execution.move m = some .listener ∧ Skips (execution.state m)) ∧
    (execution.state n).listener = .finished ∧ (execution.state n).worker = .finished ∧
    (execution.state n).syncer = .finished ∧
    ((execution.state n).main = .exited → (execution.state n).io = .finished) := by
  obtain ⟨sound, settled⟩ := settled_throughout execution n
  have last : phase (execution.state n).main = 11 := by
    rcases ends with ends | ends <;> simp [ends, phase]
  have joinable := anyJoinable_last sound (by omega)
  obtain ⟨workerJoined, syncerJoined⟩ := joined_last sound (by omega)
  have dismissed := sound.phased.dismissed (by omega)
  refine ⟨⟨fun aborted => ?_, fun skipped => ?_⟩, dismissed, sound.joined.workerJoined workerJoined,
    sound.joined.syncerJoined syncerJoined, fun exited => ?_⟩
  · -- Had the handler found the thread, somebody would have joined it.
    refine Classical.byContradiction fun found => ?_
    have unjoined := joinable.mp (settled.aborted aborted)
    have stopped := sound.dismantled.running (by omega)
    have served := served_until execution n (fun m before skips => found ⟨m, before, skips⟩) stopped
    simp [aborted, phase, unjoined, dismissed, listenerInside, mainInside] at served
  · obtain ⟨m, before, isMove, skips⟩ := skipped
    obtain ⟨soundThen, settledThen⟩ := settled_throughout execution m
    have lost := lost_of_skips soundThen settledThen skips
      (perform_moved (execution.moves m _ isMove)).2
    have lostNow := execution.holds_on Lost
      (fun _ _ _ lost performed => lost.step (perform_moved performed).2) before lost
    refine ends.resolve_left fun exited => ?_
    simp [settled.exited exited, lostNow.unjoined] at joinable
  · refine settled.ioJoined (Bool.of_not_eq_false fun unjoined => ?_)
    simp [settled.exited exited, unjoined] at joinable

theorem knight_joins_its_threads_early :
    (∃ m < 31, signalledEarly.move m = some .listener ∧ Skips (signalledEarly.state m)) ∧
      (signalledEarly.state 31).worker = .finished := by
  have aborted := signalledEarly_ends 31 (Nat.le_refl _)
  obtain ⟨skipped, _, finished, _⟩ := knight_joins_its_threads signalledEarly 31 (.inr aborted)
  exact ⟨skipped.mp aborted, finished⟩

end DexKnight.JoinedThreads
