import Mathlib.Logic.Basic
import DexKnight.Core.Websocket
import DexKnight.Support.Runs

/-! What a stopped websocket source still does. Stopping cancels what is in flight, and
what was cancelled completes with an error; every handler of an error takes it for a
lost connection. So whether a source stays stopped depends on what completes after it
was stopped, and the exact condition is stated for one step and for whole
interleavings. -/
namespace DexKnight.StoppedSource
open Core.Websocket Support.Runs

variable {source after : WsSource} {code : ErrorCode} {place : String}

/-- No reconnect is on its way. -/
def Unarmed (source : WsSource) : Prop := ∀ wait ∈ source.waits, wait.isArmed = false

/-- What a stopped source should be: it neither connects nor reads, and will not. -/
def Quiet (source : WsSource) : Prop :=
  source.state ≠ .starting ∧ source.state ≠ .running ∧ Unarmed source

/-- No attempt to reconnect is left. -/
def Exhausted (source : WsSource) : Prop := kMaxReconnectAttempts ≤ source.reconnectAttempts

/-- The handler of an operation takes it for a failure. -/
def Fails (source : WsSource) (operation : Operation) (code : ErrorCode)
    (answers : WsSource.Answers) : Prop :=
  match operation with
  | .close => WsSource.closeFailed code = true
  | .connect => code ≠ .none ∨ source.useTls = true ∧
      (answers.sni ≠ .none ∨ source.verifyTlsPeer = true ∧ answers.verifyHost ≠ .none)
  | _ => code ≠ .none

/-- The steps that leave a stopped source stopped: none reports a failure while attempts
are left, none ends a websocket handshake, and the timer's handler finds the source
stopping. -/
def Spares (source : WsSource) : WsSource.Event → Prop
  | .completes index code answers => ∀ begun, source.inFlight[index]? = some begun →
      (Fails source begun.operation code answers → Exhausted source) ∧
        ¬(begun.operation = .wsHandshake ∧ code = .none)
  | .timer index => source.waits[index]? = some .queued → source.state = .stopping
  | _ => True

/-! ## Failures -/

theorem cancelTimer_unarmed (source : WsSource) : Unarmed source.cancelTimer := by
  intro wait member
  obtain ⟨old, _, rfl⟩ := List.mem_map.mp member
  cases armed : old.isArmed with
  | true => rfl
  | false => simpa using armed

theorem scheduleReconnect_quiet_iff (isFailed : source.state = .failed) (unarmed : Unarmed source) :
    Quiet source.scheduleReconnect ↔ Exhausted source := by
  unfold WsSource.scheduleReconnect Exhausted
  rw [if_neg (by simp [isFailed])]
  by_cases exhausted : source.reconnectAttempts ≥ kMaxReconnectAttempts
  · rw [if_pos exhausted]
    exact ⟨fun _ => exhausted, fun _ => ⟨by simp [isFailed], by simp [isFailed], unarmed⟩⟩
  · rw [if_neg exhausted]
    constructor
    · rintro ⟨_, _, quiet⟩
      have last := quiet _ (List.mem_append_right _ List.mem_cons_self)
      cases last
    · intro impossible
      exact absurd impossible exhausted

theorem scheduleReconnect_restartRequested (source : WsSource) :
    source.scheduleReconnect.restartRequested = source.restartRequested := by
  unfold WsSource.scheduleReconnect
  split
  · rfl
  · split
    · rfl
    · rfl

theorem fail_quiet_iff (unarmed : Unarmed source) :
    Quiet (source.fail code place) ↔ Exhausted source :=
  scheduleReconnect_quiet_iff rfl unarmed

theorem fail_restartRequested (source : WsSource) (code : ErrorCode) (place : String) :
    (source.fail code place).restartRequested = source.restartRequested :=
  scheduleReconnect_restartRequested _

/-- Without a restart in mind, a close that failed is a failure. -/
theorem onClose_failed (idle : source.restartRequested = false)
    (failed : WsSource.closeFailed code = true) :
    source.onClose code =
      ((source.publishError code "close").publishState .failed).scheduleReconnect.resetStream := by
  have kept : ((source.publishError code "close").publishState
      .failed).scheduleReconnect.resetStream.restartRequested = false :=
    (scheduleReconnect_restartRequested _).trans idle
  simp only [WsSource.onClose, failed, if_true, kept]
  rfl

theorem onClose_clean (idle : source.restartRequested = false)
    (clean : WsSource.closeFailed code = false) :
    source.onClose code = (source.publishState .stopped).resetStream := by
  have kept : (source.publishState .stopped).resetStream.restartRequested = false := idle
  simp only [WsSource.onClose, clean, Bool.false_eq_true, if_false, kept]

/-! ## Handlers -/

section Handlers

variable (quiet : Quiet source)
include quiet

/-- Everywhere but at a close, a handler fails or goes on. -/
private theorem fail_or_quiet_iff {onward : WsSource} {failed : Prop} [Decidable failed]
    (isOnward : ¬failed → Quiet onward) :
    Quiet (if failed then source.fail code place else onward) ↔ (failed → Exhausted source) := by
  by_cases fails : failed
  · rw [if_pos fails, fail_quiet_iff quiet.2.2]
    exact ⟨fun exhausted _ => exhausted, fun exhausted => exhausted fails⟩
  · rw [if_neg fails]
    exact ⟨fun _ impossible => absurd impossible fails, fun _ => isOnward fails⟩

theorem onConnect_quiet_iff (code : ErrorCode) (answers : WsSource.Answers) :
    Quiet (source.onConnect code answers) ↔
      (Fails source .connect code answers → Exhausted source) := by
  unfold WsSource.onConnect Fails
  by_cases failed : code ≠ .none
  · rw [if_pos failed, fail_quiet_iff quiet.2.2]
    simp [failed]
  · rw [if_neg failed]
    cases tls : source.useTls with
    | false =>
      have onward : Quiet (source.begin .wsHandshake) := quiet
      simpa [failed] using onward
    | true =>
      by_cases sni : answers.sni ≠ .none
      · rw [if_neg (by decide), if_pos sni, fail_quiet_iff quiet.2.2]
        simp [sni]
      · have onward : Quiet (source.begin .tlsHandshake) := quiet
        rw [if_neg (by decide), if_neg sni, fail_or_quiet_iff quiet fun _ => onward]
        simp [failed, sni]

theorem onClose_quiet_iff (idle : source.restartRequested = false) (code : ErrorCode) :
    Quiet (source.onClose code) ↔ (WsSource.closeFailed code = true → Exhausted source) := by
  cases failed : WsSource.closeFailed code with
  | true =>
    rw [onClose_failed idle failed]
    have atFailure := scheduleReconnect_quiet_iff (show
      ((source.publishError code "close").publishState .failed).state = .failed from rfl) quiet.2.2
    exact atFailure.trans ⟨fun exhausted _ => exhausted, fun exhausted => exhausted rfl⟩
  | false =>
    rw [onClose_clean idle failed]
    have clean : Quiet (source.publishState .stopped).resetStream := by
      refine ⟨?_, ?_, quiet.2.2⟩
      · exact State.noConfusion
      · exact State.noConfusion
    simp [clean]

/-- One completion: it leaves the source quiet unless it counts as a failure that can be
retried, or it opens the websocket. -/
theorem handle_quiet_iff (idle : source.restartRequested = false) (operation : Operation)
    (code : ErrorCode) (answers : WsSource.Answers) :
    Quiet (source.handle operation code answers) ↔
      (Fails source operation code answers → Exhausted source) ∧
        ¬(operation = .wsHandshake ∧ code = .none) := by
  cases operation with
  | resolve =>
    have onward : Quiet ({ source with connecting := true }.begin .connect) := quiet
    rw [and_iff_left (by simp)]
    exact fail_or_quiet_iff quiet fun _ => onward
  | connect =>
    rw [and_iff_left (by simp)]
    exact onConnect_quiet_iff quiet code answers
  | tlsHandshake =>
    have onward : Quiet (source.begin .wsHandshake) := quiet
    rw [and_iff_left (by simp)]
    exact fail_or_quiet_iff quiet fun _ => onward
  | wsHandshake =>
    change Quiet (source.onWsHandshake code) ↔ (code ≠ .none → Exhausted source) ∧ _
    unfold WsSource.onWsHandshake
    by_cases failed : code ≠ .none
    · rw [if_pos failed, fail_quiet_iff quiet.2.2]
      simp [failed]
    · rw [if_neg failed]
      have opened : ¬Quiet
          (({ source with reconnectAttempts := 0 }.publishState .running).begin .read) := by
        rintro ⟨_, notRunning, _⟩
        exact notRunning rfl
      simpa [not_not.mp failed] using opened
  | read =>
    have onward : Quiet (if source.state = .running then
        (source.publishMessage answers.payload).begin .read
        else source.publishMessage answers.payload) := by
      rw [if_neg quiet.2.1]
      exact quiet
    rw [and_iff_left (by simp)]
    exact fail_or_quiet_iff quiet fun _ => onward
  | close =>
    rw [and_iff_left (by simp)]
    exact onClose_quiet_iff quiet idle code

end Handlers

private theorem fail_or_idle (idle : source.restartRequested = false) {onward : WsSource}
    {failed : Prop} [Decidable failed] (isOnward : onward.restartRequested = false) :
    (if failed then source.fail code place else onward).restartRequested = false := by
  by_cases fails : failed
  · rw [if_pos fails, fail_restartRequested, idle]
  · rw [if_neg fails, isOnward]

/-- No completion asks for a restart. -/
theorem handle_restartRequested (idle : source.restartRequested = false) (operation : Operation)
    (code : ErrorCode) (answers : WsSource.Answers) :
    (source.handle operation code answers).restartRequested = false := by
  cases operation with
  | resolve =>
    apply fail_or_idle idle
    exact idle
  | connect =>
    apply fail_or_idle idle
    by_cases plain : source.useTls = false
    · rw [if_pos plain]
      exact idle
    · rw [if_neg plain]
      apply fail_or_idle idle
      apply fail_or_idle idle
      exact idle
  | tlsHandshake =>
    apply fail_or_idle idle
    exact idle
  | wsHandshake =>
    apply fail_or_idle idle
    exact idle
  | read =>
    apply fail_or_idle idle
    by_cases running : source.state = .running
    · exact (congrArg WsSource.restartRequested (if_pos running)).trans idle
    · exact (congrArg WsSource.restartRequested (if_neg running)).trans idle
  | close =>
    cases closes : WsSource.closeFailed code with
    | true =>
      change (source.onClose code).restartRequested = false
      rw [onClose_failed idle closes]
      exact (scheduleReconnect_restartRequested _).trans idle
    | false =>
      change (source.onClose code).restartRequested = false
      rw [onClose_clean idle closes]
      exact idle

/-! ## One step -/

/-- A call that asks for a connection. -/
def Starts : WsSource.Event → Bool
  | .start | .restart _ => true
  | _ => false

/-- Stopping leaves the source quiet, whatever it was doing, and with no restart in
mind. -/
theorem stop_halts (source : WsSource) (isOpen : Bool) :
    (source.stop isOpen).restartRequested = false ∧ Quiet (source.stop isOpen) := by
  have unarmed := cancelTimer_unarmed { source with restartRequested := false }
  by_cases still : source.state = .stopped ∨ source.state = .stopping
  · have isStop : source.stop isOpen = { source with restartRequested := false }.cancelTimer :=
      if_pos still
    rw [isStop]
    refine ⟨rfl, ?_, ?_, unarmed⟩
    · rcases still with still | still <;> simp [WsSource.cancelTimer, still]
    · rcases still with still | still <;> simp [WsSource.cancelTimer, still]
  · have isStop : source.stop isOpen =
        ({ source with restartRequested := false }.cancelTimer.publishState .stopping).doClose
          isOpen := if_neg still
    have stopping : Quiet
        ({ source with restartRequested := false }.cancelTimer.publishState .stopping) :=
      ⟨State.noConfusion, State.noConfusion, unarmed⟩
    rw [isStop]
    cases isOpen with
    | true => exact ⟨rfl, stopping⟩
    | false =>
      refine ⟨rfl, ?_⟩
      exact (onClose_quiet_iff stopping rfl .none).mpr fun impossible => by cases impossible

theorem start_not_quiet (quiet : Quiet source) : ¬Quiet source.start := by
  have apart : ¬(source.cancelTimer.state = .starting ∨ source.cancelTimer.state = .running) :=
    not_or.mpr ⟨quiet.1, quiet.2.1⟩
  rintro ⟨notStarting, _⟩
  unfold WsSource.start at notStarting
  rw [if_neg apart] at notStarting
  exact notStarting rfl

theorem start_restartRequested (idle : source.restartRequested = false) :
    source.start.restartRequested = false := by
  unfold WsSource.start
  by_cases busy : source.cancelTimer.state = .starting ∨ source.cancelTimer.state = .running
  · rw [if_pos busy]
    exact idle
  · rw [if_neg busy]
    rfl

/-- The handler of a wait that is over starts a source that is not stopping. -/
theorem onReconnectTimer_quiet_iff (quiet : Quiet source) :
    Quiet source.onReconnectTimer ↔ source.state = .stopping := by
  unfold WsSource.onReconnectTimer
  by_cases stopping : source.state = .stopping
  · rw [if_pos (.inl stopping)]
    exact ⟨fun _ => stopping, fun _ => quiet⟩
  · rw [if_neg (not_or.mpr ⟨stopping, quiet.2.1⟩)]
    exact ⟨fun started => absurd started (start_not_quiet quiet), fun h => absurd h stopping⟩

theorem onReconnectTimer_restartRequested (idle : source.restartRequested = false) :
    source.onReconnectTimer.restartRequested = false := by
  unfold WsSource.onReconnectTimer
  split
  · exact idle
  · exact start_restartRequested idle

/-- Fewer waits are no more armed. -/
private theorem Quiet.eraseWait (quiet : Quiet source) (index : Nat) :
    Quiet { source with waits := source.waits.eraseIdx index } :=
  ⟨quiet.1, quiet.2.1, fun wait member => quiet.2.2 wait (List.mem_of_mem_eraseIdx member)⟩

theorem perform_stop {isOpen : Bool} (performed : source.perform (.stop isOpen) = some after) :
    source.stop isOpen = after := by
  simp only [WsSource.perform] at performed
  split at performed
  · cases performed
  · exact Option.some.inj performed

/-- What one step does to a stopped source: it stays quiet exactly when the step spares
it. -/
theorem perform_quiet_iff (idle : source.restartRequested = false) (quiet : Quiet source)
    {event : WsSource.Event} (alone : Starts event = false)
    (performed : source.perform event = some after) :
    after.restartRequested = false ∧ (Quiet after ↔ Spares source event) := by
  cases event with
  | start => cases alone
  | restart => cases alone
  | stop isOpen =>
    rw [← perform_stop performed]
    obtain ⟨isIdle, isQuiet⟩ := stop_halts source isOpen
    exact ⟨isIdle, fun _ => trivial, fun _ => isQuiet⟩
  | completes index code answers =>
    obtain ⟨begun, isBegun, performed⟩ := Option.bind_eq_some_iff.mp performed
    split at performed
    · cases performed
    · cases performed
      have restQuiet : Quiet { source with inFlight := source.inFlight.eraseIdx index } := quiet
      have restIdle : { source with
        inFlight := source.inFlight.eraseIdx index }.restartRequested = false := idle
      refine ⟨handle_restartRequested restIdle _ _ _, ?_⟩
      rw [handle_quiet_iff restQuiet restIdle]
      unfold Spares
      simp only [isBegun, Option.some.injEq, forall_eq']
      rfl
  | expires index =>
    obtain ⟨wait, isWait, performed⟩ := Option.bind_eq_some_iff.mp performed
    have unarmed := quiet.2.2 wait (List.mem_of_getElem? isWait)
    rw [if_neg (by simp [unarmed])] at performed
    cases performed
  | timer index =>
    obtain ⟨wait, isWait, performed⟩ := Option.bind_eq_some_iff.mp performed
    have rest := Quiet.eraseWait quiet index
    unfold Spares
    cases wait with
    | armed delay => cases performed
    | queued =>
      cases performed
      refine ⟨onReconnectTimer_restartRequested idle, ?_⟩
      rw [onReconnectTimer_quiet_iff rest]
      simp [isWait]
    | aborted =>
      cases performed
      refine ⟨idle, ?_⟩
      simp [isWait, rest]

/-! ## Interleavings -/

/-- A source from its constructor on, under calls and completions in any order. -/
def interleavings : Machine WsSource WsSource.Event where
  initial source := ∃ useTls verifyTlsPeer, source = { useTls, verifyTlsPeer }
  step before event after := before.perform event = some after

/-- A source that is stopped stays quiet all along, as long as it is not started again,
exactly when every step after that spares it. -/
theorem stopped_stays_quiet_iff {halted : WsSource} {isOpen : Bool}
    (stops : source.perform (.stop isOpen) = some halted)
    {path : List (Machine.Step WsSource WsSource.Event)} (steps : interleavings.Steps halted path)
    (alone : ∀ taken ∈ path, Starts taken.label = false) :
    (Quiet halted ∧ ∀ taken ∈ path, Quiet taken.after) ↔
      ∀ taken ∈ path, Spares taken.before taken.label := by
  obtain ⟨idle, quiet⟩ := stop_halts source isOpen
  rw [perform_stop stops] at idle quiet
  rw [and_iff_right quiet]
  apply Steps.safe_iff (fun source => source.restartRequested = false) Quiet Spares steps idle quiet
  intro taken member idle quiet performed
  exact perform_quiet_iff idle quiet (alone taken member) performed

/-! ## Two stops -/

def constructed : WsSource where
  useTls := false
  verifyTlsPeer := true

def resolving : WsSource := constructed.start

theorem resolving_run : interleavings.Run [.start] resolving := by
  have begins : interleavings.Run [] constructed := .start ⟨false, true, rfl⟩
  exact .step begins rfl

/-- A source whose first resolve failed waits to reconnect. -/
def waiting : WsSource := { resolving with inFlight := [] }.onResolve (.other 1)

/-- Stopped then, it has only its cancelled wait left. -/
def waitingPath : List (Machine.Step WsSource WsSource.Event) :=
  [⟨waiting.stop false, .timer 0, { waiting.stop false with waits := [] }⟩]

theorem waiting_source_stays_quiet :
    interleavings.Run [.start, .completes 0 (.other 1) {}] waiting ∧
      interleavings.Steps (waiting.stop false) waitingPath ∧
      Quiet (waiting.stop false) ∧ ∀ taken ∈ waitingPath, Quiet taken.after := by
  have steps : interleavings.Steps (waiting.stop false) waitingPath := .step rfl .done
  refine ⟨.step resolving_run rfl, steps, ?_⟩
  apply (stopped_stays_quiet_iff (show waiting.perform (.stop false) = some (waiting.stop false)
    from rfl) steps (by decide)).mpr
  intro taken member
  rw [List.mem_singleton.mp member]
  intro queued
  cases queued

/-- Stopped while it resolves: the resolve is cancelled and its error is taken for a lost
connection. -/
def reconnecting : WsSource := { resolving.stop false with inFlight := [] }.onResolve (.other 125)

/-- Once the wait is over the source connects again. -/
def reconnectPath : List (Machine.Step WsSource WsSource.Event) := [
  ⟨resolving.stop false, .completes 0 (.other 125) {}, reconnecting⟩,
  ⟨reconnecting, .expires 0, { reconnecting with waits := [.queued] }⟩,
  ⟨{ reconnecting with waits := [.queued] }, .timer 0, { reconnecting with waits := [] }.start⟩]

theorem resolving_source_reconnects :
    interleavings.Run [.start] resolving ∧
      resolving.perform (.stop false) = some (resolving.stop false) ∧
      interleavings.Steps (resolving.stop false) reconnectPath ∧
      (∀ taken ∈ reconnectPath, Starts taken.label = false) ∧
      ¬(Quiet (resolving.stop false) ∧ ∀ taken ∈ reconnectPath, Quiet taken.after) ∧
      ({ reconnecting with waits := [] }.start).state = .starting := by
  refine ⟨resolving_run, rfl, .step rfl (.step rfl (.step rfl .done)), by decide, ?_, rfl⟩
  rintro ⟨_, quiet⟩
  have atReconnect := quiet _ List.mem_cons_self
  have unarmed := atReconnect.2.2 _ List.mem_cons_self
  cases unarmed

end DexKnight.StoppedSource
