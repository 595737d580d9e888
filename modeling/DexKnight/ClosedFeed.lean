import Mathlib.Data.List.Induction
import DexKnight.Core.Feed
import DexKnight.Support.Runs

/-! What a closed pending feed says about its websocket source. The feed is told of five
states and ignores that the source is starting, so it is still closed while the source
resolves, connects and shakes hands; and closing a closed feed does nothing. The
notifications so far are sorted into three phases, which settles both questions
exactly: when a call of `close` is lost, and when a closed feed has an idle source. -/
namespace DexKnight.ClosedFeed
open Core.Websocket Core.Feed Support.Runs

/-- What the notifications so far amount to: a source that is stopped, one that was
started out of that and has not answered, or one that has. -/
inductive Phase
  | idle
  | startingUp
  | answered
  deriving DecidableEq, Repr

def notice (phase : Phase) : Output → Phase
  | .message _ => phase
  | .error _ _ => .answered
  | .state .stopped => .idle
  | .state .starting => if phase = .idle then .startingUp else phase
  | .state .stopping => phase
  | .state .running => .answered
  | .state .failed => .answered

def phaseOf (outputs : List Output) : Phase := outputs.foldl notice .idle

def heard (outputs : List Output) : FeedState := outputs.foldl hear .closed

variable {source after : WsSource} {feed next : PendingFeed} {state : State} {code : ErrorCode}
  {place : String}

@[simp] theorem phaseOf_append (outputs : List Output) (output : Output) :
    phaseOf (outputs ++ [output]) = notice (phaseOf outputs) output := by
  simp [phaseOf]

@[simp] theorem heard_append (outputs : List Output) (output : Output) :
    heard (outputs ++ [output]) = hear (heard outputs) output := by
  simp [heard]

/-- The feed is closed exactly until the source has answered. -/
theorem heard_closed_iff (outputs : List Output) :
    heard outputs = .closed ↔ phaseOf outputs ≠ .answered := by
  induction outputs using List.reverseRecOn with
  | nil => simp [heard, phaseOf]
  | append_singleton earlier output ih =>
    rw [heard_append, phaseOf_append]
    cases output with
    | message payload => exact ih
    | error code place => simp [hear, notice]
    | state state =>
      cases state with
      | starting =>
        rw [hear, onWsState, ih]
        cases phaseOf earlier <;> simp [notice]
      | stopping => exact ih
      | _ => simp [hear, onWsState, notice]

/-! ## The source publishes what it does -/

/-- The source is stopped exactly in the idle phase. -/
def Tracks (source : WsSource) : Prop := source.state = .stopped ↔ phaseOf source.published = .idle

/-- The source went on publishing, and its state still agrees with what it published. -/
structure Notifies (source after : WsSource) : Prop where
  grows : source.published <+: after.published
  tracks : Tracks source → Tracks after

namespace Notifies

variable {middle : WsSource}

theorem refl (source : WsSource) : Notifies source source := ⟨List.prefix_rfl, id⟩

theorem trans (first : Notifies source middle) (second : Notifies middle after) :
    Notifies source after :=
  ⟨first.grows.trans second.grows, fun tracks => second.tracks (first.tracks tracks)⟩

/-- Nothing published, no state changed. -/
theorem of_same (published : after.published = source.published)
    (sameState : after.state = source.state) : Notifies source after := by
  refine ⟨published ▸ List.prefix_rfl, fun tracks => ?_⟩
  rw [Tracks, published, sameState]
  exact tracks

end Notifies

theorem publishMessage_notifies (payload : String) :
    Notifies source (source.publishMessage payload) := by
  refine ⟨List.prefix_append _ _, fun tracks => ?_⟩
  rw [Tracks, WsSource.publishMessage, phaseOf_append]
  exact tracks

/-- Every state but one names its phase, whatever came before. -/
theorem publishState_tracks (settles : state ≠ .stopping) : Tracks (source.publishState state) := by
  rw [Tracks, WsSource.publishState, phaseOf_append]
  cases state with
  | stopping => exact absurd rfl settles
  | starting => cases phaseOf source.published <;> simp [notice]
  | _ => simp [notice]

theorem publishState_notifies (settles : state ≠ .stopping) :
    Notifies source (source.publishState state) :=
  ⟨List.prefix_append _ _, fun _ => publishState_tracks settles⟩

/-- A source that is stopping was not stopped. -/
theorem publishStopping_notifies (notStopped : source.state ≠ .stopped) :
    Notifies source (source.publishState .stopping) := by
  refine ⟨List.prefix_append _ _, fun tracks => ?_⟩
  have inUse : phaseOf source.published ≠ .idle := fun idle => notStopped (tracks.mpr idle)
  rw [Tracks, WsSource.publishState, phaseOf_append]
  simpa [notice] using inUse

/-- An error is always followed by the state it leads to. -/
theorem publishFailure_notifies :
    Notifies source ((source.publishError code place).publishState .failed) :=
  ⟨(List.prefix_append _ _).trans (List.prefix_append _ _),
    fun _ => publishState_tracks State.noConfusion⟩

theorem start_notifies (source : WsSource) : Notifies source source.start := by
  unfold WsSource.start
  dsimp only
  split
  · exact .of_same rfl rfl
  · have reset : Notifies source ({ source.cancelTimer with restartRequested := false }).resetStream :=
      .of_same rfl rfl
    have starting : Notifies ({ source.cancelTimer with restartRequested := false }).resetStream
        (({ source.cancelTimer with restartRequested := false }).resetStream.publishState .starting) :=
      publishState_notifies State.noConfusion
    exact (reset.trans starting).trans (.of_same rfl rfl)

theorem scheduleReconnect_notifies (source : WsSource) : Notifies source source.scheduleReconnect := by
  unfold WsSource.scheduleReconnect
  split
  · exact .refl _
  · split
    · exact .refl _
    · exact .of_same rfl rfl

theorem fail_notifies (source : WsSource) (code : ErrorCode) (place : String) :
    Notifies source (source.fail code place) := by
  unfold WsSource.fail
  have reset : Notifies ((source.publishError code place).publishState .failed)
      ((source.publishError code place).publishState .failed).resetStream := .of_same rfl rfl
  exact (publishFailure_notifies.trans reset).trans (scheduleReconnect_notifies _)

theorem onClose_notifies (source : WsSource) (code : ErrorCode) :
    Notifies source (source.onClose code) := by
  unfold WsSource.onClose
  have closes : Notifies source
      (if WsSource.closeFailed code then
        ((source.publishError code "close").publishState .failed).scheduleReconnect
      else source.publishState .stopped) := by
    split
    · exact publishFailure_notifies.trans (scheduleReconnect_notifies _)
    · exact publishState_notifies State.noConfusion
  generalize (if WsSource.closeFailed code then
      ((source.publishError code "close").publishState .failed).scheduleReconnect
    else source.publishState .stopped) = closed at closes ⊢
  dsimp only
  split
  · have ready : Notifies closed { closed.resetStream with restartRequested := false } :=
      .of_same rfl rfl
    exact (closes.trans ready).trans (start_notifies _)
  · exact closes.trans (.of_same rfl rfl)

theorem doClose_notifies (source : WsSource) (isOpen : Bool) :
    Notifies source (source.doClose isOpen) := by
  unfold WsSource.doClose
  split
  · exact .of_same rfl rfl
  · exact onClose_notifies source .none

theorem stop_notifies (source : WsSource) (isOpen : Bool) : Notifies source (source.stop isOpen) := by
  unfold WsSource.stop
  have cancelled : Notifies source ({ source with restartRequested := false }).cancelTimer :=
    .of_same rfl rfl
  dsimp only
  split
  · exact cancelled
  · rename_i live
    have stopping := publishStopping_notifies (not_or.mp live).1
    exact (cancelled.trans stopping).trans (doClose_notifies _ isOpen)

theorem restart_notifies (source : WsSource) (isOpen : Bool) :
    Notifies source (source.restart isOpen) := by
  unfold WsSource.restart
  have requested : Notifies source { source with restartRequested := true } := .of_same rfl rfl
  dsimp only
  split
  · have reset : Notifies source ({ source with restartRequested := true }).resetStream :=
      .of_same rfl rfl
    exact reset.trans (start_notifies _)
  · split
    · exact requested
    · rename_i live _
      have notStopped : { source with restartRequested := true }.state ≠ .stopped :=
        (not_or.mp live).1
      have stopping := publishStopping_notifies notStopped
      exact (requested.trans stopping).trans (doClose_notifies _ isOpen)

/-- A handler that fails or goes on. -/
private theorem fail_or_notifies {failed : Prop} [Decidable failed] {onward : WsSource}
    (goesOn : Notifies source onward) :
    Notifies source (if failed then source.fail code place else onward) := by
  split
  · exact fail_notifies source code place
  · exact goesOn

theorem handle_notifies (source : WsSource) (operation : Operation) (code : ErrorCode)
    (answers : WsSource.Answers) : Notifies source (source.handle operation code answers) := by
  cases operation with
  | resolve =>
    apply fail_or_notifies
    exact .of_same rfl rfl
  | connect =>
    apply fail_or_notifies
    split
    · exact .of_same rfl rfl
    · apply fail_or_notifies
      apply fail_or_notifies
      exact .of_same rfl rfl
  | tlsHandshake =>
    apply fail_or_notifies
    exact .of_same rfl rfl
  | wsHandshake =>
    apply fail_or_notifies
    have reset : Notifies source { source with reconnectAttempts := 0 } := .of_same rfl rfl
    have running : Notifies { source with reconnectAttempts := 0 }
        ({ source with reconnectAttempts := 0 }.publishState .running) :=
      publishState_notifies State.noConfusion
    exact (reset.trans running).trans (.of_same rfl rfl)
  | read =>
    apply fail_or_notifies
    split
    · exact (publishMessage_notifies _).trans (.of_same rfl rfl)
    · exact publishMessage_notifies _
  | close => exact onClose_notifies source code

theorem onReconnectTimer_notifies (source : WsSource) : Notifies source source.onReconnectTimer := by
  unfold WsSource.onReconnectTimer
  split
  · exact .refl _
  · exact start_notifies source

/-- **One event of the source**, whichever it is. -/
theorem perform_notifies {event : WsSource.Event} (performed : source.perform event = some after) :
    Notifies source after := by
  cases event with
  | start =>
    cases performed
    exact start_notifies source
  | stop isOpen =>
    rw [WsSource.perform, Option.ite_none_left_eq_some, Option.some.injEq] at performed
    exact performed.2 ▸ stop_notifies source isOpen
  | restart isOpen =>
    rw [WsSource.perform, Option.ite_none_left_eq_some, Option.some.injEq] at performed
    exact performed.2 ▸ restart_notifies source isOpen
  | completes index code answers =>
    obtain ⟨begun, _, performed⟩ := Option.bind_eq_some_iff.mp performed
    rw [Option.ite_none_left_eq_some, Option.some.injEq] at performed
    have erased : Notifies source { source with inFlight := source.inFlight.eraseIdx index } :=
      .of_same rfl rfl
    exact performed.2 ▸ erased.trans (handle_notifies _ begun.operation code answers)
  | expires index =>
    obtain ⟨wait, _, performed⟩ := Option.bind_eq_some_iff.mp performed
    rw [Option.ite_none_right_eq_some, Option.some.injEq] at performed
    exact performed.2 ▸ .of_same rfl rfl
  | timer index =>
    obtain ⟨wait, _, performed⟩ := Option.bind_eq_some_iff.mp performed
    have erased : Notifies source { source with waits := source.waits.eraseIdx index } :=
      .of_same rfl rfl
    cases wait with
    | armed delay => cases performed
    | queued =>
      cases performed
      exact erased.trans (onReconnectTimer_notifies _)
    | aborted =>
      cases performed
      exact erased

/-! ## The feed -/

/-- The feed's state is what it heard, and the source's agrees with what it said. -/
structure InStep (feed : PendingFeed) : Prop where
  listened : feed.state = heard feed.wsSource.published
  tracks : Tracks feed.wsSource

theorem forward_inStep {event : WsSource.Event} (inStep : InStep feed)
    (forwarded : feed.forward event = some next) : InStep next := by
  obtain ⟨wsSource, performed, rfl⟩ := Option.map_eq_some_iff.mp forwarded
  obtain ⟨⟨later, grown⟩, tracks⟩ := perform_notifies performed
  refine ⟨?_, tracks inStep.tracks⟩
  rw [PendingFeed.observe, ← grown, List.drop_left, inStep.listened, heard, heard,
    List.foldl_append]

theorem perform_inStep {event : FeedEvent} (inStep : InStep feed)
    (performed : feed.perform event = some next) : InStep next := by
  cases event with
  | opens =>
    rw [PendingFeed.perform, PendingFeed.open] at performed
    split at performed
    · cases performed
      exact inStep
    · exact forward_inStep inStep performed
  | closes isOpen =>
    rw [PendingFeed.perform, PendingFeed.close] at performed
    split at performed
    · cases performed
      exact inStep
    · exact forward_inStep inStep performed
  | _ => exact forward_inStep inStep performed

/-- A feed in step is closed over a source that is not stopped exactly while that source
starts up. -/
theorem InStep.closed_live_iff (inStep : InStep feed) :
    feed.state = .closed ∧ feed.wsSource.state ≠ .stopped ↔
      phaseOf feed.wsSource.published = .startingUp := by
  have agrees : feed.wsSource.state = .stopped ↔ phaseOf feed.wsSource.published = .idle :=
    inStep.tracks
  rw [inStep.listened, heard_closed_iff, ne_eq (feed.wsSource.state), agrees]
  cases phaseOf feed.wsSource.published <;> simp

/-! ## Interleavings -/

/-- A feed from its constructor on, under calls and notifications in any order. -/
def interleavings : Machine PendingFeed FeedEvent where
  initial feed := ∃ useTls verifyTlsPeer, feed = { wsSource := { useTls, verifyTlsPeer } }
  step before event after := before.perform event = some after

theorem initial_inStep (fresh : interleavings.initial feed) : InStep feed := by
  obtain ⟨useTls, verifyTlsPeer, rfl⟩ := fresh
  exact ⟨rfl, by simp [Tracks, phaseOf]⟩

/-- A call of `close` that returns early finds the source stopped. -/
def CloseEffective (taken : Machine.Step PendingFeed FeedEvent) : Prop :=
  ∀ isOpen, taken.label = .closes isOpen → taken.before.state = .closed →
    taken.before.wsSource.state = .stopped

/-- The call does not come while the source starts up out of a stop: between the start
and the first word of success or failure. -/
def AfterStartUp (taken : Machine.Step PendingFeed FeedEvent) : Prop :=
  ∀ isOpen, taken.label = .closes isOpen →
    phaseOf taken.before.wsSource.published ≠ .startingUp

/-- A closed feed's source neither connects, nor has a stream, nor will reconnect. -/
def ClosedIdle (feed : PendingFeed) : Prop :=
  feed.state = .closed → feed.wsSource.state = .stopped ∧
    (∀ begun ∈ feed.wsSource.inFlight, begun.cancelled = true) ∧
    feed.wsSource.connecting = false ∧ ∀ wait ∈ feed.wsSource.waits, wait = .aborted

/-- The step is a call that asks for a connection. -/
def AsksToConnect (event : FeedEvent) : Prop := event = .opens ∨ ∃ isOpen, event = .reopens isOpen

/-- A feed as it was constructed: everything is off until it is opened. -/
def Untouched (feed : PendingFeed) : Prop := interleavings.initial feed

theorem Untouched.closedIdle (untouched : Untouched feed) : ClosedIdle feed := by
  obtain ⟨useTls, verifyTlsPeer, rfl⟩ := untouched
  intro _
  simp

/-- What a feed that was never opened does: nothing, unless it is asked to connect, and
then its source starts behind its back. -/
theorem untouched_step {event : FeedEvent} (untouched : Untouched feed)
    (performed : feed.perform event = some next) :
    (ClosedIdle next ↔ ¬AsksToConnect event) ∧ (ClosedIdle next → Untouched next) := by
  obtain ⟨useTls, verifyTlsPeer, rfl⟩ := untouched
  have idle : Untouched { wsSource := { useTls, verifyTlsPeer } } := ⟨useTls, verifyTlsPeer, rfl⟩
  cases event with
  | opens =>
    cases performed
    have starting : ¬ClosedIdle (PendingFeed.observe { wsSource := { useTls, verifyTlsPeer } }
        ({ useTls, verifyTlsPeer } : WsSource).start) := by
      intro closedIdle
      cases (closedIdle rfl).1
    exact ⟨⟨fun closedIdle => absurd closedIdle starting, fun apart => absurd (.inl rfl) apart⟩,
      fun closedIdle => absurd closedIdle starting⟩
  | closes isOpen =>
    cases performed
    refine ⟨⟨fun _ => ?_, fun _ => idle.closedIdle⟩, fun _ => idle⟩
    rintro (isOpens | ⟨_, isReopens⟩)
    · cases isOpens
    · cases isReopens
  | reopens isOpen =>
    cases isOpen with
    | true => cases performed
    | false =>
      cases performed
      have starting : ¬ClosedIdle (PendingFeed.observe { wsSource := { useTls, verifyTlsPeer } }
          (({ useTls, verifyTlsPeer } : WsSource).restart false)) := by
        intro closedIdle
        cases (closedIdle rfl).1
      exact ⟨⟨fun closedIdle => absurd closedIdle starting,
        fun apart => absurd (.inr ⟨false, rfl⟩) apart⟩,
        fun closedIdle => absurd closedIdle starting⟩
  | completes index code answers => cases performed
  | expires index => cases performed
  | timer index => cases performed

/-- **When closing works.** In every interleaving of the feed's calls with its source's
notifications: each early return of `close` finds the source stopped if and only if no
call of `close` comes while the source starts up; and the feed is closed only over an
idle source in every state if and only if it is never opened or reopened. -/
theorem close_effective_iff_after_start_up {start : PendingFeed}
    {path : List (Machine.Step PendingFeed FeedEvent)} (fresh : interleavings.initial start)
    (steps : interleavings.Steps start path) :
    ((∀ taken ∈ path, CloseEffective taken) ↔ ∀ taken ∈ path, AfterStartUp taken) ∧
      ((ClosedIdle start ∧ ∀ taken ∈ path, ClosedIdle taken.after) ↔
        ∀ taken ∈ path, ¬AsksToConnect taken.label) := by
  constructor
  · refine Steps.good_iff InStep CloseEffective AfterStartUp steps (initial_inStep fresh) ?_
    intro taken _ inStep performed
    refine ⟨?_, fun _ => perform_inStep inStep performed⟩
    have lost := inStep.closed_live_iff
    constructor
    · intro effective isOpen isClose startingUp
      obtain ⟨closed, live⟩ := lost.mpr startingUp
      exact live (effective isOpen isClose closed)
    · intro later isOpen isClose closed
      by_contra live
      exact later isOpen isClose (lost.mp ⟨closed, live⟩)
  · have untouched : Untouched start := fresh
    rw [and_iff_right untouched.closedIdle]
    refine Steps.good_iff Untouched (fun taken => ClosedIdle taken.after)
      (fun taken => ¬AsksToConnect taken.label) steps untouched ?_
    intro taken _ isUntouched performed
    exact untouched_step isUntouched performed

/-! ## A feed that is closed twice -/

def constructed : PendingFeed where
  wsSource := { useTls := false, verifyTlsPeer := true }

/-- Opened, and the source is resolving the host. -/
def resolving : PendingFeed := constructed.observe constructed.wsSource.start

/-- What the next completion makes of a feed, when it succeeds. -/
def succeeded (feed : PendingFeed) (operation : Operation) : PendingFeed :=
  feed.observe ({ feed.wsSource with inFlight := [] }.handle operation .none {})

def shakingHands : PendingFeed := succeeded (succeeded resolving .resolve) .connect

def streaming : PendingFeed := succeeded shakingHands .wsHandshake

/-- Closed once before it is opened and once when its stream is open. -/
def closedPath : List (Machine.Step PendingFeed FeedEvent) :=
  [⟨constructed, .closes false, constructed⟩, ⟨constructed, .opens, resolving⟩,
    ⟨resolving, .completes 0 .none {}, succeeded resolving .resolve⟩,
    ⟨succeeded resolving .resolve, .completes 0 .none {}, shakingHands⟩,
    ⟨shakingHands, .completes 0 .none {}, streaming⟩,
    ⟨streaming, .closes true, streaming.observe (streaming.wsSource.stop true)⟩]

theorem close_effective_on_open_stream :
    interleavings.Steps constructed closedPath ∧ ∀ taken ∈ closedPath, CloseEffective taken := by
  have steps : interleavings.Steps constructed closedPath :=
    .step rfl (.step rfl (.step rfl (.step rfl (.step rfl (.step rfl .done)))))
  refine ⟨steps, (close_effective_iff_after_start_up ⟨false, true, rfl⟩ steps).1.mpr ?_⟩
  intro taken member isOpen isClose
  simp only [closedPath, List.mem_cons, List.not_mem_nil, or_false] at member
  rcases member with rfl | rfl | rfl | rfl | rfl | rfl
  · decide
  · cases isClose
  · cases isClose
  · cases isClose
  · cases isClose
  · decide

/-- **A close during start-up is lost.** The feed is opened and, before the handshake is
over, closed: the call returns at once, the source is starting, and when its three
operations succeed the closed feed streams. -/
theorem close_lost_during_start_up :
    interleavings.Run [.opens] resolving ∧
      resolving.state = .closed ∧ resolving.wsSource.state = .starting ∧
      resolving.perform (.closes false) = some resolving ∧
      interleavings.Leads resolving [.closes false, .completes 0 .none {}, .completes 0 .none {},
        .completes 0 .none {}] streaming ∧
      streaming.state = .opened ∧ streaming.wsSource.state = .running := by
  have begins : interleavings.Run [] constructed := .start ⟨false, true, rfl⟩
  refine ⟨.step begins rfl, rfl, rfl, rfl, ?_, rfl, rfl⟩
  exact .step rfl (.step rfl (.step rfl (.step rfl .done)))

end DexKnight.ClosedFeed
