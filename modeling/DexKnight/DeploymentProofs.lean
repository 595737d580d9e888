import DexKnight.BundleWire
import DexKnight.SourceCoherence
import DexKnight.Core.Deployment

/-! What one step of Knight and the builder together can do, and what of it the chain
and the core loop show: handlers only append to the chain, and the loop carries one
state with the bundle computed from it until it lets both go. -/
namespace DexKnight.DeploymentProofs
open Core.Types Core.Wire Core.Codec Core.CandidateState Core.Runtime Core.Deployment BuilderProofs
  Support.Runs
open Core.BlockBuilder (Answers Block Builder PyError Transaction submitPrivateBundle
  simulatePrivateBundle)

variable {lib : Libraries} {ethCall : List Block → List (String × String) → Except PyError String}
  {system after : System}

/-- What a step did, with the condition under which its party could take it. -/
inductive Performed (lib : Libraries)
    (ethCall : List Block → List (String × String) → Except PyError String) (system : System) :
    Event → System → Prop
  | addTransaction (transaction : Transaction) (uuid now : String) :
      Performed lib ethCall system (.addTransaction transaction uuid now)
        { system with builder := { system.builder with
          mempool := (system.builder.mempool.addTransaction transaction uuid now).2 } }
  | otherBundle (simulated : Bool) (answers : Answers) (now : String) (payload : Fields) :
      Performed lib ethCall system (.otherBundle simulated answers now payload)
        { system with builder := system.handleOther simulated answers now payload }
  | newBlock (blockNumber : UInt64) : system.worker = .idle →
      Performed lib ethCall system (.newBlock blockNumber)
        { system with worker := .reading blockNumber [] }
  | readPool {blockNumber : UInt64} {answers : List (Option Body)} {pool : Pool} (arrives : Bool) :
      system.worker = .reading blockNumber answers →
      system.source.pools[answers.length]? = some pool →
      Performed lib ethCall system (.readPool arrives) { system with
        worker := .reading blockNumber
          (answers ++ [system.reserveAnswer ethCall pool blockNumber arrives]) }
  | finishBlock {blockNumber : UInt64} {answers : List (Option Body)}
      (requestSnapshot : Option Body) : system.worker = .reading blockNumber answers →
      Performed lib ethCall system (.finishBlock requestSnapshot) { system with
        source := system.source.handleNewBlockEvent lib blockNumber
          (fun index _ => answers[index]?.getD none) requestSnapshot
        worker := .idle }
  | pendingTx (tx : PendingTransaction) : system.worker = .idle →
      Performed lib ethCall system (.pendingTx tx)
        { system with source := system.source.handlePendingTxEvent tx }
  | close : Performed lib ethCall system .close
      { system with source := system.source.closeStateWaiters }
  | popped {state : StateSnapshot} {source : CandidateSource} : system.loop.phase = .waiting →
      system.source.waitPopState = some (.ok state, source) →
      Performed lib ethCall system .pop
        { system with source, loop := system.loop.receive lib state }
  | closed {error : Core.CandidateState.Error} {source : CandidateSource} :
      system.loop.phase = .waiting →
      system.source.waitPopState = some (.error error, source) →
      Performed lib ethCall system .pop { system with source }
  | simulated {state : StateSnapshot} {bundle : Bundle} {attempts : Nat} (transport : Transport)
      (answers : Answers) (now : String) : system.loop.phase = .simulating state bundle attempts →
      Performed lib ethCall system (.exchange transport answers now)
        (system.exchangeWith lib simulationHandler bundle transport answers now)
  | submitted {state : StateSnapshot} {bundle : Bundle} {attempts : Nat} (transport : Transport)
      (answers : Answers) (now : String) : system.loop.phase = .submitting state bundle attempts →
      Performed lib ethCall system (.exchange transport answers now)
        (system.exchangeWith lib submissionHandler bundle transport answers now)

/-- Everything one step can do. -/
theorem perform_performed {event : Event} (performed : system.perform lib ethCall event = some after) :
    Performed lib ethCall system event after := by
  cases event with
  | addTransaction transaction uuid now =>
    cases performed
    exact .addTransaction transaction uuid now
  | otherBundle simulated answers now payload =>
    cases performed
    exact .otherBundle simulated answers now payload
  | newBlock blockNumber =>
    rw [System.perform] at performed
    split at performed
    · next isIdle =>
      cases performed
      exact .newBlock blockNumber isIdle
    · cases performed
  | readPool arrives =>
    rw [System.perform] at performed
    split at performed
    · cases performed
    · next isReading =>
      obtain ⟨pool, isNext, same⟩ := Option.map_eq_some_iff.mp performed
      cases same
      exact .readPool arrives isReading isNext
  | finishBlock requestSnapshot =>
    rw [System.perform] at performed
    split at performed
    · cases performed
    · next isReading =>
      cases performed
      exact .finishBlock requestSnapshot isReading
  | pendingTx tx =>
    rw [System.perform] at performed
    split at performed
    · next isIdle =>
      cases performed
      exact .pendingTx tx isIdle
    · cases performed
  | close =>
    cases performed
    exact .close
  | pop =>
    rw [System.perform] at performed
    split at performed
    · next isWaiting =>
      obtain ⟨⟨result, source⟩, returned, same⟩ := Option.map_eq_some_iff.mp performed
      cases result with
      | ok state =>
        cases same
        exact .popped isWaiting returned
      | error error =>
        cases same
        exact .closed isWaiting returned
    · cases performed
  | exchange transport answers now =>
    rw [System.perform] at performed
    split at performed
    · cases performed
    · next isSimulating =>
      cases performed
      exact .simulated transport answers now isSimulating
    · next isSubmitting =>
      cases performed
      exact .submitted transport answers now isSubmitting

/-- The deployment from its start: a builder as it is then, a new candidate source, and
a composer that has been initialised. -/
def deployment (lib : Libraries)
    (ethCall : List Block → List (String × String) → Except PyError String) (pools : List Pool) :
    Machine System Event where
  initial system := system.source = { pools } ∧ system.worker = .idle ∧ system.loop.phase = .waiting
  step system event after := system.perform lib ethCall event = some after

/-- The deployment from one known start. -/
def deploymentFrom (lib : Libraries)
    (ethCall : List Block → List (String × String) → Except PyError String) (start : System) :
    Machine System Event where
  initial system := system = start
  step system event after := system.perform lib ethCall event = some after

/-- A run goes on by one event. -/
theorem run_event {start : System} {events : List Event}
    (run : (deploymentFrom lib ethCall start).Run events system) (event : Event)
    (performed : system.perform lib ethCall event = some after) :
    (deploymentFrom lib ethCall start).Run (events ++ [event]) after :=
  run.step performed

/-! What the loop's steps come to when their conditions are known. -/

theorem perform_pop {state : StateSnapshot} {source : CandidateSource}
    (isWaiting : system.loop.phase = .waiting)
    (returned : system.source.waitPopState = some (.ok state, source)) :
    system.perform lib ethCall .pop =
      some { system with source, loop := system.loop.receive lib state } := by
  rw [System.perform, isWaiting, returned]
  rfl

theorem perform_simulation {state : StateSnapshot} {bundle : Bundle} {attempts : Nat}
    (isSimulating : system.loop.phase = .simulating state bundle attempts) (transport : Transport)
    (answers : Answers) (now : String) :
    system.perform lib ethCall (.exchange transport answers now) =
      some (system.exchangeWith lib simulationHandler bundle transport answers now) := by
  rw [System.perform, isSimulating]

theorem perform_submission {state : StateSnapshot} {bundle : Bundle} {attempts : Nat}
    (isSubmitting : system.loop.phase = .submitting state bundle attempts) (transport : Transport)
    (answers : Answers) (now : String) :
    system.perform lib ethCall (.exchange transport answers now) =
      some (system.exchangeWith lib submissionHandler bundle transport answers now) := by
  rw [System.perform, isSubmitting]

/-! ## Exchanges -/

section Exchange

variable {handler : Handler} {bundle : Bundle} {transport : Transport} {answers : Answers}
  {now : String}

/-- The builder sees the request. -/
def Reaches : Transport → Prop
  | .requestLost _ => False
  | _ => True

/-- What becomes of an answer on its way back. -/
def delivered : Transport → Core.BlockBuilder.Response → Except RestError Body
  | .requestLost error, _ => .error error
  | .responseLost error, _ => .error error
  | .garbled body, response => (readResponse response).map fun _ => body
  | .arrives, response => readResponse response

theorem exchangeWith_requestLost (error : RestError) :
    system.exchangeWith lib handler bundle (.requestLost error) answers now =
      { system with loop := system.loop.proceed lib (.error error) } := rfl

/-- An exchange the builder handles. -/
theorem exchangeWith_handled {response : Core.BlockBuilder.Response} {builder : Builder}
    (reaches : Reaches transport)
    (handled : handler answers now (Bundle.toJson lib bundle) system.builder = (response, builder)) :
    system.exchangeWith lib handler bundle transport answers now =
      { system with builder, loop := system.loop.proceed lib (delivered transport response) } := by
  cases transport with
  | requestLost error => exact reaches.elim
  | responseLost error => simp only [System.exchangeWith, post, World.handle, id, handled, delivered]
  | garbled body => simp only [System.exchangeWith, post, World.handle, id, handled, delivered]
  | arrives => simp only [System.exchangeWith, post, World.handle, id, handled, delivered]

/-- No failure is delivered as a success. -/
theorem delivered_failed {response : Core.BlockBuilder.Response} (failed : Response.failed response) :
    ∃ error, delivered transport response = .error error := by
  cases response with
  | ok body => exact failed.elim
  | error statusCode detail =>
    cases transport with
    | requestLost error => exact ⟨error, rfl⟩
    | responseLost error => exact ⟨error, rfl⟩
    | garbled body => exact ⟨_, rfl⟩
    | arrives => exact ⟨_, rfl⟩

/-- What the loop keeps between exchanges. -/
def held : Phase → Option (StateSnapshot × Bundle)
  | .waiting => none
  | .simulating state bundle _ => some (state, bundle)
  | .submitting state bundle _ => some (state, bundle)

/-- After a response the loop holds what it held, or nothing. -/
theorem proceed_held (loop : Loop) (result : Except RestError Body) :
    held (loop.proceed lib result).phase = none ∨
      held (loop.proceed lib result).phase = held loop.phase := by
  unfold Loop.proceed
  cases isPhase : loop.phase with
  | waiting => exact .inl (by rw [isPhase]; rfl)
  | simulating state bundle attempts =>
    dsimp only
    cases afterAttempt (attempts - 1) result with
    | none => exact .inr rfl
    | some outcome =>
      dsimp only
      cases readResult (BundleSimulationResult.fromJson lib) outcome with
      | error error => exact .inl rfl
      | ok simulation =>
        dsimp only
        split
        · exact .inr rfl
        · exact .inl rfl
  | submitting state bundle attempts =>
    dsimp only
    cases afterAttempt (attempts - 1) result with
    | none => exact .inr rfl
    | some outcome =>
      dsimp only
      cases readResult (BundleResult.fromJson lib) outcome with
      | error error => exact .inl rfl
      | ok submission => exact .inl rfl

/-- A failed exchange leaves the composer alone. -/
theorem proceed_error (loop : Loop) (error : RestError) :
    (loop.proceed lib (.error error)).composer = loop.composer := by
  have unread : ∀ {α : Type} (fromJson : Json → Option α) {remaining : Nat} {outcome},
      afterAttempt remaining (.error error) = some outcome →
      ∃ reason, readResult fromJson outcome = .error reason := by
    intro α fromJson remaining outcome isOutcome
    unfold afterAttempt at isOutcome
    split at isOutcome
    · next impossible => cases impossible
    · cases isOutcome
      exact ⟨_, rfl⟩
    · split at isOutcome
      · cases isOutcome
        exact ⟨_, rfl⟩
      · cases isOutcome
  unfold Loop.proceed
  cases loop.phase with
  | waiting => rfl
  | simulating state bundle attempts =>
    dsimp only
    cases isOutcome : afterAttempt (attempts - 1) (.error error) with
    | none => rfl
    | some outcome =>
      obtain ⟨reason, isError⟩ := unread (BundleSimulationResult.fromJson lib) isOutcome
      dsimp only
      rw [isError]
  | submitting state bundle attempts =>
    dsimp only
    cases isOutcome : afterAttempt (attempts - 1) (.error error) with
    | none => rfl
    | some outcome =>
      obtain ⟨reason, isError⟩ := unread (BundleResult.fromJson lib) isOutcome
      dsimp only
      rw [isError]

/-- A simulation leaves the composer alone. -/
theorem proceed_simulation {loop : Loop} {state : StateSnapshot} {attempts : Nat}
    (isSimulating : loop.phase = .simulating state bundle attempts) (result : Except RestError Body) :
    (loop.proceed lib result).composer = loop.composer := by
  unfold Loop.proceed
  rw [isSimulating]
  dsimp only
  cases afterAttempt (attempts - 1) result with
  | none => rfl
  | some outcome =>
    dsimp only
    cases readResult (BundleSimulationResult.fromJson lib) outcome with
    | error error => rfl
    | ok simulation =>
      dsimp only
      split
      · rfl
      · rfl

/-- A submission that is answered and read uses up the nonce. -/
theorem proceed_submitted {loop : Loop} {state : StateSnapshot} {attempts : Nat} {body : Json}
    {submission : BundleResult} (isSubmitting : loop.phase = .submitting state bundle attempts)
    (read : BundleResult.fromJson lib body = some submission) :
    loop.proceed lib (.ok (some body)) =
      { composer := loop.composer.markNonceUsed, phase := .waiting } := by
  simp only [Loop.proceed, isSubmitting, afterAttempt, readResult, read]

/-- What the loop holds after it received a state. -/
theorem receive_held (loop : Loop) (state : StateSnapshot) :
    held (loop.receive lib state).phase =
      (bundleOf lib loop.composer state).map fun bundle => (state, bundle) := by
  unfold Loop.receive
  cases bundleOf lib loop.composer state with
  | none => rfl
  | some bundle => rfl

theorem receive_bundle {loop : Loop} {state : StateSnapshot}
    (composed : bundleOf lib loop.composer state = some bundle) :
    loop.receive lib state = { loop with phase := .simulating state bundle kMaxAttempts } := by
  rw [Loop.receive, composed]

/-- A simulation that reports the bundle included. -/
theorem proceed_included {loop : Loop} {state : StateSnapshot} {attempts : Nat} {body : Json}
    {simulation : BundleSimulationResult}
    (isSimulating : loop.phase = .simulating state bundle attempts)
    (read : BundleSimulationResult.fromJson lib body = some simulation)
    (included : simulation.status = .included) :
    loop.proceed lib (.ok (some body)) =
      { loop with phase := .submitting state bundle kMaxAttempts } := by
  simp only [Loop.proceed, isSimulating, afterAttempt, readResult, read, included, ↓reduceIte]

/-- A bundle is for the block of its state. -/
theorem bundleOf_blockNumber {composer : TxComposer} {state : StateSnapshot}
    (composed : bundleOf lib composer state = some bundle) :
    bundle.blockNumber = state.blockNumber := by
  obtain ⟨⟨candidate, opportunity⟩, _, composed⟩ := Option.bind_eq_some_iff.mp composed
  obtain ⟨backrunTx, _, composed⟩ := Option.bind_eq_some_iff.mp composed
  cases composed
  rfl

end Exchange

/-! ## The chain -/

theorem handleOther_blocks (system : System) (simulated : Bool) (answers : Answers) (now : String)
    (payload : Fields) :
    system.builder.node.blocks <+: (system.handleOther simulated answers now payload).node.blocks := by
  unfold System.handleOther
  cases simulated with
  | true => exact (simulatePrivateBundle_outcome answers payload system.builder).blocks
  | false => exact (submitPrivateBundle_outcome answers now payload system.builder).blocks

theorem exchangeWith_blocks {handler : Handler} {bundle : Bundle} {answers : Answers} {now : String}
    (appends : system.builder.node.blocks <+:
      (handler answers now (Bundle.toJson lib bundle) system.builder).2.node.blocks)
    (transport : Transport) :
    system.builder.node.blocks <+:
      (system.exchangeWith lib handler bundle transport answers now).builder.node.blocks := by
  cases transport with
  | requestLost error => exact List.prefix_refl _
  | responseLost error => exact appends
  | garbled body => exact appends
  | arrives => exact appends

/-- Every step only appends to the chain. -/
theorem performed_blocks {event : Event} (performed : Performed lib ethCall system event after) :
    system.builder.node.blocks <+: after.builder.node.blocks := by
  cases performed with
  | otherBundle simulated answers now payload =>
    exact handleOther_blocks system simulated answers now payload
  | simulated transport answers now isSimulating =>
    exact exchangeWith_blocks (simulatePrivateBundle_outcome answers _ system.builder).blocks transport
  | submitted transport answers now isSubmitting =>
    exact exchangeWith_blocks (submitPrivateBundle_outcome answers now _ system.builder).blocks transport
  | addTransaction => exact List.prefix_refl _
  | newBlock => exact List.prefix_refl _
  | readPool => exact List.prefix_refl _
  | finishBlock => exact List.prefix_refl _
  | pendingTx => exact List.prefix_refl _
  | close => exact List.prefix_refl _
  | popped => exact List.prefix_refl _
  | closed => exact List.prefix_refl _

end DexKnight.DeploymentProofs
