import DexKnight.Core.Runtime

/-! Knight and the builder together: Knight's worker with its requests, Knight's
core loop with its exchanges, and other clients of the builder, in any interleaving.
The builder's handlers do not interleave with each other, so each is one step. -/
namespace DexKnight.Core.Deployment
open Core.Types Core.Wire Core.Codec Core.CandidateState Core.Runtime
open BlockBuilder (Answers Block Builder PyError Transaction chainCall submitPrivateBundle
  simulatePrivateBundle)

/-- What Knight's worker is doing: waiting for an event, or reading the reserves of
one pool after another at a new block. -/
inductive Worker
  | idle
  | reading (blockNumber : UInt64) (answers : List (Option Body))

structure System where
  builder : Builder
  source : CandidateSource
  worker : Worker := .idle
  loop : Loop

/-- One step of one party, with everything the environment chooses in it. -/
inductive Event
  | addTransaction (transaction : Transaction) (uuid now : String)
  | otherBundle (simulated : Bool) (answers : Answers) (now : String) (payload : Fields)
  | newBlock (blockNumber : UInt64)
  | readPool (arrives : Bool)
  | finishBlock (requestSnapshot : Option Body)
  | pendingTx (tx : PendingTransaction)
  | close
  | pop
  | exchange (transport : Transport) (answers : Answers) (now : String)

namespace System

variable (lib : Libraries) (ethCall : List Block → List (String × String) → Except PyError String)

/-- `request_chain_call` for the reserves of a pool: nothing when every attempt
failed. -/
def reserveAnswer (system : System) (pool : Pool) (blockNumber : UInt64) (arrives : Bool) :
    Option Body :=
  if arrives then
    (readResponse (chainCall ethCall (CandidateSource.reservesPayload pool blockNumber)
      system.builder.node)).toOption
  else
    none

/-- A bundle of another client. -/
def handleOther (system : System) (simulated : Bool) (answers : Answers) (now : String)
    (payload : Fields) : Builder :=
  if simulated then (simulatePrivateBundle answers payload system.builder).2
  else (submitPrivateBundle answers now payload system.builder).2

/-- One exchange of the core loop. -/
def exchangeWith (system : System) (handler : Handler) (bundle : Bundle) (transport : Transport)
    (answers : Answers) (now : String) : System :=
  let (result, world) := post handler (Bundle.toJson lib bundle) { transport, answers, now }
    { builder := system.builder }
  { system with builder := world.builder, loop := system.loop.proceed lib result }

/-- `none` when the party cannot take the step now. -/
def perform (system : System) : Event → Option System
  | .addTransaction transaction uuid now =>
    some { system with builder := { system.builder with
      mempool := (system.builder.mempool.addTransaction transaction uuid now).2 } }
  | .otherBundle simulated answers now payload =>
    some { system with builder := system.handleOther simulated answers now payload }
  | .newBlock blockNumber =>
    match system.worker with
    | .idle => some { system with worker := .reading blockNumber [] }
    | .reading _ _ => none
  | .readPool arrives =>
    match system.worker with
    | .idle => none
    | .reading blockNumber answers =>
      system.source.pools[answers.length]?.map fun pool => { system with
        worker := .reading blockNumber
          (answers ++ [system.reserveAnswer ethCall pool blockNumber arrives]) }
  | .finishBlock requestSnapshot =>
    match system.worker with
    | .idle => none
    | .reading blockNumber answers =>
      some { system with
        source := system.source.handleNewBlockEvent lib blockNumber
          (fun index _ => answers[index]?.getD none) requestSnapshot
        worker := .idle }
  | .pendingTx tx =>
    match system.worker with
    | .idle => some { system with source := system.source.handlePendingTxEvent tx }
    | .reading _ _ => none
  | .close => some { system with source := system.source.closeStateWaiters }
  | .pop =>
    match system.loop.phase with
    | .waiting =>
      system.source.waitPopState.map fun (result, source) =>
        match result with
        | .ok state => { system with source, loop := system.loop.receive lib state }
        | .error _ => { system with source }
    | _ => none
  | .exchange transport answers now =>
    match system.loop.phase with
    | .waiting => none
    | .simulating _ bundle _ =>
      some (system.exchangeWith lib simulationHandler bundle transport answers now)
    | .submitting _ bundle _ =>
      some (system.exchangeWith lib submissionHandler bundle transport answers now)

end System

end DexKnight.Core.Deployment
