import DexKnight.Core.BlockBuilder
import DexKnight.Core.Calculator
import DexKnight.Core.CandidateState

/-! Knight's consumer side: the REST client and its retries, the simulator, the
composer of backrun transactions with its nonce, and the core loop. An exchange with
the builder may fail on the way there, on the way back, or bring another body than
was sent; other clients may act before the builder handles it. -/
namespace DexKnight.Core.Runtime
open Core.Types Wire Codec CandidateState Calculator
open BlockBuilder (Answers Response Builder submitPrivateBundle simulatePrivateBundle)

/-! ## `rest_client.cpp` -/

/-- `network::RestError`. -/
inductive RestError
  | unknownError
  | resolveError
  | connectError
  | sslHandshakeError
  | httpWriteError
  | httpReadError
  | badStatus
  | conflict
  | shutdownError
  deriving DecidableEq, Repr

/-- `builder::Error`. -/
inductive Error
  | requestError
  | timeout
  | invalidResponse
  | candidateNotPending
  deriving DecidableEq, Repr

/-- What `post` makes of a response that arrives. -/
def readResponse : Response → Except RestError Body
  | .ok body => .ok (some body)
  | .error statusCode _ => .error (if statusCode = 409 then .conflict else .badStatus)

def kMaxAttempts : Nat := 3

/-- One round of `post_with_retry`: its outcome, or nothing while it retries. -/
def afterAttempt (remaining : Nat) : Except RestError Body → Option (Except Error Body)
  | .ok body => some (.ok body)
  | .error .conflict => some (.error .candidateNotPending)
  | .error _ => if remaining = 0 then some (.error .requestError) else none

/-- `post_with_retry`, over whatever a request can change. Attempts are numbered from
the last one, which is 0. -/
def postWithRetry {σ : Type} (post : Nat → σ → Except RestError Body × σ) :
    Nat → σ → Except Error Body × σ
  | 0, world => (.error .requestError, world)
  | remaining + 1, world =>
    let (result, world) := post remaining world
    match afterAttempt remaining result with
    | some outcome => (outcome, world)
    | none => postWithRetry post remaining world

/-! ## Exchanges -/

/-- The fate of one exchange. -/
inductive Transport
  /-- The builder never sees the request. -/
  | requestLost (error : RestError)
  /-- The builder handles the request, and its answer does not arrive. -/
  | responseLost (error : RestError)
  /-- A good answer arrives with another body. -/
  | garbled (body : Body)
  | arrives

structure Exchange where
  /-- What others do before the builder handles the request. -/
  meanwhile : Builder → Builder := id
  transport : Transport
  answers : Answers
  now : String

/-- The builder as one client sees it. -/
structure World where
  builder : Builder
  /-- The builder before and after each request it handled. Nothing reads it. -/
  handled : List (Builder × Builder) := []

/-- A request the builder handles. -/
abbrev Handler := Answers → String → Fields → Builder → Response × Builder

def World.handle (world : World) (handler : Handler) (exchange : Exchange) (payload : Fields) :
    Response × World :=
  let (response, builder) := handler exchange.answers exchange.now payload world.builder
  (response, { builder, handled := world.handled ++ [(world.builder, builder)] })

/-- One `post` of the network client. -/
def post (handler : Handler) (payload : Fields) (exchange : Exchange) (world : World) :
    Except RestError Body × World :=
  let world := { world with builder := exchange.meanwhile world.builder }
  match exchange.transport with
  | .requestLost error => (.error error, world)
  | .responseLost error => (.error error, (world.handle handler exchange payload).2)
  | .garbled body =>
    let (response, world) := world.handle handler exchange payload
    ((readResponse response).map fun _ => body, world)
  | .arrives =>
    let (response, world) := world.handle handler exchange payload
    (readResponse response, world)

/-- `/private/bundle/simulate`. -/
def simulationHandler : Handler := fun answers _ payload builder =>
  simulatePrivateBundle answers payload builder

/-- `/private/bundle`. -/
def submissionHandler : Handler := submitPrivateBundle

/-! ## `simulator.cpp` -/

/-- The end of both calls: the body must be JSON and parse. -/
def readResult {α : Type} (fromJson : Json → Option α) : Except Error Body → Except Error α
  | .error error => .error error
  | .ok none => .error .invalidResponse
  | .ok (some json) =>
    match fromJson json with
    | none => .error .invalidResponse
    | some result => .ok result

namespace Simulator

variable (lib : Libraries)

def simulate (exchanges : Nat → Exchange) (bundle : Bundle) (world : World) :
    Except Error BundleSimulationResult × World :=
  let (rawResponse, world) := postWithRetry
    (fun attempt => post simulationHandler (Bundle.toJson lib bundle) (exchanges attempt))
    kMaxAttempts world
  (readResult (BundleSimulationResult.fromJson lib) rawResponse, world)

def submit (exchanges : Nat → Exchange) (bundle : Bundle) (world : World) :
    Except Error BundleResult × World :=
  let (rawResponse, world) := postWithRetry
    (fun attempt => post submissionHandler (Bundle.toJson lib bundle) (exchanges attempt))
    kMaxAttempts world
  (readResult (BundleResult.fromJson lib) rawResponse, world)

end Simulator

/-! ## `encoder.cpp` and `decoder.cpp` -/

/-- `intx::be::store` into one word. -/
def uint256Word (value : Uint256) : Bytes :=
  (List.range kWordSize).map fun index =>
    UInt8.ofNat (value.toNat / 256 ^ (kWordSize - 1 - index) % 256)

/-- `append_address_word`. -/
def addressWord (address : Bytes) : Option Bytes :=
  if address.length = kAddressLength then
    some (List.replicate (kWordSize - kAddressLength) 0 ++ address)
  else
    none

/-- `ExecuteBackrun::kSelector`. -/
def executeBackrunSelector : Bytes := [0x21, 0x2c, 0x22, 0xbe]

def encodeExecuteBackrun (opportunity : Opportunity) : Option Bytes := do
  let buyPool ← addressWord opportunity.buyPool.address
  let sellPool ← addressWord opportunity.sellPool.address
  some (executeBackrunSelector ++ buyPool ++ sellPool ++ uint256Word opportunity.amountInB ++
    uint256Word opportunity.minAmountOutA ++ uint256Word opportunity.minAmountOutB ++
    uint256Word opportunity.minProfitB)

def decodeSwap (lib : Libraries) (candidate : Candidate) : Option Swap := do
  let input := candidate.tx.input
  if input.length ≤ kSelectorLength then none
  else
    let selector := input.take kSelectorLength
    let calldata := input.drop kSelectorLength
    match candidate.swapKind with
    | .aForB =>
      if selector ≠ CandidateFilter.swapExactAForBSelector then none
      else
        let decoded ← lib.decodePair calldata
        some (.swapExactAForB ⟨decoded.1, decoded.2⟩)
    | .bForA =>
      if selector ≠ CandidateFilter.swapExactBForASelector then none
      else
        let decoded ← lib.decodePair calldata
        some (.swapExactBForA ⟨decoded.1, decoded.2⟩)

/-! ## `tx_composer.cpp` -/

structure BackrunConfig where
  botAddress : Bytes
  contractAddress : Bytes
  chainId : UInt64 := 0
  gas : UInt64 := 700000
  maxFeePerGas : Uint256 := 2000000000
  maxPriorityFeePerGas : Uint256 := 1
  deriving DecidableEq, Repr

/-- `backrun::Error`. -/
inductive BackrunError
  | nonceRequestFailed
  | notInitialized
  | callEncodingFailed
  deriving DecidableEq, Repr

structure TxComposer where
  config : BackrunConfig
  nextNonce : Option UInt64 := none
  deriving DecidableEq, Repr

namespace TxComposer

/-- `request_nonce` on the answer it got: nothing when every attempt failed. -/
def requestNonce (response : Option Body) : Except Error UInt64 :=
  match response with
  | none => .error .requestError
  | some body =>
    match (parseToJsonObject body).bind fun json => jsonHexUint64 json "nonce" with
    | none => .error .invalidResponse
    | some nonce => .ok nonce

def refreshNonce (composer : TxComposer) (response : Option Body) :
    Except BackrunError TxComposer :=
  match requestNonce response with
  | .error _ => .error .nonceRequestFailed
  | .ok nonce => .ok { composer with nextNonce := some nonce }

def compose (composer : TxComposer) (opportunity : Opportunity) :
    Except BackrunError EvmTransaction :=
  match composer.nextNonce with
  | none => .error .notInitialized
  | some nonce =>
    match encodeExecuteBackrun opportunity with
    | none => .error .callEncodingFailed
    | some calldata => .ok {
        input := calldata
        source := composer.config.botAddress
        chainId := some composer.config.chainId
        value := 0
        gas := composer.config.gas
        maxFeePerGas := some composer.config.maxFeePerGas
        maxPriorityFeePerGas := some composer.config.maxPriorityFeePerGas
        nonce := nonce
        type := 2
        recipient := some composer.config.contractAddress }

def markNonceUsed (composer : TxComposer) : TxComposer :=
  { composer with nextNonce := composer.nextNonce.map (· + 1) }

end TxComposer

/-! ## `runtime.cpp` -/

def kTokenUnit : UInt64 := 1000000000000000000
def kMaxArbitrageAmountInBTokens : UInt64 := 1000000

/-- `make_default_arbitrage_params`. -/
def defaultParams : Params where
  maxAmountInB :=
    BitVec.ofNat 256 kMaxArbitrageAmountInBTokens.toNat * BitVec.ofNat 256 kTokenUnit.toNat
  minProfitB := 0
  minOutputBps := 0

/-- The part of an iteration before `compose` is called. -/
def opportunityOf (lib : Libraries) (state : StateSnapshot) : Option (Candidate × Opportunity) :=
  if state.valid then do
    let candidate ← state.candidate
    let swap ← decodeSwap lib candidate
    let opportunity ← findArbitrage state candidate swap defaultParams
    some (candidate, opportunity)
  else
    none

/-- The bundle of an iteration that gets as far as one. -/
def bundleOf (lib : Libraries) (composer : TxComposer) (state : StateSnapshot) : Option Bundle := do
  let (candidate, opportunity) ← opportunityOf lib state
  let backrunTx ← (composer.compose opportunity).toOption
  some {
    blockNumber := state.blockNumber
    transactions := [.mempoolTxRef candidate.tx.mempoolTxId, .transaction backrunTx] }

/-- Where the core loop is: waiting for a state, or with a bundle and its attempts
left in the simulation or the submission. -/
inductive Phase
  | waiting
  | simulating (state : StateSnapshot) (bundle : Bundle) (attempts : Nat)
  | submitting (state : StateSnapshot) (bundle : Bundle) (attempts : Nat)

structure Loop where
  composer : TxComposer
  phase : Phase := .waiting

namespace Loop

variable (lib : Libraries)

/-- `run_core_loop` up to its first request. -/
def receive (loop : Loop) (state : StateSnapshot) : Loop :=
  match bundleOf lib loop.composer state with
  | none => { loop with phase := .waiting }
  | some bundle => { loop with phase := .simulating state bundle kMaxAttempts }

/-- The rest of `run_core_loop`, one exchange at a time. -/
def proceed (loop : Loop) (result : Except RestError Body) : Loop :=
  match loop.phase with
  | .waiting => loop
  | .simulating state bundle attempts =>
    match afterAttempt (attempts - 1) result with
    | none => { loop with phase := .simulating state bundle (attempts - 1) }
    | some outcome =>
      match readResult (BundleSimulationResult.fromJson lib) outcome with
      | .error _ => { loop with phase := .waiting }
      | .ok simulation =>
        if simulation.status = .included then
          { loop with phase := .submitting state bundle kMaxAttempts }
        else
          { loop with phase := .waiting }
  | .submitting state bundle attempts =>
    match afterAttempt (attempts - 1) result with
    | none => { loop with phase := .submitting state bundle (attempts - 1) }
    | some outcome =>
      match readResult (BundleResult.fromJson lib) outcome with
      | .error _ => { loop with phase := .waiting }
      -- The nonce counts as used whatever the status of the bundle.
      | .ok _ => { composer := loop.composer.markNonceUsed, phase := .waiting }

end Loop

end DexKnight.Core.Runtime
