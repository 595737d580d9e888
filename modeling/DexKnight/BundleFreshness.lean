import DexKnight.DeploymentProofs

/-! A bundle is mined only on the state it was computed from. The reserves of a state
were read at its block, and the chain up to a block never changes once the block is
there; a bundle carries the block of its state; and the builder takes a bundle only
when that block is the head. So whatever happened between the reading and the mining,
the chain a bundle is executed on is the chain its reserves were read from. -/
namespace DexKnight.BundleFreshness
open Core.Types Core.Wire Core.Codec Core.CandidateState Core.Runtime Core.Deployment BuilderProofs
  SourceProofs SourceCoherence DeploymentProofs BundleWire WireProofs Support.Runs
open Core.BlockBuilder (Answers Block Builder PyError chainCall chainCallFromJson
  submitPrivateBundle)

variable {lib : Libraries} {ethCall : List Block → List (String × String) → Except PyError String}
  {pools : List Pool} {system after : System} {blocks longer : List Block} {blockNumber : UInt64}

/-! ## Reserves on the chain -/

/-- The reserves of a pool after a list of blocks: what `getReserves` returns there. -/
def reservesAt (lib : Libraries)
    (ethCall : List Block → List (String × String) → Except PyError String) (blocks : List Block)
    (pool : Pool) : Option PoolSnapshot :=
  match ethCall blocks [("to", hexData pool.address),
    ("data", hexData CandidateSource.getReservesSelector)] with
  | .ok result => PoolSnapshot.fromJson lib pool (.object [("result", .string result)])
  | .error _ => none

/-- The builder reads a reserve request as the call it is. -/
private theorem chainCallFromJson_reserves (pool : Pool) (blockNumber : UInt64) :
    chainCallFromJson (CandidateSource.reservesPayload pool blockNumber) =
      .ok ([("to", hexData pool.address), ("data", hexData CandidateSource.getReservesSelector)],
        hexQuantity blockNumber) := by
  have address : hexData pool.address ≠ "" := hex_ne_empty _
  have selector : hexData CandidateSource.getReservesSelector ≠ "" := hex_ne_empty _
  have block : hexQuantity blockNumber ≠ "" := hex_ne_empty _
  simp [chainCallFromJson, CandidateSource.reservesPayload, Core.BlockBuilder.requiredStr, ifContains,
    Core.BlockBuilder.optionalNonEmptyString, Core.BlockBuilder.callParam, address, selector, block,
    bind, Except.bind, pure, Except.pure]

/-- A block parameter that Knight writes names the chain up to that block. -/
private theorem chainAt_hexQuantity (node : Core.BlockBuilder.Node) (blockNumber : UInt64) :
    node.chainAt (hexQuantity blockNumber) =
      if blockNumber.toNat ≤ node.head then some (node.blocks.take blockNumber.toNat) else none := by
  have isNumber : hexQuantity blockNumber ≠ "latest" := by
    intro isTag
    have digits : hexPrefixed (hexQuantity blockNumber) = some _ := hexPrefixed_hex _
    have isWord : hexPrefixed "latest" = none := by decide
    rw [isTag, isWord] at digits
    cases digits
  rw [Core.BlockBuilder.Node.chainAt, if_neg isNumber, parseHexQuantity_hexQuantity]
  rfl

/-- An answer that arrives and parses has the reserves after the block asked for. -/
theorem reserveAnswer_read {pool : Pool} {arrives : Bool} {json : Json} {snapshot : PoolSnapshot}
    (answered : system.reserveAnswer ethCall pool blockNumber arrives = some (some json))
    (parsed : PoolSnapshot.fromJson lib pool json = some snapshot) :
    blockNumber.toNat ≤ system.builder.node.blocks.length ∧
      reservesAt lib ethCall (system.builder.node.blocks.take blockNumber.toNat) pool =
        some snapshot := by
  unfold System.reserveAnswer at answered
  split at answered
  · unfold chainCall at answered
    rw [chainCallFromJson_reserves] at answered
    dsimp only at answered
    rw [chainAt_hexQuantity] at answered
    by_cases there : blockNumber.toNat ≤ system.builder.node.head
    · rw [if_pos there] at answered
      dsimp only at answered
      unfold reservesAt
      cases called : ethCall (system.builder.node.blocks.take blockNumber.toNat)
        [("to", hexData pool.address), ("data", hexData CandidateSource.getReservesSelector)] with
      | error error =>
        rw [called] at answered
        cases error with
        | valueError message => cases answered
        | runtimeError message => cases answered
        | httpException statusCode detail => cases answered
        | uncaught message => cases answered
      | ok result =>
        rw [called] at answered
        cases answered
        refine ⟨there, ?_⟩
        rw [← parsed]
        simp [PoolSnapshot.fromJson, asObject, jsonString, ifContains]
    · rw [if_neg there] at answered
      cases answered
  · cases answered

/-- A call that arrives at a block that is there is answered with its result. -/
theorem reserveAnswer_arrives {pool : Pool} {result : String}
    (there : blockNumber.toNat ≤ system.builder.node.head)
    (called : ethCall (system.builder.node.blocks.take blockNumber.toNat)
      [("to", hexData pool.address), ("data", hexData CandidateSource.getReservesSelector)] =
        .ok result) :
    system.reserveAnswer ethCall pool blockNumber true = some (some (.object
      [("block", .string (hexQuantity blockNumber)), ("result", .string result)])) := by
  rw [System.reserveAnswer, if_pos rfl, chainCall, chainCallFromJson_reserves]
  dsimp only
  rw [chainAt_hexQuantity, if_pos there]
  dsimp only
  rw [called]
  rfl

/-- Every listed pool, with its reserves after one block of the chain. -/
structure ReadFrom (lib : Libraries)
    (ethCall : List Block → List (String × String) → Except PyError String) (pools : List Pool)
    (blocks : List Block) (blockNumber : UInt64) (snapshots : List PoolSnapshot) : Prop where
  listed : snapshots.map PoolSnapshot.pool = pools
  read : ∀ snapshot ∈ snapshots, blockNumber.toNat ≤ blocks.length ∧
    reservesAt lib ethCall (blocks.take blockNumber.toNat) snapshot.pool = some snapshot

/-- The chain up to a block stays what it is. -/
theorem take_stable (appended : blocks <+: longer) {count : Nat} (there : count ≤ blocks.length) :
    longer.take count = blocks.take count := by
  obtain ⟨new, rfl⟩ := appended
  exact List.take_append_of_le_length there

theorem ReadFrom.extend {snapshots : List PoolSnapshot}
    (readFrom : ReadFrom lib ethCall pools blocks blockNumber snapshots)
    (appended : blocks <+: longer) : ReadFrom lib ethCall pools longer blockNumber snapshots where
  listed := readFrom.listed
  read := by
    intro snapshot member
    obtain ⟨there, isReserve⟩ := readFrom.read snapshot member
    refine ⟨there.trans appended.length_le, ?_⟩
    rw [take_stable appended there]
    exact isReserve

/-! ## The invariant -/

/-- The answers a worker has so far, against the chain. -/
def AnswersRead (lib : Libraries)
    (ethCall : List Block → List (String × String) → Except PyError String) (pools : List Pool)
    (blocks : List Block) (blockNumber : UInt64) (answers : List (Option Body)) : Prop :=
  ∀ (index : Nat) pool json, pools[index]? = some pool → answers[index]? = some (some (some json)) →
    ∀ snapshot, PoolSnapshot.fromJson lib pool json = some snapshot →
      blockNumber.toNat ≤ blocks.length ∧
        reservesAt lib ethCall (blocks.take blockNumber.toNat) pool = some snapshot

theorem AnswersRead.extend {answers : List (Option Body)}
    (answersRead : AnswersRead lib ethCall pools blocks blockNumber answers)
    (appended : blocks <+: longer) :
    AnswersRead lib ethCall pools longer blockNumber answers := by
  intro index pool json isPool isAnswer snapshot parsed
  obtain ⟨there, isReserve⟩ := answersRead index pool json isPool isAnswer snapshot parsed
  refine ⟨there.trans appended.length_le, ?_⟩
  rw [take_stable appended there]
  exact isReserve

/-- One more answer. -/
theorem AnswersRead.append {answers : List (Option Body)} {pool : Pool} {arrives : Bool}
    (answersRead : AnswersRead lib ethCall pools system.builder.node.blocks blockNumber answers)
    (isNext : pools[answers.length]? = some pool) :
    AnswersRead lib ethCall pools system.builder.node.blocks blockNumber
      (answers ++ [system.reserveAnswer ethCall pool blockNumber arrives]) := by
  intro index other json isOther isAnswer snapshot parsed
  by_cases earlier : index < answers.length
  · rw [List.getElem?_append_left earlier] at isAnswer
    exact answersRead index other json isOther isAnswer snapshot parsed
  · have bound : index < (answers ++ [system.reserveAnswer ethCall pool blockNumber arrives]).length :=
      (List.getElem?_eq_some_iff.mp isAnswer).1
    rw [List.length_append, List.length_singleton] at bound
    have last : index = answers.length := by omega
    rw [last, List.getElem?_concat_length] at isAnswer
    rw [last, isNext] at isOther
    cases isOther
    exact reserveAnswer_read (Option.some.inj isAnswer) parsed

/-- What is recorded, what is being read and what the loop holds, against the chain. -/
structure Current (lib : Libraries)
    (ethCall : List Block → List (String × String) → Except PyError String) (pools : List Pool)
    (blocks : List Block) (source : CandidateSource) (worker : Worker) (phase : Phase) : Prop where
  configured : source.pools = pools
  recorded : source.state.valid = true → ∃ blockNumber,
    source.state.blockNumber = some blockNumber ∧
      ReadFrom lib ethCall pools blocks blockNumber source.state.pools
  reading : ∀ blockNumber answers, worker = .reading blockNumber answers →
    AnswersRead lib ethCall pools blocks blockNumber answers
  holding : ∀ state bundle, held phase = some (state, bundle) → ∃ blockNumber,
    state.blockNumber = some blockNumber ∧ bundle.blockNumber = some blockNumber ∧
      ReadFrom lib ethCall pools blocks blockNumber state.pools

namespace Current

variable {source : CandidateSource} {worker : Worker} {phase next : Phase}

theorem extend (current : Current lib ethCall pools blocks source worker phase)
    (appended : blocks <+: longer) : Current lib ethCall pools longer source worker phase where
  configured := current.configured
  recorded valid := by
    obtain ⟨blockNumber, isBlock, readFrom⟩ := current.recorded valid
    exact ⟨blockNumber, isBlock, readFrom.extend appended⟩
  reading blockNumber answers isReading := (current.reading blockNumber answers isReading).extend appended
  holding state bundle isHeld := by
    obtain ⟨blockNumber, isBlock, isTarget, readFrom⟩ := current.holding state bundle isHeld
    exact ⟨blockNumber, isBlock, isTarget, readFrom.extend appended⟩

/-- The loop may let go of what it holds. -/
theorem letGo (current : Current lib ethCall pools blocks source worker phase)
    (lets : held next = none ∨ held next = held phase) :
    Current lib ethCall pools blocks source worker next where
  configured := current.configured
  recorded := current.recorded
  reading := current.reading
  holding := by
    intro state bundle isHeld
    rcases lets with nothing | same
    · cases nothing.symm.trans isHeld
    · exact current.holding state bundle (same ▸ isHeld)

/-- A finished block: what is recorded afterwards was recorded before, or was just
read. -/
theorem finishBlock {answers : List (Option Body)}
    (current : Current lib ethCall pools blocks source (.reading blockNumber answers) phase)
    (requestSnapshot : Option Body) :
    Current lib ethCall pools blocks (source.handleNewBlockEvent lib blockNumber
      (fun index _ => answers[index]?.getD none) requestSnapshot) .idle phase := by
  have idle : ∀ number replies, Worker.idle = .reading number replies →
      AnswersRead lib ethCall pools blocks number replies := by
    intro number replies impossible
    cases impossible
  generalize same : source.handleNewBlockEvent lib blockNumber
    (fun index _ => answers[index]?.getD none) requestSnapshot = after
  have outcome := same ▸ handleNewBlockEvent_outcome lib source blockNumber
    (fun index _ => answers[index]?.getD none) requestSnapshot
  cases outcome with
  | ignored => exact ⟨current.configured, current.recorded, idle, current.holding⟩
  | stale => exact ⟨current.configured, current.recorded, idle, current.holding⟩
  | invalidated =>
    refine ⟨current.configured, ?_, idle, current.holding⟩
    intro impossible
    cases impossible
  | applied opened isCurrent answered parsed fresh =>
    refine ⟨current.configured, ?_, idle, current.holding⟩
    intro _
    rw [current.configured] at answered
    refine ⟨blockNumber, congrArg some (snapshotOf_blockNumber parsed), requestPoolSnapshots_pools
      answered, ?_⟩
    intro snapshot member
    obtain ⟨position, pool, json, isPool, isAnswer, isSnapshot⟩ :=
      requestPoolSnapshots_members answered member
    have arrived : answers[position]? = some (some (some json)) := by
      rw [Nat.zero_add] at isAnswer
      cases isReply : answers[position]? with
      | none =>
        rw [isReply] at isAnswer
        cases isAnswer
      | some reply =>
        rw [isReply] at isAnswer
        exact congrArg some isAnswer
    rw [poolSnapshot_pool isSnapshot]
    exact current.reading blockNumber answers rfl position pool json isPool arrived snapshot isSnapshot

/-- A pending transaction leaves block and reserves as they are. -/
theorem pendingTx (current : Current lib ethCall pools blocks source worker phase)
    (tx : PendingTransaction) :
    Current lib ethCall pools blocks (source.handlePendingTxEvent tx) worker phase := by
  generalize same : source.handlePendingTxEvent tx = after
  have outcome := same ▸ handlePendingTxEvent_outcome source tx
  cases outcome with
  | ignored => exact current
  | accepted => exact ⟨current.configured, current.recorded, current.reading, current.holding⟩

/-- What a pop hands out is what was recorded. -/
theorem pop (current : Current lib ethCall pools blocks source worker phase)
    {result : Except Core.CandidateState.Error StateSnapshot} {popped : CandidateSource}
    (returned : source.waitPopState = some (result, popped)) :
    Current lib ethCall pools blocks popped worker phase ∧
      ∀ state, result = .ok state → state.valid = true → ∃ blockNumber,
        state.blockNumber = some blockNumber ∧
          ReadFrom lib ethCall pools blocks blockNumber state.pools := by
  cases waitPopState_outcome returned with
  | closed =>
    refine ⟨current, ?_⟩
    intro state impossible
    cases impossible
  | invalid =>
    refine ⟨⟨current.configured, current.recorded, current.reading, current.holding⟩, ?_⟩
    intro state isState valid
    cases isState
    exact current.recorded valid
  | emptied =>
    refine ⟨current, ?_⟩
    intro state impossible
    cases impossible
  | popped =>
    refine ⟨⟨current.configured, current.recorded, current.reading, current.holding⟩, ?_⟩
    intro state isState valid
    cases isState
    exact current.recorded valid

/-- A bundle is computed from a valid state only. -/
private theorem bundleOf_valid {composer : TxComposer} {state : StateSnapshot} {bundle : Bundle}
    (composed : bundleOf lib composer state = some bundle) : state.valid = true := by
  obtain ⟨_, found, _⟩ := Option.bind_eq_some_iff.mp composed
  unfold opportunityOf at found
  split at found
  · next valid => exact valid
  · cases found

/-- The loop takes up a state. -/
theorem receive (current : Current lib ethCall pools blocks source worker phase) (loop : Loop)
    {state : StateSnapshot}
    (handedOut : state.valid = true → ∃ blockNumber, state.blockNumber = some blockNumber ∧
      ReadFrom lib ethCall pools blocks blockNumber state.pools) :
    Current lib ethCall pools blocks source worker (loop.receive lib state).phase where
  configured := current.configured
  recorded := current.recorded
  reading := current.reading
  holding := by
    intro held bundle isHeld
    rw [receive_held] at isHeld
    obtain ⟨composed, isBundle, same⟩ := Option.map_eq_some_iff.mp isHeld
    cases same
    obtain ⟨blockNumber, isBlock, readFrom⟩ := handedOut (bundleOf_valid isBundle)
    exact ⟨blockNumber, isBlock, (bundleOf_blockNumber isBundle).trans isBlock, readFrom⟩

end Current

/-- The invariant of a system. -/
def Fresh (lib : Libraries)
    (ethCall : List Block → List (String × String) → Except PyError String) (pools : List Pool)
    (system : System) : Prop :=
  Current lib ethCall pools system.builder.node.blocks system.source system.worker system.loop.phase

/-- Every step keeps the invariant. -/
theorem Fresh.step {event : Event} (fresh : Fresh lib ethCall pools system)
    (performed : Performed lib ethCall system event after) : Fresh lib ethCall pools after := by
  have extended := fresh.extend (performed_blocks performed)
  cases performed with
  | addTransaction => exact extended
  | otherBundle => exact extended
  | newBlock blockNumber isIdle =>
    refine ⟨fresh.configured, fresh.recorded, ?_, fresh.holding⟩
    intro number answers isReading
    cases isReading
    intro index pool json _ impossible
    cases impossible
  | readPool arrives isReading isNext =>
    refine ⟨fresh.configured, fresh.recorded, ?_, fresh.holding⟩
    intro number answers isAnswers
    cases isAnswers
    rw [fresh.configured] at isNext
    exact (fresh.reading _ _ isReading).append isNext
  | finishBlock requestSnapshot isReading =>
    unfold Fresh at fresh
    rw [isReading] at fresh
    exact fresh.finishBlock requestSnapshot
  | pendingTx tx => exact fresh.pendingTx tx
  | close => exact ⟨fresh.configured, fresh.recorded, fresh.reading, fresh.holding⟩
  | popped isWaiting returned =>
    obtain ⟨current, handedOut⟩ := fresh.pop returned
    exact current.receive system.loop (handedOut _ rfl)
  | closed isWaiting returned => exact (fresh.pop returned).1
  | simulated transport answers now isSimulating =>
    exact extended.letGo (proceed_held system.loop _)
  | submitted transport answers now isSubmitting =>
    exact extended.letGo (proceed_held system.loop _)

theorem Fresh.reached {events : List Event}
    (run : (deployment lib ethCall pools).Run events system) : Fresh lib ethCall pools system := by
  refine Run.invariant (Fresh lib ethCall pools) run ?_ ?_
  · rintro system ⟨isSource, isIdle, isWaiting⟩
    unfold Fresh
    rw [isSource, isIdle, isWaiting]
    refine ⟨rfl, ?_, ?_, ?_⟩
    · intro impossible
      cases impossible
    · intro _ _ impossible
      cases impossible
    · intro _ _ impossible
      cases impossible
  · intro system event after fresh performed
    exact fresh.step (perform_performed performed)

/-- **Freshness.** Wherever Knight, the builder and other clients can get: when the
builder executes a bundle of Knight's, so that something is offered to the node, the
head is the block of the state the bundle was computed from, the state lists the
configured pools, and its reserves are those on the chain at the head. -/
theorem bundles_are_mined_on_their_state {events : List Event} {state : StateSnapshot}
    {bundle : Bundle} {attempts : Nat} {answers : Answers} {now : String}
    (run : (deployment lib ethCall pools).Run events system)
    (isSubmitting : system.loop.phase = .submitting state bundle attempts)
    (executes : (submitPrivateBundle answers now (Bundle.toJson lib bundle)
      system.builder).2.node.offered ≠ system.builder.node.offered) :
    (∃ blockNumber, state.blockNumber = some blockNumber ∧
      system.builder.node.head = blockNumber.toNat) ∧
      state.pools.map PoolSnapshot.pool = pools ∧
      ∀ snapshot ∈ state.pools,
        reservesAt lib ethCall system.builder.node.blocks snapshot.pool = some snapshot := by
  have fresh := Fresh.reached run
  have isHeld : held system.loop.phase = some (state, bundle) := by
    rw [isSubmitting]
    rfl
  obtain ⟨blockNumber, isBlock, isTarget, readFrom⟩ := fresh.holding state bundle isHeld
  have atHead : system.builder.node.head = blockNumber.toNat := by
    have outcome := submitPrivateBundle_outcome answers now (Bundle.toJson lib bundle) system.builder
    rcases outcome.effect with same | ⟨parsed, admitted, _⟩
    · rw [same] at executes
      exact absurd rfl executes
    · exact admitted_at_target isTarget admitted
  refine ⟨⟨blockNumber, isBlock, atHead⟩, readFrom.listed, ?_⟩
  intro snapshot member
  have isReserve := (readFrom.read snapshot member).2
  have whole : system.builder.node.blocks.take blockNumber.toNat = system.builder.node.blocks := by
    rw [← atHead]
    exact List.take_length
  rw [whole] at isReserve
  exact isReserve

/-! Two pools with equal reserves and one pending swap that unbalances the first: the
loop gets as far as submitting its bundle. -/

def dexPool (last : UInt8) : Pool := ⟨List.replicate 19 0 ++ [last], [], []⟩

def dexPools : List Pool := [dexPool 0xD1, dexPool 0xD2]

/-- The reserves of both pools, as two words. -/
def reserveWords : Bytes := uint256Word 1000000 ++ uint256Word 1000000

def sampleEthCall : List Block → List (String × String) → Except PyError String :=
  fun _ _ => .ok (hexData reserveWords)

def victimTx (seqNum : UInt64) (mempoolTxId : String) : PendingTransaction where
  input := CandidateFilter.swapExactAForBSelector ++ uint256Word 100000 ++ uint256Word 0
  recipient := some (dexPool 0xD1).address
  mempoolTxId := mempoolTxId
  seqNum := seqNum

/-- The state that carries a victim. -/
def victimState (seqNum : UInt64) (mempoolTxId : String) : StateSnapshot where
  valid := true
  blockNumber := some 0
  pools := [⟨dexPool 0xD1, 1000000, 1000000⟩, ⟨dexPool 0xD2, 1000000, 1000000⟩]
  candidate := some ⟨victimTx seqNum mempoolTxId, dexPool 0xD1, .aForB⟩

def sampleComposer : TxComposer where
  config := { botAddress := List.replicate 20 0xB0, contractAddress := List.replicate 20 0xE0 }
  nextNonce := some 0

/-- The backrun the loop composes for a victim. -/
def sampleBackrun : EvmTransaction where
  input := executeBackrunSelector ++ List.replicate 12 0 ++ (dexPool 0xD1).address ++
    List.replicate 12 0 ++ (dexPool 0xD2).address ++ uint256Word 0xa40f ++ uint256Word 0 ++
    uint256Word 0 ++ uint256Word 0
  source := List.replicate 20 0xB0
  chainId := some 0
  gas := 700000
  maxFeePerGas := some 2000000000
  maxPriorityFeePerGas := some 1
  type := 2
  recipient := some (List.replicate 20 0xE0)

def sampleBundle (mempoolTxId : String) : Bundle :=
  ⟨some 0, [.mempoolTxRef mempoolTxId, .transaction sampleBackrun]⟩

theorem bundleOf_victim :
    bundleOf documented sampleComposer (victimState 1 "mp-1") = some (sampleBundle "mp-1") := by
  decide +kernel

/-- The source once both pools are read at the genesis block and two swaps are
pending. -/
def sampleSource : CandidateSource :=
  (CandidateSource.handlePendingTxEvent (CandidateSource.handlePendingTxEvent {
    pools := dexPools
    state := snapshotted (CandidateFilter.filterSnapshot dexPools ⟨0, 0, []⟩)
      [⟨dexPool 0xD1, 1000000, 1000000⟩, ⟨dexPool 0xD2, 1000000, 1000000⟩] }
    (victimTx 1 "mp-1")) (victimTx 2 "mp-2"))

/-- The source after a pop. -/
def poppedSource (source : CandidateSource) : CandidateSource :=
  (source.waitPopState.map Prod.snd).getD source

theorem waitPopState_of_result {source : CandidateSource} {state : StateSnapshot}
    (returned : source.waitPopState.map (fun popped => popped.1.toOption) = some (some state)) :
    source.waitPopState = some (.ok state, poppedSource source) := by
  obtain ⟨⟨result, popped⟩, isPopped, isState⟩ := Option.map_eq_some_iff.mp returned
  cases result with
  | error error => cases isState
  | ok view =>
    have isView : view = state := Option.some.inj isState
    rw [poppedSource, isPopped, isView]
    rfl

theorem sampleSource_pop :
    sampleSource.waitPopState = some (.ok (victimState 1 "mp-1"), poppedSource sampleSource) :=
  waitPopState_of_result (by decide +kernel)

def victimTransaction : Core.BlockBuilder.Transaction where
  hash := none
  type := none
  chainId := none
  nonce := "0x0"
  fromAddress := "0x71"
  toAddress := some (hexData (dexPool 0xD1).address)
  value := "0x0"
  gas := "0x5208"
  gasPrice := none
  maxFeePerGas := none
  maxPriorityFeePerGas := none
  input := "0x4cabca0a"

/-- Both victims' transactions are pending at the builder. -/
def sampleBuilder : Builder where
  node := {}
  mempool := ((({} : Core.BlockBuilder.Mempool).addTransaction victimTransaction "1"
    "now").2.addTransaction victimTransaction "2" "now").2

def emptySnapshot : Body :=
  some (.object [("snapshotSeq", .int 0), ("transactions", .array [])])

/-- Everything up to the first pop. -/
def sampleEvents : List Event := [
  .addTransaction victimTransaction "1" "now", .addTransaction victimTransaction "2" "now",
  .newBlock 0, .readPool true, .readPool true, .finishBlock (some emptySnapshot),
  .pendingTx (victimTx 1 "mp-1"), .pendingTx (victimTx 2 "mp-2")]

def sampleStart : System where
  builder := { node := {}, mempool := {} }
  source := { pools := dexPools }
  loop := { composer := sampleComposer }

def sampleReady : System := { sampleStart with builder := sampleBuilder, source := sampleSource }

/-- What both chain calls answer. -/
def reserveReply : Json :=
  .object [("block", .string (hexQuantity 0)), ("result", .string (hexData reserveWords))]

theorem reserves_read (pool : Pool) :
    PoolSnapshot.fromJson documented pool reserveReply = some ⟨pool, 1000000, 1000000⟩ := by
  have decoded : documented.decodePair reserveWords = some (1000000, 1000000) := by
    decide +kernel
  exact poolSnapshot_hexData rfl decoded

/-- The worker at the genesis block, with the answers so far. -/
def sampleReading (answers : List (Option Body)) : System :=
  { sampleStart with builder := sampleBuilder, worker := .reading 0 answers }

private theorem sampleReading_next {answers : List (Option Body)} {pool : Pool}
    (isNext : dexPools[answers.length]? = some pool) :
    (sampleReading answers).perform documented sampleEthCall (.readPool true) =
      some (sampleReading (answers ++ [some (some reserveReply)])) := by
  have reply : (sampleReading answers).reserveAnswer sampleEthCall pool 0 true = some (some reserveReply) :=
    reserveAnswer_arrives (Nat.zero_le _) rfl
  have listed : (sampleReading answers).source.pools[answers.length]? = some pool := isNext
  change ((sampleReading answers).source.pools[answers.length]?.map fun pool =>
    sampleReading (answers ++ [(sampleReading answers).reserveAnswer sampleEthCall pool 0 true])) = _
  rw [listed, Option.map_some, reply]

theorem sampleReady_run :
    (deploymentFrom documented sampleEthCall sampleStart).Run sampleEvents sampleReady := by
  have started : (deploymentFrom documented sampleEthCall sampleStart).Run [] sampleStart :=
    .start rfl
  have begun : (deploymentFrom documented sampleEthCall sampleStart).Run _ (sampleReading []) :=
    run_event (run_event (run_event started (.addTransaction victimTransaction "1" "now") rfl)
      (.addTransaction victimTransaction "2" "now") rfl) (.newBlock 0) rfl
  have answered := run_event (run_event begun (.readPool true) (sampleReading_next rfl))
    (.readPool true) (sampleReading_next rfl)
  have reserves : CandidateSource.requestPoolSnapshots documented
      (fun index _ => ([] ++ [some (some reserveReply)] ++ [some (some reserveReply)])[index]?.getD none) 0 0 dexPools =
        some [⟨dexPool 0xD1, 1000000, 1000000⟩, ⟨dexPool 0xD2, 1000000, 1000000⟩] :=
    requestPoolSnapshots_answered rfl (reserves_read _)
      (requestPoolSnapshots_answered rfl (reserves_read _) rfl)
  have read : snapshotOf documented 0 (some emptySnapshot) = some ⟨0, 0, []⟩ := by
    decide +kernel
  have applied := handleNewBlockEvent_first reserves read
  have finished : (sampleReading ([] ++ [some (some reserveReply)] ++ [some (some reserveReply)])).perform documented
      sampleEthCall (.finishBlock (some emptySnapshot)) = some { sampleStart with
        builder := sampleBuilder
        source := {
          pools := dexPools
          state := snapshotted (CandidateFilter.filterSnapshot dexPools ⟨0, 0, []⟩)
            [⟨dexPool 0xD1, 1000000, 1000000⟩, ⟨dexPool 0xD2, 1000000, 1000000⟩] } } := by
    rw [← applied]
    rfl
  exact run_event (run_event (run_event answered _ finished) (.pendingTx (victimTx 1 "mp-1")) rfl)
    (.pendingTx (victimTx 2 "mp-2")) rfl

def sampleReceipt : Fields := [
  ("type", .string (hexQuantity 2)), ("status", .string "0x1"),
  ("cumulativeGasUsed", .string (hexQuantity 21000)), ("logs", .array []),
  ("logsBloom", .string (hexData (List.replicate 256 0))),
  ("transactionHash", .string (hexData (List.replicate 32 0xAA))),
  ("transactionIndex", .string (hexQuantity 0)),
  ("blockHash", .string (hexData (List.replicate 32 0xBB))),
  ("blockNumber", .string (hexQuantity 1)), ("gasUsed", .string (hexQuantity 21000)),
  ("effectiveGasPrice", .string "0x1"), ("from", .string (hexData (List.replicate 20 0x71)))]

/-- A node that answers every call. -/
def obligingAnswers : Answers where
  latestBlock := .ok ()
  snapshot := .answered ()
  send _ := .answered (hexData (List.replicate 32 0xAA))
  mine := .answered ()
  mining := wholePool
  poll _ _ := .ok (some sampleReceipt)
  revert := .answered ()
  rollback := presentPool

/-- A receipt without logs is read field by field. -/
private theorem receipt_isSome {object : Fields} {type status cumulativeGasUsed transactionIndex
    blockNumber gasUsed : UInt64} {logsBloom transactionHash blockHash source : Bytes}
    {effectiveGasPrice : Uint256} {recipient contractAddress : Option Bytes}
    {blockTimestamp : Option UInt64}
    (isType : jsonHexUint64 object "type" = some type) (small : ¬type > 255)
    (isStatus : jsonHexUint64 object "status" = some status)
    (isCumulative : jsonHexUint64 object "cumulativeGasUsed" = some cumulativeGasUsed)
    (isLogs : jsonArray object "logs" = some [])
    (isBloom : jsonHexBytesOf lib object "logsBloom" 256 = some logsBloom)
    (isHash : jsonHexBytesOf lib object "transactionHash" 32 = some transactionHash)
    (isIndex : jsonHexUint64 object "transactionIndex" = some transactionIndex)
    (isBlockHash : jsonHexBytesOf lib object "blockHash" 32 = some blockHash)
    (isBlock : jsonHexUint64 object "blockNumber" = some blockNumber)
    (isGas : jsonHexUint64 object "gasUsed" = some gasUsed)
    (isPrice : jsonHexUint256 lib object "effectiveGasPrice" = some effectiveGasPrice)
    (isSource : jsonHexBytesOf lib object "from" kAddressLength = some source)
    (isRecipient : jsonOptionalHexBytes lib object "to" kAddressLength = some recipient)
    (isContract : jsonOptionalHexBytes lib object "contractAddress" kAddressLength =
      some contractAddress)
    (isTime : jsonOptionalUint64 object "blockTimestamp" = some blockTimestamp) :
    (Receipt.fromJson lib (.object object)).isSome = true := by
  refine Option.isSome_iff_exists.mpr ⟨⟨type.toUInt8, status, cumulativeGasUsed, [], logsBloom,
    transactionHash, transactionIndex, blockHash, blockNumber, gasUsed, effectiveGasPrice, source,
    recipient, contractAddress, blockTimestamp⟩, ?_⟩
  unfold Receipt.fromJson
  refine Option.bind_eq_some_iff.mpr ⟨object, rfl, ?_⟩
  refine Option.bind_eq_some_iff.mpr ⟨type, isType, ?_⟩
  refine Option.bind_eq_some_iff.mpr ⟨status, isStatus, ?_⟩
  refine Option.bind_eq_some_iff.mpr ⟨cumulativeGasUsed, isCumulative, ?_⟩
  refine Option.bind_eq_some_iff.mpr ⟨[], isLogs, ?_⟩
  refine Option.bind_eq_some_iff.mpr ⟨logsBloom, isBloom, ?_⟩
  refine Option.bind_eq_some_iff.mpr ⟨transactionHash, isHash, ?_⟩
  refine Option.bind_eq_some_iff.mpr ⟨transactionIndex, isIndex, ?_⟩
  refine Option.bind_eq_some_iff.mpr ⟨blockHash, isBlockHash, ?_⟩
  refine Option.bind_eq_some_iff.mpr ⟨blockNumber, isBlock, ?_⟩
  refine Option.bind_eq_some_iff.mpr ⟨gasUsed, isGas, ?_⟩
  refine Option.bind_eq_some_iff.mpr ⟨effectiveGasPrice, isPrice, ?_⟩
  refine Option.bind_eq_some_iff.mpr ⟨source, isSource, ?_⟩
  rw [if_neg small]
  refine Option.bind_eq_some_iff.mpr ⟨[], rfl, ?_⟩
  refine Option.bind_eq_some_iff.mpr ⟨recipient, isRecipient, ?_⟩
  refine Option.bind_eq_some_iff.mpr ⟨contractAddress, isContract, ?_⟩
  exact Option.bind_eq_some_iff.mpr ⟨blockTimestamp, isTime, rfl⟩

theorem sampleReceipt_read :
    (Receipt.fromJson documented (.object sampleReceipt)).isSome = true := by
  have type := jsonHexUint64_hexQuantity (show ifContains sampleReceipt "type" =
    some (.string (hexQuantity 2)) from rfl)
  have status : jsonHexUint64 sampleReceipt "status" = some 1 := by decide +kernel
  have cumulativeGasUsed := jsonHexUint64_hexQuantity (show
    ifContains sampleReceipt "cumulativeGasUsed" = some (.string (hexQuantity 21000)) from rfl)
  have logs : jsonArray sampleReceipt "logs" = some [] := rfl
  have logsBloom := jsonHexBytesOf_hexData documented_inverts List.length_replicate (show
    ifContains sampleReceipt "logsBloom" = some (.string (hexData (List.replicate 256 0))) from rfl)
  have transactionHash := jsonHexBytesOf_hexData documented_inverts List.length_replicate (show
    ifContains sampleReceipt "transactionHash" = some (.string (hexData (List.replicate 32 0xAA))) from rfl)
  have transactionIndex := jsonHexUint64_hexQuantity (show
    ifContains sampleReceipt "transactionIndex" = some (.string (hexQuantity 0)) from rfl)
  have blockHash := jsonHexBytesOf_hexData documented_inverts List.length_replicate (show
    ifContains sampleReceipt "blockHash" = some (.string (hexData (List.replicate 32 0xBB))) from rfl)
  have blockNumber := jsonHexUint64_hexQuantity (show ifContains sampleReceipt "blockNumber" =
    some (.string (hexQuantity 1)) from rfl)
  have gasUsed := jsonHexUint64_hexQuantity (show ifContains sampleReceipt "gasUsed" =
    some (.string (hexQuantity 21000)) from rfl)
  have effectiveGasPrice : jsonHexUint256 documented sampleReceipt "effectiveGasPrice" = some 1 := by
    decide +kernel
  have source := jsonHexBytesOf_hexData documented_inverts List.length_replicate (show
    ifContains sampleReceipt "from" = some (.string (hexData (List.replicate 20 0x71))) from rfl)
  have recipient : jsonOptionalHexBytes documented sampleReceipt "to" kAddressLength = some none := rfl
  have contractAddress : jsonOptionalHexBytes documented sampleReceipt "contractAddress"
      kAddressLength = some none := rfl
  have blockTimestamp : jsonOptionalUint64 sampleReceipt "blockTimestamp" = some none := rfl
  refine receipt_isSome type (by decide) status cumulativeGasUsed logs logsBloom transactionHash
    transactionIndex blockHash blockNumber gasUsed effectiveGasPrice source recipient contractAddress
    blockTimestamp

/-- What both transactions of a bundle report. -/
def sampleResults (mempoolTxId : String) : List Core.BlockBuilder.TxResult := [
  ⟨some mempoolTxId, hexData (List.replicate 32 0xAA), some sampleReceipt⟩,
  ⟨none, hexData (List.replicate 32 0xAA), some sampleReceipt⟩]

theorem sampleResults_legible {mempoolTxId : String} {result : Core.BlockBuilder.TxResult}
    (member : result ∈ sampleResults mempoolTxId) : Legible documented result := by
  have isHash := parseHexBytes_hexData documented_inverts (List.replicate 32 0xAA)
  have reads : ∀ receipt, some sampleReceipt = some receipt →
      (Receipt.fromJson documented (.object receipt)).isSome = true := by
    intro receipt same
    cases same
    exact sampleReceipt_read
  rcases List.mem_cons.mp member with rfl | later
  · exact ⟨⟨_, isHash, List.length_replicate⟩, reads⟩
  · rcases List.mem_cons.mp later with rfl | impossible
    · exact ⟨⟨_, isHash, List.length_replicate⟩, reads⟩
    · cases impossible

theorem sampleResults_included {mempoolTxId : String} {result : Core.BlockBuilder.TxResult}
    (member : result ∈ sampleResults mempoolTxId) : result.status = .included := by
  rcases List.mem_cons.mp member with rfl | later
  · rfl
  · rcases List.mem_cons.mp later with rfl | impossible
    · rfl
    · cases impossible

/-- The bundle as the builder reads it. -/
def parsedBundle (mempoolTxId : String) : Core.BlockBuilder.Bundle :=
  ⟨[⟨some mempoolTxId, victimTransaction⟩, ⟨none, asTransaction documented sampleBackrun⟩], some 0⟩

theorem parsedBundle_read :
    Core.BlockBuilder.Bundle.fromJson (Bundle.toJson documented (sampleBundle "mp-1"))
      sampleBuilder.mempool = .ok (parsedBundle "mp-1") := by
  have named : "mp-1" ≠ "" := by decide
  have found : sampleBuilder.mempool.getTransaction "mp-1" =
      some ⟨"mp-1", 1, victimTransaction, .pending, "now", none, none, none⟩ := rfl
  exact knightBundle_read named found rfl

/-- The builder after the simulation: it was offered both transactions, and took back
what became of them. -/
def simulatedBuilder : Builder := { sampleBuilder with
  node := { offered := [victimTransaction, asTransaction documented sampleBackrun] } }

theorem sampleSimulation :
    Core.BlockBuilder.simulatePrivateBundle obligingAnswers
        (Bundle.toJson documented (sampleBundle "mp-1")) sampleBuilder =
      (.ok (.object (Core.BlockBuilder.resultFields (sampleResults "mp-1") ++
        [("simulated", .bool true)])), simulatedBuilder) := by
  rw [Core.BlockBuilder.simulatePrivateBundle, parsedBundle_read]
  rfl

/-- The loop with its bundle simulated. -/
def submittingEvents : List Event :=
  sampleEvents ++ [.pop] ++ [.exchange .arrives obligingAnswers "now"]

def sampleSubmitting : System where
  builder := simulatedBuilder
  source := poppedSource sampleSource
  loop := {
    composer := sampleComposer
    phase := .submitting (victimState 1 "mp-1") (sampleBundle "mp-1") kMaxAttempts }

theorem sampleSubmitting_run :
    (deploymentFrom documented sampleEthCall sampleStart).Run submittingEvents sampleSubmitting := by
  have received : sampleReady.loop.receive documented (victimState 1 "mp-1") =
      { sampleReady.loop with
        phase := .simulating (victimState 1 "mp-1") (sampleBundle "mp-1") kMaxAttempts } :=
    receive_bundle bundleOf_victim
  have popped := run_event sampleReady_run .pop (perform_pop rfl sampleSource_pop)
  rw [received] at popped
  have exchanged := run_event popped (.exchange .arrives obligingAnswers "now")
    (perform_simulation rfl .arrives obligingAnswers "now")
  rw [exchangeWith_handled (show Reaches .arrives from trivial) sampleSimulation] at exchanged
  have legible : ∀ result ∈ sampleResults "mp-1", Legible documented result :=
    fun _ member => sampleResults_legible member
  have allIncluded : ∀ result ∈ sampleResults "mp-1", result.status = .included :=
    fun _ member => sampleResults_included member
  have outcome := simulationResult_read legible allIncluded
  obtain ⟨simulation, read, included⟩ := outcome
  rw [delivered, readResponse, proceed_included rfl read included] at exchanged
  exact exchanged

theorem bundles_are_mined_on_their_state_sample :
    (submitPrivateBundle obligingAnswers "now" (Bundle.toJson documented (sampleBundle "mp-1"))
        simulatedBuilder).2.node.offered ≠ simulatedBuilder.node.offered ∧
      (∃ blockNumber, (victimState 1 "mp-1").blockNumber = some blockNumber ∧
        simulatedBuilder.node.head = blockNumber.toNat) ∧
      (victimState 1 "mp-1").pools.map PoolSnapshot.pool = dexPools ∧
      ∀ snapshot ∈ (victimState 1 "mp-1").pools,
        reservesAt documented sampleEthCall simulatedBuilder.node.blocks snapshot.pool =
          some snapshot := by
  have run : (deployment documented sampleEthCall dexPools).Run submittingEvents
      sampleSubmitting := by
    refine Run.transfer sampleSubmitting_run ?_ fun _ _ _ _ performed => performed
    rintro system rfl
    exact ⟨rfl, rfl, rfl⟩
  have executes : (submitPrivateBundle obligingAnswers "now"
      (Bundle.toJson documented (sampleBundle "mp-1")) sampleSubmitting.builder).2.node.offered ≠
        sampleSubmitting.builder.node.offered :=
    (submitPrivateBundle_outcome _ "now" _ _).offered ⟨parsedBundle_read, rfl, rfl⟩
  exact ⟨executes, bundles_are_mined_on_their_state run rfl executes⟩

end DexKnight.BundleFreshness
