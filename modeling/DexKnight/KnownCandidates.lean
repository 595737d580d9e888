import DexKnight.BundleFreshness
import DexKnight.PublishedRecords

/-! Whatever Knight holds, it was told by the builder. Messages and snapshots may be lost,
late or repeated, but each tells of records of the mempool; so every candidate in the
local mempool and the candidate of every bundle in work is a record the builder still
has, under its name, with the transaction that a bundle will hand to the node. -/
namespace DexKnight.KnownCandidates
open Core.Types Core.Wire Core.Codec Core.Calculator Core.CandidateState Core.Runtime Core.Deployment
  SourceProofs SourceCoherence MempoolProofs MempoolSequence BuilderProofs BundleWire BundleDecoding DeploymentProofs
  BundleFreshness PublishedRecords WireProofs Support.Runs
open Core.BlockBuilder (Answers Block Builder Mempool MempoolRecord PyError submitPrivateBundle
  simulatePrivateBundle mineBundle)

variable {lib : Libraries} {ethCall : List Block → List (String × String) → Except PyError String}
  {pools : List Pool} {config : BackrunConfig} {system after : System} {mempool grown : Mempool}
  {tx : PendingTransaction} {candidate : Candidate}

/-! ## What is published -/

/-- Some record of the mempool is what this transaction tells of. -/
def Published (lib : Libraries) (mempool : Mempool) (tx : PendingTransaction) : Prop :=
  ∃ record ∈ mempool.transactions, Tells lib record tx

/-- Records only change in what is not told. -/
theorem Published.follows {Touched : String → Prop} {added : List MempoolRecord}
    (published : Published lib mempool tx) (follows : Follows Touched added mempool grown) :
    Published lib grown tx := by
  obtain ⟨record, member, tells⟩ := published
  obtain ⟨new, there, same⟩ := follows.renewed member
  refine ⟨new, there, ?_, ?_, ?_⟩
  · exact tells.mempoolTxId.trans same.mempoolTxId.symm
  · exact tells.seqNum.trans same.seqNum.symm
  · rw [same.transaction]
    exact tells.transaction

/-- What an answer to the snapshot request may tell of. -/
def Reports (lib : Libraries) (mempool : Mempool) (answer : Option Body) : Prop :=
  ∀ blockNumber snapshot, snapshotOf lib blockNumber answer = some snapshot →
    ∀ tx ∈ snapshot.transactions, Published lib mempool tx

/-! ## The mempool over a step -/

theorem submitPrivateBundle_follows (answers : Answers) (now : String) (payload : Fields)
    {builder : Builder} (sequenced : Sequenced builder.mempool) :
    Follows (fun _ => True) [] builder.mempool
      (submitPrivateBundle answers now payload builder).2.mempool := by
  unfold submitPrivateBundle
  cases Core.BlockBuilder.Bundle.fromJson payload builder.mempool with
  | error error => exact .refl _
  | ok bundle => exact (mineBundle_follows answers now bundle sequenced).mono fun _ _ => trivial

theorem simulatePrivateBundle_mempool (answers : Answers) (payload : Fields) (builder : Builder) :
    (simulatePrivateBundle answers payload builder).2.mempool = builder.mempool := by
  unfold simulatePrivateBundle
  cases Core.BlockBuilder.Bundle.fromJson payload builder.mempool with
  | error error => rfl
  | ok bundle => exact simulateBundle_mempool answers bundle builder

/-- An exchange changes the builder as its handler does, if it reaches it. -/
theorem exchangeWith_builder (handler : Handler) (bundle : Bundle) (transport : Transport)
    (answers : Answers) (now : String) :
    (system.exchangeWith lib handler bundle transport answers now).builder = system.builder ∨
      (system.exchangeWith lib handler bundle transport answers now).builder =
        (handler answers now (Bundle.toJson lib bundle) system.builder).2 := by
  cases transport with
  | requestLost error => exact .inl rfl
  | responseLost error => exact .inr rfl
  | garbled body => exact .inr rfl
  | arrives => exact .inr rfl

/-- What the environment may do: names are fresh, and what reaches Knight was published. -/
def Honest (lib : Libraries) (system : System) : Event → Prop
  | .addTransaction _ uuid _ =>
    ∀ record ∈ system.builder.mempool.transactions, record.mempoolTxId ≠ "mp-" ++ uuid
  | .pendingTx tx => Published lib system.builder.mempool tx
  | .finishBlock answer => Reports lib system.builder.mempool answer
  | _ => True

/-- The builder's own message about a record of its is honest. -/
theorem message_honest {record : MempoolRecord} (clean : Clean record)
    (member : record ∈ system.builder.mempool.transactions)
    (read : parsePendingTxEvent lib (some record.message) = some tx) :
    Honest lib system (.pendingTx tx) := by
  rw [MempoolRecord.message, CandidateDelivery.Kept.parsePendingTxEvent_record] at read
  exact ⟨record, member, fromJson_tells clean read⟩

/-- And so is its snapshot. -/
theorem snapshot_honest (clean : ∀ record ∈ system.builder.mempool.transactions, Clean record) :
    Honest lib system (.finishBlock (some (some system.builder.mempool.pendingSnapshot))) := by
  intro blockNumber snapshot read tx member
  rw [(snapshotOf_pendingSnapshot read).2] at member
  obtain ⟨record, isPending, told⟩ := List.mem_filterMap.mp member
  have listed := (mem_pendingRecords.mp isPending).1
  exact ⟨record, listed, fromJson_tells (clean record listed) told⟩

/-- A mempool as the builder can have it: numbered, and every record under a name. -/
structure Proper (mempool : Mempool) : Prop where
  sequenced : Sequenced mempool
  named : ∀ record ∈ mempool.transactions, record.mempoolTxId ≠ ""

/-- The deployment in such an environment, from a builder that may have been running. -/
def honestDeployment (lib : Libraries)
    (ethCall : List Block → List (String × String) → Except PyError String) (pools : List Pool)
    (config : BackrunConfig) : Machine System Event where
  initial system := (deployment lib ethCall pools).initial system ∧
    Proper system.builder.mempool ∧ system.loop.composer.config = config
  step system event after := Honest lib system event ∧ system.perform lib ethCall event = some after

theorem Proper.marked (proper : Proper mempool) (follows : Follows (fun _ => True) [] mempool grown) :
    Proper grown := by
  refine ⟨proper.sequenced.marked follows, ?_⟩
  obtain ⟨_, update, kept, isGrown⟩ := follows
  intro record member
  rw [isGrown, List.append_nil] at member
  obtain ⟨old, isOld, rfl⟩ := List.mem_map.mp member
  rw [(kept old isOld).mempoolTxId]
  exact proper.named old isOld

theorem Proper.added {transaction : Core.BlockBuilder.Transaction} {uuid now : String} (proper : Proper mempool)
    (fresh : ∀ record ∈ mempool.transactions, record.mempoolTxId ≠ "mp-" ++ uuid) :
    Proper (mempool.addTransaction transaction uuid now).2 := by
  refine ⟨proper.sequenced.added fresh, ?_⟩
  intro record member
  rw [addTransaction_appends fresh] at member
  rcases List.mem_append.mp member with isOld | isNew
  · exact proper.named record isOld
  · rw [List.mem_singleton.mp isNew]
    exact prefixed_ne_empty uuid

/-- Over one step the mempool only grows, and stays proper. -/
theorem performed_mempool {event : Event} (proper : Proper system.builder.mempool)
    (honest : Honest lib system event) (performed : Performed lib ethCall system event after) :
    Proper after.builder.mempool ∧
      ∃ added, Follows (fun _ => True) added system.builder.mempool after.builder.mempool := by
  have marked : ∀ {grown : Mempool}, Follows (fun _ => True) [] system.builder.mempool grown →
      Proper grown ∧ ∃ added, Follows (fun _ => True) added system.builder.mempool grown :=
    fun follows => ⟨proper.marked follows, [], follows⟩
  have exchanged : ∀ (handler : Handler) (bundle : Bundle) (transport : Transport) (answers : Answers)
      (now : String), Follows (fun _ => True) [] system.builder.mempool
        (handler answers now (Bundle.toJson lib bundle) system.builder).2.mempool →
      Follows (fun _ => True) [] system.builder.mempool
        (system.exchangeWith lib handler bundle transport answers now).builder.mempool := by
    intro handler bundle transport answers now follows
    rcases exchangeWith_builder handler bundle transport answers now with same | handled
    · rw [same]
      exact .refl _
    · rw [handled]
      exact follows
  cases performed with
  | addTransaction transaction uuid now =>
    exact ⟨proper.added honest, _, addTransaction_follows transaction now honest⟩
  | otherBundle simulated answers now payload =>
    unfold System.handleOther
    cases simulated with
    | true =>
      refine marked ?_
      change Follows _ _ _ (simulatePrivateBundle answers payload system.builder).2.mempool
      rw [simulatePrivateBundle_mempool]
      exact .refl _
    | false => exact marked (submitPrivateBundle_follows answers now payload proper.sequenced)
  | simulated transport answers now isSimulating =>
    refine marked (exchanged _ _ _ _ _ ?_)
    change Follows _ _ _ (simulatePrivateBundle answers _ system.builder).2.mempool
    rw [simulatePrivateBundle_mempool]
    exact .refl _
  | submitted transport answers now isSubmitting =>
    exact marked (exchanged _ _ _ _ _ (submitPrivateBundle_follows answers now _ proper.sequenced))
  | newBlock => exact marked (.refl _)
  | readPool => exact marked (.refl _)
  | finishBlock => exact marked (.refl _)
  | pendingTx => exact marked (.refl _)
  | close => exact marked (.refl _)
  | popped => exact marked (.refl _)
  | closed => exact marked (.refl _)

/-! ## The loop over a step -/

theorem receive_composer (loop : Loop) (state : StateSnapshot) :
    (loop.receive lib state).composer = loop.composer := by
  unfold Loop.receive
  cases bundleOf lib loop.composer state with
  | none => rfl
  | some bundle => rfl

/-- Only the nonce of the composer changes. -/
theorem proceed_config (loop : Loop) (result : Except RestError Body) :
    (loop.proceed lib result).composer.config = loop.composer.config := by
  unfold Loop.proceed
  cases loop.phase with
  | waiting => rfl
  | simulating state bundle attempts =>
    dsimp only
    cases afterAttempt (attempts - 1) result with
    | none => rfl
    | some outcome =>
      dsimp only
      cases readResult (BundleSimulationResult.fromJson lib) outcome with
      | error error => rfl
      | ok simulation =>
        dsimp only
        split
        · rfl
        · rfl
  | submitting state bundle attempts =>
    dsimp only
    cases afterAttempt (attempts - 1) result with
    | none => rfl
    | some outcome =>
      dsimp only
      cases readResult (BundleResult.fromJson lib) outcome with
      | error error => rfl
      | ok submission => rfl

/-! ## The invariant -/

/-- A candidate as the filter makes it of a transaction that is published. -/
structure Genuine (lib : Libraries) (pools : List Pool) (mempool : Mempool) (candidate : Candidate) :
    Prop where
  filtered : CandidateFilter.filter pools candidate.tx = some candidate
  published : Published lib mempool candidate.tx

theorem genuine_of_filter {tx : PendingTransaction} (published : Published lib mempool tx)
    (kept : CandidateFilter.filter pools tx = some candidate) : Genuine lib pools mempool candidate := by
  have isTx := (filter_eq_some kept).1
  rw [← isTx] at published kept
  exact ⟨kept, published⟩

/-- A bundle that a composer of this configuration made of a state. -/
def ComposedOf (lib : Libraries) (config : BackrunConfig) (state : StateSnapshot) (bundle : Bundle) :
    Prop :=
  ∃ composer : TxComposer, composer.config = config ∧ bundleOf lib composer state = some bundle

/-- What is stored and what the loop holds, against the mempool. -/
structure Informed (lib : Libraries) (pools : List Pool) (config : BackrunConfig) (mempool : Mempool)
    (source : CandidateSource) (loop : Loop) : Prop where
  configured : source.pools = pools
  composes : loop.composer.config = config
  stored : ∀ (key : UInt64) candidate, source.state.localMempool.candidates[key]? = some candidate →
    Genuine lib pools mempool candidate
  holding : ∀ state bundle, held loop.phase = some (state, bundle) →
    ComposedOf lib config state bundle ∧
      ∀ candidate, state.candidate = some candidate → Genuine lib pools mempool candidate

namespace Informed

variable {source popped : CandidateSource} {loop next : Loop}

theorem follows {Touched : String → Prop} {added : List MempoolRecord}
    (informed : Informed lib pools config mempool source loop)
    (follows : Follows Touched added mempool grown) : Informed lib pools config grown source loop := by
  have later : ∀ candidate, Genuine lib pools mempool candidate →
      Genuine lib pools grown candidate :=
    fun _ genuine => ⟨genuine.filtered, genuine.published.follows follows⟩
  refine ⟨informed.configured, informed.composes, ?_, ?_⟩
  · intro key candidate found
    exact later candidate (informed.stored key candidate found)
  · intro state bundle isHeld
    obtain ⟨composed, genuine⟩ := informed.holding state bundle isHeld
    exact ⟨composed, fun candidate isCandidate => later candidate (genuine candidate isCandidate)⟩

/-- The loop may let go of what it holds, and go on with its nonce. -/
theorem letGo (informed : Informed lib pools config mempool source loop)
    (sameConfig : next.composer.config = loop.composer.config)
    (lets : held next.phase = none ∨ held next.phase = held loop.phase) :
    Informed lib pools config mempool source next where
  configured := informed.configured
  composes := sameConfig.trans informed.composes
  stored := informed.stored
  holding := by
    intro state bundle isHeld
    rcases lets with nothing | same
    · cases nothing.symm.trans isHeld
    · exact informed.holding state bundle (same ▸ isHeld)

/-- A finished block: a new content is the filtered content of the snapshot. -/
theorem finishBlock (informed : Informed lib pools config mempool source loop) {answer : Option Body}
    (reports : Reports lib mempool answer) (blockNumber : UInt64)
    (requestChainCall : Nat → Fields → Option Body) :
    Informed lib pools config mempool
      (source.handleNewBlockEvent lib blockNumber requestChainCall answer) loop := by
  generalize same : source.handleNewBlockEvent lib blockNumber requestChainCall answer = after
  have outcome := same ▸ handleNewBlockEvent_outcome lib source blockNumber requestChainCall answer
  cases outcome with
  | ignored => exact informed
  | stale => exact informed
  | invalidated =>
    refine ⟨informed.configured, informed.composes, ?_, informed.holding⟩
    intro key candidate impossible
    simp [invalidated] at impossible
  | applied opened isCurrent answered parsed fresh =>
    refine ⟨informed.configured, informed.composes, ?_, informed.holding⟩
    intro key candidate found
    rcases lookup_foldl found with impossible | ⟨member, _⟩
    · simp at impossible
    · obtain ⟨tx, isTx, kept⟩ := List.mem_filterMap.mp member
      rw [informed.configured] at kept
      exact genuine_of_filter (reports blockNumber _ parsed tx isTx) kept

/-- A pending transaction adds at most itself. -/
theorem pendingTx (informed : Informed lib pools config mempool source loop)
    (published : Published lib mempool tx) :
    Informed lib pools config mempool (source.handlePendingTxEvent tx) loop := by
  generalize same : source.handlePendingTxEvent tx = after
  have outcome := same ▸ handlePendingTxEvent_outcome source tx
  cases outcome with
  | ignored => exact informed
  | @accepted accepted opened valid kept fresh =>
    refine ⟨informed.configured, informed.composes, ?_, informed.holding⟩
    intro key candidate found
    rw [lookup_insertOrAssign] at found
    split at found
    · cases found
      rw [informed.configured] at kept
      exact genuine_of_filter published kept
    · exact informed.stored key candidate found

/-- What a pop hands out was stored. -/
theorem pop (informed : Informed lib pools config mempool source loop)
    {result : Except Core.CandidateState.Error StateSnapshot}
    (returned : source.waitPopState = some (result, popped)) :
    Informed lib pools config mempool popped loop ∧ ∀ state, result = .ok state →
      ∀ candidate, state.candidate = some candidate → Genuine lib pools mempool candidate := by
  cases waitPopState_outcome returned with
  | closed =>
    refine ⟨informed, ?_⟩
    intro state impossible
    cases impossible
  | invalid =>
    refine ⟨⟨informed.configured, informed.composes, informed.stored, informed.holding⟩, ?_⟩
    intro state isState candidate impossible
    cases isState
    cases impossible
  | emptied =>
    refine ⟨informed, ?_⟩
    intro state impossible
    cases impossible
  | popped opened quiet valid found least =>
    refine ⟨⟨informed.configured, informed.composes, ?_, informed.holding⟩, ?_⟩
    · intro key candidate isThere
      rw [lookup_erase] at isThere
      split at isThere
      · cases isThere
      · exact informed.stored key candidate isThere
    · intro state isState candidate isCandidate
      cases isState
      cases isCandidate
      exact informed.stored _ _ found

/-- The loop takes up a state. -/
theorem receive (informed : Informed lib pools config mempool source loop) {state : StateSnapshot}
    (genuine : ∀ candidate, state.candidate = some candidate → Genuine lib pools mempool candidate) :
    Informed lib pools config mempool source (loop.receive lib state) := by
  refine ⟨informed.configured, ?_, informed.stored, ?_⟩
  · rw [receive_composer]
    exact informed.composes
  · intro taken bundle isHeld
    rw [receive_held] at isHeld
    obtain ⟨composed, isBundle, same⟩ := Option.map_eq_some_iff.mp isHeld
    cases same
    exact ⟨⟨loop.composer, informed.composes, isBundle⟩, genuine⟩

end Informed

/-- The invariant of a system. -/
structure Told (lib : Libraries) (pools : List Pool) (config : BackrunConfig) (system : System) :
    Prop where
  proper : Proper system.builder.mempool
  informed : Informed lib pools config system.builder.mempool system.source system.loop

/-- Every step of an honest environment keeps it. -/
theorem Told.step {event : Event} (told : Told lib pools config system)
    (honest : Honest lib system event) (performed : Performed lib ethCall system event after) :
    Told lib pools config after := by
  obtain ⟨proper, added, follows⟩ := performed_mempool told.proper honest performed
  refine ⟨proper, ?_⟩
  have later := told.informed.follows follows
  cases performed with
  | addTransaction => exact later
  | otherBundle => exact later
  | newBlock => exact later
  | readPool => exact later
  | finishBlock answer isReading => exact told.informed.finishBlock honest _ _
  | pendingTx tx isIdle => exact told.informed.pendingTx honest
  | close =>
    exact ⟨told.informed.configured, told.informed.composes, told.informed.stored,
      told.informed.holding⟩
  | popped isWaiting returned =>
    obtain ⟨informed, genuine⟩ := told.informed.pop returned
    exact informed.receive (genuine _ rfl)
  | closed isWaiting returned => exact (told.informed.pop returned).1
  | simulated transport answers now isSimulating =>
    exact later.letGo (proceed_config _ _) (proceed_held _ _)
  | submitted transport answers now isSubmitting =>
    exact later.letGo (proceed_config _ _) (proceed_held _ _)

theorem Told.reached {events : List Event}
    (run : (honestDeployment lib ethCall pools config).Run events system) :
    Told lib pools config system := by
  refine Run.invariant (Told lib pools config) run ?_ ?_
  · rintro system ⟨⟨isSource, _, isWaiting⟩, proper, isConfig⟩
    rw [← isConfig] at *
    refine ⟨proper, by rw [isSource], rfl, ?_, ?_⟩
    · intro key candidate impossible
      rw [isSource] at impossible
      simp at impossible
    · intro state bundle impossible
      rw [isWaiting] at impossible
      cases impossible
  · rintro system event after told ⟨honest, performed⟩
    exact told.step honest (perform_performed performed)

/-- An honest run is a run. -/
theorem honest_run {events : List Event}
    (run : (honestDeployment lib ethCall pools config).Run events system) :
    (deployment lib ethCall pools).Run events system :=
  Run.transfer run (fun _ started => started.1) fun _ _ _ _ taken => taken.2

/-- The same from one known start. -/
def honestFrom (lib : Libraries)
    (ethCall : List Block → List (String × String) → Except PyError String) (pools : List Pool)
    (config : BackrunConfig) (start : System) : Machine System Event where
  initial system := system = start
  step := (honestDeployment lib ethCall pools config).step

/-- An honest run goes on by one event. -/
theorem honest_event {events : List Event} {start : System}
    (run : (honestFrom lib ethCall pools config start).Run events system) (event : Event)
    (honest : Honest lib system event) (performed : system.perform lib ethCall event = some after) :
    (honestFrom lib ethCall pools config start).Run (events ++ [event]) after :=
  run.step ⟨honest, performed⟩

/-! ## Bundles in work -/

/-- Everything that goes into a bundle. -/
structure MadeOf (lib : Libraries) (composer : TxComposer) (state : StateSnapshot) (bundle : Bundle)
    (candidate : Candidate) (swap : Swap) (opportunity : Opportunity) (backrunTx : EvmTransaction) :
    Prop where
  listed : state.candidate = some candidate
  decoded : decodeSwap lib candidate = some swap
  found : findArbitrage state candidate swap defaultParams = some opportunity
  composed : composer.compose opportunity = .ok backrunTx
  isBundle : bundle = {
    blockNumber := state.blockNumber
    transactions := [.mempoolTxRef candidate.tx.mempoolTxId, .transaction backrunTx] }

theorem bundleOf_madeOf {composer : TxComposer} {state : StateSnapshot} {bundle : Bundle}
    (isBundle : bundleOf lib composer state = some bundle) :
    ∃ candidate swap opportunity backrunTx,
      MadeOf lib composer state bundle candidate swap opportunity backrunTx := by
  obtain ⟨⟨candidate, opportunity⟩, isFound, isBundle⟩ := Option.bind_eq_some_iff.mp isBundle
  obtain ⟨backrunTx, isComposed, same⟩ := Option.bind_eq_some_iff.mp isBundle
  unfold opportunityOf at isFound
  split at isFound
  · obtain ⟨_, listed, isFound⟩ := Option.bind_eq_some_iff.mp isFound
    obtain ⟨swap, decoded, isFound⟩ := Option.bind_eq_some_iff.mp isFound
    obtain ⟨_, found, isFound⟩ := Option.bind_eq_some_iff.mp isFound
    cases isFound
    cases composed : composer.compose opportunity with
    | error error =>
      rw [composed] at isComposed
      cases isComposed
    | ok transaction =>
      rw [composed] at isComposed
      cases isComposed
      exact ⟨candidate, swap, opportunity, backrunTx, listed, decoded, found, composed,
        (Option.some.inj same).symm⟩
  · cases isFound

/-- What the builder makes of a bundle that names this record: the bundle, while the
record is pending, and a conflict afterwards. -/
def readAgainst (lib : Libraries) (record : MempoolRecord) (backrunTx : EvmTransaction)
    (blockNumber : UInt64) : Except PyError Core.BlockBuilder.Bundle :=
  if record.status = .pending then
    .ok ⟨[⟨some record.mempoolTxId, record.transaction⟩, ⟨none, asTransaction lib backrunTx⟩],
      some blockNumber.toNat⟩
  else
    .error (.httpException 409 ("mempool transaction '" ++ record.mempoolTxId ++ "' is '" ++
      record.status.text ++ "', not 'pending'"))

/-- A candidate and the one record it was told from. -/
structure Victim (lib : Libraries) (pools : List Pool) (mempool : Mempool) (candidate : Candidate)
    (record : MempoolRecord) : Prop where
  member : record ∈ mempool.transactions
  unique : ∀ other ∈ mempool.transactions, other.mempoolTxId = candidate.tx.mempoolTxId →
    other = record
  tells : Tells lib record candidate.tx
  filtered : CandidateFilter.filter pools candidate.tx = some candidate

theorem Genuine.victim (genuine : Genuine lib pools mempool candidate) (proper : Proper mempool) :
    ∃ record, Victim lib pools mempool candidate record := by
  obtain ⟨filtered, record, member, tells⟩ := genuine
  refine ⟨record, member, ?_, tells, filtered⟩
  intro other isOther same
  exact List.inj_on_of_nodup_map proper.sequenced.ids isOther member (same.trans tells.mempoolTxId)

/-- It stays the victim's record as long as it is there unchanged. -/
theorem Victim.kept {record : MempoolRecord} {grown : Mempool}
    (victim : Victim lib pools mempool candidate record) (proper : Proper grown)
    (isKept : record ∈ grown.transactions) : Victim lib pools grown candidate record := by
  refine ⟨isKept, ?_, victim.tells, victim.filtered⟩
  intro other isOther same
  exact List.inj_on_of_nodup_map proper.sequenced.ids isOther isKept
    (same.trans victim.tells.mempoolTxId)

/-- The builder finds the victim under the name that the bundle gives. -/
theorem Victim.read {record : MempoolRecord} {composer : TxComposer} {state : StateSnapshot}
    {bundle : Bundle} {swap : Swap} {opportunity : Opportunity} {backrunTx : EvmTransaction}
    {blockNumber : UInt64} (victim : Victim lib pools mempool candidate record)
    (proper : Proper mempool)
    (made : MadeOf lib composer state bundle candidate swap opportunity backrunTx)
    (isBlock : state.blockNumber = some blockNumber) :
    Core.BlockBuilder.Bundle.fromJson (Bundle.toJson lib bundle) mempool =
      readAgainst lib record backrunTx blockNumber := by
  have isName := victim.tells.mempoolTxId
  have found : mempool.getTransaction candidate.tx.mempoolTxId = some record := by
    rw [isName]
    exact getTransaction_of_mem proper.sequenced.wellNumbered victim.member
  have named : candidate.tx.mempoolTxId ≠ "" := by
    rw [isName]
    exact proper.named record victim.member
  rw [made.isBundle, isBlock, readAgainst]
  split
  · next isPending => rw [knightBundle_read named found isPending, isName]
  · next notPending => rw [knightBundle_conflict named found notPending, isName]

/-- **A bundle in work names its victim.** Wherever Knight and the builder can get while
the loop simulates or submits a bundle: the mempool has one record under the name that
the bundle refers to, the one that the state's candidate was told from; the builder takes
the bundle, with that record's transaction in front, for as long as the record is
pending, and refuses it as a conflict from then on. -/
theorem bundle_names_its_victim {events : List Event} {state : StateSnapshot} {bundle : Bundle}
    (run : (honestDeployment lib ethCall pools config).Run events system)
    (isHeld : held system.loop.phase = some (state, bundle)) :
    ∃ composer candidate swap opportunity backrunTx record blockNumber,
      composer.config = config ∧ state.blockNumber = some blockNumber ∧
      MadeOf lib composer state bundle candidate swap opportunity backrunTx ∧
      Victim lib pools system.builder.mempool candidate record ∧
      Core.BlockBuilder.Bundle.fromJson (Bundle.toJson lib bundle) system.builder.mempool =
        readAgainst lib record backrunTx blockNumber := by
  have told := Told.reached run
  obtain ⟨⟨composer, isConfig, isBundle⟩, genuine⟩ := told.informed.holding state bundle isHeld
  obtain ⟨blockNumber, isBlock, _⟩ := (Fresh.reached (honest_run run)).holding state bundle isHeld
  obtain ⟨candidate, swap, opportunity, backrunTx, made⟩ := bundleOf_madeOf isBundle
  obtain ⟨record, victim⟩ := (genuine candidate made.listed).victim told.proper
  exact ⟨composer, candidate, swap, opportunity, backrunTx, record, blockNumber, isConfig, isBlock, made,
    victim, victim.read told.proper made isBlock⟩

/-! A victim posts its swap to an empty builder. Knight reads both pools at the genesis
block, learns of the swap from the snapshot, and simulates the bundle of the pair. -/

def postedTransaction : Core.BlockBuilder.Transaction := asTransaction documented postedVictim

def postedMempool : Mempool := (({} : Mempool).addTransaction postedTransaction "1" "now").2

def postedRecord : MempoolRecord := (({} : Mempool).addTransaction postedTransaction "1" "now").1

/-- What Knight is told of it. -/
def toldVictim : PendingTransaction :=
  { postedVictim with mempoolTxId := "mp-1", seqNum := 1, status := "pending", submittedAt := "now" }

def postedComposer : TxComposer where
  config := {
    botAddress := List.replicate 19 0 ++ [0x0F]
    contractAddress := List.replicate 19 0 ++ [0xE0] }
  nextNonce := some 0

/-- The backrun that the composer makes of it. -/
def postedBackrun : EvmTransaction :=
  { sampleBackrun with
    source := List.replicate 19 0 ++ [0x0F]
    recipient := some (List.replicate 19 0 ++ [0xE0]) }

def postedBundle : Bundle := ⟨some 0, [.mempoolTxRef "mp-1", .transaction postedBackrun]⟩

def postedState : StateSnapshot where
  valid := true
  blockNumber := some 0
  pools := [⟨dexPool 0xD1, 1000000, 1000000⟩, ⟨dexPool 0xD2, 1000000, 1000000⟩]
  candidate := some ⟨toldVictim, dexPool 0xD1, .aForB⟩

theorem postedBundle_made : bundleOf documented postedComposer postedState = some postedBundle := by
  decide +kernel

/-- The source once the snapshot is applied. -/
def postedSource : CandidateSource where
  pools := dexPools
  state := snapshotted (CandidateFilter.filterSnapshot dexPools ⟨0, 1, [toldVictim]⟩) postedState.pools

theorem postedSource_pop :
    postedSource.waitPopState = some (.ok postedState, poppedSource postedSource) :=
  waitPopState_of_result (by decide +kernel)

def postedStart : System where
  builder := { node := {}, mempool := {} }
  source := { pools := dexPools }
  loop := { composer := postedComposer }

/-- What the simulation offered, and took back. -/
def postedBuilder : Builder where
  node := { offered := [postedTransaction, asTransaction documented postedBackrun] }
  mempool := postedMempool

/-- Knight with the bundle, before it is simulated. -/
def postedSimulating : System where
  builder := { node := {}, mempool := postedMempool }
  source := poppedSource postedSource
  loop := {
    composer := postedComposer
    phase := .simulating postedState postedBundle kMaxAttempts }

def postedSystem : System where
  builder := postedBuilder
  source := poppedSource postedSource
  loop := {
    composer := postedComposer
    phase := .submitting postedState postedBundle kMaxAttempts }

def postedEvents : List Event := [
  .addTransaction postedTransaction "1" "now", .newBlock 0, .readPool true, .readPool true,
  .finishBlock (some (some postedMempool.pendingSnapshot)), .pendingTx toldVictim, .pop,
  .exchange .arrives obligingAnswers "now"]

theorem postedRecord_clean : Clean postedRecord := by
  unfold Clean
  decide +kernel

theorem postedRecord_read :
    PendingTransaction.fromJson documented postedRecord.toJson = some toldVictim := by
  have read : PendingTransaction.fromJson documented postedRecord.toJson =
      some (toldOf postedVictim postedRecord) :=
    pendingRecord_read documented_inverts postedVictim_sized postedRecord_clean rfl (by decide) rfl
  have isTold : toldOf postedVictim postedRecord = toldVictim := by
    decide +kernel
  rw [read, isTold]

theorem postedSnapshot_read : snapshotOf documented 0 (some (some postedMempool.pendingSnapshot)) =
    some ⟨0, 1, [toldVictim]⟩ := by
  have isPending : pendingRecords postedMempool = [postedRecord] := rfl
  rw [pendingSnapshot_read 0 (by decide), isPending, List.map_singleton, List.filterMap_cons,
    postedRecord_read]
  rfl

/-- The bundle as the builder reads it. -/
def postedParsed : Core.BlockBuilder.Bundle :=
  ⟨[⟨some "mp-1", postedTransaction⟩, ⟨none, asTransaction documented postedBackrun⟩], some 0⟩

theorem postedParsed_read :
    Core.BlockBuilder.Bundle.fromJson (Bundle.toJson documented postedBundle) postedMempool =
      .ok postedParsed := by
  have found : postedMempool.getTransaction "mp-1" = some postedRecord := rfl
  exact knightBundle_read (by decide) found rfl

theorem postedSimulation :
    simulatePrivateBundle obligingAnswers (Bundle.toJson documented postedBundle)
        { node := {}, mempool := postedMempool } =
      (.ok (.object (Core.BlockBuilder.resultFields (sampleResults "mp-1") ++
        [("simulated", .bool true)])), postedBuilder) := by
  rw [simulatePrivateBundle, postedParsed_read]
  rfl

/-- The worker at the genesis block, with the answers so far. -/
def postedReading (answers : List (Option Body)) : System :=
  { postedStart with builder := { node := {}, mempool := postedMempool }, worker := .reading 0 answers }

/-- The node answers both reserve requests at the genesis block. -/
def AnswersReserves (ethCall : List Block → List (String × String) → Except PyError String) : Prop :=
  ∀ pool ∈ dexPools, ethCall [] [("to", hexData pool.address),
    ("data", hexData CandidateSource.getReservesSelector)] = .ok (hexData reserveWords)

theorem postedReading_next {answers : List (Option Body)} {pool : Pool}
    (answering : AnswersReserves ethCall) (isNext : dexPools[answers.length]? = some pool) :
    (postedReading answers).perform documented ethCall (.readPool true) =
      some (postedReading (answers ++ [some (some reserveReply)])) := by
  have reply : (postedReading answers).reserveAnswer ethCall pool 0 true = some (some reserveReply) :=
    reserveAnswer_arrives (Nat.zero_le _) (answering pool (List.mem_of_getElem? isNext))
  have listed : (postedReading answers).source.pools[answers.length]? = some pool := isNext
  change ((postedReading answers).source.pools[answers.length]?.map fun pool =>
    postedReading (answers ++ [(postedReading answers).reserveAnswer ethCall pool 0 true])) = _
  rw [listed, Option.map_some, reply]

theorem postedSimulating_path (answering : AnswersReserves ethCall) :
    (honestFrom documented ethCall dexPools postedComposer.config postedStart).Run postedEvents.dropLast
      postedSimulating := by
  have started : (honestFrom documented ethCall dexPools postedComposer.config postedStart).Run []
      postedStart := .start rfl
  have posted := honest_event started (.addTransaction postedTransaction "1" "now")
    (fun _ impossible => absurd impossible List.not_mem_nil) rfl
  have begun : (honestFrom documented ethCall dexPools postedComposer.config postedStart).Run _
    (postedReading []) := honest_event posted (.newBlock 0) trivial rfl
  have answered := honest_event (honest_event begun (.readPool true) trivial
    (postedReading_next answering rfl)) (.readPool true) trivial (postedReading_next answering rfl)
  have reserves : CandidateSource.requestPoolSnapshots documented
      (fun index _ => ([] ++ [some (some reserveReply)] ++ [some (some reserveReply)])[index]?.getD none)
        0 0 dexPools = some postedState.pools :=
    requestPoolSnapshots_answered rfl (reserves_read _)
      (requestPoolSnapshots_answered rfl (reserves_read _) rfl)
  have applied := handleNewBlockEvent_first reserves postedSnapshot_read
  have finished : (postedReading ([] ++ [some (some reserveReply)] ++
      [some (some reserveReply)])).perform documented ethCall
        (.finishBlock (some (some postedMempool.pendingSnapshot))) =
          some { postedStart with
            builder := { node := {}, mempool := postedMempool }, source := postedSource } := by
    rw [postedSource, ← applied]
    rfl
  have clean : ∀ record ∈ postedMempool.transactions, Clean record := by
    intro record member
    rw [List.mem_singleton.mp member]
    exact postedRecord_clean
  have ready := honest_event answered (.finishBlock (some (some postedMempool.pendingSnapshot)))
    (snapshot_honest clean) finished
  -- The message about the record comes after the snapshot that has it, and is passed over.
  have message : parsePendingTxEvent documented (some postedRecord.message) = some toldVictim := by
    rw [MempoolRecord.message, CandidateDelivery.Kept.parsePendingTxEvent_record, postedRecord_read]
  have told := honest_event ready (.pendingTx toldVictim)
    (message_honest postedRecord_clean List.mem_cons_self message) rfl
  have received : postedStart.loop.receive documented postedState =
      { postedStart.loop with phase := .simulating postedState postedBundle kMaxAttempts } :=
    receive_bundle postedBundle_made
  have popped := honest_event told .pop trivial (perform_pop rfl postedSource_pop)
  rw [received] at popped
  exact popped

theorem postedSimulation_passes : postedSimulating.perform documented ethCall
    (.exchange .arrives obligingAnswers "now") = some postedSystem := by
  have exchanged : postedSimulating.perform documented ethCall (.exchange .arrives obligingAnswers "now") = _ :=
    perform_simulation rfl .arrives obligingAnswers "now"
  rw [exchangeWith_handled (show Reaches .arrives from trivial) postedSimulation] at exchanged
  have legible : ∀ result ∈ sampleResults "mp-1", Legible documented result :=
    fun _ member => sampleResults_legible member
  have allIncluded : ∀ result ∈ sampleResults "mp-1", result.status = .included :=
    fun _ member => sampleResults_included member
  obtain ⟨simulation, read, included⟩ := simulationResult_read legible allIncluded
  rw [delivered, readResponse, proceed_included rfl read included] at exchanged
  exact exchanged

theorem postedSystem_path (answering : AnswersReserves ethCall) :
    (honestFrom documented ethCall dexPools postedComposer.config postedStart).Run postedEvents
      postedSystem :=
  honest_event (postedSimulating_path answering) _ trivial postedSimulation_passes

theorem postedStart_initial :
    (honestDeployment documented ethCall dexPools postedComposer.config).initial postedStart := by
  have proper : Proper ({} : Mempool) := by
    refine ⟨⟨List.nodup_nil, rfl⟩, ?_⟩
    intro record impossible
    cases impossible
  exact ⟨⟨rfl, rfl, rfl⟩, proper, rfl⟩

theorem postedSystem_run (answering : AnswersReserves ethCall) :
    (honestDeployment documented ethCall dexPools postedComposer.config).Run postedEvents postedSystem := by
  refine Run.transfer (postedSystem_path answering) ?_ fun _ _ _ _ taken => taken
  rintro _ rfl
  exact postedStart_initial

/-- The pair on its way to the builder: it is the posted swap that the bundle refers to. -/
theorem bundle_names_its_victim_posted :
    ∃ record, Victim documented dexPools postedMempool ⟨toldVictim, dexPool 0xD1, .aForB⟩ record ∧
      Core.BlockBuilder.Bundle.fromJson (Bundle.toJson documented postedBundle) postedMempool =
        readAgainst documented record postedBackrun 0 := by
  have answering : AnswersReserves sampleEthCall := fun _ _ => rfl
  have isHeld : held postedSystem.loop.phase = some (postedState, postedBundle) := rfl
  obtain ⟨_, candidate, _, _, backrunTx, record, blockNumber, _, isBlock, made, victim, read⟩ :=
    bundle_names_its_victim (postedSystem_run answering) isHeld
  have isCandidate : candidate = ⟨toldVictim, dexPool 0xD1, .aForB⟩ :=
    (Option.some.inj made.listed).symm
  have isBackrun : backrunTx = postedBackrun := by
    have items := congrArg Bundle.transactions made.isBundle
    simp only [postedBundle, List.cons.injEq, BundleItem.transaction.injEq, and_true] at items
    exact items.2.symm
  have isNumber : blockNumber = 0 := (Option.some.inj isBlock).symm
  subst isCandidate isBackrun isNumber
  exact ⟨record, victim, read⟩

end DexKnight.KnownCandidates
