import DexKnight.BundleFreshness

/-! The composer's nonce against the chain. Knight reads the bot's transaction count
once, when it starts, and from then on counts the submissions whose answer it could
read. The two stay equal as long as every backrun the node accepts is acknowledged: a
simulation takes it back, out of the node's pool as well, and a submission mines it and
says so. A lost or unreadable answer to a submission that mined, an answer about a backrun
that was not mined, and a simulated backrun that waits on in the pool each set the counter
apart from the chain, and nothing reads the count again. -/
namespace DexKnight.NonceAgreement
open Core.Types Core.Wire Core.Codec Core.CandidateState Core.Runtime Core.Deployment BuilderProofs
  MempoolProofs DeploymentProofs BundleWire WireProofs Support.Runs Support.Reverting
open Core.BlockBuilder (Answers Block Builder Node PyError Response Transaction TxResult chainNonce
  submitPrivateBundle simulatePrivateBundle)

variable {lib : Libraries} {ethCall : List Block → List (String × String) → Except PyError String}
  {pools : List Pool} {genesis : Nat} {bot : Bytes} {system after : System} {builder : Builder}
  {node : Node} {answers : Answers} {payload : Fields} {now : String}

/-! ## The bot's account -/

/-- The account a node takes an address for: digits in either case, with or without
`0x`. -/
def accountOf (address : String) : List Char :=
  ((hexPrefixed address).getD address.toList).map Char.toLower

def sentFrom (bot : Bytes) (transaction : Transaction) : Bool :=
  accountOf transaction.fromAddress = accountOf (hexData bot)

/-- The transaction count of the bot: what it was before the first block, and what was
mined since. -/
def transactionCount (genesis : Nat) (bot : Bytes) (blocks : List Block) : Nat :=
  genesis + blocks.flatten.countP (sentFrom bot)

/-- Nothing of the bot's waits at the builder. -/
structure Apart (bot : Bytes) (builder : Builder) : Prop where
  pool : ∀ transaction ∈ builder.node.pool, sentFrom bot transaction = false
  records : ∀ record ∈ builder.mempool.transactions, sentFrom bot record.transaction = false

/-- A step of the builder that does nothing for the bot. -/
structure Quiet (bot : Bytes) (before after : Builder) : Prop where
  apart : Apart bot after
  mined : after.node.blocks.flatten.countP (sentFrom bot) =
    before.node.blocks.flatten.countP (sentFrom bot)

/-- Where nothing of the bot's is accepted, nothing of the bot's is mined. -/
theorem placed_quiet {accepted : List Transaction} {placedNode : Node}
    (placed : Placed node accepted placedNode)
    (pool : ∀ transaction ∈ node.pool, sentFrom bot transaction = false)
    (foreign : ∀ transaction ∈ accepted, sentFrom bot transaction = false) :
    (∀ transaction ∈ placedNode.pool, sentFrom bot transaction = false) ∧
      placedNode.blocks.flatten.countP (sentFrom bot) =
        node.blocks.flatten.countP (sentFrom bot) := by
  have all : ∀ transaction ∈ node.pool ++ accepted, sentFrom bot transaction = false := by
    intro transaction member
    rcases List.mem_append.mp member with isOld | isNew
    · exact pool transaction isOld
    · exact foreign transaction isNew
  cases placed with
  | pooled blocks isPool =>
    rw [blocks, isPool]
    exact ⟨all, rfl⟩
  | mined mining blocks isPool =>
    rw [blocks, isPool]
    refine ⟨fun transaction member => all transaction (Mining.mem_left member), ?_⟩
    have none : (mining.block (node.pool ++ accepted)).countP (sentFrom bot) = 0 := by
      rw [List.countP_eq_zero]
      intro transaction member
      simp [all transaction (Mining.mem_block member)]
    simp only [List.flatten_append, List.countP_append, List.flatten_cons, List.flatten_nil,
      List.append_nil, none, Nat.add_zero]

/-- The transactions of a bundle that the node accepts are not the bot's. -/
def Foreign (bot : Bytes) (answers : Answers) (bundle : Core.BlockBuilder.Bundle) : Prop :=
  ∀ position item, bundle.items[position]? = some item → Accepted answers position →
    sentFrom bot item.transaction = false

theorem executed_quiet {bundle : Core.BlockBuilder.Bundle}
    {result : Except PyError (List TxResult)} {afterNode : Node}
    (pool : ∀ transaction ∈ node.pool, sentFrom bot transaction = false)
    (foreign : Foreign bot answers bundle)
    (executed : Executed answers bundle node result afterNode) :
    (∀ transaction ∈ afterNode.pool, sentFrom bot transaction = false) ∧
      afterNode.blocks.flatten.countP (sentFrom bot) =
        node.blocks.flatten.countP (sentFrom bot) := by
  obtain ⟨accepted, placed, known⟩ := executed_placed executed
  refine placed_quiet placed pool ?_
  intro transaction member
  obtain ⟨position, item, isItem, rfl, isAccepted⟩ := known transaction member
  exact foreign position item isItem isAccepted

/-- A submission whose accepted transactions are others'. -/
theorem submission_quiet {response : Response} {afterwards : Builder}
    (submitted : Submitted answers now payload builder response afterwards) (apart : Apart bot builder)
    (foreign : ∀ bundle, Admitted answers payload builder bundle → Foreign bot answers bundle) :
    Quiet bot builder afterwards := by
  cases submitted with
  | rejected => exact ⟨apart, rfl⟩
  | failed admitted executed =>
    obtain ⟨pool, mined⟩ := executed_quiet apart.pool (foreign _ admitted) executed
    exact ⟨⟨pool, apart.records⟩, mined⟩
  | completed admitted executed marked =>
    obtain ⟨pool, mined⟩ := executed_quiet apart.pool (foreign _ admitted) executed
    refine ⟨⟨pool, ?_⟩, mined⟩
    exact markAllMined_transactions (fun transaction => sentFrom bot transaction = false) marked
      apart.records

/-- A revert brings back the chain, and into the pool nothing that was not in it. -/
theorem reverted_quiet {afterNode : Node} (apart : Apart bot builder)
    (pool : ∀ transaction ∈ afterNode.pool, sentFrom bot transaction = false) :
    Quiet bot builder { builder with node := reverted answers builder.node afterNode } := by
  refine ⟨⟨?_, apart.records⟩, rfl⟩
  intro transaction member
  rcases answers.rollback.pooled _ _ transaction member with isSaved | isPresent
  · exact apart.pool transaction isSaved
  · exact pool transaction isPresent

theorem addTransaction_quiet {transaction : Transaction} {uuid : String} (apart : Apart bot builder)
    (foreign : sentFrom bot transaction = false) :
    Quiet bot builder { builder with
      mempool := (builder.mempool.addTransaction transaction uuid now).2 } := by
  refine ⟨⟨apart.pool, ?_⟩, rfl⟩
  intro record member
  rcases mem_setItem member with rfl | ⟨isOld, _⟩
  · exact foreign
  · exact apart.records record isOld

/-! ## Knight's bundles -/

/-- A bundle of the core loop: a reference to the victim, and a transaction of the
bot's. -/
def Composed (bot : Bytes) (bundle : Bundle) : Prop :=
  ∃ mempoolTxId tx, bundle.transactions = [.mempoolTxRef mempoolTxId, .transaction tx] ∧
    tx.source = bot

theorem bundleOf_composed {composer : TxComposer} {state : StateSnapshot} {bundle : Bundle}
    (configured : composer.config.botAddress = bot)
    (composed : bundleOf lib composer state = some bundle) : Composed bot bundle := by
  obtain ⟨⟨candidate, opportunity⟩, _, composed⟩ := Option.bind_eq_some_iff.mp composed
  obtain ⟨tx, isTx, composed⟩ := Option.bind_eq_some_iff.mp composed
  cases composed
  refine ⟨candidate.tx.mempoolTxId, tx, rfl, ?_⟩
  unfold TxComposer.compose at isTx
  split at isTx
  · cases isTx
  · split at isTx
    · cases isTx
    · cases isTx
      exact configured

/-- As the builder reads it: somebody else's transaction, then one of the bot's. -/
structure Backrun (bot : Bytes) (items : List Core.BlockBuilder.BundleItem)
    (victim backrun : Core.BlockBuilder.BundleItem) : Prop where
  items : items = [victim, backrun]
  foreign : sentFrom bot victim.transaction = false
  own : sentFrom bot backrun.transaction = true

/-- An item with a reference keeps it. -/
private theorem reference_kept {mempool : Core.BlockBuilder.Mempool} {mempoolTxId : String}
    {item : Core.BlockBuilder.BundleItem}
    (parsed : Core.BlockBuilder.BundleItem.fromJson
      (.object [("mempoolTxId", .string mempoolTxId)]) mempool = .ok item) :
    item.mempoolTxId = some mempoolTxId := by
  rw [Core.BlockBuilder.BundleItem.fromJson, reference_present] at parsed
  dsimp only at parsed
  split at parsed
  · cases parsed
  · split at parsed
    · cases parsed
    · split at parsed
      · cases parsed
        rfl
      · cases parsed

theorem composed_read {bundle : Bundle} {parsed : Core.BlockBuilder.Bundle}
    (apart : Apart bot builder) (composed : Composed bot bundle)
    (read : Core.BlockBuilder.Bundle.fromJson (Bundle.toJson lib bundle) builder.mempool =
      .ok parsed) :
    ∃ victim backrun, Backrun bot parsed.items victim backrun := by
  obtain ⟨mempoolTxId, tx, isList, isBot⟩ := composed
  obtain ⟨_, _, rawItems, isArray, isItems⟩ := bundle_parsed read
  have whole : bundle = ⟨bundle.blockNumber, [.mempoolTxRef mempoolTxId, .transaction tx]⟩ := by
    rw [← isList]
  rw [whole, knightBundle_transactions] at isArray
  cases isArray
  rw [List.mapM_cons, List.mapM_cons, bundleItem_transaction] at isItems
  obtain ⟨victim, isVictim, isItems⟩ := except_bind_ok.mp isItems
  have items : [victim, ⟨none, asTransaction lib tx⟩] = parsed.items := Except.ok.inj isItems
  refine ⟨victim, ⟨none, asTransaction lib tx⟩, items.symm, ?_, ?_⟩
  · obtain ⟨record, member, _, _, same⟩ := bundleItem_reference isVictim (reference_kept isVictim)
    rw [same]
    exact apart.records record member
  · have sender : (asTransaction lib tx).fromAddress = hexData bot := congrArg hexData isBot
    simp [sentFrom, sender]

/-- While the backrun itself is not accepted, what is accepted is somebody else's. -/
theorem Backrun.foreign_of_refused {parsed : Core.BlockBuilder.Bundle}
    {victim backrun : Core.BlockBuilder.BundleItem}
    (isBackrun : Backrun bot parsed.items victim backrun) (refused : ¬Accepted answers 1) :
    Foreign bot answers parsed := by
  intro position item isItem isAccepted
  rw [isBackrun.items] at isItem
  match position with
  | 0 =>
    cases isItem
    exact isBackrun.foreign
  | 1 => exact absurd isAccepted refused
  | _ + 2 => cases isItem

/-- The block that the node mines of a bundle takes what is the bot's. -/
def Takes (bot : Bytes) (answers : Answers) (node : Node) (bundle : Core.BlockBuilder.Bundle) : Prop :=
  ∀ item ∈ bundle.items, sentFrom bot item.transaction = true →
    item.transaction ∈ answers.mining.block (loaded node bundle).pool

/-- A mined backrun adds one to the count and leaves nothing behind. -/
theorem Backrun.mined {parsed : Core.BlockBuilder.Bundle}
    {victim backrun : Core.BlockBuilder.BundleItem}
    (isBackrun : Backrun bot parsed.items victim backrun)
    (pool : ∀ transaction ∈ node.pool, sentFrom bot transaction = false)
    (takes : Takes bot answers node parsed) :
    (∀ transaction ∈ ((loaded node parsed).mine answers.mining).pool,
        sentFrom bot transaction = false) ∧
      ((loaded node parsed).mine answers.mining).blocks.flatten.countP (sentFrom bot) =
        node.blocks.flatten.countP (sentFrom bot) + 1 := by
  have isPool : (loaded node parsed).pool =
      node.pool ++ [victim.transaction] ++ [backrun.transaction] := by
    simp [loaded, sent, transactionsOf, isBackrun.items]
  have others : (node.pool ++ [victim.transaction]).countP (sentFrom bot) = 0 := by
    rw [List.countP_eq_zero]
    intro transaction member
    rcases List.mem_append.mp member with isOld | isVictim
    · simp [pool transaction isOld]
    · simp [List.mem_singleton.mp isVictim, isBackrun.foreign]
  have single : (loaded node parsed).pool.countP (sentFrom bot) = 1 := by
    rw [isPool, List.countP_append, others, List.countP_singleton, if_pos isBackrun.own]
  have member : backrun ∈ parsed.items := by
    rw [isBackrun.items]
    exact List.mem_cons_of_mem _ List.mem_cons_self
  obtain ⟨one, nothing⟩ := Mining.takes_one single (takes backrun member isBackrun.own) isBackrun.own
  refine ⟨nothing, ?_⟩
  have blocks : ((loaded node parsed).mine answers.mining).blocks =
      node.blocks ++ [answers.mining.block (loaded node parsed).pool] := rfl
  rw [blocks, List.flatten_append, List.countP_append, List.flatten_singleton, one]

/-! ## Simulations -/

/-- The node's snapshots hold the pool too. -/
def Restores (rollback : Core.BlockBuilder.Rollback) : Prop :=
  ∀ saved present, ∀ transaction ∈ rollback.pool saved present, transaction ∈ saved

/-- A bundle that is mined with what is the bot's: no send raises, the mining takes
effect, and the block takes it. -/
structure MinesOwn (bot : Bytes) (answers : Answers) (node : Node)
    (bundle : Core.BlockBuilder.Bundle) : Prop where
  sends : SendsAnswered answers.send 0 bundle.items.length
  mines : answers.mine.TookEffect
  takes : Takes bot answers node bundle

/-- A simulation is taken back: the revert takes effect, and the backrun is then out of
the pool, because the snapshot held the pool or because the simulated block took it. -/
structure TakenBack (bot : Bytes) (answers : Answers) (node : Node)
    (bundle : Core.BlockBuilder.Bundle) : Prop where
  reverts : answers.revert.TookEffect
  cleared : Restores answers.rollback ∨ MinesOwn bot answers node bundle

/-- Once it is mined, nothing of the bot's waits. -/
theorem Backrun.cleared {parsed : Core.BlockBuilder.Bundle}
    {victim backrun : Core.BlockBuilder.BundleItem} {result : Except PyError (List TxResult)}
    {afterNode : Node} (isBackrun : Backrun bot parsed.items victim backrun)
    (pool : ∀ transaction ∈ node.pool, sentFrom bot transaction = false)
    (minesOwn : MinesOwn bot answers node parsed)
    (executed : Executed answers parsed node result afterNode) :
    ∀ transaction ∈ afterNode.pool, sentFrom bot transaction = false := by
  have mined := (isBackrun.mined pool minesOwn.takes).1
  cases executed with
  | @sendRaised position tookEffect error bound before raised =>
    obtain ⟨txHash, answered⟩ := minesOwn.sends position bound
    rw [Nat.zero_add, raised] at answered
    cases answered
  | @mineRaised tookEffect error sends raised =>
    have took := minesOwn.mines
    rw [raised] at took
    have isTrue : tookEffect = true := took
    rw [if_pos isTrue]
    exact mined
  | pollRaised => exact mined
  | completed => exact mined

/-- A simulation that is taken back, or whose accepted transactions are others'. -/
theorem simulation_quiet {afterwards : Builder}
    (simulated : Simulated answers payload builder afterwards) (apart : Apart bot builder)
    (settled : ∀ bundle, Admitted answers payload builder bundle →
      answers.snapshot = .answered () → Foreign bot answers bundle ∨
        TakenBack bot answers builder.node bundle ∧
          ∃ victim backrun, Backrun bot bundle.items victim backrun) :
    Quiet bot builder afterwards := by
  have saved : ∀ transaction ∈ builder.node.snapshot.2.pool, sentFrom bot transaction = false :=
    apart.pool
  cases simulated with
  | untouched sameMempool sameLedger =>
    refine ⟨⟨?_, ?_⟩, by rw [sameLedger]⟩
    · rw [sameLedger]
      exact apart.pool
    · rw [sameMempool]
      exact apart.records
  | @reverted bundle result node admitted taken reverts executed =>
    rcases settled bundle admitted taken with foreign | ⟨takenBack, victim, backrun, isBackrun⟩
    · exact reverted_quiet apart (executed_quiet saved foreign executed).1
    · rcases takenBack.cleared with restores | minesOwn
      · refine ⟨⟨?_, apart.records⟩, rfl⟩
        exact fun transaction member => apart.pool transaction (restores _ _ transaction member)
      · have minesOnSnapshot : MinesOwn bot answers builder.node.snapshot.2 bundle :=
          ⟨minesOwn.sends, minesOwn.mines, minesOwn.takes⟩
        exact reverted_quiet apart (isBackrun.cleared saved minesOnSnapshot executed)
  | left admitted taken reverts executed =>
    rcases settled _ admitted taken with foreign | ⟨takenBack, _⟩
    · obtain ⟨pool, mined⟩ := executed_quiet saved foreign executed
      exact ⟨⟨pool, apart.records⟩, mined⟩
    · have took := takenBack.reverts
      rw [reverts] at took
      cases took

/-! ## Runs -/

/-- Knight has read the bot's count, and nothing of the bot's waits at the builder. -/
structure Starts (genesis : Nat) (bot : Bytes) (system : System) : Prop where
  initialized : ∃ composer : TxComposer, composer.config.botAddress = bot ∧
    composer.refreshNonce (readResponse (chainNonce (hexData bot) (.ok (hexQuantity
      (UInt64.ofNat (transactionCount genesis bot system.builder.node.blocks)))))).toOption =
        .ok system.loop.composer
  apart : Apart bot system.builder

/-- Only Knight sends transactions from the bot's address. -/
def OthersApart (bot : Bytes) (system : System) : Event → Prop
  | .addTransaction transaction _ _ => sentFrom bot transaction = false
  | .otherBundle _ _ _ payload =>
    ∀ bundle, Core.BlockBuilder.Bundle.fromJson payload system.builder.mempool = .ok bundle →
      ∀ item ∈ bundle.items, sentFrom bot item.transaction = false
  | _ => True

/-- The deployment with the bot's address left to Knight, and its steps under a
condition. -/
def botDeployment (lib : Libraries)
    (ethCall : List Block → List (String × String) → Except PyError String) (pools : List Pool)
    (genesis : Nat) (bot : Bytes) (Condition : System → Event → Prop) : Machine System Event where
  initial system := (deployment lib ethCall pools).initial system ∧ Starts genesis bot system
  step system event after := system.perform lib ethCall event = some after ∧
    OthersApart bot system event ∧ Condition system event

/-- The composer's nonce is the bot's transaction count. -/
def NonceAgrees (genesis : Nat) (bot : Bytes) (builder : Builder) (loop : Loop) : Prop :=
  loop.composer.nextNonce =
    some (UInt64.ofNat (transactionCount genesis bot builder.node.blocks))

/-- `compose` is called next: the loop gets a state with an opportunity in it. -/
def Composes (lib : Libraries) (system : System) : Prop :=
  system.loop.phase = .waiting ∧ ∃ state source,
    system.source.waitPopState = some (.ok state, source) ∧ (opportunityOf lib state).isSome = true

def AgreesWhenComposing (lib : Libraries) (genesis : Nat) (bot : Bytes) (system : System) : Prop :=
  Composes lib system → NonceAgrees genesis bot system.builder system.loop

/-! ## When it is acknowledged -/

/-- The builder's answer parses at Knight: the node's hashes and receipts do. -/
structure Readable (lib : Libraries) (answers : Answers) : Prop where
  hashes : ∀ position txHash, answers.send position = .answered txHash →
    ∃ chainTxHash, parseHexBytes lib (cString txHash) = some chainTxHash ∧ chainTxHash.length = 32
  receipts : ∀ position attempt receipt, answers.poll position attempt = .ok (some receipt) →
    (Receipt.fromJson lib (.object receipt)).isSome = true

/-- An answer of the builder's gets through to Knight as a bundle result. -/
def GetsThrough (lib : Libraries) (answers : Answers) : Transport → Prop
  | .requestLost _ => False
  | .responseLost _ => False
  | .garbled body => ∃ json result, body = some json ∧ BundleResult.fromJson lib json = some result
  | .arrives => Readable lib answers

/-- A submission that is mined and says so: no call raises, the block takes the
backrun, and the answer gets through. -/
structure Acknowledged (lib : Libraries) (bot : Bytes) (transport : Transport) (answers : Answers)
    (node : Node) (bundle : Core.BlockBuilder.Bundle) : Prop where
  completes : Completes answers bundle.items.length
  takes : Takes bot answers node bundle
  through : GetsThrough lib answers transport

/-- Where the node accepts a backrun, a simulation takes it back, and a submission is
acknowledged. -/
def Settled (lib : Libraries) (bot : Bytes) (system : System) : Event → Prop
  | .exchange transport answers _ =>
    match system.loop.phase with
    | .waiting => True
    | .simulating _ bundle _ => Reaches transport → Accepted answers 1 →
      ∀ parsed, Admitted answers (Bundle.toJson lib bundle) system.builder parsed →
        answers.snapshot = .answered () → TakenBack bot answers system.builder.node parsed
    | .submitting _ bundle _ => Reaches transport → Accepted answers 1 →
      ∀ parsed, Admitted answers (Bundle.toJson lib bundle) system.builder parsed →
        Acknowledged lib bot transport answers system.builder.node parsed
  | _ => True

/-! ## The invariant -/

structure Agrees (genesis : Nat) (bot : Bytes) (builder : Builder) (loop : Loop) : Prop where
  nonce : NonceAgrees genesis bot builder loop
  configured : loop.composer.config.botAddress = bot
  apart : Apart bot builder
  holding : ∀ state bundle, held loop.phase = some (state, bundle) → Composed bot bundle

/-- The loop starts with the count it asked for. -/
theorem Starts.agrees (starts : Starts genesis bot system) (isWaiting : system.loop.phase = .waiting) :
    Agrees genesis bot system.builder system.loop := by
  obtain ⟨⟨composer, isBot, refreshed⟩, apart⟩ := starts
  have answered : jsonHexUint64 [("address", .string (hexData bot)), ("nonce", .string (hexQuantity
      (UInt64.ofNat (transactionCount genesis bot system.builder.node.blocks))))] "nonce" =
        some (UInt64.ofNat (transactionCount genesis bot system.builder.node.blocks)) :=
    jsonHexUint64_hexQuantity rfl
  simp only [TxComposer.refreshNonce, TxComposer.requestNonce, chainNonce, readResponse,
    Except.toOption, parseToJsonObject, Option.bind_some, answered, Except.ok.injEq] at refreshed
  refine ⟨?_, ?_, apart, ?_⟩
  · rw [NonceAgrees, ← refreshed]
  · rw [← refreshed]
    exact isBot
  · intro state bundle isHeld
    rw [isWaiting] at isHeld
    cases isHeld

namespace Agrees

variable {loop next : Loop} {afterBuilder : Builder}

/-- A step of the builder that does nothing for the bot, and of the loop that leaves
its composer alone. -/
theorem quiet (agrees : Agrees genesis bot builder loop) (quiet : Quiet bot builder afterBuilder)
    (composer : next.composer = loop.composer)
    (holding : ∀ state bundle, held next.phase = some (state, bundle) → Composed bot bundle) :
    Agrees genesis bot afterBuilder next where
  nonce := by
    rw [NonceAgrees, composer, transactionCount, quiet.mined]
    exact agrees.nonce
  configured := by
    rw [composer]
    exact agrees.configured
  apart := quiet.apart
  holding := holding

/-- After a response the loop holds nothing new. -/
theorem proceed_holding (agrees : Agrees genesis bot builder loop) (result : Except RestError Body)
    (state : StateSnapshot) (bundle : Bundle)
    (isHeld : held (loop.proceed lib result).phase = some (state, bundle)) : Composed bot bundle := by
  rcases proceed_held loop result with nothing | same
  · cases nothing.symm.trans isHeld
  · exact agrees.holding state bundle (same ▸ isHeld)

theorem receive (agrees : Agrees genesis bot builder loop) (state : StateSnapshot) :
    Agrees genesis bot builder (loop.receive lib state) := by
  have composer : (loop.receive lib state).composer = loop.composer := by
    unfold Loop.receive
    cases bundleOf lib loop.composer state with
    | none => rfl
    | some bundle => rfl
  refine agrees.quiet ⟨agrees.apart, rfl⟩ composer ?_
  intro other bundle isHeld
  rw [receive_held] at isHeld
  obtain ⟨composed, isBundle, same⟩ := Option.map_eq_some_iff.mp isHeld
  cases same
  exact bundleOf_composed agrees.configured isBundle

/-- A request that is lost on its way. -/
theorem unreached {handler : Handler} {bundle : Bundle} {transport : Transport}
    (agrees : Agrees genesis bot system.builder system.loop) (lost : ¬Reaches transport) :
    Agrees genesis bot (system.exchangeWith lib handler bundle transport answers now).builder
      (system.exchangeWith lib handler bundle transport answers now).loop := by
  cases transport with
  | requestLost error =>
    rw [exchangeWith_requestLost]
    exact agrees.quiet ⟨agrees.apart, rfl⟩ (proceed_error _ _) (agrees.proceed_holding _)
  | responseLost error => exact absurd trivial lost
  | garbled body => exact absurd trivial lost
  | arrives => exact absurd trivial lost

/-- One exchange of a simulation. -/
theorem simulated {state : StateSnapshot} {bundle : Bundle} {attempts : Nat} {transport : Transport}
    (agrees : Agrees genesis bot system.builder system.loop)
    (isSimulating : system.loop.phase = .simulating state bundle attempts)
    (settled : Settled lib bot system (.exchange transport answers now)) :
    Agrees genesis bot
      (system.exchangeWith lib simulationHandler bundle transport answers now).builder
      (system.exchangeWith lib simulationHandler bundle transport answers now).loop := by
  rw [Settled, isSimulating] at settled
  have composed : Composed bot bundle := agrees.holding state bundle (by rw [isSimulating]; rfl)
  by_cases reaches : Reaches transport
  · have handled : simulationHandler answers now (Bundle.toJson lib bundle) system.builder =
        ((simulatePrivateBundle answers (Bundle.toJson lib bundle) system.builder).1,
          (simulatePrivateBundle answers (Bundle.toJson lib bundle) system.builder).2) := rfl
    rw [exchangeWith_handled reaches handled]
    refine agrees.quiet ?_ (proceed_simulation isSimulating _) (agrees.proceed_holding _)
    refine simulation_quiet (simulatePrivateBundle_outcome _ _ _) agrees.apart ?_
    intro parsed admitted taken
    obtain ⟨victim, backrun, isBackrun⟩ := composed_read agrees.apart composed admitted.parsed
    by_cases accepted : Accepted answers 1
    · exact .inr ⟨settled reaches accepted parsed admitted taken, victim, backrun, isBackrun⟩
    · exact .inl (isBackrun.foreign_of_refused accepted)
  · exact agrees.unreached reaches

/-- A submission whose backrun the node does not accept fails. -/
theorem submission_failed {bundle : Bundle} {response : Response} {afterwards : Builder}
    (submitted : Submitted answers now (Bundle.toJson lib bundle) builder response afterwards)
    (apart : Apart bot builder) (composed : Composed bot bundle)
    (refused : ∀ parsed, Admitted answers (Bundle.toJson lib bundle) builder parsed →
      ¬Accepted answers 1) :
    Response.failed response := by
  cases submitted with
  | rejected => exact respond_failed _
  | failed => exact respond_failed _
  | completed admitted executed =>
    obtain ⟨victim, backrun, isBackrun⟩ := composed_read apart composed admitted.parsed
    cases executed with
    | completed completes =>
      have sends := completes.sends
      rw [isBackrun.items] at sends
      exact absurd (accepted_of_answered sends Nat.one_lt_two) (refused _ admitted)

/-- What the node answered, put together, is read at Knight. -/
theorem reported_read {bundle : Core.BlockBuilder.Bundle} {results : List TxResult}
    {transport : Transport} (reported : Reported answers bundle results)
    (through : GetsThrough lib answers transport) :
    ∃ json submission, delivered transport
        (.ok (.object (Core.BlockBuilder.resultFields results))) = .ok (some json) ∧
      BundleResult.fromJson lib json = some submission := by
  cases transport with
  | requestLost error => exact through.elim
  | responseLost error => exact through.elim
  | garbled body =>
    obtain ⟨json, submission, rfl, read⟩ := through
    exact ⟨json, submission, rfl, read⟩
  | arrives =>
    have legible : ∀ result ∈ results, Legible lib result := by
      intro result member
      obtain ⟨position, answered⟩ := reported.hashes result member
      refine ⟨through.hashes position _ answered, ?_⟩
      intro receipt isReceipt
      obtain ⟨other, attempt, polled⟩ := reported.receipts result member receipt isReceipt
      exact through.receipts other attempt receipt polled
    obtain ⟨submission, read, _⟩ := bundleResult_read [] legible
    rw [List.append_nil] at read
    exact ⟨_, submission, rfl, read⟩

/-- An acknowledged submission: one more at the chain, and one more at the composer. -/
theorem acknowledged {state : StateSnapshot} {bundle : Bundle} {attempts : Nat}
    {transport : Transport} {parsed : Core.BlockBuilder.Bundle} {response : Response}
    (agrees : Agrees genesis bot builder loop)
    (isSubmitting : loop.phase = .submitting state bundle attempts)
    (admitted : Admitted answers (Bundle.toJson lib bundle) builder parsed)
    (acknowledged : Acknowledged lib bot transport answers builder.node parsed)
    (submitted : Submitted answers now (Bundle.toJson lib bundle) builder response afterBuilder) :
    Agrees genesis bot afterBuilder (loop.proceed lib (delivered transport response)) := by
  have composed : Composed bot bundle := agrees.holding state bundle (by rw [isSubmitting]; rfl)
  cases submitted with
  | rejected rejected => exact absurd rejected admitted.not_rejected
  | failed isAdmitted executed =>
    have same := Except.ok.inj (isAdmitted.parsed.symm.trans admitted.parsed)
    rw [same] at executed
    exact (completes_not_failed acknowledged.completes executed).elim
  | completed isAdmitted executed marked =>
    have same := Except.ok.inj (isAdmitted.parsed.symm.trans admitted.parsed)
    rw [same] at executed
    obtain ⟨victim, backrun, isBackrun⟩ := composed_read agrees.apart composed admitted.parsed
    cases executed with
    | completed completes reported =>
      obtain ⟨pool, mined⟩ := isBackrun.mined agrees.apart.pool acknowledged.takes
      obtain ⟨json, submission, isBody, read⟩ := reported_read reported acknowledged.through
      rw [isBody, proceed_submitted isSubmitting read]
      refine ⟨?_, agrees.configured, ⟨pool, ?_⟩, ?_⟩
      · have nonce : loop.composer.nextNonce = _ := agrees.nonce
        rw [NonceAgrees, transactionCount, mined, ← Nat.add_assoc, UInt64.ofNat_add]
        rw [TxComposer.markNonceUsed, nonce]
        rfl
      · exact markAllMined_transactions (fun transaction => sentFrom bot transaction = false) marked
          agrees.apart.records
      · intro _ _ impossible
        cases impossible

/-- One exchange of a submission. -/
theorem submitted {state : StateSnapshot} {bundle : Bundle} {attempts : Nat} {transport : Transport}
    (agrees : Agrees genesis bot system.builder system.loop)
    (isSubmitting : system.loop.phase = .submitting state bundle attempts)
    (settled : Settled lib bot system (.exchange transport answers now)) :
    Agrees genesis bot
      (system.exchangeWith lib submissionHandler bundle transport answers now).builder
      (system.exchangeWith lib submissionHandler bundle transport answers now).loop := by
  rw [Settled, isSubmitting] at settled
  have composed : Composed bot bundle := agrees.holding state bundle (by rw [isSubmitting]; rfl)
  by_cases reaches : Reaches transport
  · have handled : submissionHandler answers now (Bundle.toJson lib bundle) system.builder =
        ((submitPrivateBundle answers now (Bundle.toJson lib bundle) system.builder).1,
          (submitPrivateBundle answers now (Bundle.toJson lib bundle) system.builder).2) := rfl
    rw [exchangeWith_handled reaches handled]
    by_cases accepts : Accepted answers 1 ∧
        ∃ parsed, Admitted answers (Bundle.toJson lib bundle) system.builder parsed
    · obtain ⟨accepted, parsed, admitted⟩ := accepts
      exact agrees.acknowledged isSubmitting admitted (settled reaches accepted parsed admitted)
        (submitPrivateBundle_outcome answers now (Bundle.toJson lib bundle) system.builder)
    · have refused : ∀ parsed, Admitted answers (Bundle.toJson lib bundle) system.builder parsed →
          ¬Accepted answers 1 :=
        fun parsed admitted accepted => accepts ⟨accepted, parsed, admitted⟩
      have failed : Response.failed (submitPrivateBundle answers now (Bundle.toJson lib bundle)
          system.builder).1 :=
        submission_failed (submitPrivateBundle_outcome _ _ _ _) agrees.apart composed refused
      obtain ⟨error, isError⟩ : ∃ error, delivered transport (submitPrivateBundle answers now
          (Bundle.toJson lib bundle) system.builder).1 = .error error := delivered_failed failed
      rw [isError]
      refine agrees.quiet ?_ (proceed_error _ _) (agrees.proceed_holding _)
      refine submission_quiet (submitPrivateBundle_outcome _ _ _ _) agrees.apart ?_
      intro parsed admitted
      obtain ⟨victim, backrun, isBackrun⟩ := composed_read agrees.apart composed admitted.parsed
      exact isBackrun.foreign_of_refused (refused parsed admitted)
  · exact agrees.unreached reaches

/-- Every step keeps the nonce at the count. -/
theorem step {event : Event} (agrees : Agrees genesis bot system.builder system.loop)
    (performed : Performed lib ethCall system event after) (apart : OthersApart bot system event)
    (settled : Settled lib bot system event) : Agrees genesis bot after.builder after.loop := by
  cases performed with
  | addTransaction transaction uuid now =>
    exact agrees.quiet (addTransaction_quiet agrees.apart apart) rfl agrees.holding
  | otherBundle simulated answers now payload =>
    refine agrees.quiet ?_ rfl agrees.holding
    have foreign : ∀ bundle, Admitted answers payload system.builder bundle →
        Foreign bot answers bundle := by
      intro bundle admitted position item isItem _
      exact apart bundle admitted.parsed item (List.mem_of_getElem? isItem)
    unfold System.handleOther
    cases simulated with
    | true =>
      exact simulation_quiet (simulatePrivateBundle_outcome _ _ _) agrees.apart
        fun bundle admitted _ => .inl (foreign bundle admitted)
    | false => exact submission_quiet (submitPrivateBundle_outcome _ _ _ _) agrees.apart foreign
  | newBlock => exact agrees
  | readPool => exact agrees
  | finishBlock => exact agrees
  | pendingTx => exact agrees
  | close => exact agrees
  | popped => exact agrees.receive _
  | closed => exact agrees
  | simulated transport answers now isSimulating => exact agrees.simulated isSimulating settled
  | submitted transport answers now isSubmitting => exact agrees.submitted isSubmitting settled

end Agrees

/-- **Nonce agreement.** In every run in which each accepted backrun is taken back by
its simulation or acknowledged by its submission: whenever `compose` is called, the
composer's nonce is the bot's transaction count. -/
theorem nonce_agrees_when_composing {events : List Event}
    (run : (botDeployment lib ethCall pools genesis bot (Settled lib bot)).Run events system) :
    AgreesWhenComposing lib genesis bot system := by
  have agrees : Agrees genesis bot system.builder system.loop := by
    refine Run.invariant (fun system => Agrees genesis bot system.builder system.loop) run ?_ ?_
    · rintro system ⟨⟨_, _, isWaiting⟩, starts⟩
      exact starts.agrees isWaiting
    · rintro system event after agrees ⟨performed, apart, settled⟩
      exact agrees.step (perform_performed performed) apart settled
  exact fun _ => agrees.nonce

/-! The run of the two victims goes on with its submission: once answered, and once
with the answer lost and the retry told that the victim is mined. -/
open BundleFreshness

def sampleBot : Bytes := List.replicate 20 0xB0

/-- The builder once the first bundle is mined. -/
def minedBuilder : Builder where
  node := {
    blocks := [[victimTransaction, asTransaction documented sampleBackrun]]
    offered := [victimTransaction, asTransaction documented sampleBackrun, victimTransaction,
      asTransaction documented sampleBackrun] }
  mempool := (Core.BlockBuilder.markAllMined "now"
    ((parsedBundle "mp-1").items.zip (sampleResults "mp-1")) sampleBuilder.mempool).2

theorem sampleSubmission :
    submitPrivateBundle obligingAnswers "now" (Bundle.toJson documented (sampleBundle "mp-1"))
        simulatedBuilder =
      (.ok (.object (Core.BlockBuilder.resultFields (sampleResults "mp-1"))), minedBuilder) := by
  have read : Core.BlockBuilder.Bundle.fromJson (Bundle.toJson documented (sampleBundle "mp-1"))
      simulatedBuilder.mempool = .ok (parsedBundle "mp-1") := parsedBundle_read
  rw [submitPrivateBundle, read]
  rfl

theorem poppedSource_pop :
    (poppedSource sampleSource).waitPopState =
      some (.ok (victimState 2 "mp-2"), poppedSource (poppedSource sampleSource)) :=
  waitPopState_of_result (by decide +kernel)

/-- The second victim is an opportunity too. -/
theorem victim_opportunity : (opportunityOf documented (victimState 2 "mp-2")).isSome = true := by
  decide +kernel

theorem victim_foreign : sentFrom sampleBot victimTransaction = false := by
  decide +kernel

theorem backrun_own : sentFrom sampleBot (asTransaction documented sampleBackrun) = true := by
  have sender : (asTransaction documented sampleBackrun).fromAddress = hexData sampleBot := rfl
  simp [sentFrom, sender]

theorem sampleStart_starts : Starts 0 sampleBot sampleStart where
  initialized := ⟨{ sampleComposer with nextNonce := none }, rfl, rfl⟩
  apart := by
    refine ⟨?_, ?_⟩
    · intro transaction impossible
      cases impossible
    · intro record impossible
      cases impossible

/-- The node answers every call, and Knight can read it. -/
theorem obligingAnswers_settled (system : System) :
    Settled documented sampleBot system (.exchange .arrives obligingAnswers "now") := by
  have readable : Readable documented obligingAnswers := by
    refine ⟨?_, ?_⟩
    · intro position txHash answered
      cases answered
      exact ⟨_, parseHexBytes_hexData documented_inverts _, List.length_replicate⟩
    · intro position attempt receipt polled
      cases polled
      exact sampleReceipt_read
  have takes (node : Node) (bundle : Core.BlockBuilder.Bundle) :
      Takes sampleBot obligingAnswers node bundle := by
    intro item member _
    exact List.mem_append_right _ (List.mem_map_of_mem member)
  unfold Settled
  cases system.loop.phase with
  | waiting => trivial
  | simulating state bundle attempts =>
    intro _ _ parsed _ _
    exact ⟨trivial, .inr ⟨fun _ _ => ⟨_, rfl⟩, trivial, takes _ parsed⟩⟩
  | submitting state bundle attempts =>
    intro _ _ parsed _
    exact ⟨⟨fun _ _ => ⟨_, rfl⟩, rfl, fun _ _ _ _ _ => ⟨_, rfl⟩⟩, takes _ parsed, readable⟩

/-- Up to the submission nobody but Knight uses the bot's address, and the simulation is
taken back. -/
theorem submittingEvents_settled {event : Event} (member : event ∈ submittingEvents)
    (system : System) :
    OthersApart sampleBot system event ∧ Settled documented sampleBot system event := by
  simp only [submittingEvents, sampleEvents, List.mem_append, List.mem_cons, List.not_mem_nil,
    or_false] at member
  rcases member with ((rfl | rfl | rfl | rfl | rfl | rfl | rfl | rfl) | rfl) | rfl
  · exact ⟨victim_foreign, trivial⟩
  · exact ⟨victim_foreign, trivial⟩
  · exact ⟨trivial, trivial⟩
  · exact ⟨trivial, trivial⟩
  · exact ⟨trivial, trivial⟩
  · exact ⟨trivial, trivial⟩
  · exact ⟨trivial, trivial⟩
  · exact ⟨trivial, trivial⟩
  · exact ⟨trivial, trivial⟩
  · exact ⟨trivial, obligingAnswers_settled system⟩

/-- The answer arrives. -/
def acknowledgedEvents : List Event :=
  submittingEvents ++ [.exchange .arrives obligingAnswers "now"]

def acknowledgedSystem : System where
  builder := minedBuilder
  source := poppedSource sampleSource
  loop := { composer := sampleComposer.markNonceUsed }

theorem acknowledgedSystem_run :
    (deploymentFrom documented sampleEthCall sampleStart).Run acknowledgedEvents
      acknowledgedSystem := by
  have legible : ∀ result ∈ sampleResults "mp-1", Legible documented result :=
    fun _ member => sampleResults_legible member
  obtain ⟨submission, read, _⟩ := bundleResult_read [] legible
  rw [List.append_nil] at read
  have exchanged := run_event sampleSubmitting_run (.exchange .arrives obligingAnswers "now")
    (perform_submission rfl .arrives obligingAnswers "now")
  rw [exchangeWith_handled (show Reaches .arrives from trivial) sampleSubmission, delivered,
    readResponse, proceed_submitted rfl read] at exchanged
  exact exchanged

theorem nonce_agrees_when_composing_sample :
    Composes documented acknowledgedSystem ∧
      NonceAgrees 0 sampleBot acknowledgedSystem.builder acknowledgedSystem.loop := by
  have composes : Composes documented acknowledgedSystem :=
    ⟨rfl, victimState 2 "mp-2", _, poppedSource_pop, victim_opportunity⟩
  have run : (botDeployment documented sampleEthCall dexPools 0 sampleBot
      (Settled documented sampleBot)).Run acknowledgedEvents acknowledgedSystem := by
    refine Run.transfer acknowledgedSystem_run ?_ ?_
    · rintro system rfl
      exact ⟨⟨rfl, rfl, rfl⟩, sampleStart_starts⟩
    · intro event member system after performed
      rcases List.mem_append.mp member with earlier | last
      · exact ⟨performed, submittingEvents_settled earlier system⟩
      · rw [List.mem_singleton.mp last] at performed ⊢
        exact ⟨performed, trivial, obligingAnswers_settled system⟩
  exact ⟨composes, nonce_agrees_when_composing run composes⟩

/-- The answer is lost, and the retry is refused. -/
def driftedEvents : List Event :=
  submittingEvents ++ [.exchange (.responseLost .httpReadError) obligingAnswers "now"] ++
    [.exchange .arrives obligingAnswers "now"]

def driftedSystem : System where
  builder := minedBuilder
  source := poppedSource sampleSource
  loop := { composer := sampleComposer }

/-- The retry finds the victim mined. -/
theorem sampleRetry :
    ∃ detail, submitPrivateBundle obligingAnswers "now"
        (Bundle.toJson documented (sampleBundle "mp-1")) minedBuilder =
      (.error 409 detail, minedBuilder) := by
  have named : "mp-1" ≠ "" := by decide
  have found : minedBuilder.mempool.getTransaction "mp-1" =
      some ⟨"mp-1", 1, victimTransaction, .mined .included, "now",
        some (hexData (List.replicate 32 0xAA)), some sampleReceipt, some "now"⟩ := rfl
  have refused : Core.BlockBuilder.Bundle.fromJson
      (Bundle.toJson documented (sampleBundle "mp-1")) minedBuilder.mempool = _ :=
    knightBundle_conflict named found (by decide)
  rw [submitPrivateBundle, refused]
  exact ⟨_, rfl⟩

theorem driftedSystem_run :
    (deploymentFrom documented sampleEthCall sampleStart).Run driftedEvents driftedSystem := by
  have lost := run_event sampleSubmitting_run
    (.exchange (.responseLost .httpReadError) obligingAnswers "now")
    (perform_submission rfl (.responseLost .httpReadError) obligingAnswers "now")
  rw [exchangeWith_handled (show Reaches (.responseLost .httpReadError) from trivial)
    sampleSubmission] at lost
  have retried := run_event lost (.exchange .arrives obligingAnswers "now")
    (perform_submission rfl .arrives obligingAnswers "now")
  obtain ⟨detail, refused⟩ := sampleRetry
  rw [exchangeWith_handled (show Reaches .arrives from trivial) refused] at retried
  exact retried

/-- A lost answer sets the counter apart: the backrun is mined, the retry is told that
its victim is not pending, and the next backrun is composed with the used nonce. -/
theorem lost_answer_drifts :
    (botDeployment documented sampleEthCall dexPools 0 sampleBot fun _ _ => True).Run driftedEvents
        driftedSystem ∧
      ¬AgreesWhenComposing documented 0 sampleBot driftedSystem := by
  refine ⟨?_, ?_⟩
  · refine Run.transfer driftedSystem_run ?_ ?_
    · rintro system rfl
      exact ⟨⟨rfl, rfl, rfl⟩, sampleStart_starts⟩
    · intro event member system after performed
      rcases List.mem_append.mp member with earlier | last
      · rcases List.mem_append.mp earlier with before | lost
        · exact ⟨performed, (submittingEvents_settled before system).1, trivial⟩
        · rw [List.mem_singleton.mp lost] at performed ⊢
          exact ⟨performed, trivial, trivial⟩
      · rw [List.mem_singleton.mp last] at performed ⊢
        exact ⟨performed, trivial, trivial⟩
  · intro agrees
    have nonce := agrees ⟨rfl, victimState 2 "mp-2", _, poppedSource_pop, victim_opportunity⟩
    have mined : transactionCount 0 sampleBot driftedSystem.builder.node.blocks = 1 := by
      change 0 + [victimTransaction, asTransaction documented sampleBackrun].countP
        (sentFrom sampleBot) = 1
      simp [victim_foreign, backrun_own]
    rw [NonceAgrees, mined] at nonce
    exact absurd nonce (by decide)

end DexKnight.NonceAgreement
