import DexKnight.ProductGrowth
import DexKnight.RealizedProfit

/-! Profits add up. A bundle that is reported included earned its executor exactly what
was computed for it; between such bundles other transactions are mined, Knight's own may
be lost, mined unnoticed or mined late, and simulations may stay on the chain. None of it
takes from the executor while its operator's transactions are Knight's alone, so over a
whole run it has gained at least the sum of the included profits. -/
namespace DexKnight.EarnedProfit
open Core.Types Core.Wire Core.Codec Core.Calculator Core.CandidateState Core.Contracts Core.Deployment
  Support.Runs ContractProofs LedgerProofs ProductGrowth WireProofs BundleWire BundleDecoding PublishedRecords
  BuilderProofs MempoolProofs Prediction
  DeploymentProofs KnownCandidates ChainExecution RealizedProfit
open Core.BlockBuilder (Answers Block Builder Mempool Node PyError Response TxResult resultFields
  submitPrivateBundle simulatePrivateBundle)
open BackrunSafety hiding Deployed
open BundleFreshness (dexPools obligingAnswers sampleResults sampleResults_included
  sampleResults_legible)
open Core.Runtime hiding World

variable {lib : Libraries} {evm : Evm} {genesis world after : World} {executor operator : Address}
  {transaction : Core.BlockBuilder.Transaction}

/-! ## Transactions -/

/-- The executor between transactions: its operator's, and nobody may pull from it. -/
structure Guarded (world : World) (executor operator : Address) : Prop where
  operated : world.operator executor = some operator
  clear : NoApprovals world executor

/-- The executor is none the worse. -/
structure Keeps (executor operator : Address) (world after : World) : Prop where
  guarded : Guarded after executor operator
  code : after.code = world.code
  holdings : ∀ token, held world token executor ≤ held after token executor

namespace Keeps

theorem refl (guarded : Guarded world executor operator) : Keeps executor operator world world :=
  ⟨guarded, rfl, fun _ => le_rfl⟩

theorem trans {later : World} (first : Keeps executor operator world after)
    (second : Keeps executor operator after later) : Keeps executor operator world later :=
  ⟨second.guarded, second.code.trans first.code, fun token =>
    (first.holdings token).trans (second.holdings token)⟩

end Keeps

/-- Only a withdrawal of its operator's takes from an executor. -/
theorem transact_keeps (guarded : Guarded world executor operator) {call : Transaction}
    (signed : world.code call.sender = none)
    (harmless : call.sender ≠ operator ∨
      ∀ token recipient amount, call.entry ≠ .withdrawToken executor token recipient amount) :
    Keeps executor operator world (world.transact call) := by
  rcases @transact_cases world call with ran | kept
  · refine ⟨⟨?_, call_no_approvals guarded.operated signed guarded.clear ran⟩, call_code ran, ?_⟩
    · rw [operator_of_code_eq (call_code ran)]
      exact guarded.operated
    · intro token
      by_contra fewer
      obtain ⟨isOperator, recipient, amount, isWithdrawal⟩ :=
        call_holdings guarded.operated signed guarded.clear ran (Nat.lt_of_not_le fewer)
      rcases harmless with other | notWithdrawal
      · exact other isOperator
      · exact notWithdrawal token recipient amount isWithdrawal
  · rw [kept]
    exact .refl guarded

/-- Code that is not ours calls our contracts like everybody: what a transaction of somebody
else leaves of them is what some calls leave, none of which the operator makes. -/
def Confined (evm : Evm) (operator : Address) : Prop :=
  ∀ world sent, sent.sender ≠ operator → ∃ calls : List Transaction,
    (∀ call ∈ calls, call.sender ≠ operator ∧ world.code call.sender = none) ∧
      (evm.foreign world sent).2 = transactAll world calls

/-- Wherever the node executes it, this transaction takes nothing from the executor. -/
def Sparing (evm : Evm) (executor operator : Address) (transaction : Core.BlockBuilder.Transaction) : Prop :=
  ∀ world, Guarded world executor operator →
    Keeps executor operator world (evm.transact world transaction).2

/-- The node does not take it for a transaction of the operator. -/
def NotOf (evm : Evm) (operator : Address) (transaction : Core.BlockBuilder.Transaction) : Prop :=
  ∀ sent, evm.read transaction.toRpcParams = some sent → sent.sender ≠ operator

theorem transactAll_keeps {calls : List Transaction} (guarded : Guarded world executor operator)
    (others : ∀ call ∈ calls, call.sender ≠ operator ∧ world.code call.sender = none) :
    Keeps executor operator world (transactAll world calls) := by
  induction calls generalizing world with
  | nil => exact .refl guarded
  | cons call rest ih =>
    obtain ⟨other, signed⟩ := others call List.mem_cons_self
    have first := transact_keeps guarded signed (.inl other)
    refine first.trans (ih first.guarded fun later member => ?_)
    rw [first.code]
    exact others later (List.mem_cons_of_mem _ member)

theorem others_sparing (confined : Confined evm operator) (other : NotOf evm operator transaction) :
    Sparing evm executor operator transaction := by
  intro world guarded
  unfold Evm.transact
  cases read : evm.read transaction.toRpcParams with
  | none => exact .refl guarded
  | some sent =>
    have notOperator := other sent read
    dsimp only
    split
    · exact .refl guarded
    · next isContract =>
      have signed : world.code sent.sender = none := by simpa using isContract
      cases sent.recipient.bind fun account => entryAt world account sent.calldata with
      | none =>
        obtain ⟨calls, others, same⟩ := confined world sent notOperator
        dsimp only
        rw [same]
        exact transactAll_keeps guarded others
      | some entry =>
        dsimp only
        split
        · exact .refl guarded
        · exact transact_keeps guarded signed (.inl notOperator)

/-- A backrun that Knight composed for the executor. -/
theorem backrun_sparing (rpc : ReadsParams evm.read) (reads : Reads lib) {composer : TxComposer}
    {opportunity : Opportunity} {backrunTx : EvmTransaction} (composed : composer.compose opportunity = .ok backrunTx)
    (contract : addressOf composer.config.contractAddress = some executor) :
    Sparing evm executor operator (asTransaction lib backrunTx) := by
  intro world guarded
  obtain ⟨encoded, addressed⟩ := compose_ok composed
  obtain ⟨buyPool, sellPool, _, _, runs⟩ := entryAt_backrun guarded.operated encoded
  unfold Evm.transact
  cases read : evm.read (asTransaction lib backrunTx).toRpcParams with
  | none => exact .refl guarded
  | some sent =>
    have isSent := asTransaction_sent rpc reads.spells read
    have calls : (sent.recipient.bind fun account => entryAt world account sent.calldata) =
        some (.executeBackrun executor buyPool sellPool opportunity.amountInB opportunity.minAmountOutA
          opportunity.minAmountOutB opportunity.minProfitB) := by
      rw [sentOf_recipient isSent addressed contract, (sentOf_eq_some isSent).2, Option.bind_some]
      exact runs
    dsimp only
    rw [calls]
    split
    · exact .refl guarded
    · next isContract =>
      dsimp only
      split
      · exact .refl guarded
      · refine transact_keeps guarded (by simpa using isContract) (.inr ?_)
        intro token recipient amount impossible
        cases impossible

theorem runBlock_keeps {block : Block} (guarded : Guarded world executor operator)
    (sparing : ∀ transaction ∈ block, Sparing evm executor operator transaction) :
    Keeps executor operator world (evm.runBlock world block) := by
  induction block generalizing world with
  | nil => exact .refl guarded
  | cons transaction rest ih =>
    have first := sparing transaction List.mem_cons_self world guarded
    exact first.trans (ih first.guarded fun later member => sparing later (List.mem_cons_of_mem _ member))

/-- More blocks on the chain. -/
theorem chain_keeps {blocks new : List Block} (guarded : Guarded (evm.chain genesis blocks) executor operator)
    (sparing : ∀ block ∈ new, ∀ transaction ∈ block, Sparing evm executor operator transaction) :
    Keeps executor operator (evm.chain genesis blocks) (evm.chain genesis (blocks ++ new)) := by
  induction new generalizing blocks with
  | nil =>
    rw [List.append_nil]
    exact .refl guarded
  | cons block rest ih =>
    have first : Keeps executor operator (evm.chain genesis blocks)
        (evm.chain genesis (blocks ++ [block])) := by
      rw [Evm.chain, Evm.chain, List.foldl_append]
      exact runBlock_keeps guarded (sparing block List.mem_cons_self)
    have later := ih first.guarded fun next member => sparing next (List.mem_cons_of_mem _ member)
    rw [List.append_assoc] at later
    exact first.trans later

/-! ## The builder -/

section Builder

variable {Holds : Core.BlockBuilder.Transaction → Prop} {builder afterwards : Builder} {node placedNode : Node}
  {answers : Answers} {payload : Fields} {now : String}

/-- Whatever waits at the builder is of a kind. -/
structure Waiting (Holds : Core.BlockBuilder.Transaction → Prop) (builder : Builder) : Prop where
  pool : ∀ transaction ∈ builder.node.pool, Holds transaction
  records : ∀ record ∈ builder.mempool.transactions, Holds record.transaction

/-- New blocks of transactions of a kind. -/
def Mined (Holds : Core.BlockBuilder.Transaction → Prop) (node placedNode : Node) : Prop :=
  ∃ new, placedNode.blocks = node.blocks ++ new ∧
    ∀ block ∈ new, ∀ transaction ∈ block, Holds transaction

/-- The bundles that a payload stands for are of a kind. -/
def Carries (Holds : Core.BlockBuilder.Transaction → Prop) (payload : Fields) (mempool : Mempool) : Prop :=
  ∀ bundle, Core.BlockBuilder.Bundle.fromJson payload mempool = .ok bundle →
    ∀ item ∈ bundle.items, Holds item.transaction

theorem Mined.same (same : placedNode.blocks = node.blocks) : Mined Holds node placedNode :=
  ⟨[], by rw [same, List.append_nil], fun _ impossible => absurd impossible List.not_mem_nil⟩

theorem executed_mines {bundle : Core.BlockBuilder.Bundle} {result : Except PyError (List TxResult)}
    (executed : Executed answers bundle node result placedNode)
    (pool : ∀ transaction ∈ node.pool, Holds transaction)
    (items : ∀ item ∈ bundle.items, Holds item.transaction) :
    (∀ transaction ∈ placedNode.pool, Holds transaction) ∧ Mined Holds node placedNode := by
  obtain ⟨accepted, placed, known⟩ := executed_placed executed
  have all : ∀ transaction ∈ node.pool ++ accepted, Holds transaction := by
    intro transaction member
    rcases List.mem_append.mp member with isOld | isNew
    · exact pool transaction isOld
    · obtain ⟨position, item, isItem, rfl, _⟩ := known transaction isNew
      exact items item (List.mem_of_getElem? isItem)
  cases placed with
  | pooled blocks isPool =>
    rw [isPool]
    exact ⟨all, .same blocks⟩
  | mined mining blocks isPool =>
    rw [isPool]
    refine ⟨fun transaction member => all transaction (Mining.mem_left member), _, blocks, ?_⟩
    intro block member transaction isMined
    rw [List.mem_singleton.mp member] at isMined
    exact all transaction (Mining.mem_block isMined)

theorem submission_mines (waiting : Waiting Holds builder) (carries : Carries Holds payload builder.mempool) :
    Waiting Holds (submitPrivateBundle answers now payload builder).2 ∧
      Mined Holds builder.node (submitPrivateBundle answers now payload builder).2.node := by
  have submitted := submitPrivateBundle_outcome answers now payload builder
  generalize submitPrivateBundle answers now payload builder = outcome at submitted ⊢
  obtain ⟨response, afterwards⟩ := outcome
  cases submitted with
  | rejected => exact ⟨waiting, .same rfl⟩
  | failed admitted executed =>
    obtain ⟨pool, mined⟩ := executed_mines executed waiting.pool (carries _ admitted.parsed)
    exact ⟨⟨pool, waiting.records⟩, mined⟩
  | completed admitted executed marked =>
    obtain ⟨pool, mined⟩ := executed_mines executed waiting.pool (carries _ admitted.parsed)
    exact ⟨⟨pool, markAllMined_transactions Holds marked waiting.records⟩, mined⟩

/-- A simulation may stay on the chain. -/
theorem simulation_mines (waiting : Waiting Holds builder) (carries : Carries Holds payload builder.mempool) :
    Waiting Holds (simulatePrivateBundle answers payload builder).2 ∧
      Mined Holds builder.node (simulatePrivateBundle answers payload builder).2.node := by
  have simulated := simulatePrivateBundle_outcome answers payload builder
  generalize (simulatePrivateBundle answers payload builder).2 = afterwards at simulated ⊢
  have saved : ∀ transaction ∈ builder.node.snapshot.2.pool, Holds transaction := waiting.pool
  cases simulated with
  | untouched sameMempool sameLedger =>
    refine ⟨⟨?_, ?_⟩, .same (congrArg (fun ledger => ledger.blocks) sameLedger)⟩
    · rw [sameLedger]
      exact waiting.pool
    · rw [sameMempool]
      exact waiting.records
  | reverted admitted taken reverts executed =>
    refine ⟨⟨?_, waiting.records⟩, .same rfl⟩
    intro transaction member
    rcases answers.rollback.pooled _ _ transaction member with isSaved | isPresent
    · exact waiting.pool transaction isSaved
    · exact (executed_mines executed saved (carries _ admitted.parsed)).1 transaction isPresent
  | left admitted taken reverts executed =>
    obtain ⟨pool, mined⟩ := executed_mines executed saved (carries _ admitted.parsed)
    exact ⟨⟨pool, waiting.records⟩, mined⟩

end Builder

/-! ## The deployment -/

section Deployment

variable {pools : List Pool} {config : BackrunConfig} {start system next : System}
  {event : Core.Deployment.Event} {events : List Core.Deployment.Event}

/-- The transactions in a bundle of Knight's: the victim's record and the backrun. -/
theorem bundle_carries (rpc : ReadsParams evm.read) (reads : Reads lib) (told : Told lib pools config system)
    (fresh : BundleFreshness.Fresh lib (evm.ethCall genesis) pools system)
    (contract : addressOf config.contractAddress = some executor)
    (waiting : Waiting (Sparing evm executor operator) system.builder) {state : StateSnapshot}
    {bundle : Bundle} (isHeld : DeploymentProofs.held system.loop.phase = some (state, bundle)) :
    Carries (Sparing evm executor operator) (Bundle.toJson lib bundle) system.builder.mempool := by
  intro parsed isParsed
  obtain ⟨blockNumber, isBlock, _⟩ := fresh.holding state bundle isHeld
  obtain ⟨⟨composer, isConfig, isBundle⟩, genuine⟩ := told.informed.holding state bundle isHeld
  obtain ⟨candidate, swap, opportunity, backrunTx, made⟩ := bundleOf_madeOf isBundle
  obtain ⟨record, victim⟩ := (genuine candidate made.listed).victim told.proper
  rw [victim.read told.proper made isBlock] at isParsed
  cases readAgainst_ok isParsed
  intro item member
  rcases List.mem_pair.mp member with rfl | rfl
  · exact waiting.records record victim.member
  · exact backrun_sparing rpc reads made.composed (isConfig ▸ contract)

/-- Only Knight sends transactions of the operator. -/
def OthersApart (evm : Evm) (operator : Address) (system : System) : Core.Deployment.Event → Prop
  | .addTransaction transaction _ _ => NotOf evm operator transaction
  | .otherBundle _ _ _ payload => Carries (NotOf evm operator) payload system.builder.mempool
  | _ => True

/-- Over one step whatever waits still spares the executor, and so does what is mined. -/
theorem step_mines (rpc : ReadsParams evm.read) (reads : Reads lib) (confined : Confined evm operator)
    (told : Told lib pools config system)
    (fresh : BundleFreshness.Fresh lib (evm.ethCall genesis) pools system)
    (contract : addressOf config.contractAddress = some executor)
    (waiting : Waiting (Sparing evm executor operator) system.builder)
    (apart : OthersApart evm operator system event)
    (performed : Performed lib (evm.ethCall genesis) system event next) :
    Waiting (Sparing evm executor operator) next.builder ∧
      Mined (Sparing evm executor operator) system.builder.node next.builder.node := by
  have exchanged (handler : Handler) (bundle : Bundle) (transport : Transport) (answers : Answers)
      (now : String)
      (handles : Waiting (Sparing evm executor operator)
          (handler answers now (Bundle.toJson lib bundle) system.builder).2 ∧
        Mined (Sparing evm executor operator) system.builder.node
          (handler answers now (Bundle.toJson lib bundle) system.builder).2.node) :
      Waiting (Sparing evm executor operator)
          (system.exchangeWith lib handler bundle transport answers now).builder ∧
        Mined (Sparing evm executor operator) system.builder.node
          (system.exchangeWith lib handler bundle transport answers now).builder.node := by
    rcases exchangeWith_builder handler bundle transport answers now with unreached | handled
    · rw [unreached]
      exact ⟨waiting, .same rfl⟩
    · rw [handled]
      exact handles
  cases performed with
  | addTransaction transaction uuid now =>
    refine ⟨⟨waiting.pool, ?_⟩, .same rfl⟩
    intro record member
    rcases mem_setItem member with rfl | ⟨isOld, _⟩
    · exact others_sparing confined apart
    · exact waiting.records record isOld
  | otherBundle simulated answers now payload =>
    have carries : Carries (Sparing evm executor operator) payload system.builder.mempool :=
      fun bundle parsed item member => others_sparing confined (apart bundle parsed item member)
    unfold System.handleOther
    cases simulated with
    | true => exact simulation_mines waiting carries
    | false => exact submission_mines waiting carries
  | simulated transport answers now isSimulating =>
    refine exchanged _ _ _ _ _ (simulation_mines waiting ?_)
    exact bundle_carries rpc reads told fresh contract waiting (by rw [isSimulating]; rfl)
  | submitted transport answers now isSubmitting =>
    refine exchanged _ _ _ _ _ (submission_mines waiting ?_)
    exact bundle_carries rpc reads told fresh contract waiting (by rw [isSubmitting]; rfl)
  | newBlock => exact ⟨waiting, .same rfl⟩
  | readPool => exact ⟨waiting, .same rfl⟩
  | finishBlock => exact ⟨waiting, .same rfl⟩
  | pendingTx => exact ⟨waiting, .same rfl⟩
  | close => exact ⟨waiting, .same rfl⟩
  | popped => exact ⟨waiting, .same rfl⟩
  | closed => exact ⟨waiting, .same rfl⟩

/-! ## Runs -/

/-- A submission that reaches the builder while the node's pool is empty, and is answered as
included by a node whose block keeps the order of what it was handed and whose receipts are
true; with the profit that was computed for it. -/
inductive Included (lib : Libraries) (evm : Evm) (genesis : World) (system : System) :
    Core.Deployment.Event → System → Nat → Prop
  | submitted {state : StateSnapshot} {bundle : Bundle} {attempts : Nat} {transport : Transport}
      {answers : Answers} {now : String} {body : Json} {result : BundleResult} {candidate : Candidate}
      {swap : Swap} {opportunity : Opportunity} {next : System} :
      system.loop.phase = .submitting state bundle attempts →
      system.builder.node.pool = [] → Reaches transport →
      system.perform lib (evm.ethCall genesis) (.exchange transport answers now) = some next →
      (submitPrivateBundle answers now (Bundle.toJson lib bundle) system.builder).1 = .ok body →
      BundleResult.fromJson lib body = some result → result.status = .included →
      (∀ transactions, next.builder.node.offered = system.builder.node.offered ++ transactions →
        KeepsOrder answers.mining transactions) →
      (∀ block transactions,
        next.builder.node.blocks = system.builder.node.blocks ++ [block] →
        next.builder.node.offered = system.builder.node.offered ++ transactions →
        Truthful evm (evm.chain genesis system.builder.node.blocks) block answers transactions) →
      state.candidate = some candidate → decodeSwap lib candidate = some swap →
      findArbitrage state candidate swap defaultParams = some opportunity →
      Included lib evm genesis system (.exchange transport answers now) next
        opportunity.expectedProfitB.toNat

/-- A run of Knight, the builder and its other clients, and the sum of the profits of some
of the bundles that were included in it. -/
inductive Earned (lib : Libraries) (evm : Evm) (genesis : World) (pools : List Pool)
    (config : BackrunConfig) (operator : Address) (start : System) :
    List Core.Deployment.Event → System → Nat → Prop
  | start : (honestDeployment lib (evm.ethCall genesis) pools config).initial start →
      Earned lib evm genesis pools config operator start [] start 0
  | step {events : List Core.Deployment.Event} {system next : System} {total : Nat}
      {event : Core.Deployment.Event} :
      Earned lib evm genesis pools config operator start events system total →
      OthersApart evm operator system event →
      (honestDeployment lib (evm.ethCall genesis) pools config).step system event next →
      Earned lib evm genesis pools config operator start (events ++ [event]) next total
  | included {events : List Core.Deployment.Event} {system next : System} {total profit : Nat}
      {event : Core.Deployment.Event} :
      Earned lib evm genesis pools config operator start events system total →
      OthersApart evm operator system event →
      (honestDeployment lib (evm.ethCall genesis) pools config).step system event next →
      Included lib evm genesis system event next profit →
      Earned lib evm genesis pools config operator start (events ++ [event]) next (total + profit)

theorem Earned.run {total : Nat}
    (earned : Earned lib evm genesis pools config operator start events system total) :
    (honestDeployment lib (evm.ethCall genesis) pools config).Run events system := by
  induction earned with
  | start initial => exact .start initial
  | step _ _ taken ih => exact ih.step taken
  | included _ _ taken _ ih => exact ih.step taken

variable {code : DexCode}

/-- One inclusion earns exactly its profit. -/
theorem Included.earns {profit : Nat} (rpc : ReadsParams evm.read) (reads : Reads lib)
    (run : (honestDeployment lib (evm.ethCall genesis) pools config).Run events system)
    (deployed : Deployed (evm.chain genesis system.builder.node.blocks) code pools config executor)
    (included : Included lib evm genesis system event next profit) :
    0 < profit ∧
      held (evm.chain genesis next.builder.node.blocks) code.tokenB executor =
        held (evm.chain genesis system.builder.node.blocks) code.tokenB executor + profit ∧
      held (evm.chain genesis next.builder.node.blocks) code.tokenA executor =
        held (evm.chain genesis system.builder.node.blocks) code.tokenA executor := by
  cases included with
  | submitted isSubmitting empty reaches exchanged answered read included inOrder truthful listed decoded
      found =>
    obtain ⟨candidate, swap, opportunity, listed', decoded', found', earns⟩ :=
      included_bundle_earns_its_profit rpc reads run isSubmitting deployed empty reaches exchanged
        answered read included inOrder truthful
    cases listed.symm.trans listed'
    cases decoded.symm.trans decoded'
    cases found.symm.trans found'
    exact earns

/-- What a run keeps. -/
structure Kept (evm : Evm) (genesis : World) (executor operator : Address) (start system : System) : Prop where
  waiting : Waiting (Sparing evm executor operator) system.builder
  keeps : Keeps executor operator (evm.chain genesis start.builder.node.blocks)
    (evm.chain genesis system.builder.node.blocks)

theorem Kept.step (rpc : ReadsParams evm.read) (reads : Reads lib) (confined : Confined evm operator)
    (contract : addressOf config.contractAddress = some executor)
    (run : (honestDeployment lib (evm.ethCall genesis) pools config).Run events system)
    (kept : Kept evm genesis executor operator start system) (apart : OthersApart evm operator system event)
    (taken : (honestDeployment lib (evm.ethCall genesis) pools config).step system event next) :
    Kept evm genesis executor operator start next ∧
      Keeps executor operator (evm.chain genesis system.builder.node.blocks)
        (evm.chain genesis next.builder.node.blocks) := by
  obtain ⟨waiting, new, isBlocks, sparing⟩ := step_mines rpc reads confined (Told.reached run)
    (BundleFreshness.Fresh.reached (honest_run run)) contract kept.waiting apart (perform_performed taken.2)
  have later := chain_keeps kept.keeps.guarded sparing
  rw [← isBlocks] at later
  exact ⟨⟨waiting, kept.keeps.trans later⟩, later⟩

theorem Earned.kept {total : Nat} (rpc : ReadsParams evm.read) (reads : Reads lib)
    (confined : Confined evm operator) (contract : addressOf config.contractAddress = some executor)
    (guarded : Guarded (evm.chain genesis start.builder.node.blocks) executor operator)
    (waiting : Waiting (NotOf evm operator) start.builder)
    (earned : Earned lib evm genesis pools config operator start events system total) :
    Kept evm genesis executor operator start system := by
  induction earned with
  | start initial =>
    refine ⟨⟨?_, ?_⟩, .refl guarded⟩
    · exact fun transaction member => others_sparing confined (waiting.pool transaction member)
    · exact fun record member => others_sparing confined (waiting.records record member)
  | step earned apart taken ih => exact (ih.step rpc reads confined contract earned.run apart taken).1
  | included earned apart taken _ ih => exact (ih.step rpc reads confined contract earned.run apart taken).1

end Deployment

/-! The posted swap again, over a node without other contracts: the pair is mined, and the
profit of its bundle is the sum. -/

end DexKnight.EarnedProfit
