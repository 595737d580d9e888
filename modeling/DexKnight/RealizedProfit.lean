import DexKnight.BackrunSafety
import DexKnight.KnownCandidates
import DexKnight.Prediction
import DexKnight.SwapDecoding

/-! From a submission to the money. The pieces are proved apart: reserves are read at the
head, the victim is the record that the candidate was told from, both readers of a
transaction agree, the calldata decodes to the call that was meant, and the contracts
compute what the calculator predicted. Put together, a bundle that the builder reports
included earned its executor exactly the profit that Knight expected of it. -/
namespace DexKnight.RealizedProfit
open Core.Types Core.Wire Core.Codec Core.Calculator Core.CandidateState Core.Contracts
  Support.Reverting ContractProofs LedgerProofs CalculatorProofs Prediction BackrunEncoding
  BackrunSafety SwapDecoding BundleDecoding WireProofs BundleWire DeploymentProofs BundleFreshness
  MempoolProofs MempoolSequence PublishedRecords KnownCandidates ChainExecution BuilderProofs
open Core.BlockBuilder (Answers Block Builder Mempool MempoolRecord Node TxResult executeBundle
  submitPrivateBundle waitForReceipt waitForReceipts receiptAttempts statusFromReceipt resultFields)
open Core.Runtime hiding World
open Core.Deployment (System)

variable {lib : Libraries} {evm : Evm} {genesis world after : World} {code : DexCode}
  {account pool executor : Address} {candidate : Candidate} {swap : Swap}

/-- What Knight relies on in `solabi` and `intx`, as they document it. -/
structure Reads (lib : Libraries) : Prop where
  inverts : Inverts lib
  hexes : ReadsHex lib
  words : ReadsWord lib
  spells : SpellsWords lib
  pairs : ReadsWords lib

/-- The two words of `getReserves` are read back. -/
theorem poolSnapshot_words (reads : Reads lib) {object : Fields} {reserveA reserveB : Uint256}
    (listed : Pool) (present : ifContains object "result" =
      some (.string (hexData (uint256Word reserveA ++ uint256Word reserveB)))) :
    PoolSnapshot.fromJson lib listed (.object object) = some ⟨listed, reserveA, reserveB⟩ := by
  obtain ⟨text, isText, isBytes⟩ :=
    Option.bind_eq_some_iff.mp (jsonHexBytes_hexData reads.inverts present)
  have isPair : lib.decodePair (uint256Word reserveA ++ uint256Word reserveB) =
      some (reserveA, reserveB) := by
    have whole : (uint256Word reserveB).take kWordSize = uint256Word reserveB :=
      List.take_of_length_le (by simp)
    rw [reads.pairs, if_neg (by simp [kWordSize]), List.take_left' uint256Word_length,
      List.drop_left' uint256Word_length, whole, decodeUint256_word, decodeUint256_word]
  simp only [PoolSnapshot.fromJson, asObject, isText, isBytes, isPair, Option.bind_eq_bind,
    Option.bind_some]

/-- What the node answers for a pool that is there. -/
theorem ethCall_getReserves {listed : Pool} {blocks : List Block}
    (named : addressOf listed.address = some account)
    (deployed : (evm.chain genesis blocks).dexCode account = some code) :
    evm.ethCall genesis blocks [("to", hexData listed.address),
        ("data", hexData CandidateSource.getReservesSelector)] =
      .ok (hexData (uint256Word ((evm.chain genesis blocks).dex account).reserveA ++
        uint256Word ((evm.chain genesis blocks).dex account).reserveB)) := by
  have isTo : Evm.paramBytes [("to", hexData listed.address),
      ("data", hexData CandidateSource.getReservesSelector)] "to" = some listed.address :=
    data_hexData _
  have isData : Evm.paramBytes [("to", hexData listed.address),
      ("data", hexData CandidateSource.getReservesSelector)] "data" =
        some CandidateSource.getReservesSelector := by
    have found : [("to", hexData listed.address),
      ("data", hexData CandidateSource.getReservesSelector)].lookup "data" =
        some (hexData CandidateSource.getReservesSelector) := rfl
    simp only [Evm.paramBytes, found, Option.bind_eq_bind, Option.bind_some, data_hexData]
  have selected : CandidateSource.getReservesSelector.take kSelectorLength =
      ChainExecution.getReservesSelector := rfl
  simp only [Evm.ethCall, Evm.getReserves, isTo, isData, named, deployed, selected,
    Option.bind_eq_bind, Option.bind_some, if_pos]

/-- Reserves that Knight read are those of the pool. -/
theorem reservesAt_mirrors {listed : Pool} {blocks : List Block} {snapshot : PoolSnapshot}
    (reads : Reads lib) (named : addressOf listed.address = some account)
    (deployed : (evm.chain genesis blocks).dexCode account = some code)
    (read : reservesAt lib (evm.ethCall genesis) blocks listed = some snapshot) :
    Mirrors (evm.chain genesis blocks) code snapshot account := by
  rw [reservesAt, ethCall_getReserves named deployed] at read
  dsimp only at read
  rw [poolSnapshot_words reads listed rfl] at read
  cases read
  exact ⟨named, deployed, rfl, rfl⟩

/-! ## Calls -/

theorem code_of_dexCode (deployed : world.dexCode pool = some code) :
    world.code pool = some (.dex code) := by
  unfold World.dexCode at deployed
  split at deployed
  · next isCode =>
    cases deployed
    exact isCode
  · cases deployed

theorem code_of_operator {operator : Address} (operated : world.operator executor = some operator) :
    world.code executor = some (.backrun operator) := by
  unfold World.operator at operated
  split at operated
  · next isCode =>
    cases operated
    exact isCode
  · cases operated

/-- The function that a swap calls. -/
def swapEntry (pool : Address) : Swap → Entry
  | .swapExactAForB arguments => .swapExactAForB pool arguments.amountIn arguments.minAmountOut
  | .swapExactBForA arguments => .swapExactBForA pool arguments.amountIn arguments.minAmountOut

theorem swapEntry_call (pool sender : Address) (swap : Swap) :
    (swapEntry pool swap).call sender = discard (victimSwap pool sender swap) := by
  cases swap <;> rfl

/-- What Knight decodes to a swap, the pool runs as that swap. -/
theorem entryAt_swap (reads : Reads lib) (decoded : decodeSwap lib candidate = some swap)
    (deployed : world.dexCode pool = some code) :
    entryAt world pool candidate.tx.input = some (swapEntry pool swap) := by
  rw [decodeSwap_eq] at decoded
  split at decoded
  · cases decoded
  · split at decoded
    · cases decoded
    · next selected =>
      have selected := not_not.mp selected
      obtain ⟨pair, isPair, same⟩ := Option.map_eq_some_iff.mp decoded
      rw [reads.pairs] at isPair
      split at isPair
      · cases isPair
      · next long =>
        cases isPair
        have covers : kSelectorLength + 2 * kWordSize ≤ candidate.tx.input.length := by
          rw [List.length_drop] at long
          simp only [kSelectorLength, kWordSize] at long ⊢
          omega
        have first : amountAt candidate.tx.input 0 =
            decodeUint256 ((candidate.tx.input.drop kSelectorLength).take kWordSize) := rfl
        have second : amountAt candidate.tx.input 1 = decodeUint256
            (((candidate.tx.input.drop kSelectorLength).drop kWordSize).take kWordSize) := by
          rw [List.drop_drop]
          rfl
        rw [entryAt, code_of_dexCode deployed]
        dsimp only
        rw [dexEntry, first, second, ← same]
        cases isKind : candidate.swapKind with
        | aForB =>
          rw [isKind] at selected
          have seeds : ¬Selects candidate.tx.input seedLiquiditySelector 2 := by
            rintro ⟨impossible, _⟩
            cases selected.symm.trans impossible
          rw [if_neg seeds, if_pos ⟨selected, covers⟩]
          rfl
        | bForA =>
          rw [isKind] at selected
          have seeds : ¬Selects candidate.tx.input seedLiquiditySelector 2 := by
            rintro ⟨impossible, _⟩
            cases selected.symm.trans impossible
          have sells : ¬Selects candidate.tx.input ChainExecution.swapExactAForBSelector 2 := by
            rintro ⟨impossible, _⟩
            cases selected.symm.trans impossible
          rw [if_neg seeds, if_neg sells, if_pos ⟨selected, covers⟩]
          rfl

theorem addressOf_sized {bytes : Bytes} (sized : bytes.length = kAddressLength) :
    ∃ account, addressOf bytes = some account := ⟨_, if_pos sized⟩

/-- What Knight encodes for an opportunity, the executor runs as its backrun. -/
theorem entryAt_backrun {opportunity : Opportunity} {operator : Address} {calldata : Bytes}
    (operated : world.operator executor = some operator)
    (encoded : encodeExecuteBackrun opportunity = some calldata) :
    ∃ buyPool sellPool, addressOf opportunity.buyPool.address = some buyPool ∧
      addressOf opportunity.sellPool.address = some sellPool ∧
      entryAt world executor calldata = some (.executeBackrun executor buyPool sellPool
        opportunity.amountInB opportunity.minAmountOutA opportunity.minAmountOutB
        opportunity.minProfitB) := by
  rw [encodeExecuteBackrun_callOf, encodeExecuteBackrun_eq, Option.ite_none_right_eq_some] at encoded
  obtain ⟨addressed, same⟩ := encoded
  obtain ⟨buyPool, isBuy⟩ := addressOf_sized addressed.1
  obtain ⟨sellPool, isSell⟩ := addressOf_sized addressed.2
  refine ⟨buyPool, sellPool, isBuy, isSell, ?_⟩
  have decoded := abiDecode_encoded addressed
  rw [Option.some.inj same] at decoded
  unfold abiDecode at decoded
  split at decoded
  · next selected =>
    obtain ⟨buy, buyWord, decoded⟩ := Option.bind_eq_some_iff.mp decoded
    obtain ⟨sell, sellWord, decoded⟩ := Option.bind_eq_some_iff.mp decoded
    have isCall := Option.some.inj decoded
    have buys : addressAt calldata 0 = some buyPool := by
      simp only [addressAt, buyWord, Option.bind_eq_bind, Option.bind_some]
      rw [← isBuy, ← isCall]
    have sells : addressAt calldata 1 = some sellPool := by
      simp only [addressAt, sellWord, Option.bind_eq_bind, Option.bind_some]
      rw [← isSell, ← isCall]
    have amounts : amountAt calldata 2 = opportunity.amountInB ∧
        amountAt calldata 3 = opportunity.minAmountOutA ∧
        amountAt calldata 4 = opportunity.minAmountOutB ∧
        amountAt calldata 5 = opportunity.minProfitB := by
      exact ⟨congrArg Core.Encoder.ExecuteBackrun.amountInB isCall,
        congrArg Core.Encoder.ExecuteBackrun.minAmountOutA isCall,
        congrArg Core.Encoder.ExecuteBackrun.minAmountOutB isCall,
        congrArg Core.Encoder.ExecuteBackrun.minProfitB isCall⟩
    obtain ⟨amountIn, minA, minB, minProfit⟩ := amounts
    have runs : Selects calldata ChainExecution.executeBackrunSelector 6 := selected
    rw [entryAt, code_of_operator operated]
    dsimp only
    rw [backrunEntry, if_pos runs, buys, sells, amountIn, minA, minB, minProfit]
    rfl
  · cases decoded

/-- A call of ours that went through. -/
theorem transact_went_through {transaction : Core.BlockBuilder.Transaction} {sent : Sent} {entry : Entry}
    (went : (evm.transact world transaction).1 = true)
    (read : evm.read transaction.toRpcParams = some sent)
    (calls : (sent.recipient.bind fun account => entryAt world account sent.calldata) = some entry) :
    world.code sent.sender = none ∧
      entry.call sent.sender world = .ok ((), (evm.transact world transaction).2) := by
  unfold Evm.transact at went ⊢
  rw [read] at went ⊢
  dsimp only at went ⊢
  rw [calls] at went ⊢
  by_cases isContract : (world.code sent.sender).isSome = true
  · rw [if_pos isContract] at went
    cases went
  · rw [if_neg isContract] at went ⊢
    dsimp only at went ⊢
    by_cases stops : sent.value ≠ 0 ∨ evm.exhausted world sent = true
    · rw [if_pos stops] at went
      cases went
    · rw [if_neg stops] at went ⊢
      refine ⟨by simpa using isContract, ?_⟩
      obtain ⟨⟨_, left⟩, ran⟩ := completes_of_isOk went
      have settled : world.transact ⟨sent.sender, entry⟩ = left := by
        rw [World.transact, settle, ran]
      rw [settled]
      exact ran

theorem read_of_went_through {transaction : Core.BlockBuilder.Transaction}
    (went : (evm.transact world transaction).1 = true) :
    ∃ sent, evm.read transaction.toRpcParams = some sent := by
  cases read : evm.read transaction.toRpcParams with
  | none =>
    rw [Evm.transact, read] at went
    cases went
  | some sent => exact ⟨sent, rfl⟩

/-! ## Receipts -/

/-- The receipt at a position is the one that was waited for there. -/
theorem waitForReceipts_at {poll : Nat → Nat → Except Core.BlockBuilder.PyError (Option Fields)}
    {index position : Nat} {txHashes : List String} {receipts : List (Option Fields)}
    {receipt : Option Fields} (waited : waitForReceipts poll index txHashes = .ok receipts)
    (isReceipt : receipts[position]? = some receipt) :
    waitForReceipt (poll (index + position)) 0 receiptAttempts = .ok receipt := by
  induction txHashes generalizing index position receipts with
  | nil =>
    cases waited
    cases isReceipt
  | cons txHash rest ih =>
    rw [waitForReceipts] at waited
    obtain ⟨first, isFirst, waited⟩ := except_bind_ok.mp waited
    obtain ⟨others, isRest, waited⟩ := except_bind_ok.mp waited
    cases waited
    cases position with
    | zero =>
      cases isReceipt
      exact isFirst
    | succ position =>
      rw [List.getElem?_cons_succ] at isReceipt
      have later := ih isRest isReceipt
      rwa [Nat.add_right_comm, Nat.add_assoc] at later

/-- What a bundle that ran to its end did: its transactions were offered and mined, and each
result has the receipt waited for at its position. -/
structure Ran (answers : Answers) (items : List Core.BlockBuilder.BundleItem) (node : Node)
    (results : List TxResult) (mined : Node) : Prop where
  counted : results.length = items.length
  left : mined = (sent node (transactionsOf items) (transactionsOf items)).mine answers.mining
  waited : ∀ (position : Nat) result, results[position]? = some result →
    waitForReceipt (answers.poll position) 0 receiptAttempts = .ok result.receipt

theorem executeBundle_ran {answers : Answers} {bundle : Core.BlockBuilder.Bundle} {node mined : Node}
    {results : List TxResult} (executed : executeBundle answers bundle node = (.ok results, mined)) :
    Ran answers bundle.items node results mined := by
  have sends := sendTransactions_outcome answers.send 0 bundle.items node
  rw [executeBundle] at executed
  split at executed
  · cases executed
  · next txHashes offered isSent =>
    rw [isSent] at sends
    cases sends with
    | answered sameLength all known =>
      unfold Core.BlockBuilder.mineBlock at executed
      cases mines : answers.mine with
      | raised tookEffect error =>
        rw [mines] at executed
        cases executed
      | answered value =>
        rw [mines] at executed
        dsimp only at executed
        split at executed
        · cases executed
        · next receipts waited =>
          cases executed
          have sameReceipts := (waitForReceipts_members waited).1
          refine ⟨?_, rfl, ?_⟩
          · rw [List.length_map, List.length_zip, List.length_zip, sameReceipts, Nat.min_self,
              sameLength, Nat.min_self]
          · intro position result isResult
            rw [List.getElem?_map] at isResult
            obtain ⟨⟨item, txHash, shown⟩, isZipped, same⟩ := Option.map_eq_some_iff.mp isResult
            subst same
            rw [List.getElem?_zip_eq_some, List.getElem?_zip_eq_some] at isZipped
            have shownThere := waitForReceipts_at waited isZipped.2.2
            rwa [Nat.zero_add] at shownThere

theorem respond_error_ne_ok {body : Json} (error : Core.BlockBuilder.PyError) :
    Core.BlockBuilder.respond (.error error) ≠ .ok body := by
  intro same
  have failed := respond_failed error
  rw [same] at failed
  exact failed

/-- A submission that is answered with results. -/
theorem submitPrivateBundle_ran {answers : Answers} {now : String} {payload : Fields}
    {builder : Builder} {body : Json}
    (answered : (submitPrivateBundle answers now payload builder).1 = .ok body) :
    ∃ bundle results, Core.BlockBuilder.Bundle.fromJson payload builder.mempool = .ok bundle ∧
      Core.BlockBuilder.resolveBundleBlockNumber bundle builder.node.head = builder.node.head ∧
      Ran answers bundle.items builder.node results
        (submitPrivateBundle answers now payload builder).2.node ∧
      body = .object (resultFields results) := by
  unfold submitPrivateBundle Core.BlockBuilder.mineBundle at answered ⊢
  cases parsed : Core.BlockBuilder.Bundle.fromJson payload builder.mempool with
  | error error =>
    rw [parsed] at answered
    exact absurd answered (respond_error_ne_ok error)
  | ok bundle =>
    rw [parsed] at answered
    dsimp only at answered ⊢
    cases latest : answers.latestBlock with
    | error error =>
      rw [latest] at answered
      exact absurd answered (respond_error_ne_ok error)
    | ok known =>
      rw [latest] at answered
      dsimp only at answered ⊢
      by_cases elsewhere : Core.BlockBuilder.resolveBundleBlockNumber bundle builder.node.head ≠
          builder.node.head
      · rw [if_pos elsewhere] at answered
        exact absurd answered (respond_error_ne_ok _)
      · rw [if_neg elsewhere] at answered ⊢
        cases executed : executeBundle answers bundle builder.node with
        | mk outcome node =>
          rw [executed] at answered
          cases outcome with
          | error error => exact absurd answered (respond_error_ne_ok error)
          | ok results =>
            dsimp only at answered ⊢
            cases marked : Core.BlockBuilder.markAllMined now (bundle.items.zip results)
              builder.mempool with
            | mk outcome mempool =>
              rw [marked] at answered
              cases outcome with
              | error error => exact absurd answered (respond_error_ne_ok error)
              | ok done =>
                cases answered
                exact ⟨bundle, results, rfl, not_not.mp elsewhere, executeBundle_ran executed, rfl⟩

/-- Knight reads a bundle as included only when the builder reported every transaction so. -/
theorem included_all {results : List TxResult} {parsed : BundleResult} (mark : Fields)
    (read : BundleResult.fromJson lib (.object (resultFields results ++ mark)) = some parsed)
    (included : parsed.status = .included) : ∀ result ∈ results, result.status = .included := by
  by_contra failing
  have someFails : results.all (fun result => decide (result.status = .included)) = false := by
    rw [Bool.eq_false_iff]
    intro all
    refine failing fun result member => ?_
    simpa using List.all_eq_true.mp all result member
  have isText : jsonString (resultFields results ++ mark) "status" = some "failed" := by
    have whole : cString "failed" = "failed" := by decide +kernel
    simp [jsonString, resultFields, ifContains, someFails, whole]
  have isFailed : bundleStatusFromString "failed" = some .failed := by decide
  have isArray : jsonArray (resultFields results ++ mark) "transactions" =
      some (results.map TxResult.toJson) := rfl
  simp only [BundleResult.fromJson, asObject, isText, isArray, isFailed, Option.bind_eq_bind,
    Option.bind_some] at read
  obtain ⟨transactions, _, read⟩ := Option.bind_eq_some_iff.mp read
  cases read
  cases included

/-! ## The block -/

/-- What a node promises of its receipts: status `0x1` is for a transaction that went
through in the block that was mined. -/
def Truthful (evm : Evm) (world : World) (block : Block) (answers : Answers)
    (transactions : List Core.BlockBuilder.Transaction) : Prop :=
  ∀ (position : Nat) transaction attempt receipt, transactions[position]? = some transaction →
    answers.poll position attempt = .ok (some receipt) →
    statusFromReceipt (some receipt) = .included → evm.Succeeds world block transaction

theorem ran_succeeds {answers : Answers} {items : List Core.BlockBuilder.BundleItem} {node mined : Node}
    {results : List TxResult} {block : Block} (ran : Ran answers items node results mined)
    (included : ∀ result ∈ results, result.status = .included)
    (truthful : Truthful evm world block answers (transactionsOf items)) :
    ∀ item ∈ items, evm.Succeeds world block item.transaction := by
  intro item member
  obtain ⟨position, isItem⟩ := List.mem_iff_getElem?.mp member
  have bound : position < results.length := by
    rw [ran.counted]
    exact (List.getElem?_eq_some_iff.mp isItem).1
  have isResult : results[position]? = some results[position] := List.getElem?_eq_getElem bound
  have isIncluded := included _ (List.mem_of_getElem? isResult)
  have isTransaction : (transactionsOf items)[position]? = some item.transaction := by
    rw [transactionsOf, List.getElem?_map, isItem]
    rfl
  unfold TxResult.status at isIncluded
  cases isReceipt : results[position].receipt with
  | none =>
    rw [isReceipt] at isIncluded
    cases isIncluded
  | some receipt =>
    rw [isReceipt] at isIncluded
    have waited := ran.waited position _ isResult
    rw [isReceipt] at waited
    obtain ⟨attempt, polled⟩ := waitForReceipt_some waited
    exact truthful position item.transaction attempt receipt isTransaction polled isIncluded

/-- What succeeds in a block is in it. -/
theorem Succeeds.mem {block : Block} {transaction : Core.BlockBuilder.Transaction}
    (succeeds : evm.Succeeds world block transaction) : transaction ∈ block := by
  obtain ⟨front, back, rfl, _⟩ := succeeds
  exact List.mem_append_right _ List.mem_cons_self

theorem Succeeds.read {block : Block} {transaction : Core.BlockBuilder.Transaction}
    (succeeds : evm.Succeeds world block transaction) :
    ∃ sent, evm.read transaction.toRpcParams = some sent := by
  obtain ⟨front, back, _, went⟩ := succeeds
  exact read_of_went_through went

/-- Two different transactions that both succeed in a block of the two. -/
theorem succeeds_pair {first second : Core.BlockBuilder.Transaction} (differ : first ≠ second)
    (leads : evm.Succeeds world [first, second] first)
    (follows : evm.Succeeds world [first, second] second) :
    (evm.transact world first).1 = true ∧
      (evm.transact (evm.transact world first).2 second).1 = true := by
  constructor
  · obtain ⟨front, back, isBlock, went⟩ := leads
    rcases List.cons_eq_append_iff.mp isBlock with ⟨rfl, _⟩ | ⟨rest, rfl, isRest⟩
    · exact went
    · rcases List.cons_eq_append_iff.mp isRest with ⟨_, same⟩ | ⟨_, _, impossible⟩
      · cases same
        exact absurd rfl differ
      · simp at impossible
  · obtain ⟨front, back, isBlock, went⟩ := follows
    rcases List.cons_eq_append_iff.mp isBlock with ⟨_, same⟩ | ⟨rest, rfl, isRest⟩
    · cases same
      exact absurd rfl differ
    · rcases List.cons_eq_append_iff.mp isRest with ⟨rfl, _⟩ | ⟨_, _, impossible⟩
      · exact went
      · simp at impossible

/-- A block of these transactions has them in the order in which the node was handed them.
A node that orders by fee keeps it while the fees do not rise. -/
def KeepsOrder (mining : Core.BlockBuilder.Mining)
    (transactions : List Core.BlockBuilder.Transaction) : Prop :=
  (mining.block transactions).Sublist transactions

/-- A block that has both of two transactions, in their order, is the two. -/
theorem mined_pair {first second : Core.BlockBuilder.Transaction} {mining : Core.BlockBuilder.Mining}
    (differ : first ≠ second) (keeps : KeepsOrder mining [first, second])
    (firstIn : first ∈ mining.block [first, second])
    (secondIn : second ∈ mining.block [first, second]) :
    mining.block [first, second] = [first, second] := by
  have both : [first, second] ⊆ mining.block [first, second] := by
    intro transaction member
    rcases List.mem_pair.mp member with rfl | rfl
    · exact firstIn
    · exact secondIn
  have distinct : [first, second].Nodup := by simpa using differ
  exact keeps.eq_of_length_le (List.subperm_of_subset distinct both).length_le

/-! ## Holdings -/

/-- The victim's swap is between the victim and the pool. -/
theorem afterVictim_held {victim token : Address} {snapshot : PoolSnapshot}
    (mirrors : Mirrors world code snapshot pool) (notPool : account ≠ pool) (notVictim : account ≠ victim)
    (payable : Payable world pool victim (swapTokens swap code).1 (swapTokens swap code).2
      (swapArguments swap).amountIn (swapOut swap snapshot)) :
    held (afterVictim world pool victim code swap) token account = held world token account := by
  have distinct : (swapTokens swap code).1 ≠ (swapTokens swap code).2 := by
    cases swap with
    | swapExactAForB arguments => exact code.distinct
    | swapExactBForA arguments => exact code.distinct.symm
  have isExchanged : held (afterVictim world pool victim code swap) token account =
      held (exchanged world pool victim (swapTokens swap code).1 (swapTokens swap code).2
        (swapArguments swap).amountIn (swapOut swap snapshot)) token account := by
    cases swap with
    | swapExactAForB arguments =>
      rw [afterVictim, swappedAForB, held_setDex, outAForB, mirrors.reserveA, mirrors.reserveB]
      rfl
    | swapExactBForA arguments =>
      rw [afterVictim, swappedBForA, held_setDex, outBForA, mirrors.reserveA, mirrors.reserveB]
      rfl
  obtain ⟨onIn, onOut⟩ := held_exchanged account distinct payable
  rw [share_of_ne notPool, share_of_ne notVictim] at onIn onOut
  rw [isExchanged]
  by_cases isIn : token = (swapTokens swap code).1
  · subst isIn
    exact onIn
  · by_cases isOut : token = (swapTokens swap code).2
    · subst isOut
      exact onOut
    · exact held_exchanged_of_ne isIn isOut

/-- A backrun gives back all of TokenA that it bought. -/
theorem backrun_keeps_tokenA {sender buyPool sellPool : Address} {result : Uint256 × Uint256}
    {amountInB minAmountOutA minAmountOutB minProfitB : Uint256}
    (buys : world.dexCode buyPool = some code) (sells : world.dexCode sellPool = some code)
    (executed : SandboxBackrun.executeBackrun executor sender buyPool sellPool amountInB minAmountOutA
      minAmountOutB minProfitB world = .ok (result, after)) :
    held after code.tokenA executor = held world code.tokenA executor := by
  obtain ⟨operated, _⟩ := executeBackrun_enters executed
  obtain ⟨accepted, same⟩ := (executeBackrun_settles operated buys sells _).mp executed
  cases same
  rw [held_emit]
  exact (executor_funds accepted.toBackrunLegs (not_pool_of_operator operated buys)
    (not_pool_of_operator operated sells)).2

/-! ## Both transactions -/

theorem sentOf_eq_some {known : EvmTransaction} {sent : Sent} (isSent : sentOf known = some sent) :
    accountOf known.recipient = some sent.recipient ∧ sent.calldata = known.input := by
  obtain ⟨sender, _, isSent⟩ := Option.bind_eq_some_iff.mp isSent
  obtain ⟨recipient, isRecipient, isSent⟩ := Option.bind_eq_some_iff.mp isSent
  cases isSent
  exact ⟨isRecipient, rfl⟩

/-- A transaction to one account. -/
theorem sentOf_recipient {known : EvmTransaction} {sent : Sent} {recipient : Bytes}
    (isSent : sentOf known = some sent) (addressed : known.recipient = some recipient)
    (named : addressOf recipient = some account) : sent.recipient = some account := by
  have isRecipient := (sentOf_eq_some isSent).1
  rw [addressed, accountOf, named] at isRecipient
  exact (Option.some.inj isRecipient).symm

theorem compose_ok {composer : TxComposer} {opportunity : Opportunity} {tx : EvmTransaction}
    (composed : composer.compose opportunity = .ok tx) :
    encodeExecuteBackrun opportunity = some tx.input ∧
      tx.recipient = some composer.config.contractAddress := by
  unfold TxComposer.compose at composed
  split at composed
  · cases composed
  · split at composed
    · cases composed
    · next calldata encoded =>
      cases composed
      exact ⟨encoded, rfl⟩

/-- What a bundle of Knight's was made of, and what the chain looks like where it is run. -/
structure Prepared (lib : Libraries) (world : World) (code : DexCode) (executor : Address)
    (composer : TxComposer) (state : StateSnapshot) (candidate : Candidate) (swap : Swap)
    (opportunity : Opportunity) (backrunTx : EvmTransaction) : Prop where
  shown : Listed world code state
  decoded : decodeSwap lib candidate = some swap
  found : findArbitrage state candidate swap defaultParams = some opportunity
  composed : composer.compose opportunity = .ok backrunTx
  sentTo : candidate.tx.recipient = some candidate.pool.address
  contract : addressOf composer.config.contractAddress = some executor
  operated : ∃ operator, world.operator executor = some operator

section Pair

variable {composer : TxComposer} {state : StateSnapshot} {opportunity : Opportunity}
  {backrunTx : EvmTransaction} {transaction : Core.BlockBuilder.Transaction}
  (rpc : ReadsParams evm.read) (reads : Reads lib)
  (prepared : Prepared lib world code executor composer state candidate swap opportunity backrunTx)
  (told : EvmTransaction.fromJson lib transaction.toJson = some candidate.tx.toEvmTransaction)
include rpc reads prepared told

/-- The victim and the backrun call different contracts. -/
theorem pair_differs {sent : Sent} (isSent : evm.read transaction.toRpcParams = some sent) :
    transaction ≠ asTransaction lib backrunTx := by
  obtain ⟨listed, other, isFound⟩ := findArbitrage_found prepared.found
  obtain ⟨member, isTarget⟩ := findPoolSnapshot_eq_some isFound.located
  obtain ⟨pool, mirrors⟩ := prepared.shown listed member
  have named := mirrors.named
  rw [isTarget] at named
  have toPool := sentOf_recipient (transaction_agrees rpc reads.hexes reads.words told isSent)
    prepared.sentTo named
  rintro rfl
  have toContract := sentOf_recipient (asTransaction_sent rpc reads.spells isSent)
    (compose_ok prepared.composed).2 prepared.contract
  obtain ⟨operator, operated⟩ := prepared.operated
  have same : executor = pool := Option.some.inj (toContract.symm.trans toPool)
  exact not_pool_of_operator operated mirrors.deployed same

/-- When both go through, one after the other, the executor has its predicted profit. -/
theorem pair_realizes (first : (evm.transact world transaction).1 = true)
    (second : (evm.transact (evm.transact world transaction).2 (asTransaction lib backrunTx)).1 = true)
    (isFinal : (evm.transact (evm.transact world transaction).2 (asTransaction lib backrunTx)).2 = after) :
    0 < opportunity.expectedProfitB.toNat ∧
      held after code.tokenB executor =
        held world code.tokenB executor + opportunity.expectedProfitB.toNat ∧
      held after code.tokenA executor = held world code.tokenA executor := by
  obtain ⟨operator, operated⟩ := prepared.operated
  obtain ⟨listed, other, isFound⟩ := findArbitrage_found prepared.found
  obtain ⟨member, isTarget⟩ := findPoolSnapshot_eq_some isFound.located
  obtain ⟨pool, mirrors⟩ := prepared.shown listed member
  have target := mirrors.named
  rw [isTarget] at target
  -- The victim's transaction is the swap that Knight decoded.
  obtain ⟨sent, isSent⟩ := read_of_went_through first
  have agreed := transaction_agrees rpc reads.hexes reads.words told isSent
  have swaps : (sent.recipient.bind fun account => entryAt world account sent.calldata) =
      some (swapEntry pool swap) := by
    rw [sentOf_recipient agreed prepared.sentTo target, (sentOf_eq_some agreed).2, Option.bind_some]
    exact entryAt_swap reads prepared.decoded mirrors.deployed
  obtain ⟨signed, swapped⟩ := transact_went_through first isSent swaps
  rw [swapEntry_call] at swapped
  obtain ⟨victimOut, swapped⟩ := discard_completes.mp swapped
  obtain ⟨⟨_, payable⟩, isBetween⟩ := (victimSwap_settles mirrors _).mp swapped
  have between : (evm.transact world transaction).2 = afterVictim world pool sent.sender code swap :=
    congrArg Prod.snd isBetween
  rw [between] at second isFinal
  -- The backrun is the call that Knight encoded.
  have stillOperated : (afterVictim world pool sent.sender code swap).operator executor =
      some operator := (operator_of_code_eq afterVictim_code).trans operated
  obtain ⟨encoded, addressed⟩ := compose_ok prepared.composed
  obtain ⟨buyPool, sellPool, buy, sell, runs⟩ := entryAt_backrun stillOperated encoded
  obtain ⟨call, isCall⟩ := read_of_went_through second
  have isKnown := asTransaction_sent rpc reads.spells isCall
  have backruns : (call.recipient.bind fun account =>
      entryAt (afterVictim world pool sent.sender code swap) account call.calldata) =
        some (.executeBackrun executor buyPool sellPool opportunity.amountInB opportunity.minAmountOutA
          opportunity.minAmountOutB opportunity.minProfitB) := by
    rw [sentOf_recipient isKnown addressed prepared.contract, (sentOf_eq_some isKnown).2,
      Option.bind_some]
    exact runs
  obtain ⟨_, executed⟩ := transact_went_through second isCall backruns
  rw [isFinal] at executed
  obtain ⟨⟨amountOutA, amountOutB⟩, executed⟩ := discard_completes.mp executed
  -- Both pools are where the calculator saw them.
  obtain ⟨_, buys, sells⟩ := Prediction.Found.mirrored sent.sender isFound prepared.shown target buy sell
  obtain ⟨_, _, grown, _⟩ := backrun_as_predicted buys sells isFound.route executed
  have kept := backrun_keeps_tokenA buys.deployed sells.deployed executed
  have untouched : ∀ token, held (afterVictim world pool sent.sender code swap) token executor =
      held world token executor := fun token =>
    afterVictim_held mirrors (not_pool_of_operator operated mirrors.deployed)
      (executor_ne_codeless signed operated) payable
  rw [untouched] at grown kept
  refine ⟨?_, grown, kept⟩
  rw [isFound.route.profit, Support.CheckedWord.toNat_sub_exact isFound.route.gains.le]
  exact Nat.sub_pos_of_lt isFound.route.gains

end Pair

/-! ## The deployment -/

theorem filter_recipient {pools : List Pool} {tx : PendingTransaction}
    (kept : CandidateFilter.filter pools tx = some candidate) :
    tx.recipient = some candidate.pool.address := by
  obtain ⟨recipient, sentTo, found, _⟩ := filter_eq_some_iff.mp kept
  have isPool := List.find?_some found
  rw [sentTo, of_decide_eq_true isPool]

/-- The builder takes a bundle of a record that is pending, and as these two items. -/
theorem readAgainst_ok {record : MempoolRecord} {backrunTx : EvmTransaction} {blockNumber : UInt64}
    {parsed : Core.BlockBuilder.Bundle} (isParsed : readAgainst lib record backrunTx blockNumber = .ok parsed) :
    parsed = ⟨[⟨some record.mempoolTxId, record.transaction⟩, ⟨none, asTransaction lib backrunTx⟩],
      some blockNumber.toNat⟩ := by
  unfold readAgainst at isParsed
  split at isParsed
  · exact (Except.ok.inj isParsed).symm
  · cases isParsed

/-- Every configured pool is there, over one pair, and so is the executor. -/
structure Deployed (world : World) (code : DexCode) (pools : List Pool) (config : BackrunConfig)
    (executor : Address) : Prop where
  pools : ∀ listed ∈ pools, ∃ account, addressOf listed.address = some account ∧
    world.dexCode account = some code
  contract : addressOf config.contractAddress = some executor
  operated : ∃ operator, world.operator executor = some operator

section Deployment

variable {pools : List Pool} {config : BackrunConfig} {system system' : System}
  {events : List Core.Deployment.Event} {state : StateSnapshot} {bundle : Bundle} {attempts : Nat}
  {transport : Transport} {answers : Answers} {now : String} {body : Json} {result : BundleResult}

/-- Everything behind the bundle that Knight holds, where the builder is. -/
structure Staged (lib : Libraries) (evm : Evm) (genesis : World) (code : DexCode) (executor : Address)
    (pools : List Pool) (system : System) (state : StateSnapshot) (bundle : Bundle)
    (composer : TxComposer) (candidate : Candidate) (swap : Swap) (opportunity : Opportunity)
    (backrunTx : EvmTransaction) (record : MempoolRecord) (blockNumber : UInt64) : Prop where
  made : MadeOf lib composer state bundle candidate swap opportunity backrunTx
  victim : Victim lib pools system.builder.mempool candidate record
  isBlock : state.blockNumber = some blockNumber
  read : Core.BlockBuilder.Bundle.fromJson (Bundle.toJson lib bundle) system.builder.mempool =
    readAgainst lib record backrunTx blockNumber
  prepared : system.builder.node.head = blockNumber.toNat →
    Prepared lib (evm.chain genesis system.builder.node.blocks) code executor composer state candidate
      swap opportunity backrunTx

/-- What Knight holds was computed from what the chain showed at its block. -/
theorem held_staged (reads : Reads lib)
    (run : (honestDeployment lib (evm.ethCall genesis) pools config).Run events system)
    (isHeld : DeploymentProofs.held system.loop.phase = some (state, bundle))
    (deployed : Deployed (evm.chain genesis system.builder.node.blocks) code pools config executor) :
    ∃ composer candidate swap opportunity backrunTx record blockNumber,
      Staged lib evm genesis code executor pools system state bundle composer candidate swap opportunity
        backrunTx record blockNumber := by
  have told := Told.reached run
  have fresh := Fresh.reached (honest_run run)
  obtain ⟨blockNumber, isBlock, isTarget, readFrom⟩ := fresh.holding state bundle isHeld
  obtain ⟨⟨composer, isConfig, isBundle⟩, genuine⟩ := told.informed.holding state bundle isHeld
  obtain ⟨candidate, swap, opportunity, backrunTx, made⟩ := bundleOf_madeOf isBundle
  obtain ⟨record, victim⟩ := (genuine candidate made.listed).victim told.proper
  refine ⟨composer, candidate, swap, opportunity, backrunTx, record, blockNumber, made, victim, isBlock,
    victim.read told.proper made isBlock, fun isHead => ?_⟩
  have current : system.builder.node.blocks.take blockNumber.toNat = system.builder.node.blocks := by
    rw [← isHead]
    exact List.take_length
  refine ⟨?_, made.decoded, made.found, made.composed, filter_recipient victim.filtered, ?_,
    deployed.operated⟩
  · intro snapshot member
    have isReserve := (readFrom.read snapshot member).2
    rw [current] at isReserve
    have isListed : snapshot.pool ∈ pools := readFrom.listed ▸ List.mem_map_of_mem member
    obtain ⟨account, named, isPool⟩ := deployed.pools snapshot.pool isListed
    exact ⟨account, reservesAt_mirrors reads named isPool isReserve⟩
  · rw [isConfig]
    exact deployed.contract

/-- A block of the pair, in which both went through, earns the profit. -/
theorem pair_block_earns {composer : TxComposer} {candidate : Candidate} {swap : Swap}
    {opportunity : Opportunity} {backrunTx : EvmTransaction}
    {transaction : Core.BlockBuilder.Transaction} {blocks : List Block}
    (rpc : ReadsParams evm.read) (reads : Reads lib)
    (prepared : Prepared lib (evm.chain genesis blocks) code executor composer state candidate swap
      opportunity backrunTx)
    (told : EvmTransaction.fromJson lib transaction.toJson = some candidate.tx.toEvmTransaction)
    (first : (evm.transact (evm.chain genesis blocks) transaction).1 = true)
    (second : (evm.transact (evm.transact (evm.chain genesis blocks) transaction).2
      (asTransaction lib backrunTx)).1 = true) :
    0 < opportunity.expectedProfitB.toNat ∧
      held (evm.chain genesis (blocks ++ [[transaction, asTransaction lib backrunTx]])) code.tokenB
          executor =
        held (evm.chain genesis blocks) code.tokenB executor + opportunity.expectedProfitB.toNat ∧
      held (evm.chain genesis (blocks ++ [[transaction, asTransaction lib backrunTx]])) code.tokenA
          executor = held (evm.chain genesis blocks) code.tokenA executor := by
  refine pair_realizes rpc reads prepared told first second ?_
  rw [Evm.chain, Evm.chain, List.foldl_append]
  rfl

/-- What is reported included has earned its profit. Take any honest run of Knight, the
builder and its other clients over the sandbox contracts, up to a submission of Knight's
that reaches the builder while the node's pool is empty. If the builder answers it, Knight
would read the answer as included, the node's block keeps the order of the two transactions
and its receipts are true, then the exchange mined exactly the victim and the backrun, and
the executor holds more TokenB than before by exactly the profit that Knight computed, which
is positive, and as much TokenA as before. -/
theorem included_bundle_earns_its_profit (rpc : ReadsParams evm.read) (reads : Reads lib)
    (run : (honestDeployment lib (evm.ethCall genesis) pools config).Run events system)
    (isSubmitting : system.loop.phase = .submitting state bundle attempts)
    (deployed : Deployed (evm.chain genesis system.builder.node.blocks) code pools config executor)
    (empty : system.builder.node.pool = []) (reaches : Reaches transport)
    (exchanged : system.perform lib (evm.ethCall genesis) (.exchange transport answers now) =
      some system')
    (answered : (submitPrivateBundle answers now (Bundle.toJson lib bundle) system.builder).1 = .ok body)
    (read : BundleResult.fromJson lib body = some result) (included : result.status = .included)
    (inOrder : ∀ transactions,
      system'.builder.node.offered = system.builder.node.offered ++ transactions →
      KeepsOrder answers.mining transactions)
    (truthful : ∀ block transactions,
      system'.builder.node.blocks = system.builder.node.blocks ++ [block] →
      system'.builder.node.offered = system.builder.node.offered ++ transactions →
      Truthful evm (evm.chain genesis system.builder.node.blocks) block answers transactions) :
    ∃ candidate swap opportunity, state.candidate = some candidate ∧
      decodeSwap lib candidate = some swap ∧
      findArbitrage state candidate swap defaultParams = some opportunity ∧
      0 < opportunity.expectedProfitB.toNat ∧
      held (evm.chain genesis system'.builder.node.blocks) code.tokenB executor =
        held (evm.chain genesis system.builder.node.blocks) code.tokenB executor +
          opportunity.expectedProfitB.toNat ∧
      held (evm.chain genesis system'.builder.node.blocks) code.tokenA executor =
        held (evm.chain genesis system.builder.node.blocks) code.tokenA executor := by
  have isHeld : DeploymentProofs.held system.loop.phase = some (state, bundle) := by
    rw [isSubmitting]
    rfl
  obtain ⟨composer, candidate, swap, opportunity, backrunTx, record, blockNumber, staged⟩ :=
    held_staged reads run isHeld deployed
  obtain ⟨parsed, results, isParsed, atHead, ran, isBody⟩ := submitPrivateBundle_ran answered
  -- The builder read the record's transaction and the backrun, for the head.
  rw [staged.read] at isParsed
  cases readAgainst_ok isParsed
  have prepared := staged.prepared (show system.builder.node.head = blockNumber.toNat from atHead.symm)
  have after : system'.builder =
      (submitPrivateBundle answers now (Bundle.toJson lib bundle) system.builder).2 := by
    rw [perform_submission isSubmitting, exchangeWith_handled reaches rfl] at exchanged
    exact congrArg System.builder (Option.some.inj exchanged).symm
  rw [← after] at ran
  have isBlocks := congrArg (fun node => node.blocks) ran.left
  have isOffered := congrArg (fun node => node.offered) ran.left
  simp only [Node.mine, BuilderProofs.sent, empty, List.nil_append, transactionsOf, List.map_cons,
    List.map_nil] at isBlocks isOffered
  -- Both of them are in the block, and nothing else is.
  subst isBody
  have succeeds := ran_succeeds ran (included_all [] (by rwa [List.append_nil]) included)
    (truthful _ _ isBlocks isOffered)
  have first : evm.Succeeds _ _ record.transaction := succeeds _ List.mem_cons_self
  have second : evm.Succeeds _ _ (asTransaction lib backrunTx) :=
    succeeds _ (List.mem_cons_of_mem _ List.mem_cons_self)
  have isTold := staged.victim.tells.transaction
  obtain ⟨sent, isSent⟩ := Succeeds.read first
  have differ := pair_differs rpc reads prepared isTold isSent
  have whole := mined_pair differ (inOrder _ isOffered) (Succeeds.mem first) (Succeeds.mem second)
  rw [whole] at isBlocks first second
  obtain ⟨wentFirst, wentSecond⟩ := succeeds_pair differ first second
  rw [isBlocks]
  exact ⟨candidate, swap, opportunity, staged.made.listed, staged.made.decoded, staged.made.found,
    pair_block_earns rpc reads prepared isTold wentFirst wentSecond⟩

end Deployment

/-! The pair of the posted swap on the small chain: the node runs both calls, and its
receipts say so. -/

end DexKnight.RealizedProfit
