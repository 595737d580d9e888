import DexKnight.MempoolProofs
import DexKnight.Support.Reverting
import DexKnight.Support.Traversal

/-! What a bundle request can do to the builder, whatever the node answers. A send
that raises leaves what was sent before it in the pool; a mine that raises may have
mined; a poll that raises comes after the block. Every result about submissions is
derived from these cases. -/
namespace DexKnight.BuilderProofs
open Core.Wire Core.BlockBuilder MempoolProofs Support.Reverting Support.Traversal

variable {answers : Answers} {bundle : Bundle} {node : Node} {builder : Builder}
  {payload : Fields} {now : String}

/-! ## Sends -/

/-- The transactions of a bundle, in order. -/
def transactionsOf (items : List BundleItem) : List Transaction := items.map BundleItem.transaction

/-- A node that was offered some transactions and accepted some of them. -/
def sent (node : Node) (offered accepted : List Transaction) : Node :=
  { node with pool := node.pool ++ accepted, offered := node.offered ++ offered }

/-- Every send from this index on is answered. -/
def SendsAnswered (send : Nat → Rpc String) (index count : Nat) : Prop :=
  ∀ position < count, ∃ txHash, send (index + position) = .answered txHash

/-- What a list of sends did. -/
inductive SendOutcome (send : Nat → Rpc String) (index : Nat) (items : List BundleItem) (node : Node) :
    Except PyError (List String) → Node → Prop
  | answered {txHashes : List String} : txHashes.length = items.length →
      SendsAnswered send index items.length →
      (∀ txHash ∈ txHashes, ∃ position, send position = .answered txHash) →
      SendOutcome send index items node (.ok txHashes)
        (sent node (transactionsOf items) (transactionsOf items))
  | raised {position : Nat} {tookEffect : Bool} {error : PyError} : position < items.length →
      SendsAnswered send index position → send (index + position) = .raised tookEffect error →
      SendOutcome send index items node (.error error)
        (sent node (transactionsOf (items.take (position + 1)))
          (transactionsOf (items.take (position + tookEffect.toNat))))

/-- One more answered send in front. -/
private theorem SendOutcome.cons {send : Nat → Rpc String} {index : Nat} {item : BundleItem}
    {rest : List BundleItem} {txHash : String} {result : Except PyError (List String)} {after : Node}
    (first : send index = .answered txHash)
    (outcome : SendOutcome send (index + 1) rest (node.send item.transaction true) result after) :
    SendOutcome send index (item :: rest) node (result.map fun txHashes => txHash :: txHashes)
      after := by
  have shift : ∀ {count}, SendsAnswered send (index + 1) count →
      SendsAnswered send index (count + 1) := by
    intro count later position bound
    cases position with
    | zero => exact ⟨txHash, first⟩
    | succ position =>
      have answered := later position (Nat.lt_of_succ_lt_succ bound)
      rwa [Nat.add_right_comm] at answered
  cases outcome with
  | @answered txHashes sameLength all known =>
    have placed : sent node (transactionsOf (item :: rest)) (transactionsOf (item :: rest)) =
        sent (node.send item.transaction true) (transactionsOf rest) (transactionsOf rest) := by
      simp [sent, Node.send, transactionsOf]
    rw [← placed]
    refine .answered ?_ (shift all) ?_
    · rw [List.length_cons, List.length_cons, sameLength]
    · intro other member
      rcases List.mem_cons.mp member with rfl | later
      · exact ⟨index, first⟩
      · exact known other later
  | @raised position tookEffect error bound before raised =>
    have placed : sent node (transactionsOf ((item :: rest).take (position + 1 + 1)))
          (transactionsOf ((item :: rest).take (position + 1 + tookEffect.toNat))) =
        sent (node.send item.transaction true) (transactionsOf (rest.take (position + 1)))
          (transactionsOf (rest.take (position + tookEffect.toNat))) := by
      rw [Nat.add_right_comm position 1 tookEffect.toNat]
      simp [sent, Node.send, transactionsOf]
    rw [← placed]
    refine .raised (Nat.succ_lt_succ bound) (shift before) ?_
    rw [← Nat.add_assoc, Nat.add_right_comm]
    exact raised

theorem sendTransactions_outcome (send : Nat → Rpc String) (index : Nat) (items : List BundleItem)
    (node : Node) :
    SendOutcome send index items node (sendTransactions send index items node).1
      (sendTransactions send index items node).2 := by
  induction items generalizing index node with
  | nil =>
    have same : sent node (transactionsOf []) (transactionsOf []) = node := by
      simp [sent, transactionsOf]
    have outcome : SendOutcome send index [] node (.ok [])
        (sent node (transactionsOf []) (transactionsOf [])) := by
      refine .answered rfl ?_ ?_
      · intro position impossible
        exact absurd impossible (Nat.not_lt_zero _)
      · intro txHash impossible
        cases impossible
    rw [same] at outcome
    exact outcome
  | cons item rest ih =>
    rw [sendTransactions]
    cases first : send index with
    | raised tookEffect error =>
      dsimp only
      have placed : sent node (transactionsOf ((item :: rest).take (0 + 1)))
            (transactionsOf ((item :: rest).take (0 + tookEffect.toNat))) =
          node.send item.transaction tookEffect := by
        cases tookEffect with
        | false => simp [sent, Node.send, transactionsOf]
        | true => simp [sent, Node.send, transactionsOf]
      rw [← placed]
      refine .raised (Nat.succ_pos _) ?_ first
      intro position impossible
      exact absurd impossible (Nat.not_lt_zero _)
    | answered txHash =>
      have outcome := SendOutcome.cons first (ih (index + 1) (node.send item.transaction true))
      dsimp only
      cases later : sendTransactions send (index + 1) rest (node.send item.transaction true) with
      | mk result after =>
        rw [later] at outcome
        cases result with
        | error error => exact outcome
        | ok txHashes => exact outcome

/-! ## Receipts -/

/-- No poll that is made for a receipt raises: polls go on while nothing shows. -/
def PollsAnswered (poll : Nat → Except PyError (Option Fields)) : Prop :=
  ∀ attempt < receiptAttempts, (∀ earlier < attempt, poll earlier = .ok none) →
    ∃ answer, poll attempt = .ok answer

private theorem waitForReceipt_ok_iff (poll : Nat → Except PyError (Option Fields))
    (start remaining : Nat) :
    (∃ receipt, waitForReceipt poll start remaining = .ok receipt) ↔
      ∀ attempt < remaining, (∀ earlier < attempt, poll (start + earlier) = .ok none) →
        ∃ answer, poll (start + attempt) = .ok answer := by
  induction remaining generalizing start with
  | zero =>
    refine ⟨?_, fun _ => ⟨none, rfl⟩⟩
    intro _ attempt impossible
    exact absurd impossible (Nat.not_lt_zero _)
  | succ remaining ih =>
    rw [waitForReceipt]
    cases first : poll start with
    | error error =>
      constructor
      · rintro ⟨receipt, impossible⟩
        cases impossible
      · intro answered
        obtain ⟨answer, impossible⟩ := answered 0 (Nat.succ_pos _)
          fun _ earlier => absurd earlier (Nat.not_lt_zero _)
        rw [Nat.add_zero, first] at impossible
        cases impossible
    | ok answer =>
      cases answer with
      | some receipt =>
        constructor
        · intro _ attempt _ quiet
          cases attempt with
          | zero => exact ⟨some receipt, first⟩
          | succ attempt =>
            have impossible := quiet 0 (Nat.succ_pos _)
            rw [Nat.add_zero, first] at impossible
            cases impossible
        · intro _
          exact ⟨some receipt, rfl⟩
      | none =>
        refine (ih (start + 1)).trans ?_
        constructor
        · intro later attempt bound quiet
          cases attempt with
          | zero => exact ⟨none, first⟩
          | succ attempt =>
            have answered := later attempt (Nat.lt_of_succ_lt_succ bound) fun earlier isEarlier => by
              have silent := quiet (earlier + 1) (Nat.succ_lt_succ isEarlier)
              rwa [← Nat.add_assoc, Nat.add_right_comm] at silent
            rwa [Nat.add_right_comm, Nat.add_assoc] at answered
        · intro answered attempt bound quiet
          have isAnswered := answered (attempt + 1) (Nat.succ_lt_succ bound) fun earlier isEarlier => by
            cases earlier with
            | zero => exact first
            | succ earlier =>
              have silent := quiet earlier (Nat.lt_of_succ_lt_succ isEarlier)
              rwa [Nat.add_right_comm, Nat.add_assoc] at silent
          rwa [← Nat.add_assoc, Nat.add_right_comm] at isAnswered

/-- A receipt that was waited for came from some poll. -/
theorem waitForReceipt_some {poll : Nat → Except PyError (Option Fields)}
    {start remaining : Nat} {receipt : Fields}
    (waited : waitForReceipt poll start remaining = .ok (some receipt)) :
    ∃ attempt, poll attempt = .ok (some receipt) := by
  induction remaining generalizing start with
  | zero => cases waited
  | succ remaining ih =>
    rw [waitForReceipt] at waited
    cases first : poll start with
    | error error =>
      rw [first] at waited
      cases waited
    | ok answer =>
      rw [first] at waited
      cases answer with
      | some shown =>
        cases waited
        exact ⟨start, first⟩
      | none => exact ih waited

/-- The polls of every transaction from this index on. -/
def ReceiptsAnswered (poll : Nat → Nat → Except PyError (Option Fields)) (index count : Nat) : Prop :=
  ∀ position < count, PollsAnswered (poll (index + position))

theorem waitForReceipts_ok_iff (poll : Nat → Nat → Except PyError (Option Fields)) (index : Nat)
    (txHashes : List String) :
    (∃ receipts, waitForReceipts poll index txHashes = .ok receipts) ↔
      ReceiptsAnswered poll index txHashes.length := by
  induction txHashes generalizing index with
  | nil =>
    refine ⟨?_, fun _ => ⟨[], rfl⟩⟩
    intro _ position impossible
    exact absurd impossible (Nat.not_lt_zero _)
  | cons txHash rest ih =>
    have first := waitForReceipt_ok_iff (poll index) 0 receiptAttempts
    simp only [Nat.zero_add] at first
    rw [waitForReceipts]
    constructor
    · rintro ⟨receipts, waited⟩ position bound
      obtain ⟨receipt, isFirst, waited⟩ := except_bind_ok.mp waited
      obtain ⟨others, isRest, _⟩ := except_bind_ok.mp waited
      cases position with
      | zero => exact first.mp ⟨receipt, isFirst⟩
      | succ position =>
        have later := (ih (index + 1)).mp ⟨others, isRest⟩ position (Nat.lt_of_succ_lt_succ bound)
        rwa [Nat.add_right_comm, Nat.add_assoc] at later
    · intro answered
      obtain ⟨receipt, isFirst⟩ := first.mpr (answered 0 (Nat.succ_pos _))
      obtain ⟨others, isRest⟩ := (ih (index + 1)).mpr fun position bound => by
        have later := answered (position + 1) (Nat.succ_lt_succ bound)
        rwa [← Nat.add_assoc, Nat.add_right_comm] at later
      refine ⟨receipt :: others, ?_⟩
      rw [isFirst, isRest]
      rfl

/-- Each receipt came from some poll, and there is one answer for each transaction. -/
theorem waitForReceipts_members {poll : Nat → Nat → Except PyError (Option Fields)} {index : Nat}
    {txHashes : List String} {receipts : List (Option Fields)}
    (waited : waitForReceipts poll index txHashes = .ok receipts) :
    receipts.length = txHashes.length ∧ ∀ receipt, some receipt ∈ receipts →
      ∃ position attempt, poll position attempt = .ok (some receipt) := by
  induction txHashes generalizing index receipts with
  | nil =>
    cases waited
    refine ⟨rfl, ?_⟩
    intro receipt impossible
    cases impossible
  | cons txHash rest ih =>
    rw [waitForReceipts] at waited
    obtain ⟨first, isFirst, waited⟩ := except_bind_ok.mp waited
    obtain ⟨others, isRest, waited⟩ := except_bind_ok.mp waited
    cases waited
    obtain ⟨sameLength, known⟩ := ih isRest
    refine ⟨by rw [List.length_cons, List.length_cons, sameLength], ?_⟩
    intro receipt member
    rcases List.mem_cons.mp member with same | later
    · rw [← same] at isFirst
      obtain ⟨attempt, polled⟩ := waitForReceipt_some isFirst
      exact ⟨index, attempt, polled⟩
    · exact known receipt later

/-! ## What the node decides -/

theorem Mining.mem_block {mining : Mining} {pool : List Transaction} {transaction : Transaction}
    (member : transaction ∈ mining.block pool) : transaction ∈ pool :=
  (mining.pooled pool).subset (List.mem_append_left _ member)

theorem Mining.mem_left {mining : Mining} {pool : List Transaction} {transaction : Transaction}
    (member : transaction ∈ mining.left pool) : transaction ∈ pool :=
  (mining.pooled pool).subset (List.mem_append_right _ member)

/-- A block that takes the only transaction of a kind leaves none. -/
theorem Mining.takes_one {mining : Mining} {pool : List Transaction} {kind : Transaction → Bool}
    {transaction : Transaction} (single : pool.countP kind = 1)
    (taken : transaction ∈ mining.block pool) (holds : kind transaction = true) :
    (mining.block pool).countP kind = 1 ∧ ∀ other ∈ mining.left pool, kind other = false := by
  have total := (mining.pooled pool).countP_le kind
  rw [List.countP_append, single] at total
  have some : 0 < (mining.block pool).countP kind := List.countP_pos_iff.mpr ⟨_, taken, holds⟩
  refine ⟨by omega, ?_⟩
  have none : (mining.left pool).countP kind = 0 := by omega
  simpa using List.countP_eq_zero.mp none

/-- The block takes the whole pool as it is. -/
def wholePool : Mining where
  block pool := pool
  left _ := []
  pooled pool := by rw [List.append_nil]

/-- A revert leaves the pool alone. -/
def presentPool : Rollback where
  pool _ present := present
  pooled _ _ _ member := .inr member

/-! ## Executing a bundle -/

/-- The node once every transaction of the bundle is in its pool. -/
def loaded (node : Node) (bundle : Bundle) : Node :=
  sent node (transactionsOf bundle.items) (transactionsOf bundle.items)

/-- What the node answered to a bundle that ran to its end. -/
structure Completes (answers : Answers) (count : Nat) : Prop where
  sends : SendsAnswered answers.send 0 count
  mines : answers.mine = .answered ()
  receipts : ReceiptsAnswered answers.poll 0 count

/-- The results are in order, one for each item, with the node's hashes and receipts. -/
structure Reported (answers : Answers) (bundle : Bundle) (results : List TxResult) : Prop where
  ids : results.map TxResult.mempoolTxId = bundle.items.map BundleItem.mempoolTxId
  hashes : ∀ result ∈ results, ∃ position, answers.send position = .answered result.chainTxHash
  receipts : ∀ result ∈ results, ∀ receipt, result.receipt = some receipt →
    ∃ position attempt, answers.poll position attempt = .ok (some receipt)

/-- What executing a bundle did. -/
inductive Executed (answers : Answers) (bundle : Bundle) (node : Node) :
    Except PyError (List TxResult) → Node → Prop
  | sendRaised {position : Nat} {tookEffect : Bool} {error : PyError} :
      position < bundle.items.length → SendsAnswered answers.send 0 position →
      answers.send position = .raised tookEffect error →
      Executed answers bundle node (.error error)
        (sent node (transactionsOf (bundle.items.take (position + 1)))
          (transactionsOf (bundle.items.take (position + tookEffect.toNat))))
  | mineRaised {tookEffect : Bool} {error : PyError} :
      SendsAnswered answers.send 0 bundle.items.length → answers.mine = .raised tookEffect error →
      Executed answers bundle node (.error error)
        (if tookEffect then (loaded node bundle).mine answers.mining else loaded node bundle)
  | pollRaised {error : PyError} :
      SendsAnswered answers.send 0 bundle.items.length → answers.mine = .answered () →
      ¬ReceiptsAnswered answers.poll 0 bundle.items.length →
      Executed answers bundle node (.error error) ((loaded node bundle).mine answers.mining)
  | completed {results : List TxResult} :
      Completes answers bundle.items.length → Reported answers bundle results →
      Executed answers bundle node (.ok results) ((loaded node bundle).mine answers.mining)

/-- Results are put together position by position. -/
private theorem reported_zip {items : List BundleItem} {blockNumber : Option Nat}
    {txHashes : List String} {receipts : List (Option Fields)}
    (sameHashes : txHashes.length = items.length) (sameReceipts : receipts.length = txHashes.length)
    (knownHashes : ∀ txHash ∈ txHashes, ∃ position, answers.send position = .answered txHash)
    (knownReceipts : ∀ receipt, some receipt ∈ receipts →
      ∃ position attempt, answers.poll position attempt = .ok (some receipt)) :
    Reported answers ⟨items, blockNumber⟩
      ((items.zip (txHashes.zip receipts)).map fun (item, txHash, receipt) =>
        { mempoolTxId := item.mempoolTxId, chainTxHash := txHash, receipt }) := by
  refine ⟨?_, ?_, ?_⟩
  · have front : (items.zip (txHashes.zip receipts)).map Prod.fst = items := by
      refine List.map_fst_zip ?_
      rw [List.length_zip, sameReceipts, Nat.min_self, sameHashes]
    calc _ = ((items.zip (txHashes.zip receipts)).map Prod.fst).map BundleItem.mempoolTxId := by
          rw [List.map_map, List.map_map]
          rfl
      _ = _ := by rw [front]
  · intro result member
    obtain ⟨⟨item, txHash, receipt⟩, zipped, rfl⟩ := List.mem_map.mp member
    exact knownHashes txHash (List.of_mem_zip (List.of_mem_zip zipped).2).1
  · intro result member receipt isReceipt
    obtain ⟨⟨item, txHash, shown⟩, zipped, rfl⟩ := List.mem_map.mp member
    have isShown : shown = some receipt := isReceipt
    rw [isShown] at zipped
    exact knownReceipts receipt (List.of_mem_zip (List.of_mem_zip zipped).2).2

/-- Everything executing a bundle can do. -/
theorem executeBundle_outcome (answers : Answers) (bundle : Bundle) (node : Node) :
    Executed answers bundle node (executeBundle answers bundle node).1
      (executeBundle answers bundle node).2 := by
  have sends := sendTransactions_outcome answers.send 0 bundle.items node
  rw [executeBundle]
  cases isSent : sendTransactions answers.send 0 bundle.items node with
  | mk result after =>
    rw [isSent] at sends
    cases sends with
    | raised bound before raised =>
      rw [Nat.zero_add] at raised
      exact .sendRaised bound before raised
    | @answered txHashes sameLength all known =>
      dsimp only
      rw [mineBlock]
      cases mined : answers.mine with
      | raised tookEffect error => exact .mineRaised all mined
      | answered value =>
        dsimp only
        have polls := waitForReceipts_ok_iff answers.poll 0 txHashes
        rw [sameLength] at polls
        cases waited : waitForReceipts answers.poll 0 txHashes with
        | error error =>
          refine .pollRaised all mined ?_
          intro answered
          obtain ⟨receipts, impossible⟩ := polls.mpr answered
          rw [waited] at impossible
          cases impossible
        | ok receipts =>
          obtain ⟨sameReceipts, knownReceipts⟩ := waitForReceipts_members waited
          refine .completed ⟨all, mined, polls.mp ⟨receipts, waited⟩⟩ ?_
          exact reported_zip sameLength sameReceipts known knownReceipts

/-- An execution adds at most one block. -/
theorem executed_head {result : Except PyError (List TxResult)} {after : Node}
    (executed : Executed answers bundle node result after) :
    after.head = node.head ∨ after.head = node.head + 1 := by
  have mined : ((loaded node bundle).mine answers.mining).head = node.head + 1 := by
    simp [Node.head, Node.mine, loaded, sent]
  cases executed with
  | sendRaised => exact .inl rfl
  | @mineRaised tookEffect error sends raised =>
    cases tookEffect with
    | true => exact .inr mined
    | false => exact .inl rfl
  | pollRaised => exact .inr mined
  | completed => exact .inr mined

/-- An execution offers at least the first transaction. -/
theorem executed_offered {result : Except PyError (List TxResult)} {after : Node}
    (loads : bundle.items ≠ []) (executed : Executed answers bundle node result after) :
    ∃ new, new ≠ [] ∧ after.offered = node.offered ++ new := by
  have whole : transactionsOf bundle.items ≠ [] := by
    intro empty
    exact loads (List.map_eq_nil_iff.mp empty)
  cases executed with
  | @sendRaised position =>
    refine ⟨transactionsOf (bundle.items.take (position + 1)), ?_, rfl⟩
    intro empty
    rcases List.take_eq_nil_iff.mp (List.map_eq_nil_iff.mp empty) with impossible | none
    · exact absurd impossible (Nat.succ_ne_zero _)
    · exact loads none
  | @mineRaised tookEffect error sends raised =>
    cases tookEffect with
    | true => exact ⟨_, whole, rfl⟩
    | false => exact ⟨_, whole, rfl⟩
  | pollRaised => exact ⟨_, whole, rfl⟩
  | completed => exact ⟨_, whole, rfl⟩

/-- An execution only appends to the chain. -/
theorem executed_blocks {result : Except PyError (List TxResult)} {after : Node}
    (executed : Executed answers bundle node result after) : node.blocks <+: after.blocks := by
  cases executed with
  | sendRaised => exact List.prefix_refl _
  | @mineRaised tookEffect error sends raised =>
    cases tookEffect with
    | true => exact List.prefix_append _ _
    | false => exact List.prefix_refl _
  | pollRaised => exact List.prefix_append _ _
  | completed => exact List.prefix_append _ _

theorem executed_snapshots {result : Except PyError (List TxResult)} {after : Node}
    (executed : Executed answers bundle node result after) : after.snapshots = node.snapshots := by
  cases executed with
  | sendRaised => rfl
  | @mineRaised tookEffect error sends raised =>
    cases tookEffect with
    | true => rfl
    | false => rfl
  | pollRaised => rfl
  | completed => rfl

/-- An execution in which no call raises does not fail. -/
theorem completes_not_failed {bundle : Bundle} {node after : Node} {error : PyError}
    (completes : Completes answers bundle.items.length)
    (executed : Executed answers bundle node (.error error) after) : False := by
  obtain ⟨sends, mines, receipts⟩ := completes
  cases executed with
  | sendRaised bound before raised =>
    obtain ⟨txHash, answered⟩ := sends _ bound
    rw [Nat.zero_add, raised] at answered
    cases answered
  | mineRaised _ raised => cases mines.symm.trans raised
  | pollRaised _ _ unread => exact unread receipts

/-! Which transactions the node accepted, and where they went. -/

/-- The node accepts the transaction at this position: every send before it is
answered, and its own takes effect. -/
def Accepted (answers : Answers) (position : Nat) : Prop :=
  SendsAnswered answers.send 0 position ∧ ∀ error, answers.send position ≠ .raised false error

theorem accepted_of_answered {position count : Nat} (all : SendsAnswered answers.send 0 count)
    (bound : position < count) : Accepted answers position := by
  refine ⟨fun earlier isEarlier => all earlier (isEarlier.trans bound), ?_⟩
  intro error raised
  obtain ⟨txHash, answered⟩ := all position bound
  rw [Nat.zero_add, raised] at answered
  cases answered

/-- Accepted transactions are all in the pool, or the node mined one new block of it. -/
inductive Placed (node : Node) (accepted : List Transaction) (after : Node) : Prop
  | pooled : after.blocks = node.blocks → after.pool = node.pool ++ accepted →
      Placed node accepted after
  | mined (mining : Mining) :
      after.blocks = node.blocks ++ [mining.block (node.pool ++ accepted)] →
      after.pool = mining.left (node.pool ++ accepted) → Placed node accepted after

private theorem mem_transactionsOf_take {items : List BundleItem} {count : Nat}
    {transaction : Transaction} (member : transaction ∈ transactionsOf (items.take count)) :
    ∃ position item, position < count ∧ items[position]? = some item ∧
      item.transaction = transaction := by
  obtain ⟨item, isItem, same⟩ := List.mem_map.mp member
  obtain ⟨position, found⟩ := List.mem_iff_getElem?.mp isItem
  rw [List.getElem?_take] at found
  split at found
  · next bound => exact ⟨position, item, bound, found, same⟩
  · cases found

/-- An execution places the transactions the node accepted, and no others. -/
theorem executed_placed {result : Except PyError (List TxResult)} {after : Node}
    (executed : Executed answers bundle node result after) :
    ∃ accepted, Placed node accepted after ∧ ∀ transaction ∈ accepted, ∃ position item,
      bundle.items[position]? = some item ∧ item.transaction = transaction ∧
        Accepted answers position := by
  have whole : SendsAnswered answers.send 0 bundle.items.length →
      ∀ transaction ∈ transactionsOf bundle.items, ∃ position item,
        bundle.items[position]? = some item ∧ item.transaction = transaction ∧
          Accepted answers position := by
    intro all transaction member
    have isWhole : bundle.items.take bundle.items.length = bundle.items := List.take_length
    rw [← isWhole] at member
    obtain ⟨position, item, bound, isItem, same⟩ := mem_transactionsOf_take member
    exact ⟨position, item, isItem, same, accepted_of_answered all bound⟩
  cases executed with
  | @sendRaised position tookEffect error bound before raised =>
    refine ⟨_, .pooled rfl rfl, ?_⟩
    intro transaction member
    obtain ⟨index, item, isBefore, isItem, same⟩ := mem_transactionsOf_take member
    refine ⟨index, item, isItem, same, ?_⟩
    by_cases earlier : index < position
    · exact accepted_of_answered before earlier
    · cases tookEffect with
      | false =>
        simp only [Bool.toNat_false] at isBefore
        omega
      | true =>
        simp only [Bool.toNat_true] at isBefore
        have last : index = position := by omega
        rw [last]
        refine ⟨before, ?_⟩
        intro refusal impossible
        cases raised.symm.trans impossible
  | @mineRaised tookEffect error sends raised =>
    cases tookEffect with
    | true => exact ⟨_, .mined answers.mining rfl rfl, whole sends⟩
    | false => exact ⟨_, .pooled rfl rfl, whole sends⟩
  | pollRaised sends mined unread => exact ⟨_, .mined _ rfl rfl, whole sends⟩
  | completed completes reported => exact ⟨_, .mined _ rfl rfl, whole completes.sends⟩

/-! ## Handling a submission -/

/-- The request is answered before anything is sent to the node. -/
inductive Rejected (answers : Answers) (payload : Fields) (builder : Builder) : Prop
  | malformed {error : PyError} : Bundle.fromJson payload builder.mempool = .error error →
      Rejected answers payload builder
  | headUnknown {error : PyError} : answers.latestBlock = .error error →
      Rejected answers payload builder
  | headElsewhere {bundle : Bundle} : Bundle.fromJson payload builder.mempool = .ok bundle →
      resolveBundleBlockNumber bundle builder.node.head ≠ builder.node.head →
      Rejected answers payload builder

/-- A bundle that passes every check before the first send. -/
structure Admitted (answers : Answers) (payload : Fields) (builder : Builder) (bundle : Bundle) :
    Prop where
  parsed : Bundle.fromJson payload builder.mempool = .ok bundle
  headKnown : answers.latestBlock = .ok ()
  atHead : resolveBundleBlockNumber bundle builder.node.head = builder.node.head

theorem Admitted.not_rejected (admitted : Admitted answers payload builder bundle) :
    ¬Rejected answers payload builder := by
  intro rejected
  cases rejected with
  | malformed malformed => cases admitted.parsed.symm.trans malformed
  | headUnknown unknown => cases admitted.headKnown.symm.trans unknown
  | headElsewhere parsed elsewhere =>
    have same := Except.ok.inj (parsed.symm.trans admitted.parsed)
    rw [same] at elsewhere
    exact elsewhere admitted.atHead

/-- A response that reports an error. -/
def Response.failed : Response → Prop
  | .ok _ => False
  | .error _ _ => True

theorem respond_failed (error : PyError) : Response.failed (respond (.error error)) := by
  cases error with
  | valueError message => trivial
  | runtimeError message => trivial
  | httpException statusCode detail => trivial
  | uncaught message => trivial

/-! A bundle's references are to records the mempool has, and it never loses one, so
marking them cannot fail. -/

/-- A reference stands for a pending record of the mempool. -/
theorem bundleItem_reference {data : Json} {mempool : Mempool} {item : BundleItem}
    {mempoolTxId : String} (parsed : BundleItem.fromJson data mempool = .ok item)
    (refers : item.mempoolTxId = some mempoolTxId) :
    ∃ record ∈ mempool.transactions, record.mempoolTxId = mempoolTxId ∧
      record.status = .pending ∧ item.transaction = record.transaction := by
  unfold BundleItem.fromJson at parsed
  split at parsed
  · split at parsed
    · obtain ⟨transaction, _, parsed⟩ := except_bind_ok.mp parsed
      cases parsed
      cases refers
    · obtain ⟨transaction, _, parsed⟩ := except_bind_ok.mp parsed
      cases parsed
      cases refers
    · split at parsed
      · cases parsed
      · split at parsed
        · cases parsed
        · next record found =>
          split at parsed
          · next isPending =>
            cases parsed
            cases refers
            exact ⟨record, List.mem_of_find?_eq_some found, by simpa using List.find?_some found,
              isPending, rfl⟩
          · cases parsed
    · cases parsed
  · cases parsed

/-- What a bundle that parses is made of. -/
theorem bundle_parsed {mempool : Mempool} (parsed : Bundle.fromJson payload mempool = .ok bundle) :
    bundle.items ≠ [] ∧ optionalBlockNumber payload "blockNumber" = .ok bundle.blockNumber ∧
      ∃ rawItems, ifContains payload "transactions" = some (.array rawItems) ∧
        rawItems.mapM (fun rawItem => BundleItem.fromJson rawItem mempool) = .ok bundle.items := by
  unfold Bundle.fromJson at parsed
  split at parsed
  · next first rest isArray =>
    obtain ⟨items, isItems, parsed⟩ := except_bind_ok.mp parsed
    obtain ⟨blockNumber, isBlock, parsed⟩ := except_bind_ok.mp parsed
    cases parsed
    refine ⟨?_, isBlock, first :: rest, isArray, isItems⟩
    intro empty
    have isEmpty : items = [] := empty
    rw [isEmpty, mapM_eq_ok, List.forall₂_nil_right_iff] at isItems
    cases isItems
  · cases parsed

/-- Every reference of a parsed bundle is known to the mempool. -/
theorem bundle_references {mempool : Mempool} (parsed : Bundle.fromJson payload mempool = .ok bundle)
    {item : BundleItem} (member : item ∈ bundle.items) {mempoolTxId : String}
    (refers : item.mempoolTxId = some mempoolTxId) :
    ∃ record ∈ mempool.transactions, record.mempoolTxId = mempoolTxId ∧
      record.status = .pending ∧ item.transaction = record.transaction := by
  obtain ⟨_, _, rawItems, _, isItems⟩ := bundle_parsed parsed
  obtain ⟨rawItem, _, isItem⟩ := exists_of_mem_right (mapM_eq_ok.mp isItems) member
  exact bundleItem_reference isItem refers

/-- The mempool has a record under this id. -/
def Known (mempool : Mempool) (mempoolTxId : String) : Prop :=
  ∃ record ∈ mempool.transactions, record.mempoolTxId = mempoolTxId

theorem setItem_known {records : List MempoolRecord} {new record : MempoolRecord}
    (member : record ∈ records) :
    ∃ stays ∈ Mempool.setItem records new, stays.mempoolTxId = record.mempoolTxId := by
  unfold Mempool.setItem
  split
  · by_cases replaced : record.mempoolTxId = new.mempoolTxId
    · exact ⟨new, List.mem_map.mpr ⟨record, member, if_pos replaced⟩, replaced.symm⟩
    · exact ⟨record, List.mem_map.mpr ⟨record, member, if_neg replaced⟩, rfl⟩
  · exact ⟨record, List.mem_append_left _ member, rfl⟩

/-- Marking a known record succeeds and forgets no record. -/
theorem markMined_known {mempool : Mempool} {mempoolTxId : String}
    (known : Known mempool mempoolTxId) (chainTxHash : String) (status : TxStatus)
    (receipt : Option Fields) (now : String) :
    ∃ after, mempool.markMined mempoolTxId chainTxHash status receipt now = .ok after ∧
      ∀ other, Known mempool other → Known after other := by
  obtain ⟨record, member, isId⟩ := known
  cases found : mempool.getTransaction mempoolTxId with
  | none =>
    have absent := List.find?_eq_none.mp found record member
    simp [isId] at absent
  | some old =>
    refine ⟨_, by rw [Mempool.markMined, found], ?_⟩
    rintro other ⟨kept, isKept, rfl⟩
    obtain ⟨stays, isStays, same⟩ := setItem_known isKept
    exact ⟨stays, isStays, same⟩

theorem markAllMined_ok {pairs : List (BundleItem × TxResult)} {mempool : Mempool} (now : String)
    (known : ∀ pair ∈ pairs, ∀ mempoolTxId, pair.1.mempoolTxId = some mempoolTxId →
      Known mempool mempoolTxId) :
    ∃ after, markAllMined now pairs mempool = (.ok (), after) := by
  induction pairs generalizing mempool with
  | nil => exact ⟨mempool, rfl⟩
  | cons pair rest ih =>
    obtain ⟨item, txResult⟩ := pair
    have knownRest : ∀ pair ∈ rest, ∀ mempoolTxId, pair.1.mempoolTxId = some mempoolTxId →
        Known mempool mempoolTxId :=
      fun pair member => known pair (List.mem_cons_of_mem _ member)
    rw [markAllMined]
    cases isId : item.mempoolTxId with
    | none => exact ih knownRest
    | some mempoolTxId =>
      obtain ⟨after, marked, keeps⟩ := markMined_known (known _ List.mem_cons_self mempoolTxId isId)
        txResult.chainTxHash txResult.status txResult.receipt now
      dsimp only
      rw [marked]
      exact ih fun pair member id isPair => keeps id (knownRest pair member id isPair)

/-- Marking changes no record's transaction. -/
theorem markAllMined_transactions {pairs : List (BundleItem × TxResult)} {mempool after : Mempool}
    (Holds : Transaction → Prop) (marked : markAllMined now pairs mempool = (.ok (), after))
    (all : ∀ record ∈ mempool.transactions, Holds record.transaction) :
    ∀ record ∈ after.transactions, Holds record.transaction := by
  induction pairs generalizing mempool with
  | nil =>
    cases marked
    exact all
  | cons pair rest ih =>
    obtain ⟨item, txResult⟩ := pair
    rw [markAllMined] at marked
    split at marked
    · exact ih marked all
    · split at marked
      · cases marked
      · next one isMarked =>
        refine ih marked ?_
        intro record member
        obtain ⟨old, isOld, _, rfl⟩ := markMined_cases isMarked
        rcases mem_setItem member with rfl | ⟨kept, _⟩
        · exact all old isOld
        · exact all record kept

/-- What a submission did. -/
inductive Submitted (answers : Answers) (now : String) (payload : Fields) (builder : Builder) :
    Response → Builder → Prop
  | rejected {error : PyError} : Rejected answers payload builder →
      Submitted answers now payload builder (respond (.error error)) builder
  | failed {bundle : Bundle} {error : PyError} {node : Node} :
      Admitted answers payload builder bundle →
      Executed answers bundle builder.node (.error error) node →
      Submitted answers now payload builder (respond (.error error)) { builder with node }
  | completed {bundle : Bundle} {results : List TxResult} {node : Node} {mempool : Mempool} :
      Admitted answers payload builder bundle →
      Executed answers bundle builder.node (.ok results) node →
      markAllMined now (bundle.items.zip results) builder.mempool = (.ok (), mempool) →
      Submitted answers now payload builder (.ok (.object (resultFields results))) { node, mempool }

/-- Everything a submission can do. -/
theorem submitPrivateBundle_outcome (answers : Answers) (now : String) (payload : Fields)
    (builder : Builder) :
    Submitted answers now payload builder (submitPrivateBundle answers now payload builder).1
      (submitPrivateBundle answers now payload builder).2 := by
  unfold submitPrivateBundle mineBundle
  cases parsed : Bundle.fromJson payload builder.mempool with
  | error error => exact .rejected (.malformed parsed)
  | ok bundle =>
    dsimp only
    cases latest : answers.latestBlock with
    | error error => exact .rejected (.headUnknown latest)
    | ok isKnown =>
      dsimp only
      by_cases elsewhere : resolveBundleBlockNumber bundle builder.node.head ≠ builder.node.head
      · rw [if_pos elsewhere]
        exact .rejected (.headElsewhere parsed elsewhere)
      · rw [if_neg elsewhere]
        have admitted : Admitted answers payload builder bundle :=
          ⟨parsed, latest, not_not.mp elsewhere⟩
        have outcome := executeBundle_outcome answers bundle builder.node
        cases executed : executeBundle answers bundle builder.node with
        | mk result node =>
          rw [executed] at outcome
          cases result with
          | error error => exact .failed admitted outcome
          | ok results =>
            dsimp only
            obtain ⟨mempool, marked⟩ := markAllMined_ok now fun pair member mempoolTxId refers => by
              obtain ⟨record, isRecord, isId, _⟩ := bundle_references parsed
                (List.of_mem_zip member).1 refers
              exact (⟨record, isRecord, isId⟩ : Known builder.mempool mempoolTxId)
            rw [marked]
            exact .completed admitted outcome marked

/-- An admitted bundle that is executed is offered to the node. -/
theorem Admitted.offers {result : Except PyError (List TxResult)} {after : Node}
    (admitted : Admitted answers payload builder bundle)
    (executed : Executed answers bundle builder.node result after) :
    after.offered ≠ builder.node.offered := by
  have loads := (bundle_parsed admitted.parsed).1
  obtain ⟨new, isNew, offered⟩ := executed_offered loads executed
  rw [offered]
  intro same
  exact isNew (List.append_right_eq_self.mp same)

namespace Submitted

variable {response : Response} {after : Builder}
  (submitted : Submitted answers now payload builder response after)
include submitted

/-- A submission changes nothing, or its bundle was admitted and at most one block
came of it. -/
theorem effect :
    after = builder ∨ ∃ bundle, Admitted answers payload builder bundle ∧
      (after.node.head = builder.node.head ∨ after.node.head = builder.node.head + 1) := by
  cases submitted with
  | rejected => exact .inl rfl
  | failed admitted executed => exact .inr ⟨_, admitted, executed_head executed⟩
  | completed admitted executed => exact .inr ⟨_, admitted, executed_head executed⟩

theorem offered (admitted : Admitted answers payload builder bundle) :
    after.node.offered ≠ builder.node.offered := by
  cases submitted with
  | rejected rejected => exact absurd rejected admitted.not_rejected
  | failed isAdmitted executed => exact isAdmitted.offers executed
  | completed isAdmitted executed => exact isAdmitted.offers executed

theorem blocks : builder.node.blocks <+: after.node.blocks := by
  cases submitted with
  | rejected => exact List.prefix_refl _
  | failed admitted executed => exact executed_blocks executed
  | completed admitted executed => exact executed_blocks executed

end Submitted

/-! ## Handling a simulation -/

/-- The node as a revert to its latest snapshot leaves it. -/
def reverted (answers : Answers) (before after : Node) : Node :=
  { after with
    blocks := before.blocks
    pool := answers.rollback.pool before.pool after.pool
    snapshots := before.snapshots }

/-- What a simulation left: the node was not touched, or the bundle was executed there,
and then reverted or not. -/
inductive Simulated (answers : Answers) (payload : Fields) (builder : Builder) : Builder → Prop
  | untouched {after : Builder} : after.mempool = builder.mempool →
      after.node.toLedger = builder.node.toLedger → Simulated answers payload builder after
  | reverted {bundle : Bundle} {result : Except PyError (List TxResult)} {node : Node} :
      Admitted answers payload builder bundle → answers.snapshot = .answered () →
      answers.revert.TookEffect → Executed answers bundle builder.node.snapshot.2 result node →
      Simulated answers payload builder
        { builder with node := BuilderProofs.reverted answers builder.node node }
  | left {bundle : Bundle} {error : PyError} {result : Except PyError (List TxResult)} {node : Node} :
      Admitted answers payload builder bundle → answers.snapshot = .answered () →
      answers.revert = .raised false error →
      Executed answers bundle builder.node.snapshot.2 result node →
      Simulated answers payload builder { builder with node }

/-- The snapshot a simulation took is still the last one when it reverts. -/
theorem revert_restores {result : Except PyError (List TxResult)} {after : Node}
    (executed : Executed answers bundle node.snapshot.2 result after) :
    after.revert node.snapshot.1 answers.rollback = (true, reverted answers node after) := by
  have kept := executed_snapshots executed
  have saved : node.snapshot.2.snapshots = node.snapshots ++ [node.toLedger] := rfl
  rw [saved] at kept
  rw [Node.revert, kept]
  simp [Node.snapshot, reverted]

private theorem revertSnapshot_simulated {result : Except PyError (List TxResult)} {after : Node}
    (admitted : Admitted answers payload builder bundle) (taken : answers.snapshot = .answered ())
    (executed : Executed answers bundle builder.node.snapshot.2 result after) :
    Simulated answers payload builder
      { builder with node := (revertSnapshot answers builder.node.snapshot.1 (result, after)).2 } := by
  have restores := revert_restores executed
  unfold revertSnapshot
  cases reverts : answers.revert with
  | answered value =>
    dsimp only
    rw [restores]
    exact .reverted admitted taken (reverts ▸ trivial) executed
  | raised tookEffect error =>
    cases tookEffect with
    | true =>
      dsimp only
      rw [if_pos rfl, restores]
      exact .reverted admitted taken (reverts ▸ rfl) executed
    | false => exact .left admitted taken reverts executed

/-- Everything a simulation can leave. -/
theorem simulatePrivateBundle_outcome (answers : Answers) (payload : Fields) (builder : Builder) :
    Simulated answers payload builder (simulatePrivateBundle answers payload builder).2 := by
  unfold simulatePrivateBundle simulateBundle
  cases parsed : Bundle.fromJson payload builder.mempool with
  | error error => exact .untouched rfl rfl
  | ok bundle =>
    dsimp only
    cases latest : answers.latestBlock with
    | error error => exact .untouched rfl rfl
    | ok isKnown =>
      dsimp only
      by_cases ahead : resolveBundleBlockNumber bundle builder.node.head > builder.node.head
      · rw [if_pos ahead]
        exact .untouched rfl rfl
      · rw [if_neg ahead]
        by_cases behind : resolveBundleBlockNumber bundle builder.node.head < builder.node.head
        · rw [if_pos behind]
          exact .untouched rfl rfl
        · rw [if_neg behind]
          have admitted : Admitted answers payload builder bundle := ⟨parsed, latest, by omega⟩
          cases taken : answers.snapshot with
          | raised tookEffect error =>
            cases tookEffect with
            | true => exact .untouched rfl rfl
            | false => exact .untouched rfl rfl
          | answered value =>
            exact revertSnapshot_simulated admitted taken
              (executeBundle_outcome answers bundle builder.node.snapshot.2)

theorem Simulated.blocks {after : Builder} (simulated : Simulated answers payload builder after) :
    builder.node.blocks <+: after.node.blocks := by
  cases simulated with
  | untouched _ sameLedger => simp [sameLedger]
  | reverted => exact List.prefix_refl _
  | left admitted taken reverts executed =>
    have appended := executed_blocks executed
    exact appended

end DexKnight.BuilderProofs
