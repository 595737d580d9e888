import DexKnight.BuilderProofs

/-! What a failed submission leaves behind. A request that is refused before its
first send leaves nothing, and one in which no call raises does not fail; a call that
raises in between leaves what the calls before it did, in the pool or on the chain,
since nothing is taken back as it is after a simulation. -/
namespace DexKnight.FailedSubmission
open Core.Wire Core.BlockBuilder BuilderProofs

variable {answers : Answers} {payload : Fields} {builder : Builder}

/-- What a record says about its mining. -/
def outcomeOf (record : MempoolRecord) :
    String × RecordStatus × Option String × Option Fields :=
  (record.mempoolTxId, record.status, record.chainTxHash, record.receipt)

/-- Pool, head and the outcome of every record are what they were. -/
structure Untouched (before after : Builder) : Prop where
  pool : after.node.pool = before.node.pool
  head : after.node.head = before.node.head
  records : after.mempool.transactions.map outcomeOf = before.mempool.transactions.map outcomeOf

/-- A submission that fails leaves no trace. -/
def FailsCleanly (answers : Answers) (now : String) (payload : Fields) (builder : Builder) : Prop :=
  Response.failed (submitPrivateBundle answers now payload builder).1 →
    Untouched builder (submitPrivateBundle answers now payload builder).2

/-- Once a bundle passes the checks before its first send, either that send raises
and has no effect, or no call raises at all. -/
def AllOrNothing (answers : Answers) (payload : Fields) (builder : Builder) : Prop :=
  ∀ bundle, Admitted answers payload builder bundle →
    (∃ error, answers.send 0 = .raised false error) ∨ Completes answers bundle.items.length

/-- Every failing execution but a first send without effect shows in the pool or at
the head. -/
theorem executed_traceless {bundle : Bundle} {node after : Node} {error : PyError}
    (loads : bundle.items ≠ []) (executed : Executed answers bundle node (.error error) after)
    (samePool : after.pool = node.pool) (sameHead : after.head = node.head) :
    ∃ error, answers.send 0 = .raised false error := by
  cases executed with
  | @sendRaised position tookEffect error bound before raised =>
    have none : transactionsOf (bundle.items.take (position + tookEffect.toNat)) = [] :=
      List.append_right_eq_self.mp samePool
    have short : (bundle.items.take (position + tookEffect.toNat)).length = 0 := by
      rw [List.map_eq_nil_iff.mp none]
      rfl
    rw [List.length_take] at short
    have first : position = 0 := by omega
    have harmless : tookEffect.toNat = 0 := by omega
    rw [first, Bool.toNat_eq_zero.mp harmless] at raised
    exact ⟨error, raised⟩
  | @mineRaised tookEffect error sends raised =>
    cases tookEffect with
    | true =>
      rw [if_pos rfl] at sameHead
      simp [Node.head, Node.mine, loaded, sent] at sameHead
    | false =>
      have none : transactionsOf bundle.items = [] := List.append_right_eq_self.mp samePool
      exact absurd (List.map_eq_nil_iff.mp none) loads
  | pollRaised sends mined unread =>
    simp [Node.head, Node.mine, loaded, sent] at sameHead

/-- A first send that raises without effect ends the execution with the pool as it
was. -/
theorem executed_first_refused {bundle : Bundle} {node after : Node} {error refusal : PyError}
    (loads : bundle.items ≠ []) (refused : answers.send 0 = .raised false refusal)
    (executed : Executed answers bundle node (.error error) after) :
    after.pool = node.pool ∧ after.head = node.head := by
  have unanswered : ∀ count, 0 < count → ¬SendsAnswered answers.send 0 count := by
    intro count positive answered
    obtain ⟨txHash, isAnswered⟩ := answered 0 positive
    rw [Nat.zero_add, refused] at isAnswered
    cases isAnswered
  cases executed with
  | @sendRaised position tookEffect error bound before raised =>
    cases position with
    | zero =>
      rw [refused] at raised
      cases raised
      refine ⟨?_, rfl⟩
      simp [sent, transactionsOf]
    | succ position => exact absurd before (unanswered _ (Nat.succ_pos _))
  | mineRaised sends => exact absurd sends (unanswered _ (List.length_pos_iff.mpr loads))
  | pollRaised sends => exact absurd sends (unanswered _ (List.length_pos_iff.mpr loads))

/-- **Failed submissions.** A submission leaves no trace when it fails, whatever the
bundle, the mempool and the node, exactly when it is refused before the first send,
or the first send raises without effect, or no later call raises. -/
theorem fails_cleanly_iff (answers : Answers) (now : String) (payload : Fields) (builder : Builder) :
    FailsCleanly answers now payload builder ↔ AllOrNothing answers payload builder := by
  have outcome := submitPrivateBundle_outcome answers now payload builder
  unfold FailsCleanly
  generalize (submitPrivateBundle answers now payload builder).1 = response at outcome ⊢
  generalize (submitPrivateBundle answers now payload builder).2 = after at outcome ⊢
  constructor
  · intro cleanly bundle admitted
    cases outcome with
    | rejected rejected => exact absurd rejected admitted.not_rejected
    | @failed executedBundle error node isAdmitted executed =>
      have same := Except.ok.inj (isAdmitted.parsed.symm.trans admitted.parsed)
      rw [same] at executed
      have untouched := cleanly (respond_failed error)
      exact .inl (executed_traceless (bundle_parsed admitted.parsed).1 executed untouched.pool
        untouched.head)
    | @completed executedBundle results node mempool isAdmitted executed marked =>
      have same := Except.ok.inj (isAdmitted.parsed.symm.trans admitted.parsed)
      rw [same] at executed
      cases executed with
      | completed completes => exact .inr completes
  · intro allOrNothing failed
    cases outcome with
    | rejected => exact ⟨rfl, rfl, rfl⟩
    | failed admitted executed =>
      rcases allOrNothing _ admitted with ⟨refusal, refused⟩ | completes
      · obtain ⟨samePool, sameHead⟩ := executed_first_refused (bundle_parsed admitted.parsed).1 refused
          executed
        exact ⟨samePool, sameHead, rfl⟩
      · exact (completes_not_failed completes executed).elim
    | completed => exact failed.elim

/-! Two transactions of which the node refuses the second. -/

def sampleItem (nonce : String) : Json :=
  .object [("nonce", .string nonce), ("from", .string "0x71"), ("gas", .string "0x5208"),
    ("input", .string "0x")]

def samplePayload : Fields := [("transactions", .array [sampleItem "0x0", sampleItem "0x7"])]

def sampleAnswers : Answers where
  latestBlock := .ok ()
  snapshot := .answered ()
  send index := if index = 0 then .answered "0xaa"
    else .raised false (.runtimeError "Anvil RPC error: nonce too high")
  mine := .answered ()
  mining := wholePool
  poll _ _ := .ok none
  revert := .answered ()
  rollback := presentPool

/-- The transaction the node accepted. -/
def sampleTransaction : Transaction where
  hash := none
  type := none
  chainId := none
  nonce := "0x0"
  fromAddress := "0x71"
  toAddress := none
  value := "0x0"
  gas := "0x5208"
  gasPrice := none
  maxFeePerGas := none
  maxPriorityFeePerGas := none
  input := "0x"

def sampleAfter : Builder :=
  (submitPrivateBundle sampleAnswers "now" samplePayload { node := {}, mempool := {} }).2

/-- The request is answered with an error, and its first transaction is in the next
block all the same. -/
theorem refused_send_leaves_transaction :
    ¬FailsCleanly sampleAnswers "now" samplePayload { node := {}, mempool := {} } ∧
      (sampleAfter.node.mine wholePool).blocks = [[sampleTransaction]] := by
  have pooled : sampleAfter.node.pool = [sampleTransaction] := by decide +kernel
  refine ⟨?_, by decide +kernel⟩
  intro cleanly
  have answered : Response.failed
      (submitPrivateBundle sampleAnswers "now" samplePayload { node := {}, mempool := {} }).1 := by
    trivial
  have untouched := (cleanly answered).pool
  change sampleAfter.node.pool = [] at untouched
  rw [pooled] at untouched
  cases untouched

end DexKnight.FailedSubmission
