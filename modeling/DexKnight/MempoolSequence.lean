import Mathlib.Data.List.Forall2
import Mathlib.Data.List.Range
import DexKnight.BuilderProofs
import DexKnight.Support.Runs

/-! Sequencing of the builder's mempool, over every run of its calls. A record gets the
next number when it is added and keeps it; a bundle can only mark the records it
references, and what is marked is never pending again. Everything Knight relies on when
it merges a snapshot with the stream follows from these three facts. -/
namespace DexKnight.MempoolSequence
open Core.Wire Core.BlockBuilder MempoolProofs BuilderProofs Support.Runs

/-! ## Runs -/

/-- The calls that the mempool sees. A bundle is resolved against the mempool before it
is executed, but nothing here depends on when: any bundle may be simulated or mined. -/
inductive Call
  | addTransaction (transaction : Transaction) (uuid now : String)
  | simulateBundle (answers : Answers) (bundle : Bundle)
  | mineBundle (answers : Answers) (now : String) (bundle : Bundle)
  | pendingSnapshot

/-- What a call leaves, whether it returns or raises. -/
def perform (builder : Builder) : Call → Builder
  | .addTransaction transaction uuid now =>
    { builder with mempool := (builder.mempool.addTransaction transaction uuid now).2 }
  | .simulateBundle answers bundle => (simulateBundle answers bundle builder).2
  | .mineBundle answers now bundle => (mineBundle answers now bundle builder).2
  | .pendingSnapshot => builder

/-- `uuid4` does not repeat. -/
def Fresh (mempool : Mempool) : Call → Prop
  | .addTransaction _ uuid _ => ∀ record ∈ mempool.transactions, record.mempoolTxId ≠ "mp-" ++ uuid
  | _ => True

/-- The builder from an empty mempool, with any node behind it. -/
def sequencing : Machine Builder Call where
  initial builder := builder.mempool = {}
  step builder call after := Fresh builder.mempool call ∧ after = perform builder call

variable {Touched : String → Prop} {before middle after mempool : Mempool}
  {builder reached later : Builder} {answers : Answers} {bundle : Bundle} {now : String}

/-! ## What one call can change -/

/-- How a record may change: it keeps its name, its number and its transaction, and what
is touched is not pending. -/
structure Kept (Touched : String → Prop) (old new : MempoolRecord) : Prop where
  mempoolTxId : new.mempoolTxId = old.mempoolTxId
  seqNum : new.seqNum = old.seqNum
  transaction : new.transaction = old.transaction
  touched : new = old ∨ (Touched old.mempoolTxId ∧ new.status ≠ .pending)

namespace Kept

variable {old new newest : MempoolRecord}

theorem refl (record : MempoolRecord) : Kept Touched record record := ⟨rfl, rfl, rfl, .inl rfl⟩

theorem trans (first : Kept Touched old new) (second : Kept Touched new newest) :
    Kept Touched old newest := by
  refine ⟨second.mempoolTxId.trans first.mempoolTxId, second.seqNum.trans first.seqNum,
    second.transaction.trans first.transaction, ?_⟩
  obtain same | ⟨touched, left⟩ := second.touched
  · rw [same]
    exact first.touched
  · rw [first.mempoolTxId] at touched
    exact .inr ⟨touched, left⟩

theorem mono {Wider : String → Prop} (wider : ∀ id, Touched id → Wider id)
    (kept : Kept Touched old new) : Kept Wider old new := by
  refine ⟨kept.mempoolTxId, kept.seqNum, kept.transaction, ?_⟩
  obtain same | ⟨touched, left⟩ := kept.touched
  · exact .inl same
  · exact .inr ⟨wider _ touched, left⟩

theorem left (kept : Kept Touched old new) (gone : old.status ≠ .pending) : new.status ≠ .pending := by
  obtain rfl | ⟨_, left⟩ := kept.touched
  · exact gone
  · exact left

end Kept

/-- Old records stay in their places, new ones follow and are counted. -/
def Follows (Touched : String → Prop) (added : List MempoolRecord) (before after : Mempool) : Prop :=
  after.lastSeqNum = before.lastSeqNum + added.length ∧
    ∃ update : MempoolRecord → MempoolRecord,
      (∀ record ∈ before.transactions, Kept Touched record (update record)) ∧
        after.transactions = before.transactions.map update ++ added

namespace Follows

variable {added more : List MempoolRecord}

theorem refl (mempool : Mempool) : Follows Touched [] mempool mempool :=
  ⟨rfl, id, fun record _ => .refl record, by simp⟩

theorem trans (first : Follows Touched added before middle) (second : Follows Touched more middle after) :
    ∃ renewed, renewed.length = added.length ∧ Follows Touched (renewed ++ more) before after := by
  obtain ⟨counted, update, kept, isMiddle⟩ := first
  obtain ⟨countedMore, updateMore, keptMore, isAfter⟩ := second
  refine ⟨added.map updateMore, List.length_map _, ?_, updateMore ∘ update, ?_, ?_⟩
  · rw [countedMore, counted, List.length_append, List.length_map, Nat.add_assoc]
  · intro record member
    refine (kept record member).trans (keptMore _ ?_)
    rw [isMiddle]
    exact List.mem_append_left _ (List.mem_map_of_mem member)
  · rw [isAfter, isMiddle, List.map_append, List.map_map, List.append_assoc]

/-- Marking first adds nothing. -/
theorem trans_marked (first : Follows Touched [] before middle)
    (second : Follows Touched more middle after) : Follows Touched more before after := by
  obtain ⟨renewed, none, follows⟩ := first.trans second
  rw [List.length_nil, List.length_eq_zero_iff] at none
  rw [none] at follows
  exact follows

theorem mono {Wider : String → Prop} (wider : ∀ id, Touched id → Wider id)
    (follows : Follows Touched added before after) : Follows Wider added before after := by
  obtain ⟨counted, update, kept, isAfter⟩ := follows
  exact ⟨counted, update, fun record member => (kept record member).mono wider, isAfter⟩

/-- A column of the records that no call rewrites. -/
theorem column {α : Type} (follows : Follows Touched added before after) (read : MempoolRecord → α)
    (stable : ∀ {old new}, Kept Touched old new → read new = read old) :
    after.transactions.map read = before.transactions.map read ++ added.map read := by
  obtain ⟨_, update, kept, isAfter⟩ := follows
  rw [isAfter, List.map_append, List.map_map]
  congr 1
  apply List.map_congr_left
  intro record member
  exact stable (kept record member)

theorem ids (follows : Follows Touched added before after) :
    after.transactions.map MempoolRecord.mempoolTxId =
      before.transactions.map MempoolRecord.mempoolTxId ++ added.map MempoolRecord.mempoolTxId :=
  follows.column _ Kept.mempoolTxId

theorem seqNums (follows : Follows Touched added before after) :
    after.transactions.map MempoolRecord.seqNum =
      before.transactions.map MempoolRecord.seqNum ++ added.map MempoolRecord.seqNum :=
  follows.column _ Kept.seqNum

end Follows

/-- Names are distinct and numbers count the records in the order they came. -/
structure Sequenced (mempool : Mempool) : Prop where
  ids : (mempool.transactions.map MempoolRecord.mempoolTxId).Nodup
  seqNums : mempool.transactions.map MempoolRecord.seqNum = List.range' 1 mempool.lastSeqNum

theorem Sequenced.marked (sequenced : Sequenced before) (follows : Follows Touched [] before after) :
    Sequenced after := by
  have ids := follows.ids
  have seqNums := follows.seqNums
  have counted := follows.1
  rw [List.map_nil, List.append_nil] at ids seqNums
  refine ⟨ids ▸ sequenced.ids, ?_⟩
  rw [seqNums, sequenced.seqNums, counted]
  rfl

/-- A fresh name is appended, whatever the other records are. -/
theorem addTransaction_follows (transaction : Transaction) {uuid : String} (now : String)
    (fresh : ∀ record ∈ mempool.transactions, record.mempoolTxId ≠ "mp-" ++ uuid) :
    Follows Touched [(mempool.addTransaction transaction uuid now).1] mempool
      (mempool.addTransaction transaction uuid now).2 := by
  refine ⟨rfl, id, fun record _ => .refl record, ?_⟩
  have absent : ¬ (mempool.transactions.any fun old => old.mempoolTxId = "mp-" ++ uuid) = true := by
    simpa using fresh
  rw [List.map_id]
  exact if_neg absent

theorem Sequenced.added {transaction : Transaction} {uuid : String} (sequenced : Sequenced mempool)
    (fresh : ∀ record ∈ mempool.transactions, record.mempoolTxId ≠ "mp-" ++ uuid) :
    Sequenced (mempool.addTransaction transaction uuid now).2 := by
  have follows : Follows (fun _ => True) _ mempool _ := addTransaction_follows transaction now fresh
  constructor
  · rw [follows.ids]
    refine List.nodup_append.mpr ⟨sequenced.ids, List.nodup_singleton _, ?_⟩
    intro id isOld new isNew same
    obtain ⟨record, member, rfl⟩ := List.mem_map.mp isOld
    rw [List.map_singleton, List.mem_singleton] at isNew
    exact fresh record member (same.trans isNew)
  · rw [follows.seqNums, sequenced.seqNums]
    have next : (mempool.addTransaction transaction uuid now).2.lastSeqNum = mempool.lastSeqNum + 1 := rfl
    rw [next, List.range'_1_concat, Nat.add_comm 1]
    rfl

/-! ## Bundles -/

/-- The bundle references a record by its name. -/
def References (bundle : Bundle) (mempoolTxId : String) : Prop :=
  ∃ item ∈ bundle.items, item.mempoolTxId = some mempoolTxId

theorem markMined_follows {mempoolTxId chainTxHash : String} {status : TxStatus} {receipt : Option Fields}
    (sequenced : Sequenced before) (touched : Touched mempoolTxId)
    (marked : before.markMined mempoolTxId chainTxHash status receipt now = .ok after) :
    Follows Touched [] before after := by
  obtain ⟨old, member, isId, rfl⟩ := markMined_cases marked
  have present : (before.transactions.any fun record => record.mempoolTxId = old.mempoolTxId) = true :=
    List.any_eq_true.mpr ⟨old, member, by simp⟩
  refine ⟨rfl, _, ?_, (if_pos present).trans (List.append_nil _).symm⟩
  intro record isRecord
  dsimp only
  split
  · next same =>
    -- Names are distinct, so the record under the name is the one that was found.
    obtain rfl := List.inj_on_of_nodup_map sequenced.ids isRecord member same
    refine ⟨rfl, rfl, rfl, .inr ⟨isId ▸ touched, ?_⟩⟩
    intro pending
    cases pending
  · exact .refl record

/-- Whatever the results are, and also where the loop stops early. -/
theorem markAllMined_follows {pairs : List (BundleItem × TxResult)} (sequenced : Sequenced mempool)
    (touched : ∀ pair ∈ pairs, ∀ mempoolTxId, pair.1.mempoolTxId = some mempoolTxId →
      Touched mempoolTxId) :
    Follows Touched [] mempool (markAllMined now pairs mempool).2 := by
  induction pairs generalizing mempool with
  | nil => exact .refl mempool
  | cons pair rest ih =>
    obtain ⟨item, txResult⟩ := pair
    obtain ⟨first, others⟩ := List.forall_mem_cons.mp touched
    rw [markAllMined]
    cases isId : item.mempoolTxId with
    | none => exact ih sequenced others
    | some mempoolTxId =>
      dsimp only
      cases marked : mempool.markMined mempoolTxId txResult.chainTxHash txResult.status
        txResult.receipt now with
      | error error => exact .refl mempool
      | ok next =>
        have follows := markMined_follows sequenced (first mempoolTxId isId) marked
        exact follows.trans_marked (ih (sequenced.marked follows) others)

theorem mineBundle_follows (answers : Answers) (now : String) (bundle : Bundle)
    (sequenced : Sequenced builder.mempool) :
    Follows (References bundle) [] builder.mempool (mineBundle answers now bundle builder).2.mempool := by
  unfold mineBundle
  cases answers.latestBlock with
  | error error => exact .refl _
  | ok known =>
    dsimp only
    split
    · exact .refl _
    · cases executeBundle answers bundle builder.node with
      | mk outcome node =>
        cases outcome with
        | error error => exact .refl _
        | ok results =>
          have follows : Follows (References bundle) [] builder.mempool
              (markAllMined now (bundle.items.zip results) builder.mempool).2 := by
            apply markAllMined_follows sequenced
            intro pair member mempoolTxId isId
            exact ⟨pair.1, (List.of_mem_zip member).1, isId⟩
          dsimp only
          cases marked : markAllMined now (bundle.items.zip results) builder.mempool with
          | mk outcome mempool =>
            rw [marked] at follows
            cases outcome with
            | error error => exact follows
            | ok done => exact follows

theorem simulateBundle_mempool (answers : Answers) (bundle : Bundle) (builder : Builder) :
    (simulateBundle answers bundle builder).2.mempool = builder.mempool := by
  unfold simulateBundle
  cases answers.latestBlock with
  | error error => rfl
  | ok known =>
    dsimp only
    split
    · rfl
    · split
      · rfl
      · cases answers.snapshot with
        | raised tookEffect error => rfl
        | answered value => rfl

/-! ## Runs of calls -/

/-- Everything one call can do to the mempool. -/
theorem step_follows {call : Call} (sequenced : Sequenced builder.mempool)
    (step : sequencing.step builder call later) :
    Sequenced later.mempool ∧ ∃ added, Follows (fun _ => True) added builder.mempool later.mempool := by
  obtain ⟨fresh, rfl⟩ := step
  cases call with
  | addTransaction transaction uuid now =>
    exact ⟨sequenced.added fresh, _, addTransaction_follows transaction now fresh⟩
  | simulateBundle answers bundle =>
    rw [perform, simulateBundle_mempool]
    exact ⟨sequenced, [], .refl _⟩
  | mineBundle answers now bundle =>
    have follows := mineBundle_follows answers now bundle sequenced
    exact ⟨sequenced.marked follows, [], follows.mono fun _ _ => trivial⟩
  | pendingSnapshot => exact ⟨sequenced, [], .refl _⟩

theorem run_call {calls : List Call} (run : sequencing.Run calls builder) (call : Call)
    (fresh : Fresh builder.mempool call) : sequencing.Run (calls ++ [call]) (perform builder call) :=
  .step run ⟨fresh, rfl⟩

theorem run_sequenced {calls : List Call} (run : sequencing.Run calls reached) :
    Sequenced reached.mempool := by
  refine Run.invariant (fun builder => Sequenced builder.mempool) run ?_ ?_
  · intro builder empty
    rw [show builder.mempool = {} from empty]
    exact ⟨List.nodup_nil, rfl⟩
  · intro builder call after sequenced step
    exact (step_follows sequenced step).1

theorem leads_follows {calls : List Call} (sequenced : Sequenced reached.mempool)
    (leads : sequencing.Leads reached calls later) :
    Sequenced later.mempool ∧ ∃ added, Follows (fun _ => True) added reached.mempool later.mempool := by
  induction leads with
  | done => exact ⟨sequenced, [], .refl _⟩
  | step taken _ ih =>
    obtain ⟨stillSequenced, added, first⟩ := step_follows sequenced taken
    obtain ⟨atEnd, more, rest⟩ := ih stillSequenced
    obtain ⟨renewed, _, follows⟩ := first.trans rest
    exact ⟨atEnd, _, follows⟩

/-- A snapshot of the mempool: the counter, and the records that are pending, in the order
of their numbers. -/
structure Snapshot (mempool : Mempool) (snapshotSeq : Nat) (records : List MempoolRecord) : Prop where
  reported : mempool.pendingSnapshot = .object [
    ("snapshotSeq", .int snapshotSeq), ("transactions", .array (records.map MempoolRecord.toJson))]
  current : snapshotSeq = mempool.lastSeqNum
  listed : ∀ record, record ∈ records ↔ record ∈ mempool.transactions ∧ record.status = .pending
  increasing : records.Pairwise fun earlier later => earlier.seqNum < later.seqNum
  bounded : ∀ record ∈ records, record.seqNum ≤ snapshotSeq

theorem Sequenced.increasing (sequenced : Sequenced mempool) :
    mempool.transactions.Pairwise fun earlier later => earlier.seqNum < later.seqNum := by
  rw [← List.pairwise_map, sequenced.seqNums]
  exact List.pairwise_lt_range'

theorem Sequenced.bounded (sequenced : Sequenced mempool) {record : MempoolRecord}
    (member : record ∈ mempool.transactions) : record.seqNum ≤ mempool.lastSeqNum := by
  have numbered : record.seqNum ∈ List.range' 1 mempool.lastSeqNum := by
    rw [← sequenced.seqNums]
    exact List.mem_map_of_mem member
  have bound := (List.mem_range'_1.mp numbered).2
  omega

theorem Sequenced.wellNumbered (sequenced : Sequenced mempool) : WellNumbered mempool where
  ids := sequenced.ids
  seqNums := by
    rw [sequenced.seqNums]
    exact List.nodup_range'
  bounded _ member := sequenced.bounded member

theorem Sequenced.snapshot (sequenced : Sequenced mempool) :
    Snapshot mempool mempool.lastSeqNum (pendingRecords mempool) where
  reported := rfl
  current := rfl
  listed _ := mem_pendingRecords
  increasing := sequenced.increasing.filter _
  bounded _ member := sequenced.bounded (mem_pendingRecords.mp member).1

theorem Follows.renewed {added : List MempoolRecord} {record : MempoolRecord}
    (follows : Follows Touched added before after) (member : record ∈ before.transactions) :
    ∃ new ∈ after.transactions, Kept Touched record new := by
  obtain ⟨_, update, kept, isAfter⟩ := follows
  refine ⟨update record, ?_, kept record member⟩
  rw [isAfter]
  exact List.mem_append_left _ (List.mem_map_of_mem member)

/-- Whatever goes by the name or the number of an earlier record is that record, as it is
by then. -/
theorem Follows.kept {added : List MempoolRecord} {record other : MempoolRecord}
    (follows : Follows Touched added before after) (sequenced : Sequenced after)
    (member : record ∈ before.transactions) (isOther : other ∈ after.transactions)
    (same : other.mempoolTxId = record.mempoolTxId ∨ other.seqNum = record.seqNum) :
    Kept Touched record other := by
  obtain ⟨new, there, stays⟩ := follows.renewed member
  have isSame : other = new := by
    obtain sameId | sameSeq := same
    · exact List.inj_on_of_nodup_map sequenced.ids isOther there (sameId.trans stays.mempoolTxId.symm)
    · exact List.inj_on_of_nodup_map sequenced.wellNumbered.seqNums isOther there
        (sameSeq.trans stays.seqNum.symm)
  rw [isSame]
  exact stays

/-- What is not pending any more is not pending later, under its name or its number. -/
theorem Follows.gone {added : List MempoolRecord} {record other : MempoolRecord}
    (follows : Follows Touched added before after) (sequenced : Sequenced after)
    (member : record ∈ before.transactions) (left : record.status ≠ .pending)
    (isOther : other ∈ after.transactions)
    (same : other.mempoolTxId = record.mempoolTxId ∨ other.seqNum = record.seqNum) :
    other.status ≠ .pending :=
  (follows.kept sequenced member isOther same).left left

/-- What is still pending under a name is the record that was there under it. -/
theorem Follows.still {added : List MempoolRecord} {record other : MempoolRecord}
    (follows : Follows Touched added before after) (sequenced : Sequenced after)
    (member : record ∈ before.transactions) (isOther : other ∈ after.transactions)
    (same : other.mempoolTxId = record.mempoolTxId) (pending : other.status = .pending) :
    other = record := by
  obtain unchanged | ⟨_, left⟩ := (follows.kept sequenced member isOther (.inl same)).touched
  · exact unchanged
  · exact absurd pending left

/-- **The mempool numbers its records once and lists what is pending.** -/
theorem mempool_sequencing {calls more : List Call} (run : sequencing.Run calls reached)
    (leads : sequencing.Leads reached more later) :
    -- Numbers count the records in the order they came, and a record keeps its own.
    reached.mempool.transactions.map MempoolRecord.seqNum = List.range' 1 reached.mempool.lastSeqNum ∧
    (reached.mempool.transactions.map fun record => (record.mempoolTxId, record.seqNum)) <+:
      (later.mempool.transactions.map fun record => (record.mempoolTxId, record.seqNum)) ∧
    -- A snapshot reports the counter, which never decreases, and exactly what is pending.
    (∃ records, Snapshot reached.mempool reached.mempool.lastSeqNum records) ∧
    reached.mempool.lastSeqNum ≤ later.mempool.lastSeqNum ∧
    -- What left is in no later snapshot and is resolved by no later bundle.
    (∀ record ∈ reached.mempool.transactions, record.status ≠ .pending →
      (∀ snapshotSeq records, Snapshot later.mempool snapshotSeq records → ∀ listed ∈ records,
        listed.mempoolTxId ≠ record.mempoolTxId ∧ listed.seqNum ≠ record.seqNum) ∧
      ∀ payload bundle, Bundle.fromJson payload later.mempool = .ok bundle →
        ¬ References bundle record.mempoolTxId) ∧
    -- A bundle changes no record that it does not reference.
    (∀ answers now bundle,
      List.Forall₂ (fun old new => References bundle old.mempoolTxId ∨ new = old)
        reached.mempool.transactions (mineBundle answers now bundle reached).2.mempool.transactions) ∧
    ∀ answers bundle, (simulateBundle answers bundle reached).2.mempool = reached.mempool := by
  have sequenced := run_sequenced run
  obtain ⟨laterSequenced, added, follows⟩ := leads_follows sequenced leads
  refine ⟨sequenced.seqNums, ?_, ⟨_, sequenced.snapshot⟩, ?_, ?_, ?_, ?_⟩
  · rw [follows.column _ fun kept => by rw [kept.mempoolTxId, kept.seqNum]]
    exact List.prefix_append _ _
  · rw [follows.1]
    exact Nat.le_add_right _ _
  · intro record member left
    constructor
    · intro snapshotSeq records snapshot listed isListed
      obtain ⟨isThere, pending⟩ := (snapshot.listed listed).mp isListed
      constructor
      · intro same
        exact follows.gone laterSequenced member left isThere (.inl same) pending
      · intro same
        exact follows.gone laterSequenced member left isThere (.inr same) pending
    · rintro payload bundle parsed ⟨item, isItem, refers⟩
      obtain ⟨other, isOther, sameId, pending, _⟩ := bundle_references parsed isItem refers
      exact follows.gone laterSequenced member left isOther (.inl sameId) pending
  · intro answers now bundle
    obtain ⟨_, update, kept, isAfter⟩ := mineBundle_follows answers now bundle sequenced
    rw [isAfter, List.append_nil, List.forall₂_map_right_iff, List.forall₂_same]
    intro record member
    obtain same | ⟨referenced, _⟩ := (kept record member).touched
    · exact .inr same
    · exact .inl referenced
  · intro answers bundle
    exact simulateBundle_mempool answers bundle reached

/-- One transaction is mined without a receipt before the next one arrives. -/
theorem mempool_sequencing_missing_receipt :
    let transaction : Transaction := {
      hash := none, type := none, chainId := none, nonce := "0x0", fromAddress := "0x71",
      toAddress := none, value := "0x0", gas := "0x5208", gasPrice := none, maxFeePerGas := none,
      maxPriorityFeePerGas := none, input := "0x" }
    let silent : Answers := {
      latestBlock := .ok (), snapshot := .answered (), send := fun _ => .answered "0xaa",
      mine := .answered (), mining := wholePool, poll := fun _ _ => .ok none,
      revert := .answered (), rollback := presentPool }
    let added := perform ⟨{}, {}⟩ (.addTransaction transaction "a" "now")
    let mined := perform added (.mineBundle silent "now" ⟨[⟨some "mp-a", transaction⟩], none⟩)
    let later := perform mined (.addTransaction transaction "b" "now")
    mined.mempool.transactions.map MempoolRecord.status = [.mined .missing] ∧
      later.mempool.transactions.map MempoolRecord.seqNum = [1, 2] ∧
      ∀ payload bundle, Bundle.fromJson payload later.mempool = .ok bundle →
        ¬ References bundle "mp-a" := by
  intro transaction silent added mined later
  have start : sequencing.Run [] ⟨{}, {}⟩ := .start rfl
  have one : sequencing.Run _ added := run_call start _ (by simp [Fresh])
  have run : sequencing.Run _ mined := run_call one _ trivial
  have fresh : Fresh mined.mempool (.addTransaction transaction "b" "now") := by
    rw [Fresh]
    decide +kernel
  have leads : sequencing.Leads mined [.addTransaction transaction "b" "now"] later :=
    .step ⟨fresh, rfl⟩ .done
  obtain ⟨_, _, _, _, gone, _⟩ := mempool_sequencing run leads
  obtain ⟨record, member, isId, left⟩ : ∃ record ∈ mined.mempool.transactions,
      record.mempoolTxId = "mp-a" ∧ record.status ≠ .pending := by decide +kernel
  refine ⟨by decide +kernel, by decide +kernel, ?_⟩
  rw [← isId]
  exact (gone record member left).2

end DexKnight.MempoolSequence
