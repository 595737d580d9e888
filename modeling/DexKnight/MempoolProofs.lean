import Mathlib.Data.List.Nodup
import DexKnight.Core.BlockBuilder
import DexKnight.SourceProofs

/-! The builder's mempool and what Knight reads of it. Records keep distinct ids and
distinct sequence numbers, none above the counter; a mined record never becomes
pending again; and a snapshot that parses lists exactly the pending records that do. -/
namespace DexKnight.MempoolProofs
open Core.Types Core.Wire Core.Codec Core.BlockBuilder SourceProofs

variable {lib : Libraries} {records : List MempoolRecord} {record new : MempoolRecord}
  {mempool after : Mempool}

/-! ## The dictionary -/

/-- A record of an assigned dictionary is the assigned one or an old one under another
id. -/
theorem mem_setItem (member : record ∈ Mempool.setItem records new) :
    record = new ∨ (record ∈ records ∧ record.mempoolTxId ≠ new.mempoolTxId) := by
  unfold Mempool.setItem at member
  split at member
  · obtain ⟨old, isOld, same⟩ := List.mem_map.mp member
    by_cases replaced : old.mempoolTxId = new.mempoolTxId
    · rw [if_pos replaced] at same
      exact .inl same.symm
    · rw [if_neg replaced] at same
      cases same
      exact .inr ⟨isOld, replaced⟩
  · next absent =>
    rcases List.mem_append.mp member with isOld | isNew
    · refine .inr ⟨isOld, ?_⟩
      intro same
      exact absent (List.any_eq_true.mpr ⟨record, isOld, by simpa using same⟩)
    · exact .inl (List.mem_singleton.mp isNew)

theorem setItem_ids_nodup (distinct : (records.map MempoolRecord.mempoolTxId).Nodup) :
    ((Mempool.setItem records new).map MempoolRecord.mempoolTxId).Nodup := by
  unfold Mempool.setItem
  split
  · have same : ((records.map fun old => if old.mempoolTxId = new.mempoolTxId then new else old).map
        MempoolRecord.mempoolTxId) = records.map MempoolRecord.mempoolTxId := by
      rw [List.map_map]
      refine List.map_congr_left ?_
      intro old _
      by_cases replaced : old.mempoolTxId = new.mempoolTxId
      · simp [replaced]
      · simp [replaced]
    rw [same]
    exact distinct
  · next absent =>
    rw [List.map_append, List.map_singleton]
    refine List.nodup_append.mpr ⟨distinct, List.nodup_singleton _, ?_⟩
    intro id isOld newId isNew same
    obtain ⟨old, member, isId⟩ := List.mem_map.mp isOld
    rw [List.mem_singleton] at isNew
    refine absent (List.any_eq_true.mpr ⟨old, member, ?_⟩)
    simp [isId, same, isNew]

/-- Sequence numbers stay distinct when the assigned one is new, or belongs to the
record that is replaced. -/
theorem setItem_seqNums_nodup (distinctIds : (records.map MempoolRecord.mempoolTxId).Nodup)
    (distinct : (records.map MempoolRecord.seqNum).Nodup)
    (replaces : ∀ old ∈ records, old.seqNum = new.seqNum → old.mempoolTxId = new.mempoolTxId) :
    ((Mempool.setItem records new).map MempoolRecord.seqNum).Nodup := by
  unfold Mempool.setItem
  split
  · rw [List.map_map]
    refine List.Nodup.map_on ?_ distinctIds.of_map
    intro x xMember y yMember same
    dsimp only [Function.comp_apply] at same
    by_cases xReplaced : x.mempoolTxId = new.mempoolTxId
    · by_cases yReplaced : y.mempoolTxId = new.mempoolTxId
      · exact List.inj_on_of_nodup_map distinctIds xMember yMember (xReplaced.trans yReplaced.symm)
      · rw [if_pos xReplaced, if_neg yReplaced] at same
        exact absurd (replaces y yMember same.symm) yReplaced
    · by_cases yReplaced : y.mempoolTxId = new.mempoolTxId
      · rw [if_neg xReplaced, if_pos yReplaced] at same
        exact absurd (replaces x xMember same) xReplaced
      · rw [if_neg xReplaced, if_neg yReplaced] at same
        exact List.inj_on_of_nodup_map distinct xMember yMember same
  · next absent =>
    rw [List.map_append, List.map_singleton]
    refine List.nodup_append.mpr ⟨distinct, List.nodup_singleton _, ?_⟩
    intro seqNum isOld newSeq isNew same
    obtain ⟨old, member, isSeq⟩ := List.mem_map.mp isOld
    rw [List.mem_singleton] at isNew
    refine absent (List.any_eq_true.mpr ⟨old, member, ?_⟩)
    simpa using replaces old member (by rw [isSeq, same, isNew])

/-! ## Numbering -/

structure WellNumbered (mempool : Mempool) : Prop where
  ids : (mempool.transactions.map MempoolRecord.mempoolTxId).Nodup
  seqNums : (mempool.transactions.map MempoolRecord.seqNum).Nodup
  bounded : ∀ record ∈ mempool.transactions, record.seqNum ≤ mempool.lastSeqNum

theorem empty_wellNumbered : WellNumbered {} where
  ids := List.nodup_nil
  seqNums := List.nodup_nil
  bounded _ member := absurd member List.not_mem_nil

theorem addTransaction_wellNumbered (numbered : WellNumbered mempool) (transaction : Transaction)
    (uuid now : String) : WellNumbered (mempool.addTransaction transaction uuid now).2 where
  ids := setItem_ids_nodup numbered.ids
  seqNums := by
    refine setItem_seqNums_nodup numbered.ids numbered.seqNums ?_
    intro old member same
    have bound := numbered.bounded old member
    dsimp only at same
    omega
  bounded := by
    intro record member
    rcases mem_setItem member with rfl | ⟨isOld, _⟩
    · exact Nat.le_refl _
    · exact Nat.le_succ_of_le (numbered.bounded record isOld)

/-- What marking a record mined does: the record exists, and it alone changes. -/
theorem markMined_cases {mempoolTxId chainTxHash now : String} {status : TxStatus}
    {receipt : Option Fields}
    (marked : mempool.markMined mempoolTxId chainTxHash status receipt now = .ok after) :
    ∃ old ∈ mempool.transactions, old.mempoolTxId = mempoolTxId ∧
      after = { mempool with transactions := Mempool.setItem mempool.transactions { old with
        status := .mined status, chainTxHash := some chainTxHash, receipt, updatedAt := some now } } := by
  unfold Mempool.markMined at marked
  cases found : mempool.getTransaction mempoolTxId with
  | none =>
    rw [found] at marked
    cases marked
  | some old =>
    rw [found] at marked
    cases marked
    exact ⟨old, List.mem_of_find?_eq_some found, by simpa using List.find?_some found, rfl⟩

theorem markMined_wellNumbered (numbered : WellNumbered mempool) {mempoolTxId chainTxHash now : String}
    {status : TxStatus} {receipt : Option Fields}
    (marked : mempool.markMined mempoolTxId chainTxHash status receipt now = .ok after) :
    WellNumbered after := by
  obtain ⟨old, member, _, rfl⟩ := markMined_cases marked
  refine ⟨setItem_ids_nodup numbered.ids, setItem_seqNums_nodup numbered.ids numbered.seqNums ?_, ?_⟩
  · intro other isOther same
    have isOld := List.inj_on_of_nodup_map numbered.seqNums isOther member same
    rw [isOld]
  · intro record isRecord
    rcases mem_setItem isRecord with rfl | ⟨isOther, _⟩
    · exact numbered.bounded old member
    · exact numbered.bounded record isOther

/-- Marking makes no record pending. -/
theorem markMined_pending {mempoolTxId chainTxHash now : String} {status : TxStatus}
    {receipt : Option Fields}
    (marked : mempool.markMined mempoolTxId chainTxHash status receipt now = .ok after)
    (member : record ∈ after.transactions) (pending : record.status = .pending) :
    record ∈ mempool.transactions := by
  obtain ⟨old, _, _, rfl⟩ := markMined_cases marked
  rcases mem_setItem member with rfl | ⟨isOther, _⟩
  · cases pending
  · exact isOther

/-! ## What Knight reads -/

theorem jsonUint64_nat {object : Fields} {field : String} {value : Nat} {read : UInt64}
    (present : ifContains object field = some (.int value))
    (parsed : jsonUint64 object field = some read) : read.toNat = value := by
  unfold jsonUint64 jsonInt64 at parsed
  rw [present] at parsed
  dsimp only at parsed
  split at parsed
  · next fits =>
    rw [Option.bind_eq_bind, Option.bind_some, if_neg (by omega)] at parsed
    cases parsed
    rw [Int.toNat_natCast, UInt64.toNat_ofNat', Nat.mod_eq_of_lt (by omega)]
  · cases parsed

/-- A record keeps its sequence number on the way. -/
theorem fromJson_seqNum {tx : PendingTransaction}
    (parsed : PendingTransaction.fromJson lib record.toJson = some tx) :
    tx.seqNum.toNat = record.seqNum := by
  unfold PendingTransaction.fromJson MempoolRecord.toJson at parsed
  obtain ⟨fields, isObject, parsed⟩ := Option.bind_eq_some_iff.mp parsed
  cases isObject
  obtain ⟨seqNum, readSeq, parsed⟩ := Option.bind_eq_some_iff.mp parsed
  obtain ⟨transactionJson, _, parsed⟩ := Option.bind_eq_some_iff.mp parsed
  obtain ⟨transaction, _, parsed⟩ := Option.bind_eq_some_iff.mp parsed
  cases parsed
  exact jsonUint64_nat (by simp [ifContains]) readSeq

/-- The pending records, in order. -/
def pendingRecords (mempool : Mempool) : List MempoolRecord :=
  mempool.transactions.filter fun record => record.status = .pending

theorem mem_pendingRecords :
    record ∈ pendingRecords mempool ↔ record ∈ mempool.transactions ∧ record.status = .pending := by
  simp [pendingRecords]

/-- A snapshot the handler can read carries the counter and the records that parse. -/
theorem snapshotOf_pendingSnapshot {blockNumber : UInt64} {snapshot : PendingSnapshot}
    (read : snapshotOf lib blockNumber (some (some mempool.pendingSnapshot)) = some snapshot) :
    snapshot.snapshotSeq.toNat = mempool.lastSeqNum ∧
      snapshot.transactions =
        (pendingRecords mempool).filterMap fun record =>
          PendingTransaction.fromJson lib record.toJson := by
  unfold snapshotOf Mempool.pendingSnapshot at read
  obtain ⟨body, isBody, read⟩ := Option.bind_eq_some_iff.mp read
  cases isBody
  obtain ⟨json, isJson, read⟩ := Option.bind_eq_some_iff.mp read
  cases isJson
  unfold PendingSnapshot.fromJson at read
  obtain ⟨seq, readSeq, read⟩ := Option.bind_eq_some_iff.mp read
  obtain ⟨transactions, readTransactions, read⟩ := Option.bind_eq_some_iff.mp read
  cases read
  refine ⟨jsonUint64_nat (by simp [ifContains]) readSeq, ?_⟩
  have listed : transactions = (pendingRecords mempool).map MempoolRecord.toJson := by
    simpa [jsonArray, ifContains, pendingRecords] using readTransactions.symm
  rw [listed, List.filterMap_map]
  rfl

end DexKnight.MempoolProofs
