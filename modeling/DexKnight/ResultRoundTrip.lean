import DexKnight.Support.Traversal
import DexKnight.WireProofs

/-! Bundle results through their own codec. Every field is written in one of a few ways
and read in one of a few ways; the two match for all of them but the block timestamp of
a receipt, which is written as a hexadecimal text and read as a number. So a result
comes back as it was exactly when none of its receipts carries a timestamp. -/
namespace DexKnight.ResultRoundTrip
open Core.Types Core.Wire Core.Codec Support.Hex Support.Traversal WireProofs

variable {lib : Libraries}

/-- A text without NUL is its own C string. -/
theorem cString_clean {text : String} (clean : '\x00' ∉ text.toList) : cString text = text := by
  have whole : text.toList.takeWhile (· ≠ '\x00') = text.toList := by
    refine List.takeWhile_eq_self_iff.mpr fun c member => ?_
    have differs : c ≠ '\x00' := by
      rintro rfl
      exact clean member
    simpa using differs
  rw [cString, whole, String.ofList_toList]

/-! ## Required lengths -/

structure LogSized (log : Log) : Prop where
  address : log.address.length = kAddressLength
  topics : ∀ topic ∈ log.topics, topic.length = kWordSize

structure ReceiptSized (receipt : Receipt) : Prop where
  logs : ∀ log ∈ receipt.logs, LogSized log
  logsBloom : receipt.logsBloom.length = 256
  transactionHash : receipt.transactionHash.length = 32
  blockHash : receipt.blockHash.length = 32
  source : receipt.source.length = kAddressLength
  recipient : ∀ bytes, receipt.recipient = some bytes → bytes.length = kAddressLength
  contractAddress : ∀ bytes, receipt.contractAddress = some bytes → bytes.length = kAddressLength

structure TxResultSized (result : BundleTxResult) : Prop where
  mempoolTxId : ∀ text, result.mempoolTxId = some text → '\x00' ∉ text.toList
  chainTxHash : result.chainTxHash.length = 32
  receipt : ∀ receipt, result.receipt = some receipt → ReceiptSized receipt

/-! ## Logs and receipts -/

/-- The fields written for a receipt. -/
def receiptFields (lib : Libraries) (receipt : Receipt) : Fields :=
  match Receipt.toJson lib receipt with
  | .object fields => fields
  | _ => []

theorem toJson_receiptFields (receipt : Receipt) :
    Receipt.toJson lib receipt = .object (receiptFields lib receipt) := rfl

/-- A timestamp is written as a text; only its absence reads back. -/
private theorem timestamp_read {object : Fields} {timestamp : Option UInt64}
    (present : ifContains object "blockTimestamp" = some (nullable timestamp hexQuantity)) :
    jsonOptionalUint64 object "blockTimestamp" = if timestamp = none then some none else none := by
  unfold jsonOptionalUint64 jsonOptional jsonUint64 jsonInt64
  rw [present]
  cases timestamp with
  | none => rfl
  | some value => rfl

section Inverts

variable (inverts : Inverts lib)
include inverts

theorem topic_round_trip {topic : Bytes} (sized : topic.length = kWordSize) :
    topicFromJson lib (.string (hexData topic)) = some topic := by
  simp only [topicFromJson, parseHexBytes_hexData inverts, Option.bind_eq_bind, Option.bind_some,
    if_pos sized]

theorem log_round_trip {log : Log} (sized : LogSized log) :
    Log.fromJson lib (Log.toJson log) = some log := by
  have isTopics : (log.topics.map fun topic => Json.string (hexData topic)).mapM (topicFromJson lib) =
      some log.topics :=
    mapM_map_eq_some.mpr fun topic member => topic_round_trip inverts (sized.topics topic member)
  unfold Log.toJson
  generalize isObject : [("address", Json.string (hexData log.address)),
    ("topics", .array (log.topics.map fun topic => .string (hexData topic))),
    ("data", .string (hexData log.data))] = object
  have isAddress := jsonHexBytesOf_hexData inverts sized.address
    (show ifContains object "address" = some _ by rw [← isObject]; rfl)
  have isData := jsonHexBytes_hexData inverts
    (show ifContains object "data" = some (.string (hexData log.data)) by rw [← isObject]; rfl)
  have isArray : jsonArray object "topics" =
      some (log.topics.map fun topic => .string (hexData topic)) := by
    rw [← isObject]
    rfl
  simp only [Log.fromJson, asObject, isAddress, isData, isArray, isTopics, Option.bind_eq_bind,
    Option.bind_some]

/-- A receipt is read back exactly when it carries no timestamp; with one, nothing is
read at all. -/
theorem receipt_round_trip {receipt : Receipt} (sized : ReceiptSized receipt) :
    Receipt.fromJson lib (Receipt.toJson lib receipt) =
      if receipt.blockTimestamp = none then some receipt else none := by
  have type := jsonHexUint64_hexQuantity (show ifContains (receiptFields lib receipt) "type" =
    some (.string (hexQuantity receipt.type.toUInt64)) from rfl)
  have status := jsonHexUint64_hexQuantity (show ifContains (receiptFields lib receipt) "status" =
    some (.string (hexQuantity receipt.status)) from rfl)
  have cumulativeGasUsed := jsonHexUint64_hexQuantity (show
    ifContains (receiptFields lib receipt) "cumulativeGasUsed" =
      some (.string (hexQuantity receipt.cumulativeGasUsed)) from rfl)
  have rawLogs : jsonArray (receiptFields lib receipt) "logs" =
    some (receipt.logs.map Log.toJson) := rfl
  have logsBloom := jsonHexBytesOf_hexData inverts sized.logsBloom (show
    ifContains (receiptFields lib receipt) "logsBloom" = some _ from rfl)
  have transactionHash := jsonHexBytesOf_hexData inverts sized.transactionHash (show
    ifContains (receiptFields lib receipt) "transactionHash" = some _ from rfl)
  have transactionIndex := jsonHexUint64_hexQuantity (show
    ifContains (receiptFields lib receipt) "transactionIndex" =
      some (.string (hexQuantity receipt.transactionIndex)) from rfl)
  have blockHash := jsonHexBytesOf_hexData inverts sized.blockHash (show
    ifContains (receiptFields lib receipt) "blockHash" = some _ from rfl)
  have blockNumber := jsonHexUint64_hexQuantity (show
    ifContains (receiptFields lib receipt) "blockNumber" =
      some (.string (hexQuantity receipt.blockNumber)) from rfl)
  have gasUsed := jsonHexUint64_hexQuantity (show ifContains (receiptFields lib receipt) "gasUsed" =
    some (.string (hexQuantity receipt.gasUsed)) from rfl)
  have effectiveGasPrice := jsonHexUint256_hexQuantity256 inverts (show
    ifContains (receiptFields lib receipt) "effectiveGasPrice" =
      some (.string (hexQuantity256 lib receipt.effectiveGasPrice)) from rfl)
  have source := jsonHexBytesOf_hexData inverts sized.source (show
    ifContains (receiptFields lib receipt) "from" = some _ from rfl)
  have logs : (receipt.logs.map Log.toJson).mapM (Log.fromJson lib) = some receipt.logs :=
    mapM_map_eq_some.mpr fun log member => log_round_trip inverts (sized.logs log member)
  have recipient := jsonOptionalHexBytes_nullable inverts sized.recipient (show
    ifContains (receiptFields lib receipt) "to" = some _ from rfl)
  have contractAddress := jsonOptionalHexBytes_nullable inverts sized.contractAddress (show
    ifContains (receiptFields lib receipt) "contractAddress" = some _ from rfl)
  have blockTimestamp := timestamp_read (show
    ifContains (receiptFields lib receipt) "blockTimestamp" =
      some (nullable receipt.blockTimestamp hexQuantity) from rfl)
  obtain ⟨fits, isType⟩ := type_round_trip receipt.type
  rw [toJson_receiptFields]
  unfold Receipt.fromJson
  rw [read_then (show asObject (.object (receiptFields lib receipt)) = some _ from rfl),
    read_then type, read_then status, read_then cumulativeGasUsed, read_then rawLogs,
    read_then logsBloom, read_then transactionHash, read_then transactionIndex,
    read_then blockHash, read_then blockNumber, read_then gasUsed, read_then effectiveGasPrice,
    read_then source, if_neg fits, read_then logs, read_then recipient,
    read_then contractAddress, blockTimestamp, isType]
  cases timestamp : receipt.blockTimestamp with
  | none =>
    rw [if_pos rfl, if_pos rfl, read_then rfl, ← timestamp]
  | some value => rfl

/-! ## Transaction results -/

/-- No receipt of the result carries a timestamp. -/
def Untimed (result : BundleTxResult) : Prop :=
  ∀ receipt, result.receipt = some receipt → receipt.blockTimestamp = none

/-- The receipt field of a result, read back when its receipt is. -/
theorem receiptField_round_trip {object : Fields} {result : BundleTxResult}
    (sized : TxResultSized result)
    (present : ifContains object "receipt" = some (match result.receipt with
      | none => .null
      | some receipt => Receipt.toJson lib receipt)) :
    receiptField lib object = some result.receipt ↔ Untimed result := by
  unfold receiptField Untimed
  rw [read_then present]
  cases isReceipt : result.receipt with
  | none => simp
  | some receipt =>
    have reads := receipt_round_trip inverts (sized.receipt receipt isReceipt)
    simp only [toJson_receiptFields] at reads ⊢
    rw [reads]
    cases timestamp : receipt.blockTimestamp with
    | none => simp [timestamp]
    | some value => simp [timestamp]

end Inverts

/-- The fields written for the result of a transaction. -/
def txResultFields (lib : Libraries) (result : BundleTxResult) : Fields :=
  match BundleTxResult.toJson lib result with
  | .object fields => fields
  | _ => []

theorem toJson_txResultFields (result : BundleTxResult) :
    BundleTxResult.toJson lib result = .object (txResultFields lib result) := rfl

/-- The block number, the index and the receipt are behind fields that may be absent. -/
theorem txResultFields_tail (lib : Libraries) (result : BundleTxResult) :
    ifContains (txResultFields lib result) "blockNumber" =
        result.blockNumber.map (fun value => .string (hexQuantity value)) ∧
      ifContains (txResultFields lib result) "transactionIndex" =
        result.transactionIndex.map (fun value => .string (hexQuantity value)) ∧
      ifContains (txResultFields lib result) "receipt" = some (match result.receipt with
        | none => .null
        | some receipt => Receipt.toJson lib receipt) := by
  obtain ⟨mempoolTxId, chainTxHash, status, blockNumber, transactionIndex, receipt⟩ := result
  cases blockNumber with
  | none =>
    cases transactionIndex with
    | none => exact ⟨rfl, rfl, rfl⟩
    | some index => exact ⟨rfl, rfl, rfl⟩
  | some block =>
    cases transactionIndex with
    | none => exact ⟨rfl, rfl, rfl⟩
    | some index => exact ⟨rfl, rfl, rfl⟩

private theorem optionalString_nullable {object : Fields} {field : String} {value : Option String}
    (clean : ∀ text, value = some text → '\x00' ∉ text.toList)
    (present : ifContains object field = some (nullable value id)) :
    jsonOptionalString object field = some value := by
  unfold jsonOptionalString jsonOptional jsonString
  rw [present]
  cases value with
  | none => rfl
  | some text =>
    change some (some (cString text)) = _
    rw [cString_clean (clean text rfl)]

/-- A quantity that is written only when there is one. -/
private theorem optionalQuantity_fieldIf {object : Fields} {field : String}
    {value : Option UInt64} (present : ifContains object field =
      value.map (fun value => .string (hexQuantity value))) :
    jsonOptionalHexUint64 object field = some value := by
  unfold jsonOptionalHexUint64 jsonOptional
  cases value with
  | none => rw [present]; rfl
  | some value =>
    rw [jsonHexUint64_hexQuantity present, present]
    rfl

private theorem txStatus_round_trip (status : BundleTxStatus) :
    bundleTxStatusFromString (cString (bundleTxStatusToString status)) = some status := by
  cases status <;> decide +kernel

private theorem status_round_trip (status : BundleStatus) :
    bundleStatusFromString (cString (bundleStatusToString status)) = some status := by
  cases status <;> decide +kernel

section Results

variable (inverts : Inverts lib)
include inverts

/-- The result of a transaction comes back exactly when its receipt does. -/
theorem txResult_round_trip {result : BundleTxResult} (sized : TxResultSized result) :
    BundleTxResult.fromJson lib (BundleTxResult.toJson lib result) = some result ↔
      Untimed result := by
  obtain ⟨hasBlock, hasIndex, hasReceipt⟩ := txResultFields_tail lib result
  have mempoolTxId := optionalString_nullable sized.mempoolTxId (show
    ifContains (txResultFields lib result) "mempoolTxId" = some (nullable result.mempoolTxId id)
      from rfl)
  have chainTxHash := jsonHexBytesOf_hexData inverts sized.chainTxHash (show
    ifContains (txResultFields lib result) "chainTxHash" = some _ from rfl)
  have rawStatus : jsonString (txResultFields lib result) "status" =
    some (cString (bundleTxStatusToString result.status)) := rfl
  rw [← receiptField_round_trip inverts sized hasReceipt, toJson_txResultFields]
  unfold BundleTxResult.fromJson
  rw [read_then (show asObject (.object (txResultFields lib result)) = some _ from rfl),
    read_then mempoolTxId, read_then chainTxHash, read_then rawStatus,
    read_then (optionalQuantity_fieldIf hasBlock), read_then (optionalQuantity_fieldIf hasIndex),
    read_then (txStatus_round_trip result.status)]
  cases isReceipt : receiptField lib (txResultFields lib result) with
  | none => simp
  | some receipt =>
    rw [read_then rfl, Option.some_inj, Option.some_inj]
    constructor
    · intro same
      rw [← same]
    · rintro rfl
      rfl

/-- A bundle's result comes back exactly when each of its transactions' results does. -/
theorem bundleResult_round_trip {result : BundleResult} (mark : Fields)
    (sized : ∀ tx ∈ result.transactions, TxResultSized tx) :
    BundleResult.fromJson lib (.object (BundleResult.toJson lib result ++ mark)) = some result ↔
      ∀ tx ∈ result.transactions, Untimed tx := by
  have each : (∀ tx ∈ result.transactions, Untimed tx) ↔
      ∀ tx ∈ result.transactions,
        BundleTxResult.fromJson lib (BundleTxResult.toJson lib tx) = some tx :=
    forall₂_congr fun tx member => (txResult_round_trip inverts (sized tx member)).symm
  rw [each, ← mapM_map_eq_some]
  have rawStatus : jsonString (BundleResult.toJson lib result ++ mark) "status" =
    some (cString (bundleStatusToString result.status)) := rfl
  have rawTransactions : jsonArray (BundleResult.toJson lib result ++ mark) "transactions" =
    some (result.transactions.map (BundleTxResult.toJson lib)) := rfl
  unfold BundleResult.fromJson
  rw [read_then (show asObject (.object (BundleResult.toJson lib result ++ mark)) = some _ from rfl),
    read_then rawStatus, read_then rawTransactions, read_then (status_round_trip result.status)]
  cases isAll : (result.transactions.map (BundleTxResult.toJson lib)).mapM
      (BundleTxResult.fromJson lib) with
  | none => simp
  | some transactions =>
    rw [read_then rfl, Option.some_inj, Option.some_inj]
    constructor
    · intro same
      rw [← same]
    · rintro rfl
      rfl

omit inverts in
/-- The mark that it was simulated is always read back. -/
theorem simulationResult_round_trip (result : BundleSimulationResult) :
    BundleSimulationResult.fromJson lib (BundleSimulationResult.toJson lib result) = some result ↔
      BundleResult.fromJson lib (.object (BundleResult.toJson lib result.toBundleResult ++
        [("simulated", .bool result.simulated)])) = some result.toBundleResult := by
  have simulated : jsonBool
      (BundleResult.toJson lib result.toBundleResult ++ [("simulated", .bool result.simulated)])
      "simulated" = some result.simulated := rfl
  unfold BundleSimulationResult.fromJson BundleSimulationResult.toJson
  rw [read_then (show asObject (.object (BundleResult.toJson lib result.toBundleResult ++
    [("simulated", .bool result.simulated)])) = some _ from rfl)]
  cases isBundle : BundleResult.fromJson lib (.object (BundleResult.toJson lib
      result.toBundleResult ++ [("simulated", .bool result.simulated)])) with
  | none => simp
  | some bundleResult =>
    rw [read_then rfl, read_then simulated, Option.some_inj, Option.some_inj]
    constructor
    · intro same
      rw [← same]
    · rintro rfl
      rfl

/-- A simulation's result of any shape comes back from its own codec exactly when no
receipt in it carries a block timestamp. -/
theorem simulation_result_round_trips_iff_untimed {result : BundleSimulationResult}
    (sized : ∀ tx ∈ result.transactions, TxResultSized tx) :
    BundleSimulationResult.fromJson lib (BundleSimulationResult.toJson lib result) = some result ↔
      ∀ tx ∈ result.transactions, ∀ receipt, tx.receipt = some receipt →
        receipt.blockTimestamp = none := by
  rw [simulationResult_round_trip]
  exact bundleResult_round_trip inverts _ sized

end Results

/-! ## A result with a receipt -/

/-- A receipt with one log, of a contract creation. -/
def creationReceipt (blockTimestamp : Option UInt64) : Receipt where
  type := 2
  status := 1
  cumulativeGasUsed := 21000
  logs := [⟨List.replicate 20 7, [List.replicate 32 9], []⟩]
  logsBloom := List.replicate 256 0
  transactionHash := List.replicate 32 1
  transactionIndex := 0
  blockHash := List.replicate 32 2
  blockNumber := 18
  gasUsed := 21000
  effectiveGasPrice := 1000000000
  source := List.replicate 20 3
  recipient := none
  contractAddress := some (List.replicate 20 4)
  blockTimestamp := blockTimestamp

/-- A result of two transactions: one included, one that was never mined. -/
def creationResult (blockTimestamp : Option UInt64) : BundleSimulationResult where
  status := .failed
  transactions := [
    ⟨some "mp-1", List.replicate 32 1, .included, some 18, some 0,
      some (creationReceipt blockTimestamp)⟩,
    ⟨none, List.replicate 32 5, .missing, none, none, none⟩]
  simulated := true

theorem creationReceipt_sized (blockTimestamp : Option UInt64) :
    ReceiptSized (creationReceipt blockTimestamp) where
  logs log member := by
    rw [List.mem_singleton.mp member]
    refine ⟨List.length_replicate, fun topic isTopic => ?_⟩
    rw [List.mem_singleton.mp isTopic]
    exact List.length_replicate
  logsBloom := List.length_replicate
  transactionHash := List.length_replicate
  blockHash := List.length_replicate
  source := List.length_replicate
  recipient bytes isSome := by cases isSome
  contractAddress bytes isSome := by
    cases isSome
    exact List.length_replicate

theorem creationResult_sized (blockTimestamp : Option UInt64) :
    ∀ tx ∈ (creationResult blockTimestamp).transactions, TxResultSized tx := by
  intro tx member
  rcases List.mem_cons.mp member with rfl | member
  · refine ⟨fun text isText => ?_, List.length_replicate, fun receipt isReceipt => ?_⟩
    · cases isText
      decide
    · cases isReceipt
      exact creationReceipt_sized blockTimestamp
  · rw [List.mem_singleton.mp member]
    refine ⟨fun text isText => ?_, List.length_replicate, fun receipt isReceipt => ?_⟩
    · cases isText
    · cases isReceipt

theorem creation_result_round_trips :
    BundleSimulationResult.fromJson documented
      (BundleSimulationResult.toJson documented (creationResult none)) =
        some (creationResult none) := by
  refine (simulation_result_round_trips_iff_untimed documented_inverts
    (creationResult_sized none)).mpr fun tx member receipt isReceipt => ?_
  rcases List.mem_cons.mp member with rfl | member
  · cases isReceipt
    rfl
  · rw [List.mem_singleton.mp member] at isReceipt
    cases isReceipt

/-- A receipt of a block with a timestamp does not come back. -/
theorem timestamped_result_is_lost :
    (∀ tx ∈ (creationResult (some 1700000000)).transactions, TxResultSized tx) ∧
      BundleSimulationResult.fromJson documented
        (BundleSimulationResult.toJson documented (creationResult (some 1700000000))) ≠
          some (creationResult (some 1700000000)) := by
  refine ⟨creationResult_sized _, fun reads => ?_⟩
  have untimed := (bundleResult_round_trip documented_inverts _ (creationResult_sized _)).mp
    ((simulationResult_round_trip _).mp reads)
  have lacks := untimed _ List.mem_cons_self _ rfl
  cases lacks

end DexKnight.ResultRoundTrip
