import DexKnight.Core.Wire

/-! Knight's JSON codecs: what it reads from the builder (`from_json`), the bundles it
sends and the results it writes (`to_json`). A reader answers nothing on a malformed value; only the
readers of lists of pending transactions skip malformed elements. -/
namespace DexKnight.Core.Codec
open Core.Types Wire

variable (lib : Libraries)

/-- `value.is_object()` with its fields. -/
def asObject (value : Json) : Option Fields :=
  match value with
  | .object fields => some fields
  | _ => none

/-! ## Transactions and snapshots -/

def EvmTransaction.fromJson (value : Json) : Option EvmTransaction := do
  let object ← asObject value
  let source ← jsonHexBytesOf lib object "from" kAddressLength
  let input ← jsonHexBytes lib object "input"
  let gas ← jsonHexUint64 object "gas"
  let nonce ← jsonHexUint64 object "nonce"
  let valueAmount ← jsonOptionalHexUint256 lib object "value"
  let chainId ← jsonOptionalHexUint64 object "chainId"
  let type ← jsonOptionalHexUint64 object "type"
  -- An absent type is legacy; a present one must fit a byte.
  let type ← match type with
    | none => some 0
    | some type => if type > 255 then none else some type.toUInt8
  let hash ← jsonOptionalHexBytes lib object "hash" 32
  let recipient ← jsonOptionalHexBytes lib object "to" kAddressLength
  let gasPrice ← jsonOptionalHexUint256 lib object "gasPrice"
  let maxFeePerGas ← jsonOptionalHexUint256 lib object "maxFeePerGas"
  let maxPriorityFeePerGas ← jsonOptionalHexUint256 lib object "maxPriorityFeePerGas"
  some {
    hash, input, source, chainId, value := valueAmount.getD 0, gasPrice, gas, maxFeePerGas,
    maxPriorityFeePerGas, nonce, type, recipient }

def PendingTransaction.fromJson (value : Json) : Option PendingTransaction := do
  let record ← asObject value
  let seqNum ← jsonUint64 record "seqNum"
  let transactionJson ← ifContains record "transaction"
  let transaction ← EvmTransaction.fromJson lib transactionJson
  some {
    transaction with
    seqNum
    mempoolTxId := (jsonString record "mempoolTxId").getD ""
    status := (jsonString record "status").getD ""
    submittedAt := (jsonString record "submittedAt").getD "" }

def PendingSnapshot.fromJson (json : Fields) (blockNumber : UInt64) : Option PendingSnapshot := do
  let snapshotSeq ← jsonUint64 json "snapshotSeq"
  let transactions ← jsonArray json "transactions"
  some {
    blockNumber, snapshotSeq
    transactions := transactions.filterMap (PendingTransaction.fromJson lib) }

/-- `parse_pending_tx_event`. -/
def parsePendingTxEvent (payload : Body) : Option PendingTransaction := do
  let json ← parseToJsonObject payload
  let eventType ← jsonString json "type"
  let record ← ifContains json "record"
  if eventType = "pending_transaction" then PendingTransaction.fromJson lib record else none

/-- `PoolSnapshot::from_json`. -/
def PoolSnapshot.fromJson (pool : Pool) (value : Json) : Option PoolSnapshot := do
  let object ← asObject value
  let rawResult ← jsonString object "result"
  let result ← parseHexBytes lib rawResult
  let reserves ← lib.decodePair result
  some { pool, reserveA := reserves.1, reserveB := reserves.2 }

/-! ## Bundles -/

def nullable {α : Type} (value : Option α) (write : α → String) : Json :=
  match value with
  | none => .null
  | some value => .string (write value)

def EvmTransaction.toJson (tx : EvmTransaction) : Json :=
  .object [
    ("hash", nullable tx.hash hexData),
    ("type", .string (hexQuantity tx.type.toUInt64)),
    ("chainId", nullable tx.chainId hexQuantity),
    ("nonce", .string (hexQuantity tx.nonce)),
    ("from", .string (hexData tx.source)),
    ("to", nullable tx.recipient hexData),
    ("value", .string (hexQuantity256 lib tx.value)),
    ("gas", .string (hexQuantity tx.gas)),
    ("gasPrice", nullable tx.gasPrice (hexQuantity256 lib)),
    ("maxFeePerGas", nullable tx.maxFeePerGas (hexQuantity256 lib)),
    ("maxPriorityFeePerGas", nullable tx.maxPriorityFeePerGas (hexQuantity256 lib)),
    ("input", .string (hexData tx.input))]

def BundleItem.toJson : BundleItem → Json
  | .mempoolTxRef mempoolTxId => .object [("mempoolTxId", .string mempoolTxId)]
  | .transaction tx => EvmTransaction.toJson lib tx

def Bundle.toJson (bundle : Bundle) : Fields :=
  let items := bundle.transactions.map (BundleItem.toJson lib)
  match bundle.blockNumber with
  | none => [("transactions", .array items)]
  | some blockNumber =>
    [("blockNumber", .string (hexQuantity blockNumber)), ("transactions", .array items)]

/-! ## Bundle results -/

def topicFromJson (value : Json) : Option Bytes := do
  let .string text := value | none
  let topic ← parseHexBytes lib (cString text)
  if topic.length = kWordSize then some topic else none

def Log.fromJson (value : Json) : Option Log := do
  let object ← asObject value
  let address ← jsonHexBytesOf lib object "address" kAddressLength
  let data ← jsonHexBytes lib object "data"
  let rawTopics ← jsonArray object "topics"
  let topics ← rawTopics.mapM (topicFromJson lib)
  some { address, topics, data }

def Receipt.fromJson (value : Json) : Option Receipt := do
  let object ← asObject value
  let type ← jsonHexUint64 object "type"
  let status ← jsonHexUint64 object "status"
  let cumulativeGasUsed ← jsonHexUint64 object "cumulativeGasUsed"
  let rawLogs ← jsonArray object "logs"
  let logsBloom ← jsonHexBytesOf lib object "logsBloom" 256
  let transactionHash ← jsonHexBytesOf lib object "transactionHash" 32
  let transactionIndex ← jsonHexUint64 object "transactionIndex"
  let blockHash ← jsonHexBytesOf lib object "blockHash" 32
  let blockNumber ← jsonHexUint64 object "blockNumber"
  let gasUsed ← jsonHexUint64 object "gasUsed"
  let effectiveGasPrice ← jsonHexUint256 lib object "effectiveGasPrice"
  let source ← jsonHexBytesOf lib object "from" kAddressLength
  if type > 255 then none
  else
    let logs ← rawLogs.mapM (Log.fromJson lib)
    let recipient ← jsonOptionalHexBytes lib object "to" kAddressLength
    let contractAddress ← jsonOptionalHexBytes lib object "contractAddress" kAddressLength
    let blockTimestamp ← jsonOptionalUint64 object "blockTimestamp"
    some {
      type := type.toUInt8, status, cumulativeGasUsed, logs, logsBloom, transactionHash,
      transactionIndex, blockHash, blockNumber, gasUsed, effectiveGasPrice, source, recipient,
      contractAddress, blockTimestamp }

def bundleTxStatusFromString (status : String) : Option BundleTxStatus :=
  if status = "included" then some .included
  else if status = "reverted" then some .reverted
  else if status = "missing" then some .missing
  else none

def bundleStatusFromString (status : String) : Option BundleStatus :=
  if status = "included" then some .included
  else if status = "failed" then some .failed
  else none

/-- The `receipt` field must be present; null stands for no receipt. -/
def receiptField (object : Fields) : Option (Option Receipt) := do
  match ← ifContains object "receipt" with
  | .null => some none
  | value => (Receipt.fromJson lib value).map some

def BundleTxResult.fromJson (value : Json) : Option BundleTxResult := do
  let object ← asObject value
  let mempoolTxId ← jsonOptionalString object "mempoolTxId"
  let chainTxHash ← jsonHexBytesOf lib object "chainTxHash" 32
  let rawStatus ← jsonString object "status"
  let blockNumber ← jsonOptionalHexUint64 object "blockNumber"
  let transactionIndex ← jsonOptionalHexUint64 object "transactionIndex"
  let status ← bundleTxStatusFromString rawStatus
  let receipt ← receiptField lib object
  some { mempoolTxId, chainTxHash, status, blockNumber, transactionIndex, receipt }

def BundleResult.fromJson (value : Json) : Option BundleResult := do
  let object ← asObject value
  let rawStatus ← jsonString object "status"
  let rawTransactions ← jsonArray object "transactions"
  let status ← bundleStatusFromString rawStatus
  let transactions ← rawTransactions.mapM (BundleTxResult.fromJson lib)
  some { status, transactions }

def BundleSimulationResult.fromJson (value : Json) : Option BundleSimulationResult := do
  let object ← asObject value
  let bundleResult ← BundleResult.fromJson lib value
  let simulated ← jsonBool object "simulated"
  some { bundleResult with simulated }

/-! The same results as Knight writes them. A field that is set to null first and
overwritten when there is a value is one field. -/

def Log.toJson (log : Log) : Json :=
  .object [
    ("address", .string (hexData log.address)),
    ("topics", .array (log.topics.map fun topic => .string (hexData topic))),
    ("data", .string (hexData log.data))]

def Receipt.toJson (receipt : Receipt) : Json :=
  .object [
    ("type", .string (hexQuantity receipt.type.toUInt64)),
    ("status", .string (hexQuantity receipt.status)),
    ("cumulativeGasUsed", .string (hexQuantity receipt.cumulativeGasUsed)),
    ("logs", .array (receipt.logs.map Log.toJson)),
    ("logsBloom", .string (hexData receipt.logsBloom)),
    ("transactionHash", .string (hexData receipt.transactionHash)),
    ("transactionIndex", .string (hexQuantity receipt.transactionIndex)),
    ("blockHash", .string (hexData receipt.blockHash)),
    ("blockNumber", .string (hexQuantity receipt.blockNumber)),
    ("gasUsed", .string (hexQuantity receipt.gasUsed)),
    ("effectiveGasPrice", .string (hexQuantity256 lib receipt.effectiveGasPrice)),
    ("from", .string (hexData receipt.source)),
    ("to", nullable receipt.recipient hexData),
    ("contractAddress", nullable receipt.contractAddress hexData),
    ("blockTimestamp", nullable receipt.blockTimestamp hexQuantity)]

def bundleTxStatusToString : BundleTxStatus → String
  | .included => "included"
  | .reverted => "reverted"
  | .missing => "missing"

def bundleStatusToString : BundleStatus → String
  | .included => "included"
  | .failed => "failed"

/-- A field that is written only when there is a value. -/
def fieldIf {α : Type} (field : String) (value : Option α) (write : α → String) : Fields :=
  match value with
  | none => []
  | some value => [(field, .string (write value))]

def BundleTxResult.toJson (result : BundleTxResult) : Json :=
  .object ([
      ("mempoolTxId", nullable result.mempoolTxId id),
      ("chainTxHash", .string (hexData result.chainTxHash)),
      ("status", .string (bundleTxStatusToString result.status))] ++
    fieldIf "blockNumber" result.blockNumber hexQuantity ++
    fieldIf "transactionIndex" result.transactionIndex hexQuantity ++
    [("receipt", match result.receipt with
      | none => .null
      | some receipt => Receipt.toJson lib receipt)])

def BundleResult.toJson (result : BundleResult) : Fields := [
  ("status", .string (bundleStatusToString result.status)),
  ("transactions", .array (result.transactions.map (BundleTxResult.toJson lib)))]

def BundleSimulationResult.toJson (result : BundleSimulationResult) : Json :=
  .object (BundleResult.toJson lib result.toBundleResult ++ [("simulated", .bool result.simulated)])

end DexKnight.Core.Codec
