import Mathlib.Data.List.Perm.Subperm
import DexKnight.Core.Wire

/-! The block builder: its mempool, bundles, the node behind it and the request
handlers. Python exceptions are values; what a statement did before a later one
raises stays done, so an operation returns its outcome and the state it leaves in
either case. The node's answers are an argument: any call may raise, and a call with
an effect may raise before or after the effect. What a block takes from the pool, in
which order, and what a revert does to the pool are the node's too. -/
namespace DexKnight.Core.BlockBuilder
open Wire Support.Hex

inductive PyError
  | valueError (message : String)
  | runtimeError (message : String)
  | httpException (statusCode : Nat) (detail : String)
  /-- Anything no handler catches. -/
  | uncaught (message : String)
  deriving DecidableEq, Repr

/-! ## `transaction.py` -/

structure Transaction where
  hash : Option String
  type : Option String
  chainId : Option String
  nonce : String
  fromAddress : String
  toAddress : Option String
  value : String
  gas : String
  gasPrice : Option String
  maxFeePerGas : Option String
  maxPriorityFeePerGas : Option String
  input : String
  deriving DecidableEq, Repr

/-- `_required_str`. -/
def requiredStr (data : Fields) (key : String) : Except PyError String :=
  match ifContains data key with
  | some (.string value) =>
    if value = "" then .error (.valueError ("'" ++ key ++ "' must be a non-empty string"))
    else .ok value
  | _ => .error (.valueError ("'" ++ key ++ "' must be a non-empty string"))

/-- `_optional_str`. -/
def optionalStr (data : Fields) (key : String) : Except PyError (Option String) :=
  match ifContains data key with
  | none => .ok none
  | some .null => .ok none
  | some (.string value) => .ok (some value)
  | some _ => .error (.valueError ("'" ++ key ++ "' must be a string"))

namespace Transaction

def fromJson (data : Fields) : Except PyError Transaction := do
  let hash ← optionalStr data "hash"
  let type ← optionalStr data "type"
  let chainId ← optionalStr data "chainId"
  let nonce ← requiredStr data "nonce"
  let fromAddress ← requiredStr data "from"
  let toAddress ← optionalStr data "to"
  let value ← optionalStr data "value"
  -- `or "0x0"`: an empty string is falsy too.
  let value := if value.getD "" = "" then "0x0" else value.getD ""
  let gas ← requiredStr data "gas"
  let gasPrice ← optionalStr data "gasPrice"
  let maxFeePerGas ← optionalStr data "maxFeePerGas"
  let maxPriorityFeePerGas ← optionalStr data "maxPriorityFeePerGas"
  let input ← requiredStr data "input"
  return {
    hash, type, chainId, nonce, fromAddress, toAddress, value, gas, gasPrice, maxFeePerGas,
    maxPriorityFeePerGas, input }

def optionalJson : Option String → Json
  | none => .null
  | some value => .string value

def toJson (transaction : Transaction) : Json :=
  .object [
    ("hash", optionalJson transaction.hash),
    ("type", optionalJson transaction.type),
    ("chainId", optionalJson transaction.chainId),
    ("nonce", .string transaction.nonce),
    ("from", .string transaction.fromAddress),
    ("to", optionalJson transaction.toAddress),
    ("value", .string transaction.value),
    ("gas", .string transaction.gas),
    ("gasPrice", optionalJson transaction.gasPrice),
    ("maxFeePerGas", optionalJson transaction.maxFeePerGas),
    ("maxPriorityFeePerGas", optionalJson transaction.maxPriorityFeePerGas),
    ("input", .string transaction.input)]

/-- A parameter that is left out when it is `None`. -/
def paramIf (key : String) : Option String → Fields
  | none => []
  | some value => [(key, .string value)]

def toRpcParams (transaction : Transaction) : Fields :=
  [("from", .string transaction.fromAddress),
    ("to", optionalJson transaction.toAddress),
    ("nonce", .string transaction.nonce),
    ("value", .string transaction.value),
    ("gas", .string transaction.gas),
    ("data", .string transaction.input)] ++
  paramIf "gasPrice" transaction.gasPrice ++
  paramIf "maxFeePerGas" transaction.maxFeePerGas ++
  paramIf "maxPriorityFeePerGas" transaction.maxPriorityFeePerGas

end Transaction

/-! ## `mempool.py` -/

/-- What `_statusFromReceipt` can say. -/
inductive TxStatus
  | included
  | reverted
  | missing
  deriving DecidableEq, Repr

def TxStatus.text : TxStatus → String
  | .included => "included"
  | .reverted => "reverted"
  | .missing => "missing"

inductive RecordStatus
  | pending
  | mined (status : TxStatus)
  deriving DecidableEq, Repr

def RecordStatus.text : RecordStatus → String
  | .pending => "pending"
  | .mined status => status.text

structure MempoolRecord where
  mempoolTxId : String
  seqNum : Nat
  transaction : Transaction
  status : RecordStatus
  submittedAt : String
  chainTxHash : Option String := none
  receipt : Option Fields := none
  updatedAt : Option String := none

namespace MempoolRecord

def toJson (record : MempoolRecord) : Json :=
  .object [
    ("mempoolTxId", .string record.mempoolTxId),
    ("seqNum", .int record.seqNum),
    ("transaction", record.transaction.toJson),
    ("status", .string record.status.text),
    ("submittedAt", .string record.submittedAt),
    ("chainTxHash", Transaction.optionalJson record.chainTxHash),
    ("receipt", match record.receipt with
      | none => .null
      | some receipt => .object receipt),
    ("updatedAt", Transaction.optionalJson record.updatedAt)]

/-- The message broadcast for a new record. -/
def message (record : MempoolRecord) : Json :=
  .object [("type", .string "pending_transaction"), ("record", record.toJson)]

end MempoolRecord

/-- The dictionary of records in insertion order; a record's key is its own id. -/
structure Mempool where
  transactions : List MempoolRecord := []
  lastSeqNum : Nat := 0

namespace Mempool

def getTransaction (mempool : Mempool) (mempoolTxId : String) : Option MempoolRecord :=
  mempool.transactions.find? fun record => record.mempoolTxId = mempoolTxId

/-- Assignment to a key of the dictionary. -/
def setItem (records : List MempoolRecord) (record : MempoolRecord) : List MempoolRecord :=
  if records.any fun old => old.mempoolTxId = record.mempoolTxId then
    records.map fun old => if old.mempoolTxId = record.mempoolTxId then record else old
  else
    records ++ [record]

/-- The fresh id and the time are the environment's. -/
def addTransaction (mempool : Mempool) (transaction : Transaction) (uuid now : String) :
    MempoolRecord × Mempool :=
  let record : MempoolRecord := {
    mempoolTxId := "mp-" ++ uuid
    seqNum := mempool.lastSeqNum + 1
    transaction
    status := .pending
    submittedAt := now }
  (record, {
    transactions := setItem mempool.transactions record, lastSeqNum := mempool.lastSeqNum + 1 })

def markMined (mempool : Mempool) (mempoolTxId chainTxHash : String) (status : TxStatus)
    (receipt : Option Fields) (now : String) : Except PyError Mempool :=
  match mempool.getTransaction mempoolTxId with
  | none => .error (.valueError ("transaction '" ++ mempoolTxId ++ "' not found"))
  | some record => .ok { mempool with transactions := setItem mempool.transactions { record with
      status := .mined status, chainTxHash := some chainTxHash, receipt, updatedAt := some now } }

def pendingSnapshot (mempool : Mempool) : Json :=
  .object [
    ("snapshotSeq", .int mempool.lastSeqNum),
    ("transactions", .array <|
      (mempool.transactions.filter fun record => record.status = .pending).map
        MempoolRecord.toJson)]

end Mempool

/-! ## `bundle.py`: reading a bundle -/

structure BundleItem where
  mempoolTxId : Option String
  transaction : Transaction
  deriving DecidableEq, Repr

structure Bundle where
  items : List BundleItem
  blockNumber : Option Nat
  deriving DecidableEq, Repr

def BundleItem.fromJson (data : Json) (mempool : Mempool) : Except PyError BundleItem :=
  match data with
  | .object data =>
    match ifContains data "mempoolTxId" with
    | none | some .null => do
      let transaction ← Transaction.fromJson data
      return { mempoolTxId := none, transaction }
    | some (.string mempoolTxId) =>
      if mempoolTxId = "" then
        .error (.valueError "'mempoolTxId' must be a non-empty string")
      else
        match mempool.getTransaction mempoolTxId with
        | none => .error (.valueError ("mempool transaction '" ++ mempoolTxId ++ "' not found"))
        | some record =>
          if record.status = .pending then
            .ok { mempoolTxId := some mempoolTxId, transaction := record.transaction }
          else
            .error (.httpException 409 ("mempool transaction '" ++ mempoolTxId ++ "' is '" ++
              record.status.text ++ "', not 'pending'"))
    | some _ => .error (.valueError "'mempoolTxId' must be a non-empty string")
  | _ => .error (.uncaught "AttributeError")

/-- The ASCII characters `int` strips. The blanks and digits that it takes from the rest
of Unicode are not modelled: a text with one is refused here. -/
def isSpace (c : Char) : Bool := c = ' ' || ('\t' ≤ c && c ≤ '\r')

/-- Digits of `int(value, 16)`: one underscore may stand before a digit. -/
def readUnderscored : List Char → Nat → Option Nat
  | [], value => some value
  | '_' :: c :: rest, value => do readUnderscored rest (16 * value + (← hexDigit c))
  | c :: rest, value => do readUnderscored rest (16 * value + (← hexDigit c))

/-- `int(value, 16)` past the `0x`: trailing blanks are stripped. -/
def intBase16 (digits : List Char) : Option Nat :=
  match (digits.reverse.dropWhile isSpace).reverse with
  | [] => none
  | digits => readUnderscored digits 0

/-- `_optionalBlockNumber`. -/
def optionalBlockNumber (data : Fields) (field : String) : Except PyError (Option Nat) :=
  match ifContains data field with
  | none | some .null => .ok none
  | some (.string value) =>
    if value = "" then
      .error (.valueError ("'" ++ field ++ "' must be a non-empty hex quantity string"))
    else
      match hexPrefixed value with
      | none | some [] => .error (.valueError ("'" ++ field ++ "' must be a hex quantity string"))
      | some digits =>
        match intBase16 digits with
        | none => .error (.valueError ("'" ++ field ++ "' must be a hex quantity string"))
        | some value => .ok (some value)
  | some _ => .error (.valueError ("'" ++ field ++ "' must be a non-empty hex quantity string"))

def Bundle.fromJson (data : Fields) (mempool : Mempool) : Except PyError Bundle :=
  match ifContains data "transactions" with
  | some (.array (first :: rest)) => do
    let items ← (first :: rest).mapM fun rawItem => BundleItem.fromJson rawItem mempool
    let blockNumber ← optionalBlockNumber data "blockNumber"
    return { items, blockNumber }
  | _ => .error (.valueError "'transactions' must be a non-empty list")

/-! ## `anvil.py` and the node behind it -/

abbrev Block := List Transaction

/-- The chain of a node, and the transactions that wait for it. -/
structure Ledger where
  /-- The blocks after the genesis block, oldest first: block `n` is the `n`-th. -/
  blocks : List Block := []
  /-- Accepted transactions no block contains yet. -/
  pool : List Transaction := []
  deriving DecidableEq, Repr

structure Node extends Ledger where
  snapshots : List Ledger := []
  /-- What `eth_sendTransaction` was called with so far. Nothing reads it. -/
  offered : List Transaction := []
  deriving DecidableEq, Repr

/-- What a node makes of its pool when it mines: which transactions the block takes, in
which order, and which ones wait on. Each was in the pool, and none is used twice. -/
structure Mining where
  block : List Transaction → Block
  left : List Transaction → List Transaction
  pooled : ∀ pool, (block pool ++ left pool).Subperm pool

/-- What a node makes of its pool when it reverts, from the pool at the snapshot and the
present one: either may be what stays, but what was mined in between does not come back
from the blocks that are dropped. -/
structure Rollback where
  pool : (saved present : List Transaction) → List Transaction
  pooled : ∀ saved present, ∀ transaction ∈ pool saved present,
    transaction ∈ saved ∨ transaction ∈ present

namespace Node

/-- The number of the latest block. -/
def head (node : Node) : Nat := node.blocks.length

/-- `eth_sendTransaction`: the transaction enters the pool, if the call takes effect. -/
def send (node : Node) (transaction : Transaction) (tookEffect : Bool) : Node :=
  { node with
    pool := if tookEffect then node.pool ++ [transaction] else node.pool
    offered := node.offered ++ [transaction] }

/-- `evm_mine`: one block more. -/
def mine (node : Node) (mining : Mining) : Node :=
  { node with
    blocks := node.blocks ++ [mining.block node.pool]
    pool := mining.left node.pool }

def snapshot (node : Node) : Nat × Node :=
  (node.snapshots.length, { node with snapshots := node.snapshots ++ [node.toLedger] })

/-- `evm_revert`: back to the chain of a snapshot; the id and the ones taken after it are
spent. An unknown id changes nothing. -/
def revert (node : Node) (snapshotId : Nat) (rollback : Rollback) : Bool × Node :=
  match node.snapshots[snapshotId]? with
  | none => (false, node)
  | some saved =>
    (true, { node with
      blocks := saved.blocks
      pool := rollback.pool saved.pool node.pool
      snapshots := node.snapshots.take snapshotId })

end Node

/-- The answer to a call with an effect on the node. -/
inductive Rpc (α : Type)
  | answered (value : α)
  | raised (tookEffect : Bool) (error : PyError)

/-- The call had its effect, whether or not it was answered. -/
def Rpc.TookEffect {α : Type} : Rpc α → Prop
  | .answered _ => True
  | .raised tookEffect _ => tookEffect = true

/-- Every answer of the node to one bundle request. `latestBlock` and `poll` only
read; a poll answers with a receipt or null. -/
structure Answers where
  latestBlock : Except PyError Unit
  snapshot : Rpc Unit
  send : Nat → Rpc String
  mine : Rpc Unit
  /-- What `evm_mine` does, if it takes effect. -/
  mining : Mining
  poll : Nat → Nat → Except PyError (Option Fields)
  revert : Rpc Unit
  /-- What `evm_revert` does to the pool, if it takes effect. -/
  rollback : Rollback

/-- `waitForReceipt`: polls until a receipt shows, at most this many times. -/
def waitForReceipt (poll : Nat → Except PyError (Option Fields)) : Nat → Nat → Except PyError (Option Fields)
  | _, 0 => .ok none
  | attempt, remaining + 1 => do
    match ← poll attempt with
    | some receipt => return some receipt
    | none => waitForReceipt poll (attempt + 1) remaining

/-! ## `bundle.py`: executing a bundle -/

structure TxResult where
  mempoolTxId : Option String
  chainTxHash : String
  receipt : Option Fields

/-- `_statusFromReceipt`. -/
def statusFromReceipt : Option Fields → TxStatus
  | none => .missing
  | some receipt =>
    match ifContains receipt "status" with
    | some (.string "0x1") => .included
    | _ => .reverted

def TxResult.status (result : TxResult) : TxStatus := statusFromReceipt result.receipt

/-- `_txResult`. -/
def TxResult.toJson (result : TxResult) : Json :=
  match result.receipt with
  | none => .object [
      ("mempoolTxId", Transaction.optionalJson result.mempoolTxId),
      ("chainTxHash", .string result.chainTxHash),
      ("status", .string "missing"),
      ("receipt", .null)]
  | some receipt => .object [
      ("mempoolTxId", Transaction.optionalJson result.mempoolTxId),
      ("chainTxHash", .string result.chainTxHash),
      ("status", .string result.status.text),
      ("blockNumber", (ifContains receipt "blockNumber").getD .null),
      ("transactionIndex", (ifContains receipt "transactionIndex").getD .null),
      ("receipt", .object receipt)]

/-- The dictionary `_executeBundle` returns. -/
def resultFields (results : List TxResult) : Fields :=
  [("status", .string (if results.all fun result => result.status = .included then "included"
      else "failed")),
    ("transactions", .array (results.map TxResult.toJson))]

/-- The list of sends: it stops at the first one that raises. -/
def sendTransactions (send : Nat → Rpc String) :
    Nat → List BundleItem → Node → Except PyError (List String) × Node
  | _, [], node => (.ok [], node)
  | index, item :: rest, node =>
    match send index with
    | .raised tookEffect error => (.error error, node.send item.transaction tookEffect)
    | .answered txHash =>
      match sendTransactions send (index + 1) rest (node.send item.transaction true) with
      | (.ok txHashes, node) => (.ok (txHash :: txHashes), node)
      | (.error error, node) => (.error error, node)

def receiptAttempts : Nat := 20

def waitForReceipts (poll : Nat → Nat → Except PyError (Option Fields)) :
    Nat → List String → Except PyError (List (Option Fields))
  | _, [] => .ok []
  | index, _ :: rest => do
    let receipt ← waitForReceipt (poll index) 0 receiptAttempts
    let receipts ← waitForReceipts poll (index + 1) rest
    return receipt :: receipts

def mineBlock (answers : Answers) (node : Node) : Except PyError Unit × Node :=
  match answers.mine with
  | .answered () => (.ok (), node.mine answers.mining)
  | .raised tookEffect error => (.error error, if tookEffect then node.mine answers.mining else node)

/-- `_executeBundle`. -/
def executeBundle (answers : Answers) (bundle : Bundle) (node : Node) :
    Except PyError (List TxResult) × Node :=
  match sendTransactions answers.send 0 bundle.items node with
  | (.error error, node) => (.error error, node)
  | (.ok txHashes, node) =>
    match mineBlock answers node with
    | (.error error, node) => (.error error, node)
    | (.ok (), node) =>
      match waitForReceipts answers.poll 0 txHashes with
      | .error error => (.error error, node)
      | .ok receipts =>
        (.ok ((bundle.items.zip (txHashes.zip receipts)).map fun (item, txHash, receipt) =>
          { mempoolTxId := item.mempoolTxId, chainTxHash := txHash, receipt }), node)

/-- `_resolveBundleBlockNumber`. -/
def resolveBundleBlockNumber (bundle : Bundle) (headBlockNumber : Nat) : Nat :=
  bundle.blockNumber.getD headBlockNumber

/-- `_hexQuantity`. -/
def pyHex (value : Nat) : String := "0x" ++ String.ofList (writeHex value)

/-- The loop of `mineBundle` over the results. -/
def markAllMined (now : String) :
    List (BundleItem × TxResult) → Mempool → Except PyError Unit × Mempool
  | [], mempool => (.ok (), mempool)
  | (item, txResult) :: rest, mempool =>
    match item.mempoolTxId with
    | none => markAllMined now rest mempool
    | some mempoolTxId =>
      match mempool.markMined mempoolTxId txResult.chainTxHash txResult.status txResult.receipt
        now with
      | .error error => (.error error, mempool)
      | .ok mempool => markAllMined now rest mempool

/-- Everything one request handler can read and change. -/
structure Builder where
  node : Node
  mempool : Mempool

def mineBundle (answers : Answers) (now : String) (bundle : Bundle) (builder : Builder) :
    Except PyError Fields × Builder :=
  match answers.latestBlock with
  | .error error => (.error error, builder)
  | .ok () =>
    let headBlockNumber := builder.node.head
    let targetBlockNumber := resolveBundleBlockNumber bundle headBlockNumber
    if targetBlockNumber ≠ headBlockNumber then
      (.error (.httpException 400 ("bundle blockNumber must equal chain head for mining; requested " ++
        pyHex targetBlockNumber ++ ", head is " ++ pyHex headBlockNumber)), builder)
    else
      match executeBundle answers bundle builder.node with
      | (.error error, node) => (.error error, { builder with node })
      | (.ok results, node) =>
        match markAllMined now (bundle.items.zip results) builder.mempool with
        | (.error error, mempool) => (.error error, { node, mempool })
        | (.ok (), mempool) => (.ok (resultFields results), { node, mempool })

/-- `finally: self._anvil.revert(snapshotId)`: an exception of the revert replaces
the outcome. -/
def revertSnapshot {α : Type} (answers : Answers) (snapshotId : Nat)
    (outcome : Except PyError α × Node) : Except PyError α × Node :=
  match answers.revert with
  | .raised tookEffect error =>
    (.error error,
      if tookEffect then (outcome.2.revert snapshotId answers.rollback).2 else outcome.2)
  | .answered () =>
    match outcome.2.revert snapshotId answers.rollback with
    | (true, node) => (outcome.1, node)
    | (false, node) => (.error (.runtimeError "Anvil failed to revert snapshot"), node)

def simulateBundle (answers : Answers) (bundle : Bundle) (builder : Builder) :
    Except PyError Fields × Builder :=
  match answers.latestBlock with
  | .error error => (.error error, builder)
  | .ok () =>
    let headBlockNumber := builder.node.head
    let targetBlockNumber := resolveBundleBlockNumber bundle headBlockNumber
    if targetBlockNumber > headBlockNumber then
      (.error (.httpException 400 ("bundle blockNumber " ++ pyHex targetBlockNumber ++
        " is ahead of chain head " ++ pyHex headBlockNumber)), builder)
    else if targetBlockNumber < headBlockNumber then
      (.error (.httpException 501 ("historical bundle simulation is not supported by the current " ++
        "Anvil send-and-mine execution path; requested " ++ pyHex targetBlockNumber ++
        ", head is " ++ pyHex headBlockNumber)), builder)
    else
      match answers.snapshot with
      | .raised tookEffect error =>
        (.error error,
          { builder with node := if tookEffect then builder.node.snapshot.2 else builder.node })
      | .answered () =>
        let (snapshotId, node) := builder.node.snapshot
        let (outcome, node) := revertSnapshot answers snapshotId (executeBundle answers bundle node)
        (outcome.map fun results => resultFields results ++ [("simulated", .bool true)],
          { builder with node })

/-! ## `app.py` -/

inductive Response
  | ok (body : Json)
  | error (statusCode : Nat) (detail : String)

/-- The `except` clauses of the bundle handlers. -/
def respond : Except PyError Fields → Response
  | .ok fields => .ok (.object fields)
  | .error (.valueError message) => .error 400 message
  | .error (.runtimeError message) => .error 502 message
  | .error (.httpException statusCode detail) => .error statusCode detail
  | .error (.uncaught _) => .error 500 "Internal Server Error"

/-- `_optionalNonEmptyString`: only an absent field takes the default. -/
def optionalNonEmptyString (data : Fields) (field default : String) : Except PyError String :=
  match ifContains data field with
  | none => .ok default
  | some _ => requiredStr data field

/-- A field `_chainCallFromJson` copies when it is there. -/
def callParam (data : Fields) (field : String) : Except PyError (List (String × String)) :=
  match ifContains data field with
  | none | some .null => .ok []
  | some _ => do
    let value ← requiredStr data field
    return [(field, value)]

/-- `_chainCallFromJson`. -/
def chainCallFromJson (data : Fields) : Except PyError (List (String × String) × String) := do
  let recipient ← requiredStr data "to"
  let callData ← requiredStr data "data"
  let block ← optionalNonEmptyString data "block" "latest"
  let params ← ["from", "gas", "gasPrice", "value"].mapM (callParam data)
  return ([("to", recipient), ("data", callData)] ++ params.flatten, block)

/-- The chain a block parameter names, for the two kinds the clients here send: the
latest block, or a block by its number. -/
def Node.chainAt (node : Node) (block : String) : Option (List Block) :=
  if block = "latest" then some node.blocks
  else do
    let blockNumber ← parseHexQuantity block
    if blockNumber.toNat ≤ node.head then some (node.blocks.take blockNumber.toNat) else none

/-- `chain_call`. What a call returns on the state after a list of blocks is the
node's. -/
def chainCall (ethCall : List Block → List (String × String) → Except PyError String)
    (payload : Fields) (node : Node) : Response :=
  match chainCallFromJson payload with
  | .error error => respond (.error error)
  | .ok (callParams, block) =>
    match node.chainAt block with
    | none => respond (.error (.runtimeError "Anvil RPC error: block not found"))
    | some blocks =>
      match ethCall blocks callParams with
      | .error error => respond (.error error)
      | .ok result => .ok (.object [("block", .string block), ("result", .string result)])

/-- `chain_nonce`, on what `eth_getTransactionCount` answered. -/
def chainNonce (address : String) (getTransactionCount : Except PyError String) : Response :=
  match getTransactionCount with
  | .ok nonce => .ok (.object [("address", .string address), ("nonce", .string nonce)])
  | .error (.runtimeError message) => .error 502 message
  | .error (.httpException statusCode detail) => .error statusCode detail
  | .error _ => .error 500 "Internal Server Error"

def submitPrivateBundle (answers : Answers) (now : String) (payload : Fields) (builder : Builder) :
    Response × Builder :=
  match Bundle.fromJson payload builder.mempool with
  | .error error => (respond (.error error), builder)
  | .ok bundle =>
    let (outcome, builder) := mineBundle answers now bundle builder
    (respond outcome, builder)

def simulatePrivateBundle (answers : Answers) (payload : Fields) (builder : Builder) :
    Response × Builder :=
  match Bundle.fromJson payload builder.mempool with
  | .error error => (respond (.error error), builder)
  | .ok bundle =>
    let (outcome, builder) := simulateBundle answers bundle builder
    (respond outcome, builder)

/-- `submit_public_tx`: a new record and the message broadcast for it. -/
def submitPublicTx (payload : Fields) (uuid now : String) (builder : Builder) :
    Except PyError (MempoolRecord × Json) × Builder :=
  match Transaction.fromJson payload with
  | .error error => (.error error, builder)
  | .ok transaction =>
    let (record, mempool) := builder.mempool.addTransaction transaction uuid now
    (.ok (record, record.message), { builder with mempool })

end DexKnight.Core.BlockBuilder
