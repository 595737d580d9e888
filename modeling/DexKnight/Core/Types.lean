import Mathlib.Data.Nat.Digits.Defs

/-! Data the components exchange: words, addresses and byte strings, and the
records Knight keeps about pools, pending transactions and candidates. Fields
follow the C++ declarations; a `std::optional` is an `Option` and an unsigned
integer keeps its width. -/
namespace DexKnight.Core.Types

abbrev Uint256 := BitVec 256
abbrev Address := BitVec 160
abbrev Bytes := List UInt8

def kWordSize : Nat := 32
def kAddressLength : Nat := 20
def kSelectorLength : Nat := 4

/-- Big-endian value of a byte string. -/
def bigEndian (bytes : Bytes) : Nat := Nat.ofDigits 256 (bytes.reverse.map UInt8.toNat)

/-- The account an address argument of a call names: exactly twenty bytes. -/
def addressOf (bytes : Bytes) : Option Address :=
  if bytes.length = kAddressLength then some (BitVec.ofNat 160 (bigEndian bytes)) else none

/-- `evm::Pool`. -/
structure Pool where
  address : Bytes
  tokenA : Bytes
  tokenB : Bytes
  deriving DecidableEq, Repr

/-- `evm::Transaction`. -/
structure EvmTransaction where
  hash : Option Bytes := none
  input : Bytes := []
  source : Bytes := []
  chainId : Option UInt64 := none
  value : Uint256 := 0
  gasPrice : Option Uint256 := none
  gas : UInt64 := 0
  maxFeePerGas : Option Uint256 := none
  maxPriorityFeePerGas : Option Uint256 := none
  nonce : UInt64 := 0
  type : UInt8 := 0
  recipient : Option Bytes := none
  deriving DecidableEq, Repr

/-- `builder::PendingTransaction`. -/
structure PendingTransaction extends EvmTransaction where
  mempoolTxId : String := ""
  seqNum : UInt64 := 0
  status : String := ""
  submittedAt : String := ""
  deriving DecidableEq, Repr

/-- `evm::Log`. -/
structure Log where
  address : Bytes
  topics : List Bytes
  data : Bytes
  deriving DecidableEq, Repr

/-- `evm::Receipt`. -/
structure Receipt where
  type : UInt8
  status : UInt64
  cumulativeGasUsed : UInt64
  logs : List Log
  logsBloom : Bytes
  transactionHash : Bytes
  transactionIndex : UInt64
  blockHash : Bytes
  blockNumber : UInt64
  gasUsed : UInt64
  effectiveGasPrice : Uint256
  source : Bytes
  recipient : Option Bytes
  contractAddress : Option Bytes
  blockTimestamp : Option UInt64
  deriving DecidableEq, Repr

/-- `builder::BundleItem`: a reference to a pending record, or a transaction. -/
inductive BundleItem
  | mempoolTxRef (mempoolTxId : String)
  | transaction (tx : EvmTransaction)
  deriving DecidableEq, Repr

/-- `builder::Bundle`. -/
structure Bundle where
  blockNumber : Option UInt64
  transactions : List BundleItem
  deriving DecidableEq, Repr

inductive BundleTxStatus
  | included
  | reverted
  | missing
  deriving DecidableEq, Repr

inductive BundleStatus
  | included
  | failed
  deriving DecidableEq, Repr

structure BundleTxResult where
  mempoolTxId : Option String
  chainTxHash : Bytes
  status : BundleTxStatus
  blockNumber : Option UInt64
  transactionIndex : Option UInt64
  receipt : Option Receipt
  deriving DecidableEq, Repr

structure BundleResult where
  status : BundleStatus
  transactions : List BundleTxResult
  deriving DecidableEq, Repr

structure BundleSimulationResult extends BundleResult where
  simulated : Bool
  deriving DecidableEq, Repr

/-- `builder::PendingSnapshot`. -/
structure PendingSnapshot where
  blockNumber : UInt64
  snapshotSeq : UInt64
  transactions : List PendingTransaction
  deriving DecidableEq, Repr

inductive SwapKind
  | aForB
  | bForA
  deriving DecidableEq, Repr

structure Candidate where
  tx : PendingTransaction
  pool : Pool
  swapKind : SwapKind
  deriving DecidableEq, Repr

structure CandidateSnapshot where
  blockNumber : UInt64
  snapshotSeq : UInt64
  candidates : List Candidate
  deriving DecidableEq, Repr

structure PoolSnapshot where
  pool : Pool
  reserveA : Uint256
  reserveB : Uint256
  deriving DecidableEq, Repr

/-- What the runtime receives: one coherent view, with at most one candidate. -/
structure StateSnapshot where
  valid : Bool
  blockNumber : Option UInt64
  pools : List PoolSnapshot
  candidate : Option Candidate
  deriving DecidableEq, Repr

/-- The two arguments of either swap call. -/
structure SwapArguments where
  amountIn : Uint256
  minAmountOut : Uint256
  deriving DecidableEq, Repr

/-- `decoder::Swap`. -/
inductive Swap
  | swapExactAForB (arguments : SwapArguments)
  | swapExactBForA (arguments : SwapArguments)
  deriving DecidableEq, Repr

end DexKnight.Core.Types
