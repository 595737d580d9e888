import DexKnight.BackrunEncoding
import DexKnight.BundleDecoding
import DexKnight.Core.Contracts

/-! What the node behind the builder does with a block, as far as the sandbox contracts
are concerned: it reads a transaction's parameters, finds the function that the calldata
selects at the recipient, decodes its arguments by the ABI's rule and runs it. Gas,
ether and foreign code are not part of the repository; what they decide is a parameter,
and all it can do to a call of ours is make it fail. -/
namespace DexKnight.ChainExecution
open Core.Types Core.Wire Core.Contracts Core.BlockBuilder BackrunEncoding BundleDecoding
open Core.Runtime (uint256Word)

/-! ## Dispatch -/

def mintSelector : Bytes := [0x40, 0xc1, 0x0f, 0x19]
def approveSelector : Bytes := [0x09, 0x5e, 0xa7, 0xb3]
def transferSelector : Bytes := [0xa9, 0x05, 0x9c, 0xbb]
def transferFromSelector : Bytes := [0x23, 0xb8, 0x72, 0xdd]
def seedLiquiditySelector : Bytes := [0x8d, 0x7e, 0x07, 0x6d]
def swapExactAForBSelector : Bytes := [0x4c, 0xab, 0xca, 0x0a]
def swapExactBForASelector : Bytes := [0xdd, 0x4f, 0x16, 0x11]
def executeBackrunSelector : Bytes := [0x21, 0x2c, 0x22, 0xbe]
def withdrawTokenSelector : Bytes := [0x01, 0xe3, 0x36, 0x67]
def getReservesSelector : Bytes := [0x09, 0x02, 0xf1, 0xac]

/-- The calldata selects a function and has a word for each of its parameters. -/
def Selects (calldata selector : Bytes) (parameters : Nat) : Prop :=
  calldata.take kSelectorLength = selector ∧
    kSelectorLength + parameters * kWordSize ≤ calldata.length

instance (calldata selector : Bytes) (parameters : Nat) :
    Decidable (Selects calldata selector parameters) := inferInstanceAs (Decidable (_ ∧ _))

/-- An `address` parameter: bytes above the address make the decoder revert. -/
def addressAt (calldata : Bytes) (index : Nat) : Option Address := do
  addressOf (← decodeAddress (wordAt calldata index))

/-- A `uint256` parameter. -/
def amountAt (calldata : Bytes) (index : Nat) : Uint256 := decodeUint256 (wordAt calldata index)

def erc20Entry (token : Address) (calldata : Bytes) : Option Entry :=
  if Selects calldata mintSelector 2 then do
    some (.mint token (← addressAt calldata 0) (amountAt calldata 1))
  else if Selects calldata approveSelector 2 then do
    some (.approve token (← addressAt calldata 0) (amountAt calldata 1))
  else if Selects calldata transferSelector 2 then do
    some (.transfer token (← addressAt calldata 0) (amountAt calldata 1))
  else if Selects calldata transferFromSelector 3 then do
    some (.transferFrom token (← addressAt calldata 0) (← addressAt calldata 1)
      (amountAt calldata 2))
  else none

def dexEntry (pool : Address) (calldata : Bytes) : Option Entry :=
  if Selects calldata seedLiquiditySelector 2 then
    some (.seedLiquidity pool (amountAt calldata 0) (amountAt calldata 1))
  else if Selects calldata swapExactAForBSelector 2 then
    some (.swapExactAForB pool (amountAt calldata 0) (amountAt calldata 1))
  else if Selects calldata swapExactBForASelector 2 then
    some (.swapExactBForA pool (amountAt calldata 0) (amountAt calldata 1))
  else none

def backrunEntry (contract : Address) (calldata : Bytes) : Option Entry :=
  if Selects calldata executeBackrunSelector 6 then do
    some (.executeBackrun contract (← addressAt calldata 0) (← addressAt calldata 1)
      (amountAt calldata 2) (amountAt calldata 3) (amountAt calldata 4) (amountAt calldata 5))
  else if Selects calldata withdrawTokenSelector 3 then do
    some (.withdrawToken contract (← addressAt calldata 0) (← addressAt calldata 1)
      (amountAt calldata 2))
  else none

/-- The function with an effect that a call runs: nothing for a view, and nothing where
the dispatcher or the decoder reverts. -/
def entryAt (world : World) (account : Address) (calldata : Bytes) : Option Entry :=
  match world.code account with
  | some (.erc20 _) => erc20Entry account calldata
  | some (.dex _) => dexEntry account calldata
  | some (.backrun _) => backrunEntry account calldata
  | none => none

/-! ## Transactions and blocks -/

/-- A transaction as the node reads it from the parameters of `eth_sendTransaction`. -/
structure Sent where
  sender : Address
  recipient : Option Address
  nonce : Nat
  value : Nat
  gas : Nat
  calldata : Bytes
  gasPrice : Option Nat
  maxFeePerGas : Option Nat
  maxPriorityFeePerGas : Option Nat
  deriving DecidableEq

/-- An optional account. -/
def accountOf : Option Bytes → Option (Option Address)
  | none => some none
  | some bytes => do some (some (← addressOf bytes))

/-- The same transaction with its values already read: what Knight's own record of one
amounts to. -/
def sentOf (tx : EvmTransaction) : Option Sent := do
  let sender ← addressOf tx.source
  let recipient ← accountOf tx.recipient
  some {
    sender, recipient, nonce := tx.nonce.toNat, value := tx.value.toNat, gas := tx.gas.toNat
    calldata := tx.input, gasPrice := tx.gasPrice.map BitVec.toNat
    maxFeePerGas := tx.maxFeePerGas.map BitVec.toNat
    maxPriorityFeePerGas := tx.maxPriorityFeePerGas.map BitVec.toNat }

/-- A parameter that may be null. -/
def optionalData : Json → Option (Option Bytes)
  | .null => some none
  | text => (data text).map some

/-- A parameter that may be left out. -/
def optionalQuantity : Option Json → Option (Option Nat)
  | none => some none
  | some text => (quantity text).map some

/-- The parameters of `eth_sendTransaction`. -/
def rpcParams : List String :=
  ["from", "to", "nonce", "value", "gas", "data", "gasPrice", "maxFeePerGas", "maxPriorityFeePerGas"]

/-- A transaction is what the parameters spell, where they do so in hexadecimal digits
behind `0x` or `0X`. -/
structure ReadFrom (params : Fields) (sent : Sent) : Prop where
  /-- No text with a NUL in it, which is no digit, is a value. -/
  noNul : ∀ field ∈ rpcParams, ∀ text, ifContains params field = some (.string text) →
    '\x00' ∉ text.toList
  sender : ∀ bytes, (ifContains params "from").bind data = some bytes →
    addressOf bytes = some sent.sender
  recipient : ∀ bytes, (ifContains params "to").bind optionalData = some bytes →
    accountOf bytes = some sent.recipient
  nonce : ∀ number, (ifContains params "nonce").bind quantity = some number → sent.nonce = number
  value : ∀ number, (ifContains params "value").bind quantity = some number → sent.value = number
  gas : ∀ number, (ifContains params "gas").bind quantity = some number → sent.gas = number
  calldata : ∀ bytes, (ifContains params "data").bind data = some bytes → sent.calldata = bytes
  gasPrice : ∀ fee, optionalQuantity (ifContains params "gasPrice") = some fee → sent.gasPrice = fee
  maxFeePerGas : ∀ fee, optionalQuantity (ifContains params "maxFeePerGas") = some fee →
    sent.maxFeePerGas = fee
  maxPriorityFeePerGas : ∀ fee,
    optionalQuantity (ifContains params "maxPriorityFeePerGas") = some fee →
    sent.maxPriorityFeePerGas = fee

/-- The node's reader as JSON-RPC documents it. It may refuse what it likes; what it
takes, it takes for what is spelled there. -/
def ReadsParams (read : Fields → Option Sent) : Prop :=
  ∀ params sent, read params = some sent → ReadFrom params sent

/-- What the repository leaves open about a node. -/
structure Evm where
  /-- What it reads in the parameters of `eth_sendTransaction`. -/
  read : Fields → Option Sent
  /-- A call of ours that runs out of gas. -/
  exhausted : World → Sent → Bool
  /-- Any other transaction: whether it succeeds, and what it leaves. -/
  foreign : World → Sent → Bool × World
  /-- Any other `eth_call`. -/
  view : World → List (String × String) → Except PyError String

namespace Evm

variable (evm : Evm)

/-- One transaction: whether it succeeds, and the state it leaves. -/
def transact (world : World) (transaction : Core.BlockBuilder.Transaction) : Bool × World :=
  match evm.read transaction.toRpcParams with
  | none => (false, world)
  | some sent =>
    -- Contracts send no transactions.
    if (world.code sent.sender).isSome then (false, world)
    else
      match sent.recipient.bind fun account => entryAt world account sent.calldata with
      | none => evm.foreign world sent
      | some entry =>
        -- No function is payable.
        if sent.value ≠ 0 ∨ evm.exhausted world sent = true then (false, world)
        else ((entry.call sent.sender world).isOk, world.transact ⟨sent.sender, entry⟩)

/-- The state a block leaves. -/
def runBlock (world : World) (block : Block) : World :=
  block.foldl (fun world transaction => (evm.transact world transaction).2) world

/-- The state after the genesis state and some blocks. -/
def chain (genesis : World) (blocks : List Block) : World := blocks.foldl evm.runBlock genesis

/-- A transaction of a block that succeeds where it stands. -/
def Succeeds (world : World) (block : Block) (transaction : Core.BlockBuilder.Transaction) : Prop :=
  ∃ front back, block = front ++ transaction :: back ∧
    (evm.transact (evm.runBlock world front) transaction).1 = true

/-- The bytes of one parameter of a call. -/
def paramBytes (callParams : List (String × String)) (field : String) : Option Bytes := do
  data (.string (← callParams.lookup field))

/-- `getReserves` of a pool: its two reserves, one word each. -/
def getReserves (world : World) (callParams : List (String × String)) : Option Bytes := do
  let pool ← addressOf (← paramBytes callParams "to")
  let _ ← world.dexCode pool
  let calldata ← paramBytes callParams "data"
  if calldata.take kSelectorLength = getReservesSelector then
    some (uint256Word (world.dex pool).reserveA ++ uint256Word (world.dex pool).reserveB)
  else none

/-- `eth_call` after some blocks. -/
def ethCall (genesis : World) (blocks : List Block) (callParams : List (String × String)) :
    Except PyError String :=
  match getReserves (evm.chain genesis blocks) callParams with
  | some reserves => .ok (hexData reserves)
  | none => evm.view (evm.chain genesis blocks) callParams

end Evm

end DexKnight.ChainExecution
