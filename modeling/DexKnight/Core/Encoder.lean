import DexKnight.Core.Runtime

/-! The call data of `executeBackrun` as `encoder.cpp` builds it: a buffer that grows by
one word at a time and is written at its end. -/
namespace DexKnight.Core.Encoder
open Core.Types Core.Calculator Core.Runtime

/-- `SandboxBackrun::ExecuteBackrun`. -/
structure ExecuteBackrun where
  buyPool : Bytes
  sellPool : Bytes
  amountInB : Uint256
  minAmountOutA : Uint256
  minAmountOutB : Uint256
  minProfitB : Uint256
  deriving DecidableEq, Repr

/-- `out.resize(size, 0)`. -/
def resize (out : Bytes) (size : Nat) : Bytes :=
  out.take size ++ List.replicate (size - out.length) 0

/-- The bytes from an offset on are overwritten. -/
def overwrite (out : Bytes) (offset : Nat) (content : Bytes) : Bytes :=
  out.take offset ++ content ++ out.drop (offset + content.length)

def appendUint256Word (out : Bytes) (value : Uint256) : Bytes :=
  let offset := out.length
  let out := resize out (offset + kWordSize)
  overwrite out offset (uint256Word value)

/-- Nothing when the address has another length. -/
def appendAddressWord (out address : Bytes) : Option Bytes :=
  if address.length ≠ kAddressLength then none
  else
    let offset := out.length
    let out := resize out (offset + kWordSize)
    some (overwrite out (offset + kWordSize - kAddressLength) address)

def encodeExecuteBackrun (call : ExecuteBackrun) : Option Bytes := do
  let calldata := executeBackrunSelector
  let calldata ← appendAddressWord calldata call.buyPool
  let calldata ← appendAddressWord calldata call.sellPool
  let calldata := appendUint256Word calldata call.amountInB
  let calldata := appendUint256Word calldata call.minAmountOutA
  let calldata := appendUint256Word calldata call.minAmountOutB
  let calldata := appendUint256Word calldata call.minProfitB
  some calldata

/-- The call `TxComposer::compose` makes of an opportunity. -/
def callOf (opportunity : Opportunity) : ExecuteBackrun where
  buyPool := opportunity.buyPool.address
  sellPool := opportunity.sellPool.address
  amountInB := opportunity.amountInB
  minAmountOutA := opportunity.minAmountOutA
  minAmountOutB := opportunity.minAmountOutB
  minProfitB := opportunity.minProfitB

end DexKnight.Core.Encoder
