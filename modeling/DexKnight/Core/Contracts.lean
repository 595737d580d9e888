import Mathlib.Logic.Function.Basic
import DexKnight.Core.Types
import DexKnight.Support.CheckedWord
import DexKnight.Support.Reverting

/-! The sandbox contracts: `SandboxERC20`, `SandboxDex` and `SandboxBackrun`, as
Solidity 0.8 executes them. Immutables are part of the code at an address, so no
call changes them; storage is total and starts at zero, as on the EVM. A failed
`require`, an arithmetic panic and a call to an address without the function all
revert, and a reverted call leaves no state behind. -/
namespace DexKnight.Core.Contracts
open Core.Types Support.CheckedWord Support.Reverting


/-- `type(uint256).max`. -/
def maxUint256 : Uint256 := BitVec.allOnes 256

inductive Revert
  | reason (message : String)
  /-- Checked arithmetic overflowed or divided by zero. -/
  | panic
  /-- The callee has no code, or no function with this selector. -/
  | noFunction
  deriving DecidableEq, Repr

/-- A pool's constructor arguments, with what the constructor requires of them. -/
structure DexCode where
  tokenA : Address
  tokenB : Address
  nonzeroA : tokenA ≠ 0
  nonzeroB : tokenB ≠ 0
  distinct : tokenA ≠ tokenB
  deriving DecidableEq

inductive Code
  | erc20 (minter : Address)
  | dex (immutables : DexCode)
  | backrun (operator : Address)
  deriving DecidableEq

structure Erc20Storage where
  totalSupply : Uint256 := 0
  balanceOf : Address → Uint256 := fun _ => 0
  allowance : Address → Address → Uint256 := fun _ _ => 0

structure DexStorage where
  reserveA : Uint256 := 0
  reserveB : Uint256 := 0
  deriving DecidableEq

inductive Event
  | transfer (token source destination : Address) (value : Uint256)
  | approval (token owner spender : Address) (value : Uint256)
  | liquidityAdded (pool provider : Address) (amountA amountB : Uint256)
  | swap (pool trader tokenIn tokenOut : Address) (amountIn amountOut : Uint256)
  | backrunExecuted (contract buyPool sellPool : Address)
      (amountInB amountOutA amountOutB profitB : Uint256)
  | tokenWithdrawn (contract token destination : Address) (amount : Uint256)
  deriving DecidableEq

structure World where
  code : Address → Option Code
  erc20 : Address → Erc20Storage := fun _ => {}
  dex : Address → DexStorage := fun _ => {}
  logs : List Event := []

abbrev Call := Program World Revert

namespace World

def setErc20 (world : World) (token : Address) (storage : Erc20Storage) : World :=
  { world with erc20 := Function.update world.erc20 token storage }

def setDex (world : World) (pool : Address) (storage : DexStorage) : World :=
  { world with dex := Function.update world.dex pool storage }

def emit (world : World) (event : Event) : World :=
  { world with logs := world.logs ++ [event] }

def minter (world : World) (token : Address) : Option Address :=
  match world.code token with
  | some (.erc20 minter) => some minter
  | _ => none

def dexCode (world : World) (pool : Address) : Option DexCode :=
  match world.code pool with
  | some (.dex immutables) => some immutables
  | _ => none

def operator (world : World) (contract : Address) : Option Address :=
  match world.code contract with
  | some (.backrun operator) => some operator
  | _ => none

end World

def emit (event : Event) : Call Unit := modify (·.emit event)

/-- An arithmetic operation of the compiler: it panics instead of wrapping. -/
def checked (value : Option Uint256) : Call Uint256 := demand value .panic

/-! ## `SandboxERC20.sol` -/
namespace SandboxERC20

/-- Dispatch to the token at this address; yields its `minter` immutable. -/
def enter (self : Address) : Call Address := do
  demand ((← get).minter self) .noFunction

def setBalance (self account : Address) (balance : Uint256) : Call Unit :=
  modify fun world =>
    let storage := world.erc20 self
    world.setErc20 self { storage with balanceOf := Function.update storage.balanceOf account balance }

def setAllowance (self owner spender : Address) (amount : Uint256) : Call Unit :=
  modify fun world =>
    let storage := world.erc20 self
    world.setErc20 self { storage with
      allowance := Function.update storage.allowance owner
        (Function.update (storage.allowance owner) spender amount) }

def mint (self sender recipient : Address) (amount : Uint256) : Call Unit := do
  let minter ← enter self
  require (sender = minter) (.reason "ERC20: minter")
  require (recipient ≠ 0) (.reason "ERC20: zero to")
  let supply ← checked (addChecked ((← get).erc20 self).totalSupply amount)
  modify fun world => world.setErc20 self { world.erc20 self with totalSupply := supply }
  let credited ← checked (addChecked (((← get).erc20 self).balanceOf recipient) amount)
  setBalance self recipient credited
  emit (.transfer self 0 recipient amount)

def approve (self sender spender : Address) (amount : Uint256) : Call Bool := do
  let _ ← enter self
  setAllowance self sender spender amount
  emit (.approval self sender spender amount)
  return true

/-- `_transfer(from, to, amount)`. -/
def transferInternal (self source recipient : Address) (amount : Uint256) : Call Unit := do
  require (recipient ≠ 0) (.reason "ERC20: zero to")
  require (((← get).erc20 self).balanceOf source ≥ amount) (.reason "ERC20: balance")
  let debited ← checked (subChecked (((← get).erc20 self).balanceOf source) amount)
  setBalance self source debited
  let credited ← checked (addChecked (((← get).erc20 self).balanceOf recipient) amount)
  setBalance self recipient credited
  emit (.transfer self source recipient amount)

def transfer (self sender recipient : Address) (amount : Uint256) : Call Bool := do
  let _ ← enter self
  transferInternal self sender recipient amount
  return true

def transferFrom (self sender source recipient : Address) (amount : Uint256) : Call Bool := do
  let _ ← enter self
  let allowed := ((← get).erc20 self).allowance source sender
  require (allowed ≥ amount) (.reason "ERC20: allowance")
  -- An infinite approval is never spent down.
  if allowed ≠ maxUint256 then
    let remaining ← checked (subChecked allowed amount)
    setAllowance self source sender remaining
    emit (.approval self source sender (((← get).erc20 self).allowance source sender))
  transferInternal self source recipient amount
  return true

end SandboxERC20

/-! ## `SandboxDex.sol` -/
namespace SandboxDex

def feeNumerator : Uint256 := 997
def feeDenominator : Uint256 := 1000

/-- Dispatch to the pool at this address; yields its immutables. -/
def enter (self : Address) : Call DexCode := do
  demand ((← get).dexCode self) .noFunction

def setReserveA (self : Address) (reserve : Uint256) : Call Unit :=
  modify fun world => world.setDex self { world.dex self with reserveA := reserve }

def setReserveB (self : Address) (reserve : Uint256) : Call Unit :=
  modify fun world => world.setDex self { world.dex self with reserveB := reserve }

/-- `_transfer(token, to, amount)`: the pool pays out of its own balance. -/
def transferOut (self token recipient : Address) (amount : Uint256) : Call Unit := do
  let moved ← SandboxERC20.transfer token self recipient amount
  require (moved = true) (.reason "DEX: transfer failed")

/-- `_transferFrom(token, from, to, amount)`, called by the pool. -/
def transferIn (self token source recipient : Address) (amount : Uint256) : Call Unit := do
  let moved ← SandboxERC20.transferFrom token self source recipient amount
  require (moved = true) (.reason "DEX: transferFrom failed")

def seedLiquidity (self sender : Address) (amountA amountB : Uint256) : Call Unit := do
  let immutables ← enter self
  require (amountA > 0) (.reason "DEX: zero amount A")
  require (amountB > 0) (.reason "DEX: zero amount B")
  transferIn self immutables.tokenA sender self amountA
  transferIn self immutables.tokenB sender self amountB
  setReserveA self (← checked (addChecked ((← get).dex self).reserveA amountA))
  setReserveB self (← checked (addChecked ((← get).dex self).reserveB amountB))
  emit (.liquidityAdded self sender amountA amountB)

def getAmountOut (amountIn reserveIn reserveOut : Uint256) : Call Uint256 := do
  require (amountIn > 0) (.reason "DEX: zero amount in")
  require (reserveIn > 0) (.reason "DEX: empty reserve in")
  require (reserveOut > 0) (.reason "DEX: empty reserve out")
  let amountInWithFee ← checked (mulChecked amountIn feeNumerator)
  let numerator ← checked (mulChecked amountInWithFee reserveOut)
  let scaledReserve ← checked (mulChecked reserveIn feeDenominator)
  let denominator ← checked (addChecked scaledReserve amountInWithFee)
  checked (divChecked numerator denominator)

/-- `_swapExactIn`. -/
def swapExactIn (self sender tokenIn tokenOut : Address)
    (amountIn minAmountOut reserveIn reserveOut : Uint256) : Call Uint256 := do
  let amountOut ← getAmountOut amountIn reserveIn reserveOut
  require (amountOut > 0) (.reason "DEX: zero amount out")
  require (amountOut ≥ minAmountOut) (.reason "DEX: slippage")
  transferIn self tokenIn sender self amountIn
  transferOut self tokenOut sender amountOut
  emit (.swap self sender tokenIn tokenOut amountIn amountOut)
  return amountOut

def swapExactAForB (self sender : Address) (amountIn minAmountOut : Uint256) : Call Uint256 := do
  let immutables ← enter self
  let reserves := (← get).dex self
  let amountOut ← swapExactIn self sender immutables.tokenA immutables.tokenB
    amountIn minAmountOut reserves.reserveA reserves.reserveB
  setReserveA self (← checked (addChecked ((← get).dex self).reserveA amountIn))
  setReserveB self (← checked (subChecked ((← get).dex self).reserveB amountOut))
  return amountOut

def swapExactBForA (self sender : Address) (amountIn minAmountOut : Uint256) : Call Uint256 := do
  let immutables ← enter self
  let reserves := (← get).dex self
  let amountOut ← swapExactIn self sender immutables.tokenB immutables.tokenA
    amountIn minAmountOut reserves.reserveB reserves.reserveA
  setReserveB self (← checked (addChecked ((← get).dex self).reserveB amountIn))
  setReserveA self (← checked (subChecked ((← get).dex self).reserveA amountOut))
  return amountOut

end SandboxDex

/-! ## `SandboxBackrun.sol` -/
namespace SandboxBackrun

/-- Dispatch to the executor at this address; yields its `operator` immutable. -/
def enter (self : Address) : Call Address := do
  demand ((← get).operator self) .noFunction

/-- `balanceOf` of a token, asked by the executor. -/
def balanceOf (token account : Address) : Call Uint256 := do
  let _ ← SandboxERC20.enter token
  return ((← get).erc20 token).balanceOf account

/-- `_approve`. -/
def approve (self token spender : Address) (amount : Uint256) : Call Unit := do
  let approved ← SandboxERC20.approve token self spender amount
  require (approved = true) (.reason "BACKRUN: approve failed")

def executeBackrun (self sender buyPool sellPool : Address)
    (amountInB minAmountOutA minAmountOutB minProfitB : Uint256) : Call (Uint256 × Uint256) := do
  let operator ← enter self
  require (sender = operator) (.reason "BACKRUN: operator")
  require (buyPool ≠ 0) (.reason "BACKRUN: zero buy pool")
  require (sellPool ≠ 0) (.reason "BACKRUN: zero sell pool")
  require (buyPool ≠ sellPool) (.reason "BACKRUN: same pool")
  require (amountInB > 0) (.reason "BACKRUN: zero amount in")
  let buyDex ← SandboxDex.enter buyPool
  let sellDex ← SandboxDex.enter sellPool
  require (buyDex.tokenA = sellDex.tokenA) (.reason "BACKRUN: token A mismatch")
  require (buyDex.tokenB = sellDex.tokenB) (.reason "BACKRUN: token B mismatch")
  let initialBalanceB ← balanceOf buyDex.tokenB self
  require (initialBalanceB ≥ amountInB) (.reason "BACKRUN: insufficient token B")
  approve self buyDex.tokenB buyPool amountInB
  let amountOutA ← SandboxDex.swapExactBForA buyPool self amountInB minAmountOutA
  approve self buyDex.tokenA sellPool amountOutA
  let amountOutB ← SandboxDex.swapExactAForB sellPool self amountOutA minAmountOutB
  let finalBalanceB ← balanceOf buyDex.tokenB self
  let profitB ← checked (subChecked finalBalanceB initialBalanceB)
  require (profitB ≥ minProfitB) (.reason "BACKRUN: profit")
  emit (.backrunExecuted self buyPool sellPool amountInB amountOutA amountOutB profitB)
  return (amountOutA, amountOutB)

def withdrawToken (self sender token recipient : Address) (amount : Uint256) : Call Unit := do
  let operator ← enter self
  require (sender = operator) (.reason "BACKRUN: operator")
  require (token ≠ 0) (.reason "BACKRUN: zero token")
  require (recipient ≠ 0) (.reason "BACKRUN: zero to")
  let moved ← SandboxERC20.transfer token self recipient amount
  require (moved = true) (.reason "BACKRUN: transfer failed")
  emit (.tokenWithdrawn self token recipient amount)

end SandboxBackrun

/-! ## Transactions -/

/-- Every state-changing entry point of the three contracts. -/
inductive Entry
  | mint (token recipient : Address) (amount : Uint256)
  | approve (token spender : Address) (amount : Uint256)
  | transfer (token recipient : Address) (amount : Uint256)
  | transferFrom (token source recipient : Address) (amount : Uint256)
  | seedLiquidity (pool : Address) (amountA amountB : Uint256)
  | swapExactAForB (pool : Address) (amountIn minAmountOut : Uint256)
  | swapExactBForA (pool : Address) (amountIn minAmountOut : Uint256)
  | executeBackrun (contract buyPool sellPool : Address)
      (amountInB minAmountOutA minAmountOutB minProfitB : Uint256)
  | withdrawToken (contract token recipient : Address) (amount : Uint256)
  deriving DecidableEq

def Entry.call (sender : Address) : Entry → Call Unit
  | .mint token recipient amount => SandboxERC20.mint token sender recipient amount
  | .approve token spender amount => discard (SandboxERC20.approve token sender spender amount)
  | .transfer token recipient amount => discard (SandboxERC20.transfer token sender recipient amount)
  | .transferFrom token source recipient amount =>
    discard (SandboxERC20.transferFrom token sender source recipient amount)
  | .seedLiquidity pool amountA amountB => SandboxDex.seedLiquidity pool sender amountA amountB
  | .swapExactAForB pool amountIn minAmountOut =>
    discard (SandboxDex.swapExactAForB pool sender amountIn minAmountOut)
  | .swapExactBForA pool amountIn minAmountOut =>
    discard (SandboxDex.swapExactBForA pool sender amountIn minAmountOut)
  | .executeBackrun contract buyPool sellPool amountInB minAmountOutA minAmountOutB minProfitB =>
    discard (SandboxBackrun.executeBackrun contract sender buyPool sellPool amountInB
      minAmountOutA minAmountOutB minProfitB)
  | .withdrawToken contract token recipient amount =>
    SandboxBackrun.withdrawToken contract sender token recipient amount

structure Transaction where
  sender : Address
  entry : Entry
  deriving DecidableEq

/-- One transaction on the chain: a reverted one leaves the state unchanged. -/
def World.transact (world : World) (transaction : Transaction) : World :=
  settle (transaction.entry.call transaction.sender) world

end DexKnight.Core.Contracts
