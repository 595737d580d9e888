import DexKnight.ProductGrowth
import DexKnight.Solvency

/-! A group that trades with one pool only. Whatever its members pay or receive, the
pool's reserves receive or pay, so the group's holdings of a token and the pool's
reserve of it add up to a constant. The product of the reserves never goes down, and so
the group never gains in one token without losing in the other. -/
namespace DexKnight.ClosedTrades
open Core.Types Core.Contracts Support.CheckedWord Support.Reverting ContractProofs LedgerProofs
  BackrunSafety ProductGrowth

variable {world after start : World} {pool source recipient owner spender token token' : Address}
  {code : DexCode} {amount amountIn minAmountOut : Uint256} {traders : Finset Address}
  {calls : List Transaction}

/-- What a group holds of a token. -/
def wealth (world : World) (token : Address) (traders : Finset Address) : Nat :=
  ∑ account ∈ traders, held world token account

private theorem sum_share_group (party : Address) (amount : Uint256) :
    ∑ account ∈ traders, share party account amount = if party ∈ traders then amount.toNat else 0 := by
  simp [share]

/-- The group loses what a member gives and gains what a member receives. -/
theorem wealth_moved (traders : Finset Address)
    (movable : Movable world token source recipient amount) :
    wealth (world.moved token source recipient amount) token traders +
        (if source ∈ traders then amount.toNat else 0) =
      wealth world token traders + (if recipient ∈ traders then amount.toNat else 0) := by
  have entry (account : Address) :
      held (world.moved token source recipient amount) token account + share source account amount =
        held world token account + share recipient account amount := by
    rw [held_moved movable]
    have covered : amount.toNat ≤ held world token source := movable.2.1
    by_cases gives : account = source
    · subst account
      rw [share_self]
      omega
    · rw [share_of_ne gives]
      omega
  rw [← sum_share_group, ← sum_share_group, wealth, wealth, ← Finset.sum_add_distrib,
    ← Finset.sum_add_distrib]
  exact Finset.sum_congr rfl fun account _ => entry account

@[simp] theorem wealth_spent :
    wealth (world.spent token owner spender amount) token' traders = wealth world token' traders := by
  simp [wealth]

@[simp] theorem wealth_emit {event : Event} :
    wealth (world.emit event) token traders = wealth world token traders := rfl

@[simp] theorem wealth_setDex {storage : DexStorage} :
    wealth (world.setDex pool storage) token traders = wealth world token traders := rfl

theorem wealth_moved_of_ne (other : token' ≠ token) :
    wealth (world.moved token source recipient amount) token' traders = wealth world token' traders :=
  Finset.sum_congr rfl fun _ _ => held_moved_of_ne other

section Swap

variable {trader tokenIn tokenOut : Address} {amountOut : Uint256}

/-- A member's deposit. -/
theorem wealth_deposited (member : trader ∈ traders) (outside : pool ∉ traders)
    (movable : Movable world token trader pool amount) :
    wealth (deposited world token trader pool amount) token traders + amount.toNat =
      wealth world token traders := by
  have gives := wealth_moved traders (movable_spent.mpr movable : Movable
    (world.spent token trader pool amount) token trader pool amount)
  rw [if_pos member, if_neg outside, wealth_spent] at gives
  exact gives

theorem wealth_deposited_of_ne (other : token' ≠ token) :
    wealth (deposited world token trader pool amount) token' traders = wealth world token' traders := by
  rw [deposited, wealth_moved_of_ne other, wealth_spent]

/-- A member's swap: the group pays the input and is paid the output. -/
theorem wealth_exchanged (member : trader ∈ traders) (outside : pool ∉ traders)
    (distinct : tokenIn ≠ tokenOut)
    (payable : Payable world pool trader tokenIn tokenOut amountIn amountOut) :
    let after := exchanged world pool trader tokenIn tokenOut amountIn amountOut
    wealth after tokenIn traders + amountIn.toNat = wealth world tokenIn traders ∧
      wealth after tokenOut traders = wealth world tokenOut traders + amountOut.toNat := by
  have pulled : Movable (world.spent tokenIn trader pool amountIn) tokenIn trader pool amountIn :=
    movable_spent.mpr payable.pulled
  have paid : Movable ((world.spent tokenIn trader pool amountIn).moved tokenIn trader pool amountIn)
      tokenOut pool trader amountOut := (movable_pulled_of_ne (Ne.symm distinct)).mpr payable.paid
  have gives := wealth_moved traders pulled
  have receives := wealth_moved traders paid
  rw [if_pos member, if_neg outside, wealth_spent] at gives
  rw [if_neg outside, if_pos member, wealth_moved_of_ne (Ne.symm distinct), wealth_spent] at receives
  constructor
  · rw [exchanged, wealth_emit, wealth_moved_of_ne distinct]
    exact gives
  · rw [exchanged, wealth_emit]
    exact receives

end Swap

/-- The group and the pool hold together, of both of the pool's tokens, what they held. -/
structure Closed (traders : Finset Address) (pool : Address) (code : DexCode) (before after : World) :
    Prop where
  sameA : wealth after code.tokenA traders + (after.dex pool).reserveA.toNat =
    wealth before code.tokenA traders + (before.dex pool).reserveA.toNat
  sameB : wealth after code.tokenB traders + (after.dex pool).reserveB.toNat =
    wealth before code.tokenB traders + (before.dex pool).reserveB.toNat

namespace Closed

variable {first second third : World}

theorem refl : Closed traders pool code world world := ⟨rfl, rfl⟩

theorem trans (before : Closed traders pool code first second)
    (after : Closed traders pool code second third) : Closed traders pool code first third :=
  ⟨after.sameA.trans before.sameA, after.sameB.trans before.sameB⟩

/-- What stays among the members, away from the reserves. -/
theorem within (sameReserves : second.dex = first.dex)
    (sameWealth : ∀ token, wealth second token traders = wealth first token traders) :
    Closed traders pool code first second where
  sameA := by rw [sameReserves, sameWealth]
  sameB := by rw [sameReserves, sameWealth]

theorem swappedAForB {trader : Address} (member : trader ∈ traders) (outside : pool ∉ traders)
    (quoted : Quoted amountIn minAmountOut (world.dex pool).reserveA (world.dex pool).reserveB)
    (payable : Payable world pool trader code.tokenA code.tokenB amountIn (outAForB world pool amountIn)) :
    Closed traders pool code world (swappedAForB world pool trader code amountIn) := by
  obtain ⟨gives, receives⟩ := wealth_exchanged member outside code.distinct payable
  have covered : (outAForB world pool amountIn).toNat < (world.dex pool).reserveB.toNat :=
    quoted.payout_lt
  constructor
  · rw [ContractProofs.swappedAForB, wealth_setDex, setDex_dex_self, toNat_add_exact quoted.reserve_fits]
    omega
  · rw [ContractProofs.swappedAForB, wealth_setDex, setDex_dex_self, toNat_sub_exact covered.le]
    omega

theorem swappedBForA {trader : Address} (member : trader ∈ traders) (outside : pool ∉ traders)
    (quoted : Quoted amountIn minAmountOut (world.dex pool).reserveB (world.dex pool).reserveA)
    (payable : Payable world pool trader code.tokenB code.tokenA amountIn (outBForA world pool amountIn)) :
    Closed traders pool code world (swappedBForA world pool trader code amountIn) := by
  obtain ⟨gives, receives⟩ := wealth_exchanged member outside (Ne.symm code.distinct) payable
  have covered : (outBForA world pool amountIn).toNat < (world.dex pool).reserveA.toNat :=
    quoted.payout_lt
  constructor
  · rw [ContractProofs.swappedBForA, wealth_setDex, setDex_dex_self, toNat_sub_exact covered.le]
    omega
  · rw [ContractProofs.swappedBForA, wealth_setDex, setDex_dex_self, toNat_add_exact quoted.reserve_fits]
    omega

theorem seeded {trader : Address} {amountA amountB : Uint256} (member : trader ∈ traders)
    (outside : pool ∉ traders) (movableA : Movable world code.tokenA trader pool amountA)
    (movableB : Movable (deposited world code.tokenA trader pool amountA) code.tokenB trader pool amountB)
    (fitsA : (world.dex pool).reserveA.toNat + amountA.toNat < 2 ^ 256)
    (fitsB : (world.dex pool).reserveB.toNat + amountB.toNat < 2 ^ 256) :
    Closed traders pool code world (seeded world pool trader code amountA amountB) := by
  have givesA := wealth_deposited member outside movableA
  have givesB := wealth_deposited member outside movableB
  rw [wealth_deposited_of_ne (Ne.symm code.distinct)] at givesB
  constructor
  · rw [ContractProofs.seeded, wealth_emit, wealth_setDex, wealth_deposited_of_ne code.distinct,
      emit_dex, setDex_dex_self, toNat_add_exact fitsA]
    omega
  · rw [ContractProofs.seeded, wealth_emit, wealth_setDex, emit_dex, setDex_dex_self,
      toNat_add_exact fitsB]
    omega

end Closed

end DexKnight.ClosedTrades
