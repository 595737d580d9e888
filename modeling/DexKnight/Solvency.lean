import Mathlib.Algebra.BigOperators.Group.Finset.Piecewise
import Mathlib.Algebra.Order.BigOperators.Group.Finset
import Mathlib.Data.FinEnum
import DexKnight.LedgerProofs

/-! Conservation and solvency, one ledger operation at a time. A token is conserved
when its balances add up to its supply; then no credit can overflow. A pool is
solvent when it holds at least the reserves it quotes from; then it can always pay
what it quoted. Both survive every movement and every swap. -/
namespace DexKnight.Solvency
open Core.Types Core.Contracts Support.CheckedWord ContractProofs LedgerProofs

variable {world : World} {token token' source recipient owner spender account : Address}
  {amount : Uint256}

/-! ## Conservation -/

/-- Everything that circulates of a token. -/
def circulating (world : World) (token : Address) : Nat := ∑ account, held world token account

/-- The balances of a token add up to its supply. -/
def Conserved (world : World) (token : Address) : Prop :=
  circulating world token = (world.erc20 token).totalSupply.toNat

private theorem sum_share (party : Address) (amount : Uint256) :
    ∑ account, share party account amount = amount.toNat := by
  simp [share]

/-- A movement takes from the sum what it adds to it. -/
theorem circulating_moved (movable : Movable world token source recipient amount) :
    circulating (world.moved token source recipient amount) token = circulating world token := by
  have entry (account : Address) :
      held (world.moved token source recipient amount) token account + share source account amount =
        held world token account + share recipient account amount := by
    rw [held_moved movable]
    have covered : amount.toNat ≤ held world token source := movable.2.1
    by_cases gives : account = source
    · subst account
      rw [share_self]
      omega
    · rw [share_of_ne gives]
      omega
  have total : ∑ account, (held (world.moved token source recipient amount) token account +
        share source account amount) =
      ∑ account, (held world token account + share recipient account amount) :=
    Finset.sum_congr rfl fun account _ => entry account
  rw [Finset.sum_add_distrib, Finset.sum_add_distrib, sum_share, sum_share] at total
  exact Nat.add_right_cancel total

@[simp] theorem moved_totalSupply :
    ((world.moved token source recipient amount).erc20 token').totalSupply =
      (world.erc20 token').totalSupply := by
  by_cases same : token' = token
  · subst token'
    simp [World.moved]
  · rw [moved_erc20_of_ne same]

@[simp] theorem approved_totalSupply :
    ((world.approved token owner spender amount).erc20 token').totalSupply =
      (world.erc20 token').totalSupply := by
  by_cases same : token' = token
  · subst token'
    simp [World.approved]
  · simp [World.approved, World.setErc20, World.emit, Function.update_of_ne same]

@[simp] theorem spent_totalSupply :
    ((world.spent token owner spender amount).erc20 token').totalSupply =
      (world.erc20 token').totalSupply := by
  unfold World.spent
  split
  · rfl
  · exact approved_totalSupply

theorem Conserved.moved (conserved : Conserved world token')
    (movable : Movable world token source recipient amount) :
    Conserved (world.moved token source recipient amount) token' := by
  rw [Conserved, moved_totalSupply]
  by_cases same : token' = token
  · subst token'
    rw [circulating_moved movable]
    exact conserved
  · rw [← conserved, circulating, circulating]
    exact Finset.sum_congr rfl fun _ _ => held_moved_of_ne same

theorem Conserved.approved (conserved : Conserved world token') :
    Conserved (world.approved token owner spender amount) token' := by
  rw [Conserved, approved_totalSupply, ← conserved, circulating, circulating]
  exact Finset.sum_congr rfl fun _ _ => held_approved

theorem Conserved.spent (conserved : Conserved world token') :
    Conserved (world.spent token owner spender amount) token' := by
  rw [Conserved, spent_totalSupply, ← conserved, circulating, circulating]
  exact Finset.sum_congr rfl fun _ _ => held_spent

theorem Conserved.emit (conserved : Conserved world token) {event : Event} :
    Conserved (world.emit event) token := conserved

theorem Conserved.setDex (conserved : Conserved world token) {pool : Address}
    {storage : DexStorage} : Conserved (world.setDex pool storage) token := conserved

/-- Two accounts never hold more than one word between them. -/
theorem Conserved.pair_lt (conserved : Conserved world token) (differ : source ≠ recipient) :
    held world token source + held world token recipient < 2 ^ 256 := by
  have pair : ∑ account ∈ {source, recipient}, held world token account ≤
      ∑ account, held world token account :=
    Finset.sum_le_sum_of_subset (Finset.subset_univ _)
  rw [Finset.sum_pair differ] at pair
  refine Nat.lt_of_le_of_lt pair ?_
  change circulating world token < 2 ^ 256
  rw [conserved]
  exact BitVec.isLt _

/-- On a conserved ledger a movement needs only the balance it takes. -/
theorem Conserved.movable (conserved : Conserved world token) (nonzero : recipient ≠ 0)
    (covered : amount.toNat ≤ held world token source) :
    Movable world token source recipient amount := by
  refine ⟨nonzero, covered, fun differ => ?_⟩
  have bound := conserved.pair_lt differ
  change held world token recipient + amount.toNat < 2 ^ 256
  omega

variable {pool other trader tokenIn tokenOut : Address} {amountIn amountOut minAmountOut : Uint256}
  {code : DexCode}

theorem Conserved.exchanged (conserved : Conserved world token) (distinct : tokenIn ≠ tokenOut)
    (payable : Payable world pool trader tokenIn tokenOut amountIn amountOut) :
    Conserved (exchanged world pool trader tokenIn tokenOut amountIn amountOut) token := by
  have pulled : Movable (world.spent tokenIn trader pool amountIn) tokenIn trader pool amountIn :=
    movable_spent.mpr payable.pulled
  have paid : Movable ((world.spent tokenIn trader pool amountIn).moved tokenIn trader pool amountIn)
      tokenOut pool trader amountOut := (movable_pulled_of_ne (Ne.symm distinct)).mpr payable.paid
  exact ((conserved.spent.moved pulled).moved paid).emit

/-! ## Solvency -/

/-- A pool holds what it quotes from. -/
structure Solvent (world : World) (pool : Address) (code : DexCode) : Prop where
  coversA : (world.dex pool).reserveA.toNat ≤ held world code.tokenA pool
  coversB : (world.dex pool).reserveB.toNat ≤ held world code.tokenB pool

theorem Solvent.approved (solvent : Solvent world pool code) :
    Solvent (world.approved token owner spender amount) pool code := by
  refine ⟨?_, ?_⟩
  · rw [held_approved]
    exact solvent.coversA
  · rw [held_approved]
    exact solvent.coversB

/-- What a swap adds to a pool it adds to the matching reserve, and what it takes
out of one it takes out of the other. -/
theorem Solvent.swappedAForB (solvent : Solvent world pool code) (differ : pool ≠ trader)
    (quoted : Quoted amountIn minAmountOut (world.dex pool).reserveA (world.dex pool).reserveB)
    (payable : Payable world pool trader code.tokenA code.tokenB amountIn
      (outAForB world pool amountIn)) :
    Solvent (swappedAForB world pool trader code amountIn) pool code := by
  obtain ⟨onA, onB⟩ := held_exchanged pool code.distinct payable
  rw [share_self, share_of_ne differ] at onA onB
  obtain ⟨coversA, coversB⟩ := solvent
  have grows := quoted.reserve_fits
  have pays : (outAForB world pool amountIn).toNat < (world.dex pool).reserveB.toNat :=
    quoted.payout_lt
  constructor
  · rw [ContractProofs.swappedAForB, setDex_dex_self, held_setDex, onA, toNat_add_exact grows]
    omega
  · rw [ContractProofs.swappedAForB, setDex_dex_self, held_setDex, onB, toNat_sub_exact pays.le]
    omega

theorem Solvent.swappedBForA (solvent : Solvent world pool code) (differ : pool ≠ trader)
    (quoted : Quoted amountIn minAmountOut (world.dex pool).reserveB (world.dex pool).reserveA)
    (payable : Payable world pool trader code.tokenB code.tokenA amountIn
      (outBForA world pool amountIn)) :
    Solvent (swappedBForA world pool trader code amountIn) pool code := by
  obtain ⟨onB, onA⟩ := held_exchanged pool (Ne.symm code.distinct) payable
  rw [share_self, share_of_ne differ] at onA onB
  obtain ⟨coversA, coversB⟩ := solvent
  have grows := quoted.reserve_fits
  have pays : (outBForA world pool amountIn).toNat < (world.dex pool).reserveA.toNat :=
    quoted.payout_lt
  constructor
  · rw [ContractProofs.swappedBForA, setDex_dex_self, held_setDex, onA, toNat_sub_exact pays.le]
    omega
  · rw [ContractProofs.swappedBForA, setDex_dex_self, held_setDex, onB, toNat_add_exact grows]
    omega

/-- A swap does not touch the holdings of a third party. -/
private theorem held_exchanged_bystander (distinct : tokenIn ≠ tokenOut) (notPool : other ≠ pool)
    (notTrader : other ≠ trader)
    (payable : Payable world pool trader tokenIn tokenOut amountIn amountOut) :
    held (exchanged world pool trader tokenIn tokenOut amountIn amountOut) token other =
      held world token other := by
  obtain ⟨onIn, onOut⟩ := held_exchanged other distinct payable
  rw [share_of_ne notPool, share_of_ne notTrader] at onIn onOut
  by_cases isIn : token = tokenIn
  · subst token
    omega
  · by_cases isOut : token = tokenOut
    · subst token
      omega
    · exact held_exchanged_of_ne isIn isOut

/-- Another pool is as solvent after a swap as it was before it. -/
theorem Solvent.bystander {code' : DexCode} {storage : DexStorage}
    (solvent : Solvent world other code')
    (distinct : tokenIn ≠ tokenOut) (notPool : other ≠ pool) (notTrader : other ≠ trader)
    (payable : Payable world pool trader tokenIn tokenOut amountIn amountOut) :
    Solvent ((exchanged world pool trader tokenIn tokenOut amountIn amountOut).setDex pool storage)
      other code' := by
  have kept : ((exchanged world pool trader tokenIn tokenOut amountIn amountOut).setDex pool
      storage).dex other = world.dex other := by
    simp [World.setDex, Function.update_of_ne notPool]
  obtain ⟨coversA, coversB⟩ := solvent
  constructor
  · rw [kept, held_setDex, held_exchanged_bystander distinct notPool notTrader payable]
    exact coversA
  · rw [kept, held_setDex, held_exchanged_bystander distinct notPool notTrader payable]
    exact coversB

end DexKnight.Solvency
