import DexKnight.ContractProofs

/-! Who holds what after a contract call, over natural numbers. A movement adds
to one account and takes from one account; everything the executor and the pools
do to the ledger is a composition of movements, so these equations settle every
question about balances without opening a contract. -/
namespace DexKnight.LedgerProofs
open Core.Types Core.Contracts Support.CheckedWord ContractProofs

/-- What an account holds of a token. -/
def held (world : World) (token account : Address) : Nat :=
  ((world.erc20 token).balanceOf account).toNat

/-- What an owner lets a spender take. -/
def allowed (world : World) (token owner spender : Address) : Nat :=
  ((world.erc20 token).allowance owner spender).toNat

variable {world : World} {token token' source recipient owner spender account : Address}
  {amount : Uint256}

/-- The amount a party to a movement gives or receives. -/
def share (party account : Address) (amount : Uint256) : Nat :=
  if account = party then amount.toNat else 0

@[simp] theorem share_self : share account account amount = amount.toNat := by simp [share]

theorem share_of_ne {party : Address} (other : account ≠ party) : share party account amount = 0 := by
  simp [share, other]

private theorem moveBalance_toNat {balances : Address → Uint256}
    (covered : amount.toNat ≤ (balances source).toNat)
    (fits : source ≠ recipient → (balances recipient).toNat + amount.toNat < 2 ^ 256) :
    (moveBalance balances source recipient amount account).toNat =
      (balances account).toNat + share recipient account amount - share source account amount := by
  unfold moveBalance
  by_cases paysItself : source = recipient
  · subst recipient
    have bound := (balances source).isLt
    by_cases party : account = source
    · subst account
      simp only [Function.update_self, share_self]
      rw [toNat_add_exact (by rw [toNat_sub_exact covered]; omega), toNat_sub_exact covered]
      omega
    · simp [Function.update_of_ne party, share_of_ne party]
  · have credited := fits paysItself
    by_cases receives : account = recipient
    · subst account
      have notSource : recipient ≠ source := Ne.symm paysItself
      simp only [Function.update_self, Function.update_of_ne notSource, share_self,
        share_of_ne notSource]
      rw [toNat_add_exact credited, Nat.sub_zero]
    · by_cases gives : account = source
      · subst account
        simp only [Function.update_of_ne receives, Function.update_self, share_self,
          share_of_ne receives, toNat_sub_exact covered, Nat.add_zero]
      · simp [Function.update_of_ne receives, Function.update_of_ne gives, share_of_ne receives,
          share_of_ne gives]

/-- A movement adds to its recipient and takes from its source. -/
theorem held_moved (movable : Movable world token source recipient amount) :
    held (world.moved token source recipient amount) token account =
      held world token account + share recipient account amount - share source account amount := by
  unfold held
  rw [moved_balanceOf]
  exact moveBalance_toNat movable.2.1 movable.2.2

theorem held_moved_of_ne (other : token' ≠ token) :
    held (world.moved token source recipient amount) token' account = held world token' account := by
  rw [held, moved_erc20_of_ne other, held]

@[simp] theorem held_approved :
    held (world.approved token owner spender amount) token' account = held world token' account := by
  simp [held]

@[simp] theorem held_spent :
    held (world.spent token owner spender amount) token' account = held world token' account := by
  simp [held]

@[simp] theorem held_emit {event : Event} :
    held (world.emit event) token account = held world token account := rfl

@[simp] theorem held_setDex {pool : Address} {storage : DexStorage} :
    held (world.setDex pool storage) token account = held world token account := rfl

/-! ## Allowances -/

@[simp] theorem allowed_moved :
    allowed (world.moved token source recipient amount) token' owner spender =
      allowed world token' owner spender := by
  simp [allowed]

@[simp] theorem allowed_emit {event : Event} :
    allowed (world.emit event) token owner spender = allowed world token owner spender := rfl

@[simp] theorem allowed_setDex {pool : Address} {storage : DexStorage} :
    allowed (world.setDex pool storage) token owner spender = allowed world token owner spender := rfl

theorem allowed_approved {o s : Address} :
    allowed (world.approved token owner spender amount) token' o s =
      if token' = token ∧ o = owner ∧ s = spender then amount.toNat
      else allowed world token' o s := by
  unfold allowed
  rw [approved_allowance]
  split <;> rfl

/-- Nobody else's allowance is touched when an allowance is spent. -/
theorem allowed_spent_of_owner_ne {o s : Address} (other : o ≠ owner) :
    allowed (world.spent token owner spender amount) token' o s = allowed world token' o s := by
  unfold World.spent
  split
  · rfl
  · simp [allowed_approved, other]

/-- Spending a finite allowance takes exactly the amount off it. -/
theorem allowed_spent (finite : allowed world token owner spender < 2 ^ 256 - 1)
    (enough : amount.toNat ≤ allowed world token owner spender) :
    allowed (world.spent token owner spender amount) token' owner spender =
      if token' = token then allowed world token owner spender - amount.toNat
      else allowed world token' owner spender := by
  have notInfinite : (world.erc20 token).allowance owner spender ≠ maxUint256 := by
    intro infinite
    rw [allowed, infinite] at finite
    simp [maxUint256] at finite
  simp only [World.spent, notInfinite, ↓reduceIte, allowed_approved, and_true]
  split
  · exact toNat_sub_exact enough
  · rfl

/-- Spending one spender's allowance leaves the owner's other spenders alone. -/
theorem allowed_spent_of_spender_ne {s : Address} (other : s ≠ spender) :
    allowed (world.spent token owner spender amount) token' owner s = allowed world token' owner s := by
  unfold World.spent
  split
  · rfl
  · simp [allowed_approved, other]

/-! ## Swaps -/

variable {pool trader tokenIn tokenOut : Address} {amountIn amountOut : Uint256}

/-- The trader pays the input and receives the output; the pool does the reverse. -/
theorem held_exchanged (account : Address) (distinct : tokenIn ≠ tokenOut)
    (payable : Payable world pool trader tokenIn tokenOut amountIn amountOut) :
    held (exchanged world pool trader tokenIn tokenOut amountIn amountOut) tokenIn account =
        held world tokenIn account + share pool account amountIn - share trader account amountIn ∧
      held (exchanged world pool trader tokenIn tokenOut amountIn amountOut) tokenOut account =
        held world tokenOut account + share trader account amountOut - share pool account amountOut := by
  have pulled : Movable (world.spent tokenIn trader pool amountIn) tokenIn trader pool amountIn :=
    movable_spent.mpr payable.pulled
  have paid : Movable ((world.spent tokenIn trader pool amountIn).moved tokenIn trader pool amountIn)
      tokenOut pool trader amountOut := (movable_pulled_of_ne (Ne.symm distinct)).mpr payable.paid
  constructor
  · rw [exchanged, held_emit, held_moved_of_ne distinct, held_moved pulled, held_spent]
  · rw [exchanged, held_emit, held_moved paid, held_moved_of_ne (Ne.symm distinct), held_spent]

theorem held_exchanged_of_ne (notIn : token ≠ tokenIn) (notOut : token ≠ tokenOut) :
    held (exchanged world pool trader tokenIn tokenOut amountIn amountOut) token account =
      held world token account := by
  rw [exchanged, held_emit, held_moved_of_ne notOut, held_moved_of_ne notIn, held_spent]

theorem allowed_exchanged {o s : Address} :
    allowed (exchanged world pool trader tokenIn tokenOut amountIn amountOut) token o s =
      allowed (world.spent tokenIn trader pool amountIn) token o s := by
  simp [exchanged]

/-! ## One successful backrun -/

variable {executor operator buyPool sellPool : Address}
  {amountInB minAmountOutA minAmountOutB minProfitB : Uint256} {code : DexCode}

/-- An executor is nobody who signs, and not the zero address either. -/
theorem executor_ne_codeless (codeless : world.code account = none)
    (operated : world.operator executor = some operator) : executor ≠ account := by
  rintro rfl
  rw [World.operator, codeless] at operated
  cases operated

theorem pool_ne_codeless {pool : Address} (codeless : world.code account = none)
    (pooled : world.dexCode pool = some code) : pool ≠ account := by
  rintro rfl
  rw [World.dexCode, codeless] at pooled
  cases pooled

theorem not_pool_of_operator (operated : world.operator executor = some operator)
    (pooled : world.dexCode account = some code) : executor ≠ account := by
  rintro rfl
  unfold World.operator at operated
  unfold World.dexCode at pooled
  split at operated <;> simp_all

section Backrun

variable (legs : BackrunLegs world executor buyPool sellPool code amountInB minAmountOutA minAmountOutB)
include legs

/-- Ledger entries after the first leg. -/
theorem held_bought (account : Address) :
    held (bought world executor buyPool code amountInB) code.tokenB account =
        held world code.tokenB account + share buyPool account amountInB
          - share executor account amountInB ∧
      held (bought world executor buyPool code amountInB) code.tokenA account =
        held world code.tokenA account + share executor account (outBForA world buyPool amountInB)
          - share buyPool account (outBForA world buyPool amountInB) := by
  have entries := held_exchanged account (Ne.symm code.distinct) legs.buyPayable
  simp only [held_approved] at entries
  exact entries

/-- Ledger entries after the second leg. -/
theorem held_sold (account : Address) :
    held (sold world executor buyPool sellPool code amountInB) code.tokenA account =
        held (bought world executor buyPool code amountInB) code.tokenA account
          + share sellPool account (outBForA world buyPool amountInB)
          - share executor account (outBForA world buyPool amountInB) ∧
      held (sold world executor buyPool sellPool code amountInB) code.tokenB account =
        held (bought world executor buyPool code amountInB) code.tokenB account
          + share executor account (routeOut world buyPool sellPool amountInB)
          - share sellPool account (routeOut world buyPool sellPool amountInB) := by
  have entries := held_exchanged account code.distinct legs.sellPayable
  rw [sold, swappedAForB, sold_out_of_ne legs.poolsDiffer, held_setDex, held_setDex]
  have before (token : Address) :
      held (readyToSell world executor buyPool sellPool code amountInB) token account =
        held (bought world executor buyPool code amountInB) token account := held_approved
  rw [before, before] at entries
  exact entries

/-- What one accepted backrun does to the executor's own funds. -/
theorem executor_funds (notBuy : executor ≠ buyPool) (notSell : executor ≠ sellPool) :
    held (sold world executor buyPool sellPool code amountInB) code.tokenB executor + amountInB.toNat =
        held world code.tokenB executor + (routeOut world buyPool sellPool amountInB).toNat ∧
      held (sold world executor buyPool sellPool code amountInB) code.tokenA executor =
        held world code.tokenA executor := by
  obtain ⟨boughtB, boughtA⟩ := held_bought legs executor
  obtain ⟨soldA, soldB⟩ := held_sold legs executor
  have covered : amountInB.toNat ≤ held world code.tokenB executor := legs.covered
  rw [share_self, share_of_ne notBuy] at boughtA boughtB
  rw [share_self, share_of_ne notSell] at soldA soldB
  constructor
  · rw [soldB, boughtB]
    omega
  · rw [soldA, boughtA]
    omega

end Backrun

/-- A token outside the pair is not moved at all. -/
theorem held_sold_of_ne (notA : token ≠ code.tokenA) (notB : token ≠ code.tokenB) :
    held (sold world executor buyPool sellPool code amountInB) token account =
      held world token account := by
  simp only [sold, swappedAForB, held_setDex, held_exchanged_of_ne notA notB, readyToSell,
    held_approved, bought, swappedBForA, held_exchanged_of_ne notB notA]

end DexKnight.LedgerProofs
