import DexKnight.Core.Contracts
import DexKnight.Support.ConstantProduct

/-! What a completed call of the sandbox contracts did. Every lemma is an
equivalence: the left side runs the contract, the right side lists its guards
over exact numbers and the one state it can leave. Callers never unfold a
contract again. -/
namespace DexKnight.ContractProofs
open Core.Types Core.Contracts Support.CheckedWord Support.Reverting Support.ConstantProduct

/-- The pools' fee over exact numbers. -/
def sandboxFee : Fee := ⟨997, 1000, by decide, by decide⟩

/-! ## Ledger operations -/

/-- Balances after a debit followed by a credit, in that order. -/
def moveBalance (balances : Address → Uint256) (source recipient : Address) (amount : Uint256) :
    Address → Uint256 :=
  let debited := Function.update balances source (balances source - amount)
  Function.update debited recipient (debited recipient + amount)

/-- The ledger accepts this movement: the only arithmetic that can fail is the
credit of another account. -/
def Movable (world : World) (token source recipient : Address) (amount : Uint256) : Prop :=
  recipient ≠ 0 ∧ amount.toNat ≤ ((world.erc20 token).balanceOf source).toNat ∧
    (source ≠ recipient → ((world.erc20 token).balanceOf recipient).toNat + amount.toNat < 2 ^ 256)

end DexKnight.ContractProofs

namespace DexKnight.Core.Contracts.World
open Core.Types ContractProofs

/-- The state after a token movement. -/
def moved (world : World) (token source recipient : Address) (amount : Uint256) : World :=
  (world.setErc20 token { world.erc20 token with
    balanceOf := moveBalance (world.erc20 token).balanceOf source recipient amount }).emit
      (.transfer token source recipient amount)

/-- The state after setting an allowance. -/
def approved (world : World) (token owner spender : Address) (amount : Uint256) : World :=
  (world.setErc20 token { world.erc20 token with
    allowance := Function.update (world.erc20 token).allowance owner
      (Function.update ((world.erc20 token).allowance owner) spender amount) }).emit
        (.approval token owner spender amount)

/-- The state after an allowance paid for a movement; an infinite one is kept. -/
def spent (world : World) (token owner spender : Address) (amount : Uint256) : World :=
  if (world.erc20 token).allowance owner spender = maxUint256 then world
  else world.approved token owner spender ((world.erc20 token).allowance owner spender - amount)

end DexKnight.Core.Contracts.World

namespace DexKnight.ContractProofs
open Core.Types Core.Contracts Support.CheckedWord Support.Reverting Support.ConstantProduct

variable {world : World} {self sender token token' source recipient owner spender account : Address}
  {amount : Uint256}

/-! Fields of the states above. -/

@[simp] theorem moved_code : (world.moved token source recipient amount).code = world.code := rfl
@[simp] theorem moved_dex : (world.moved token source recipient amount).dex = world.dex := rfl
@[simp] theorem approved_code : (world.approved token owner spender amount).code = world.code := rfl
@[simp] theorem approved_dex : (world.approved token owner spender amount).dex = world.dex := rfl
@[simp] theorem emit_code {event : Event} : (world.emit event).code = world.code := rfl
@[simp] theorem emit_dex {event : Event} : (world.emit event).dex = world.dex := rfl
@[simp] theorem emit_erc20 {event : Event} : (world.emit event).erc20 = world.erc20 := rfl
@[simp] theorem setDex_code {storage : DexStorage} :
    (world.setDex self storage).code = world.code := rfl
@[simp] theorem setDex_erc20 {storage : DexStorage} :
    (world.setDex self storage).erc20 = world.erc20 := rfl
@[simp] theorem setErc20_code {storage : Erc20Storage} :
    (world.setErc20 token storage).code = world.code := rfl
@[simp] theorem setErc20_dex {storage : Erc20Storage} :
    (world.setErc20 token storage).dex = world.dex := rfl

@[simp] theorem setErc20_erc20_self {storage : Erc20Storage} :
    (world.setErc20 token storage).erc20 token = storage := Function.update_self ..
@[simp] theorem setErc20_setErc20 {first second : Erc20Storage} :
    (world.setErc20 token first).setErc20 token second = world.setErc20 token second := by
  simp [World.setErc20]
@[simp] theorem setDex_dex_self {storage : DexStorage} :
    (world.setDex self storage).dex self = storage := Function.update_self ..
@[simp] theorem setDex_setDex {first second : DexStorage} :
    (world.setDex self first).setDex self second = world.setDex self second := by
  simp [World.setDex]

@[simp] theorem spent_code : (world.spent token owner spender amount).code = world.code := by
  unfold World.spent
  split <;> rfl

@[simp] theorem spent_dex : (world.spent token owner spender amount).dex = world.dex := by
  unfold World.spent
  split <;> rfl

theorem moved_erc20_of_ne (other : token' ≠ token) :
    (world.moved token source recipient amount).erc20 token' = world.erc20 token' :=
  Function.update_of_ne other _ _

@[simp] theorem moved_balanceOf :
    ((world.moved token source recipient amount).erc20 token).balanceOf =
      moveBalance (world.erc20 token).balanceOf source recipient amount := by
  simp [World.moved, World.setErc20, World.emit]

@[simp] theorem moved_allowance :
    ((world.moved token source recipient amount).erc20 token').allowance =
      (world.erc20 token').allowance := by
  by_cases same : token' = token
  · subst token'
    simp [World.moved, World.setErc20, World.emit]
  · rw [moved_erc20_of_ne same]

@[simp] theorem approved_balanceOf :
    ((world.approved token owner spender amount).erc20 token').balanceOf =
      (world.erc20 token').balanceOf := by
  by_cases same : token' = token
  · subst token'
    simp [World.approved, World.setErc20, World.emit]
  · simp [World.approved, World.setErc20, World.emit, Function.update_of_ne same]

@[simp] theorem spent_balanceOf :
    ((world.spent token owner spender amount).erc20 token').balanceOf =
      (world.erc20 token').balanceOf := by
  unfold World.spent
  split
  · rfl
  · exact approved_balanceOf

theorem approved_allowance {o s : Address} :
    ((world.approved token owner spender amount).erc20 token').allowance o s =
      if token' = token ∧ o = owner ∧ s = spender then amount
      else (world.erc20 token').allowance o s := by
  simp only [World.approved, World.setErc20, World.emit, Function.update_apply]
  by_cases sameToken : token' = token <;> by_cases sameOwner : o = owner <;>
    by_cases sameSpender : s = spender <;> simp_all

/-! ## `SandboxERC20` -/

private theorem credit_fits_iff {balances : Address → Uint256}
    (covered : amount.toNat ≤ (balances source).toNat) :
    (Function.update balances source (balances source - amount) recipient).toNat + amount.toNat
        < 2 ^ 256 ↔
      (source ≠ recipient → (balances recipient).toNat + amount.toNat < 2 ^ 256) := by
  by_cases same : source = recipient
  · subst recipient
    have bound := (balances source).isLt
    simp only [Function.update_self, toNat_sub_exact covered, ne_eq, not_true_eq_false,
      false_implies, iff_true]
    omega
  · simp [Function.update_of_ne (Ne.symm same), same]

/-- A transfer completes exactly when the ledger accepts the movement. -/
theorem transferInternal_settles : Settles
    (SandboxERC20.transferInternal self source recipient amount) world
    (Movable world self source recipient amount) ()
    (world.moved self source recipient amount) := by
  intro r
  unfold SandboxERC20.transferInternal SandboxERC20.setBalance emit checked Movable
  simp only [require_bind_completes, get_bind_run, demand_bind_completes,
    modify_bind_run, modify_completes, subChecked_eq_some, addChecked_eq_some, ge_iff_le,
    BitVec.le_def, setErc20_erc20_self, setErc20_setErc20]
  constructor
  · rintro ⟨nonzero, covered, _, ⟨_, rfl⟩, _, ⟨fits, rfl⟩, rfl⟩
    exact ⟨⟨nonzero, covered, (credit_fits_iff covered).mp fits⟩, rfl⟩
  · rintro ⟨⟨nonzero, covered, fits⟩, rfl⟩
    exact ⟨nonzero, covered, _, ⟨covered, rfl⟩, _, ⟨(credit_fits_iff covered).mpr fits, rfl⟩, rfl⟩

theorem transfer_settles : Settles (SandboxERC20.transfer self sender recipient amount) world
    ((world.minter self).isSome ∧ Movable world self sender recipient amount) true
    (world.moved self sender recipient amount) := by
  intro r
  unfold SandboxERC20.transfer SandboxERC20.enter
  simp only [bind_bind_run, get_bind_run, demand_bind_completes,
    transferInternal_settles.bind_completes, pure_completes, Option.isSome_iff_exists,
    exists_and_right, and_assoc]

theorem approve_settles : Settles (SandboxERC20.approve self sender spender amount) world
    (world.minter self).isSome true (world.approved self sender spender amount) := by
  intro r
  unfold SandboxERC20.approve SandboxERC20.enter SandboxERC20.setAllowance emit
  simp only [bind_bind_run, get_bind_run, demand_bind_completes, modify_bind_run, pure_completes,
    Option.isSome_iff_exists, exists_and_right]
  rfl

theorem movable_spent {payer : Address} {paid : Uint256} :
    Movable (world.spent token owner spender paid) token payer recipient amount ↔
      Movable world token payer recipient amount := by
  simp [Movable]

/-- Pulling tokens needs the allowance and the movement; what it leaves is the
movement on top of the spent allowance. -/
theorem transferFrom_settles : Settles
    (SandboxERC20.transferFrom self sender source recipient amount) world
    ((world.minter self).isSome ∧
      amount.toNat ≤ ((world.erc20 self).allowance source sender).toNat ∧
      Movable world self source recipient amount) true
    ((world.spent self source sender amount).moved self source recipient amount) := by
  intro r
  unfold SandboxERC20.transferFrom SandboxERC20.enter SandboxERC20.setAllowance emit checked
  simp only [bind_bind_run, get_bind_run, demand_bind_completes, require_bind_completes,
    Option.isSome_iff_exists, exists_and_right, ge_iff_le, BitVec.le_def, and_assoc]
  refine and_congr_right fun _ => and_congr_right fun allowed => ?_
  by_cases infinite : (world.erc20 self).allowance source sender = maxUint256
  · have kept : world.spent self source sender amount = world := by simp [World.spent, infinite]
    simp only [infinite, ne_eq, not_true_eq_false, ↓reduceIte,
      transferInternal_settles.bind_completes, pure_completes, kept]
  · have paid : world.spent self source sender amount =
        world.approved self source sender ((world.erc20 self).allowance source sender - amount) := by
      simp [World.spent, infinite]
    have funded : Movable world self source recipient amount ↔
        Movable (world.spent self source sender amount) self source recipient amount :=
      movable_spent.symm
    rw [funded, paid]
    simp only [infinite, ne_eq, not_false_eq_true, ↓reduceIte, get_bind_run, demand_bind_completes,
      modify_bind_run, subChecked_eq_some, setErc20_erc20_self, Function.update_self,
      transferInternal_settles.bind_completes, pure_completes]
    constructor
    · rintro ⟨_, ⟨_, rfl⟩, outcome⟩
      exact outcome
    · intro outcome
      exact ⟨_, ⟨allowed, rfl⟩, outcome⟩

/-- The state after issuing new tokens. -/
def minted (world : World) (token recipient : Address) (amount : Uint256) : World :=
  (world.setErc20 token { world.erc20 token with
    totalSupply := (world.erc20 token).totalSupply + amount
    balanceOf := Function.update (world.erc20 token).balanceOf recipient
      ((world.erc20 token).balanceOf recipient + amount) }).emit (.transfer token 0 recipient amount)

theorem mint_settles : Settles (SandboxERC20.mint self sender recipient amount) world
    (world.minter self = some sender ∧ recipient ≠ 0 ∧
      (world.erc20 self).totalSupply.toNat + amount.toNat < 2 ^ 256 ∧
      ((world.erc20 self).balanceOf recipient).toNat + amount.toNat < 2 ^ 256) ()
    (minted world self recipient amount) := by
  intro r
  unfold SandboxERC20.mint SandboxERC20.enter SandboxERC20.setBalance emit checked
  simp only [bind_bind_run, get_bind_run, demand_bind_completes, require_bind_completes,
    modify_bind_run, modify_completes, addChecked_eq_some, setErc20_erc20_self, setErc20_setErc20]
  constructor
  · rintro ⟨_, code, rfl, nonzero, _, ⟨supply, rfl⟩, _, ⟨fits, rfl⟩, rfl⟩
    exact ⟨⟨code, nonzero, supply, fits⟩, rfl⟩
  · rintro ⟨⟨code, nonzero, supply, fits⟩, rfl⟩
    exact ⟨_, code, rfl, nonzero, _, ⟨supply, rfl⟩, _, ⟨fits, rfl⟩, rfl⟩

/-! ## `SandboxDex` -/

/-- The contract's own formula with wrapping operators: the value of the checked
one whenever that one answers. -/
def amountOutWord (amountIn reserveIn reserveOut : Uint256) : Uint256 :=
  amountIn * SandboxDex.feeNumerator * reserveOut /
    (reserveIn * SandboxDex.feeDenominator + amountIn * SandboxDex.feeNumerator)

/-- No intermediate value of the exact quote leaves the word. -/
def QuoteFits (amountIn reserveIn reserveOut : Uint256) : Prop :=
  sandboxFee.Fits (2 ^ 256) amountIn.toNat reserveIn.toNat reserveOut.toNat

variable {pool trader tokenIn tokenOut : Address}
  {amountIn minAmountOut reserveIn reserveOut : Uint256}

private theorem feeNumerator_toNat : SandboxDex.feeNumerator.toNat = 997 := by decide
private theorem feeDenominator_toNat : SandboxDex.feeDenominator.toNat = 1000 := by decide

/-- With a stocked pool the two fitting products bound every other one. -/
private theorem fits_products (stocked : reserveOut ≠ 0)
    (fits : QuoteFits amountIn reserveIn reserveOut) :
    amountIn.toNat * 997 < 2 ^ 256 ∧ reserveIn.toNat * 1000 < 2 ^ 256 := by
  obtain ⟨product, sum⟩ := fits
  simp only [sandboxFee] at product sum
  have positive : 1 ≤ reserveOut.toNat := toNat_pos_iff.mpr stocked
  have grows : amountIn.toNat * 997 * 1 ≤ amountIn.toNat * 997 * reserveOut.toNat :=
    Nat.mul_le_mul_left _ positive
  omega

/-- The two scaled amounts of a fitting quote, as exact numbers. -/
private theorem scaled_toNat (stocked : reserveOut ≠ 0)
    (fits : QuoteFits amountIn reserveIn reserveOut) :
    (amountIn * SandboxDex.feeNumerator).toNat = amountIn.toNat * 997 ∧
      (reserveIn * SandboxDex.feeDenominator).toNat = reserveIn.toNat * 1000 := by
  obtain ⟨feeFits, reserveFits⟩ := fits_products stocked fits
  constructor
  · rw [toNat_mul_exact] <;> rw [feeNumerator_toNat]
    exact feeFits
  · rw [toNat_mul_exact] <;> rw [feeDenominator_toNat]
    exact reserveFits

/-- A fitting quote of a funded pool never divides by zero. -/
theorem QuoteFits.denominator_ne_zero (fits : QuoteFits amountIn reserveIn reserveOut)
    (funded : reserveIn ≠ 0) (stocked : reserveOut ≠ 0) :
    reserveIn * SandboxDex.feeDenominator + amountIn * SandboxDex.feeNumerator ≠ 0 := by
  obtain ⟨withFee, scaled⟩ := scaled_toNat stocked fits
  have positive := toNat_pos_iff.mpr funded
  have sum : (reserveIn * SandboxDex.feeDenominator).toNat +
      (amountIn * SandboxDex.feeNumerator).toNat < 2 ^ 256 := by
    rw [withFee, scaled]
    exact fits.2
  rw [← toNat_pos_iff, toNat_add_exact sum, scaled]
  omega

/-- A fitting quote is the exact one. -/
theorem amountOutWord_toNat (stocked : reserveOut ≠ 0)
    (fits : QuoteFits amountIn reserveIn reserveOut) :
    (amountOutWord amountIn reserveIn reserveOut).toNat =
      sandboxFee.quote amountIn.toNat reserveIn.toNat reserveOut.toNat := by
  obtain ⟨withFee, scaled⟩ := scaled_toNat stocked fits
  obtain ⟨product, sum⟩ := fits
  simp only [sandboxFee] at product sum
  rw [amountOutWord, BitVec.toNat_udiv, toNat_mul_exact (by rw [withFee]; exact product),
    toNat_add_exact (by rw [withFee, scaled]; exact sum), withFee, scaled]
  rfl

/-- The quote completes exactly on a funded pool with every product in range. -/
theorem getAmountOut_settles : Settles (SandboxDex.getAmountOut amountIn reserveIn reserveOut) world
    (amountIn ≠ 0 ∧ reserveIn ≠ 0 ∧ reserveOut ≠ 0 ∧ QuoteFits amountIn reserveIn reserveOut)
    (amountOutWord amountIn reserveIn reserveOut) world := by
  intro r
  unfold SandboxDex.getAmountOut checked
  simp only [require_bind_completes, demand_bind_completes, demand_completes, mulChecked_eq_some,
    addChecked_eq_some, divChecked_eq_some, gt_iff_lt, BitVec.lt_def, feeNumerator_toNat,
    feeDenominator_toNat, BitVec.toNat_zero, toNat_pos_iff, BitVec.ofNat_eq_ofNat]
  constructor
  · rintro ⟨given, funded, stocked, _, ⟨feeFits, rfl⟩, _, ⟨product, rfl⟩, _, ⟨reserveFits, rfl⟩,
      _, ⟨sum, rfl⟩, ⟨_, answer⟩, kept⟩
    have withFee : (amountIn * SandboxDex.feeNumerator).toNat = amountIn.toNat * 997 := by
      rw [toNat_mul_exact] <;> rw [feeNumerator_toNat]
      exact feeFits
    have scaled : (reserveIn * SandboxDex.feeDenominator).toNat = reserveIn.toNat * 1000 := by
      rw [toNat_mul_exact] <;> rw [feeDenominator_toNat]
      exact reserveFits
    rw [withFee] at product sum
    rw [scaled] at sum
    exact ⟨⟨given, funded, stocked, product, sum⟩, Prod.ext answer kept⟩
  · rintro ⟨⟨given, funded, stocked, fits⟩, rfl⟩
    obtain ⟨feeFits, reserveFits⟩ := fits_products stocked fits
    obtain ⟨withFee, scaled⟩ := scaled_toNat stocked fits
    have divisible := fits.denominator_ne_zero funded stocked
    obtain ⟨product, sum⟩ := fits
    refine ⟨given, funded, stocked, _, ⟨feeFits, rfl⟩, _, ⟨?_, rfl⟩, _, ⟨reserveFits, rfl⟩, _,
      ⟨?_, rfl⟩, ⟨?_, rfl⟩, rfl⟩
    · rw [withFee]
      exact product
    · rw [withFee, scaled]
      exact sum
    · exact (toNat_pos_iff.mpr divisible).ne'

theorem transferOut_settles : Settles (SandboxDex.transferOut pool token recipient amount) world
    ((world.minter token).isSome ∧ Movable world token pool recipient amount) ()
    (world.moved token pool recipient amount) := by
  intro r
  unfold SandboxDex.transferOut
  simp only [transfer_settles.bind_completes, require_completes, true_and]

theorem transferIn_settles : Settles (SandboxDex.transferIn pool token source recipient amount) world
    ((world.minter token).isSome ∧
      amount.toNat ≤ ((world.erc20 token).allowance source pool).toNat ∧
      Movable world token source recipient amount) ()
    ((world.spent token source pool amount).moved token source recipient amount) := by
  intro r
  unfold SandboxDex.transferIn
  simp only [transferFrom_settles.bind_completes, require_completes, true_and]

/-- What a pool asks of a swap before it lets any token move. -/
structure Quoted (amountIn minAmountOut reserveIn reserveOut : Uint256) : Prop where
  given : amountIn ≠ 0
  funded : reserveIn ≠ 0
  stocked : reserveOut ≠ 0
  fits : QuoteFits amountIn reserveIn reserveOut
  pays : amountOutWord amountIn reserveIn reserveOut ≠ 0
  slippage : minAmountOut.toNat ≤ (amountOutWord amountIn reserveIn reserveOut).toNat

/-- Both token movements of a swap go through. -/
structure Payable (world : World) (pool trader tokenIn tokenOut : Address)
    (amountIn amountOut : Uint256) : Prop where
  inCode : (world.minter tokenIn).isSome
  allowed : amountIn.toNat ≤ ((world.erc20 tokenIn).allowance trader pool).toNat
  pulled : Movable world tokenIn trader pool amountIn
  outCode : (world.minter tokenOut).isSome
  paid : Movable world tokenOut pool trader amountOut

/-- The token side of a completed swap. -/
def exchanged (world : World) (pool trader tokenIn tokenOut : Address)
    (amountIn amountOut : Uint256) : World :=
  (((world.spent tokenIn trader pool amountIn).moved tokenIn trader pool amountIn).moved
    tokenOut pool trader amountOut).emit (.swap pool trader tokenIn tokenOut amountIn amountOut)

theorem minter_of_code_eq {world' : World} (same : world'.code = world.code) :
    world'.minter token = world.minter token := by
  simp only [World.minter, same]

theorem spent_erc20_of_ne (other : token' ≠ token) :
    (world.spent token owner spender amount).erc20 token' = world.erc20 token' := by
  unfold World.spent
  split
  · rfl
  · exact Function.update_of_ne other _ _

/-- Another ledger is not touched by what was pulled from this one. -/
theorem movable_pulled_of_ne {payer payee : Address} {paid : Uint256} (other : token' ≠ token) :
    Movable ((world.spent token owner spender amount).moved token payer payee paid) token' source
        recipient amountIn ↔
      Movable world token' source recipient amountIn := by
  simp only [Movable, moved_erc20_of_ne other, spent_erc20_of_ne other]

theorem swapExactIn_settles (distinct : tokenIn ≠ tokenOut) : Settles
    (SandboxDex.swapExactIn pool trader tokenIn tokenOut amountIn minAmountOut reserveIn reserveOut)
    world
    (Quoted amountIn minAmountOut reserveIn reserveOut ∧ Payable world pool trader tokenIn tokenOut
      amountIn (amountOutWord amountIn reserveIn reserveOut))
    (amountOutWord amountIn reserveIn reserveOut)
    (exchanged world pool trader tokenIn tokenOut amountIn
      (amountOutWord amountIn reserveIn reserveOut)) := by
  intro r
  unfold SandboxDex.swapExactIn emit
  simp only [getAmountOut_settles.bind_completes, require_bind_completes,
    transferIn_settles.bind_completes, transferOut_settles.bind_completes, modify_bind_run,
    pure_completes, gt_iff_lt, ge_iff_le, BitVec.lt_def, BitVec.le_def, BitVec.toNat_zero,
    toNat_pos_iff, movable_pulled_of_ne (Ne.symm distinct), BitVec.ofNat_eq_ofNat]
  have outCode : ((world.spent tokenIn trader pool amountIn).moved tokenIn trader pool
      amountIn).minter tokenOut = world.minter tokenOut := minter_of_code_eq (by simp)
  rw [outCode]
  constructor
  · rintro ⟨⟨given, funded, stocked, fits⟩, pays, slippage, ⟨inCode, allowed, pulled⟩,
      ⟨outCode, paid⟩, rfl⟩
    exact ⟨⟨⟨given, funded, stocked, fits, pays, slippage⟩, ⟨inCode, allowed, pulled, outCode, paid⟩⟩,
      rfl⟩
  · rintro ⟨⟨⟨given, funded, stocked, fits, pays, slippage⟩,
      ⟨inCode, allowed, pulled, outCode, paid⟩⟩, rfl⟩
    exact ⟨⟨given, funded, stocked, fits⟩, pays, slippage, ⟨inCode, allowed, pulled⟩,
      ⟨outCode, paid⟩, rfl⟩

/-- A quoted output stays strictly below the reserve it is paid from. -/
theorem Quoted.payout_lt (quoted : Quoted amountIn minAmountOut reserveIn reserveOut) :
    (amountOutWord amountIn reserveIn reserveOut).toNat < reserveOut.toNat := by
  rw [amountOutWord_toNat quoted.stocked quoted.fits]
  exact quote_lt_reserve (toNat_pos_iff.mpr quoted.funded) (toNat_pos_iff.mpr quoted.stocked)

/-- The reserve that receives the input cannot overflow. -/
theorem Quoted.reserve_fits (quoted : Quoted amountIn minAmountOut reserveIn reserveOut) :
    reserveIn.toNat + amountIn.toNat < 2 ^ 256 := by
  have sum := quoted.fits.2
  simp only [sandboxFee] at sum
  omega

/-- An input that a pool quotes is never the infinite allowance: the fee product
of the largest word does not fit. -/
theorem Quoted.finite {amountIn minAmountOut reserveIn reserveOut : Uint256}
    (quoted : Quoted amountIn minAmountOut reserveIn reserveOut) : amountIn.toNat < 2 ^ 256 - 1 := by
  have sum := quoted.fits.2
  simp only [sandboxFee] at sum
  omega

@[simp] theorem exchanged_code {amountOut : Uint256} :
    (exchanged world pool trader tokenIn tokenOut amountIn amountOut).code = world.code := by
  simp [exchanged]

@[simp] theorem exchanged_dex {amountOut : Uint256} :
    (exchanged world pool trader tokenIn tokenOut amountIn amountOut).dex = world.dex := by
  simp [exchanged]

/-- What `swapExactAForB` pays for an input in this state. -/
def outAForB (world : World) (pool : Address) (amountIn : Uint256) : Uint256 :=
  amountOutWord amountIn (world.dex pool).reserveA (world.dex pool).reserveB

/-- What `swapExactBForA` pays for an input in this state. -/
def outBForA (world : World) (pool : Address) (amountIn : Uint256) : Uint256 :=
  amountOutWord amountIn (world.dex pool).reserveB (world.dex pool).reserveA

/-- The state a swap of A for B leaves: both tokens moved, and the recorded
reserves shifted by the same amounts. -/
def swappedAForB (world : World) (pool trader : Address) (code : DexCode) (amountIn : Uint256) :
    World :=
  (exchanged world pool trader code.tokenA code.tokenB amountIn (outAForB world pool amountIn)).setDex
    pool { reserveA := (world.dex pool).reserveA + amountIn
           reserveB := (world.dex pool).reserveB - outAForB world pool amountIn }

/-- The state a swap of B for A leaves. -/
def swappedBForA (world : World) (pool trader : Address) (code : DexCode) (amountIn : Uint256) :
    World :=
  (exchanged world pool trader code.tokenB code.tokenA amountIn (outBForA world pool amountIn)).setDex
    pool { reserveA := (world.dex pool).reserveA - outBForA world pool amountIn
           reserveB := (world.dex pool).reserveB + amountIn }

/-- A swap of A for B completes exactly when it is quoted and payable. -/
theorem swapExactAForB_settles {code : DexCode} (deployed : world.dexCode pool = some code) :
    Settles (SandboxDex.swapExactAForB pool trader amountIn minAmountOut) world
      (Quoted amountIn minAmountOut (world.dex pool).reserveA (world.dex pool).reserveB ∧
        Payable world pool trader code.tokenA code.tokenB amountIn (outAForB world pool amountIn))
      (outAForB world pool amountIn) (swappedAForB world pool trader code amountIn) := by
  intro r
  unfold SandboxDex.swapExactAForB SandboxDex.enter SandboxDex.setReserveA SandboxDex.setReserveB
    checked
  simp only [bind_bind_run, get_bind_run, demand_bind_completes, deployed, Option.some.injEq,
    exists_eq_left', (swapExactIn_settles code.distinct).bind_completes, modify_bind_run,
    pure_completes, addChecked_eq_some, subChecked_eq_some, exchanged_dex, setDex_dex_self,
    setDex_setDex]
  constructor
  · rintro ⟨accepted, _, ⟨_, rfl⟩, _, ⟨_, rfl⟩, rfl⟩
    exact ⟨accepted, rfl⟩
  · rintro ⟨⟨quoted, payable⟩, rfl⟩
    exact ⟨⟨quoted, payable⟩, _, ⟨quoted.reserve_fits, rfl⟩, _, ⟨quoted.payout_lt.le, rfl⟩, rfl⟩

/-- A swap of B for A completes exactly when it is quoted and payable. -/
theorem swapExactBForA_settles {code : DexCode} (deployed : world.dexCode pool = some code) :
    Settles (SandboxDex.swapExactBForA pool trader amountIn minAmountOut) world
      (Quoted amountIn minAmountOut (world.dex pool).reserveB (world.dex pool).reserveA ∧
        Payable world pool trader code.tokenB code.tokenA amountIn (outBForA world pool amountIn))
      (outBForA world pool amountIn) (swappedBForA world pool trader code amountIn) := by
  intro r
  unfold SandboxDex.swapExactBForA SandboxDex.enter SandboxDex.setReserveA SandboxDex.setReserveB
    checked
  simp only [bind_bind_run, get_bind_run, demand_bind_completes, deployed, Option.some.injEq,
    exists_eq_left', (swapExactIn_settles (Ne.symm code.distinct)).bind_completes, modify_bind_run,
    pure_completes, addChecked_eq_some, subChecked_eq_some, exchanged_dex, setDex_dex_self,
    setDex_setDex]
  constructor
  · rintro ⟨accepted, _, ⟨_, rfl⟩, _, ⟨_, rfl⟩, rfl⟩
    exact ⟨accepted, rfl⟩
  · rintro ⟨⟨quoted, payable⟩, rfl⟩
    exact ⟨⟨quoted, payable⟩, _, ⟨quoted.reserve_fits, rfl⟩, _, ⟨quoted.payout_lt.le, rfl⟩, rfl⟩

theorem swapExactAForB_enters {r : Uint256 × World}
    (ran : SandboxDex.swapExactAForB pool trader amountIn minAmountOut world = .ok r) :
    ∃ code, world.dexCode pool = some code := by
  unfold SandboxDex.swapExactAForB SandboxDex.enter at ran
  simp only [bind_bind_run, get_bind_run, demand_bind_completes] at ran
  exact ran.imp fun _ => And.left

theorem swapExactBForA_enters {r : Uint256 × World}
    (ran : SandboxDex.swapExactBForA pool trader amountIn minAmountOut world = .ok r) :
    ∃ code, world.dexCode pool = some code := by
  unfold SandboxDex.swapExactBForA SandboxDex.enter at ran
  simp only [bind_bind_run, get_bind_run, demand_bind_completes] at ran
  exact ran.imp fun _ => And.left

/-- One of the two deposits of `seedLiquidity`. -/
def deposited (world : World) (token provider pool : Address) (amount : Uint256) : World :=
  (world.spent token provider pool amount).moved token provider pool amount

/-- The state after a provider seeded a pool. -/
def seeded (world : World) (pool provider : Address) (code : DexCode) (amountA amountB : Uint256) :
    World :=
  ((deposited (deposited world code.tokenA provider pool amountA) code.tokenB provider pool
    amountB).setDex pool { reserveA := (world.dex pool).reserveA + amountA
                           reserveB := (world.dex pool).reserveB + amountB }).emit
      (.liquidityAdded pool provider amountA amountB)

theorem seedLiquidity_settles {code : DexCode} {amountA amountB : Uint256}
    (deployed : world.dexCode pool = some code) :
    Settles (SandboxDex.seedLiquidity pool sender amountA amountB) world
      (amountA ≠ 0 ∧ amountB ≠ 0 ∧
        ((world.minter code.tokenA).isSome ∧
          amountA.toNat ≤ ((world.erc20 code.tokenA).allowance sender pool).toNat ∧
          Movable world code.tokenA sender pool amountA) ∧
        (((deposited world code.tokenA sender pool amountA).minter code.tokenB).isSome ∧
          amountB.toNat ≤ (((deposited world code.tokenA sender pool amountA).erc20
            code.tokenB).allowance sender pool).toNat ∧
          Movable (deposited world code.tokenA sender pool amountA) code.tokenB sender pool amountB) ∧
        (world.dex pool).reserveA.toNat + amountA.toNat < 2 ^ 256 ∧
        (world.dex pool).reserveB.toNat + amountB.toNat < 2 ^ 256) ()
      (seeded world pool sender code amountA amountB) := by
  intro r
  unfold SandboxDex.seedLiquidity SandboxDex.enter SandboxDex.setReserveA SandboxDex.setReserveB
    checked emit
  simp only [bind_bind_run, get_bind_run, demand_bind_completes, deployed, Option.some.injEq,
    exists_eq_left', require_bind_completes, transferIn_settles.bind_completes, modify_bind_run,
    modify_completes, addChecked_eq_some, setDex_dex_self, setDex_setDex, moved_dex, spent_dex,
    gt_iff_lt, BitVec.lt_def, BitVec.toNat_zero, toNat_pos_iff, BitVec.ofNat_eq_ofNat]
  constructor
  · rintro ⟨givenA, givenB, depositA, depositB, _, ⟨fitsA, rfl⟩, _, ⟨fitsB, rfl⟩, rfl⟩
    exact ⟨⟨givenA, givenB, depositA, depositB, fitsA, fitsB⟩, rfl⟩
  · rintro ⟨⟨givenA, givenB, depositA, depositB, fitsA, fitsB⟩, rfl⟩
    exact ⟨givenA, givenB, depositA, depositB, _, ⟨fitsA, rfl⟩, _, ⟨fitsB, rfl⟩, rfl⟩

theorem seedLiquidity_enters {amountA amountB : Uint256} {r : Unit × World}
    (ran : SandboxDex.seedLiquidity pool sender amountA amountB world = .ok r) :
    ∃ code, world.dexCode pool = some code := by
  unfold SandboxDex.seedLiquidity SandboxDex.enter at ran
  simp only [bind_bind_run, get_bind_run, demand_bind_completes] at ran
  exact ran.imp fun _ => And.left

/-! ## `SandboxBackrun` -/

variable {buyPool sellPool : Address} {amountInB minAmountOutA minAmountOutB minProfitB : Uint256}
  {code : DexCode}

/-- The state after the first leg: the input approved and swapped in the buy pool. -/
def bought (world : World) (self buyPool : Address) (code : DexCode) (amountInB : Uint256) : World :=
  swappedBForA (world.approved code.tokenB self buyPool amountInB) buyPool self code amountInB

/-- The state before the second leg's swap: its input approved to the sell pool. -/
def readyToSell (world : World) (self buyPool sellPool : Address) (code : DexCode)
    (amountInB : Uint256) : World :=
  (bought world self buyPool code amountInB).approved code.tokenA self sellPool
    (outBForA world buyPool amountInB)

/-- The state after the second leg. -/
def sold (world : World) (self buyPool sellPool : Address) (code : DexCode) (amountInB : Uint256) :
    World :=
  swappedAForB (readyToSell world self buyPool sellPool code amountInB) sellPool self code
    (outBForA world buyPool amountInB)

/-- The output of the whole route: the second pool is not the first, so it is
quoted on the reserves it had before. -/
def routeOut (world : World) (buyPool sellPool : Address) (amountInB : Uint256) : Uint256 :=
  outAForB world sellPool (outBForA world buyPool amountInB)

/-- Both legs of a backrun go through, each checked in the state it runs in. -/
structure BackrunLegs (world : World) (executor buyPool sellPool : Address) (code : DexCode)
    (amountInB minAmountOutA minAmountOutB : Uint256) : Prop where
  buyNonzero : buyPool ≠ 0
  sellNonzero : sellPool ≠ 0
  poolsDiffer : buyPool ≠ sellPool
  given : amountInB ≠ 0
  codeA : (world.minter code.tokenA).isSome
  codeB : (world.minter code.tokenB).isSome
  covered : amountInB.toNat ≤ ((world.erc20 code.tokenB).balanceOf executor).toNat
  buyQuoted : Quoted amountInB minAmountOutA (world.dex buyPool).reserveB (world.dex buyPool).reserveA
  buyPayable : Payable (world.approved code.tokenB executor buyPool amountInB) buyPool executor
    code.tokenB code.tokenA amountInB (outBForA world buyPool amountInB)
  sellQuoted : Quoted (outBForA world buyPool amountInB) minAmountOutB
    (world.dex sellPool).reserveA (world.dex sellPool).reserveB
  sellPayable : Payable (readyToSell world executor buyPool sellPool code amountInB) sellPool executor
    code.tokenA code.tokenB (outBForA world buyPool amountInB)
    (routeOut world buyPool sellPool amountInB)

/-- Everything the executor checks: the legs, and the profit it measures after them. -/
structure BackrunAccepted (world : World) (executor buyPool sellPool : Address) (code : DexCode)
    (amountInB minAmountOutA minAmountOutB minProfitB : Uint256) : Prop extends
    BackrunLegs world executor buyPool sellPool code amountInB minAmountOutA minAmountOutB where
  gains : ((world.erc20 code.tokenB).balanceOf executor).toNat ≤
    (((sold world executor buyPool sellPool code amountInB).erc20 code.tokenB).balanceOf executor).toNat
  profits : minProfitB.toNat ≤
    (((sold world executor buyPool sellPool code amountInB).erc20 code.tokenB).balanceOf executor -
      (world.erc20 code.tokenB).balanceOf executor).toNat

/-- The profit the executor measures and reports. -/
def measuredProfit (world : World) (self buyPool sellPool : Address) (code : DexCode)
    (amountInB : Uint256) : Uint256 :=
  ((sold world self buyPool sellPool code amountInB).erc20 code.tokenB).balanceOf self -
    (world.erc20 code.tokenB).balanceOf self

theorem executeBackrun_enters {r : (Uint256 × Uint256) × World}
    (ran : SandboxBackrun.executeBackrun self sender buyPool sellPool amountInB minAmountOutA
      minAmountOutB minProfitB world = .ok r) :
    world.operator self = some sender ∧ ∃ code, world.dexCode buyPool = some code ∧
      world.dexCode sellPool = some code := by
  unfold SandboxBackrun.executeBackrun SandboxBackrun.enter SandboxDex.enter at ran
  simp only [bind_bind_run, get_bind_run, demand_bind_completes, require_bind_completes] at ran
  obtain ⟨_, operated, rfl, _, _, _, _, buyCode, buys, sellCode, sells, sameA, sameB, _⟩ := ran
  have sameCode : buyCode = sellCode := by
    cases buyCode
    cases sellCode
    simp_all
  subst sellCode
  exact ⟨operated, buyCode, buys, sells⟩

theorem withdrawToken_enters {r : Unit × World}
    (ran : SandboxBackrun.withdrawToken self sender token recipient amount world = .ok r) :
    world.operator self = some sender ∧ token ≠ 0 := by
  unfold SandboxBackrun.withdrawToken SandboxBackrun.enter at ran
  simp only [bind_bind_run, get_bind_run, demand_bind_completes, require_bind_completes] at ran
  obtain ⟨_, operated, rfl, nonzero, _⟩ := ran
  exact ⟨operated, nonzero⟩

theorem withdrawToken_settles (operated : world.operator self = some sender) :
    Settles (SandboxBackrun.withdrawToken self sender token recipient amount) world
      (token ≠ 0 ∧ recipient ≠ 0 ∧ (world.minter token).isSome ∧
        Movable world token self recipient amount) ()
      ((world.moved token self recipient amount).emit (.tokenWithdrawn self token recipient amount)) := by
  intro r
  unfold SandboxBackrun.withdrawToken SandboxBackrun.enter emit
  simp only [bind_bind_run, get_bind_run, demand_bind_completes, operated, Option.some.injEq,
    exists_eq_left', require_bind_completes, transfer_settles.bind_completes, modify_completes,
    true_and, and_assoc]

private theorem backrun_approve_settles : Settles (SandboxBackrun.approve self token spender amount)
    world (world.minter token).isSome () (world.approved token self spender amount) := by
  intro r
  unfold SandboxBackrun.approve
  simp only [approve_settles.bind_completes, require_completes, true_and]

private theorem backrun_balanceOf_settles : Settles (SandboxBackrun.balanceOf token account) world
    (world.minter token).isSome ((world.erc20 token).balanceOf account) world := by
  intro r
  unfold SandboxBackrun.balanceOf SandboxERC20.enter
  simp only [bind_bind_run, get_bind_run, demand_bind_completes, pure_completes,
    Option.isSome_iff_exists, exists_and_right]

theorem dexCode_of_code_eq {world' : World} (same : world'.code = world.code) :
    world'.dexCode pool = world.dexCode pool := by
  simp only [World.dexCode, same]

@[simp] theorem bought_code : (bought world self buyPool code amountInB).code = world.code := by
  simp [bought, swappedBForA]

@[simp] theorem readyToSell_code :
    (readyToSell world self buyPool sellPool code amountInB).code = world.code := by
  simp [readyToSell]

@[simp] theorem sold_code : (sold world self buyPool sellPool code amountInB).code = world.code := by
  simp [sold, swappedAForB]

theorem readyToSell_dex_of_ne (differ : pool ≠ buyPool) :
    (readyToSell world self buyPool sellPool code amountInB).dex pool = world.dex pool := by
  simp [readyToSell, bought, swappedBForA, World.setDex, differ]

/-- The second leg is quoted on the sell pool's untouched reserves. -/
theorem sold_out_of_ne (differ : buyPool ≠ sellPool) :
    outAForB (readyToSell world self buyPool sellPool code amountInB) sellPool
      (outBForA world buyPool amountInB) = routeOut world buyPool sellPool amountInB := by
  simp only [outAForB, routeOut, readyToSell_dex_of_ne (Ne.symm differ)]

/-- The executor completes exactly when all its checks pass; it answers with the
two legs' outputs and reports the profit it measured. -/
theorem executeBackrun_settles (operated : world.operator self = some sender)
    (buys : world.dexCode buyPool = some code) (sells : world.dexCode sellPool = some code) :
    Settles (SandboxBackrun.executeBackrun self sender buyPool sellPool amountInB minAmountOutA
        minAmountOutB minProfitB) world
      (BackrunAccepted world self buyPool sellPool code amountInB minAmountOutA minAmountOutB minProfitB)
      (outBForA world buyPool amountInB, routeOut world buyPool sellPool amountInB)
      ((sold world self buyPool sellPool code amountInB).emit (.backrunExecuted self buyPool sellPool
        amountInB (outBForA world buyPool amountInB) (routeOut world buyPool sellPool amountInB)
        (measuredProfit world self buyPool sellPool code amountInB))) := by
  intro r
  have buysApproved : (world.approved code.tokenB self buyPool amountInB).dexCode buyPool = some code :=
    (dexCode_of_code_eq approved_code).trans buys
  have sellsReady :
      (readyToSell world self buyPool sellPool code amountInB).dexCode sellPool = some code :=
    (dexCode_of_code_eq readyToSell_code).trans sells
  have codeA : (bought world self buyPool code amountInB).minter code.tokenA =
      world.minter code.tokenA := minter_of_code_eq bought_code
  have codeB : (sold world self buyPool sellPool code amountInB).minter code.tokenB =
      world.minter code.tokenB := minter_of_code_eq sold_code
  -- Name the states the legs run in, so that each leg is run by its own outcome.
  have firstOut : outBForA (world.approved code.tokenB self buyPool amountInB) buyPool amountInB =
      outBForA world buyPool amountInB := rfl
  have afterBuy : swappedBForA (world.approved code.tokenB self buyPool amountInB) buyPool self code
      amountInB = bought world self buyPool code amountInB := rfl
  have beforeSell : (bought world self buyPool code amountInB).approved code.tokenA self sellPool
      (outBForA world buyPool amountInB) = readyToSell world self buyPool sellPool code amountInB := rfl
  have afterSell : swappedAForB (readyToSell world self buyPool sellPool code amountInB) sellPool self
      code (outBForA world buyPool amountInB) = sold world self buyPool sellPool code amountInB := rfl
  unfold SandboxBackrun.executeBackrun SandboxBackrun.enter SandboxDex.enter emit checked
  simp only [bind_bind_run, get_bind_run, demand_bind_completes, require_bind_completes, operated,
    buys, sells, Option.some.injEq, exists_eq_left', true_and,
    backrun_balanceOf_settles.bind_completes, backrun_approve_settles.bind_completes,
    (swapExactBForA_settles buysApproved).bind_completes, firstOut, afterBuy, beforeSell,
    (swapExactAForB_settles sellsReady).bind_completes, afterSell, codeA, codeB,
    modify_bind_run, pure_completes, subChecked_eq_some, gt_iff_lt, ge_iff_le, BitVec.lt_def,
    BitVec.le_def, BitVec.toNat_zero, toNat_pos_iff, BitVec.ofNat_eq_ofNat, approved_dex]
  by_cases differ : buyPool = sellPool
  · constructor
    · rintro ⟨_, _, distinct, _⟩
      exact absurd differ distinct
    · rintro ⟨accepted, _⟩
      exact absurd differ accepted.poolsDiffer
  · have sellReserves : (readyToSell world self buyPool sellPool code amountInB).dex sellPool =
        world.dex sellPool := readyToSell_dex_of_ne (Ne.symm differ)
    rw [sold_out_of_ne differ, sellReserves]
    constructor
    · rintro ⟨buyNonzero, sellNonzero, distinct, given, codeB, covered, _, ⟨buyQuoted, buyPayable⟩,
        codeA, ⟨sellQuoted, sellPayable⟩, _, _, ⟨gains, rfl⟩, profits, rfl⟩
      exact ⟨⟨⟨buyNonzero, sellNonzero, distinct, given, codeA, codeB, covered, buyQuoted, buyPayable,
        sellQuoted, sellPayable⟩, gains, profits⟩, rfl⟩
    · rintro ⟨⟨⟨buyNonzero, sellNonzero, distinct, given, codeA, codeB, covered, buyQuoted, buyPayable,
        sellQuoted, sellPayable⟩, gains, profits⟩, rfl⟩
      exact ⟨buyNonzero, sellNonzero, distinct, given, codeB, covered, codeB, ⟨buyQuoted, buyPayable⟩,
        codeA, ⟨sellQuoted, sellPayable⟩, codeB, _, ⟨gains, rfl⟩, profits, rfl⟩

/-! ## Every entry point -/

/-- What a call that completed had checked, and the world it left. -/
inductive Called (sender : Address) (world : World) : Entry → World → Prop
  | mint {token recipient : Address} {amount : Uint256} :
      world.minter token = some sender → recipient ≠ 0 →
      (world.erc20 token).totalSupply.toNat + amount.toNat < 2 ^ 256 →
      ((world.erc20 token).balanceOf recipient).toNat + amount.toNat < 2 ^ 256 →
      Called sender world (.mint token recipient amount) (minted world token recipient amount)
  | approve {token spender : Address} {amount : Uint256} : (world.minter token).isSome →
      Called sender world (.approve token spender amount) (world.approved token sender spender amount)
  | transfer {token recipient : Address} {amount : Uint256} : (world.minter token).isSome →
      Movable world token sender recipient amount →
      Called sender world (.transfer token recipient amount) (world.moved token sender recipient amount)
  | transferFrom {token source recipient : Address} {amount : Uint256} : (world.minter token).isSome →
      amount.toNat ≤ ((world.erc20 token).allowance source sender).toNat →
      Movable world token source recipient amount →
      Called sender world (.transferFrom token source recipient amount)
        ((world.spent token source sender amount).moved token source recipient amount)
  | seedLiquidity {pool : Address} {code : DexCode} {amountA amountB : Uint256} :
      world.dexCode pool = some code → amountA ≠ 0 → amountB ≠ 0 →
      Movable world code.tokenA sender pool amountA →
      Movable (deposited world code.tokenA sender pool amountA) code.tokenB sender pool amountB →
      (world.dex pool).reserveA.toNat + amountA.toNat < 2 ^ 256 →
      (world.dex pool).reserveB.toNat + amountB.toNat < 2 ^ 256 →
      Called sender world (.seedLiquidity pool amountA amountB)
        (seeded world pool sender code amountA amountB)
  | swapExactAForB {pool : Address} {code : DexCode} {amountIn minAmountOut : Uint256} :
      world.dexCode pool = some code →
      Quoted amountIn minAmountOut (world.dex pool).reserveA (world.dex pool).reserveB →
      Payable world pool sender code.tokenA code.tokenB amountIn (outAForB world pool amountIn) →
      Called sender world (.swapExactAForB pool amountIn minAmountOut)
        (swappedAForB world pool sender code amountIn)
  | swapExactBForA {pool : Address} {code : DexCode} {amountIn minAmountOut : Uint256} :
      world.dexCode pool = some code →
      Quoted amountIn minAmountOut (world.dex pool).reserveB (world.dex pool).reserveA →
      Payable world pool sender code.tokenB code.tokenA amountIn (outBForA world pool amountIn) →
      Called sender world (.swapExactBForA pool amountIn minAmountOut)
        (swappedBForA world pool sender code amountIn)
  | executeBackrun {contract buyPool sellPool : Address} {code : DexCode}
      {amountInB minAmountOutA minAmountOutB minProfitB : Uint256} :
      world.operator contract = some sender →
      world.dexCode buyPool = some code → world.dexCode sellPool = some code →
      BackrunAccepted world contract buyPool sellPool code amountInB minAmountOutA minAmountOutB
        minProfitB →
      Called sender world
        (.executeBackrun contract buyPool sellPool amountInB minAmountOutA minAmountOutB minProfitB)
        ((sold world contract buyPool sellPool code amountInB).emit (.backrunExecuted contract buyPool
          sellPool amountInB (outBForA world buyPool amountInB) (routeOut world buyPool sellPool amountInB)
          (measuredProfit world contract buyPool sellPool code amountInB)))
  | withdrawToken {contract token recipient : Address} {amount : Uint256} :
      world.operator contract = some sender → token ≠ 0 → recipient ≠ 0 →
      (world.minter token).isSome → Movable world token contract recipient amount →
      Called sender world (.withdrawToken contract token recipient amount)
        ((world.moved token contract recipient amount).emit (.tokenWithdrawn contract token recipient amount))

/-- Every call that completes is one of these. -/
theorem call_called {entry : Entry} {after : World} (ran : entry.call sender world = .ok ((), after)) :
    Called sender world entry after := by
  cases entry with
  | mint token recipient amount =>
    obtain ⟨⟨minter, nonzero, supply, fits⟩, same⟩ := (mint_settles _).mp ran
    cases same
    exact .mint minter nonzero supply fits
  | approve token spender amount =>
    obtain ⟨_, granted⟩ := discard_completes.mp ran
    obtain ⟨inCode, same⟩ := (approve_settles _).mp granted
    cases same
    exact .approve inCode
  | transfer token recipient amount =>
    obtain ⟨_, moved⟩ := discard_completes.mp ran
    obtain ⟨⟨inCode, movable⟩, same⟩ := (transfer_settles _).mp moved
    cases same
    exact .transfer inCode movable
  | transferFrom token source recipient amount =>
    obtain ⟨_, moved⟩ := discard_completes.mp ran
    obtain ⟨⟨inCode, enough, movable⟩, same⟩ := (transferFrom_settles _).mp moved
    cases same
    exact .transferFrom inCode enough movable
  | seedLiquidity pool amountA amountB =>
    obtain ⟨code, deployed⟩ := seedLiquidity_enters ran
    obtain ⟨⟨givenA, givenB, ⟨_, _, movableA⟩, ⟨_, _, movableB⟩, fitsA, fitsB⟩, same⟩ :=
      (seedLiquidity_settles deployed _).mp ran
    cases same
    exact .seedLiquidity deployed givenA givenB movableA movableB fitsA fitsB
  | swapExactAForB pool amountIn minAmountOut =>
    obtain ⟨_, swapped⟩ := discard_completes.mp ran
    obtain ⟨code, deployed⟩ := swapExactAForB_enters swapped
    obtain ⟨⟨quoted, payable⟩, same⟩ := (swapExactAForB_settles deployed _).mp swapped
    cases same
    exact .swapExactAForB deployed quoted payable
  | swapExactBForA pool amountIn minAmountOut =>
    obtain ⟨_, swapped⟩ := discard_completes.mp ran
    obtain ⟨code, deployed⟩ := swapExactBForA_enters swapped
    obtain ⟨⟨quoted, payable⟩, same⟩ := (swapExactBForA_settles deployed _).mp swapped
    cases same
    exact .swapExactBForA deployed quoted payable
  | executeBackrun contract buyPool sellPool amountInB minAmountOutA minAmountOutB minProfitB =>
    obtain ⟨_, executed⟩ := discard_completes.mp ran
    obtain ⟨operates, code, buys, sells⟩ := executeBackrun_enters executed
    obtain ⟨accepted, same⟩ := (executeBackrun_settles operates buys sells _).mp executed
    cases same
    exact .executeBackrun operates buys sells accepted
  | withdrawToken contract token recipient amount =>
    obtain ⟨operates, _⟩ := withdrawToken_enters ran
    obtain ⟨⟨isToken, nonzero, inCode, movable⟩, same⟩ := (withdrawToken_settles operates _).mp ran
    cases same
    exact .withdrawToken operates isToken nonzero inCode movable

end DexKnight.ContractProofs
