import DexKnight.BackrunSafety

/-! The product of a pool's reserves never decreases. A swap is charged for, so it
raises the product strictly; a deposit raises it too; nothing else touches the
reserves. Over a run this gives a pool that no sequence of trades can drain: once
traded with, it never comes back to reserves that are no larger in both tokens. -/
namespace DexKnight.ProductGrowth
open Core.Types Core.Contracts Support.CheckedWord Support.Reverting Support.ConstantProduct
  ContractProofs BackrunSafety

variable {world after : World} {pool other trader sender : Address} {code : DexCode}
  {amountIn minAmountOut amountOut reserveIn reserveOut : Uint256}

/-- The constant-product quantity over exact integers. -/
def product (storage : DexStorage) : Nat := storage.reserveA.toNat * storage.reserveB.toNat

/-- A quoted swap moves the two reserves to a strictly larger product. -/
theorem Quoted.product_lt (quoted : Quoted amountIn minAmountOut reserveIn reserveOut) :
    reserveIn.toNat * reserveOut.toNat <
      (reserveIn + amountIn).toNat *
        (reserveOut - amountOutWord amountIn reserveIn reserveOut).toNat := by
  rw [toNat_add_exact quoted.reserve_fits, toNat_sub_exact quoted.payout_lt.le,
    amountOutWord_toNat quoted.stocked quoted.fits]
  have charges : sandboxFee.numerator < sandboxFee.denominator := by decide
  exact product_lt_of_quote charges (toNat_pos_iff.mpr quoted.given)
    (toNat_pos_iff.mpr quoted.funded) (toNat_pos_iff.mpr quoted.stocked)

/-! ## One call -/

/-- What a call can do to a pool's reserves: nothing, or raise their product. -/
def Advances (before after : DexStorage) : Prop := after = before ∨ product before < product after

namespace Advances

variable {first second third : DexStorage}

theorem refl (storage : DexStorage) : Advances storage storage := .inl rfl

theorem trans (before : Advances first second) (after : Advances second third) :
    Advances first third := by
  rcases before with rfl | raised
  · exact after
  · rcases after with rfl | raisedAgain
    · exact .inr raised
    · exact .inr (raised.trans raisedAgain)

theorem product_le (advances : Advances first second) : product first ≤ product second := by
  rcases advances with rfl | raised
  · exact le_rfl
  · exact raised.le

end Advances

/-- Two reserves are positive exactly when their product is. -/
theorem product_pos {storage : DexStorage} :
    0 < product storage ↔ storage.reserveA ≠ 0 ∧ storage.reserveB ≠ 0 := by
  rw [product, Nat.pos_iff_ne_zero, Nat.mul_ne_zero_iff, ← Nat.pos_iff_ne_zero,
    ← Nat.pos_iff_ne_zero, toNat_pos_iff, toNat_pos_iff]

/-- Storing new reserves of one pool, seen from any pool. -/
private theorem setDex_advances {storage : DexStorage} (raised : product (world.dex pool) < product storage)
    (sameReserves : after.dex = world.dex) :
    Advances (world.dex other) ((after.setDex pool storage).dex other) := by
  by_cases same : other = pool
  · subst other
    rw [setDex_dex_self]
    exact .inr raised
  · rw [World.setDex, sameReserves]
    simp only [Function.update_of_ne same]
    exact Advances.refl _

/-- A swap of A for B, seen from any pool: the one that traded has a larger product. -/
theorem swappedAForB_advances (other : Address)
    (quoted : Quoted amountIn minAmountOut (world.dex pool).reserveA (world.dex pool).reserveB) :
    product (world.dex pool) < product ((swappedAForB world pool trader code amountIn).dex pool) ∧
      Advances (world.dex other) ((swappedAForB world pool trader code amountIn).dex other) := by
  have raised := Quoted.product_lt quoted
  rw [swappedAForB, setDex_dex_self]
  exact ⟨raised, setDex_advances raised exchanged_dex⟩

theorem swappedBForA_advances (other : Address)
    (quoted : Quoted amountIn minAmountOut (world.dex pool).reserveB (world.dex pool).reserveA) :
    product (world.dex pool) < product ((swappedBForA world pool trader code amountIn).dex pool) ∧
      Advances (world.dex other) ((swappedBForA world pool trader code amountIn).dex other) := by
  have raised := Quoted.product_lt quoted
  rw [Nat.mul_comm, Nat.mul_comm ((world.dex pool).reserveB + amountIn).toNat] at raised
  rw [swappedBForA, setDex_dex_self]
  exact ⟨raised, setDex_advances raised exchanged_dex⟩

theorem seeded_advances {amountA amountB : Uint256} (givenA : amountA ≠ 0)
    (fitsA : (world.dex pool).reserveA.toNat + amountA.toNat < 2 ^ 256) (givenB : amountB ≠ 0)
    (fitsB : (world.dex pool).reserveB.toNat + amountB.toNat < 2 ^ 256) :
    Advances (world.dex other) ((seeded world pool sender code amountA amountB).dex other) := by
  have addsA := toNat_pos_iff.mpr givenA
  have addsB := toNat_pos_iff.mpr givenB
  refine setDex_advances ?_ (by simp [deposited])
  rw [product, product, toNat_add_exact fitsA, toNat_add_exact fitsB]
  exact Nat.mul_lt_mul'' (by omega) (by omega)

/-- A backrun swaps once in each of two different pools. -/
theorem sold_advances {executor buyPool sellPool : Address}
    {amountInB minAmountOutA minAmountOutB : Uint256}
    (legs : BackrunLegs world executor buyPool sellPool code amountInB minAmountOutA minAmountOutB) :
    Advances (world.dex other) ((sold world executor buyPool sellPool code amountInB).dex other) := by
  have buyQuoted := legs.buyQuoted
  rw [← approved_dex] at buyQuoted
  have buys : Advances ((world.approved code.tokenB executor buyPool amountInB).dex other)
      ((bought world executor buyPool code amountInB).dex other) :=
    (swappedBForA_advances other buyQuoted).2
  have reserves : (readyToSell world executor buyPool sellPool code amountInB).dex sellPool =
      world.dex sellPool := readyToSell_dex_of_ne (Ne.symm legs.poolsDiffer)
  have sellQuoted := legs.sellQuoted
  rw [← reserves] at sellQuoted
  have sells : Advances ((readyToSell world executor buyPool sellPool code amountInB).dex other)
      ((sold world executor buyPool sellPool code amountInB).dex other) :=
    (swappedAForB_advances other sellQuoted).2
  rw [approved_dex] at buys
  rw [readyToSell, approved_dex] at sells
  exact buys.trans sells

/-- **One step.** Whatever is called, by anyone and on any contract, each pool's
reserves stay as they are or their product grows. -/
theorem call_advances {entry : Entry} (ran : entry.call sender world = .ok ((), after)) :
    Advances (world.dex other) (after.dex other) := by
  cases call_called ran with
  | mint => exact Advances.refl _
  | approve => exact Advances.refl _
  | transfer => exact Advances.refl _
  | @transferFrom token source recipient amount =>
    change Advances _ ((world.spent token source sender amount).dex other)
    rw [spent_dex]
    exact Advances.refl _
  | seedLiquidity deployed givenA givenB movableA movableB fitsA fitsB =>
    exact seeded_advances givenA fitsA givenB fitsB
  | swapExactAForB deployed quoted payable => exact (swappedAForB_advances other quoted).2
  | swapExactBForA deployed quoted payable => exact (swappedBForA_advances other quoted).2
  | executeBackrun operates buys sells accepted =>
    rw [emit_dex]
    exact sold_advances accepted.toBackrunLegs
  | withdrawToken => exact Advances.refl _

theorem transact_advances {transaction : Transaction} :
    Advances (world.dex pool) ((world.transact transaction).dex pool) := by
  rcases transact_cases transaction with ran | kept
  · exact call_advances ran
  · rw [kept]
    exact Advances.refl _

/-! ## Whole runs -/

/-- The chain after a sequence of calls; a reverted one leaves it as it was. -/
def transactAll (world : World) (calls : List Transaction) : World :=
  calls.foldl World.transact world

theorem run_advances (world : World) (calls : List Transaction) (pool : Address) :
    Advances (world.dex pool) ((transactAll world calls).dex pool) := by
  induction calls generalizing world with
  | nil => exact Advances.refl _
  | cons call rest ih => exact transact_advances.trans (ih (world.transact call))

/-- This call is a swap in the pool, of either kind, and it completes in this state. -/
def Swaps (pool : Address) (world : World) (call : Transaction) : Prop :=
  ∃ amountIn minAmountOut,
    (call.entry = .swapExactAForB pool amountIn minAmountOut ∧ ∃ r,
      SandboxDex.swapExactAForB pool call.sender amountIn minAmountOut world = .ok r) ∨
    (call.entry = .swapExactBForA pool amountIn minAmountOut ∧ ∃ r,
      SandboxDex.swapExactBForA pool call.sender amountIn minAmountOut world = .ok r)

theorem swapExactAForB_raises {amountOut : Uint256}
    (swapped : SandboxDex.swapExactAForB pool sender amountIn minAmountOut world =
      .ok (amountOut, after)) :
    product (world.dex pool) < product (after.dex pool) ∧
      amountOut.toNat < (world.dex pool).reserveB.toNat := by
  obtain ⟨code, deployed⟩ := swapExactAForB_enters swapped
  obtain ⟨⟨quoted, _⟩, same⟩ := (swapExactAForB_settles deployed _).mp swapped
  cases same
  exact ⟨(swappedAForB_advances pool quoted).1, quoted.payout_lt⟩

theorem swapExactBForA_raises {amountOut : Uint256}
    (swapped : SandboxDex.swapExactBForA pool sender amountIn minAmountOut world =
      .ok (amountOut, after)) :
    product (world.dex pool) < product (after.dex pool) ∧
      amountOut.toNat < (world.dex pool).reserveA.toNat := by
  obtain ⟨code, deployed⟩ := swapExactBForA_enters swapped
  obtain ⟨⟨quoted, _⟩, same⟩ := (swapExactBForA_settles deployed _).mp swapped
  cases same
  exact ⟨(swappedBForA_advances pool quoted).1, quoted.payout_lt⟩

/-- A completed swap raises the product as a transaction of the chain. -/
theorem transact_raises {call : Transaction} (swaps : Swaps pool world call) :
    product (world.dex pool) < product ((world.transact call).dex pool) := by
  obtain ⟨sender, entry⟩ := call
  obtain ⟨amountIn, minAmountOut, ⟨isSwap, ⟨amountOut, after⟩, swapped⟩ |
    ⟨isSwap, ⟨amountOut, after⟩, swapped⟩⟩ := swaps
  · cases isSwap
    have completes : (Entry.swapExactAForB pool amountIn minAmountOut).call sender world =
        .ok ((), after) := discard_completes.mpr ⟨amountOut, swapped⟩
    rw [World.transact, settle, completes]
    exact (swapExactAForB_raises swapped).1
  · cases isSwap
    have completes : (Entry.swapExactBForA pool amountIn minAmountOut).call sender world =
        .ok ((), after) := discard_completes.mpr ⟨amountOut, swapped⟩
    rw [World.transact, settle, completes]
    exact (swapExactBForA_raises swapped).1

/-- A run with a completed swap in it ends with a strictly larger product. -/
theorem run_raises {earlier later : List Transaction} {call : Transaction}
    (swaps : Swaps pool (transactAll world earlier) call) :
    product (world.dex pool) <
      product ((transactAll world (earlier ++ call :: later)).dex pool) := by
  have before := (run_advances world earlier pool).product_le
  have raised := transact_raises swaps
  have rest := (run_advances ((transactAll world earlier).transact call) later pool).product_le
  have split : transactAll world (earlier ++ call :: later) =
      transactAll ((transactAll world earlier).transact call) later := by
    simp [transactAll]
  rw [split]
  omega

/-- **The product never decreases.** After any sequence of calls, by anyone, with any
amounts: a swap that completes now strictly raises the product of the reserves and pays
strictly less than the output reserve; the product has not gone down, and reserves that
were positive are; and if some call of the sequence was a completed swap in the pool,
its reserves are not both back at or below where they started. -/
theorem constant_product_never_decreases (start : World) (calls : List Transaction)
    (pool : Address) :
    let world := transactAll start calls
    (∀ sender amountIn minAmountOut amountOut after,
      SandboxDex.swapExactAForB pool sender amountIn minAmountOut world = .ok (amountOut, after) →
        product (world.dex pool) < product (after.dex pool) ∧
          amountOut.toNat < (world.dex pool).reserveB.toNat) ∧
      (∀ sender amountIn minAmountOut amountOut after,
        SandboxDex.swapExactBForA pool sender amountIn minAmountOut world = .ok (amountOut, after) →
          product (world.dex pool) < product (after.dex pool) ∧
            amountOut.toNat < (world.dex pool).reserveA.toNat) ∧
      product (start.dex pool) ≤ product (world.dex pool) ∧
      ((start.dex pool).reserveA ≠ 0 ∧ (start.dex pool).reserveB ≠ 0 →
        (world.dex pool).reserveA ≠ 0 ∧ (world.dex pool).reserveB ≠ 0) ∧
      ∀ earlier call later, calls = earlier ++ call :: later →
        Swaps pool (transactAll start earlier) call →
          ¬ ((world.dex pool).reserveA.toNat ≤ (start.dex pool).reserveA.toNat ∧
            (world.dex pool).reserveB.toNat ≤ (start.dex pool).reserveB.toNat) := by
  intro world
  have grows : product (start.dex pool) ≤ product (world.dex pool) :=
    (run_advances start calls pool).product_le
  refine ⟨fun _ _ _ _ _ => swapExactAForB_raises, fun _ _ _ _ _ => swapExactBForA_raises, grows,
    ?_, ?_⟩
  · intro positive
    exact product_pos.mp (Nat.lt_of_lt_of_le (product_pos.mpr positive) grows)
  · rintro earlier call later rfl swaps ⟨lessA, lessB⟩
    have raised : product (start.dex pool) < product (world.dex pool) := run_raises swaps
    exact absurd (Nat.mul_le_mul lessA lessB) (Nat.not_le_of_lt raised)

/-- A pool with a thousand of each token, and one account that trades a hundred. -/
theorem constant_product_never_decreases_traded :
    let start : World := {
      code := fun account =>
        if account = 0x0A ∨ account = 0x0B then some (.erc20 0x01)
        else if account = 0x10 then some (.dex ⟨0x0A, 0x0B, by decide, by decide, by decide⟩)
        else none
      erc20 := fun _ => {
        totalSupply := 2000
        balanceOf := fun account => if account = 0x10 ∨ account = 0x02 then 1000 else 0
        allowance := fun _ _ => 100 }
      dex := fun _ => ⟨1000, 1000⟩ }
    let trade : Transaction := ⟨0x02, .swapExactAForB 0x10 100 1⟩
    Swaps 0x10 start trade ∧ ¬ (((transactAll start [trade]).dex 0x10).reserveA.toNat ≤ 1000 ∧
      ((transactAll start [trade]).dex 0x10).reserveB.toNat ≤ 1000) := by
  intro start trade
  have swaps : Swaps 0x10 start trade :=
    ⟨100, 1, .inl ⟨rfl, completes_of_isOk (by decide)⟩⟩
  exact ⟨swaps, (constant_product_never_decreases start [trade] 0x10).2.2.2.2 [] trade [] rfl swaps⟩

end DexKnight.ProductGrowth
