import DexKnight.ProductGrowth

/-! Trading in pieces against one pool. Several completed swaps in one direction, by
any traders and with any slippage limits, are followed as the reserves they leave;
these are the exact reserves of the constant-product library, so its comparison with
one swap of the whole amount carries over to the contract. -/
namespace DexKnight.SplitSwaps
open Core.Types Core.Contracts Support.CheckedWord Support.Reverting Support.ConstantProduct
  ContractProofs ProductGrowth

/-- One swap someone asks for; the direction is common to a whole sequence. -/
structure SwapCall where
  sender : Address
  amountIn : Uint256
  minAmountOut : Uint256
  deriving DecidableEq

/-- The reserve a swap of this kind adds to. -/
def reserveIn (kind : SwapKind) (storage : DexStorage) : Uint256 :=
  match kind with
  | .aForB => storage.reserveA
  | .bForA => storage.reserveB

/-- The reserve a swap of this kind takes from. -/
def reserveOut (kind : SwapKind) (storage : DexStorage) : Uint256 :=
  match kind with
  | .aForB => storage.reserveB
  | .bForA => storage.reserveA

/-- The pool's entry point for this kind of swap. -/
def swapExact (kind : SwapKind) (pool : Address) (call : SwapCall) : Call Uint256 :=
  match kind with
  | .aForB => SandboxDex.swapExactAForB pool call.sender call.amountIn call.minAmountOut
  | .bForA => SandboxDex.swapExactBForA pool call.sender call.amountIn call.minAmountOut

/-- Swaps performed one after another; the first that reverts stops the sequence. -/
def swapEach (kind : SwapKind) (pool : Address) : List SwapCall → Call (List Uint256)
  | [] => pure []
  | call :: rest => do
    let amountOut ← swapExact kind pool call
    let amountsOut ← swapEach kind pool rest
    return amountOut :: amountsOut

/-- The amounts of a sequence, over exact integers. -/
def amounts (calls : List SwapCall) : List Nat := calls.map (·.amountIn.toNat)

@[simp] theorem amounts_cons (call : SwapCall) (rest : List SwapCall) :
    amounts (call :: rest) = call.amountIn.toNat :: amounts rest := rfl

variable {kind : SwapKind} {pool : Address} {world after start finish : World} {call : SwapCall}
  {calls : List SwapCall} {amountOut : Uint256} {amountsOut : List Uint256}

theorem product_eq (kind : SwapKind) (storage : DexStorage) :
    product storage = (reserveIn kind storage).toNat * (reserveOut kind storage).toNat := by
  cases kind with
  | aForB => rfl
  | bForA => exact Nat.mul_comm _ _

/-- **One step.** A completed swap was quoted, paid the exact quote and moved both
reserves by what went in and out. -/
theorem swapExact_moves (swapped : swapExact kind pool call world = .ok (amountOut, after)) :
    let before := world.dex pool
    Quoted call.amountIn call.minAmountOut (reserveIn kind before) (reserveOut kind before) ∧
      amountOut = amountOutWord call.amountIn (reserveIn kind before) (reserveOut kind before) ∧
      reserveIn kind (after.dex pool) = reserveIn kind before + call.amountIn ∧
      reserveOut kind (after.dex pool) = reserveOut kind before - amountOut := by
  cases kind with
  | aForB =>
    obtain ⟨code, deployed⟩ := swapExactAForB_enters swapped
    obtain ⟨⟨quoted, _⟩, same⟩ := (swapExactAForB_settles deployed _).mp swapped
    cases same
    refine ⟨quoted, rfl, ?_, ?_⟩ <;> rw [swappedAForB, setDex_dex_self] <;> rfl
  | bForA =>
    obtain ⟨code, deployed⟩ := swapExactBForA_enters swapped
    obtain ⟨⟨quoted, _⟩, same⟩ := (swapExactBForA_settles deployed _).mp swapped
    cases same
    refine ⟨quoted, rfl, ?_, ?_⟩ <;> rw [swappedBForA, setDex_dex_self] <;> rfl

/-- The same over exact integers. -/
theorem swapExact_exact (swapped : swapExact kind pool call world = .ok (amountOut, after)) :
    let depth := (reserveIn kind (world.dex pool)).toNat
    let stock := (reserveOut kind (world.dex pool)).toNat
    amountOut.toNat = sandboxFee.quote call.amountIn.toNat depth stock ∧
      amountOut.toNat < stock ∧
      (reserveIn kind (after.dex pool)).toNat = depth + call.amountIn.toNat ∧
      (reserveOut kind (after.dex pool)).toNat = stock - amountOut.toNat := by
  obtain ⟨quoted, rfl, deeper, shallower⟩ := swapExact_moves swapped
  refine ⟨amountOutWord_toNat quoted.stocked quoted.fits, quoted.payout_lt, ?_, ?_⟩
  · rw [deeper, toNat_add_exact quoted.reserve_fits]
  · rw [shallower, toNat_sub_exact quoted.payout_lt.le]

/-- **A sequence.** The input reserve has taken in the whole amount, the output reserve
is the one the exact rule leaves, and what is missing from it was paid out. -/
theorem swapEach_exact (ran : swapEach kind pool calls start = .ok (amountsOut, finish)) :
    let depth := (reserveIn kind (start.dex pool)).toNat
    let stock := (reserveOut kind (start.dex pool)).toNat
    (reserveIn kind (finish.dex pool)).toNat = depth + (amounts calls).sum ∧
      (reserveOut kind (finish.dex pool)).toNat = sandboxFee.left depth stock (amounts calls) ∧
      (reserveOut kind (finish.dex pool)).toNat + (amountsOut.map BitVec.toNat).sum = stock := by
  induction calls generalizing start amountsOut with
  | nil =>
    rw [swapEach, pure_completes] at ran
    cases ran
    simp [amounts, Fee.left]
  | cons call rest ih =>
    rw [swapEach] at ran
    obtain ⟨amountOut, middle, swapped, others⟩ := bind_completes.mp ran
    obtain ⟨laterOut, last, remaining, answer⟩ := bind_completes.mp others
    cases pure_completes.mp answer
    obtain ⟨quote, below, deeper, shallower⟩ := swapExact_exact swapped
    obtain ⟨taken, kept, paid⟩ := ih remaining
    rw [deeper] at taken kept
    rw [shallower] at kept paid
    refine ⟨?_, ?_, ?_⟩
    · rw [taken, amounts_cons, List.sum_cons]
      omega
    · rw [kept, amounts_cons, Fee.left, quote]
    · rw [List.map_cons, List.sum_cons]
      omega

/-- A sequence that completed compared with one quote of its sum, from the same start. -/
theorem swapEach_le_quote (ran : swapEach kind pool calls start = .ok (amountsOut, finish))
    (funded : reserveIn kind (start.dex pool) ≠ 0) (stocked : reserveOut kind (start.dex pool) ≠ 0) :
    let depth := (reserveIn kind (start.dex pool)).toNat
    let stock := (reserveOut kind (start.dex pool)).toNat
    let single := sandboxFee.quote (amounts calls).sum depth stock
    (amountsOut.map BitVec.toNat).sum ≤ single ∧
      (depth + (amounts calls).sum) * (stock - single) ≤ product (finish.dex pool) := by
  intro depth stock single
  obtain ⟨taken, kept, paid⟩ := swapEach_exact ran
  have compared : stock - single ≤ (reserveOut kind (finish.dex pool)).toNat := by
    rw [kept]
    exact single_le_left (toNat_pos_iff.mpr funded) (toNat_pos_iff.mpr stocked) (amounts calls)
  constructor
  · omega
  · rw [product_eq kind, taken]
    exact Nat.mul_le_mul_left _ compared

/-- The amounts of a completed sequence add up to a word: the pool holds them all. -/
theorem swapEach_sum_fits (ran : swapEach kind pool calls start = .ok (amountsOut, finish)) :
    (amounts calls).sum < 2 ^ 256 := by
  have taken := (swapEach_exact ran).1
  have bound := (reserveIn kind (finish.dex pool)).isLt
  omega

/-- **Splitting a swap never pays.** For every sequence of swaps in one direction that
all complete, by anyone and under any slippage limits: their amounts add up to a word,
and wherever `getAmountOut` answers for that sum in the starting state, the pieces
together were paid no more than it, and they leave at least the product the single swap
leaves. The last part says the same of the swap itself when it completes. -/
theorem splitting_never_pays
    (ran : swapEach kind pool calls start = .ok (amountsOut, finish)) :
    let before := start.dex pool
    let total := BitVec.ofNat 256 (amounts calls).sum
    total.toNat = (amounts calls).sum ∧
      (∀ single kept, SandboxDex.getAmountOut total (reserveIn kind before) (reserveOut kind before)
          start = .ok (single, kept) →
        (amountsOut.map BitVec.toNat).sum ≤ single.toNat ∧
          ((reserveIn kind before).toNat + total.toNat) *
              ((reserveOut kind before).toNat - single.toNat) ≤ product (finish.dex pool)) ∧
      ∀ sender minAmountOut single whole,
        swapExact kind pool ⟨sender, total, minAmountOut⟩ start = .ok (single, whole) →
          (amountsOut.map BitVec.toNat).sum ≤ single.toNat ∧
            product (whole.dex pool) ≤ product (finish.dex pool) := by
  intro before total
  have exact : total.toNat = (amounts calls).sum :=
    BitVec.toNat_ofNat _ _ |>.trans (Nat.mod_eq_of_lt (swapEach_sum_fits ran))
  refine ⟨exact, ?_, ?_⟩
  · intro single kept quoted
    obtain ⟨⟨_, funded, stocked, fits⟩, same⟩ := (getAmountOut_settles _).mp quoted
    cases same
    rw [amountOutWord_toNat stocked fits, exact]
    exact swapEach_le_quote ran funded stocked
  · intro sender minAmountOut single whole swapped
    have quoted := (swapExact_moves swapped).1
    obtain ⟨answer, _, deeper, shallower⟩ := swapExact_exact swapped
    rw [product_eq kind (whole.dex pool), deeper, shallower, answer, exact]
    exact swapEach_le_quote ran quoted.funded quoted.stocked

/-- Two swaps of a hundred against a pool of a thousand each, and one of two hundred. -/
theorem splitting_never_pays_halves :
    let start : World := {
      code := fun account =>
        if account = 0x0A ∨ account = 0x0B then some (.erc20 0x01)
        else if account = 0x10 then some (.dex ⟨0x0A, 0x0B, by decide, by decide, by decide⟩)
        else none
      erc20 := fun _ => {
        totalSupply := 2000
        balanceOf := fun account => if account = 0x10 ∨ account = 0x02 then 1000 else 0
        allowance := fun _ _ => 200 }
      dex := fun _ => ⟨1000, 1000⟩ }
    let calls : List SwapCall := [⟨0x02, 100, 1⟩, ⟨0x02, 100, 1⟩]
    SandboxDex.getAmountOut 200 1000 1000 start = .ok (166, start) ∧
      ∃ amountsOut finish, swapEach .aForB 0x10 calls start = .ok (amountsOut, finish) ∧
        (amountsOut.map BitVec.toNat).sum ≤ 166 ∧ 1200 * 834 ≤ product (finish.dex 0x10) := by
  intro start calls
  have fits : QuoteFits 200 1000 1000 := by
    rw [QuoteFits]
    decide
  have answer : amountOutWord 200 1000 1000 = 166 := by decide
  have single : SandboxDex.getAmountOut 200 1000 1000 start = .ok (166, start) :=
    (getAmountOut_settles _).mpr ⟨⟨by decide, by decide, by decide, fits⟩, by rw [answer]⟩
  obtain ⟨⟨amountsOut, finish⟩, ran⟩ : ∃ r, swapEach .aForB 0x10 calls start = .ok r :=
    completes_of_isOk (by decide +kernel)
  have total : BitVec.ofNat 256 (amounts calls).sum = 200 := by decide
  obtain ⟨_, compared, _⟩ := splitting_never_pays ran
  rw [total] at compared
  obtain ⟨paid, kept⟩ := compared 166 start single
  refine ⟨single, amountsOut, finish, ran, ?_, ?_⟩
  · simpa using paid
  · simpa [start, reserveIn, reserveOut] using kept

end DexKnight.SplitSwaps
