import Mathlib.Algebra.Order.Ring.Nat
import Mathlib.Tactic.Ring

/-! The constant-product exchange over exact natural numbers: what a pool that
charges `feeNumerator / feeDenominator` pays for an input, rounded down. There is
no word size here; a fixed-width implementation is compared with this one. -/
namespace DexKnight.Support.ConstantProduct

/-- A fee schedule that never pays back more than it takes. -/
structure Fee where
  numerator : Nat
  denominator : Nat
  positive : 0 < numerator
  bounded : numerator ≤ denominator

variable {fee : Fee} {amountIn reserveIn reserveOut : Nat}

namespace Fee

/-- The output of one exact-input swap. -/
def quote (fee : Fee) (amountIn reserveIn reserveOut : Nat) : Nat :=
  amountIn * fee.numerator * reserveOut / (reserveIn * fee.denominator + amountIn * fee.numerator)

/-- Every intermediate value of the quote is below `bound`. -/
def Fits (fee : Fee) (bound amountIn reserveIn reserveOut : Nat) : Prop :=
  amountIn * fee.numerator * reserveOut < bound ∧
    reserveIn * fee.denominator + amountIn * fee.numerator < bound

instance (fee : Fee) (bound amountIn reserveIn reserveOut : Nat) :
    Decidable (fee.Fits bound amountIn reserveIn reserveOut) :=
  inferInstanceAs (Decidable (_ ∧ _))

end Fee

/-- A pool never pays out its whole reserve. -/
theorem quote_lt_reserve (funded : 0 < reserveIn) (stocked : 0 < reserveOut) :
    fee.quote amountIn reserveIn reserveOut < reserveOut := by
  refine Nat.div_lt_of_lt_mul ?_
  have charged : 0 < reserveIn * fee.denominator :=
    Nat.mul_pos funded (Nat.lt_of_lt_of_le fee.positive fee.bounded)
  exact Nat.mul_lt_mul_of_pos_right (by omega) stocked

/-- The quote is rounded down. -/
theorem quote_mul_le (fee : Fee) (amountIn reserveIn reserveOut : Nat) :
    fee.quote amountIn reserveIn reserveOut *
        (reserveIn * fee.denominator + amountIn * fee.numerator) ≤
      amountIn * fee.numerator * reserveOut :=
  Nat.div_mul_le_self _ _

/-- A pool that keeps a fee pays strictly less than the product rule would: what goes
out times the new input reserve stays below what comes in times the old output reserve. -/
theorem quote_mul_lt (charges : fee.numerator < fee.denominator) (given : 0 < amountIn)
    (funded : 0 < reserveIn) (stocked : 0 < reserveOut) :
    fee.quote amountIn reserveIn reserveOut * (reserveIn + amountIn) < amountIn * reserveOut := by
  have below : fee.quote amountIn reserveIn reserveOut < reserveOut :=
    quote_lt_reserve funded stocked
  have rounded := quote_mul_le fee amountIn reserveIn reserveOut
  obtain ⟨kept, isFee⟩ := Nat.exists_eq_add_of_lt charges
  generalize fee.quote amountIn reserveIn reserveOut = out at below rounded ⊢
  -- The part of the input kept as a fee earns nothing, and it would have earned something.
  have unpaid : amountIn * (kept + 1) * out < amountIn * (kept + 1) * reserveOut :=
    Nat.mul_lt_mul_of_pos_left below (Nat.mul_pos given (Nat.succ_pos kept))
  refine Nat.lt_of_mul_lt_mul_right (a := fee.denominator) ?_
  calc out * (reserveIn + amountIn) * fee.denominator
      = out * (reserveIn * fee.denominator + amountIn * fee.numerator) +
          amountIn * (kept + 1) * out := by rw [isFee]; ring
    _ < amountIn * fee.numerator * reserveOut + amountIn * (kept + 1) * reserveOut := by omega
    _ = amountIn * reserveOut * fee.denominator := by rw [isFee]; ring

/-- Every swap that is charged for strictly raises the product of the reserves. -/
theorem product_lt_of_quote (charges : fee.numerator < fee.denominator) (given : 0 < amountIn)
    (funded : 0 < reserveIn) (stocked : 0 < reserveOut) :
    reserveIn * reserveOut <
      (reserveIn + amountIn) * (reserveOut - fee.quote amountIn reserveIn reserveOut) := by
  have paid := quote_mul_lt charges given funded stocked
  have below : fee.quote amountIn reserveIn reserveOut < reserveOut :=
    quote_lt_reserve funded stocked
  generalize fee.quote amountIn reserveIn reserveOut = out at paid below ⊢
  obtain ⟨rest, rfl⟩ := Nat.exists_eq_add_of_le below.le
  rw [Nat.add_sub_cancel_left, Nat.mul_add, Nat.add_mul]
  rw [Nat.mul_add, Nat.mul_add, Nat.mul_comm out reserveIn, Nat.mul_comm out amountIn] at paid
  omega

/-- More input never buys less. -/
theorem quote_mono_amount {amountIn' : Nat} (funded : 0 < reserveIn) (more : amountIn ≤ amountIn') :
    fee.quote amountIn reserveIn reserveOut ≤ fee.quote amountIn' reserveIn reserveOut := by
  have charged : 0 < reserveIn * fee.denominator :=
    Nat.mul_pos funded (Nat.lt_of_lt_of_le fee.positive fee.bounded)
  have rounded := quote_mul_le fee amountIn reserveIn reserveOut
  have scaled : amountIn * fee.numerator ≤ amountIn' * fee.numerator := Nat.mul_le_mul_right _ more
  generalize fee.quote amountIn reserveIn reserveOut = out at rounded ⊢
  rw [Fee.quote, Nat.le_div_iff_mul_le (by omega)]
  generalize amountIn * fee.numerator = less at rounded scaled ⊢
  generalize amountIn' * fee.numerator = larger at scaled ⊢
  generalize reserveIn * fee.denominator = depth at charged rounded ⊢
  -- Both sides are compared over the smaller denominator, which is then cancelled.
  refine Nat.le_of_mul_le_mul_right ?_ (show 0 < depth + less by omega)
  calc out * (depth + larger) * (depth + less)
      = out * (depth + less) * (depth + larger) := by ring
    _ ≤ less * reserveOut * (depth + larger) := Nat.mul_le_mul_right _ rounded
    _ = less * (reserveOut * depth) + less * reserveOut * larger := by ring
    _ ≤ larger * (reserveOut * depth) + less * reserveOut * larger :=
        Nat.add_le_add_right (Nat.mul_le_mul_right _ scaled) _
    _ = larger * reserveOut * (depth + less) := by ring

/-- A pool that is deeper on the input side and shallower on the output side never pays
more. -/
theorem quote_anti_reserves {reserveIn' reserveOut' : Nat} (funded : 0 < reserveIn)
    (deeper : reserveIn ≤ reserveIn') (shallower : reserveOut' ≤ reserveOut) :
    fee.quote amountIn reserveIn' reserveOut' ≤ fee.quote amountIn reserveIn reserveOut := by
  have charged : 0 < reserveIn * fee.denominator :=
    Nat.mul_pos funded (Nat.lt_of_lt_of_le fee.positive fee.bounded)
  have wider : reserveIn * fee.denominator + amountIn * fee.numerator ≤
      reserveIn' * fee.denominator + amountIn * fee.numerator :=
    Nat.add_le_add_right (Nat.mul_le_mul_right _ deeper) _
  exact Nat.div_le_div (Nat.mul_le_mul_left _ shallower) wider (by omega)

/-! ## Trading in pieces -/

/-- What one swap leaves in the output reserve, over the product the rule without
rounding would keep. -/
theorem reserve_mul_le_left (funded : 0 < reserveIn) (stocked : 0 < reserveOut) :
    reserveOut * (reserveIn * fee.denominator) ≤
      (reserveOut - fee.quote amountIn reserveIn reserveOut) *
        (reserveIn * fee.denominator + amountIn * fee.numerator) := by
  have below : fee.quote amountIn reserveIn reserveOut < reserveOut :=
    quote_lt_reserve funded stocked
  have rounded := quote_mul_le fee amountIn reserveIn reserveOut
  generalize fee.quote amountIn reserveIn reserveOut = out at below rounded ⊢
  obtain ⟨rest, rfl⟩ := Nat.exists_eq_add_of_le below.le
  rw [Nat.add_sub_cancel_left]
  generalize amountIn * fee.numerator = withFee at rounded ⊢
  generalize reserveIn * fee.denominator = depth at rounded ⊢
  rw [Nat.mul_add, Nat.mul_add, Nat.mul_comm withFee out, Nat.mul_comm withFee rest] at rounded
  rw [Nat.add_mul, Nat.mul_add]
  omega

/-- The output reserve after these amounts are swapped one after another; each swap
sees the reserves the earlier ones left, fees included. -/
def Fee.left (fee : Fee) : (reserveIn reserveOut : Nat) → List Nat → Nat
  | _, reserveOut, [] => reserveOut
  | reserveIn, reserveOut, amountIn :: rest =>
    fee.left (reserveIn + amountIn) (reserveOut - fee.quote amountIn reserveIn reserveOut) rest

/-- The reserve left by a sequence of swaps is at least what one swap of their sum
would leave without rounding. The induction is on the amounts, for every pool: the
fee of the first swap deepens the pool the rest trade with. -/
theorem reserve_mul_le_left_sum (funded : 0 < reserveIn) (stocked : 0 < reserveOut)
    (amounts : List Nat) :
    reserveOut * (reserveIn * fee.denominator) ≤
      fee.left reserveIn reserveOut amounts *
        (reserveIn * fee.denominator + amounts.sum * fee.numerator) := by
  induction amounts generalizing reserveIn reserveOut with
  | nil => simp [Fee.left]
  | cons amountIn rest ih =>
    have first : reserveOut * (reserveIn * fee.denominator) ≤
        (reserveOut - fee.quote amountIn reserveIn reserveOut) *
          (reserveIn * fee.denominator + amountIn * fee.numerator) :=
      reserve_mul_le_left funded stocked
    have below : fee.quote amountIn reserveIn reserveOut < reserveOut :=
      quote_lt_reserve funded stocked
    have others := ih (show 0 < reserveIn + amountIn by omega)
      (show 0 < reserveOut - fee.quote amountIn reserveIn reserveOut by omega)
    have deepens : amountIn * fee.numerator ≤ amountIn * fee.denominator :=
      Nat.mul_le_mul_left _ fee.bounded
    have charged : 0 < reserveIn * fee.denominator :=
      Nat.mul_pos funded (Nat.lt_of_lt_of_le fee.positive fee.bounded)
    rw [Fee.left, List.sum_cons]
    rw [Nat.add_mul] at others ⊢
    generalize fee.left (reserveIn + amountIn)
      (reserveOut - fee.quote amountIn reserveIn reserveOut) rest = last at others ⊢
    generalize reserveOut - fee.quote amountIn reserveIn reserveOut = middle at first others
    generalize amountIn * fee.numerator = paid at first deepens ⊢
    generalize amountIn * fee.denominator = full at others deepens
    generalize rest.sum * fee.numerator = later at others ⊢
    generalize reserveIn * fee.denominator = depth at first others charged ⊢
    -- Both bounds are brought over the denominator of the later swaps, then it is cancelled.
    refine Nat.le_of_mul_le_mul_right ?_ (show 0 < depth + full + later by omega)
    calc reserveOut * depth * (depth + full + later)
        ≤ middle * (depth + paid) * (depth + full + later) := Nat.mul_le_mul_right _ first
      _ = middle * ((depth + paid) * (depth + full) + (depth + paid) * later) := by ring
      _ ≤ middle * ((depth + paid) * (depth + full) + (depth + full) * later) := by
          apply Nat.mul_le_mul_left
          apply Nat.add_le_add_left
          exact Nat.mul_le_mul_right _ (Nat.add_le_add_left deepens _)
      _ = middle * (depth + full) * (depth + (paid + later)) := by ring
      _ ≤ last * (depth + full + later) * (depth + (paid + later)) :=
          Nat.mul_le_mul_right _ others
      _ = last * (depth + (paid + later)) * (depth + full + later) := by ring

/-- **Splitting never pays.** One swap of the sum leaves no more than the pieces do. -/
theorem single_le_left (funded : 0 < reserveIn) (stocked : 0 < reserveOut) (amounts : List Nat) :
    reserveOut - fee.quote amounts.sum reserveIn reserveOut ≤
      fee.left reserveIn reserveOut amounts := by
  have kept : reserveOut * (reserveIn * fee.denominator) ≤
      fee.left reserveIn reserveOut amounts *
        (reserveIn * fee.denominator + amounts.sum * fee.numerator) :=
    reserve_mul_le_left_sum funded stocked amounts
  have charged : 0 < reserveIn * fee.denominator :=
    Nat.mul_pos funded (Nat.lt_of_lt_of_le fee.positive fee.bounded)
  generalize fee.left reserveIn reserveOut amounts = rest at kept ⊢
  by_cases enough : reserveOut ≤ rest
  · omega
  · obtain ⟨out, rfl⟩ := Nat.exists_eq_add_of_le (Nat.le_of_not_le enough)
    have paid : out ≤ fee.quote amounts.sum reserveIn (rest + out) := by
      rw [Fee.quote, Nat.le_div_iff_mul_le (by omega)]
      generalize amounts.sum * fee.numerator = withFee at kept ⊢
      generalize reserveIn * fee.denominator = depth at kept ⊢
      rw [Nat.add_mul, Nat.mul_add] at kept
      rw [Nat.mul_add, Nat.mul_add, Nat.mul_comm withFee rest, Nat.mul_comm withFee out]
      omega
    omega

end DexKnight.Support.ConstantProduct
