import Mathlib.Algebra.Order.Field.Basic
import Mathlib.Analysis.Real.Sqrt
import Mathlib.Data.Nat.Sqrt
import Mathlib.Tactic.FieldSimp
import Mathlib.Tactic.Linarith
import Mathlib.Tactic.LinearCombination
import Mathlib.Tactic.Positivity
import Mathlib.Tactic.Ring

/-! The gain of a two-leg route over an ordered field. Chaining two constant-product
quotes gives `C * x / (D + E * x)`, so what is earned on an input is a function with
one peak: it rises while `(D + E * x) ^ 2` is below `C * D` and falls after. -/
namespace DexKnight.Support.RouteOptimum

variable {K : Type*} [Field K] [LinearOrder K] [IsStrictOrderedRing K] {C D E x y : K}

/-- What the route returns over what was put in. -/
def gain (C D E x : K) : K := C * x / (D + E * x) - x

/-- Two inputs compared: the difference has the sign of one factor. -/
theorem gain_sub_gain (left : 0 < D + E * x) (right : 0 < D + E * y) :
    gain C D E y - gain C D E x =
      (y - x) * (C * D - (D + E * x) * (D + E * y)) / ((D + E * x) * (D + E * y)) := by
  have onLeft : C * x / (D + E * x) * (D + E * x) = C * x := div_mul_cancel₀ _ left.ne'
  have onRight : C * y / (D + E * y) * (D + E * y) = C * y := div_mul_cancel₀ _ right.ne'
  rw [eq_div_iff (mul_pos left right).ne', gain, gain]
  linear_combination (D + E * x) * onRight - (D + E * y) * onLeft

section Peak

variable (positive : 0 < D) (slope : 0 ≤ E) (nonnegative : 0 ≤ x) (ordered : x ≤ y)
include positive slope nonnegative ordered

/-- Up to the peak a larger input earns at least as much. -/
theorem gain_le_of_before (before : (D + E * y) * (D + E * y) ≤ C * D) :
    gain C D E x ≤ gain C D E y := by
  have scaled : E * x ≤ E * y := mul_le_mul_of_nonneg_left ordered slope
  have left : 0 < D + E * x := add_pos_of_pos_of_nonneg positive (mul_nonneg slope nonnegative)
  have right : 0 < D + E * y := by linarith
  have below : (D + E * x) * (D + E * y) ≤ (D + E * y) * (D + E * y) :=
    mul_le_mul_of_nonneg_right (by linarith) right.le
  have difference : 0 ≤ gain C D E y - gain C D E x := by
    rw [gain_sub_gain left right]
    refine div_nonneg (mul_nonneg (by linarith) (by linarith)) ?_
    exact (mul_pos left right).le
  linarith

/-- From the peak on a larger input earns at most as much. -/
theorem gain_le_of_after (past : C * D ≤ (D + E * x) * (D + E * x)) :
    gain C D E y ≤ gain C D E x := by
  have scaled : E * x ≤ E * y := mul_le_mul_of_nonneg_left ordered slope
  have left : 0 < D + E * x := add_pos_of_pos_of_nonneg positive (mul_nonneg slope nonnegative)
  have right : 0 < D + E * y := by linarith
  have above : (D + E * x) * (D + E * x) ≤ (D + E * x) * (D + E * y) :=
    mul_le_mul_of_nonneg_left (by linarith) left.le
  have difference : gain C D E y - gain C D E x ≤ 0 := by
    rw [gain_sub_gain left right]
    refine div_nonpos_of_nonpos_of_nonneg ?_ (mul_pos left right).le
    exact mul_nonpos_of_nonneg_of_nonpos (by linarith) (by linarith)
  linarith

end Peak

/-- One unrounded constant-product leg with a fee of `n / d`. -/
def leg (n d x reserveIn reserveOut : K) : K := x * n * reserveOut / (reserveIn * d + x * n)

/-- Two legs chained are one fraction of the input. -/
theorem leg_leg {n d inA inB outA outB : K} (fee : 0 < n) (scale : 0 < d) (funded : 0 ≤ inB)
    (nonnegative : 0 ≤ x) :
    leg n d (leg n d x inB outA) inA outB =
      n ^ 2 * outA * outB * x / (d ^ 2 * inB * inA + (n * d * inA + n ^ 2 * outA) * x) := by
  rcases nonnegative.eq_or_lt with rfl | given
  · simp [leg]
  · have first : 0 < inB * d + x * n := by positivity
    have firstNe : inB * d + x * n ≠ 0 := first.ne'
    unfold leg
    have merged : inA * d + x * n * outA / (inB * d + x * n) * n =
        (d ^ 2 * inB * inA + (n * d * inA + n ^ 2 * outA) * x) / (inB * d + x * n) := by
      field_simp
      ring
    rw [merged, div_mul_eq_mul_div, div_mul_eq_mul_div, div_div_div_cancel_right₀ firstNe]
    congr 1
    ring

/-! ## The closed form over the natural numbers -/

/-- The last whole input before the peak, by integer arithmetic alone. -/
def bestInput (C D E : Nat) : Nat := (Nat.sqrt (C * D) - D) / E

section Natural

variable {C D E : Nat}

theorem bestInput_before (earns : 0 < bestInput C D E) :
    (D + E * bestInput C D E) * (D + E * bestInput C D E) ≤ C * D := by
  have rounded : E * bestInput C D E ≤ Nat.sqrt (C * D) - D := Nat.mul_div_le _ _
  have room : 0 < Nat.sqrt (C * D) - D := by
    by_contra none
    have empty : Nat.sqrt (C * D) - D = 0 := by omega
    simp [bestInput, empty] at earns
  have under : D + E * bestInput C D E ≤ Nat.sqrt (C * D) := by omega
  exact (Nat.mul_le_mul under under).trans (Nat.sqrt_le _)

theorem bestInput_after (slope : 0 < E) :
    C * D < (D + E * (bestInput C D E + 1)) * (D + E * (bestInput C D E + 1)) := by
  have rounded : Nat.sqrt (C * D) - D < E * (bestInput C D E + 1) := Nat.lt_mul_div_succ _ slope
  have exceeds : Nat.sqrt (C * D) + 1 ≤ D + E * (bestInput C D E + 1) := by omega
  exact Nat.lt_of_lt_of_le (Nat.lt_succ_sqrt _) (Nat.mul_le_mul exceeds exceeds)

/-- The integer formula is the floor of the real one wherever it is positive. -/
theorem floor_peak (slope : 0 < E) (earns : 0 < bestInput C D E) :
    ⌊(Real.sqrt (C * D) - D) / E⌋ = (bestInput C D E : ℤ) := by
  have positive : (0 : ℝ) < E := Nat.cast_pos.mpr slope
  have before : ((D + E * bestInput C D E : ℕ) : ℝ) ≤ Real.sqrt (C * D) := by
    apply Real.le_sqrt_of_sq_le
    rw [pow_two]
    exact_mod_cast bestInput_before earns
  have past : Real.sqrt (C * D) < ((D + E * (bestInput C D E + 1) : ℕ) : ℝ) := by
    rw [Real.sqrt_lt' (by positivity), pow_two]
    exact_mod_cast bestInput_after slope
  push_cast at before past
  rw [Int.floor_eq_iff]
  constructor
  · rw [Int.cast_natCast, le_div_iff₀ positive]
    linarith
  · rw [Int.cast_natCast, div_lt_iff₀ positive]
    linarith

end Natural

end DexKnight.Support.RouteOptimum
