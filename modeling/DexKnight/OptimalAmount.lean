import DexKnight.IntegerSqrt
import DexKnight.Support.RouteOptimum

/-! The closed-form input of a route is the optimum. The calculator widens every
reserve before it multiplies, so its words are the exact coefficients of the route;
its integer root and floor division then land on the last whole input before the
peak of the exact profit, and the clamp only moves the input down the rising side. -/
namespace DexKnight.OptimalAmount
open Core.Types Core.Calculator Support.CheckedWord Support.RouteOptimum IntegerSqrt

variable {buyPool sellPool : PoolSnapshot} {params : Params}

/-! ## The coefficients over exact numbers -/

def coefficientC (buyPool sellPool : PoolSnapshot) : Nat :=
  997 * 997 * buyPool.reserveA.toNat * sellPool.reserveB.toNat

def coefficientD (buyPool sellPool : PoolSnapshot) : Nat :=
  1000 * 1000 * buyPool.reserveB.toNat * sellPool.reserveA.toNat

def coefficientE (buyPool sellPool : PoolSnapshot) : Nat :=
  997 * 1000 * sellPool.reserveA.toNat + 997 * 997 * buyPool.reserveA.toNat

/-- The exact profit of a route on an input, over the rationals. -/
def exactProfit (buyPool sellPool : PoolSnapshot) (x : ℚ) : ℚ :=
  gain (coefficientC buyPool sellPool : ℚ) (coefficientD buyPool sellPool)
    (coefficientE buyPool sellPool) x

/-- The unrounded output of both legs. -/
def exactRoute (buyPool sellPool : PoolSnapshot) (x : ℚ) : ℚ :=
  leg 997 1000 (leg 997 1000 x buyPool.reserveB.toNat buyPool.reserveA.toNat)
    sellPool.reserveA.toNat sellPool.reserveB.toNat

/-- The whole input before the peak of the exact profit. -/
def peakInput (buyPool sellPool : PoolSnapshot) : Nat :=
  bestInput (coefficientC buyPool sellPool) (coefficientD buyPool sellPool)
    (coefficientE buyPool sellPool)

/-! ## No intermediate wraps -/

/-- The last part of the search, once the coefficients are there. -/
def closedForm (c d e : BitVec 1024) (limit : Uint256) : Option Uint256 :=
  if c = 0 ∨ d = 0 ∨ e = 0 then
    none
  else
    let root := integerSqrt (c.setWidth 2048 * d.setWidth 2048)
    if root ≤ d.setWidth 2048 then
      none
    else
      let amountInB := (root - d.setWidth 2048) / e.setWidth 2048
      if amountInB = 0 then
        none
      else
        let maxAmountInB := limit.setWidth 2048
        some ((if amountInB > maxAmountInB then maxAmountInB else amountInB).setWidth 256)

/-- The same with every operation checked, the narrowing to 256 bits included. -/
def closedFormChecked (c d e : BitVec 1024) (limit : Uint256) : Option (Option Uint256) :=
  if c = 0 ∨ d = 0 ∨ e = 0 then
    some none
  else do
    let radicand ← mulChecked (c.setWidth 2048) (d.setWidth 2048)
    let root ← integerSqrtChecked radicand
    if root ≤ d.setWidth 2048 then
      some none
    else
      let excess ← subChecked root (d.setWidth 2048)
      let amountInB := excess / e.setWidth 2048
      if amountInB = 0 then
        some none
      else
        let maxAmountInB := limit.setWidth 2048
        let clamped := if amountInB > maxAmountInB then maxAmountInB else amountInB
        if clamped.toNat < 2 ^ 256 then some (some (clamped.setWidth 256)) else none

/-- `optimal_amount_in_b` with every operation checked: it answers only if nothing in
it wraps. -/
def optimalAmountInBChecked (buyPool sellPool : PoolSnapshot) (params : Params) :
    Option (Option Uint256) := do
  let feeNumerator := kFeeNumerator.setWidth 1024
  let feeDenominator := kFeeDenominator.setWidth 1024
  let feeNumeratorSquared ← mulChecked feeNumerator feeNumerator
  let feeDenominatorSquared ← mulChecked feeDenominator feeDenominator
  let scaledC ← mulChecked feeNumeratorSquared (buyPool.reserveA.setWidth 1024)
  let c ← mulChecked scaledC (sellPool.reserveB.setWidth 1024)
  let scaledD ← mulChecked feeDenominatorSquared (buyPool.reserveB.setWidth 1024)
  let d ← mulChecked scaledD (sellPool.reserveA.setWidth 1024)
  let feeProduct ← mulChecked feeNumerator feeDenominator
  let leftE ← mulChecked feeProduct (sellPool.reserveA.setWidth 1024)
  let rightE ← mulChecked feeNumeratorSquared (buyPool.reserveA.setWidth 1024)
  let e ← addChecked leftE rightE
  closedFormChecked c d e params.maxAmountInB

/-- The clamp and the narrowing keep the smaller of the two amounts exactly. -/
private theorem clamp_exact {amount : BitVec 2048} {best : Nat} (isAmount : amount.toNat = best)
    (limit : Uint256) :
    (if amount > limit.setWidth 2048 then limit.setWidth 2048 else amount).toNat =
      min best limit.toNat := by
  have widened : (limit.setWidth 2048).toNat = limit.toNat := toNat_setWidth_exact (by decide)
  split
  · next larger =>
    have above : limit.toNat < best := by
      rw [← isAmount, ← widened]
      exact BitVec.lt_def.mp larger
    rw [widened]
    omega
  · next within =>
    have below : best ≤ limit.toNat := by
      rw [← isAmount, ← widened]
      exact Nat.le_of_not_lt fun larger => within (BitVec.lt_def.mpr larger)
    rw [isAmount]
    omega

/-- From exact coefficients the search ends with the exact closed form. -/
theorem closedForm_exact {c d e : BitVec 1024} {C D E : Nat} (isC : c.toNat = C) (isD : d.toNat = D)
    (isE : e.toNat = E) (boundC : C < 2 ^ 532) (boundD : D < 2 ^ 532) (limit : Uint256) :
    closedFormChecked c d e limit = some (closedForm c d e limit) ∧
      (closedForm c d e limit).map BitVec.toNat =
        if C = 0 ∨ D = 0 ∨ E = 0 ∨ bestInput C D E = 0 then none
        else some (min (bestInput C D E) limit.toNat) := by
  have degenerate : (c = 0 ∨ d = 0 ∨ e = 0) ↔ (C = 0 ∨ D = 0 ∨ E = 0) := by
    rw [eq_zero_iff_toNat, eq_zero_iff_toNat, eq_zero_iff_toNat, isC, isD, isE]
  unfold closedForm closedFormChecked
  by_cases zero : C = 0 ∨ D = 0 ∨ E = 0
  · rw [if_pos (degenerate.mpr zero), if_pos (degenerate.mpr zero), if_pos]
    · exact ⟨rfl, rfl⟩
    · rcases zero with zero | zero | zero
      · exact .inl zero
      · exact .inr (.inl zero)
      · exact .inr (.inr (.inl zero))
  rw [if_neg (degenerate.not.mpr zero), if_neg (degenerate.not.mpr zero)]
  have wideC : (c.setWidth 2048).toNat = C := (toNat_setWidth_exact (by decide)).trans isC
  have wideD : (d.setWidth 2048).toNat = D := (toNat_setWidth_exact (by decide)).trans isD
  have wideE : (e.setWidth 2048).toNat = E := (toNat_setWidth_exact (by decide)).trans isE
  obtain ⟨multiplied, isRadicand⟩ := mulChecked_exact wideC wideD
    (mul_lt_two_pow boundC boundD (by decide))
  obtain ⟨rooted, isRoot⟩ := integerSqrt_exact (show 0 < 1024 by decide)
    (c.setWidth 2048 * d.setWidth 2048)
  rw [isRadicand] at isRoot
  generalize c.setWidth 2048 * d.setWidth 2048 = radicand at multiplied rooted isRoot ⊢
  simp only [multiplied, rooted, Option.bind_eq_bind, Option.bind_some]
  generalize integerSqrt radicand = root at isRoot ⊢
  by_cases short : Nat.sqrt (C * D) ≤ D
  · have small : root ≤ d.setWidth 2048 := by
      rw [BitVec.le_def, isRoot, wideD]
      exact short
    have nothing : bestInput C D E = 0 := by
      simp [bestInput, Nat.sub_eq_zero_of_le short]
    rw [if_pos small, if_pos small, if_pos (.inr (.inr (.inr nothing)))]
    exact ⟨rfl, rfl⟩
  · have large : ¬ root ≤ d.setWidth 2048 := by
      rw [BitVec.le_def, isRoot, wideD]
      exact short
    obtain ⟨subtracted, isExcess⟩ := subChecked_exact isRoot wideD (Nat.le_of_not_le short)
    have isAmount : ((root - d.setWidth 2048) / e.setWidth 2048).toNat = bestInput C D E := by
      rw [BitVec.toNat_udiv, isExcess, wideE, bestInput]
    rw [if_neg large, if_neg large, subtracted, Option.bind_some]
    generalize (root - d.setWidth 2048) / e.setWidth 2048 = amount at isAmount ⊢
    have empty : amount = 0 ↔ bestInput C D E = 0 := by
      rw [eq_zero_iff_toNat, isAmount]
    by_cases nothing : bestInput C D E = 0
    · rw [if_pos (empty.mpr nothing), if_pos (empty.mpr nothing),
        if_pos (.inr (.inr (.inr nothing)))]
      exact ⟨rfl, rfl⟩
    · have someInput : ¬ (C = 0 ∨ D = 0 ∨ E = 0 ∨ bestInput C D E = 0) := by
        rintro (isZero | isZero | isZero | isZero)
        · exact zero (.inl isZero)
        · exact zero (.inr (.inl isZero))
        · exact zero (.inr (.inr isZero))
        · exact nothing isZero
      have clamped := clamp_exact isAmount limit
      have narrow : (if amount > limit.setWidth 2048 then limit.setWidth 2048
          else amount).toNat < 2 ^ 256 := by
        rw [clamped]
        exact Nat.lt_of_le_of_lt (Nat.min_le_right _ _) limit.isLt
      rw [if_neg (empty.not.mpr nothing), if_neg (empty.not.mpr nothing), if_pos narrow,
        if_neg someInput]
      refine ⟨rfl, ?_⟩
      rw [Option.map_some, BitVec.toNat_setWidth, Nat.mod_eq_of_lt narrow, clamped]

/-- **The search is exact.** No operation of it wraps at its width, and it answers with
the last whole input before the peak, or the limit if that is smaller. -/
theorem optimalAmountInB_exact (buyPool sellPool : PoolSnapshot) (params : Params) :
    optimalAmountInBChecked buyPool sellPool params =
        some (optimalAmountInB buyPool sellPool params) ∧
      (optimalAmountInB buyPool sellPool params).map BitVec.toNat =
        if coefficientC buyPool sellPool = 0 ∨ coefficientD buyPool sellPool = 0 ∨
            coefficientE buyPool sellPool = 0 ∨ peakInput buyPool sellPool = 0 then none
        else some (min (peakInput buyPool sellPool) params.maxAmountInB.toNat) := by
  have isNumerator : (kFeeNumerator.setWidth 1024).toNat = 997 := by decide
  have isDenominator : (kFeeDenominator.setWidth 1024).toNat = 1000 := by decide
  have wide (reserve : Uint256) : (reserve.setWidth 1024).toNat = reserve.toNat :=
    toNat_setWidth_exact (by decide)
  have scale {factor : Nat} (reserve : Uint256) (small : factor < 2 ^ 20) :
      factor * reserve.toNat < 2 ^ 276 := mul_lt_two_pow small reserve.isLt (by decide)
  have small : 997 * 997 < 2 ^ 20 := by decide
  have smallD : 1000 * 1000 < 2 ^ 20 := by decide
  have smallE : 997 * 1000 < 2 ^ 20 := by decide
  obtain ⟨square, isSquare⟩ := mulChecked_exact isNumerator isNumerator (lt_two_pow_of_le small (by decide))
  obtain ⟨squareD, isSquareD⟩ :=
    mulChecked_exact isDenominator isDenominator (lt_two_pow_of_le smallD (by decide))
  obtain ⟨cross, isCross⟩ := mulChecked_exact isNumerator isDenominator (lt_two_pow_of_le smallE (by decide))
  obtain ⟨scaledC, isScaledC⟩ := mulChecked_exact isSquare (wide buyPool.reserveA)
    (lt_two_pow_of_le (scale _ small) (by decide))
  obtain ⟨madeC, isC⟩ := mulChecked_exact isScaledC (wide sellPool.reserveB)
    (mul_lt_two_pow (scale _ small) sellPool.reserveB.isLt (by decide))
  obtain ⟨scaledD, isScaledD⟩ := mulChecked_exact isSquareD (wide buyPool.reserveB)
    (lt_two_pow_of_le (scale _ smallD) (by decide))
  obtain ⟨madeD, isD⟩ := mulChecked_exact isScaledD (wide sellPool.reserveA)
    (mul_lt_two_pow (scale _ smallD) sellPool.reserveA.isLt (by decide))
  obtain ⟨leftE, isLeftE⟩ := mulChecked_exact isCross (wide sellPool.reserveA)
    (lt_two_pow_of_le (scale _ smallE) (by decide))
  obtain ⟨madeE, isE⟩ := addChecked_exact isLeftE isScaledC
    (add_lt_two_pow (scale _ smallE) (scale _ small) (by decide))
  have boundC : coefficientC buyPool sellPool < 2 ^ 532 :=
    mul_lt_two_pow (scale _ small) sellPool.reserveB.isLt (by decide)
  have boundD : coefficientD buyPool sellPool < 2 ^ 532 :=
    mul_lt_two_pow (scale _ smallD) sellPool.reserveA.isLt (by decide)
  unfold optimalAmountInBChecked
  simp only [square, squareD, cross, scaledC, madeC, scaledD, madeD, leftE, madeE,
    Option.bind_eq_bind, Option.bind_some]
  exact closedForm_exact isC isD isE boundC boundD params.maxAmountInB

/-- What an answer and the lack of one say about the coefficients. -/
theorem optimalAmountInB_eq_some {amount : Uint256}
    (answer : optimalAmountInB buyPool sellPool params = some amount) :
    (0 < coefficientC buyPool sellPool ∧ 0 < coefficientD buyPool sellPool ∧
        0 < coefficientE buyPool sellPool ∧ 0 < peakInput buyPool sellPool) ∧
      amount.toNat = min (peakInput buyPool sellPool) params.maxAmountInB.toNat := by
  have value := (optimalAmountInB_exact buyPool sellPool params).2
  rw [answer] at value
  split at value
  · cases value
  · next someInput =>
    simp only [not_or, ← ne_eq, ← Nat.pos_iff_ne_zero] at someInput
    exact ⟨someInput, Option.some.inj value⟩

private theorem optimalAmountInB_eq_none (answer : optimalAmountInB buyPool sellPool params = none)
    (funded : 0 < coefficientC buyPool sellPool ∧ 0 < coefficientD buyPool sellPool ∧
      0 < coefficientE buyPool sellPool) : peakInput buyPool sellPool = 0 := by
  have value := (optimalAmountInB_exact buyPool sellPool params).2
  rw [answer] at value
  split at value
  · next nothing =>
    obtain ⟨positiveC, positiveD, positiveE⟩ := funded
    rcases nothing with zero | zero | zero | zero
    · omega
    · omega
    · omega
    · exact zero
  · cases value

/-- Funded pools have positive coefficients. -/
private theorem coefficients_pos (buyA : buyPool.reserveA ≠ 0) (buyB : buyPool.reserveB ≠ 0)
    (sellA : sellPool.reserveA ≠ 0) (sellB : sellPool.reserveB ≠ 0) :
    0 < coefficientC buyPool sellPool ∧ 0 < coefficientD buyPool sellPool ∧
      0 < coefficientE buyPool sellPool := by
  have positiveA := toNat_pos_iff.mpr buyA
  have positiveB := toNat_pos_iff.mpr buyB
  have sellsA := toNat_pos_iff.mpr sellA
  have sellsB := toNat_pos_iff.mpr sellB
  refine ⟨?_, ?_, ?_⟩
  · exact Nat.mul_pos (Nat.mul_pos (by decide) positiveA) sellsB
  · exact Nat.mul_pos (Nat.mul_pos (by decide) positiveB) sellsA
  · unfold coefficientE
    omega

section Peak

variable (positiveD : 0 < coefficientD buyPool sellPool)
include positiveD

/-- Below an input that is not past the peak, more input earns no less. -/
private theorem profit_rises {x y : Nat} (earns : 0 < peakInput buyPool sellPool) (ordered : x ≤ y)
    (before : y ≤ peakInput buyPool sellPool) :
    exactProfit buyPool sellPool x ≤ exactProfit buyPool sellPool y := by
  have under : (coefficientD buyPool sellPool + coefficientE buyPool sellPool * y) *
      (coefficientD buyPool sellPool + coefficientE buyPool sellPool * y) ≤
        coefficientC buyPool sellPool * coefficientD buyPool sellPool := by
    have scaled : coefficientD buyPool sellPool + coefficientE buyPool sellPool * y ≤
        coefficientD buyPool sellPool + coefficientE buyPool sellPool * peakInput buyPool sellPool :=
      Nat.add_le_add_left (Nat.mul_le_mul_left _ before) _
    exact (Nat.mul_le_mul scaled scaled).trans (bestInput_before earns)
  refine gain_le_of_before ?_ ?_ ?_ ?_ ?_
  · exact_mod_cast positiveD
  · exact_mod_cast Nat.zero_le _
  · exact_mod_cast Nat.zero_le _
  · exact_mod_cast ordered
  · exact_mod_cast under

/-- Above an input that is past the peak, more input earns no more. -/
private theorem profit_falls {x y : Nat} (positiveE : 0 < coefficientE buyPool sellPool)
    (past : peakInput buyPool sellPool < x) (ordered : x ≤ y) :
    exactProfit buyPool sellPool y ≤ exactProfit buyPool sellPool x := by
  have exceeds : coefficientC buyPool sellPool * coefficientD buyPool sellPool ≤
      (coefficientD buyPool sellPool + coefficientE buyPool sellPool * x) *
        (coefficientD buyPool sellPool + coefficientE buyPool sellPool * x) := by
    have scaled : coefficientD buyPool sellPool +
          coefficientE buyPool sellPool * (peakInput buyPool sellPool + 1) ≤
        coefficientD buyPool sellPool + coefficientE buyPool sellPool * x :=
      Nat.add_le_add_left (Nat.mul_le_mul_left _ past) _
    exact (bestInput_after positiveE).le.trans (Nat.mul_le_mul scaled scaled)
  refine gain_le_of_after ?_ ?_ ?_ ?_ ?_
  · exact_mod_cast positiveD
  · exact_mod_cast Nat.zero_le _
  · exact_mod_cast Nat.zero_le _
  · exact_mod_cast ordered
  · exact_mod_cast exceeds

end Peak

/-- **The closed form is the optimum.** For all reserves and parameters: the unrounded
output of a route is `C * x / (D + E * x)`; nothing in the search wraps; an answer is
the floor of the real optimum or the limit, whichever is smaller; up to an unclamped
answer the exact profit does not fall and after the next input it does not rise; up to
the limit it does not fall when the answer is the limit; and where funded pools get no
answer, no input earns more than the first. -/
theorem optimal_amount_is_the_optimum (buyPool sellPool : PoolSnapshot) (params : Params) :
    (∀ x : ℚ, 0 ≤ x → exactRoute buyPool sellPool x =
      coefficientC buyPool sellPool * x /
        (coefficientD buyPool sellPool + coefficientE buyPool sellPool * x)) ∧
      optimalAmountInBChecked buyPool sellPool params =
        some (optimalAmountInB buyPool sellPool params) ∧
      (∀ amount, optimalAmountInB buyPool sellPool params = some amount →
        (amount.toNat : ℤ) = min ⌊(Real.sqrt (coefficientC buyPool sellPool *
            coefficientD buyPool sellPool) - coefficientD buyPool sellPool) /
              coefficientE buyPool sellPool⌋ params.maxAmountInB.toNat ∧
          (⌊(Real.sqrt (coefficientC buyPool sellPool * coefficientD buyPool sellPool) -
              coefficientD buyPool sellPool) / coefficientE buyPool sellPool⌋ ≤
                (params.maxAmountInB.toNat : ℤ) →
            (∀ x : ℕ, x ≤ amount.toNat →
              exactProfit buyPool sellPool x ≤ exactProfit buyPool sellPool amount.toNat) ∧
            ∀ x : ℕ, amount.toNat + 1 ≤ x →
              exactProfit buyPool sellPool x ≤
                exactProfit buyPool sellPool ((amount.toNat + 1 : ℕ) : ℚ)) ∧
          (amount = params.maxAmountInB → ∀ x : ℕ, x ≤ params.maxAmountInB.toNat →
            exactProfit buyPool sellPool x ≤
              exactProfit buyPool sellPool params.maxAmountInB.toNat)) ∧
      (optimalAmountInB buyPool sellPool params = none →
        buyPool.reserveA ≠ 0 → buyPool.reserveB ≠ 0 → sellPool.reserveA ≠ 0 →
          sellPool.reserveB ≠ 0 → ∀ x : ℕ, 1 ≤ x →
            exactProfit buyPool sellPool x ≤ exactProfit buyPool sellPool 1) := by
  refine ⟨?_, (optimalAmountInB_exact buyPool sellPool params).1, ?_, ?_⟩
  · intro x nonnegative
    rw [exactRoute, leg_leg (by norm_num) (by norm_num) (by positivity) nonnegative]
    simp only [coefficientC, coefficientD, coefficientE]
    push_cast
    ring_nf
  · intro amount answer
    obtain ⟨⟨_, positiveD, positiveE, earns⟩, isAmount⟩ := optimalAmountInB_eq_some answer
    have floor := floor_peak positiveE earns
    change _ = (peakInput buyPool sellPool : ℤ) at floor
    rw [floor]
    refine ⟨by rw [isAmount]; exact Nat.cast_min _ _, ?_, ?_⟩
    · intro unclamped
      have within : peakInput buyPool sellPool ≤ params.maxAmountInB.toNat := by
        exact_mod_cast unclamped
      have isPeak : amount.toNat = peakInput buyPool sellPool := by omega
      rw [isPeak]
      exact ⟨fun x below => profit_rises positiveD earns below le_rfl,
        fun x above => profit_falls positiveD positiveE (Nat.lt_succ_self _) above⟩
    · rintro rfl x below
      exact profit_rises positiveD earns below (by omega)
  · intro answer buyA buyB sellA sellB x above
    have funded := coefficients_pos buyA buyB sellA sellB
    have nothing := optimalAmountInB_eq_none answer funded
    have falls := profit_falls funded.2.1 funded.2.2 (by rw [nothing]; exact Nat.one_pos) above
    exact_mod_cast falls

end DexKnight.OptimalAmount
