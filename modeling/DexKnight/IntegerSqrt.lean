import Mathlib.Data.Nat.Sqrt
import Mathlib.Tactic.Ring
import DexKnight.Core.Calculator
import DexKnight.Support.CheckedWord
import DexKnight.Support.Runs

/-! `integer_sqrt` computes the floor of the square root, and nothing in it wraps.
The digit-by-digit loop keeps a partial root that is exact in the digits decided so
far; the word called `result` is that root scaled to the digit under test, so that
one comparison decides the next digit. -/
namespace DexKnight.IntegerSqrt
open Core.Calculator Support.CheckedWord Support.Runs

variable {w : Nat} {bit value result : BitVec w} {rounds root number : Nat}

/-- The loop with every sum and difference checked: it answers only if none wraps. -/
def sqrtLoopChecked {n : Nat} : (fuel : Nat) → (bit value result : BitVec n) → Option (BitVec n)
  | 0, _, _, result => some result
  | fuel + 1, bit, value, result =>
    if bit = 0 then
      some result
    else do
      let trial ← addChecked result bit
      if value ≥ trial then
        let rest ← subChecked value trial
        let next ← addChecked (result >>> 1) bit
        sqrtLoopChecked fuel (bit >>> 2) rest next
      else
        sqrtLoopChecked fuel (bit >>> 2) value (result >>> 1)

/-- `integer_sqrt` over the checked loop. -/
def integerSqrtChecked {n : Nat} (value : BitVec n) : Option (BitVec n) :=
  sqrtLoopChecked n (alignBit n (1#n <<< (n - 2)) value) value 0

/-- With this many digits left, `root` is the root in the digits decided so far. -/
structure Partial (number rounds root : Nat) (bit value result : BitVec w) : Prop where
  bit : bit.toNat = 4 ^ rounds / 4
  value : value.toNat + root * root = number
  result : result.toNat = root * 2 ^ rounds
  above : number < (root + 2 ^ rounds) * (root + 2 ^ rounds)
  inside : (root + 2 ^ rounds) * (root + 2 ^ rounds) ≤ 2 ^ w

namespace Partial

theorem done (state : Partial number 0 root bit value result) :
    bit = 0 ∧ result.toNat = Nat.sqrt number := by
  obtain ⟨isBit, isValue, isResult, above, _⟩ := state
  refine ⟨eq_zero_iff_toNat.mpr isBit, ?_⟩
  rw [isResult]
  have least : root * root ≤ number := by omega
  exact Nat.eq_sqrt.mpr ⟨by simpa using least, by simpa using above⟩

/-- The square of the next trial root, over the digits. -/
private theorem trial_square (root digit : Nat) :
    (root + digit) * (root + digit) = root * root + (root * (digit * 2) + digit * digit) := by
  ring

variable (state : Partial number (rounds + 1) root bit value result)
include state

theorem bit_eq : bit.toNat = 2 ^ rounds * 2 ^ rounds := by
  rw [state.bit, Nat.pow_succ, Nat.mul_div_cancel _ (by decide), ← Nat.mul_pow]

theorem bit_ne_zero : bit ≠ 0 := by
  have digit : 0 < 2 ^ rounds := Nat.two_pow_pos rounds
  rw [← toNat_pos_iff, state.bit_eq]
  exact Nat.mul_pos digit digit

/-- What is compared with the rest of the number: the growth of the square if the
digit is set. -/
theorem trial_eq : root * root + (result.toNat + bit.toNat) =
    (root + 2 ^ rounds) * (root + 2 ^ rounds) := by
  rw [trial_square, state.result, state.bit_eq, Nat.pow_succ]

theorem trial_fits : result.toNat + bit.toNat < 2 ^ w := by
  have square := state.trial_eq
  have digit : 0 < 2 ^ rounds := Nat.two_pow_pos rounds
  have wider : (root + 2 ^ rounds) * (root + 2 ^ rounds) <
      (root + 2 ^ (rounds + 1)) * (root + 2 ^ (rounds + 1)) := by
    rw [Nat.pow_succ]
    exact Nat.mul_lt_mul'' (by omega) (by omega)
  have bound := state.inside
  omega

theorem half_eq : (result >>> 1).toNat = root * 2 ^ rounds := by
  rw [BitVec.toNat_ushiftRight, Nat.shiftRight_eq_div_pow, state.result, Nat.pow_succ,
    ← Nat.mul_assoc]
  exact Nat.mul_div_cancel _ (by decide)

theorem half_fits : (result >>> 1).toNat + bit.toNat < 2 ^ w := by
  have fits := state.trial_fits
  have half := state.half_eq
  have whole := state.result
  rw [Nat.pow_succ, ← Nat.mul_assoc] at whole
  omega

theorem shifted_bit : (bit >>> 2).toNat = 4 ^ rounds / 4 := by
  rw [BitVec.toNat_ushiftRight, Nat.shiftRight_eq_div_pow, state.bit, Nat.pow_succ,
    Nat.mul_div_cancel _ (by decide)]

/-- The digit is set: the trial square still fits under the number. -/
theorem accept (fits : result + bit ≤ value) :
    Partial number rounds (root + 2 ^ rounds) (bit >>> 2) (value - (result + bit))
      ((result >>> 1) + bit) := by
  have trial := toNat_add_exact state.trial_fits
  have covered : (result + bit).toNat ≤ value.toNat := BitVec.le_def.mp fits
  have square := state.trial_eq
  have isValue := state.value
  have double : root + 2 ^ rounds + 2 ^ rounds = root + 2 ^ (rounds + 1) := by
    rw [Nat.pow_succ]
    omega
  refine ⟨state.shifted_bit, ?_, ?_, ?_, ?_⟩
  · rw [toNat_sub_exact covered, trial]
    omega
  · rw [toNat_add_exact state.half_fits, state.half_eq, state.bit_eq, Nat.add_mul]
  · rw [double]
    exact state.above
  · rw [double]
    exact state.inside

/-- The digit is clear: the trial square already exceeds the number. -/
theorem reject (short : ¬ result + bit ≤ value) :
    Partial number rounds root (bit >>> 2) value (result >>> 1) := by
  have trial := toNat_add_exact state.trial_fits
  have lacking : value.toNat < (result + bit).toNat :=
    Nat.lt_of_not_le fun enough => short (BitVec.le_def.mpr enough)
  have square := state.trial_eq
  have isValue := state.value
  refine ⟨state.shifted_bit, isValue, state.half_eq, by omega, ?_⟩
  have narrower : (root + 2 ^ rounds) * (root + 2 ^ rounds) ≤
      (root + 2 ^ (rounds + 1)) * (root + 2 ^ (rounds + 1)) := by
    rw [Nat.pow_succ]
    exact Nat.mul_le_mul (by omega) (by omega)
  exact narrower.trans state.inside

end Partial

/-- From a partial root the loop ends with the root, and no step of it wraps. -/
theorem sqrtLoop_exact {fuel : Nat} (state : Partial number rounds root bit value result)
    (enough : rounds < fuel) :
    sqrtLoopChecked fuel bit value result = some (sqrtLoop fuel bit value result) ∧
      (sqrtLoop fuel bit value result).toNat = Nat.sqrt number := by
  induction fuel generalizing rounds root bit value result with
  | zero => omega
  | succ fuel ih =>
    cases rounds with
    | zero =>
      obtain ⟨rfl, isRoot⟩ := state.done
      simp only [sqrtLoopChecked, sqrtLoop]
      exact ⟨rfl, isRoot⟩
    | succ rounds =>
      have left : rounds < fuel := by omega
      have trial : addChecked result bit = some (result + bit) :=
        addChecked_eq_some.mpr ⟨state.trial_fits, rfl⟩
      simp only [sqrtLoopChecked, sqrtLoop, if_neg state.bit_ne_zero, trial, ge_iff_le,
        Option.bind_eq_bind, Option.bind_some]
      by_cases set : result + bit ≤ value
      · have rest : subChecked value (result + bit) = some (value - (result + bit)) :=
          subChecked_eq_some.mpr ⟨BitVec.le_def.mp set, rfl⟩
        have next : addChecked (result >>> 1) bit = some ((result >>> 1) + bit) :=
          addChecked_eq_some.mpr ⟨state.half_fits, rfl⟩
        simp only [if_pos set, rest, next, Option.bind_some]
        exact ih (state.accept set) left
      · simp only [if_neg set]
        exact ih (state.reject set) left

/-- The alignment ends, and at the highest digit that can be set: the bit is gone, or
it is a power of four that the number is less than four times as large as. -/
theorem alignBit_exact {fuel : Nat} (isBit : bit.toNat = 4 ^ rounds / 4)
    (above : value.toNat < 4 ^ rounds) (enough : rounds ≤ fuel) :
    ¬ alignBit fuel bit value > value ∧ ∃ left ≤ rounds,
      (alignBit fuel bit value).toNat = 4 ^ left / 4 ∧ value.toNat < 4 ^ left := by
  induction fuel generalizing bit rounds with
  | zero =>
    obtain rfl : rounds = 0 := by omega
    have gone : bit = 0 := eq_zero_iff_toNat.mpr isBit
    subst gone
    exact ⟨by simp [alignBit], 0, le_rfl, isBit, above⟩
  | succ fuel ih =>
    rw [alignBit]
    split
    · next larger =>
      cases rounds with
      | zero =>
        have gone : bit = 0 := eq_zero_iff_toNat.mpr isBit
        subst gone
        exact absurd larger (by simp)
      | succ rounds =>
        have isPower : bit.toNat = 4 ^ rounds := by
          rw [isBit, Nat.pow_succ, Nat.mul_div_cancel _ (by decide)]
        have shifted : (bit >>> 2).toNat = 4 ^ rounds / 4 := by
          rw [BitVec.toNat_ushiftRight, Nat.shiftRight_eq_div_pow, isPower]
        have below : value.toNat < 4 ^ rounds := by
          rw [← isPower]
          exact BitVec.lt_def.mp larger
        obtain ⟨ended, left, fewer, aligned⟩ := ih shifted below (by omega)
        exact ⟨ended, left, by omega, aligned⟩
    · next ended => exact ⟨ended, rounds, le_rfl, isBit, above⟩

/-- **The square root is exact.** For every word of an even width, `integer_sqrt` is
the floor of the square root and no addition or subtraction in it wraps. -/
theorem integerSqrt_exact {half : Nat} (positive : 0 < half) (number : BitVec (2 * half)) :
    integerSqrtChecked number = some (integerSqrt number) ∧
      (integerSqrt number).toNat = Nat.sqrt number.toNat := by
  have width : (4 : Nat) ^ half = 2 ^ (2 * half) := by
    rw [Nat.pow_mul]
  have top : (1#(2 * half) <<< (2 * half - 2)).toNat = 4 ^ half / 4 := by
    obtain ⟨rest, rfl⟩ := Nat.exists_eq_add_of_lt positive
    have below : 2 ^ (2 * rest) < 2 ^ (2 * (rest + 1)) :=
      Nat.pow_lt_pow_right (by decide) (by omega)
    have one : 1 % 2 ^ (2 * (rest + 1)) = 1 := Nat.mod_eq_of_lt (Nat.one_lt_two_pow (by omega))
    rw [Nat.zero_add, BitVec.toNat_shiftLeft, BitVec.toNat_ofNat, one, Nat.shiftLeft_eq, Nat.one_mul,
      show 2 * (rest + 1) - 2 = 2 * rest by omega, Nat.mod_eq_of_lt below, Nat.pow_succ,
      Nat.mul_div_cancel _ (by decide), Nat.pow_mul]
  have bounded : number.toNat < 4 ^ half := by
    rw [width]
    exact number.isLt
  have rounds : half ≤ 2 * half := by omega
  obtain ⟨_, left, fewer, aligned, above⟩ := alignBit_exact top bounded rounds
  have state : Partial number.toNat left 0
      (alignBit (2 * half) (1#(2 * half) <<< (2 * half - 2)) number) number 0 := by
    have square : (0 + 2 ^ left) * (0 + 2 ^ left) = 4 ^ left := by
      rw [Nat.zero_add, ← Nat.mul_pow]
    refine ⟨aligned, by simp, by simp, ?_, ?_⟩
    · rw [square]
      exact above
    · rw [square, ← width]
      exact Nat.pow_le_pow_right (by decide) fewer
  exact sqrtLoop_exact state (by omega)

/-! ## The loops themselves

The fuel of the two loops is the width. It is never used up: each loop leaves by its own
test. -/

/-- The variables of the second loop. -/
structure Digits (w : Nat) where
  bit : BitVec w
  value : BitVec w
  result : BitVec w

/-- One round of it, refused where a sum or a difference would wrap. -/
def Digits.nextChecked (digits : Digits w) : Option (Digits w) := do
  let trial ← addChecked digits.result digits.bit
  if digits.value ≥ trial then
    let rest ← subChecked digits.value trial
    let next ← addChecked (digits.result >>> 1) digits.bit
    some ⟨digits.bit >>> 2, rest, next⟩
  else
    some ⟨digits.bit >>> 2, digits.value, digits.result >>> 1⟩

/-- Two bits fewer leave a quarter. -/
theorem shifted_lt {fuel : Nat} (bound : bit.toNat < 4 ^ (fuel + 1)) : (bit >>> 2).toNat < 4 ^ fuel := by
  rw [BitVec.toNat_ushiftRight, Nat.shiftRight_eq_div_pow]
  rw [Nat.pow_succ] at bound
  exact Nat.div_lt_of_lt_mul (by omega)

theorem alignBit_exits {fuel : Nat} (bound : bit.toNat < 4 ^ fuel) :
    Exits (· > value) (fun bit => some (bit >>> 2)) bit (alignBit fuel bit value) := by
  induction fuel generalizing bit with
  | zero =>
    have gone : bit = 0 := eq_zero_iff_toNat.mpr (by simpa using bound)
    subst gone
    exact .done (by simp)
  | succ fuel ih =>
    rw [alignBit]
    split
    · next larger => exact .round larger rfl (ih (shifted_lt bound))
    · next ended => exact .done ended

theorem sqrtLoop_exits {fuel : Nat} {root : BitVec w} (bound : bit.toNat < 4 ^ fuel)
    (checked : sqrtLoopChecked fuel bit value result = some root) :
    ∃ final, Exits (fun digits => digits.bit ≠ 0) Digits.nextChecked ⟨bit, value, result⟩ final ∧
      final.result = root := by
  induction fuel generalizing bit value result with
  | zero =>
    have gone : bit = 0 := eq_zero_iff_toNat.mpr (by simpa using bound)
    rw [sqrtLoopChecked] at checked
    exact ⟨_, .done (not_not.mpr gone), Option.some.inj checked⟩
  | succ fuel ih =>
    rw [sqrtLoopChecked] at checked
    split at checked
    · next gone => exact ⟨_, .done (not_not.mpr gone), Option.some.inj checked⟩
    · next running =>
      obtain ⟨trial, isTrial, checked⟩ := Option.bind_eq_some_iff.mp checked
      split at checked
      · next set =>
        obtain ⟨rest, isRest, checked⟩ := Option.bind_eq_some_iff.mp checked
        obtain ⟨next, isNext, checked⟩ := Option.bind_eq_some_iff.mp checked
        obtain ⟨final, exits, isRoot⟩ := ih (shifted_lt bound) checked
        refine ⟨final, .round running ?_ exits, isRoot⟩
        simp [Digits.nextChecked, isTrial, set, isRest, isNext]
      · next clear =>
        obtain ⟨final, exits, isRoot⟩ := ih (shifted_lt bound) checked
        refine ⟨final, .round running ?_ exits, isRoot⟩
        simp [Digits.nextChecked, isTrial, clear]

/-- **`integer_sqrt` ends with the root.** Both loops come to their end for every word of
an even width, no sum or difference on the way wraps, and the result squared is the
largest square in the word. -/
theorem integer_sqrt_ends_with_root {n : Nat} (even : 2 ∣ n) (wide : 2 ≤ n) (number : BitVec n) :
    (∃ aligned final,
      Exits (· > number) (fun bit => some (bit >>> 2)) (1#n <<< (n - 2)) aligned ∧
      Exits (fun digits => digits.bit ≠ 0) Digits.nextChecked ⟨aligned, number, 0⟩ final ∧
      final.result = integerSqrt number) ∧
    (integerSqrt number).toNat * (integerSqrt number).toNat ≤ number.toNat ∧
    number.toNat < ((integerSqrt number).toNat + 1) * ((integerSqrt number).toNat + 1) := by
  obtain ⟨half, rfl⟩ := even
  obtain ⟨checked, isRoot⟩ := integerSqrt_exact (show 0 < half by omega) number
  have small (bit : BitVec (2 * half)) : bit.toNat < 4 ^ (2 * half) := by
    have powers : 2 ^ (2 * half) ≤ 4 ^ (2 * half) := Nat.pow_le_pow_left (by decide) _
    have bound := bit.isLt
    omega
  obtain ⟨final, exits, isResult⟩ := sqrtLoop_exits (small _) checked
  refine ⟨⟨_, final, alignBit_exits (small _), exits, isResult⟩, ?_, ?_⟩
  · rw [isRoot]
    exact Nat.sqrt_le _
  · rw [isRoot]
    exact Nat.lt_succ_sqrt _

/-- The largest byte. -/
theorem integer_sqrt_ends_with_root_byte :
    (integerSqrt 255#8).toNat = 15 ∧ 15 * 15 ≤ 255 ∧ 255 < (15 + 1) * (15 + 1) := by
  have ends := integer_sqrt_ends_with_root (by decide) (by decide) 255#8
  have root : (integerSqrt 255#8).toNat = 15 := by decide +kernel
  rw [root] at ends
  exact ⟨root, ends.2⟩

end DexKnight.IntegerSqrt
