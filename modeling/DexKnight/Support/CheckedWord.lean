import Mathlib.Data.Nat.Basic
import Mathlib.Tactic.Ring

/-! Fixed-width unsigned words under two arithmetics. `BitVec` already has the
wrapping one; the operations here refuse instead of wrapping, as a checked
machine does. A checked result is the exact natural-number result, and whenever
the checked operation answers the wrapping one agrees with it: that pair of
facts is all a caller needs to compare a wrapping program with a checked one. -/
namespace DexKnight.Support.CheckedWord

variable {w : Nat} {x y z : BitVec w}

def addChecked (x y : BitVec w) : Option (BitVec w) :=
  if x.toNat + y.toNat < 2 ^ w then some (x + y) else none

def subChecked (x y : BitVec w) : Option (BitVec w) :=
  if y.toNat ≤ x.toNat then some (x - y) else none

def mulChecked (x y : BitVec w) : Option (BitVec w) :=
  if x.toNat * y.toNat < 2 ^ w then some (x * y) else none

def divChecked (x y : BitVec w) : Option (BitVec w) :=
  if y.toNat = 0 then none else some (x / y)

theorem addChecked_eq_some :
    addChecked x y = some z ↔ x.toNat + y.toNat < 2 ^ w ∧ z = x + y := by
  unfold addChecked
  split <;> simp_all [eq_comm]

theorem subChecked_eq_some :
    subChecked x y = some z ↔ y.toNat ≤ x.toNat ∧ z = x - y := by
  unfold subChecked
  split <;> simp_all [eq_comm]

theorem mulChecked_eq_some :
    mulChecked x y = some z ↔ x.toNat * y.toNat < 2 ^ w ∧ z = x * y := by
  unfold mulChecked
  split <;> simp_all [eq_comm]

theorem divChecked_eq_some :
    divChecked x y = some z ↔ y.toNat ≠ 0 ∧ z = x / y := by
  unfold divChecked
  split <;> simp_all [eq_comm]

/-! The exact value of a wrapping operation that stays in range. -/

theorem toNat_add_exact (fits : x.toNat + y.toNat < 2 ^ w) :
    (x + y).toNat = x.toNat + y.toNat := by
  rw [BitVec.toNat_add, Nat.mod_eq_of_lt fits]

theorem toNat_sub_exact (covered : y.toNat ≤ x.toNat) :
    (x - y).toNat = x.toNat - y.toNat :=
  BitVec.toNat_sub_of_le (BitVec.le_def.mpr covered)

theorem toNat_mul_exact (fits : x.toNat * y.toNat < 2 ^ w) :
    (x * y).toNat = x.toNat * y.toNat := by
  rw [BitVec.toNat_mul, Nat.mod_eq_of_lt fits]

/-! A checked operation on words whose values are known: it answers, and exactly. -/

theorem addChecked_exact {a b : Nat} (isX : x.toNat = a) (isY : y.toNat = b) (fits : a + b < 2 ^ w) :
    addChecked x y = some (x + y) ∧ (x + y).toNat = a + b := by
  subst isX isY
  exact ⟨addChecked_eq_some.mpr ⟨fits, rfl⟩, toNat_add_exact fits⟩

theorem subChecked_exact {a b : Nat} (isX : x.toNat = a) (isY : y.toNat = b) (covered : b ≤ a) :
    subChecked x y = some (x - y) ∧ (x - y).toNat = a - b := by
  subst isX isY
  exact ⟨subChecked_eq_some.mpr ⟨covered, rfl⟩, toNat_sub_exact covered⟩

theorem mulChecked_exact {a b : Nat} (isX : x.toNat = a) (isY : y.toNat = b) (fits : a * b < 2 ^ w) :
    mulChecked x y = some (x * y) ∧ (x * y).toNat = a * b := by
  subst isX isY
  exact ⟨mulChecked_eq_some.mpr ⟨fits, rfl⟩, toNat_mul_exact fits⟩

theorem lt_two_pow_of_le {a m v : Nat} (small : a < 2 ^ m) (room : m ≤ v) : a < 2 ^ v :=
  Nat.lt_of_lt_of_le small (Nat.pow_le_pow_right (by decide) room)

/-- A product needs no more bits than its factors together. -/
theorem mul_lt_two_pow {a b m n v : Nat} (left : a < 2 ^ m) (right : b < 2 ^ n) (room : m + n ≤ v) :
    a * b < 2 ^ v := by
  have product : a * b < 2 ^ (m + n) := by
    rw [Nat.pow_add]
    exact Nat.mul_lt_mul'' left right
  exact lt_two_pow_of_le product room

/-- A sum needs one bit more than its terms. -/
theorem add_lt_two_pow {a b m v : Nat} (left : a < 2 ^ m) (right : b < 2 ^ m) (room : m + 1 ≤ v) :
    a + b < 2 ^ v := by
  have twice : a + b < 2 ^ (m + 1) := by
    rw [Nat.pow_succ]
    omega
  exact lt_two_pow_of_le twice room

/-- Widening loses nothing. -/
theorem toNat_setWidth_exact {v : Nat} (wider : w ≤ v) : (x.setWidth v).toNat = x.toNat := by
  rw [BitVec.toNat_setWidth]
  exact Nat.mod_eq_of_lt (lt_two_pow_of_le x.isLt wider)

theorem eq_zero_iff_toNat : x = 0 ↔ x.toNat = 0 := by
  rw [← BitVec.toNat_inj]
  simp

theorem toNat_pos_iff : 0 < x.toNat ↔ x ≠ 0 := by
  rw [Nat.pos_iff_ne_zero, ne_eq, ne_eq, eq_zero_iff_toNat]

end DexKnight.Support.CheckedWord
