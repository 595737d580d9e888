import Mathlib.Data.Nat.Digits.Lemmas

/-! Big-endian byte strings of a fixed width: the value of a string, the string that
stores a value, and that each undoes the other. -/
namespace DexKnight.Support.BigEndian

variable {first second bytes : List UInt8} {width number : Nat}

/-- The value of a byte string, most significant byte first. -/
def value (bytes : List UInt8) : Nat := Nat.ofDigits 256 (bytes.reverse.map UInt8.toNat)

/-- A number stored in so many bytes; higher digits are lost. -/
def store (width number : Nat) : List UInt8 :=
  (List.range width).map fun index => UInt8.ofNat (number / 256 ^ (width - 1 - index) % 256)

@[simp] theorem store_length : (store width number).length = width := by
  simp [store]

theorem digits_lt (bytes : List UInt8) : ∀ digit ∈ bytes.reverse.map UInt8.toNat, digit < 256 := by
  intro digit member
  obtain ⟨byte, _, rfl⟩ := List.mem_map.mp member
  exact byte.toNat_lt

theorem value_lt (bytes : List UInt8) : value bytes < 256 ^ bytes.length := by
  have bound := Nat.ofDigits_lt_base_pow_length (by decide) (digits_lt bytes)
  rwa [List.length_map, List.length_reverse] at bound

/-- Strings of one width have different values. -/
theorem value_inj (sameWidth : first.length = second.length) (same : value first = value second) :
    first = second := by
  have digits : first.reverse.map UInt8.toNat = second.reverse.map UInt8.toNat :=
    Nat.ofDigits_inj_of_len_eq (by decide) (by simp [sameWidth]) (digits_lt first)
      (digits_lt second) same
  have reversed := List.map_injective_iff.mpr (fun _ _ => UInt8.toNat_inj.mp) digits
  exact List.reverse_injective reversed

theorem value_cons (byte : UInt8) (rest : List UInt8) :
    value (byte :: rest) = value rest + 256 ^ rest.length * byte.toNat := by
  simp [value, Nat.ofDigits_append]

theorem store_succ (width number : Nat) :
    store (width + 1) number = UInt8.ofNat (number / 256 ^ width % 256) :: store width number := by
  rw [store, List.range_succ_eq_map, List.map_cons, List.map_map]
  congr 1
  apply List.map_congr_left
  intro index _
  have exponent : width + 1 - 1 - (index + 1) = width - 1 - index := by omega
  rw [Function.comp_apply, Nat.succ_eq_add_one, exponent]

/-- Reading back what was stored. -/
theorem value_store (width number : Nat) : value (store width number) = number % 256 ^ width := by
  induction width with
  | zero => simp [store, value, Nat.mod_one]
  | succ width ih =>
    have digit : (UInt8.ofNat (number / 256 ^ width % 256)).toNat = number / 256 ^ width % 256 :=
      UInt8.toNat_ofNat_of_lt (Nat.mod_lt _ (by decide))
    rw [store_succ, value_cons, ih, store_length, digit, Nat.mod_pow_succ]

end DexKnight.Support.BigEndian
