import Mathlib.Algebra.Group.Nat.Defs
import Mathlib.Tactic.Basic

/-! Hexadecimal numerals over character lists: a digit reader that takes both
cases, the numeral a writer prints without leading zeros, and the round trip. -/
namespace DexKnight.Support.Hex

/-- The value of one hexadecimal digit, of either case. -/
def hexDigit (c : Char) : Option Nat :=
  if '0' ≤ c ∧ c ≤ '9' then some (c.toNat - '0'.toNat)
  else if 'a' ≤ c ∧ c ≤ 'f' then some (c.toNat - 'a'.toNat + 10)
  else if 'A' ≤ c ∧ c ≤ 'F' then some (c.toNat - 'A'.toNat + 10)
  else none

/-- Reads digits, most significant first, onto an accumulator. -/
def readHex : List Char → Nat → Option Nat
  | [], value => some value
  | c :: rest, value => do
    let digit ← hexDigit c
    readHex rest (16 * value + digit)

/-- The numeral of a number: lower case, no leading zeros, `0` for zero. -/
def writeHex (value : Nat) : List Char := Nat.toDigits 16 value

variable {first second : List Char} {value : Nat}

theorem readHex_append :
    readHex (first ++ second) value = (readHex first value).bind (readHex second) := by
  induction first generalizing value with
  | nil => rfl
  | cons c rest ih =>
    cases digit : hexDigit c with
    | none => simp [readHex, digit]
    | some d =>
      simp only [List.cons_append, readHex, digit, Option.bind_eq_bind, Option.bind_some]
      exact ih

theorem hexDigit_digitChar {digit : Nat} (bounded : digit < 16) :
    hexDigit digit.digitChar = some digit := by
  have every : ∀ d : Fin 16, hexDigit (Nat.digitChar d) = some d.val := by decide
  exact every ⟨digit, bounded⟩

/-- Where a digit can lie. -/
theorem hexDigit_range {c : Char} (digit : (hexDigit c).isSome = true) :
    48 ≤ c.toNat ∧ c.toNat ≤ 57 ∨ 65 ≤ c.toNat ∧ c.toNat ≤ 70 ∨ 97 ≤ c.toNat ∧ c.toNat ≤ 102 := by
  unfold hexDigit at digit
  split at digit
  · next decimal => exact .inl decimal
  · split at digit
    · next lower => exact .inr (.inr lower)
    · split at digit
      · next upper => exact .inr (.inl upper)
      · cases digit

/-- What can be read is made of digits. -/
theorem readHex_digits {digits : List Char} {result : Nat} (read : readHex digits value = some result) :
    ∀ c ∈ digits, (hexDigit c).isSome = true := by
  induction digits generalizing value with
  | nil =>
    intro c impossible
    cases impossible
  | cons first rest ih =>
    rw [readHex] at read
    obtain ⟨digit, isDigit, read⟩ := Option.bind_eq_some_iff.mp read
    intro c member
    rcases List.mem_cons.mp member with rfl | later
    · rw [isDigit]
      rfl
    · exact ih read c later

/-- What is written is read back. -/
theorem readHex_writeHex (value : Nat) : readHex (writeHex value) 0 = some value := by
  induction value using Nat.strongRecOn with
  | ind value ih =>
    by_cases small : value < 16
    · rw [writeHex, Nat.toDigits_of_lt_base small]
      simp [readHex, hexDigit_digitChar small]
    · have large : 16 ≤ value := Nat.not_lt.mp small
      have shorter : value / 16 < value := Nat.div_lt_self (by omega) (by decide)
      have front := ih (value / 16) shorter
      rw [writeHex] at front
      rw [writeHex, Nat.toDigits_of_base_le (by decide) large, readHex_append, front]
      simp only [Option.bind_some, readHex, hexDigit_digitChar (Nat.mod_lt value (by decide : 16 > 0)),
        Option.bind_eq_bind, Option.some.injEq]
      omega

theorem writeHex_ne_nil (value : Nat) : writeHex value ≠ [] := Nat.toDigits_ne_nil

end DexKnight.Support.Hex
