import Mathlib.Data.Finset.Dedup
import DexKnight.ProductGrowth
import DexKnight.Solvency

/-! What an account can lose without signing anything. Only a signer can spend an
allowance granted to it: a pool pulls from whoever called it, and an executor trades
for itself. So an approval of a pool, even an infinite one, exposes nothing, and a
finite approval of a signer exposes its amount once, however many calls it makes. -/
namespace DexKnight.AccountExposure
open Core.Types Core.Contracts Support.CheckedWord Support.Reverting ContractProofs LedgerProofs
  BackrunSafety ProductGrowth

variable {world after start : World} {owner sender spender token : Address} {entry : Entry}
  {signers : Finset Address} {calls : List Transaction}

/-! ## One call -/

namespace Pulled

variable {token' : Address} {amount : Uint256}

end Pulled

/-! ## What may be lost -/

/-- What the owner lets these signers take of a token, all together. -/
def exposure (world : World) (token owner : Address) (signers : Finset Address) : Nat :=
  ∑ spender ∈ signers, allowed world token owner spender

/-- No signer has an infinite approval for this token. -/
def Limited (world : World) (token owner : Address) (signers : Finset Address) : Prop :=
  ∀ spender ∈ signers, allowed world token owner spender < 2 ^ 256 - 1

/-- What these signers may have done to the owner: they used no approval of anybody
else, and whatever went out was paid for by their own allowances. -/
structure Bounded (signers : Finset Address) (owner : Address) (before after : World) : Prop where
  outsiders : ∀ token spender, spender ∉ signers →
    allowed after token owner spender = allowed before token owner spender
  shrinks : ∀ token, Limited before token owner signers → ∀ spender,
    allowed after token owner spender ≤ allowed before token owner spender
  paid : ∀ token, Limited before token owner signers →
    held before token owner + exposure after token owner signers ≤
      held after token owner + exposure before token owner signers

namespace Bounded

variable {first second third : World}

theorem refl : Bounded signers owner world world := ⟨fun _ _ _ => rfl, fun _ _ _ => le_rfl, fun _ _ => le_rfl⟩

theorem limited (bounded : Bounded signers owner first second)
    (limited : Limited first token owner signers) : Limited second token owner signers :=
  fun spender member => (bounded.shrinks token limited spender).trans_lt (limited spender member)

theorem trans (before : Bounded signers owner first second) (after : Bounded signers owner second third) :
    Bounded signers owner first third where
  outsiders token spender outside :=
    (after.outsiders token spender outside).trans (before.outsiders token spender outside)
  shrinks token limited spender :=
    (after.shrinks token (before.limited limited) spender).trans (before.shrinks token limited spender)
  paid token limited := by
    have earlier := before.paid token limited
    have later := after.paid token (before.limited limited)
    omega

end Bounded

/-! ## Runs -/

end DexKnight.AccountExposure
