import DexKnight.Core.Calculator
import DexKnight.ContractProofs

/-! What an opportunity of the calculator stands for. Every value in it is traced
back to the snapshot it was computed from: the listed pool, the pool after the
victim's swap, the other pool of the route and the quotes on both. -/
namespace DexKnight.CalculatorProofs
open Core.Types Core.Calculator Support.CheckedWord ContractProofs

variable {amountIn reserveIn reserveOut out : Uint256} {params : Params} {swap : Swap}
  {candidate : Candidate} {state : StateSnapshot} {opportunity : Opportunity}

/-! ## Quotes -/

/-- The calculator quotes with the contract's formula, word for word. It answers
on any funded pool whose wrapped denominator is not zero. -/
theorem amountOut_eq_some : amountOut amountIn reserveIn reserveOut = some out ↔
    amountIn ≠ 0 ∧ reserveIn ≠ 0 ∧ reserveOut ≠ 0 ∧
      reserveIn * kFeeDenominator + amountIn * kFeeNumerator ≠ 0 ∧
      out = amountOutWord amountIn reserveIn reserveOut := by
  unfold amountOut
  by_cases empty : amountIn = 0 ∨ reserveIn = 0 ∨ reserveOut = 0
  · rw [if_pos empty]
    constructor
    · intro impossible
      cases impossible
    · rintro ⟨given, funded, stocked, _⟩
      rcases empty with zero | zero | zero
      · exact absurd zero given
      · exact absurd zero funded
      · exact absurd zero stocked
  · rw [if_neg empty]
    obtain ⟨given, rest⟩ := not_or.mp empty
    obtain ⟨funded, stocked⟩ := not_or.mp rest
    by_cases divides : reserveIn * kFeeDenominator + amountIn * kFeeNumerator = 0
    · simp [divides]
    · simp only [if_neg divides, Option.some.injEq]
      constructor
      · intro same
        exact ⟨given, funded, stocked, divides, same.symm⟩
      · rintro ⟨_, _, _, _, same⟩
        exact same.symm

/-- A slippage bound in basis points never exceeds the value it is taken of, even
when the product wraps. -/
theorem applyBps_le (value : Uint256) {bps : UInt16} (bounded : bps ≤ kBpsDenominator) :
    (applyBps value bps).toNat ≤ value.toNat := by
  have limit : bps.toNat ≤ 10000 := UInt16.le_iff_toNat_le.mp bounded
  have scale : (BitVec.ofNat 256 kBpsDenominator.toNat).toNat = 10000 := by decide
  rw [applyBps, BitVec.toNat_udiv, scale, BitVec.toNat_mul, BitVec.toNat_ofNat]
  refine Nat.div_le_of_le_mul ?_
  calc value.toNat * (bps.toNat % 2 ^ 256) % 2 ^ 256
      ≤ value.toNat * (bps.toNat % 2 ^ 256) := Nat.mod_le _ _
    _ ≤ value.toNat * 10000 := Nat.mul_le_mul_left _ ((Nat.mod_le _ _).trans limit)
    _ = 10000 * value.toNat := Nat.mul_comm _ _

/-! ## The victim's swap -/

/-- The arguments of a swap, whichever way it goes. -/
def swapArguments : Swap → SwapArguments
  | .swapExactAForB arguments => arguments
  | .swapExactBForA arguments => arguments

/-- The reserves a swap pays into and out of. -/
def swapReserves (swap : Swap) (pool : PoolSnapshot) : Uint256 × Uint256 :=
  match swap with
  | .swapExactAForB _ => (pool.reserveA, pool.reserveB)
  | .swapExactBForA _ => (pool.reserveB, pool.reserveA)

/-- The output the calculator assigns to a swap. -/
def swapOut (swap : Swap) (pool : PoolSnapshot) : Uint256 :=
  amountOutWord (swapArguments swap).amountIn (swapReserves swap pool).1 (swapReserves swap pool).2

/-- A pool with a swap's input added and its output taken. -/
def poolAfter (swap : Swap) (pool : PoolSnapshot) : PoolSnapshot :=
  match swap with
  | .swapExactAForB arguments => { pool with
      reserveA := pool.reserveA + arguments.amountIn, reserveB := pool.reserveB - swapOut swap pool }
  | .swapExactBForA arguments => { pool with
      reserveA := pool.reserveA - swapOut swap pool, reserveB := pool.reserveB + arguments.amountIn }

/-- The two bounds an output passes before it is applied. -/
private theorem bounds_eq_some {out minAmountOut reserve : Uint256} {next after : PoolSnapshot}
    (guarded : (if out < minAmountOut ∨ out > reserve then none else some next) = some after) :
    minAmountOut.toNat ≤ out.toNat ∧ out.toNat ≤ reserve.toNat ∧ after = next := by
  split at guarded
  · cases guarded
  · next accepted =>
    cases guarded
    refine ⟨?_, ?_, rfl⟩
    · exact Nat.not_lt.mp fun short => accepted (.inl (BitVec.lt_def.mpr short))
    · exact Nat.not_lt.mp fun long => accepted (.inr (BitVec.lt_def.mpr long))

/-- An accepted victim swap is quoted, within its slippage bound and within the
reserve, and the pool is moved by exactly that quote. -/
theorem applyVictimSwap_eq_some {pool after : PoolSnapshot}
    (applied : applyVictimSwap pool swap = some after) :
    (swapArguments swap).amountIn ≠ 0 ∧ (swapReserves swap pool).1 ≠ 0 ∧
      (swapReserves swap pool).2 ≠ 0 ∧
      (swapArguments swap).minAmountOut.toNat ≤ (swapOut swap pool).toNat ∧
      (swapOut swap pool).toNat ≤ (swapReserves swap pool).2.toNat ∧
      after = poolAfter swap pool := by
  cases swap with
  | swapExactAForB arguments =>
    obtain ⟨out, quoted, guarded⟩ := Option.bind_eq_some_iff.mp applied
    obtain ⟨given, funded, stocked, _, rfl⟩ := amountOut_eq_some.mp quoted
    exact ⟨given, funded, stocked, bounds_eq_some guarded⟩
  | swapExactBForA arguments =>
    obtain ⟨out, quoted, guarded⟩ := Option.bind_eq_some_iff.mp applied
    obtain ⟨given, funded, stocked, _, rfl⟩ := amountOut_eq_some.mp quoted
    exact ⟨given, funded, stocked, bounds_eq_some guarded⟩

/-! ## The route -/

/-- Where an opportunity comes from: the input the search chose for this pair of
pools, the two quotes that followed, and the bounds derived from them. -/
structure Routed (buyPool sellPool : PoolSnapshot) (params : Params) (opportunity : Opportunity) :
    Prop where
  chosen : optimalAmountInB buyPool sellPool params = some opportunity.amountInB
  given : opportunity.amountInB ≠ 0
  buyFunded : buyPool.reserveB ≠ 0
  buyStocked : buyPool.reserveA ≠ 0
  sellFunded : sellPool.reserveA ≠ 0
  sellStocked : sellPool.reserveB ≠ 0
  buys : opportunity.buyPool = buyPool.pool
  sells : opportunity.sellPool = sellPool.pool
  outA : opportunity.expectedAmountOutA =
    amountOutWord opportunity.amountInB buyPool.reserveB buyPool.reserveA
  outB : opportunity.expectedAmountOutB =
    amountOutWord opportunity.expectedAmountOutA sellPool.reserveA sellPool.reserveB
  resold : opportunity.expectedAmountOutA ≠ 0
  gains : opportunity.amountInB.toNat < opportunity.expectedAmountOutB.toNat
  profit : opportunity.expectedProfitB = opportunity.expectedAmountOutB - opportunity.amountInB
  demanded : opportunity.minProfitB = params.minProfitB
  worthwhile : opportunity.minProfitB.toNat ≤ opportunity.expectedProfitB.toNat
  boundA : opportunity.minAmountOutA = applyBps opportunity.expectedAmountOutA params.minOutputBps
  boundB : opportunity.minAmountOutB = applyBps opportunity.expectedAmountOutB params.minOutputBps

theorem evaluatePool_routed {buyPool sellPool : PoolSnapshot}
    (evaluated : evaluatePool buyPool sellPool params = some opportunity) :
    Routed buyPool sellPool params opportunity := by
  obtain ⟨quote, quoted, rest⟩ := Option.bind_eq_some_iff.mp evaluated
  obtain ⟨amount, chosen, route⟩ := Option.bind_eq_some_iff.mp quoted
  obtain ⟨outA, first, route⟩ := Option.bind_eq_some_iff.mp route
  obtain ⟨outB, second, whole⟩ := Option.bind_eq_some_iff.mp route
  cases whole
  obtain ⟨given, buyFunded, buyStocked, _, rfl⟩ := amountOut_eq_some.mp first
  obtain ⟨resold, sellFunded, sellStocked, _, rfl⟩ := amountOut_eq_some.mp second
  split at rest
  · cases rest
  · next gains =>
    dsimp only at rest
    split at rest
    · cases rest
    · next worthwhile =>
      cases rest
      exact {
        chosen, given, buyFunded, buyStocked, sellFunded, sellStocked, resold
        buys := rfl, sells := rfl, outA := rfl, outB := rfl, profit := rfl, demanded := rfl
        boundA := rfl, boundB := rfl
        gains := Nat.lt_of_not_le fun short => gains (BitVec.le_def.mpr short)
        worthwhile := Nat.le_of_not_lt fun short => worthwhile (BitVec.lt_def.mpr short) }

/-! ## The search over pools -/

/-- Which pool is bought from and which is sold to: the victim pushed its own pool
to the cheap side of what it bought. -/
def routeOf (swap : Swap) (poolAfterVictim otherPool : PoolSnapshot) : PoolSnapshot × PoolSnapshot :=
  match swap with
  | .swapExactAForB _ => (poolAfterVictim, otherPool)
  | .swapExactBForA _ => (otherPool, poolAfterVictim)

theorem evaluateRoute_routed {poolAfterVictim otherPool : PoolSnapshot}
    (evaluated : evaluateRoute poolAfterVictim otherPool swap params = some opportunity) :
    Routed (routeOf swap poolAfterVictim otherPool).1 (routeOf swap poolAfterVictim otherPool).2
      params opportunity := by
  cases swap with
  | swapExactAForB => exact evaluatePool_routed evaluated
  | swapExactBForA => exact evaluatePool_routed evaluated

/-- The kept opportunity is one of the two compared. -/
theorem keepBest_eq_some {best next : Option Opportunity} (kept : keepBest best next = some opportunity) :
    best = some opportunity ∨ next = some opportunity := by
  cases next with
  | none => exact .inl kept
  | some next =>
    cases best with
    | none => exact .inr kept
    | some best =>
      simp only [keepBest] at kept
      split at kept
      · exact .inr kept
      · exact .inl kept

/-- Whatever the loop ends with was there before it or was evaluated for one of the
pools it visited, never for the victim's own. -/
theorem bestOpportunity_eq_some {poolAfterVictim : PoolSnapshot} {pools : List PoolSnapshot}
    {best : Option Opportunity}
    (ended : bestOpportunity candidate poolAfterVictim swap params pools best = some opportunity) :
    best = some opportunity ∨ ∃ otherPool ∈ pools,
      otherPool.pool.address ≠ candidate.pool.address ∧
        evaluateRoute poolAfterVictim otherPool swap params = some opportunity := by
  induction pools generalizing best with
  | nil => exact .inl ended
  | cons first rest ih =>
    rw [bestOpportunity] at ended
    split at ended
    · rcases ih ended with before | ⟨otherPool, member, found⟩
      · exact .inl before
      · exact .inr ⟨otherPool, List.mem_cons_of_mem _ member, found⟩
    · next other =>
      rcases ih ended with kept | ⟨otherPool, member, found⟩
      · rcases keepBest_eq_some kept with before | here
        · exact .inl before
        · exact .inr ⟨first, List.mem_cons_self, other, here⟩
      · exact .inr ⟨otherPool, List.mem_cons_of_mem _ member, found⟩

/-- Everything a found opportunity rests on. -/
structure Found (state : StateSnapshot) (candidate : Candidate) (swap : Swap) (params : Params)
    (opportunity : Opportunity) (listed otherPool : PoolSnapshot) : Prop where
  bps : params.minOutputBps ≤ kBpsDenominator
  located : findPoolSnapshot state candidate = some listed
  applied : applyVictimSwap listed swap = some (poolAfter swap listed)
  member : otherPool ∈ state.pools
  other : otherPool.pool.address ≠ candidate.pool.address
  route : Routed (routeOf swap (poolAfter swap listed) otherPool).1
    (routeOf swap (poolAfter swap listed) otherPool).2 params opportunity

/-- The listed pool is the candidate's. -/
theorem findPoolSnapshot_eq_some {listed : PoolSnapshot}
    (located : findPoolSnapshot state candidate = some listed) :
    listed ∈ state.pools ∧ listed.pool.address = candidate.pool.address := by
  refine ⟨List.mem_of_find?_eq_some located, ?_⟩
  have matched := List.find?_some located
  exact of_decide_eq_true matched

/-- The two pools of an opportunity are the candidate's and another one on the list. -/
theorem Found.pools {listed otherPool : PoolSnapshot}
    (found : Found state candidate swap params opportunity listed otherPool) :
    opportunity.buyPool = listed.pool ∧ opportunity.sellPool = otherPool.pool ∨
      opportunity.buyPool = otherPool.pool ∧ opportunity.sellPool = listed.pool := by
  have buys := found.route.buys
  have sells := found.route.sells
  cases swap with
  | swapExactAForB arguments => exact .inl ⟨buys, sells⟩
  | swapExactBForA arguments => exact .inr ⟨buys, sells⟩

theorem Found.addresses_ne {listed otherPool : PoolSnapshot}
    (found : Found state candidate swap params opportunity listed otherPool) :
    opportunity.buyPool.address ≠ opportunity.sellPool.address := by
  have isTarget := (findPoolSnapshot_eq_some found.located).2
  rcases found.pools with ⟨buys, sells⟩ | ⟨buys, sells⟩
  · rw [buys, sells, isTarget]
    exact found.other.symm
  · rw [buys, sells, isTarget]
    exact found.other

theorem findArbitrage_found
    (found : findArbitrage state candidate swap params = some opportunity) :
    ∃ listed otherPool, Found state candidate swap params opportunity listed otherPool := by
  unfold findArbitrage at found
  split at found
  · cases found
  · next bounded =>
    split at found
    · cases found
    · obtain ⟨listed, located, found⟩ := Option.bind_eq_some_iff.mp found
      obtain ⟨after, applied, found⟩ := Option.bind_eq_some_iff.mp found
      obtain ⟨_, _, _, _, _, rfl⟩ := applyVictimSwap_eq_some applied
      rcases bestOpportunity_eq_some found with impossible | ⟨otherPool, member, other, evaluated⟩
      · cases impossible
      · exact ⟨listed, otherPool, {
          bps := UInt16.not_lt.mp bounded
          located, applied, member, other
          route := evaluateRoute_routed evaluated }⟩

end DexKnight.CalculatorProofs
