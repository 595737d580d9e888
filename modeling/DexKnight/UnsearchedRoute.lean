import DexKnight.CalculatorProofs

/-! The direction that is not searched. A victim's swap moves its pool against anyone
who trades the same way after it, and the unsearched route does exactly that in one of
its legs: it sells into the pool after A for B and buys from it after B for A. So the
route returns no more after the victim than before, whichever leg the victim's pool is,
and nothing is lost by leaving it out of the search. -/
namespace DexKnight.UnsearchedRoute
open Core.Types Core.Calculator Support.CheckedWord Support.ConstantProduct ContractProofs
  CalculatorProofs

variable {amountIn reserveIn reserveOut : Uint256} {pool victimPool otherPool : PoolSnapshot}
  {buyPool sellPool : PoolSnapshot} {swap : Swap} {amount : Uint256} {quote : RouteQuote}

/-- The route through the victim's pool that the search leaves out. -/
def unsearchedRoute (swap : Swap) (victimPool otherPool : PoolSnapshot) :
    PoolSnapshot × PoolSnapshot :=
  match swap with
  | .swapExactAForB _ => (otherPool, victimPool)
  | .swapExactBForA _ => (victimPool, otherPool)

/-- No product of a quote exceeds the word. The sum under the fraction may. -/
def ProductsFit (amountIn reserveIn reserveOut : Uint256) : Prop :=
  amountIn.toNat * 997 < 2 ^ 256 ∧ amountIn.toNat * 997 * reserveOut.toNat < 2 ^ 256 ∧
    reserveIn.toNat * 1000 < 2 ^ 256

/-- The same for both quotes of a route. -/
def RouteProductsFit (route : PoolSnapshot × PoolSnapshot) (amount : Uint256) : Prop :=
  ProductsFit amount route.1.reserveB route.1.reserveA ∧
    ProductsFit (amountOutWord amount route.1.reserveB route.1.reserveA) route.2.reserveA
      route.2.reserveB

/-- No intermediate value of a route's two quotes exceeds the word, products and
denominators alike. -/
def RouteFits (route : PoolSnapshot × PoolSnapshot) (amount : Uint256) : Prop :=
  QuoteFits amount route.1.reserveB route.1.reserveA ∧
    QuoteFits (amountOutWord amount route.1.reserveB route.1.reserveA) route.2.reserveA
      route.2.reserveB

/-- An input on which a route returns more than was put in. -/
def Profitable (route : PoolSnapshot × PoolSnapshot) (amount : Uint256) : Prop :=
  ∃ quote, quoteRoute route.1 route.2 amount = some quote ∧
    amount.toNat < quote.amountOutB.toNat

/-! ## Quotes over exact numbers -/

/-- Where every product fits, the calculator quotes a funded pool exactly. -/
theorem amountOut_fits (fits : QuoteFits amountIn reserveIn reserveOut) {out : Uint256} :
    amountOut amountIn reserveIn reserveOut = some out ↔
      amountIn ≠ 0 ∧ reserveIn ≠ 0 ∧ reserveOut ≠ 0 ∧
        out = amountOutWord amountIn reserveIn reserveOut := by
  rw [amountOut_eq_some]
  constructor
  · rintro ⟨given, funded, stocked, _, same⟩
    exact ⟨given, funded, stocked, same⟩
  · rintro ⟨given, funded, stocked, same⟩
    exact ⟨given, funded, stocked, fits.denominator_ne_zero funded stocked, same⟩

/-- A route's quote, where every product fits: both legs are quoted on funded pools and
the first pays something to sell on. -/
theorem quoteRoute_fits (fits : RouteFits (buyPool, sellPool) amount) :
    quoteRoute buyPool sellPool amount = some quote ↔
      (amount ≠ 0 ∧ buyPool.reserveB ≠ 0 ∧ buyPool.reserveA ≠ 0) ∧
      (amountOutWord amount buyPool.reserveB buyPool.reserveA ≠ 0 ∧ sellPool.reserveA ≠ 0 ∧
        sellPool.reserveB ≠ 0) ∧
      quote = ⟨amount, amountOutWord amount buyPool.reserveB buyPool.reserveA,
        amountOutWord (amountOutWord amount buyPool.reserveB buyPool.reserveA) sellPool.reserveA
          sellPool.reserveB⟩ := by
  unfold quoteRoute
  rw [Option.bind_eq_bind, Option.bind_eq_some_iff]
  constructor
  · rintro ⟨outA, first, rest⟩
    obtain ⟨given, funded, stocked, rfl⟩ := (amountOut_fits fits.1).mp first
    obtain ⟨outB, second, whole⟩ := Option.bind_eq_some_iff.mp rest
    obtain ⟨resold, sellFunded, sellStocked, rfl⟩ := (amountOut_fits fits.2).mp second
    exact ⟨⟨given, funded, stocked⟩, ⟨resold, sellFunded, sellStocked⟩, (Option.some.inj whole).symm⟩
  · rintro ⟨⟨given, funded, stocked⟩, ⟨resold, sellFunded, sellStocked⟩, rfl⟩
    refine ⟨_, (amountOut_fits fits.1).mpr ⟨given, funded, stocked, rfl⟩, ?_⟩
    exact Option.bind_eq_some_iff.mpr
      ⟨_, (amountOut_fits fits.2).mpr ⟨resold, sellFunded, sellStocked, rfl⟩, rfl⟩

/-! ## What the victim does to its pool -/

/-- An accepted swap whose products fit deepens the reserve it pays into and drains the
one it is paid from. -/
theorem applyVictimSwap_worsens {poolAfterVictim : PoolSnapshot}
    (applied : applyVictimSwap victimPool swap = some poolAfterVictim)
    (fits : ProductsFit (swapArguments swap).amountIn (swapReserves swap victimPool).1
      (swapReserves swap victimPool).2) :
    ((swapReserves swap victimPool).1 ≠ 0 ∧ (swapReserves swap victimPool).2 ≠ 0) ∧
      (swapReserves swap victimPool).1.toNat ≤ (swapReserves swap poolAfterVictim).1.toNat ∧
      (swapReserves swap poolAfterVictim).2.toNat ≤ (swapReserves swap victimPool).2.toNat := by
  obtain ⟨_, funded, stocked, _, covered, rfl⟩ := applyVictimSwap_eq_some applied
  have drained := toNat_sub_exact covered
  refine ⟨⟨funded, stocked⟩, ?_⟩
  obtain ⟨amountFits, _, reserveFits⟩ := fits
  have grows : (swapReserves swap victimPool).1.toNat + (swapArguments swap).amountIn.toNat <
      2 ^ 256 := by omega
  have deeper := toNat_add_exact grows
  cases swap with
  | swapExactAForB arguments =>
    exact ⟨(Nat.le_add_right _ _).trans_eq deeper.symm, drained.le.trans (Nat.sub_le _ _)⟩
  | swapExactBForA arguments =>
    exact ⟨(Nat.le_add_right _ _).trans_eq deeper.symm, drained.le.trans (Nat.sub_le _ _)⟩

/-- The same trade after the victim pays no more. -/
theorem amountOutWord_anti {reserveIn' reserveOut' : Uint256} (funded : reserveIn ≠ 0)
    (stocked : reserveOut ≠ 0) (stocked' : reserveOut' ≠ 0)
    (fits : QuoteFits amountIn reserveIn reserveOut) (fits' : QuoteFits amountIn reserveIn' reserveOut')
    (deeper : reserveIn.toNat ≤ reserveIn'.toNat) (shallower : reserveOut'.toNat ≤ reserveOut.toNat) :
    (amountOutWord amountIn reserveIn' reserveOut').toNat ≤
      (amountOutWord amountIn reserveIn reserveOut).toNat := by
  rw [amountOutWord_toNat stocked fits, amountOutWord_toNat stocked' fits']
  exact quote_anti_reserves (toNat_pos_iff.mpr funded) deeper shallower

/-- A smaller trade in the same pool pays no more. -/
theorem amountOutWord_mono {amountIn' : Uint256} (funded : reserveIn ≠ 0) (stocked : reserveOut ≠ 0)
    (fits : QuoteFits amountIn reserveIn reserveOut) (fits' : QuoteFits amountIn' reserveIn reserveOut)
    (less : amountIn.toNat ≤ amountIn'.toNat) :
    (amountOutWord amountIn reserveIn reserveOut).toNat ≤
      (amountOutWord amountIn' reserveIn reserveOut).toNat := by
  rw [amountOutWord_toNat stocked fits, amountOutWord_toNat stocked fits']
  exact quote_mono_amount (toNat_pos_iff.mpr funded) less

/-! ## The route -/

variable {poolAfterVictim : PoolSnapshot}
  (applied : applyVictimSwap victimPool swap = some poolAfterVictim)
  (fits : ProductsFit (swapArguments swap).amountIn (swapReserves swap victimPool).1
    (swapReserves swap victimPool).2)
include applied fits

/-- On one input: what the route returns after the victim it returned before, at least. -/
theorem quoteRoute_worsens
    (before : RouteFits (unsearchedRoute swap victimPool otherPool) amount)
    (after : RouteFits (unsearchedRoute swap poolAfterVictim otherPool) amount)
    (quoted : quoteRoute (unsearchedRoute swap poolAfterVictim otherPool).1
      (unsearchedRoute swap poolAfterVictim otherPool).2 amount = some quote) :
    ∃ earlier, quoteRoute (unsearchedRoute swap victimPool otherPool).1
        (unsearchedRoute swap victimPool otherPool).2 amount = some earlier ∧
      quote.amountOutB.toNat ≤ earlier.amountOutB.toNat := by
  obtain ⟨⟨funded, stocked⟩, deeper, shallower⟩ := applyVictimSwap_worsens applied fits
  cases swap with
  | swapExactAForB arguments =>
    -- The victim's pool is the second leg; the first is the same before and after.
    obtain ⟨first, ⟨resold, _, stillStocked⟩, rfl⟩ := (quoteRoute_fits after).mp quoted
    refine ⟨_, (quoteRoute_fits before).mpr ⟨first, ⟨resold, funded, stocked⟩, rfl⟩, ?_⟩
    exact amountOutWord_anti funded stocked stillStocked before.2 after.2 deeper shallower
  | swapExactBForA arguments =>
    -- The victim's pool is the first leg; the second sells what that leg paid.
    obtain ⟨⟨given, _, stillStocked⟩, ⟨resold, sellFunded, sellStocked⟩, rfl⟩ :=
      (quoteRoute_fits after).mp quoted
    have less := amountOutWord_anti funded stocked stillStocked before.1 after.1 deeper shallower
    have paid : amountOutWord amount victimPool.reserveB victimPool.reserveA ≠ 0 :=
      toNat_pos_iff.mp (Nat.lt_of_lt_of_le (toNat_pos_iff.mpr resold) less)
    refine ⟨_, (quoteRoute_fits before).mpr
      ⟨⟨given, funded, stocked⟩, ⟨paid, sellFunded, sellStocked⟩, rfl⟩, ?_⟩
    exact amountOutWord_mono sellFunded sellStocked after.2 before.2 less

/-- **The unsearched direction does not improve.** For any two pools and any accepted
victim's swap in one of them, as long as no product of the swap and no intermediate
value of the route's quotes exceeds the word: on every input the route the search leaves
out returns no more after the victim than before it, so if it had no profitable input
before it has none after. -/
theorem unsearched_direction_never_improves :
    (∀ amount, RouteFits (unsearchedRoute swap victimPool otherPool) amount →
      RouteFits (unsearchedRoute swap poolAfterVictim otherPool) amount →
      ∀ quote, quoteRoute (unsearchedRoute swap poolAfterVictim otherPool).1
          (unsearchedRoute swap poolAfterVictim otherPool).2 amount = some quote →
        ∃ earlier, quoteRoute (unsearchedRoute swap victimPool otherPool).1
            (unsearchedRoute swap victimPool otherPool).2 amount = some earlier ∧
          quote.amountOutB.toNat ≤ earlier.amountOutB.toNat) ∧
      ((∀ amount, RouteFits (unsearchedRoute swap victimPool otherPool) amount →
          ¬ Profitable (unsearchedRoute swap victimPool otherPool) amount) →
        ∀ amount, RouteFits (unsearchedRoute swap victimPool otherPool) amount →
          RouteFits (unsearchedRoute swap poolAfterVictim otherPool) amount →
          ¬ Profitable (unsearchedRoute swap poolAfterVictim otherPool) amount) := by
  refine ⟨fun amount before after quote => quoteRoute_worsens applied fits before after, ?_⟩
  rintro unprofitable amount before after ⟨quote, quoted, gains⟩
  obtain ⟨earlier, quotedBefore, less⟩ := quoteRoute_worsens applied fits before after quoted
  exact unprofitable amount before ⟨earlier, quotedBefore, gains.trans_le less⟩

omit applied fits

/-- Two pools of a thousand each; the victim sells a hundred A into the first. -/
theorem unsearched_direction_never_improves_thousand :
    let pool : PoolSnapshot := ⟨⟨[1], [2], [3]⟩, 1000, 1000⟩
    let swap : Swap := .swapExactAForB ⟨100, 1⟩
    ∃ after, applyVictimSwap pool swap = some after ∧
      RouteFits (unsearchedRoute swap pool pool) 50 ∧
      RouteFits (unsearchedRoute swap after pool) 50 ∧
      ∃ quote, quoteRoute pool after 50 = some quote ∧
        ∃ earlier, quoteRoute pool pool 50 = some earlier ∧
          quote.amountOutB.toNat ≤ earlier.amountOutB.toNat := by
  intro pool swap
  have fits : ProductsFit (swapArguments swap).amountIn (swapReserves swap pool).1
      (swapReserves swap pool).2 := by
    unfold ProductsFit
    decide
  have applied : applyVictimSwap pool swap = some (poolAfter swap pool) := by decide
  have before : RouteFits (unsearchedRoute swap pool pool) 50 := by
    unfold RouteFits QuoteFits
    decide
  have after : RouteFits (unsearchedRoute swap (poolAfter swap pool) pool) 50 := by
    unfold RouteFits QuoteFits
    decide
  have quoted : ∃ quote, quoteRoute pool (poolAfter swap pool) 50 = some quote :=
    Option.isSome_iff_exists.mp (by decide)
  obtain ⟨quote, quoted⟩ := quoted
  exact ⟨_, applied, before, after, quote, quoted,
    (unsearched_direction_never_improves applied fits).1 50 before after quote quoted⟩

/-- Products that fit are not enough: a denominator may still wrap. The victim sells one
unit of A into a pool whose next quote then divides by eight hundred, and the route that
returned nothing before returns almost the whole of what it sold. -/
theorem unsearched_direction_improves_on_wrap :
    ¬ ∀ (victimPool otherPool poolAfterVictim : PoolSnapshot) (swap : Swap) (amount : Uint256)
        (quote : RouteQuote),
      applyVictimSwap victimPool swap = some poolAfterVictim →
      ProductsFit (swapArguments swap).amountIn (swapReserves swap victimPool).1
        (swapReserves swap victimPool).2 →
      RouteProductsFit (unsearchedRoute swap victimPool otherPool) amount →
      RouteProductsFit (unsearchedRoute swap poolAfterVictim otherPool) amount →
      quoteRoute (unsearchedRoute swap poolAfterVictim otherPool).1
          (unsearchedRoute swap poolAfterVictim otherPool).2 amount = some quote →
        ∃ earlier, quoteRoute (unsearchedRoute swap victimPool otherPool).1
            (unsearchedRoute swap victimPool otherPool).2 amount = some earlier ∧
          quote.amountOutB.toNat ≤ earlier.amountOutB.toNat := by
  intro improves
  let victimPool : PoolSnapshot := ⟨⟨[1], [2], [3]⟩,
    59507281737641177967314152867164656864814134783635568548028451235452817062, 1⟩
  let otherPool : PoolSnapshot := ⟨⟨[4], [2], [3]⟩, BitVec.ofNat 256 (2 ^ 246), 1⟩
  let swap : Swap := .swapExactAForB ⟨1, 0⟩
  let sold : Uint256 := 56454170009704129845794214785880893669464242609834498988394315719619170088
  let paid : Uint256 := 70356009374593771820321040176904063735569812352506244364286415965575390722
  have applied : applyVictimSwap victimPool swap = some (poolAfter swap victimPool) := by decide
  have fits : ProductsFit (swapArguments swap).amountIn (swapReserves swap victimPool).1
      (swapReserves swap victimPool).2 := by
    unfold ProductsFit
    decide
  have before : RouteProductsFit (unsearchedRoute swap victimPool otherPool) 1 := by
    unfold RouteProductsFit ProductsFit
    decide
  have after : RouteProductsFit (unsearchedRoute swap (poolAfter swap victimPool) otherPool) 1 := by
    unfold RouteProductsFit ProductsFit
    decide
  have quoted : quoteRoute otherPool (poolAfter swap victimPool) 1 = some ⟨1, sold, paid⟩ := by decide
  obtain ⟨earlier, quotedBefore, less⟩ :=
    improves victimPool otherPool _ swap 1 _ applied fits before after quoted
  have nothing : quoteRoute otherPool victimPool 1 = some ⟨1, sold, 0⟩ := by decide
  have same : (⟨1, sold, 0⟩ : RouteQuote) = earlier := Option.some.inj (nothing.symm.trans quotedBefore)
  subst same
  exact absurd less (by decide)

end DexKnight.UnsearchedRoute
