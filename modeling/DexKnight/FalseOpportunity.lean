import DexKnight.BestRoute
import DexKnight.Prediction
import DexKnight.Solvency

/-! When a found opportunity can be executed. The calculator quotes with the
contract's formula on wrapping words and does not ask for a positive victim output,
so it accepts swaps the contracts revert on. On a chain in the state of the snapshot,
with every party funded, both transactions go through exactly when the victim is
paid something and none of the three quotes leaves the word. Which route is quoted and
on which input is a matter of the reserves and the parameters, so the condition is one
on what the search was given, not on what it found. -/
namespace DexKnight.FalseOpportunity
open Core.Types Core.Calculator Core.Contracts Support.CheckedWord Support.Reverting
  Support.ConstantProduct ContractProofs LedgerProofs CalculatorProofs Prediction Solvency
  BestRoute OptimalAmount

variable {world between : World} {code : DexCode} {swap : Swap} {params : Params}
  {pool buyPool sellPool victim executor operator : Address} {listed other : PoolSnapshot}
  {state : StateSnapshot} {candidate : Candidate} {opportunity : Opportunity}
  {amountInB minAmountOutA minAmountOutB minProfitB : Uint256}

instance (amountIn reserveIn reserveOut : Uint256) :
    Decidable (QuoteFits amountIn reserveIn reserveOut) :=
  inferInstanceAs (Decidable (Fee.Fits ..))

/-- The victim's quote stays in range and is not rounded down to nothing. -/
def VictimExact (swap : Swap) (reserves : DexStorage) : Prop :=
  match swap with
  | .swapExactAForB arguments =>
    QuoteFits arguments.amountIn reserves.reserveA reserves.reserveB ∧
      0 < sandboxFee.quote arguments.amountIn.toNat reserves.reserveA.toNat reserves.reserveB.toNat
  | .swapExactBForA arguments =>
    QuoteFits arguments.amountIn reserves.reserveB reserves.reserveA ∧
      0 < sandboxFee.quote arguments.amountIn.toNat reserves.reserveB.toNat reserves.reserveA.toNat

/-- The pools the search pairs: the candidate's, and of all listed ones with an
admissible route behind the victim's swap the first of the greatest. -/
def Paired (state : StateSnapshot) (candidate : Candidate) (swap : Swap) (params : Params)
    (listed other : PoolSnapshot) : Prop :=
  findPoolSnapshot state candidate = some listed ∧
    ∃ earlier later best, state.pools = earlier ++ other :: later ∧
      FirstBest candidate (poolAfter swap listed) swap params earlier other later best

/-- The input of a route in closed form: the last whole one before the peak of the
exact profit, or the limit. -/
def routeInput (buyPool sellPool : PoolSnapshot) (params : Params) : Nat :=
  min (peakInput buyPool sellPool) params.maxAmountInB.toNat

/-- Both exact quotes of a route on that input stay in range. -/
def RouteExact (buyPool sellPool : PoolSnapshot) (params : Params) : Prop :=
  sandboxFee.Fits (2 ^ 256) (routeInput buyPool sellPool params) buyPool.reserveB.toNat
      buyPool.reserveA.toNat ∧
    sandboxFee.Fits (2 ^ 256)
      (sandboxFee.quote (routeInput buyPool sellPool params) buyPool.reserveB.toNat
        buyPool.reserveA.toNat)
      sellPool.reserveA.toNat sellPool.reserveB.toNat

/-- Both quotes stay in range on the words the legs are called with. -/
def LegsFit (amountInB : Uint256) (buy sell : DexStorage) : Prop :=
  QuoteFits amountInB buy.reserveB buy.reserveA ∧
    QuoteFits (amountOutWord amountInB buy.reserveB buy.reserveA) sell.reserveA sell.reserveB

/-- The chain the snapshot was taken from, with every party able to pay its part:
the victim holds and approved its input, the executor holds its own, and each pool
holds its reserves. Nobody has the zero address and contracts sign nothing. -/
structure Ready (world : World) (code : DexCode) (state : StateSnapshot) (swap : Swap)
    (amountInB : Uint256) (pool victim executor operator : Address) : Prop where
  shown : Listed world code state
  codeA : (world.minter code.tokenA).isSome
  codeB : (world.minter code.tokenB).isSome
  conservedA : Conserved world code.tokenA
  conservedB : Conserved world code.tokenB
  solvent : ∀ snapshot ∈ state.pools, ∀ account,
    addressOf snapshot.pool.address = some account → Solvent world account code
  noZero : world.code 0 = none
  nonzero : victim ≠ 0
  signs : world.code victim = none
  holds : (swapArguments swap).amountIn.toNat ≤ held world (swapTokens swap code).1 victim
  approves : (swapArguments swap).amountIn.toNat ≤ allowed world (swapTokens swap code).1 victim pool
  operated : world.operator executor = some operator
  stocked : amountInB.toNat ≤ held world code.tokenB executor

/-! ## The victim's transaction -/

section Victim

variable (found : Found state candidate swap params opportunity listed other)
  (mirrors : Mirrors world code listed pool)
include found mirrors

/-- What the calculator checked, and the exactness it did not check, is all a pool
asks of the victim's quote. -/
theorem victim_quoted_iff :
    Quoted (swapArguments swap).amountIn (swapArguments swap).minAmountOut
        (swapReserves swap listed).1 (swapReserves swap listed).2 ↔
      VictimExact swap (world.dex pool) := by
  obtain ⟨given, funded, stocked, slippage, _⟩ := applyVictimSwap_eq_some found.applied
  have exact_iff : VictimExact swap (world.dex pool) ↔
      QuoteFits (swapArguments swap).amountIn (swapReserves swap listed).1
          (swapReserves swap listed).2 ∧
        0 < sandboxFee.quote (swapArguments swap).amountIn.toNat
          (swapReserves swap listed).1.toNat (swapReserves swap listed).2.toNat := by
    cases swap with
    | swapExactAForB arguments =>
      simp only [VictimExact, mirrors.reserveA, mirrors.reserveB, swapArguments, swapReserves]
    | swapExactBForA arguments =>
      simp only [VictimExact, mirrors.reserveA, mirrors.reserveB, swapArguments, swapReserves]
  rw [exact_iff]
  constructor
  · intro quoted
    refine ⟨quoted.fits, ?_⟩
    rw [← amountOutWord_toNat quoted.stocked quoted.fits]
    exact toNat_pos_iff.mpr quoted.pays
  · rintro ⟨fits, pays⟩
    rw [← amountOutWord_toNat stocked fits] at pays
    exact ⟨given, funded, stocked, fits, toNat_pos_iff.mp pays, slippage⟩

end Victim

/-- A funded victim can pay, and a solvent pool can pay it. -/
theorem victim_payable (ready : Ready world code state swap amountInB pool victim executor operator)
    (mirrors : Mirrors world code listed pool) (solvent : Solvent world pool code)
    (quoted : Quoted (swapArguments swap).amountIn (swapArguments swap).minAmountOut
      (swapReserves swap listed).1 (swapReserves swap listed).2) :
    Payable world pool victim (swapTokens swap code).1 (swapTokens swap code).2
      (swapArguments swap).amountIn (swapOut swap listed) := by
  have poolNonzero := pool_ne_codeless ready.noZero mirrors.deployed
  have out : (swapOut swap listed).toNat < (swapReserves swap listed).2.toNat := quoted.payout_lt
  cases swap with
  | swapExactAForB arguments =>
    have backed : listed.reserveB.toNat ≤ held world code.tokenB pool := by
      rw [← mirrors.reserveB]
      exact solvent.coversB
    exact ⟨ready.codeA, ready.approves, ready.conservedA.movable poolNonzero ready.holds, ready.codeB,
      ready.conservedB.movable ready.nonzero (out.le.trans backed)⟩
  | swapExactBForA arguments =>
    have backed : listed.reserveA.toNat ≤ held world code.tokenA pool := by
      rw [← mirrors.reserveA]
      exact solvent.coversA
    exact ⟨ready.codeB, ready.approves, ready.conservedB.movable poolNonzero ready.holds, ready.codeA,
      ready.conservedA.movable ready.nonzero (out.le.trans backed)⟩

/-! ## The executor's transaction -/

/-- What the executor needs of the state it is called in. -/
structure Armed (world : World) (code : DexCode) (buyPool sellPool executor operator : Address)
    (amountInB : Uint256) : Prop where
  codeA : (world.minter code.tokenA).isSome
  codeB : (world.minter code.tokenB).isSome
  conservedA : Conserved world code.tokenA
  conservedB : Conserved world code.tokenB
  solventBuy : Solvent world buyPool code
  solventSell : Solvent world sellPool code
  noZero : world.code 0 = none
  operated : world.operator executor = some operator
  stocked : amountInB.toNat ≤ held world code.tokenB executor
  differ : buyPool ≠ sellPool

section Executor

variable (armed : Armed world code buyPool sellPool executor operator opportunity.amountInB)
  (buys : Mirrors world code listed buyPool) (sells : Mirrors world code other sellPool)
  (routed : Routed listed other params opportunity)
  (bps : params.minOutputBps ≤ kBpsDenominator)

include buys sells routed bps in
/-- The calculator's own checks leave only the range of the two quotes open. -/
theorem legs_quoted
    (exact : LegsFit opportunity.amountInB (world.dex buyPool) (world.dex sellPool)) :
    Quoted opportunity.amountInB opportunity.minAmountOutA (world.dex buyPool).reserveB
        (world.dex buyPool).reserveA ∧
      Quoted (outBForA world buyPool opportunity.amountInB) opportunity.minAmountOutB
        (world.dex sellPool).reserveA (world.dex sellPool).reserveB := by
  obtain ⟨first, whole⟩ := route_outputs buys sells routed
  rw [routeOut, first] at whole
  obtain ⟨buyFits, sellFits⟩ := exact
  constructor
  · refine ⟨routed.given, ?_, ?_, buyFits, ?_, ?_⟩
    · rw [buys.reserveB]
      exact routed.buyFunded
    · rw [buys.reserveA]
      exact routed.buyStocked
    · change outBForA world buyPool opportunity.amountInB ≠ 0
      rw [first]
      exact routed.resold
    · change _ ≤ (outBForA world buyPool opportunity.amountInB).toNat
      rw [first, routed.boundA]
      exact applyBps_le _ bps
  · refine ⟨?_, ?_, ?_, sellFits, ?_, ?_⟩
    · rw [first]
      exact routed.resold
    · rw [sells.reserveA]
      exact routed.sellFunded
    · rw [sells.reserveB]
      exact routed.sellStocked
    · change outAForB world sellPool (outBForA world buyPool opportunity.amountInB) ≠ 0
      rw [first, whole]
      have gains := routed.gains
      exact toNat_pos_iff.mp (by omega)
    · change _ ≤ (outAForB world sellPool (outBForA world buyPool opportunity.amountInB)).toNat
      rw [first, whole, routed.boundB]
      exact applyBps_le _ bps

include armed buys in
/-- The first leg's tokens move: the executor approved its input and holds it, the
pool is solvent. -/
theorem buy_payable (quoted : Quoted opportunity.amountInB minAmountOutA (world.dex buyPool).reserveB
    (world.dex buyPool).reserveA) :
    Payable (world.approved code.tokenB executor buyPool opportunity.amountInB) buyPool executor
      code.tokenB code.tokenA opportunity.amountInB
      (outBForA world buyPool opportunity.amountInB) := by
  have paidOut : (outBForA world buyPool opportunity.amountInB).toNat <
      (world.dex buyPool).reserveA.toNat := quoted.payout_lt
  have granted : opportunity.amountInB.toNat ≤
      allowed (world.approved code.tokenB executor buyPool opportunity.amountInB) code.tokenB
        executor buyPool := by
    simp [allowed_approved]
  refine ⟨?_, granted, armed.conservedB.approved.movable ?_ ?_, ?_,
    armed.conservedA.approved.movable ?_ ?_⟩
  · rw [minter_of_code_eq approved_code]
    exact armed.codeB
  · exact pool_ne_codeless armed.noZero buys.deployed
  · rw [held_approved]
    exact armed.stocked
  · rw [minter_of_code_eq approved_code]
    exact armed.codeA
  · exact executor_ne_codeless armed.noZero armed.operated
  · rw [held_approved]
    exact paidOut.le.trans armed.solventBuy.coversA

include armed buys sells in
/-- The second leg's tokens move: the executor holds what the first one paid it. -/
theorem sell_payable
    (payable : Payable (world.approved code.tokenB executor buyPool opportunity.amountInB) buyPool
      executor code.tokenB code.tokenA opportunity.amountInB
      (outBForA world buyPool opportunity.amountInB))
    (quoted : Quoted (outBForA world buyPool opportunity.amountInB) minAmountOutB
      (world.dex sellPool).reserveA (world.dex sellPool).reserveB) :
    Payable (readyToSell world executor buyPool sellPool code opportunity.amountInB) sellPool executor
      code.tokenA code.tokenB (outBForA world buyPool opportunity.amountInB)
      (routeOut world buyPool sellPool opportunity.amountInB) := by
  have conservedA : Conserved (bought world executor buyPool code opportunity.amountInB) code.tokenA :=
    (armed.conservedA.approved.exchanged (Ne.symm code.distinct) payable).setDex
  have conservedB : Conserved (bought world executor buyPool code opportunity.amountInB) code.tokenB :=
    (armed.conservedB.approved.exchanged (Ne.symm code.distinct) payable).setDex
  have solvent : Solvent (bought world executor buyPool code opportunity.amountInB) sellPool code :=
    armed.solventSell.approved.bystander (Ne.symm code.distinct) (Ne.symm armed.differ)
      (Ne.symm (not_pool_of_operator armed.operated sells.deployed)) payable
  have received : (outBForA world buyPool opportunity.amountInB).toNat ≤
      held (bought world executor buyPool code opportunity.amountInB) code.tokenA executor := by
    obtain ⟨_, onA⟩ := held_exchanged executor (Ne.symm code.distinct) payable
    rw [share_self, share_of_ne (not_pool_of_operator armed.operated buys.deployed)] at onA
    rw [bought, swappedBForA, held_setDex]
    exact Nat.le_trans (Nat.le_add_left _ _) onA.ge
  have paidOut : (routeOut world buyPool sellPool opportunity.amountInB).toNat <
      (world.dex sellPool).reserveB.toNat := quoted.payout_lt
  have kept : (bought world executor buyPool code opportunity.amountInB).dex sellPool =
      world.dex sellPool := by
    simp [bought, swappedBForA, World.setDex, Function.update_of_ne (Ne.symm armed.differ)]
  have granted : (outBForA world buyPool opportunity.amountInB).toNat ≤
      allowed (readyToSell world executor buyPool sellPool code opportunity.amountInB) code.tokenA
        executor sellPool := by
    simp [readyToSell, allowed_approved]
  refine ⟨?_, granted, conservedA.approved.movable ?_ ?_, ?_, conservedB.approved.movable ?_ ?_⟩
  · rw [minter_of_code_eq readyToSell_code]
    exact armed.codeA
  · exact pool_ne_codeless armed.noZero sells.deployed
  · rw [held_approved]
    exact received
  · rw [minter_of_code_eq readyToSell_code]
    exact armed.codeB
  · exact executor_ne_codeless armed.noZero armed.operated
  · rw [held_approved]
    refine paidOut.le.trans ?_
    rw [← kept]
    exact solvent.coversB

include armed buys sells routed bps in
/-- The executor accepts a found route exactly when both quotes stay in range. -/
theorem backrun_accepted_iff :
    BackrunAccepted world executor buyPool sellPool code opportunity.amountInB
        opportunity.minAmountOutA opportunity.minAmountOutB opportunity.minProfitB ↔
      LegsFit opportunity.amountInB (world.dex buyPool) (world.dex sellPool) := by
  constructor
  · intro accepted
    exact ⟨accepted.buyQuoted.fits, accepted.sellQuoted.fits⟩
  · intro exact
    obtain ⟨buyQuoted, sellQuoted⟩ := legs_quoted buys sells routed bps exact
    have buyPayable := buy_payable armed buys buyQuoted
    have sellPayable := sell_payable armed buys sells buyPayable sellQuoted
    have legs : BackrunLegs world executor buyPool sellPool code opportunity.amountInB
        opportunity.minAmountOutA opportunity.minAmountOutB := {
      buyNonzero := pool_ne_codeless armed.noZero buys.deployed
      sellNonzero := pool_ne_codeless armed.noZero sells.deployed
      poolsDiffer := armed.differ
      given := routed.given
      codeA := armed.codeA
      codeB := armed.codeB
      covered := armed.stocked
      buyQuoted, buyPayable, sellQuoted, sellPayable }
    obtain ⟨funds, _⟩ := executor_funds legs (not_pool_of_operator armed.operated buys.deployed)
      (not_pool_of_operator armed.operated sells.deployed)
    rw [(route_outputs buys sells routed).2] at funds
    have routeGains := routed.gains
    have gains : held world code.tokenB executor ≤
        held (sold world executor buyPool sellPool code opportunity.amountInB) code.tokenB
          executor := by
      omega
    refine ⟨legs, gains, ?_⟩
    rw [toNat_sub_exact gains]
    have worthwhile := routed.worthwhile
    rw [routed.profit, toNat_sub_exact routed.gains.le] at worthwhile
    change _ ≤ held _ _ _ - held _ _ _
    omega

include buys sells routed in
/-- The words of a found route are its closed form, as long as the first leg fits. -/
theorem legs_fit_iff :
    LegsFit opportunity.amountInB (world.dex buyPool) (world.dex sellPool) ↔
      RouteExact listed other params := by
  have isInput : opportunity.amountInB.toNat = routeInput listed other params :=
    (optimalAmountInB_eq_some routed.chosen).2
  rw [LegsFit, RouteExact, buys.reserveA, buys.reserveB, sells.reserveA, sells.reserveB, ← isInput]
  refine and_congr_right fun fits => ?_
  rw [← amountOutWord_toNat routed.buyStocked fits]
  rfl

end Executor

/-! ## Both transactions -/

private theorem afterVictim_eq_exchanged (mirrors : Mirrors world code listed pool) :
    ∃ storage, afterVictim world pool victim code swap =
      (exchanged world pool victim (swapTokens swap code).1 (swapTokens swap code).2
        (swapArguments swap).amountIn (swapOut swap listed)).setDex pool storage := by
  cases swap with
  | swapExactAForB arguments =>
    have same : outAForB world pool arguments.amountIn = swapOut (.swapExactAForB arguments) listed := by
      rw [outAForB, mirrors.reserveA, mirrors.reserveB]
      rfl
    rw [← same]
    exact ⟨_, rfl⟩
  | swapExactBForA arguments =>
    have same : outBForA world pool arguments.amountIn = swapOut (.swapExactBForA arguments) listed := by
      rw [outBForA, mirrors.reserveA, mirrors.reserveB]
      rfl
    rw [← same]
    exact ⟨_, rfl⟩

private theorem swapTokens_distinct : (swapTokens swap code).1 ≠ (swapTokens swap code).2 := by
  cases swap with
  | swapExactAForB arguments => exact code.distinct
  | swapExactBForA arguments => exact Ne.symm code.distinct

section AfterVictim

variable (mirrors : Mirrors world code listed pool)
  (payable : Payable world pool victim (swapTokens swap code).1 (swapTokens swap code).2
    (swapArguments swap).amountIn (swapOut swap listed))
include mirrors payable

private theorem conserved_afterVictim {token : Address} (conserved : Conserved world token) :
    Conserved (afterVictim world pool victim code swap) token := by
  obtain ⟨storage, same⟩ := afterVictim_eq_exchanged mirrors
  rw [same]
  exact (conserved.exchanged swapTokens_distinct payable).setDex

/-- Every pool is as solvent after the victim's swap as before it. -/
private theorem solvent_afterVictim {account : Address} (pooled : world.dexCode account = some code)
    (signs : world.code victim = none)
    (quoted : Quoted (swapArguments swap).amountIn (swapArguments swap).minAmountOut
      (swapReserves swap listed).1 (swapReserves swap listed).2)
    (solvent : Solvent world account code) :
    Solvent (afterVictim world pool victim code swap) account code := by
  by_cases isPool : account = pool
  · subst pool
    have notVictim := pool_ne_codeless signs pooled
    cases swap with
    | swapExactAForB arguments =>
      have quotedHere : Quoted arguments.amountIn arguments.minAmountOut (world.dex account).reserveA
          (world.dex account).reserveB := by
        rw [mirrors.reserveA, mirrors.reserveB]
        exact quoted
      refine solvent.swappedAForB notVictim quotedHere ?_
      rw [outAForB, mirrors.reserveA, mirrors.reserveB]
      exact payable
    | swapExactBForA arguments =>
      have quotedHere : Quoted arguments.amountIn arguments.minAmountOut (world.dex account).reserveB
          (world.dex account).reserveA := by
        rw [mirrors.reserveA, mirrors.reserveB]
        exact quoted
      refine solvent.swappedBForA notVictim quotedHere ?_
      rw [outBForA, mirrors.reserveA, mirrors.reserveB]
      exact payable
  · obtain ⟨storage, same⟩ := afterVictim_eq_exchanged mirrors
    rw [same]
    exact solvent.bystander swapTokens_distinct isPool (pool_ne_codeless signs pooled) payable

/-- The victim is not the executor, so it takes nothing from it. -/
private theorem held_afterVictim (signs : world.code victim = none)
    (operated : world.operator executor = some operator) {token : Address} :
    held world token executor ≤ held (afterVictim world pool victim code swap) token executor := by
  obtain ⟨storage, same⟩ := afterVictim_eq_exchanged mirrors
  rw [same, held_setDex]
  have notVictim := executor_ne_codeless signs operated
  have notPool := not_pool_of_operator operated mirrors.deployed
  obtain ⟨onIn, onOut⟩ := held_exchanged executor swapTokens_distinct payable
  rw [share_of_ne notVictim, share_of_ne notPool] at onIn onOut
  by_cases isIn : token = (swapTokens swap code).1
  · rw [isIn]
    omega
  · by_cases isOut : token = (swapTokens swap code).2
    · rw [isOut]
      omega
    · rw [held_exchanged_of_ne isIn isOut]

end AfterVictim

/-- Two different listed pools are two different accounts, also after the swap. -/
private theorem found_pools_differ (found : Found state candidate swap params opportunity listed other)
    (buy : addressOf opportunity.buyPool.address = some buyPool)
    (sell : addressOf opportunity.sellPool.address = some sellPool) : buyPool ≠ sellPool := by
  rintro rfl
  exact found.addresses_ne (addressOf_inj buy sell)

/-- A listed pool on each side of the route is solvent in a ready chain. -/
private theorem Ready.solvent_route
    (ready : Ready world code state swap amountInB pool victim executor operator)
    (found : Found state candidate swap params opportunity listed other)
    (buy : addressOf opportunity.buyPool.address = some buyPool)
    (sell : addressOf opportunity.sellPool.address = some sellPool) :
    Solvent world buyPool code ∧ Solvent world sellPool code := by
  have member := (findPoolSnapshot_eq_some found.located).1
  rw [found.route.buys] at buy
  rw [found.route.sells] at sell
  cases swap with
  | swapExactAForB arguments =>
    exact ⟨ready.solvent listed member _ buy, ready.solvent other found.member _ sell⟩
  | swapExactBForA arguments =>
    exact ⟨ready.solvent other found.member _ buy, ready.solvent listed member _ sell⟩

/-- The state the victim leaves is one the executor can work in. -/
theorem Ready.armed
    (ready : Ready world code state swap opportunity.amountInB pool victim executor operator)
    (found : Found state candidate swap params opportunity listed other)
    (target : addressOf candidate.pool.address = some pool)
    (buy : addressOf opportunity.buyPool.address = some buyPool)
    (sell : addressOf opportunity.sellPool.address = some sellPool)
    (quoted : Quoted (swapArguments swap).amountIn (swapArguments swap).minAmountOut
      (swapReserves swap listed).1 (swapReserves swap listed).2)
    (payable : Payable world pool victim (swapTokens swap code).1 (swapTokens swap code).2
      (swapArguments swap).amountIn (swapOut swap listed)) :
    Armed (afterVictim world pool victim code swap) code buyPool sellPool executor operator
      opportunity.amountInB := by
  obtain ⟨mirrors, buys, sells⟩ := Found.mirrored victim found ready.shown target buy sell
  obtain ⟨solventBuy, solventSell⟩ := ready.solvent_route found buy sell
  have buysBefore : world.dexCode buyPool = some code :=
    (dexCode_of_code_eq afterVictim_code).symm.trans buys.deployed
  have sellsBefore : world.dexCode sellPool = some code :=
    (dexCode_of_code_eq afterVictim_code).symm.trans sells.deployed
  refine {
    codeA := ?_
    codeB := ?_
    conservedA := conserved_afterVictim mirrors payable ready.conservedA
    conservedB := conserved_afterVictim mirrors payable ready.conservedB
    solventBuy := solvent_afterVictim mirrors payable buysBefore ready.signs quoted solventBuy
    solventSell := solvent_afterVictim mirrors payable sellsBefore ready.signs quoted solventSell
    noZero := ?_
    operated := ?_
    stocked := ready.stocked.trans (held_afterVictim mirrors payable ready.signs ready.operated)
    differ := found_pools_differ found buy sell }
  · rw [minter_of_code_eq afterVictim_code]
    exact ready.codeA
  · rw [minter_of_code_eq afterVictim_code]
    exact ready.codeB
  · rw [afterVictim_code]
    exact ready.noZero
  · rw [World.operator, afterVictim_code]
    exact ready.operated

/-- The search pairs two pools in one way only. -/
theorem Paired.unique {listed' other' : PoolSnapshot}
    (first : Paired state candidate swap params listed other)
    (second : Paired state candidate swap params listed' other') : listed = listed' ∧ other = other' := by
  obtain ⟨located, earlier, later, best, split, isBest⟩ := first
  obtain ⟨located', earlier', later', best', split', isBest'⟩ := second
  have same : listed = listed' := Option.some.inj (located.symm.trans located')
  subst listed'
  exact ⟨rfl, isBest.unique isBest' (split.symm.trans split')⟩

/-- What is found was found on the paired pools. -/
theorem findArbitrage_paired (found : findArbitrage state candidate swap params = some opportunity) :
    ∃ listed other, Paired state candidate swap params listed other ∧
      Found state candidate swap params opportunity listed other := by
  obtain ⟨bps, listed, after, earlier, chosen, later, located, applied, split, best⟩ :=
    findArbitrage_firstBest found
  obtain ⟨_, _, _, _, _, rfl⟩ := applyVictimSwap_eq_some applied
  have member : chosen ∈ state.pools := by
    rw [split]
    exact List.mem_append_right _ List.mem_cons_self
  refine ⟨listed, chosen, ⟨located, earlier, later, opportunity, split, best⟩, ?_⟩
  exact {
    bps, located, applied, member
    other := best.offers.1
    route := evaluateRoute_routed best.offers.2 }

/-- **When an opportunity is real.** For every snapshot, candidate, swap and
parameters on which the calculator finds an opportunity, and every chain in the
state of the snapshot with every party funded: the victim's swap and then the
executor's call with the opportunity's arguments both go through if and only if the
victim's exact output is positive with its quote in range, and so are both exact quotes
of the route over the paired pools, taken on the reserves behind the victim's swap and
on the closed-form input for them. -/
theorem opportunity_executes_iff
    (found : findArbitrage state candidate swap params = some opportunity)
    (target : addressOf candidate.pool.address = some pool)
    (buy : addressOf opportunity.buyPool.address = some buyPool)
    (sell : addressOf opportunity.sellPool.address = some sellPool)
    (ready : Ready world code state swap opportunity.amountInB pool victim executor operator) :
    (∃ victimOut between outputs after,
        victimSwap pool victim swap world = .ok (victimOut, between) ∧
        SandboxBackrun.executeBackrun executor operator buyPool sellPool opportunity.amountInB
          opportunity.minAmountOutA opportunity.minAmountOutB opportunity.minProfitB between =
            .ok (outputs, after)) ↔
      VictimExact swap (world.dex pool) ∧
        ∀ listed other, Paired state candidate swap params listed other →
          RouteExact (routeOf swap (poolAfter swap listed) other).1
            (routeOf swap (poolAfter swap listed) other).2 params := by
  obtain ⟨listed, other, paired, found⟩ := findArbitrage_paired found
  obtain ⟨mirrors, buys, sells⟩ := Found.mirrored victim found ready.shown target buy sell
  have member := (findPoolSnapshot_eq_some found.located).1
  have solvent := ready.solvent listed member pool mirrors.named
  have operated : (afterVictim world pool victim code swap).operator executor = some operator := by
    rw [World.operator, afterVictim_code]
    exact ready.operated
  constructor
  · rintro ⟨victimOut, between, outputs, after, swapped, executed⟩
    obtain ⟨⟨quoted, payable⟩, same⟩ := (victimSwap_settles mirrors _).mp swapped
    cases same
    obtain ⟨accepted, _⟩ :=
      (executeBackrun_settles operated buys.deployed sells.deployed _).mp executed
    refine ⟨(victim_quoted_iff found mirrors).mp quoted, ?_⟩
    intro listed' other' paired'
    obtain ⟨rfl, rfl⟩ := paired.unique paired'
    exact (legs_fit_iff buys sells found.route).mp ⟨accepted.buyQuoted.fits, accepted.sellQuoted.fits⟩
  · rintro ⟨victimExact, routeExact⟩
    have quoted := (victim_quoted_iff found mirrors).mpr victimExact
    have payable := victim_payable ready mirrors solvent quoted
    have armed := ready.armed found target buy sell quoted payable
    have fits := (legs_fit_iff buys sells found.route).mpr (routeExact listed other paired)
    have accepted := (backrun_accepted_iff armed buys sells found.route found.bps).mpr fits
    exact ⟨_, _, _, _, (victimSwap_settles mirrors _).mpr ⟨⟨quoted, payable⟩, rfl⟩,
      (executeBackrun_settles operated buys.deployed sells.deployed _).mpr ⟨accepted, rfl⟩⟩

/-! The small chain of the prediction, ready for any swap its victim can afford. -/

private theorem sandbox_conserved (first second : DexStorage) (token : Address) :
    Conserved (sandbox first second) token := by
  have balance (account : Address) : held (sandbox first second) token account =
      if account ∈ sandboxHolders then 1000000000 else 0 := by
    simp only [held, sandbox]
    split <;> rfl
  have holders : sandboxHolders.card = 4 := by decide
  rw [Conserved, circulating, Finset.sum_congr rfl fun account _ => balance account,
    Finset.sum_ite_mem, Finset.univ_inter, Finset.sum_const, holders]
  rfl

private theorem sandbox_ready {first second : DexStorage} {arguments : SwapArguments}
    (firstBacked : first.reserveA.toNat ≤ 1000000000 ∧ first.reserveB.toNat ≤ 1000000000)
    (secondBacked : second.reserveA.toNat ≤ 1000000000 ∧ second.reserveB.toNat ≤ 1000000000)
    (affordable : arguments.amountIn.toNat ≤ 1000000000) (stocked : amountInB.toNat ≤ 1000000000) :
    Ready (sandbox first second) sandboxPair (sandboxState first second) (.swapExactAForB arguments)
      amountInB 0xD1 0x71 0xE0 0x0F where
  shown := sandbox_listed first second
  codeA := rfl
  codeB := rfl
  conservedA := sandbox_conserved first second _
  conservedB := sandbox_conserved first second _
  solvent := by
    intro snapshot member account named
    simp only [sandboxState, List.mem_cons, List.not_mem_nil, or_false] at member
    rcases member with rfl | rfl
    · have here : addressOf (sandboxPool 0xD1).address = some 0xD1 := by decide
      cases here.symm.trans named
      exact ⟨firstBacked.1, firstBacked.2⟩
    · have here : addressOf (sandboxPool 0xD2).address = some 0xD2 := by decide
      cases here.symm.trans named
      exact ⟨secondBacked.1, secondBacked.2⟩
  noZero := rfl
  nonzero := by decide
  signs := rfl
  holds := affordable
  approves := affordable
  operated := rfl
  stocked := stocked

/-- With two pools on the list there is only one pair. -/
private theorem sandbox_paired {first second : DexStorage}
    (paired : Paired (sandboxState first second) sandboxCandidate swap params listed other) :
    listed = ⟨sandboxPool 0xD1, first.reserveA, first.reserveB⟩ ∧
      other = ⟨sandboxPool 0xD2, second.reserveA, second.reserveB⟩ := by
  obtain ⟨located, earlier, later, best, split, isBest⟩ := paired
  have here : findPoolSnapshot (sandboxState first second) sandboxCandidate =
      some ⟨sandboxPool 0xD1, first.reserveA, first.reserveB⟩ := rfl
  have member : other ∈ (sandboxState first second).pools := by
    rw [split]
    exact List.mem_append_right _ List.mem_cons_self
  simp only [sandboxState, List.mem_cons, List.not_mem_nil, or_false] at member
  refine ⟨Option.some.inj (located.symm.trans here), ?_⟩
  rcases member with rfl | isSecond
  · exact absurd rfl isBest.offers.1
  · exact isSecond

/-- On two balanced pools the victim's swap and the backrun go through, and the
three quotes are exact. -/
theorem opportunity_executes_iff_sandbox :
    let reserves : DexStorage := ⟨1000000, 1000000⟩
    let swap : Swap := .swapExactAForB ⟨100000, 1⟩
    let world := sandbox reserves reserves
    (∃ victimOut between outputs after,
        victimSwap 0xD1 0x71 swap world = .ok (victimOut, between) ∧
        SandboxBackrun.executeBackrun 0xE0 0x0F 0xD1 0xD2 41999 48422 46053 0 between =
          .ok (outputs, after)) ∧
      VictimExact swap (world.dex 0xD1) := by
  intro reserves swap world
  have iff := opportunity_executes_iff
    (show findArbitrage (sandboxState reserves reserves) sandboxCandidate swap
        { maxAmountInB := 1000000, minOutputBps := 10000 } =
      some ⟨sandboxPool 0xD1, sandboxPool 0xD2, 41999, 48422, 46053, 0, 48422, 46053, 4054⟩
      by decide +kernel)
    (show _ = some 0xD1 by decide) (show _ = some 0xD1 by decide) (show _ = some 0xD2 by decide)
    (sandbox_ready (by decide) (by decide) (by decide) (by decide))
  have victimExact : VictimExact swap (world.dex 0xD1) := ⟨by decide +kernel, by decide +kernel⟩
  refine ⟨iff.mpr ⟨victimExact, ?_⟩, victimExact⟩
  intro listed other paired
  obtain ⟨rfl, rfl⟩ := sandbox_paired paired
  exact ⟨by decide +kernel, by decide +kernel⟩

/-- One unit of A into a pool with a single unit of B left pays nothing: the
calculator accepts the swap and finds an opportunity behind it, the pool reverts. -/
theorem zero_output_victim_reverts :
    let first : DexStorage := ⟨1000000, 1⟩
    let second : DexStorage := ⟨1000000, 1000000⟩
    let swap : Swap := .swapExactAForB ⟨1, 0⟩
    findArbitrage (sandboxState first second) sandboxCandidate swap
        { maxAmountInB := 1000000000000000000000000, minOutputBps := 0 } =
      some ⟨sandboxPool 0xD1, sandboxPool 0xD2, 500, 0, 0, 0, 997998, 498747, 498247⟩ ∧
    Ready (sandbox first second) sandboxPair (sandboxState first second) swap 500 0xD1 0x71 0xE0 0x0F ∧
    victimSwap 0xD1 0x71 swap (sandbox first second) =
      .error (.reason "DEX: zero amount out") := by
  intro first second swap
  refine ⟨by decide +kernel, sandbox_ready (by decide) (by decide) (by decide) (by decide), ?_⟩
  exact failure_eq_some (by decide +kernel)

end DexKnight.FalseOpportunity
