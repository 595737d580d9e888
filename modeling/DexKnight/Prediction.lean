import DexKnight.CalculatorProofs
import DexKnight.LedgerProofs
import DexKnight.Support.BigEndian

/-! Prediction equals execution. The calculator works on a snapshot with wrapping
words, the contracts on their own storage with checked ones. When the snapshot
shows the pools' reserves and both transactions go through, the contracts compute
the calculator's numbers: reserves after the victim's swap, the output of each leg
and the realised profit. -/
namespace DexKnight.Prediction
open Core.Types Core.Calculator Core.Contracts Support.CheckedWord Support.Reverting ContractProofs
  Support.BigEndian LedgerProofs CalculatorProofs

variable {world between after : World} {code : DexCode} {swap : Swap} {params : Params}
  {pool otherPool buyPool sellPool victim executor sender : Address}
  {listed other snapshot : PoolSnapshot} {state : StateSnapshot} {candidate : Candidate}
  {opportunity : Opportunity}

/-! ## Addresses -/

private theorem bigEndian_lt {bytes : Bytes} (width : bytes.length = kAddressLength) :
    bigEndian bytes < 2 ^ 160 := by
  have bound : bigEndian bytes < 256 ^ bytes.length := value_lt bytes
  rw [width] at bound
  exact bound

/-- Two byte strings that name one account are the same string. -/
theorem addressOf_inj {first second : Bytes} (left : addressOf first = some pool)
    (right : addressOf second = some pool) : first = second := by
  unfold addressOf at left right
  split at left
  · next firstWidth =>
    split at right
    · next secondWidth =>
      have words : BitVec.ofNat 160 (bigEndian first) = BitVec.ofNat 160 (bigEndian second) :=
        (Option.some.inj left).trans (Option.some.inj right).symm
      have values := congrArg BitVec.toNat words
      rw [BitVec.toNat_ofNat, BitVec.toNat_ofNat, Nat.mod_eq_of_lt (bigEndian_lt firstWidth),
        Nat.mod_eq_of_lt (bigEndian_lt secondWidth)] at values
      exact value_inj (firstWidth.trans secondWidth.symm) values
    · cases right
  · cases left

/-! ## The snapshot and the chain -/

/-- The chain has a pool over this pair at the snapshot's address, with the
snapshot's reserves. -/
structure Mirrors (world : World) (code : DexCode) (snapshot : PoolSnapshot) (pool : Address) :
    Prop where
  named : addressOf snapshot.pool.address = some pool
  deployed : world.dexCode pool = some code
  reserveA : (world.dex pool).reserveA = snapshot.reserveA
  reserveB : (world.dex pool).reserveB = snapshot.reserveB

/-- Every listed pool mirrors the chain, all over one pair of tokens. -/
def Listed (world : World) (code : DexCode) (state : StateSnapshot) : Prop :=
  ∀ snapshot ∈ state.pools, ∃ pool, Mirrors world code snapshot pool

/-- The victim's transaction. -/
def victimSwap (pool victim : Address) : Swap → Call Uint256
  | .swapExactAForB arguments =>
    SandboxDex.swapExactAForB pool victim arguments.amountIn arguments.minAmountOut
  | .swapExactBForA arguments =>
    SandboxDex.swapExactBForA pool victim arguments.amountIn arguments.minAmountOut

/-- The token a swap takes and the token it pays. -/
def swapTokens (swap : Swap) (code : DexCode) : Address × Address :=
  match swap with
  | .swapExactAForB _ => (code.tokenA, code.tokenB)
  | .swapExactBForA _ => (code.tokenB, code.tokenA)

/-- The state a completed victim swap leaves. -/
def afterVictim (world : World) (pool victim : Address) (code : DexCode) (swap : Swap) : World :=
  match swap with
  | .swapExactAForB arguments => swappedAForB world pool victim code arguments.amountIn
  | .swapExactBForA arguments => swappedBForA world pool victim code arguments.amountIn

/-- The victim's swap completes exactly when the pool quotes it on the snapshot's
reserves and the tokens can move; the pool then pays the calculator's output. -/
theorem victimSwap_settles (mirrors : Mirrors world code snapshot pool) :
    Settles (victimSwap pool victim swap) world
      (Quoted (swapArguments swap).amountIn (swapArguments swap).minAmountOut
          (swapReserves swap snapshot).1 (swapReserves swap snapshot).2 ∧
        Payable world pool victim (swapTokens swap code).1 (swapTokens swap code).2
          (swapArguments swap).amountIn (swapOut swap snapshot))
      (swapOut swap snapshot) (afterVictim world pool victim code swap) := by
  cases swap with
  | swapExactAForB arguments =>
    have outcome : Settles
        (SandboxDex.swapExactAForB pool victim arguments.amountIn arguments.minAmountOut)
        world _ _ _ := swapExactAForB_settles mirrors.deployed
    rw [outAForB, mirrors.reserveA, mirrors.reserveB] at outcome
    exact outcome
  | swapExactBForA arguments =>
    have outcome : Settles
        (SandboxDex.swapExactBForA pool victim arguments.amountIn arguments.minAmountOut)
        world _ _ _ := swapExactBForA_settles mirrors.deployed
    rw [outBForA, mirrors.reserveA, mirrors.reserveB] at outcome
    exact outcome

@[simp] theorem afterVictim_code : (afterVictim world pool victim code swap).code = world.code := by
  cases swap <;> simp [afterVictim, swappedAForB, swappedBForA]

/-- The victim's pool mirrors what the calculator made of the snapshot. -/
theorem Mirrors.afterVictim (mirrors : Mirrors world code snapshot pool) :
    Mirrors (afterVictim world pool victim code swap) code (poolAfter swap snapshot) pool := by
  have deployed : (Prediction.afterVictim world pool victim code swap).dexCode pool = some code :=
    (dexCode_of_code_eq afterVictim_code).trans mirrors.deployed
  cases swap with
  | swapExactAForB arguments =>
    refine ⟨mirrors.named, deployed, ?_, ?_⟩
    · simp [Prediction.afterVictim, swappedAForB, poolAfter, mirrors.reserveA]
    · simp [Prediction.afterVictim, swappedAForB, poolAfter, swapOut, swapReserves, swapArguments,
        outAForB, mirrors.reserveA, mirrors.reserveB]
  | swapExactBForA arguments =>
    refine ⟨mirrors.named, deployed, ?_, ?_⟩
    · simp [Prediction.afterVictim, swappedBForA, poolAfter, swapOut, swapReserves, swapArguments,
        outBForA, mirrors.reserveA, mirrors.reserveB]
    · simp [Prediction.afterVictim, swappedBForA, poolAfter, mirrors.reserveB]

/-- Every other pool mirrors what it did before. -/
theorem Mirrors.afterOther (mirrors : Mirrors world code snapshot otherPool)
    (differ : otherPool ≠ pool) :
    Mirrors (Prediction.afterVictim world pool victim code swap) code snapshot otherPool := by
  have kept : (Prediction.afterVictim world pool victim code swap).dex otherPool =
      world.dex otherPool := by
    cases swap <;>
      simp [Prediction.afterVictim, swappedAForB, swappedBForA, World.setDex, differ]
  exact {
    named := mirrors.named
    deployed := (dexCode_of_code_eq afterVictim_code).trans mirrors.deployed
    reserveA := by rw [kept, mirrors.reserveA]
    reserveB := by rw [kept, mirrors.reserveB] }

/-! ## Both legs -/

/-- On mirrored pools the contract's outputs are the predicted ones. -/
theorem route_outputs (buys : Mirrors world code listed buyPool)
    (sells : Mirrors world code other sellPool) (routed : Routed listed other params opportunity) :
    outBForA world buyPool opportunity.amountInB = opportunity.expectedAmountOutA ∧
      routeOut world buyPool sellPool opportunity.amountInB = opportunity.expectedAmountOutB := by
  have first : outBForA world buyPool opportunity.amountInB = opportunity.expectedAmountOutA := by
    rw [outBForA, buys.reserveA, buys.reserveB, routed.outA]
  refine ⟨first, ?_⟩
  rw [routeOut, first, outAForB, sells.reserveA, sells.reserveB, routed.outB]

/-- A completed backrun over mirrored pools answers with the prediction, and its
balance of TokenB grows by the predicted profit, which is also what it reports. -/
theorem backrun_as_predicted {amountOutA amountOutB : Uint256}
    (buys : Mirrors between code listed buyPool) (sells : Mirrors between code other sellPool)
    (routed : Routed listed other params opportunity)
    (executed : SandboxBackrun.executeBackrun executor sender buyPool sellPool opportunity.amountInB
      opportunity.minAmountOutA opportunity.minAmountOutB opportunity.minProfitB between =
        .ok ((amountOutA, amountOutB), after)) :
    amountOutA = opportunity.expectedAmountOutA ∧ amountOutB = opportunity.expectedAmountOutB ∧
      held after code.tokenB executor =
        held between code.tokenB executor + opportunity.expectedProfitB.toNat ∧
      after.logs.getLast? = some (.backrunExecuted executor buyPool sellPool opportunity.amountInB
        opportunity.expectedAmountOutA opportunity.expectedAmountOutB opportunity.expectedProfitB) := by
  obtain ⟨operated, _⟩ := executeBackrun_enters executed
  obtain ⟨accepted, same⟩ :=
    (executeBackrun_settles operated buys.deployed sells.deployed _).mp executed
  obtain ⟨first, whole⟩ := route_outputs buys sells routed
  cases same
  obtain ⟨funds, _⟩ := executor_funds accepted.toBackrunLegs (not_pool_of_operator operated buys.deployed)
    (not_pool_of_operator operated sells.deployed)
  have profit : opportunity.expectedProfitB.toNat =
      opportunity.expectedAmountOutB.toNat - opportunity.amountInB.toNat := by
    rw [routed.profit, toNat_sub_exact routed.gains.le]
  have gains := routed.gains
  rw [whole] at funds
  have grown : held (sold between executor buyPool sellPool code opportunity.amountInB) code.tokenB
      executor = held between code.tokenB executor + opportunity.expectedProfitB.toNat := by
    omega
  have measured : measuredProfit between executor buyPool sellPool code opportunity.amountInB =
      opportunity.expectedProfitB := by
    apply BitVec.eq_of_toNat_eq
    rw [measuredProfit, toNat_sub_exact accepted.gains]
    change held _ _ _ - held _ _ _ = _
    omega
  refine ⟨first, whole, ?_, ?_⟩
  · rw [held_emit]
    exact grown
  · rw [measured, first, whole]
    simp [World.emit]

/-- The two pools of a found route after the victim's swap, as the executor will
meet them. -/
theorem Found.mirrored (victim : Address)
    (found : Found state candidate swap params opportunity listed other)
    (shown : Listed world code state) (target : addressOf candidate.pool.address = some pool)
    (buy : addressOf opportunity.buyPool.address = some buyPool)
    (sell : addressOf opportunity.sellPool.address = some sellPool) :
    Mirrors world code listed pool ∧
      Mirrors (afterVictim world pool victim code swap) code
        (routeOf swap (poolAfter swap listed) other).1 buyPool ∧
      Mirrors (afterVictim world pool victim code swap) code
        (routeOf swap (poolAfter swap listed) other).2 sellPool := by
  obtain ⟨member, isTarget⟩ := findPoolSnapshot_eq_some found.located
  obtain ⟨listedPool, mirrors⟩ := shown listed member
  have samePool : listedPool = pool := by
    have named := mirrors.named
    rw [isTarget, target] at named
    exact (Option.some.inj named).symm
  subst listedPool
  obtain ⟨otherAddress, otherMirrors⟩ := shown other found.member
  have differ : otherAddress ≠ pool := by
    rintro rfl
    exact found.other (addressOf_inj otherMirrors.named target)
  have victimMirrors : Mirrors (afterVictim world pool victim code swap) code
      (poolAfter swap listed) pool := mirrors.afterVictim
  have keptMirrors : Mirrors (afterVictim world pool victim code swap) code other otherAddress :=
    otherMirrors.afterOther differ
  refine ⟨mirrors, ?_⟩
  have buys := found.route.buys
  have sells := found.route.sells
  rw [buys] at buy
  rw [sells] at sell
  cases swap with
  | swapExactAForB arguments =>
    have isBuy : pool = buyPool := Option.some.inj (victimMirrors.named.symm.trans buy)
    have isSell : otherAddress = sellPool := Option.some.inj (keptMirrors.named.symm.trans sell)
    subst isBuy isSell
    exact ⟨victimMirrors, keptMirrors⟩
  | swapExactBForA arguments =>
    have isBuy : otherAddress = buyPool := Option.some.inj (keptMirrors.named.symm.trans buy)
    have isSell : pool = sellPool := Option.some.inj (victimMirrors.named.symm.trans sell)
    subst isBuy isSell
    exact ⟨keptMirrors, victimMirrors⟩

/-- **Prediction equals execution.** Whenever the calculator finds an opportunity
on a snapshot of the chain, and the victim's swap and then the executor's call with
the opportunity's arguments go through, the victim's pool has the predicted
reserves, both legs pay the predicted outputs, and the executor's TokenB balance
grows by exactly the predicted profit, which it also reports. -/
theorem prediction_equals_execution {victimOut amountOutA amountOutB : Uint256}
    (shown : Listed world code state)
    (found : findArbitrage state candidate swap params = some opportunity)
    (target : addressOf candidate.pool.address = some pool)
    (buy : addressOf opportunity.buyPool.address = some buyPool)
    (sell : addressOf opportunity.sellPool.address = some sellPool)
    (swapped : victimSwap pool victim swap world = .ok (victimOut, between))
    (executed : SandboxBackrun.executeBackrun executor sender buyPool sellPool opportunity.amountInB
      opportunity.minAmountOutA opportunity.minAmountOutB opportunity.minProfitB between =
        .ok ((amountOutA, amountOutB), after)) :
    (∃ listed predicted, findPoolSnapshot state candidate = some listed ∧
        applyVictimSwap listed swap = some predicted ∧
        between.dex pool = ⟨predicted.reserveA, predicted.reserveB⟩) ∧
      amountOutA = opportunity.expectedAmountOutA ∧ amountOutB = opportunity.expectedAmountOutB ∧
      held after code.tokenB executor =
        held between code.tokenB executor + opportunity.expectedProfitB.toNat ∧
      after.logs.getLast? = some (.backrunExecuted executor buyPool sellPool opportunity.amountInB
        opportunity.expectedAmountOutA opportunity.expectedAmountOutB opportunity.expectedProfitB) := by
  obtain ⟨listed, other, found⟩ := findArbitrage_found found
  obtain ⟨mirrors, buys, sells⟩ := Found.mirrored victim found shown target buy sell
  obtain ⟨_, same⟩ := (victimSwap_settles mirrors _).mp swapped
  cases same
  refine ⟨⟨listed, _, found.located, found.applied, ?_⟩,
    backrun_as_predicted buys sells found.route executed⟩
  have predicted : Mirrors (afterVictim world pool victim code swap) code (poolAfter swap listed) pool :=
    mirrors.afterVictim
  rw [← predicted.reserveA, ← predicted.reserveB]

/-! A small chain: two pools over one pair, a victim who approved both, and an
executor, each with funds. -/

def sandboxPair : DexCode := ⟨0xA0, 0xB0, by decide, by decide, by decide⟩

def sandboxHolders : Finset Address := {0xD1, 0xD2, 0x71, 0xE0}

def sandbox (first second : DexStorage) : World where
  code account :=
    if account = 0xA0 ∨ account = 0xB0 then some (.erc20 0x0F)
    else if account = 0xD1 ∨ account = 0xD2 then some (.dex sandboxPair)
    else if account = 0xE0 then some (.backrun 0x0F)
    else none
  erc20 _ := {
    totalSupply := 4000000000
    balanceOf := fun account => if account ∈ sandboxHolders then 1000000000 else 0
    allowance := fun owner _ => if owner = 0x71 then 1000000000 else 0 }
  dex pool := if pool = 0xD1 then first else if pool = 0xD2 then second else {}

def sandboxPool (last : UInt8) : Pool := ⟨List.replicate 19 0 ++ [last], [], []⟩

def sandboxState (first second : DexStorage) : StateSnapshot where
  valid := true
  blockNumber := some 1
  pools := [⟨sandboxPool 0xD1, first.reserveA, first.reserveB⟩,
    ⟨sandboxPool 0xD2, second.reserveA, second.reserveB⟩]
  candidate := none

def sandboxCandidate : Candidate := ⟨{}, sandboxPool 0xD1, .aForB⟩

theorem sandbox_listed (first second : DexStorage) :
    Listed (sandbox first second) sandboxPair (sandboxState first second) := by
  intro snapshot member
  simp only [sandboxState, List.mem_cons, List.not_mem_nil, or_false] at member
  rcases member with rfl | rfl
  · exact ⟨0xD1, show addressOf (sandboxPool 0xD1).address = _ by decide, rfl, rfl, rfl⟩
  · exact ⟨0xD2, show addressOf (sandboxPool 0xD2).address = _ by decide, rfl, rfl, rfl⟩

/-- Two balanced pools and a victim who sells A: both transactions go through and
the executor earns what was predicted. -/
theorem prediction_equals_execution_sandbox :
    let reserves : DexStorage := ⟨1000000, 1000000⟩
    let swap : Swap := .swapExactAForB ⟨100000, 1⟩
    ∃ victimOut between outputs after,
      victimSwap 0xD1 0x71 swap (sandbox reserves reserves) = .ok (victimOut, between) ∧
        SandboxBackrun.executeBackrun 0xE0 0x0F 0xD1 0xD2 41999 48422 46053 0 between =
          .ok (outputs, after) ∧
        outputs = (48422, 46053) ∧ held after 0xB0 0xE0 = held between 0xB0 0xE0 + 4054 := by
  intro reserves swap
  have completes : ((do
      let _ ← victimSwap 0xD1 0x71 swap
      SandboxBackrun.executeBackrun 0xE0 0x0F 0xD1 0xD2 41999 48422 46053 0 :
        Call (Uint256 × Uint256)) (sandbox reserves reserves)).isOk = true := by
    decide +kernel
  obtain ⟨_, ran⟩ := completes_of_isOk completes
  obtain ⟨victimOut, between, swapped, executed⟩ := bind_completes.mp ran
  obtain ⟨_, first, second, funds, _⟩ := prediction_equals_execution
    (sandbox_listed reserves reserves)
    (show findArbitrage (sandboxState reserves reserves) sandboxCandidate swap
        { maxAmountInB := 1000000, minOutputBps := 10000 } =
      some ⟨sandboxPool 0xD1, sandboxPool 0xD2, 41999, 48422, 46053, 0, 48422, 46053, 4054⟩
      by decide +kernel)
    (by decide) (by decide) (by decide) swapped executed
  exact ⟨victimOut, between, _, _, swapped, executed, Prod.ext first second, funds⟩

end DexKnight.Prediction
