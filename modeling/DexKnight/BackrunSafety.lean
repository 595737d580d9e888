import DexKnight.LedgerProofs
import DexKnight.Support.Runs

/-! The executor never loses funds. Its only approvals are the two its own legs
consume in the same call, so between transactions nobody may pull from it, and
what it sends out it sends either against a larger return or on its operator's
withdrawal. The invariant is over whole runs with arbitrary callers; every entry
point of the three contracts is one case of the step lemma. -/
namespace DexKnight.BackrunSafety
open Core.Types Core.Contracts Support.CheckedWord Support.Reverting Support.Runs ContractProofs LedgerProofs

/-- The chain right after deployment: code in place and every storage slot zero. -/
def Deployed (world : World) : Prop :=
  (∀ token, world.erc20 token = {}) ∧ (∀ pool, world.dex pool = {}) ∧ world.logs = []

/-- The chain under transactions of any accounts. The contracts themselves sign
nothing: a sender has none of their code. -/
def chain : Machine World Transaction where
  initial := Deployed
  step world transaction after :=
    world.code transaction.sender = none ∧ after = world.transact transaction

variable {world : World} {executor operator buyPool sellPool sender account token : Address}
  {amountInB minAmountOutA minAmountOutB minProfitB : Uint256} {code : DexCode}

/-! ## Nobody may pull from the executor -/

/-- The executor has no approval outstanding, for any token and any spender. -/
def NoApprovals (world : World) (executor : Address) : Prop :=
  ∀ token spender, allowed world token executor spender = 0

/-- An approval of exactly what is then pulled leaves nothing behind. -/
private theorem approved_then_spent {pool : Address} {amount : Uint256}
    (finite : amount.toNat < 2 ^ 256 - 1) (clear : NoApprovals world executor) :
    NoApprovals ((world.approved token executor pool amount).spent token executor pool amount)
      executor := by
  intro token' spender
  have granted : allowed (world.approved token executor pool amount) token executor pool =
      amount.toNat := by
    simp [allowed_approved]
  by_cases sameSpender : spender = pool
  · subst spender
    rw [allowed_spent (by rw [granted]; exact finite) (by rw [granted]), granted]
    split
    · exact Nat.sub_self _
    · next other => simp [allowed_approved, other, clear token' pool]
  · rw [allowed_spent_of_spender_ne sameSpender, allowed_approved]
    simp [sameSpender, clear token' spender]

/-- Both approvals of a backrun are consumed inside it. -/
theorem sold_no_approvals (accepted : BackrunAccepted world executor buyPool sellPool code amountInB
    minAmountOutA minAmountOutB minProfitB) (clear : NoApprovals world executor) :
    NoApprovals (sold world executor buyPool sellPool code amountInB) executor := by
  have clearBought : NoApprovals (bought world executor buyPool code amountInB) executor := by
    intro token spender
    rw [bought, swappedBForA, allowed_setDex, allowed_exchanged]
    exact approved_then_spent accepted.buyQuoted.finite clear token spender
  intro token spender
  rw [sold, swappedAForB, allowed_setDex, allowed_exchanged]
  exact approved_then_spent accepted.sellQuoted.finite clearBought token spender

/-! ## What other calls do to the executor -/

/-- A change that grants nothing on the executor's behalf and takes nothing
from it. -/
structure Spares (executor : Address) (before after : World) : Prop where
  approvals : ∀ token spender, allowed after token executor spender =
    allowed before token executor spender
  holdings : ∀ token, held before token executor ≤ held after token executor

namespace Spares

variable {first second third : World} {source recipient owner spender pool trader : Address}
  {amount amountIn amountOut : Uint256} {tokenIn tokenOut : Address}

theorem trans (before : Spares executor first second) (after : Spares executor second third) :
    Spares executor first third :=
  ⟨fun token spender => (after.approvals token spender).trans (before.approvals token spender),
    fun token => (before.holdings token).trans (after.holdings token)⟩

theorem emit {event : Event} : Spares executor world (world.emit event) :=
  ⟨fun _ _ => rfl, fun _ => le_rfl⟩

theorem setDex {storage : DexStorage} : Spares executor world (world.setDex pool storage) :=
  ⟨fun _ _ => rfl, fun _ => le_rfl⟩

/-- A movement out of somebody else's account. -/
theorem moved (other : executor ≠ source) (movable : Movable world token source recipient amount) :
    Spares executor world (world.moved token source recipient amount) where
  approvals _ _ := allowed_moved
  holdings token' := by
    by_cases same : token' = token
    · subst token'
      rw [held_moved movable, share_of_ne other]
      omega
    · rw [held_moved_of_ne same]

theorem approved (other : executor ≠ owner) :
    Spares executor world (world.approved token owner spender amount) where
  approvals _ _ := by simp [allowed_approved, other]
  holdings _ := by simp

theorem spent (other : executor ≠ owner) :
    Spares executor world (world.spent token owner spender amount) where
  approvals _ _ := allowed_spent_of_owner_ne other
  holdings _ := by simp

/-- A swap between two other parties. -/
theorem exchanged (distinct : tokenIn ≠ tokenOut) (notTrader : executor ≠ trader)
    (notPool : executor ≠ pool)
    (payable : Payable world pool trader tokenIn tokenOut amountIn amountOut) :
    Spares executor world (exchanged world pool trader tokenIn tokenOut amountIn amountOut) where
  approvals token spender := by
    rw [allowed_exchanged, allowed_spent_of_owner_ne notTrader]
  holdings token := by
    obtain ⟨onIn, onOut⟩ := held_exchanged executor distinct payable
    rw [share_of_ne notTrader, share_of_ne notPool] at onIn onOut
    by_cases isIn : token = tokenIn
    · subst token
      omega
    · by_cases isOut : token = tokenOut
      · subst token
        omega
      · rw [held_exchanged_of_ne isIn isOut]

/-- Issuing new tokens can only credit the executor. -/
theorem minted (fits : ((world.erc20 token).balanceOf recipient).toNat + amount.toNat < 2 ^ 256) :
    Spares executor world (minted world token recipient amount) where
  approvals token' spender := by
    by_cases same : token' = token
    · subst token'
      simp [allowed, ContractProofs.minted]
    · simp [allowed, ContractProofs.minted, World.setErc20, Function.update_of_ne same]
  holdings token' := by
    by_cases same : token' = token
    · subst token'
      simp only [held, ContractProofs.minted, emit_erc20, setErc20_erc20_self]
      by_cases receives : executor = recipient
      · subst recipient
        rw [Function.update_self, toNat_add_exact fits]
        omega
      · rw [Function.update_of_ne receives]
    · simp [held, ContractProofs.minted, World.setErc20, Function.update_of_ne same]

end Spares

/-! ## One transaction -/

variable {after : World} {entry : Entry}

theorem pull_spares {source recipient spender : Address} {amount : Uint256}
    (clear : NoApprovals world executor)
    (enough : amount.toNat ≤ ((world.erc20 token).allowance source spender).toNat)
    (movable : Movable world token source recipient amount) :
    Spares executor world
      ((world.spent token source spender amount).moved token source recipient amount) := by
  by_cases mine : executor = source
  · -- The executor approved nothing, so all that can be pulled from it is zero.
    subst source
    have nothing : amount.toNat = 0 := by
      have limit : amount.toNat ≤ allowed world token executor spender := enough
      rw [clear token spender] at limit
      omega
    have still : Movable (world.spent token executor spender amount) token executor recipient amount :=
      movable_spent.mpr movable
    constructor
    · intro token' spender'
      rw [allowed_moved]
      by_cases sameSpender : spender' = spender
      · subst spender'
        rw [allowed_spent (by rw [clear]; decide) (by rw [nothing]; omega), clear, clear, nothing]
        simp
      · exact allowed_spent_of_spender_ne sameSpender
    · intro token'
      by_cases same : token' = token
      · subst token'
        rw [held_moved still, share_self, nothing, held_spent]
        omega
      · rw [held_moved_of_ne same, held_spent]
  · exact (Spares.spent mine).trans (Spares.moved mine (movable_spent.mpr movable))

/-- What one completed call can do to the executor: nothing against it, one
accepted backrun of its own, or a withdrawal its operator asked for. -/
theorem call_cases (operated : world.operator executor = some operator)
    (signed : world.code sender = none) (clear : NoApprovals world executor)
    (ran : entry.call sender world = .ok ((), after)) :
    Spares executor world after ∨
      (∃ buyPool sellPool code amountInB minAmountOutA minAmountOutB minProfitB event,
        world.dexCode buyPool = some code ∧ world.dexCode sellPool = some code ∧
        BackrunAccepted world executor buyPool sellPool code amountInB minAmountOutA minAmountOutB
          minProfitB ∧
        after = (sold world executor buyPool sellPool code amountInB).emit event) ∨
      ∃ token recipient amount event, sender = operator ∧
        entry = .withdrawToken executor token recipient amount ∧
        after = (world.moved token executor recipient amount).emit event := by
  have notSender := executor_ne_codeless signed operated
  cases call_called ran with
  | mint minter nonzero supply fits => exact .inl (Spares.minted fits)
  | approve inCode => exact .inl (Spares.approved notSender)
  | transfer inCode movable => exact .inl (Spares.moved notSender movable)
  | transferFrom inCode enough movable => exact .inl (pull_spares clear enough movable)
  | seedLiquidity deployed givenA givenB movableA movableB =>
    refine .inl (((Spares.spent notSender).trans (Spares.moved notSender ?_)).trans
      (((Spares.spent notSender).trans (Spares.moved notSender ?_)).trans
        (Spares.setDex.trans Spares.emit)))
    · exact movable_spent.mpr movableA
    · exact movable_spent.mpr movableB
  | @swapExactAForB pool code amountIn minAmountOut deployed quoted payable =>
    exact .inl ((Spares.exchanged code.distinct notSender (not_pool_of_operator operated deployed)
      payable).trans Spares.setDex)
  | @swapExactBForA pool code amountIn minAmountOut deployed quoted payable =>
    exact .inl ((Spares.exchanged (Ne.symm code.distinct) notSender
      (not_pool_of_operator operated deployed) payable).trans Spares.setDex)
  | @executeBackrun contract buyPool sellPool code amountInB minAmountOutA minAmountOutB minProfitB
      operates buys sells accepted =>
    by_cases mine : executor = contract
    · subst contract
      exact .inr (.inl ⟨buyPool, sellPool, code, amountInB, minAmountOutA, minAmountOutB, minProfitB,
        _, buys, sells, accepted, rfl⟩)
    · -- Another executor trades for itself, between its own account and the pools.
      have first : Spares executor world (bought world contract buyPool code amountInB) :=
        (Spares.approved mine).trans ((Spares.exchanged (Ne.symm code.distinct) mine
          (not_pool_of_operator operated buys) accepted.buyPayable).trans Spares.setDex)
      have second : Spares executor (readyToSell world contract buyPool sellPool code amountInB)
          (sold world contract buyPool sellPool code amountInB) := by
        rw [sold, swappedAForB, sold_out_of_ne accepted.poolsDiffer]
        exact (Spares.exchanged code.distinct mine (not_pool_of_operator operated sells)
          accepted.sellPayable).trans Spares.setDex
      exact .inl (first.trans ((Spares.approved mine).trans (second.trans Spares.emit)))
  | @withdrawToken contract token recipient amount operates isToken nonzero inCode movable =>
    by_cases mine : executor = contract
    · subst contract
      rw [operated] at operates
      cases operates
      exact .inr (.inr ⟨token, recipient, amount, _, rfl, rfl, rfl⟩)
    · exact .inl ((Spares.moved mine movable).trans Spares.emit)

/-- No call changes the code at any address. -/
theorem call_code (ran : entry.call sender world = .ok ((), after)) : after.code = world.code := by
  cases call_called ran with
  | mint => rfl
  | approve => rfl
  | transfer => rfl
  | transferFrom => simp
  | seedLiquidity => simp [seeded, deposited]
  | swapExactAForB => simp [swappedAForB]
  | swapExactBForA => simp [swappedBForA]
  | executeBackrun => simp
  | withdrawToken => rfl

variable {transaction : Transaction}

/-- What a transaction leaves behind is what its call leaves behind, or the world
as it was. -/
theorem transact_cases (transaction : Transaction) :
    transaction.entry.call transaction.sender world = .ok ((), world.transact transaction) ∨
      world.transact transaction = world := by
  rcases settle_cases (transaction.entry.call transaction.sender) world with ⟨_, ran⟩ | kept
  · exact .inl ran
  · exact .inr kept

theorem transact_code : (world.transact transaction).code = world.code := by
  rcases transact_cases transaction with ran | kept
  · exact call_code ran
  · exact congrArg World.code kept

theorem operator_of_code_eq {world' : World} (same : world'.code = world.code) :
    world'.operator executor = world.operator executor := by
  simp only [World.operator, same]

theorem call_no_approvals (operated : world.operator executor = some operator)
    (signed : world.code sender = none) (clear : NoApprovals world executor)
    (ran : entry.call sender world = .ok ((), after)) : NoApprovals after executor := by
  rcases call_cases operated signed clear ran with
    spared | ⟨buyPool, sellPool, code, amountInB, _, _, _, event, _, _, accepted, same⟩ |
      ⟨token, recipient, amount, event, _, _, same⟩
  · intro token spender
    exact (spared.approvals token spender).trans (clear token spender)
  · subst same
    intro token spender
    rw [allowed_emit]
    exact sold_no_approvals accepted clear token spender
  · subst same
    intro token' spender
    rw [allowed_emit, allowed_moved]
    exact clear token' spender

theorem call_holdings (operated : world.operator executor = some operator)
    (signed : world.code sender = none) (clear : NoApprovals world executor)
    (ran : entry.call sender world = .ok ((), after))
    (down : held after token executor < held world token executor) :
    sender = operator ∧ ∃ recipient amount, entry = .withdrawToken executor token recipient amount := by
  rcases call_cases operated signed clear ran with
    spared | ⟨buyPool, sellPool, code, amountInB, _, _, _, event, buys, sells, accepted, same⟩ |
      ⟨withdrawn, recipient, amount, event, isOperator, isWithdrawal, same⟩
  · exact absurd down (Nat.not_lt.mpr (spared.holdings token))
  · subst same
    obtain ⟨_, onA⟩ := executor_funds accepted.toBackrunLegs (not_pool_of_operator operated buys)
      (not_pool_of_operator operated sells)
    have gains : held world code.tokenB executor ≤
        held (sold world executor buyPool sellPool code amountInB) code.tokenB executor :=
      accepted.gains
    rw [held_emit] at down
    by_cases isB : token = code.tokenB
    · subst token
      omega
    · by_cases isA : token = code.tokenA
      · subst token
        omega
      · rw [held_sold_of_ne isA isB] at down
        omega
  · subst same
    rw [held_emit] at down
    by_cases sameToken : token = withdrawn
    · subst withdrawn
      exact ⟨isOperator, recipient, amount, isWithdrawal⟩
    · rw [held_moved_of_ne sameToken] at down
      omega

/-- **One step.** No transaction of any account leaves an approval of the
executor's behind. -/
theorem step_no_approvals (operated : world.operator executor = some operator)
    (signed : world.code transaction.sender = none) (clear : NoApprovals world executor) :
    NoApprovals (world.transact transaction) executor := by
  rcases transact_cases transaction with ran | kept
  · exact call_no_approvals operated signed clear ran
  · rw [kept]
    exact clear

/-- **One step.** The executor's balance of a token goes down only when its
operator withdraws that token. -/
theorem step_holdings (operated : world.operator executor = some operator)
    (signed : world.code transaction.sender = none) (clear : NoApprovals world executor)
    (down : held (world.transact transaction) token executor < held world token executor) :
    ∃ recipient amount, transaction = ⟨operator, .withdrawToken executor token recipient amount⟩ := by
  rcases transact_cases transaction with ran | kept
  · obtain ⟨isOperator, recipient, amount, isWithdrawal⟩ :=
      call_holdings operated signed clear ran down
    refine ⟨recipient, amount, ?_⟩
    cases transaction
    simp_all
  · rw [kept] at down
    omega

/-- In every state a run can reach, no executor has an approval outstanding. -/
theorem run_no_approvals {labels : List Transaction} (run : chain.Run labels world)
    (operated : world.operator executor = some operator) : NoApprovals world executor := by
  have everywhere : ∀ executor operator, world.operator executor = some operator →
      NoApprovals world executor := by
    refine Run.invariant
      (fun world => ∀ executor operator, world.operator executor = some operator →
        NoApprovals world executor) run ?_ ?_
    · intro start deployed executor operator _ token spender
      simp [allowed, deployed.1 token]
    · rintro before transaction _ clear ⟨signed, rfl⟩ executor operator operated
      rw [operator_of_code_eq transact_code] at operated
      exact step_no_approvals operated signed (clear executor operator operated)
  exact everywhere executor operator operated

/-- **The executor never loses funds.** In every state that any accounts'
transactions can reach: a successful backrun changes its TokenB balance by exactly
what the route returned over what it put in, at least the demanded profit, and
leaves TokenA alone; it has no approval outstanding to anyone; and no transaction
lowers its balance of any token except its operator's withdrawal of that token. -/
theorem executor_never_loses_funds {labels : List Transaction} (run : chain.Run labels world)
    (operated : world.operator executor = some operator) :
    (∀ sender buyPool sellPool amountInB minAmountOutA minAmountOutB minProfitB amountOutA amountOutB
        after,
      SandboxBackrun.executeBackrun executor sender buyPool sellPool amountInB minAmountOutA
          minAmountOutB minProfitB world = .ok ((amountOutA, amountOutB), after) →
        ∃ code, world.dexCode buyPool = some code ∧ world.dexCode sellPool = some code ∧
          (held after code.tokenB executor : Int) - held world code.tokenB executor =
            amountOutB.toNat - amountInB.toNat ∧
          (minProfitB.toNat : Int) ≤ amountOutB.toNat - amountInB.toNat ∧
          held after code.tokenA executor = held world code.tokenA executor) ∧
      (∀ token spender, (world.erc20 token).allowance executor spender = 0) ∧
      ∀ transaction token, world.code transaction.sender = none →
        held (world.transact transaction) token executor < held world token executor →
          ∃ recipient amount,
            transaction = ⟨operator, .withdrawToken executor token recipient amount⟩ := by
  have clear := run_no_approvals run operated
  refine ⟨?_, fun token spender => eq_zero_iff_toNat.mpr (clear token spender),
    fun transaction token signed down => step_holdings operated signed clear down⟩
  intro sender buyPool sellPool amountInB minAmountOutA minAmountOutB minProfitB amountOutA amountOutB
    after executed
  obtain ⟨operates, code, buys, sells⟩ := executeBackrun_enters executed
  obtain ⟨accepted, same⟩ := (executeBackrun_settles operates buys sells _).mp executed
  cases same
  obtain ⟨onB, onA⟩ := executor_funds accepted.toBackrunLegs (not_pool_of_operator operated buys)
    (not_pool_of_operator operated sells)
  have profits := accepted.profits
  rw [toNat_sub_exact accepted.gains] at profits
  have gains : held world code.tokenB executor ≤
      held (sold world executor buyPool sellPool code amountInB) code.tokenB executor :=
    accepted.gains
  refine ⟨code, buys, sells, ?_, ?_, onA⟩
  · rw [held_emit]
    omega
  · change minProfitB.toNat ≤ held (sold world executor buyPool sellPool code amountInB) code.tokenB
      executor - held world code.tokenB executor at profits
    omega

/-! A small market: two pools over one pair, deployed and seeded, and an executor with
funds. The first pool sells A at half the price of the second. -/

def marketPair : DexCode := ⟨0xA1, 0xB1, by decide, by decide, by decide⟩

def deployment : World where
  code account :=
    if account = 0xA1 ∨ account = 0xB1 then some (.erc20 0x0F)
    else if account = 0xD1 ∨ account = 0xD2 then some (.dex marketPair)
    else if account = 0xE0 then some (.backrun 0x0F)
    else none

def market : List Transaction := [
  ⟨0x0F, .mint 0xA1 0x0F 3000000⟩, ⟨0x0F, .mint 0xB1 0x0F 2000000⟩, ⟨0x0F, .mint 0xB1 0xE0 50000⟩,
  ⟨0x0F, .approve 0xA1 0xD1 2000000⟩, ⟨0x0F, .approve 0xB1 0xD1 1000000⟩,
  ⟨0x0F, .approve 0xA1 0xD2 1000000⟩, ⟨0x0F, .approve 0xB1 0xD2 1000000⟩,
  ⟨0x0F, .seedLiquidity 0xD1 2000000 1000000⟩, ⟨0x0F, .seedLiquidity 0xD2 1000000 1000000⟩]

/-- Transactions of accounts without code run one after the other. -/
theorem leads_transactions {calls : List Transaction}
    (signed : ∀ call ∈ calls, world.code call.sender = none) :
    chain.Leads world calls (calls.foldl World.transact world) := by
  induction calls generalizing world with
  | nil => exact .done
  | cons call rest ih =>
    have others : ∀ later ∈ rest, (world.transact call).code later.sender = none := by
      intro later member
      rw [transact_code]
      exact signed later (List.mem_cons_of_mem _ member)
    exact .step ⟨signed call List.mem_cons_self, rfl⟩ (ih others)

theorem run_transactions {calls : List Transaction}
    (signed : ∀ call ∈ calls, deployment.code call.sender = none) :
    chain.Run calls (calls.foldl World.transact deployment) := by
  have start : chain.Run [] deployment := .start ⟨fun _ => rfl, fun _ => rfl, rfl⟩
  exact Run.append start (leads_transactions signed)

/-- In the small market the executor's balance of B grows by what the second pool pays
over what the first one took, nobody may pull from it afterwards, and its operator can
still withdraw everything. -/
theorem executor_never_loses_funds_deployed :
    let backrun : Transaction := ⟨0x0F, .executeBackrun 0xE0 0xD1 0xD2 10000 19743 19303 9303⟩
    let withdrawal : Transaction := ⟨0x0F, .withdrawToken 0xE0 0xB1 0x02 59303⟩
    let before := market.foldl World.transact deployment
    let world := (market ++ [backrun]).foldl World.transact deployment
    held before 0xB1 0xE0 = 50000 ∧
      (∃ amountOutA amountOutB after,
        SandboxBackrun.executeBackrun 0xE0 0x0F 0xD1 0xD2 10000 19743 19303 9303 before =
            .ok ((amountOutA, amountOutB), after) ∧
          (held after 0xB1 0xE0 : Int) - held before 0xB1 0xE0 = amountOutB.toNat - 10000 ∧
          (9303 : Int) ≤ amountOutB.toNat - 10000 ∧ held after 0xA1 0xE0 = held before 0xA1 0xE0) ∧
      held world 0xB1 0xE0 = 59303 ∧
      (∀ token spender, (world.erc20 token).allowance 0xE0 spender = 0) ∧
      (∀ transaction token, world.code transaction.sender = none →
        held (world.transact transaction) token 0xE0 < held world token 0xE0 →
          ∃ recipient amount,
            transaction = ⟨0x0F, .withdrawToken 0xE0 token recipient amount⟩) ∧
      held (world.transact withdrawal) 0xB1 0xE0 = 0 := by
  intro backrun withdrawal before world
  have seeded : chain.Run market before := run_transactions (by decide)
  have traded : chain.Run (market ++ [backrun]) world := run_transactions (by decide)
  have operatedBefore : before.operator 0xE0 = some 0x0F := by decide +kernel
  have operated : world.operator 0xE0 = some 0x0F := by decide +kernel
  have funded : held before 0xB1 0xE0 = 50000 := by decide +kernel
  have grown : held world 0xB1 0xE0 = 59303 := by decide +kernel
  have drained : held (world.transact withdrawal) 0xB1 0xE0 = 0 := by decide +kernel
  obtain ⟨_, spared, kept⟩ := executor_never_loses_funds traded operated
  refine ⟨funded, ?_, grown, spared, kept, drained⟩
  obtain ⟨⟨⟨amountOutA, amountOutB⟩, after⟩, executed⟩ := completes_of_isOk (show
    ((SandboxBackrun.executeBackrun 0xE0 0x0F 0xD1 0xD2 10000 19743 19303 9303) before).isOk = true
      by decide +kernel)
  obtain ⟨code, buys, _, earned, demanded, unchanged⟩ :=
    (executor_never_loses_funds seeded operatedBefore).1 _ _ _ _ _ _ _ _ _ _ executed
  have pair : before.dexCode 0xD1 = some marketPair := by decide +kernel
  cases buys.symm.trans pair
  exact ⟨amountOutA, amountOutB, after, executed, earned, demanded, unchanged⟩

end DexKnight.BackrunSafety
