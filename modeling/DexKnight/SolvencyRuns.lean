import DexKnight.BackrunSafety
import DexKnight.Solvency

/-! Solvency and conservation over whole runs. Reserves are a pool's own bookkeeping
and the ledgers belong to the tokens, so the invariant spans them all: every ledger
adds up to its supply, every pool holds what it quotes from, and no pool has ever
granted an allowance. The last part is what keeps a `transferFrom` away from a pool's
balance; a donation only adds to it. -/
namespace DexKnight.SolvencyRuns
open Core.Types Core.Contracts Support.CheckedWord Support.Reverting Support.Runs ContractProofs
  LedgerProofs Solvency BackrunSafety

variable {world after : World} {token token' source recipient owner spender sender : Address}
  {amount : Uint256}

/-! ## Issuing tokens -/

@[simp] theorem minted_code : (minted world token recipient amount).code = world.code := rfl
@[simp] theorem minted_dex : (minted world token recipient amount).dex = world.dex := rfl

theorem minted_erc20_of_ne (other : token' ≠ token) :
    (minted world token recipient amount).erc20 token' = world.erc20 token' :=
  Function.update_of_ne other _ _

/-- What is issued is added to the supply and to one balance. -/
theorem Conserved.minted (conserved : Conserved world token')
    (supply : (world.erc20 token).totalSupply.toNat + amount.toNat < 2 ^ 256)
    (fits : ((world.erc20 token).balanceOf recipient).toNat + amount.toNat < 2 ^ 256) :
    Conserved (minted world token recipient amount) token' := by
  by_cases same : token' = token
  · subst token'
    have entry (account : Address) : held (ContractProofs.minted world token recipient amount) token
        account = held world token account + share recipient account amount := by
      simp only [held, ContractProofs.minted, emit_erc20, setErc20_erc20_self]
      by_cases receives : account = recipient
      · subst account
        rw [Function.update_self, toNat_add_exact fits, share_self]
      · rw [Function.update_of_ne receives, share_of_ne receives, Nat.add_zero]
    have issued : ((ContractProofs.minted world token recipient amount).erc20 token).totalSupply =
        (world.erc20 token).totalSupply + amount := by
      simp [ContractProofs.minted]
    rw [Conserved, issued, toNat_add_exact supply, ← conserved, circulating, circulating]
    simp only [entry, Finset.sum_add_distrib]
    simp [share]
  · rw [Conserved, minted_erc20_of_ne same, ← conserved, circulating, circulating]
    refine Finset.sum_congr rfl fun account _ => ?_
    rw [held, minted_erc20_of_ne same, held]

/-- On a conserved ledger a balance never exceeds the supply. -/
theorem Conserved.held_le (conserved : Conserved world token) (account : Address) :
    held world token account ≤ (world.erc20 token).totalSupply.toNat := by
  rw [← conserved]
  exact Finset.single_le_sum (f := fun account => held world token account)
    (fun _ _ => Nat.zero_le _) (Finset.mem_univ account)

/-! ## The invariant -/

/-- Ledgers add up, pools hold what they quote from, and pools grant nothing. -/
structure Sound (world : World) : Prop where
  conserved : ∀ token, Conserved world token
  solvent : ∀ pool code, world.dexCode pool = some code → Solvent world pool code
  clear : ∀ pool code, world.dexCode pool = some code → NoApprovals world pool

/-- A pool is as solvent as before after a change that spares it and keeps its
reserves. -/
theorem Solvent.spared {pool : Address} {code : DexCode} (solvent : Solvent world pool code)
    (kept : after.dex pool = world.dex pool) (spares : Spares pool world after) :
    Solvent after pool code := by
  obtain ⟨coversA, coversB⟩ := solvent
  constructor
  · rw [kept]
    exact coversA.trans (spares.holdings _)
  · rw [kept]
    exact coversB.trans (spares.holdings _)

theorem NoApprovals.spared {account : Address} (clear : NoApprovals world account)
    (spares : Spares account world after) : NoApprovals after account :=
  fun token spender => (spares.approvals token spender).trans (clear token spender)

namespace Sound

/-- A change of the ledgers that conserves them and spares every pool. -/
theorem spared (sound : Sound world) (sameCode : after.code = world.code)
    (sameReserves : after.dex = world.dex) (conserved : ∀ token, Conserved after token)
    (spares : ∀ pool code, world.dexCode pool = some code → Spares pool world after) :
    Sound after where
  conserved := conserved
  solvent pool code deployed := by
    rw [dexCode_of_code_eq sameCode] at deployed
    exact Solvent.spared (sound.solvent pool code deployed) (congrFun sameReserves pool)
      (spares pool code deployed)
  clear pool code deployed := by
    rw [dexCode_of_code_eq sameCode] at deployed
    exact NoApprovals.spared (sound.clear pool code deployed) (spares pool code deployed)

theorem emit (sound : Sound world) {event : Event} : Sound (world.emit event) :=
  ⟨sound.conserved, fun pool code deployed => ⟨(sound.solvent pool code deployed).coversA,
    (sound.solvent pool code deployed).coversB⟩, sound.clear⟩

/-- A pool is not an account that is none. -/
private theorem pool_ne {pool account : Address} {code : DexCode}
    (deployed : world.dexCode pool = some code) (notPool : world.dexCode account = none) :
    pool ≠ account := by
  rintro rfl
  rw [notPool] at deployed
  cases deployed

theorem approved (sound : Sound world) (notPool : world.dexCode owner = none) :
    Sound (world.approved token owner spender amount) :=
  sound.spared rfl rfl (fun _ => (sound.conserved _).approved)
    fun _ _ deployed => Spares.approved (pool_ne deployed notPool)

theorem spent (sound : Sound world) (notPool : world.dexCode owner = none) :
    Sound (world.spent token owner spender amount) :=
  sound.spared spent_code spent_dex (fun _ => (sound.conserved _).spent)
    fun _ _ deployed => Spares.spent (pool_ne deployed notPool)

theorem moved (sound : Sound world) (notPool : world.dexCode source = none)
    (movable : Movable world token source recipient amount) :
    Sound (world.moved token source recipient amount) :=
  sound.spared rfl rfl (fun _ => (sound.conserved _).moved movable)
    fun _ _ deployed => Spares.moved (pool_ne deployed notPool) movable

/-- Whoever is pulled from: a pool has approved nothing, so nothing is taken from it. -/
theorem pulled (sound : Sound world)
    (enough : amount.toNat ≤ ((world.erc20 token).allowance source spender).toNat)
    (movable : Movable world token source recipient amount) :
    Sound ((world.spent token source spender amount).moved token source recipient amount) :=
  sound.spared spent_code spent_dex
    (fun _ => (sound.conserved _).spent.moved (movable_spent.mpr movable))
    fun _ _ deployed => pull_spares (sound.clear _ _ deployed) enough movable

theorem minted (sound : Sound world)
    (supply : (world.erc20 token).totalSupply.toNat + amount.toNat < 2 ^ 256)
    (fits : ((world.erc20 token).balanceOf recipient).toNat + amount.toNat < 2 ^ 256) :
    Sound (minted world token recipient amount) :=
  sound.spared rfl rfl (fun token' => Conserved.minted (sound.conserved token') supply fits)
    fun _ _ _ => Spares.minted fits

/-! ## Swaps and deposits -/

variable {pool trader : Address} {code : DexCode} {amountIn minAmountOut : Uint256}

/-- A completed swap: the pool that traded is solvent by its own bookkeeping, the
others because nothing of theirs moved. -/
private theorem traded {tokenIn tokenOut : Address} {amountOut : Uint256} {storage : DexStorage}
    (sound : Sound world) (deployed : world.dexCode pool = some code)
    (notPool : world.dexCode trader = none) (distinct : tokenIn ≠ tokenOut)
    (payable : Payable world pool trader tokenIn tokenOut amountIn amountOut)
    (traded : Solvent ((exchanged world pool trader tokenIn tokenOut amountIn amountOut).setDex pool
      storage) pool code) :
    Sound ((exchanged world pool trader tokenIn tokenOut amountIn amountOut).setDex pool storage) where
  conserved token := ((sound.conserved token).exchanged distinct payable).setDex
  solvent other code' found := by
    rw [dexCode_of_code_eq (show _ = world.code by simp)] at found
    by_cases same : other = pool
    · subst other
      rw [deployed] at found
      cases found
      exact traded
    · exact (sound.solvent other code' found).bystander distinct same (pool_ne found notPool) payable
  clear other code' found := by
    rw [dexCode_of_code_eq (show _ = world.code by simp)] at found
    intro token spender
    rw [allowed_setDex, allowed_exchanged, allowed_spent_of_owner_ne (pool_ne found notPool)]
    exact sound.clear other code' found token spender

theorem swappedAForB (sound : Sound world) (deployed : world.dexCode pool = some code)
    (notPool : world.dexCode trader = none)
    (quoted : Quoted amountIn minAmountOut (world.dex pool).reserveA (world.dex pool).reserveB)
    (payable : Payable world pool trader code.tokenA code.tokenB amountIn
      (outAForB world pool amountIn)) :
    Sound (swappedAForB world pool trader code amountIn) :=
  sound.traded deployed notPool code.distinct payable
    ((sound.solvent pool code deployed).swappedAForB (pool_ne deployed notPool) quoted payable)

theorem swappedBForA (sound : Sound world) (deployed : world.dexCode pool = some code)
    (notPool : world.dexCode trader = none)
    (quoted : Quoted amountIn minAmountOut (world.dex pool).reserveB (world.dex pool).reserveA)
    (payable : Payable world pool trader code.tokenB code.tokenA amountIn
      (outBForA world pool amountIn)) :
    Sound (swappedBForA world pool trader code amountIn) :=
  sound.traded deployed notPool (Ne.symm code.distinct) payable
    ((sound.solvent pool code deployed).swappedBForA (pool_ne deployed notPool) quoted payable)

/-- What a deposit adds to the pool's balances. -/
private theorem held_deposited {provider : Address} (differ : pool ≠ provider)
    (movable : Movable world token provider pool amount) :
    held (deposited world token provider pool amount) token pool =
      held world token pool + amount.toNat := by
  rw [deposited, held_moved (movable_spent.mpr movable), held_spent, share_self, share_of_ne differ]
  omega

private theorem held_deposited_of_ne {provider account : Address} (other : token' ≠ token) :
    held (deposited world token provider pool amount) token' account = held world token' account := by
  rw [deposited, held_moved_of_ne other, held_spent]

/-- A seeded pool records exactly what both deposits brought in. -/
theorem seeded {provider : Address} {amountA amountB : Uint256} (sound : Sound world)
    (deployed : world.dexCode pool = some code) (notPool : world.dexCode provider = none)
    (movableA : Movable world code.tokenA provider pool amountA)
    (movableB : Movable (deposited world code.tokenA provider pool amountA) code.tokenB provider pool
      amountB)
    (fitsA : (world.dex pool).reserveA.toNat + amountA.toNat < 2 ^ 256)
    (fitsB : (world.dex pool).reserveB.toNat + amountB.toNat < 2 ^ 256) :
    Sound (seeded world pool provider code amountA amountB) := by
  have differ : pool ≠ provider := pool_ne deployed notPool
  have first : Sound (deposited world code.tokenA provider pool amountA) :=
    (sound.spent notPool).moved (by rwa [dexCode_of_code_eq spent_code]) (movable_spent.mpr movableA)
  have sameCode : (deposited world code.tokenA provider pool amountA).code = world.code := by
    simp [deposited]
  have stillNot : (deposited world code.tokenA provider pool amountA).dexCode provider = none := by
    rwa [dexCode_of_code_eq sameCode]
  have second : Sound (deposited (deposited world code.tokenA provider pool amountA) code.tokenB
      provider pool amountB) :=
    (first.spent stillNot).moved (by rwa [dexCode_of_code_eq spent_code])
      (movable_spent.mpr movableB)
  have sameReserves : (deposited (deposited world code.tokenA provider pool amountA) code.tokenB
      provider pool amountB).dex = world.dex := by
    simp [deposited]
  have onA := held_deposited differ movableA
  have onB := held_deposited differ movableB
  rw [held_deposited_of_ne (Ne.symm code.distinct)] at onB
  have solvent := sound.solvent pool code deployed
  refine Sound.emit ⟨fun token => (second.conserved token).setDex, ?_, second.clear⟩
  intro other code' found
  by_cases same : other = pool
  · subst other
    have sameImmutables : code' = code := by
      have here : world.dexCode pool = some code' := by
        rw [← found]
        refine (dexCode_of_code_eq ?_).symm
        simp [deposited]
      rw [deployed] at here
      exact (Option.some.inj here).symm
    subst code'
    constructor
    · rw [setDex_dex_self, held_setDex, held_deposited_of_ne code.distinct, onA,
        toNat_add_exact fitsA]
      exact Nat.add_le_add_right solvent.coversA _
    · rw [setDex_dex_self, held_setDex, onB, toNat_add_exact fitsB]
      exact Nat.add_le_add_right solvent.coversB _
  · exact Solvent.spared (second.solvent other code' found)
      (by simp [World.setDex, Function.update_of_ne same]) Spares.setDex

/-- Both legs of a backrun: the executor approves and trades like any account. -/
theorem sold {executor buyPool sellPool : Address} {amountInB minAmountOutA minAmountOutB : Uint256}
    (sound : Sound world) (notPool : world.dexCode executor = none)
    (buys : world.dexCode buyPool = some code) (sells : world.dexCode sellPool = some code)
    (legs : BackrunLegs world executor buyPool sellPool code amountInB minAmountOutA
      minAmountOutB) :
    Sound (sold world executor buyPool sellPool code amountInB) := by
  have bought : Sound (bought world executor buyPool code amountInB) :=
    (sound.approved notPool).swappedBForA buys notPool legs.buyQuoted legs.buyPayable
  have notBought : (ContractProofs.bought world executor buyPool code amountInB).dexCode executor =
      none := by
    rwa [dexCode_of_code_eq bought_code]
  have ready : Sound (readyToSell world executor buyPool sellPool code amountInB) :=
    bought.approved notBought
  have sellsReady :
      (readyToSell world executor buyPool sellPool code amountInB).dexCode sellPool = some code := by
    rwa [dexCode_of_code_eq readyToSell_code]
  have reserves : (readyToSell world executor buyPool sellPool code amountInB).dex sellPool =
      world.dex sellPool := readyToSell_dex_of_ne (Ne.symm legs.poolsDiffer)
  have quoted : Quoted (outBForA world buyPool amountInB) minAmountOutB
      ((readyToSell world executor buyPool sellPool code amountInB).dex sellPool).reserveA
      ((readyToSell world executor buyPool sellPool code amountInB).dex sellPool).reserveB := by
    rw [reserves]
    exact legs.sellQuoted
  refine ready.swappedAForB sellsReady ?_ quoted ?_
  · rwa [dexCode_of_code_eq readyToSell_code]
  · rw [sold_out_of_ne legs.poolsDiffer]
    exact legs.sellPayable

end Sound

/-! ## One transaction -/

private theorem not_pool_of_codeless {account : Address} (codeless : world.code account = none) :
    world.dexCode account = none := by
  rw [World.dexCode, codeless]

private theorem not_pool_of_executor {executor operator : Address}
    (operated : world.operator executor = some operator) : world.dexCode executor = none := by
  cases deployed : world.dexCode executor with
  | none => rfl
  | some code => exact absurd rfl (not_pool_of_operator operated deployed)

/-- **One step.** Every entry point, called by any account, keeps the ledgers and the
pools sound. -/
theorem call_sound {entry : Entry} (sound : Sound world) (signed : world.code sender = none)
    (ran : entry.call sender world = .ok ((), after)) : Sound after := by
  have notPool := not_pool_of_codeless signed
  cases call_called ran with
  | mint minter nonzero supply fits => exact sound.minted supply fits
  | approve inCode => exact sound.approved notPool
  | transfer inCode movable => exact sound.moved notPool movable
  | transferFrom inCode enough movable => exact sound.pulled enough movable
  | seedLiquidity deployed givenA givenB movableA movableB fitsA fitsB =>
    exact sound.seeded deployed notPool movableA movableB fitsA fitsB
  | swapExactAForB deployed quoted payable =>
    exact sound.swappedAForB deployed notPool quoted payable
  | swapExactBForA deployed quoted payable =>
    exact sound.swappedBForA deployed notPool quoted payable
  | executeBackrun operates buys sells accepted =>
    exact (sound.sold (not_pool_of_executor operates) buys sells accepted.toBackrunLegs).emit
  | withdrawToken operates isToken nonzero inCode movable =>
    exact (sound.moved (not_pool_of_executor operates) movable).emit

theorem transact_sound {transaction : Transaction} (sound : Sound world)
    (signed : world.code transaction.sender = none) : Sound (world.transact transaction) := by
  rcases transact_cases transaction with ran | kept
  · exact call_sound sound signed ran
  · rw [kept]
    exact sound

/-- Nothing is issued, recorded or granted when the contracts are deployed. -/
theorem deployed_sound (deployed : Deployed world) : Sound world where
  conserved token := by
    simp [Conserved, circulating, held, deployed.1 token]
  solvent pool code _ := by
    constructor <;> simp [deployed.2.1 pool]
  clear pool code _ token spender := by
    simp [allowed, deployed.1 token]

theorem run_sound {labels : List Transaction} (run : chain.Run labels world) : Sound world := by
  refine Run.invariant Sound run (fun _ => deployed_sound) ?_
  rintro before transaction _ sound ⟨signed, rfl⟩
  exact transact_sound sound signed

/-! ## Why a transfer can fail -/

/-- On a conserved ledger a transfer fails for its recipient or for lack of balance,
never in the arithmetic of the balances. -/
theorem transferInternal_fails {e : Revert} (conserved : Conserved world token)
    (failed : SandboxERC20.transferInternal token source recipient amount world = .error e) :
    e = .reason "ERC20: zero to" ∨
      (e = .reason "ERC20: balance" ∧ held world token source < amount.toNat) := by
  by_cases zero : recipient = 0
  · left
    unfold SandboxERC20.transferInternal at failed
    rcases require_bind_fails.mp failed with ⟨_, same⟩ | ⟨nonzero, _⟩
    · exact same.symm
    · exact absurd zero nonzero
  · right
    by_cases covered : amount.toNat ≤ held world token source
    · have completed := (transferInternal_settles _).mpr ⟨conserved.movable zero covered, rfl⟩
      rw [completed] at failed
      cases failed
    · unfold SandboxERC20.transferInternal at failed
      rcases require_bind_fails.mp failed with ⟨isZero, _⟩ | ⟨_, failed⟩
      · exact absurd zero isZero
      · rw [get_bind_run] at failed
        rcases require_bind_fails.mp failed with ⟨_, same⟩ | ⟨enough, _⟩
        · exact ⟨same.symm, Nat.lt_of_not_le covered⟩
        · exact absurd (BitVec.le_def.mp enough) covered

/-- A pool's payment fails for the same reasons, or because the token has no code. -/
theorem transferOut_fails {pool : Address} {e : Revert} (conserved : Conserved world token)
    (failed : SandboxDex.transferOut pool token recipient amount world = .error e) :
    e = .noFunction ∨ e = .reason "ERC20: zero to" ∨
      (e = .reason "ERC20: balance" ∧ held world token pool < amount.toNat) := by
  unfold SandboxDex.transferOut at failed
  rcases bind_fails.mp failed with failed | ⟨moved, _, ran, failed⟩
  · unfold SandboxERC20.transfer SandboxERC20.enter at failed
    rw [bind_bind_run, get_bind_run] at failed
    rcases demand_bind_fails.mp failed with ⟨_, same⟩ | ⟨_, _, failed⟩
    · exact .inl same.symm
    · rcases bind_fails.mp failed with failed | ⟨_, _, _, failed⟩
      · exact .inr (transferInternal_fails conserved failed)
      · exact absurd failed pure_fails
  · -- The token answers true whenever it completes.
    obtain ⟨_, same⟩ := (transfer_settles _).mp ran
    cases same
    exact absurd rfl (require_fails.mp failed).1

/-- Whoever trades, in this state: once a pool has quoted a swap and taken its input,
paying the output does not fail for lack of balance or in a balance addition. -/
def PaysOut (world : World) : Prop :=
  ∀ pool code trader amountIn amountOut middle, world.dexCode pool = some code →
    (SandboxDex.getAmountOut amountIn (world.dex pool).reserveA (world.dex pool).reserveB world =
        .ok (amountOut, world) →
      SandboxDex.transferIn pool code.tokenA trader pool amountIn world = .ok ((), middle) →
        SandboxDex.transferOut pool code.tokenB trader amountOut middle ≠
            .error (.reason "ERC20: balance") ∧
          SandboxDex.transferOut pool code.tokenB trader amountOut middle ≠ .error .panic) ∧
      (SandboxDex.getAmountOut amountIn (world.dex pool).reserveB (world.dex pool).reserveA world =
          .ok (amountOut, world) →
        SandboxDex.transferIn pool code.tokenB trader pool amountIn world = .ok ((), middle) →
          SandboxDex.transferOut pool code.tokenA trader amountOut middle ≠
              .error (.reason "ERC20: balance") ∧
            SandboxDex.transferOut pool code.tokenA trader amountOut middle ≠ .error .panic)

/-- The output stays below the reserve, the reserve below the balance, and taking the
input moves another token. -/
private theorem Sound.payout {pool trader tokenIn tokenOut : Address}
    {amountIn amountOut reserveIn reserveOut : Uint256} {middle : World} (sound : Sound world)
    (distinct : tokenIn ≠ tokenOut) (covers : reserveOut.toNat ≤ held world tokenOut pool)
    (quoted : SandboxDex.getAmountOut amountIn reserveIn reserveOut world = .ok (amountOut, world))
    (taken : SandboxDex.transferIn pool tokenIn trader pool amountIn world = .ok ((), middle)) :
    SandboxDex.transferOut pool tokenOut trader amountOut middle ≠
        .error (.reason "ERC20: balance") ∧
      SandboxDex.transferOut pool tokenOut trader amountOut middle ≠ .error .panic := by
  obtain ⟨⟨_, funded, stocked, fits⟩, answered⟩ := (getAmountOut_settles _).mp quoted
  cases answered
  obtain ⟨⟨_, _, movable⟩, same⟩ := (transferIn_settles _).mp taken
  cases same
  have conserved : Conserved ((world.spent tokenIn trader pool amountIn).moved tokenIn trader pool
      amountIn) tokenOut :=
    (sound.conserved tokenOut).spent.moved (movable_spent.mpr movable)
  have untouched : held ((world.spent tokenIn trader pool amountIn).moved tokenIn trader pool
      amountIn) tokenOut pool = held world tokenOut pool := by
    rw [held_moved_of_ne (Ne.symm distinct), held_spent]
  have below : (amountOutWord amountIn reserveIn reserveOut).toNat < reserveOut.toNat := by
    rw [amountOutWord_toNat stocked fits]
    exact Support.ConstantProduct.quote_lt_reserve (toNat_pos_iff.mpr funded)
      (toNat_pos_iff.mpr stocked)
  constructor
  · intro failed
    rcases transferOut_fails conserved failed with other | other | ⟨_, lacking⟩
    · cases other
    · exact absurd (Revert.reason.inj other) (by decide)
    · omega
  · intro failed
    rcases transferOut_fails conserved failed with other | other | ⟨other, _⟩ <;> cases other

theorem Sound.paysOut (sound : Sound world) : PaysOut world := by
  intro pool code trader amountIn amountOut middle deployed
  have solvent := sound.solvent pool code deployed
  exact ⟨sound.payout code.distinct solvent.coversB,
    sound.payout (Ne.symm code.distinct) solvent.coversA⟩

/-- The states the two legs of a backrun trade in are sound as well. -/
private theorem Sound.legs {executor operator buyPool sellPool : Address} {code : DexCode}
    {amountInB minAmountOutA amountOutA : Uint256} {middle : World} (sound : Sound world)
    (operated : world.operator executor = some operator)
    (buys : world.dexCode buyPool = some code)
    (bought : SandboxDex.swapExactBForA buyPool executor amountInB minAmountOutA
      (world.approved code.tokenB executor buyPool amountInB) = .ok (amountOutA, middle)) :
    Sound (middle.approved code.tokenA executor sellPool amountOutA) := by
  have notPool := not_pool_of_executor operated
  have deployed : (world.approved code.tokenB executor buyPool amountInB).dexCode buyPool =
      some code := buys
  obtain ⟨⟨quoted, payable⟩, same⟩ := (swapExactBForA_settles deployed _).mp bought
  cases same
  have swapped := (sound.approved notPool).swappedBForA deployed notPool quoted payable
  have sameCode : (ContractProofs.swappedBForA (world.approved code.tokenB executor buyPool amountInB)
      buyPool executor code amountInB).code = world.code := by
    simp [ContractProofs.swappedBForA]
  refine swapped.approved ?_
  rw [dexCode_of_code_eq sameCode]
  exact notPool

/-- **Conservation and solvency.** In every state that any accounts' calls can reach,
completed or reverted: the balances of each token add up to its supply, so no balance
addition overflows, neither in a transfer nor in a `mint` whose supply fits; each pool
holds at least its two reserves; and a swap that has taken its input can pay its
output, called by an account or as either leg of a backrun. -/
theorem ledgers_conserved_and_pools_solvent {labels : List Transaction}
    (run : chain.Run labels world) :
    (∀ token, ∑ account, ((world.erc20 token).balanceOf account).toNat =
        (world.erc20 token).totalSupply.toNat) ∧
      (∀ token source recipient amount,
        SandboxERC20.transferInternal token source recipient amount world ≠ .error .panic) ∧
      (∀ token recipient amount, (world.erc20 token).totalSupply.toNat + amount < 2 ^ 256 →
        ((world.erc20 token).balanceOf recipient).toNat + amount < 2 ^ 256) ∧
      (∀ pool code, world.dexCode pool = some code →
        (world.dex pool).reserveA.toNat ≤ ((world.erc20 code.tokenA).balanceOf pool).toNat ∧
          (world.dex pool).reserveB.toNat ≤ ((world.erc20 code.tokenB).balanceOf pool).toNat) ∧
      PaysOut world ∧
      ∀ executor operator buyPool sellPool code amountInB minAmountOutA,
        world.operator executor = some operator → world.dexCode buyPool = some code →
          PaysOut (world.approved code.tokenB executor buyPool amountInB) ∧
            ∀ amountOutA middle,
              SandboxDex.swapExactBForA buyPool executor amountInB minAmountOutA
                  (world.approved code.tokenB executor buyPool amountInB) =
                .ok (amountOutA, middle) →
              PaysOut (middle.approved code.tokenA executor sellPool amountOutA) := by
  have sound := run_sound run
  refine ⟨sound.conserved, ?_, ?_, ?_, sound.paysOut, ?_⟩
  · intro token source recipient amount failed
    rcases transferInternal_fails (sound.conserved token) failed with other | ⟨other, _⟩ <;>
      cases other
  · intro token recipient amount supply
    have bound := Conserved.held_le (sound.conserved token) recipient
    unfold held at bound
    omega
  · intro pool code deployed
    have solvent := sound.solvent pool code deployed
    exact ⟨solvent.coversA, solvent.coversB⟩
  · intro executor operator buyPool sellPool code amountInB minAmountOutA operated buys
    refine ⟨(sound.approved (not_pool_of_executor operated)).paysOut, ?_⟩
    intro amountOutA middle bought
    exact (sound.legs operated buys bought).paysOut

/-- The small market after one account has bought from the first pool: its ledger adds
up, the pool covers its reserves, the next purchase is paid, and so is the second leg of
a backrun whose first one went through. -/
theorem ledgers_conserved_and_pools_solvent_traded :
    let calls : List Transaction := market ++ [⟨0x0F, .mint 0xB1 0x02 3000⟩,
      ⟨0x02, .approve 0xB1 0xD1 3000⟩, ⟨0x02, .swapExactBForA 0xD1 1000 1⟩]
    let world := calls.foldl World.transact deployment
    world.dex 0xD1 = ⟨1998008, 1001000⟩ ∧
      ∑ account, ((world.erc20 0xB1).balanceOf account).toNat = 2053000 ∧
      ((world.dex 0xD1).reserveA.toNat ≤ ((world.erc20 0xA1).balanceOf 0xD1).toNat ∧
        (world.dex 0xD1).reserveB.toNat ≤ ((world.erc20 0xB1).balanceOf 0xD1).toNat) ∧
      (∃ amountOut middle,
        SandboxDex.getAmountOut 2000 (world.dex 0xD1).reserveB (world.dex 0xD1).reserveA world =
            .ok (amountOut, world) ∧
          SandboxDex.transferIn 0xD1 0xB1 0x02 0xD1 2000 world = .ok ((), middle) ∧
          SandboxDex.transferOut 0xD1 0xA1 0x02 amountOut middle ≠
            .error (.reason "ERC20: balance") ∧
          SandboxDex.transferOut 0xD1 0xA1 0x02 amountOut middle ≠ .error .panic) ∧
      ∃ amountOutA middle,
        SandboxDex.swapExactBForA 0xD1 0xE0 10000 1 (world.approved 0xB1 0xE0 0xD1 10000) =
            .ok (amountOutA, middle) ∧
          PaysOut (middle.approved 0xA1 0xE0 0xD2 amountOutA) := by
  intro calls world
  have run : chain.Run calls world := run_transactions (by decide)
  have supply : ((world.erc20 0xB1).totalSupply).toNat = 2053000 := by decide +kernel
  have deployed : world.dexCode 0xD1 = some marketPair := by decide +kernel
  have operated : world.operator 0xE0 = some 0x0F := by decide +kernel
  have reserves : world.dex 0xD1 = ⟨1998008, 1001000⟩ := by decide +kernel
  have takes : ((SandboxDex.transferIn 0xD1 0xB1 0x02 0xD1 2000) world).isOk = true := by
    decide +kernel
  have buys : ((SandboxDex.swapExactBForA 0xD1 0xE0 10000 1)
      (world.approved 0xB1 0xE0 0xD1 10000)).isOk = true := by
    decide +kernel
  clear_value world
  obtain ⟨conserved, _, _, solvent, pays, legs⟩ := ledgers_conserved_and_pools_solvent run
  refine ⟨reserves, (conserved 0xB1).trans supply, solvent 0xD1 marketPair deployed, ?_, ?_⟩
  · have fits : QuoteFits 2000 1001000 1998008 :=
      show sandboxFee.Fits (2 ^ 256) 2000 1001000 1998008 by decide
    have quoted : SandboxDex.getAmountOut 2000 1001000 1998008 world =
        .ok (amountOutWord 2000 1001000 1998008, world) :=
      (getAmountOut_settles _).mpr ⟨⟨by decide, by decide, by decide, fits⟩, rfl⟩
    rw [reserves]
    obtain ⟨⟨_, middle⟩, taken⟩ := completes_of_isOk takes
    refine ⟨_, middle, quoted, taken, (pays 0xD1 marketPair _ _ _ _ deployed).2 ?_ taken⟩
    rw [reserves]
    exact quoted
  · obtain ⟨⟨amountOutA, middle⟩, bought⟩ := completes_of_isOk buys
    exact ⟨amountOutA, middle, bought,
      (legs 0xE0 0x0F 0xD1 0xD2 marketPair _ _ operated deployed).2 _ _ bought⟩

end DexKnight.SolvencyRuns
