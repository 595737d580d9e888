import DexKnight.CalculatorProofs
import DexKnight.OptimalAmount

/-! The search returns the best admissible route. The loop over the pools keeps the
best opportunity so far and replaces it only by a strictly better one, so it ends with
the first of the greatest; it ends with nothing exactly when no pool had anything to
offer. The bounds on the numbers of an opportunity hold for every word, also where the
arithmetic of the quotes or of the slippage bounds wraps. -/
namespace DexKnight.BestRoute
open Core.Types Core.Calculator Support.CheckedWord CalculatorProofs OptimalAmount

variable {candidate : Candidate} {poolAfterVictim : PoolSnapshot} {swap : Swap} {params : Params}
  {pools : List PoolSnapshot} {best : Option Opportunity} {opportunity : Opportunity}
  {state : StateSnapshot}

/-! ## The loop -/

/-- A pool of another address than the candidate's offers this opportunity. -/
def Offers (candidate : Candidate) (poolAfterVictim : PoolSnapshot) (swap : Swap) (params : Params)
    (otherPool : PoolSnapshot) (opportunity : Opportunity) : Prop :=
  otherPool.pool.address ≠ candidate.pool.address ∧
    evaluateRoute poolAfterVictim otherPool swap params = some opportunity

/-- The first of the greatest: everything offered before it is worse, and nothing
offered after it is better. -/
structure FirstBest (candidate : Candidate) (poolAfterVictim : PoolSnapshot) (swap : Swap)
    (params : Params) (earlier : List PoolSnapshot) (chosen : PoolSnapshot)
    (later : List PoolSnapshot) (opportunity : Opportunity) : Prop where
  offers : Offers candidate poolAfterVictim swap params chosen opportunity
  beats : ∀ otherPool ∈ earlier, ∀ offered,
    Offers candidate poolAfterVictim swap params otherPool offered →
      offered.expectedProfitB.toNat < opportunity.expectedProfitB.toNat
  atLeast : ∀ otherPool ∈ later, ∀ offered,
    Offers candidate poolAfterVictim swap params otherPool offered →
      offered.expectedProfitB.toNat ≤ opportunity.expectedProfitB.toNat

/-- The two ways one round of the loop can go. -/
theorem keepBest_cases {next : Option Opportunity} (kept : keepBest best next = some opportunity) :
    (best = some opportunity ∧ ∀ offered, next = some offered →
        offered.expectedProfitB.toNat ≤ opportunity.expectedProfitB.toNat) ∨
      (next = some opportunity ∧ ∀ previous, best = some previous →
        previous.expectedProfitB.toNat < opportunity.expectedProfitB.toNat) := by
  cases next with
  | none => exact .inl ⟨kept, fun _ impossible => by cases impossible⟩
  | some next =>
    cases best with
    | none => exact .inr ⟨kept, fun _ impossible => by cases impossible⟩
    | some best =>
      simp only [keepBest, isBetter, decide_eq_true_eq] at kept
      split at kept
      · next better =>
        cases kept
        refine .inr ⟨rfl, ?_⟩
        rintro _ ⟨⟩
        exact BitVec.lt_def.mp better
      · next worse =>
        cases kept
        refine .inl ⟨rfl, ?_⟩
        rintro _ ⟨⟩
        exact Nat.le_of_not_lt fun better => worse (BitVec.lt_def.mpr better)

theorem keepBest_eq_none {next : Option Opportunity} :
    keepBest best next = none ↔ best = none ∧ next = none := by
  cases next with
  | none => simp [keepBest]
  | some next =>
    cases best with
    | none => simp [keepBest]
    | some best =>
      simp only [keepBest]
      split <;> simp

/-- What beats the kept opportunity beats both that were compared. -/
theorem keepBest_beaten {next : Option Opportunity} {limit : Nat}
    (beaten : ∀ kept, keepBest best next = some kept → kept.expectedProfitB.toNat < limit) :
    (∀ previous, best = some previous → previous.expectedProfitB.toNat < limit) ∧
      ∀ offered, next = some offered → offered.expectedProfitB.toNat < limit := by
  cases kept : keepBest best next with
  | none =>
    obtain ⟨rfl, rfl⟩ := keepBest_eq_none.mp kept
    constructor
    · rintro _ ⟨⟩
    · rintro _ ⟨⟩
  | some winner =>
    have below := beaten winner kept
    rcases keepBest_cases kept with ⟨rfl, worse⟩ | ⟨rfl, better⟩
    · refine ⟨?_, fun offered isNext => (worse offered isNext).trans_lt below⟩
      rintro _ ⟨⟩
      exact below
    · refine ⟨fun previous isBest => (better previous isBest).trans below, ?_⟩
      rintro _ ⟨⟩
      exact below

/-- The loop ends with nothing exactly when it started with nothing and no pool it
visited had an offer. -/
theorem bestOpportunity_eq_none :
    bestOpportunity candidate poolAfterVictim swap params pools best = none ↔
      best = none ∧ ∀ otherPool ∈ pools, otherPool.pool.address ≠ candidate.pool.address →
        evaluateRoute poolAfterVictim otherPool swap params = none := by
  induction pools generalizing best with
  | nil => simp [bestOpportunity]
  | cons first rest ih =>
    rw [bestOpportunity]
    split
    · next same => simp [ih, same]
    · next other => simp [ih, keepBest_eq_none, other, and_assoc]

/-- The loop ends with what it started with, if no visited pool beats that, or else
with the first of the greatest offers. -/
theorem bestOpportunity_firstBest
    (ended : bestOpportunity candidate poolAfterVictim swap params pools best = some opportunity) :
    (best = some opportunity ∧ ∀ otherPool ∈ pools, ∀ offered,
        Offers candidate poolAfterVictim swap params otherPool offered →
          offered.expectedProfitB.toNat ≤ opportunity.expectedProfitB.toNat) ∨
      ∃ earlier chosen later, pools = earlier ++ chosen :: later ∧
        FirstBest candidate poolAfterVictim swap params earlier chosen later opportunity ∧
        ∀ previous, best = some previous →
          previous.expectedProfitB.toNat < opportunity.expectedProfitB.toNat := by
  induction pools generalizing best with
  | nil => exact .inl ⟨ended, fun _ impossible => by cases impossible⟩
  | cons first rest ih =>
    rw [bestOpportunity] at ended
    split at ended
    · next same =>
      -- The victim's own pool is skipped; it offers nothing either way.
      have silent : ∀ offered, ¬ Offers candidate poolAfterVictim swap params first offered :=
        fun _ offers => offers.1 same
      rcases ih ended with ⟨before, unbeaten⟩ | ⟨earlier, chosen, later, rfl, found, beaten⟩
      · refine .inl ⟨before, ?_⟩
        intro otherPool member offered offers
        rcases List.mem_cons.mp member with rfl | member
        · exact absurd offers (silent offered)
        · exact unbeaten otherPool member offered offers
      · refine .inr ⟨first :: earlier, chosen, later, rfl, ⟨found.offers, ?_, found.atLeast⟩, beaten⟩
        intro otherPool member offered offers
        rcases List.mem_cons.mp member with rfl | member
        · exact absurd offers (silent offered)
        · exact found.beats otherPool member offered offers
    · next other =>
      rcases ih ended with ⟨kept, unbeaten⟩ | ⟨earlier, chosen, later, rfl, found, beaten⟩
      · rcases keepBest_cases kept with ⟨before, worse⟩ | ⟨here, better⟩
        · refine .inl ⟨before, ?_⟩
          intro otherPool member offered offers
          rcases List.mem_cons.mp member with rfl | member
          · exact worse offered offers.2
          · exact unbeaten otherPool member offered offers
        · exact .inr ⟨[], first, rest, rfl, ⟨⟨other, here⟩, by simp, unbeaten⟩, better⟩
      · refine .inr ⟨first :: earlier, chosen, later, rfl, ⟨found.offers, ?_, found.atLeast⟩, ?_⟩
        · intro otherPool member offered offers
          rcases List.mem_cons.mp member with rfl | member
          · exact (keepBest_beaten beaten).2 offered offers.2
          · exact found.beats otherPool member offered offers
        · exact (keepBest_beaten beaten).1

/-- There is only one first of the greatest. -/
theorem FirstBest.unique {earlier earlier' later later' : List PoolSnapshot}
    {chosen chosen' : PoolSnapshot} {opportunity' : Opportunity}
    (first : FirstBest candidate poolAfterVictim swap params earlier chosen later opportunity)
    (second : FirstBest candidate poolAfterVictim swap params earlier' chosen' later' opportunity')
    (same : earlier ++ chosen :: later = earlier' ++ chosen' :: later') : chosen = chosen' := by
  rcases List.append_eq_append_iff.mp same with ⟨between, isEarlier, isLater⟩ |
    ⟨between, isEarlier, isLater⟩
  · cases between with
    | nil => exact (List.cons.inj isLater).1
    | cons head rest =>
      obtain ⟨rfl, isRest⟩ := List.cons.inj isLater
      have lower := second.beats chosen (isEarlier ▸ List.mem_append_right _ List.mem_cons_self) _
        first.offers
      have higher := first.atLeast chosen' (isRest ▸ List.mem_append_right _ List.mem_cons_self) _
        second.offers
      omega
  · cases between with
    | nil => exact (List.cons.inj isLater).1.symm
    | cons head rest =>
      obtain ⟨rfl, isRest⟩ := List.cons.inj isLater
      have lower := first.beats chosen' (isEarlier ▸ List.mem_append_right _ List.mem_cons_self) _
        second.offers
      have higher := second.atLeast chosen (isRest ▸ List.mem_append_right _ List.mem_cons_self) _
        first.offers
      omega

/-! ## The numbers of an opportunity -/

/-- The chosen input stays within the limit. -/
theorem optimalAmountInB_le {buyPool sellPool : PoolSnapshot} {amount : Uint256}
    (chosen : optimalAmountInB buyPool sellPool params = some amount) :
    amount.toNat ≤ params.maxAmountInB.toNat := by
  rw [(optimalAmountInB_eq_some chosen).2]
  exact Nat.min_le_right _ _

/-- What every opportunity promises about its own numbers. -/
structure Bounded (params : Params) (opportunity : Opportunity) : Prop where
  given : 0 < opportunity.amountInB.toNat
  limited : opportunity.amountInB.toNat ≤ params.maxAmountInB.toNat
  adds : opportunity.expectedAmountOutB.toNat =
    opportunity.amountInB.toNat + opportunity.expectedProfitB.toNat
  worthwhile : max 1 params.minProfitB.toNat ≤ opportunity.expectedProfitB.toNat
  boundA : opportunity.minAmountOutA.toNat ≤ opportunity.expectedAmountOutA.toNat
  boundB : opportunity.minAmountOutB.toNat ≤ opportunity.expectedAmountOutB.toNat

theorem Routed.bounded {buyPool sellPool : PoolSnapshot}
    (routed : Routed buyPool sellPool params opportunity)
    (bps : params.minOutputBps ≤ kBpsDenominator) : Bounded params opportunity := by
  have gains := routed.gains
  have profit : opportunity.expectedProfitB.toNat =
      opportunity.expectedAmountOutB.toNat - opportunity.amountInB.toNat := by
    rw [routed.profit, toNat_sub_exact gains.le]
  have demanded := routed.worthwhile
  rw [routed.demanded] at demanded
  refine ⟨toNat_pos_iff.mpr routed.given, optimalAmountInB_le routed.chosen, ?_, ?_, ?_, ?_⟩
  · omega
  · omega
  · rw [routed.boundA]
    exact applyBps_le _ bps
  · rw [routed.boundB]
    exact applyBps_le _ bps

/-! ## The search -/

/-- The search, taken apart at its two guards and two lookups. -/
theorem findArbitrage_eq (accepted : params.minOutputBps ≤ kBpsDenominator ∧ params.maxAmountInB ≠ 0) :
    findArbitrage state candidate swap params =
      (findPoolSnapshot state candidate).bind fun poolSnapshot =>
        (applyVictimSwap poolSnapshot swap).bind fun poolAfterVictim =>
          bestOpportunity candidate poolAfterVictim swap params state.pools none := by
  have bounded : ¬ params.minOutputBps > kBpsDenominator := UInt16.not_lt.mpr accepted.1
  rw [findArbitrage, if_neg bounded, if_neg accepted.2]
  rfl

theorem findArbitrage_rejected
    (rejected : params.minOutputBps > kBpsDenominator ∨ params.maxAmountInB = 0) :
    findArbitrage state candidate swap params = none := by
  unfold findArbitrage
  rcases rejected with above | zero
  · rw [if_pos above]
  · rw [if_pos zero, ite_self]

/-- Nothing is found exactly for one of the four reasons. -/
theorem findArbitrage_eq_none : findArbitrage state candidate swap params = none ↔
    params.minOutputBps > kBpsDenominator ∨ params.maxAmountInB = 0 ∨
      findPoolSnapshot state candidate = none ∨
      ∃ listed, findPoolSnapshot state candidate = some listed ∧
        (applyVictimSwap listed swap = none ∨
          ∃ poolAfterVictim, applyVictimSwap listed swap = some poolAfterVictim ∧
            ∀ otherPool ∈ state.pools, otherPool.pool.address ≠ candidate.pool.address →
              evaluateRoute poolAfterVictim otherPool swap params = none) := by
  by_cases rejected : params.minOutputBps > kBpsDenominator ∨ params.maxAmountInB = 0
  · rw [findArbitrage_rejected rejected, ← or_assoc]
    exact ⟨fun _ => .inl rejected, fun _ => rfl⟩
  · obtain ⟨bounded, limited⟩ := not_or.mp rejected
    rw [findArbitrage_eq ⟨UInt16.not_lt.mp bounded, limited⟩]
    simp only [bounded, limited, false_or]
    cases located : findPoolSnapshot state candidate with
    | none => simp
    | some listed =>
      cases applied : applyVictimSwap listed swap with
      | none => simp [applied]
      | some poolAfterVictim => simp [applied, bestOpportunity_eq_none]

/-- What is found is the first of the greatest. -/
theorem findArbitrage_firstBest (found : findArbitrage state candidate swap params = some opportunity) :
    params.minOutputBps ≤ kBpsDenominator ∧
      ∃ listed poolAfterVictim earlier chosen later,
        findPoolSnapshot state candidate = some listed ∧
        applyVictimSwap listed swap = some poolAfterVictim ∧
        state.pools = earlier ++ chosen :: later ∧
        FirstBest candidate poolAfterVictim swap params earlier chosen later opportunity := by
  have accepted : params.minOutputBps ≤ kBpsDenominator ∧ params.maxAmountInB ≠ 0 := by
    constructor
    · by_contra above
      rw [findArbitrage_rejected (.inl (UInt16.not_le.mp above))] at found
      cases found
    · intro zero
      rw [findArbitrage_rejected (.inr zero)] at found
      cases found
  rw [findArbitrage_eq accepted] at found
  obtain ⟨listed, located, found⟩ := Option.bind_eq_some_iff.mp found
  obtain ⟨poolAfterVictim, applied, found⟩ := Option.bind_eq_some_iff.mp found
  rcases bestOpportunity_firstBest found with ⟨impossible, _⟩ | ⟨earlier, chosen, later, split, best, _⟩
  · cases impossible
  · exact ⟨accepted.1, listed, poolAfterVictim, earlier, chosen, later, located, applied, split, best⟩

/-- **The best admissible route.** For every snapshot, candidate, swap and parameters:
the search finds nothing exactly when the parameters are rejected, the candidate's pool
is not listed, the victim's swap does not apply, or no pool of another address yields
an opportunity. Otherwise it returns the first of the greatest of those, which buys in
the victim's pool after A for B and sells in it after B for A, and whose numbers are
within the limits and add up without wrapping. -/
theorem find_arbitrage_returns_best_route (state : StateSnapshot) (candidate : Candidate)
    (swap : Swap) (params : Params) :
    (findArbitrage state candidate swap params = none ↔
      params.minOutputBps > kBpsDenominator ∨ params.maxAmountInB = 0 ∨
        findPoolSnapshot state candidate = none ∨
        ∃ listed, findPoolSnapshot state candidate = some listed ∧
          (applyVictimSwap listed swap = none ∨
            ∃ poolAfterVictim, applyVictimSwap listed swap = some poolAfterVictim ∧
              ∀ otherPool ∈ state.pools, otherPool.pool.address ≠ candidate.pool.address →
                evaluateRoute poolAfterVictim otherPool swap params = none)) ∧
      ∀ opportunity, findArbitrage state candidate swap params = some opportunity →
        ∃ listed poolAfterVictim earlier chosen later,
          findPoolSnapshot state candidate = some listed ∧
          listed.pool.address = candidate.pool.address ∧
          applyVictimSwap listed swap = some poolAfterVictim ∧
          state.pools = earlier ++ chosen :: later ∧
          FirstBest candidate poolAfterVictim swap params earlier chosen later opportunity ∧
          (match swap with
            | .swapExactAForB _ =>
              opportunity.buyPool = listed.pool ∧ opportunity.sellPool = chosen.pool
            | .swapExactBForA _ =>
              opportunity.sellPool = listed.pool ∧ opportunity.buyPool = chosen.pool) ∧
          Bounded params opportunity := by
  refine ⟨findArbitrage_eq_none, ?_⟩
  intro opportunity found
  obtain ⟨bps, listed, poolAfterVictim, earlier, chosen, later, located, applied, split, best⟩ :=
    findArbitrage_firstBest found
  have routed := evaluateRoute_routed best.offers.2
  have samePool : poolAfterVictim.pool = listed.pool := by
    obtain ⟨_, _, _, _, _, rfl⟩ := applyVictimSwap_eq_some applied
    cases swap <;> rfl
  refine ⟨listed, poolAfterVictim, earlier, chosen, later, located,
    (findPoolSnapshot_eq_some located).2, applied, split, best, ?_, Routed.bounded routed bps⟩
  cases swap with
  | swapExactAForB arguments => exact ⟨routed.buys.trans samePool, routed.sells⟩
  | swapExactBForA arguments => exact ⟨routed.sells.trans samePool, routed.buys⟩

end DexKnight.BestRoute
