import DexKnight.Core.Types

/-! The arbitrage calculator. `intx` words wrap, so its arithmetic is `BitVec`
arithmetic, at 256 bits for amounts and at 1024 and 2048 bits inside the search
for the optimal input. -/
namespace DexKnight.Core.Calculator
open Core.Types

/-- `arbitrage::Params`. -/
structure Params where
  maxAmountInB : Uint256 := 0
  minProfitB : Uint256 := 0
  minOutputBps : UInt16 := 10000
  deriving DecidableEq, Repr

/-- `arbitrage::Opportunity`. -/
structure Opportunity where
  buyPool : Pool
  sellPool : Pool
  amountInB : Uint256
  minAmountOutA : Uint256
  minAmountOutB : Uint256
  minProfitB : Uint256
  expectedAmountOutA : Uint256
  expectedAmountOutB : Uint256
  expectedProfitB : Uint256
  deriving DecidableEq, Repr

structure RouteQuote where
  amountInB : Uint256
  amountOutA : Uint256
  amountOutB : Uint256
  deriving DecidableEq, Repr

def kFeeNumerator : Uint256 := 997
def kFeeDenominator : Uint256 := 1000
def kBpsDenominator : UInt16 := 10000

def amountOut (amountIn reserveIn reserveOut : Uint256) : Option Uint256 :=
  if amountIn = 0 ∨ reserveIn = 0 ∨ reserveOut = 0 then
    none
  else
    let amountInWithFee := amountIn * kFeeNumerator
    let denominator := reserveIn * kFeeDenominator + amountInWithFee
    if denominator = 0 then none else some (amountInWithFee * reserveOut / denominator)

def applyBps (value : Uint256) (bps : UInt16) : Uint256 :=
  value * BitVec.ofNat 256 bps.toNat / BitVec.ofNat 256 kBpsDenominator.toNat

def findPoolSnapshot (state : StateSnapshot) (candidate : Candidate) : Option PoolSnapshot :=
  state.pools.find? fun poolSnapshot => poolSnapshot.pool.address = candidate.pool.address

def applyVictimSwap (poolSnapshot : PoolSnapshot) (swap : Swap) : Option PoolSnapshot :=
  match swap with
  | .swapExactAForB decoded => do
    let amountOutB ← amountOut decoded.amountIn poolSnapshot.reserveA poolSnapshot.reserveB
    if amountOutB < decoded.minAmountOut ∨ poolSnapshot.reserveB < amountOutB then
      none
    else
      some {
        pool := poolSnapshot.pool
        reserveA := poolSnapshot.reserveA + decoded.amountIn
        reserveB := poolSnapshot.reserveB - amountOutB
      }
  | .swapExactBForA decoded => do
    let amountOutA ← amountOut decoded.amountIn poolSnapshot.reserveB poolSnapshot.reserveA
    if amountOutA < decoded.minAmountOut ∨ poolSnapshot.reserveA < amountOutA then
      none
    else
      some {
        pool := poolSnapshot.pool
        reserveA := poolSnapshot.reserveA - amountOutA
        reserveB := poolSnapshot.reserveB + decoded.amountIn
      }

def quoteRoute (buyPool sellPool : PoolSnapshot) (amountInB : Uint256) : Option RouteQuote := do
  let amountOutA ← amountOut amountInB buyPool.reserveB buyPool.reserveA
  let amountOutB ← amountOut amountOutA sellPool.reserveA sellPool.reserveB
  some { amountInB, amountOutA, amountOutB }

/-! ## Integer square root -/

/-- `while (bit > value) bit >>= 2;`. The width bounds the number of rounds: after
half as many the bit is gone. -/
def alignBit {n : Nat} : (fuel : Nat) → (bit value : BitVec n) → BitVec n
  | 0, bit, _ => bit
  | fuel + 1, bit, value => if bit > value then alignBit fuel (bit >>> 2) value else bit

/-- `while (bit != 0)` with its accumulators. -/
def sqrtLoop {n : Nat} : (fuel : Nat) → (bit value result : BitVec n) → BitVec n
  | 0, _, _, result => result
  | fuel + 1, bit, value, result =>
    if bit = 0 then
      result
    else if value ≥ result + bit then
      sqrtLoop fuel (bit >>> 2) (value - (result + bit)) ((result >>> 1) + bit)
    else
      sqrtLoop fuel (bit >>> 2) value (result >>> 1)

def integerSqrt {n : Nat} (value : BitVec n) : BitVec n :=
  sqrtLoop n (alignBit n (1#n <<< (n - 2)) value) value 0

/-! ## Routes -/

def optimalAmountInB (buyPool sellPool : PoolSnapshot) (params : Params) : Option Uint256 :=
  let feeNumerator := kFeeNumerator.setWidth 1024
  let feeDenominator := kFeeDenominator.setWidth 1024
  let feeNumeratorSquared := feeNumerator * feeNumerator
  let feeDenominatorSquared := feeDenominator * feeDenominator
  -- For B -> A -> B routes, amountOutB(x) = C*x / (D + E*x).
  -- The unconstrained continuous optimum is (sqrt(C*D) - D) / E.
  let c := feeNumeratorSquared * buyPool.reserveA.setWidth 1024 * sellPool.reserveB.setWidth 1024
  let d := feeDenominatorSquared * buyPool.reserveB.setWidth 1024 * sellPool.reserveA.setWidth 1024
  let e := feeNumerator * feeDenominator * sellPool.reserveA.setWidth 1024 +
    feeNumeratorSquared * buyPool.reserveA.setWidth 1024
  if c = 0 ∨ d = 0 ∨ e = 0 then
    none
  else
    let root := integerSqrt (c.setWidth 2048 * d.setWidth 2048)
    if root ≤ d.setWidth 2048 then
      none
    else
      let amountInB := (root - d.setWidth 2048) / e.setWidth 2048
      if amountInB = 0 then
        none
      else
        let maxAmountInB := params.maxAmountInB.setWidth 2048
        some ((if amountInB > maxAmountInB then maxAmountInB else amountInB).setWidth 256)

def bestRouteQuote (buyPool sellPool : PoolSnapshot) (params : Params) : Option RouteQuote := do
  let optimalAmount ← optimalAmountInB buyPool sellPool params
  quoteRoute buyPool sellPool optimalAmount

def evaluatePool (buyPool sellPool : PoolSnapshot) (params : Params) : Option Opportunity := do
  let quote ← bestRouteQuote buyPool sellPool params
  if quote.amountOutB ≤ quote.amountInB then
    none
  else
    let profitB := quote.amountOutB - quote.amountInB
    if profitB < params.minProfitB then
      none
    else
      some {
        buyPool := buyPool.pool
        sellPool := sellPool.pool
        amountInB := quote.amountInB
        minAmountOutA := applyBps quote.amountOutA params.minOutputBps
        minAmountOutB := applyBps quote.amountOutB params.minOutputBps
        minProfitB := params.minProfitB
        expectedAmountOutA := quote.amountOutA
        expectedAmountOutB := quote.amountOutB
        expectedProfitB := profitB
      }

def isBetter (lhs rhs : Opportunity) : Bool := lhs.expectedProfitB > rhs.expectedProfitB

/-- The victim pool plays the buy side of a route after A for B, the sell side
otherwise. -/
def evaluateRoute (poolAfterVictim otherPool : PoolSnapshot) (swap : Swap) (params : Params) :
    Option Opportunity :=
  match swap with
  | .swapExactAForB _ => evaluatePool poolAfterVictim otherPool params
  | .swapExactBForA _ => evaluatePool otherPool poolAfterVictim params

/-- `opportunity && (!best_opportunity || is_better(...))`: the later of two
candidates replaces the earlier only when it is strictly better. -/
def keepBest (best opportunity : Option Opportunity) : Option Opportunity :=
  match opportunity, best with
  | none, best => best
  | some opportunity, none => some opportunity
  | some opportunity, some best =>
    if isBetter opportunity best then some opportunity else some best

/-- The loop over `state.pools`. -/
def bestOpportunity (candidate : Candidate) (poolAfterVictim : PoolSnapshot) (swap : Swap)
    (params : Params) : List PoolSnapshot → Option Opportunity → Option Opportunity
  | [], best => best
  | otherPool :: rest, best =>
    if otherPool.pool.address = candidate.pool.address then
      bestOpportunity candidate poolAfterVictim swap params rest best
    else
      bestOpportunity candidate poolAfterVictim swap params rest
        (keepBest best (evaluateRoute poolAfterVictim otherPool swap params))

def findArbitrage (state : StateSnapshot) (candidate : Candidate) (swap : Swap) (params : Params) :
    Option Opportunity :=
  if params.minOutputBps > kBpsDenominator then
    none
  else if params.maxAmountInB = 0 then
    none
  else do
    let poolSnapshot ← findPoolSnapshot state candidate
    let poolAfterVictim ← applyVictimSwap poolSnapshot swap
    bestOpportunity candidate poolAfterVictim swap params state.pools none

end DexKnight.Core.Calculator
