import DexKnight.BundleWire

/-! One submission and its retries. The request is not idempotent and is repeated
blindly; what saves it is that a bundle names its block and is only taken at that
head. Once an attempt has mined, the head is past the block for good, and every later
attempt is refused before it hands anything to the node. -/
namespace DexKnight.SubmitRetries
open Core.Types Core.Wire Core.Codec Core.Runtime BuilderProofs BundleWire WireProofs
open Core.BlockBuilder (Answers Builder Node)

variable {lib : Libraries} {bundle : Bundle} {blockNumber : UInt64} {world : World}

/-! ## Retries -/

/-- The invariant rule for retries: what every attempt keeps, the whole call keeps. -/
theorem postWithRetry_keeps {σ : Type} {Holds : σ → Prop}
    {post : Nat → σ → Except RestError Body × σ}
    (keeps : ∀ attempt world, Holds world → Holds (post attempt world).2) (attempts : Nat)
    (world : σ) (holds : Holds world) : Holds (postWithRetry post attempts world).2 := by
  induction attempts generalizing world with
  | zero => exact holds
  | succ remaining ih =>
    have kept := keeps remaining world holds
    rw [postWithRetry]
    dsimp only
    cases afterAttempt remaining (post remaining world).1 with
    | some outcome => exact kept
    | none => exact ih _ kept

/-- The invariant rule for one exchange: what others and the handler keep. -/
theorem post_keeps {Holds : World → Prop} {handler : Handler} {payload : Fields}
    {exchange : Exchange}
    (others : ∀ world, Holds world → Holds { world with builder := exchange.meanwhile world.builder })
    (handles : ∀ world, Holds world → Holds (world.handle handler exchange payload).2)
    (world : World) (holds : Holds world) : Holds (post handler payload exchange world).2 := by
  have reached := others world holds
  unfold post
  cases exchange.transport with
  | requestLost => exact reached
  | responseLost => exact handles _ reached
  | garbled => exact handles _ reached
  | arrives => exact handles _ reached

/-! ## What the attempts did -/

/-- The blocks one handled request mined. -/
def minedBlocks (request : Builder × Builder) : Nat := request.2.node.head - request.1.node.head

/-- At most one block for all requests together, and nothing is offered to the node
after it. -/
structure AtMostOnce (handled : List (Builder × Builder)) : Prop where
  forward : ∀ request ∈ handled, request.1.node.head ≤ request.2.node.head
  mined : (handled.map minedBlocks).sum ≤ 1
  silent : handled.Pairwise fun earlier later =>
    earlier.1.node.head < earlier.2.node.head → later.2.node.offered = later.1.node.offered

/-- Between attempts: once a block was mined, the head is past the target. -/
structure Tally (target : Nat) (world : World) : Prop where
  once : AtMostOnce world.handled
  past : 0 < (world.handled.map minedBlocks).sum → target < world.builder.node.head

/-- Others may only raise the head. -/
theorem Tally.meanwhile {target : Nat} (tally : Tally target world) {meanwhile : Builder → Builder}
    (raises : ∀ builder, builder.node.head ≤ (meanwhile builder).node.head) :
    Tally target { world with builder := meanwhile world.builder } where
  once := tally.once
  past mined := Nat.lt_of_lt_of_le (tally.past mined) (raises world.builder)

/-- A request that mined is part of what was mined. -/
private theorem mined_pos {handled : List (Builder × Builder)} {request : Builder × Builder}
    (member : request ∈ handled) (mines : request.1.node.head < request.2.node.head) :
    0 < (handled.map minedBlocks).sum := by
  refine List.sum_pos_iff_exists_pos_nat.mpr ?_
  exact ⟨minedBlocks request, List.mem_map_of_mem member, Nat.sub_pos_of_lt mines⟩

/-- One more handled request. -/
private theorem AtMostOnce.append {handled : List (Builder × Builder)} (once : AtMostOnce handled)
    {before after : Builder} (forward : before.node.head ≤ after.node.head)
    (mined : (handled.map minedBlocks).sum + minedBlocks (before, after) ≤ 1)
    (silent : 0 < (handled.map minedBlocks).sum → after.node.offered = before.node.offered) :
    AtMostOnce (handled ++ [(before, after)]) := by
  refine ⟨?_, ?_, ?_⟩
  · intro request member
    rcases List.mem_append.mp member with earlier | last
    · exact once.forward request earlier
    · rw [List.mem_singleton.mp last]
      exact forward
  · rw [List.map_append, List.sum_append, List.map_singleton, List.sum_singleton]
    exact mined
  · rw [List.pairwise_append]
    refine ⟨once.silent, List.pairwise_singleton _ _, ?_⟩
    intro earlier isEarlier later isLater mines
    rw [List.mem_singleton.mp isLater]
    exact silent (mined_pos isEarlier mines)

/-- One more attempt: it changes nothing, or it was taken at the target and nothing
was mined before. -/
theorem Tally.submitted {answers : Answers} {now : String} {response : Core.BlockBuilder.Response}
    {after : Builder}
    (targeted : bundle.blockNumber = some blockNumber) (tally : Tally blockNumber.toNat world)
    (submitted : Submitted answers now (Bundle.toJson lib bundle) world.builder response after) :
    Tally blockNumber.toNat ⟨after, world.handled ++ [(world.builder, after)]⟩ := by
  have total := tally.once.mined
  rcases submitted.effect with same | ⟨parsed, admitted, heads⟩
  · rw [same]
    have nothing : minedBlocks (world.builder, world.builder) = 0 := Nat.sub_self _
    refine ⟨tally.once.append (Nat.le_refl _) (by omega) fun _ => rfl, ?_⟩
    intro mined
    refine tally.past ?_
    simpa [nothing] using mined
  · have atTarget := admitted_at_target targeted admitted
    -- The head is still at the target, so no attempt has mined yet.
    have first : (world.handled.map minedBlocks).sum = 0 := by
      by_contra mined
      have past := tally.past (Nat.pos_of_ne_zero mined)
      omega
    refine ⟨tally.once.append (by omega) ?_ ?_, ?_⟩
    · rw [first, minedBlocks]
      dsimp only
      omega
    · intro mined
      omega
    · intro mined
      rw [List.map_append, List.sum_append, first, List.map_singleton, List.sum_singleton,
        minedBlocks] at mined
      dsimp only at mined ⊢
      omega

/-- **At most once.** For every bundle with a block number, whatever is lost, whatever
the node answers and whatever others mine in between: all attempts of one submission
together mine at most one block, and after an attempt that mined, no later one hands a
transaction to the node. -/
theorem submission_mines_at_most_once (lib : Libraries) (exchanges : Nat → Exchange)
    (targeted : bundle.blockNumber = some blockNumber)
    (headNeverFalls : ∀ attempt builder,
      builder.node.head ≤ ((exchanges attempt).meanwhile builder).node.head)
    (builder : Builder) :
    AtMostOnce (Simulator.submit lib exchanges bundle { builder }).2.handled := by
  have start : Tally blockNumber.toNat { builder } := by
    refine ⟨⟨?_, Nat.zero_le _, List.Pairwise.nil⟩, ?_⟩
    · intro request impossible
      cases impossible
    · intro impossible
      exact absurd impossible (Nat.lt_irrefl 0)
  have finished : Tally blockNumber.toNat (Simulator.submit lib exchanges bundle { builder }).2 := by
    unfold Simulator.submit
    refine postWithRetry_keeps ?_ kMaxAttempts _ start
    intro attempt world tally
    refine post_keeps ?_ ?_ world tally
    · exact fun _ tally => tally.meanwhile (headNeverFalls attempt)
    · exact fun _ tally => tally.submitted targeted (submitPrivateBundle_outcome _ _ _ _)
  exact finished.once

/-! The answer of the attempt that mines is lost, and both retries come too late. -/

def sampleBundle : Bundle := ⟨some 0, [.transaction {}]⟩

def sampleExchange (transport : Transport) : Exchange where
  transport := transport
  now := "now"
  answers := {
    latestBlock := .ok ()
    snapshot := .answered ()
    send := fun _ => .answered "0xaa"
    mine := .answered ()
    mining := wholePool
    poll := fun _ _ => .ok none
    revert := .answered ()
    rollback := presentPool }

def sampleExchanges (attempt : Nat) : Exchange :=
  sampleExchange (if attempt = 2 then .responseLost .httpReadError else .arrives)

theorem submission_mines_at_most_once_sample :
    let handled := (Simulator.submit documented sampleExchanges sampleBundle
      { builder := { node := {}, mempool := {} } }).2.handled
    handled.map (fun request => (request.1.node.head, request.2.node.head)) =
        [(0, 1), (1, 1), (1, 1)] ∧ AtMostOnce handled := by
  refine ⟨by decide +kernel, ?_⟩
  exact submission_mines_at_most_once documented sampleExchanges rfl (fun _ _ => Nat.le_refl _) _

end DexKnight.SubmitRetries
