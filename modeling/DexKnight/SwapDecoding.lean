import DexKnight.BackrunEncoding
import DexKnight.WireProofs

/-! One byte string, classified twice. The filter recognises a swap by its first bytes,
the decoder compares the selector again and reads the two arguments, and the calculator
takes the direction of a route from the variant the decoder returned. They agree on every
string: an accepted candidate carries the selector of its kind, and what is decoded is a
swap of that kind. -/
namespace DexKnight.SwapDecoding
open Core.Types Core.Wire Core.CandidateState Core.Calculator Core.Runtime WireProofs
  BackrunEncoding

variable {lib : Libraries} {pools : List Pool} {tx : PendingTransaction} {candidate : Candidate}
  {kind : SwapKind} {swap : Swap} {amountIn minAmountOut : Uint256}

/-- The selector of the call that swaps in this direction. -/
def selectorOf : SwapKind → Bytes
  | .aForB => CandidateFilter.swapExactAForBSelector
  | .bForA => CandidateFilter.swapExactBForASelector

/-- The decoder's variant for this direction. -/
def swapOf : SwapKind → SwapArguments → Swap
  | .aForB => .swapExactAForB
  | .bForA => .swapExactBForA

def kindOf : Swap → SwapKind
  | .swapExactAForB _ => .aForB
  | .swapExactBForA _ => .bForA

@[simp] theorem selectorOf_length (kind : SwapKind) : (selectorOf kind).length = kSelectorLength := by
  cases kind <;> rfl

theorem selectorOf_inj {first second : SwapKind} (same : selectorOf first = selectorOf second) :
    first = second := by
  cases first <;> cases second <;> first | rfl | cases same

@[simp] theorem kindOf_swapOf (kind : SwapKind) (arguments : SwapArguments) :
    kindOf (swapOf kind arguments) = kind := by
  cases kind <;> rfl

/-- `solabi::decode` of two words: it throws on fewer than 64 bytes and ignores what is
behind them. -/
def ReadsWords (lib : Libraries) : Prop :=
  ∀ bytes, lib.decodePair bytes = if bytes.length < 2 * kWordSize then none
    else some (decodeUint256 (bytes.take kWordSize),
      decodeUint256 ((bytes.drop kWordSize).take kWordSize))

theorem documented_readsWords : ReadsWords documented := fun _ => rfl

/-! ## The filter -/

theorem startsWithSelector_iff {input selector : Bytes} :
    CandidateFilter.startsWithSelector input selector = true ↔ selector <+: input := by
  rw [CandidateFilter.startsWithSelector, Bool.and_eq_true, decide_eq_true_iff, beq_iff_eq,
    List.prefix_iff_eq_take]
  constructor
  · rintro ⟨_, same⟩
    exact same.symm
  · intro same
    refine ⟨?_, same.symm⟩
    have length := congrArg List.length same
    rw [List.length_take] at length
    omega

/-- A string starts with at most one of the two selectors. -/
theorem selector_unique {first second : SwapKind} {input : Bytes}
    (starts : selectorOf first <+: input) (alsoStarts : selectorOf second <+: input) :
    first = second := by
  have left := List.prefix_iff_eq_take.mp starts
  have right := List.prefix_iff_eq_take.mp alsoStarts
  rw [selectorOf_length] at left right
  exact selectorOf_inj (left.trans right.symm)

theorem swapKindFromInput_eq_some_iff {input : Bytes} :
    CandidateFilter.swapKindFromInput input = some kind ↔ selectorOf kind <+: input := by
  change (if CandidateFilter.startsWithSelector input (selectorOf .aForB) then some SwapKind.aForB
    else if CandidateFilter.startsWithSelector input (selectorOf .bForA) then some .bForA
    else none) = some kind ↔ _
  by_cases first : selectorOf .aForB <+: input
  · rw [if_pos (startsWithSelector_iff.mpr first), Option.some.injEq]
    exact ⟨fun same => same ▸ first, fun starts => selector_unique first starts⟩
  · rw [if_neg (mt startsWithSelector_iff.mp first)]
    by_cases second : selectorOf .bForA <+: input
    · rw [if_pos (startsWithSelector_iff.mpr second), Option.some.injEq]
      exact ⟨fun same => same ▸ second, fun starts => selector_unique second starts⟩
    · rw [if_neg (mt startsWithSelector_iff.mp second)]
      cases kind with
      | aForB => simp [first]
      | bForA => simp [second]

theorem findPool_isSome_iff {address : Bytes} :
    (CandidateFilter.findPool pools address).isSome ↔ ∃ pool ∈ pools, pool.address = address := by
  simp [CandidateFilter.findPool, List.find?_isSome]

/-- What the filter keeps: the first pool the transaction is sent to, and the kind its
selector names. -/
theorem filter_eq_some_iff :
    CandidateFilter.filter pools tx = some candidate ↔
      ∃ recipient, tx.recipient = some recipient ∧
        CandidateFilter.findPool pools recipient = some candidate.pool ∧
        selectorOf candidate.swapKind <+: tx.input ∧ candidate.tx = tx := by
  unfold CandidateFilter.filter
  simp only [Option.bind_eq_bind, Option.bind_eq_some_iff, Option.some.injEq]
  constructor
  · rintro ⟨recipient, sent, pool, found, kind, isKind, rfl⟩
    exact ⟨recipient, sent, found, swapKindFromInput_eq_some_iff.mp isKind, rfl⟩
  · rintro ⟨recipient, sent, found, starts, rfl⟩
    exact ⟨recipient, sent, candidate.pool, found, candidate.swapKind,
      swapKindFromInput_eq_some_iff.mpr starts, rfl⟩

/-! ## The decoder -/

/-- The decoder, with its two branches as one. -/
theorem decodeSwap_eq (candidate : Candidate) :
    decodeSwap lib candidate =
      if candidate.tx.input.length ≤ kSelectorLength then none
      else if candidate.tx.input.take kSelectorLength ≠ selectorOf candidate.swapKind then none
      else (lib.decodePair (candidate.tx.input.drop kSelectorLength)).map fun decoded =>
        swapOf candidate.swapKind ⟨decoded.1, decoded.2⟩ := by
  unfold decodeSwap
  dsimp only
  cases candidate.swapKind with
  | aForB => cases lib.decodePair (candidate.tx.input.drop kSelectorLength) <;> rfl
  | bForA => cases lib.decodePair (candidate.tx.input.drop kSelectorLength) <;> rfl

/-- Only a swap of the candidate's kind is decoded. -/
theorem decodeSwap_kind (decoded : decodeSwap lib candidate = some swap) :
    kindOf swap = candidate.swapKind := by
  rw [decodeSwap_eq] at decoded
  split at decoded
  · cases decoded
  · split at decoded
    · cases decoded
    · obtain ⟨arguments, _, rfl⟩ := Option.map_eq_some_iff.mp decoded
      exact kindOf_swapOf _ _

/-- Two words behind the selector are the arguments. -/
theorem decodeSwap_words (reads : ReadsWords lib)
    (input : candidate.tx.input =
      selectorOf candidate.swapKind ++ (uint256Word amountIn ++ uint256Word minAmountOut)) :
    decodeSwap lib candidate = some (swapOf candidate.swapKind ⟨amountIn, minAmountOut⟩) := by
  have selected : candidate.tx.input.take kSelectorLength = selectorOf candidate.swapKind := by
    rw [input, List.take_left' (selectorOf_length _)]
  have behind : candidate.tx.input.drop kSelectorLength =
      uint256Word amountIn ++ uint256Word minAmountOut := by
    rw [input, List.drop_left' (selectorOf_length _)]
  have length : candidate.tx.input.length = 68 := by
    rw [input]
    simp [kSelectorLength, kWordSize]
  have decoded : lib.decodePair (uint256Word amountIn ++ uint256Word minAmountOut) =
      some (amountIn, minAmountOut) := by
    have whole : (uint256Word minAmountOut).take kWordSize = uint256Word minAmountOut :=
      List.take_of_length_le (by simp)
    rw [reads, if_neg (by simp [kWordSize]), List.take_left' uint256Word_length,
      List.drop_left' uint256Word_length, whole, decodeUint256_word, decodeUint256_word]
  rw [decodeSwap_eq, if_neg (by rw [length]; decide), if_neg (not_not.mpr selected), behind, decoded]
  rfl

theorem decodeSwap_short (reads : ReadsWords lib)
    (short : candidate.tx.input.length < kSelectorLength + 2 * kWordSize) :
    decodeSwap lib candidate = none := by
  have tooShort : (candidate.tx.input.drop kSelectorLength).length < 2 * kWordSize := by
    rw [List.length_drop]
    simp only [kSelectorLength, kWordSize] at short ⊢
    omega
  rw [decodeSwap_eq, reads, if_pos tooShort]
  split
  · rfl
  · split <;> rfl

/-- **Filter, decoder and calculator agree.** For every list of pools and every pending
transaction: it is accepted exactly when it is sent to a configured pool and starts with a
swap selector. Of an accepted candidate, the decoder's comparison of selectors succeeds,
what is decoded is a swap of its kind and sets the direction of every route to that kind,
and fewer than 64 bytes behind the selector never decode. The selector of either kind and
two words, sent to a pool, is accepted as that kind and decodes to the two numbers. -/
theorem filter_decoder_calculator_agree (reads : ReadsWords lib) (pools : List Pool)
    (tx : PendingTransaction) :
    ((CandidateFilter.filter pools tx).isSome ↔
      (∃ pool ∈ pools, tx.recipient = some pool.address) ∧
        (CandidateFilter.swapExactAForBSelector <+: tx.input ∨
          CandidateFilter.swapExactBForASelector <+: tx.input)) ∧
    (∀ candidate, CandidateFilter.filter pools tx = some candidate →
      candidate.tx.input.take kSelectorLength = selectorOf candidate.swapKind ∧
      (∀ swap, decodeSwap lib candidate = some swap → kindOf swap = candidate.swapKind ∧
        ∀ poolAfterVictim otherPool params,
          evaluateRoute poolAfterVictim otherPool swap params =
            match candidate.swapKind with
            | .aForB => evaluatePool poolAfterVictim otherPool params
            | .bForA => evaluatePool otherPool poolAfterVictim params) ∧
      (candidate.tx.input.length < 4 + 64 → decodeSwap lib candidate = none)) ∧
    ∀ kind amountIn minAmountOut, (∃ pool ∈ pools, tx.recipient = some pool.address) →
      tx.input = selectorOf kind ++ (uint256Word amountIn ++ uint256Word minAmountOut) →
        ∃ candidate, CandidateFilter.filter pools tx = some candidate ∧
          candidate.swapKind = kind ∧
          decodeSwap lib candidate = some (swapOf kind ⟨amountIn, minAmountOut⟩) := by
  have accepts : ∀ kind, (∃ pool ∈ pools, tx.recipient = some pool.address) →
      selectorOf kind <+: tx.input →
        ∃ candidate, CandidateFilter.filter pools tx = some candidate ∧ candidate.swapKind = kind := by
    rintro kind ⟨pool, listed, sent⟩ starts
    obtain ⟨found, isFound⟩ := Option.isSome_iff_exists.mp
      (findPool_isSome_iff.mpr ⟨pool, listed, rfl⟩)
    exact ⟨⟨tx, found, kind⟩, filter_eq_some_iff.mpr ⟨pool.address, sent, isFound, starts, rfl⟩, rfl⟩
  refine ⟨⟨?_, ?_⟩, ?_, ?_⟩
  · intro isAccepted
    obtain ⟨candidate, accepted⟩ := Option.isSome_iff_exists.mp isAccepted
    obtain ⟨recipient, sent, found, starts, _⟩ := filter_eq_some_iff.mp accepted
    obtain ⟨pool, listed, rfl⟩ := findPool_isSome_iff.mp (Option.isSome_iff_exists.mpr ⟨_, found⟩)
    refine ⟨⟨pool, listed, sent⟩, ?_⟩
    cases isKind : candidate.swapKind with
    | aForB => exact .inl (by simpa [isKind, selectorOf] using starts)
    | bForA => exact .inr (by simpa [isKind, selectorOf] using starts)
  · rintro ⟨isPool, starts | starts⟩
    · exact Option.isSome_iff_exists.mpr ((accepts .aForB isPool starts).imp fun _ => And.left)
    · exact Option.isSome_iff_exists.mpr ((accepts .bForA isPool starts).imp fun _ => And.left)
  · intro candidate accepted
    obtain ⟨_, _, _, starts, rfl⟩ := filter_eq_some_iff.mp accepted
    refine ⟨?_, ?_, decodeSwap_short reads⟩
    · rw [← selectorOf_length candidate.swapKind]
      exact (List.prefix_iff_eq_take.mp starts).symm
    · intro swap decoded
      have isKind := decodeSwap_kind decoded
      refine ⟨isKind, fun _ _ _ => ?_⟩
      rw [← isKind]
      cases swap <;> rfl
  · intro kind amountIn minAmountOut isPool input
    obtain ⟨candidate, accepted, isKind⟩ := accepts kind isPool (input ▸ List.prefix_append _ _)
    obtain ⟨_, _, _, _, rfl⟩ := filter_eq_some_iff.mp accepted
    subst isKind
    exact ⟨candidate, accepted, rfl, decodeSwap_words reads input⟩

/-- A swap of B for A of 5 for at least 3, sent to the second of two pools. -/
theorem filter_decoder_calculator_agree_second_pool :
    let pools : List Pool := [⟨[0x01], [0x0A], [0x0B]⟩, ⟨[0x02], [0x0A], [0x0B]⟩]
    let tx : PendingTransaction := {
      recipient := some [0x02]
      input := selectorOf .bForA ++ (uint256Word 5 ++ uint256Word 3) }
    ∃ candidate, CandidateFilter.filter pools tx = some candidate ∧ candidate.swapKind = .bForA ∧
      decodeSwap documented candidate = some (.swapExactBForA ⟨5, 3⟩) := by
  intro pools tx
  obtain ⟨_, _, decodes⟩ := filter_decoder_calculator_agree documented_readsWords pools tx
  exact decodes .bForA 5 3 ⟨⟨[0x02], [0x0A], [0x0B]⟩, by simp [pools], rfl⟩ rfl

end DexKnight.SwapDecoding
