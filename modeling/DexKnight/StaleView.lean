import DexKnight.SourceCoherence

/-! When a new block leaves a stale view behind. Every failing exit of the new-block
handler invalidates the state, except the one where the snapshot itself is rejected:
there the handler assumes that the state is newer. It is not when the rejection is
about the sequence number alone, as after a restart of the builder. -/
namespace DexKnight.StaleView
open Core.Types Core.Wire Core.CandidateState SourceProofs SourceCoherence WireProofs Support.Runs

variable {lib : Libraries} {pools : List Pool} {source : CandidateSource} {labels : List Action}
  {blockNumber : UInt64} {requestChainCall : Nat → Fields → Option Body}
  {requestSnapshot : Option Body}

/-- The state is marked invalid, or shows the pools read at this block. -/
def UpToDate (lib : Libraries) (pools : List Pool) (labels : List Action) (blockNumber : UInt64)
    (state : State) : Prop :=
  state.valid = false ∨
    state.valid = true ∧ state.blockNumber = some blockNumber ∧
      ReadAt lib pools labels blockNumber state.pools

/-- The answers are well formed, but their sequence number lies behind the state's
and the state belongs to another block. -/
def SequenceRegressed (lib : Libraries) (source : CandidateSource) (blockNumber : UInt64)
    (requestChainCall : Nat → Fields → Option Body) (requestSnapshot : Option Body) : Prop :=
  (∃ poolSnapshots, CandidateSource.requestPoolSnapshots lib requestChainCall blockNumber 0
      source.pools = some poolSnapshots) ∧
    (∃ snapshot, snapshotOf lib blockNumber requestSnapshot = some snapshot ∧
      snapshot.snapshotSeq < source.state.localMempool.snapshotSeq) ∧
    source.state.blockNumber ≠ some blockNumber

/-- **No stale view, exactly when.** In every reachable open state and for every
block not older than the recorded one, whatever the builder answers: after the
handler returns, the state is invalid or shows the pools read at that block if and
only if the answers are not a well-formed snapshot whose sequence number regressed
while the recorded block is another one. -/
theorem up_to_date_iff_not_regressed (run : (candidateSource lib pools).Run labels source)
    (opened : source.closed = false) (current : source.state.isOlder blockNumber = false) :
    UpToDate lib pools (labels ++ [.newBlock blockNumber requestChainCall requestSnapshot])
        blockNumber
        (source.handleNewBlockEvent lib blockNumber requestChainCall requestSnapshot).state ↔
      ¬ SequenceRegressed lib source blockNumber requestChainCall requestSnapshot := by
  have coherent := Coherent.reached run
  have after := coherent.newBlock blockNumber requestChainCall requestSnapshot
  generalize same : source.handleNewBlockEvent lib blockNumber requestChainCall requestSnapshot =
    handled at after ⊢
  have outcome := same ▸ handleNewBlockEvent_outcome lib source blockNumber requestChainCall
    requestSnapshot
  cases outcome with
  | ignored why =>
    rcases why with closed | older
    · cases closed.symm.trans opened
    · cases older.symm.trans current
  | stale _ _ answered parsed regressed =>
    -- A sequence number to fall behind of belongs to a valid state.
    have valid : source.state.valid = true := by
      refine Bool.eq_true_of_not_eq_false fun invalid => ?_
      rw [coherent.emptied invalid] at regressed
      exact absurd regressed UInt64.not_lt_zero
    obtain ⟨recordedBlock, recorded, read⟩ := after.read valid
    constructor
    · rintro (invalid | ⟨_, isBlock, _⟩) ⟨_, _, elsewhere⟩
      · cases invalid.symm.trans valid
      · exact elsewhere isBlock
    · intro excused
      refine .inr ⟨valid, ?_, ?_⟩
      · by_contra elsewhere
        exact excused ⟨⟨_, answered⟩, ⟨_, parsed, regressed⟩, elsewhere⟩
      · have isBlock : source.state.blockNumber = some blockNumber := by
          by_contra elsewhere
          exact excused ⟨⟨_, answered⟩, ⟨_, parsed, regressed⟩, elsewhere⟩
        cases isBlock.symm.trans recorded
        exact read
  | invalidated _ _ unread =>
    refine ⟨fun _ => ?_, fun _ => .inl rfl⟩
    rintro ⟨⟨_, answered⟩, ⟨_, parsed, _⟩, _⟩
    rcases unread with missing | missing
    · cases missing.symm.trans answered
    · cases missing.symm.trans parsed
  | applied _ _ answered parsed fresh =>
    refine ⟨fun _ => ?_, fun _ => ?_⟩
    · rintro ⟨_, ⟨_, parsed', regressed⟩, _⟩
      cases parsed.symm.trans parsed'
      exact absurd regressed (UInt64.not_lt.mpr fresh)
    · obtain ⟨recordedBlock, recorded, read⟩ := after.read rfl
      have isBlock : some blockNumber = some recordedBlock :=
        (congrArg some (snapshotOf_blockNumber parsed)).symm.trans recorded
      cases isBlock
      exact .inr ⟨rfl, recorded, read⟩

/-- A second block whose snapshot carries a later sequence number. -/
theorem up_to_date_iff_not_regressed_sample :
    UpToDate documented [samplePool] ([sampleBlock 7 1] ++ [sampleBlock 8 2]) 8
        ((sampleSource 7 1).handleNewBlockEvent documented 8 sampleCall
          (some (samplePending 2))).state ↔
      ¬ SequenceRegressed documented (sampleSource 7 1) 8 sampleCall (some (samplePending 2)) := by
  have first := handleNewBlockEvent_first (sampleCall_read 7)
    (show snapshotOf documented 7 (some (samplePending 1)) = some (sampleSnapshot 7 1)
      from samplePending_read rfl)
  refine up_to_date_iff_not_regressed (sampleSource_run 7 1) ?_ ?_
  · rw [sampleSource, first]
  · rw [sampleSource, first]
    rfl

/-- A snapshot with an earlier sequence number than the last one is dropped whole. -/
theorem handleNewBlockEvent_regressed {snapshots : List PoolSnapshot}
    {snapshot : PendingSnapshot} (answered : CandidateSource.requestPoolSnapshots lib
      requestChainCall blockNumber 0 source.pools = some snapshots)
    (read : snapshotOf lib blockNumber requestSnapshot = some snapshot)
    (regressed : snapshot.snapshotSeq < source.state.localMempool.snapshotSeq) :
    source.handleNewBlockEvent lib blockNumber requestChainCall requestSnapshot = source := by
  rw [handleNewBlockEvent_eq, answered, read]
  dsimp only
  rw [applyStateSnapshot_eq, if_pos (.inr (.inr regressed))]

/-- The builder restarted after block 7 and counts from 1 again: the event for block
8 leaves the state valid with the pools and the number of block 7. -/
theorem restarted_builder_leaves_stale_view :
    let source := sampleSource 7 5
    let handled := source.handleNewBlockEvent documented 8 sampleCall (some (samplePending 1))
    (candidateSource documented [samplePool]).Run [sampleBlock 7 5] source ∧
      source.closed = false ∧ source.state.isOlder 8 = false ∧
      handled.state.valid = true ∧ handled.state.blockNumber = some 7 := by
  intro source handled
  have later : snapshotOf documented 7 (some (samplePending 5)) = some (sampleSnapshot 7 5) :=
    samplePending_read rfl
  have restarted : snapshotOf documented 8 (some (samplePending 1)) = some (sampleSnapshot 8 1) :=
    samplePending_read rfl
  have first : source = _ := handleNewBlockEvent_first (sampleCall_read 7) later
  have kept : handled = source := by
    have isPools : source.pools = [samplePool] := by rw [first]
    have answered := sampleCall_read 8
    rw [← isPools] at answered
    refine handleNewBlockEvent_regressed answered restarted ?_
    rw [first]
    decide
  refine ⟨sampleSource_run 7 5, ?_, ?_, ?_, ?_⟩
  · rw [first]
  · rw [first]
    rfl
  · rw [kept, first]
    rfl
  · rw [kept, first]
    rfl

end DexKnight.StaleView
