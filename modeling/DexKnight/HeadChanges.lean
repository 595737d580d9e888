import DexKnight.BoundedQueue

/-! What becomes of a new head of the chain. The block syncer notes a block once it has
handed it to its handler, and the handler answers nothing: whether the queue took the
event is not known to the syncer. So a block is noted and lost exactly where the queue
refuses its event, and in a run where the queue always has room for a new head, none
is. -/
namespace DexKnight.HeadChanges
open Core.Types Core.Wire Core.Ingress Support.Runs

variable {inputs after : Inputs} {events : EventQueue} {event : Event} {action : Action}
  {blockNumber : UInt64} {now : Int}

/-- The syncer, the queue, its worker and the pending feed, in any order. -/
def machine (host : String) : Machine Inputs Action where
  initial inputs := inputs = { host }
  step inputs action after := inputs.perform action = some after

/-- An event for this block was accepted into the queue. -/
def Took (events : EventQueue) (blockNumber : UInt64) : Prop :=
  ∃ event : NewBlockEvent, .newBlock event ∈ events.accepted ∧ event.blockNumber = blockNumber

/-- The block the syncer takes for the current one was accepted into the queue. -/
def Kept (inputs : Inputs) : Prop :=
  ∀ blockNumber, inputs.syncer.currentBlock = some blockNumber → Took inputs.events blockNumber

/-- The syncer hands this block to its handler: the first head it reads, and later every
head other than its current one. -/
def Offers (inputs : Inputs) (action : Action) (blockNumber : UInt64) : Prop :=
  match action with
  | .run _ response => BlockSyncer.fetchLastBlock response = some blockNumber
  | .poll _ response => BlockSyncer.fetchLastBlock response = some blockNumber ∧
      inputs.syncer.currentBlock ≠ some blockNumber
  | _ => False

/-- A poll that reads this head hands it to the handler. -/
def OfferedAgain (inputs : Inputs) (blockNumber : UInt64) : Prop :=
  ∀ now response, BlockSyncer.fetchLastBlock response = some blockNumber →
    Offers inputs (.poll now response) blockNumber

/-- The queue would take an event. -/
def HasRoom (events : EventQueue) : Prop :=
  events.queue.closed = false ∧ events.queue.items.length < 10000

/-! ## The queue -/

theorem tryPush_accepts (room : HasRoom events) (event : Event) :
    events.tryPush event = (true, {
      queue := { events.queue with items := events.queue.items ++ [event] }
      accepted := events.accepted ++ [event] }) := by
  rw [EventQueue.tryPush, BoundedQueue.tryPush_accepts room.1 room.2]

theorem tryPush_refuses (full : ¬HasRoom events) (event : Event) :
    events.tryPush event = (false, events) := by
  have refused : events.queue.closed = true ∨ 10000 ≤ events.queue.items.length := by
    rw [HasRoom, Bool.eq_false_iff, not_and_or, not_not, not_lt] at full
    exact full
  rw [EventQueue.tryPush, BoundedQueue.tryPush_refuses refused]

/-- Nothing that was accepted is forgotten. -/
theorem tryPush_took (took : Took events blockNumber) (event : Event) :
    Took (events.tryPush event).2 blockNumber := by
  by_cases room : HasRoom events
  · rw [tryPush_accepts room]
    exact took.imp fun _ ⟨member, same⟩ => ⟨List.mem_append_left _ member, same⟩
  · rw [tryPush_refuses room]
    exact took

theorem publishNewBlock_took (room : HasRoom events) :
    Took (events.publishNewBlock now blockNumber) blockNumber := by
  rw [EventQueue.publishNewBlock, tryPush_accepts room]
  exact ⟨_, List.mem_append_right _ List.mem_cons_self, rfl⟩

theorem publishNewBlock_refused (full : ¬HasRoom events) :
    events.publishNewBlock now blockNumber = events := by
  rw [EventQueue.publishNewBlock, tryPush_refuses full]

/-! ## One step -/

/-- What a step can do to the event queue. -/
inductive Moved (events : EventQueue) : EventQueue → Prop
  | still : Moved events events
  | pushed (event : Event) : Moved events (events.tryPush event).2
  | popped {item : Option Event} {queue : Queue Event 10000} :
      events.queue.waitPop = some (item, queue) → Moved events { events with queue }
  | closed : Moved events { events with queue := events.queue.close }

theorem perform_moved (performed : inputs.perform action = some after) :
    Moved inputs.events after.events := by
  cases action with
  | startSyncer =>
    cases performed
    exact .still
  | stopSyncer =>
    cases performed
    exact .still
  | run now response =>
    simp only [Inputs.perform, Option.ite_none_right_eq_some, Option.some.injEq] at performed
    obtain ⟨_, rfl⟩ := performed
    cases head : BlockSyncer.fetchLastBlock response with
    | none => simpa [BlockSyncer.run, head] using Moved.still
    | some lastBlock =>
      have pushed : Moved inputs.events (inputs.events.publishNewBlock now lastBlock) := .pushed _
      simpa [BlockSyncer.run, head, BlockSyncer.publishNewBlock, Inputs.onNewBlock] using pushed
  | poll now response =>
    simp only [Inputs.perform, Option.ite_none_right_eq_some, Option.some.injEq] at performed
    obtain ⟨_, rfl⟩ := performed
    cases head : BlockSyncer.fetchLastBlock response with
    | none => simpa [BlockSyncer.poll, head] using Moved.still
    | some lastBlock =>
      by_cases known : inputs.syncer.currentBlock = some lastBlock
      · simpa [BlockSyncer.poll, head, known] using Moved.still
      · have pushed : Moved inputs.events (inputs.events.publishNewBlock now lastBlock) := .pushed _
        simpa [BlockSyncer.poll, head, known, BlockSyncer.publishNewBlock, Inputs.onNewBlock] using
          pushed
  | transaction now transaction =>
    cases performed
    exact .pushed _
  | pop =>
    obtain ⟨⟨item, queue⟩, isPopped, same⟩ := Option.bind_eq_some_iff.mp performed
    cases same
    exact .popped isPopped
  | close =>
    cases performed
    exact .closed

/-- No step forgets an accepted event. -/
theorem Moved.took {later : EventQueue} (moved : Moved events later) (took : Took events blockNumber) :
    Took later blockNumber := by
  cases moved with
  | still => exact took
  | pushed event => exact tryPush_took took event
  | popped isPopped => exact took
  | closed => exact took

/-- What a step is to the syncer's current block: a new head handed over and noted, or
nothing that changes it. -/
theorem perform_cases (performed : inputs.perform action = some after) :
    (∃ now blockNumber, Offers inputs action blockNumber ∧
      after.events = inputs.events.publishNewBlock now blockNumber ∧
      after.syncer.currentBlock = some blockNumber) ∨
    ((∀ blockNumber, ¬Offers inputs action blockNumber) ∧
      after.syncer.currentBlock = inputs.syncer.currentBlock) := by
  cases action with
  | startSyncer =>
    cases performed
    refine .inr ⟨fun _ => id, ?_⟩
    unfold BlockSyncer.start
    split <;> rfl
  | stopSyncer =>
    cases performed
    refine .inr ⟨fun _ => id, ?_⟩
    unfold BlockSyncer.stop
    split <;> rfl
  | run now response =>
    simp only [Inputs.perform, Option.ite_none_right_eq_some, Option.some.injEq] at performed
    obtain ⟨_, rfl⟩ := performed
    cases head : BlockSyncer.fetchLastBlock response with
    | none =>
      refine .inr ⟨fun _ offers => ?_, ?_⟩
      · cases head.symm.trans offers
      · simp [BlockSyncer.run, head]
    | some lastBlock =>
      refine .inl ⟨now, lastBlock, head, ?_, ?_⟩
      · simp [BlockSyncer.run, head, BlockSyncer.publishNewBlock, Inputs.onNewBlock]
      · simp [BlockSyncer.run, head, BlockSyncer.publishNewBlock, Inputs.onNewBlock]
  | poll now response =>
    simp only [Inputs.perform, Option.ite_none_right_eq_some, Option.some.injEq] at performed
    obtain ⟨_, rfl⟩ := performed
    cases head : BlockSyncer.fetchLastBlock response with
    | none =>
      refine .inr ⟨fun _ offers => ?_, ?_⟩
      · cases head.symm.trans offers.1
      · simp [BlockSyncer.poll, head]
    | some lastBlock =>
      by_cases known : inputs.syncer.currentBlock = some lastBlock
      · refine .inr ⟨fun blockNumber offers => ?_, ?_⟩
        · exact offers.2 (known.trans (head.symm.trans offers.1))
        · simp [BlockSyncer.poll, head, known]
      · refine .inl ⟨now, lastBlock, ⟨head, known⟩, ?_, ?_⟩
        · simp [BlockSyncer.poll, head, known, BlockSyncer.publishNewBlock, Inputs.onNewBlock]
        · simp [BlockSyncer.poll, head, known, BlockSyncer.publishNewBlock, Inputs.onNewBlock]
  | transaction now transaction =>
    cases performed
    exact .inr ⟨fun _ => id, rfl⟩
  | pop =>
    obtain ⟨_, _, same⟩ := Option.bind_eq_some_iff.mp performed
    cases same
    exact .inr ⟨fun _ => id, rfl⟩
  | close =>
    cases performed
    exact .inr ⟨fun _ => id, rfl⟩

/-- What is asked of a step: the syncer's current block is in the queue's record, and a
head the queue refused will be offered by a poll that reads it again. -/
def Acknowledged (taken : Machine.Step Inputs Action) : Prop :=
  Kept taken.after ∧ ∀ blockNumber, Offers taken.before taken.label blockNumber →
    ¬HasRoom taken.before.events → OfferedAgain taken.after blockNumber

/-- The response a step read a head from. -/
theorem Offers.read (offers : Offers inputs action blockNumber) :
    ∃ response, BlockSyncer.fetchLastBlock response = some blockNumber := by
  cases action with
  | run now response => exact ⟨response, offers⟩
  | poll now response => exact ⟨response, offers.1⟩
  | _ => exact offers.elim

/-- **One step.** Out of a state whose current block was accepted, a step does what is
asked of it if and only if the queue has room for the head it hands over. -/
theorem acknowledged_iff_room (kept : Kept inputs) (performed : inputs.perform action = some after) :
    Acknowledged ⟨inputs, action, after⟩ ↔
      ∀ blockNumber, Offers inputs action blockNumber → HasRoom inputs.events := by
  rcases perform_cases performed with ⟨now, offered, offers, pushed, noted⟩ |
    ⟨offersNothing, same⟩
  · constructor
    · rintro ⟨_, again⟩ _ _
      by_contra full
      -- The refused block is noted all the same, so no poll will offer it.
      obtain ⟨response, reads⟩ := offers.read
      exact (again offered offers full 0 response reads).2 noted
    · intro room
      have hasRoom := room offered offers
      refine ⟨?_, fun _ _ full => absurd hasRoom full⟩
      intro blockNumber current
      cases noted.symm.trans current
      change Took after.events offered
      rw [pushed]
      exact publishNewBlock_took hasRoom
  · constructor
    · intro _ blockNumber offers
      exact absurd offers (offersNothing blockNumber)
    · intro _
      refine ⟨?_, fun blockNumber offers => absurd offers (offersNothing blockNumber)⟩
      intro blockNumber current
      exact (perform_moved performed).took (kept blockNumber (same.symm.trans current))

/-! ## Whole runs -/

/-- **No head change is lost while there is room.** In every run of the syncer, the
queue, its worker and the pending feed, in any order and with any answers: the current
block has been accepted into the queue in every state, and a refused head is offered
again, if and only if at every head the syncer hands over the queue is open and not
full. -/
theorem head_changes_kept_iff_room {host : String} {start : Inputs}
    {path : List (Machine.Step Inputs Action)} (fresh : (machine host).initial start)
    (steps : (machine host).Steps start path) :
    (∀ taken ∈ path, Kept taken.after ∧ ∀ blockNumber,
        Offers taken.before taken.label blockNumber → ¬HasRoom taken.before.events →
          OfferedAgain taken.after blockNumber) ↔
      ∀ taken ∈ path, ∀ blockNumber, Offers taken.before taken.label blockNumber →
        HasRoom taken.before.events := by
  refine Steps.good_iff Kept Acknowledged (fun taken => ∀ blockNumber,
    Offers taken.before taken.label blockNumber → HasRoom taken.before.events) steps ?_ ?_
  · rw [fresh]
    intro blockNumber current
    cases current
  · intro taken _ kept performed
    exact ⟨acknowledged_iff_room kept performed, fun good => good.1⟩

/-- A response to the request for the chain's head. -/
def headAt (blockNumber : String) : Option Body :=
  some (some (.object [("blockNumber", .string blockNumber)]))

theorem fetchLastBlock_first : BlockSyncer.fetchLastBlock (headAt "0x1") = some 1 := by
  decide +kernel

theorem fetchLastBlock_second : BlockSyncer.fetchLastBlock (headAt "0x2") = some 2 := by
  decide +kernel

/-- A syncer that starts at block 1 and an empty queue: the block is accepted. -/
theorem head_changes_kept_at_start :
    let start : Inputs := { host := "builder" }
    let entered : Inputs := { start with
      syncer := { state := .starting, running := true, thread := .entered } }
    ∃ ready, entered.perform (.run 0 (headAt "0x1")) = some ready ∧
      ready.syncer.currentBlock = some 1 ∧ Kept ready := by
  intro start entered
  obtain ⟨ready, performed, noted⟩ : ∃ ready, entered.perform (.run 0 (headAt "0x1")) = some ready ∧
      ready.syncer.currentBlock = some 1 := by
    simp [entered, Inputs.perform, BlockSyncer.run, fetchLastBlock_first,
      BlockSyncer.publishNewBlock, Inputs.onNewBlock]
  have started : start.perform .startSyncer = some entered := rfl
  have kept := (head_changes_kept_iff_room (show (machine "builder").initial start from rfl)
    (.step started (.step performed .done))).mpr
  refine ⟨ready, performed, noted, (kept ?_ ⟨entered, .run 0 (headAt "0x1"), ready⟩ ?_).1⟩
  · intro taken member blockNumber offers
    simp only [List.mem_cons, List.not_mem_nil, or_false] at member
    rcases member with rfl | rfl
    · exact offers.elim
    · exact ⟨rfl, Nat.zero_lt_succ _⟩
  · simp

/-! ## A queue that fills up -/

/-- The event of the first block. -/
def firstBlock : Event := .newBlock { ingressTime := 0, source := "builder", blockNumber := 1 }

def arrival : PendingTransaction := { source := List.replicate 20 0x11, seqNum := 1 }

/-- The syncer is at block 1, and this many transactions came in behind it while the
worker was busy. -/
def flooded (count : Nat) : Inputs where
  host := "builder"
  syncer := { currentBlock := some 1, state := .ready, running := true, thread := .looping }
  events :=
    let items := firstBlock :: List.replicate count
      (.pendingTransaction { ingressTime := 0, source := "builder", tx := arrival })
    { queue := { items }, accepted := items }

theorem flooded_full {count : Nat} : HasRoom (flooded count).events ↔ count < 9999 := by
  have length : (flooded count).events.queue.items.length = count + 1 := by simp [flooded]
  rw [HasRoom, length]
  exact ⟨fun ⟨_, short⟩ => by omega, fun short => ⟨rfl, by omega⟩⟩

theorem flooded_succ {count : Nat} (room : count < 9999) :
    (flooded count).perform (.transaction 0 arrival) = some (flooded (count + 1)) := by
  rw [Inputs.perform, EventQueue.publishPendingTransaction, tryPush_accepts (flooded_full.mpr room)]
  simp [flooded, List.replicate_succ']

theorem flooded_run {count : Nat} (room : count ≤ 9999) :
    (machine "builder").Run ([.startSyncer, .run 0 (headAt "0x1")] ++
      List.replicate count (.transaction 0 arrival)) (flooded count) := by
  induction count with
  | zero =>
    have starts : (machine "builder").Run [] { host := "builder" } := .start rfl
    have enters : (machine "builder").step { host := "builder" } .startSyncer
        { host := "builder", syncer := { state := .starting, running := true, thread := .entered } } :=
      rfl
    refine (starts.step enters).step ?_
    simp [machine, Inputs.perform, BlockSyncer.run, fetchLastBlock_first,
      BlockSyncer.publishNewBlock, Inputs.onNewBlock, EventQueue.publishNewBlock,
      EventQueue.tryPush, Queue.tryPush, flooded, firstBlock]
  | succ count ih =>
    have next := (ih (by omega)).step (flooded_succ (by omega))
    rw [List.append_assoc, ← List.replicate_succ'] at next
    exact next

/-- The second block is read where the queue has no room left. -/
theorem flooded_poll {count : Nat} (full : ¬HasRoom (flooded count).events) :
    (flooded count).perform (.poll 0 (headAt "0x2")) = some { flooded count with
      syncer := { (flooded count).syncer with currentBlock := some 2 } } := by
  have refused : (flooded count).events.publishNewBlock 0 2 = (flooded count).events :=
    publishNewBlock_refused full
  have looping : (flooded count).syncer.thread = .looping := rfl
  have behind : (flooded count).syncer.currentBlock = some 1 := rfl
  simp [Inputs.perform, looping, behind, BlockSyncer.poll, fetchLastBlock_second,
    BlockSyncer.publishNewBlock, Inputs.onNewBlock, refused]

theorem flooded_took {count : Nat} (took : Took (flooded count).events blockNumber) :
    blockNumber = 1 := by
  obtain ⟨event, member, rfl⟩ := took
  simp only [flooded, List.mem_cons, List.mem_replicate, reduceCtorEq, and_false, or_false,
    firstBlock, Event.newBlock.injEq] at member
  rw [member]

/-- **A full queue loses a head.** With 9,999 transactions behind block 1 the queue is
full. The poll that reads block 2 is refused by it; block 2 is the syncer's current block
all the same, no event for it was accepted, and no later poll that reads it offers it. -/
theorem full_queue_loses_head :
    let labels : List Action := [.startSyncer, .run 0 (headAt "0x1")] ++
      List.replicate 9999 (.transaction 0 arrival)
    ∃ full lost, (machine "builder").Run labels full ∧
      full.perform (.poll 0 (headAt "0x2")) = some lost ∧
      lost.syncer.currentBlock = some 2 ∧ ¬Kept lost ∧ ¬OfferedAgain lost 2 := by
  intro labels
  have full : ¬HasRoom (flooded 9999).events := fun room => absurd (flooded_full.mp room) (by omega)
  refine ⟨_, _, flooded_run le_rfl, flooded_poll full, rfl, ?_, ?_⟩
  · intro kept
    cases flooded_took (kept 2 rfl)
  · intro again
    exact (again 0 (headAt "0x2") fetchLastBlock_second).2 rfl

end DexKnight.HeadChanges
