import DexKnight.Core.Ingress
import DexKnight.Support.Runs

/-! The queue between threads (`queue.h`), for every item type, every capacity and any
number of producers and consumers. A run is the sequence of critical sections in the
order in which they held the lock, each with its caller and its answer. What was
accepted and what was returned are read off that sequence, and one equation ties them
to the queue's content: nothing is lost, doubled or overtaken. -/
namespace DexKnight.BoundedQueue
open Core.Ingress Support.Runs

variable {τ α : Type} {capacity : Nat} {queue after later : Queue α capacity}

/-! ## Calls -/

/-- One critical section. A consumer whose predicate does not hold gives the lock back
and sleeps; woken, for whatever reason, it holds the lock again and looks once more. -/
inductive Call (τ α : Type)
  | tryPush (producer : τ) (item : α) (accepted : Bool)
  | waitPop (consumer : τ) (returned : Option α)
  | sleep (consumer : τ)
  | close (closer : τ)
  deriving DecidableEq, Repr

namespace Call

def acceptedItem : Call τ α → Option α
  | .tryPush _ item true => some item
  | _ => none

def returnedItem : Call τ α → Option α
  | .waitPop _ returned => returned
  | _ => none

end Call

/-- The items that were accepted, in that order. -/
def accepted (calls : List (Call τ α)) : List α := calls.filterMap Call.acceptedItem

/-- The items that were returned, in that order. -/
def returned (calls : List (Call τ α)) : List α := calls.filterMap Call.returnedItem

def Closed (calls : List (Call τ α)) : Prop := ∃ closer, .close closer ∈ calls

/-- Threads around one queue, which is new at the start. -/
def threads (τ α : Type) (capacity : Nat) : Machine (Queue α capacity) (Call τ α) where
  initial queue := queue = {}
  step queue call after :=
    match call with
    | .tryPush _ item accepted => queue.tryPush item = (accepted, after)
    | .waitPop _ returned => queue.waitPop = some (returned, after)
    | .sleep _ => queue.waitPop = none ∧ after = queue
    | .close _ => after = queue.close

/-! ## One critical section -/

theorem tryPush_accepts (isOpen : queue.closed = false) (room : queue.items.length < capacity)
    (item : α) : queue.tryPush item = (true, { queue with items := queue.items ++ [item] }) := by
  simp [Queue.tryPush, isOpen, Nat.not_le_of_lt room]

theorem tryPush_refuses (refused : queue.closed = true ∨ capacity ≤ queue.items.length) (item : α) :
    queue.tryPush item = (false, queue) := by
  unfold Queue.tryPush
  obtain isClosed | full := refused
  · simp [isClosed]
  · simp [full]

theorem tryPush_cases (queue : Queue α capacity) (item : α) :
    queue.tryPush item = (true, { queue with items := queue.items ++ [item] }) ∨
      queue.tryPush item = (false, queue) := by
  rcases Bool.eq_false_or_eq_true queue.closed with isClosed | isOpen
  · exact .inr (tryPush_refuses (.inl isClosed) item)
  · rcases Nat.lt_or_ge queue.items.length capacity with room | full
    · exact .inl (tryPush_accepts isOpen room item)
    · exact .inr (tryPush_refuses (.inr full) item)

/-- Closed, the queue always answers: with its first item, or with nothing left. -/
theorem waitPop_closed (isClosed : queue.closed = true) :
    queue.waitPop = some (queue.items.head?, { queue with items := queue.items.tail }) := by
  obtain ⟨items, closed⟩ := queue
  cases items with
  | nil => simpa [Queue.waitPop] using isClosed
  | cons item rest => rfl

/-- What every critical section does, whoever is in it. -/
structure Effect (queue : Queue α capacity) (call : Call τ α) (after : Queue α capacity) : Prop where
  conserved : queue.items ++ call.acceptedItem.toList = call.returnedItem.toList ++ after.items
  bounded : queue.items.length ≤ capacity → after.items.length ≤ capacity
  closed : after.closed = true ↔ queue.closed = true ∨ ∃ closer, call = .close closer
  refuses : queue.closed = true → call.acceptedItem = none

theorem step_effect {call : Call τ α} (step : (threads τ α capacity).step queue call after) :
    Effect queue call after := by
  cases call with
  | tryPush producer item answer =>
    have pushed : queue.tryPush item = (answer, after) := step
    by_cases room : queue.closed = false ∧ queue.items.length < capacity
    · rw [tryPush_accepts room.1 room.2] at pushed
      cases pushed
      refine ⟨rfl, ?_, by simp, ?_⟩
      · intro _
        rw [List.length_append, List.length_singleton]
        exact room.2
      · intro isClosed
        cases room.1.symm.trans isClosed
    · have refused : queue.closed = true ∨ capacity ≤ queue.items.length := by
        rw [Bool.eq_false_iff, not_and_or, not_not, not_lt] at room
        exact room
      rw [tryPush_refuses refused] at pushed
      cases pushed
      exact ⟨by simp [Call.acceptedItem, Call.returnedItem], id, by simp, fun _ => rfl⟩
  | waitPop consumer answer =>
    have popped : queue.waitPop = some (answer, after) := step
    obtain ⟨items, closed⟩ := queue
    cases items with
    | nil =>
      simp only [Queue.waitPop, Option.ite_none_right_eq_some, Option.some.injEq, Prod.mk.injEq] at popped
      obtain ⟨_, rfl, rfl⟩ := popped
      exact ⟨rfl, id, by simp, fun _ => rfl⟩
    | cons item rest =>
      cases popped
      refine ⟨by simp [Call.acceptedItem, Call.returnedItem], ?_, by simp, fun _ => rfl⟩
      exact Nat.le_of_succ_le
  | sleep consumer =>
    obtain ⟨_, rfl⟩ : queue.waitPop = none ∧ after = queue := step
    exact ⟨by simp [Call.acceptedItem, Call.returnedItem], id, by simp, fun _ => rfl⟩
  | close closer =>
    obtain rfl : after = queue.close := step
    exact ⟨by simp [Call.acceptedItem, Call.returnedItem, Queue.close], id, by simp [Queue.close],
      fun _ => rfl⟩

/-! ## Runs -/

theorem accepted_append (earlier more : List (Call τ α)) :
    accepted (earlier ++ more) = accepted earlier ++ accepted more :=
  List.filterMap_append

theorem returned_append (earlier more : List (Call τ α)) :
    returned (earlier ++ more) = returned earlier ++ returned more :=
  List.filterMap_append

theorem accepted_singleton (call : Call τ α) : accepted [call] = call.acceptedItem.toList := by
  cases isItem : call.acceptedItem <;> simp [accepted, isItem]

theorem returned_singleton (call : Call τ α) : returned [call] = call.returnedItem.toList := by
  cases isItem : call.returnedItem <;> simp [returned, isItem]

/-- What the calls of a run say about the queue they left. -/
structure Delivers (calls : List (Call τ α)) (queue : Queue α capacity) : Prop where
  conserved : accepted calls = returned calls ++ queue.items
  bounded : queue.items.length ≤ capacity
  closed : queue.closed = true ↔ Closed calls

theorem run_delivers {calls : List (Call τ α)} (run : (threads τ α capacity).Run calls queue) :
    Delivers calls queue := by
  refine Run.history Delivers run ?_ ?_
  · rintro _ rfl
    exact ⟨rfl, Nat.zero_le _, by simp [Closed]⟩
  · intro calls queue call after delivers step
    have effect := step_effect step
    refine ⟨?_, effect.bounded delivers.bounded, ?_⟩
    · rw [accepted_append, returned_append, accepted_singleton, returned_singleton,
        delivers.conserved, List.append_assoc, List.append_assoc, effect.conserved]
    · rw [effect.closed, delivers.closed]
      simp [Closed, exists_or, eq_comm]

/-- From any content on: what comes out is the content, then what is accepted. -/
theorem leads_conserved {more : List (Call τ α)} (leads : (threads τ α capacity).Leads queue more later) :
    queue.items ++ accepted more = returned more ++ later.items := by
  induction leads with
  | done => simp [accepted, returned]
  | @step queue after later call more taken _ ih =>
    have effect := step_effect taken
    calc queue.items ++ accepted (call :: more)
        = queue.items ++ (call.acceptedItem.toList ++ accepted more) := by
          rw [← accepted_singleton, ← accepted_append, List.singleton_append]
      _ = call.returnedItem.toList ++ (after.items ++ accepted more) := by
          rw [← List.append_assoc, effect.conserved, List.append_assoc]
      _ = returned (call :: more) ++ later.items := by
          rw [ih, ← List.append_assoc, ← returned_singleton, ← returned_append, List.singleton_append]

theorem leads_closed {more : List (Call τ α)} (isClosed : queue.closed = true)
    (leads : (threads τ α capacity).Leads queue more later) : accepted more = [] := by
  induction leads with
  | done => rfl
  | @step queue after later call more taken _ ih =>
    have effect := step_effect taken
    have stays : after.closed = true := effect.closed.mpr (.inl isClosed)
    rw [← List.singleton_append, accepted_append, accepted_singleton, effect.refuses isClosed, ih stays]
    rfl

/-- The calls by which some consumers take what is left, one item each. -/
def drain (consumers : List τ) (items : List α) : List (Call τ α) :=
  List.zipWith (fun consumer item => .waitPop consumer (some item)) consumers items

/-- As many consumers as there are items, in whatever order, empty a closed queue. -/
theorem drains {consumers : List τ} (isClosed : queue.closed = true)
    (enough : consumers.length = queue.items.length) :
    (threads τ α capacity).Leads queue (drain consumers queue.items) { queue with items := [] } := by
  induction consumers generalizing queue with
  | nil =>
    obtain ⟨items, closed⟩ := queue
    obtain rfl : items = [] := List.length_eq_zero_iff.mp enough.symm
    exact .done
  | cons consumer consumers ih =>
    obtain ⟨items, closed⟩ := queue
    cases items with
    | nil => cases enough
    | cons item rest =>
      have shorter : consumers.length = rest.length := Nat.succ.inj enough
      exact .step (waitPop_closed isClosed) (ih isClosed shorter)

/-- A closed queue keeps nobody waiting: there is an item or there will be none. -/
theorem closed_wakes (isClosed : queue.closed = true) (consumer : τ) :
    ¬(threads τ α capacity).step queue (.sleep consumer) after := by
  rintro ⟨waits, _⟩
  rw [waitPop_closed isClosed] at waits
  cases waits

/-- Nothing is returned only where nothing is left and nothing will come. -/
theorem waitPop_none {consumer : τ}
    (step : (threads τ α capacity).step queue (.waitPop consumer none) after) :
    queue.items = [] ∧ queue.closed = true := by
  have popped : queue.waitPop = some (none, after) := step
  obtain ⟨items, closed⟩ := queue
  cases items with
  | nil =>
    simp only [Queue.waitPop, Option.ite_none_right_eq_some] at popped
    exact ⟨rfl, popped.1⟩
  | cons item rest => cases popped

/-- **A bounded FIFO that drains after close.** For every item type and capacity, any
threads and any order of their critical sections: a run and whatever comes after it. -/
theorem queue_is_bounded_fifo {calls more : List (Call τ α)}
    (run : (threads τ α capacity).Run calls queue)
    (leads : (threads τ α capacity).Leads queue more later) :
    queue.items.length ≤ capacity ∧
    -- What came out is how what went in begins, and the queue holds the rest.
    returned calls <+: accepted calls ∧
    accepted calls = returned calls ++ queue.items ∧
    -- After a close nothing more goes in, what is left comes out in order, no consumer
    -- sleeps, and any consumers that ask for all of it get it.
    (Closed calls →
      accepted more = [] ∧ queue.items = returned more ++ later.items ∧
      (∀ consumer after, ¬(threads τ α capacity).step queue (.sleep consumer) after) ∧
      ∀ consumers : List τ, consumers.length = queue.items.length →
        (threads τ α capacity).Leads queue (drain consumers queue.items) { queue with items := [] }) ∧
    -- No item is the answer only when closed with every accepted item returned.
    ∀ consumer after, (threads τ α capacity).step queue (.waitPop consumer none) after →
      Closed calls ∧ returned calls = accepted calls := by
  have delivers := run_delivers run
  refine ⟨delivers.bounded, ?_, delivers.conserved, ?_, ?_⟩
  · rw [delivers.conserved]
    exact List.prefix_append _ _
  · intro closed
    have isClosed := delivers.closed.mpr closed
    have nothing := leads_closed isClosed leads
    refine ⟨nothing, ?_, fun consumer _ => closed_wakes isClosed consumer, fun _ => drains isClosed⟩
    have conserved := leads_conserved leads
    rw [nothing, List.append_nil] at conserved
    exact conserved
  · intro consumer after step
    obtain ⟨empty, isClosed⟩ := waitPop_none step
    refine ⟨delivers.closed.mp isClosed, ?_⟩
    rw [delivers.conserved, empty, List.append_nil]

/-- Two producers and two consumers on a queue of two: the third push is refused for want
of room, the fourth because of the close. -/
theorem queue_is_bounded_fifo_refusals :
    let calls : List (Call Nat Nat) := [.sleep 2, .tryPush 0 7 true, .tryPush 1 8 true,
      .tryPush 0 9 false, .waitPop 3 (some 7), .close 1]
    let more : List (Call Nat Nat) := [.tryPush 0 9 false, .waitPop 2 (some 8), .waitPop 3 none]
    returned calls <+: accepted calls ∧ accepted calls = [7, 8] ∧ accepted more = [] := by
  intro calls more
  have start : (threads Nat Nat 2).Run [] {} := .start rfl
  have first : (threads Nat Nat 2).Leads {} calls { items := [8], closed := true } :=
    .step ⟨rfl, rfl⟩ (.step rfl (.step rfl (.step rfl (.step rfl (.step rfl .done)))))
  have rest : (threads Nat Nat 2).Leads { items := [8], closed := true } more { closed := true } :=
    .step rfl (.step rfl (.step rfl .done))
  obtain ⟨_, inOrder, _, closing, _⟩ := queue_is_bounded_fifo (Run.append start first) rest
  have closed : Closed calls := ⟨1, by simp [calls]⟩
  exact ⟨inOrder, rfl, (closing closed).1⟩

end DexKnight.BoundedQueue
