import Mathlib.Data.List.Perm.Subperm
import DexKnight.Core.Broadcast
import DexKnight.MempoolProofs
import DexKnight.Support.Runs

/-! What the builder's subscribers hear. Calls of `broadcast` overlap: each has its own
copy of the subscribers and stops at every send, so a message may overtake another and a
subscriber may leave or raise in between. Whatever the order, what was written to a
subscriber together with what running calls still have for it is, each exactly once, what
was published since it subscribed. -/
namespace DexKnight.Broadcasting
open Core.BlockBuilder Core.Broadcast Support.Runs MempoolProofs

variable {hub after : Hub} {websocket other : WebSocket} {sending : Sending}
  {earlier later : List Sending} {subscribers : Finset WebSocket} {raised : List WebSocket}

/-! ## What running calls still have to do -/

/-- The messages that running calls still have for a websocket. -/
def toSend (sendings : List Sending) (websocket : WebSocket) : List MempoolRecord :=
  (sendings.filter fun sending => websocket ∈ sending.remaining).map Sending.message

@[simp] theorem toSend_append (first second : List Sending) :
    toSend (first ++ second) websocket = toSend first websocket ++ toSend second websocket := by
  simp [toSend]

theorem toSend_cons_mem (member : websocket ∈ sending.remaining) :
    toSend (sending :: later) websocket = sending.message :: toSend later websocket := by
  simp [toSend, member]

theorem toSend_cons_not_mem (absent : websocket ∉ sending.remaining) :
    toSend (sending :: later) websocket = toSend later websocket := by
  simp [toSend, absent]

/-- Two calls with the same message that agree on one websocket have the same for it. -/
theorem toSend_congr {sending' : Sending} (sameMessage : sending'.message = sending.message)
    (same : websocket ∈ sending'.remaining ↔ websocket ∈ sending.remaining) :
    toSend (earlier ++ sending' :: later) websocket = toSend (earlier ++ sending :: later) websocket := by
  by_cases member : websocket ∈ sending.remaining
  · rw [toSend_append, toSend_append, toSend_cons_mem member, toSend_cons_mem (same.mpr member),
      sameMessage]
  · rw [toSend_append, toSend_append, toSend_cons_not_mem member,
      toSend_cons_not_mem fun impossible => member (same.mp impossible)]

/-- A subscriber that raised in no running call. -/
def Standing (hub : Hub) (websocket : WebSocket) : Prop :=
  websocket ∈ hub.subscribers ∧ ∀ sending ∈ hub.sendings, websocket ∉ sending.disconnected

theorem mem_disconnect_all :
    websocket ∈ raised.foldl disconnect subscribers ↔ websocket ∈ subscribers ∧ websocket ∉ raised := by
  induction raised generalizing subscribers with
  | nil => simp
  | cons first rest ih =>
    rw [List.foldl_cons, ih, disconnect, Finset.mem_erase, List.mem_cons, not_or]
    exact ⟨fun ⟨⟨differ, member⟩, absent⟩ => ⟨member, differ, absent⟩,
      fun ⟨member, differ, absent⟩ => ⟨⟨differ, member⟩, absent⟩⟩

/-! ## Where a call goes on -/

section Resume

@[simp] theorem resume_mempool : (hub.resume earlier later sending).mempool = hub.mempool := by
  unfold Hub.resume
  split <;> rfl

@[simp] theorem resume_accepting : (hub.resume earlier later sending).accepting = hub.accepting := by
  unfold Hub.resume
  split <;> rfl

@[simp] theorem resume_nextWebSocket :
    (hub.resume earlier later sending).nextWebSocket = hub.nextWebSocket := by
  unfold Hub.resume
  split <;> rfl

@[simp] theorem resume_outbox : (hub.resume earlier later sending).outbox = hub.outbox := by
  unfold Hub.resume
  split <;> rfl

@[simp] theorem resume_published : (hub.resume earlier later sending).published = hub.published := by
  unfold Hub.resume
  split <;> rfl

@[simp] theorem resume_joined : (hub.resume earlier later sending).joined = hub.joined := by
  unfold Hub.resume
  split <;> rfl

theorem resume_subscribers (member : websocket ∈ (hub.resume earlier later sending).subscribers) :
    websocket ∈ hub.subscribers := by
  unfold Hub.resume at member
  split at member
  · exact (mem_disconnect_all.mp member).1
  · exact member

theorem resume_sendings {running : Sending}
    (member : running ∈ (hub.resume earlier later sending).sendings) :
    running ∈ earlier ++ sending :: later := by
  unfold Hub.resume at member
  split at member
  · exact List.mem_append.mpr ((List.mem_append.mp member).imp id (List.mem_cons_of_mem _))
  · exact member

/-- A call that returns had nothing left to send. -/
@[simp] theorem resume_toSend : toSend (hub.resume earlier later sending).sendings websocket =
    toSend (earlier ++ sending :: later) websocket := by
  unfold Hub.resume
  split
  · next isDone =>
    rw [toSend_append, toSend_append, toSend_cons_not_mem (by simp [isDone])]
  · rfl

/-- A call that returns removes those that raised in it. -/
theorem standing_resume : Standing (hub.resume earlier later sending) websocket ↔
    websocket ∈ hub.subscribers ∧
      ∀ running ∈ earlier ++ sending :: later, websocket ∉ running.disconnected := by
  unfold Hub.resume Standing
  split
  · rw [mem_disconnect_all]
    simp only [List.mem_append, List.mem_cons]
    constructor
    · rintro ⟨⟨member, absent⟩, others⟩
      refine ⟨member, ?_⟩
      rintro running (isEarlier | rfl | isLater)
      · exact others running (.inl isEarlier)
      · exact absent
      · exact others running (.inr isLater)
    · rintro ⟨member, all⟩
      refine ⟨⟨member, all sending (.inr (.inl rfl))⟩, ?_⟩
      rintro running (isEarlier | isLater)
      · exact all running (.inl isEarlier)
      · exact all running (.inr (.inr isLater))
  · exact Iff.rfl

end Resume

section Round

variable {rest disconnected : List WebSocket} {outbox : WebSocket → List MempoolRecord}

/-- What is left for the websocket of a round is one message less. -/
theorem toSend_round_self (isNext : sending.remaining = websocket :: rest) (distinct : websocket ∉ rest) :
    toSend (earlier ++ sending :: later) websocket =
        toSend earlier websocket ++ sending.message :: toSend later websocket ∧
      toSend (earlier ++ { sending with remaining := rest, disconnected } :: later) websocket =
        toSend earlier websocket ++ toSend later websocket := by
  have member : websocket ∈ sending.remaining := by
    rw [isNext]
    exact List.mem_cons_self
  rw [toSend_append, toSend_append, toSend_cons_mem member, toSend_cons_not_mem distinct]
  exact ⟨rfl, rfl⟩

/-- For everybody else the same is left. -/
theorem toSend_round_of_ne (isNext : sending.remaining = websocket :: rest) (differ : other ≠ websocket) :
    toSend (earlier ++ { sending with remaining := rest, disconnected } :: later) other =
      toSend (earlier ++ sending :: later) other := by
  refine toSend_congr rfl ?_
  rw [isNext, List.mem_cons]
  exact ⟨.inr, fun member => member.resolve_left differ⟩

/-- A round moves a message to the outbox of its websocket, or drops it. -/
theorem served_round (isNext : sending.remaining = websocket :: rest) (distinct : websocket ∉ rest)
    (others : ∀ other, other ≠ websocket → outbox other = hub.outbox other)
    (own : outbox websocket = hub.outbox websocket ∨
      outbox websocket = hub.outbox websocket ++ [sending.message]) :
    (outbox other ++
        toSend (earlier ++ { sending with remaining := rest, disconnected } :: later) other).Subperm
      (hub.outbox other ++ toSend (earlier ++ sending :: later) other) := by
  by_cases same : other = websocket
  · subst other
    obtain ⟨before, after⟩ := toSend_round_self isNext distinct
    rw [before, after]
    rcases own with kept | written
    · rw [kept]
      exact ((List.Sublist.refl _).append
        ((List.Sublist.refl _).append (List.sublist_cons_self _ _))).subperm
    · rw [written, List.append_assoc, List.singleton_append]
      exact (List.perm_middle.symm.append_left _).subperm
  · rw [toSend_round_of_ne isNext same, others other same]

/-- Where the message was written, nothing is lost. -/
theorem served_round_perm (isNext : sending.remaining = websocket :: rest) (distinct : websocket ∉ rest)
    (others : ∀ other, other ≠ websocket → outbox other = hub.outbox other)
    (written : other = websocket → outbox websocket = hub.outbox websocket ++ [sending.message]) :
    (outbox other ++
        toSend (earlier ++ { sending with remaining := rest, disconnected } :: later) other).Perm
      (hub.outbox other ++ toSend (earlier ++ sending :: later) other) := by
  by_cases same : other = websocket
  · have isWritten := written same
    subst other
    obtain ⟨before, after⟩ := toSend_round_self isNext distinct
    rw [before, after, isWritten, List.append_assoc, List.singleton_append]
    exact List.perm_middle.symm.append_left _
  · rw [toSend_round_of_ne isNext same, others other same]

end Round

/-! ## The invariant -/

/-- `connect` is over for this websocket, one way or the other. -/
def Connected (hub : Hub) (websocket : WebSocket) : Prop :=
  websocket < hub.nextWebSocket ∧ websocket ∉ hub.accepting

/-- Each websocket is served at most once with each message, from its subscription on, and
one that stands is served with all of them. -/
structure Orderly (hub : Hub) : Prop where
  rounds : ∀ sending ∈ hub.sendings, sending.remaining.Nodup
  seated : ∀ websocket ∈ hub.subscribers, Connected hub websocket
  addressed : ∀ sending ∈ hub.sendings, ∀ websocket ∈ sending.remaining, Connected hub websocket
  accepting : hub.accepting.Nodup ∧ ∀ websocket ∈ hub.accepting, websocket < hub.nextWebSocket
  unused : ∀ websocket, ¬Connected hub websocket → hub.outbox websocket = []
  since : ∀ websocket, hub.joined websocket ≤ hub.published.length
  heard : ∀ websocket, (hub.outbox websocket ++ toSend hub.sendings websocket).Subperm
    (hub.published.drop (hub.joined websocket))
  complete : ∀ websocket, Standing hub websocket →
    (hub.outbox websocket ++ toSend hub.sendings websocket).Perm
      (hub.published.drop (hub.joined websocket))

namespace Orderly

theorem toSend_unused (orderly : Orderly hub) (unused : ¬Connected hub websocket) :
    toSend hub.sendings websocket = [] := by
  unfold toSend
  rw [List.map_eq_nil_iff, List.filter_eq_nil_iff]
  intro sending running member
  exact unused (orderly.addressed sending running websocket (by simpa using member))

theorem initially : Orderly {} where
  rounds _ impossible := by cases impossible
  seated _ impossible := by simp at impossible
  addressed _ impossible := by cases impossible
  accepting := ⟨List.nodup_nil, fun _ impossible => by cases impossible⟩
  unused _ _ := rfl
  since _ := Nat.le_refl 0
  heard _ := .refl _
  complete _ _ := .refl _

/-- A client connects: it is nobody's yet. -/
theorem connect (orderly : Orderly hub) : Orderly { hub with
    accepting := hub.nextWebSocket :: hub.accepting, nextWebSocket := hub.nextWebSocket + 1 } := by
  have later (websocket : WebSocket) : Connected { hub with
      accepting := hub.nextWebSocket :: hub.accepting, nextWebSocket := hub.nextWebSocket + 1 } websocket ↔
        Connected hub websocket := by
    unfold Connected
    dsimp only
    rw [List.mem_cons, not_or]
    constructor
    · rintro ⟨below, isOld, absent⟩
      exact ⟨Nat.lt_of_le_of_ne (Nat.le_of_lt_succ below) isOld, absent⟩
    · rintro ⟨below, absent⟩
      exact ⟨Nat.lt_succ_of_lt below, Nat.ne_of_lt below, absent⟩
  refine ⟨orderly.rounds, ?_, ?_, ⟨?_, ?_⟩, ?_, orderly.since, orderly.heard, orderly.complete⟩
  · exact fun websocket member => (later websocket).mpr (orderly.seated websocket member)
  · exact fun sending running websocket member =>
      (later websocket).mpr (orderly.addressed sending running websocket member)
  · refine List.nodup_cons.mpr ⟨fun impossible => ?_, orderly.accepting.1⟩
    exact Nat.lt_irrefl _ (orderly.accepting.2 _ impossible)
  · intro websocket member
    rcases List.mem_cons.mp member with rfl | isOld
    · exact Nat.lt_succ_self _
    · exact Nat.lt_succ_of_lt (orderly.accepting.2 websocket isOld)
  · exact fun websocket unused => orderly.unused websocket fun connected =>
      unused ((later websocket).mpr connected)

/-- `accept` is over: whoever waited for it is connected now. -/
private theorem connected_erase (orderly : Orderly hub) (waits : websocket ∈ hub.accepting)
    (subscribers : Finset WebSocket) (joined : WebSocket → Nat) (other : WebSocket) :
    Connected { hub with accepting := hub.accepting.erase websocket, subscribers, joined } other ↔
      other = websocket ∨ Connected hub other := by
  unfold Connected
  dsimp only
  rw [orderly.accepting.1.mem_erase_iff]
  by_cases same : other = websocket
  · subst other
    simpa using orderly.accepting.2 websocket waits
  · simp [same]

theorem refused (orderly : Orderly hub) (waits : websocket ∈ hub.accepting) :
    Orderly { hub with accepting := hub.accepting.erase websocket } := by
  have connected := connected_erase orderly waits hub.subscribers hub.joined
  refine ⟨orderly.rounds, ?_, ?_, ⟨orderly.accepting.1.erase _, ?_⟩, ?_, orderly.since, orderly.heard,
    orderly.complete⟩
  · exact fun other member => (connected other).mpr (.inr (orderly.seated other member))
  · exact fun sending running other member =>
      (connected other).mpr (.inr (orderly.addressed sending running other member))
  · exact fun other member => orderly.accepting.2 other (List.mem_of_mem_erase member)
  · exact fun other unused => orderly.unused other fun isConnected =>
      unused ((connected other).mpr (.inr isConnected))

/-- A websocket subscribes: nothing was written to it, and nothing was published since. -/
theorem accepted (orderly : Orderly hub) (waits : websocket ∈ hub.accepting) : Orderly { hub with
    accepting := hub.accepting.erase websocket
    subscribers := insert websocket hub.subscribers
    joined := Function.update hub.joined websocket hub.published.length } := by
  have connected := connected_erase orderly waits (insert websocket hub.subscribers)
    (Function.update hub.joined websocket hub.published.length)
  have notYet : ¬Connected hub websocket := fun impossible => impossible.2 waits
  have nothing : hub.outbox websocket ++ toSend hub.sendings websocket = [] := by
    rw [orderly.unused websocket notYet, orderly.toSend_unused notYet, List.append_nil]
  refine ⟨orderly.rounds, ?_, ?_, ⟨orderly.accepting.1.erase _, ?_⟩, ?_, ?_, ?_, ?_⟩
  · intro other member
    rcases Finset.mem_insert.mp member with same | isOld
    · exact (connected other).mpr (.inl same)
    · exact (connected other).mpr (.inr (orderly.seated other isOld))
  · exact fun sending running other member =>
      (connected other).mpr (.inr (orderly.addressed sending running other member))
  · exact fun other member => orderly.accepting.2 other (List.mem_of_mem_erase member)
  · exact fun other unused => orderly.unused other fun isConnected =>
      unused ((connected other).mpr (.inr isConnected))
  · intro other
    by_cases same : other = websocket
    · simp [same]
    · simpa [Function.update_of_ne same] using orderly.since other
  · intro other
    by_cases same : other = websocket
    · subst other
      simp [nothing]
    · simpa [Function.update_of_ne same] using orderly.heard other
  · rintro other ⟨member, stands⟩
    by_cases same : other = websocket
    · subst other
      simp [nothing]
    · have isOld : other ∈ hub.subscribers := (Finset.mem_insert.mp member).resolve_left same
      simpa [Function.update_of_ne same] using orderly.complete other ⟨isOld, stands⟩

/-- A subscriber leaves. -/
theorem disconnects (orderly : Orderly hub) : Orderly { hub with
    subscribers := disconnect hub.subscribers websocket } := by
  refine ⟨orderly.rounds, ?_, orderly.addressed, orderly.accepting, orderly.unused, orderly.since,
    orderly.heard, ?_⟩
  · exact fun other member => orderly.seated other (Finset.mem_of_mem_erase member)
  · exact fun other stands => orderly.complete other ⟨Finset.mem_of_mem_erase stands.1, stands.2⟩

/-- The mempool is not part of it. -/
theorem mempool (orderly : Orderly hub) (mempool : Mempool) : Orderly { hub with mempool } :=
  ⟨orderly.rounds, orderly.seated, orderly.addressed, orderly.accepting, orderly.unused, orderly.since,
    orderly.heard, orderly.complete⟩

private theorem connected_resume {hub : Hub} :
    Connected (hub.resume earlier later sending) websocket ↔ Connected hub websocket := by
  simp [Connected]

/-- A call of `broadcast` begins with everyone who is subscribed. -/
theorem submitted (orderly : Orderly hub) (mempool : Mempool) (record : MempoolRecord)
    {order : List WebSocket} (distinct : order.Nodup) (everyone : order.toFinset = hub.subscribers) :
    Orderly ({ hub with mempool, published := hub.published ++ [record] }.resume hub.sendings []
      { message := record, remaining := order }) := by
  have invited (websocket : WebSocket) : websocket ∈ order ↔ websocket ∈ hub.subscribers := by
    rw [← everyone, List.mem_toFinset]
  have running {sending : Sending}
      (member : sending ∈ hub.sendings ++ [{ message := record, remaining := order }]) :
      sending ∈ hub.sendings ∨ sending = { message := record, remaining := order } := by
    simpa using member
  have more (websocket : WebSocket) : (hub.published ++ [record]).drop (hub.joined websocket) =
      hub.published.drop (hub.joined websocket) ++ [record] :=
    List.drop_append_of_le_length (orderly.since websocket)
  refine ⟨?_, ?_, ?_, by simpa using orderly.accepting, ?_, ?_, ?_, ?_⟩
  · intro sending member
    rcases running (resume_sendings member) with isOld | rfl
    · exact orderly.rounds sending isOld
    · exact distinct
  · intro websocket member
    have isOld := resume_subscribers member
    exact connected_resume.mpr (orderly.seated websocket isOld)
  · intro sending member websocket isNext
    refine connected_resume.mpr ?_
    rcases running (resume_sendings member) with isOld | rfl
    · exact orderly.addressed sending isOld websocket isNext
    · exact orderly.seated websocket ((invited websocket).mp isNext)
  · intro websocket unused
    rw [resume_outbox]
    exact orderly.unused websocket fun connected => unused (connected_resume.mpr connected)
  · intro websocket
    rw [resume_joined, resume_published, List.length_append]
    exact Nat.le_add_right_of_le (orderly.since websocket)
  · intro websocket
    rw [resume_outbox, resume_toSend, resume_published, resume_joined, more, toSend_append]
    by_cases member : websocket ∈ order
    · rw [toSend_cons_mem member, ← List.append_assoc]
      exact (List.subperm_append_right _).mpr (orderly.heard websocket)
    · rw [toSend_cons_not_mem member]
      refine List.Subperm.trans ?_ (List.sublist_append_left _ [record]).subperm
      simpa [toSend] using orderly.heard websocket
  · intro websocket stands
    obtain ⟨member, others⟩ := standing_resume.mp stands
    have stood : Standing hub websocket :=
      ⟨member, fun sending isOld => others sending (List.mem_append_left _ isOld)⟩
    rw [resume_outbox, resume_toSend, resume_published, resume_joined, more, toSend_append,
      toSend_cons_mem ((invited websocket).mpr member), ← List.append_assoc]
    exact (orderly.complete websocket stood).append_right _

/-- One send is over. It was the first of what its call had left: the message went to the
outbox, or the websocket raised, or both. -/
theorem rounded (orderly : Orderly hub) {rest disconnected : List WebSocket}
    (outbox : WebSocket → List MempoolRecord) (isHub : hub.sendings = earlier ++ sending :: later)
    (isNext : sending.remaining = websocket :: rest)
    (others : ∀ other, other ≠ websocket → outbox other = hub.outbox other)
    (own : outbox websocket = hub.outbox websocket ∨
      outbox websocket = hub.outbox websocket ++ [sending.message])
    (raisedBefore : ∀ other ∈ sending.disconnected, other ∈ disconnected)
    (orRaised : outbox websocket = hub.outbox websocket ++ [sending.message] ∨
      websocket ∈ disconnected) :
    Orderly ({ hub with outbox }.resume earlier later
      { sending with remaining := rest, disconnected }) := by
  have isRunning : sending ∈ hub.sendings := by
    rw [isHub]
    exact List.mem_append_right _ List.mem_cons_self
  have distinct := orderly.rounds sending isRunning
  rw [isNext, List.nodup_cons] at distinct
  have connected : Connected hub websocket :=
    orderly.addressed sending isRunning websocket (by rw [isNext]; exact List.mem_cons_self)
  have running {other : Sending}
      (member : other ∈ earlier ++ { sending with remaining := rest, disconnected } :: later) :
      other ∈ hub.sendings ∨ other = { sending with remaining := rest, disconnected } := by
    rw [isHub, List.mem_append, List.mem_cons]
    rcases List.mem_append.mp member with isEarlier | isOther
    · exact .inl (.inl isEarlier)
    · rcases List.mem_cons.mp isOther with same | isLater
      · exact .inr same
      · exact .inl (.inr (.inr isLater))
  refine ⟨?_, ?_, ?_, by simpa using orderly.accepting, ?_, ?_, ?_, ?_⟩
  · intro other member
    rcases running (resume_sendings member) with isOld | rfl
    · exact orderly.rounds other isOld
    · exact distinct.2
  · intro other member
    have isOld := resume_subscribers member
    exact connected_resume.mpr (orderly.seated other isOld)
  · intro other member addressee isLeft
    refine connected_resume.mpr ?_
    rcases running (resume_sendings member) with isOld | rfl
    · exact orderly.addressed other isOld addressee isLeft
    · have wasLeft : addressee ∈ sending.remaining := by
        rw [isNext]
        exact List.mem_cons_of_mem _ isLeft
      exact orderly.addressed sending isRunning addressee wasLeft
  · intro other unused
    have wasUnused : ¬Connected hub other := fun isConnected => unused (connected_resume.mpr isConnected)
    have differ : other ≠ websocket := by
      rintro rfl
      exact wasUnused connected
    rw [resume_outbox]
    exact (others other differ).trans (orderly.unused other wasUnused)
  · intro other
    rw [resume_joined, resume_published]
    exact orderly.since other
  · intro other
    rw [resume_outbox, resume_toSend, resume_published, resume_joined]
    have heard := orderly.heard other
    rw [isHub] at heard
    exact (served_round isNext distinct.1 others own).trans heard
  · intro other stands
    obtain ⟨member, raisedNowhere⟩ := standing_resume.mp stands
    have stood : Standing hub other := by
      refine ⟨member, ?_⟩
      rw [isHub]
      intro call isCall impossible
      rcases List.mem_append.mp isCall with isEarlier | isOther
      · exact raisedNowhere call (List.mem_append_left _ isEarlier) impossible
      · rcases List.mem_cons.mp isOther with rfl | isLater
        · exact raisedNowhere _ (List.mem_append_right _ List.mem_cons_self)
            (raisedBefore other impossible)
        · exact raisedNowhere call (List.mem_append_right _ (List.mem_cons_of_mem _ isLater)) impossible
    have written : other = websocket →
        outbox websocket = hub.outbox websocket ++ [sending.message] := by
      rintro rfl
      exact orRaised.resolve_right (raisedNowhere _ (List.mem_append_right _ List.mem_cons_self))
    rw [resume_outbox, resume_toSend, resume_published, resume_joined]
    have complete := orderly.complete other stood
    rw [isHub] at complete
    exact (served_round_perm isNext distinct.1 others written).trans complete

end Orderly

/-! ## Steps and runs -/

/-- What a round does, for some call with a websocket left. -/
theorem round_cases {index : Nat} {raised handed : Bool}
    (rounds : hub.round index raised handed = some after) :
    ∃ sending later websocket rest, hub.sendings = hub.sendings.take index ++ sending :: later ∧
      sending.remaining = websocket :: rest ∧
      after = (if handed then hub.write websocket sending.message else hub).resume
        (hub.sendings.take index) later { sending with
          remaining := rest
          disconnected := if raised then sending.disconnected ++ [websocket]
            else sending.disconnected } := by
  unfold Hub.round at rounds
  split at rounds
  · cases rounds
  · next sending later isCall =>
    split at rounds
    · cases rounds
    · next websocket rest isNext =>
      cases rounds
      refine ⟨sending, later, websocket, rest, ?_, isNext, ?_⟩
      · rw [← isCall]
        exact (List.take_append_drop index hub.sendings).symm
      · cases handed <;> rfl

theorem round_orderly {index : Nat} {raised handed : Bool} (orderly : Orderly hub)
    (rounds : hub.round index raised handed = some after) (orRaised : handed = true ∨ raised = true) :
    Orderly after := by
  obtain ⟨sending, later, websocket, rest, isHub, isNext, rfl⟩ := round_cases rounds
  have raisedBefore : ∀ other ∈ sending.disconnected, other ∈
      if raised then sending.disconnected ++ [websocket] else sending.disconnected := by
    intro other member
    split
    · exact List.mem_append_left _ member
    · exact member
  cases handed with
  | false =>
    refine orderly.rounded hub.outbox isHub isNext (fun _ _ => rfl) (.inl rfl) raisedBefore (.inr ?_)
    rw [if_pos (orRaised.resolve_left (by decide))]
    exact List.mem_append_right _ (List.mem_singleton.mpr rfl)
  | true =>
    have written : Function.update hub.outbox websocket
        (hub.outbox websocket ++ [sending.message]) websocket =
          hub.outbox websocket ++ [sending.message] := Function.update_self ..
    exact orderly.rounded _ isHub isNext (fun other differ => Function.update_of_ne differ _ _)
      (.inr written) raisedBefore (.inl written)

theorem round_keeps {index : Nat} {raised handed : Bool}
    (rounds : hub.round index raised handed = some after) :
    after.mempool = hub.mempool ∧ after.published = hub.published := by
  obtain ⟨sending, later, websocket, rest, isHub, isNext, rfl⟩ := round_cases rounds
  rw [resume_mempool, resume_published]
  split <;> exact ⟨rfl, rfl⟩

/-- Records are published in the order of their numbers, and one that is still pending is
the one that was published. -/
structure Numbered (mempool : Mempool) (published : List MempoolRecord) : Prop where
  inOrder : published.map MempoolRecord.seqNum = List.range' 1 mempool.lastSeqNum
  ofMempool : WellNumbered mempool
  pending : ∀ record ∈ mempool.transactions, record.status = .pending → record ∈ published

namespace Numbered

variable {mempool mempool' : Mempool} {published : List MempoolRecord}

theorem added (numbered : Numbered mempool published) (transaction : Transaction) (uuid now : String) :
    Numbered (mempool.addTransaction transaction uuid now).2
      (published ++ [(mempool.addTransaction transaction uuid now).1]) where
  inOrder := by
    rw [List.map_append, numbered.inOrder]
    change _ = List.range' 1 (mempool.lastSeqNum + 1)
    rw [List.range'_1_concat, Nat.add_comm 1]
    rfl
  ofMempool := addTransaction_wellNumbered numbered.ofMempool transaction uuid now
  pending := by
    intro record member isPending
    rcases mem_setItem member with rfl | ⟨isOld, _⟩
    · exact List.mem_append_right _ (List.mem_singleton.mpr rfl)
    · exact List.mem_append_left _ (numbered.pending record isOld isPending)

theorem marked (numbered : Numbered mempool published) {mempoolTxId chainTxHash now : String}
    {status : TxStatus} {receipt : Option Core.Wire.Fields}
    (marked : mempool.markMined mempoolTxId chainTxHash status receipt now = .ok mempool') :
    Numbered mempool' published where
  inOrder := by
    obtain ⟨_, _, _, rfl⟩ := markMined_cases marked
    exact numbered.inOrder
  ofMempool := markMined_wellNumbered numbered.ofMempool marked
  pending record member isPending :=
    numbered.pending record (markMined_pending marked member isPending) isPending

end Numbered

/-- **One step.** -/
theorem perform_orderly {action : Action} (orderly : Orderly hub)
    (performed : hub.perform action = some after) : Orderly after := by
  cases action with
  | connect =>
    cases performed
    exact orderly.connect
  | accepted websocket =>
    simp only [Hub.perform] at performed
    split at performed
    · next waits =>
      cases performed
      exact orderly.accepted waits
    · cases performed
  | refused websocket =>
    simp only [Hub.perform] at performed
    split at performed
    · next waits =>
      cases performed
      exact orderly.refused waits
    · cases performed
  | disconnects websocket =>
    simp only [Hub.perform] at performed
    split at performed
    · cases performed
      exact orderly.disconnects
    · cases performed
  | submit transaction uuid now order =>
    simp only [Hub.perform] at performed
    split at performed
    · next isOrder =>
      cases performed
      exact orderly.submitted _ _ isOrder.1 isOrder.2
    · cases performed
  | sent index => exact round_orderly orderly performed (.inl rfl)
  | raised index handed => exact round_orderly orderly performed (.inr rfl)
  | markMined =>
    simp only [Hub.perform] at performed
    split at performed
    · cases performed
    · cases performed
      exact orderly.mempool _

/-- How a step can change the records: one is added and published, some are marked, or
nothing happens to them. -/
theorem perform_records {action : Action} (performed : hub.perform action = some after) :
    (∃ transaction uuid now, after.mempool = (hub.mempool.addTransaction transaction uuid now).2 ∧
        after.published =
          hub.published ++ [(hub.mempool.addTransaction transaction uuid now).1]) ∨
      (∃ mempoolTxId chainTxHash status receipt now,
        hub.mempool.markMined mempoolTxId chainTxHash status receipt now = .ok after.mempool ∧
          after.published = hub.published) ∨
      after.mempool = hub.mempool ∧ after.published = hub.published := by
  cases action with
  | connect =>
    cases performed
    exact .inr (.inr ⟨rfl, rfl⟩)
  | sent index => exact .inr (.inr (round_keeps performed))
  | raised index handed => exact .inr (.inr (round_keeps performed))
  | submit transaction uuid now order =>
    simp only [Hub.perform] at performed
    split at performed
    · cases performed
      refine .inl ⟨transaction, uuid, now, ?_, ?_⟩
      · rw [Hub.submit, resume_mempool]
      · rw [Hub.submit, resume_published]
    · cases performed
  | markMined mempoolTxId chainTxHash status receipt now =>
    simp only [Hub.perform] at performed
    split at performed
    · cases performed
    · next isMarked =>
      cases performed
      exact .inr (.inl ⟨mempoolTxId, chainTxHash, status, receipt, now, isMarked, rfl⟩)
  | accepted websocket | refused websocket | disconnects websocket =>
    simp only [Hub.perform] at performed
    split at performed
    · cases performed
      exact .inr (.inr ⟨rfl, rfl⟩)
    · cases performed

theorem perform_numbered {action : Action} (numbered : Numbered hub.mempool hub.published)
    (performed : hub.perform action = some after) : Numbered after.mempool after.published := by
  rcases perform_records performed with ⟨transaction, uuid, now, isMempool, isPublished⟩ |
    ⟨_, _, _, _, _, isMarked, isPublished⟩ | ⟨isMempool, isPublished⟩
  · rw [isMempool, isPublished]
    exact numbered.added transaction uuid now
  · rw [isPublished]
    exact numbered.marked isMarked
  · rw [isMempool, isPublished]
    exact numbered

/-- A websocket through one step: its outbox only grows, and it is served with nothing but
what it was to be served with before and what is published now. -/
def Serves (hub after : Hub) (websocket : WebSocket) : Prop :=
  hub.outbox websocket <+: after.outbox websocket ∧
    (after.outbox websocket ++ toSend after.sendings websocket).Subperm
      (hub.outbox websocket ++ toSend hub.sendings websocket ++
        after.published.drop hub.published.length)

theorem round_serves {index : Nat} {raised handed : Bool} (orderly : Orderly hub)
    (rounds : hub.round index raised handed = some after) (websocket : WebSocket) :
    Serves hub after websocket := by
  obtain ⟨sending, later, first, rest, isHub, isNext, rfl⟩ := round_cases rounds
  have distinct : first ∉ rest := by
    have rounds := orderly.rounds sending (by rw [isHub]; simp)
    rw [isNext, List.nodup_cons] at rounds
    exact rounds.1
  unfold Serves
  rw [resume_outbox, resume_toSend, resume_published]
  cases handed with
  | false =>
    refine ⟨List.prefix_refl _, ?_⟩
    refine (served_round isNext distinct (fun _ _ => rfl) (.inl rfl)).trans ?_
    rw [← isHub]
    exact (List.sublist_append_left _ _).subperm
  | true =>
    have others (other : WebSocket) (differ : other ≠ first) :
        (hub.write first sending.message).outbox other = hub.outbox other :=
      Function.update_of_ne differ _ _
    have written : (hub.write first sending.message).outbox first =
        hub.outbox first ++ [sending.message] := Function.update_self ..
    refine ⟨?_, ?_⟩
    · by_cases same : websocket = first
      · subst websocket
        exact ⟨[sending.message], written.symm⟩
      · exact (others websocket same) ▸ List.prefix_refl _
    · refine (served_round isNext distinct others (.inr written)).trans ?_
      rw [← isHub]
      exact (List.sublist_append_left _ _).subperm

theorem perform_serves {action : Action} (orderly : Orderly hub)
    (performed : hub.perform action = some after) (websocket : WebSocket) :
    Serves hub after websocket := by
  have still : Serves hub hub websocket :=
    ⟨List.prefix_refl _, (List.sublist_append_left _ _).subperm⟩
  cases action with
  | connect =>
    cases performed
    exact still
  | sent index => exact round_serves orderly performed websocket
  | raised index handed => exact round_serves orderly performed websocket
  | submit transaction uuid now order =>
    simp only [Hub.perform] at performed
    split at performed
    · next isOrder =>
      cases performed
      unfold Serves Hub.submit
      dsimp only
      rw [resume_outbox, resume_toSend, resume_published]
      dsimp only
      rw [List.drop_left, toSend_append, ← List.append_assoc]
      refine ⟨List.prefix_refl _, (List.subperm_append_left _).mpr ?_⟩
      by_cases member : websocket ∈ order
      · rw [toSend_cons_mem member]
        exact .refl _
      · rw [toSend_cons_not_mem member]
        exact (List.nil_sublist _).subperm
    · cases performed
  | accepted websocket | refused websocket | disconnects websocket =>
    simp only [Hub.perform] at performed
    split at performed
    · cases performed
      exact still
    · cases performed
  | markMined =>
    simp only [Hub.perform] at performed
    split at performed
    · cases performed
    · cases performed
      exact still

/-- The builder from its start, whatever order its coroutines take turns in. -/
def broadcasting : Machine Hub Action where
  initial hub := hub = {}
  step hub action after := hub.perform action = some after

theorem reached {actions : List Action} (run : broadcasting.Run actions hub) :
    Orderly hub ∧ Numbered hub.mempool hub.published := by
  refine Run.invariant (fun hub => Orderly hub ∧ Numbered hub.mempool hub.published) run ?_ ?_
  · rintro hub rfl
    refine ⟨.initially, rfl, empty_wellNumbered, ?_⟩
    intro _ impossible
    cases impossible
  · rintro hub action after ⟨orderly, numbered⟩ performed
    exact ⟨perform_orderly orderly performed, perform_numbered numbered performed⟩

/-- **Subscribers hear everything once.** In every interleaving of connections, broadcasts
and their sends: records are published in the order of their numbers; what was written to
a websocket and what running calls still have for it are, together, published records
from after its subscription, none of them twice; for a subscriber that raised in no running
call they are all of them, and once no call runs, it was sent each exactly once. -/
theorem subscribers_hear_everything_once {actions : List Action}
    (run : broadcasting.Run actions hub) :
    hub.published.map MempoolRecord.seqNum = List.range' 1 hub.mempool.lastSeqNum ∧
      ∀ websocket,
        (hub.outbox websocket ++ toSend hub.sendings websocket).Subperm
            (hub.published.drop (hub.joined websocket)) ∧
          (Standing hub websocket → (hub.outbox websocket ++ toSend hub.sendings websocket).Perm
            (hub.published.drop (hub.joined websocket))) ∧
          (hub.sendings = [] → websocket ∈ hub.subscribers →
            (hub.outbox websocket).Perm (hub.published.drop (hub.joined websocket))) := by
  obtain ⟨orderly, numbered⟩ := reached run
  refine ⟨numbered.inOrder, fun websocket => ⟨orderly.heard websocket, orderly.complete websocket, ?_⟩⟩
  intro idle member
  have stands : Standing hub websocket := by
    refine ⟨member, ?_⟩
    rw [idle]
    intro _ impossible
    cases impossible
  have complete := orderly.complete websocket stands
  rw [idle] at complete
  simpa [toSend] using complete

/-- Two clients subscribe; a transaction is posted, and another before the first call is
through. One message overtakes the other, and one client raises. -/
def overlappingActions : List Action :=
  let transaction : Transaction := {
    hash := none, type := none, chainId := none, nonce := "0x0", fromAddress := "0x71"
    toAddress := none, value := "0x0", gas := "0x5208", gasPrice := none, maxFeePerGas := none
    maxPriorityFeePerGas := none, input := "0x" }
  [.connect, .connect, .accepted 0, .accepted 1, .submit transaction "1" "now" [1, 0],
    .submit transaction "2" "now" [0, 1], .sent 1, .raised 1 false, .sent 0, .sent 0]

theorem subscribers_hear_everything_once_overlapping :
    ∃ hub, broadcasting.Run overlappingActions hub ∧ 1 ∉ hub.subscribers ∧
      (hub.outbox 0).map MempoolRecord.seqNum = [2, 1] ∧
      (hub.outbox 0).Perm (hub.published.drop (hub.joined 0)) := by
  have performs : (overlappingActions.foldlM Hub.perform {}).any (fun hub =>
      hub.sendings.isEmpty ∧ 0 ∈ hub.subscribers ∧ 1 ∉ hub.subscribers ∧
        (hub.outbox 0).map MempoolRecord.seqNum = [2, 1]) = true := by
    decide +kernel
  obtain ⟨hub, performed, holds⟩ := (Option.any_eq_true _ _).mp performs
  obtain ⟨idle, stays, left, heard⟩ := of_decide_eq_true holds
  have run : broadcasting.Run overlappingActions hub := by
    exact Run.append (.start rfl) (Leads.of_foldlM (fun _ _ _ taken => taken) performed)
  refine ⟨hub, run, left, heard, ?_⟩
  exact ((subscribers_hear_everything_once run).2 0).2.2 (List.isEmpty_iff.mp idle) stays

end DexKnight.Broadcasting
