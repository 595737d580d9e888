import Mathlib.Data.Finset.Basic
import Mathlib.Data.Finset.Dedup
import Mathlib.Logic.Function.Basic
import DexKnight.Core.BlockBuilder

/-! The builder's push side: `PendingTransactionBroadcaster` (`ws.py`), the endpoint that
subscribes to it and the one that feeds it (`app.py`). Coroutines take turns at their
awaits, so what one does between two of them is one step: a call of `broadcast` stops at
every `send_json`, and others connect, leave and broadcast meanwhile. -/
namespace DexKnight.Core.Broadcast
open Core.Wire Core.BlockBuilder

/-- A `WebSocket` object, by its identity. -/
abbrev WebSocket := Nat

/-- `PendingTransactionBroadcaster.disconnect`. -/
def disconnect (subscribers : Finset WebSocket) (websocket : WebSocket) : Finset WebSocket :=
  subscribers.erase websocket

/-- A call of `broadcast` at an await: what is left of `list(self._subscribers)`, the first
of them being sent to, and the websockets that raised. The message is that of a record as
it was when the call began. -/
structure Sending where
  message : MempoolRecord
  remaining : List WebSocket
  disconnected : List WebSocket := []

/-- The builder as its websockets see it. -/
structure Hub where
  mempool : Mempool := {}
  subscribers : Finset WebSocket := ∅
  /-- Calls of `connect` that wait for `accept`. -/
  accepting : List WebSocket := []
  sendings : List Sending := []
  nextWebSocket : WebSocket := 0
  /-- What was written to a websocket, oldest first. -/
  outbox : WebSocket → List MempoolRecord := fun _ => []
  /-- Every record a broadcast began for, oldest first. Nothing reads it. -/
  published : List MempoolRecord := []
  /-- How many of them there were when a websocket subscribed. Nothing reads it. -/
  joined : WebSocket → Nat := fun _ => 0

namespace Hub

/-- A call of `broadcast` goes on to its next await, or returns if nobody is left. -/
def resume (hub : Hub) (earlier later : List Sending) (sending : Sending) : Hub :=
  match sending.remaining with
  | [] => { hub with
      sendings := earlier ++ later
      subscribers := sending.disconnected.foldl disconnect hub.subscribers }
  | _ :: _ => { hub with sendings := earlier ++ sending :: later }

/-- `submit_public_tx` up to its first await. The order of a set is the interpreter's. -/
def submit (hub : Hub) (transaction : Transaction) (uuid now : String) (order : List WebSocket) :
    Hub :=
  let (record, mempool) := hub.mempool.addTransaction transaction uuid now
  { hub with mempool, published := hub.published ++ [record] }.resume hub.sendings []
    { message := record, remaining := order }

/-- `send_json` hands the message to its websocket. -/
def write (hub : Hub) (websocket : WebSocket) (message : MempoolRecord) : Hub :=
  { hub with outbox := Function.update hub.outbox websocket (hub.outbox websocket ++ [message]) }

/-- One round of the loop ends, for the call at this place: the await returned or raised.
One that raised may have handed its message over before. -/
def round (hub : Hub) (index : Nat) (raised handed : Bool) : Option Hub :=
  match hub.sendings.drop index with
  | [] => none
  | sending :: later =>
    match sending.remaining with
    | [] => none
    | websocket :: rest =>
      let disconnected :=
        if raised then sending.disconnected ++ [websocket] else sending.disconnected
      let hub := if handed then hub.write websocket sending.message else hub
      some (hub.resume (hub.sendings.take index) later { sending with remaining := rest, disconnected })

end Hub

/-- What happens at the builder: a client asks for `/ws/pending`, its `accept` returns or
raises, its `receive_text` raises `WebSocketDisconnect`, a transaction is posted, one
`send_json` returns or raises, and a bundle marks a record. -/
inductive Action
  | connect
  | accepted (websocket : WebSocket)
  | refused (websocket : WebSocket)
  | disconnects (websocket : WebSocket)
  | submit (transaction : Transaction) (uuid now : String) (order : List WebSocket)
  | sent (index : Nat)
  | raised (index : Nat) (handed : Bool)
  | markMined (mempoolTxId chainTxHash : String) (status : TxStatus) (receipt : Option Fields)
      (now : String)

namespace Hub

def perform (hub : Hub) : Action → Option Hub
  | .connect => some { hub with
      accepting := hub.nextWebSocket :: hub.accepting, nextWebSocket := hub.nextWebSocket + 1 }
  | .accepted websocket =>
    if websocket ∈ hub.accepting then some { hub with
      accepting := hub.accepting.erase websocket
      subscribers := insert websocket hub.subscribers
      joined := Function.update hub.joined websocket hub.published.length }
    else none
  | .refused websocket =>
    if websocket ∈ hub.accepting then
      some { hub with accepting := hub.accepting.erase websocket }
    else none
  | .disconnects websocket =>
    if websocket < hub.nextWebSocket ∧ websocket ∉ hub.accepting then
      some { hub with subscribers := disconnect hub.subscribers websocket }
    else none
  | .submit transaction uuid now order =>
    if order.Nodup ∧ order.toFinset = hub.subscribers then
      some (hub.submit transaction uuid now order)
    else none
  | .sent index => hub.round index false true
  | .raised index handed => hub.round index true handed
  | .markMined mempoolTxId chainTxHash status receipt now =>
    match hub.mempool.markMined mempoolTxId chainTxHash status receipt now with
    | .error _ => none
    | .ok mempool => some { hub with mempool }

end Hub

end DexKnight.Core.Broadcast
