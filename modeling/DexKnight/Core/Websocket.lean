import Mathlib.Tactic.Basic

/-! The websocket source (`ws_source.cpp`): five states, a flag, a counter, the operations
it began and the waits on its reconnect timer. A handler is one step, and so is a call of
`start`, `stop` or `restart`: these may come from other threads and are taken not to
overlap a handler. What `asio` and `beast` are taken to do: an operation completes once,
with an error if it was cancelled before; a wait that was cancelled runs with an error
unless its handler was queued already. -/
namespace DexKnight.Core.Websocket

inductive State
  | stopped
  | starting
  | running
  | stopping
  | failed
  deriving DecidableEq, Repr

/-- `beast::error_code`: no error, `websocket::error::closed`, or another error. -/
inductive ErrorCode
  | none
  | closed
  | other (value : Nat)
  deriving DecidableEq, Repr

/-- What was begun and has not completed. -/
inductive Operation
  | resolve
  | connect
  | tlsHandshake
  | wsHandshake
  | read
  | close
  deriving DecidableEq, Repr

structure InFlight where
  operation : Operation
  cancelled : Bool := false
  deriving DecidableEq, Repr

/-- A wait on the reconnect timer: for so many milliseconds yet, over with its handler
queued, or cancelled. -/
inductive Wait
  | armed (delay : Nat)
  | queued
  | aborted
  deriving DecidableEq, Repr

def Wait.isArmed : Wait → Bool
  | .armed _ => true
  | _ => false

/-- What the callbacks are called with. -/
inductive Output
  | message (payload : String)
  | error (code : ErrorCode) (place : String)
  | state (state : State)
  deriving DecidableEq, Repr

def kMaxReconnectAttempts : Nat := 10
def kReconnectBaseDelay : Nat := 200
def kReconnectMaxDelay : Nat := 5000

structure WsSource where
  useTls : Bool
  verifyTlsPeer : Bool
  state : State := .stopped
  restartRequested : Bool := false
  reconnectAttempts : Nat := 0
  inFlight : List InFlight := []
  waits : List Wait := []
  /-- Whether a connect was begun on the present stream: until then it is not open. -/
  connecting : Bool := false
  published : List Output := []
  deriving DecidableEq, Repr

namespace WsSource

variable (source : WsSource)

def publishMessage (payload : String) : WsSource :=
  { source with published := source.published ++ [.message payload] }

def publishError (code : ErrorCode) (place : String) : WsSource :=
  { source with published := source.published ++ [.error code place] }

def publishState (state : State) : WsSource :=
  { source with state, published := source.published ++ [.state state] }

/-- Begins an asynchronous operation. -/
def begin (operation : Operation) : WsSource :=
  { source with inFlight := source.inFlight ++ [{ operation }] }

/-- `m_reconnect_timer.cancel()`. -/
def cancelTimer : WsSource :=
  { source with waits := source.waits.map fun wait => if wait.isArmed then .aborted else wait }

/-- The resolver is cancelled, the stream closed and replaced by a fresh one. -/
def resetStream : WsSource :=
  { source with
    inFlight := source.inFlight.map fun begun => { begun with cancelled := true }
    connecting := false }

def start : WsSource :=
  let source := source.cancelTimer
  if source.state = .starting ∨ source.state = .running then source
  else
    let source := { source with restartRequested := false }
    (source.resetStream.publishState .starting).begin .resolve

/-- The delay before a reconnect: doubled up to five times, and bounded. -/
def reconnectDelay (attempt : Nat) : Nat :=
  min (kReconnectBaseDelay * (1 <<< min attempt 5)) kReconnectMaxDelay

/-- A timer that is set anew cancels the wait before. -/
def scheduleReconnect : WsSource :=
  if source.state = .stopping ∨ source.state = .stopped then source
  else if source.reconnectAttempts ≥ kMaxReconnectAttempts then source
  else
    { source with
      reconnectAttempts := source.reconnectAttempts + 1
      waits := source.cancelTimer.waits ++ [.armed (reconnectDelay source.reconnectAttempts)] }

def fail (code : ErrorCode) (place : String) : WsSource :=
  ((source.publishError code place).publishState .failed).resetStream.scheduleReconnect

/-- `close_failed`. -/
def closeFailed (code : ErrorCode) : Bool := code ≠ .none && code ≠ .closed

def onClose (code : ErrorCode) : WsSource :=
  let source :=
    if closeFailed code then
      ((source.publishError code "close").publishState .failed).scheduleReconnect
    else
      source.publishState .stopped
  let source := source.resetStream
  if source.restartRequested then { source with restartRequested := false }.start else source

/-- Whether the lowest layer is open is the environment's answer. -/
def doClose (isOpen : Bool) : WsSource :=
  if isOpen then source.begin .close else source.onClose .none

def stop (isOpen : Bool) : WsSource :=
  let source := { source with restartRequested := false }.cancelTimer
  if source.state = .stopped ∨ source.state = .stopping then source
  else (source.publishState .stopping).doClose isOpen

def restart (isOpen : Bool) : WsSource :=
  let source := { source with restartRequested := true }
  if source.state = .stopped ∨ source.state = .failed then source.resetStream.start
  else if source.state = .stopping then source
  else (source.publishState .stopping).doClose isOpen

/-! ## Completion handlers -/

/-- What else a handler learns from its environment: how the two calls that set up TLS
went, and the message in the buffer. -/
structure Answers where
  sni : ErrorCode := .none
  verifyHost : ErrorCode := .none
  payload : String := ""
  deriving DecidableEq, Repr

def onResolve (code : ErrorCode) : WsSource :=
  if code ≠ .none then source.fail code "resolve"
  else { source with connecting := true }.begin .connect

def onConnect (code : ErrorCode) (answers : Answers) : WsSource :=
  if code ≠ .none then source.fail code "connect"
  else if source.useTls = false then source.begin .wsHandshake
  else if answers.sni ≠ .none then source.fail answers.sni "tls_sni"
  else if source.verifyTlsPeer ∧ answers.verifyHost ≠ .none then
    source.fail answers.verifyHost "tls_verify_host"
  else source.begin .tlsHandshake

def onTlsHandshake (code : ErrorCode) : WsSource :=
  if code ≠ .none then source.fail code "tls_handshake"
  else source.begin .wsHandshake

def onWsHandshake (code : ErrorCode) : WsSource :=
  if code ≠ .none then source.fail code "ws_handshake"
  else ({ source with reconnectAttempts := 0 }.publishState .running).begin .read

def onRead (code : ErrorCode) (payload : String) : WsSource :=
  if code ≠ .none then source.fail code "read"
  else
    let source := source.publishMessage payload
    if source.state = .running then source.begin .read else source

def handle (operation : Operation) (code : ErrorCode) (answers : Answers) : WsSource :=
  match operation with
  | .resolve => source.onResolve code
  | .connect => source.onConnect code answers
  | .tlsHandshake => source.onTlsHandshake code
  | .wsHandshake => source.onWsHandshake code
  | .read => source.onRead code answers.payload
  | .close => source.onClose code

/-- The handler of the reconnect timer, when it runs without an error. -/
def onReconnectTimer : WsSource :=
  if source.state = .stopping ∨ source.state = .running then source else source.start

/-! ## Interleavings -/

/-- A call of the user, a completion, the end of a wait, or the handler of a wait. -/
inductive Event
  | start
  | stop (isOpen : Bool)
  | restart (isOpen : Bool)
  | completes (index : Nat) (code : ErrorCode) (answers : Answers)
  | expires (index : Nat)
  | timer (index : Nat)
  deriving DecidableEq, Repr

def perform : Event → Option WsSource
  | .start => some source.start
  | .stop isOpen => if isOpen ∧ source.connecting = false then none else some (source.stop isOpen)
  | .restart isOpen =>
    if isOpen ∧ source.connecting = false then none else some (source.restart isOpen)
  | .completes index code answers => do
    let begun ← source.inFlight[index]?
    if begun.cancelled ∧ code = .none then none
    else
      let source := { source with inFlight := source.inFlight.eraseIdx index }
      some (source.handle begun.operation code answers)
  | .expires index => do
    let wait ← source.waits[index]?
    if wait.isArmed then some { source with waits := source.waits.set index .queued } else none
  | .timer index => do
    let wait ← source.waits[index]?
    let after := { source with waits := source.waits.eraseIdx index }
    match wait with
    | .armed _ => none
    | .queued => some after.onReconnectTimer
    | .aborted => some after

end WsSource

end DexKnight.Core.Websocket
