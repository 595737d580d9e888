import DexKnight.Core.Websocket

/-! The pending feed (`pending_feed.cpp`): a state of its own, kept by the callbacks of
the websocket source it owns. The source calls back while it handles an event and reads
nothing of the feed, so the feed hears all of an event's notifications in order at its
end. -/
namespace DexKnight.Core.Feed
open Core.Websocket

/-- `PendingFeed::State`. -/
inductive FeedState
  | closed
  | opened
  | failed
  deriving DecidableEq, Repr

/-- `on_ws_state`: two of the five states are ignored. -/
def onWsState (feedState : FeedState) : State → FeedState
  | .stopped => .closed
  | .starting => feedState
  | .running => .opened
  | .stopping => feedState
  | .failed => .failed

/-- The three callbacks; a message leaves the state alone. -/
def hear (feedState : FeedState) : Output → FeedState
  | .message _ => feedState
  | .error _ _ => .failed
  | .state state => onWsState feedState state

structure PendingFeed where
  wsSource : WsSource
  state : FeedState := .closed
  deriving DecidableEq, Repr

/-- What happens around a feed: its three calls, and the completions and waits of its
source. Whether the lowest layer is open is the environment's answer, as for the
source. -/
inductive FeedEvent
  | opens
  | closes (isOpen : Bool)
  | reopens (isOpen : Bool)
  | completes (index : Nat) (code : ErrorCode) (answers : WsSource.Answers)
  | expires (index : Nat)
  | timer (index : Nat)
  deriving DecidableEq, Repr

namespace PendingFeed

variable (feed : PendingFeed)

/-- The source moved on; the feed heard what it published meanwhile. -/
def observe (wsSource : WsSource) : PendingFeed where
  wsSource := wsSource
  state := (wsSource.published.drop feed.wsSource.published.length).foldl hear feed.state

/-- The source handles an event, if it can happen. -/
def forward (event : WsSource.Event) : Option PendingFeed :=
  (feed.wsSource.perform event).map feed.observe

def «open» : Option PendingFeed :=
  if feed.state = .opened then some feed else feed.forward .start

def close (isOpen : Bool) : Option PendingFeed :=
  if feed.state = .closed then some feed else feed.forward (.stop isOpen)

def reopen (isOpen : Bool) : Option PendingFeed := feed.forward (.restart isOpen)

def perform : FeedEvent → Option PendingFeed
  | .opens => feed.open
  | .closes isOpen => feed.close isOpen
  | .reopens isOpen => feed.reopen isOpen
  | .completes index code answers => feed.forward (.completes index code answers)
  | .expires index => feed.forward (.expires index)
  | .timer index => feed.forward (.timer index)

end PendingFeed

end DexKnight.Core.Feed
