import Mathlib.Algebra.Order.Ring.Int
import Mathlib.Data.Nat.Notation
import Picket.Lib.Threads

/-!
# The agent's connection manager

The event loop, the goroutines that connect, and the connections, which report to the loop through
a channel. None of the fields is guarded by a lock: each read and each write is one operation. What
closes a connection has no operation here, since a connection may end at any time.
-/

namespace Picket

open Threads

inductive ConnectionState where
  | disconnected
  | webSocketConnected
  deriving DecidableEq

inductive ConnectionEvent where
  | webSocketConnect
  | webSocketDisconnect
  deriving DecidableEq

/-- In nanoseconds, like all times here. -/
def connectInterval : ℕ := 5 * 10 ^ 9

structure ConnectionManager where
  state : ConnectionState := .disconnected
  /-- What is in the one place of the channel. -/
  eventChan : Option ConnectionEvent := none
  /-- Whether `wsTicker` runs; it ticks as long as it does. -/
  wsTicker : Bool := false
  isConnecting : Bool := false
  /-- `wsClient != nil`. -/
  wsClient : Bool := true
  lastConnectAttempt : Option ℕ := none
  now : ℕ := 0
  /-- The connections that have yet to emit their `WebSocketConnect`, and those that have yet to
  emit their `WebSocketDisconnect`. -/
  opening : ℕ := 0
  opened : ℕ := 0
  deriving DecidableEq

/-- Who calls `connect`: a goroutine of its own, or `Start` before its loop. -/
inductive Caller where
  | goroutine
  | start
  deriving DecidableEq

inductive ConnectionOp where
  /-- `connect` sets `isConnecting`. -/
  | connect (caller : Caller)
  /-- It looks whether it has to wait, and does. -/
  | recentAttempt (caller : Caller)
  | sleep (caller : Caller) (wakeAt : ℕ)
  /-- `startWebSocketConnection` reads `State`, `wsClient` and the time of the last attempt. Where
  the loop calls it, because the ticker has ticked, there is no caller. -/
  | startWebSocketConnection (caller : Option Caller)
  | checkClient (caller : Option Caller)
  | checkLastAttempt (caller : Option Caller)
  /-- `Connect` sets that time, and dials. -/
  | setLastAttempt (caller : Option Caller)
  | dial (caller : Option Caller)
  /-- After an error that ends the process. -/
  | osExit (caller : Caller)
  | startWsTicker (caller : Caller)
  /-- The deferred reset of `isConnecting`. -/
  | connectDone (caller : Caller)
  /-- The event loop. -/
  | select
  | handleEvent (event : ConnectionEvent)
  | handleStateChange (newState : ConnectionState)
  | setState (newState : ConnectionState)
  /-- The rest of `handleStateChange` for a connection that is up. -/
  | stopWsTicker
  | resetConnecting
  /-- The rest of it for one that is lost. -/
  | checkConnecting
  | setConnecting
  | goConnect
  deriving DecidableEq

/-- Which case `select` takes, and how dialing ends. -/
inductive ConnectionChoice where
  | event
  | tick
  | success
  | failure
  /-- A failure for which `shouldExitOnErr` is true. -/
  | fatal
  deriving DecidableEq

namespace ConnectionManager

/-- `time.Since(lastConnectAttempt) < 5*time.Second`; at first that is the zero time. -/
def Recent (c : ConnectionManager) : Prop :=
  ∃ t ∈ c.lastConnectAttempt, c.now - t < connectInterval

instance (c : ConnectionManager) : Decidable c.Recent :=
  inferInstanceAs (Decidable (∃ t ∈ c.lastConnectAttempt, _))

end ConnectionManager

/-- What follows an attempt; the loop ignores its error. -/
def afterAttempt (next : Caller → ConnectionOp) : Option Caller → List ConnectionOp
  | none => [.select]
  | some caller => [next caller]

def ConnectionOp.exec (c : ConnectionManager) (_ : Unit) (choice : ConnectionChoice) :
    ConnectionOp → Option (Outcome ConnectionManager Unit ConnectionOp)
  | .connect caller =>
      some { state := { c with isConnecting := true }, ops := [.recentAttempt caller] }
  | .recentAttempt caller =>
      if c.wsClient ∧ c.Recent then
        some { state := c, ops := [.sleep caller (c.now + connectInterval)] }
      else some { state := c, ops := [.startWebSocketConnection (some caller)] }
  | .sleep caller wakeAt =>
      if wakeAt ≤ c.now then some { state := c, ops := [.startWebSocketConnection (some caller)] }
      else none
  | .startWebSocketConnection caller =>
      if c.state ≠ .disconnected then some { state := c, ops := afterAttempt .startWsTicker caller }
      else some { state := c, ops := [.checkClient caller] }
  | .checkClient caller =>
      if ¬ c.wsClient then some { state := c, ops := afterAttempt .startWsTicker caller }
      else some { state := c, ops := [.checkLastAttempt caller] }
  | .checkLastAttempt caller =>
      if c.Recent then some { state := c, ops := afterAttempt .startWsTicker caller }
      else some { state := c, ops := [.setLastAttempt caller] }
  | .setLastAttempt caller =>
      some { state := { c with lastConnectAttempt := some c.now }, ops := [.dial caller] }
  | .dial caller =>
      if choice = .success then
        some
          { state := { c with opening := c.opening + 1 }
            ops := afterAttempt .connectDone caller }
      else if choice = .failure then some { state := c, ops := afterAttempt .startWsTicker caller }
      else if choice = .fatal then some { state := c, ops := afterAttempt .osExit caller }
      else none
  -- what follows is `os.Exit`, and no state of the process any more
  | .osExit _ => none
  | .startWsTicker caller =>
      some { state := { c with wsTicker := true }, ops := [.connectDone caller] }
  | .connectDone caller =>
      some
        { state := { c with isConnecting := false }
          ops := if caller = .goroutine then [] else [.select] }
  | .select =>
      if choice = .event then
        match c.eventChan with
        | none => none
        | some event => some { state := { c with eventChan := none }, ops := [.handleEvent event] }
      else if choice = .tick ∧ c.wsTicker then
        some { state := c, ops := [.startWebSocketConnection none] }
      else none
  | .handleEvent event =>
      if event = .webSocketConnect then
        some { state := c, ops := [.handleStateChange .webSocketConnected] }
      else if c.state = .webSocketConnected then
        some { state := c, ops := [.handleStateChange .disconnected] }
      else some { state := c, ops := [.select] }
  | .handleStateChange newState =>
      if c.state = newState then some { state := c, ops := [.select] }
      else some { state := c, ops := [.setState newState] }
  | .setState newState =>
      some
        { state := { c with state := newState }
          ops := if newState = .disconnected then [.checkConnecting] else [.stopWsTicker] }
  | .stopWsTicker => some { state := { c with wsTicker := false }, ops := [.resetConnecting] }
  | .resetConnecting => some { state := { c with isConnecting := false }, ops := [.select] }
  | .checkConnecting =>
      -- already handling reconnection, or so it seems
      if c.isConnecting then some { state := c, ops := [.select] }
      else some { state := c, ops := [.setConnecting] }
  | .setConnecting => some { state := { c with isConnecting := true }, ops := [.goConnect] }
  | .goConnect =>
      some { state := c, ops := [.select], spawned := [⟨(), [.connect .goroutine]⟩] }

abbrev ConnectionWorld := World ConnectionManager Unit ConnectionOp

inductive AgentEvent where
  /-- A connection emits its `WebSocketConnect` into the channel, or its `WebSocketDisconnect`. -/
  | onOpen
  | onClose
  | elapse (duration : ℕ)
  | run (i : ℕ) (choice : ConnectionChoice)
  deriving DecidableEq

namespace ConnectionWorld

/-- `Start` has made its channel and started the ticker, and calls `connect`. -/
def init (wsClient : Bool) : ConnectionWorld where
  state := { wsClient, wsTicker := true }
  threads := [⟨(), [.connect .start]⟩]

def step (w : ConnectionWorld) : AgentEvent → Option ConnectionWorld
  | .onOpen =>
      if 0 < w.state.opening ∧ w.state.eventChan = none then
        some
          { w with
            state :=
              { w.state with
                eventChan := some .webSocketConnect
                opening := w.state.opening - 1
                opened := w.state.opened + 1 } }
      else none
  | .onClose =>
      if 0 < w.state.opened ∧ w.state.eventChan = none then
        some
          { w with
            state :=
              { w.state with
                eventChan := some .webSocketDisconnect
                opened := w.state.opened - 1 } }
      else none
  | .elapse duration => some { w with state := { w.state with now := w.state.now + duration } }
  | .run i choice => w.turn ConnectionOp.exec i choice

end ConnectionWorld

end Picket
