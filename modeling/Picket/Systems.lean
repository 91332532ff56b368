import Mathlib.Logic.Function.Basic
import Picket.Lib.Threads

/-!
# The system manager

One `systems` record: its status in the database, the `System` the manager holds for it, and the
goroutines that work on it. A goroutine belongs to the `System` whose updater or update it is, or
to none; each of its operations touches the shared state once.
-/

namespace Picket

open Threads

inductive Status where
  | up
  | down
  | paused
  | pending
  deriving DecidableEq

/-- A `System`. Replaced ones live on as long as a goroutine refers to them. -/
structure System where
  status : Status := .pending
  /-- `WsConn != nil`. -/
  wsConn : Bool := false
  /-- `WsConn.IsConnected()`. -/
  isConnected : Bool := false
  /-- `ctx.Err() != nil`. -/
  cancelled : Bool := false
  deriving DecidableEq

/-- What an operation did to the database or to the manager. -/
inductive Effect where
  | wroteRecord
  | removed (victim : Option ℕ)
  deriving DecidableEq

/-- An effect, the `System` whose goroutine it was, and whether that was cancelled already. -/
structure Logged where
  owner : Option ℕ
  late : Bool
  effect : Effect
  deriving DecidableEq

/-- The shared state. A `System` is known by the order of its creation. -/
structure Hub where
  /-- The stored status, if there is a record. -/
  record : Option Status := none
  /-- The `System` in `sm.systems`. -/
  store : Option ℕ := none
  sys : ℕ → System := fun _ => {}
  created : ℕ := 0
  /-- The status that a client set last, kept for the record only. -/
  lastSet : Option Status := none
  /-- All effects so far, kept for the record only. -/
  log : List Logged := []

/-- The operations. `r`, `v` are `System`s; `caller` is the updater that calls `setDown` if the
operation fails. -/
inductive Op where
  /-- The first lines of `StartUpdater`. -/
  | startUpdater (r : ℕ)
  /-- The `select` of `StartUpdater`. -/
  | select (r : ℕ)
  /-- `update` reads the status. -/
  | update (r : ℕ) (caller : Option ℕ)
  /-- `fetchDataViaWebSocket` sends its request. -/
  | fetchData (r : ℕ) (caller : Option ℕ)
  /-- It waits for the response. -/
  | response (r : ℕ) (caller : Option ℕ)
  /-- `createRecords` reads the record. -/
  | createRecords (r : ℕ) (caller : Option ℕ)
  /-- Its transaction. -/
  | saveUp (r : ℕ) (caller : Option ℕ)
  /-- `setDown` reads the status. -/
  | setDown (r : ℕ)
  /-- It reads the record. -/
  | setDownRecord (r : ℕ)
  /-- It saves the record. -/
  | saveDown (r : ℕ)
  | handlePaused (r : ℕ)
  /-- `RemoveSystem` looks the `System` up; the next three are what it then does. -/
  | removeSystem
  | cancel (v : ℕ)
  | closeWebSocketConnection (v : ℕ)
  | remove (v : ℕ)
  /-- `onRecordAfterUpdateSuccess` looks the `System` up. -/
  | afterUpdate (status : Status) (tokenChanged : Bool) (caller : Option ℕ)
  /-- It sets the status in memory and goes on with the `System` it found. -/
  | setStatus (r : ℕ) (status : Status) (tokenChanged : Bool)
  /-- `AddRecord(record, nil)`. -/
  | addRecordNil (caller : Option ℕ)
  /-- `AddWebSocketSystem` reads the record. -/
  | addWebSocketSystem
  /-- `AddRecord` with the new `System`. -/
  | addRecord (r : ℕ)
  /-- `AddSystem` looks whether there is one. -/
  | addSystem (r : ℕ)
  /-- It stores the new one. -/
  | storeSystem (r : ℕ)
  deriving DecidableEq

/-- How an operation goes on where that is not up to the shared state: whether a database access or
a message succeeds, and which case `select` takes. -/
inductive Choice where
  | ok
  | fail
  | done
  | tick
  | down
  deriving DecidableEq

namespace Hub

def modify (hub : Hub) (r : ℕ) (f : System → System) : Hub :=
  { hub with sys := Function.update hub.sys r (f (hub.sys r)) }

def late (hub : Hub) (owner : Option ℕ) : Bool :=
  owner.elim false fun r => (hub.sys r).cancelled

def note (hub : Hub) (owner : Option ℕ) (effect : Effect) : Hub :=
  { hub with log := ⟨owner, hub.late owner, effect⟩ :: hub.log }

/-- `record.Set("status", status)` and a save. Saving a deleted record changes nothing. -/
def saveStatus (hub : Hub) (status : Status) : Hub :=
  { hub with record := hub.record.map fun _ => status }

end Hub

/-- `if err := sys.update(); err != nil { _ = sys.setDown(err) }`, once there is an error. -/
def onError : Option ℕ → List Op
  | none => []
  | some r => [.setDown r]

def Op.exec (hub : Hub) (owner : Option ℕ) (choice : Choice) :
    Op → Option (Outcome Hub (Option ℕ) Op)
  | .startUpdater r =>
      if (hub.sys r).status ≠ .paused ∧ ¬ (hub.sys r).cancelled then
        some { state := hub, ops := [.update r (some r)] }
      else some { state := hub }
  | .select r =>
      match choice with
      | .done => if (hub.sys r).cancelled then some { state := hub } else none
      | .tick => some { state := hub, ops := [.update r (some r), .select r] }
      | .down =>
          if (hub.sys r).wsConn ∧ ¬ (hub.sys r).isConnected then
            some
              { state := hub.modify r fun sys => { sys with wsConn := false }
                ops := [.setDown r, .select r] }
          else none
      | _ => none
  | .update r caller =>
      if (hub.sys r).status = .paused then some { state := hub, ops := [.handlePaused r] }
      else some { state := hub, ops := [.fetchData r caller] }
  | .fetchData r caller =>
      if (hub.sys r).wsConn ∧ (hub.sys r).isConnected ∧ choice = .ok then
        some { state := hub, ops := [.response r caller] }
      else some { state := hub, ops := onError caller }
  | .response r caller =>
      if choice = .ok then some { state := hub, ops := [.createRecords r caller] }
      else some { state := hub, ops := onError caller }
  | .createRecords r caller =>
      if hub.record.isSome ∧ choice = .ok then some { state := hub, ops := [.saveUp r caller] }
      else some { state := hub, ops := .removeSystem :: onError caller }
  | .saveUp _ caller =>
      if choice = .ok then
        some
          { state := (hub.note owner .wroteRecord).saveStatus .up
            ops := [.afterUpdate .up false caller] }
      else some { state := hub, ops := onError caller }
  | .setDown r =>
      if (hub.sys r).status = .down ∨ (hub.sys r).status = .paused then some { state := hub }
      else some { state := hub, ops := [.setDownRecord r] }
  | .setDownRecord r =>
      if hub.record.isSome ∧ choice = .ok then some { state := hub, ops := [.saveDown r] }
      else some { state := hub, ops := [.removeSystem] }
  | .saveDown _ =>
      if choice = .ok then
        some
          { state := (hub.note owner .wroteRecord).saveStatus .down
            ops := [.afterUpdate .down false none] }
      else some { state := hub }
  | .handlePaused r =>
      -- without a connection, or when the ping fails
      if (hub.sys r).wsConn ∧ (hub.sys r).isConnected ∧ choice = .ok then some { state := hub }
      else some { state := hub, ops := [.removeSystem] }
  | .removeSystem =>
      match hub.store with
      | none => some { state := hub }
      | some v => some { state := hub, ops := [.cancel v, .closeWebSocketConnection v, .remove v] }
  | .cancel v => some { state := hub.modify v fun sys => { sys with cancelled := true } }
  | .closeWebSocketConnection v =>
      some { state := hub.modify v fun sys => { sys with isConnected := false } }
  | .remove _ =>
      -- by its id, whichever `System` is there by now
      some { state := { hub.note owner (.removed hub.store) with store := none } }
  | .afterUpdate status tokenChanged caller =>
      match hub.store with
      | some r => some { state := hub, ops := [.setStatus r status tokenChanged] }
      | none =>
          if status = .up ∨ status = .down then some { state := hub, ops := [.addRecordNil caller] }
          else some { state := hub }
  | .setStatus r status tokenChanged =>
      let hub' := hub.modify r fun sys => { sys with status }
      if tokenChanged then some { state := hub', ops := [.setDown r, .removeSystem] }
      else if status = .paused then
        some { state := hub', ops := [.closeWebSocketConnection r] }
      else if status = .pending ∧ (hub.sys r).wsConn then
        some { state := hub', spawned := [⟨some r, [.update r none]⟩] }
      else some { state := hub' }
  | .addRecordNil caller =>
      -- `AddSystem` refuses a `System` without a connection, so this is an error in any case
      if hub.store.isSome then some { state := hub, ops := .removeSystem :: onError caller }
      else some { state := hub, ops := onError caller }
  | .addWebSocketSystem =>
      match hub.record with
      | none => some { state := hub }
      | some status =>
          let sys : System := { status, wsConn := true, isConnected := true }
          some
            { state :=
                { hub with
                  sys := Function.update hub.sys hub.created sys
                  created := hub.created + 1 }
              ops := [.addRecord hub.created] }
  | .addRecord r =>
      if hub.store.isSome then some { state := hub, ops := [.removeSystem, .addSystem r] }
      else some { state := hub, ops := [.addSystem r] }
  | .addSystem r =>
      -- `errSystemExists` makes `handleAgentConnect` close the connection
      if hub.store.isSome then some { state := hub, ops := [.closeWebSocketConnection r] }
      else some { state := hub, ops := [.storeSystem r] }
  | .storeSystem r =>
      some
        { state := { hub with store := some r }
          spawned := [⟨some r, [.startUpdater r, .select r]⟩] }

abbrev Manager := World Hub (Option ℕ) Op

inductive Event where
  | create
  /-- A client saves the record with this status, and perhaps a new token. -/
  | save (status : Status) (tokenChanged : Bool)
  | delete
  /-- An agent connects with the token of the record. -/
  | agentConnect
  | connectionLost (r : ℕ)
  /-- A goroutine does its next operation. -/
  | run (i : ℕ) (choice : Choice)
  deriving DecidableEq

namespace Manager

def init : Manager := { state := {} }

/-- A goroutine of a request, after what it has done already. -/
def request (w : Manager) (hub : Hub) (op : Op) : Manager :=
  World.spawn { w with state := hub } ⟨none, [op]⟩

def step (w : Manager) : Event → Option Manager
  | .create =>
      if w.state.record = none then
        some { w with state := { w.state with record := some .pending, lastSet := none } }
      else none
  | .save status tokenChanged =>
      if w.state.record.isSome then
        some (w.request { w.state with record := some status, lastSet := some status }
          (.afterUpdate status tokenChanged none))
      else none
  | .delete =>
      if w.state.record.isSome then
        some (w.request { w.state with record := none, lastSet := none } .removeSystem)
      else none
  | .agentConnect => some (w.request w.state .addWebSocketSystem)
  | .connectionLost r =>
      some { w with state := w.state.modify r fun sys => { sys with isConnected := false } }
  | .run i choice => w.turn Op.exec i choice

end Manager

end Picket
