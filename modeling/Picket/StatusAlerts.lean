import Mathlib.Data.List.Perm.Basic
import Mathlib.Logic.Function.Basic
import Picket.Systems

/-!
# Alerts and the status of their system

One system, its alerts, and the goroutines that trigger and resolve them: the hooks of status
updates, the timers of pending status alerts, `sendSystemAlert` and the start of the hub. Each
database access, each access to `pendingAlerts` and each read of the cache is one operation, and
succeeds. The cache follows every save of an alert, so that both are one state.
-/

namespace Picket

open Threads

structure Alert where
  id : String
  name : String
  deriving DecidableEq

/-- The `System` that the manager holds. -/
structure Monitored where
  status : Status
  wsConn : Bool
  deriving DecidableEq

structure AlertState where
  status : Status := .pending
  system : Option Monitored := none
  alerts : List Alert
  triggered : String → Bool := fun _ => false
  /-- The keys of `pendingAlerts` that are alerts of the system. -/
  pendingAlerts : String → Bool := fun _ => false

inductive AlertOp where
  /-- Reads the triggered alerts. -/
  | deactivateAlerts
  /-- Ranges over `pendingAlerts`. -/
  | cancelPendingStatusAlerts
  /-- One turn of that; a key that was not `seen` at its start may be left out. -/
  | cancelPendingAlert (id : String) (seen : Bool)
  /-- Reads the cached alerts that are not status alerts. -/
  | handleSystemAlerts
  /-- Compares the values with the threshold of one of them. -/
  | evaluate (id : String) (triggered : Bool)
  /-- Reads the cached status alerts. -/
  | handleStatusAlerts (newStatus : Status)
  | schedulePendingStatusAlert (id : String)
  /-- One turn of `handleSystemUp`. -/
  | handleSystemUp (id : String) (triggered : Bool)
  | processPendingAlert (id : String)
  /-- Its `Refresh`. -/
  | refresh (id : String)
  /-- `setAlertTriggered` reads the record, and saves it. -/
  | setAlertTriggered (id : String) (triggered : Bool)
  | saveAlert (id : String) (triggered : Bool)
  | resolveStatusAlerts
  | restorePendingStatusAlerts
  /-- One turn of that. -/
  | getAlert (id : String)
  /-- `setDown` reads the system record, and saves it. -/
  | setDown
  | saveDown
  | removeSystem
  /-- `AddWebSocketSystem` reads the system record. -/
  | addWebSocketSystem
  | addSystem (status : Status)
  deriving DecidableEq

namespace AlertState

def setTriggered (s : AlertState) (id : String) (triggered : Bool) : AlertState :=
  { s with triggered := Function.update s.triggered id triggered }

def setPending (s : AlertState) (id : String) (pending : Bool) : AlertState :=
  { s with pendingAlerts := Function.update s.pendingAlerts id pending }

def statusAlerts (s : AlertState) : List Alert :=
  s.alerts.filter (·.name = "Status")

/-- The system record is saved with a new status; `onRecordAfterUpdateSuccess` looks up the `System`
and sets its status, and then has these operations to do. -/
def update (s : AlertState) (newStatus : Status) (tokenChanged : Bool) :
    AlertState × List AlertOp :=
  match s.system with
  | none =>
      ({ s with status := newStatus },
        match newStatus with
        | .paused => [.deactivateAlerts, .cancelPendingStatusAlerts]
        | .pending => [.deactivateAlerts]
        -- `AddRecord` fails
        | _ => [])
  | some system =>
      let s' := { s with status := newStatus, system := some { system with status := newStatus } }
      if tokenChanged then
        (s', if newStatus = .down ∨ newStatus = .paused then [.removeSystem]
          else [.setDown, .removeSystem])
      else
        (s',
          match newStatus with
          | .paused => [.deactivateAlerts, .cancelPendingStatusAlerts]
          | .pending => if system.wsConn then [] else [.deactivateAlerts]
          | .up =>
              if system.status = .down then [.handleSystemAlerts, .handleStatusAlerts .up]
              else [.handleSystemAlerts]
          | .down => if system.status = .up then [.handleStatusAlerts .down] else [])

end AlertState

/-- One operation. The `choice` is whether an alert has to change, or whether a key is found. -/
def AlertOp.exec (s : AlertState) (_ : Unit) (choice : Bool) :
    AlertOp → Option (Outcome AlertState Unit AlertOp)
  | .deactivateAlerts =>
      let alerts := s.alerts.filter fun alert => s.triggered alert.id
      some { state := s, ops := alerts.map fun alert => .saveAlert alert.id false }
  | .cancelPendingStatusAlerts =>
      some
        { state := s
          ops := s.alerts.map fun alert => .cancelPendingAlert alert.id (s.pendingAlerts alert.id) }
  | .cancelPendingAlert id seen =>
      if seen ∨ choice then some { state := s.setPending id false } else some { state := s }
  | .handleSystemAlerts =>
      let alerts := s.alerts.filter (·.name ≠ "Status")
      some { state := s, ops := alerts.map fun alert => .evaluate alert.id (s.triggered alert.id) }
  | .evaluate id triggered =>
      -- `go am.sendSystemAlert(alert)`
      if choice then some { state := s, spawned := [⟨(), [.setAlertTriggered id !triggered]⟩] }
      else some { state := s }
  | .handleStatusAlerts newStatus =>
      match newStatus with
      | .down =>
          some
            { state := s
              ops := s.statusAlerts.map fun alert => .schedulePendingStatusAlert alert.id }
      | .up =>
          some
            { state := s
              ops := s.statusAlerts.map fun alert =>
                .handleSystemUp alert.id (s.triggered alert.id) }
      | _ => some { state := s }
  | .schedulePendingStatusAlert id => some { state := s.setPending id true }
  | .handleSystemUp id triggered =>
      if s.pendingAlerts id then some { state := s.setPending id false }
      else if triggered then some { state := s, ops := [.setAlertTriggered id false] }
      else some { state := s }
  | .processPendingAlert id =>
      if s.pendingAlerts id then some { state := s.setPending id false, ops := [.refresh id] }
      else some { state := s }
  | .refresh id =>
      if s.triggered id then some { state := s }
      else some { state := s, ops := [.setAlertTriggered id true] }
  | .setAlertTriggered id triggered => some { state := s, ops := [.saveAlert id triggered] }
  | .saveAlert id triggered => some { state := s.setTriggered id triggered }
  | .resolveStatusAlerts =>
      if s.status = .up then
        let alerts := s.statusAlerts.filter fun alert => s.triggered alert.id
        some { state := s, ops := alerts.map fun alert => .setAlertTriggered alert.id false }
      else some { state := s }
  | .restorePendingStatusAlerts =>
      if s.status = .down then
        let alerts := s.statusAlerts.filter fun alert => !s.triggered alert.id
        some { state := s, ops := alerts.map fun alert => .getAlert alert.id }
      else some { state := s }
  | .getAlert id => some { state := s, ops := [.schedulePendingStatusAlert id] }
  | .setDown => some { state := s, ops := [.saveDown] }
  | .saveDown => some { state := (s.update .down false).1, ops := (s.update .down false).2 }
  | .removeSystem => some { state := { s with system := none } }
  | .addWebSocketSystem => some { state := s, ops := [.addSystem s.status] }
  | .addSystem status => some { state := { s with system := some { status, wsConn := true } } }

abbrev AlertWorld := World AlertState Unit AlertOp

inductive AlertEvent where
  /-- The system record is saved with this status, by a client or by an update. -/
  | update (status : Status) (tokenChanged : Bool)
  /-- The timer of an alert fires. -/
  | fire (id : String)
  | restart
  | agentConnect
  /-- An updater notices that its connection is lost. -/
  | connectionLost
  /-- An updater removes the `System`. -/
  | removeSystem
  /-- The cache is a map, which is read in any order. -/
  | reorder (alerts : List Alert)
  | run (i : ℕ) (choice : Bool)
  deriving DecidableEq

namespace AlertWorld

def init (alerts : List Alert) : AlertWorld := { state := { alerts } }

def update (w : AlertWorld) (status : Status) (tokenChanged : Bool) : AlertWorld :=
  let (s, ops) := w.state.update status tokenChanged
  World.spawn { w with state := s } ⟨(), ops⟩

def step (w : AlertWorld) : AlertEvent → Option AlertWorld
  | .update status tokenChanged => some (w.update status tokenChanged)
  | .fire id => some (w.spawn ⟨(), [.processPendingAlert id]⟩)
  | .restart =>
      -- what is in memory is lost
      some
        { state := { w.state with system := none, pendingAlerts := fun _ => false }
          threads := [⟨(), [.resolveStatusAlerts, .restorePendingStatusAlerts]⟩] }
  | .agentConnect => some (w.spawn ⟨(), [.addWebSocketSystem]⟩)
  | .connectionLost =>
      let system := w.state.system.map fun system => { system with wsConn := false }
      some { w with state := { w.state with system } }
  | .removeSystem => some { w with state := { w.state with system := none } }
  | .reorder alerts =>
      if alerts.Perm w.state.alerts then some { w with state := { w.state with alerts } } else none
  | .run i choice => w.turn AlertOp.exec i choice

end AlertWorld

end Picket
