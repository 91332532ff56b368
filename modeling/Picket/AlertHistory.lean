import Picket.Lib.Threads

/-!
# The history of an alert

Alerts, the rows of `alerts_history`, and the goroutines that save and delete alerts. A save carries
the record as it was loaded, and the hook that follows compares the two: a change of `triggered`
opens a row or resolves one. Each find and each save is one operation, and succeeds.
-/

namespace Picket

open Threads

structure AlertRecord where
  id : String
  system : String
  triggered : Bool
  deriving DecidableEq

structure HistoryRow where
  alertId : String
  resolved : Bool
  deriving DecidableEq

structure HistoryState where
  alerts : List AlertRecord := []
  history : List HistoryRow := []

inductive HistoryOp where
  /-- Loads the record to set it. -/
  | setAlertTriggered (id : String) (triggered : Bool)
  | saveAlert (id : String) (original triggered : Bool)
  /-- Loads the triggered alerts. -/
  | deactivateAlerts (system : String)
  /-- A request to delete the alert loads it. -/
  | findAlert (id : String)
  | deleteAlert (id : String) (triggered : Bool)
  | createAlertHistoryRecord (id : String)
  /-- Looks for a row that is not resolved. -/
  | resolveAlertHistoryRecord (id : String)
  | saveResolved (id : String) (row : ℕ)
  deriving DecidableEq

namespace HistoryState

def findAlert (s : HistoryState) (id : String) : Option AlertRecord :=
  s.alerts.find? (·.id = id)

def setTriggered (s : HistoryState) (id : String) (triggered : Bool) : HistoryState :=
  { s with
    alerts := s.alerts.map fun alert =>
      if alert.id = id then { alert with triggered := triggered } else alert }

end HistoryState

/-- The hook that follows the save of an alert. -/
def updateHistoryOnAlertUpdate (id : String) (originalTriggered newTriggered : Bool) :
    List HistoryOp :=
  if originalTriggered = newTriggered then []
  else if newTriggered then [.createAlertHistoryRecord id]
  else [.resolveAlertHistoryRecord id]

def resolveHistoryOnAlertDelete (id : String) (triggered : Bool) : List HistoryOp :=
  if !triggered then [] else [.resolveAlertHistoryRecord id]

/-- One operation. Which of several unresolved rows is found is the `choice`. -/
def HistoryOp.exec (s : HistoryState) (_ : Unit) (choice : ℕ) :
    HistoryOp → Option (Outcome HistoryState Unit HistoryOp)
  | .setAlertTriggered id triggered =>
      match s.findAlert id with
      | none => some { state := s }
      | some alert => some { state := s, ops := [.saveAlert id alert.triggered triggered] }
  | .saveAlert id original triggered =>
      some
        { state := s.setTriggered id triggered
          ops := updateHistoryOnAlertUpdate id original triggered }
  | .deactivateAlerts system =>
      let alerts := s.alerts.filter fun alert => alert.system = system ∧ alert.triggered
      some { state := s, ops := alerts.map fun alert => .saveAlert alert.id alert.triggered false }
  | .findAlert id =>
      match s.findAlert id with
      | none => some { state := s }
      | some alert => some { state := s, ops := [.deleteAlert id alert.triggered] }
  | .deleteAlert id triggered =>
      some
        { state := { s with alerts := s.alerts.filter (·.id ≠ id) }
          ops := resolveHistoryOnAlertDelete id triggered }
  | .createAlertHistoryRecord id =>
      some { state := { s with history := s.history ++ [{ alertId := id, resolved := false }] } }
  | .resolveAlertHistoryRecord id =>
      if ∀ row ∈ s.history, row.alertId = id → row.resolved then some { state := s }
      else
        match s.history[choice]? with
        | none => none
        | some row =>
            if row.alertId = id ∧ ¬ row.resolved then
              some { state := s, ops := [.saveResolved id choice] }
            else none
  | .saveResolved _ row =>
      some
        { state :=
            { s with history := s.history.modify row fun row => { row with resolved := true } } }

abbrev HistoryWorld := World HistoryState Unit HistoryOp

inductive HistoryEvent where
  | create (id system : String)
  /-- `sendSystemAlert` or a status notification starts. -/
  | sendAlert (id : String) (triggered : Bool)
  | deactivateAlerts (system : String)
  | delete (id : String)
  | run (i : ℕ) (choice : ℕ)
  deriving DecidableEq

def HistoryWorld.step (w : HistoryWorld) : HistoryEvent → Option HistoryWorld
  | .create id system =>
      match w.state.findAlert id with
      | some _ => none
      | none =>
          let alert := { id := id, system := system, triggered := false }
          some { w with state := { w.state with alerts := w.state.alerts ++ [alert] } }
  | .sendAlert id triggered => some (w.spawn ⟨(), [.setAlertTriggered id triggered]⟩)
  | .deactivateAlerts system => some (w.spawn ⟨(), [.deactivateAlerts system]⟩)
  | .delete id => some (w.spawn ⟨(), [.findAlert id]⟩)
  | .run i choice => w.turn HistoryOp.exec i choice

end Picket
