import Picket.AlertWindow
import Picket.Lib.AssocList
import Picket.Lib.Threads
import Picket.Systems

/-!
# The timers of pending status alerts

One system, its status alerts and the timers that delay their `down` notifications. An entry of
`pendingAlerts` is a pointer to an `alertInfo`; its timer is started after it has been stored, and
the pointer to the timer is set after that. A timer that fires starts its callback, which knows the
id of the alert only. Each access to `pendingAlerts`, to the clock, to the cache and to a timer is
one operation. Times are in milliseconds.
-/

namespace Picket

open Threads AssocList

inductive Timer where
  | running
  | stopped
  | fired
  deriving DecidableEq

structure AlertInfo where
  alertId : String
  expireTime : ℤ
  /-- The timer that `AfterFunc` has started. -/
  started : Option Timer := none
  /-- The field `timer` has been set to it. -/
  timerSet : Bool := false
  /-- The start of the outage in which it was created. -/
  outage : Option ℤ
  deriving DecidableEq

structure Notification where
  status : Status
  alertId : String
  time : ℤ
  /-- The start of the outage in progress. -/
  outage : Option ℤ
  deriving DecidableEq

structure TimerState where
  now : ℤ := 0
  /-- The start of the outage in progress. -/
  outage : Option ℤ := none
  /-- Minutes of delay an alert asks for. -/
  min : String → Uint8
  alerts : List String
  triggered : String → Bool := fun _ => false
  infos : List AlertInfo := []
  pendingAlerts : List (String × ℕ) := []
  sent : List Notification := []

/-- `max(1, int(alertData.Min))` minutes. -/
def TimerState.delay (s : TimerState) (id : String) : ℤ :=
  max 1 (s.min id).val * minute

inductive TimerOp where
  | handleStatusAlerts (newStatus : Status)
  /-- Reads the clock. -/
  | schedulePendingStatusAlert (id : String)
  | loadOrStore (id : String) (expireTime : ℤ) (outage : Option ℤ)
  | afterFunc (ref : ℕ)
  | setTimer (ref : ℕ)
  | handleSystemUp (id : String) (triggered : Bool)
  | cancelPendingStatusAlerts
  | cancelPendingAlert (id : String)
  | stopTimer (ref : ℕ)
  /-- The callback of the timer of `ref`. -/
  | processPendingAlert (id : String) (ref : ℕ)
  | refresh (id : String)
  /-- `setAlertTriggered`, then `SendAlert`. -/
  | sendStatusAlert (alertStatus : Status) (id : String)
  | sendAlert (alertStatus : Status) (id : String)
  deriving DecidableEq

/-- One operation; the `choice` is whether the alert can be saved. -/
def TimerOp.exec (s : TimerState) (_ : Unit) (choice : Bool) :
    TimerOp → Option (Outcome TimerState Unit TimerOp)
  | .handleStatusAlerts newStatus =>
      if newStatus = .down then
        some { state := s, ops := s.alerts.map .schedulePendingStatusAlert }
      else if newStatus = .up then
        some { state := s, ops := s.alerts.map fun id => .handleSystemUp id (s.triggered id) }
      else some { state := s }
  | .schedulePendingStatusAlert id =>
      some { state := s, ops := [.loadOrStore id (s.now + s.delay id) s.outage] }
  | .loadOrStore id expireTime outage =>
      match s.pendingAlerts.lookup id with
      | some _ => some { state := s }
      | none =>
          some
            { state :=
                { s with
                  infos :=
                    s.infos ++ [{ alertId := id, expireTime := expireTime, outage := outage }]
                  pendingAlerts := insert id s.infos.length s.pendingAlerts }
              ops := [.afterFunc s.infos.length, .setTimer s.infos.length] }
  | .afterFunc ref =>
      some
        { state :=
            { s with
              infos := s.infos.modify ref fun info => { info with started := some .running } } }
  | .setTimer ref =>
      some
        { state :=
            { s with infos := s.infos.modify ref fun info => { info with timerSet := true } } }
  | .handleSystemUp id triggered =>
      match s.pendingAlerts.lookup id with
      | some ref =>
          some
            { state := { s with pendingAlerts := delete id s.pendingAlerts }
              ops := [.stopTimer ref] }
      | none => some { state := s, ops := if triggered then [.sendStatusAlert .up id] else [] }
  | .cancelPendingStatusAlerts =>
      some { state := s, ops := s.pendingAlerts.map fun entry => .cancelPendingAlert entry.1 }
  | .cancelPendingAlert id =>
      match s.pendingAlerts.lookup id with
      | some ref =>
          some
            { state := { s with pendingAlerts := delete id s.pendingAlerts }
              ops := [.stopTimer ref] }
      | none => some { state := s }
  | .stopTimer ref =>
      some
        { state :=
            { s with
              infos := s.infos.modify ref fun info =>
                if info.timerSet ∧ info.started = some .running then
                  { info with started := some .stopped }
                else info } }
  | .processPendingAlert id _ =>
      match s.pendingAlerts.lookup id with
      | some _ =>
          some
            { state := { s with pendingAlerts := delete id s.pendingAlerts }
              ops := [.refresh id] }
      | none => some { state := s }
  | .refresh id =>
      if id ∉ s.alerts ∨ s.triggered id then some { state := s }
      else some { state := s, ops := [.sendStatusAlert .down id] }
  | .sendStatusAlert alertStatus id =>
      if choice then
        some
          { state :=
              { s with triggered := Function.update s.triggered id (alertStatus = .down) }
            ops := [.sendAlert alertStatus id] }
      else some { state := s }
  | .sendAlert alertStatus id =>
      some
        { state :=
            { s with
              sent := s.sent ++
                [{ status := alertStatus, alertId := id, time := s.now, outage := s.outage }] } }

abbrev TimerWorld := World TimerState Unit TimerOp

inductive TimerEvent where
  | tick (elapsed : ℕ)
  | down
  | up
  | pause
  /-- The hub starts while the system is down. -/
  | restore
  | fire (ref : ℕ)
  /-- Alerts are created and deleted. -/
  | cache (alerts : List String)
  | run (i : ℕ) (choice : Bool)
  deriving DecidableEq

namespace TimerWorld

def init (min : String → Uint8) (alerts : List String) : TimerWorld :=
  { state := { min := min, alerts := alerts } }

def step (w : TimerWorld) : TimerEvent → Option TimerWorld
  | .tick elapsed => some { w with state := { w.state with now := w.state.now + elapsed } }
  | .down =>
      match w.state.outage with
      | some _ => none
      | none =>
          some (World.spawn { w with state := { w.state with outage := some w.state.now } }
            ⟨(), [.handleStatusAlerts .down]⟩)
  | .up =>
      match w.state.outage with
      | none => none
      | some _ =>
          some (World.spawn { w with state := { w.state with outage := none } }
            ⟨(), [.handleStatusAlerts .up]⟩)
  | .pause =>
      some (World.spawn { w with state := { w.state with outage := none } }
        ⟨(), [.cancelPendingStatusAlerts]⟩)
  | .restore =>
      let alerts := w.state.alerts.filter fun id => !w.state.triggered id
      some (w.spawn ⟨(), alerts.map .schedulePendingStatusAlert⟩)
  | .fire ref =>
      match w.state.infos[ref]? with
      | none => none
      | some info =>
          if info.started = some .running ∧ info.expireTime ≤ w.state.now then
            let infos := w.state.infos.modify ref fun info => { info with started := some .fired }
            some (World.spawn { w with state := { w.state with infos := infos } }
              ⟨(), [.processPendingAlert info.alertId ref]⟩)
          else none
  | .cache alerts => some { w with state := { w.state with alerts := alerts } }
  | .run i choice => w.turn TimerOp.exec i choice

end TimerWorld

end Picket
