import Picket.StatusAlerts

/-!
# What one operation of the alert manager can do

An operation triggers or queues an alert only if it is one of two; one that is to clear an alert
does so, or leaves it to an operation that it puts in front of its goroutine.
-/

namespace Picket

open Threads

/-- The operation is going to resolve the alert if it is triggered. -/
def AlertOp.clearsTriggered (status : Status) (alert : Alert) : AlertOp → Bool
  | .deactivateAlerts => true
  | .handleStatusAlerts newStatus => newStatus = .up && alert.name = "Status"
  | .handleSystemUp id triggered => id = alert.id && triggered
  | .setAlertTriggered id triggered | .saveAlert id triggered => id = alert.id && !triggered
  | .resolveStatusAlerts => status = .up && alert.name = "Status"
  | _ => false

/-- The operation is going to cancel the alert if it is pending. -/
def AlertOp.clearsPending (alert : Alert) : AlertOp → Bool
  | .cancelPendingStatusAlerts => true
  | .cancelPendingAlert id seen => id = alert.id && seen
  | .handleStatusAlerts newStatus => newStatus = .up && alert.name = "Status"
  | .handleSystemUp id _ => id = alert.id
  | _ => false

def AlertOp.scheduled : AlertOp → Option String
  | .schedulePendingStatusAlert id | .getAlert id => some id
  | _ => none

@[simp]
theorem AlertState.mem_statusAlerts {s : AlertState} {alert : Alert} :
    alert ∈ s.statusAlerts ↔ alert ∈ s.alerts ∧ alert.name = "Status" := by
  simp [AlertState.statusAlerts]

@[grind =]
theorem AlertState.setTriggered_triggered (s : AlertState) (id x : String) (b : Bool) :
    (s.setTriggered id b).triggered x = if x = id then b else s.triggered x :=
  Function.update_apply _ _ _ _

@[grind =]
theorem AlertState.setPending_pendingAlerts (s : AlertState) (id x : String) (b : Bool) :
    (s.setPending id b).pendingAlerts x = if x = id then b else s.pendingAlerts x :=
  Function.update_apply _ _ _ _

section Update

variable (s : AlertState) (status : Status) (tokenChanged : Bool)

theorem AlertState.update_state :
    (s.update status tokenChanged).1
      = { s with status, system := (s.update status tokenChanged).1.system } := by
  unfold AlertState.update
  split
  · rfl
  · dsimp only
    split <;> rfl

@[simp, grind =]
theorem AlertState.update_status : (s.update status tokenChanged).1.status = status := by
  rw [update_state]

@[simp, grind =]
theorem AlertState.update_alerts : (s.update status tokenChanged).1.alerts = s.alerts := by
  rw [update_state]

@[simp, grind =]
theorem AlertState.update_triggered :
    (s.update status tokenChanged).1.triggered = s.triggered := by
  rw [update_state]

@[simp, grind =]
theorem AlertState.update_pendingAlerts :
    (s.update status tokenChanged).1.pendingAlerts = s.pendingAlerts := by
  rw [update_state]

end Update

section Exec

variable {s : AlertState} {choice : Bool} {op : AlertOp} {out : Outcome AlertState Unit AlertOp}
  (hexec : op.exec s () choice = some out)
include hexec

theorem AlertOp.exec_status : out.state.status = s.status ∨ out.state.status = .down := by
  cases op with
  | handleStatusAlerts newStatus => cases newStatus <;> grind [AlertOp.exec]
  | _ => grind [AlertOp.exec, AlertState.setTriggered, AlertState.setPending]

theorem AlertOp.exec_alerts : out.state.alerts = s.alerts := by
  cases op with
  | handleStatusAlerts newStatus => cases newStatus <;> grind [AlertOp.exec]
  | _ => grind [AlertOp.exec, AlertState.setTriggered, AlertState.setPending]

theorem AlertOp.exec_triggered {id : String} (htriggered : out.state.triggered id) :
    s.triggered id ∨ op = .saveAlert id true := by
  cases op with
  | handleStatusAlerts newStatus => cases newStatus <;> grind [AlertOp.exec]
  | _ => grind [AlertOp.exec, AlertState.setPending]

theorem AlertOp.exec_pendingAlerts {id : String} (hpending : out.state.pendingAlerts id) :
    s.pendingAlerts id ∨ op = .schedulePendingStatusAlert id := by
  cases op with
  | handleStatusAlerts newStatus => cases newStatus <;> grind [AlertOp.exec]
  | _ => grind [AlertOp.exec, AlertState.setTriggered]

/-- An operation that is to resolve a triggered alert does so or leaves it to another, except where
`handleSystemUp` finds that the alert is pending as well. -/
theorem AlertOp.exec_clearsTriggered {alert : Alert} (halert : alert ∈ s.alerts)
    (hclears : op.clearsTriggered s.status alert) (hbefore : s.triggered alert.id)
    (hafter : out.state.triggered alert.id) :
    (∃ pushed ∈ out.ops, pushed.clearsTriggered s.status alert) ∨
      (op = .handleSystemUp alert.id true ∧ s.pendingAlerts alert.id) := by
  cases op with
  | deactivateAlerts =>
      obtain rfl := Option.some.inj hexec
      refine Or.inl ⟨.saveAlert alert.id false, ?_, by simp [clearsTriggered]⟩
      exact List.mem_map.mpr ⟨alert, List.mem_filter.mpr ⟨halert, hbefore⟩, rfl⟩
  | handleStatusAlerts newStatus =>
      simp only [clearsTriggered, Bool.and_eq_true, decide_eq_true_eq] at hclears
      obtain ⟨rfl, hname⟩ := hclears
      obtain rfl := Option.some.inj hexec
      refine Or.inl ⟨.handleSystemUp alert.id (s.triggered alert.id), ?_, ?_⟩
      · exact List.mem_map.mpr ⟨alert, AlertState.mem_statusAlerts.mpr ⟨halert, hname⟩, rfl⟩
      · simp [clearsTriggered, hbefore]
  | handleSystemUp id triggered =>
      simp only [clearsTriggered, Bool.and_eq_true, decide_eq_true_eq] at hclears
      obtain ⟨rfl, rfl⟩ := hclears
      by_cases hpending : s.pendingAlerts alert.id
      · exact Or.inr ⟨rfl, hpending⟩
      · simp only [exec, hpending, Bool.false_eq_true, if_false, if_true] at hexec
        obtain rfl := Option.some.inj hexec
        exact Or.inl ⟨_, List.mem_singleton_self _, by simp [clearsTriggered]⟩
  | setAlertTriggered id triggered =>
      obtain rfl := Option.some.inj hexec
      exact Or.inl ⟨_, List.mem_singleton_self _, hclears⟩
  | saveAlert id triggered =>
      -- the alert is not triggered any more
      grind [exec, clearsTriggered]
  | resolveStatusAlerts =>
      simp only [clearsTriggered, Bool.and_eq_true, decide_eq_true_eq] at hclears
      obtain ⟨hup, hname⟩ := hclears
      simp only [exec, hup, if_true] at hexec
      obtain rfl := Option.some.inj hexec
      refine Or.inl ⟨.setAlertTriggered alert.id false, ?_, by simp [clearsTriggered]⟩
      refine List.mem_map.mpr ⟨alert, List.mem_filter.mpr ⟨?_, hbefore⟩, rfl⟩
      exact AlertState.mem_statusAlerts.mpr ⟨halert, hname⟩
  | _ => cases hclears

/-- An operation that is to cancel a pending alert does so or leaves it to another. -/
theorem AlertOp.exec_clearsPending {alert : Alert} (halert : alert ∈ s.alerts)
    (hclears : op.clearsPending alert) (hbefore : s.pendingAlerts alert.id)
    (hafter : out.state.pendingAlerts alert.id) :
    ∃ pushed ∈ out.ops, pushed.clearsPending alert := by
  cases op with
  | cancelPendingStatusAlerts =>
      obtain rfl := Option.some.inj hexec
      refine ⟨.cancelPendingAlert alert.id (s.pendingAlerts alert.id), ?_, ?_⟩
      · exact List.mem_map.mpr ⟨alert, halert, rfl⟩
      · simp [clearsPending, hbefore]
  | handleStatusAlerts newStatus =>
      simp only [clearsPending, Bool.and_eq_true, decide_eq_true_eq] at hclears
      obtain ⟨rfl, hname⟩ := hclears
      obtain rfl := Option.some.inj hexec
      refine ⟨.handleSystemUp alert.id (s.triggered alert.id), ?_, by simp [clearsPending]⟩
      exact List.mem_map.mpr ⟨alert, AlertState.mem_statusAlerts.mpr ⟨halert, hname⟩, rfl⟩
  | cancelPendingAlert id seen => grind [exec, clearsPending]
  | handleSystemUp id triggered => grind [exec, clearsPending]
  | _ => cases hclears

theorem AlertOp.exec_scheduled {pushed : AlertOp} (hmem : pushed ∈ out.ops) {id : String}
    (hscheduled : pushed.scheduled = some id) :
    op.scheduled = some id ∨ ∃ alert ∈ s.statusAlerts, alert.id = id := by
  cases op with
  | handleStatusAlerts newStatus => cases newStatus <;> grind [AlertOp.exec, AlertOp.scheduled]
  | _ => grind [AlertOp.exec, AlertState.update, AlertOp.scheduled]

theorem AlertOp.scheduled_of_spawned {thread : Thread Unit AlertOp} (hmem : thread ∈ out.spawned)
    {pushed : AlertOp} (hop : pushed ∈ thread.ops) : pushed.scheduled = none := by
  cases op with
  | handleStatusAlerts newStatus => cases newStatus <;> grind [AlertOp.exec]
  | _ => grind [AlertOp.exec, AlertOp.scheduled]

end Exec

end Picket
