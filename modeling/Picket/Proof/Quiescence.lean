import Picket.Lib.Transition
import Picket.Proof.AlertOps

/-!
# Alerts of a system that is at rest

A status forbids some alerts. Whatever it forbids is cleared by the handler of the update that set
it, as long as that handler does its work, and as long as nobody triggers or queues a forbidden
alert behind its back. What carries the proof is that every forbidden alert still has an operation
that is going to clear it; when nothing is left to do, there is none.
-/

namespace Picket

open Transition Threads

/-- A paused system has no active alert, and one that is up no active status alert. -/
def Status.forbids (status : Status) (alert : Alert) : Bool :=
  status = .paused || (status = .up && alert.name = "Status")

/-- Every alert that the status forbids is inactive, or about to be cleared. -/
def AlertWorld.Handled (w : AlertWorld) (status : Status) : Prop :=
  ∀ alert ∈ w.state.alerts, status.forbids alert →
    (w.state.triggered alert.id → ∃ op ∈ w.todo, op.clearsTriggered status alert) ∧
    (w.state.pendingAlerts alert.id → ∃ op ∈ w.todo, op.clearsPending alert)

instance (w : AlertWorld) (status : Status) : Decidable (w.Handled status) :=
  inferInstanceAs (Decidable (∀ alert ∈ w.state.alerts, _ → (_ → _) ∧ (_ → _)))

/-- When the next operation of a goroutine leaves the status its due. -/
def AlertOp.AlertSafe (s : AlertState) : AlertOp → Prop
  -- no alert is queued, and none triggered, while the status forbids it
  | .schedulePendingStatusAlert id =>
      s.pendingAlerts id ∨ (s.status ≠ .up ∧ s.status ≠ .paused)
  | .saveAlert id true => ∀ alert ∈ s.alerts, alert.id = id → ¬ s.status.forbids alert
  -- `handleSystemUp` does not find an alert both triggered and pending
  | .handleSystemUp id true =>
      s.pendingAlerts id → s.triggered id → s.status ≠ .up ∧ s.status ≠ .paused
  | _ => True

instance (s : AlertState) (op : AlertOp) : Decidable (op.AlertSafe s) := by
  unfold AlertOp.AlertSafe
  split <;> infer_instance

/-- The handler of an update looks after the alerts that the status forbids, or there is nothing to
look after; and a paused system has no triggered alert when the hub restarts. -/
def AlertGuard (w : AlertWorld) : AlertEvent → Prop
  | .update .up tokenChanged =>
      (tokenChanged = false ∧ ∃ system ∈ w.state.system, system.status = .down) ∨ w.Handled .up
  | .update .paused tokenChanged =>
      (tokenChanged = false ∨ w.state.system = none) ∨ w.Handled .paused
  | .restart =>
      w.state.status = .paused → ∀ alert ∈ w.state.alerts, w.state.triggered alert.id = false
  | .run i _ => ∀ thread ∈ w.threads[i]?, ∀ op ∈ thread.ops.head?, op.AlertSafe w.state
  | _ => True

instance (w : AlertWorld) (e : AlertEvent) : Decidable (AlertGuard w e) := by
  unfold AlertGuard
  split <;> infer_instance

structure AlertInv (w : AlertWorld) : Prop where
  handled : w.Handled w.state.status
  pending : ∀ id, w.state.pendingAlerts id → ∃ alert ∈ w.state.statusAlerts, alert.id = id
  scheduled : ∀ op ∈ w.todo, ∀ id, op.scheduled = some id →
    ∃ alert ∈ w.state.statusAlerts, alert.id = id

theorem AlertWorld.Handled.mono {w w' : AlertWorld} {status : Status} (h : w.Handled status)
    (halerts : ∀ alert ∈ w'.state.alerts, alert ∈ w.state.alerts)
    (htriggered : ∀ id, w'.state.triggered id → w.state.triggered id)
    (hpending : ∀ id, w'.state.pendingAlerts id → w.state.pendingAlerts id)
    (htodo : ∀ op ∈ w.todo, op ∈ w'.todo) : w'.Handled status := by
  intro alert halert hforbids
  obtain ⟨hclears, hcancels⟩ := h alert (halerts alert halert) hforbids
  constructor
  · intro hactive
    obtain ⟨op, hop, hclear⟩ := hclears (htriggered _ hactive)
    exact ⟨op, htodo op hop, hclear⟩
  · intro hactive
    obtain ⟨op, hop, hclear⟩ := hcancels (hpending _ hactive)
    exact ⟨op, htodo op hop, hclear⟩

theorem AlertInv.of_frame {w w' : AlertWorld} (h : AlertInv w)
    (hstatus : w'.state.status = w.state.status)
    (halerts : ∀ alert, alert ∈ w'.state.alerts ↔ alert ∈ w.state.alerts)
    (htriggered : w'.state.triggered = w.state.triggered)
    (hpending : w'.state.pendingAlerts = w.state.pendingAlerts)
    (htodo : ∀ op ∈ w.todo, op ∈ w'.todo)
    (hnew : ∀ op ∈ w'.todo, op ∈ w.todo ∨ op.scheduled = none) : AlertInv w' where
  handled := by
    rw [hstatus]
    exact h.handled.mono (fun _ => (halerts _).mp) (fun _ => htriggered ▸ id)
      (fun _ => hpending ▸ id) htodo
  pending id hactive := by
    rw [hpending] at hactive
    simpa only [AlertState.mem_statusAlerts, halerts] using h.pending id hactive
  scheduled op hop id hid := by
    rcases hnew op hop with hold | hnone
    · simpa only [AlertState.mem_statusAlerts, halerts] using h.scheduled op hold id hid
    · cases hnone.symm.trans hid

theorem AlertInv.spawn {w : AlertWorld} (h : AlertInv w) {op : AlertOp}
    (hnone : op.scheduled = none) : AlertInv (w.spawn ⟨(), [op]⟩) := by
  refine h.of_frame rfl (fun _ => Iff.rfl) rfl rfl (by simp +contextual) fun other hother => ?_
  refine (World.mem_todo_spawn.mp hother).imp_right fun hnew => ?_
  rwa [List.mem_singleton.mp hnew]

theorem AlertState.scheduled_of_update {s : AlertState} {status : Status} {tokenChanged : Bool}
    {op : AlertOp} (hop : op ∈ (s.update status tokenChanged).2) : op.scheduled = none := by
  cases status <;> grind [AlertState.update, AlertOp.scheduled]

section Update

variable {w : AlertWorld} {tokenChanged : Bool}

@[simp]
theorem AlertWorld.update_state {status : Status} :
    (w.update status tokenChanged).state = (w.state.update status tokenChanged).1 := rfl

theorem AlertWorld.mem_todo_update {status : Status} {op : AlertOp} :
    op ∈ (w.update status tokenChanged).todo
      ↔ op ∈ w.todo ∨ op ∈ (w.state.update status tokenChanged).2 :=
  World.mem_todo_spawn

theorem AlertState.handleStatusAlerts_mem_update {s : AlertState} {system : Monitored}
    (hsystem : s.system = some system) (hdown : system.status = .down) :
    AlertOp.handleStatusAlerts .up ∈ (s.update .up false).2 := by
  simp [AlertState.update, hsystem, hdown]

theorem AlertState.deactivate_mem_update {s : AlertState}
    (hkept : tokenChanged = false ∨ s.system = none) :
    AlertOp.deactivateAlerts ∈ (s.update .paused tokenChanged).2 ∧
      AlertOp.cancelPendingStatusAlerts ∈ (s.update .paused tokenChanged).2 := by
  unfold AlertState.update
  rcases hkept with rfl | hnone
  · cases s.system <;> simp
  · simp [hnone]

theorem AlertWorld.handled_update {status : Status}
    (hguard : AlertGuard w (.update status tokenChanged)) :
    (w.update status tokenChanged).Handled status := by
  have hmono : w.Handled status → (w.update status tokenChanged).Handled status := fun hall =>
    hall.mono (by simp) (by simp) (by simp) fun _ hop => AlertWorld.mem_todo_update.mpr (Or.inl hop)
  cases status with
  | up =>
      rcases hguard with ⟨rfl, system, hsystem, hdown⟩ | hall
      · intro alert _ hforbids
        have hname : alert.name = "Status" := by simpa [Status.forbids] using hforbids
        have hmem := AlertWorld.mem_todo_update.mpr
          (Or.inr (AlertState.handleStatusAlerts_mem_update hsystem hdown))
        exact ⟨fun _ => ⟨_, hmem, by simp [AlertOp.clearsTriggered, hname]⟩,
          fun _ => ⟨_, hmem, by simp [AlertOp.clearsPending, hname]⟩⟩
      · exact hmono hall
  | paused =>
      rcases hguard with hkept | hall
      · intro alert _ _
        obtain ⟨hdeactivate, hcancel⟩ := AlertState.deactivate_mem_update hkept
        exact ⟨fun _ => ⟨_, AlertWorld.mem_todo_update.mpr (Or.inr hdeactivate), rfl⟩,
          fun _ => ⟨_, AlertWorld.mem_todo_update.mpr (Or.inr hcancel), rfl⟩⟩
      · exact hmono hall
  | down => exact fun _ _ hforbids => by cases hforbids
  | pending => exact fun _ _ hforbids => by cases hforbids

end Update

section Run

variable {w : AlertWorld} {i : ℕ} {choice : Bool} (turn : Turn AlertOp.exec w i choice)
  (hsafe : turn.op.AlertSafe w.state)
include hsafe

theorem AlertInv.handled_run (h : AlertInv w) :
    AlertWorld.Handled turn.next turn.out.state.status := by
  intro alert halert hforbids
  rw [turn.next_state, AlertOp.exec_alerts turn.exec] at halert
  rcases AlertOp.exec_status turn.exec with hstatus | hdown
  · rw [hstatus] at hforbids ⊢
    obtain ⟨hclears, hcancels⟩ := h.handled alert halert hforbids
    have hactive : w.state.status = .up ∨ w.state.status = .paused := by
      simp only [Status.forbids, Bool.or_eq_true, Bool.and_eq_true, decide_eq_true_eq] at hforbids
      exact hforbids.elim Or.inr fun hup => Or.inl hup.1
    constructor
    · intro hafter
      rcases AlertOp.exec_triggered turn.exec hafter with hbefore | hsave
      · obtain ⟨op, hop, hclear⟩ := hclears hbefore
        rcases turn.eq_or_mem_todo hop with rfl | hkept
        · rcases AlertOp.exec_clearsTriggered turn.exec halert hclear hbefore hafter
            with ⟨pushed, hpushed, hnext⟩ | ⟨hhandle, hpending⟩
          · exact ⟨pushed, turn.mem_todo_of_pushed hpushed, hnext⟩
          · rw [hhandle] at hsafe
            have hsafe := hsafe hpending hbefore
            exact (hactive.elim hsafe.1 hsafe.2).elim
        · exact ⟨op, hkept, hclear⟩
      · rw [hsave] at hsafe
        exact absurd hforbids (hsafe alert halert rfl)
    · intro hafter
      have hbefore : w.state.pendingAlerts alert.id := by
        rcases AlertOp.exec_pendingAlerts turn.exec hafter with hbefore | hschedule
        · exact hbefore
        · rw [hschedule] at hsafe
          exact hsafe.resolve_right fun hsafe => hactive.elim hsafe.1 hsafe.2
      obtain ⟨op, hop, hclear⟩ := hcancels hbefore
      rcases turn.eq_or_mem_todo hop with rfl | hkept
      · obtain ⟨pushed, hpushed, hnext⟩ :=
          AlertOp.exec_clearsPending turn.exec halert hclear hbefore hafter
        exact ⟨pushed, turn.mem_todo_of_pushed hpushed, hnext⟩
      · exact ⟨op, hkept, hclear⟩
  · rw [hdown] at hforbids
    cases hforbids

theorem AlertInv.run (h : AlertInv w) : AlertInv turn.next where
  handled := h.handled_run turn hsafe
  pending id hactive := by
    rw [turn.next_state] at hactive ⊢
    simp only [AlertState.mem_statusAlerts, AlertOp.exec_alerts turn.exec]
    rcases AlertOp.exec_pendingAlerts turn.exec hactive with hbefore | hschedule
    · simpa using h.pending id hbefore
    · simpa using h.scheduled turn.op turn.op_mem_todo id (by rw [hschedule]; rfl)
  scheduled op hop id hid := by
    rw [turn.next_state]
    simp only [AlertState.mem_statusAlerts, AlertOp.exec_alerts turn.exec]
    rcases turn.mem_todo_next hop with hold | hpushed | ⟨thread, hspawned, hop⟩
    · simpa using h.scheduled op hold id hid
    · rcases AlertOp.exec_scheduled turn.exec hpushed hid with hbefore | hstatus
      · simpa using h.scheduled turn.op turn.op_mem_todo id hbefore
      · simpa using hstatus
    · cases (AlertOp.scheduled_of_spawned turn.exec hspawned hop).symm.trans hid

end Run

theorem alertInv_of_restart {w w' : AlertWorld} (hguard : AlertGuard w .restart)
    (hstep : w.step .restart = some w') : AlertInv w' := by
  obtain rfl := Option.some.inj hstep
  refine ⟨?_, fun _ hactive => absurd hactive Bool.false_ne_true, ?_⟩
  · intro alert halert hforbids
    refine ⟨fun hactive => ?_, fun hactive => absurd hactive Bool.false_ne_true⟩
    simp only [Status.forbids, Bool.or_eq_true, Bool.and_eq_true, decide_eq_true_eq] at hforbids
    rcases hforbids with hpaused | ⟨hup, hname⟩
    · exact absurd hactive (by simp [hguard hpaused alert halert])
    · -- `resolveStatusAlerts` comes first
      refine ⟨.resolveStatusAlerts, ?_, by simp [AlertOp.clearsTriggered, hname, hup]⟩
      exact List.mem_cons_self
  · intro op hop id hid
    rcases List.mem_cons.mp hop with rfl | hop
    · cases hid
    · rcases List.mem_cons.mp hop with rfl | hop
      · cases hid
      · cases hop

theorem AlertInv.step {w w' : AlertWorld} {e : AlertEvent} (h : AlertInv w)
    (hguard : AlertGuard w e) (hstep : w.step e = some w') : AlertInv w' := by
  cases e with
  | update status tokenChanged =>
      obtain rfl := Option.some.inj hstep
      refine ⟨?_, fun id hactive => ?_, fun op hop id hid => ?_⟩
      · simpa using AlertWorld.handled_update hguard
      · simpa using h.pending id (by simpa using hactive)
      · rcases AlertWorld.mem_todo_update.mp hop with hold | hnew
        · simpa using h.scheduled op hold id hid
        · cases (AlertState.scheduled_of_update hnew).symm.trans hid
  | fire id =>
      obtain rfl := Option.some.inj hstep
      exact h.spawn rfl
  | restart => exact alertInv_of_restart hguard hstep
  | agentConnect =>
      obtain rfl := Option.some.inj hstep
      exact h.spawn rfl
  | connectionLost =>
      obtain rfl := Option.some.inj hstep
      exact h.of_frame rfl (fun _ => Iff.rfl) rfl rfl (fun _ hop => hop) fun _ hop => Or.inl hop
  | removeSystem =>
      obtain rfl := Option.some.inj hstep
      exact h.of_frame rfl (fun _ => Iff.rfl) rfl rfl (fun _ hop => hop) fun _ hop => Or.inl hop
  | reorder alerts =>
      obtain ⟨hperm, hstep⟩ := Option.ite_none_right_eq_some.mp hstep
      obtain rfl := Option.some.inj hstep
      exact h.of_frame rfl (fun _ => hperm.mem_iff) rfl rfl (fun _ hop => hop)
        fun _ hop => Or.inl hop
  | run i choice =>
      obtain ⟨turn, rfl⟩ := Turn.exists_of_turn hstep
      refine h.run turn (hguard turn.thread turn.get turn.op ?_)
      rw [turn.ops]
      rfl

/-- Nothing that the status forbids is active. -/
structure AlertState.Consistent (s : AlertState) : Prop where
  paused : s.status = .paused →
    (∀ alert ∈ s.alerts, s.triggered alert.id = false) ∧ ∀ id, s.pendingAlerts id = false
  up : s.status = .up →
    (∀ alert ∈ s.statusAlerts, s.triggered alert.id = false) ∧ ∀ id, s.pendingAlerts id = false

end Picket
