import Picket.Proof.Goroutines

/-!
# Pausing

`update` and `setDown` look at the status in memory before they begin, and save a status of their
own much later. A pause sticks only if it meets none of them past its last check, and none passes
that check while the system is paused.
-/

namespace Picket

open Transition Threads

/-- A system that a client paused last is paused. -/
def Hub.PauseKept (hub : Hub) : Prop :=
  hub.lastSet = some .paused → hub.record = some .paused

instance (hub : Hub) : Decidable hub.PauseKept :=
  inferInstanceAs (Decidable (_ → _))

def Manager.NonePastCheck (w : Manager) : Prop :=
  ∀ op ∈ w.todo, op.pastCheck = false

instance (w : Manager) : Decidable w.NonePastCheck :=
  inferInstanceAs (Decidable (∀ op ∈ w.todo, op.pastCheck = false))

/-- While the system is paused no response is taken, and `setDown` knows of the pause. -/
def Op.PauseSafe (hub : Hub) (choice : Choice) : Op → Prop
  | .response _ _ => hub.record = some .paused → choice ≠ .ok
  | .setDown r =>
      hub.record = some .paused → (hub.sys r).status = .down ∨ (hub.sys r).status = .paused
  | _ => True

instance (hub : Hub) (choice : Choice) (op : Op) : Decidable (op.PauseSafe hub choice) := by
  apply @Op.casesOn (fun op => Decidable (op.PauseSafe hub choice)) op <;> intros <;>
    unfold Op.PauseSafe <;> infer_instance

def PauseGuard (w : Manager) : Event → Prop
  | .save .paused _ => w.NonePastCheck
  | .run i choice =>
      ∀ thread ∈ w.threads[i]?, ∀ op ∈ thread.ops.head?, op.PauseSafe w.state choice
  | _ => True

instance (w : Manager) (e : Event) : Decidable (PauseGuard w e) := by
  apply @Event.casesOn (fun e => Decidable (PauseGuard w e)) e
  case save =>
    intro status tokenChanged
    apply @Status.casesOn (fun s => Decidable (PauseGuard w (.save s tokenChanged))) status <;>
      unfold PauseGuard <;> infer_instance
  all_goals
    intros
    unfold PauseGuard
    infer_instance

/-- A pause is stored, and nothing is about to be saved over it. -/
def PauseInv (w : Manager) : Prop :=
  w.state.lastSet = some .paused → w.state.record = some .paused ∧ w.NonePastCheck

theorem Manager.NonePastCheck.request {w : Manager} (h : w.NonePastCheck) {hub : Hub} {op : Op}
    (hcheck : op.pastCheck = false) : (w.request hub op).NonePastCheck := by
  intro pushed hmem
  rcases World.mem_todo_spawn.mp hmem with hold | hnew
  · exact h pushed hold
  · obtain rfl := List.mem_singleton.mp hnew
    exact hcheck

theorem Manager.NonePastCheck.next {w : Manager} (h : w.NonePastCheck) {i : ℕ} {choice : Choice}
    (turn : Turn Op.exec w i choice) (hsafe : turn.op.PauseSafe w.state choice)
    (hpaused : w.state.record = some .paused) : Manager.NonePastCheck turn.next := by
  intro op hop
  rcases turn.mem_todo_next hop with hold | hpushed | ⟨_, hspawned, hop⟩
  · exact h op hold
  · by_contra hpast
    rcases Op.pastCheck_of_exec turn.exec hpushed (by simpa using hpast)
      with hpast | ⟨_, _, hresponse, hok⟩ | ⟨_, hdown, hne⟩
    · exact Bool.false_ne_true ((h _ turn.op_mem_todo).symm.trans hpast)
    · rw [hresponse] at hsafe
      exact hsafe hpaused hok
    · rw [hdown] at hsafe
      exact (hsafe hpaused).elim hne.1 hne.2
  · exact (Op.harmless_of_spawned turn.exec hspawned hop).1

theorem PauseInv.run {w : Manager} (h : PauseInv w) {i : ℕ} {choice : Choice}
    (turn : Turn Op.exec w i choice) (hguard : PauseGuard w (.run i choice)) :
    PauseInv turn.next := by
  intro hset
  have hbefore : w.state.lastSet = some .paused := (Op.exec_lastSet turn.exec).symm.trans hset
  obtain ⟨hpaused, hnone⟩ := h hbefore
  have hsafe : turn.op.PauseSafe w.state choice := by
    refine hguard turn.thread turn.get turn.op ?_
    rw [turn.ops]
    rfl
  have hcheck := hnone turn.op turn.op_mem_todo
  exact ⟨(Op.exec_record turn.exec hcheck).trans hpaused, hnone.next turn hsafe hpaused⟩

theorem PauseInv.step {w w' : Manager} {e : Event} (h : PauseInv w) (hguard : PauseGuard w e)
    (hstep : w.step e = some w') : PauseInv w' := by
  cases e with
  | create =>
      obtain ⟨-, rfl⟩ := Option.ite_none_right_eq_some.mp hstep |>.imp_right Option.some.inj
      intro hset
      cases hset
  | save status tokenChanged =>
      obtain ⟨-, rfl⟩ := Option.ite_none_right_eq_some.mp hstep |>.imp_right Option.some.inj
      intro hset
      obtain rfl : status = .paused := Option.some.inj hset
      exact ⟨rfl, Manager.NonePastCheck.request hguard rfl⟩
  | delete =>
      obtain ⟨-, rfl⟩ := Option.ite_none_right_eq_some.mp hstep |>.imp_right Option.some.inj
      intro hset
      cases hset
  | agentConnect =>
      obtain rfl := Option.some.inj hstep
      intro hset
      obtain ⟨hpaused, hnone⟩ := h hset
      exact ⟨hpaused, hnone.request rfl⟩
  | connectionLost r =>
      obtain rfl := Option.some.inj hstep
      exact h
  | run i choice =>
      obtain ⟨turn, rfl⟩ := Turn.exists_of_turn hstep
      exact h.run turn hguard

theorem pauseInv_init : PauseInv Manager.init := fun hset => by cases hset

/-- **Pausing sticks.** In every run of all systems in which a client pauses only while no goroutine
is past its last check, and in which none passes it while the pause is stored. -/
theorem pauseKept_of_guarded {w : String → Manager} {events : List (String × Event)}
    (hrun : Guarded (each Manager.step) (fun w e => PauseGuard (w e.1) e.2) (fun _ => .init)
      events w)
    (systemId : String) : (w systemId).state.PauseKept := by
  obtain ⟨_, hone⟩ := hrun.component systemId
  exact fun hset => (hone.invariant (fun _ _ _ h => h.step) pauseInv_init hset).1

def firstRequest : List Event :=
  .create :: .agentConnect :: List.replicate 4 (.run 0 .ok) ++ List.replicate 3 (.run 1 .ok)

/-- The pause comes after the response has been saved. At its next tick the updater removes the
system. -/
def pausedBetweenUpdates : List Event :=
  firstRequest ++ List.replicate 5 (.run 1 .ok) ++
    .save .paused false :: List.replicate 3 (.run 2 .ok) ++ .run 1 .tick ::
      List.replicate 6 (.run 1 .fail) ++ [.run 1 .done]

theorem pauseKept_pausedBetweenUpdates :
    ∃ w, Guarded (each Manager.step) (fun w e => PauseGuard (w e.1) e.2) (fun _ => .init)
        (pausedBetweenUpdates.map (Prod.mk "web")) w ∧
      (w "web").state.lastSet = some .paused ∧ (w "web").state.PauseKept := by
  have hcheck : ∃ w, check Manager.step PauseGuard .init pausedBetweenUpdates = some w ∧
      w.state.lastSet = some .paused := ⟨_, rfl, rfl⟩
  obtain ⟨w, hcheck, hset⟩ := hcheck
  have hrun := (guarded_of_check hcheck).each (fun _ : String => Manager.init) "web"
  exact ⟨_, hrun, by simpa using hset, pauseKept_of_guarded hrun "web"⟩

/-- The pause is committed while the updater waits for its response. -/
def pausedInFlight : List Event :=
  firstRequest ++ .save .paused false :: List.replicate 3 (.run 1 .ok)

theorem not_pauseKept_pausedInFlight :
    ∃ w, run (each Manager.step) (fun _ => .init) (pausedInFlight.map (Prod.mk "web")) = some w ∧
      (w "web").state.record = some .up ∧ ¬ (w "web").state.PauseKept := by
  have hone : ∃ w, run Manager.step .init pausedInFlight = some w ∧ w.state.record = some .up ∧
      ¬ w.state.PauseKept := ⟨_, rfl, by decide +kernel, by decide +kernel⟩
  obtain ⟨w, hone, hrecord, hkept⟩ := hone
  have hrun := run_each (fun _ : String => Manager.init) "web" hone
  exact ⟨_, hrun, by simpa using hrecord, by simpa using hkept⟩

end Picket
