import Picket.Proof.Goroutines

/-!
# A cancelled updater

Cancelling a `System` tells its updater to stop, but only the `select` of `StartUpdater` looks at
that. Everything else its goroutines still do is harmless only as long as it does not get to a
save, and finds nothing of anybody else to remove.
-/

namespace Picket

open Transition Threads

/-- A save is not harmless once the `System` is cancelled. Nor is a removal, unless it finds nothing
or the `System` itself: what has taken its place was stored after it. -/
def Logged.Harmless (e : Logged) : Prop :=
  match e.effect with
  | .wroteRecord => False
  | .removed victim => ∀ v ∈ victim, e.owner = some v

instance (e : Logged) : Decidable e.Harmless := by
  unfold Logged.Harmless
  split <;> infer_instance

/-- The goroutines of a cancelled `System` have had no effect. -/
def Hub.NoLateEffect (hub : Hub) : Prop :=
  ∀ e ∈ hub.log, e.late → e.Harmless

instance (hub : Hub) : Decidable hub.NoLateEffect :=
  inferInstanceAs (Decidable (∀ e ∈ hub.log, e.late → e.Harmless))

/-- When the next operation of a goroutine leaves a cancelled `System` without effect. -/
def Op.CancelSafe (w : Manager) (owner : Option ℕ) (choice : Choice) : Op → Prop
  -- none of its goroutines is past its last check, or about to remove another
  | .cancel v => ∀ op ∈ w.pending (some v), op.pastCheck = false ∧ ∀ u ∈ op.victim, u = v
  -- no updater is in the middle of a removal
  | .storeSystem _ =>
      ∀ thread ∈ w.threads, thread.owner.isSome → ∀ op ∈ thread.ops, op.victim = none
  -- a request in flight fails
  | .response _ _ => w.state.late owner → choice ≠ .ok
  -- and its failure finds the system down or paused
  | .setDown r =>
      w.state.late owner → (w.state.sys r).status = .down ∨ (w.state.sys r).status = .paused
  | .removeSystem => w.state.late owner → ∀ v ∈ w.state.store, owner = some v
  | _ => True

instance (w : Manager) (owner : Option ℕ) (choice : Choice) (op : Op) :
    Decidable (op.CancelSafe w owner choice) := by
  unfold Op.CancelSafe
  split <;> infer_instance

def CancelGuard (w : Manager) : Event → Prop
  | .run i choice =>
      ∀ thread ∈ w.threads[i]?, ∀ op ∈ thread.ops.head?, op.CancelSafe w thread.owner choice
  | _ => True

instance (w : Manager) (e : Event) : Decidable (CancelGuard w e) := by
  unfold CancelGuard
  split <;> infer_instance

/-- What is left to do for a cancelled `System` is harmless. -/
structure CancelInv (w : Manager) : Prop where
  quiet : ∀ r, (w.state.sys r).cancelled → ∀ op ∈ w.pending (some r),
    op.pastCheck = false ∧ ∀ v ∈ op.victim, v = r
  /-- An updater that is about to remove a `System` will remove that one or none. -/
  alone : ∀ r, ∀ op ∈ w.pending (some r), ∀ v ∈ op.victim, ∀ u ∈ w.state.store, u = v
  effects : w.state.NoLateEffect

theorem cancelSafe_of_guard {w : Manager} {i : ℕ} {choice : Choice}
    (turn : Turn Op.exec w i choice) (hguard : CancelGuard w (.run i choice)) :
    turn.op.CancelSafe w turn.thread.owner choice := by
  refine hguard turn.thread turn.get turn.op ?_
  rw [turn.ops]
  rfl

theorem CancelInv.of_frame {w w' : Manager} (h : CancelInv w)
    (hsys : ∀ r, (w'.state.sys r).cancelled = (w.state.sys r).cancelled)
    (hstore : w'.state.store = w.state.store) (hlog : w'.state.log = w.state.log)
    (hpending : ∀ r, ∀ op ∈ w'.pending (some r), op ∈ w.pending (some r)) : CancelInv w' where
  quiet r hcancelled op hop := h.quiet r (hsys r ▸ hcancelled) op (hpending r op hop)
  alone r op hop := by
    rw [hstore]
    exact h.alone r op (hpending r op hop)
  effects := by
    rw [Hub.NoLateEffect, hlog]
    exact h.effects

section Run

variable {w : Manager} {i : ℕ} {choice : Choice}

theorem CancelInv.quiet_run (h : CancelInv w) (turn : Turn Op.exec w i choice)
    (hsafe : turn.op.CancelSafe w turn.thread.owner choice) (r : ℕ)
    (hcancelled : (turn.out.state.sys r).cancelled) (op : Op)
    (hop : op ∈ turn.next.pending (some r)) :
    op.pastCheck = false ∧ ∀ v ∈ op.victim, v = r := by
  rcases turn.mem_pending_next hop with hold | ⟨howner, hpushed⟩ | ⟨thread, hspawned, hop⟩
  · rcases Op.exec_cancelled turn.exec hcancelled with hbefore | hcancel
    · exact h.quiet r hbefore op hold
    · rw [hcancel] at hsafe
      exact hsafe op hold
  · have hbefore : (w.state.sys r).cancelled := by
      rcases Op.exec_cancelled turn.exec hcancelled with hbefore | hcancel
      · exact hbefore
      · -- cancelling puts nothing in front
        rw [turn.out_eq hcancel rfl] at hpushed
        cases hpushed
    have hlate : w.state.late turn.thread.owner := by rw [howner]; exact hbefore
    constructor
    · by_contra hpast
      rcases Op.pastCheck_of_exec turn.exec hpushed (by simpa using hpast)
        with hpast | ⟨_, _, hresponse, hok⟩ | ⟨_, hdown, hne⟩
      · have hquiet := h.quiet r hbefore turn.op (howner ▸ turn.op_mem_pending)
        exact Bool.false_ne_true (hquiet.1.symm.trans hpast)
      · rw [hresponse] at hsafe
        exact hsafe hlate hok
      · rw [hdown] at hsafe
        exact (hsafe hlate).elim hne.1 hne.2
    · intro v hvictim
      obtain ⟨hremove, hstore⟩ := Op.victim_of_exec turn.exec hpushed hvictim
      rw [hremove] at hsafe
      exact Option.some.inj ((hsafe hlate v hstore).symm.trans howner)
  · obtain ⟨hcheck, hvictim⟩ := Op.harmless_of_spawned turn.exec hspawned hop
    exact ⟨hcheck, by simp [hvictim]⟩

theorem CancelInv.alone_run (h : CancelInv w) (turn : Turn Op.exec w i choice)
    (hsafe : turn.op.CancelSafe w turn.thread.owner choice) (r : ℕ) (op : Op)
    (hop : op ∈ turn.next.pending (some r)) (v : ℕ)
    (hvictim : op.victim = some v) (u : ℕ) (hu : turn.out.state.store = some u) : u = v := by
  rcases turn.mem_pending_next hop with hold | ⟨-, hpushed⟩ | ⟨thread, hspawned, hop⟩
  · rcases Op.exec_store turn.exec with hsame | ⟨_, -, hnone⟩ | ⟨_, hset, -⟩
    · exact h.alone r op hold v hvictim u (hsame.symm.trans hu)
    · rw [hnone] at hu
      cases hu
    · rw [hset] at hsafe
      obtain ⟨thread, hthread, howner, hmem⟩ := World.mem_pending.mp hold
      have hnone := hsafe thread hthread (by rw [howner]; rfl) op hmem
      rw [hnone] at hvictim
      cases hvictim
  · obtain ⟨hremove, hstore⟩ := Op.victim_of_exec turn.exec hpushed hvictim
    have hexec := turn.exec
    rw [hremove, Op.exec, hstore] at hexec
    rw [← Option.some.inj hexec] at hu
    exact Option.some.inj (hu.symm.trans hstore)
  · rw [(Op.harmless_of_spawned turn.exec hspawned hop).2] at hvictim
    cases hvictim

theorem CancelInv.effects_run (h : CancelInv w) (turn : Turn Op.exec w i choice) :
    turn.out.state.NoLateEffect := by
  -- a late effect is that of an operation which the cancelled `System` has yet to do
  have hquiet : w.state.late turn.thread.owner → ∃ r, turn.thread.owner = some r ∧
      turn.op.pastCheck = false ∧ ∀ v ∈ turn.op.victim, v = r := by
    intro hlate
    have hmem := turn.op_mem_pending
    cases howner : turn.thread.owner with
    | none => simp [howner, Hub.late] at hlate
    | some r =>
        rw [howner] at hlate hmem
        exact ⟨r, rfl, h.quiet r hlate _ hmem⟩
  intro e he hlate
  rcases Op.exec_log turn.exec with hsame | ⟨hpast, hlog⟩ | ⟨v, hremove, hlog⟩
  · exact h.effects e (hsame ▸ he) hlate
  · rw [hlog] at he
    rcases List.mem_cons.mp he with rfl | hold
    · obtain ⟨_, -, hcheck, -⟩ := hquiet hlate
      exact absurd hpast (by simp [hcheck])
    · exact h.effects e hold hlate
  · rw [hlog] at he
    rcases List.mem_cons.mp he with rfl | hold
    · obtain ⟨r, howner, -, hvictim⟩ := hquiet hlate
      obtain rfl : v = r := hvictim v (by rw [hremove]; rfl)
      intro u hu
      have hmem := turn.op_mem_pending
      rw [howner] at hmem
      obtain rfl := h.alone v turn.op hmem v (by rw [hremove]; rfl) u hu
      exact howner
    · exact h.effects e hold hlate

end Run

theorem CancelInv.step {w w' : Manager} {e : Event} (h : CancelInv w) (hguard : CancelGuard w e)
    (hstep : w.step e = some w') : CancelInv w' := by
  cases e with
  | create =>
      obtain ⟨-, rfl⟩ := Option.ite_none_right_eq_some.mp hstep |>.imp_right Option.some.inj
      exact h.of_frame (fun _ => rfl) rfl rfl fun _ _ hop => hop
  | save status tokenChanged =>
      obtain ⟨-, rfl⟩ := Option.ite_none_right_eq_some.mp hstep |>.imp_right Option.some.inj
      exact h.of_frame (fun _ => rfl) rfl rfl fun _ _ hop => Manager.mem_pending_request hop
  | delete =>
      obtain ⟨-, rfl⟩ := Option.ite_none_right_eq_some.mp hstep |>.imp_right Option.some.inj
      exact h.of_frame (fun _ => rfl) rfl rfl fun _ _ hop => Manager.mem_pending_request hop
  | agentConnect =>
      obtain rfl := Option.some.inj hstep
      exact h.of_frame (fun _ => rfl) rfl rfl fun _ _ hop => Manager.mem_pending_request hop
  | connectionLost r =>
      obtain rfl := Option.some.inj hstep
      refine h.of_frame (fun q => ?_) rfl rfl fun _ _ hop => hop
      rw [Hub.modify_sys]
      split <;> rfl
  | run i choice =>
      obtain ⟨turn, rfl⟩ := Turn.exists_of_turn hstep
      have hsafe := cancelSafe_of_guard turn hguard
      exact ⟨h.quiet_run turn hsafe, h.alone_run turn hsafe, h.effects_run turn⟩

theorem cancelInv_init : CancelInv Manager.init := by
  refine ⟨fun _ _ _ hop => ?_, fun _ _ hop => ?_, fun _ he => by cases he⟩ <;>
    simp [Manager.init, World.pending] at hop

/-- **A cancelled updater has no further effect.** In every run of all systems in which a `System`
is cancelled only before the last check of its goroutines, and in which these afterwards take none
of the branches that lead to a save or to the removal of another. -/
theorem noLateEffect_of_guarded {w : String → Manager} {events : List (String × Event)}
    (hrun : Guarded (each Manager.step) (fun w e => CancelGuard (w e.1) e.2) (fun _ => .init)
      events w)
    (systemId : String) : (w systemId).state.NoLateEffect := by
  obtain ⟨_, hone⟩ := hrun.component systemId
  exact (hone.invariant (fun _ _ _ h => h.step) cancelInv_init).effects

def connect (i : ℕ) : List Event :=
  .agentConnect :: List.replicate 4 (.run i .ok)

def reconnect (i : ℕ) : List Event :=
  .agentConnect :: List.replicate 8 (.run i .ok)

/-- The first updater has not begun when its `System` is replaced. -/
def replacedAtStart : List Event :=
  .create :: connect 0 ++ reconnect 2 ++ [.run 1 .ok, .run 1 .done]

theorem noLateEffect_replacedAtStart :
    ∃ w, Guarded (each Manager.step) (fun w e => CancelGuard (w e.1) e.2) (fun _ => .init)
        (replacedAtStart.map (Prod.mk "web")) w ∧ (w "web").state.store = some 1 ∧
      (w "web").state.NoLateEffect := by
  have hcheck : ∃ w, check Manager.step CancelGuard .init replacedAtStart = some w ∧
      w.state.store = some 1 := ⟨_, rfl, rfl⟩
  obtain ⟨w, hcheck, hstore⟩ := hcheck
  have hrun := (guarded_of_check hcheck).each (fun _ : String => Manager.init) "web"
  exact ⟨_, hrun, by simpa using hstore, noLateEffect_of_guarded hrun "web"⟩

/-- The first updater waits for a response when its agent reconnects. Its request fails, and it
marks the system down. -/
def replacedInFlight : List Event :=
  .create :: connect 0 ++ List.replicate 3 (.run 1 .ok) ++ reconnect 2 ++
    [.run 1 .fail, .run 1 .ok, .run 1 .ok, .run 1 .ok]

theorem not_noLateEffect_replacedInFlight :
    ∃ w, run (each Manager.step) (fun _ => .init) (replacedInFlight.map (Prod.mk "web")) = some w ∧
      (w "web").state.record = some .down ∧ ¬ (w "web").state.NoLateEffect := by
  have hone : ∃ w, run Manager.step .init replacedInFlight = some w ∧ w.state.record = some .down ∧
      ¬ w.state.NoLateEffect := ⟨_, rfl, by decide +kernel, by decide +kernel⟩
  obtain ⟨w, hone, hrecord, heffect⟩ := hone
  have hrun := run_each (fun _ : String => Manager.init) "web" hone
  exact ⟨_, hrun, by simpa using hrecord, by simpa using heffect⟩

end Picket
