import Picket.Proof.Goroutines

/-!
# One updater

`AddRecord` and `AddSystem` look whether the manager holds a `System` before they store theirs, and
`RemoveSystem` cancels the one it finds before it clears the entry. An updater whose `System` is no
longer the stored one is found by nobody any more. So what counts is that neither a store nor a
removal takes away a `System` that is not cancelled.
-/

namespace Picket

open Transition Threads

/-- The updater has been started, and nothing has told it to stop. -/
def Manager.Live (w : Manager) (r : ℕ) : Prop :=
  .select r ∈ w.todo ∧ (w.state.sys r).cancelled = false

instance (w : Manager) (r : ℕ) : Decidable (w.Live r) :=
  inferInstanceAs (Decidable (_ ∧ _))

/-- At most one updater is live, and its `System` is the stored one. -/
structure Manager.OneUpdater (w : Manager) : Prop where
  unique : ∀ r q, w.Live r → w.Live q → r = q
  stored : ∀ r, w.Live r → w.state.store = some r

/-- What the manager holds is there to be replaced: nothing, or a `System` that is cancelled. -/
def Hub.Vacant (hub : Hub) : Prop :=
  ∀ r ∈ hub.store, (hub.sys r).cancelled

instance (hub : Hub) : Decidable hub.Vacant :=
  inferInstanceAs (Decidable (∀ r ∈ hub.store, (hub.sys r).cancelled = true))

/-- When an operation leaves no updater behind. -/
def Op.TakesVacant (hub : Hub) : Op → Prop
  | .storeSystem _ | .remove _ => hub.Vacant
  | _ => True

instance (hub : Hub) (op : Op) : Decidable (op.TakesVacant hub) := by
  apply @Op.casesOn (fun op => Decidable (op.TakesVacant hub)) op <;> intros <;>
    unfold Op.TakesVacant <;> infer_instance

def VacantGuard (w : Manager) : Event → Prop
  | .run i _ => ∀ thread ∈ w.threads[i]?, ∀ op ∈ thread.ops.head?, op.TakesVacant w.state
  | _ => True

instance (w : Manager) (e : Event) : Decidable (VacantGuard w e) := by
  apply @Event.casesOn (fun e => Decidable (VacantGuard w e)) e <;> intros <;>
    unfold VacantGuard <;> infer_instance

/-- The `System` that an operation starts, or brings into the manager. -/
def Op.brings : Op → Option ℕ
  | .select r | .addRecord r | .addSystem r | .storeSystem r => some r
  | _ => none

section Exec

variable {hub : Hub} {owner : Option ℕ} {choice : Choice} {op : Op}
  {out : Outcome Hub (Option ℕ) Op}
  (hexec : op.exec hub owner choice = some out)
include hexec

theorem Op.created_le_exec : hub.created ≤ out.state.created := by
  cases op with
  | select r => grind [Op.exec_select hexec, Hub.modify]
  | _ => grind [Op.exec, Hub.modify, Hub.note, Hub.saveStatus]

theorem Op.cancelled_exec {r : ℕ} (hlt : r < hub.created) (hcancelled : (hub.sys r).cancelled) :
    (out.state.sys r).cancelled := by
  cases op with
  | select q => grind [Op.exec_select hexec]
  | addWebSocketSystem =>
      simp only [Op.exec] at hexec
      split at hexec
      · cases hexec
        exact hcancelled
      · cases hexec
        dsimp only
        rw [Function.update_of_ne (Nat.ne_of_lt hlt)]
        exact hcancelled
  | _ => grind [Op.exec, Hub.note, Hub.saveStatus]

theorem Op.brings_of_pushed {pushed : Op} (hmem : pushed ∈ out.ops) {r : ℕ}
    (hbrings : pushed.brings = some r) : op.brings = some r ∨ r < out.state.created := by
  cases op with
  | select r => grind [Op.exec_select hexec, Op.brings]
  | _ => grind [Op.exec, Op.brings, mem_onError]

theorem Op.brings_of_spawned {thread : Thread (Option ℕ) Op} (hmem : thread ∈ out.spawned)
    {pushed : Op} (hop : pushed ∈ thread.ops) {r : ℕ} (hbrings : pushed.brings = some r) :
    op = .storeSystem r := by
  cases op with
  | select r => grind [Op.exec_select hexec]
  | _ => grind [Op.exec, Op.brings]

theorem Op.select_of_pushed {r : ℕ} (hmem : .select r ∈ out.ops) : op = .select r := by
  cases op with
  | select r => grind [Op.exec_select hexec]
  | _ => grind [Op.exec, mem_onError]

end Exec

structure UpdaterInv (w : Manager) : Prop where
  /-- A new `System` is not one that an operation refers to already. -/
  known : ∀ op ∈ w.todo, ∀ r ∈ op.brings, r < w.state.created
  stored : ∀ r, w.Live r → w.state.store = some r

theorem UpdaterInv.oneUpdater {w : Manager} (h : UpdaterInv w) : w.OneUpdater where
  unique r q hr hq := Option.some.inj ((h.stored r hr).symm.trans (h.stored q hq))
  stored := h.stored

theorem UpdaterInv.of_frame {w w' : Manager} (h : UpdaterInv w)
    (hsys : ∀ r, (w'.state.sys r).cancelled = (w.state.sys r).cancelled)
    (hstore : w'.state.store = w.state.store) (hcreated : w'.state.created = w.state.created)
    (htodo : ∀ op ∈ w'.todo, op ∈ w.todo ∨ op.brings = none) : UpdaterInv w' where
  known op hop r hbrings := by
    rw [hcreated]
    rcases htodo op hop with hold | hnone
    · exact h.known op hold r hbrings
    · rw [hnone] at hbrings
      cases hbrings
  stored r hlive := by
    obtain ⟨hselect, hcancelled⟩ := hlive
    rw [hstore]
    rcases htodo _ hselect with hold | hnone
    · exact h.stored r ⟨hold, (hsys r).symm.trans hcancelled⟩
    · cases hnone

theorem UpdaterInv.request {w : Manager} (h : UpdaterInv w) {hub : Hub} {op : Op}
    (hsys : hub.sys = w.state.sys) (hstore : hub.store = w.state.store)
    (hcreated : hub.created = w.state.created) (hbrings : op.brings = none) :
    UpdaterInv (w.request hub op) := by
  refine h.of_frame (fun r => congrArg (fun sys => (sys r).cancelled) hsys) hstore hcreated ?_
  intro pushed hmem
  rcases World.mem_todo_spawn.mp hmem with hold | hnew
  · exact Or.inl hold
  · obtain rfl := List.mem_singleton.mp hnew
    exact Or.inr hbrings

section Run

variable {w : Manager} {i : ℕ} {choice : Choice}

theorem UpdaterInv.known_run (h : UpdaterInv w) (turn : Turn Op.exec w i choice) (op : Op)
    (hop : op ∈ turn.next.todo) (r : ℕ) (hbrings : op.brings = some r) :
    r < turn.out.state.created := by
  have hle := Op.created_le_exec turn.exec
  rcases turn.mem_todo_next hop with hold | hpushed | ⟨thread, hspawned, hop⟩
  · exact Nat.lt_of_lt_of_le (h.known op hold r hbrings) hle
  · rcases Op.brings_of_pushed turn.exec hpushed hbrings with hbefore | hlt
    · exact Nat.lt_of_lt_of_le (h.known turn.op turn.op_mem_todo r hbefore) hle
    · exact hlt
  · have hstores := Op.brings_of_spawned turn.exec hspawned hop hbrings
    exact Nat.lt_of_lt_of_le (h.known turn.op turn.op_mem_todo r (hstores ▸ rfl)) hle

theorem UpdaterInv.stored_of_select (h : UpdaterInv w) (turn : Turn Op.exec w i choice)
    (hvacant : turn.op.TakesVacant w.state) {r : ℕ} (hselect : .select r ∈ w.todo)
    (hcancelled : (turn.out.state.sys r).cancelled = false) :
    turn.out.state.store = some r := by
  have hlt : r < w.state.created := h.known _ hselect r rfl
  have hbefore : (w.state.sys r).cancelled = false := by
    cases hold : (w.state.sys r).cancelled with
    | false => rfl
    | true => rw [Op.cancelled_exec turn.exec hlt hold] at hcancelled; cases hcancelled
  have hstore := h.stored r ⟨hselect, hbefore⟩
  rcases Op.exec_store turn.exec with hsame | ⟨_, hremove, -⟩ | ⟨_, hset, -⟩
  · exact hsame.trans hstore
  · rw [hremove] at hvacant
    exact absurd (hvacant r hstore) (by simp [hbefore])
  · rw [hset] at hvacant
    exact absurd (hvacant r hstore) (by simp [hbefore])

theorem UpdaterInv.stored_run (h : UpdaterInv w) (turn : Turn Op.exec w i choice)
    (hvacant : turn.op.TakesVacant w.state) (r : ℕ) (hlive : Manager.Live turn.next r) :
    turn.out.state.store = some r := by
  obtain ⟨hselect, hcancelled⟩ := hlive
  rcases turn.mem_todo_next hselect with hold | hpushed | ⟨thread, hspawned, hop⟩
  · exact h.stored_of_select turn hvacant hold hcancelled
  · have hloop := Op.select_of_pushed turn.exec hpushed
    exact h.stored_of_select turn hvacant (hloop ▸ turn.op_mem_todo) hcancelled
  · rw [turn.out_eq (Op.brings_of_spawned turn.exec hspawned hop rfl) rfl]

end Run

theorem takesVacant_of_guard {w : Manager} {i : ℕ} {choice : Choice}
    (turn : Turn Op.exec w i choice) (hguard : VacantGuard w (.run i choice)) :
    turn.op.TakesVacant w.state := by
  refine hguard turn.thread turn.get turn.op ?_
  rw [turn.ops]
  rfl

theorem UpdaterInv.step {w w' : Manager} {e : Event} (h : UpdaterInv w) (hguard : VacantGuard w e)
    (hstep : w.step e = some w') : UpdaterInv w' := by
  cases e with
  | create =>
      obtain ⟨-, rfl⟩ := Option.ite_none_right_eq_some.mp hstep |>.imp_right Option.some.inj
      exact h.of_frame (fun _ => rfl) rfl rfl fun _ hop => Or.inl hop
  | save status tokenChanged =>
      obtain ⟨-, rfl⟩ := Option.ite_none_right_eq_some.mp hstep |>.imp_right Option.some.inj
      exact h.request rfl rfl rfl rfl
  | delete =>
      obtain ⟨-, rfl⟩ := Option.ite_none_right_eq_some.mp hstep |>.imp_right Option.some.inj
      exact h.request rfl rfl rfl rfl
  | agentConnect =>
      obtain rfl := Option.some.inj hstep
      exact h.request rfl rfl rfl rfl
  | connectionLost r =>
      obtain rfl := Option.some.inj hstep
      refine h.of_frame (fun q => ?_) rfl rfl fun _ hop => Or.inl hop
      rw [Hub.modify_sys]
      split <;> rfl
  | run i choice =>
      obtain ⟨turn, rfl⟩ := Turn.exists_of_turn hstep
      exact ⟨h.known_run turn, h.stored_run turn (takesVacant_of_guard turn hguard)⟩

theorem updaterInv_init : UpdaterInv Manager.init := by
  refine ⟨fun _ hop => ?_, fun _ hlive => ?_⟩
  · simp [Manager.init, World.todo] at hop
  · simp [Manager.Live, Manager.init, World.todo] at hlive

/-- **At most one live updater for each system**, and it is the stored one. In every run of all
systems in which the manager stores a `System` or clears an entry only while it holds nothing or a
`System` that is cancelled. -/
theorem oneUpdater_of_guarded {w : String → Manager} {events : List (String × Event)}
    (hrun : Guarded (each Manager.step) (fun w e => VacantGuard (w e.1) e.2) (fun _ => .init)
      events w)
    (systemId : String) : (w systemId).OneUpdater := by
  obtain ⟨_, hone⟩ := hrun.component systemId
  exact (hone.invariant (fun _ _ _ h => h.step) updaterInv_init).oneUpdater

/-- The agent connects, and connects again: the second `AddRecord` removes the first `System`. -/
def replacedOnce : List Event :=
  .create :: .agentConnect :: List.replicate 4 (.run 0 .ok) ++
    .agentConnect :: List.replicate 8 (.run 2 .ok)

theorem oneUpdater_replacedOnce :
    ∃ w, Guarded (each Manager.step) (fun w e => VacantGuard (w e.1) e.2) (fun _ => .init)
        (replacedOnce.map (Prod.mk "web")) w ∧ (w "web").Live 1 ∧ (w "web").OneUpdater := by
  have hcheck : ∃ w, check Manager.step VacantGuard .init replacedOnce = some w ∧
      Manager.Live w 1 := ⟨_, rfl, by decide⟩
  obtain ⟨w, hcheck, hlive⟩ := hcheck
  have hrun := (guarded_of_check hcheck).each (fun _ : String => Manager.init) "web"
  exact ⟨_, hrun, by simpa using hlive, oneUpdater_of_guarded hrun "web"⟩

/-- Two connections of the same agent: both have passed `AddSystem`'s look at the manager when they
store their `System`s. -/
def connectedTwice : List Event :=
  .create :: .agentConnect :: .agentConnect :: List.replicate 3 (.run 0 .ok) ++
    List.replicate 3 (.run 1 .ok) ++ [.run 0 .ok, .run 1 .ok]

theorem not_oneUpdater_connectedTwice :
    ∃ w, run (each Manager.step) (fun _ => .init) (connectedTwice.map (Prod.mk "web")) = some w ∧
      (w "web").Live 0 ∧ (w "web").Live 1 ∧ (w "web").state.store = some 1 ∧
      ¬ (w "web").OneUpdater := by
  have hone : ∃ w, run Manager.step .init connectedTwice = some w ∧ Manager.Live w 0 ∧
      Manager.Live w 1 ∧ w.state.store = some 1 := ⟨_, rfl, by decide, by decide, rfl⟩
  obtain ⟨w, hone, hfirst, hsecond, hstore⟩ := hone
  have hrun := run_each (fun _ : String => Manager.init) "web" hone
  refine ⟨_, hrun, ?_⟩
  rw [Function.update_self]
  exact ⟨hfirst, hsecond, hstore, fun h => absurd (h.unique 0 1 hfirst hsecond) (by decide)⟩

end Picket
