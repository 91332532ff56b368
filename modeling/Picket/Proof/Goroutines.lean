import Picket.Lib.Transition
import Picket.Systems

/-!
# What one operation can do

Everything the proofs about the system manager need to know about an operation: which operations
it puts in front of its goroutine, and what it does to the shared state.
-/

namespace Picket

open Threads

/-- The operations between reading a record and saving it: nothing stops the save any more. -/
def Op.pastCheck : Op → Bool
  | .createRecords _ _ | .saveUp _ _ | .setDownRecord _ | .saveDown _ => true
  | _ => false

/-- The `System` that the operation was meant to take out of the manager. -/
def Op.victim : Op → Option ℕ
  | .remove v => some v
  | _ => none

theorem mem_onError {caller : Option ℕ} {op : Op} (hmem : op ∈ onError caller) :
    ∃ r, op = .setDown r := by
  cases caller with
  | none => cases hmem
  | some r => exact ⟨r, List.mem_singleton.mp hmem⟩

@[grind =]
theorem Hub.modify_sys (hub : Hub) (r q : ℕ) (f : System → System) :
    (hub.modify r f).sys q = if q = r then f (hub.sys q) else hub.sys q := by
  by_cases hq : q = r
  · subst hq
    simp [Hub.modify]
  · simp [Hub.modify, hq]

/-- What the loop of an updater does in its `select`. -/
theorem Op.exec_select {hub : Hub} {owner : Option ℕ} {choice : Choice} {r : ℕ}
    {out : Outcome Hub (Option ℕ) Op} (hexec : (Op.select r).exec hub owner choice = some out) :
    (out.state = hub ∨ out.state = hub.modify r fun sys => { sys with wsConn := false }) ∧
      out.spawned = [] ∧ (out.ops = [] ∨ out.ops = [.update r (some r), .select r] ∨
        out.ops = [.setDown r, .select r]) := by
  cases choice <;> grind [Op.exec]

section Exec

variable {hub : Hub} {owner : Option ℕ} {choice : Choice} {op : Op}
  {out : Outcome Hub (Option ℕ) Op}
  (hexec : op.exec hub owner choice = some out)
include hexec

/-- A save is led to by a response, or by `setDown` finding the system neither down nor paused. -/
theorem Op.pastCheck_of_exec {pushed : Op} (hmem : pushed ∈ out.ops) (hpast : pushed.pastCheck) :
    op.pastCheck ∨ (∃ r caller, op = .response r caller ∧ choice = .ok) ∨
      ∃ r, op = .setDown r ∧ (hub.sys r).status ≠ .down ∧ (hub.sys r).status ≠ .paused := by
  cases op with
  | select r => grind [Op.exec_select hexec, Op.pastCheck]
  | _ => grind [Op.exec, Op.pastCheck, mem_onError]

/-- A removal is led to by `RemoveSystem` finding what it is to remove. -/
theorem Op.victim_of_exec {pushed : Op} (hmem : pushed ∈ out.ops) {v : ℕ}
    (hvictim : pushed.victim = some v) : op = .removeSystem ∧ hub.store = some v := by
  cases op with
  | select r => grind [Op.exec_select hexec, Op.victim]
  | _ => grind [Op.exec, Op.victim, mem_onError]

theorem Op.harmless_of_spawned {thread : Thread (Option ℕ) Op} (hmem : thread ∈ out.spawned)
    {pushed : Op} (hop : pushed ∈ thread.ops) :
    pushed.pastCheck = false ∧ pushed.victim = none := by
  cases op with
  | select r => grind [Op.exec_select hexec]
  | _ => grind [Op.exec, Op.pastCheck, Op.victim]

theorem Op.exec_store :
    out.state.store = hub.store ∨ (∃ v, op = .remove v ∧ out.state.store = none) ∨
      ∃ r, op = .storeSystem r ∧ out.state.store = some r := by
  cases op with
  | select r => grind [Op.exec_select hexec, Hub.modify]
  | _ => grind [Op.exec, Hub.modify, Hub.note, Hub.saveStatus]

theorem Op.exec_cancelled {r : ℕ} (hcancelled : (out.state.sys r).cancelled) :
    (hub.sys r).cancelled ∨ op = .cancel r := by
  cases op with
  | select r => grind [Op.exec_select hexec]
  | addWebSocketSystem =>
      simp only [Op.exec] at hexec
      split at hexec
      · cases hexec
        exact Or.inl hcancelled
      · cases hexec
        dsimp only at hcancelled
        rw [Function.update_apply] at hcancelled
        grind
  | _ => grind [Op.exec, Hub.note, Hub.saveStatus]

theorem Op.exec_log :
    out.state.log = hub.log ∨
      (op.pastCheck ∧ out.state.log = ⟨owner, hub.late owner, .wroteRecord⟩ :: hub.log) ∨
      ∃ v, op = .remove v ∧
        out.state.log = ⟨owner, hub.late owner, .removed hub.store⟩ :: hub.log := by
  cases op with
  | select r => grind [Op.exec_select hexec, Hub.modify]
  | _ => grind [Op.exec, Op.pastCheck, Hub.modify, Hub.note, Hub.saveStatus]

theorem Op.exec_record (hcheck : op.pastCheck = false) : out.state.record = hub.record := by
  cases op with
  | select r => grind [Op.exec_select hexec, Hub.modify]
  | _ => grind [Op.exec, Op.pastCheck, Hub.modify, Hub.note]

theorem Op.exec_lastSet : out.state.lastSet = hub.lastSet := by
  cases op with
  | select r => grind [Op.exec_select hexec, Hub.modify]
  | _ => grind [Op.exec, Hub.modify, Hub.note, Hub.saveStatus]

end Exec

theorem Manager.mem_pending_request {w : Manager} {hub : Hub} {op pushed : Op} {r : ℕ}
    (hmem : pushed ∈ (w.request hub op).pending (some r)) : pushed ∈ w.pending (some r) :=
  (World.mem_pending_spawn hmem).resolve_right fun h => nomatch h.1

end Picket
