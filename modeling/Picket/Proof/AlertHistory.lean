import Picket.AlertHistory
import Picket.Lib.AssocList
import Picket.Lib.Transition

/-!
# Alert history matches alert state

A ledger for each alert: the rows that are open, and those about to be opened, on one side; the
resolves under way, and the alert itself if it is triggered, on the other. Every operation keeps the
two sides equal, as long as nobody acts on a record that has changed since it was loaded, and no two
goroutines resolve the same row.
-/

namespace Picket

open Transition Threads

/-! ### The two sides of the ledger -/

def HistoryState.openRows (s : HistoryState) (id : String) : ℕ :=
  s.history.countP fun row => row.alertId = id ∧ ¬ row.resolved

def HistoryState.triggered (s : HistoryState) (id : String) : Bool :=
  (s.findAlert id).any (·.triggered)

def HistoryOp.creates (id : String) (op : HistoryOp) : Bool :=
  op = .createAlertHistoryRecord id

def HistoryOp.resolves (id : String) : HistoryOp → Bool
  | .resolveAlertHistoryRecord id' | .saveResolved id' _ => id' = id
  | _ => false

/-- The row a goroutine has found and is about to resolve. -/
def HistoryOp.found : HistoryOp → Option ℕ
  | .saveResolved _ row => some row
  | _ => none

section State

variable (s : HistoryState) (id id' : String)

theorem openRows_append (row : HistoryRow) :
    HistoryState.openRows { s with history := s.history ++ [row] } id
      = s.openRows id + if row.alertId = id ∧ ¬ row.resolved then 1 else 0 := by
  simp [HistoryState.openRows, List.countP_append, List.countP_singleton]

variable {s} in
theorem openRows_resolve {i : ℕ} {row : HistoryRow} (hrow : s.history[i]? = some row)
    (hopen : row.resolved = false) :
    HistoryState.openRows
        { s with history := s.history.modify i fun row => { row with resolved := true } } id
        + (if row.alertId = id then 1 else 0)
      = s.openRows id := by
  have hcount := List.countP_modify (fun row => row.alertId = id ∧ ¬ row.resolved)
    (fun row => { row with resolved := true }) hrow
  simpa [hopen, HistoryState.openRows] using hcount

theorem findAlert_setTriggered (triggered : Bool) :
    (s.setTriggered id triggered).findAlert id'
      = (s.findAlert id').map fun alert =>
          if alert.id = id then { alert with triggered := triggered } else alert := by
  have hid : ((fun alert : AlertRecord => decide (alert.id = id'))
      ∘ fun alert => if alert.id = id then { alert with triggered := triggered } else alert)
      = fun alert => decide (alert.id = id') := by
    funext alert
    simp only [Function.comp_apply]
    split <;> rfl
  rw [HistoryState.findAlert, HistoryState.setTriggered, List.find?_map, hid,
    HistoryState.findAlert]

variable {s id} in
theorem id_of_findAlert {alert : AlertRecord} (hfind : s.findAlert id = some alert) :
    alert.id = id := by
  simpa using List.find?_some hfind

variable {s id} in
theorem triggered_of_findAlert {alert : AlertRecord} (hfind : s.findAlert id = some alert) :
    s.triggered id = alert.triggered := by
  rw [HistoryState.triggered, hfind]
  rfl

variable {s} in
theorem triggered_setTriggered {triggered : Bool} (hexists : (s.findAlert id).isSome) :
    (s.setTriggered id triggered).triggered id'
      = if id' = id then triggered else s.triggered id' := by
  unfold HistoryState.triggered
  rw [findAlert_setTriggered]
  cases hfind : s.findAlert id' with
  | none =>
      have hne : id' ≠ id := by
        rintro rfl
        rw [hfind] at hexists
        cases hexists
      rw [if_neg hne]
      rfl
  | some alert =>
      obtain rfl := id_of_findAlert hfind
      by_cases heq : alert.id = id
      · rw [if_pos heq, Option.map_some, if_pos heq]
        rfl
      · rw [if_neg heq, Option.map_some, if_neg heq]

theorem findAlert_delete :
    HistoryState.findAlert { s with alerts := s.alerts.filter (·.id ≠ id) } id'
      = if id' = id then none else s.findAlert id' := by
  unfold HistoryState.findAlert
  rw [List.find?_filter]
  simp only [decide_eq_true_eq]
  split
  case isTrue heq =>
    subst heq
    rw [List.find?_eq_none]
    intro alert _ hboth
    have hboth := of_decide_eq_true hboth
    exact hboth.1 hboth.2
  case isFalse hne =>
    congr 1
    funext alert
    refine decide_eq_decide.mpr ⟨fun hboth => hboth.2, fun hid => ⟨?_, hid⟩⟩
    rintro rfl
    exact hne hid.symm

theorem triggered_delete :
    HistoryState.triggered { s with alerts := s.alerts.filter (·.id ≠ id) } id'
      = if id' = id then false else s.triggered id' := by
  unfold HistoryState.triggered
  rw [findAlert_delete]
  split <;> rfl

variable {s id} in
theorem triggered_create {alert : AlertRecord} (halert : alert.triggered = false) :
    HistoryState.triggered { s with alerts := s.alerts ++ [alert] } id' = s.triggered id' := by
  unfold HistoryState.triggered HistoryState.findAlert
  rw [List.find?_append]
  cases s.alerts.find? (·.id = id') with
  | some old => rfl
  | none => by_cases hid : alert.id = id' <;> simp [hid, halert]

end State

/-! ### What one operation does to it -/

/-- What is saved or deleted has not changed since it was loaded, and what is to be resolved is
found, and by nobody else. -/
def HistoryOp.Current (w : HistoryWorld) (choice : ℕ) : HistoryOp → Prop
  | .saveAlert id original _ | .deleteAlert id original =>
      ∃ alert ∈ w.state.findAlert id, alert.triggered = original
  | .resolveAlertHistoryRecord id =>
      (∃ row ∈ w.state.history, row.alertId = id ∧ row.resolved = false) ∧
        choice ∉ w.todo.filterMap HistoryOp.found
  | _ => True

instance (w : HistoryWorld) (choice : ℕ) (op : HistoryOp) : Decidable (op.Current w choice) := by
  unfold HistoryOp.Current
  split <;> infer_instance

section Hooks

@[simp] theorem creates_saveAlert (id id' : String) (original triggered : Bool) :
    (HistoryOp.saveAlert id' original triggered).creates id = false := rfl

@[simp] theorem resolves_saveAlert (id id' : String) (original triggered : Bool) :
    (HistoryOp.saveAlert id' original triggered).resolves id = false := rfl

@[simp] theorem creates_deleteAlert (id id' : String) (triggered : Bool) :
    (HistoryOp.deleteAlert id' triggered).creates id = false := rfl

@[simp] theorem resolves_deleteAlert (id id' : String) (triggered : Bool) :
    (HistoryOp.deleteAlert id' triggered).resolves id = false := rfl

variable {id id' : String}

/-- A deletion leaves the history as a save that turns the alert off does. -/
theorem resolveHistoryOnAlertDelete_eq (id : String) (triggered : Bool) :
    resolveHistoryOnAlertDelete id triggered = updateHistoryOnAlertUpdate id triggered false := by
  cases triggered <;> rfl

theorem balance_updateHistory (id : String) (original triggered : Bool) :
    (updateHistoryOnAlertUpdate id original triggered).countP (·.creates id)
        + (if original then 1 else 0)
      = (updateHistoryOnAlertUpdate id original triggered).countP (·.resolves id)
        + if triggered then 1 else 0 := by
  cases original <;> cases triggered <;>
    simp [updateHistoryOnAlertUpdate, HistoryOp.creates, HistoryOp.resolves]

theorem other_updateHistory (original triggered : Bool) (hne : id' ≠ id) :
    (updateHistoryOnAlertUpdate id' original triggered).countP (·.creates id) = 0 ∧
      (updateHistoryOnAlertUpdate id' original triggered).countP (·.resolves id) = 0 := by
  cases original <;> cases triggered <;>
    simp [updateHistoryOnAlertUpdate, HistoryOp.creates, HistoryOp.resolves, hne]

end Hooks

section Exec

variable {w : HistoryWorld} {choice : ℕ} {op : HistoryOp}
  {out : Outcome HistoryState Unit HistoryOp} (hexec : op.exec w.state () choice = some out)
include hexec

theorem HistoryOp.exec_spawned : out.spawned = [] := by
  cases op <;> grind [HistoryOp.exec]

theorem HistoryOp.exec_found {next : HistoryOp} {row : ℕ} (hnext : next ∈ out.ops)
    (hrow : next.found = some row) : ∃ id, op = .resolveAlertHistoryRecord id := by
  cases op <;> grind [HistoryOp.exec, HistoryOp.found, updateHistoryOnAlertUpdate,
    resolveHistoryOnAlertDelete]

theorem HistoryOp.exec_history {row : ℕ} {r : HistoryRow} (hrow : w.state.history[row]? = some r)
    (hother : op.found ≠ some row) : out.state.history[row]? = some r := by
  cases op with
  | createAlertHistoryRecord id =>
      obtain rfl := Option.some.inj hexec
      obtain ⟨hlt, -⟩ := List.getElem?_eq_some_iff.mp hrow
      exact (List.getElem?_append_left hlt).trans hrow
  | saveResolved id other =>
      obtain rfl := Option.some.inj hexec
      have hne : other ≠ row := fun heq => hother (congrArg some heq)
      rw [List.getElem?_modify, hrow, Option.map_eq_map, Option.map_some, if_neg hne]
  | _ => grind [HistoryOp.exec, HistoryState.setTriggered]

theorem HistoryOp.exec_resolve {id : String} (hop : op = .resolveAlertHistoryRecord id)
    (hcurrent : op.Current w choice) :
    out = { state := w.state, ops := [.saveResolved id choice] } ∧
      w.state.history[choice]? = some { alertId := id, resolved := false } := by
  subst hop
  obtain ⟨⟨row, hrow, hid, hopen⟩, -⟩ := hcurrent
  have hsome : ¬ ∀ row ∈ w.state.history, row.alertId = id → row.resolved := by
    intro hall
    rw [hall row hrow hid] at hopen
    cases hopen
  rw [HistoryOp.exec, if_neg hsome] at hexec
  cases hchoice : w.state.history[choice]? with
  | none => simp [hchoice] at hexec
  | some found =>
      simp only [hchoice, Option.ite_none_right_eq_some, Option.some.injEq] at hexec
      obtain ⟨⟨rfl, hfound⟩, rfl⟩ := hexec
      obtain ⟨alertId, resolved⟩ := found
      obtain rfl : resolved = false := by simpa using hfound
      exact ⟨rfl, rfl⟩

/-- **The ledger stays balanced.** -/
theorem HistoryOp.exec_ledger (hcurrent : op.Current w choice)
    (hfound : ∀ id row, op = .saveResolved id row →
      w.state.history[row]? = some { alertId := id, resolved := false }) (id : String) :
    out.state.openRows id + out.ops.countP (·.creates id) + (if op.resolves id then 1 else 0)
        + (if w.state.triggered id then 1 else 0)
      = w.state.openRows id + (if op.creates id then 1 else 0) + out.ops.countP (·.resolves id)
        + if out.state.triggered id then 1 else 0 := by
  cases hop : op with
  | setAlertTriggered id' triggered =>
      subst hop
      rw [HistoryOp.exec] at hexec
      split at hexec <;> obtain rfl := Option.some.inj hexec <;> simp [creates, resolves]
  | saveAlert id' original triggered =>
      subst hop
      obtain rfl := Option.some.inj hexec
      obtain ⟨alert, halert, rfl⟩ := hcurrent
      have hbefore : w.state.triggered id' = alert.triggered := triggered_of_findAlert halert
      have hafter : (w.state.setTriggered id' triggered).triggered id
          = if id = id' then triggered else w.state.triggered id :=
        triggered_setTriggered id' id (Option.isSome_iff_exists.mpr ⟨alert, halert⟩)
      have hrows : (w.state.setTriggered id' triggered).openRows id = w.state.openRows id := rfl
      dsimp only
      rw [hafter, hrows]
      by_cases hid : id = id'
      · subst hid
        have hbalance := balance_updateHistory id alert.triggered triggered
        rw [hbefore, if_pos rfl, creates_saveAlert, resolves_saveAlert, if_neg Bool.false_ne_true]
        omega
      · obtain ⟨hcreates, hresolves⟩ := other_updateHistory alert.triggered triggered (Ne.symm hid)
        rw [hcreates, hresolves, if_neg hid, creates_saveAlert, resolves_saveAlert]
        rfl
  | deactivateAlerts system =>
      subst hop
      obtain rfl := Option.some.inj hexec
      simp [creates, resolves, List.countP_map, Function.comp_def]
  | findAlert id' =>
      subst hop
      rw [HistoryOp.exec] at hexec
      split at hexec <;> obtain rfl := Option.some.inj hexec <;> simp [creates, resolves]
  | deleteAlert id' triggered =>
      subst hop
      obtain rfl := Option.some.inj hexec
      obtain ⟨alert, halert, rfl⟩ := hcurrent
      have hbefore : w.state.triggered id' = alert.triggered := triggered_of_findAlert halert
      have hrows : HistoryState.openRows
          { w.state with alerts := w.state.alerts.filter (·.id ≠ id') } id
            = w.state.openRows id := rfl
      dsimp only
      rw [triggered_delete, hrows]
      by_cases hid : id = id'
      · subst hid
        have hbalance := balance_updateHistory id alert.triggered false
        rw [← resolveHistoryOnAlertDelete_eq, if_neg Bool.false_ne_true] at hbalance
        rw [hbefore, if_pos rfl, creates_deleteAlert, resolves_deleteAlert,
          if_neg Bool.false_ne_true]
        omega
      · obtain ⟨hcreates, hresolves⟩ := other_updateHistory alert.triggered false (Ne.symm hid)
        rw [resolveHistoryOnAlertDelete_eq, hcreates, hresolves, if_neg hid, creates_deleteAlert,
          resolves_deleteAlert]
        rfl
  | createAlertHistoryRecord id' =>
      subst hop
      obtain rfl := Option.some.inj hexec
      have htriggered : HistoryState.triggered { w.state with
          history := w.state.history ++ [{ alertId := id', resolved := false }] } id
            = w.state.triggered id := rfl
      dsimp only
      rw [openRows_append, htriggered]
      simp [creates, resolves]
  | resolveAlertHistoryRecord id' =>
      obtain ⟨rfl, -⟩ := HistoryOp.exec_resolve hexec hop hcurrent
      simp [creates, resolves]
  | saveResolved id' row =>
      have hrow := hfound id' row hop
      subst hop
      obtain rfl := Option.some.inj hexec
      have hrows := openRows_resolve id hrow rfl
      have htriggered : HistoryState.triggered { w.state with
          history := w.state.history.modify row fun row => { row with resolved := true } } id
            = w.state.triggered id := rfl
      dsimp only at hrows ⊢
      rw [htriggered]
      simp only [creates, resolves, decide_eq_true_eq, List.countP_nil, reduceCtorEq, if_false]
      omega

end Exec

/-! ### Runs -/

def HistoryGuard (w : HistoryWorld) : HistoryEvent → Prop
  | .run i choice => ∀ thread ∈ w.threads[i]?, ∀ op ∈ thread.ops.head?, op.Current w choice
  | _ => True

instance (w : HistoryWorld) (e : HistoryEvent) : Decidable (HistoryGuard w e) := by
  unfold HistoryGuard
  split <;> infer_instance

structure HistoryInv (w : HistoryWorld) : Prop where
  balance : ∀ id, w.state.openRows id + w.todo.countP (·.creates id)
    = w.todo.countP (·.resolves id) + if w.state.triggered id then 1 else 0
  found : ∀ id row, .saveResolved id row ∈ w.todo →
    w.state.history[row]? = some { alertId := id, resolved := false }
  distinct : (w.todo.filterMap HistoryOp.found).Nodup

section Run

variable {w : HistoryWorld} {i choice : ℕ} (turn : Turn HistoryOp.exec w i choice)
  (hcurrent : turn.op.Current w choice) (h : HistoryInv w)

theorem found_perm :
    ((turn.op :: turn.next.todo).filterMap HistoryOp.found).Perm
      (w.todo.filterMap HistoryOp.found ++ turn.out.ops.filterMap HistoryOp.found) := by
  have hperm := turn.todo_perm.filterMap HistoryOp.found
  rw [HistoryOp.exec_spawned turn.exec] at hperm
  rwa [List.flatMap_nil, List.append_nil, List.filterMap_append] at hperm

include hcurrent h

theorem HistoryInv.balance_run (id : String) :
    turn.next.state.openRows id + turn.next.todo.countP (·.creates id)
      = turn.next.todo.countP (·.resolves id)
        + if turn.next.state.triggered id then 1 else 0 := by
  have hledger := HistoryOp.exec_ledger turn.exec hcurrent
    (fun id row hop => h.found id row (hop ▸ turn.op_mem_todo)) id
  have hcreates := turn.countP_todo (·.creates id)
  have hresolves := turn.countP_todo (·.resolves id)
  have hbalance := h.balance id
  rw [HistoryOp.exec_spawned turn.exec, List.flatMap_nil, List.countP_nil] at hcreates hresolves
  rw [turn.next_state]
  omega

theorem HistoryInv.distinct_run :
    ((turn.op :: turn.next.todo).filterMap HistoryOp.found).Nodup := by
  rw [(found_perm turn).nodup_iff]
  by_cases hresolve : ∃ id, turn.op = .resolveAlertHistoryRecord id
  · obtain ⟨id, hop⟩ := hresolve
    have hout := (HistoryOp.exec_resolve turn.exec hop hcurrent).1
    rw [hop] at hcurrent
    rw [hout]
    refine List.nodup_append.mpr ⟨h.distinct, List.nodup_singleton choice, ?_⟩
    rintro row hrow _ hnew rfl
    obtain rfl := List.mem_singleton.mp hnew
    exact hcurrent.2 hrow
  · have hnone : turn.out.ops.filterMap HistoryOp.found = [] := by
      rw [List.filterMap_eq_nil_iff]
      intro next hnext
      by_contra hsome
      obtain ⟨row, hrow⟩ := Option.ne_none_iff_exists'.mp hsome
      exact hresolve (HistoryOp.exec_found turn.exec hnext hrow)
    rw [hnone, List.append_nil]
    exact h.distinct

theorem HistoryInv.found_run (id : String) (row : ℕ)
    (hop : .saveResolved id row ∈ turn.next.todo) :
    turn.next.state.history[row]? = some { alertId := id, resolved := false } := by
  rcases turn.mem_todo_next hop with hold | hnew | ⟨thread, hthread, -⟩
  · apply HistoryOp.exec_history turn.exec (h.found id row hold)
    intro hsame
    have hdistinct := h.distinct_run turn hcurrent
    rw [List.filterMap_cons_some hsame, List.nodup_cons] at hdistinct
    exact hdistinct.1 (List.mem_filterMap.mpr ⟨_, hop, rfl⟩)
  · obtain ⟨id', hresolve⟩ := HistoryOp.exec_found turn.exec hnew rfl
    obtain ⟨hout, hrow⟩ := HistoryOp.exec_resolve turn.exec hresolve hcurrent
    rw [hout, List.mem_singleton, HistoryOp.saveResolved.injEq] at hnew
    obtain ⟨rfl, rfl⟩ := hnew
    rw [turn.next_state, hout]
    exact hrow
  · rw [HistoryOp.exec_spawned turn.exec] at hthread
    cases hthread

theorem HistoryInv.run : HistoryInv turn.next where
  balance := h.balance_run turn hcurrent
  found := h.found_run turn hcurrent
  distinct := by
    have hdistinct := h.distinct_run turn hcurrent
    exact hdistinct.sublist ((List.sublist_cons_self _ _).filterMap _)

end Run

theorem HistoryInv.spawn {w : HistoryWorld} (h : HistoryInv w) {op : HistoryOp}
    (hcreates : ∀ id, op.creates id = false) (hresolves : ∀ id, op.resolves id = false)
    (hfound : op.found = none) : HistoryInv (w.spawn ⟨(), [op]⟩) := by
  have htodo : (w.spawn ⟨(), [op]⟩).todo = w.todo ++ [op] := by simp [World.todo, World.spawn]
  constructor
  · intro id
    rw [htodo, List.countP_append, List.countP_append, List.countP_singleton,
      List.countP_singleton, hcreates, hresolves]
    exact h.balance id
  · intro id row hop
    rw [htodo] at hop
    rcases List.mem_append.mp hop with hold | hnew
    · exact h.found id row hold
    · rw [← List.mem_singleton.mp hnew] at hfound
      cases hfound
  · rw [htodo, List.filterMap_append]
    simpa [hfound] using h.distinct

theorem HistoryInv.step {w w' : HistoryWorld} {e : HistoryEvent} (h : HistoryInv w)
    (hguard : HistoryGuard w e) (hstep : w.step e = some w') : HistoryInv w' := by
  cases e with
  | create id system =>
      cases hfind : w.state.findAlert id with
      | some alert => simp [HistoryWorld.step, hfind] at hstep
      | none =>
          simp only [HistoryWorld.step, hfind, Option.some.injEq] at hstep
          subst hstep
          refine ⟨fun id' => ?_, h.found, h.distinct⟩
          rw [triggered_create id' rfl]
          exact h.balance id'
  | sendAlert id triggered =>
      obtain rfl := Option.some.inj hstep
      exact h.spawn (fun _ => rfl) (fun _ => rfl) rfl
  | deactivateAlerts system =>
      obtain rfl := Option.some.inj hstep
      exact h.spawn (fun _ => rfl) (fun _ => rfl) rfl
  | delete id =>
      obtain rfl := Option.some.inj hstep
      exact h.spawn (fun _ => rfl) (fun _ => rfl) rfl
  | run i choice =>
      obtain ⟨turn, rfl⟩ := Turn.exists_of_turn hstep
      refine h.run turn (hguard turn.thread turn.get turn.op ?_)
      rw [turn.ops]
      rfl

theorem historyInv_init : HistoryInv { state := {} } :=
  ⟨fun _ => rfl, fun _ _ hop => absurd hop List.not_mem_nil, List.nodup_nil⟩

/-- One open row for an alert that is triggered, none for any other. -/
def HistoryState.Matches (s : HistoryState) : Prop :=
  ∀ id, s.openRows id = if s.triggered id then 1 else 0

/-- **Alert history matches alert state** when no handler is in progress, in every run in which
nobody saves or deletes an alert that has changed since it was loaded, and whoever resolves finds an
open row that nobody else has found. -/
theorem history_matches_of_guarded {events : List HistoryEvent} {w : HistoryWorld}
    (hrun : Guarded HistoryWorld.step HistoryGuard { state := {} } events w)
    (hrest : w.todo = []) : w.state.Matches := by
  intro id
  have hbalance :=
    (hrun.invariant (fun _ _ _ h => h.step) historyInv_init).balance id
  rw [hrest] at hbalance
  simpa using hbalance

/-- The alert is triggered, and resolved with its system's pause. -/
def triggeredAndPaused : List HistoryEvent :=
  [.create "a" "s", .sendAlert "a" true, .run 0 0, .run 0 0, .run 0 0, .deactivateAlerts "s",
    .run 1 0, .run 1 0, .run 1 0, .run 1 0]

theorem history_matches_triggeredAndPaused :
    ∃ w, Guarded HistoryWorld.step HistoryGuard { state := {} } triggeredAndPaused w ∧
      w.todo = [] ∧ w.state.history = [{ alertId := "a", resolved := true }] ∧ w.state.Matches := by
  have hcheck : ∃ w, check HistoryWorld.step HistoryGuard { state := {} } triggeredAndPaused
      = some w ∧ w.todo = [] ∧ w.state.history = [{ alertId := "a", resolved := true }] :=
    ⟨_, rfl, rfl, rfl⟩
  obtain ⟨w, hcheck, hrest, hhistory⟩ := hcheck
  exact ⟨w, guarded_of_check hcheck, hrest, hhistory,
    history_matches_of_guarded (guarded_of_check hcheck) hrest⟩

/-- Two goroutines have both loaded the alert when it was not triggered yet. -/
def triggeredTwice : List HistoryEvent :=
  [.create "a" "s", .sendAlert "a" true, .sendAlert "a" true, .run 0 0, .run 1 0, .run 0 0,
    .run 0 0, .run 1 0, .run 1 0]

theorem not_history_matches_triggeredTwice :
    ∃ w, run HistoryWorld.step { state := {} } triggeredTwice = some w ∧ w.todo = [] ∧
      ¬ w.state.Matches := by
  have hrun : ∃ w, run HistoryWorld.step { state := {} } triggeredTwice = some w ∧ w.todo = [] ∧
      w.state.openRows "a" = 2 ∧ w.state.triggered "a" = true :=
    ⟨_, rfl, rfl, rfl, rfl⟩
  obtain ⟨w, hrun, hrest, hopen, htriggered⟩ := hrun
  refine ⟨w, hrun, hrest, fun hmatches => ?_⟩
  have hone := hmatches "a"
  rw [hopen, htriggered] at hone
  exact absurd hone (by decide)

end Picket
