import Picket.AlertTimers
import Picket.Lib.Transition

/-!
# Down notifications are delayed

An entry expires one delay after it was scheduled, and its timer fires no earlier. What a callback
takes is the entry under its alert's id, though, which need not be the entry its timer was started
for. As long as it is, and no new outage starts between the taking and the sending, a notification
is never early.
-/

namespace Picket

open Transition Threads AssocList

/-! ### What one operation can do -/

/-- The alert whose `down` notification a goroutine is about to send, having taken its entry. -/
def TimerOp.sends : TimerOp → Option String
  | .refresh id => some id
  | .sendStatusAlert alertStatus id | .sendAlert alertStatus id =>
      if alertStatus = .down then some id else none
  | _ => none

/-- The entry expires no earlier than the delay of its alert after its outage has started. -/
def AlertInfo.Late (s : TimerState) (info : AlertInfo) : Prop :=
  ∀ start, info.outage = some start → start + s.delay info.alertId ≤ info.expireTime

def AlertInfo.SameEntry (info info' : AlertInfo) : Prop :=
  info'.alertId = info.alertId ∧ info'.expireTime = info.expireTime ∧ info'.outage = info.outage

theorem AlertInfo.Late.congr {s s' : TimerState} {info info' : AlertInfo} (hlate : info.Late s)
    (hsame : info.SameEntry info') (hmin : s'.min = s.min) : info'.Late s' := by
  intro start hstart
  rw [TimerState.delay, hmin, hsame.1, hsame.2.1]
  exact hlate start (hsame.2.2 ▸ hstart)

section Modify

variable {f : AlertInfo → AlertInfo} (hf : ∀ info, AlertInfo.SameEntry info (f info))
  {infos : List AlertInfo} {i : ℕ} {info : AlertInfo} (ref : ℕ)
include hf

theorem getElem?_modify_same (hinfo : infos[i]? = some info) :
    ∃ info', (infos.modify ref f)[i]? = some info' ∧ info.SameEntry info' := by
  rw [List.getElem?_modify, hinfo]
  by_cases href : ref = i
  · exact ⟨f info, by simp [href], hf info⟩
  · exact ⟨info, by simp [href], rfl, rfl, rfl⟩

theorem mem_modify_same (hinfo : info ∈ infos.modify ref f) :
    ∃ old ∈ infos, old.SameEntry info := by
  obtain ⟨old, hold, rfl | rfl⟩ := List.mem_modify_imp hinfo
  · exact ⟨info, hold, rfl, rfl, rfl⟩
  · exact ⟨old, hold, hf old⟩

end Modify

namespace TimerOp

variable {s : TimerState} {choice : Bool} {op : TimerOp} {out : Outcome TimerState Unit TimerOp}
  (hexec : op.exec s () choice = some out)
include hexec

theorem exec_frame : out.state.now = s.now ∧ out.state.outage = s.outage ∧
    out.state.min = s.min ∧ out.spawned = [] := by
  cases op <;> grind [TimerOp.exec]

theorem exec_get {i : ℕ} {info : AlertInfo} (hinfo : s.infos[i]? = some info) :
    ∃ info', out.state.infos[i]? = some info' ∧ info.SameEntry info' := by
  have hkept : ∃ info', s.infos[i]? = some info' ∧ info.SameEntry info' :=
    ⟨info, hinfo, rfl, rfl, rfl⟩
  cases op with
  | afterFunc ref =>
      obtain rfl := Option.some.inj hexec
      refine getElem?_modify_same (fun info => ?_) ref hinfo
      exact ⟨rfl, rfl, rfl⟩
  | setTimer ref =>
      obtain rfl := Option.some.inj hexec
      refine getElem?_modify_same (fun info => ?_) ref hinfo
      exact ⟨rfl, rfl, rfl⟩
  | stopTimer ref =>
      obtain rfl := Option.some.inj hexec
      refine getElem?_modify_same (fun info => ?_) ref hinfo
      split <;> exact ⟨rfl, rfl, rfl⟩
  | loadOrStore id expireTime outage =>
      obtain ⟨hlt, -⟩ := List.getElem?_eq_some_iff.mp hinfo
      rw [TimerOp.exec] at hexec
      split at hexec
      · obtain rfl := Option.some.inj hexec
        exact hkept
      · obtain rfl := Option.some.inj hexec
        refine ⟨info, ?_, rfl, rfl, rfl⟩
        rw [List.getElem?_append_left hlt, hinfo]
  | _ => grind [TimerOp.exec]

theorem exec_infos {info : AlertInfo} (hinfo : info ∈ out.state.infos) :
    (∃ old ∈ s.infos, old.SameEntry info) ∨
      op = .loadOrStore info.alertId info.expireTime info.outage := by
  have hkept : info ∈ s.infos → ∃ old ∈ s.infos, old.SameEntry info :=
    fun hold => ⟨info, hold, rfl, rfl, rfl⟩
  cases op with
  | afterFunc ref =>
      obtain rfl := Option.some.inj hexec
      refine .inl (mem_modify_same (fun info => ?_) ref hinfo)
      exact ⟨rfl, rfl, rfl⟩
  | setTimer ref =>
      obtain rfl := Option.some.inj hexec
      refine .inl (mem_modify_same (fun info => ?_) ref hinfo)
      exact ⟨rfl, rfl, rfl⟩
  | stopTimer ref =>
      obtain rfl := Option.some.inj hexec
      refine .inl (mem_modify_same (fun info => ?_) ref hinfo)
      split <;> exact ⟨rfl, rfl, rfl⟩
  | loadOrStore id expireTime outage =>
      rw [TimerOp.exec] at hexec
      split at hexec
      · obtain rfl := Option.some.inj hexec
        exact .inl (hkept hinfo)
      · obtain rfl := Option.some.inj hexec
        rcases List.mem_append.mp hinfo with hold | hnew
        · exact .inl (hkept hold)
        · rw [List.mem_singleton.mp hnew]
          exact .inr rfl
  | _ => grind [TimerOp.exec]

theorem exec_stores {id : String} {expireTime : ℤ} {outage : Option ℤ}
    (hop : .loadOrStore id expireTime outage ∈ out.ops) :
    expireTime = s.now + s.delay id ∧ outage = s.outage := by
  cases op <;> grind [TimerOp.exec]

theorem exec_callbacks {id : String} {ref : ℕ} : .processPendingAlert id ref ∉ out.ops := by
  cases op <;> grind [TimerOp.exec]

theorem exec_sends {next : TimerOp} {id : String} (hnext : next ∈ out.ops)
    (hsends : next.sends = some id) :
    op.sends = some id ∨ ∃ ref ref', op = .processPendingAlert id ref ∧
      s.pendingAlerts.lookup id = some ref' := by
  cases op <;> grind [TimerOp.exec, TimerOp.sends]

theorem exec_sent {n : Notification} (hn : n ∈ out.state.sent) :
    n ∈ s.sent ∨ (op = .sendAlert n.status n.alertId ∧ n.time = s.now ∧ n.outage = s.outage) := by
  cases op <;> grind [TimerOp.exec]

theorem exec_unique (hunique : (s.pendingAlerts.map Prod.fst).Nodup) :
    (out.state.pendingAlerts.map Prod.fst).Nodup := by
  cases op <;> grind [TimerOp.exec, nodup_delete, nodup_insert]

end TimerOp

/-! ### Runs -/

/-- A callback takes the entry its timer was started for, of the outage in progress, or none. -/
def TimerOp.TakesOwn (s : TimerState) : TimerOp → Prop
  | .processPendingAlert id ref => ∀ ref' ∈ s.pendingAlerts.lookup id,
      ref' = ref ∧ (s.outage = none ∨ ∀ info ∈ s.infos[ref]?, info.outage = s.outage)
  | _ => True

instance (s : TimerState) (op : TimerOp) : Decidable (op.TakesOwn s) := by
  unfold TimerOp.TakesOwn
  split <;> infer_instance

/-- No outage starts while a taken entry is about to be sent, and callbacks take their own. -/
def TimerGuard (w : TimerWorld) : TimerEvent → Prop
  | .down => ∀ op ∈ w.todo, op.sends = none
  | .run i _ => ∀ thread ∈ w.threads[i]?, ∀ op ∈ thread.ops.head?, op.TakesOwn w.state
  | _ => True

instance (w : TimerWorld) (e : TimerEvent) : Decidable (TimerGuard w e) := by
  unfold TimerGuard
  split <;> infer_instance

/-- Entries are unique, and no `down` notification was sent before its alert's delay had passed
since the outage then in progress started. -/
structure TimerWorld.Delayed (w : TimerWorld) : Prop where
  unique : (w.state.pendingAlerts.map Prod.fst).Nodup
  sent : ∀ n ∈ w.state.sent, n.status = .down → ∀ start, n.outage = some start →
    start + w.state.delay n.alertId ≤ n.time

structure TimerInv (w : TimerWorld) : Prop where
  outage : ∀ start, w.state.outage = some start → start ≤ w.state.now
  infos : ∀ info ∈ w.state.infos, info.Late w.state
  stored : ∀ id expireTime outage, TimerOp.loadOrStore id expireTime outage ∈ w.todo →
    AlertInfo.Late w.state { alertId := id, expireTime := expireTime, outage := outage }
  callbacks : ∀ id ref, TimerOp.processPendingAlert id ref ∈ w.todo →
    ∃ info, w.state.infos[ref]? = some info ∧ info.alertId = id ∧ info.expireTime ≤ w.state.now
  taken : ∀ op ∈ w.todo, ∀ id, op.sends = some id → ∀ start, w.state.outage = some start →
    start + w.state.delay id ≤ w.state.now
  delayed : w.Delayed

section Run

variable {w : TimerWorld} {i : ℕ} {choice : Bool} (turn : Turn TimerOp.exec w i choice)
  (hown : turn.op.TakesOwn w.state) (h : TimerInv w)
include h

theorem TimerInv.late_next {info : AlertInfo} (hinfo : info ∈ turn.out.state.infos) :
    info.Late turn.out.state := by
  obtain ⟨-, -, hmin, -⟩ := TimerOp.exec_frame turn.exec
  rcases TimerOp.exec_infos turn.exec hinfo with ⟨old, hold, hsame⟩ | hstore
  · exact (h.infos old hold).congr hsame hmin
  · have hop := turn.op_mem_todo
    rw [hstore] at hop
    exact (h.stored _ _ _ hop).congr ⟨rfl, rfl, rfl⟩ hmin

include hown in
/-- A callback takes an entry that has expired, so its delay has passed. -/
theorem TimerInv.taken_own {id : String} {ref ref' : ℕ}
    (hop : turn.op = .processPendingAlert id ref)
    (hfound : w.state.pendingAlerts.lookup id = some ref') {start : ℤ}
    (hstart : w.state.outage = some start) : start + w.state.delay id ≤ w.state.now := by
  have hmem := turn.op_mem_todo
  rw [hop] at hmem hown
  obtain ⟨info, hinfo, rfl, hexpired⟩ := h.callbacks id ref hmem
  obtain ⟨-, hnone | hcurrent⟩ := hown ref' hfound
  · cases hnone.symm.trans hstart
  · have hlate := h.infos info (List.mem_of_getElem? hinfo)
    exact (hlate start ((hcurrent info hinfo).trans hstart)).trans hexpired

include hown in
theorem TimerInv.run : TimerInv turn.next := by
  obtain ⟨hnow, houtage, hmin, hspawned⟩ := TimerOp.exec_frame turn.exec
  have hdelay : ∀ id, turn.out.state.delay id = w.state.delay id := by
    intro id
    rw [TimerState.delay, hmin, TimerState.delay]
  have hpushed : ∀ {op}, op ∈ turn.next.todo → op ∈ w.todo ∨ op ∈ turn.out.ops := by
    intro op hop
    rcases turn.mem_todo_next hop with hold | hnew | ⟨thread, hthread, -⟩
    · exact .inl hold
    · exact .inr hnew
    · rw [hspawned] at hthread
      cases hthread
  constructor
  case outage =>
    intro start hstart
    rw [turn.next_state, houtage] at hstart
    rw [turn.next_state, hnow]
    exact h.outage start hstart
  case infos => exact fun info hinfo => h.late_next turn hinfo
  case stored =>
    intro id expireTime outage hop start hstart
    rw [turn.next_state, hdelay]
    rcases hpushed hop with hold | hnew
    · exact h.stored id expireTime outage hold start hstart
    · obtain ⟨rfl, rfl⟩ := TimerOp.exec_stores turn.exec hnew
      have hle := h.outage start hstart
      dsimp only
      omega
  case callbacks =>
    intro id ref hop
    rcases hpushed hop with hold | hnew
    · obtain ⟨info, hinfo, hid, hexpired⟩ := h.callbacks id ref hold
      obtain ⟨info', hinfo', hsame⟩ := TimerOp.exec_get turn.exec hinfo
      refine ⟨info', hinfo', hsame.1.trans hid, ?_⟩
      rw [turn.next_state, hnow, hsame.2.1]
      exact hexpired
    · exact absurd hnew (TimerOp.exec_callbacks turn.exec)
  case taken =>
    intro op hop id hsends start hstart
    rw [turn.next_state, houtage] at hstart
    rw [turn.next_state, hnow, hdelay]
    rcases hpushed hop with hold | hnew
    · exact h.taken op hold id hsends start hstart
    · rcases TimerOp.exec_sends turn.exec hnew hsends with hbefore | ⟨ref, ref', hcallback, hfound⟩
      · exact h.taken turn.op turn.op_mem_todo id hbefore start hstart
      · exact h.taken_own turn hown hcallback hfound hstart
  case delayed =>
    constructor
    · exact TimerOp.exec_unique turn.exec h.delayed.unique
    · intro n hn hdown start hstart
      rw [turn.next_state, hdelay]
      rcases TimerOp.exec_sent turn.exec hn with hold | ⟨hsend, htime, houtage'⟩
      · exact h.delayed.sent n hold hdown start hstart
      · have hsends : turn.op.sends = some n.alertId := by
          rw [hsend, hdown]
          rfl
        rw [htime]
        exact h.taken turn.op turn.op_mem_todo n.alertId hsends start (houtage'.symm.trans hstart)

end Run

theorem TimerInv.tick {w : TimerWorld} (h : TimerInv w) (elapsed : ℕ) :
    TimerInv { w with state := { w.state with now := w.state.now + elapsed } } where
  outage start hstart := (h.outage start hstart).trans (by dsimp only; omega)
  infos := h.infos
  stored := h.stored
  callbacks id ref hop := by
    obtain ⟨info, hinfo, hid, hexpired⟩ := h.callbacks id ref hop
    exact ⟨info, hinfo, hid, hexpired.trans (by dsimp only; omega)⟩
  taken op hop id hsends start hstart :=
    (h.taken op hop id hsends start hstart).trans (by dsimp only; omega)
  delayed := ⟨h.delayed.unique, h.delayed.sent⟩

theorem TimerInv.spawn {w : TimerWorld} (h : TimerInv w) {ops : List TimerOp}
    (hstores : ∀ id expireTime outage, TimerOp.loadOrStore id expireTime outage ∉ ops)
    (hcallbacks : ∀ id ref, TimerOp.processPendingAlert id ref ∈ ops →
      ∃ info, w.state.infos[ref]? = some info ∧ info.alertId = id ∧ info.expireTime ≤ w.state.now)
    (hsends : ∀ op ∈ ops, op.sends = none) : TimerInv (w.spawn ⟨(), ops⟩) where
  outage := h.outage
  infos := h.infos
  stored id expireTime outage hop := by
    rcases World.mem_todo_spawn.mp hop with hold | hnew
    · exact h.stored id expireTime outage hold
    · exact absurd hnew (hstores id expireTime outage)
  callbacks id ref hop := by
    rcases World.mem_todo_spawn.mp hop with hold | hnew
    · exact h.callbacks id ref hold
    · exact hcallbacks id ref hnew
  taken op hop id hid := by
    rcases World.mem_todo_spawn.mp hop with hold | hnew
    · exact h.taken op hold id hid
    · cases (hsends op hnew).symm.trans hid
  delayed := ⟨h.delayed.unique, h.delayed.sent⟩

theorem TimerInv.setOutage {w : TimerWorld} (h : TimerInv w) (outage : Option ℤ)
    (hle : ∀ start, outage = some start → start ≤ w.state.now)
    (htaken : outage = none ∨ ∀ op ∈ w.todo, op.sends = none) :
    TimerInv { w with state := { w.state with outage := outage } } where
  outage := hle
  infos := h.infos
  stored := h.stored
  callbacks := h.callbacks
  taken op hop id hsends start hstart := by
    rcases htaken with hnone | hnone
    · cases hnone.symm.trans hstart
    · cases (hnone op hop).symm.trans hsends
  delayed := ⟨h.delayed.unique, h.delayed.sent⟩

theorem TimerInv.setFired {w : TimerWorld} (h : TimerInv w) (ref : ℕ) :
    TimerInv { w with state := { w.state with
      infos := w.state.infos.modify ref fun info => { info with started := some .fired } } } where
  outage := h.outage
  infos info hinfo := by
    obtain ⟨old, hold, hsame⟩ :=
      mem_modify_same (f := fun info => { info with started := some .fired })
        (fun _ => ⟨rfl, rfl, rfl⟩) ref hinfo
    exact (h.infos old hold).congr hsame rfl
  stored := h.stored
  callbacks id ref' hop := by
    obtain ⟨info, hinfo, hid, hexpired⟩ := h.callbacks id ref' hop
    obtain ⟨info', hinfo', hsame⟩ :=
      getElem?_modify_same (f := fun info => { info with started := some .fired })
        (fun _ => ⟨rfl, rfl, rfl⟩) ref hinfo
    exact ⟨info', hinfo', hsame.1.trans hid, hsame.2.1.trans_le hexpired⟩
  taken := h.taken
  delayed := ⟨h.delayed.unique, h.delayed.sent⟩

theorem TimerInv.step {w w' : TimerWorld} {e : TimerEvent} (h : TimerInv w)
    (hguard : TimerGuard w e) (hstep : w.step e = some w') : TimerInv w' := by
  cases e with
  | tick elapsed =>
      obtain rfl := Option.some.inj hstep
      exact h.tick elapsed
  | down =>
      cases houtage : w.state.outage with
      | some start => simp [TimerWorld.step, houtage] at hstep
      | none =>
          simp only [TimerWorld.step, houtage, Option.some.injEq] at hstep
          subst hstep
          have hstart := h.setOutage (some w.state.now)
            (fun start hstart => (Option.some.inj hstart).ge) (.inr hguard)
          exact hstart.spawn (by simp) (by simp) (by simp [TimerOp.sends])
  | up =>
      cases houtage : w.state.outage with
      | none => simp [TimerWorld.step, houtage] at hstep
      | some start =>
          simp only [TimerWorld.step, houtage, Option.some.injEq] at hstep
          subst hstep
          have hend := h.setOutage none (by simp) (.inl rfl)
          exact hend.spawn (by simp) (by simp) (by simp [TimerOp.sends])
  | pause =>
      obtain rfl := Option.some.inj hstep
      have hend := h.setOutage none (by simp) (.inl rfl)
      exact hend.spawn (by simp) (by simp) (by simp [TimerOp.sends])
  | restore =>
      obtain rfl := Option.some.inj hstep
      refine h.spawn (by simp) (by simp) fun op hop => ?_
      obtain ⟨id, -, rfl⟩ := List.mem_map.mp hop
      rfl
  | fire ref =>
      cases hinfo : w.state.infos[ref]? with
      | none => simp [TimerWorld.step, hinfo] at hstep
      | some info =>
          simp only [TimerWorld.step, hinfo, Option.ite_none_right_eq_some,
            Option.some.injEq] at hstep
          obtain ⟨⟨-, hexpired⟩, rfl⟩ := hstep
          refine (h.setFired ref).spawn (by simp) (fun id ref' hop => ?_) (by simp [TimerOp.sends])
          obtain ⟨rfl, rfl⟩ : id = info.alertId ∧ ref' = ref := by simpa using hop
          exact ⟨{ info with started := some .fired }, by simp [hinfo], rfl, hexpired⟩
  | cache alerts =>
      obtain rfl := Option.some.inj hstep
      exact ⟨h.outage, h.infos, h.stored, h.callbacks, h.taken, h.delayed.unique, h.delayed.sent⟩
  | run i choice =>
      obtain ⟨turn, rfl⟩ := Turn.exists_of_turn hstep
      refine h.run turn (hguard turn.thread turn.get turn.op ?_)
      rw [turn.ops]
      rfl

theorem timerInv_init (min : String → Uint8) (alerts : List String) :
    TimerInv (.init min alerts) where
  outage _ hstart := by cases hstart
  infos _ hinfo := by cases hinfo
  stored _ _ _ hop := by cases hop
  callbacks _ _ hop := by cases hop
  taken _ hop := by cases hop
  delayed := ⟨List.nodup_nil, fun _ hn => by cases hn⟩

/-- **Down notifications are delayed**, in every run in which a callback takes the entry its timer
was started for, of the outage in progress, and no outage starts between the taking and the sending.
-/
theorem delayed_of_guarded {min : String → Uint8} {alerts : List String} {events : List TimerEvent}
    {w : TimerWorld} (hrun : Guarded TimerWorld.step TimerGuard (.init min alerts) events w) :
    w.Delayed :=
  (hrun.invariant (fun _ _ _ h => h.step) (timerInv_init min alerts)).delayed

/-- An outage of one minute: the alert is scheduled, its timer fires, and it is sent. -/
def oneOutage : List TimerEvent :=
  .down :: List.replicate 5 (.run 0 true) ++ [.tick 60000, .fire 0]

theorem delayed_oneOutage :
    ∃ w, Guarded TimerWorld.step TimerGuard (.init (fun _ => 1) ["a"])
        (oneOutage ++ List.replicate 4 (.run 1 true)) w ∧
      w.state.sent = [{ status := .down, alertId := "a", time := 60000, outage := some 0 }] ∧
      w.Delayed := by
  have hcheck : ∃ w, check TimerWorld.step TimerGuard (.init (fun _ => 1) ["a"])
      (oneOutage ++ List.replicate 4 (.run 1 true)) = some w ∧
      w.state.sent = [{ status := .down, alertId := "a", time := 60000, outage := some 0 }] :=
    ⟨_, rfl, rfl⟩
  obtain ⟨w, hcheck, hsent⟩ := hcheck
  exact ⟨w, guarded_of_check hcheck, hsent, delayed_of_guarded (guarded_of_check hcheck)⟩

/-- The callback is late: the system has come up and gone down again, and the callback takes the
entry of the new outage. -/
def lateCallback : List TimerEvent :=
  oneOutage ++ .up :: List.replicate 3 (.run 2 true) ++ .down :: List.replicate 5 (.run 3 true)
    ++ List.replicate 4 (.run 1 true)

theorem not_delayed_lateCallback :
    ∃ w, run TimerWorld.step (.init (fun _ => 1) ["a"]) lateCallback = some w ∧ ¬ w.Delayed := by
  have hrun : ∃ w, run TimerWorld.step (.init (fun _ => 1) ["a"]) lateCallback = some w ∧
      w.state.sent = [{ status := .down, alertId := "a", time := 60000, outage := some 60000 }] ∧
      w.state.delay "a" = 60000 :=
    ⟨_, rfl, rfl, rfl⟩
  obtain ⟨w, hrun, hsent, hdelay⟩ := hrun
  refine ⟨w, hrun, fun hdelayed => ?_⟩
  have hearly := hdelayed.sent _ (by rw [hsent]; exact List.mem_singleton_self _) rfl 60000 rfl
  rw [hdelay] at hearly
  exact absurd hearly (by decide)

end Picket
