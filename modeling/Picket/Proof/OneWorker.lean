import Picket.Realtime
import Picket.Lib.Transition

/-!
# One realtime worker

The signal to stop is lost on a worker that does not wait. It then goes on until its next tick finds
no subscriptions; a subscription that comes before starts another worker, and the first never
returns as long as there are subscriptions. Nothing else goes wrong.
-/

namespace Picket

open Transition AssocList

namespace Realtime

/-- At most one worker runs, and one does where there are subscriptions. -/
structure OneWorker (r : Realtime) : Prop where
  atMostOne : r.workers.length ≤ 1
  running : r.activeSubscriptions ≠ [] → r.workers ≠ []

end Realtime

/-- The request has a subscription for realtime metrics that is new. -/
def RealtimeEvent.adds : RealtimeEvent → Prop
  | .onRealtimeSubscribeRequest oldSubs newSubs =>
      ∃ s ∈ newSubs, s.name ∉ oldSubs.map (·.name) ∧ s.isRealtime
  | _ => False

instance : DecidablePred RealtimeEvent.adds
  | .onRealtimeSubscribeRequest oldSubs newSubs =>
      inferInstanceAs (Decidable (∃ s ∈ newSubs, s.name ∉ oldSubs.map (·.name) ∧ s.isRealtime))
  | .onRealtimeConnectRequest _ => inferInstanceAs (Decidable False)
  | .run _ => inferInstanceAs (Decidable False)

/-- A new subscription comes while a worker is known to run, or once the last has returned. -/
def ReturnedGuard (r : Realtime) (e : RealtimeEvent) : Prop :=
  e.adds → r.workerRunning ∨ r.workers = []

instance (r : Realtime) (e : RealtimeEvent) : Decidable (ReturnedGuard r e) :=
  inferInstanceAs (Decidable (_ → _))

namespace Realtime

variable {r : Realtime}

section Handlers

variable {s : Subscription} {subs : List Subscription}

theorem removeRealtimeSubscription_cases (r : Realtime) (s : Subscription) :
    r.removeRealtimeSubscription s = r ∨
      ∃ active, (active ≠ [] → r.activeSubscriptions ≠ []) ∧
        r.removeRealtimeSubscription s =
          checkSubscriptions { r with activeSubscriptions := active } := by
  unfold removeRealtimeSubscription
  split
  · refine Or.inr ?_
    cases hlookup : r.activeSubscriptions.lookup s.system with
    | none => exact ⟨r.activeSubscriptions, id, rfl⟩
    | some info =>
        refine ⟨_, fun _ hempty => ?_, rfl⟩
        rw [hempty] at hlookup
        cases hlookup
  · exact Or.inl rfl

theorem addRealtimeSubscription_of_not (hreal : ¬ s.isRealtime) :
    r.addRealtimeSubscription s = r :=
  if_neg hreal

theorem addRealtimeSubscription_of_isRealtime (hreal : s.isRealtime) :
    ∃ active, active ≠ [] ∧ r.addRealtimeSubscription s =
      onRealtimeSubscriptionAdded { r with activeSubscriptions := active } :=
  ⟨_, List.cons_ne_nil _ _, if_pos hreal⟩

/-! Removing -/

theorem removeRealtimeSubscription_sublist :
    (r.removeRealtimeSubscription s).workers.Sublist r.workers := by
  rcases removeRealtimeSubscription_cases r s with heq | ⟨active, -, heq⟩
  · rw [heq]
  · rw [heq, checkSubscriptions]
    split
    · exact List.Sublist.refl _
    · dsimp only
      split
      · exact List.Sublist.refl _
      · exact List.erase_sublist

/-- Nobody is told to stop where nobody waits. -/
theorem removeRealtimeSubscription_workers (hnone : .waiting r.tickerStopChan ∉ r.workers) :
    (r.removeRealtimeSubscription s).workers = r.workers := by
  rcases removeRealtimeSubscription_cases r s with heq | ⟨active, -, heq⟩
  · rw [heq]
  · rw [heq, checkSubscriptions]
    split
    · rfl
    · dsimp only
      rw [List.erase_of_not_mem hnone, ite_self]

theorem removeRealtimeSubscription_tickerStopChan :
    (r.removeRealtimeSubscription s).tickerStopChan = r.tickerStopChan := by
  rcases removeRealtimeSubscription_cases r s with heq | ⟨active, -, heq⟩
  · rw [heq]
  · rw [heq, checkSubscriptions]
    split <;> rfl

theorem removeAll_sublist :
    (subs.foldl removeRealtimeSubscription r).workers.Sublist r.workers := by
  induction subs generalizing r with
  | nil => exact List.Sublist.refl _
  | cons s subs ih => exact ih.trans removeRealtimeSubscription_sublist

theorem removeAll_workers (hnone : .waiting r.tickerStopChan ∉ r.workers) :
    (subs.foldl removeRealtimeSubscription r).workers = r.workers := by
  induction subs generalizing r with
  | nil => rfl
  | cons s subs ih =>
      have hworkers := removeRealtimeSubscription_workers (s := s) hnone
      rw [List.foldl_cons, ih, hworkers]
      rwa [removeRealtimeSubscription_tickerStopChan, hworkers]

/-! Adding -/

theorem addRealtimeSubscription_of_running (hrunning : r.workerRunning) :
    (r.addRealtimeSubscription s).workerRunning ∧
      (r.addRealtimeSubscription s).workers = r.workers ∧
      (r.addRealtimeSubscription s).tickerStopChan = r.tickerStopChan := by
  by_cases hreal : s.isRealtime
  · obtain ⟨active, -, heq⟩ := addRealtimeSubscription_of_isRealtime (r := r) hreal
    rw [heq, onRealtimeSubscriptionAdded, if_pos hrunning]
    exact ⟨hrunning, rfl, rfl⟩
  · rw [addRealtimeSubscription_of_not hreal]
    exact ⟨hrunning, rfl, rfl⟩

theorem addAll_of_running (hrunning : r.workerRunning) :
    (subs.foldl addRealtimeSubscription r).workers = r.workers ∧
      (subs.foldl addRealtimeSubscription r).tickerStopChan = r.tickerStopChan := by
  induction subs generalizing r with
  | nil => exact ⟨rfl, rfl⟩
  | cons s subs ih =>
      obtain ⟨hstill, hworkers, hchan⟩ := addRealtimeSubscription_of_running (s := s) hrunning
      obtain ⟨hworkers', hchan'⟩ := ih hstill
      exact ⟨hworkers'.trans hworkers, hchan'.trans hchan⟩

theorem addAll_of_none (hnone : ∀ s ∈ subs, ¬ s.isRealtime) :
    subs.foldl addRealtimeSubscription r = r := by
  induction subs with
  | nil => rfl
  | cons s subs ih =>
      rw [List.foldl_cons, addRealtimeSubscription_of_not (hnone s List.mem_cons_self)]
      exact ih fun s hs => hnone s (List.mem_cons_of_mem _ hs)

/-- Where none is known to run, one worker is started, with a channel of its own. -/
theorem addAll_of_idle (hidle : ¬ r.workerRunning) (hsome : ∃ s ∈ subs, s.isRealtime) :
    (subs.foldl addRealtimeSubscription r).workers = r.workers ++ [.starting] ∧
      (subs.foldl addRealtimeSubscription r).tickerStopChan = some r.stopChans := by
  induction subs with
  | nil => simp at hsome
  | cons s subs ih =>
      rw [List.foldl_cons]
      by_cases hreal : s.isRealtime
      · obtain ⟨active, -, heq⟩ := addRealtimeSubscription_of_isRealtime (r := r) hreal
        rw [heq, onRealtimeSubscriptionAdded, if_neg hidle]
        exact addAll_of_running rfl
      · rw [addRealtimeSubscription_of_not hreal]
        obtain ⟨s', hs', hreal'⟩ := hsome
        rcases List.mem_cons.mp hs' with rfl | hs'
        · exact absurd hreal' hreal
        · exact ih ⟨s', hs', hreal'⟩

end Handlers

/-! ### What every step keeps -/

structure WorkerInv (r : Realtime) : Prop where
  workerRunning : r.workerRunning ↔ r.activeSubscriptions ≠ []
  staffed : r.workerRunning → r.workers ≠ []
  /-- A worker waits on a channel that has been made. -/
  made : ∀ c, r.tickerStopChan = some c ∨ .waiting (some c) ∈ r.workers → c < r.stopChans

namespace WorkerInv

variable {s : Subscription} {subs : List Subscription}

theorem onRealtimeSubscriptionAdded (h : WorkerInv r) {active : List (String × SubscriptionInfo)}
    (hactive : active ≠ []) :
    WorkerInv
      (Realtime.onRealtimeSubscriptionAdded { r with activeSubscriptions := active }) := by
  rw [Realtime.onRealtimeSubscriptionAdded]
  split
  case isTrue hrunning =>
    exact ⟨iff_of_true hrunning hactive, h.staffed, h.made⟩
  · refine ⟨iff_of_true rfl hactive, fun _ => List.append_ne_nil_of_right_ne_nil _ (by simp), ?_⟩
    rintro c (hcurrent | hwaits)
    · obtain rfl := Option.some.inj hcurrent
      exact Nat.lt_succ_self _
    · have hold : .waiting (some c) ∈ r.workers := by simpa using hwaits
      exact Nat.lt_succ_of_lt (h.made c (Or.inr hold))

theorem checkSubscriptions (h : WorkerInv r) {active : List (String × SubscriptionInfo)}
    (hactive : active ≠ [] → r.activeSubscriptions ≠ []) :
    WorkerInv (Realtime.checkSubscriptions { r with activeSubscriptions := active }) := by
  rw [Realtime.checkSubscriptions]
  split
  case isTrue hcond =>
    refine ⟨⟨fun hrunning => hcond.resolve_left (not_not_intro hrunning), fun hne => ?_⟩,
      h.staffed, h.made⟩
    exact h.workerRunning.mpr (hactive hne)
  case isFalse hcond =>
    obtain ⟨-, hempty⟩ := not_or.mp hcond
    refine ⟨iff_of_false Bool.false_ne_true hempty, fun h => absurd h Bool.false_ne_true, ?_⟩
    rintro c (hcurrent | hwaits)
    · exact h.made c (Or.inl hcurrent)
    · refine h.made c (Or.inr ?_)
      dsimp only at hwaits
      split at hwaits
      · exact hwaits
      · exact List.mem_of_mem_erase hwaits

theorem add (h : WorkerInv r) : WorkerInv (r.addRealtimeSubscription s) := by
  by_cases hreal : s.isRealtime
  · obtain ⟨active, hactive, heq⟩ := addRealtimeSubscription_of_isRealtime (r := r) hreal
    rw [heq]
    exact h.onRealtimeSubscriptionAdded hactive
  · rwa [addRealtimeSubscription_of_not hreal]

theorem remove (h : WorkerInv r) : WorkerInv (r.removeRealtimeSubscription s) := by
  rcases removeRealtimeSubscription_cases r s with heq | ⟨active, hactive, heq⟩
  · rwa [heq]
  · rw [heq]
    exact h.checkSubscriptions hactive

theorem addAll (h : WorkerInv r) : WorkerInv (subs.foldl addRealtimeSubscription r) := by
  induction subs generalizing r with
  | nil => exact h
  | cons s subs ih => exact ih h.add

theorem removeAll (h : WorkerInv r) : WorkerInv (subs.foldl removeRealtimeSubscription r) := by
  induction subs generalizing r with
  | nil => exact h
  | cons s subs ih => exact ih h.remove

theorem workers (h : WorkerInv r) {workers : List RealtimeWorker}
    (hne : r.workerRunning → workers ≠ [])
    (hwaiting : ∀ c, .waiting (some c) ∈ workers →
      r.tickerStopChan = some c ∨ .waiting (some c) ∈ r.workers) :
    WorkerInv { r with workers := workers } where
  workerRunning := h.workerRunning
  staffed := hne
  made := by
    rintro c (hcurrent | hwaits)
    · exact h.made c (Or.inl hcurrent)
    · exact h.made c (hwaiting c hwaits)

theorem set (h : WorkerInv r) (i : ℕ) {worker : RealtimeWorker}
    (hworker : ∀ c, worker ≠ .waiting c) :
    WorkerInv { r with workers := r.workers.set i worker } := by
  refine h.workers (fun hrunning hempty => h.staffed hrunning ?_) fun c hwaits => Or.inr ?_
  · exact List.eq_nil_of_length_eq_zero (by simpa using congrArg List.length hempty)
  · exact (List.mem_or_eq_of_mem_set hwaits).resolve_right (hworker _).symm

theorem startRealtimeWorker (h : WorkerInv r) (i : ℕ) (worker : RealtimeWorker) :
    WorkerInv (r.startRealtimeWorker i worker) := by
  cases worker with
  | starting => exact h.set i (by simp)
  | selecting =>
      refine h.workers (fun _ => List.append_ne_nil_of_right_ne_nil _ (by simp)) fun c hwaits => ?_
      rcases List.mem_append.mp hwaits with hold | hnew
      · exact Or.inr (List.mem_of_mem_eraseIdx hold)
      · obtain heq := List.mem_singleton.mp hnew
        injection heq with heq
        exact Or.inl heq.symm
  | waiting stopChan => exact h.set i (by simp)
  | ticked =>
      rw [Realtime.startRealtimeWorker]
      split
      case isTrue hempty =>
        refine h.workers (fun hrunning => ?_) fun c hwaits =>
          Or.inr (List.mem_of_mem_eraseIdx hwaits)
        exact absurd hempty (h.workerRunning.mp hrunning)
      · exact h.set i (by simp)

theorem step {e : RealtimeEvent} {t : Realtime} (h : WorkerInv r) (hstep : r.step e = some t) :
    WorkerInv t := by
  cases e with
  | onRealtimeSubscribeRequest oldSubs newSubs =>
      obtain rfl := Option.some.inj hstep
      exact h.addAll.removeAll
  | onRealtimeConnectRequest subscriptions =>
      obtain rfl := Option.some.inj hstep
      exact h.removeAll
  | run i =>
      obtain ⟨worker, -, rfl⟩ := Option.map_eq_some_iff.mp hstep
      exact h.startRealtimeWorker i worker

theorem init : WorkerInv {} where
  workerRunning := by simp
  staffed := by simp
  made := by simp

end WorkerInv

/-! ### How many workers there are -/

theorem length_startRealtimeWorker {i : ℕ} {worker : RealtimeWorker}
    (hworker : r.workers[i]? = some worker) :
    (r.startRealtimeWorker i worker).workers.length ≤ r.workers.length := by
  obtain ⟨hlt, -⟩ := List.getElem?_eq_some_iff.mp hworker
  have herase := List.length_eraseIdx_of_lt hlt
  cases worker with
  | starting | waiting stopChan => simp [startRealtimeWorker]
  | selecting =>
      simp only [startRealtimeWorker, List.length_append, List.length_singleton]
      omega
  | ticked =>
      rw [startRealtimeWorker]
      split
      · simp only
        omega
      · simp

theorem length_onRealtimeSubscribeRequest (h : WorkerInv r) (oldSubs newSubs : List Subscription)
    (hone : r.workers.length ≤ 1) :
    ReturnedGuard r (.onRealtimeSubscribeRequest oldSubs newSubs) ↔
      (r.onRealtimeSubscribeRequest oldSubs newSubs).workers.length ≤ 1 := by
  set added := newSubs.filter fun s => s.name ∉ oldSubs.map (·.name) with hadded
  have hkept (hworkers : (added.foldl addRealtimeSubscription r).workers = r.workers) :
      (r.onRealtimeSubscribeRequest oldSubs newSubs).workers.length ≤ 1 := by
    refine Nat.le_trans removeAll_sublist.length_le ?_
    rwa [← hadded, hworkers]
  by_cases hadds : ∃ s ∈ added, s.isRealtime
  · by_cases hrunning : r.workerRunning
    · exact iff_of_true (fun _ => Or.inl hrunning) (hkept (addAll_of_running hrunning).1)
    · obtain ⟨hworkers, hchan⟩ := addAll_of_idle hrunning hadds
      -- the new channel has no one waiting yet, so that nobody returns in this request
      have hnone : .waiting (added.foldl addRealtimeSubscription r).tickerStopChan ∉
          (added.foldl addRealtimeSubscription r).workers := by
        rw [hworkers, hchan]
        intro hmem
        have hold : .waiting (some r.stopChans) ∈ r.workers := by simpa using hmem
        exact Nat.lt_irrefl _ (h.made _ (Or.inr hold))
      have hlength : (r.onRealtimeSubscribeRequest oldSubs newSubs).workers.length
          = r.workers.length + 1 := by
        rw [onRealtimeSubscribeRequest, removeAll_workers hnone, hworkers, List.length_append,
          List.length_singleton]
      have hadds : RealtimeEvent.adds (.onRealtimeSubscribeRequest oldSubs newSubs) := by
        obtain ⟨s, hs, hreal⟩ := hadds
        obtain ⟨hnew, hfresh⟩ := List.mem_filter.mp hs
        exact ⟨s, hnew, of_decide_eq_true hfresh, hreal⟩
      rw [hlength, Nat.succ_le_succ_iff, Nat.le_zero, List.length_eq_zero_iff]
      exact ⟨fun hguard => (hguard hadds).resolve_left hrunning, fun hempty _ => Or.inr hempty⟩
  · have hnone : ∀ s ∈ added, ¬ s.isRealtime := fun s hs hreal => hadds ⟨s, hs, hreal⟩
    refine iff_of_true ?_ (hkept (by rw [addAll_of_none hnone]))
    rintro ⟨s, hs, hfresh, hreal⟩
    exact absurd hreal (hnone s (List.mem_filter.mpr ⟨hs, decide_eq_true hfresh⟩))

theorem returnedGuard_iff {e : RealtimeEvent} {t : Realtime} (h : WorkerInv r)
    (hone : r.workers.length ≤ 1) (hstep : r.step e = some t) :
    ReturnedGuard r e ↔ t.workers.length ≤ 1 := by
  cases e with
  | onRealtimeSubscribeRequest oldSubs newSubs =>
      obtain rfl := Option.some.inj hstep
      exact length_onRealtimeSubscribeRequest h oldSubs newSubs hone
  | onRealtimeConnectRequest subscriptions =>
      obtain rfl := Option.some.inj hstep
      refine iff_of_true (fun hadds => hadds.elim) ?_
      exact Nat.le_trans removeAll_sublist.length_le hone
  | run i =>
      obtain ⟨worker, hworker, rfl⟩ := Option.map_eq_some_iff.mp hstep
      refine iff_of_true (fun hadds => hadds.elim) ?_
      exact Nat.le_trans (length_startRealtimeWorker hworker) hone

theorem WorkerInv.oneWorker_iff (h : WorkerInv r) : r.OneWorker ↔ r.workers.length ≤ 1 :=
  ⟨fun hone => hone.atMostOne,
    fun hone => ⟨hone, fun hactive => h.staffed (h.workerRunning.mpr hactive)⟩⟩

end Realtime

open Realtime

/-- **One realtime worker**, throughout exactly those runs in which no subscription starts a worker
before the last has returned. -/
theorem oneWorker_iff_guarded {events : List RealtimeEvent} {r : Realtime}
    (hrun : run Realtime.step {} events = some r) :
    (∀ before u, before <+: events → run Realtime.step {} before = some u → u.OneWorker) ↔
      Guarded Realtime.step ReturnedGuard {} events r := by
  refine (guarded_iff_throughout (fun r => WorkerInv r ∧ r.workers.length ≤ 1)
    ?_ ?_ ?_ ⟨.init, Nat.zero_le _⟩ hrun).symm
  · exact fun r ⟨h, hone⟩ => h.oneWorker_iff.mpr hone
  · exact fun r e t ⟨h, hone⟩ hstep =>
      (returnedGuard_iff h hone hstep).trans (h.step hstep).oneWorker_iff.symm
  · exact fun r e t ⟨h, _⟩ hstep hone => ⟨h.step hstep, hone.atMostOne⟩

def webMetrics : Subscription := ⟨"rt_metrics", "web"⟩

/-- A client subscribes, and once more after the worker has received the signal to stop. -/
def subscribedAgain : List RealtimeEvent :=
  [.onRealtimeSubscribeRequest [] [webMetrics], .run 0, .run 0,
    .onRealtimeSubscribeRequest [webMetrics] [], .onRealtimeSubscribeRequest [] [webMetrics]]

theorem oneWorker_subscribedAgain :
    ∃ r, run Realtime.step {} subscribedAgain = some r ∧ ∀ before u,
      before <+: subscribedAgain → run Realtime.step {} before = some u → u.OneWorker := by
  let last : Realtime :=
    { activeSubscriptions := [("web", ⟨1⟩)]
      workerRunning := true
      tickerStopChan := some 1
      stopChans := 2
      workers := [.starting] }
  have hrun : run Realtime.step {} subscribedAgain = some last := by decide +kernel
  have hcheck : check Realtime.step ReturnedGuard {} subscribedAgain = some last := by
    decide +kernel
  exact ⟨last, hrun, (oneWorker_iff_guarded hrun).mpr (guarded_of_check hcheck)⟩

/-- The client unsubscribes before the worker has come to its `select`; both workers then wait for
the ticks. -/
def stopLost : List RealtimeEvent :=
  [.onRealtimeSubscribeRequest [] [webMetrics], .run 0,
    .onRealtimeSubscribeRequest [webMetrics] [], .onRealtimeSubscribeRequest [] [webMetrics],
    .run 1, .run 0, .run 0]

theorem not_oneWorker_stopLost :
    ∃ r, run Realtime.step {} stopLost = some r ∧
      r.workers = [.waiting (some 1), .waiting (some 1)] ∧ r.activeSubscriptions ≠ [] ∧
      ¬ r.OneWorker := by
  let last : Realtime :=
    { activeSubscriptions := [("web", ⟨1⟩)]
      workerRunning := true
      tickerStopChan := some 1
      stopChans := 2
      workers := [.waiting (some 1), .waiting (some 1)] }
  have hrun : run Realtime.step {} stopLost = some last := by decide +kernel
  exact ⟨last, hrun, rfl, by decide, fun h => absurd h.atMostOne (by decide)⟩

end Picket
