import Picket.Proof.ContainerLeaks

/-!
# What a poll reports was read in it

The entry of a container outlives the poll and is emptied before the steps of an update that may
fail. After a first failure it is deleted, after a second one it stays: what is reported then was
never read. What a poll is meant to report is an attempt made with no entry there.
-/

namespace Picket.Docker

open Transition

/-! ### What is to be reported -/

namespace Tracker

/-- The values of an attempt, if it succeeds. The entry it makes is new. -/
def read (cfg : DockerConfig) (t : Tracker) (o : OwnInput) (ctr : ApiInfo) (a : Attempt) :
    Option DockerStats :=
  let (t, err) := t.dropStats.attempt cfg o.windows o.cacheTimeMs ctr a
  if err = none then t.stats else none

/-- The values of the attempt that succeeded, of a container that is listed and not excluded. -/
def expected (cfg : DockerConfig) (t : Tracker) (o : OwnInput) : Option DockerStats :=
  match o.listed with
  | none => none
  | some l =>
      if shouldExcludeContainer cfg l.ctr.name then none
      else
        (((t.start o).restart l.ctr).read cfg o l.ctr l.first).or
          ((t.first cfg o l).1.read cfg o l.ctr l.second)

def expectedReports (cfg : DockerConfig) : Tracker → List OwnInput → List (Option DockerStats)
  | _, [] => []
  | t, o :: os => t.expected cfg o :: expectedReports cfg (t.poll cfg o) os

end Tracker

/-- No container has ended the process, and every poll has reported of every container what it is to
report, once. -/
def DockerPolls.Exact (cfg : DockerConfig) (s : DockerPolls) : Prop :=
  s.panicked = false ∧ ∀ c, s.reports.map (·.of c) =
    (Tracker.expectedReports cfg {} (s.reports.map (·.input.own c))).map Option.toList

theorem expectedReports_append (cfg : DockerConfig) (t : Tracker) (os : List OwnInput)
    (o : OwnInput) :
    t.expectedReports cfg (os ++ [o]) =
      t.expectedReports cfg os ++ [(os.foldl (Tracker.poll cfg) t).expected cfg o] := by
  induction os generalizing t with
  | nil => rfl
  | cons o' os ih =>
      rw [List.cons_append, Tracker.expectedReports, Tracker.expectedReports, ih]
      rfl

/-! ### The condition -/

def DockerManager.Passes (dm : DockerManager) (cacheTimeMs : Uint16) (id : Bytes)
    (response : StatsResponse) : Prop :=
  let res := response.decode dm.apiStats
  let (prevCpuContainer, prevCpuSystem) := dm.getCpuPreviousValues cacheTimeMs id
  response.decodes = true ∧ (calculateMemoryUsage res dm.isWindows).isSome ∧
    res.cpuPct dm.isWindows prevCpuContainer prevCpuSystem
      ((dm.lastCpuReadTime cacheTimeMs id).getD 0) ≤ 100

instance (dm : DockerManager) (cacheTimeMs : Uint16) (id : Bytes) (response : StatsResponse) :
    Decidable (dm.Passes cacheTimeMs id response) := by
  unfold DockerManager.Passes
  infer_instance

/-- What an update keeps of an entry is what the list says. -/
def DockerStats.Agrees (old : DockerStats) (ctr : ApiInfo) : Prop :=
  old.name = ctr.name ∧ old.image = ctr.image ∧ (ctr.ports.elems = [] → old.ports = "")

instance (old : DockerStats) (ctr : ApiInfo) : Decidable (old.Agrees ctr) := by
  unfold DockerStats.Agrees
  infer_instance

def ApiInfo.Unpublished (cfg : DockerConfig) (ctr : ApiInfo) : Prop :=
  ctr.ports.elems ≠ [] → convertContainerPortsToString cfg.sortPorts ctr = ""

instance (cfg : DockerConfig) (ctr : ApiInfo) : Decidable (ApiInfo.Unpublished cfg ctr) := by
  unfold ApiInfo.Unpublished
  infer_instance

/-- No short id is listed twice, and every entry gives each field that is not empty in the struct it
is decoded into. -/
def ListSeparate (pool : List ApiInfo) (listed : List Listed) : Prop :=
  (listed.map (·.entry.shortId)).Nodup ∧
  ∀ i < listed.length, ∀ l ∈ listed[i]?, l.entry.Fills (pool.getD i {})

instance (pool : List ApiInfo) (listed : List Listed) : Decidable (ListSeparate pool listed) := by
  unfold ListSeparate
  infer_instance

/-- The condition on a step under which what it reads is what is reported. -/
def ReadsOwn (cfg : DockerConfig) (s : DockerPolls) : DockerEvent → Prop
  | .list input => ListSeparate s.dm.pool input.listed
  | .visit => ∀ p ∈ s.polling, (s.dm.ctr p.next).panics = false
  | .update i => ∀ p ∈ s.polling,
      let a := p.attempt (·.first) i
      let ctr := s.dm.ctr i
      Covered s.dm a ∧
      ∀ response ∈ a.response, s.dm.Passes p.input.cacheTimeMs ctr.idShort response →
        ∀ old ∈ s.dm.containerStatsMap.get ctr.idShort, old.Agrees ctr
  | .retry i => ∀ p ∈ s.polling,
      let a := p.attempt (·.second) i
      Covered s.dm a ∧
      ∀ response ∈ a.response,
        s.dm.Passes p.input.cacheTimeMs (s.dm.ctr i).idShort response ∧
        ((p.attempt (·.first) i).response.isSome →
          ∀ l ∈ p.input.listed[i]?, ApiInfo.Unpublished cfg l.ctr)
  | .badList _ => True
  | .drop _ => True
  | .collect => True

instance (cfg : DockerConfig) (s : DockerPolls) (e : DockerEvent) :
    Decidable (ReadsOwn cfg s e) := by
  apply @DockerEvent.casesOn (fun e => Decidable (ReadsOwn cfg s e)) e <;> intros <;>
    unfold ReadsOwn <;> infer_instance

theorem listApart_of_listSeparate {pool : List ApiInfo} {listed : List Listed}
    (h : ListSeparate pool listed) (c : Bytes) : ListApart c pool listed := by
  obtain ⟨hnodup, hfills⟩ := h
  refine ⟨?_, fun i hi l hl => ⟨fun _ => hfills i hi l hl, fun hid hc => ?_⟩⟩
  · refine (List.pairwise_map.mp hnodup).imp fun hne hboth => hne ?_
    rw [hboth.1, hboth.2]
  · rw [(hfills i hi l hl).1 hid] at hc
    rw [ApiEntry.shortId, hid, ← hc]
    rfl

theorem apart_of_readsOwn {cfg : DockerConfig} {s : DockerPolls} {e : DockerEvent}
    (h : ReadsOwn cfg s e) (c : Bytes) : Apart c s e := by
  cases e with
  | list input => exact listApart_of_listSeparate h c
  | visit => exact h
  | update i => exact fun p hp _ => (h p hp).1
  | retry i => exact fun p hp _ => (h p hp).1
  | badList => trivial
  | drop => trivial
  | collect => trivial

/-! ### Attempts -/

section Attempts

variable {cfg : DockerConfig} {t : Tracker} {isWindows : Bool} {cacheTimeMs : Uint16}
  {ctr : ApiInfo} {a : Attempt}

theorem applyStats_values {res : ApiStats}
    (hok : (t.applyStats isWindows cacheTimeMs res a).2 = none) :
    ∃ net cpuPct usedMemory sentDelta recvDelta readTime, ∀ stats,
      ({ t with stats }.applyStats isWindows cacheTimeMs res a).2 = none ∧
      ({ t with stats }.applyStats isWindows cacheTimeMs res a).1.stats =
        some (updateContainerStatsValues { stats.getD {} with prevNet := net } cpuPct usedMemory
          sentDelta recvDelta readTime) := by
  simp only [Tracker.applyStats] at hok ⊢
  cases hmemory : calculateMemoryUsage res isWindows with
  | none => simp [hmemory] at hok
  | some usedMemory =>
      simp only [hmemory] at hok ⊢
      split at hok
      case isTrue => cases hok
      case isFalse hcpu =>
        simp only [if_neg hcpu]
        let rates := ((t.setCpuCurrentValues cacheTimeMs res.totalUsage
          res.systemUsage).setNetworkTotals cacheTimeMs res.totalSent res.totalRecv).networkRates
            cacheTimeMs a.since
        exact ⟨(res.totalSent, res.totalRecv), _, usedMemory, rates.1, rates.2, res.read,
          fun stats => ⟨trivial, rfl⟩⟩

/-- A successful attempt succeeds whatever entry there is, and whatever else the list says; both
count only in how the entry begins. -/
theorem attempt_values (hok : (t.attempt cfg isWindows cacheTimeMs ctr a).2 = none) :
    ∃ net cpuPct usedMemory sentDelta recvDelta readTime, ∀ stats ctr',
      ({ t with stats }.attempt cfg isWindows cacheTimeMs ctr' a).2 = none ∧
      ({ t with stats }.attempt cfg isWindows cacheTimeMs ctr' a).1.stats =
        some (updateContainerStatsValues
          { beginStats cfg t.usingPodman ctr' a.podmanHealth stats with prevNet := net }
          cpuPct usedMemory sentDelta recvDelta readTime) := by
  simp only [Tracker.attempt] at hok ⊢
  cases hresponse : a.response with
  | none => simp [hresponse] at hok
  | some response =>
      simp only [hresponse] at hok ⊢
      cases hdecodes : response.decodes with
      | false => simp [hdecodes] at hok
      | true =>
          simp only [hdecodes, if_true] at hok ⊢
          obtain ⟨net, cpuPct, usedMemory, sentDelta, recvDelta, readTime, hvalues⟩ :=
            applyStats_values hok
          exact ⟨net, cpuPct, usedMemory, sentDelta, recvDelta, readTime, fun stats ctr' =>
            hvalues (some (beginStats cfg t.usingPodman ctr' a.podmanHealth stats))⟩

theorem values_beginStats {stats : Option DockerStats} (hagrees : ∀ old ∈ stats, old.Agrees ctr)
    (usingPodman : Bool) (podmanHealth : Option String) (net : Uint64 × Uint64) (cpuPct : ℚ)
    (usedMemory sentDelta recvDelta : Uint64) (readTime : ℤ) :
    updateContainerStatsValues
        { beginStats cfg usingPodman ctr podmanHealth stats with prevNet := net }
        cpuPct usedMemory sentDelta recvDelta readTime =
      updateContainerStatsValues
        { beginStats cfg usingPodman ctr podmanHealth none with prevNet := net }
        cpuPct usedMemory sentDelta recvDelta readTime := by
  cases stats with
  | none => rfl
  | some old =>
      obtain ⟨hname, himage, hports⟩ := hagrees old rfl
      have hports' : (if ctr.ports.elems = [] then old.ports
          else convertContainerPortsToString cfg.sortPorts ctr) =
          if ctr.ports.elems = [] then ""
          else convertContainerPortsToString cfg.sortPorts ctr := by
        split
        case isTrue hnil => exact hports hnil
        case isFalse => rfl
      simp only [updateContainerStatsValues, beginStats, Option.getD_some, Option.getD_none, hname,
        himage, hports']

theorem beginStats_after {a' : Attempt}
    (hports : a'.response.isSome → ApiInfo.Unpublished cfg ctr) (usingPodman : Bool)
    (podmanHealth : Option String) :
    beginStats cfg usingPodman (a'.after ctr) podmanHealth none =
      beginStats cfg usingPodman ctr podmanHealth none := by
  rw [Attempt.after, ApiInfo.clearPorts]
  split
  case isFalse => rfl
  case isTrue hsome =>
    split
    case isTrue => rfl
    case isFalse hne =>
      have hempty := hports hsome hne
      simp only [beginStats, containerHealth, ApiInfo.name, if_true, if_neg hne, hempty,
        Option.getD_none]

end Attempts

/-! ### The end of a poll -/

section Finished

variable {cfg : DockerConfig} {t : Tracker} {o : OwnInput} {l : Listed}

theorem read_of_failed {ctr : ApiInfo} {a : Attempt}
    (hfailed : (t.attempt cfg o.windows o.cacheTimeMs ctr a).2 ≠ none) :
    t.read cfg o ctr a = none := by
  rw [Tracker.read]
  refine if_neg fun hok => hfailed ?_
  obtain ⟨net, cpuPct, usedMemory, sentDelta, recvDelta, readTime, hvalues⟩ := attempt_values hok
  exact (hvalues t.stats ctr).1

/-- What a successful attempt leaves, and what is read when it is made for a new entry. -/
theorem read_of_ok {ctr : ApiInfo} (ctr' : ApiInfo) {a : Attempt}
    (hok : (t.attempt cfg o.windows o.cacheTimeMs ctr a).2 = none)
    (hbegin : ∀ net cpuPct usedMemory sentDelta recvDelta readTime,
      updateContainerStatsValues
          { beginStats cfg t.usingPodman ctr a.podmanHealth t.stats with prevNet := net }
          cpuPct usedMemory sentDelta recvDelta readTime =
        updateContainerStatsValues
          { beginStats cfg t.usingPodman ctr' a.podmanHealth none with prevNet := net }
          cpuPct usedMemory sentDelta recvDelta readTime) :
    t.read cfg o ctr' a = (t.attempt cfg o.windows o.cacheTimeMs ctr a).1.stats ∧
      (t.read cfg o ctr' a).isSome := by
  obtain ⟨net, cpuPct, usedMemory, sentDelta, recvDelta, readTime, hvalues⟩ := attempt_values hok
  obtain ⟨hread, hstats⟩ := hvalues none ctr'
  have hread : t.read cfg o ctr' a =
      some (updateContainerStatsValues
        { beginStats cfg t.usingPodman ctr' a.podmanHealth none with prevNet := net }
        cpuPct usedMemory sentDelta recvDelta readTime) := (if_pos hread).trans hstats
  refine ⟨?_, by rw [hread]; rfl⟩
  rw [hread, ← hbegin]
  exact (hvalues t.stats ctr).2.symm

def LeavesExpected (cfg : DockerConfig) (t : Tracker) (o : OwnInput) (l : Listed) : Prop :=
  (t.finished cfg o l).stats = t.expected cfg o

variable (hlisted : o.listed = some l)
  (hexcluded : shouldExcludeContainer cfg l.ctr.name = false)
include hlisted hexcluded

theorem expected_eq :
    t.expected cfg o =
      (((t.start o).restart l.ctr).read cfg o l.ctr l.first).or
        ((t.first cfg o l).1.read cfg o l.ctr l.second) := by
  rw [Tracker.expected, hlisted]
  exact if_neg (by rw [hexcluded]; exact Bool.false_ne_true)

theorem leavesExpected_first (hok : (t.first cfg o l).2 = none)
    (hagrees : ∀ old ∈ ((t.start o).restart l.ctr).stats, old.Agrees l.ctr) :
    LeavesExpected cfg t o l := by
  obtain ⟨hread, hsome⟩ :=
    read_of_ok l.ctr hok fun _ _ _ _ _ _ => values_beginStats hagrees _ _ _ _ _ _ _ _
  rw [LeavesExpected, expected_eq hlisted hexcluded, Option.or_of_isSome hsome, hread,
    Tracker.finished, hexcluded, if_neg Bool.false_ne_true, if_pos hok]
  rfl

theorem leavesExpected_second (hfailed : (t.first cfg o l).2 ≠ none)
    (hpasses : l.second.response = none ∨ (t.second cfg o l).2 = none ∧
      (l.first.response.isSome → ApiInfo.Unpublished cfg l.ctr)) :
    LeavesExpected cfg t o l := by
  rw [LeavesExpected, expected_eq hlisted hexcluded, read_of_failed hfailed, Option.none_or,
    Tracker.finished, hexcluded, if_neg Bool.false_ne_true, if_neg hfailed]
  rcases hpasses with hnone | ⟨hok, hports⟩
  · have hattempt (t : Tracker) (ctr : ApiInfo) :
        t.attempt cfg o.windows o.cacheTimeMs ctr l.second = (t, some .request) := by
      rw [Tracker.attempt, hnone]
    rw [Tracker.second, hattempt, Tracker.read, hattempt]
    rfl
  · have hread := (read_of_ok l.ctr hok fun _ _ _ _ _ _ => ?_).1
    · exact hread.symm
    · rw [← beginStats_after hports]
      rfl

end Finished

/-! ### Steps -/

theorem applyStats_eq_none_iff (dm : DockerManager) (cacheTimeMs : Uint16) (id : Bytes)
    (a : Attempt) :
    (dm.applyStats cacheTimeMs id a).2 = none ↔
      (calculateMemoryUsage dm.apiStats dm.isWindows).isSome = true ∧
        dm.apiStats.cpuPct dm.isWindows (dm.getCpuPreviousValues cacheTimeMs id).1
          (dm.getCpuPreviousValues cacheTimeMs id).2
          ((dm.lastCpuReadTime cacheTimeMs id).getD 0) ≤ 100 := by
  simp only [DockerManager.applyStats]
  cases calculateMemoryUsage dm.apiStats dm.isWindows with
  | none => simp
  | some usedMemory =>
      simp only [Option.isSome_some, true_and]
      split
      case isTrue hcpu => exact iff_of_false (Option.some_ne_none _) (not_le.mpr hcpu)
      case isFalse hcpu => exact iff_of_true rfl (not_lt.mp hcpu)

theorem passes_iff (cfg : DockerConfig) (dm : DockerManager) (cacheTimeMs : Uint16) (i : ℕ)
    {a : Attempt} {response : StatsResponse} (hresponse : a.response = some response) :
    dm.Passes cacheTimeMs (dm.ctr i).idShort response ↔
      (dm.updateContainerStats cfg cacheTimeMs i a).2 = none := by
  rw [DockerManager.updateContainerStats, hresponse, DockerManager.Passes]
  dsimp only
  cases response.decodes with
  | false => simp
  | true =>
      rw [if_pos rfl, applyStats_eq_none_iff, and_iff_right rfl]
      rfl

/-- Every container that is done is left as it is to be reported. -/
def DoneExpected (cfg : DockerConfig) (c : Bytes) (t : Tracker) (p : Polling) : Prop :=
  ∀ i l, p.input.IsOwn c i l → shouldExcludeContainer cfg l.ctr.name = false →
    p.stage i = .done → LeavesExpected cfg t (p.input.own c) l

section DoneExpected

variable {cfg : DockerConfig} {c : Bytes} {t : Tracker} {dm : DockerManager} {p p' : Polling}

/-- Only the container that a step is about is done after it and was not before. -/
theorem DoneExpected.step (hdone : DoneExpected cfg c t p) (hinput : p'.input = p.input) {j : ℕ}
    (hothers : ∀ i ≠ j, p'.stage i = p.stage i)
    (hself : ∀ l, p.input.IsOwn c j l → shouldExcludeContainer cfg l.ctr.name = false →
      p'.stage j = .done → LeavesExpected cfg t (p.input.own c) l) : DoneExpected cfg c t p' := by
  intro i l hown hexcluded hstage
  rw [hinput] at hown ⊢
  by_cases hi : i = j
  · subst hi
    exact hself l hown hexcluded hstage
  · exact hdone i l hown hexcluded ((hothers i hi).symm.trans hstage)

theorem doneExpected_list (input : PollInput) : DoneExpected cfg c t { input } := by
  intro i l _ _ hstage
  rw [stage_waiting (Nat.zero_le i)] at hstage
  cases hstage

theorem DoneExpected.skipped (hdone : DoneExpected cfg c t p) (h : PollInv cfg c t dm p)
    (hexcluded : shouldExcludeContainer cfg (dm.ctr p.next).name = true) :
    DoneExpected cfg c t p.skipped := by
  have hstep : LoopStep dm _ p p.skipped := loopStep_skipped
  refine hdone.step (j := p.next) rfl (fun i hi => ?_) fun l hown hnotExcluded _ => ?_
  · exact hstep.stage_of_ne hi Iff.rfl rfl rfl
  · have hctr := (h.own _ l hown).ctr (by rw [stage_waiting le_rfl]; nofun)
    rw [stage_waiting le_rfl] at hctr
    rw [hctr.name] at hexcluded
    exact absurd (hexcluded.symm.trans hnotExcluded) nofun

theorem DoneExpected.launched (hdone : DoneExpected cfg c t p) :
    DoneExpected cfg c t p.launched := by
  have hstep : LoopStep {} _ p p.launched := loopStep_launched {}
  refine hdone.step (j := p.next) rfl (fun i hi => ?_) fun l _ _ hstage => ?_
  · refine hstep.stage_of_ne hi ?_ rfl rfl
    simp [Polling.launched, hi]
  · simp [Polling.stage, Polling.launched] at hstage

theorem DoneExpected.updated (hdone : DoneExpected cfg c t p) (h : PollInv cfg c t dm p) {i : ℕ}
    (hi : i ∈ p.running) (hcovered : Covered dm (p.attempt (·.first) i))
    (hagrees : ∀ response ∈ (p.attempt (·.first) i).response,
      dm.Passes p.input.cacheTimeMs (dm.ctr i).idShort response →
        ∀ old ∈ dm.containerStatsMap.get (dm.ctr i).idShort, old.Agrees (dm.ctr i)) :
    DoneExpected cfg c t (p.updated i
      (dm.updateContainerStats cfg p.input.cacheTimeMs i (p.attempt (·.first) i)).2) := by
  refine hdone.step rfl (fun j hj => stage_updated_of_ne hj _) fun l hown hexcluded hstage => ?_
  rw [attempt_of_own (·.first) hown] at hcovered hagrees hstage
  rw [stage_updated h.list hi] at hstage
  have hstarted : i < p.next := h.list.started i (by simp [Polling.goroutines, hi])
  have hid := h.list.idShort_of_own hown hstarted
  have hctr := ctr_of_running h hown hi
  have hfirst := first_of_running h hown hi hcovered
  have hok : (dm.updateContainerStats cfg p.input.cacheTimeMs i l.first).2 = none := by
    cases herr : (dm.updateContainerStats cfg p.input.cacheTimeMs i l.first).2 with
    | none => rfl
    | some e => rw [herr] at hstage; cases hstage
  have hlisted := own_listed hown h.list.unique
  refine leavesExpected_first hlisted hexcluded ((congrArg Prod.snd hfirst).symm.trans hok) ?_
  cases hresponse : l.first.response with
  | none =>
      rw [DockerManager.updateContainerStats, hresponse] at hok
      cases hok
  | some response =>
      have hpasses := (passes_iff cfg dm p.input.cacheTimeMs i hresponse).mpr hok
      have hstats : ((t.start (p.input.own c)).restart l.ctr).stats = (dm.track c).stats := by
        rw [(h.own i l hown).track, h.list.stage_running hi]
        rfl
      intro old hold
      rw [hstats] at hold
      obtain ⟨hname, himage, hports⟩ := hagrees response hresponse hpasses old (by rwa [hid])
      exact ⟨hname.trans hctr.name, himage.trans hctr.image, by rwa [← hctr.ports]⟩

theorem DoneExpected.dropped (hdone : DoneExpected cfg c t p) (h : PollInv cfg c t dm p) {i : ℕ}
    (hi : i ∈ p.erred) : DoneExpected cfg c t (p.dropped i) := by
  refine hdone.step rfl (fun j hj => stage_dropped_of_ne hj) fun l _ _ hstage => ?_
  rw [stage_dropped h.list hi] at hstage
  cases hstage

theorem DoneExpected.retried (hdone : DoneExpected cfg c t p) (h : PollInv cfg c t dm p) {i : ℕ}
    (hi : i ∈ p.failedContainers) (hcovered : Covered dm (p.attempt (·.second) i))
    (hpasses : ∀ response ∈ (p.attempt (·.second) i).response,
      dm.Passes p.input.cacheTimeMs (dm.ctr i).idShort response ∧
      ((p.attempt (·.first) i).response.isSome →
        ∀ l ∈ p.input.listed[i]?, ApiInfo.Unpublished cfg l.ctr)) :
    DoneExpected cfg c t (p.retried i) := by
  refine hdone.step rfl (fun j hj => stage_retried_of_ne hj) fun l hown hexcluded _ => ?_
  rw [attempt_of_own (·.second) hown] at hcovered hpasses
  rw [attempt_of_own (·.first) hown] at hpasses
  have hsecond := second_of_failed h hown hi hcovered
  refine leavesExpected_second (own_listed hown h.list.unique) hexcluded
    ((h.own i l hown).err (.inr (h.list.stage_failed hi))) ?_
  cases hresponse : l.second.response with
  | none => exact .inl rfl
  | some response =>
      obtain ⟨hpass, hports⟩ := hpasses response hresponse
      have hok := (passes_iff cfg dm p.input.cacheTimeMs i hresponse).mp hpass
      exact .inr ⟨(congrArg Prod.snd hsecond).symm.trans hok, fun hsome => hports hsome l hown.1⟩

/-- When a poll returns, every container is done or was never started. -/
theorem DoneExpected.settled (hdone : DoneExpected cfg c t p) (h : PollInv cfg c t dm p)
    (hwaited : p.waited = true) (hfailed : p.failedContainers = []) :
    (t.poll cfg (p.input.own c)).stats = t.expected cfg (p.input.own c) := by
  change (t.settled cfg (p.input.own c)).stats = _
  by_cases hlisted : ∃ i l, p.input.IsOwn c i l
  · obtain ⟨i, l, hown⟩ := hlisted
    have hstage := stage_of_waited hown hwaited hfailed
    cases hexcluded : shouldExcludeContainer cfg l.ctr.name with
    | true =>
        rw [Tracker.settled, Tracker.expected, own_listed hown h.list.unique]
        simp only [hexcluded, if_true]
        rfl
    | false =>
        rw [settled_of_own (own_listed hown h.list.unique) hexcluded]
        exact hdone i l hown hexcluded hstage
  · have hnone : ∀ i l, ¬ p.input.IsOwn c i l := fun i l hown => hlisted ⟨i, l, hown⟩
    rw [Tracker.settled, Tracker.expected, own_listed_none hnone]
    rfl

end DoneExpected

/-! ### Runs -/

/-- What has been reported of the container is what was to be reported, and so are the entries of
the poll under way that are done. -/
structure ExactInv (cfg : DockerConfig) (c : Bytes) (s : DockerPolls) : Prop where
  inv : Inv cfg c s
  reports : Tracker.reports cfg {} (s.reports.map (·.input.own c)) =
    Tracker.expectedReports cfg {} (s.reports.map (·.input.own c))
  done : ∀ p ∈ s.polling, DoneExpected cfg c (trackerAfter cfg (s.reports.map (·.input.own c))) p

section Step

variable {cfg : DockerConfig} {c : Bytes} {s s' : DockerPolls}

theorem ExactInv.during (h : ExactInv cfg c s) (hinv : Inv cfg c s') {p' : Polling}
    (hreports : s'.reports = s.reports) (hpolling : s'.polling = some p')
    (hdone : DoneExpected cfg c (trackerAfter cfg (s.reports.map (·.input.own c))) p') :
    ExactInv cfg c s' where
  inv := hinv
  reports := by rw [hreports]; exact h.reports
  done p hp := by
    rw [hpolling] at hp
    rw [← Option.some.inj hp, hreports]
    exact hdone

theorem ExactInv.collect (h : ExactInv cfg c s) {p : Polling} (hp : s.polling = some p)
    (hinv : Inv cfg c (s.collect p)) (hwaited : p.waited = true)
    (hfailed : p.failedContainers = []) : ExactInv cfg c (s.collect p) := by
  refine ⟨hinv, ?_, nofun⟩
  have hinputs : (s.collect p).reports.map (·.input.own c) =
      s.reports.map (·.input.own c) ++ [p.input.own c] := List.map_append ..
  rw [hinputs, reports_append, expectedReports_append, h.reports]
  refine congrArg (fun stats => _ ++ [stats]) ?_
  exact (h.done p hp).settled (h.inv.polling p hp) hwaited hfailed

theorem exactInv_step (h : ExactInv cfg c s) {e : DockerEvent} (hguard : ReadsOwn cfg s e)
    (hstep : s.step cfg e = some s') : ExactInv cfg c s' := by
  have hinv := inv_step h.inv (apart_of_readsOwn hguard c) hstep
  rw [DockerPolls.step.eq_def, h.inv.panicked, if_neg Bool.false_ne_true] at hstep
  cases hp : s.polling with
  | none =>
      cases e with
      | list input =>
          simp only [hp, Option.some_inj] at hstep
          subst hstep
          exact h.during hinv rfl rfl (doneExpected_list input)
      | badList entries =>
          simp only [hp, Option.some_inj] at hstep
          subst hstep
          exact ⟨hinv, h.reports, fun p hmem => absurd hmem (Option.not_mem_none p)⟩
      | _ => simp [hp] at hstep
  | some p =>
      have hpoll := h.inv.polling p hp
      have hdone := h.done p hp
      cases e with
      | visit =>
          simp only [hp, Option.ite_none_right_eq_some, Option.some_inj] at hstep
          obtain ⟨hnext, rfl⟩ := hstep
          have hpanics := hguard p hp
          rw [DockerPolls.visit, hpanics] at hinv ⊢
          simp only [Bool.false_eq_true, if_false] at hinv ⊢
          cases hexcluded : shouldExcludeContainer cfg (s.dm.ctr p.next).name with
          | true =>
              rw [hexcluded, if_pos rfl] at hinv
              exact h.during hinv rfl rfl (hdone.skipped hpoll hexcluded)
          | false =>
              rw [hexcluded, if_neg Bool.false_ne_true] at hinv
              exact h.during hinv rfl rfl hdone.launched
      | update i =>
          simp only [hp, Option.ite_none_right_eq_some, Option.some_inj] at hstep
          obtain ⟨hi, rfl⟩ := hstep
          obtain ⟨hcovered, hagrees⟩ := hguard p hp
          exact h.during hinv rfl rfl (hdone.updated hpoll hi hcovered hagrees)
      | drop i =>
          simp only [hp, Option.ite_none_right_eq_some, Option.some_inj] at hstep
          obtain ⟨hi, rfl⟩ := hstep
          exact h.during hinv rfl rfl (hdone.dropped hpoll hi)
      | retry i =>
          simp only [hp, Option.ite_none_right_eq_some, Option.some_inj] at hstep
          obtain ⟨⟨-, hi⟩, rfl⟩ := hstep
          obtain ⟨hcovered, hpasses⟩ := hguard p hp
          exact h.during hinv rfl rfl (hdone.retried hpoll hi hcovered hpasses)
      | collect =>
          simp only [hp, Option.ite_none_right_eq_some, Option.some_inj] at hstep
          obtain ⟨⟨hwaited, hfailed⟩, rfl⟩ := hstep
          exact h.collect hp hinv hwaited hfailed
      | _ => simp [hp] at hstep

end Step

/-- **Exact reports.** In every run whose steps all meet the condition no container ends the
process, and each poll reports of every container the values of the attempt that succeeded in it,
once, and nothing of the others. -/
theorem exact_of_guarded {cfg : DockerConfig} {es : List DockerEvent} {s : DockerPolls}
    (hrun : Guarded (DockerPolls.step cfg) (ReadsOwn cfg) {} es s) : s.Exact cfg := by
  have hinv (c : Bytes) : ExactInv cfg c s :=
    hrun.invariant (fun _ _ _ hinv hguard hstep => exactInv_step hinv hguard hstep)
      ⟨inv_init cfg c, rfl, nofun⟩
  refine ⟨(hinv []).inv.panicked, fun c => ?_⟩
  rw [(hinv c).inv.reports, (hinv c).reports]

/-- Two polls: in the first both attempts for the first container fail, the second at its request,
and in the other all succeed. -/
def twoPolls : List DockerEvent :=
  let answered := listedContainer 99 (fullResponse 200000000 0)
  let unanswered := { listedContainer 97 (fullResponse 0 0) with second := {} }
  [.list ⟨60000, false, false, [unanswered, answered]⟩, .visit, .update 0, .visit, .drop 0,
    .update 1, .retry 0, .collect,
    .list ⟨60000, false, false, [listedContainer 97 (fullResponse 300000000 0), answered]⟩,
    .visit, .visit, .update 1, .update 0, .collect]

theorem exact_twoPolls :
    ∃ s, run (DockerPolls.step plainConfig) {} twoPolls = some s ∧ s.reports.length = 2 ∧
      s.Exact plainConfig := by
  obtain ⟨s, hcheck, hlength⟩ := Option.map_eq_some_iff.mp
    (show (check (DockerPolls.step plainConfig) (ReadsOwn plainConfig) {} twoPolls).map
      (·.reports.length) = some 2 by decide +kernel)
  have hguarded := guarded_of_check hcheck
  exact ⟨s, hguarded.run_eq, hlength, exact_of_guarded hguarded⟩

/-- Both attempts are answered, and the memory check fails on both. -/
def failsTwice : List DockerEvent :=
  let failing := listedContainer 99 (fullResponse 0 0)
  [.list ⟨60000, false, false, [{ failing with second := failing.first }]⟩, .visit, .update 0,
    .drop 0, .retry 0, .collect]

theorem not_exact : ¬ ∀ (cfg : DockerConfig) (es : List DockerEvent) (s : DockerPolls),
    run (DockerPolls.step cfg) {} es = some s → s.Exact cfg := by
  intro hall
  obtain ⟨s, hrun, heq⟩ := Option.map_eq_some_iff.mp
    (show (run (DockerPolls.step plainConfig) {} failsTwice).map (fun s =>
          (s.reports.map fun r => (r.of watched).length,
            (Tracker.expectedReports plainConfig {} (s.reports.map (·.input.own watched))).map
              (·.toList.length))) =
        some ([1], [0]) by decide +kernel)
  obtain ⟨hlength, hexpected⟩ := Prod.mk.inj heq
  have hexact := congrArg (List.map List.length) ((hall plainConfig failsTwice s hrun).2 watched)
  rw [List.map_map, List.map_map] at hexact
  exact absurd (hlength.symm.trans (hexact.trans hexpected)) (by decide)

end Picket.Docker
