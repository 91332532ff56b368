import Picket.Proof.ContainerPolls

/-!
# What one container leaves for another

All statistics are decoded into one struct and all list entries into one list of structs. A field
that the API leaves out for one container is then what the last container had there. Apart from
that, what is reported of a container is a function of its own entries and its own statistics.
-/

namespace Picket.Docker

open Transition

/-! ### Entries know their ids -/

def Keyed (table : ObjectTable Bytes DockerStats) : Prop :=
  ∀ id stats, table.get id = some stats → stats.id = id

theorem Keyed.put {table : ObjectTable Bytes DockerStats} (h : Keyed table) {id : Bytes}
    {stats : DockerStats} (hid : stats.id = id) : Keyed (table.put id stats) := by
  intro id' stats' hget
  rw [ObjectTable.get_put] at hget
  split at hget
  case isTrue heq => rw [heq, ← Option.some.inj hget, hid]
  case isFalse => exact h id' stats' hget

theorem Keyed.retain {table : ObjectTable Bytes DockerStats} (h : Keyed table)
    (keep : Bytes → Bool) : Keyed (table.retain keep) := by
  intro id stats hget
  rw [ObjectTable.get_retain] at hget
  split at hget
  · exact h id stats hget
  · cases hget

theorem keyed_applyStats {dm : DockerManager} (h : Keyed dm.containerStatsMap)
    (cacheTimeMs : Uint16) {id : Bytes} (hold : ∃ old, dm.containerStatsMap.get id = some old)
    (a : Attempt) : Keyed (dm.applyStats cacheTimeMs id a).1.containerStatsMap := by
  rw [DockerManager.applyStats]
  simp only
  cases calculateMemoryUsage dm.apiStats dm.isWindows with
  | none => exact h
  | some usedMemory =>
      simp only
      split
      · exact h
      · refine h.put ?_
        obtain ⟨old, hold⟩ := hold
        change ((dm.containerStatsMap.get id).getD {}).id = id
        rw [hold]
        exact h id old hold

theorem keyed_updateContainerStats {dm : DockerManager} (h : Keyed dm.containerStatsMap)
    (cfg : DockerConfig) (cacheTimeMs : Uint16) (i : ℕ) (a : Attempt) :
    Keyed (dm.updateContainerStats cfg cacheTimeMs i a).1.containerStatsMap := by
  rw [DockerManager.updateContainerStats]
  cases a.response with
  | none => exact h
  | some response =>
      have hbegin : Keyed (dm.modifyStats (dm.ctr i).idShort
          (beginStats cfg dm.usingPodman (dm.ctr i) a.podmanHealth)).containerStatsMap := h.put rfl
      have hget := dm.containerStatsMap.get_put (dm.ctr i).idShort (dm.ctr i).idShort
        (beginStats cfg dm.usingPodman (dm.ctr i) a.podmanHealth
          (dm.containerStatsMap.get (dm.ctr i).idShort))
      rw [if_pos rfl] at hget
      simp only
      split
      · refine keyed_applyStats ?_ cacheTimeMs ?_ a
        · exact hbegin
        · exact ⟨_, hget⟩
      · exact hbegin

theorem keyed_launch {dm : DockerManager} (h : Keyed dm.containerStatsMap) (ctr : ApiInfo) :
    Keyed (dm.launch ctr).containerStatsMap := by
  rw [DockerManager.launch]
  split
  · exact h.retain _
  · exact h

/-! ### The invariant -/

def DockerReport.of (r : DockerReport) (c : Bytes) : List DockerStats :=
  r.values.filter (·.id = c)

def trackerAfter (cfg : DockerConfig) (os : List OwnInput) : Tracker :=
  os.foldl (Tracker.poll cfg) {}

theorem reports_append (cfg : DockerConfig) (t : Tracker) (os : List OwnInput) (o : OwnInput) :
    t.reports cfg (os ++ [o]) =
      t.reports cfg os ++ [((os.foldl (Tracker.poll cfg) t).poll cfg o).stats] := by
  induction os generalizing t with
  | nil => rfl
  | cons o' os ih => rw [List.cons_append, Tracker.reports, Tracker.reports, ih]; rfl

/-- What is reported of the container, and what is kept of it, comes from its own inputs. -/
structure Inv (cfg : DockerConfig) (c : Bytes) (s : DockerPolls) : Prop where
  panicked : s.panicked = false
  keyed : Keyed s.dm.containerStatsMap
  reports : s.reports.map (·.of c) =
    (Tracker.reports cfg {} (s.reports.map (·.input.own c))).map Option.toList
  idle : s.polling = none → s.dm.track c = trackerAfter cfg (s.reports.map (·.input.own c))
  polling : ∀ p ∈ s.polling, PollInv cfg c (trackerAfter cfg (s.reports.map (·.input.own c))) s.dm p

theorem inv_init (cfg : DockerConfig) (c : Bytes) : Inv cfg c {} :=
  ⟨rfl, nofun, rfl, fun _ => rfl, nofun⟩

section Step

variable {cfg : DockerConfig} {c : Bytes} {s : DockerPolls} {p : Polling}

theorem Inv.during (h : Inv cfg c s) {s' : DockerPolls} {p' : Polling}
    (hpanicked : s'.panicked = s.panicked) (hreports : s'.reports = s.reports)
    (hpolling : s'.polling = some p') (hkeyed : Keyed s'.dm.containerStatsMap)
    (hpoll : PollInv cfg c (trackerAfter cfg (s.reports.map (·.input.own c))) s'.dm p') :
    Inv cfg c s' where
  panicked := hpanicked.trans h.panicked
  keyed := hkeyed
  reports := by rw [hreports]; exact h.reports
  idle hidle := by rw [hpolling] at hidle; cases hidle
  polling p'' hp'' := by
    rw [hpolling] at hp''
    rw [← Option.some.inj hp'', hreports]
    exact hpoll

theorem Inv.visit (h : Inv cfg c s) (hp : s.polling = some p)
    (hnext : p.next < p.input.listed.length) (hguard : (s.dm.ctr p.next).panics = false) :
    Inv cfg c (s.visit cfg p) := by
  have hpoll := h.polling p hp
  have hkeyed : Keyed (s.dm.setIdShort p.next).containerStatsMap := h.keyed
  rw [DockerPolls.visit, hguard]
  simp only [Bool.false_eq_true, if_false]
  cases hexcluded : shouldExcludeContainer cfg (s.dm.ctr p.next).name with
  | true => exact h.during rfl rfl rfl hkeyed (hpoll.skipped hnext hexcluded)
  | false =>
      exact h.during rfl rfl rfl (keyed_launch hkeyed _) (hpoll.launched hnext hexcluded)

theorem Inv.collect (h : Inv cfg c s) (hp : s.polling = some p) (hwaited : p.waited = true)
    (hfailed : p.failedContainers = []) : Inv cfg c (s.collect p) := by
  have hpoll := h.polling p hp
  have hkeyed : Keyed s.dm.pruneStats.containerStatsMap := h.keyed.retain _
  have htrack := track_pruneStats_of_pollInv hpoll hwaited hfailed
  set os := s.reports.map (·.input.own c) with hos
  have hinputs : (s.collect p).reports.map (·.input.own c) = os ++ [p.input.own c] :=
    List.map_append ..
  have hsettled : s.dm.pruneStats.containerStatsMap.get c =
      ((trackerAfter cfg os).poll cfg (p.input.own c)).stats := congrArg Tracker.stats htrack
  refine ⟨h.panicked, hkeyed, ?_, fun _ => ?_, nofun⟩
  · rw [hinputs, reports_append, List.map_append, ← h.reports]
    refine (List.map_append ..).trans (congrArg _ ?_)
    refine congrArg (fun stats => [stats]) ?_
    rw [← trackerAfter, ← hsettled]
    exact ObjectTable.filter_values hkeyed c
  · rw [hinputs, trackerAfter, List.foldl_append]
    refine (s.dm.pruneStats.track_cycle c _).trans ?_
    rw [htrack]
    rfl

theorem inv_step (hinv : Inv cfg c s) {e : DockerEvent} {s' : DockerPolls} (hguard : Apart c s e)
    (hstep : s.step cfg e = some s') : Inv cfg c s' := by
  rw [DockerPolls.step.eq_def, hinv.panicked, if_neg Bool.false_ne_true] at hstep
  cases hp : s.polling with
  | none =>
      cases e with
      | list input =>
          simp only [hp, Option.some_inj] at hstep
          subst hstep
          exact hinv.during rfl rfl rfl hinv.keyed (pollInv_list s (hinv.idle hp) hguard)
      | badList entries =>
          simp only [hp, Option.some_inj] at hstep
          subst hstep
          exact ⟨rfl, hinv.keyed, hinv.reports, fun _ => hinv.idle hp, nofun⟩
      | _ => simp [hp] at hstep
  | some p =>
      have hpoll := hinv.polling p hp
      cases e with
      | visit =>
          simp only [hp, Option.ite_none_right_eq_some, Option.some_inj] at hstep
          obtain ⟨hnext, rfl⟩ := hstep
          exact hinv.visit hp hnext (hguard p hp)
      | update i =>
          simp only [hp, Option.ite_none_right_eq_some, Option.some_inj] at hstep
          obtain ⟨hi, rfl⟩ := hstep
          exact hinv.during rfl rfl rfl (keyed_updateContainerStats hinv.keyed cfg _ i _)
            (hpoll.updated hi (hguard p hp))
      | drop i =>
          simp only [hp, Option.ite_none_right_eq_some, Option.some_inj] at hstep
          obtain ⟨hi, rfl⟩ := hstep
          exact hinv.during rfl rfl rfl (hinv.keyed.retain _) (hpoll.dropped hi)
      | retry i =>
          simp only [hp, Option.ite_none_right_eq_some, Option.some_inj] at hstep
          obtain ⟨⟨-, hi⟩, rfl⟩ := hstep
          exact hinv.during rfl rfl rfl (keyed_updateContainerStats hinv.keyed cfg _ i _)
            (hpoll.retried hi (hguard p hp))
      | collect =>
          simp only [hp, Option.ite_none_right_eq_some, Option.some_inj] at hstep
          obtain ⟨⟨hwaited, hfailed⟩, rfl⟩ := hstep
          exact hinv.collect hp hwaited hfailed
      | _ => simp [hp] at hstep

end Step

theorem inv_of_guarded {cfg : DockerConfig} {c : Bytes} {es : List DockerEvent} {s : DockerPolls}
    (hrun : Guarded (DockerPolls.step cfg) (Apart c) {} es s) : Inv cfg c s :=
  hrun.invariant (fun _ _ _ hinv hguard hstep => inv_step hinv hguard hstep) (inv_init cfg c)

/-! ### Two runs -/

namespace DockerPolls

/-- What every poll was given whose list was received. -/
def inputs (s : DockerPolls) : List PollInput :=
  s.reports.map (·.input) ++ (s.polling.map (·.input)).toList

/-- The last poll has returned, or has ended the process. -/
def Ended (s : DockerPolls) : Prop :=
  s.polling = none ∨ s.panicked = true

end DockerPolls

/-- **Containers apart.** In two runs, in any order, whose steps take nothing from other containers
to `c`, the same is reported of `c` if its own entries and its own responses are the same. -/
theorem reports_of_own {cfg : DockerConfig} {c : Bytes} {es es' : List DockerEvent}
    {s s' : DockerPolls} (hrun : Guarded (DockerPolls.step cfg) (Apart c) {} es s)
    (hrun' : Guarded (DockerPolls.step cfg) (Apart c) {} es' s') (hended : s.Ended)
    (hended' : s'.Ended) (hown : s.inputs.map (·.own c) = s'.inputs.map (·.own c)) :
    s.reports.map (·.of c) = s'.reports.map (·.of c) := by
  have hinv := inv_of_guarded hrun
  have hinv' := inv_of_guarded hrun'
  have hinputs {u : DockerPolls} (hinv : Inv cfg c u) (hended : u.Ended) :
      u.inputs.map (·.own c) = u.reports.map (·.input.own c) := by
    have hidle : u.polling = none := hended.resolve_right (by simp [hinv.panicked])
    simp [DockerPolls.inputs, hidle]
  rw [hinputs hinv hended, hinputs hinv' hended'] at hown
  rw [hinv.reports, hinv'.reports, hown]

def plainConfig : DockerConfig where
  pathMatch _ _ := false
  sortPorts := id

/-- A container with an id of one byte over and over, and its answer to the first attempt. -/
def listedContainer (byte : UInt8) (response : StatsResponse) : Listed where
  entry :=
    { id := some (List.replicate 64 byte), names := some ["/web".toUTF8.toList],
      status := some "Up 2 hours", image := some "web:1", healthStatus := some "",
      ports := some [] }
  first := { response := some response, since := 1, now := 2 }

/-- The container that is looked at has the byte 99. -/
def watched : Bytes := List.replicate 12 99

def fullResponse (usage inactiveFile : Uint64) : StatsResponse where
  read := some 1
  totalUsage := some 5
  systemUsage := some 9
  usage := some usage
  cache := some 0
  inactiveFile := some inactiveFile

/-- The first of two containers is answered in full. -/
def inputTwo (response : StatsResponse) : PollInput where
  cacheTimeMs := 60000
  listed :=
    [listedContainer 97 (fullResponse 300000000 100000000), listedContainer 99 response]

def inputOne (response : StatsResponse) : PollInput where
  cacheTimeMs := 60000
  listed := [listedContainer 99 response]

def pollTwo (response : StatsResponse) : List DockerEvent :=
  [.list (inputTwo response), .visit, .visit, .update 0, .update 1, .collect]

def pollOne (response : StatsResponse) : List DockerEvent :=
  [.list (inputOne response), .visit, .update 0, .collect]

theorem ended_of_reports {s : DockerPolls} {input : PollInput}
    (hended : (s.polling.isNone, s.reports.map (·.input)) = (true, [input])) :
    s.Ended ∧ s.inputs = [input] := by
  obtain ⟨hidle, hreports⟩ := Prod.mk.inj hended
  rw [Option.isNone_iff_eq_none] at hidle
  exact ⟨.inl hidle, by rw [DockerPolls.inputs, hreports, hidle]; rfl⟩

theorem reports_full :
    ∃ s s', Guarded (DockerPolls.step plainConfig) (Apart watched) {}
        (pollTwo (fullResponse 200000000 0)) s ∧
      Guarded (DockerPolls.step plainConfig) (Apart watched) {}
        (pollOne (fullResponse 200000000 0)) s' ∧
      s.reports.map (·.of watched) = s'.reports.map (·.of watched) := by
  obtain ⟨s, hcheck, hreports⟩ := Option.map_eq_some_iff.mp
    (show (check (DockerPolls.step plainConfig) (Apart watched) {}
        (pollTwo (fullResponse 200000000 0))).map (fun s =>
          (s.polling.isNone, s.reports.map (·.input))) =
        some (true, [inputTwo (fullResponse 200000000 0)]) by decide +kernel)
  obtain ⟨s', hcheck', hreports'⟩ := Option.map_eq_some_iff.mp
    (show (check (DockerPolls.step plainConfig) (Apart watched) {}
        (pollOne (fullResponse 200000000 0))).map (fun s =>
          (s.polling.isNone, s.reports.map (·.input))) =
        some (true, [inputOne (fullResponse 200000000 0)]) by decide +kernel)
  obtain ⟨hended, hinputs⟩ := ended_of_reports hreports
  obtain ⟨hended', hinputs'⟩ := ended_of_reports hreports'
  refine ⟨s, s', guarded_of_check hcheck, guarded_of_check hcheck', ?_⟩
  refine reports_of_own (guarded_of_check hcheck) (guarded_of_check hcheck') hended hended' ?_
  rw [hinputs, hinputs']
  decide +kernel

/-- The container says how much memory it uses, and nothing of its cache. -/
def usageOnly : StatsResponse := { usage := some 200000000 }

theorem reports_leak : ¬ ∀ (cfg : DockerConfig) (c : Bytes) (es es' : List DockerEvent)
    (s s' : DockerPolls), run (DockerPolls.step cfg) {} es = some s →
    run (DockerPolls.step cfg) {} es' = some s' → s.Ended → s'.Ended →
    s.inputs.map (·.own c) = s'.inputs.map (·.own c) →
    s.reports.map (·.of c) = s'.reports.map (·.of c) := by
  intro hall
  obtain ⟨s, hrun, hs⟩ := Option.map_eq_some_iff.mp
    (show (run (DockerPolls.step plainConfig) {} (pollTwo usageOnly)).map (fun s =>
          ((s.polling.isNone, s.reports.map (·.input)),
            s.reports.map fun r => (r.of watched).map (·.mem))) =
        some ((true, [inputTwo usageOnly]), [[95.37]]) by decide +kernel)
  obtain ⟨s', hrun', hs'⟩ := Option.map_eq_some_iff.mp
    (show (run (DockerPolls.step plainConfig) {} (pollOne usageOnly)).map (fun s =>
          ((s.polling.isNone, s.reports.map (·.input)),
            s.reports.map fun r => (r.of watched).map (·.mem))) =
        some ((true, [inputOne usageOnly]), [[190.73]]) by decide +kernel)
  obtain ⟨hreports, hmem⟩ := Prod.mk.inj hs
  obtain ⟨hreports', hmem'⟩ := Prod.mk.inj hs'
  obtain ⟨hended, hinputs⟩ := ended_of_reports hreports
  obtain ⟨hended', hinputs'⟩ := ended_of_reports hreports'
  have hsame := hall plainConfig watched _ _ s s' hrun hrun' hended hended'
    (by rw [hinputs, hinputs']; decide +kernel)
  have hsameMem : s.reports.map (fun r => (r.of watched).map (·.mem)) =
      s'.reports.map (fun r => (r.of watched).map (·.mem)) := by
    have hmap := congrArg (List.map (List.map DockerStats.mem)) hsame
    rwa [List.map_map, List.map_map] at hmap
  rw [hmem, hmem'] at hsameMem
  revert hsameMem
  decide +kernel

end Picket.Docker
