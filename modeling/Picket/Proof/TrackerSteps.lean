import Picket.DockerTracker

/-!
# Each operation moves one tracker

Every map of a docker manager is read and written at the short id of the container that is updated.
What is left to depend on other containers are the structs that responses are decoded into: the
statistics must give every field that is looked at, or find it empty.
-/

namespace Picket.Docker

namespace DockerManager

variable (dm : DockerManager) (c id : Bytes) (cacheTimeMs : Uint16)

@[simp]
theorem track_modifyCtr (i : ℕ) (f : ApiInfo → ApiInfo) :
    (dm.modifyCtr i f).track c = dm.track c := rfl

@[simp]
theorem track_apiStats (res : ApiStats) : { dm with apiStats := res }.track c = dm.track c := rfl

@[simp]
theorem track_validIds (ids : List Bytes) : { dm with validIds := ids }.track c = dm.track c := rfl

/-- A map that holds a value for each interval and container, at the container. -/
theorem set_at {V : Type} (m : IntervalMap V) (v : V) :
    (fun ct => m.set cacheTimeMs id v ct c) =
      if c = id then Function.update (fun ct => m ct c) cacheTimeMs (some v)
      else fun ct => m ct c := by
  funext ct
  rw [IntervalMap.set, ite_apply]
  by_cases hct : ct = cacheTimeMs
  · subst hct
    rw [Function.update_self, Function.update_apply, Function.update_self]
  · rw [Function.update_of_ne hct, Function.update_of_ne hct, ite_self]

theorem track_modifyStats (f : Option DockerStats → DockerStats) :
    (dm.modifyStats id f).track c =
      if c = id then (dm.track c).modifyStats f else dm.track c := by
  have hget := dm.containerStatsMap.get_put id c (f (dm.containerStatsMap.get id))
  let write (stats : Option DockerStats) : Tracker := { dm.track c with stats }
  refine (congrArg write hget).trans ((apply_ite write _ _ _).trans ?_)
  by_cases hc : c = id
  · subst hc
    rfl
  · rw [if_neg hc, if_neg hc]
    rfl

theorem track_setCpuCurrentValues (cpuContainer cpuSystem : Uint64) :
    (dm.setCpuCurrentValues cacheTimeMs id cpuContainer cpuSystem).track c =
      if c = id then (dm.track c).setCpuCurrentValues cacheTimeMs cpuContainer cpuSystem
      else dm.track c := by
  have hcontainer := set_at c id cacheTimeMs dm.lastCpuContainer cpuContainer
  have hsystem := set_at c id cacheTimeMs dm.lastCpuSystem cpuSystem
  let write (lastCpuContainer lastCpuSystem : Uint16 → Option Uint64) : Tracker :=
    { dm.track c with lastCpuContainer, lastCpuSystem }
  exact (congrArg₂ write hcontainer hsystem).trans (apply_ite₂ write _ _ _ _ _)

theorem track_setLastNetworkReadTime (now : ℤ) :
    (dm.setLastNetworkReadTime cacheTimeMs id now).track c =
      if c = id then (dm.track c).setLastNetworkReadTime cacheTimeMs now else dm.track c := by
  have htime := set_at c id cacheTimeMs dm.lastNetworkReadTime now
  let write (lastNetworkReadTime : Uint16 → Option ℤ) : Tracker :=
    { dm.track c with lastNetworkReadTime }
  exact (congrArg write htime).trans (apply_ite write _ _ _)

theorem track_setLastCpuReadTime (read : ℤ) :
    (dm.setLastCpuReadTime cacheTimeMs id read).track c =
      if c = id then (dm.track c).setLastCpuReadTime cacheTimeMs read else dm.track c := by
  have htime := set_at c id cacheTimeMs dm.lastCpuReadTime read
  let write (lastCpuReadTime : Uint16 → Option ℤ) : Tracker :=
    { dm.track c with lastCpuReadTime }
  exact (congrArg write htime).trans (apply_ite write _ _ _)

/-- The meter of a container after the total of a container has been set. -/
theorem meter_set (trackers : Uint16 → DeltaTracker Bytes Uint64) (total : Uint64) :
    (fun ct =>
        meter (Function.update trackers cacheTimeMs ((trackers cacheTimeMs).set id total) ct) c) =
      if c = id then
        Function.update (fun ct => meter (trackers ct) c) cacheTimeMs
          { meter (trackers cacheTimeMs) c with current := some total }
      else fun ct => meter (trackers ct) c := by
  funext ct
  rw [ite_apply]
  by_cases hct : ct = cacheTimeMs
  · subst hct
    simp only [Function.update_self, meter, DeltaTracker.set, Function.update_apply]
    split <;> rfl
  · simp only [Function.update_of_ne hct, ite_self]

theorem track_setNetworkTotals (totalSent totalRecv : Uint64) :
    (dm.setNetworkTotals cacheTimeMs id totalSent totalRecv).track c =
      if c = id then (dm.track c).setNetworkTotals cacheTimeMs totalSent totalRecv
      else dm.track c := by
  have hsent := meter_set c id cacheTimeMs dm.networkSentTrackers totalSent
  have hrecv := meter_set c id cacheTimeMs dm.networkRecvTrackers totalRecv
  let write (sent recv : Uint16 → Meter) : Tracker := { dm.track c with sent, recv }
  exact (congrArg₂ write hsent hrecv).trans (apply_ite₂ write _ _ _ _ _)

theorem delete_at {V : Type} (m : IntervalMap V) :
    (fun ct => m.delete id ct c) = if c = id then fun _ => none else fun ct => m ct c := by
  funext ct
  rw [ite_apply]
  exact Function.update_apply _ _ _ _

theorem track_deleteContainerStatsSync :
    (dm.deleteContainerStatsSync id).track c =
      if c = id then (dm.track c).deleteContainerStats else dm.track c := by
  have hget := dm.containerStatsMap.get_delete id c
  have hcontainer := delete_at c id dm.lastCpuContainer
  have hsystem := delete_at c id dm.lastCpuSystem
  have hread := delete_at c id dm.lastCpuReadTime
  have hnetwork := delete_at c id dm.lastNetworkReadTime
  by_cases hc : c = id
  · rw [if_pos hc] at hget hcontainer hsystem hread hnetwork ⊢
    exact Tracker.ext hget rfl hcontainer hsystem hread rfl rfl hnetwork
  · rw [if_neg hc] at hget hcontainer hsystem hread hnetwork ⊢
    exact Tracker.ext hget rfl hcontainer hsystem hread rfl rfl hnetwork

theorem track_deleteStats :
    (dm.deleteStats id).track c = if c = id then (dm.track c).dropStats else dm.track c := by
  have hget := dm.containerStatsMap.get_delete id c
  let write (stats : Option DockerStats) : Tracker := { dm.track c with stats }
  exact (congrArg write hget).trans (apply_ite write _ _ _)

theorem track_pruneStats :
    dm.pruneStats.track c = if c ∈ dm.validIds then dm.track c else (dm.track c).dropStats := by
  have hget := dm.containerStatsMap.get_retain (· ∈ dm.validIds) c
  let write (stats : Option DockerStats) : Tracker := { dm.track c with stats }
  refine (congrArg write hget).trans ((apply_ite write _ _ _).trans ?_)
  simp only [decide_eq_true_eq]
  rfl

/-- The meter of a container after the trackers of an interval have been cycled. -/
theorem meter_cycle (trackers : Uint16 → DeltaTracker Bytes Uint64) :
    (fun ct => meter (Function.update trackers cacheTimeMs (trackers cacheTimeMs).cycle ct) c) =
      Function.update (fun ct => meter (trackers ct) c) cacheTimeMs
        { previous := (meter (trackers cacheTimeMs) c).current } := by
  funext ct
  by_cases hct : ct = cacheTimeMs
  · subst hct
    simp only [Function.update_self]
    rfl
  · simp only [Function.update_of_ne hct]

theorem track_cycle :
    (dm.cycleNetworkDeltasForCacheTime cacheTimeMs).track c = (dm.track c).cycle cacheTimeMs := by
  have hsent := meter_cycle c cacheTimeMs dm.networkSentTrackers
  have hrecv := meter_cycle c cacheTimeMs dm.networkRecvTrackers
  exact congrArg₂ (fun sent recv => { dm.track c with sent, recv }) hsent hrecv

/-! ### Applying decoded statistics -/

theorem delta_meter (t : DeltaTracker Bytes Uint64) : (meter t c).delta = t.delta c := by
  unfold Meter.delta DeltaTracker.delta meter
  cases t.current c <;> cases t.previous c <;> rfl

theorem networkRates_track (since : ℤ) :
    dm.networkRates cacheTimeMs c since = (dm.track c).networkRates cacheTimeMs since := by
  unfold DockerManager.networkRates Tracker.networkRates
  dsimp only [DockerManager.track]
  rw [delta_meter, delta_meter]

theorem track_applyStats_of_ne (a : Attempt) (hc : c ≠ id) :
    (dm.applyStats cacheTimeMs id a).1.track c = dm.track c := by
  rw [applyStats]
  simp only
  cases calculateMemoryUsage dm.apiStats dm.isWindows with
  | none => rfl
  | some usedMemory =>
      simp only
      split
      · rw [track_setCpuCurrentValues, if_neg hc]
      · simp only [track_setLastCpuReadTime, track_modifyStats, track_setLastNetworkReadTime,
          track_setNetworkTotals, track_setCpuCurrentValues, if_neg hc]

theorem track_applyStats (a : Attempt) :
    ((dm.applyStats cacheTimeMs c a).1.track c, (dm.applyStats cacheTimeMs c a).2) =
      (dm.track c).applyStats dm.isWindows cacheTimeMs dm.apiStats a := by
  have hprev : dm.getCpuPreviousValues cacheTimeMs c =
      (((dm.track c).lastCpuContainer cacheTimeMs).getD 0,
        ((dm.track c).lastCpuSystem cacheTimeMs).getD 0) := rfl
  have hread : dm.lastCpuReadTime cacheTimeMs c = (dm.track c).lastCpuReadTime cacheTimeMs := rfl
  rw [applyStats, Tracker.applyStats, hprev, hread]
  simp only
  cases calculateMemoryUsage dm.apiStats dm.isWindows with
  | none => rfl
  | some usedMemory =>
      simp only
      split
      · simp only [track_setCpuCurrentValues, if_true]
      · simp only [networkRates_track, track_setLastCpuReadTime, track_modifyStats,
          track_setLastNetworkReadTime, track_setNetworkTotals, track_setCpuCurrentValues, if_true]

end DockerManager

end Picket.Docker
