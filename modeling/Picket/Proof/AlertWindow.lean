import Picket.AlertWindow

/-!
# What a window average is made of

The loop of `HandleSystemAlerts` reads every record into the same struct, so what a record adds to
an alert may come from an earlier one. An alert's sums are computed here from the struct as each
record leaves it, and compared with what the record gives alone: a record without bandwidth, without
some GPU or without some filesystem passes on what the latest earlier record had. The count of
records is one byte wide.
-/

namespace Picket

open FiniteMap FloatingPoint

variable (ar : Arithmetic)

/-! ### One alert in the loop -/

/-- Whether the switch counts a record. -/
def counts (name : AlertName) (stats : SystemAlertStats) : Bool :=
  match name with
  | .gpu => stats.gpu ≠ ∅
  | .status | .other _ => false
  | _ => true

/-- What the switch adds to an alert's value; `none` when the record does not count. -/
def metric (name : AlertName) (stats : SystemAlertStats) : Option Value :=
  match name with
  | .cpu => some stats.cpu
  | .memory => some stats.mem
  | .bandwidth => some (bandwidthMB ar (stats.bandwidth 0 + stats.bandwidth 1))
  | .disk => some 0
  | .loadAvg1 => some (stats.loadAvg 0)
  | .loadAvg5 => some (stats.loadAvg 1)
  | .loadAvg15 => some (stats.loadAvg 2)
  | .gpu => if stats.gpu = ∅ then none else some (maxFrom 0 id stats.gpu)
  | .status | .other _ => none

theorem isSome_metric (name : AlertName) (stats : SystemAlertStats) :
    (metric ar name stats).isSome = counts name stats := by
  cases name with
  | gpu => by_cases hgpu : stats.gpu = ∅ <;> simp [metric, counts, hgpu]
  | _ => rfl

/-- The percentage of an extra filesystem, if the record has it with a size. -/
def extraPct (stats : SystemAlertStats) (key : String) : Option Value :=
  (stats.extraFs.lookup key).bind (SystemAlertFsStats.usedPct ar)

/-- What a record adds to the sum kept under `key`, one value after another. -/
def diskShares (stats : SystemAlertStats) (key : String) : List Value :=
  (if key = "root" then [ar.single stats.disk] else []) ++ (extraPct ar stats key).toList

theorem sumAt_addDisk (stats : SystemAlertStats) (mapSums : GoMap Value) (key : String) :
    sumAt (addDisk ar stats mapSums) key =
      addUp ar.single (sumAt mapSums key) (diskShares ar stats key) := by
  have hroot : (Finmap.singleton "root" (ar.single stats.disk) : GoMap Value).lookup key
      = if key = "root" then some (ar.single stats.disk) else none := by
    by_cases hkey : key = "root"
    · rw [hkey, Finmap.lookup_singleton_eq, if_pos rfl]
    · rw [if_neg hkey, Finmap.lookup_eq_none, Finmap.mem_singleton]
      exact hkey
  unfold addDisk diskShares
  dsimp only
  rw [sumAt_accumulate_elim fun total v => ar.single (total + v),
    sumAt_accumulate_elim fun total v => ar.single (total + v), hroot, lookup_filterMapVal, addUp,
    List.foldl_append]
  unfold extraPct
  by_cases hkey : key = "root"
  · rw [if_pos hkey, if_pos hkey]
    cases (stats.extraFs.lookup key).bind (SystemAlertFsStats.usedPct ar) <;> rfl
  · rw [if_neg hkey, if_neg hkey]
    cases (stats.extraFs.lookup key).bind (SystemAlertFsStats.usedPct ar) <;> rfl

section AddStats

variable (stats : SystemAlertStats) (alert : SystemAlertData)

theorem addStats_eq :
    addStats ar stats alert = (metric ar alert.name stats).elim alert fun v =>
      { alert with
        val := if alert.name = .disk then alert.val else ar.double (alert.val + v)
        count := alert.count + 1
        mapSums :=
          if alert.name = .disk then addDisk ar stats alert.mapSums else alert.mapSums } := by
  obtain ⟨alertData, name, val, threshold, triggered, time, count, min, mapSums⟩ := alert
  cases name with
  | gpu => by_cases hgpu : stats.gpu = ∅ <;> simp [addStats, metric, hgpu]
  | _ => rfl

theorem val_addStats (hname : alert.name ≠ .disk) :
    (addStats ar stats alert).val =
      addUp ar.double alert.val (metric ar alert.name stats).toList := by
  rw [addStats_eq]
  cases metric ar alert.name stats with
  | none => rfl
  | some v => exact if_neg hname

theorem count_addStats :
    (addStats ar stats alert).count.val
      = (alert.count.val + if counts alert.name stats then 1 else 0) % 2 ^ 8 := by
  rw [addStats_eq, ← isSome_metric ar]
  cases metric ar alert.name stats with
  | none => exact (Nat.mod_eq_of_lt alert.count.isLt).symm
  | some v => exact Fin.val_add alert.count 1

theorem sumAt_addStats (hname : alert.name = .disk) (key : String) :
    sumAt (addStats ar stats alert).mapSums key =
      addUp ar.single (sumAt alert.mapSums key) (diskShares ar stats key) := by
  rw [addStats_eq, hname]
  exact sumAt_addDisk ar stats alert.mapSums key

def SystemAlertData.fixed (alert : SystemAlertData) :
    CachedAlertData × AlertName × Value × Bool × ℤ × Uint8 :=
  (alert.alertData, alert.name, alert.threshold, alert.triggered, alert.time, alert.min)

theorem fixed_addStats : (addStats ar stats alert).fixed = alert.fixed := by
  rw [addStats_eq]
  cases metric ar alert.name stats <;> rfl

theorem name_addStats : (addStats ar stats alert).name = alert.name :=
  congrArg (fun fixed => fixed.2.1) (fixed_addStats ar stats alert)

theorem time_addStats : (addStats ar stats alert).time = alert.time :=
  congrArg (fun fixed => fixed.2.2.2.2.1) (fixed_addStats ar stats alert)

end AddStats

/-! ### One alert over all records -/

/-- The records of a window, as the loop has them after reading. -/
def inWindow (time : ℤ) (records : List (ℤ × SystemAlertStats)) : List SystemAlertStats :=
  (records.filter fun r => ¬ r.1 - 10 * 1000 < time).map (·.2)

theorem inWindow_cons (time created : ℤ) (stats : SystemAlertStats)
    (records : List (ℤ × SystemAlertStats)) :
    inWindow time ((created, stats) :: records)
      = if created - 10 * 1000 < time then inWindow time records
        else stats :: inWindow time records := by
  by_cases hold : created - 10 * 1000 < time
  · rw [if_pos hold, inWindow, List.filter_cons_of_neg (by simpa using hold), inWindow]
  · rw [if_neg hold, inWindow, List.filter_cons_of_pos (by simpa using hold), List.map_cons,
      inWindow]

def addWindow (alert : SystemAlertData) (window : List SystemAlertStats) : SystemAlertData :=
  window.foldl (fun alert stats => addStats ar stats alert) alert

def number (name : AlertName) (window : List SystemAlertStats) : ℕ :=
  window.countP (counts name)

section AddWindow

variable (window : List SystemAlertStats) (alert : SystemAlertData)

theorem fixed_addWindow : (addWindow ar alert window).fixed = alert.fixed := by
  induction window generalizing alert with
  | nil => rfl
  | cons stats window ih =>
      exact (ih (addStats ar stats alert)).trans (fixed_addStats ar stats alert)

theorem val_addWindow (hname : alert.name ≠ .disk) :
    (addWindow ar alert window).val =
      addUp ar.double alert.val (window.filterMap (metric ar alert.name)) := by
  induction window generalizing alert with
  | nil => rfl
  | cons stats window ih =>
      have htail := ih (addStats ar stats alert) (by rwa [name_addStats])
      rw [name_addStats, val_addStats ar stats alert hname] at htail
      refine htail.trans ?_
      rw [addUp, addUp, addUp, ← List.foldl_append, List.filterMap_cons]
      cases metric ar alert.name stats <;> rfl

theorem count_addWindow :
    (addWindow ar alert window).count.val =
      (alert.count.val + number alert.name window) % 2 ^ 8 := by
  induction window generalizing alert with
  | nil => exact (Nat.mod_eq_of_lt alert.count.isLt).symm
  | cons stats window ih =>
      have htail := ih (addStats ar stats alert)
      rw [name_addStats, count_addStats, Nat.mod_add_mod] at htail
      refine htail.trans (congrArg (· % 2 ^ 8) ?_)
      rw [number, number, List.countP_cons]
      omega

theorem sumAt_addWindow (hname : alert.name = .disk) (key : String) :
    sumAt (addWindow ar alert window).mapSums key =
      addUp ar.single (sumAt alert.mapSums key) (window.flatMap (diskShares ar · key)) := by
  induction window generalizing alert with
  | nil => rfl
  | cons stats window ih =>
      have htail := ih (addStats ar stats alert) ((name_addStats ar stats alert).trans hname)
      rw [sumAt_addStats ar stats alert hname] at htail
      rw [List.flatMap_cons, addUp, List.foldl_append]
      exact htail

end AddWindow

/-- The struct after each record, with the record's creation time. -/
def shared (stats : SystemAlertStats) : List (ℤ × Stats) → List (ℤ × SystemAlertStats)
  | [] => []
  | (created, r) :: records =>
      (created, unmarshal ar r.json stats) :: shared (unmarshal ar r.json stats) records

def row (r : ℤ × Stats) : StatRow where
  stats := some r.2.json
  created := r.1

theorem addWindow_addRecord (i : ℕ) (created : ℤ) (stats : SystemAlertStats)
    (records : List (ℤ × SystemAlertStats)) (alert : SystemAlertData) :
    addWindow ar (addRecord ar (i + 1) created stats alert)
        (inWindow (addRecord ar (i + 1) created stats alert).time records)
      = addWindow ar alert (inWindow alert.time ((created, stats) :: records)) := by
  have hturn : addRecord ar (i + 1) created stats alert
      = if created - 10 * 1000 < alert.time then alert else addStats ar stats alert := rfl
  by_cases hold : created - 10 * 1000 < alert.time
  · rw [hturn, if_pos hold, inWindow_cons, if_pos hold]
  · rw [hturn, if_neg hold, time_addStats, inWindow_cons, if_neg hold]
    rfl

theorem sumRecords_succ (i : ℕ) (stats : SystemAlertStats) (alerts : List SystemAlertData)
    (records : List (ℤ × Stats)) :
    sumRecords ar (i + 1) stats alerts (records.map row)
      = some (alerts.map fun alert =>
          addWindow ar alert (inWindow alert.time (shared ar stats records))) := by
  induction records generalizing i stats alerts with
  | nil => simp [sumRecords, shared, inWindow, addWindow]
  | cons r records ih =>
      have htail := ih (i + 1) (unmarshal ar r.2.json stats)
        (alerts.map (addRecord ar (i + 1) r.1 (unmarshal ar r.2.json stats)))
      refine htail.trans (congrArg some ?_)
      rw [List.map_map]
      exact List.map_congr_left fun alert _ => addWindow_addRecord ar i r.1 _ _ alert

/-- The whole loop: every alert, its value reset, after the records of its own window. -/
theorem sumRecords_zero (alerts : List SystemAlertData) (r : ℤ × Stats)
    (records : List (ℤ × Stats)) :
    sumRecords ar 0 {} alerts ((r :: records).map row)
      = some (alerts.map fun alert =>
          addWindow ar { alert with val := 0 }
            (inWindow alert.time (shared ar {} (r :: records)))) := by
  have htail := sumRecords_succ ar 0 (unmarshal ar r.2.json {})
    (alerts.map (addRecord ar 0 r.1 (unmarshal ar r.2.json {}))) records
  refine htail.trans (congrArg some ?_)
  rw [List.map_map]
  refine List.map_congr_left fun alert _ => ?_
  exact addWindow_addRecord ar 0 r.1 (unmarshal ar r.2.json {})
    (shared ar (unmarshal ar r.2.json {}) records) { alert with val := 0 }

/-! ### What the shared struct holds -/

/-- The struct after reading the records one after another. -/
def readAll (records : List Stats) : SystemAlertStats :=
  records.foldl (fun stats r => unmarshal ar r.json stats) {}

/-- The struct after reading one record alone. -/
def alone (r : Stats) : SystemAlertStats :=
  unmarshal ar r.json {}

/-- The last reading, among the records that have one. -/
def latest {V : Type} (read : Stats → Option V) (records : List Stats) : Option V :=
  records.foldl (fun found r => (read r).or found) none

def readBandwidth (r : Stats) : Option (Fin 2 → Uint64) :=
  if r.bandwidth = 0 then none else some r.bandwidth

def readGpu (id : String) (r : Stats) : Option ℚ :=
  (r.gpuData.lookup id).map GPUData.usage

def readFs (key : String) (r : Stats) : Option FsJson :=
  (r.extraFs.lookup key).map fun fs => ⟨fs.diskTotal, fs.diskUsed⟩

theorem readAll_snoc (records : List Stats) (r : Stats) :
    readAll ar (records ++ [r]) = unmarshal ar r.json (readAll ar records) := by
  simp [readAll]

theorem latest_snoc {V : Type} (read : Stats → Option V) (records : List Stats) (r : Stats) :
    latest read (records ++ [r]) = (read r).or (latest read records) := by
  simp [latest]

theorem bandwidth_unmarshal (r : Stats) (stats : SystemAlertStats) :
    (unmarshal ar r.json stats).bandwidth = (readBandwidth r).getD stats.bandwidth := rfl

theorem gpu_unmarshal (r : Stats) (stats : SystemAlertStats) (id : String) :
    (unmarshal ar r.json stats).gpu.lookup id =
      ((readGpu id r).map fun usage : ℚ => ar.double usage).or (stats.gpu.lookup id) := by
  refine (lookup_union _ _ id).trans (congrArg (Option.or · _) ?_)
  by_cases hempty : r.gpuData = ∅ <;> simp [Stats.json, readGpu, hempty]

theorem extraFs_unmarshal (r : Stats) (stats : SystemAlertStats) (key : String) :
    (unmarshal ar r.json stats).extraFs.lookup key =
      ((readFs key r).map (FsJson.unmarshal ar)).or (stats.extraFs.lookup key) := by
  refine (lookup_union _ _ key).trans (congrArg (Option.or · _) ?_)
  by_cases hempty : r.extraFs = ∅ <;> simp [Stats.json, readFs, hempty]

theorem bandwidth_readAll (records : List Stats) :
    (readAll ar records).bandwidth = (latest readBandwidth records).getD 0 := by
  induction records using List.reverseRecOn with
  | nil => rfl
  | append_singleton records r ih =>
      rw [readAll_snoc, latest_snoc, bandwidth_unmarshal, ih]
      cases readBandwidth r <;> simp

theorem gpu_readAll (records : List Stats) (id : String) :
    (readAll ar records).gpu.lookup id =
      (latest (readGpu id) records).map fun usage : ℚ => ar.double usage := by
  induction records using List.reverseRecOn with
  | nil => simp [readAll, latest]
  | append_singleton records r ih =>
      rw [readAll_snoc, latest_snoc, gpu_unmarshal, ih]
      cases readGpu id r <;> simp

theorem extraFs_readAll (records : List Stats) (key : String) :
    (readAll ar records).extraFs.lookup key =
      (latest (readFs key) records).map (FsJson.unmarshal ar) := by
  induction records using List.reverseRecOn with
  | nil => simp [readAll, latest]
  | append_singleton records r ih =>
      rw [readAll_snoc, latest_snoc, extraFs_unmarshal, ih]
      cases readFs key r <;> simp

/-- The GPUs of the struct are the same in any arithmetic, so the records count alike. -/
theorem gpu_readAll_eq_empty_iff (records : List Stats) :
    (readAll ar records).gpu = ∅ ↔ ∀ id, latest (readGpu id) records = none := by
  constructor
  · intro hempty id
    have hid := gpu_readAll ar records id
    rw [hempty, Finmap.lookup_empty, eq_comm, Option.map_eq_none_iff] at hid
    exact hid
  · intro hnone
    refine Finmap.ext_lookup fun id => ?_
    rw [gpu_readAll, hnone, Option.map_none, Finmap.lookup_empty]

theorem counts_readAll (ar' : Arithmetic) (name : AlertName) (records : List Stats) :
    counts name (readAll ar records) = counts name (readAll ar' records) := by
  cases name with
  | gpu =>
      have hempty := (gpu_readAll_eq_empty_iff ar records).trans
        (gpu_readAll_eq_empty_iff ar' records).symm
      exact decide_eq_decide.mpr (not_congr hempty)
  | _ => rfl

/-! ### The records of a window -/

/-- The records of a window, each with all records before it. -/
def windowed (time : ℤ) (earlier : List Stats) : List (ℤ × Stats) → List (List Stats × Stats)
  | [] => []
  | (created, own) :: records =>
      if created - 10 * 1000 < time then windowed time (earlier ++ [own]) records
      else (earlier, own) :: windowed time (earlier ++ [own]) records

theorem inWindow_shared (time : ℤ) (earlier : List Stats) (records : List (ℤ × Stats)) :
    inWindow time (shared ar (readAll ar earlier) records)
      = (windowed time earlier records).map fun r => readAll ar (r.1 ++ [r.2]) := by
  induction records generalizing earlier with
  | nil => rfl
  | cons r records ih =>
      have htail := ih (earlier ++ [r.2])
      rw [shared, ← readAll_snoc, inWindow_cons, windowed, htail]
      split <;> rfl

/-- What the loop has of the records of a window. -/
def contributors (time : ℤ) (records : List (ℤ × Stats)) : List SystemAlertStats :=
  (windowed time [] records).map fun r => readAll ar (r.1 ++ [r.2])

/-- What the records of a window hold alone. -/
def ownWindow (time : ℤ) (records : List (ℤ × Stats)) : List SystemAlertStats :=
  (windowed time [] records).map fun r => alone ar r.2

theorem number_contributors (ar' : Arithmetic) (name : AlertName) (time : ℤ)
    (records : List (ℤ × Stats)) :
    number name (contributors ar time records) = number name (contributors ar' time records) := by
  unfold number contributors
  rw [List.countP_map, List.countP_map]
  exact congrArg (List.countP · _) (funext fun r => counts_readAll ar ar' name (r.1 ++ [r.2]))

theorem number_ownWindow (ar' : Arithmetic) (name : AlertName) (time : ℤ)
    (records : List (ℤ × Stats)) :
    number name (ownWindow ar time records) = number name (ownWindow ar' time records) := by
  unfold number ownWindow
  rw [List.countP_map, List.countP_map]
  exact congrArg (List.countP · _) (funext fun r => counts_readAll ar ar' name [r.2])

end Picket
