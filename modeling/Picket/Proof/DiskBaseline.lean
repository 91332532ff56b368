import Picket.DiskReadings
import Picket.Lib.AssocList
import Picket.Lib.KeyedFold
import Picket.Lib.Transition
import Picket.Lib.Unsigned

/-!
# The baselines of disk rates

A snapshot at an interval is a reading with its time. So is the shared baseline, until the usage of
its filesystem fails: that empties the totals and leaves the time, and the first poll at another
interval takes everything since boot for what was read since then.
-/

namespace Picket.Gather

open Transition

/-! ### Entries in place -/

namespace Disks

variable (a : Disks) (device : String)

theorem lookup_modifyFs (f : FsStats → FsStats) (device' : String) :
    (a.modifyFs device f).fsStats.lookup device' =
      if device' = device then (a.fsStats.lookup device').map f
      else a.fsStats.lookup device' := by
  rw [modifyFs, AssocList.lookup_map (fun entry => by split <;> rfl)]
  by_cases hdevice : device' = device
  · simp [hdevice]
  · simp [hdevice]

theorem lookup_initializeDiskIoStats (ioCounters : List IoReading) (now : ℤ) :
    (a.initializeDiskIoStats ioCounters now).fsStats.lookup device =
      (a.fsStats.lookup device).map fun stats =>
        (counterOf ioCounters device).elim stats fun d =>
          { stats with time := now, totalRead := d.readBytes, totalWrite := d.writeBytes } := by
  rw [initializeDiskIoStats, AssocList.lookup_map (fun entry => by split <;> rfl)]
  refine congrArg (Option.map · _) (funext fun stats => ?_)
  rw [counterOf]
  cases ioCounters.find? (·.key = device) <;> rfl

theorem updateIoOf_eq (ioCounters : List IoReading) (cacheTimeMs : Uint16) (now : ℤ)
    (systemStats : Stats) (r : IoReading) :
    a.updateIoOf ioCounters cacheTimeMs now systemStats r =
      match a.ioOutcome cacheTimeMs now r with
      | .untracked => (a, systemStats)
      | .early =>
          (a.setPrev cacheTimeMs r.key (prevDiskFromCounter r.counters now), systemStats)
      | .invalid =>
          ((a.setPrev cacheTimeMs r.key (prevDiskFromCounter r.counters now)).initializeDiskIoStats
            ioCounters r.resetAt, systemStats)
      | .updated _ stats =>
          ((a.setPrev cacheTimeMs r.key (prevDiskFromCounter r.counters now)).modifyFs
            r.counters.name fun _ => stats, rootIo stats systemStats) := by
  unfold updateIoOf ioOutcome
  cases hlookup : a.fsStats.lookup r.counters.name with
  | none => simp only [hlookup]
  | some stats =>
      simp only [hlookup]
      set prev := (a.diskPrev cacheTimeMs r.key).getD (stats.seed r.counters now)
      set msElapsed := toUint64 ((timeSub now prev.time).tdiv 1000000)
      set updated := stats.updateIo prev r.counters msElapsed now
      by_cases hearly : msElapsed < 100
      · simp only [if_pos hearly]
      · by_cases hinvalid : 50000 < updated.diskReadPs ∨ 50000 < updated.diskWritePs
        · simp only [if_neg hearly, if_pos hinvalid]
        · simp only [if_neg hearly, if_neg hinvalid]

end Disks

theorem disks_readIo (s : DiskPolls) (ioCounters : List IoReading) (cacheTimeMs : Uint16) (now : ℤ)
    (systemStats : Stats) (r : IoReading) :
    (s.readIo ioCounters cacheTimeMs now r).disks =
      (s.disks.updateIoOf ioCounters cacheTimeMs now systemStats r).1 := by
  rw [Disks.updateIoOf_eq, DiskPolls.readIo]
  cases s.disks.ioOutcome cacheTimeMs now r <;> rfl

theorem disks_step_io {s s' : DiskPolls} {cacheTimeMs : Uint16}
    {ioCounters : Option (List IoReading)} {now : ℤ}
    (hstep : s.step (.io cacheTimeMs ioCounters now) = some s') (systemStats : Stats) :
    s'.disks = (s.disks.updateDiskIo cacheTimeMs systemStats ioCounters now).1 := by
  cases ioCounters with
  | none =>
      obtain rfl := Option.some.inj hstep
      rfl
  | some ioCounters =>
      obtain rfl := Option.some.inj hstep
      have hfold (rs : List IoReading) (s : DiskPolls) (systemStats : Stats) :
          (rs.foldl (DiskPolls.readIo ioCounters cacheTimeMs now) s).disks =
            (rs.foldl (fun polled r =>
              Disks.updateIoOf ioCounters cacheTimeMs now polled.1 polled.2 r)
              (s.disks, systemStats)).1 := by
        induction rs generalizing s systemStats with
        | nil => rfl
        | cons r rs ih =>
            rw [List.foldl_cons, List.foldl_cons, ih _
              (s.disks.updateIoOf ioCounters cacheTimeMs now systemStats r).2,
              disks_readIo s ioCounters cacheTimeMs now systemStats r]
      exact hfold ioCounters _ systemStats

/-! ### Usage -/

structure UsageKeeps (failed : Bool) (stats stats' : FsStats) : Prop where
  time : stats'.time = stats.time
  root : stats'.root = stats.root
  totals : (stats'.totalRead, stats'.totalWrite) =
    if failed then (0, 0) else (stats.totalRead, stats.totalWrite)

theorem usageKeeps_updateUsage (stats : FsStats) (usage : Option UsageStat) :
    UsageKeeps usage.isNone stats (stats.updateUsage usage) := by
  cases usage <;> exact ⟨rfl, rfl, rfl⟩

theorem UsageKeeps.trans {failed failed' : Bool} {stats stats' stats'' : FsStats}
    (h : UsageKeeps failed stats stats') (h' : UsageKeeps failed' stats' stats'') :
    UsageKeeps (failed || failed') stats stats'' := by
  refine ⟨h'.time.trans h.time, h'.root.trans h.root, ?_⟩
  rw [h'.totals]
  cases failed' with
  | true => simp
  | false =>
      rw [Bool.or_false, if_neg Bool.false_ne_true]
      exact h.totals

theorem updateUsageOf_frame (cacheExtraFs : Bool) (a : Disks) (systemStats : Stats)
    (reading : String × Option UsageStat) :
    (a.updateUsageOf cacheExtraFs systemStats reading).1.diskPrev = a.diskPrev ∧
      ∀ device, a.fsStats.lookup device = none →
        (a.updateUsageOf cacheExtraFs systemStats reading).1.fsStats.lookup device = none := by
  rw [Disks.updateUsageOf]
  cases a.fsStats.lookup reading.1 with
  | none => exact ⟨rfl, fun _ hnone => hnone⟩
  | some stats =>
      dsimp only
      split
      · exact ⟨rfl, fun _ hnone => hnone⟩
      · refine ⟨rfl, fun device hnone => ?_⟩
        dsimp only
        rw [Disks.lookup_modifyFs, hnone, Option.map_none, ite_self]

theorem usages_frame (cacheExtraFs : Bool) (usages : List (String × Option UsageStat)) (a : Disks)
    (systemStats : Stats) :
    (usages.foldl (fun (a, systemStats) reading =>
        Disks.updateUsageOf cacheExtraFs a systemStats reading) (a, systemStats)).1.diskPrev =
          a.diskPrev ∧
      ∀ device, a.fsStats.lookup device = none →
        (usages.foldl (fun (a, systemStats) reading =>
          Disks.updateUsageOf cacheExtraFs a systemStats reading) (a, systemStats)).1.fsStats.lookup
            device = none := by
  induction usages generalizing a systemStats with
  | nil => exact ⟨rfl, fun _ hnone => hnone⟩
  | cons usage usages ih =>
      obtain ⟨hprev, hlookup⟩ := updateUsageOf_frame cacheExtraFs a systemStats usage
      obtain ⟨hprev', hlookup'⟩ := ih (a.updateUsageOf cacheExtraFs systemStats usage).1
        (a.updateUsageOf cacheExtraFs systemStats usage).2
      exact ⟨hprev'.trans hprev, fun device hnone => hlookup' device (hlookup device hnone)⟩

theorem lookup_usages (cacheExtraFs : Bool) (device : String)
    (usages : List (String × Option UsageStat)) (a : Disks) (systemStats : Stats)
    {stats : FsStats} (hlookup : a.fsStats.lookup device = some stats) :
    ∃ stats', (usages.foldl (fun (a, systemStats) reading =>
        Disks.updateUsageOf cacheExtraFs a systemStats reading) (a, systemStats)).1.fsStats.lookup
          device = some stats' ∧
      UsageKeeps ((!cacheExtraFs || stats.root) &&
        usages.any fun usage => usage.1 = device && usage.2.isNone) stats stats' := by
  induction usages generalizing a systemStats stats with
  | nil => exact ⟨stats, hlookup, rfl, rfl, by simp⟩
  | cons usage usages ih =>
      have hnext : ∃ stats', (a.updateUsageOf cacheExtraFs systemStats usage).1.fsStats.lookup
          device = some stats' ∧ UsageKeeps ((!cacheExtraFs || stats.root) &&
            (usage.1 = device && usage.2.isNone)) stats stats' := by
        rw [Disks.updateUsageOf]
        by_cases hdevice : usage.1 = device
        · rw [hdevice, hlookup]
          dsimp only
          split
          case isTrue hcached =>
            refine ⟨stats, hlookup, rfl, rfl, ?_⟩
            simp [hcached]
          case isFalse hcached =>
            refine ⟨stats.updateUsage usage.2, ?_, ?_⟩
            · dsimp only
              rw [Disks.lookup_modifyFs, if_pos rfl, hlookup, Option.map_some]
            · have hvisited : (!cacheExtraFs || stats.root) = true := by
                cases cacheExtraFs <;> cases hroot : stats.root <;> simp_all
              rw [hvisited]
              simpa using usageKeeps_updateUsage stats usage.2
        · refine ⟨stats, ?_, rfl, rfl, by simp [hdevice]⟩
          cases a.fsStats.lookup usage.1 with
          | none => exact hlookup
          | some other =>
              dsimp only
              split
              · exact hlookup
              · dsimp only
                rw [Disks.lookup_modifyFs, if_neg (Ne.symm hdevice), hlookup]
      obtain ⟨stats', hlookup', hkeeps⟩ := hnext
      obtain ⟨stats'', hlookup'', hkeeps'⟩ :=
        ih (a.updateUsageOf cacheExtraFs systemStats usage).1
          (a.updateUsageOf cacheExtraFs systemStats usage).2 hlookup'
      refine ⟨stats'', hlookup'', ?_⟩
      have hall := hkeeps.trans hkeeps'
      rw [hkeeps.root, ← Bool.and_or_distrib_left] at hall
      rwa [List.any_cons]

/-! ### What is kept of the readings -/

def PrevDisk.reading (prev : PrevDisk) : DiskReading where
  readBytes := prev.readBytes
  writeBytes := prev.writeBytes
  time := prev.time

/-- An entry has the baseline of a reading, if any, without the totals when the usage has failed. -/
structure BaselineOf (baseline : Option DiskReading) (failed : Bool) (stats : FsStats) : Prop where
  unset : baseline = none → stats.time = 0
  time : ∀ r ∈ baseline, stats.time = r.time ∧ 0 < r.time
  totals : ∀ r ∈ baseline, (stats.totalRead, stats.totalWrite) =
    if failed then (0, 0) else (r.readBytes, r.writeBytes)

/-- A reading from before, of a counter that has not become less since. -/
def ReadBefore (clock : ℤ) (latest : Option IOCounters) (r : DiskReading) : Prop :=
  r.time ≤ clock ∧ ∃ d ∈ latest, r.readBytes ≤ d.readBytes ∧ r.writeBytes ≤ d.writeBytes

structure PollsInv (s : DiskPolls) : Prop where
  baseline : ∀ device stats, s.disks.fsStats.lookup device = some stats →
    BaselineOf (s.baseline device) (s.failed device) stats
  prev : ∀ cacheTimeMs device,
    (s.disks.diskPrev cacheTimeMs device).map PrevDisk.reading = s.atInterval cacheTimeMs device
  baseline_before : ∀ device, ∀ r ∈ s.baseline device,
    ReadBefore s.clock (s.latest device) r
  interval_before : ∀ cacheTimeMs device, ∀ r ∈ s.atInterval cacheTimeMs device,
    ReadBefore s.clock (s.latest device) r
  reports : ∀ report ∈ s.reports, report.Exact

theorem pollsInv_start (devices : List (String × Bool)) (diskUsageCacheDuration : ℤ) :
    PollsInv (.start devices diskUsageCacheDuration) where
  baseline device stats hlookup := by
    obtain ⟨entry, -, hentry⟩ := List.mem_map.mp (AssocList.mem_of_lookup hlookup)
    rw [← (Prod.mk.inj hentry).2]
    exact ⟨fun _ => rfl, fun _ hr => (Option.some_ne_none _ hr.symm).elim,
      fun _ hr => (Option.some_ne_none _ hr.symm).elim⟩
  prev _ _ := rfl
  baseline_before _ _ hr := (Option.some_ne_none _ hr.symm).elim
  interval_before _ _ _ hr := (Option.some_ne_none _ hr.symm).elim
  reports _ hreport := (List.not_mem_nil hreport).elim

section Keep

variable {s : DiskPolls} {ioCounters : List IoReading} {cacheTimeMs : Uint16} {now : ℤ}
  {r : IoReading}

theorem counterOf_mem (hnodup : (ioCounters.map (·.key)).Nodup) (hr : r ∈ ioCounters) :
    counterOf ioCounters r.key = some r.counters := by
  rw [counterOf, (KeyedFold.find?_eq_some_iff hnodup).mpr ⟨hr, rfl⟩]
  rfl

theorem counterOf_some {device : String} {d : IOCounters}
    (hcounter : counterOf ioCounters device = some d) :
    ∃ r ∈ ioCounters, r.key = device ∧ r.counters = d := by
  obtain ⟨r, hfind, rfl⟩ := Option.map_eq_some_iff.mp hcounter
  exact ⟨r, List.mem_of_find?_eq_some hfind, by simpa using List.find?_some hfind, rfl⟩

theorem latest_seen (s : DiskPolls) (clock : ℤ) {device : String} {d : IOCounters}
    (hd : d ∈ counterOf ioCounters device) :
    (s.seen ioCounters clock).latest device = some d := by
  have hcounter : counterOf ioCounters device = some d := hd
  simp [DiskPolls.seen, hcounter]

theorem ReadBefore.seen {clock : ℤ} {device : String} {r : DiskReading}
    (h : ReadBefore s.clock (s.latest device) r) (hgrows : s.Grows ioCounters)
    (hclock : s.clock ≤ clock) :
    ReadBefore clock ((s.seen ioCounters clock).latest device) r := by
  obtain ⟨htime, d, hd, hread, hwrite⟩ := h
  refine ⟨htime.trans hclock, ?_⟩
  cases hcounter : counterOf ioCounters device with
  | none => exact ⟨d, by simpa [DiskPolls.seen, hcounter] using hd, hread, hwrite⟩
  | some d' =>
      obtain ⟨r', hr', rfl, rfl⟩ := counterOf_some hcounter
      obtain ⟨hread', hwrite'⟩ := hgrows.grows r' hr' d hd
      exact ⟨r'.counters, by simp [DiskPolls.seen, hcounter], hread.trans hread',
        hwrite.trans hwrite'⟩

theorem PollsInv.seen (h : PollsInv s) (hgrows : s.Grows ioCounters) {clock : ℤ}
    (hclock : s.clock ≤ clock) : PollsInv (s.seen ioCounters clock) where
  baseline := h.baseline
  prev := h.prev
  baseline_before device r hr := (h.baseline_before device r hr).seen hgrows hclock
  interval_before cacheTimeMs device r hr :=
    (h.interval_before cacheTimeMs device r hr).seen hgrows hclock
  reports := h.reports

theorem PollsInv.initialized (h : PollsInv s) {t : ℤ} (hpos : 0 < t) (ht : t ≤ s.clock)
    (hlatest : ∀ device, ∀ d ∈ counterOf ioCounters device, s.latest device = some d) :
    PollsInv (s.initialized ioCounters t) where
  baseline device stats hlookup := by
    rw [DiskPolls.initialized, Disks.lookup_initializeDiskIoStats, Option.map_eq_some_iff]
      at hlookup
    obtain ⟨old, hold, rfl⟩ := hlookup
    have hbaseline := h.baseline device old hold
    simp only [DiskPolls.initialized]
    cases counterOf ioCounters device with
    | none => simpa using hbaseline
    | some d =>
        refine ⟨nofun, fun r hr => ?_, fun r hr => ?_⟩
        · obtain rfl := Option.some.inj hr
          exact ⟨rfl, hpos⟩
        · obtain rfl := Option.some.inj hr
          simp [IOCounters.reading]
  prev := h.prev
  baseline_before device r hr := by
    simp only [DiskPolls.initialized] at hr
    cases hcounter : counterOf ioCounters device with
    | none =>
        rw [hcounter] at hr
        exact h.baseline_before device r hr
    | some d =>
        rw [hcounter] at hr
        obtain rfl := Option.some.inj hr
        exact ⟨ht, d, hlatest device d hcounter, le_rfl, le_rfl⟩
  interval_before := h.interval_before
  reports := h.reports

theorem PollsInv.setPrev (h : PollsInv s) (hnow : now ≤ s.clock)
    (hlatest : s.latest r.key = some r.counters) : PollsInv (s.setPrev cacheTimeMs now r) where
  baseline := h.baseline
  prev cacheTimeMs' device := by
    simp only [DiskPolls.setPrev, Disks.setPrev]
    by_cases hcache : cacheTimeMs' = cacheTimeMs
    · subst hcache
      by_cases hdevice : device = r.key
      · subst hdevice
        simp [PrevDisk.reading, prevDiskFromCounter, IOCounters.reading]
      · simp [hdevice, h.prev]
    · simp [hcache, h.prev]
  baseline_before := h.baseline_before
  interval_before cacheTimeMs' device r' hr' := by
    simp only [DiskPolls.setPrev] at hr'
    by_cases hcache : cacheTimeMs' = cacheTimeMs
    · subst hcache
      by_cases hdevice : device = r.key
      · subst hdevice
        simp only [Function.update_self] at hr'
        obtain rfl := Option.some.inj hr'
        exact ⟨hnow, r.counters, hlatest, le_rfl, le_rfl⟩
      · simp only [Function.update_self, Function.update_of_ne hdevice] at hr'
        exact h.interval_before _ _ r' hr'
    · simp only [Function.update_of_ne hcache] at hr'
      exact h.interval_before _ _ r' hr'
  reports := h.reports

theorem PollsInv.report (h : PollsInv s) {report : IoReport} (hpos : 0 < report.now)
    (hnow : report.now ≤ s.clock)
    (hlatest : s.latest report.counters.name = some report.counters)
    (hstats : report.stats.time = report.now ∧
      (report.stats.totalRead, report.stats.totalWrite) =
        (report.counters.readBytes, report.counters.writeBytes))
    (hexact : report.Exact) : PollsInv (s.report report) where
  baseline device stats hlookup := by
    rw [DiskPolls.report, Disks.lookup_modifyFs] at hlookup
    simp only [DiskPolls.report]
    by_cases hdevice : device = report.counters.name
    · subst hdevice
      rw [if_pos rfl, Option.map_eq_some_iff] at hlookup
      obtain ⟨old, -, rfl⟩ := hlookup
      rw [Function.update_self, Function.update_self]
      refine ⟨nofun, fun r hr => ?_, fun r hr => ?_⟩
      · obtain rfl := Option.some.inj hr
        exact ⟨hstats.1, hpos⟩
      · obtain rfl := Option.some.inj hr
        exact hstats.2
    · rw [if_neg hdevice] at hlookup
      rw [Function.update_of_ne hdevice, Function.update_of_ne hdevice]
      exact h.baseline device stats hlookup
  prev := h.prev
  baseline_before device r hr := by
    simp only [DiskPolls.report] at hr
    by_cases hdevice : device = report.counters.name
    · subst hdevice
      rw [Function.update_self] at hr
      obtain rfl := Option.some.inj hr
      exact ⟨hnow, report.counters, hlatest, le_rfl, le_rfl⟩
    · rw [Function.update_of_ne hdevice] at hr
      exact h.baseline_before device r hr
  interval_before := h.interval_before
  reports report' hreport' := by
    rcases List.mem_cons.mp hreport' with rfl | hold
    · exact hexact
    · exact h.reports report' hold

theorem PollsInv.usage (h : PollsInv s) (r : UsageReading) {s' : DiskPolls}
    (hstep : s.step (.usage r) = some s') : PollsInv s' := by
  obtain rfl := Option.some.inj hstep
  obtain ⟨hprev, hnone⟩ := usages_frame (s.disks.cacheExtraFs r.since) r.usages s.disks {}
  obtain ⟨a, ha⟩ : ∃ a, (r.usages.foldl (fun (a, systemStats) reading =>
    Disks.updateUsageOf (s.disks.cacheExtraFs r.since) a systemStats reading)
      (s.disks, ({} : Stats))).1 = a := ⟨_, rfl⟩
  have hdisks : (s.disks.updateDiskUsage {} r).1.fsStats = a.fsStats ∧
      (s.disks.updateDiskUsage {} r).1.diskPrev = a.diskPrev := by
    rw [← ha, Disks.updateDiskUsage]
    dsimp only
    split <;> exact ⟨rfl, rfl⟩
  rw [ha] at hprev hnone
  refine ⟨fun device stats' hlookup' => ?_, fun cacheTimeMs device => ?_, h.baseline_before,
    h.interval_before, h.reports⟩
  · dsimp only at hlookup' ⊢
    rw [hdisks.1] at hlookup'
    cases hlookup : s.disks.fsStats.lookup device with
    | none => exact absurd ((hnone device hlookup).symm.trans hlookup') nofun
    | some stats =>
        obtain ⟨stats'', hlookup'', hkeeps⟩ :=
          lookup_usages (s.disks.cacheExtraFs r.since) device r.usages s.disks {} hlookup
        rw [ha] at hlookup''
        obtain rfl := Option.some.inj (hlookup''.symm.trans hlookup')
        have hfails : s.usageFails r device = ((!s.disks.cacheExtraFs r.since || stats.root) &&
            r.usages.any fun usage => usage.1 = device && usage.2.isNone) := by
          rw [DiskPolls.usageFails, hlookup]
        rw [← hfails] at hkeeps
        have hbaseline := h.baseline device stats hlookup
        refine ⟨fun hunset => hkeeps.time.trans (hbaseline.unset hunset), fun b hb => ?_,
          fun b hb => ?_⟩
        · rw [hkeeps.time]
          exact hbaseline.time b hb
        · rw [hkeeps.totals, hbaseline.totals b hb]
          cases s.failed device <;> cases s.usageFails r device <;> rfl
  · dsimp only
    rw [hdisks.2, hprev]
    exact h.prev cacheTimeMs device

end Keep

/-! ### A rate between two readings -/

section Exact

variable {prev : PrevDisk} {d : IOCounters} {now : ℤ} {stats : FsStats}

theorem val_diskIoBytes {before after ms : Uint64} (hle : before ≤ after)
    (hlt : (after.val - before.val) * 1000 < 2 ^ 64) :
    ((after - before) * 1000 / ms).val = (after.val - before.val) * 1000 / ms.val := by
  have hexact : ((after - before) * 1000).val = (after.val - before.val) * 1000 :=
    Unsigned.val_sub_mul_of_le hle hlt
  exact congrArg (· / ms.val) hexact

theorem exact_of_prev (hle : prev.time ≤ now) (hcomparable : prev.reading.Comparable d now)
    (hread : prev.readBytes ≤ d.readBytes) (hwrite : prev.writeBytes ≤ d.writeBytes)
    (hlate : ¬ toUint64 ((timeSub now prev.time).tdiv 1000000) < 100) :
    IoReport.Exact
      { counters := d, now, prev, earlier := some prev.reading
        stats :=
          stats.updateIo prev d (toUint64 ((timeSub now prev.time).tdiv 1000000)) now } := by
  obtain ⟨htime, hreadBytes, hwriteBytes⟩ := hcomparable
  have hms := val_toUint64_millis hle htime
  generalize toUint64 ((timeSub now prev.time).tdiv 1000000) = ms at hms hlate
  have hlate' : 100 ≤ ms.val := Nat.not_lt.mp hlate
  have helapsed : ((ms.val : ℕ) : ℤ) = (now - prev.time) / 1000000 := by omega
  have hrate {before after : Uint64} (hle : before ≤ after)
      (hlt : (after.val - before.val) * 1000 < 2 ^ 64) :
      (((after - before) * 1000 / ms).val : ℤ) =
        (after.val - before.val) * 1000 / ((now - prev.time) / 1000000) := by
    have hle' : before.val ≤ after.val := hle
    rw [val_diskIoBytes hle hlt, ← helapsed]
    push_cast [hle']
    rfl
  refine ⟨prev.reading, rfl, ?_, hread, hwrite, hrate hread hreadBytes, hrate hwrite hwriteBytes⟩
  change prev.time < now
  omega

end Exact

/-! ### The first reading at an interval -/

section Seed

variable {stats : FsStats} {d : IOCounters} {now : ℤ} {b : DiskReading} {failed : Bool}

theorem time_seed (stats : FsStats) (d : IOCounters) (now : ℤ) :
    (stats.seed d now).time = if stats.time = 0 then now else stats.time := by
  rw [FsStats.seed]
  split <;> rfl

/-- The totals of a baseline are its bytes, unless the usage has failed: then they are zero. -/
theorem BaselineOf.reading_seed (h : BaselineOf (some b) failed stats)
    (hfailed : failed = true → b.readBytes = 0 ∧ b.writeBytes = 0) :
    (stats.seed d now).reading = b := by
  obtain ⟨htime, hpos⟩ := h.time b rfl
  have htotals : (stats.totalRead, stats.totalWrite) = (b.readBytes, b.writeBytes) := by
    rw [h.totals b rfl]
    cases failed with
    | false => rfl
    | true =>
        obtain ⟨hread, hwrite⟩ := hfailed rfl
        rw [hread, hwrite]
        rfl
  obtain ⟨hread, hwrite⟩ := Prod.mk.inj htotals
  rw [FsStats.seed, if_neg (by omega), PrevDisk.reading]
  dsimp only [prevDiskFromCounter]
  rw [hread, hwrite, htime]

theorem early_of_soon {t : ℤ} (hle : now ≤ t) (hsoon : t < now + 1000000) :
    toUint64 ((timeSub now t).tdiv 1000000) < 100 := by
  have hsub : timeSub now t = -(t - now) := by
    rw [timeSub]
    omega
  rw [hsub, Int.neg_tdiv, Int.tdiv_eq_zero_of_lt (by omega) (by omega)]
  decide

theorem BaselineOf.early_of_unset (h : BaselineOf none failed stats) :
    toUint64 ((timeSub now (stats.seed d now).time).tdiv 1000000) < 100 := by
  rw [time_seed, if_pos (h.unset rfl)]
  exact early_of_soon le_rfl (by omega)

/-- Nothing has passed since a baseline that has just been reset. -/
theorem BaselineOf.early_of_reset (h : BaselineOf (some b) failed stats) (hle : now ≤ b.time)
    (hsoon : b.time < now + 1000000) :
    toUint64 ((timeSub now (stats.seed d now).time).tdiv 1000000) < 100 := by
  obtain ⟨htime, hpos⟩ := h.time b rfl
  rw [time_seed, if_neg (by omega), htime]
  exact early_of_soon hle hsoon

end Seed

/-! ### The loop over the counters -/

theorem ioOutcome_updated {a : Disks} {cacheTimeMs : Uint16} {now : ℤ} {r : IoReading}
    {prev : PrevDisk} {stats : FsStats}
    (houtcome : a.ioOutcome cacheTimeMs now r = .updated prev stats) :
    ∃ old, a.fsStats.lookup r.counters.name = some old ∧
      (a.diskPrev cacheTimeMs r.key).getD (old.seed r.counters now) = prev ∧
      ¬ toUint64 ((timeSub now prev.time).tdiv 1000000) < 100 ∧
      old.updateIo prev r.counters (toUint64 ((timeSub now prev.time).tdiv 1000000)) now =
        stats := by
  rw [Disks.ioOutcome] at houtcome
  cases hlookup : a.fsStats.lookup r.counters.name with
  | none => rw [hlookup] at houtcome; cases houtcome
  | some old =>
      rw [hlookup] at houtcome
      dsimp only at houtcome
      split at houtcome
      case isTrue => cases houtcome
      case isFalse hlate =>
        split at houtcome
        case isTrue => cases houtcome
        case isFalse =>
          obtain ⟨rfl, rfl⟩ := IoOutcome.updated.inj houtcome
          exact ⟨old, rfl, rfl, hlate, rfl⟩

/-- The loop, with the devices that are left. What is left of the state before it is what concerns
them, but for a baseline that has been reset. -/
structure LoopInv (s₀ : DiskPolls) (ioCounters : List IoReading) (cacheTimeMs : Uint16) (now : ℤ)
    (rest : List IoReading) (s : DiskPolls) : Prop where
  inv : PollsInv s
  clock : now ≤ s.clock ∧ ∀ r ∈ ioCounters, r.resetAt ≤ s.clock
  latest : ∀ device, ∀ d ∈ counterOf ioCounters device, s.latest device = some d
  tracked : ∀ device, (s.disks.fsStats.lookup device).isSome =
    (s₀.disks.fsStats.lookup device).isSome
  atInterval : ∀ r ∈ rest, s.atInterval cacheTimeMs r.key = s₀.atInterval cacheTimeMs r.key
  baseline : ∀ r ∈ rest,
    s.baseline r.key = s₀.baseline r.key ∧ s.failed r.key = s₀.failed r.key ∨
    ∃ r' ∈ ioCounters, s.baseline r.key = some (r.counters.reading r'.resetAt)

section Loop

variable {s₀ s : DiskPolls} {ioCounters rest : List IoReading} {cacheTimeMs : Uint16} {now : ℤ}
  {r : IoReading}

theorem LoopInv.exact (h : LoopInv s₀ ioCounters cacheTimeMs now (r :: rest) s)
    (hinv₀ : PollsInv s₀) (hfeasible : s₀.Feasible (.io cacheTimeMs (some ioCounters) now))
    (hkept : s₀.BaselineKept (.io cacheTimeMs (some ioCounters) now)) (hr : r ∈ ioCounters)
    {prev : PrevDisk} {stats : FsStats}
    (houtcome : s.disks.ioOutcome cacheTimeMs now r = .updated prev stats) :
    IoReport.Exact
      { counters := r.counters, now, prev, stats, earlier := s.earlier cacheTimeMs r } := by
  obtain ⟨hgrows, hclock, hpos, hreset⟩ := hfeasible
  obtain ⟨old, hlookup, hprev, hlate, rfl⟩ := ioOutcome_updated houtcome
  have hkey := hgrows.keys r hr
  have htracked : (s₀.disks.fsStats.lookup r.counters.name).isSome := by
    rw [← h.tracked, hlookup]
    rfl
  obtain ⟨hcomparable, hfirst⟩ := hkept r hr htracked
  have hsame := h.atInterval r (by simp)
  -- A reading from before the loop is one that the rates can be computed from.
  have hexact (hreading : s₀.earlier cacheTimeMs r = some prev.reading)
      (hbefore : ReadBefore s₀.clock (s₀.latest r.key) prev.reading)
      (hearlier : s.earlier cacheTimeMs r = some prev.reading) :
      IoReport.Exact
        { counters := r.counters, now, prev, earlier := s.earlier cacheTimeMs r
          stats := old.updateIo prev r.counters
            (toUint64 ((timeSub now prev.time).tdiv 1000000)) now } := by
    obtain ⟨htime, d, hd, hread, hwrite⟩ := hbefore
    obtain ⟨hread', hwrite'⟩ := hgrows.grows r hr d hd
    rw [hearlier]
    exact exact_of_prev (htime.trans hclock) (hcomparable _ hreading) (hread.trans hread')
      (hwrite.trans hwrite') hlate
  have hmap := h.inv.prev cacheTimeMs r.key
  cases hinterval : s₀.atInterval cacheTimeMs r.key with
  | some p =>
      rw [hsame, hinterval, Option.map_eq_some_iff] at hmap
      obtain ⟨prev', hprev', rfl⟩ := hmap
      rw [hprev', Option.getD_some] at hprev
      subst hprev
      refine hexact ?_ (hinv₀.interval_before cacheTimeMs r.key _ hinterval) ?_
      · rw [DiskPolls.earlier, hinterval, Option.some_or]
      · rw [DiskPolls.earlier, hsame, hinterval, Option.some_or]
  | none =>
      obtain ⟨hfailed, hsoon⟩ := hfirst hinterval
      rw [hsame, hinterval, Option.map_eq_none_iff] at hmap
      rw [hmap, Option.getD_none] at hprev
      rw [← hprev] at hlate
      have hbaseline := h.inv.baseline r.counters.name old hlookup
      have hshared := h.baseline r (by simp)
      rw [hkey] at hshared
      obtain ⟨hsameBaseline, hsameFailed⟩ | ⟨r', hr', hresetBaseline⟩ := hshared
      · cases hold : s₀.baseline r.counters.name with
        | none =>
            rw [hsameBaseline, hold] at hbaseline
            exact absurd hbaseline.early_of_unset hlate
        | some b =>
            rw [hsameBaseline, hold, hsameFailed] at hbaseline
            have hreading : prev.reading = b := by
              rw [← hprev]
              exact hbaseline.reading_seed (hfailed b hold)
            rw [← hreading] at hold
            refine hexact ?_ ?_ ?_
            · rw [DiskPolls.earlier, hinterval, Option.none_or, hold]
            · rw [hkey]
              exact hinv₀.baseline_before _ _ hold
            · rw [DiskPolls.earlier, hsame, hinterval, Option.none_or, hsameBaseline, hold]
      · rw [hresetBaseline] at hbaseline
        exact absurd (hbaseline.early_of_reset (hreset r' hr') (hsoon r' hr')) hlate

theorem LoopInv.seen (hinv : PollsInv s₀)
    (hfeasible : s₀.Feasible (.io cacheTimeMs (some ioCounters) now)) :
    LoopInv s₀ ioCounters cacheTimeMs now ioCounters
      (s₀.seen ioCounters (ioCounters.foldl (fun t r => max t r.resetAt) now)) := by
  obtain ⟨hgrows, hclock, hpos, hreset⟩ := hfeasible
  have hmax (rs : List IoReading) (t : ℤ) : t ≤ rs.foldl (fun t r => max t r.resetAt) t ∧
      ∀ r ∈ rs, r.resetAt ≤ rs.foldl (fun t r => max t r.resetAt) t := by
    induction rs generalizing t with
    | nil => exact ⟨le_rfl, nofun⟩
    | cons r rs ih =>
        obtain ⟨hle, hall⟩ := ih (max t r.resetAt)
        refine ⟨(le_max_left _ _).trans hle, fun r' hr' => ?_⟩
        rcases List.mem_cons.mp hr' with rfl | hr'
        · exact (le_max_right _ _).trans hle
        · exact hall r' hr'
  obtain ⟨hnow, hresets⟩ := hmax ioCounters now
  refine ⟨hinv.seen hgrows (hclock.trans hnow), ⟨hnow, hresets⟩, fun device d hd => ?_,
    fun _ => rfl, fun _ _ => rfl, fun _ _ => .inl ⟨rfl, rfl⟩⟩
  exact latest_seen s₀ _ hd

theorem tracked_initializeDiskIoStats (a : Disks) (now : ℤ) (device : String) :
    ((a.initializeDiskIoStats ioCounters now).fsStats.lookup device).isSome =
      (a.fsStats.lookup device).isSome := by
  rw [Disks.lookup_initializeDiskIoStats, Option.isSome_map]

theorem LoopInv.step (h : LoopInv s₀ ioCounters cacheTimeMs now (r :: rest) s)
    (hinv₀ : PollsInv s₀) (hfeasible : s₀.Feasible (.io cacheTimeMs (some ioCounters) now))
    (hkept : s₀.BaselineKept (.io cacheTimeMs (some ioCounters) now))
    (hsub : ∀ r' ∈ r :: rest, r' ∈ ioCounters) (hnodup : ((r :: rest).map (·.key)).Nodup) :
    LoopInv s₀ ioCounters cacheTimeMs now rest (s.readIo ioCounters cacheTimeMs now r) := by
  obtain ⟨hgrows, hclock, hpos, hreset⟩ := hfeasible
  have hr := hsub r (by simp)
  have hkey := hgrows.keys r hr
  have hlatest := h.latest r.key r.counters (counterOf_mem hgrows.nodup hr)
  have hne : ∀ r' ∈ rest, r'.key ≠ r.key := by
    rw [List.map_cons, List.nodup_cons] at hnodup
    exact fun r' hr' heq => hnodup.1 (List.mem_map.mpr ⟨r', hr', heq⟩)
  have hprev : PollsInv (s.setPrev cacheTimeMs now r) := h.inv.setPrev h.clock.1 hlatest
  have hinterval : ∀ r' ∈ rest, (s.setPrev cacheTimeMs now r).atInterval cacheTimeMs r'.key =
      s₀.atInterval cacheTimeMs r'.key := by
    intro r' hr'
    simp only [DiskPolls.setPrev, Function.update_self, Function.update_of_ne (hne r' hr')]
    exact h.atInterval r' (List.mem_cons_of_mem _ hr')
  rw [DiskPolls.readIo]
  cases houtcome : s.disks.ioOutcome cacheTimeMs now r with
  | untracked =>
      exact ⟨h.inv, h.clock, h.latest, h.tracked,
        fun r' hr' => h.atInterval r' (List.mem_cons_of_mem _ hr'),
        fun r' hr' => h.baseline r' (List.mem_cons_of_mem _ hr')⟩
  | early =>
      exact ⟨hprev, h.clock, h.latest, h.tracked, hinterval,
        fun r' hr' => h.baseline r' (List.mem_cons_of_mem _ hr')⟩
  | invalid =>
      have hresetPos : 0 < r.resetAt := hpos.trans_le (hreset r hr)
      refine ⟨hprev.initialized hresetPos (h.clock.2 r hr) h.latest, h.clock, h.latest,
        fun device => ?_, hinterval, fun r' hr' => .inr ⟨r, hr, ?_⟩⟩
      · rw [← h.tracked]
        exact tracked_initializeDiskIoStats _ _ device
      · have hcounter := counterOf_mem hgrows.nodup (hsub r' (List.mem_cons_of_mem _ hr'))
        simp [DiskPolls.initialized, hcounter]
  | updated prev stats =>
      have hexact := h.exact hinv₀ ⟨hgrows, hclock, hpos, hreset⟩ hkept hr houtcome
      obtain ⟨old, hlookup, -, -, rfl⟩ := ioOutcome_updated houtcome
      refine ⟨hprev.report hpos h.clock.1 (by rw [← hkey]; exact hlatest) ⟨rfl, rfl⟩ hexact,
        h.clock, h.latest, fun device => ?_, hinterval, fun r' hr' => ?_⟩
      · rw [← h.tracked]
        refine (congrArg Option.isSome (Disks.lookup_modifyFs _ _ _ device)).trans ?_
        split
        · rw [Option.isSome_map]
          rfl
        · rfl
      · have hne' : r'.key ≠ r.counters.name := by
          rw [← hkey]
          exact hne r' hr'
        simp only [DiskPolls.report, Function.update_of_ne hne']
        exact h.baseline r' (List.mem_cons_of_mem _ hr')

theorem LoopInv.foldl (hinv₀ : PollsInv s₀)
    (hfeasible : s₀.Feasible (.io cacheTimeMs (some ioCounters) now))
    (hkept : s₀.BaselineKept (.io cacheTimeMs (some ioCounters) now))
    (h : LoopInv s₀ ioCounters cacheTimeMs now rest s) (hsub : ∀ r ∈ rest, r ∈ ioCounters)
    (hnodup : (rest.map (·.key)).Nodup) :
    PollsInv (rest.foldl (DiskPolls.readIo ioCounters cacheTimeMs now) s) := by
  induction rest generalizing s with
  | nil => exact h.inv
  | cons r rest ih =>
      exact ih (h.step hinv₀ hfeasible hkept hsub hnodup)
        (fun r' hr' => hsub r' (List.mem_cons_of_mem _ hr')) (List.nodup_cons.mp hnodup).2

end Loop

/-! ### Runs -/

theorem pollsInv_step {s s' : DiskPolls} {e : DiskEvent} (hinv : PollsInv s)
    (hfeasible : s.Feasible e) (hkept : s.BaselineKept e) (hstep : s.step e = some s') :
    PollsInv s' := by
  cases e with
  | initializeDiskIoStats ioCounters now =>
      obtain ⟨hgrows, hclock, hpos⟩ := hfeasible
      obtain rfl := Option.some.inj hstep
      exact (hinv.seen hgrows hclock).initialized hpos le_rfl fun device d hd =>
        latest_seen s now hd
  | usage r => exact hinv.usage r hstep
  | io cacheTimeMs ioCounters now =>
      cases ioCounters with
      | none =>
          obtain rfl := Option.some.inj hstep
          exact hinv
      | some ioCounters =>
          obtain rfl := Option.some.inj hstep
          exact LoopInv.foldl hinv hfeasible hkept (.seen hinv hfeasible) (fun _ hr => hr)
            hfeasible.1.nodup

/-- **Disk rates.** In a run in which no first poll at an interval finds a baseline that was
emptied, each rate that is reported is that between its reading and one earlier reading of the
device: the last one at the interval, or else the one that the shared baseline was set from. -/
theorem disk_rates_exact {devices : List (String × Bool)} {diskUsageCacheDuration : ℤ}
    {es : List DiskEvent} {s : DiskPolls}
    (hrun : Guarded DiskPolls.step (fun s e => s.Feasible e ∧ s.BaselineKept e)
      (.start devices diskUsageCacheDuration) es s) :
    ∀ report ∈ s.reports, report.Exact :=
  (hrun.invariant (fun _ _ _ hinv hguard hstep => pollsInv_step hinv hguard.1 hguard.2 hstep)
    (pollsInv_start devices diskUsageCacheDuration)).reports

def readSda (readBytes : Uint64) (second : ℤ) : List IoReading :=
  [{ key := "sda", counters := { name := "sda", readBytes }, resetAt := second * 1000000000 }]

def pollSda (readBytes : Uint64) (second : ℤ) : DiskEvent :=
  .io 60000 (some (readSda readBytes second)) (second * 1000000000)

theorem disk_rates_exact_sda :
    ∃ s, Guarded DiskPolls.step (fun s e => s.Feasible e ∧ s.BaselineKept e)
        (.start [("sda", true)] 0)
        [.initializeDiskIoStats (readSda 1000000000 1) 1000000000,
          .usage { usages := [("sda", some {})] }, pollSda 1500000000 11] s ∧
      s.reports.length = 1 ∧ ∀ report ∈ s.reports, report.Exact := by
  obtain ⟨s, hcheck, hreports⟩ := Option.map_eq_some_iff.mp
    (show (check DiskPolls.step (fun s e => s.Feasible e ∧ s.BaselineKept e)
        (.start [("sda", true)] 0)
        [.initializeDiskIoStats (readSda 1000000000 1) 1000000000,
          .usage { usages := [("sda", some {})] }, pollSda 1500000000 11]).map
            (fun s => s.reports.length) = some 1 by decide +kernel)
  exact ⟨s, guarded_of_check hcheck, hreports, disk_rates_exact (guarded_of_check hcheck)⟩

/-- The usage fails before the first poll, and the disk reads nothing. -/
def unmountedPolls : List DiskEvent :=
  [.initializeDiskIoStats (readSda 1000000000 1) 1000000000,
    .usage { usages := [("sda", none)] }, pollSda 1000000000 11]

theorem disk_rate_since_boot : ¬ ∀ (devices : List (String × Bool)) (diskUsageCacheDuration : ℤ)
    (es : List DiskEvent) (s : DiskPolls),
    Guarded DiskPolls.step (fun s e => s.Feasible e) (.start devices diskUsageCacheDuration) es s →
    ∀ report ∈ s.reports, report.Exact := by
  intro hall
  obtain ⟨s, hcheck, hreports⟩ := Option.map_eq_some_iff.mp
    (show (check DiskPolls.step (fun s e => s.Feasible e) (.start [("sda", true)] 0)
        unmountedPolls).map (fun s => s.reports.map fun report =>
          (report.counters.readBytes, report.now, report.earlier, report.stats.diskReadBytes)) =
        some [(1000000000, 11000000000, some ⟨1000000000, 0, 1000000000⟩, 100000000)] by
      decide +kernel)
  obtain ⟨report, hreport, hvalues⟩ := List.mem_map.mp
    (hreports ▸ List.mem_singleton_self _ : _ ∈ s.reports.map _)
  obtain ⟨r, hr, -, -, -, hrate, -⟩ := hall _ _ _ s (guarded_of_check hcheck) report hreport
  simp only [Prod.mk.injEq] at hvalues
  obtain ⟨hcounters, hnow, hearlier, hbytes⟩ := hvalues
  rw [hearlier] at hr
  obtain rfl := Option.some.inj hr
  rw [hbytes, hcounters, hnow] at hrate
  revert hrate
  decide

end Picket.Gather
