import Picket.Lib.Transition
import Picket.Lib.Unsigned
import Picket.MemoryStats

/-!
# Words that wrap

The memory of a system is taken apart into numbers that the kernel counts one by one, and a disk may
start again from zero. What is subtracted is guarded by comparisons that are always true, and by the
cap on byte rates, which does not look at the other counters.
-/

namespace Picket.Gather

open Transition

/-! ### Memory -/

theorem checkedSub_eq_some_iff {a b c : Uint64} : checkedSub a b = some c ↔ b ≤ a ∧ a - b = c := by
  rw [checkedSub, Option.ite_none_right_eq_some, Option.some_inj]

/-- The parts of memory fit in what they are taken from. -/
structure VirtualMemoryStat.PartsFit (a : MemoryConfig) (v : VirtualMemoryStat) : Prop where
  swapCached : v.swapCached ≤ v.swapTotal - v.swapFree
  shared : v.shared ≤ v.cached + v.buffers
  rest : v.cached + v.buffers = v.shared → v.used ≤ v.total - v.free
  htop : a.htop = true → v.free + Id.run (v.cacheBuff wrappingSub) ≤ v.total

section Memory

variable (a : MemoryConfig) (v : VirtualMemoryStat)

theorem checkedSub_of_le {a b : Uint64} (hle : b ≤ a) : checkedSub a b = some (a - b) :=
  if_pos hle

theorem checkedSub_of_not_le {a b : Uint64} (hle : ¬ b ≤ a) : checkedSub a b = none :=
  if_neg hle

theorem sub_eq_zero_iff {a b : Uint64} (hle : b ≤ a) : a - b = 0 ↔ a = b := by
  have hle' : b.val ≤ a.val := hle
  rw [Fin.ext_iff, Fin.ext_iff, Fin.sub_val_of_le hle, Fin.val_zero]
  omega

/-- Cache and buffers, when they are more than what is shared or the rest of memory is not
negative. -/
theorem cacheBuff_checked : v.cacheBuff checkedSub =
    if v.shared ≤ v.cached + v.buffers ∧
        (v.cached + v.buffers = v.shared → v.used ≤ v.total - v.free) then
      some (Id.run (v.cacheBuff wrappingSub))
    else none := by
  rw [VirtualMemoryStat.cacheBuff, VirtualMemoryStat.cacheBuff]
  by_cases hshared : v.shared ≤ v.cached + v.buffers
  · rw [checkedSub_of_le hshared]
    by_cases hzero : v.cached + v.buffers = v.shared
    · have hsub : v.cached + v.buffers - v.shared = 0 := (sub_eq_zero_iff hshared).mpr hzero
      by_cases hrest : v.used ≤ v.total - v.free
      · rw [if_pos ⟨hshared, fun _ => hrest⟩]
        simp [wrappingSub, hsub, checkedSub_of_le v.free_le, checkedSub_of_le hrest]
      · rw [if_neg fun hand => hrest (hand.2 hzero)]
        simp [hsub, checkedSub_of_le v.free_le, checkedSub_of_not_le hrest]
    · have hsub : v.cached + v.buffers - v.shared ≠ 0 :=
        fun hsub => hzero ((sub_eq_zero_iff hshared).mp hsub)
      rw [if_pos ⟨hshared, fun heq => absurd heq hzero⟩]
      simp [wrappingSub, hsub]
  · rw [checkedSub_of_not_le hshared, if_neg fun hand => hshared hand.1]
    rfl

theorem usedMemory_checked (cacheBuff : Uint64) : v.usedMemory checkedSub a cacheBuff =
    if a.htop = true → v.free + cacheBuff ≤ v.total then
      some (Id.run (v.usedMemory wrappingSub a cacheBuff))
    else none := by
  rw [VirtualMemoryStat.usedMemory, VirtualMemoryStat.usedMemory]
  cases a.htop with
  | false => simp
  | true =>
      by_cases hfits : v.free + cacheBuff ≤ v.total
      · simp [hfits, checkedSub_of_le hfits, wrappingSub]
      · simp [hfits, checkedSub_of_not_le hfits]

/-- Nothing wraps exactly when the parts fit, and then the agent's values are the exact ones. -/
theorem updateMemory_checked (systemStats : Stats) (arcSize : Uint64) :
    (v.PartsFit a → updateMemory checkedSub a systemStats v arcSize =
      some (Id.run (updateMemory wrappingSub a systemStats v arcSize))) ∧
    (¬ v.PartsFit a → updateMemory checkedSub a systemStats v arcSize = none) := by
  refine ⟨fun h => ?_, fun hnot => ?_⟩
  · have hcacheBuff := cacheBuff_checked v
    rw [if_pos ⟨h.shared, h.rest⟩] at hcacheBuff
    have hused := usedMemory_checked a v (Id.run (v.cacheBuff wrappingSub))
    rw [if_pos h.htop] at hused
    simp only [updateMemory, hcacheBuff, hused, checkedSub_of_le v.swapFree_le,
      checkedSub_of_le h.swapCached, wrappingSub, Option.bind_eq_bind, Option.bind_some, pure_bind,
      Id.run_bind]
    split
    case isTrue harc =>
      rw [checkedSub_of_le harc.2.2.le]
      rfl
    case isFalse => rfl
  · by_contra hsome
    obtain ⟨systemStats', hchecked⟩ := Option.ne_none_iff_exists'.mp hsome
    simp only [updateMemory, Option.bind_eq_bind, Option.bind_eq_some_iff, checkedSub_eq_some_iff]
      at hchecked
    obtain ⟨_, ⟨-, rfl⟩, _, ⟨hswap, -⟩, cacheBuff, hcacheBuff, used, hused, -⟩ := hchecked
    rw [cacheBuff_checked, Option.ite_none_right_eq_some] at hcacheBuff
    obtain ⟨⟨hshared, hrest⟩, hrun⟩ := hcacheBuff
    rw [usedMemory_checked, Option.ite_none_right_eq_some, ← Option.some.inj hrun] at hused
    exact hnot ⟨hswap, hshared, hrest, hused.1⟩

theorem updateMemory_isSome_iff (arcSize : Uint64) :
    (updateMemory checkedSub a {} v arcSize).isSome ↔ v.PartsFit a := by
  obtain ⟨hfits, hnot⟩ := updateMemory_checked a v {} arcSize
  by_cases h : v.PartsFit a
  · simp [hfits h, h]
  · simp [hnot h, h]

end Memory

/-! ### Disks -/

/-- A byte rate is above the cap, so that nothing is reported. -/
def OverCap (prev : PrevDisk) (d : IOCounters) (msElapsed : Uint64) : Prop :=
  50000 < Docker.bytesToMegabytes (diskIoBytes prev d msElapsed 0) ∨
    50000 < Docker.bytesToMegabytes (diskIoBytes prev d msElapsed 1)

instance (prev : PrevDisk) (d : IOCounters) (msElapsed : Uint64) :
    Decidable (OverCap prev d msElapsed) := by
  unfold OverCap
  infer_instance

/-- A device's counters are not below what is kept of it, or too little time has passed since, or
its byte rates are above the cap. -/
def DiskPolls.NoneBelow (s : DiskPolls) (cacheTimeMs : Uint16) (now : ℤ) (r : IoReading) : Prop :=
  ∀ stats ∈ s.disks.fsStats.lookup r.counters.name,
    let prev := (s.disks.diskPrev cacheTimeMs r.key).getD (stats.seed r.counters now)
    let msElapsed := toUint64 ((timeSub now prev.time).tdiv 1000000)
    prev.Below r.counters ∨ msElapsed < 100 ∨ OverCap prev r.counters msElapsed

def DiskPolls.AlongLoop (P : DiskPolls → IoReading → Prop) (ioCounters : List IoReading)
    (cacheTimeMs : Uint16) (now : ℤ) : DiskPolls → List IoReading → Prop
  | _, [] => True
  | s, r :: rs =>
      P s r ∧ AlongLoop P ioCounters cacheTimeMs now (s.readIo ioCounters cacheTimeMs now r) rs

def DiskPolls.NoneBelowIn (s : DiskPolls) : DiskEvent → Prop
  | .io cacheTimeMs (some ioCounters) now =>
      DiskPolls.AlongLoop (fun s r => s.NoneBelow cacheTimeMs now r) ioCounters cacheTimeMs now
        (s.seen ioCounters (ioCounters.foldl (fun t r => max t r.resetAt) now)) ioCounters
  | _ => True

section Disk

variable {s s' : DiskPolls} {ioCounters : List IoReading} {cacheTimeMs : Uint16} {now : ℤ}

def DiskPolls.ReportsBelow (s : DiskPolls) : Prop :=
  ∀ report ∈ s.reports, report.prev.Below report.counters

theorem noneBelow_iff (r : IoReading) :
    s.NoneBelow cacheTimeMs now r ↔
      ∀ prev stats, s.disks.ioOutcome cacheTimeMs now r = .updated prev stats →
        prev.Below r.counters := by
  rw [DiskPolls.NoneBelow, Disks.ioOutcome]
  cases hlookup : s.disks.fsStats.lookup r.counters.name with
  | none => simp
  | some old =>
      simp only [Option.mem_def, Option.some_inj, forall_eq']
      set prev := (s.disks.diskPrev cacheTimeMs r.key).getD (old.seed r.counters now)
      set ms := toUint64 ((timeSub now prev.time).tdiv 1000000)
      by_cases hearly : ms < 100
      · simp [hearly]
      · by_cases hcap : OverCap prev r.counters ms
        · have hinvalid : 50000 < (old.updateIo prev r.counters ms now).diskReadPs ∨
              50000 < (old.updateIo prev r.counters ms now).diskWritePs := hcap
          simp [hearly, hcap, hinvalid]
        · have hvalid : ¬ (50000 < (old.updateIo prev r.counters ms now).diskReadPs ∨
              50000 < (old.updateIo prev r.counters ms now).diskWritePs) := hcap
          simp [hearly, hcap, hvalid]

theorem reportsBelow_readIo_iff (r : IoReading) :
    (s.readIo ioCounters cacheTimeMs now r).ReportsBelow ↔
      s.ReportsBelow ∧ s.NoneBelow cacheTimeMs now r := by
  rw [noneBelow_iff, DiskPolls.readIo]
  cases houtcome : s.disks.ioOutcome cacheTimeMs now r with
  | updated prev stats =>
      have hone : (∀ prev' stats', IoOutcome.updated prev stats = .updated prev' stats' →
          prev'.Below r.counters) ↔ prev.Below r.counters :=
        ⟨fun hall => hall prev stats rfl, fun hbelow _ _ heq => by cases heq; exact hbelow⟩
      rw [hone, and_comm]
      exact List.forall_mem_cons
  | untracked => exact (and_iff_left fun _ _ heq => by cases heq).symm
  | early => exact (and_iff_left fun _ _ heq => by cases heq).symm
  | invalid => exact (and_iff_left fun _ _ heq => by cases heq).symm

theorem reportsBelow_loop_iff (rs : List IoReading) :
    (rs.foldl (DiskPolls.readIo ioCounters cacheTimeMs now) s).ReportsBelow ↔
      s.ReportsBelow ∧ DiskPolls.AlongLoop (fun s r => s.NoneBelow cacheTimeMs now r) ioCounters
        cacheTimeMs now s rs := by
  induction rs generalizing s with
  | nil => exact (and_iff_left trivial).symm
  | cons r rs ih =>
      rw [List.foldl_cons, ih, reportsBelow_readIo_iff, DiskPolls.AlongLoop, and_assoc]

theorem reportsBelow_step_iff {e : DiskEvent} (hstep : s.step e = some s') :
    s'.ReportsBelow ↔ s.ReportsBelow ∧ s.NoneBelowIn e := by
  cases e with
  | initializeDiskIoStats ioCounters now =>
      obtain rfl := Option.some.inj hstep
      exact (and_iff_left trivial).symm
  | usage r =>
      obtain rfl := Option.some.inj hstep
      exact (and_iff_left trivial).symm
  | io cacheTimeMs ioCounters now =>
      cases ioCounters with
      | none =>
          obtain rfl := Option.some.inj hstep
          exact (and_iff_left trivial).symm
      | some ioCounters =>
          obtain rfl := Option.some.inj hstep
          exact reportsBelow_loop_iff ioCounters

end Disk

/-! ### Runs -/

/-- The parts of memory fit, and no counter of a device that is reported is below the one before. -/
def SystemPolls.Unwrapped (a : MemoryConfig) (s : SystemPolls) (r : SystemReading) : Prop :=
  (∀ v ∈ r.memory, v.1.PartsFit a) ∧
    ∀ disk ∈ s.disk.step (.usage r.usage),
      disk.NoneBelowIn (.io r.cacheTimeMs r.ioCounters r.ioTime)

theorem noneWrapped_iff {a : MemoryConfig} {s : SystemPolls} :
    s.NoneWrapped a ↔
      s.disk.ReportsBelow ∧ ∀ v ∈ s.memory, (updateMemory checkedSub a {} v.1 v.2).isSome :=
  ⟨fun h => ⟨h.disk, h.memory⟩, fun h => ⟨h.1, h.2⟩⟩

theorem noneWrapped_step_iff {a : MemoryConfig} {s s' : SystemPolls} {r : SystemReading}
    (hstep : s.step r = some s') :
    s'.NoneWrapped a ↔ s.NoneWrapped a ∧ s.Unwrapped a r := by
  rw [SystemPolls.step, Option.bind_eq_some_iff] at hstep
  obtain ⟨disk, husage, hstep⟩ := hstep
  obtain ⟨disk', hio, rfl⟩ := Option.map_eq_some_iff.mp hstep
  have hdisk := (reportsBelow_step_iff hio).trans
    (and_congr_left' ((reportsBelow_step_iff husage).trans (and_iff_left trivial)))
  have hmemory : (∀ v ∈ r.memory.toList ++ s.memory,
      (updateMemory checkedSub a {} v.1 v.2).isSome) ↔
        (∀ v ∈ r.memory, v.1.PartsFit a) ∧
          ∀ v ∈ s.memory, (updateMemory checkedSub a {} v.1 v.2).isSome := by
    simp only [List.forall_mem_append, Option.mem_toList, updateMemory_isSome_iff]
    rfl
  rw [noneWrapped_iff, noneWrapped_iff, SystemPolls.Unwrapped, husage, hdisk, hmemory]
  simp only [Option.mem_def, Option.some_inj, forall_eq']
  tauto

/-- **Nothing that is reported has wrapped** exactly when at every reading the parts of memory fit,
and no counter of a device is below the one it is compared with, unless it is too early or the byte
rates are above the cap. -/
theorem noneWrapped_iff_guarded (a : MemoryConfig) (devices : List (String × Bool))
    (diskUsageCacheDuration : ℤ) (ioCounters : List IoReading) (now : ℤ) (rs : List SystemReading)
    (s : SystemPolls)
    (hrun : run SystemPolls.step (.start devices diskUsageCacheDuration ioCounters now) rs =
      some s) :
    s.NoneWrapped a ↔
      Guarded SystemPolls.step (fun s r => s.Unwrapped a r)
        (.start devices diskUsageCacheDuration ioCounters now) rs s := by
  have hstart : (SystemPolls.start devices diskUsageCacheDuration ioCounters now).NoneWrapped a :=
    ⟨fun _ h => (List.not_mem_nil h).elim, fun _ h => (List.not_mem_nil h).elim⟩
  rw [iff_guarded_of_step (fun _ _ _ => noneWrapped_step_iff) hrun, and_iff_right hstart]

/-- Eight gigabytes, of which one tenth is cached and as much is shared as is given. -/
def eightGigabytes (shared : Uint64) : VirtualMemoryStat where
  total := 8000000000
  free := 4000000000
  used := 3000000000
  usedPercent := 75 / 2
  cached := 800000000
  buffers := 0
  shared
  swapTotal := 0
  swapFree := 0
  swapCached := 0

def readSince (readTime : Uint64) (t : ℤ) : List IoReading :=
  [{ key := "sda", counters := { name := "sda", readBytes := 1000000, readTime }, resetAt := t }]

def readings (shared readTime : Uint64) : List SystemReading :=
  [{ cacheTimeMs := 1000, memory := some (eightGigabytes shared, 0), ioTime := 2000000000,
      ioCounters := some (readSince 4294967290 2000000000) },
    { cacheTimeMs := 1000, memory := some (eightGigabytes shared, 0), ioTime := 3000000000,
      ioCounters := some (readSince readTime 3000000000) }]

theorem noneWrapped_iff_guarded_twice :
    ∃ s, run SystemPolls.step
        (.start [("sda", true)] 0 (readSince 4294967290 1000000000) 1000000000)
        (readings 200000000 4294967295) = some s ∧
      s.disk.reports.length = 2 ∧
      (s.NoneWrapped {} ↔
        Guarded SystemPolls.step (fun s r => s.Unwrapped {} r)
          (.start [("sda", true)] 0 (readSince 4294967290 1000000000) 1000000000)
          (readings 200000000 4294967295) s) := by
  obtain ⟨s, hrun, hreports⟩ := Option.map_eq_some_iff.mp
    (show (run SystemPolls.step
        (.start [("sda", true)] 0 (readSince 4294967290 1000000000) 1000000000)
        (readings 200000000 4294967295)).map (fun s => s.disk.reports.length) = some 2 by
      decide +kernel)
  exact ⟨s, hrun, hreports, noneWrapped_iff_guarded {} _ _ _ _ _ s hrun⟩

/-- More is shared than is cached, and the milliseconds of reads start again from zero after 32
bits. Both numbers are reported. -/
theorem shared_and_readTime_wrap :
    ∃ s, run SystemPolls.step
        (.start [("sda", true)] 0 (readSince 4294967290 1000000000) 1000000000)
        (readings 900000000 10) = some s ∧
      (∃ v ∈ s.memory, v.1.cached + v.1.buffers < v.1.shared ∧
        (Id.run (updateMemory wrappingSub {} {} v.1 v.2)).memBuffCache = 1717986918391 / 100) ∧
      (∃ report ∈ s.disk.reports, report.counters.readTime < report.prev.readTime ∧
        report.prev.readBytes ≤ report.counters.readBytes) ∧
      ¬ s.NoneWrapped {} := by
  obtain ⟨s, hrun, hvalues⟩ := Option.map_eq_some_iff.mp
    (show (run SystemPolls.step
        (.start [("sda", true)] 0 (readSince 4294967290 1000000000) 1000000000)
        (readings 900000000 10)).map (fun s =>
          (s.memory.map fun v => (v.1.cached + v.1.buffers, v.1.shared,
            (Id.run (updateMemory wrappingSub {} {} v.1 v.2)).memBuffCache),
          (s.disk.reports.take 1).map fun report =>
            (report.prev.readTime, report.counters.readTime, report.prev.readBytes,
              report.counters.readBytes))) =
        some ([(800000000, 900000000, 1717986918391 / 100),
          (800000000, 900000000, 1717986918391 / 100)],
          [(4294967290, 10, 1000000, 1000000)]) by
      decide +kernel)
  obtain ⟨hmemory, hdisk⟩ := Prod.mk.inj hvalues
  obtain ⟨v, hv, hshared⟩ := List.mem_map.mp
    (hmemory ▸ List.mem_cons_self : _ ∈ s.memory.map _)
  obtain ⟨report, hreport, htimes⟩ := List.mem_map.mp
    (hdisk ▸ List.mem_singleton_self _ : _ ∈ (s.disk.reports.take 1).map _)
  simp only [Prod.mk.injEq] at hshared htimes
  have hreported : report ∈ s.disk.reports := List.mem_of_mem_take hreport
  have hbelow : report.counters.readTime < report.prev.readTime := by
    rw [htimes.1, htimes.2.1]
    decide
  refine ⟨s, hrun, ⟨v, hv, ?_, hshared.2.2⟩, ⟨report, hreported, hbelow, ?_⟩, fun hnone => ?_⟩
  · rw [hshared.1, hshared.2.1]
    decide
  · rw [htimes.2.2.1, htimes.2.2.2]
  · exact (hnone.disk report hreported).readTime.not_gt hbelow

end Picket.Gather
