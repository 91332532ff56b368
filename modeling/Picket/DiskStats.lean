import Picket.DockerStats

/-!
# Disk usage and disk I/O

One object for each monitored filesystem, written by every call at every interval. The counters of
the last reading are kept for each interval, but the baseline of a first reading is in the object.
The loops over maps take the order of the iteration from what was read.
-/

namespace Picket.Gather

/-- `system.FsStats` with the agent's own bookkeeping. Times are nanoseconds since the zero time. -/
structure FsStats extends Picket.FsStats where
  time : ℤ := 0
  root : Bool := false
  mountpoint : String := ""
  name : String := ""
  totalRead : Uint64 := 0
  totalWrite : Uint64 := 0
  deriving DecidableEq

/-- `disk.UsageStat`. -/
structure UsageStat where
  total : Uint64 := 0
  used : Uint64 := 0
  usedPercent : ℚ := 0

/-- `disk.IOCountersStat`. -/
structure IOCounters where
  name : String
  readBytes : Uint64 := 0
  writeBytes : Uint64 := 0
  readTime : Uint64 := 0
  writeTime : Uint64 := 0
  ioTime : Uint64 := 0
  weightedIO : Uint64 := 0
  readCount : Uint64 := 0
  writeCount : Uint64 := 0

structure PrevDisk where
  readBytes : Uint64
  writeBytes : Uint64
  readTime : Uint64
  writeTime : Uint64
  ioTime : Uint64
  weightedIO : Uint64
  readCount : Uint64
  writeCount : Uint64
  /-- `at`. -/
  time : ℤ

def prevDiskFromCounter (d : IOCounters) (t : ℤ) : PrevDisk where
  readBytes := d.readBytes
  writeBytes := d.writeBytes
  readTime := d.readTime
  writeTime := d.writeTime
  ioTime := d.ioTime
  weightedIO := d.weightedIO
  readCount := d.readCount
  writeCount := d.writeCount
  time := t

/-- What the first reading at an interval is compared with. -/
def FsStats.seed (stats : FsStats) (d : IOCounters) (now : ℤ) : PrevDisk :=
  if stats.time = 0 then prevDiskFromCounter d now
  else
    { prevDiskFromCounter d stats.time with
      readBytes := stats.totalRead
      writeBytes := stats.totalWrite }

/-- The disks of an agent. A filesystem is known by its key in `fsStats`. -/
structure Disks where
  fsStats : List (String × FsStats) := []
  diskPrev : Uint16 → String → Option PrevDisk := fun _ _ => none
  diskUsageCacheDuration : ℤ := 0
  lastDiskUsageUpdate : ℤ := 0

/-- What `updateDiskUsage` reads: the answer for each filesystem, in the order of its loop, and the
clock. -/
structure UsageReading where
  since : ℤ := 0
  usages : List (String × Option UsageStat) := []
  now : ℤ := 0

/-- A device in the order of the loop over the counters, and what the clock shows if the baselines
are reset there. -/
structure IoReading where
  key : String
  counters : IOCounters
  resetAt : ℤ := 0

def bytesToGigabytes (b : Uint64) : ℚ :=
  twoDecimals (b.val / 1073741824)

namespace Disks

def modifyFs (a : Disks) (device : String) (f : FsStats → FsStats) : Disks :=
  { a with
    fsStats := a.fsStats.map fun entry =>
      if entry.1 = device then (entry.1, f entry.2) else entry }

/-! ### Usage -/

/-- Whether the extra filesystems are left alone, so that sleeping disks are not woken. -/
def cacheExtraFs (a : Disks) (since : ℤ) : Bool :=
  0 < a.diskUsageCacheDuration && a.lastDiskUsageUpdate ≠ 0 &&
    timeSub since a.lastDiskUsageUpdate < a.diskUsageCacheDuration

end Disks

/-- Everything is reset on an error: the filesystem is likely unmounted. -/
def FsStats.updateUsage (stats : FsStats) : Option UsageStat → FsStats
  | some d =>
      { stats with diskTotal := bytesToGigabytes d.total, diskUsed := bytesToGigabytes d.used }
  | none => { stats with diskTotal := 0, diskUsed := 0, totalRead := 0, totalWrite := 0 }

/-- The root filesystem's usage is that of the system. -/
def rootUsage (stats : FsStats) (usage : Option UsageStat) (systemStats : Stats) : Stats :=
  match stats.root, usage with
  | true, some d =>
      { systemStats with
        diskTotal := bytesToGigabytes d.total
        diskUsed := bytesToGigabytes d.used
        diskPct := twoDecimals d.usedPercent }
  | _, _ => systemStats

namespace Disks

def updateUsageOf (cacheExtraFs : Bool) (a : Disks) (systemStats : Stats)
    (reading : String × Option UsageStat) : Disks × Stats :=
  match a.fsStats.lookup reading.1 with
  | none => (a, systemStats)
  | some stats =>
      if cacheExtraFs ∧ stats.root = false then (a, systemStats)
      else
        (a.modifyFs reading.1 (·.updateUsage reading.2), rootUsage stats reading.2 systemStats)

def updateDiskUsage (a : Disks) (systemStats : Stats) (r : UsageReading) : Disks × Stats :=
  let cacheExtraFs := a.cacheExtraFs r.since
  let (a, systemStats) :=
    r.usages.foldl
      (fun (a, systemStats) reading => updateUsageOf cacheExtraFs a systemStats reading)
      (a, systemStats)
  (if cacheExtraFs then a else { a with lastDiskUsageUpdate := r.now }, systemStats)

/-! ### I/O -/

def initializeDiskIoStats (a : Disks) (ioCounters : List IoReading) (now : ℤ) : Disks :=
  { a with
    fsStats := a.fsStats.map fun entry =>
      match ioCounters.find? (·.key = entry.1) with
      | none => entry
      | some r =>
          (entry.1,
            { entry.2 with
              time := now
              totalRead := r.counters.readBytes
              totalWrite := r.counters.writeBytes }) }

def setPrev (a : Disks) (cacheTimeMs : Uint16) (name : String) (prev : PrevDisk) : Disks :=
  { a with
    diskPrev :=
      Function.update a.diskPrev cacheTimeMs
        (Function.update (a.diskPrev cacheTimeMs) name (some prev)) }

end Disks

def percentOf (delta msElapsed : Uint64) : ℚ :=
  twoDecimals (delta.val / msElapsed.val * 100)

/-- Average milliseconds for each operation. -/
def await (time count : Uint64) : ℚ :=
  if 0 < count then twoDecimals (time.val / count.val) else 0

def diskIoBytes (prev : PrevDisk) (d : IOCounters) (msElapsed : Uint64) : Fin 2 → Uint64 :=
  ![(d.readBytes - prev.readBytes) * 1000 / msElapsed,
    (d.writeBytes - prev.writeBytes) * 1000 / msElapsed]

def diskIoStats (prev : PrevDisk) (d : IOCounters) (msElapsed : Uint64) : Fin 6 → ℚ :=
  ![percentOf (d.readTime - prev.readTime) msElapsed,
    percentOf (d.writeTime - prev.writeTime) msElapsed,
    percentOf (d.ioTime - prev.ioTime) msElapsed,
    await (d.readTime - prev.readTime) (d.readCount - prev.readCount),
    await (d.writeTime - prev.writeTime) (d.writeCount - prev.writeCount),
    percentOf (d.weightedIO - prev.weightedIO) msElapsed]

def FsStats.updateIo (stats : FsStats) (prev : PrevDisk) (d : IOCounters) (msElapsed : Uint64)
    (now : ℤ) : FsStats :=
  let bytes := diskIoBytes prev d msElapsed
  { stats with
    time := now
    totalRead := d.readBytes
    totalWrite := d.writeBytes
    diskReadPs := Docker.bytesToMegabytes (bytes 0)
    diskWritePs := Docker.bytesToMegabytes (bytes 1)
    diskReadBytes := bytes 0
    diskWriteBytes := bytes 1
    diskIoStats := diskIoStats prev d msElapsed }

def rootIo (stats : FsStats) (systemStats : Stats) : Stats :=
  if stats.root then
    { systemStats with
      diskReadPs := stats.diskReadPs
      diskWritePs := stats.diskWritePs
      diskIo := ![stats.diskReadBytes, stats.diskWriteBytes]
      diskIoStats := stats.diskIoStats }
  else systemStats

namespace Disks

def updateIoOf (ioCounters : List IoReading) (cacheTimeMs : Uint16) (now : ℤ) (a : Disks)
    (systemStats : Stats) (r : IoReading) : Disks × Stats :=
  let d := r.counters
  match a.fsStats.lookup d.name with
  | none => (a, systemStats)
  | some stats =>
      let prev := (a.diskPrev cacheTimeMs r.key).getD (stats.seed d now)
      let msElapsed := toUint64 ((timeSub now prev.time).tdiv 1000000)
      let a := a.setPrev cacheTimeMs r.key (prevDiskFromCounter d now)
      if msElapsed < 100 then (a, systemStats)
      else
        let updated := stats.updateIo prev d msElapsed now
        if 50000 < updated.diskReadPs ∨ 50000 < updated.diskWritePs then
          (a.initializeDiskIoStats ioCounters r.resetAt, systemStats)
        else (a.modifyFs d.name fun _ => updated, rootIo updated systemStats)

def updateDiskIo (a : Disks) (cacheTimeMs : Uint16) (systemStats : Stats)
    (ioCounters : Option (List IoReading)) (now : ℤ) : Disks × Stats :=
  match ioCounters with
  | none => (a, systemStats)
  | some ioCounters =>
      ioCounters.foldl
        (fun (a, systemStats) r => updateIoOf ioCounters cacheTimeMs now a systemStats r)
        (a, systemStats)

end Disks

end Picket.Gather
