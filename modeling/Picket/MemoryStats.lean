import Picket.DiskReadings

/-!
# Memory, and what else is subtracted

The memory part of `getSystemStats`, written over its subtraction: with the one of 64-bit words it
is what the agent does, and with one that notices when nothing is left it says whether a word
wrapped on the way.
-/

namespace Picket.Gather

/-- `mem.VirtualMemoryStat`, of a kernel that has no more memory free or used than there is. -/
structure VirtualMemoryStat where
  total : Uint64
  free : Uint64
  used : Uint64
  usedPercent : ℚ
  cached : Uint64
  buffers : Uint64
  shared : Uint64
  swapTotal : Uint64
  swapFree : Uint64
  swapCached : Uint64
  free_le : free ≤ total := by decide
  used_le : used ≤ total := by decide
  swapFree_le : swapFree ≤ swapTotal := by decide

structure MemoryConfig where
  htop : Bool := false
  zfs : Bool := false

section Subtraction

variable {m : Type → Type} [Monad m] (sub : Uint64 → Uint64 → m Uint64)

/-- Cache and buffers. The number cannot be negative, so that only zero is replaced. -/
def VirtualMemoryStat.cacheBuff (v : VirtualMemoryStat) : m Uint64 := do
  let cacheBuff ← sub (v.cached + v.buffers) v.shared
  if cacheBuff ≤ 0 then
    let notFree ← sub v.total v.free
    let rest ← sub notFree v.used
    pure (max rest 0)
  else pure cacheBuff

def VirtualMemoryStat.usedMemory (a : MemoryConfig) (v : VirtualMemoryStat) (cacheBuff : Uint64) :
    m (Uint64 × ℚ) := do
  if a.htop then
    let used ← sub v.total (v.free + cacheBuff)
    pure (used, used.val / v.total.val * 100)
  else pure (v.used, v.usedPercent)

/-- The memory part of `getSystemStats`. An ARC size that cannot be read is zero. -/
def updateMemory (a : MemoryConfig) (systemStats : Stats) (v : VirtualMemoryStat)
    (arcSize : Uint64) : m Stats := do
  let swapNotFree ← sub v.swapTotal v.swapFree
  let swapUsed ← sub swapNotFree v.swapCached
  let cacheBuff ← v.cacheBuff sub
  let (used, usedPercent) ← v.usedMemory sub a cacheBuff
  let systemStats :=
    { systemStats with
      swap := bytesToGigabytes v.swapTotal
      swapUsed := bytesToGigabytes swapUsed
      mem := bytesToGigabytes v.total
      memBuffCache := bytesToGigabytes cacheBuff }
  if a.zfs ∧ 0 < arcSize ∧ arcSize < used then
    let used ← sub used arcSize
    pure
      { systemStats with
        memZfsArc := bytesToGigabytes arcSize
        memUsed := bytesToGigabytes used
        memPct := twoDecimals (used.val / v.total.val * 100) }
  else
    pure
      { systemStats with
        memUsed := bytesToGigabytes used
        memPct := twoDecimals usedPercent }

end Subtraction

def wrappingSub (a b : Uint64) : Id Uint64 :=
  pure (a - b)

/-- A subtraction that gives nothing instead of wrapping. -/
def checkedSub (a b : Uint64) : Option Uint64 :=
  if b ≤ a then some (a - b) else none

/-! ### Readings of the system -/

structure SystemReading where
  cacheTimeMs : Uint16
  /-- Nothing when memory cannot be read. -/
  memory : Option (VirtualMemoryStat × Uint64) := none
  usage : UsageReading := {}
  ioCounters : Option (List IoReading) := none
  ioTime : ℤ

structure SystemPolls where
  disk : DiskPolls
  memory : List (VirtualMemoryStat × Uint64) := []

namespace SystemPolls

/-- The agent has started, and set the baselines. -/
def start (devices : List (String × Bool)) (diskUsageCacheDuration : ℤ)
    (ioCounters : List IoReading) (now : ℤ) : SystemPolls where
  disk := ((DiskPolls.start devices diskUsageCacheDuration).seen ioCounters now).initialized
    ioCounters now

def step (s : SystemPolls) (r : SystemReading) : Option SystemPolls :=
  (s.disk.step (.usage r.usage)).bind fun disk =>
    (disk.step (.io r.cacheTimeMs r.ioCounters r.ioTime)).map fun disk =>
      { disk, memory := r.memory.toList ++ s.memory }

end SystemPolls

/-! ### What does not wrap -/

/-- No counter is below what it is compared with. -/
structure PrevDisk.Below (prev : PrevDisk) (d : IOCounters) : Prop where
  readBytes : prev.readBytes ≤ d.readBytes
  writeBytes : prev.writeBytes ≤ d.writeBytes
  readTime : prev.readTime ≤ d.readTime
  writeTime : prev.writeTime ≤ d.writeTime
  ioTime : prev.ioTime ≤ d.ioTime
  weightedIO : prev.weightedIO ≤ d.weightedIO
  readCount : prev.readCount ≤ d.readCount
  writeCount : prev.writeCount ≤ d.writeCount

/-- None of the subtractions behind a reported value has wrapped. -/
structure SystemPolls.NoneWrapped (a : MemoryConfig) (s : SystemPolls) : Prop where
  disk : ∀ report ∈ s.disk.reports, report.prev.Below report.counters
  memory : ∀ v ∈ s.memory, (updateMemory checkedSub a {} v.1 v.2).isSome

end Picket.Gather
