import Picket.DiskStats

/-!
# What disk rates are of

Beside the disks a record is kept of their readings: the last one of each device at each interval,
and the one that the shared baseline was last set from. A rate is to be that between the reading it
is reported for and one of these.
-/

namespace Picket.Gather

structure DiskReading where
  readBytes : Uint64
  writeBytes : Uint64
  time : ℤ
  deriving DecidableEq

def IOCounters.reading (d : IOCounters) (t : ℤ) : DiskReading where
  readBytes := d.readBytes
  writeBytes := d.writeBytes
  time := t

inductive IoOutcome where
  | untracked
  | early
  | invalid
  | updated (prev : PrevDisk) (stats : FsStats)

def Disks.ioOutcome (a : Disks) (cacheTimeMs : Uint16) (now : ℤ) (r : IoReading) : IoOutcome :=
  match a.fsStats.lookup r.counters.name with
  | none => .untracked
  | some stats =>
      let prev := (a.diskPrev cacheTimeMs r.key).getD (stats.seed r.counters now)
      let msElapsed := toUint64 ((timeSub now prev.time).tdiv 1000000)
      if msElapsed < 100 then .early
      else
        let updated := stats.updateIo prev r.counters msElapsed now
        if 50000 < updated.diskReadPs ∨ 50000 < updated.diskWritePs then .invalid
        else .updated prev updated

/-- A reading for which statistics are reported. -/
structure IoReport where
  counters : IOCounters
  now : ℤ
  prev : PrevDisk
  stats : FsStats
  /-- The reading that they should be differences from. -/
  earlier : Option DiskReading

structure DiskPolls where
  disks : Disks
  atInterval : Uint16 → String → Option DiskReading := fun _ _ => none
  /-- The reading that the shared baseline was last set from. -/
  baseline : String → Option DiskReading := fun _ => none
  /-- The usage of the filesystem has failed since the baseline was set. -/
  failed : String → Bool := fun _ => false
  latest : String → Option IOCounters := fun _ => none
  /-- The latest time that has been seen. -/
  clock : ℤ := 0
  reports : List IoReport := []

inductive DiskEvent where
  /-- The counters are read at the start. -/
  | initializeDiskIoStats (ioCounters : List IoReading) (now : ℤ)
  | usage (r : UsageReading)
  | io (cacheTimeMs : Uint16) (ioCounters : Option (List IoReading)) (now : ℤ)

def counterOf (ioCounters : List IoReading) (device : String) : Option IOCounters :=
  (ioCounters.find? (·.key = device)).map (·.counters)

namespace DiskPolls

/-- What `disk.IOCounters` reads, at a time. -/
def seen (s : DiskPolls) (ioCounters : List IoReading) (now : ℤ) : DiskPolls :=
  { s with
    latest := fun device => (counterOf ioCounters device).or (s.latest device)
    clock := now }

/-- `initializeDiskIoStats` sets the baselines. -/
def initialized (s : DiskPolls) (ioCounters : List IoReading) (now : ℤ) : DiskPolls :=
  { s with
    disks := s.disks.initializeDiskIoStats ioCounters now
    baseline := fun device =>
      ((counterOf ioCounters device).map (·.reading now)).or (s.baseline device)
    failed := fun device => s.failed device && (counterOf ioCounters device).isNone }

def earlier (s : DiskPolls) (cacheTimeMs : Uint16) (r : IoReading) : Option DiskReading :=
  (s.atInterval cacheTimeMs r.key).or (s.baseline r.counters.name)

def setPrev (s : DiskPolls) (cacheTimeMs : Uint16) (now : ℤ) (r : IoReading) : DiskPolls :=
  { s with
    disks := s.disks.setPrev cacheTimeMs r.key (prevDiskFromCounter r.counters now)
    atInterval :=
      Function.update s.atInterval cacheTimeMs
        (Function.update (s.atInterval cacheTimeMs) r.key (some (r.counters.reading now))) }

/-- Statistics are reported for a reading, which the baseline is set from. -/
def report (s : DiskPolls) (r : IoReport) : DiskPolls :=
  { s with
    disks := s.disks.modifyFs r.counters.name fun _ => r.stats
    baseline := Function.update s.baseline r.counters.name (some (r.counters.reading r.now))
    failed := Function.update s.failed r.counters.name false
    reports := r :: s.reports }

def readIo (ioCounters : List IoReading) (cacheTimeMs : Uint16) (now : ℤ) (s : DiskPolls)
    (r : IoReading) : DiskPolls :=
  match s.disks.ioOutcome cacheTimeMs now r with
  | .untracked => s
  | .early => s.setPrev cacheTimeMs now r
  | .invalid => (s.setPrev cacheTimeMs now r).initialized ioCounters r.resetAt
  | .updated prev stats =>
      (s.setPrev cacheTimeMs now r).report
        { counters := r.counters, now, prev, stats, earlier := s.earlier cacheTimeMs r }

/-- The usage of a filesystem is asked for and fails. -/
def usageFails (s : DiskPolls) (r : UsageReading) (device : String) : Bool :=
  match s.disks.fsStats.lookup device with
  | none => false
  | some stats =>
      (!s.disks.cacheExtraFs r.since || stats.root) &&
        r.usages.any fun usage => usage.1 = device && usage.2.isNone

def step (s : DiskPolls) : DiskEvent → Option DiskPolls
  | .initializeDiskIoStats ioCounters now =>
      some ((s.seen ioCounters now).initialized ioCounters now)
  | .usage r =>
      some
        { s with
          disks := (s.disks.updateDiskUsage {} r).1
          failed := fun device => s.failed device || s.usageFails r device }
  | .io _ none _ => some s
  | .io cacheTimeMs (some ioCounters) now =>
      some
        (ioCounters.foldl (readIo ioCounters cacheTimeMs now)
          (s.seen ioCounters (ioCounters.foldl (fun t r => max t r.resetAt) now)))

/-- An agent that monitors devices, of which one may be that of the root filesystem. -/
def start (devices : List (String × Bool)) (diskUsageCacheDuration : ℤ) : DiskPolls where
  disks :=
    { fsStats := devices.map fun device => (device.1, { root := device.2 })
      diskUsageCacheDuration }

end DiskPolls

/-! ### The rates -/

/-- The rates are exact, between the reading they are reported for and the earlier one. -/
def IoReport.Exact (report : IoReport) : Prop :=
  ∃ r ∈ report.earlier, r.time < report.now ∧ r.readBytes ≤ report.counters.readBytes ∧
    r.writeBytes ≤ report.counters.writeBytes ∧
    (report.stats.diskReadBytes.val : ℤ) =
      (report.counters.readBytes.val - r.readBytes.val) * 1000 /
        ((report.now - r.time) / 1000000) ∧
    (report.stats.diskWriteBytes.val : ℤ) =
      (report.counters.writeBytes.val - r.writeBytes.val) * 1000 /
        ((report.now - r.time) / 1000000)

/-- The differences and the time between two readings can be counted. -/
structure DiskReading.Comparable (r : DiskReading) (d : IOCounters) (now : ℤ) : Prop where
  time : now - r.time < 2 ^ 63
  readBytes : (d.readBytes.val - r.readBytes.val) * 1000 < 2 ^ 64
  writeBytes : (d.writeBytes.val - r.writeBytes.val) * 1000 < 2 ^ 64

instance (r : DiskReading) (d : IOCounters) (now : ℤ) : Decidable (r.Comparable d now) :=
  decidable_of_iff
    (now - r.time < 2 ^ 63 ∧ (d.readBytes.val - r.readBytes.val) * 1000 < 2 ^ 64 ∧
      (d.writeBytes.val - r.writeBytes.val) * 1000 < 2 ^ 64)
    ⟨fun h => ⟨h.1, h.2.1, h.2.2⟩, fun h => ⟨h.1, h.2, h.3⟩⟩

namespace DiskPolls

/-- The counters of distinct devices, none less than the last time. -/
structure Grows (s : DiskPolls) (ioCounters : List IoReading) : Prop where
  keys : ∀ r ∈ ioCounters, r.key = r.counters.name
  nodup : (ioCounters.map (·.key)).Nodup
  grows : ∀ r ∈ ioCounters, ∀ d ∈ s.latest r.key,
    d.readBytes ≤ r.counters.readBytes ∧ d.writeBytes ≤ r.counters.writeBytes

instance (s : DiskPolls) (ioCounters : List IoReading) : Decidable (s.Grows ioCounters) :=
  decidable_of_iff
    ((∀ r ∈ ioCounters, r.key = r.counters.name) ∧ (ioCounters.map (·.key)).Nodup ∧
      ∀ r ∈ ioCounters, ∀ d ∈ s.latest r.key,
        d.readBytes ≤ r.counters.readBytes ∧ d.writeBytes ≤ r.counters.writeBytes)
    ⟨fun h => ⟨h.1, h.2.1, h.2.2⟩, fun h => ⟨h.1, h.2, h.3⟩⟩

def Feasible (s : DiskPolls) : DiskEvent → Prop
  | .initializeDiskIoStats ioCounters now => s.Grows ioCounters ∧ s.clock ≤ now ∧ 0 < now
  | .usage _ => True
  | .io _ none _ => True
  | .io _ (some ioCounters) now =>
      s.Grows ioCounters ∧ s.clock ≤ now ∧ 0 < now ∧ ∀ r ∈ ioCounters, now ≤ r.resetAt

instance (s : DiskPolls) : (e : DiskEvent) → Decidable (s.Feasible e)
  | .initializeDiskIoStats ioCounters now =>
      inferInstanceAs (Decidable (s.Grows ioCounters ∧ s.clock ≤ now ∧ 0 < now))
  | .usage _ => inferInstanceAs (Decidable True)
  | .io _ none _ => inferInstanceAs (Decidable True)
  | .io _ (some ioCounters) now =>
      inferInstanceAs (Decidable (s.Grows ioCounters ∧ s.clock ≤ now ∧ 0 < now ∧
        ∀ r ∈ ioCounters, now ≤ r.resetAt))

/-- The first reading of a device at an interval finds the shared baseline as it was set: the usage
has not failed since, unless there was nothing to lose, and what is reset on the way is reset at
once. -/
def BaselineKept (s : DiskPolls) : DiskEvent → Prop
  | .io cacheTimeMs (some ioCounters) now =>
      ∀ r ∈ ioCounters, (s.disks.fsStats.lookup r.counters.name).isSome →
        (∀ r' ∈ s.earlier cacheTimeMs r, r'.Comparable r.counters now) ∧
        (s.atInterval cacheTimeMs r.key = none →
          (∀ r' ∈ s.baseline r.counters.name, s.failed r.counters.name = true →
            r'.readBytes = 0 ∧ r'.writeBytes = 0) ∧
          ∀ r' ∈ ioCounters, r'.resetAt < now + 1000000)
  | _ => True

instance (s : DiskPolls) : (e : DiskEvent) → Decidable (s.BaselineKept e)
  | .initializeDiskIoStats _ _ => inferInstanceAs (Decidable True)
  | .usage _ => inferInstanceAs (Decidable True)
  | .io _ none _ => inferInstanceAs (Decidable True)
  | .io cacheTimeMs (some ioCounters) now =>
      inferInstanceAs (Decidable (∀ r ∈ ioCounters,
        (s.disks.fsStats.lookup r.counters.name).isSome →
        (∀ r' ∈ s.earlier cacheTimeMs r, r'.Comparable r.counters now) ∧
        (s.atInterval cacheTimeMs r.key = none →
          (∀ r' ∈ s.baseline r.counters.name, s.failed r.counters.name = true →
            r'.readBytes = 0 ∧ r'.writeBytes = 0) ∧
          ∀ r' ∈ ioCounters, r'.resetAt < now + 1000000)))

end DiskPolls

end Picket.Gather
