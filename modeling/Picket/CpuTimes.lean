import Picket.Records

/-!
# CPU times

The agent compares the CPU times with those it read before at the same interval, all CPUs together
and each core alone, and reports what share of the time between the two went where. Times and shares
are exact numbers here.
-/

namespace Picket.Gather

/-- `cpu.TimesStat`, in seconds. -/
@[ext]
structure TimesStat where
  user : ℚ := 0
  system : ℚ := 0
  idle : ℚ := 0
  nice : ℚ := 0
  iowait : ℚ := 0
  irq : ℚ := 0
  softirq : ℚ := 0
  steal : ℚ := 0
  guest : ℚ := 0
  guestNice : ℚ := 0
  deriving DecidableEq

structure CpuMetrics where
  total : ℚ := 0
  user : ℚ := 0
  system : ℚ := 0
  iowait : ℚ := 0
  steal : ℚ := 0
  idle : ℚ := 0
  deriving DecidableEq

structure CpuAgent where
  lastCpuTimes : Uint16 → Option TimesStat := fun _ => none
  lastPerCoreCpuTimes : Uint16 → Option (List TimesStat) := fun _ => none

/-- What `cpu.Times` reads at a call, of all CPUs together and of each; nothing where it fails. -/
structure TimesReading where
  cacheTimeMs : Uint16
  times : Option (List TimesStat)
  perCoreTimes : Option (List TimesStat)

/-- `times[0]`. -/
def TimesReading.time (r : TimesReading) : Option TimesStat :=
  r.times.bind List.head?

/-- What a call gives. The time since the reading it is compared with is kept for the record
only. -/
structure CpuReport where
  cacheTimeMs : Uint16
  elapsed : ℚ
  metrics : Option CpuMetrics
  cores : Option (List Uint8)
  deriving DecidableEq

/-- Ensures the percentage is between 0 and 100. -/
def clampPercent (value : ℚ) : ℚ :=
  min 100 (max 0 value)

section Times

-- `Total` of the times, and whether the agent runs on Linux
variable (total : TimesStat → ℚ) (linux : Bool)

/-- The total time and the busy time. -/
def getAllBusy (t : TimesStat) : ℚ × ℚ :=
  let tot := total t
  let tot := if linux then tot - t.guest - t.guestNice else tot
  (tot, tot - t.idle - t.iowait)

def calculateBusy (t1 t2 : TimesStat) : ℚ :=
  let (t1All, t1Busy) := getAllBusy total linux t1
  let (t2All, t2Busy) := getAllBusy total linux t2
  if t2All ≤ t1All ∨ t2Busy ≤ t1Busy then 0
  else clampPercent ((t2Busy - t1Busy) / (t2All - t1All) * 100)

/-- The `metrics` of `getCpuMetrics`. -/
def cpuMetrics (t1 t2 : TimesStat) (totalDelta : ℚ) : CpuMetrics where
  total := calculateBusy total linux t1 t2
  user := clampPercent ((t2.user - t1.user) / totalDelta * 100)
  system := clampPercent ((t2.system - t1.system) / totalDelta * 100)
  iowait := clampPercent ((t2.iowait - t1.iowait) / totalDelta * 100)
  steal := clampPercent ((t2.steal - t1.steal) / totalDelta * 100)
  idle := clampPercent ((t2.idle - t1.idle) / totalDelta * 100)

namespace CpuAgent

/-- What a reading is compared with; an interval without one starts with that of 60 seconds. -/
def lastCpuTime (s : CpuAgent) (cacheTimeMs : Uint16) : TimesStat :=
  (s.lastCpuTimes cacheTimeMs).getD ((s.lastCpuTimes 60000).getD {})

def lastPerCoreCpuTime (s : CpuAgent) (cacheTimeMs : Uint16) : List TimesStat :=
  (s.lastPerCoreCpuTimes cacheTimeMs).getD ((s.lastPerCoreCpuTimes 60000).getD [])

def totalDelta (s : CpuAgent) (cacheTimeMs : Uint16) (t2 : TimesStat) : ℚ :=
  (getAllBusy total linux t2).1 - (getAllBusy total linux (s.lastCpuTime cacheTimeMs)).1

def getCpuMetrics (s : CpuAgent) (cacheTimeMs : Uint16) :
    Option (List TimesStat) → CpuAgent × Option CpuMetrics
  | none => (s, none)
  | some [] => (s, some {})
  | some (t2 :: _) =>
      let t1 := s.lastCpuTime cacheTimeMs
      let s := { s with lastCpuTimes := Function.update s.lastCpuTimes cacheTimeMs (some t1) }
      let totalDelta := (getAllBusy total linux t2).1 - (getAllBusy total linux t1).1
      if totalDelta ≤ 0 then (s, some {})
      else
        ({ s with lastCpuTimes := Function.update s.lastCpuTimes cacheTimeMs (some t2) },
          some (cpuMetrics total linux t1 t2 totalDelta))

def getPerCoreCpuUsage (s : CpuAgent) (cacheTimeMs : Uint16) :
    Option (List TimesStat) → CpuAgent × Option (List Uint8)
  | none => (s, none)
  | some [] => (s, some [])
  | some perCoreTimes =>
      -- as many cores as there are in both
      let usage := List.zipWith
        (fun t1 t2 =>
          Fin.ofNat (2 ^ 8) (Rounding.roundHalfAway (calculateBusy total linux t1 t2)).toNat)
        (s.lastPerCoreCpuTime cacheTimeMs) perCoreTimes
      ({ s with
          lastPerCoreCpuTimes :=
            Function.update s.lastPerCoreCpuTimes cacheTimeMs (some perCoreTimes) },
        some usage)

def poll (s : CpuAgent) (r : TimesReading) : CpuAgent × CpuReport :=
  let elapsed := (r.time.map (s.totalDelta total linux r.cacheTimeMs)).getD 0
  let (s, metrics) := s.getCpuMetrics total linux r.cacheTimeMs r.times
  let (s, cores) := s.getPerCoreCpuUsage total linux r.cacheTimeMs r.perCoreTimes
  (s, { cacheTimeMs := r.cacheTimeMs, elapsed, metrics, cores })

def polls : CpuAgent → List TimesReading → CpuAgent × List CpuReport
  | s, [] => (s, [])
  | s, r :: rest =>
      let (s, report) := s.poll total linux r
      let (s, reports) := polls s rest
      (s, report :: reports)

end CpuAgent

end Times

/-- The CPU part of `getSystemStats`. -/
def CpuReport.updateCpu (report : CpuReport) (systemStats : Stats) : Stats :=
  let systemStats :=
    match report.metrics with
    | none => systemStats
    | some metrics =>
        { systemStats with
          cpu := twoDecimals metrics.total
          cpuBreakdown :=
            [twoDecimals metrics.user, twoDecimals metrics.system, twoDecimals metrics.iowait,
              twoDecimals metrics.steal, twoDecimals metrics.idle] }
  match report.cores with
  | none => systemStats
  | some cores => { systemStats with cpuCoresUsage := cores }

end Picket.Gather
