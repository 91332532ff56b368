import Picket.DockerApi
import Picket.Entities
import Picket.Lib.ObjectTable
import Picket.Records

/-!
# The statistics of the systemd services

A worker of its own updates one object for each unit and deletes the units that are gone; what the
agent sends are the objects themselves.
-/

namespace Picket.Gather

/-- `systemd.Service`. Times are nanoseconds since the zero time. -/
structure Service extends Picket.Service where
  prevCpuUsage : Uint64 := 0
  prevReadTime : ℤ := 0
  deriving DecidableEq

def parseServiceStatus (status : String) : Uint8 :=
  match status with
  | "active" => 0
  | "inactive" => 1
  | "failed" => 2
  | "activating" => 3
  | "deactivating" => 4
  | "reloading" => 5
  | _ => 1

def parseServiceSubState (subState : String) : Uint8 :=
  match subState with
  | "dead" => 0
  | "running" => 1
  | "exited" => 2
  | "failed" => 3
  | _ => 4

def statusFailed : Uint8 := 2

def mulInt64 (a b : ℤ) : ℤ :=
  (a * b).bmod (2 ^ 64)

def Service.updateCPUPercent (s : Service) (coreCount : ℤ) (now : ℤ) (cpuUsage : Uint64) :
    Service :=
  if s.prevReadTime = 0 ∨ cpuUsage < s.prevCpuUsage then
    { s with cpu := 0, prevCpuUsage := cpuUsage, prevReadTime := now }
  else
    let duration := timeSub now s.prevReadTime
    if duration ≤ 0 then { s with prevCpuUsage := cpuUsage, prevReadTime := now }
    else
      let usageDelta := cpuUsage - s.prevCpuUsage
      let cpu := twoDecimals (usageDelta.val / mulInt64 duration coreCount * 100)
      { s with
        cpu
        cpuPeak := if s.cpuPeak < cpu then cpu else s.cpuPeak
        prevCpuUsage := cpuUsage
        prevReadTime := now }

/-- A unit as systemd lists it, and its properties. A property that cannot be read, or is no
`uint64`, is nothing. -/
structure Unit where
  name : String
  activeState : String := ""
  subState : String := ""
  activeEnterTimestamp : Option Uint64 := none
  memoryPeak : Option Uint64 := none
  memoryCurrent : Option Uint64 := none
  cpuUsageNSec : Option Uint64 := none
  now : ℤ := 0

/-- `math.MaxUint64`, which says that a value is not available. -/
def maxUint64 : Uint64 := Fin.last _

def available (property : Option Uint64) : Option Uint64 :=
  property.filter (· ≠ maxUint64)

/-- What does not change: the number of cores, and `strconv.Unquote`, of which nothing is
assumed. -/
structure SystemdConfig where
  numCPU : ℤ
  unquote : String → Option String

def unescapeServiceName (cfg : SystemdConfig) (name : String) : String :=
  if "\\x".toList <:+: name.toList then (cfg.unquote ("\"" ++ name ++ "\"")).getD name else name

/-- `strings.TrimSuffix(name, ".service")`. -/
def trimService (name : String) : String :=
  if ".service".toList <:+ name.toList then String.ofList (name.toList.take (name.length - 8))
  else name

def Service.update (cfg : SystemdConfig) (service : Service) (unit : Unit) : Service :=
  let memUsage := (available unit.memoryCurrent).getD 0
  let memPeak := max memUsage ((available unit.memoryPeak).getD service.memPeak)
  { service with
    state := parseServiceStatus unit.activeState
    sub := parseServiceSubState unit.subState
    mem := memUsage
    memPeak := max service.memPeak memPeak }.updateCPUPercent cfg.numCPU unit.now
      (unit.cpuUsageNSec.getD 0)

structure SystemdManager where
  serviceStatsMap : ObjectTable String Service := {}
  hasFreshStats : Bool := false

namespace SystemdManager

/-- `updateServiceStats`. A service that has never been active is skipped. -/
def updateServiceStats (cfg : SystemdConfig) (sm : SystemdManager) (unit : Unit) :
    SystemdManager :=
  match available unit.activeEnterTimestamp with
  | none | some 0 => sm
  | some _ =>
      let service :=
        (sm.serviceStatsMap.get unit.name).getD
          { name := unescapeServiceName cfg (trimService unit.name) }
      { sm with serviceStatsMap := sm.serviceStatsMap.put unit.name (service.update cfg unit) }

/-- The end of a refresh: services that are gone are removed. -/
def finishRefresh (sm : SystemdManager) (currentUnits : List String) : SystemdManager where
  serviceStatsMap := sm.serviceStatsMap.retain (· ∈ currentUnits)
  hasFreshStats := true

def getServiceStatsCount (sm : SystemdManager) : ℕ :=
  sm.serviceStatsMap.entries.length

def getFailedServiceCount (sm : SystemdManager) : Uint16 :=
  Fin.ofNat _ (sm.serviceStatsMap.values.countP (·.state = statusFailed))

/-- `getServiceStats(nil, false)`: the objects, by pointer. -/
def getServiceStats (sm : SystemdManager) : List ℕ × SystemdManager :=
  (sm.serviceStatsMap.entries.map Prod.snd, { sm with hasFreshStats := false })

end SystemdManager

end Picket.Gather
