import Picket.AgentHandlers
import Picket.DiskStats
import Picket.Lib.FiniteMap
import Picket.Lib.Transition
import Picket.SystemdServices

/-!
# Gathering and caching

What the agent answers is kept for each interval, and answered again while it is fresh. The answer
holds most values itself, but filesystems, containers, services and the system details by pointer,
and the objects belong to the agent.
-/

namespace Picket.Gather

open Docker

/-- `system.CombinedData` as it is cached. What is reached through a pointer is an identifier: a
filesystem its key in the agent's map, a container and a service its object. -/
structure CombinedData where
  stats : Stats := {}
  /-- `Stats.ExtraFs`, which is left empty in `stats`. -/
  extraFs : GoMap String := ∅
  info : Info := {}
  containers : List ℕ := []
  systemdServices : List ℕ := []
  /-- Set when the data point to the system details. -/
  details : Bool := false
  deriving DecidableEq

structure CacheNode where
  data : CombinedData
  lastUpdate : ℤ

structure GatherConfig where
  docker : DockerConfig
  systemd : SystemdConfig

structure Agent where
  disks : Disks := {}
  dockerManager : Option DockerPolls := none
  systemInfo : Info := {}
  systemDetails : Details := {}
  detailsDirty : Bool := false
  systemdManager : Option SystemdManager := none
  cache : Uint16 → Option CacheNode := fun _ => none

def defaultDataCacheTimeMs : Uint16 := 60000

inductive DockerAnswer where
  | unreachable
  /-- Not decoded beyond these entries. -/
  | badList (entries : List ApiEntry)
  /-- The steps of the poll between its list and its end. -/
  | listed (input : PollInput) (events : List DockerEvent)

/-- All that a call reads, in the order in which it reads it. -/
structure Reading where
  /-- When the age of the cached data is measured. -/
  since : ℤ := 0
  /-- The CPU, memory, load, network and GPU values. -/
  systemStats : Stats := {}
  usage : UsageReading := {}
  ioCounters : Option (List IoReading) := none
  ioTime : ℤ := 0
  connectionType : Uint8 := 0
  uptime : Uint64 := 0
  docker : DockerAnswer := .unreachable
  /-- The order of the loop over the filesystems. -/
  fsOrder : List String := []
  /-- When the data are put in the cache. -/
  now : ℤ := 0

/-! ### The parts of a call -/

/-- `getDockerStats`: the objects of the containers, if a poll returns without an error. -/
def getDockerStats (cfg : DockerConfig) (s : DockerPolls) (cacheTimeMs : Uint16) :
    DockerAnswer → Option (DockerPolls × List ℕ)
  | .unreachable => some (s, [])
  | .badList entries => (s.step cfg (.badList entries)).map fun s => (s, [])
  | .listed input events =>
      let events := .list { input with cacheTimeMs } :: events ++ [.collect]
      (Transition.run (DockerPolls.step cfg) s events).bind fun s' =>
        if s'.reports.length = s.reports.length + 1 then
          s'.reports.getLast?.map fun report => (s', report.stats)
        else none

def extraFilesystems (disks : Disks) (order : List String) : GoMap String × GoMap ℚ :=
  order.foldl
    (fun (extraFs, extraFsPct) name =>
      match disks.fsStats.lookup name with
      | none => (extraFs, extraFsPct)
      | some stats =>
          if stats.root = false ∧ 0 < stats.diskTotal then
            let key := if stats.name = "" then name else stats.name
            (extraFs.insert key name,
              extraFsPct.insert key (twoDecimals (stats.diskUsed / stats.diskTotal * 100)))
          else (extraFs, extraFsPct))
    (∅, ∅)

namespace Agent

/-- The data in the cache, when they are less than half the interval old. -/
def fresh (a : Agent) (cacheTimeMs : Uint16) (since : ℤ) : Option CombinedData :=
  (a.cache cacheTimeMs).bind fun node =>
    if timeSub since node.lastUpdate < (cacheTimeMs / 2).val * 1000000 then some node.data else none

def getSystemStats (a : Agent) (cacheTimeMs : Uint16) (r : Reading) : Agent × Stats :=
  let (disks, systemStats) := a.disks.updateDiskUsage r.systemStats r.usage
  let (disks, systemStats) := disks.updateDiskIo cacheTimeMs systemStats r.ioCounters r.ioTime
  ({ a with
      disks
      systemInfo :=
        { a.systemInfo with
          gpuPct := FiniteMap.maxFrom 0 (·.usage) systemStats.gpuData
          connectionType := r.connectionType
          cpu := systemStats.cpu
          loadAvg := systemStats.loadAvg
          memPct := systemStats.memPct
          diskPct := systemStats.diskPct
          uptime := r.uptime
          bandwidthBytes := systemStats.bandwidth 0 + systemStats.bandwidth 1
          threads := a.systemDetails.threads } },
    systemStats)

/-- A poll, and the change of the details when it finds out that it talks to podman. -/
def pollContainers (cfg : GatherConfig) (a : Agent) (cacheTimeMs : Uint16) (r : Reading) :
    Option (Agent × List ℕ) :=
  match a.dockerManager with
  | none => some (a, [])
  | some s =>
      (getDockerStats cfg.docker s cacheTimeMs r.docker).map fun (s', containers) =>
        let a := { a with dockerManager := some s' }
        if s.dm.usingPodman = false ∧ s'.dm.usingPodman = true then
          ({ a with
              systemDetails := { a.systemDetails with podman := true }
              detailsDirty := true },
            containers)
        else (a, containers)

def addServices (a : Agent) (cacheTimeMs : Uint16) (data : CombinedData) : Agent × CombinedData :=
  match a.systemdManager with
  | none => (a, data)
  | some sm =>
      if cacheTimeMs ≠ defaultDataCacheTimeMs then (a, data)
      else
        let totalCount : Uint16 := Fin.ofNat _ sm.getServiceStatsCount
        let data :=
          if 0 < totalCount then
            { data with
              info := { data.info with services := [totalCount, sm.getFailedServiceCount] } }
          else data
        if sm.hasFreshStats then
          let (systemdServices, sm) := sm.getServiceStats
          ({ a with systemdManager := some sm }, { data with systemdServices })
        else (a, data)

def addExtraFs (a : Agent) (order : List String) (data : CombinedData) : CombinedData :=
  let (extraFs, extraFsPct) := extraFilesystems a.disks order
  { data with extraFs, info := { data.info with extraFsPct } }

def set (a : Agent) (cacheTimeMs : Uint16) (data : CombinedData) (now : ℤ) : Agent :=
  { a with cache := Function.update a.cache cacheTimeMs (some ⟨data, now⟩) }

/-- The data that are put in the cache, and the agent that has them there. -/
def gatherUncached (cfg : GatherConfig) (a : Agent) (cacheTimeMs : Uint16) (r : Reading) :
    Option (Agent × CombinedData) :=
  let (a, stats) := a.getSystemStats cacheTimeMs r
  let info := a.systemInfo
  (a.pollContainers cfg cacheTimeMs r).map fun (a, containers) =>
    let (a, data) := a.addServices cacheTimeMs { stats, info, containers }
    let data := a.addExtraFs r.fsOrder data
    (a.set cacheTimeMs data r.now, data)

/-- Details are attached to uncached answers at the default interval only, on a copy of the data. -/
def attachSystemDetails (a : Agent) (data : CombinedData) (options : DataRequestOptions) :
    Agent × CombinedData :=
  if options.cacheTimeMs ≠ defaultDataCacheTimeMs ∨
      (options.includeDetails = false ∧ a.detailsDirty = false) then (a, data)
  else ({ a with detailsDirty := false }, { data with details := true })

/-- `gatherStats`, and whether the answer was cached. -/
def gatherStats (cfg : GatherConfig) (a : Agent) (options : DataRequestOptions) (r : Reading) :
    Option (Agent × CombinedData × Bool) :=
  match a.fresh options.cacheTimeMs r.since with
  | some data => some (a, data, true)
  | none =>
      (a.gatherUncached cfg options.cacheTimeMs r).map fun (a, data) =>
        let (a, data) := a.attachSystemDetails data options
        (a, data, false)

/-- The loops over the filesystems come to each of them once, and the counters have one entry for
each key. -/
def Reads (a : Agent) (r : Reading) : Prop :=
  (r.usage.usages.map Prod.fst).Perm (a.disks.fsStats.map Prod.fst) ∧
  r.fsOrder.Perm (a.disks.fsStats.map Prod.fst) ∧
  ∀ ioCounters ∈ r.ioCounters, (ioCounters.map (·.key)).Nodup

instance (a : Agent) (r : Reading) : Decidable (a.Reads r) := by
  unfold Reads
  infer_instance

end Agent

/-! ### Runs -/

/-- What the pointers of an answer reach when it is given. -/
structure Reached where
  extraFs : GoMap FsStats := ∅
  containers : List DockerStats := []
  systemdServices : List Service := []
  details : Option Details := none

def Agent.reach (a : Agent) (data : CombinedData) : Reached where
  extraFs := FiniteMap.filterMapVal (a.disks.fsStats.lookup ·) data.extraFs
  containers := data.containers.filterMap fun p =>
    a.dockerManager.bind (·.dm.containerStatsMap.objects[p]?)
  systemdServices := data.systemdServices.filterMap fun p =>
    a.systemdManager.bind (·.serviceStatsMap.objects[p]?)
  details := if data.details then some a.systemDetails else none

structure Call where
  options : DataRequestOptions
  isCached : Bool
  data : CombinedData
  reached : Reached

inductive Happening where
  | call (call : Call)
  /-- The worker has updated a service, or removed services. -/
  | services
  | details

structure Gathering where
  agent : Agent
  history : List Happening := []

/-- The agent starts with `NewSystemDataCache`. -/
def Gathering.start (a : Agent) : Gathering where
  agent := { a with cache := fun _ => none }

inductive GatherEvent where
  | gatherStats (options : DataRequestOptions) (r : Reading)
  | updateServiceStats (unit : Unit)
  | finishRefresh (currentUnits : List String)
  | updateSystemDetails (details : Details)

def Gathering.step (cfg : GatherConfig) (s : Gathering) : GatherEvent → Option Gathering
  | .gatherStats options r =>
      if (s.agent.fresh options.cacheTimeMs r.since).isSome ∨ s.agent.Reads r then
        (s.agent.gatherStats cfg options r).map fun (agent, data, isCached) =>
          ⟨agent, s.history ++ [.call ⟨options, isCached, data, agent.reach data⟩]⟩
      else none
  | .updateServiceStats unit =>
      s.agent.systemdManager.map fun sm =>
        ⟨{ s.agent with systemdManager := some (sm.updateServiceStats cfg.systemd unit) },
          s.history ++ [.services]⟩
  | .finishRefresh currentUnits =>
      s.agent.systemdManager.map fun sm =>
        ⟨{ s.agent with systemdManager := some (sm.finishRefresh currentUnits) },
          s.history ++ [.services]⟩
  | .updateSystemDetails details =>
      some ⟨{ s.agent with systemDetails := details, detailsDirty := true },
        s.history ++ [.details]⟩

end Picket.Gather
