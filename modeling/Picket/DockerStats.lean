import Picket.DeltaTracker
import Picket.DockerApi
import Picket.Records
import Picket.Lib.ObjectTable

/-!
# Polling the containers

A poll decodes the container list, starts one update for each container that is not excluded, tries
again where an update failed, and returns what is in the map. The updates run side by side and take
the mutex in any order; what they share are the struct into which the statistics are decoded and the
maps of earlier values, which are kept for each cache interval.
-/

namespace Picket.Docker

/-- What does not change while the agent runs: the patterns of `EXCLUDE_CONTAINERS`, and two
functions of the standard library of which nothing is assumed. -/
structure DockerConfig where
  excludeContainers : List Bytes := []
  /-- `path.Match(pattern, name)`, false for a bad pattern. -/
  pathMatch : Bytes → Bytes → Bool
  /-- `sort.Slice` by public port, which is not stable. -/
  sortPorts : List Port → List Port

/-- `container.Stats`. -/
structure DockerStats where
  name : Bytes := []
  cpu : ℚ := 0
  mem : ℚ := 0
  networkSent : ℚ := 0
  networkRecv : ℚ := 0
  bandwidth : Uint64 × Uint64 := (0, 0)
  health : DockerHealth := .none
  status : String := ""
  id : Bytes := []
  image : String := ""
  ports : String := ""
  prevNet : Uint64 × Uint64 := (0, 0)
  prevReadTime : ℤ := 0
  deriving DecidableEq

/-! ### The manager -/

/-- `map[uint16]map[string]V`. -/
abbrev IntervalMap (V : Type) := Uint16 → Bytes → Option V

namespace IntervalMap

variable {V : Type}

def set (m : IntervalMap V) (cacheTimeMs : Uint16) (id : Bytes) (v : V) : IntervalMap V :=
  Function.update m cacheTimeMs (Function.update (m cacheTimeMs) id (some v))

def delete (m : IntervalMap V) (id : Bytes) : IntervalMap V :=
  fun ct => Function.update (m ct) id none

end IntervalMap

structure DockerManager where
  apiContainerList : PtrSlice ApiInfo := {}
  containerStatsMap : ObjectTable Bytes DockerStats := {}
  validIds : List Bytes := []
  isWindows : Bool := false
  usingPodman : Bool := false
  apiStats : ApiStats := {}
  lastCpuContainer : IntervalMap Uint64 := fun _ _ => none
  lastCpuSystem : IntervalMap Uint64 := fun _ _ => none
  lastCpuReadTime : IntervalMap ℤ := fun _ _ => none
  networkSentTrackers : Uint16 → DeltaTracker Bytes Uint64 := fun _ => {}
  networkRecvTrackers : Uint16 → DeltaTracker Bytes Uint64 := fun _ => {}
  lastNetworkReadTime : IntervalMap ℤ := fun _ _ => none

/-- One call of `updateContainerStats`: what the requests answer and what the clock shows. -/
structure Attempt where
  /-- Nothing when the request fails. -/
  response : Option StatsResponse := none
  /-- The health status that podman's inspect request answers; nothing when that fails. -/
  podmanHealth : Option String := none
  /-- When the elapsed time is measured. -/
  since : ℤ := 0
  /-- When the time of the reading is stored. -/
  now : ℤ := 0
  deriving DecidableEq

/-- An entry of a container list, and the attempts to update the container. -/
structure Listed where
  entry : ApiEntry
  first : Attempt := {}
  second : Attempt := {}
  deriving DecidableEq

/-- A poll whose container list is received: the list, and what the server says of itself. -/
structure PollInput where
  cacheTimeMs : Uint16
  windows : Bool := false
  podman : Bool := false
  listed : List Listed
  deriving DecidableEq

inductive UpdateError where
  | request
  | decode
  | memory
  | cpu
  deriving DecidableEq

def shouldExcludeContainer (cfg : DockerConfig) (name : Bytes) : Bool :=
  cfg.excludeContainers.any (cfg.pathMatch · name)

/-! ### One update -/

/-- The health of the container, when its status text says `health`. -/
def containerHealth (usingPodman : Bool) (ctr : ApiInfo) (podmanHealth : Option String)
    (health : DockerHealth) : DockerHealth :=
  if ctr.healthStatus ≠ "" then (parseDockerHealthStatus ctr.healthStatus.toList).getD health
  else if usingPodman then
    podmanHealth.elim health fun status => (parseDockerHealthStatus status.toList).getD .none
  else health

/-- The entry of the container before its statistics are decoded: a new one unless there is one
already, with everything reset that the statistics give. -/
def beginStats (cfg : DockerConfig) (usingPodman : Bool) (ctr : ApiInfo)
    (podmanHealth : Option String) (old : Option DockerStats) : DockerStats :=
  let (statusText, health) := parseDockerStatus ctr.status
  let stats := old.getD { name := ctr.name, id := ctr.idShort, image := ctr.image }
  { stats with
    id := ctr.idShort
    status := statusText
    health := containerHealth usingPodman ctr podmanHealth health
    ports :=
      if ctr.ports.elems = [] then stats.ports else convertContainerPortsToString cfg.sortPorts ctr
    cpu := 0
    mem := 0
    bandwidth := (0, 0)
    networkSent := 0
    networkRecv := 0 }

def maxNetworkSpeedBps : Uint64 := 5000000000

/-- Bytes per second since the last reading at this interval, if there was one. -/
def networkRate (prevReadTime : Option ℤ) (since : ℤ) (deltaRaw : Uint64) : Uint64 :=
  match prevReadTime with
  | none => 0
  | some prevReadTime =>
      let millisecondsElapsed := toUint64 ((timeSub since prevReadTime).tdiv 1000000)
      if 0 < millisecondsElapsed ∧ 0 < deltaRaw then
        let delta := deltaRaw * 1000 / millisecondsElapsed
        if maxNetworkSpeedBps < delta then 0 else delta
      else 0

def bytesToMegabytes (b : Uint64) : ℚ :=
  twoDecimals (b.val / 1048576)

def updateContainerStatsValues (stats : DockerStats) (cpuPct : ℚ)
    (usedMemory sentDelta recvDelta : Uint64) (readTime : ℤ) : DockerStats :=
  { stats with
    cpu := twoDecimals cpuPct
    mem := bytesToMegabytes usedMemory
    bandwidth := (sentDelta, recvDelta)
    networkSent := bytesToMegabytes sentDelta
    networkRecv := bytesToMegabytes recvDelta
    prevReadTime := readTime }

namespace DockerManager

def ctr (dm : DockerManager) (i : ℕ) : ApiInfo :=
  dm.apiContainerList.elems.getD i {}

def modifyCtr (dm : DockerManager) (i : ℕ) (f : ApiInfo → ApiInfo) : DockerManager :=
  { dm with
    apiContainerList :=
      { dm.apiContainerList with elems := dm.apiContainerList.elems.modify i f } }

def getCpuPreviousValues (dm : DockerManager) (cacheTimeMs : Uint16) (id : Bytes) :
    Uint64 × Uint64 :=
  ((dm.lastCpuContainer cacheTimeMs id).getD 0, (dm.lastCpuSystem cacheTimeMs id).getD 0)

def setCpuCurrentValues (dm : DockerManager) (cacheTimeMs : Uint16) (id : Bytes)
    (cpuContainer cpuSystem : Uint64) : DockerManager :=
  { dm with
    lastCpuContainer := dm.lastCpuContainer.set cacheTimeMs id cpuContainer
    lastCpuSystem := dm.lastCpuSystem.set cacheTimeMs id cpuSystem }

def setNetworkTotals (dm : DockerManager) (cacheTimeMs : Uint16) (id : Bytes)
    (totalSent totalRecv : Uint64) : DockerManager :=
  { dm with
    networkSentTrackers :=
      Function.update dm.networkSentTrackers cacheTimeMs
        ((dm.networkSentTrackers cacheTimeMs).set id totalSent)
    networkRecvTrackers :=
      Function.update dm.networkRecvTrackers cacheTimeMs
        ((dm.networkRecvTrackers cacheTimeMs).set id totalRecv) }

def cycleNetworkDeltasForCacheTime (dm : DockerManager) (cacheTimeMs : Uint16) : DockerManager :=
  { dm with
    networkSentTrackers :=
      Function.update dm.networkSentTrackers cacheTimeMs (dm.networkSentTrackers cacheTimeMs).cycle
    networkRecvTrackers :=
      Function.update dm.networkRecvTrackers cacheTimeMs
        (dm.networkRecvTrackers cacheTimeMs).cycle }

def networkRates (dm : DockerManager) (cacheTimeMs : Uint16) (id : Bytes) (since : ℤ) :
    Uint64 × Uint64 :=
  let prevReadTime := dm.lastNetworkReadTime cacheTimeMs id
  (networkRate prevReadTime since ((dm.networkSentTrackers cacheTimeMs).delta id),
    networkRate prevReadTime since ((dm.networkRecvTrackers cacheTimeMs).delta id))

def setLastNetworkReadTime (dm : DockerManager) (cacheTimeMs : Uint16) (id : Bytes) (now : ℤ) :
    DockerManager :=
  { dm with lastNetworkReadTime := dm.lastNetworkReadTime.set cacheTimeMs id now }

def setLastCpuReadTime (dm : DockerManager) (cacheTimeMs : Uint16) (id : Bytes) (read : ℤ) :
    DockerManager :=
  { dm with lastCpuReadTime := dm.lastCpuReadTime.set cacheTimeMs id read }

def modifyStats (dm : DockerManager) (id : Bytes) (f : Option DockerStats → DockerStats) :
    DockerManager :=
  { dm with containerStatsMap := dm.containerStatsMap.put id (f (dm.containerStatsMap.get id)) }

def applyStats (dm : DockerManager) (cacheTimeMs : Uint16) (id : Bytes) (a : Attempt) :
    DockerManager × Option UpdateError :=
  let res := dm.apiStats
  let (prevCpuContainer, prevCpuSystem) := dm.getCpuPreviousValues cacheTimeMs id
  let cpuPct :=
    res.cpuPct dm.isWindows prevCpuContainer prevCpuSystem
      ((dm.lastCpuReadTime cacheTimeMs id).getD 0)
  match calculateMemoryUsage res dm.isWindows with
  | none => (dm, some .memory)
  | some usedMemory =>
      let dm := dm.setCpuCurrentValues cacheTimeMs id res.totalUsage res.systemUsage
      if 100 < cpuPct then (dm, some .cpu)
      else
        let dm := dm.setNetworkTotals cacheTimeMs id res.totalSent res.totalRecv
        let (sentDelta, recvDelta) := dm.networkRates cacheTimeMs id a.since
        let dm := dm.setLastNetworkReadTime cacheTimeMs id a.now
        let dm :=
          dm.modifyStats id fun stats =>
            updateContainerStatsValues
              { stats.getD {} with prevNet := (res.totalSent, res.totalRecv) }
              cpuPct usedMemory sentDelta recvDelta res.read
        (dm.setLastCpuReadTime cacheTimeMs id res.read, none)

/-- `updateContainerStats` of the container at an index of the list. -/
def updateContainerStats (cfg : DockerConfig) (dm : DockerManager) (cacheTimeMs : Uint16) (i : ℕ)
    (a : Attempt) : DockerManager × Option UpdateError :=
  match a.response with
  | none => (dm, some .request)
  | some response =>
      let ctr := dm.ctr i
      let dm :=
        (dm.modifyStats ctr.idShort (beginStats cfg dm.usingPodman ctr a.podmanHealth)).modifyCtr i
          ApiInfo.clearPorts
      let dm := { dm with apiStats := response.decode dm.apiStats }
      if response.decodes then dm.applyStats cacheTimeMs ctr.idShort a else (dm, some .decode)

def deleteContainerStatsSync (dm : DockerManager) (id : Bytes) : DockerManager :=
  { dm with
    containerStatsMap := dm.containerStatsMap.delete id
    lastCpuContainer := dm.lastCpuContainer.delete id
    lastCpuSystem := dm.lastCpuSystem.delete id
    lastCpuReadTime := dm.lastCpuReadTime.delete id
    lastNetworkReadTime := dm.lastNetworkReadTime.delete id }

/-- `delete(dm.containerStatsMap, id)`. -/
def deleteStats (dm : DockerManager) (id : Bytes) : DockerManager :=
  { dm with containerStatsMap := dm.containerStatsMap.delete id }

def pruneStats (dm : DockerManager) : DockerManager :=
  { dm with containerStatsMap := dm.containerStatsMap.retain (· ∈ dm.validIds) }

/-- `ctr.IdShort = ctr.Id[:12]`. -/
def setIdShort (dm : DockerManager) (i : ℕ) : DockerManager :=
  dm.modifyCtr i fun ctr => { ctr with idShort := ctr.id.take 12 }

/-- What the loop does with a container before it starts the update: data of a container that is
less than a minute old may be from before a restart, and is deleted. -/
def launch (dm : DockerManager) (ctr : ApiInfo) : DockerManager :=
  let dm := { dm with validIds := ctr.idShort :: dm.validIds }
  if ctr.isYoung then dm.deleteContainerStatsSync ctr.idShort else dm

/-- The container list decoded into the structs of earlier lists. -/
def decodeList (dm : DockerManager) (entries : List ApiEntry) : DockerManager :=
  { dm with apiContainerList := dm.apiContainerList.decodeJson ApiEntry.decode {} entries }

end DockerManager

/-! ### Polls -/

/-- A poll under way. Containers are known by their index in the list. -/
structure Polling where
  input : PollInput
  /-- The next index of the loop over the list. -/
  next : ℕ := 0
  /-- Goroutines that have not updated their container yet. -/
  running : List ℕ := []
  /-- Goroutines whose update failed and that have not deleted the entry yet. -/
  erred : List ℕ := []
  failedContainers : List ℕ := []

structure DockerReport where
  input : PollInput
  /-- The entries, by pointer. -/
  stats : List ℕ
  /-- What the pointers pointed to. -/
  values : List DockerStats
  deriving DecidableEq

structure DockerPolls where
  dm : DockerManager := {}
  polling : Option Polling := none
  panicked : Bool := false
  /-- The polls that have returned, kept for the record only. -/
  reports : List DockerReport := []

inductive DockerEvent where
  /-- A poll begins, with a list that could be decoded. -/
  | list (input : PollInput)
  /-- A poll ends with an error of the decoder, after the fields of these entries. -/
  | badList (entries : List ApiEntry)
  | visit
  /-- A goroutine runs its update. -/
  | update (i : ℕ)
  /-- A goroutine whose update failed deletes the entry. -/
  | drop (i : ℕ)
  /-- A failed container is tried again. -/
  | retry (i : ℕ)
  | collect
  deriving DecidableEq

def Polling.waited (p : Polling) : Bool :=
  p.next = p.input.listed.length && p.running.isEmpty && p.erred.isEmpty

def Polling.attempt (p : Polling) (attempt : Listed → Attempt) (i : ℕ) : Attempt :=
  p.input.listed[i]?.elim {} attempt

def Polling.skipped (p : Polling) : Polling :=
  { p with next := p.next + 1 }

def Polling.launched (p : Polling) : Polling :=
  { p with next := p.next + 1, running := p.next :: p.running }

def Polling.updated (p : Polling) (i : ℕ) (err : Option UpdateError) : Polling :=
  { p with
    running := p.running.erase i
    erred := if err.isSome then i :: p.erred else p.erred }

def Polling.dropped (p : Polling) (i : ℕ) : Polling :=
  { p with erred := p.erred.erase i, failedContainers := p.failedContainers ++ [i] }

def Polling.retried (p : Polling) (i : ℕ) : Polling :=
  { p with failedContainers := p.failedContainers.erase i }

namespace DockerPolls

def list (s : DockerPolls) (input : PollInput) : DockerPolls :=
  { s with
    dm :=
      { s.dm.decodeList (input.listed.map (·.entry)) with
        usingPodman := s.dm.usingPodman || input.podman
        isWindows := input.windows
        validIds := [] }
    polling := some { input } }

def visit (cfg : DockerConfig) (s : DockerPolls) (p : Polling) : DockerPolls :=
  let ctr := s.dm.ctr p.next
  if ctr.panics then { s with panicked := true }
  else
    let dm := s.dm.setIdShort p.next
    if shouldExcludeContainer cfg ctr.name then { s with dm, polling := some p.skipped }
    else { s with dm := dm.launch (dm.ctr p.next), polling := some p.launched }

def update (cfg : DockerConfig) (s : DockerPolls) (p : Polling) (i : ℕ) : DockerPolls :=
  let (dm, err) := s.dm.updateContainerStats cfg p.input.cacheTimeMs i (p.attempt (·.first) i)
  { s with dm, polling := some (p.updated i err) }

def drop (s : DockerPolls) (p : Polling) (i : ℕ) : DockerPolls :=
  { s with dm := s.dm.deleteStats (s.dm.ctr i).idShort, polling := some (p.dropped i) }

def retry (cfg : DockerConfig) (s : DockerPolls) (p : Polling) (i : ℕ) : DockerPolls :=
  { s with
    dm := (s.dm.updateContainerStats cfg p.input.cacheTimeMs i (p.attempt (·.second) i)).1
    polling := some (p.retried i) }

def collect (s : DockerPolls) (p : Polling) : DockerPolls :=
  let dm := s.dm.pruneStats
  let stats := dm.containerStatsMap
  { s with
    dm := dm.cycleNetworkDeltasForCacheTime p.input.cacheTimeMs
    polling := none
    reports := s.reports ++ [⟨p.input, stats.entries.map (·.2), stats.values⟩] }

def step (cfg : DockerConfig) (s : DockerPolls) (e : DockerEvent) : Option DockerPolls :=
  if s.panicked then none
  else
    match s.polling, e with
    | none, .list input => some (s.list input)
    | none, .badList entries => some { s with dm := s.dm.decodeList entries }
    | some p, .visit => if p.next < p.input.listed.length then some (s.visit cfg p) else none
    | some p, .update i => if i ∈ p.running then some (s.update cfg p i) else none
    | some p, .drop i => if i ∈ p.erred then some (s.drop p i) else none
    | some p, .retry i =>
        if p.waited ∧ i ∈ p.failedContainers then some (s.retry cfg p i) else none
    | some p, .collect =>
        if p.waited ∧ p.failedContainers = [] then some (s.collect p) else none
    | _, _ => none

end DockerPolls

end Picket.Docker
