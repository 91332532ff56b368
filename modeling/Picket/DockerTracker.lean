import Picket.DockerStats

/-!
# One container

What the polls are meant to keep of a container: its entry and its earlier values at each cache
interval, which nothing moves but its own list entry and its own statistics, each decoded from
nothing. A docker manager is to be one tracker for each short id.
-/

namespace Picket.Docker

/-- The total of the last poll and of this one. -/
@[ext]
structure Meter where
  current : Option Uint64 := none
  previous : Option Uint64 := none

def Meter.delta (m : Meter) : Uint64 :=
  match m.current, m.previous with
  | some currentVal, some previousVal => currentVal - previousVal
  | _, _ => 0

@[ext]
structure Tracker where
  stats : Option DockerStats := none
  usingPodman : Bool := false
  lastCpuContainer : Uint16 → Option Uint64 := fun _ => none
  lastCpuSystem : Uint16 → Option Uint64 := fun _ => none
  lastCpuReadTime : Uint16 → Option ℤ := fun _ => none
  sent : Uint16 → Meter := fun _ => {}
  recv : Uint16 → Meter := fun _ => {}
  lastNetworkReadTime : Uint16 → Option ℤ := fun _ => none

namespace Tracker

def setCpuCurrentValues (t : Tracker) (cacheTimeMs : Uint16) (cpuContainer cpuSystem : Uint64) :
    Tracker :=
  { t with
    lastCpuContainer := Function.update t.lastCpuContainer cacheTimeMs (some cpuContainer)
    lastCpuSystem := Function.update t.lastCpuSystem cacheTimeMs (some cpuSystem) }

def setNetworkTotals (t : Tracker) (cacheTimeMs : Uint16) (totalSent totalRecv : Uint64) :
    Tracker :=
  { t with
    sent := Function.update t.sent cacheTimeMs { t.sent cacheTimeMs with current := some totalSent }
    recv :=
      Function.update t.recv cacheTimeMs { t.recv cacheTimeMs with current := some totalRecv } }

def networkRates (t : Tracker) (cacheTimeMs : Uint16) (since : ℤ) : Uint64 × Uint64 :=
  let prevReadTime := t.lastNetworkReadTime cacheTimeMs
  (networkRate prevReadTime since (t.sent cacheTimeMs).delta,
    networkRate prevReadTime since (t.recv cacheTimeMs).delta)

def setLastNetworkReadTime (t : Tracker) (cacheTimeMs : Uint16) (now : ℤ) : Tracker :=
  { t with lastNetworkReadTime := Function.update t.lastNetworkReadTime cacheTimeMs (some now) }

def setLastCpuReadTime (t : Tracker) (cacheTimeMs : Uint16) (read : ℤ) : Tracker :=
  { t with lastCpuReadTime := Function.update t.lastCpuReadTime cacheTimeMs (some read) }

def modifyStats (t : Tracker) (f : Option DockerStats → DockerStats) : Tracker :=
  { t with stats := some (f t.stats) }

def dropStats (t : Tracker) : Tracker :=
  { t with stats := none }

def applyStats (t : Tracker) (isWindows : Bool) (cacheTimeMs : Uint16) (res : ApiStats)
    (a : Attempt) : Tracker × Option UpdateError :=
  let cpuPct :=
    res.cpuPct isWindows ((t.lastCpuContainer cacheTimeMs).getD 0)
      ((t.lastCpuSystem cacheTimeMs).getD 0) ((t.lastCpuReadTime cacheTimeMs).getD 0)
  match calculateMemoryUsage res isWindows with
  | none => (t, some .memory)
  | some usedMemory =>
      let t := t.setCpuCurrentValues cacheTimeMs res.totalUsage res.systemUsage
      if 100 < cpuPct then (t, some .cpu)
      else
        let t := t.setNetworkTotals cacheTimeMs res.totalSent res.totalRecv
        let (sentDelta, recvDelta) := t.networkRates cacheTimeMs a.since
        let t := t.setLastNetworkReadTime cacheTimeMs a.now
        let t :=
          t.modifyStats fun stats =>
            updateContainerStatsValues
              { stats.getD {} with prevNet := (res.totalSent, res.totalRecv) }
              cpuPct usedMemory sentDelta recvDelta res.read
        (t.setLastCpuReadTime cacheTimeMs res.read, none)

/-- An attempt, from the container's own list entry and its own response. -/
def attempt (cfg : DockerConfig) (t : Tracker) (isWindows : Bool) (cacheTimeMs : Uint16)
    (ctr : ApiInfo) (a : Attempt) : Tracker × Option UpdateError :=
  match a.response with
  | none => (t, some .request)
  | some response =>
      let t := t.modifyStats (beginStats cfg t.usingPodman ctr a.podmanHealth)
      if response.decodes then t.applyStats isWindows cacheTimeMs (response.decode {}) a
      else (t, some .decode)

/-- The data of the container is deleted, but not what the network trackers have. -/
def deleteContainerStats (t : Tracker) : Tracker :=
  { t with
    stats := none
    lastCpuContainer := fun _ => none
    lastCpuSystem := fun _ => none
    lastCpuReadTime := fun _ => none
    lastNetworkReadTime := fun _ => none }

def restart (t : Tracker) (ctr : ApiInfo) : Tracker :=
  if ctr.isYoung then t.deleteContainerStats else t

def cycle (t : Tracker) (cacheTimeMs : Uint16) : Tracker :=
  { t with
    sent := Function.update t.sent cacheTimeMs { previous := (t.sent cacheTimeMs).current }
    recv := Function.update t.recv cacheTimeMs { previous := (t.recv cacheTimeMs).current } }

end Tracker

def Attempt.after (a : Attempt) (ctr : ApiInfo) : ApiInfo :=
  if a.response.isSome then ctr.clearPorts else ctr

/-- The part of a poll that is about one container. -/
structure OwnInput where
  cacheTimeMs : Uint16
  windows : Bool
  podman : Bool
  listed : Option Listed
  deriving DecidableEq

def PollInput.own (input : PollInput) (c : Bytes) : OwnInput where
  cacheTimeMs := input.cacheTimeMs
  windows := input.windows
  podman := input.podman
  listed := input.listed.find? (·.entry.shortId = c)

/-- The list entry decoded from nothing. -/
def Listed.ctr (l : Listed) : ApiInfo :=
  { l.entry.decode {} with idShort := l.entry.shortId }

namespace Tracker

def start (t : Tracker) (o : OwnInput) : Tracker :=
  { t with usingPodman := t.usingPodman || o.podman }

def first (cfg : DockerConfig) (t : Tracker) (o : OwnInput) (l : Listed) :
    Tracker × Option UpdateError :=
  ((t.start o).restart l.ctr).attempt cfg o.windows o.cacheTimeMs l.ctr l.first

/-- The second attempt, after the entry has been deleted. -/
def second (cfg : DockerConfig) (t : Tracker) (o : OwnInput) (l : Listed) :
    Tracker × Option UpdateError :=
  (t.first cfg o l).1.dropStats.attempt cfg o.windows o.cacheTimeMs (l.first.after l.ctr) l.second

/-- What the poll leaves before the trackers are cycled. -/
def settled (cfg : DockerConfig) (t : Tracker) (o : OwnInput) : Tracker :=
  match o.listed with
  | none => (t.start o).dropStats
  | some l =>
      if shouldExcludeContainer cfg l.ctr.name then (t.start o).dropStats
      else if (t.first cfg o l).2 = none then (t.first cfg o l).1
      else (t.second cfg o l).1

/-- A poll. Its report is the entry it leaves. -/
def poll (cfg : DockerConfig) (t : Tracker) (o : OwnInput) : Tracker :=
  (t.settled cfg o).cycle o.cacheTimeMs

def reports (cfg : DockerConfig) : Tracker → List OwnInput → List (Option DockerStats)
  | _, [] => []
  | t, o :: os => (t.poll cfg o).stats :: reports cfg (t.poll cfg o) os

end Tracker

/-! ### The tracker of a container in a manager -/

def meter (t : DeltaTracker Bytes Uint64) (c : Bytes) : Meter where
  current := t.current c
  previous := t.previous c

def DockerManager.track (dm : DockerManager) (c : Bytes) : Tracker where
  stats := dm.containerStatsMap.get c
  usingPodman := dm.usingPodman
  lastCpuContainer cacheTimeMs := dm.lastCpuContainer cacheTimeMs c
  lastCpuSystem cacheTimeMs := dm.lastCpuSystem cacheTimeMs c
  lastCpuReadTime cacheTimeMs := dm.lastCpuReadTime cacheTimeMs c
  sent cacheTimeMs := meter (dm.networkSentTrackers cacheTimeMs) c
  recv cacheTimeMs := meter (dm.networkRecvTrackers cacheTimeMs) c
  lastNetworkReadTime cacheTimeMs := dm.lastNetworkReadTime cacheTimeMs c

end Picket.Docker
