import Mathlib.Data.Rat.Floor
import Picket.Entities
import Picket.Lib.FiniteMap

/-!
# Fetching data from an agent

A `System` decodes every response of its agent into one `CombinedData`, for its own updater and for
the realtime worker alike. A response holds the fields the agent sent; decoding it leaves the other
fields alone, adds to the maps that are there, and writes through the pointers that are there, those
in the spare capacity of a slice included. A map entry is decoded from scratch.
-/

namespace Picket

/-! ### Responses -/

/-- The fields of `Stats` that travel. -/
structure SentStats where
  cpu : Option ℚ := none
  mem : Option ℚ := none
  memUsed : Option ℚ := none
  memPct : Option ℚ := none
  memBuffCache : Option ℚ := none
  memZfsArc : Option ℚ := none
  swap : Option ℚ := none
  swapUsed : Option ℚ := none
  diskTotal : Option ℚ := none
  diskUsed : Option ℚ := none
  diskPct : Option ℚ := none
  diskReadPs : Option ℚ := none
  diskWritePs : Option ℚ := none
  networkSent : Option ℚ := none
  networkRecv : Option ℚ := none
  extraFs : Option (GoMap FsStats) := none
  gpuData : Option (GoMap GPUData) := none
  bandwidth : Option (Fin 2 → Uint64) := none
  loadAvg : Option (Fin 3 → ℚ) := none
  networkInterfaces : Option (GoMap (Fin 4 → Uint64)) := none
  diskIo : Option (Fin 2 → Uint64) := none
  cpuBreakdown : Option (List ℚ) := none
  cpuCoresUsage : Option (List Uint8) := none
  diskIoStats : Option (Fin 6 → ℚ) := none
  deriving DecidableEq

structure SentInfo where
  hostname : Option String := none
  kernelVersion : Option String := none
  cores : Option ℤ := none
  threads : Option ℤ := none
  cpuModel : Option String := none
  uptime : Option Uint64 := none
  cpu : Option ℚ := none
  memPct : Option ℚ := none
  diskPct : Option ℚ := none
  bandwidth : Option ℚ := none
  agentVersion : Option String := none
  podman : Option Bool := none
  gpuPct : Option ℚ := none
  os : Option Uint8 := none
  bandwidthBytes : Option Uint64 := none
  loadAvg : Option (Fin 3 → ℚ) := none
  connectionType : Option Uint8 := none
  extraFsPct : Option (GoMap ℚ) := none
  services : Option (List Uint16) := none
  deriving DecidableEq

structure SentDetails where
  hostname : Option String := none
  kernel : Option String := none
  cores : Option ℤ := none
  threads : Option ℤ := none
  cpuModel : Option String := none
  os : Option Uint8 := none
  osName : Option String := none
  arch : Option String := none
  podman : Option Bool := none
  memoryTotal : Option Uint64 := none
  smartInterval : Option ℤ := none
  deriving DecidableEq

structure SentContainer where
  name : Option String := none
  cpu : Option ℚ := none
  mem : Option ℚ := none
  networkSent : Option ℚ := none
  networkRecv : Option ℚ := none
  bandwidth : Option (Fin 2 → Uint64) := none
  health : Option Uint8 := none
  status : Option String := none
  id : Option String := none
  image : Option String := none
  ports : Option String := none
  deriving DecidableEq

structure SentService where
  name : Option String := none
  state : Option Uint8 := none
  cpu : Option ℚ := none
  mem : Option Uint64 := none
  memPeak : Option Uint64 := none
  sub : Option Uint8 := none
  cpuPeak : Option ℚ := none
  deriving DecidableEq

/-- A response to `GetData`. -/
structure Response where
  stats : SentStats := {}
  info : SentInfo := {}
  containers : Option (List SentContainer) := none
  systemdServices : Option (List SentService) := none
  details : Option SentDetails := none
  deriving DecidableEq

/-! ### Decoding into what is there -/

def SentStats.decode (sent : SentStats) (old : Stats) : Stats :=
  { old with
    cpu := sent.cpu.getD old.cpu
    mem := sent.mem.getD old.mem
    memUsed := sent.memUsed.getD old.memUsed
    memPct := sent.memPct.getD old.memPct
    memBuffCache := sent.memBuffCache.getD old.memBuffCache
    memZfsArc := sent.memZfsArc.getD old.memZfsArc
    swap := sent.swap.getD old.swap
    swapUsed := sent.swapUsed.getD old.swapUsed
    diskTotal := sent.diskTotal.getD old.diskTotal
    diskUsed := sent.diskUsed.getD old.diskUsed
    diskPct := sent.diskPct.getD old.diskPct
    diskReadPs := sent.diskReadPs.getD old.diskReadPs
    diskWritePs := sent.diskWritePs.getD old.diskWritePs
    networkSent := sent.networkSent.getD old.networkSent
    networkRecv := sent.networkRecv.getD old.networkRecv
    extraFs := sent.extraFs.getD ∅ ∪ old.extraFs
    gpuData := sent.gpuData.getD ∅ ∪ old.gpuData
    bandwidth := sent.bandwidth.getD old.bandwidth
    loadAvg := sent.loadAvg.getD old.loadAvg
    networkInterfaces := sent.networkInterfaces.getD ∅ ∪ old.networkInterfaces
    diskIo := sent.diskIo.getD old.diskIo
    cpuBreakdown := sent.cpuBreakdown.getD old.cpuBreakdown
    cpuCoresUsage := sent.cpuCoresUsage.getD old.cpuCoresUsage
    diskIoStats := sent.diskIoStats.getD old.diskIoStats }

def SentInfo.decode (sent : SentInfo) (old : Info) : Info where
  hostname := sent.hostname.getD old.hostname
  kernelVersion := sent.kernelVersion.getD old.kernelVersion
  cores := sent.cores.getD old.cores
  threads := sent.threads.getD old.threads
  cpuModel := sent.cpuModel.getD old.cpuModel
  uptime := sent.uptime.getD old.uptime
  cpu := sent.cpu.getD old.cpu
  memPct := sent.memPct.getD old.memPct
  diskPct := sent.diskPct.getD old.diskPct
  bandwidth := sent.bandwidth.getD old.bandwidth
  agentVersion := sent.agentVersion.getD old.agentVersion
  podman := sent.podman.getD old.podman
  gpuPct := sent.gpuPct.getD old.gpuPct
  os := sent.os.getD old.os
  bandwidthBytes := sent.bandwidthBytes.getD old.bandwidthBytes
  loadAvg := sent.loadAvg.getD old.loadAvg
  connectionType := sent.connectionType.getD old.connectionType
  extraFsPct := sent.extraFsPct.getD ∅ ∪ old.extraFsPct
  services := sent.services.getD old.services

def SentDetails.decode (sent : SentDetails) (old : Details) : Details where
  hostname := sent.hostname.getD old.hostname
  kernel := sent.kernel.getD old.kernel
  cores := sent.cores.getD old.cores
  threads := sent.threads.getD old.threads
  cpuModel := sent.cpuModel.getD old.cpuModel
  os := sent.os.getD old.os
  osName := sent.osName.getD old.osName
  arch := sent.arch.getD old.arch
  podman := sent.podman.getD old.podman
  memoryTotal := sent.memoryTotal.getD old.memoryTotal
  smartInterval := sent.smartInterval.getD old.smartInterval

def SentContainer.decode (sent : SentContainer) (old : ContainerStats) : ContainerStats where
  name := sent.name.getD old.name
  cpu := sent.cpu.getD old.cpu
  mem := sent.mem.getD old.mem
  networkSent := sent.networkSent.getD old.networkSent
  networkRecv := sent.networkRecv.getD old.networkRecv
  bandwidth := sent.bandwidth.getD old.bandwidth
  health := sent.health.getD old.health
  status := sent.status.getD old.status
  id := sent.id.getD old.id
  image := sent.image.getD old.image
  ports := sent.ports.getD old.ports

def SentService.decode (sent : SentService) (old : Service) : Service where
  name := sent.name.getD old.name
  state := sent.state.getD old.state
  cpu := sent.cpu.getD old.cpu
  mem := sent.mem.getD old.mem
  memPeak := sent.memPeak.getD old.memPeak
  sub := sent.sub.getD old.sub
  cpuPeak := sent.cpuPeak.getD old.cpuPeak

/-- A slice of pointers: the elements in use, and the structs that the rest of the capacity still
points to. -/
structure PtrSlice (V : Type) where
  elems : List V := []
  spare : List V := []
  deriving DecidableEq

/-- Each element of the message decoded into the struct at its place, or into a new one. -/
def decodeElems {M V : Type} (decode : M → V → V) (zero : V) : List M → List V → List V
  | [], _ => []
  | m :: ms, [] => decode m zero :: decodeElems decode zero ms []
  | m :: ms, v :: vs => decode m v :: decodeElems decode zero ms vs

/-- Decoding an array. The backing array is used again if it is large enough, unless the message
is empty. -/
def PtrSlice.decode {M V : Type} (decode : M → V → V) (zero : V) (ms : List M)
    (old : PtrSlice V) : PtrSlice V :=
  let backing := old.elems ++ old.spare
  if ms.length = 0 ∨ backing.length < ms.length then { elems := decodeElems decode zero ms [] }
  else { elems := decodeElems decode zero ms backing, spare := backing.drop ms.length }

/-- `sys.data`. -/
structure SysData where
  stats : Stats := {}
  info : Info := {}
  containers : PtrSlice ContainerStats := {}
  systemdServices : PtrSlice Service := {}
  details : Option Details := none
  deriving DecidableEq

def SysData.value (data : SysData) : CombinedData where
  stats := data.stats
  info := data.info
  containers := data.containers.elems
  systemdServices := data.systemdServices.elems
  details := data.details

/-- `cbor.Unmarshal` of a response into `sys.data`. -/
def Response.decode (response : Response) (old : SysData) : SysData where
  stats := response.stats.decode old.stats
  info := response.info.decode old.info
  containers := response.containers.elim old.containers fun sent =>
    old.containers.decode SentContainer.decode {} sent
  systemdServices := response.systemdServices.elim old.systemdServices fun sent =>
    old.systemdServices.decode SentService.decode {} sent
  details := response.details.elim old.details fun sent => some (sent.decode (old.details.getD {}))

/-! ### Migrating -/

/-- `uint64(x)` of a float in range. -/
def uint64 (x : ℚ) : Uint64 :=
  Fin.ofNat (2 ^ 64) ⌊x⌋.toNat

def mebi : ℚ := 1024 * 1024

def migrateStats (stats : Stats) : Stats :=
  let stats :=
    if stats.bandwidth 0 = 0 ∧ stats.bandwidth 1 = 0 then
      { stats with
        bandwidth := ![uint64 (stats.networkSent * mebi), uint64 (stats.networkRecv * mebi)]
        networkSent := 0
        networkRecv := 0 }
    else stats
  if stats.diskIo 0 = 0 ∧ stats.diskIo 1 = 0 then
    { stats with
      diskIo := ![uint64 (stats.diskReadPs * mebi), uint64 (stats.diskWritePs * mebi)]
      diskReadPs := 0
      diskWritePs := 0 }
  else stats

def migrateBandwidth (info : Info) : Info :=
  if info.bandwidthBytes = 0 then
    { info with bandwidthBytes := uint64 (info.bandwidth * mebi), bandwidth := 0 }
  else info

/-- Details from the deprecated fields of an older agent. -/
def detailsFromInfo (info : Info) (mem : ℚ) : Details where
  hostname := info.hostname
  kernel := info.kernelVersion
  cores := info.cores
  threads := info.threads
  cpuModel := info.cpuModel
  podman := info.podman
  os := info.os
  memoryTotal := uint64 (mem * mebi * 1024)

def migrateDeprecatedFields (createDetails : Bool) (cd : SysData) : SysData :=
  let info := migrateBandwidth cd.info
  let stats := migrateStats cd.stats
  if cd.details = none ∧ info.hostname ≠ "" then
    { cd with
      stats
      info :=
        { info with
          hostname := "", kernelVersion := "", cores := 0, cpuModel := "", podman := false,
          os := 0 }
      details := if createDetails then some (detailsFromInfo info stats.mem) else none }
  else { cd with stats, info }

/-! ### Fetches -/

inductive FetchKind where
  | updater
  | realtime
  deriving DecidableEq

/-- A fetch whose response has been decoded. -/
structure Fetch where
  id : ℕ
  kind : FetchKind
  response : Response
  /-- Set once the updater has migrated: whether details were to be created. -/
  migrated : Option Bool := none
  deriving DecidableEq

/-- What a fetch returned, broadcast or saved. -/
structure Used where
  fetch : Fetch
  value : CombinedData
  deriving DecidableEq

/-- A `System` and the fetches that are between decoding their response and using the data. -/
structure FetchState where
  data : SysData := {}
  detailsFetched : Bool := false
  fetches : List Fetch := []
  /-- Everything used so far, kept for the record only. -/
  used : List Used := []
  deriving DecidableEq

inductive FetchEvent where
  /-- A response is decoded; `ok` is false when the decoder gives up on the rest of it. -/
  | decode (id : ℕ) (kind : FetchKind) (response : Response) (ok : Bool)
  | migrate (id : ℕ)
  /-- The data is saved or serialised; `ok` is false when that fails. -/
  | use (id : ℕ) (ok : Bool)
  deriving DecidableEq

/-- Only a migrated fetch of the updater is saved; the realtime worker serialises at once. -/
def Fetch.ready (fetch : Fetch) : Bool :=
  fetch.kind = .realtime || fetch.migrated.isSome

namespace FetchState

def find (s : FetchState) (id : ℕ) : Option Fetch :=
  s.fetches.find? (·.id = id)

def finish (s : FetchState) (id : ℕ) : FetchState :=
  { s with fetches := s.fetches.filter (·.id ≠ id) }

def step (s : FetchState) : FetchEvent → Option FetchState
  | .decode id kind response ok =>
      if (s.find id).isSome then none
      else
        let s := { s with data := response.decode s.data }
        some (if ok then { s with fetches := { id, kind, response } :: s.fetches } else s)
  | .migrate id =>
      match s.find id with
      | none => none
      | some fetch =>
          if fetch.ready then none
          else
            let createDetails := !s.detailsFetched
            some
              { s with
                data := migrateDeprecatedFields createDetails s.data
                fetches := { fetch with migrated := some createDetails } ::
                  s.fetches.filter (·.id ≠ id) }
  | .use id ok =>
      match s.find id with
      | none => none
      | some fetch =>
          if !fetch.ready then none
          else if !ok then some (s.finish id)
          else
            some
              { s.finish id with
                used := ⟨fetch, s.data.value⟩ :: s.used
                detailsFetched :=
                  s.detailsFetched || (fetch.kind = .updater && s.data.details.isSome) }

end FetchState

end Picket
