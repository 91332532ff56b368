import Picket.Fetch
import Picket.Messages

/-!
# What the Docker API sends

The entries of a container list and the statistics of one container, decoded into structs that are
used again for the next response: a field that the response leaves out keeps its old value, and so
do the elements in the spare capacity of a slice.
-/

namespace Picket

/-- A Go string that is cut at byte positions. -/
abbrev Bytes := List UInt8

instance lawfulBEq_bytes : LawfulBEq Bytes := inferInstance

/-! ### Container lists -/

/-- An element of `ApiInfo.Ports`. -/
structure Port where
  publicPort : Uint16 := 0
  ip : String := ""
  deriving DecidableEq

/-- `container.ApiInfo`. -/
structure ApiInfo where
  id : Bytes := []
  idShort : Bytes := []
  names : List Bytes := []
  status : String := ""
  image : String := ""
  healthStatus : String := ""
  ports : PtrSlice Port := {}
  deriving DecidableEq

structure SentPort where
  publicPort : Option Uint16 := none
  ip : Option String := none
  deriving DecidableEq

def SentPort.decode (sent : SentPort) (old : Port) : Port where
  publicPort := sent.publicPort.getD old.publicPort
  ip := sent.ip.getD old.ip

structure ApiEntry where
  id : Option Bytes := none
  names : Option (List Bytes) := none
  status : Option String := none
  image : Option String := none
  healthStatus : Option String := none
  ports : Option (List SentPort) := none
  deriving DecidableEq

/-- The short id that the entry itself gives. -/
def ApiEntry.shortId (entry : ApiEntry) : Bytes :=
  (entry.id.getD []).take 12

/-- A slice decoded from JSON. All of the capacity is used again, unless the array is empty. -/
def PtrSlice.decodeJson {M V : Type} (decode : M → V → V) (zero : V) (ms : List M)
    (old : PtrSlice V) : PtrSlice V :=
  let backing := old.elems ++ old.spare
  if ms = [] then {} else
    { elems := decodeElems decode zero ms backing, spare := backing.drop ms.length }

def ApiEntry.decode (entry : ApiEntry) (old : ApiInfo) : ApiInfo where
  id := entry.id.getD old.id
  idShort := old.idShort
  names := entry.names.getD old.names
  status := entry.status.getD old.status
  image := entry.image.getD old.image
  healthStatus := entry.healthStatus.getD old.healthStatus
  ports := entry.ports.elim old.ports fun sent => old.ports.decodeJson SentPort.decode {} sent

/-- `ctr.Names[0][1:]` of a container that has a name. -/
def ApiInfo.name (ctr : ApiInfo) : Bytes :=
  (ctr.names.headD []).drop 1

/-- The indexing of `ctr.Id[:12]` and `ctr.Names[0][1:]` is out of range. -/
def ApiInfo.panics (ctr : ApiInfo) : Bool :=
  ctr.id.length < 12 || (ctr.names.headD []).isEmpty

/-- `strings.Contains(ctr.Status, "second")`: the container is less than a minute old. -/
def ApiInfo.isYoung (ctr : ApiInfo) : Bool :=
  "second".toList <:+: ctr.status.toList

/-! ### Statistics -/

structure NetworkStats where
  rxBytes : Uint64 := 0
  txBytes : Uint64 := 0
  deriving DecidableEq

/-- `container.ApiStats`. Times are nanoseconds since the zero time. -/
structure ApiStats where
  read : ℤ := 0
  numProcs : Uint32 := 0
  networks : List NetworkStats := []
  totalUsage : Uint64 := 0
  systemUsage : Uint64 := 0
  usage : Uint64 := 0
  cache : Uint64 := 0
  inactiveFile : Uint64 := 0
  privateWorkingSet : Uint64 := 0
  deriving DecidableEq

/-- A response to a request for statistics, with the fields it has. -/
structure StatsResponse where
  read : Option ℤ := none
  numProcs : Option Uint32 := none
  networks : List NetworkStats := []
  totalUsage : Option Uint64 := none
  systemUsage : Option Uint64 := none
  usage : Option Uint64 := none
  cache : Option Uint64 := none
  inactiveFile : Option Uint64 := none
  privateWorkingSet : Option Uint64 := none
  /-- Unset when the decoder returns an error; the fields are those it decoded before. -/
  decodes : Bool := true
  deriving DecidableEq

/-- Decoding after `res.Networks = nil`. -/
def StatsResponse.decode (response : StatsResponse) (old : ApiStats) : ApiStats where
  read := response.read.getD old.read
  numProcs := response.numProcs.getD old.numProcs
  networks := response.networks
  totalUsage := response.totalUsage.getD old.totalUsage
  systemUsage := response.systemUsage.getD old.systemUsage
  usage := response.usage.getD old.usage
  cache := response.cache.getD old.cache
  inactiveFile := response.inactiveFile.getD old.inactiveFile
  privateWorkingSet := response.privateWorkingSet.getD old.privateWorkingSet

/-- `t.Sub(u)`, a number of nanoseconds in 64 bits. -/
def timeSub (t u : ℤ) : ℤ :=
  max (-2 ^ 63) (min (2 ^ 63 - 1) (t - u))

/-- `uint64(d)` of a signed number. -/
def toUint64 (d : ℤ) : Uint64 :=
  Fin.ofNat (2 ^ 64) (d % 2 ^ 64).toNat

/-- Milliseconds since an earlier time, of a difference that can be counted. -/
theorem val_toUint64_millis {t u : ℤ} (hle : u ≤ t) (hlt : t - u < 2 ^ 63) :
    (toUint64 ((timeSub t u).tdiv 1000000)).val = ((t - u) / 1000000).toNat := by
  have hsub : timeSub t u = t - u := by
    rw [timeSub]
    omega
  have hdiv : (t - u).tdiv 1000000 = (t - u) / 1000000 := Int.tdiv_eq_ediv_of_nonneg (by omega)
  rw [hsub, hdiv, toUint64, Int.emod_eq_of_lt (by omega) (by omega)]
  exact Nat.mod_eq_of_lt (by omega)

def ApiStats.calculateCpuPercentLinux (s : ApiStats) (prevCpuContainer prevCpuSystem : Uint64) :
    ℚ :=
  let cpuDelta := s.totalUsage - prevCpuContainer
  let systemDelta := s.systemUsage - prevCpuSystem
  if systemDelta = 0 ∨ prevCpuContainer = 0 then 0 else cpuDelta.val / systemDelta.val * 100

def ApiStats.calculateCpuPercentWindows (s : ApiStats) (prevCpuUsage : Uint64) (prevRead : ℤ) :
    ℚ :=
  let possIntervals := toUint64 (timeSub s.read prevRead) / 100 * Fin.ofNat (2 ^ 64) s.numProcs.val
  let intervalsUsed := s.totalUsage - prevCpuUsage
  if 0 < possIntervals then intervalsUsed.val / possIntervals.val * 100 else 0

def ApiStats.totalSent (apiStats : ApiStats) : Uint64 :=
  apiStats.networks.foldl (fun total v => total + v.txBytes) 0

def ApiStats.totalRecv (apiStats : ApiStats) : Uint64 :=
  apiStats.networks.foldl (fun total v => total + v.rxBytes) 0

def ApiStats.cpuPct (apiStats : ApiStats) (isWindows : Bool)
    (prevCpuContainer prevCpuSystem : Uint64) (prevRead : ℤ) : ℚ :=
  if isWindows then apiStats.calculateCpuPercentWindows prevCpuContainer prevRead
  else apiStats.calculateCpuPercentLinux prevCpuContainer prevCpuSystem

def maxMemoryUsage : Uint64 := 100 * 1024 * 1024 * 1024 * 1024

def calculateMemoryUsage (apiStats : ApiStats) (isWindows : Bool) : Option Uint64 :=
  if isWindows then some apiStats.privateWorkingSet
  else
    let memCache := if apiStats.inactiveFile = 0 then apiStats.cache else apiStats.inactiveFile
    let usedDelta := apiStats.usage - memCache
    if usedDelta ≤ 0 ∨ maxMemoryUsage < usedDelta then none else some usedDelta

/-! ### Status and health -/

inductive DockerHealth where
  | none
  | starting
  | healthy
  | unhealthy
  deriving DecidableEq

/-- `unicode.IsSpace`. -/
def isUnicodeSpace (c : Char) : Bool :=
  let n := c.toNat
  (9 ≤ n && n ≤ 13) || n = 32 || n = 0x85 || n = 0xA0 || n = 0x1680 ||
    (0x2000 ≤ n && n ≤ 0x200A) || n = 0x2028 || n = 0x2029 || n = 0x202F || n = 0x205F || n = 0x3000

def trimSpace (s : List Char) : List Char :=
  ((s.dropWhile isUnicodeSpace).reverse.dropWhile isUnicodeSpace).reverse

/-- Lower case, as far as it makes an ASCII letter. -/
def toLower (c : Char) : Char :=
  if c.toNat = 0x130 then 'i' else if c.toNat = 0x212A then 'k' else c.toLower

/-- `strings.Replace(s, old, "", 1)`. -/
def removeFirst (old : List Char) : List Char → List Char
  | [] => []
  | c :: cs =>
      if old.isPrefixOf (c :: cs) then (c :: cs).drop old.length else c :: removeFirst old cs

def splitLast (c : Char) (s : List Char) : Option (List Char × List Char) :=
  match s.reverse.dropWhile (· ≠ c) with
  | [] => none
  | _ :: before => some (before.reverse, (s.reverse.takeWhile (· ≠ c)).reverse)

/-- `container.DockerHealthStrings`. -/
def dockerHealthStrings (s : List Char) : Option DockerHealth :=
  if s = "none".toList then some .none
  else if s = "starting".toList then some .starting
  else if s = "healthy".toList then some .healthy
  else if s = "unhealthy".toList then some .unhealthy
  else none

def parseDockerHealthStatus (status : List Char) : Option DockerHealth :=
  dockerHealthStrings ((trimSpace status).map toLower)

/-- The text between the parentheses without the `health:` of some Docker versions. -/
def stripHealthPrefix (healthText : List Char) : List Char :=
  match healthText.span (· ≠ ':') with
  | (_, []) => healthText
  | (before, _ :: after) =>
      let label := (trimSpace before).map toLower
      if label = "health".toList ∨ label = "health status".toList then trimSpace after
      else healthText

def parseDockerStatus (status : String) : String × DockerHealth :=
  let trimmed := trimSpace status.toList
  if trimmed = [] then ("", .none)
  else
    let trimmed := removeFirst "About ".toList trimmed
    match splitLast '(' trimmed with
    | none => (String.ofList trimmed, .none)
    | some (before, after) =>
        if after.getLast? ≠ some ')' then (String.ofList trimmed, .none)
        else
          let statusText := if trimSpace before = [] then trimmed else trimSpace before
          match parseDockerHealthStatus (stripHealthPrefix (trimSpace after.dropLast)) with
          | some health => (String.ofList statusText, health)
          | none => (String.ofList trimmed, .none)

example : parseDockerStatus "Up About 2 hours (health: Healthy)" = ("Up 2 hours", .healthy) := by
  decide +kernel

/-! ### Ports -/

def publishedPorts : List Port → List Uint16 → List Port
  | [], _ => []
  | p :: ports, seenPorts =>
      if p.publicPort = 0 ∨ p.publicPort ∈ seenPorts then publishedPorts ports seenPorts
      else p :: publishedPorts ports (p.publicPort :: seenPorts)

def Port.format (p : Port) : String :=
  let port := toString p.publicPort.val
  if p.ip = "0.0.0.0" ∨ p.ip = "::" then port else p.ip ++ ":" ++ port

/-- The formatted ports; `sortPorts` is the unstable `sort.Slice` by public port. The slice of the
container is cleared by the caller. -/
def convertContainerPortsToString (sortPorts : List Port → List Port) (ctr : ApiInfo) : String :=
  ", ".intercalate ((publishedPorts (sortPorts ctr.ports.elems) []).map Port.format)

/-- `ctr.Ports = nil` once they have been formatted. -/
def ApiInfo.clearPorts (ctr : ApiInfo) : ApiInfo :=
  if ctr.ports.elems = [] then ctr else { ctr with ports := {} }

end Picket
