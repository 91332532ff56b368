import Mathlib.Algebra.Order.Ring.Int
import Mathlib.Algebra.Order.Ring.Rat
import Mathlib.Data.ZMod.Defs
import Mathlib.Data.Finmap
import Mathlib.Data.Rat.Defs
import Mathlib.Data.Fintype.Pi
import Mathlib.Order.Fin.Basic
import Mathlib.Data.Fin.VecNotation

/-!
# The data an agent reports

The structs the hub receives, stores and averages, with the source's fields in the source's order.
Floats are exact rationals. An absent map and an empty one are the same map, an absent slice and an
empty one the same list.
-/

namespace Picket

/-- `uint64`: addition wraps. -/
abbrev Uint64 := Fin (2 ^ 64)

abbrev Uint8 := Fin (2 ^ 8)

/-! Literals of all widths, and positions in the small arrays. -/

instance neZero_uint8 : NeZero (2 ^ 8) := ⟨by decide⟩

instance neZero_uint16 : NeZero (2 ^ 16) := ⟨by decide⟩

instance neZero_uint32 : NeZero (2 ^ 32) := ⟨by decide⟩

instance neZero_uint64 : NeZero (2 ^ 64) := ⟨by decide⟩

instance neZero_two : NeZero 2 := ⟨by decide⟩

instance neZero_three : NeZero 3 := ⟨by decide⟩

instance neZero_four : NeZero 4 := ⟨by decide⟩

/-- The rates of an interface come before its totals. -/
theorem rates_le : 2 ≤ 4 := by decide

/-- `map[string]V`. -/
abbrev GoMap (V : Type) := Finmap fun _ : String => V

/-- An extra filesystem. The fields that are never stored (`json:"-"`) belong to the agent's own
bookkeeping and are left out. -/
@[ext]
structure FsStats where
  diskTotal : ℚ := 0
  diskUsed : ℚ := 0
  diskReadPs : ℚ := 0
  diskWritePs : ℚ := 0
  maxDiskReadPS : ℚ := 0
  maxDiskWritePS : ℚ := 0
  diskReadBytes : Uint64 := 0
  diskWriteBytes : Uint64 := 0
  maxDiskReadBytes : Uint64 := 0
  maxDiskWriteBytes : Uint64 := 0
  diskIoStats : Fin 6 → ℚ := 0
  maxDiskIoStats : Fin 6 → ℚ := 0
  deriving DecidableEq

@[ext]
structure GPUData where
  name : String := ""
  temperature : ℚ := 0
  memoryUsed : ℚ := 0
  memoryTotal : ℚ := 0
  usage : ℚ := 0
  power : ℚ := 0
  count : ℚ := 0
  engines : GoMap ℚ := ∅
  powerPkg : ℚ := 0
  deriving DecidableEq

@[ext]
structure Stats where
  cpu : ℚ := 0
  maxCpu : ℚ := 0
  mem : ℚ := 0
  maxMem : ℚ := 0
  memUsed : ℚ := 0
  memPct : ℚ := 0
  memBuffCache : ℚ := 0
  memZfsArc : ℚ := 0
  swap : ℚ := 0
  swapUsed : ℚ := 0
  diskTotal : ℚ := 0
  diskUsed : ℚ := 0
  diskPct : ℚ := 0
  diskReadPs : ℚ := 0
  diskWritePs : ℚ := 0
  maxDiskReadPs : ℚ := 0
  maxDiskWritePs : ℚ := 0
  networkSent : ℚ := 0
  networkRecv : ℚ := 0
  maxNetworkSent : ℚ := 0
  maxNetworkRecv : ℚ := 0
  extraFs : GoMap FsStats := ∅
  gpuData : GoMap GPUData := ∅
  bandwidth : Fin 2 → Uint64 := 0
  maxBandwidth : Fin 2 → Uint64 := 0
  loadAvg : Fin 3 → ℚ := 0
  /-- Upload bytes, download bytes, total upload, total download. -/
  networkInterfaces : GoMap (Fin 4 → Uint64) := ∅
  diskIo : Fin 2 → Uint64 := 0
  maxDiskIo : Fin 2 → Uint64 := 0
  cpuBreakdown : List ℚ := []
  cpuCoresUsage : List Uint8 := []
  diskIoStats : Fin 6 → ℚ := 0
  maxDiskIoStats : Fin 6 → ℚ := 0
  deriving DecidableEq

abbrev Uint16 := Fin (2 ^ 16)

@[ext]
structure Info where
  hostname : String := ""
  kernelVersion : String := ""
  cores : ℤ := 0
  threads : ℤ := 0
  cpuModel : String := ""
  uptime : Uint64 := 0
  cpu : ℚ := 0
  memPct : ℚ := 0
  diskPct : ℚ := 0
  bandwidth : ℚ := 0
  agentVersion : String := ""
  podman : Bool := false
  gpuPct : ℚ := 0
  os : Uint8 := 0
  bandwidthBytes : Uint64 := 0
  loadAvg : Fin 3 → ℚ := 0
  connectionType : Uint8 := 0
  extraFsPct : GoMap ℚ := ∅
  services : List Uint16 := []
  deriving DecidableEq

@[ext]
structure Details where
  hostname : String := ""
  kernel : String := ""
  cores : ℤ := 0
  threads : ℤ := 0
  cpuModel : String := ""
  os : Uint8 := 0
  osName : String := ""
  arch : String := ""
  podman : Bool := false
  memoryTotal : Uint64 := 0
  smartInterval : ℤ := 0
  deriving DecidableEq

/-- `container.Stats`, without the agent's own bookkeeping. -/
@[ext]
structure ContainerStats where
  name : String := ""
  cpu : ℚ := 0
  mem : ℚ := 0
  networkSent : ℚ := 0
  networkRecv : ℚ := 0
  bandwidth : Fin 2 → Uint64 := 0
  health : Uint8 := 0
  status : String := ""
  id : String := ""
  image : String := ""
  ports : String := ""
  deriving DecidableEq

/-- `systemd.Service`, without the agent's own bookkeeping. -/
@[ext]
structure Service where
  name : String := ""
  state : Uint8 := 0
  cpu : ℚ := 0
  mem : Uint64 := 0
  memPeak : Uint64 := 0
  sub : Uint8 := 0
  cpuPeak : ℚ := 0
  deriving DecidableEq

/-- What an agent returns to the hub. -/
@[ext]
structure CombinedData where
  stats : Stats := {}
  info : Info := {}
  containers : List ContainerStats := []
  systemdServices : List Service := []
  details : Option Details := none
  deriving DecidableEq

end Picket
