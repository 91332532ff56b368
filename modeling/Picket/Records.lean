import Picket.Entities
import Picket.Lib.FiniteMap
import Picket.Lib.Rounding

/-!
# Averaging stats records

`AverageSystemStatsSlice` of the records package: one pass that accumulates totals and peaks, then
one that divides. The loops over maps touch each key once and are written through the finite-map
operations; the loops over arrays are pointwise.
-/

namespace Picket

open Rounding

/-- Round float to two decimals. -/
def twoDecimals (value : ℚ) : ℚ :=
  roundTo 100 value

/-- `sum / uint64(count)`. -/
def divCount (sum : Uint64) (count : ℕ) : Uint64 :=
  Fin.ofNat (2 ^ 64) (sum.val / count)

/-- The running state of the accumulation loop. -/
structure Totals where
  sum : Stats := {}
  cpuCoresSums : List Uint64 := []
  /-- CPU breakdown: user, system, iowait, steal, idle. -/
  cpuBreakdownSums : List ℚ := []

/-- Extend `sums` with zeros to the length of `values`, then add the values to it. -/
def addExtending {α : Type} [Zero α] [Add α] : List α → List α → List α
  | sums, [] => sums
  | [], value :: values => (0 + value) :: addExtending [] values
  | sum :: sums, value :: values => (sum + value) :: addExtending sums values

def accumulateInterface (sum value : Fin 4 → Uint64) : Fin 4 → Uint64 :=
  ![sum 0 + value 0, sum 1 + value 1, max (sum 2) (value 2), max (sum 3) (value 3)]

def accumulateFs (fs value : FsStats) : FsStats where
  diskTotal := fs.diskTotal + value.diskTotal
  diskUsed := fs.diskUsed + value.diskUsed
  diskWritePs := fs.diskWritePs + value.diskWritePs
  diskReadPs := fs.diskReadPs + value.diskReadPs
  maxDiskReadPS := max (max fs.maxDiskReadPS value.maxDiskReadPS) value.diskReadPs
  maxDiskWritePS := max (max fs.maxDiskWritePS value.maxDiskWritePS) value.diskWritePs
  diskReadBytes := fs.diskReadBytes + value.diskReadBytes
  diskWriteBytes := fs.diskWriteBytes + value.diskWriteBytes
  maxDiskReadBytes := max (max fs.maxDiskReadBytes value.maxDiskReadBytes) value.diskReadBytes
  maxDiskWriteBytes := max (max fs.maxDiskWriteBytes value.maxDiskWriteBytes) value.diskWriteBytes
  diskIoStats := fun i => fs.diskIoStats i + value.diskIoStats i
  maxDiskIoStats := fun i =>
    max (max (fs.maxDiskIoStats i) (value.maxDiskIoStats i)) (value.diskIoStats i)

/-- The package power of a record is not added to the sum. -/
def accumulateGpu (gpu value : GPUData) : GPUData :=
  { gpu with
    temperature := gpu.temperature + value.temperature
    memoryUsed := gpu.memoryUsed + value.memoryUsed
    memoryTotal := gpu.memoryTotal + value.memoryTotal
    usage := gpu.usage + value.usage
    power := gpu.power + value.power
    count := gpu.count + value.count
    engines := FiniteMap.accumulate (fun engine v => engine.getD 0 + v) gpu.engines value.engines }

/-- The loop body: one record added to the totals. -/
def accumulate (totals : Totals) (stats : Stats) : Totals :=
  let sum := totals.sum
  { sum :=
      { cpu := sum.cpu + stats.cpu
        mem := sum.mem + stats.mem
        memUsed := sum.memUsed + stats.memUsed
        memPct := sum.memPct + stats.memPct
        memBuffCache := sum.memBuffCache + stats.memBuffCache
        memZfsArc := sum.memZfsArc + stats.memZfsArc
        swap := sum.swap + stats.swap
        swapUsed := sum.swapUsed + stats.swapUsed
        diskTotal := sum.diskTotal + stats.diskTotal
        diskUsed := sum.diskUsed + stats.diskUsed
        diskPct := sum.diskPct + stats.diskPct
        diskReadPs := sum.diskReadPs + stats.diskReadPs
        diskWritePs := sum.diskWritePs + stats.diskWritePs
        networkSent := sum.networkSent + stats.networkSent
        networkRecv := sum.networkRecv + stats.networkRecv
        loadAvg := fun i => sum.loadAvg i + stats.loadAvg i
        bandwidth := fun i => sum.bandwidth i + stats.bandwidth i
        diskIo := fun i => sum.diskIo i + stats.diskIo i
        diskIoStats := fun i => sum.diskIoStats i + stats.diskIoStats i
        maxCpu := max (max sum.maxCpu stats.maxCpu) stats.cpu
        maxMem := max (max sum.maxMem stats.maxMem) stats.memUsed
        maxNetworkSent := max (max sum.maxNetworkSent stats.maxNetworkSent) stats.networkSent
        maxNetworkRecv := max (max sum.maxNetworkRecv stats.maxNetworkRecv) stats.networkRecv
        maxDiskReadPs := max (max sum.maxDiskReadPs stats.maxDiskReadPs) stats.diskReadPs
        maxDiskWritePs := max (max sum.maxDiskWritePs stats.maxDiskWritePs) stats.diskWritePs
        maxBandwidth := fun i =>
          max (max (sum.maxBandwidth i) (stats.maxBandwidth i)) (stats.bandwidth i)
        maxDiskIo := fun i => max (max (sum.maxDiskIo i) (stats.maxDiskIo i)) (stats.diskIo i)
        maxDiskIoStats := fun i =>
          max (max (sum.maxDiskIoStats i) (stats.maxDiskIoStats i)) (stats.diskIoStats i)
        networkInterfaces :=
          FiniteMap.accumulate (fun entry value => accumulateInterface (entry.getD 0) value)
            sum.networkInterfaces stats.networkInterfaces
        -- a filesystem met for the first time starts from the zero struct, a GPU from its name
        extraFs :=
          FiniteMap.accumulate (fun entry value => accumulateFs (entry.getD {}) value)
            sum.extraFs stats.extraFs
        gpuData :=
          FiniteMap.accumulate
            (fun entry value => accumulateGpu (entry.getD { name := value.name }) value)
            sum.gpuData stats.gpuData }
    cpuCoresSums := addExtending totals.cpuCoresSums
      (stats.cpuCoresUsage.map fun v => Fin.ofNat (2 ^ 64) v.val)
    cpuBreakdownSums := addExtending totals.cpuBreakdownSums stats.cpuBreakdown }

def averageInterface (count : ℕ) (sum : Fin 4 → Uint64) : Fin 4 → Uint64 :=
  ![divCount (sum 0) count, divCount (sum 1) count, sum 2, sum 3]

def averageFs (count : ℕ) (fs : FsStats) : FsStats :=
  { fs with
    diskTotal := twoDecimals (fs.diskTotal / count)
    diskUsed := twoDecimals (fs.diskUsed / count)
    diskWritePs := twoDecimals (fs.diskWritePs / count)
    diskReadPs := twoDecimals (fs.diskReadPs / count)
    diskReadBytes := divCount fs.diskReadBytes count
    diskWriteBytes := divCount fs.diskWriteBytes count
    diskIoStats := fun i => twoDecimals (fs.diskIoStats i / count) }

def averageGpu (count : ℕ) (gpu : GPUData) : GPUData :=
  { gpu with
    temperature := twoDecimals (gpu.temperature / count)
    memoryUsed := twoDecimals (gpu.memoryUsed / count)
    memoryTotal := twoDecimals (gpu.memoryTotal / count)
    usage := twoDecimals (gpu.usage / count)
    power := twoDecimals (gpu.power / count)
    count := twoDecimals (gpu.count / count)
    engines := FiniteMap.mapVal (fun engine => twoDecimals (engine / count)) gpu.engines }

/-- The second pass: totals divided by the number of records, peaks left alone. -/
def computeAverages (count : ℕ) (totals : Totals) : Stats :=
  let sum := totals.sum
  { sum with
    cpu := twoDecimals (sum.cpu / count)
    mem := twoDecimals (sum.mem / count)
    memUsed := twoDecimals (sum.memUsed / count)
    memPct := twoDecimals (sum.memPct / count)
    memBuffCache := twoDecimals (sum.memBuffCache / count)
    memZfsArc := twoDecimals (sum.memZfsArc / count)
    swap := twoDecimals (sum.swap / count)
    swapUsed := twoDecimals (sum.swapUsed / count)
    diskTotal := twoDecimals (sum.diskTotal / count)
    diskUsed := twoDecimals (sum.diskUsed / count)
    diskPct := twoDecimals (sum.diskPct / count)
    diskReadPs := twoDecimals (sum.diskReadPs / count)
    diskWritePs := twoDecimals (sum.diskWritePs / count)
    diskIo := fun i => divCount (sum.diskIo i) count
    diskIoStats := fun i => twoDecimals (sum.diskIoStats i / count)
    networkSent := twoDecimals (sum.networkSent / count)
    networkRecv := twoDecimals (sum.networkRecv / count)
    loadAvg := fun i => twoDecimals (sum.loadAvg i / count)
    bandwidth := fun i => divCount (sum.bandwidth i) count
    networkInterfaces := FiniteMap.mapVal (averageInterface count) sum.networkInterfaces
    extraFs := FiniteMap.mapVal (averageFs count) sum.extraFs
    gpuData := FiniteMap.mapVal (averageGpu count) sum.gpuData
    cpuCoresUsage := totals.cpuCoresSums.map fun s =>
      Fin.ofNat (2 ^ 8) (roundHalfAway ((s.val : ℚ) / count)).toNat
    cpuBreakdown := totals.cpuBreakdownSums.map fun s => twoDecimals (s / count) }

def averageSystemStatsSlice (records : List Stats) : Stats :=
  if records.length = 0 then {}
  else computeAverages records.length (records.foldl accumulate {})

end Picket
