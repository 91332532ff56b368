import Picket.Records

/-!
# The averaged fields, as families

The averaging code is written out field by field. Naming the fields that are treated alike gives
four families (floats and integers, of a record and of a filesystem) and one for a GPU, and for each
family three facts: a field of the zero struct is zero, the loop body adds it, and the second pass
divides it. Every argument about averages goes through these.
-/

namespace Picket

/-- The float fields of a record that are averaged, array elements one by one. -/
inductive FloatField where
  | cpu
  | mem
  | memUsed
  | memPct
  | memBuffCache
  | memZfsArc
  | swap
  | swapUsed
  | diskTotal
  | diskUsed
  | diskPct
  | diskReadPs
  | diskWritePs
  | networkSent
  | networkRecv
  | loadAvg (i : Fin 3)
  | diskIoStats (i : Fin 6)

namespace FloatField

def value : FloatField → Stats → ℚ
  | cpu, s => s.cpu
  | mem, s => s.mem
  | memUsed, s => s.memUsed
  | memPct, s => s.memPct
  | memBuffCache, s => s.memBuffCache
  | memZfsArc, s => s.memZfsArc
  | swap, s => s.swap
  | swapUsed, s => s.swapUsed
  | diskTotal, s => s.diskTotal
  | diskUsed, s => s.diskUsed
  | diskPct, s => s.diskPct
  | diskReadPs, s => s.diskReadPs
  | diskWritePs, s => s.diskWritePs
  | networkSent, s => s.networkSent
  | networkRecv, s => s.networkRecv
  | loadAvg i, s => s.loadAvg i
  | diskIoStats i, s => s.diskIoStats i

variable (f : FloatField)

theorem value_empty : f.value {} = 0 := by cases f <;> rfl

theorem value_accumulate (totals : Totals) (stats : Stats) :
    f.value (accumulate totals stats).sum = f.value totals.sum + f.value stats := by
  cases f <;> rfl

theorem value_computeAverages (count : ℕ) (totals : Totals) :
    f.value (computeAverages count totals) = twoDecimals (f.value totals.sum / count) := by
  cases f <;> rfl

end FloatField

inductive CountField where
  | bandwidth (i : Fin 2)
  | diskIo (i : Fin 2)

namespace CountField

def value : CountField → Stats → Uint64
  | bandwidth i, s => s.bandwidth i
  | diskIo i, s => s.diskIo i

variable (f : CountField)

theorem value_empty : f.value {} = 0 := by cases f <;> rfl

theorem value_accumulate (totals : Totals) (stats : Stats) :
    f.value (accumulate totals stats).sum = f.value totals.sum + f.value stats := by
  cases f <;> rfl

theorem value_computeAverages (count : ℕ) (totals : Totals) :
    f.value (computeAverages count totals) = divCount (f.value totals.sum) count := by
  cases f <;> rfl

end CountField

inductive FsFloatField where
  | diskTotal
  | diskUsed
  | diskReadPs
  | diskWritePs
  | diskIoStats (i : Fin 6)

namespace FsFloatField

def value : FsFloatField → FsStats → ℚ
  | diskTotal, fs => fs.diskTotal
  | diskUsed, fs => fs.diskUsed
  | diskReadPs, fs => fs.diskReadPs
  | diskWritePs, fs => fs.diskWritePs
  | diskIoStats i, fs => fs.diskIoStats i

variable (f : FsFloatField)

theorem value_empty : f.value {} = 0 := by cases f <;> rfl

theorem value_accumulateFs (fs value : FsStats) :
    f.value (accumulateFs fs value) = f.value fs + f.value value := by
  cases f <;> rfl

theorem value_averageFs (count : ℕ) (fs : FsStats) :
    f.value (averageFs count fs) = twoDecimals (f.value fs / count) := by
  cases f <;> rfl

end FsFloatField

inductive FsCountField where
  | diskReadBytes
  | diskWriteBytes

namespace FsCountField

def value : FsCountField → FsStats → Uint64
  | diskReadBytes, fs => fs.diskReadBytes
  | diskWriteBytes, fs => fs.diskWriteBytes

variable (f : FsCountField)

theorem value_empty : f.value {} = 0 := by cases f <;> rfl

theorem value_accumulateFs (fs value : FsStats) :
    f.value (accumulateFs fs value) = f.value fs + f.value value := by
  cases f <;> rfl

theorem value_averageFs (count : ℕ) (fs : FsStats) :
    f.value (averageFs count fs) = divCount (f.value fs) count := by
  cases f <;> rfl

end FsCountField

/-- The stored float fields of a GPU that are averaged. The package power is stored too but is not
one of them. -/
inductive GpuField where
  | memoryUsed
  | memoryTotal
  | usage
  | power

namespace GpuField

def value : GpuField → GPUData → ℚ
  | memoryUsed, gpu => gpu.memoryUsed
  | memoryTotal, gpu => gpu.memoryTotal
  | usage, gpu => gpu.usage
  | power, gpu => gpu.power

variable (f : GpuField)

theorem value_new (name : String) : f.value { name := name } = 0 := by cases f <;> rfl

theorem value_accumulateGpu (gpu value : GPUData) :
    f.value (accumulateGpu gpu value) = f.value gpu + f.value value := by
  cases f <;> rfl

theorem value_averageGpu (count : ℕ) (gpu : GPUData) :
    f.value (averageGpu count gpu) = twoDecimals (f.value gpu / count) := by
  cases f <;> rfl

end GpuField

theorem averageSystemStatsSlice_nil : averageSystemStatsSlice [] = {} := rfl

theorem averageSystemStatsSlice_of_ne_nil {records : List Stats} (hne : records ≠ []) :
    averageSystemStatsSlice records
      = computeAverages records.length (records.foldl accumulate {}) :=
  if_neg fun hlength => hne (List.eq_nil_of_length_eq_zero hlength)

end Picket
