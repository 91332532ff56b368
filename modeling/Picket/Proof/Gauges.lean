import Mathlib.Tactic.Ring
import Picket.Proof.Fields

/-!
# Gauges: fields with a peak

Every `Max*` field of the stats structs belongs to one averaged field. A gauge names such a pair.
The invariant the accumulation loop keeps is that after `n` records a gauge's total is at most `n`
times its peak, and that the peak is still on the grid the values were on: that is what puts the
rounded average below the peak.
-/

namespace Picket

open Rounding

/-- The float fields of a record that have a peak, the six `DiskIoStats` included. -/
inductive FloatGauge where
  | cpu
  | mem
  | networkSent
  | networkRecv
  | diskReadPs
  | diskWritePs
  | diskIoStats (i : Fin 6)

namespace FloatGauge

def field : FloatGauge → FloatField
  | cpu => .cpu
  | mem => .memUsed
  | networkSent => .networkSent
  | networkRecv => .networkRecv
  | diskReadPs => .diskReadPs
  | diskWritePs => .diskWritePs
  | diskIoStats i => .diskIoStats i

def peak : FloatGauge → Stats → ℚ
  | cpu, s => s.maxCpu
  | mem, s => s.maxMem
  | networkSent, s => s.maxNetworkSent
  | networkRecv, s => s.maxNetworkRecv
  | diskReadPs, s => s.maxDiskReadPs
  | diskWritePs, s => s.maxDiskWritePs
  | diskIoStats i, s => s.maxDiskIoStats i

variable (g : FloatGauge)

theorem peak_empty : g.peak {} = 0 := by cases g <;> rfl

theorem peak_accumulate (totals : Totals) (stats : Stats) :
    g.peak (accumulate totals stats).sum
      = max (max (g.peak totals.sum) (g.peak stats)) (g.field.value stats) := by
  cases g <;> rfl

theorem peak_computeAverages (count : ℕ) (totals : Totals) :
    g.peak (computeAverages count totals) = g.peak totals.sum := by
  cases g <;> rfl

end FloatGauge

namespace CountField

def peak : CountField → Stats → Uint64
  | bandwidth i, s => s.maxBandwidth i
  | diskIo i, s => s.maxDiskIo i

variable (g : CountField)

theorem peak_empty : g.peak {} = 0 := by cases g <;> rfl

theorem peak_accumulate (totals : Totals) (stats : Stats) :
    g.peak (accumulate totals stats).sum
      = max (max (g.peak totals.sum) (g.peak stats)) (g.value stats) := by
  cases g <;> rfl

theorem peak_computeAverages (count : ℕ) (totals : Totals) :
    g.peak (computeAverages count totals) = g.peak totals.sum := by
  cases g <;> rfl

end CountField

inductive FsFloatGauge where
  | diskReadPs
  | diskWritePs
  | diskIoStats (i : Fin 6)

namespace FsFloatGauge

def field : FsFloatGauge → FsFloatField
  | diskReadPs => .diskReadPs
  | diskWritePs => .diskWritePs
  | diskIoStats i => .diskIoStats i

def peak : FsFloatGauge → FsStats → ℚ
  | diskReadPs, fs => fs.maxDiskReadPS
  | diskWritePs, fs => fs.maxDiskWritePS
  | diskIoStats i, fs => fs.maxDiskIoStats i

variable (g : FsFloatGauge)

theorem peak_empty : g.peak {} = 0 := by cases g <;> rfl

theorem peak_accumulateFs (fs value : FsStats) :
    g.peak (accumulateFs fs value)
      = max (max (g.peak fs) (g.peak value)) (g.field.value value) := by
  cases g <;> rfl

theorem peak_averageFs (count : ℕ) (fs : FsStats) : g.peak (averageFs count fs) = g.peak fs := by
  cases g <;> rfl

end FsFloatGauge

namespace FsCountField

/-- Every averaged integer field of a filesystem has a peak. -/
def peak : FsCountField → FsStats → Uint64
  | diskReadBytes, fs => fs.maxDiskReadBytes
  | diskWriteBytes, fs => fs.maxDiskWriteBytes

variable (g : FsCountField)

theorem peak_empty : g.peak {} = 0 := by cases g <;> rfl

theorem peak_accumulateFs (fs value : FsStats) :
    g.peak (accumulateFs fs value) = max (max (g.peak fs) (g.peak value)) (g.value value) := by
  cases g <;> rfl

theorem peak_averageFs (count : ℕ) (fs : FsStats) : g.peak (averageFs count fs) = g.peak fs := by
  cases g <;> rfl

end FsCountField

/-! ### One gauge over the accumulation loop -/

/-- A value and its peak as a record may report them: non-negative multiples of `0.01`. -/
structure Reading (value peak : ℚ) : Prop where
  value_nonneg : 0 ≤ value
  value_onGrid : OnGrid 100 value
  peak_nonneg : 0 ≤ peak
  peak_onGrid : OnGrid 100 peak

/-- A float gauge after `n` records. -/
structure FloatBound (n : ℕ) (total peak : ℚ) : Prop where
  total_nonneg : 0 ≤ total
  total_le : total ≤ n * peak
  peak_nonneg : 0 ≤ peak
  peak_onGrid : OnGrid 100 peak

namespace FloatBound

variable {n : ℕ} {total peak : ℚ}

theorem zero : FloatBound n 0 0 :=
  ⟨le_rfl, by simp, le_rfl, onGrid_zero 100⟩

theorem skip (h : FloatBound n total peak) : FloatBound (n + 1) total peak where
  total_nonneg := h.total_nonneg
  total_le := by
    have hpeak := h.peak_nonneg
    have hle := h.total_le
    push_cast
    linarith
  peak_nonneg := h.peak_nonneg
  peak_onGrid := h.peak_onGrid

theorem add (h : FloatBound n total peak) {value carried : ℚ} (hread : Reading value carried) :
    FloatBound (n + 1) (total + value) (max (max peak carried) value) where
  total_nonneg := add_nonneg h.total_nonneg hread.value_nonneg
  total_le := by
    set top := max (max peak carried) value with htop
    have hpeak : peak ≤ top := (le_max_left peak carried).trans (le_max_left _ value)
    have hvalue : value ≤ top := le_max_right _ value
    calc total + value
        ≤ n * peak + value := add_le_add h.total_le le_rfl
      _ ≤ n * top + top := add_le_add (mul_le_mul_of_nonneg_left hpeak (by positivity)) hvalue
      _ = ((n + 1 : ℕ) : ℚ) * top := by push_cast; ring
  peak_nonneg := (h.peak_nonneg.trans (le_max_left peak carried)).trans (le_max_left _ value)
  peak_onGrid := (h.peak_onGrid.max hread.peak_onGrid).max hread.value_onGrid

theorem average (h : FloatBound n total peak) (hn : 0 < n) :
    Reading (twoDecimals (total / n)) peak ∧ twoDecimals (total / n) ≤ peak := by
  have hpos : (0 : ℚ) < n := by exact_mod_cast hn
  have hmean : total / n ≤ peak := by
    rw [div_le_iff₀ hpos, mul_comm]
    exact h.total_le
  exact ⟨⟨roundTo_nonneg (div_nonneg h.total_nonneg hpos.le), onGrid_roundTo 100 _,
    h.peak_nonneg, h.peak_onGrid⟩, roundTo_le (by norm_num) hmean h.peak_onGrid⟩

end FloatBound

/-- An integer gauge after `n` records. The sum may wrap: that only lowers it. -/
def CountBound (n : ℕ) (total peak : Uint64) : Prop :=
  total.val ≤ n * peak.val

namespace CountBound

variable {n : ℕ} {total peak : Uint64}

theorem zero : CountBound n 0 0 := by
  simp [CountBound]

theorem skip (h : CountBound n total peak) : CountBound (n + 1) total peak :=
  h.trans (Nat.mul_le_mul_right _ (Nat.le_succ n))

theorem add (h : CountBound n total peak) (value carried : Uint64) :
    CountBound (n + 1) (total + value) (max (max peak carried) value) := by
  set top := max (max peak carried) value with htop
  have hpeak : peak.val ≤ top.val := (le_max_left peak carried).trans (le_max_left _ value)
  have hvalue : value.val ≤ top.val := le_max_right (max peak carried) value
  calc (total + value).val
      ≤ total.val + value.val := by rw [Fin.val_add]; exact Nat.mod_le _ _
    _ ≤ n * top.val + top.val :=
        add_le_add (h.trans (Nat.mul_le_mul_left n hpeak)) hvalue
    _ = (n + 1) * top.val := by ring

theorem average (h : CountBound n total peak) : divCount total n ≤ peak := by
  have hquot : total.val / n ≤ peak.val := Nat.div_le_of_le_mul h
  rw [Fin.le_def, divCount, Fin.val_ofNat, Nat.mod_eq_of_lt (hquot.trans_lt peak.isLt)]
  exact hquot

end CountBound

end Picket
