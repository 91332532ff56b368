import Picket.Proof.Gauges

/-!
# Averages stay below their peaks

The accumulation loop keeps every gauge bounded, the gauges of a filesystem being read at one key of
a map whose keys come and go: a record that lacks the filesystem still counts in the denominator.
Dividing then gives a record of the same kind, with each averaged field at most its own peak.
-/

namespace Picket

open Rounding

/-! ### The loop keeps every gauge bounded -/

/-- The float fields of a filesystem that have a peak, and the peaks, are non-negative multiples of
`0.01`. -/
def FsReadings (fs : FsStats) : Prop :=
  ∀ g : FsFloatGauge, Reading (g.field.value fs) (g.peak fs)

/-- The float fields of a record that have a peak, and the peaks, are non-negative multiples of
`0.01`. -/
structure Readings (stats : Stats) : Prop where
  floats : ∀ g : FloatGauge, Reading (g.field.value stats) (g.peak stats)
  extraFs : ∀ key fs, stats.extraFs.lookup key = some fs → FsReadings fs

structure FsBound (n : ℕ) (fs : FsStats) : Prop where
  floats : ∀ g : FsFloatGauge, FloatBound n (g.field.value fs) (g.peak fs)
  counts : ∀ g : FsCountField, CountBound n (g.value fs) (g.peak fs)

/-- The invariant of the accumulation loop after `n` records. -/
structure SumBound (n : ℕ) (sum : Stats) : Prop where
  floats : ∀ g : FloatGauge, FloatBound n (g.field.value sum) (g.peak sum)
  counts : ∀ g : CountField, CountBound n (g.value sum) (g.peak sum)
  extraFs : ∀ key fs, sum.extraFs.lookup key = some fs → FsBound n fs

theorem fsBound_empty (n : ℕ) : FsBound n {} where
  floats g := by
    rw [g.field.value_empty, g.peak_empty]
    induction n with
    | zero => exact FloatBound.zero
    | succ n ih => exact ih.skip
  counts g := by
    rw [g.value_empty, g.peak_empty]
    simp [CountBound]

theorem FsBound.skip {n : ℕ} {fs : FsStats} (h : FsBound n fs) : FsBound (n + 1) fs :=
  ⟨fun g => (h.floats g).skip, fun g => (h.counts g).skip⟩

theorem FsBound.add {n : ℕ} {fs value : FsStats} (h : FsBound n fs) (hread : FsReadings value) :
    FsBound (n + 1) (accumulateFs fs value) where
  floats g := by
    rw [g.field.value_accumulateFs, g.peak_accumulateFs]
    exact (h.floats g).add (hread g)
  counts g := by
    rw [g.value_accumulateFs, g.peak_accumulateFs]
    exact (h.counts g).add _ _

theorem sumBound_empty : SumBound 0 {} where
  floats g := by
    rw [g.field.value_empty, g.peak_empty]
    exact FloatBound.zero
  counts g := by
    rw [g.value_empty, g.peak_empty]
    exact CountBound.zero
  extraFs key fs hfs := by simp at hfs

theorem extraFs_accumulate (totals : Totals) (stats : Stats) (key : String) :
    (accumulate totals stats).sum.extraFs.lookup key
      = (stats.extraFs.lookup key).elim (totals.sum.extraFs.lookup key) fun value =>
          some (accumulateFs ((totals.sum.extraFs.lookup key).getD {}) value) := by
  have hmap : (accumulate totals stats).sum.extraFs
      = FiniteMap.accumulate (fun entry value => accumulateFs (entry.getD {}) value)
          totals.sum.extraFs stats.extraFs := rfl
  rw [hmap, FiniteMap.lookup_accumulate]

theorem SumBound.accumulate {n : ℕ} {totals : Totals} {stats : Stats}
    (h : SumBound n totals.sum) (hread : Readings stats) :
    SumBound (n + 1) (accumulate totals stats).sum where
  floats g := by
    rw [g.field.value_accumulate, g.peak_accumulate]
    exact (h.floats g).add (hread.floats g)
  counts g := by
    rw [g.value_accumulate, g.peak_accumulate]
    exact (h.counts g).add _ _
  extraFs key fs hfs := by
    rw [extraFs_accumulate] at hfs
    cases hvalue : stats.extraFs.lookup key with
    | none =>
        rw [hvalue] at hfs
        exact (h.extraFs key fs hfs).skip
    | some value =>
        rw [hvalue] at hfs
        obtain rfl := Option.some.inj hfs
        have hentry : FsBound n ((totals.sum.extraFs.lookup key).getD {}) := by
          cases hentry : totals.sum.extraFs.lookup key with
          | none => exact fsBound_empty n
          | some entry => exact h.extraFs key entry hentry
        exact hentry.add (hread.extraFs key value hvalue)

theorem SumBound.foldl {n : ℕ} {totals : Totals} {records : List Stats}
    (h : SumBound n totals.sum) (hread : ∀ r ∈ records, Readings r) :
    SumBound (n + records.length) (records.foldl Picket.accumulate totals).sum := by
  induction records generalizing n totals with
  | nil => exact h
  | cons r records ih =>
      have hnext := h.accumulate (hread r List.mem_cons_self)
      have htail := ih hnext fun s hs => hread s (List.mem_cons_of_mem r hs)
      rwa [List.length_cons, Nat.add_comm records.length, ← Nat.add_assoc]

/-! ### Averages are records again, below their peaks -/

/-- Each averaged field is at most its own peak field. Elements 2 and 3 of a network interface are
running totals, not the peaks of elements 0 and 1, and bound no averaged field. -/
structure BelowPeaks (s : Stats) : Prop where
  cpu : s.cpu ≤ s.maxCpu
  memUsed : s.memUsed ≤ s.maxMem
  networkSent : s.networkSent ≤ s.maxNetworkSent
  networkRecv : s.networkRecv ≤ s.maxNetworkRecv
  diskReadPs : s.diskReadPs ≤ s.maxDiskReadPs
  diskWritePs : s.diskWritePs ≤ s.maxDiskWritePs
  bandwidth : ∀ i, s.bandwidth i ≤ s.maxBandwidth i
  diskIo : ∀ i, s.diskIo i ≤ s.maxDiskIo i
  diskIoStats : ∀ i, s.diskIoStats i ≤ s.maxDiskIoStats i
  extraFs : ∀ key fs, s.extraFs.lookup key = some fs →
    fs.diskReadPs ≤ fs.maxDiskReadPS ∧ fs.diskWritePs ≤ fs.maxDiskWritePS ∧
      fs.diskReadBytes ≤ fs.maxDiskReadBytes ∧ fs.diskWriteBytes ≤ fs.maxDiskWriteBytes ∧
      ∀ i, fs.diskIoStats i ≤ fs.maxDiskIoStats i

theorem extraFs_computeAverages (count : ℕ) (totals : Totals) (key : String) :
    (computeAverages count totals).extraFs.lookup key
      = (totals.sum.extraFs.lookup key).map (averageFs count) := by
  have hmap : (computeAverages count totals).extraFs
      = FiniteMap.mapVal (averageFs count) totals.sum.extraFs := rfl
  rw [hmap, FiniteMap.lookup_mapVal]

section Average

variable {records : List Stats} (hread : ∀ r ∈ records, Readings r)
include hread

theorem sumBound_records : SumBound records.length (records.foldl accumulate {}).sum := by
  have hempty : SumBound 0 (({} : Totals).sum) := sumBound_empty
  have hbound := hempty.foldl hread
  rwa [Nat.zero_add] at hbound

theorem FloatGauge.average (g : FloatGauge) :
    let s := averageSystemStatsSlice records
    Reading (g.field.value s) (g.peak s) ∧ g.field.value s ≤ g.peak s := by
  dsimp only
  by_cases hnil : records = []
  · rw [hnil, averageSystemStatsSlice_nil, g.field.value_empty, g.peak_empty]
    exact ⟨⟨le_rfl, onGrid_zero 100, le_rfl, onGrid_zero 100⟩, le_rfl⟩
  · rw [averageSystemStatsSlice_of_ne_nil hnil, g.field.value_computeAverages,
      g.peak_computeAverages]
    exact ((sumBound_records hread).floats g).average (List.length_pos_iff.mpr hnil)

theorem CountField.average_le (g : CountField) :
    g.value (averageSystemStatsSlice records) ≤ g.peak (averageSystemStatsSlice records) := by
  by_cases hnil : records = []
  · rw [hnil, averageSystemStatsSlice_nil, g.value_empty, g.peak_empty]
  · rw [averageSystemStatsSlice_of_ne_nil hnil, g.value_computeAverages, g.peak_computeAverages]
    exact ((sumBound_records hread).counts g).average

theorem exists_fsBound {key : String} {fs : FsStats}
    (hfs : (averageSystemStatsSlice records).extraFs.lookup key = some fs) :
    ∃ total, fs = averageFs records.length total ∧ FsBound records.length total ∧
      0 < records.length := by
  have hne : records ≠ [] := by
    rintro rfl
    simp [averageSystemStatsSlice_nil] at hfs
  rw [averageSystemStatsSlice_of_ne_nil hne, extraFs_computeAverages, Option.map_eq_some_iff] at hfs
  obtain ⟨total, htotal, rfl⟩ := hfs
  exact ⟨total, rfl, (sumBound_records hread).extraFs key total htotal,
    List.length_pos_iff.mpr hne⟩

theorem FsFloatGauge.average (g : FsFloatGauge) {key : String} {fs : FsStats}
    (hfs : (averageSystemStatsSlice records).extraFs.lookup key = some fs) :
    Reading (g.field.value fs) (g.peak fs) ∧ g.field.value fs ≤ g.peak fs := by
  obtain ⟨total, rfl, hbound, hpos⟩ := exists_fsBound hread hfs
  rw [g.field.value_averageFs, g.peak_averageFs]
  exact (hbound.floats g).average hpos

theorem FsCountField.average_le (g : FsCountField) {key : String} {fs : FsStats}
    (hfs : (averageSystemStatsSlice records).extraFs.lookup key = some fs) :
    g.value fs ≤ g.peak fs := by
  obtain ⟨total, rfl, hbound, -⟩ := exists_fsBound hread hfs
  rw [g.value_averageFs, g.peak_averageFs]
  exact (hbound.counts g).average

theorem readings_average : Readings (averageSystemStatsSlice records) where
  floats g := (g.average hread).1
  extraFs _ _ hfs g := (g.average hread hfs).1

theorem belowPeaks_average : BelowPeaks (averageSystemStatsSlice records) where
  cpu := (FloatGauge.cpu.average hread).2
  memUsed := (FloatGauge.mem.average hread).2
  networkSent := (FloatGauge.networkSent.average hread).2
  networkRecv := (FloatGauge.networkRecv.average hread).2
  diskReadPs := (FloatGauge.diskReadPs.average hread).2
  diskWritePs := (FloatGauge.diskWritePs.average hread).2
  bandwidth i := (CountField.bandwidth i).average_le hread
  diskIo i := (CountField.diskIo i).average_le hread
  diskIoStats i := ((FloatGauge.diskIoStats i).average hread).2
  extraFs _ _ hfs :=
    ⟨(FsFloatGauge.diskReadPs.average hread hfs).2, (FsFloatGauge.diskWritePs.average hread hfs).2,
      FsCountField.diskReadBytes.average_le hread hfs,
      FsCountField.diskWriteBytes.average_le hread hfs,
      fun i => ((FsFloatGauge.diskIoStats i).average hread hfs).2⟩

end Average

end Picket
