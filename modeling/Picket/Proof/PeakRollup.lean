import Picket.Lib.Rollup
import Picket.Proof.PeakBound

/-!
# Peaks survive any number of roll-ups

Records are averaged in tiers: ten one-minute records into one of ten minutes, two of those into one
of twenty, and so on. A peak is the maximum of the raw values and of the peaks carried so far, and
the averaged value never exceeds it, so feeding averages back in as records changes no peak. The
general argument is `Rollup.Tiers.peak_eq`; what is left is that every peak field meets its
conditions.
-/

namespace Picket

open Rounding Rollup FiniteMap

@[ext]
structure FsPeaks where
  maxDiskReadPS : ℚ
  maxDiskWritePS : ℚ
  maxDiskReadBytes : Uint64
  maxDiskWriteBytes : Uint64
  maxDiskIoStats : Fin 6 → ℚ

def FsStats.peaks (fs : FsStats) : FsPeaks where
  maxDiskReadPS := fs.maxDiskReadPS
  maxDiskWritePS := fs.maxDiskWritePS
  maxDiskReadBytes := fs.maxDiskReadBytes
  maxDiskWriteBytes := fs.maxDiskWriteBytes
  maxDiskIoStats := fs.maxDiskIoStats

def interfacePeaks (value : Fin 4 → Uint64) : Uint64 × Uint64 :=
  (value 2, value 3)

/-- Every peak field of a record. -/
@[ext]
structure Peaks where
  maxCpu : ℚ
  maxMem : ℚ
  maxDiskReadPs : ℚ
  maxDiskWritePs : ℚ
  maxNetworkSent : ℚ
  maxNetworkRecv : ℚ
  maxBandwidth : Fin 2 → Uint64
  maxDiskIo : Fin 2 → Uint64
  maxDiskIoStats : Fin 6 → ℚ
  networkInterfaces : GoMap (Uint64 × Uint64)
  extraFs : GoMap FsPeaks

def Stats.peaks (s : Stats) : Peaks where
  maxCpu := s.maxCpu
  maxMem := s.maxMem
  maxDiskReadPs := s.maxDiskReadPs
  maxDiskWritePs := s.maxDiskWritePs
  maxNetworkSent := s.maxNetworkSent
  maxNetworkRecv := s.maxNetworkRecv
  maxBandwidth := s.maxBandwidth
  maxDiskIo := s.maxDiskIo
  maxDiskIoStats := s.maxDiskIoStats
  networkInterfaces := mapVal interfacePeaks s.networkInterfaces
  extraFs := mapVal FsStats.peaks s.extraFs

/-! ### What an average's peaks join -/

section Join

variable {P : Type} [SemilatticeSup P] {records : List Stats}

/-- A reading that starts at `base`, that every record joins to and that the division leaves alone
is, for the average, the join over the records. -/
theorem reading_average {base : P} (top : Stats → P) {load : Stats → P} (hempty : top {} = base)
    (hstep : ∀ totals r, r ∈ records → top (accumulate totals r).sum = top totals.sum ⊔ load r)
    (haverage : ∀ count totals, top (computeAverages count totals) = top totals.sum) :
    top (averageSystemStatsSlice records) = joinFrom base load records := by
  by_cases hnil : records = []
  · rw [hnil, averageSystemStatsSlice_nil, hempty, joinFrom_nil]
  · have hfold := foldl_eq_joinFrom (fun totals : Totals => top totals.sum) hstep {}
    rw [averageSystemStatsSlice_of_ne_nil hnil, haverage, hfold]
    exact congrArg (joinFrom · load records) hempty

end Join

theorem FloatGauge.peak_average (g : FloatGauge) (records : List Stats) :
    g.peak (averageSystemStatsSlice records)
      = joinFrom 0 (fun r => g.peak r ⊔ g.field.value r) records :=
  reading_average g.peak g.peak_empty
    (fun totals r _ => (g.peak_accumulate totals r).trans (sup_assoc _ _ _)) g.peak_computeAverages

theorem CountField.peak_average (g : CountField) (records : List Stats) :
    g.peak (averageSystemStatsSlice records)
      = joinFrom 0 (fun r => g.peak r ⊔ g.value r) records :=
  reading_average g.peak g.peak_empty
    (fun totals r _ => (g.peak_accumulate totals r).trans (sup_assoc _ _ _)) g.peak_computeAverages

theorem fsPeak_average {P : Type} [LinearOrder P] {peak value : FsStats → P} {records : List Stats}
    (key : String) (hread : ∀ r ∈ records, Readings r)
    (hadd : ∀ fs v, peak (accumulateFs fs v) = max (max (peak fs) (peak v)) (value v))
    (haverage : ∀ count fs, peak (averageFs count fs) = peak fs)
    (hempty : ∀ fs, FsReadings fs → peak {} ≤ peak fs) :
    readAt peak (averageSystemStatsSlice records).extraFs key
      = joinFrom ⊥ (fun r => readAt peak r.extraFs key ⊔ readAt value r.extraFs key) records := by
  refine reading_average (fun s => readAt peak s.extraFs key) (readAt_empty peak key) ?_ ?_
  · intro totals r hr
    rw [← readAt_sup]
    refine readAt_accumulate accumulateFs (fun _ => {}) (fun fs v => ?_) fun v hv => ?_
    · exact (hadd fs v).trans (sup_assoc _ _ _)
    · exact (hempty v ((hread r hr).extraFs key v hv)).trans le_sup_left
  · intro count totals
    have hpeak : (fun fs => peak (averageFs count fs)) = peak := funext (haverage count)
    exact (readAt_mapVal peak (averageFs count) totals.sum.extraFs key).trans
      (congrArg (readAt · totals.sum.extraFs key) hpeak)

theorem FsFloatGauge.peak_average (g : FsFloatGauge) (key : String) {records : List Stats}
    (hread : ∀ r ∈ records, Readings r) :
    readAt g.peak (averageSystemStatsSlice records).extraFs key =
      joinFrom ⊥ (fun r => readAt g.peak r.extraFs key ⊔ readAt g.field.value r.extraFs key)
        records := by
  refine fsPeak_average key hread g.peak_accumulateFs g.peak_averageFs fun fs hfs => ?_
  rw [g.peak_empty]
  exact (hfs g).peak_nonneg

theorem FsCountField.peak_average (g : FsCountField) (key : String) {records : List Stats}
    (hread : ∀ r ∈ records, Readings r) :
    readAt g.peak (averageSystemStatsSlice records).extraFs key =
      joinFrom ⊥ (fun r => readAt g.peak r.extraFs key ⊔ readAt g.value r.extraFs key)
        records := by
  refine fsPeak_average key hread g.peak_accumulateFs g.peak_averageFs fun fs _ => ?_
  rw [g.peak_empty]
  exact Fin.zero_le _

theorem interfacePeak_average (key : String) (records : List Stats) :
    readAt interfacePeaks (averageSystemStatsSlice records).networkInterfaces key
      = joinFrom ⊥ (fun r => readAt interfacePeaks r.networkInterfaces key
          ⊔ readAt interfacePeaks r.networkInterfaces key) records := by
  refine reading_average (fun s => readAt interfacePeaks s.networkInterfaces key)
    (readAt_empty interfacePeaks key) ?_ ?_
  · intro totals r _
    rw [sup_idem]
    exact readAt_accumulate accumulateInterface (fun _ => 0) (fun _ _ => rfl)
      fun v _ => ⟨Fin.zero_le (v 2), Fin.zero_le (v 3)⟩
  · intro count totals
    exact readAt_mapVal interfacePeaks (averageInterface count) totals.sum.networkInterfaces key

/-- Every peak is the largest of the values and the peaks of the records. -/
structure Stats.PeaksOf (s : Stats) (records : List Stats) : Prop where
  floats : ∀ g : FloatGauge,
    g.peak s = joinFrom 0 (fun r => g.peak r ⊔ g.field.value r) records
  counts : ∀ g : CountField, g.peak s = joinFrom 0 (fun r => g.peak r ⊔ g.value r) records
  interfaces : ∀ key, readAt interfacePeaks s.networkInterfaces key =
    joinFrom ⊥ (fun r => readAt interfacePeaks r.networkInterfaces key) records
  fsFloats : ∀ (g : FsFloatGauge) key, readAt g.peak s.extraFs key =
    joinFrom ⊥ (fun r => readAt g.peak r.extraFs key ⊔ readAt g.field.value r.extraFs key) records
  fsCounts : ∀ (g : FsCountField) key, readAt g.peak s.extraFs key =
    joinFrom ⊥ (fun r => readAt g.peak r.extraFs key ⊔ readAt g.value r.extraFs key) records

theorem peaksOf_average {records : List Stats} (hread : ∀ r ∈ records, Readings r) :
    (averageSystemStatsSlice records).PeaksOf records where
  floats g := g.peak_average records
  counts g := g.peak_average records
  interfaces key := by simpa only [sup_idem] using interfacePeak_average key records
  fsFloats g key := g.peak_average key hread
  fsCounts g key := g.peak_average key hread

/-! ### Tier by tier -/

section Tiers

variable {xs ys : List Stats} (htiers : Tiers averageSystemStatsSlice xs ys)
  (hread : ∀ r ∈ xs, Readings r)
include htiers hread

theorem FloatGauge.peak_tiers (g : FloatGauge) :
    g.peak (averageSystemStatsSlice ys) = g.peak (averageSystemStatsSlice xs) :=
  htiers.peak_eq g.field.value g.peak (fun _ => readings_average)
    (fun group _ => g.peak_average group) (fun _ hgroup => (g.average hgroup).2) hread

theorem CountField.peak_tiers (g : CountField) :
    g.peak (averageSystemStatsSlice ys) = g.peak (averageSystemStatsSlice xs) :=
  htiers.peak_eq g.value g.peak (fun _ => readings_average) (fun group _ => g.peak_average group)
    (fun _ hgroup => g.average_le hgroup) hread

theorem FsFloatGauge.peak_tiers (g : FsFloatGauge) (key : String) :
    readAt g.peak (averageSystemStatsSlice ys).extraFs key
      = readAt g.peak (averageSystemStatsSlice xs).extraFs key :=
  htiers.peak_eq (fun s => readAt g.field.value s.extraFs key)
    (fun s => readAt g.peak s.extraFs key) (fun _ => readings_average)
    (fun _ hgroup => g.peak_average key hgroup)
    (fun _ hgroup => readAt_mono fun _ hfs => (g.average hgroup hfs).2) hread

theorem FsCountField.peak_tiers (g : FsCountField) (key : String) :
    readAt g.peak (averageSystemStatsSlice ys).extraFs key
      = readAt g.peak (averageSystemStatsSlice xs).extraFs key :=
  htiers.peak_eq (fun s => readAt g.value s.extraFs key)
    (fun s => readAt g.peak s.extraFs key) (fun _ => readings_average)
    (fun _ hgroup => g.peak_average key hgroup)
    (fun _ hgroup => readAt_mono fun _ hfs => g.average_le hgroup hfs) hread

theorem interfacePeak_tiers (key : String) :
    readAt interfacePeaks (averageSystemStatsSlice ys).networkInterfaces key
      = readAt interfacePeaks (averageSystemStatsSlice xs).networkInterfaces key :=
  htiers.peak_eq (fun s => readAt interfacePeaks s.networkInterfaces key)
    (fun s => readAt interfacePeaks s.networkInterfaces key) (fun _ => readings_average)
    (fun group _ => interfacePeak_average key group) (fun _ _ => le_rfl) hread

end Tiers

/-- Two filesystem maps with the same reading of every gauge under a key have the same peaks
there. -/
theorem lookup_fsPeaks_eq {m m' : GoMap FsStats} {key : String}
    (hfloats : ∀ g : FsFloatGauge, readAt g.peak m key = readAt g.peak m' key)
    (hcounts : ∀ g : FsCountField, readAt g.peak m key = readAt g.peak m' key) :
    (m.lookup key).map FsStats.peaks = (m'.lookup key).map FsStats.peaks := by
  unfold readAt at hfloats hcounts
  cases hm : m.lookup key with
  | none =>
      cases hm' : m'.lookup key with
      | none => rfl
      | some fs' => simpa [hm, hm'] using hfloats .diskReadPs
  | some fs =>
      cases hm' : m'.lookup key with
      | none => simpa [hm, hm'] using hfloats .diskReadPs
      | some fs' =>
          simp only [hm, hm', Option.elim_some, WithBot.coe_inj] at hfloats hcounts
          refine congrArg some (FsPeaks.ext (hfloats .diskReadPs) (hfloats .diskWritePs)
            (hcounts .diskReadBytes) (hcounts .diskWriteBytes) (funext fun i => ?_))
          exact hfloats (.diskIoStats i)

theorem lookup_interfacePeaks_eq {m m' : GoMap (Fin 4 → Uint64)} {key : String}
    (hread : readAt interfacePeaks m key = readAt interfacePeaks m' key) :
    (m.lookup key).map interfacePeaks = (m'.lookup key).map interfacePeaks := by
  unfold readAt at hread
  cases hm : m.lookup key <;> cases hm' : m'.lookup key <;> simp_all [WithBot.coe_inj]

/-- **Peaks survive any number of roll-ups.** However the records are grouped, and for however many
tiers, the last average has the peaks of the flat one, the largest of all values; and in that
average, as in every group average of every tier, each averaged field is at most its own peak. -/
theorem peaks_tiers {xs ys : List Stats} (hread : ∀ r ∈ xs, Readings r)
    (htiers : Tiers averageSystemStatsSlice xs ys) :
    (averageSystemStatsSlice ys).peaks = (averageSystemStatsSlice xs).peaks ∧
      (averageSystemStatsSlice xs).PeaksOf xs ∧ BelowPeaks (averageSystemStatsSlice ys) ∧
      ∀ zs, Tier averageSystemStatsSlice ys zs → ∀ z ∈ zs, BelowPeaks z := by
  have hys : ∀ y ∈ ys, Readings y := htiers.forall_valid (fun _ => readings_average) hread
  refine ⟨?_, peaksOf_average hread, belowPeaks_average hys, ?_⟩
  · have hfloat := fun g : FloatGauge => g.peak_tiers htiers hread
    have hcount := fun g : CountField => g.peak_tiers htiers hread
    refine Peaks.ext (hfloat .cpu) (hfloat .mem) (hfloat .diskReadPs) (hfloat .diskWritePs)
      (hfloat .networkSent) (hfloat .networkRecv) (funext fun i => hcount (.bandwidth i))
      (funext fun i => hcount (.diskIo i)) (funext fun i => hfloat (.diskIoStats i)) ?_ ?_
    · refine Finmap.ext_lookup fun key => ?_
      simp only [Stats.peaks, lookup_mapVal]
      exact lookup_interfacePeaks_eq (interfacePeak_tiers htiers hread key)
    · refine Finmap.ext_lookup fun key => ?_
      simp only [Stats.peaks, lookup_mapVal]
      exact lookup_fsPeaks_eq (fun g => g.peak_tiers htiers hread key)
        fun g => g.peak_tiers htiers hread key
  · rintro zs ⟨groups, -, rfl, rfl⟩ z hz
    obtain ⟨group, hgroup, rfl⟩ := List.mem_map.mp hz
    exact belowPeaks_average fun r hr => hys r (List.mem_flatten.mpr ⟨group, hgroup, hr⟩)

theorem reading_natCast (value peak : ℕ) : Reading value peak where
  value_nonneg := Nat.cast_nonneg value
  value_onGrid := onGrid_natCast (by norm_num) value
  peak_nonneg := Nat.cast_nonneg peak
  peak_onGrid := onGrid_natCast (by norm_num) peak

def spikeRecord : Stats where
  cpu := 95
  bandwidth := ![5, 7]
  networkInterfaces := Finmap.singleton "eth0" ![1, 2, 300, 400]
  extraFs := Finmap.singleton "data" { diskReadPs := 12, maxDiskWritePS := 3 }

theorem readings_spikeRecord : Readings spikeRecord where
  floats g := by
    cases g
    case cpu => exact reading_natCast 95 0
    all_goals exact reading_natCast 0 0
  extraFs key fs hfs g := by
    have hkey : key = "data" := by
      have hmem : key ∈ spikeRecord.extraFs := Finmap.mem_of_lookup_eq_some hfs
      simpa [spikeRecord] using hmem
    subst hkey
    obtain rfl := Option.some.inj (Finmap.lookup_singleton_eq.symm.trans hfs)
    cases g
    case diskReadPs => exact reading_natCast 12 0
    case diskWritePs => exact reading_natCast 0 3
    case diskIoStats i => exact reading_natCast 0 0

theorem peaks_tiers_spikeRecord :
    let hours := [averageSystemStatsSlice [spikeRecord, {}], averageSystemStatsSlice [spikeRecord]]
    (averageSystemStatsSlice hours).peaks
        = (averageSystemStatsSlice [spikeRecord, {}, spikeRecord]).peaks ∧
      (averageSystemStatsSlice [spikeRecord, {}, spikeRecord]).PeaksOf
        [spikeRecord, {}, spikeRecord] ∧
      BelowPeaks (averageSystemStatsSlice hours) ∧
      ∀ zs, Tier averageSystemStatsSlice hours zs → ∀ z ∈ zs, BelowPeaks z := by
  have hread : ∀ r ∈ [spikeRecord, {}, spikeRecord], Readings r := by
    simp only [List.mem_cons, List.not_mem_nil, or_false]
    rintro r (rfl | rfl | rfl)
    · exact readings_spikeRecord
    · exact @readings_average [] (by simp)
    · exact readings_spikeRecord
  have htier : Tier averageSystemStatsSlice [spikeRecord, {}, spikeRecord]
      [averageSystemStatsSlice [spikeRecord, {}], averageSystemStatsSlice [spikeRecord]] :=
    ⟨[[spikeRecord, {}], [spikeRecord]], by simp, rfl, rfl⟩
  exact peaks_tiers hread (Relation.ReflTransGen.single htier)

end Picket
