import Mathlib.Algebra.BigOperators.Ring.Finset
import Mathlib.Data.List.GetD
import Picket.Proof.TwoTiers

/-!
# Two tiers of system records

A record averaged in two tiers and the flat average have the same keys and the same list lengths,
which are joins, and every averaged field of one is close to that of the other. What the averages do
to a single field is in `AveragesFloat` and `AveragesCount`; the lists and the per-core usage, which
is rounded to whole percents, are added here.
-/

namespace Picket

open Averaging FiniteMap Rollup Rounding

/-! ### Lists -/

section Lists

variable {α : Type}

theorem getD_addExtending [AddMonoid α] (sums values : List α) (i : ℕ) :
    (addExtending sums values).getD i 0 = sums.getD i 0 + values.getD i 0 := by
  induction values generalizing sums i with
  | nil => simp [addExtending]
  | cons value values ih =>
      cases sums with
      | nil =>
          cases i with
          | zero => rfl
          | succ i => simpa [addExtending] using ih [] i
      | cons sum sums =>
          cases i with
          | zero => rfl
          | succ i => simpa [addExtending] using ih sums i

theorem length_addExtending [AddMonoid α] (sums values : List α) :
    (addExtending sums values).length = sums.length ⊔ values.length := by
  induction values generalizing sums with
  | nil => simp [addExtending]
  | cons value values ih =>
      cases sums with
      | nil => simp [addExtending, ih]
      | cons sum sums => simp [addExtending, ih, Nat.succ_max_succ]

theorem forall₂_of_getD {R : α → α → Prop} {d : α} {xs ys : List α}
    (hlength : xs.length = ys.length) (hrel : ∀ i, R (xs.getD i d) (ys.getD i d)) :
    List.Forall₂ R xs ys := by
  rw [List.forall₂_iff_get]
  refine ⟨hlength, fun i hx hy => ?_⟩
  have hat := hrel i
  rwa [List.getD_eq_getElem _ _ hx, List.getD_eq_getElem _ _ hy] at hat

end Lists

theorem cpuBreakdown_averages (i : ℕ) : AveragesFloat fun s => s.cpuBreakdown.getD i 0 := by
  apply averagesFloat_of (fun totals => totals.cpuBreakdownSums.getD i 0)
  · rfl
  · rfl
  · intro totals r
    exact getD_addExtending totals.cpuBreakdownSums r.cpuBreakdown i
  · intro count totals
    have hmap := List.getD_map (l := totals.cpuBreakdownSums) (n := i) (d := (0 : ℚ))
      fun s => twoDecimals (s / count)
    rw [twoDecimals_zero_div] at hmap
    exact hmap

/-! ### Usage of a core -/

def core (i : ℕ) (s : Stats) : Uint8 :=
  s.cpuCoresUsage.getD i 0

theorem val_core_lt (i : ℕ) (s : Stats) : (core i s).val < 2 ^ 64 :=
  (core i s).isLt.trans (by norm_num)

def averageCore (count : ℕ) (sum : Uint64) : Uint8 :=
  Fin.ofNat (2 ^ 8) (roundHalfAway ((sum.val : ℚ) / count)).toNat

theorem core_average (i : ℕ) (records : List Stats) :
    core i (averageSystemStatsSlice records)
      = averageCore records.length
          (records.map fun r => Fin.ofNat (2 ^ 64) (core i r).val).sum := by
  have hzero : ∀ count, averageCore count 0 = 0 := by
    intro count
    have hround : roundHalfAway (((0 : Uint64).val : ℚ) / count) = 0 := by
      rw [Fin.val_zero, Nat.cast_zero, zero_div]
      exact_mod_cast roundHalfAway_intCast 0
    rw [averageCore, hround]
    rfl
  apply reading_sum (fun totals => totals.cpuCoresSums.getD i 0) (φ := averageCore)
  · exact (hzero 0).symm
  · rfl
  · intro totals r
    have hload := List.getD_map (l := r.cpuCoresUsage) (n := i) (d := (0 : Uint8))
      fun v => Fin.ofNat (2 ^ 64) v.val
    have hadd := getD_addExtending totals.cpuCoresSums
      (r.cpuCoresUsage.map fun v => Fin.ofNat (2 ^ 64) v.val) i
    exact hadd.trans (congrArg (totals.cpuCoresSums.getD i 0 + ·) hload)
  · intro count totals
    have hmap := List.getD_map (l := totals.cpuCoresSums) (n := i) (d := (0 : Uint64))
      (averageCore count)
    rw [hzero] at hmap
    exact hmap

theorem mean_le {xs : List ℚ} {b : ℚ} (hb : 0 ≤ b) (hle : ∀ x ∈ xs, x ≤ b) : mean xs ≤ b := by
  have hsum : xs.sum ≤ xs.length * b := by
    rw [← nsmul_eq_mul]
    exact List.sum_le_card_nsmul xs b hle
  exact div_le_of_le_mul₀ (Nat.cast_nonneg _) hb (by linarith)

theorem core_average_eq {i : ℕ} {records : List Stats}
    (hfit : (records.map fun r => (core i r).val).sum < 2 ^ 64) :
    ((core i (averageSystemStatsSlice records)).val : ℚ)
      = roundTo 1 (mean (records.map fun r => ((core i r).val : ℚ))) := by
  have hload : (records.map fun r => Fin.ofNat (2 ^ 64) (core i r).val).map (·.val)
      = records.map fun r => (core i r).val := by
    rw [List.map_map]
    exact List.map_congr_left fun r _ => Nat.mod_eq_of_lt (val_core_lt i r)
  have hsum : ((records.map fun r => Fin.ofNat (2 ^ 64) (core i r).val).sum : Uint64).val
      = (records.map fun r => (core i r).val).sum := by
    rw [val_sum_of_lt (by rwa [hload]), hload]
  have hmean : (((records.map fun r => (core i r).val).sum : ℕ) : ℚ) / records.length
      = mean (records.map fun r => ((core i r).val : ℚ)) := by
    rw [mean, List.length_map, Nat.cast_list_sum, List.map_map]
    rfl
  -- a mean of percents below 256 fits the byte it is stored in
  have hnonneg : 0 ≤ mean (records.map fun r => ((core i r).val : ℚ)) := by
    rw [← hmean]
    positivity
  have hle : mean (records.map fun r => ((core i r).val : ℚ)) ≤ ((255 : ℤ) : ℚ) := by
    apply mean_le (by norm_num)
    intro x hx
    obtain ⟨r, -, rfl⟩ := List.mem_map.mp hx
    have hlt := (core i r).isLt
    exact_mod_cast Nat.le_of_lt_succ hlt
  have hround := roundHalfAway_mono hle
  rw [roundHalfAway_intCast] at hround
  have hround0 := roundHalfAway_nonneg hnonneg
  rw [core_average, averageCore, hsum, hmean, Fin.val_ofNat, Nat.mod_eq_of_lt (by omega), roundTo,
    Nat.cast_one, mul_one, div_one, ← Int.cast_natCast, Int.toNat_of_nonneg hround0]

theorem core_average_le {i : ℕ} {records : List Stats}
    (hfit : (records.map fun r => (core i r).val).sum < 2 ^ 64) :
    (core i (averageSystemStatsSlice records)).val ≤ (records.map fun r => (core i r).val).sum := by
  have hsum : (records.map fun r => ((core i r).val : ℚ)).sum
      = ((records.map fun r => (core i r).val).sum : ℕ) := by
    rw [Nat.cast_list_sum, List.map_map]
    rfl
  have hmean : mean (records.map fun r => ((core i r).val : ℚ))
      ≤ ((records.map fun r => (core i r).val).sum : ℕ) := by
    rw [mean, hsum, List.length_map]
    rcases Nat.eq_zero_or_pos records.length with hzero | hpos
    · rw [hzero, Nat.cast_zero, div_zero]
      exact Nat.cast_nonneg _
    · exact div_le_self (Nat.cast_nonneg _) (by exact_mod_cast hpos)
  have hround := roundTo_le Nat.one_pos hmean (onGrid_natCast Nat.one_pos _)
  rw [← core_average_eq hfit] at hround
  exact_mod_cast hround

/-! ### The two averages -/

/-- No total of the accumulation loop leaves the 64 bits it is kept in. -/
structure SumsExact (records : List Stats) : Prop where
  counts : ∀ f : CountField, (records.map fun r => (f.value r).val).sum < 2 ^ 64
  cores : ∀ i, (records.map fun r => (core i r).val).sum < 2 ^ 64
  interfaces : ∀ i key,
    (records.map fun r => (valueAt (interfaceRate i) r.networkInterfaces key).val).sum < 2 ^ 64
  filesystems : ∀ (f : FsCountField) key,
    (records.map fun r => (valueAt f.value r.extraFs key).val).sum < 2 ^ 64

def FloatClose (a b : ℚ) : Prop :=
  |a - b| ≤ 1 / 100

structure FsStats.Close (fs fs' : FsStats) : Prop where
  floats : ∀ f : FsFloatField, FloatClose (f.value fs) (f.value fs')
  counts : ∀ f : FsCountField, CountClose (f.value fs).val (f.value fs').val

structure GPUData.Close (gpu gpu' : GPUData) : Prop where
  floats : ∀ f : GpuField, FloatClose (f.value gpu) (f.value gpu')
  temperature : FloatClose gpu.temperature gpu'.temperature
  count : FloatClose gpu.count gpu'.count
  engines : ∀ engine,
    Option.Rel FloatClose (gpu.engines.lookup engine) (gpu'.engines.lookup engine)

/-- The same keys and lengths, and every averaged field close. -/
structure Stats.Close (s t : Stats) : Prop where
  floats : ∀ f : FloatField, FloatClose (f.value s) (f.value t)
  counts : ∀ f : CountField, CountClose (f.value s).val (f.value t).val
  cpuCoresUsage : List.Forall₂ (fun a b => CountClose a.val b.val) s.cpuCoresUsage t.cpuCoresUsage
  cpuBreakdown : List.Forall₂ FloatClose s.cpuBreakdown t.cpuBreakdown
  networkInterfaces : ∀ key, Option.Rel
    (fun value value' => ∀ i, CountClose (interfaceRate i value).val (interfaceRate i value').val)
    (s.networkInterfaces.lookup key) (t.networkInterfaces.lookup key)
  extraFs : ∀ key, Option.Rel FsStats.Close (s.extraFs.lookup key) (t.extraFs.lookup key)
  gpuData : ∀ id, Option.Rel GPUData.Close (s.gpuData.lookup id) (t.gpuData.lookup id)

/-- Every averaged field is the mean of what the records have, zero where they have nothing: rounded
to two decimals or, of integers, without the rest. -/
structure Stats.MeansOf (s : Stats) (records : List Stats) : Prop where
  floats : ∀ f : FloatField, f.value s = twoDecimals (mean (records.map f.value))
  counts : ∀ f : CountField, f.value s = divCount (records.map f.value).sum records.length
  cpuCoresUsage : ∀ i, core i s =
    averageCore records.length (records.map fun r => Fin.ofNat (2 ^ 64) (core i r).val).sum
  cpuBreakdown : ∀ i, s.cpuBreakdown.getD i 0 =
    twoDecimals (mean (records.map fun r => r.cpuBreakdown.getD i 0))
  networkInterfaces : ∀ i key, valueAt (interfaceRate i) s.networkInterfaces key =
    divCount (records.map fun r => valueAt (interfaceRate i) r.networkInterfaces key).sum
      records.length
  fsFloats : ∀ (f : FsFloatField) key, valueAt f.value s.extraFs key =
    twoDecimals (mean (records.map fun r => valueAt f.value r.extraFs key))
  fsCounts : ∀ (f : FsCountField) key, valueAt f.value s.extraFs key =
    divCount (records.map fun r => valueAt f.value r.extraFs key).sum records.length
  gpuData : ∀ (f : GpuField) id, valueAt f.value s.gpuData id =
    twoDecimals (mean (records.map fun r => valueAt f.value r.gpuData id))
  engines : ∀ engine id,
    valueAt (fun gpu => valueAt (fun v : ℚ => v) gpu.engines engine) s.gpuData id =
      twoDecimals (mean (records.map fun r =>
        valueAt (fun gpu => valueAt (fun v : ℚ => v) gpu.engines engine) r.gpuData id))

theorem meansOf_average (records : List Stats) :
    (averageSystemStatsSlice records).MeansOf records where
  floats f := f.averages records
  counts f := f.averages records
  cpuCoresUsage i := core_average i records
  cpuBreakdown i := cpuBreakdown_averages i records
  networkInterfaces i key := interface_averages i key records
  fsFloats f key := f.averages key records
  fsCounts f key := f.averages key records
  gpuData f id :=
    gpuData_averages id f.value_new f.value_accumulateGpu f.value_averageGpu records
  engines engine id := engine_averages engine id records

section Tiers

variable {n : ℕ} {groups : List (List Stats)} (hn : 0 < n)
  (hlength : ∀ group ∈ groups, group.length = n)
include hn hlength

theorem AveragesFloat.tiers {top : Stats → ℚ} (haverages : AveragesFloat top) :
    FloatClose (top (averageSystemStatsSlice (groups.map averageSystemStatsSlice)))
      (top (averageSystemStatsSlice groups.flatten)) :=
  float_tiers hn hlength (by norm_num) top (fun group _ => haverages group) (haverages _)
    (haverages _)

theorem AveragesCount.tiers {top : Stats → Uint64} (haverages : AveragesCount top)
    (hfit : (groups.flatten.map fun r => (top r).val).sum < 2 ^ 64) :
    CountClose (top (averageSystemStatsSlice (groups.map averageSystemStatsSlice))).val
      (top (averageSystemStatsSlice groups.flatten)).val := by
  have hvalues : ∀ values ∈ groups.map (List.map top), values.length = n := by
    intro values hmem
    obtain ⟨group, hin, rfl⟩ := List.mem_map.mp hmem
    rw [List.length_map, hlength group hin]
  have hsums : ((groups.map (List.map top)).flatten.map (·.val)).sum < 2 ^ 64 := by
    rw [← List.map_flatten, List.map_map]
    exact hfit
  have hmeans : (groups.map averageSystemStatsSlice).map top
      = (groups.map (List.map top)).map fun values => divCount values.sum values.length := by
    rw [List.map_map, List.map_map]
    refine List.map_congr_left fun group _ => ?_
    simp only [Function.comp_apply, List.length_map]
    exact haverages group
  have hclose := count_tiers hn hvalues hsums
  rw [← hmeans, ← List.map_flatten] at hclose
  rw [haverages, haverages, List.length_map]
  simpa only [List.length_map] using hclose

theorem core_tiers {i : ℕ} (hfit : (groups.flatten.map fun r => (core i r).val).sum < 2 ^ 64) :
    CountClose (core i (averageSystemStatsSlice (groups.map averageSystemStatsSlice))).val
      (core i (averageSystemStatsSlice groups.flatten)).val := by
  have hsums : (groups.flatten.map fun r => (core i r).val).sum
      = (groups.map fun group => (group.map fun r => (core i r).val).sum).sum := by
    rw [List.map_flatten, List.sum_flatten, List.map_map]
    rfl
  have hgroup : ∀ group ∈ groups, (group.map fun r => (core i r).val).sum < 2 ^ 64 := by
    intro group hmem
    refine lt_of_le_of_lt ?_ hfit
    rw [hsums]
    exact List.single_le_sum (fun _ _ => Nat.zero_le _) _ (List.mem_map_of_mem hmem)
  have htiered : ((groups.map averageSystemStatsSlice).map fun r => (core i r).val).sum
      < 2 ^ 64 := by
    refine lt_of_le_of_lt ?_ hfit
    rw [hsums, List.map_map]
    exact List.sum_le_sum fun group hmem => core_average_le (hgroup group hmem)
  have hclose := float_tiers hn hlength Nat.one_pos (fun s => ((core i s).val : ℚ))
    (fun group hmem => core_average_eq (hgroup group hmem)) (core_average_eq htiered)
    (core_average_eq hfit)
  rw [Nat.cast_one, div_one, abs_le] at hclose
  constructor
  · exact_mod_cast (by linarith [hclose.2] : ((core i _).val : ℚ) ≤ (core i _).val + 1)
  · exact_mod_cast (by linarith [hclose.1] : ((core i _).val : ℚ) ≤ (core i _).val + 1)

end Tiers

/-! ### Keys and lengths -/

section Shape

variable {groups : List (List Stats)}

theorem keys_tiers {V : Type} (m : Stats → GoMap V) (f : Option V → V → V) (g : ℕ → V → V)
    (hempty : m {} = ∅)
    (hadd : ∀ totals r,
      m (accumulate totals r).sum = FiniteMap.accumulate f (m totals.sum) (m r))
    (haverage : ∀ count totals,
      m (computeAverages count totals) = mapVal (g count) (m totals.sum)) :
    (m (averageSystemStatsSlice (groups.map averageSystemStatsSlice))).keys
      = (m (averageSystemStatsSlice groups.flatten)).keys := by
  apply join_tiers fun s => (m s).keys
  intro records
  apply reading_join ∅ (fun totals => (m totals.sum).keys) fun s => (m s).keys
  · rw [hempty, Finmap.keys_empty]
  · exact (congrArg Finmap.keys hempty).trans Finmap.keys_empty
  · intro totals r
    rw [hadd, keys_accumulate]
    rfl
  · intro count totals
    rw [haverage, keys_mapVal]

theorem networkInterfaces_keys_tiers :
    (averageSystemStatsSlice (groups.map averageSystemStatsSlice)).networkInterfaces.keys
      = (averageSystemStatsSlice groups.flatten).networkInterfaces.keys :=
  keys_tiers Stats.networkInterfaces
    (fun entry value => accumulateInterface (entry.getD 0) value) averageInterface rfl
    (fun _ _ => rfl) fun _ _ => rfl

theorem extraFs_keys_tiers :
    (averageSystemStatsSlice (groups.map averageSystemStatsSlice)).extraFs.keys
      = (averageSystemStatsSlice groups.flatten).extraFs.keys :=
  keys_tiers Stats.extraFs (fun entry value => accumulateFs (entry.getD {}) value) averageFs rfl
    (fun _ _ => rfl) fun _ _ => rfl

theorem gpuData_keys_tiers :
    (averageSystemStatsSlice (groups.map averageSystemStatsSlice)).gpuData.keys
      = (averageSystemStatsSlice groups.flatten).gpuData.keys :=
  keys_tiers Stats.gpuData
    (fun entry value => accumulateGpu (entry.getD { name := value.name }) value) averageGpu rfl
    (fun _ _ => rfl) fun _ _ => rfl

def engineKeys (gpu : GPUData) : Finset String :=
  gpu.engines.keys

theorem engineKeys_accumulateGpu (gpu value : GPUData) :
    engineKeys (accumulateGpu gpu value) = engineKeys gpu ⊔ engineKeys value :=
  keys_accumulate (fun engine v => engine.getD 0 + v) gpu.engines value.engines

theorem engineKeys_averageGpu (count : ℕ) (gpu : GPUData) :
    engineKeys (averageGpu count gpu) = engineKeys gpu :=
  keys_mapVal (fun engine => twoDecimals (engine / count)) gpu.engines

theorem engineKeys_tiers (groups : List (List Stats)) (id : String) :
    readAt engineKeys (averageSystemStatsSlice (groups.map averageSystemStatsSlice)).gpuData id
      = readAt engineKeys (averageSystemStatsSlice groups.flatten).gpuData id := by
  apply join_tiers fun s => readAt engineKeys s.gpuData id
  intro records
  apply reading_join ⊥ (fun totals => readAt engineKeys totals.sum.gpuData id)
    fun s => readAt engineKeys s.gpuData id
  · exact readAt_empty engineKeys id
  · exact readAt_empty engineKeys id
  · intro totals r
    exact readAt_accumulate accumulateGpu (fun w => { name := w.name }) engineKeys_accumulateGpu
      fun w _ => Finset.empty_subset (engineKeys w)
  · intro count totals
    refine (readAt_mapVal engineKeys (averageGpu count) totals.sum.gpuData id).trans ?_
    rw [funext (engineKeys_averageGpu count)]

theorem cpuBreakdown_length_tiers :
    (averageSystemStatsSlice (groups.map averageSystemStatsSlice)).cpuBreakdown.length
      = (averageSystemStatsSlice groups.flatten).cpuBreakdown.length := by
  apply join_tiers fun s => s.cpuBreakdown.length
  intro records
  apply reading_join 0 (fun totals => totals.cpuBreakdownSums.length)
    fun s => s.cpuBreakdown.length
  · rfl
  · rfl
  · intro totals r
    exact length_addExtending totals.cpuBreakdownSums r.cpuBreakdown
  · intro count totals
    exact List.length_map _

theorem cpuCoresUsage_length_tiers :
    (averageSystemStatsSlice (groups.map averageSystemStatsSlice)).cpuCoresUsage.length
      = (averageSystemStatsSlice groups.flatten).cpuCoresUsage.length := by
  apply join_tiers fun s => s.cpuCoresUsage.length
  intro records
  apply reading_join 0 (fun totals => totals.cpuCoresSums.length)
    fun s => s.cpuCoresUsage.length
  · rfl
  · rfl
  · intro totals r
    have hlength := length_addExtending totals.cpuCoresSums
      (r.cpuCoresUsage.map fun v => Fin.ofNat (2 ^ 64) v.val)
    rwa [List.length_map] at hlength
  · intro count totals
    exact List.length_map _

end Shape

/-! ### All of it -/

section Close

variable {n : ℕ} {groups : List (List Stats)} (hn : 0 < n)
  (hlength : ∀ group ∈ groups, group.length = n)

include hn hlength in
theorem gpu_close {id : String} {gpu gpu' : GPUData}
    (hgpu : (averageSystemStatsSlice (groups.map averageSystemStatsSlice)).gpuData.lookup id
      = some gpu)
    (hgpu' : (averageSystemStatsSlice groups.flatten).gpuData.lookup id = some gpu') :
    GPUData.Close gpu gpu' := by
  have hfloat : ∀ {value : GPUData → ℚ}, (AveragesFloat fun s => valueAt value s.gpuData id) →
      FloatClose (value gpu) (value gpu') := by
    intro value haverages
    have hclose := haverages.tiers hn hlength
    rwa [valueAt_of_lookup hgpu, valueAt_of_lookup hgpu'] at hclose
  constructor
  case floats =>
    intro f
    exact hfloat (gpuData_averages id f.value_new f.value_accumulateGpu f.value_averageGpu)
  case temperature =>
    exact hfloat (gpuData_averages id (fun _ => rfl) (fun _ _ => rfl) fun _ _ => rfl)
  case count =>
    exact hfloat (gpuData_averages id (fun _ => rfl) (fun _ _ => rfl) fun _ _ => rfl)
  case engines =>
    intro engine
    have hkeys := engineKeys_tiers groups id
    rw [readAt_of_lookup hgpu, readAt_of_lookup hgpu'] at hkeys
    apply rel_lookup (WithBot.coe_injective hkeys)
    intro v v' hv hv'
    have hclose := hfloat (engine_averages engine id)
    rwa [valueAt_of_lookup hv, valueAt_of_lookup hv'] at hclose

variable (hfit : SumsExact groups.flatten)
include hn hlength hfit

/-- **The average of averages of system records stays close to the flat one.** -/
theorem record_tiers_close :
    Stats.Close (averageSystemStatsSlice (groups.map averageSystemStatsSlice))
      (averageSystemStatsSlice groups.flatten) := by
  constructor
  case floats =>
    intro f
    exact f.averages.tiers hn hlength
  case counts =>
    intro f
    exact f.averages.tiers hn hlength (hfit.counts f)
  case cpuCoresUsage =>
    apply forall₂_of_getD cpuCoresUsage_length_tiers
    intro i
    exact core_tiers hn hlength (hfit.cores i)
  case cpuBreakdown =>
    apply forall₂_of_getD cpuBreakdown_length_tiers
    intro i
    exact (cpuBreakdown_averages i).tiers hn hlength
  case networkInterfaces =>
    intro key
    apply rel_lookup networkInterfaces_keys_tiers
    intro value value' hvalue hvalue' i
    have hclose := (interface_averages i key).tiers hn hlength (hfit.interfaces i key)
    rwa [valueAt_of_lookup hvalue, valueAt_of_lookup hvalue'] at hclose
  case extraFs =>
    intro key
    apply rel_lookup extraFs_keys_tiers
    intro fs fs' hfs hfs'
    constructor
    · intro f
      have hclose := (f.averages key).tiers hn hlength
      rwa [valueAt_of_lookup hfs, valueAt_of_lookup hfs'] at hclose
    · intro f
      have hclose := (f.averages key).tiers hn hlength (hfit.filesystems f key)
      rwa [valueAt_of_lookup hfs, valueAt_of_lookup hfs'] at hclose
  case gpuData =>
    intro id
    apply rel_lookup gpuData_keys_tiers
    intro gpu gpu' hgpu hgpu'
    exact gpu_close hn hlength hgpu hgpu'

end Close

end Picket
