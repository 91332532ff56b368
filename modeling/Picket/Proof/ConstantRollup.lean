import Mathlib.Algebra.Group.Fin.Basic
import Picket.Proof.Fields

/-!
# A constant history

The average of `n` copies of one record, compared with the record in the fields that are stored as
JSON, peaks aside. The loop run on copies is an iteration of its body, so each summed field is `n`
times the record's own, and dividing by `n` and rounding gives the field back. One stored field is
neither summed nor divided: the package power of a GPU.
-/

namespace Picket

open Rounding

/-! ### What is stored -/

/-- A GPU as it is stored: the temperature and the count are not. -/
def GPUData.persisted (gpu : GPUData) : GPUData :=
  { gpu with temperature := 0, count := 0 }

/-- A filesystem as it is stored, without its peak fields. -/
def FsStats.persisted (fs : FsStats) : FsStats :=
  { fs with
    maxDiskReadPS := 0
    maxDiskWritePS := 0
    maxDiskReadBytes := 0
    maxDiskWriteBytes := 0
    maxDiskIoStats := 0 }

/-- A record as it is stored, without its peak fields. -/
def Stats.persisted (s : Stats) : Stats :=
  { s with
    maxCpu := 0
    maxMem := 0
    maxDiskReadPs := 0
    maxDiskWritePs := 0
    maxNetworkSent := 0
    maxNetworkRecv := 0
    maxBandwidth := 0
    maxDiskIo := 0
    maxDiskIoStats := 0
    extraFs := FiniteMap.mapVal FsStats.persisted s.extraFs
    gpuData := FiniteMap.mapVal GPUData.persisted s.gpuData }

/-- Every averaged float of the record is a multiple of `0.01`. -/
structure OnCents (r : Stats) : Prop where
  floats : ∀ f : FloatField, OnGrid 100 (f.value r)
  cpuBreakdown : ∀ v ∈ r.cpuBreakdown, OnGrid 100 v
  extraFs : ∀ key fs, r.extraFs.lookup key = some fs → ∀ f : FsFloatField, OnGrid 100 (f.value fs)
  gpuData : ∀ id gpu, r.gpuData.lookup id = some gpu → ∀ f : GpuField, OnGrid 100 (f.value gpu)
  engines : ∀ id gpu, r.gpuData.lookup id = some gpu →
    ∀ engine v, gpu.engines.lookup engine = some v → OnGrid 100 v

/-- The integer sums over `n` copies are exact. -/
structure SumsFit (n : ℕ) (r : Stats) : Prop where
  counts : ∀ f : CountField, n * (f.value r).val < 2 ^ 64
  cpuCoresUsage : ∀ v ∈ r.cpuCoresUsage, n * v.val < 2 ^ 64
  networkInterfaces : ∀ key value, r.networkInterfaces.lookup key = some value →
    n * (value 0).val < 2 ^ 64 ∧ n * (value 1).val < 2 ^ 64
  extraFs : ∀ key fs, r.extraFs.lookup key = some fs →
    ∀ f : FsCountField, n * (f.value fs).val < 2 ^ 64

/-! ### Dividing what was summed -/

/-- A reading that is zero at first and that every step raises by `load` is `n • load` after `n`
steps. -/
theorem iterate_add {σ M : Type*} [AddMonoid M] (top : σ → M) (step : σ → σ) {load : M}
    (hstep : ∀ s, top (step s) = top s + load) (n : ℕ) {s : σ} (hzero : top s = 0) :
    top (step^[n] s) = n • load := by
  induction n with
  | zero => rw [Function.iterate_zero_apply, hzero, zero_nsmul]
  | succ n ih => rw [Function.iterate_succ_apply', hstep, ih, succ_nsmul]

theorem iterate_max {σ P : Type*} [LinearOrder P] (top : σ → P) (step : σ → σ) {load : P}
    (hstep : ∀ s, top (step s) = max (top s) load) (n : ℕ) (s : σ) :
    top (step^[n + 1] s) = max (top s) load := by
  induction n with
  | zero => exact hstep s
  | succ n ih => rw [Function.iterate_succ_apply', hstep, ih, max_assoc, max_self]

theorem val_nsmul (n : ℕ) (v : Uint64) : (n • v).val = n * v.val % 2 ^ 64 := by
  induction n with
  | zero => simp
  | succ n ih => rw [succ_nsmul, Fin.val_add, ih, Nat.mod_add_mod, Nat.succ_mul]

section Divide

variable {n : ℕ} (hn : 0 < n)
include hn

theorem mean_nsmul (v : ℚ) : n • v / n = v := by
  have hne : (n : ℚ) ≠ 0 := by positivity
  rw [nsmul_eq_mul, mul_div_cancel_left₀ v hne]

theorem twoDecimals_nsmul {v : ℚ} (hv : OnGrid 100 v) : twoDecimals (n • v / n) = v := by
  rw [mean_nsmul hn]
  exact roundTo_of_onGrid (by norm_num) hv

theorem divCount_nsmul {v : Uint64} (hfit : n * v.val < 2 ^ 64) : divCount (n • v) n = v := by
  rw [divCount, val_nsmul, Nat.mod_eq_of_lt hfit, Nat.mul_div_cancel_left v.val hn]
  exact Fin.ofNat_val_eq_self v

end Divide

/-! ### The loop on copies -/

/-- The totals of `n` copies. -/
def copies (n : ℕ) (r : Stats) : Totals :=
  (fun totals => accumulate totals r)^[n] {}

theorem foldl_replicate (n : ℕ) (r : Stats) (totals : Totals) :
    (List.replicate n r).foldl accumulate totals
      = (fun totals => accumulate totals r)^[n] totals := by
  induction n generalizing totals with
  | zero => rfl
  | succ n ih => rw [List.replicate_succ, List.foldl_cons, ih, Function.iterate_succ_apply]

theorem average_replicate {n : ℕ} (hn : 0 < n) (r : Stats) :
    averageSystemStatsSlice (List.replicate n r) = computeAverages n (copies n r) := by
  have hne : List.replicate n r ≠ [] := by simpa using hn.ne'
  rw [averageSystemStatsSlice_of_ne_nil hne, foldl_replicate, List.length_replicate, copies]

theorem FloatField.value_copies (f : FloatField) (n : ℕ) (r : Stats) :
    f.value (copies n r).sum = n • f.value r :=
  iterate_add (fun totals : Totals => f.value totals.sum) _
    (fun totals => f.value_accumulate totals r) n f.value_empty

theorem CountField.value_copies (f : CountField) (n : ℕ) (r : Stats) :
    f.value (copies n r).sum = n • f.value r :=
  iterate_add (fun totals : Totals => f.value totals.sum) _
    (fun totals => f.value_accumulate totals r) n f.value_empty

theorem addExtending_map_self {α : Type} [Zero α] [Add α] (f : α → α) (xs : List α) :
    addExtending (xs.map f) xs = xs.map fun v => f v + v := by
  induction xs with
  | nil => rfl
  | cons x xs ih => rw [List.map_cons, addExtending, ih, List.map_cons]

theorem addExtending_nil_left {α : Type} [Zero α] [Add α] (xs : List α) :
    addExtending [] xs = xs.map fun v => 0 + v := by
  induction xs with
  | nil => rfl
  | cons x xs ih => rw [addExtending, ih, List.map_cons]

theorem iterate_addExtending {α : Type} [AddMonoid α] (n : ℕ) (xs : List α) :
    (fun sums => addExtending sums xs)^[n + 1] [] = xs.map fun v => (n + 1) • v := by
  induction n with
  | zero =>
      have hone : (fun v : α => (0 + 1) • v) = id := funext fun v => one_nsmul v
      rw [hone, List.map_id]
      exact (addExtending_nil_left xs).trans (by simp)
  | succ n ih =>
      rw [Function.iterate_succ_apply', ih, addExtending_map_self]
      exact List.map_congr_left fun v _ => (succ_nsmul v (n + 1)).symm

section Copies

variable (n : ℕ) (r : Stats)

theorem cpuBreakdownSums_copies :
    (copies (n + 1) r).cpuBreakdownSums = r.cpuBreakdown.map fun v => (n + 1) • v := by
  have hsemi : Function.Semiconj Totals.cpuBreakdownSums (fun totals => accumulate totals r)
      fun sums => addExtending sums r.cpuBreakdown := fun _ => rfl
  exact (hsemi.iterate_right (n + 1) {}).trans (iterate_addExtending n r.cpuBreakdown)

theorem cpuCoresSums_copies :
    (copies (n + 1) r).cpuCoresSums
      = r.cpuCoresUsage.map fun v => (n + 1) • (Fin.ofNat (2 ^ 64) v.val) := by
  have hsemi : Function.Semiconj Totals.cpuCoresSums (fun totals => accumulate totals r)
      fun sums => addExtending sums (r.cpuCoresUsage.map fun v => Fin.ofNat (2 ^ 64) v.val) :=
    fun _ => rfl
  exact (hsemi.iterate_right (n + 1) {}).trans ((iterate_addExtending n _).trans List.map_map)

theorem networkInterfaces_copies (key : String) :
    (copies (n + 1) r).sum.networkInterfaces.lookup key
      = (r.networkInterfaces.lookup key).map fun value =>
          (fun sum => accumulateInterface sum value)^[n + 1] 0 := by
  have hsemi : Function.Semiconj (fun totals : Totals => totals.sum.networkInterfaces)
      (fun totals => accumulate totals r)
      fun sum => FiniteMap.accumulate (fun entry value => accumulateInterface (entry.getD 0) value)
        sum r.networkInterfaces := fun _ => rfl
  rw [← FiniteMap.lookup_iterate_accumulate accumulateInterface fun _ => 0]
  exact congrArg (Finmap.lookup key) (hsemi.iterate_right (n + 1) {})

theorem extraFs_copies (key : String) :
    (copies (n + 1) r).sum.extraFs.lookup key
      = (r.extraFs.lookup key).map fun value =>
          (fun fs => accumulateFs fs value)^[n + 1] {} := by
  have hsemi : Function.Semiconj (fun totals : Totals => totals.sum.extraFs)
      (fun totals => accumulate totals r)
      fun sum => FiniteMap.accumulate (fun entry value => accumulateFs (entry.getD {}) value)
        sum r.extraFs := fun _ => rfl
  rw [← FiniteMap.lookup_iterate_accumulate accumulateFs fun _ => {}]
  exact congrArg (Finmap.lookup key) (hsemi.iterate_right (n + 1) {})

theorem gpuData_copies (id : String) :
    (copies (n + 1) r).sum.gpuData.lookup id
      = (r.gpuData.lookup id).map fun value =>
          (fun gpu => accumulateGpu gpu value)^[n + 1] { name := value.name } := by
  have hsemi : Function.Semiconj (fun totals : Totals => totals.sum.gpuData)
      (fun totals => accumulate totals r)
      fun sum => FiniteMap.accumulate
        (fun entry value => accumulateGpu (entry.getD { name := value.name }) value)
        sum r.gpuData := fun _ => rfl
  rw [← FiniteMap.lookup_iterate_accumulate accumulateGpu fun value => { name := value.name }]
  exact congrArg (Finmap.lookup id) (hsemi.iterate_right (n + 1) {})

end Copies

/-! ### What comes back -/

section Copies

variable {n : ℕ}

theorem averageInterface_copies {value : Fin 4 → Uint64}
    (hfit : (n + 1) * (value 0).val < 2 ^ 64 ∧ (n + 1) * (value 1).val < 2 ^ 64) :
    averageInterface (n + 1) ((fun sum => accumulateInterface sum value)^[n + 1] 0) = value := by
  have hsent :=
    iterate_add (fun sum => sum 0) (accumulateInterface · value) (fun _ => rfl) (n + 1) (s := 0) rfl
  have hrecv :=
    iterate_add (fun sum => sum 1) (accumulateInterface · value) (fun _ => rfl) (n + 1) (s := 0) rfl
  have htotalSent := iterate_max (fun sum => sum 2) (accumulateInterface · value) (fun _ => rfl) n 0
  have htotalRecv := iterate_max (fun sum => sum 3) (accumulateInterface · value) (fun _ => rfl) n 0
  have hpos : 0 < n + 1 := Nat.succ_pos n
  funext i
  match i with
  | 0 => calc divCount ((accumulateInterface · value)^[n + 1] 0 0) (n + 1)
        = divCount ((n + 1) • value 0) (n + 1) := by rw [hsent]
      _ = value 0 := divCount_nsmul hpos hfit.1
  | 1 => calc divCount ((accumulateInterface · value)^[n + 1] 0 1) (n + 1)
        = divCount ((n + 1) • value 1) (n + 1) := by rw [hrecv]
      _ = value 1 := divCount_nsmul hpos hfit.2
  | 2 => exact htotalSent.trans (max_eq_right (Fin.zero_le _))
  | 3 => exact htotalRecv.trans (max_eq_right (Fin.zero_le _))

theorem FsFloatField.value_copies (f : FsFloatField) (value : FsStats) :
    f.value ((fun fs => accumulateFs fs value)^[n] {}) = n • f.value value :=
  iterate_add f.value _ (fun fs => f.value_accumulateFs fs value) n f.value_empty

theorem FsCountField.value_copies (f : FsCountField) (value : FsStats) :
    f.value ((fun fs => accumulateFs fs value)^[n] {}) = n • f.value value :=
  iterate_add f.value _ (fun fs => f.value_accumulateFs fs value) n f.value_empty

theorem GpuField.value_copies (f : GpuField) (value : GPUData) (name : String) :
    f.value ((fun gpu => accumulateGpu gpu value)^[n] { name := name }) = n • f.value value :=
  iterate_add f.value _ (fun gpu => f.value_accumulateGpu gpu value) n (f.value_new name)

variable (hn : 0 < n)
include hn

theorem persisted_averageFs {value : FsStats}
    (hgrid : ∀ f : FsFloatField, OnGrid 100 (f.value value))
    (hfit : ∀ f : FsCountField, n * (f.value value).val < 2 ^ 64) :
    (averageFs n ((fun fs => accumulateFs fs value)^[n] {})).persisted = value.persisted := by
  have hfloat : ∀ f : FsFloatField,
      f.value (averageFs n ((fun fs => accumulateFs fs value)^[n] {})) = f.value value := by
    intro f
    rw [f.value_averageFs, f.value_copies]
    exact twoDecimals_nsmul hn (hgrid f)
  have hcount : ∀ f : FsCountField,
      f.value (averageFs n ((fun fs => accumulateFs fs value)^[n] {})) = f.value value := by
    intro f
    rw [f.value_averageFs, f.value_copies]
    exact divCount_nsmul hn (hfit f)
  exact FsStats.ext (hfloat .diskTotal) (hfloat .diskUsed) (hfloat .diskReadPs)
    (hfloat .diskWritePs) rfl rfl (hcount .diskReadBytes) (hcount .diskWriteBytes) rfl rfl
    (funext fun i => hfloat (.diskIoStats i)) rfl

theorem engines_averageGpu {value : GPUData} (name : String)
    (hgrid : ∀ engine v, value.engines.lookup engine = some v → OnGrid 100 v) :
    (averageGpu n ((fun gpu => accumulateGpu gpu value)^[n] { name := name })).engines
      = value.engines := by
  obtain ⟨m, rfl⟩ := Nat.exists_eq_add_of_lt hn
  rw [Nat.zero_add] at *
  have hsemi : Function.Semiconj GPUData.engines (fun gpu => accumulateGpu gpu value)
      fun sum => FiniteMap.accumulate (fun engine v => engine.getD 0 + v) sum value.engines :=
    fun _ => rfl
  refine Finmap.ext_lookup fun engine => ?_
  have hsum :=
    (congrArg (Finmap.lookup engine) (hsemi.iterate_right (m + 1) { name := name })).trans
      (FiniteMap.lookup_iterate_accumulate (fun engine v : ℚ => engine + v) (fun _ => 0)
        value.engines m engine)
  have haverage := FiniteMap.lookup_mapVal (fun v : ℚ => twoDecimals (v / (m + 1 : ℕ)))
    ((fun gpu => accumulateGpu gpu value)^[m + 1] { name := name }).engines engine
  refine haverage.trans ?_
  rw [hsum]
  cases hv : value.engines.lookup engine with
  | none => rfl
  | some v =>
      have hiter := iterate_add id (fun sum : ℚ => sum + v) (fun _ => rfl) (m + 1) rfl
      rw [id] at hiter
      rw [Option.map_some, Option.map_some, hiter, twoDecimals_nsmul hn (hgrid engine v hv)]

theorem persisted_averageGpu {value : GPUData}
    (hgrid : ∀ f : GpuField, OnGrid 100 (f.value value))
    (hengines : ∀ engine v, value.engines.lookup engine = some v → OnGrid 100 v) :
    (averageGpu n ((fun gpu => accumulateGpu gpu value)^[n] { name := value.name })).persisted
      = { value.persisted with powerPkg := 0 } := by
  have hfloat : ∀ f : GpuField,
      f.value (averageGpu n ((fun gpu => accumulateGpu gpu value)^[n] { name := value.name }))
        = f.value value := by
    intro f
    rw [f.value_averageGpu, f.value_copies]
    exact twoDecimals_nsmul hn (hgrid f)
  have hkept : ∀ {A : Type} (g : GPUData → A), (∀ gpu, g (accumulateGpu gpu value) = g gpu) →
      g ((fun gpu => accumulateGpu gpu value)^[n] { name := value.name })
        = g { name := value.name } := by
    intro A g hg
    have hsemi : Function.Semiconj g (fun gpu => accumulateGpu gpu value) id := hg
    rw [hsemi.iterate_right n, Function.iterate_id, id]
  have hname := hkept GPUData.name fun _ => rfl
  have hpower := hkept GPUData.powerPkg fun _ => rfl
  exact GPUData.ext hname rfl (hfloat .memoryUsed) (hfloat .memoryTotal) (hfloat .usage)
    (hfloat .power) rfl (engines_averageGpu hn value.name hengines) hpower

end Copies

/-! ### Records -/

def Stats.withoutPowerPkg (s : Stats) : Stats :=
  { s with gpuData := FiniteMap.mapVal (fun gpu => { gpu with powerPkg := 0 }) s.gpuData }

theorem core_nsmul {n : ℕ} (hn : 0 < n) {v : Uint8} (hfit : n * v.val < 2 ^ 64) :
    Fin.ofNat (2 ^ 8)
      (roundHalfAway ((n • Fin.ofNat (2 ^ 64) v.val : Uint64).val / n)).toNat = v := by
  have hval : v.val % 2 ^ 64 = v.val := Nat.mod_eq_of_lt (v.isLt.trans (by norm_num))
  have hsum : (n • Fin.ofNat (2 ^ 64) v.val : Uint64).val = n * v.val := by
    rw [val_nsmul, Fin.val_ofNat, hval, Nat.mod_eq_of_lt hfit]
  have hmean : ((n * v.val : ℕ) : ℚ) / n = ((v.val : ℤ) : ℚ) := by
    rw [Nat.cast_mul, ← nsmul_eq_mul, mean_nsmul hn, Int.cast_natCast]
  rw [hsum, hmean, roundHalfAway_intCast, Int.toNat_natCast, Fin.ofNat_val_eq_self]

theorem cpuCoresUsage_average {n : ℕ} (hn : 0 < n) {r : Stats}
    (hfit : ∀ v ∈ r.cpuCoresUsage, n * v.val < 2 ^ 64) :
    (computeAverages n (copies n r)).cpuCoresUsage = r.cpuCoresUsage := by
  obtain ⟨m, rfl⟩ := Nat.exists_eq_succ_of_ne_zero hn.ne'
  calc (computeAverages (m + 1) (copies (m + 1) r)).cpuCoresUsage
      = (copies (m + 1) r).cpuCoresSums.map fun s =>
          Fin.ofNat (2 ^ 8) (roundHalfAway ((s.val : ℚ) / (m + 1 : ℕ))).toNat := rfl
    _ = r.cpuCoresUsage.map id := by
        rw [cpuCoresSums_copies, List.map_map]
        exact List.map_congr_left fun v hv => core_nsmul hn (hfit v hv)
    _ = r.cpuCoresUsage := List.map_id _

theorem cpuBreakdown_average {n : ℕ} (hn : 0 < n) {r : Stats}
    (hgrid : ∀ v ∈ r.cpuBreakdown, OnGrid 100 v) :
    (computeAverages n (copies n r)).cpuBreakdown = r.cpuBreakdown := by
  obtain ⟨m, rfl⟩ := Nat.exists_eq_succ_of_ne_zero hn.ne'
  calc (computeAverages (m + 1) (copies (m + 1) r)).cpuBreakdown
      = (copies (m + 1) r).cpuBreakdownSums.map fun s => twoDecimals (s / (m + 1 : ℕ)) := rfl
    _ = r.cpuBreakdown.map id := by
        rw [cpuBreakdownSums_copies, List.map_map]
        exact List.map_congr_left fun v hv => twoDecimals_nsmul hn (hgrid v hv)
    _ = r.cpuBreakdown := List.map_id _

section Average

variable {n : ℕ} (hn : 0 < n) {r : Stats} (hgrid : OnCents r) (hfit : SumsFit n r)

theorem FloatField.average_copies (hn : 0 < n) (hgrid : OnCents r) (f : FloatField) :
    f.value (computeAverages n (copies n r)) = f.value r := by
  rw [f.value_computeAverages, f.value_copies]
  exact twoDecimals_nsmul hn (hgrid.floats f)

theorem CountField.average_copies (hn : 0 < n) (hfit : SumsFit n r) (f : CountField) :
    f.value (computeAverages n (copies n r)) = f.value r := by
  rw [f.value_computeAverages, f.value_copies]
  exact divCount_nsmul hn (hfit.counts f)

include hn

include hfit in
theorem networkInterfaces_average :
    (computeAverages n (copies n r)).networkInterfaces = r.networkInterfaces := by
  obtain ⟨m, rfl⟩ := Nat.exists_eq_succ_of_ne_zero hn.ne'
  refine Finmap.ext_lookup fun key => ?_
  refine (FiniteMap.lookup_mapVal (averageInterface (m + 1)) _ key).trans ?_
  rw [networkInterfaces_copies]
  cases hvalue : r.networkInterfaces.lookup key with
  | none => rfl
  | some value =>
      exact congrArg some (averageInterface_copies (hfit.networkInterfaces key value hvalue))

include hgrid

include hfit in
theorem extraFs_average :
    (computeAverages n (copies n r)).persisted.extraFs = r.persisted.extraFs := by
  obtain ⟨m, rfl⟩ := Nat.exists_eq_succ_of_ne_zero hn.ne'
  refine Finmap.ext_lookup fun key => ?_
  simp only [Stats.persisted, FiniteMap.lookup_mapVal, computeAverages, extraFs_copies]
  cases hvalue : r.extraFs.lookup key with
  | none => rfl
  | some value =>
      exact congrArg some
        (persisted_averageFs hn (hgrid.extraFs key value hvalue) (hfit.extraFs key value hvalue))

theorem gpuData_average :
    (computeAverages n (copies n r)).persisted.gpuData = r.persisted.withoutPowerPkg.gpuData := by
  obtain ⟨m, rfl⟩ := Nat.exists_eq_succ_of_ne_zero hn.ne'
  refine Finmap.ext_lookup fun id => ?_
  simp only [Stats.persisted, Stats.withoutPowerPkg, FiniteMap.lookup_mapVal, computeAverages,
    gpuData_copies]
  cases hvalue : r.gpuData.lookup id with
  | none => rfl
  | some value =>
      exact congrArg some
        (persisted_averageGpu hn (hgrid.gpuData id value hvalue) (hgrid.engines id value hvalue))

include hfit

/-- Everything that is stored comes back, peaks and package power aside. -/
theorem persisted_average_replicate :
    (averageSystemStatsSlice (List.replicate n r)).persisted = r.persisted.withoutPowerPkg := by
  rw [average_replicate hn]
  have hfloat := fun f : FloatField => f.average_copies hn hgrid
  have hcount := fun f : CountField => f.average_copies hn hfit
  apply Stats.ext
  case cpu => exact hfloat .cpu
  case mem => exact hfloat .mem
  case memUsed => exact hfloat .memUsed
  case memPct => exact hfloat .memPct
  case memBuffCache => exact hfloat .memBuffCache
  case memZfsArc => exact hfloat .memZfsArc
  case swap => exact hfloat .swap
  case swapUsed => exact hfloat .swapUsed
  case diskTotal => exact hfloat .diskTotal
  case diskUsed => exact hfloat .diskUsed
  case diskPct => exact hfloat .diskPct
  case diskReadPs => exact hfloat .diskReadPs
  case diskWritePs => exact hfloat .diskWritePs
  case networkSent => exact hfloat .networkSent
  case networkRecv => exact hfloat .networkRecv
  case loadAvg => exact funext fun i => hfloat (.loadAvg i)
  case diskIoStats => exact funext fun i => hfloat (.diskIoStats i)
  case bandwidth => exact funext fun i => hcount (.bandwidth i)
  case diskIo => exact funext fun i => hcount (.diskIo i)
  case extraFs => exact extraFs_average hn hgrid hfit
  case gpuData => exact gpuData_average hn hgrid
  case networkInterfaces => exact networkInterfaces_average hn hfit
  case cpuBreakdown => exact cpuBreakdown_average hn hgrid.cpuBreakdown
  case cpuCoresUsage => exact cpuCoresUsage_average hn hfit.cpuCoresUsage
  -- the peaks, cleared on both sides
  all_goals rfl

/-- **A constant history rolls up to itself exactly when no GPU reports a package power.** -/
theorem persisted_average_replicate_iff :
    (averageSystemStatsSlice (List.replicate n r)).persisted = r.persisted
      ↔ ∀ id gpu, r.gpuData.lookup id = some gpu → gpu.powerPkg = 0 := by
  rw [persisted_average_replicate hn hgrid hfit]
  constructor
  · intro heq id gpu hgpu
    have hlookup := congrArg (fun s : Stats => s.gpuData.lookup id) heq
    simp only [Stats.withoutPowerPkg, Stats.persisted, FiniteMap.lookup_mapVal, hgpu,
      Option.map_some] at hlookup
    exact (congrArg GPUData.powerPkg (Option.some.inj hlookup)).symm
  · intro hpower
    have hmap : FiniteMap.mapVal (fun gpu => { gpu with powerPkg := 0 }) r.persisted.gpuData
        = r.persisted.gpuData := by
      refine Finmap.ext_lookup fun id => ?_
      simp only [Stats.persisted, FiniteMap.lookup_mapVal]
      cases hgpu : r.gpuData.lookup id with
      | none => rfl
      | some gpu =>
          have hzero : 0 = gpu.powerPkg := (hpower id gpu hgpu).symm
          exact congrArg some (GPUData.ext rfl rfl rfl rfl rfl rfl rfl rfl hzero)
    rw [Stats.withoutPowerPkg, hmap]

end Average

/-- An integrated GPU drawing 15 W in a package that draws 40 W. -/
def packageRecord : Stats where
  gpuData := Finmap.singleton "0" { name := "i915", power := 15, powerPkg := 40 }

theorem lookup_packageRecord {id : String} {gpu : GPUData}
    (hgpu : packageRecord.gpuData.lookup id = some gpu) :
    id = "0" ∧ gpu = { name := "i915", power := 15, powerPkg := 40 } := by
  have hid : id = "0" := by
    have hmem : id ∈ packageRecord.gpuData := Finmap.mem_of_lookup_eq_some hgpu
    simpa [packageRecord] using hmem
  subst hid
  exact ⟨rfl, Option.some.inj (hgpu.symm.trans Finmap.lookup_singleton_eq)⟩

theorem onCents_packageRecord : OnCents packageRecord where
  floats f := by cases f <;> exact onGrid_zero 100
  cpuBreakdown v hv := by simp [packageRecord] at hv
  extraFs key fs hfs := by simp [packageRecord] at hfs
  gpuData id gpu hgpu f := by
    obtain ⟨-, rfl⟩ := lookup_packageRecord hgpu
    cases f
    case power => exact onGrid_natCast (by norm_num) 15
    all_goals exact onGrid_zero 100
  engines id gpu hgpu engine v hv := by
    obtain ⟨-, rfl⟩ := lookup_packageRecord hgpu
    simp at hv

theorem sumsFit_packageRecord : SumsFit 2 packageRecord where
  counts f := by cases f <;> exact Nat.two_pow_pos 64
  cpuCoresUsage v hv := by simp [packageRecord] at hv
  networkInterfaces key value hvalue := by simp [packageRecord] at hvalue
  extraFs key fs hfs := by simp [packageRecord] at hfs

theorem persisted_average_packageRecord_iff :
    (averageSystemStatsSlice (List.replicate 2 packageRecord)).persisted = packageRecord.persisted
      ↔ ∀ id gpu, packageRecord.gpuData.lookup id = some gpu → gpu.powerPkg = 0 :=
  persisted_average_replicate_iff (by norm_num) onCents_packageRecord sumsFit_packageRecord

theorem persisted_average_packageRecord_ne :
    OnCents packageRecord ∧ SumsFit 2 packageRecord ∧
      (averageSystemStatsSlice (List.replicate 2 packageRecord)).persisted
        ≠ packageRecord.persisted := by
  refine ⟨onCents_packageRecord, sumsFit_packageRecord, ?_⟩
  rw [persisted_average_replicate (by norm_num) onCents_packageRecord sumsFit_packageRecord]
  intro heq
  have hgpu : packageRecord.persisted.withoutPowerPkg.gpuData.lookup "0"
      = packageRecord.persisted.gpuData.lookup "0" := by rw [heq]
  simp only [Stats.withoutPowerPkg, Stats.persisted, FiniteMap.lookup_mapVal, packageRecord,
    Finmap.lookup_singleton_eq, Option.map_some, Option.some.injEq] at hgpu
  simpa [GPUData.persisted] using congrArg GPUData.powerPkg hgpu

end Picket
