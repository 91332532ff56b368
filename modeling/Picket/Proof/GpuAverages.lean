import Picket.GpuStats
import Picket.Lib.KeyedFold
import Picket.Lib.Unsigned

/-!
# Averages for each cache key

A GPU holds the sums over all its samples, and a snapshot the sums at the last call with its key.
Their difference is the sum over the samples in between, whatever calls with other keys there were:
these only write snapshots of their own, and the last average, which is not for new data.
-/

namespace Picket.Gather

/-! ### Sums over the samples -/

def gpuAfter (gpu : Option Gpu) (samples : List GpuSample) : Option Gpu :=
  samples.foldl (fun gpu sample => some ((gpu.getD sample.newGpu).update sample)) gpu

theorem gpuAfter_append (gpu : Option Gpu) (samples samples' : List GpuSample) :
    gpuAfter gpu (samples ++ samples') = gpuAfter (gpuAfter gpu samples) samples' :=
  List.foldl_append

theorem gpuAfter_eq_none {gpu : Option Gpu} {samples : List GpuSample}
    (hnone : gpuAfter gpu samples = none) : samples = [] := by
  cases samples using List.reverseRecOn with
  | nil => rfl
  | append_singleton samples sample =>
      rw [gpuAfter_append] at hnone
      cases hnone

structure Gpu.Sums (gpu : Gpu) (samples : List GpuSample) : Prop where
  usage : gpu.usage = (samples.map GpuSample.usageOf).sum
  power : gpu.power = (samples.map GpuSample.powerOf).sum
  powerPkg : gpu.powerPkg = (samples.map GpuSample.powerPkgOf).sum
  count : gpu.count = samples.length
  engine : ∀ engine, FiniteMap.sumAt gpu.engines engine =
    (samples.map (GpuSample.engineOf engine)).sum
  keys : ∀ engine, engine ∈ gpu.engines.keys ↔ ∃ sample ∈ samples, engine ∈ sample.engines.keys

theorem Gpu.Sums.update {gpu : Gpu} {samples : List GpuSample} (hsums : gpu.Sums samples)
    (sample : GpuSample) : (gpu.update sample).Sums (samples ++ [sample]) := by
  obtain ⟨husage, hpower, hpowerPkg, hcount, hengine, hkeys⟩ := hsums
  cases sample with
  | usage sample =>
      refine ⟨?_, ?_, ?_, ?_, fun engine => ?_, fun engine => ?_⟩
      · simp [Gpu.update, husage, GpuSample.usageOf]
      · simp [Gpu.update, hpower, GpuSample.powerOf]
      · simp [Gpu.update, hpowerPkg, GpuSample.powerPkgOf]
      · simp [Gpu.update, hcount]
      · simp [Gpu.update, hengine, GpuSample.engineOf, GpuSample.engines]
      · simp [Gpu.update, hkeys, GpuSample.engines, or_and_right, exists_or]
  | intel sample =>
      refine ⟨?_, ?_, ?_, ?_, fun engine => ?_, fun engine => ?_⟩
      · simp [Gpu.update, husage, GpuSample.usageOf]
      · simp [Gpu.update, hpower, GpuSample.powerOf]
      · simp [Gpu.update, hpowerPkg, GpuSample.powerPkgOf]
      · simp [Gpu.update, hcount]
      · simp only [Gpu.update, FiniteMap.sumAt_accumulate, hengine, List.map_append,
          List.sum_append]
        simp [GpuSample.engineOf, GpuSample.engines, FiniteMap.sumAt]
      · simp [Gpu.update, FiniteMap.keys_accumulate, hkeys, GpuSample.engines, or_and_right,
          exists_or]

theorem sums_newGpu (sample : GpuSample) : sample.newGpu.Sums [] := by
  cases sample <;> exact ⟨rfl, rfl, rfl, rfl, fun _ => rfl, fun _ => by simp [GpuSample.newGpu]⟩

theorem hasEngines_update (gpu : Gpu) (sample : GpuSample) :
    (gpu.update sample).hasEngines = (gpu.hasEngines || sample.isIntel) := by
  cases sample <;> simp [Gpu.update, GpuSample.isIntel]

/-- A GPU that is there from the start, if there is one, has no sums yet. -/
def Fresh (gpu : Option Gpu) : Prop :=
  ∀ gpu' ∈ gpu, gpu'.Sums [] ∧ gpu'.hasEngines = false

theorem sums_gpuAfter {gpu : Option Gpu} (hfresh : Fresh gpu) (samples : List GpuSample)
    {gpu' : Gpu} (hgpu : gpuAfter gpu samples = some gpu') :
    gpu'.Sums samples ∧ gpu'.hasEngines = samples.any GpuSample.isIntel := by
  induction samples using List.reverseRecOn generalizing gpu' with
  | nil => exact hfresh gpu' hgpu
  | append_singleton samples sample ih =>
      rw [gpuAfter_append] at hgpu
      obtain rfl := Option.some.inj hgpu
      cases hbefore : gpuAfter gpu samples with
      | none =>
          obtain rfl := gpuAfter_eq_none hbefore
          refine ⟨(sums_newGpu sample).update sample, ?_⟩
          rw [Option.getD_none, hasEngines_update]
          cases sample <;> rfl
      | some gpu' =>
          obtain ⟨hsums, hengines⟩ := ih hbefore
          refine ⟨hsums.update sample, ?_⟩
          rw [Option.getD_some, hasEngines_update, hengines, List.any_append]
          simp

/-! ### A call -/

namespace GPUManager

def Keyed (gm : GPUManager) : Prop :=
  (gm.gpuDataMap.map Prod.fst).Nodup

section Call

variable {gm : GPUManager} {cacheKey : Uint16} {nameCounts : String → ℕ}
  {s : GPUManager × List (String × GPUData)} {entry : String × Gpu}

theorem calculateGPUAverage_frame (id : String) (gpu : Gpu) :
    (gm.calculateGPUAverage id gpu cacheKey).1.gpuDataMap = gm.gpuDataMap ∧
      (gm.calculateGPUAverage id gpu cacheKey).1.lastSnapshots = gm.lastSnapshots ∧
      ∀ id', id' ≠ id →
        (gm.calculateGPUAverage id gpu cacheKey).1.lastAvgData id' = gm.lastAvgData id' := by
  rw [calculateGPUAverage]
  split
  · split <;> exact ⟨rfl, rfl, fun _ _ => rfl⟩
  · exact ⟨rfl, rfl, fun id' hne => Function.update_of_ne hne _ _⟩

theorem readGpu_gpuDataMap :
    (readGpu nameCounts cacheKey s entry).1.gpuDataMap = s.1.gpuDataMap :=
  (calculateGPUAverage_frame entry.1 entry.2).1

theorem readGpu_snapshots (cacheKey' : Uint16) (id : String) :
    (readGpu nameCounts cacheKey s entry).1.lastSnapshots cacheKey' id =
      if cacheKey' = cacheKey ∧ id = entry.1 then some entry.2.snapshot
      else s.1.lastSnapshots cacheKey' id := by
  simp only [readGpu, storeSnapshot, (calculateGPUAverage_frame entry.1 entry.2).2.1]
  by_cases hkey : cacheKey' = cacheKey
  · subst hkey
    by_cases hid : id = entry.1
    · subst hid
      simp
    · simp [hid]
  · simp [hkey]

def gpuResult (gm : GPUManager) (cacheKey : Uint16) (id : String) (gpu : Gpu) : GPUData :=
  let gpuAvg := updateInstantaneousValues (gm.calculateGPUAverage id gpu cacheKey).2 gpu
  if 1 < gm.countGPUNames gpu.name then { gpuAvg with name := gpu.name ++ " " ++ id } else gpuAvg

theorem calculateGPUAverage_congr {gm gm' : GPUManager} {id : String} {gpu : Gpu}
    (hsnapshots : gm.lastSnapshots cacheKey id = gm'.lastSnapshots cacheKey id)
    (havg : gm.lastAvgData id = gm'.lastAvgData id) :
    (gm.calculateGPUAverage id gpu cacheKey).2 = (gm'.calculateGPUAverage id gpu cacheKey).2 := by
  rw [calculateGPUAverage, calculateGPUAverage, hsnapshots, havg]
  split
  · split <;> rfl
  · rfl

theorem foldl_readGpu_gpuDataMap (l : List (String × Gpu)) :
    (l.foldl (readGpu nameCounts cacheKey) s).1.gpuDataMap = s.1.gpuDataMap := by
  induction l generalizing s with
  | nil => rfl
  | cons entry l ih => rw [List.foldl_cons, ih, readGpu_gpuDataMap]

theorem getCurrentData_gpuDataMap : (gm.getCurrentData cacheKey).1.gpuDataMap = gm.gpuDataMap :=
  foldl_readGpu_gpuDataMap gm.gpuDataMap

/-- A call writes the snapshots of its own key. -/
theorem getCurrentData_snapshots (hkeyed : gm.Keyed) (cacheKey' : Uint16) (id : String) :
    (gm.getCurrentData cacheKey).1.lastSnapshots cacheKey' id =
      if cacheKey' = cacheKey then
        ((gm.gpuDataMap.lookup id).map Gpu.snapshot).or (gm.lastSnapshots cacheKey' id)
      else gm.lastSnapshots cacheKey' id := by
  rw [getCurrentData, KeyedFold.foldl_eq_find
    (fun s : GPUManager × List (String × GPUData) =>
      s.1.lastSnapshots cacheKey' id = gm.lastSnapshots cacheKey' id)
    (fun s : GPUManager × List (String × GPUData) => s.1.lastSnapshots cacheKey' id)
    (fun entry : String × Gpu =>
      if cacheKey' = cacheKey then some entry.2.snapshot else gm.lastSnapshots cacheKey' id)
    (k := id) ?_ ?_ ?_ hkeyed rfl, AssocList.find?_key]
  · cases gm.gpuDataMap.lookup id <;> simp
  · rintro s entry hne hsame
    rw [readGpu_snapshots, if_neg fun hand => hne hand.2.symm, hsame]
  · rintro s entry rfl hsame
    rw [readGpu_snapshots, hsame]
    simp only [and_true]
  · rintro s entry hne
    rw [readGpu_snapshots, if_neg fun hand => hne hand.2.symm]

/-- What a call returns for a GPU depends on what is kept of it at the key. -/
theorem getCurrentData_lookup (hkeyed : gm.Keyed) (id : String) :
    (gm.getCurrentData cacheKey).2.lookup id =
      (gm.gpuDataMap.lookup id).map (gm.gpuResult cacheKey id) := by
  rw [getCurrentData, KeyedFold.foldl_eq_find
    (fun s : GPUManager × List (String × GPUData) =>
      s.1.lastSnapshots cacheKey id = gm.lastSnapshots cacheKey id ∧
        s.1.lastAvgData id = gm.lastAvgData id)
    (fun s : GPUManager × List (String × GPUData) => s.2.lookup id)
    (fun entry : String × Gpu => some (gm.gpuResult cacheKey id entry.2)) ?_ ?_ ?_ hkeyed
    ⟨rfl, rfl⟩,
    AssocList.find?_key]
  · cases gm.gpuDataMap.lookup id <;> rfl
  · rintro s entry hne ⟨hsnapshots, havg⟩
    refine ⟨?_, ?_⟩
    · rw [readGpu_snapshots, if_neg fun hand => hne hand.2.symm, hsnapshots]
    · exact ((calculateGPUAverage_frame entry.1 entry.2).2.2 id (Ne.symm hne)).trans havg
  · rintro s ⟨_, gpu⟩ rfl ⟨hsnapshots, havg⟩
    simp only [readGpu, AssocList.lookup_insert, if_pos, gpuResult,
      calculateGPUAverage_congr hsnapshots havg]
  · rintro s entry hne
    simp only [readGpu, AssocList.lookup_insert, if_neg (Ne.symm hne)]

end Call

/-! ### Runs -/

section Run

variable {gm : GPUManager} {es : List GpuEvent} {id : String} {cacheKey : Uint16}

theorem Keyed.step (hkeyed : gm.Keyed) (e : GpuEvent) : (gm.step e).Keyed := by
  cases e with
  | sample id sample => exact AssocList.nodup_insert hkeyed id _
  | getCurrentData cacheKey =>
      rw [Keyed, GPUManager.step, getCurrentData_gpuDataMap]
      exact hkeyed

theorem run_append_singleton (e : GpuEvent) : gm.run (es ++ [e]) = (gm.run es).step e :=
  List.foldl_append

theorem Keyed.run (hkeyed : gm.Keyed) (es : List GpuEvent) : (gm.run es).Keyed := by
  induction es using List.reverseRecOn with
  | nil => exact hkeyed
  | append_singleton es e ih =>
      rw [run_append_singleton]
      exact ih.step e

theorem lookup_addSample (id' : String) (sample : GpuSample) :
    (gm.addSample id' sample).gpuDataMap.lookup id =
      gpuAfter (gm.gpuDataMap.lookup id) (if id' = id then [sample] else []) := by
  rw [addSample, AssocList.lookup_insert]
  by_cases hid : id = id'
  · subst hid
    rw [if_pos rfl, if_pos rfl]
    rfl
  · rw [if_neg hid, if_neg (Ne.symm hid)]
    rfl

theorem samplesOf_append_sample (id' : String) (sample : GpuSample) :
    samplesOf id (es ++ [.sample id' sample]) =
      samplesOf id es ++ if id' = id then [sample] else [] := by
  rw [samplesOf, List.filterMap_append]
  by_cases hid : id' = id <;> simp [samplesOf, hid]

theorem samplesOf_append_call : samplesOf id (es ++ [.getCurrentData cacheKey]) =
    samplesOf id es := by
  simp [samplesOf]

theorem samplesSince_append_sample (id' : String) (sample : GpuSample) :
    samplesSince id cacheKey (es ++ [.sample id' sample]) =
      samplesSince id cacheKey es ++ if id' = id then [sample] else [] := by
  rw [samplesSince, List.foldl_append]
  by_cases hid : id' = id <;> simp [samplesSince, hid]

theorem samplesSince_append_call (cacheKey' : Uint16) :
    samplesSince id cacheKey (es ++ [.getCurrentData cacheKey']) =
      if cacheKey' = cacheKey then [] else samplesSince id cacheKey es := by
  rw [samplesSince, List.foldl_append]
  rfl

variable (gm es id) in
theorem run_lookup : (gm.run es).gpuDataMap.lookup id =
    gpuAfter (gm.gpuDataMap.lookup id) (samplesOf id es) := by
  induction es using List.reverseRecOn with
  | nil => rfl
  | append_singleton es e ih =>
      rw [run_append_singleton]
      cases e with
      | sample id' sample =>
          rw [samplesOf_append_sample, gpuAfter_append, ← ih]
          exact lookup_addSample id' sample
      | getCurrentData cacheKey =>
          rw [samplesOf_append_call, ← ih, GPUManager.step, getCurrentData_gpuDataMap]

variable (es) in
/-- The snapshot of a GPU at a key is of what it was before the samples since the last call. -/
theorem run_snapshot (hkeyed : gm.Keyed) (hnone : gm.lastSnapshots cacheKey id = none) :
    ∃ before, samplesOf id es = before ++ samplesSince id cacheKey es ∧
      ((before = [] ∧ (gm.run es).lastSnapshots cacheKey id = none) ∨
        ∃ gpu, gpuAfter (gm.gpuDataMap.lookup id) before = some gpu ∧
          (gm.run es).lastSnapshots cacheKey id = some gpu.snapshot) := by
  induction es using List.reverseRecOn with
  | nil => exact ⟨[], rfl, Or.inl ⟨rfl, hnone⟩⟩
  | append_singleton es e ih =>
      obtain ⟨before, hbefore, hsnapshot⟩ := ih
      rw [run_append_singleton]
      cases e with
      | sample id' sample =>
          refine ⟨before, ?_, hsnapshot⟩
          rw [samplesOf_append_sample, samplesSince_append_sample, hbefore, List.append_assoc]
      | getCurrentData cacheKey' =>
          rw [samplesOf_append_call, samplesSince_append_call, GPUManager.step,
            getCurrentData_snapshots (hkeyed.run es)]
          by_cases hkey : cacheKey' = cacheKey
          · subst hkey
            rw [if_pos rfl, if_pos rfl, run_lookup]
            refine ⟨samplesOf id es, (List.append_nil _).symm, ?_⟩
            cases hgpu : gpuAfter (gm.gpuDataMap.lookup id) (samplesOf id es) with
            | none =>
                have hnil := gpuAfter_eq_none hgpu
                obtain ⟨rfl, -⟩ := List.append_eq_nil_iff.mp (hbefore.symm.trans hnil)
                rw [hnil] at hgpu
                rcases hsnapshot with ⟨-, hsnapshot⟩ | ⟨gpu, hsome, -⟩
                · exact Or.inl ⟨hnil, hsnapshot⟩
                · exact absurd (hgpu.symm.trans hsome) (Option.some_ne_none gpu).symm
            | some gpu => exact Or.inr ⟨gpu, rfl, rfl⟩
          · rw [if_neg hkey, if_neg (Ne.symm hkey)]
            exact ⟨before, hbefore, hsnapshot⟩

end Run

end GPUManager

/-! ### Differences -/

theorem toUint32_natCast (n : ℕ) : toUint32 n = Fin.ofNat (2 ^ 32) n := by
  rw [toUint32, ← Int.cast_natCast, Rat.floor_intCast, Int.toNat_natCast]

/-- A snapshot, if there is one, holds the sums over samples. -/
structure SnapshotOf (lastSnapshot : Option GpuSnapshot) (before : List GpuSample) : Prop where
  count : lastSnapshot.elim 0 (·.count) = Fin.ofNat (2 ^ 32) before.length
  usage : lastSnapshot.elim 0 (·.usage) = (before.map GpuSample.usageOf).sum
  power : lastSnapshot.elim 0 (·.power) = (before.map GpuSample.powerOf).sum
  powerPkg : lastSnapshot.elim 0 (·.powerPkg) = (before.map GpuSample.powerPkgOf).sum
  engine : ∀ engine, (lastSnapshot.bind (·.engines)).elim 0 (FiniteMap.sumAt · engine) =
    (before.map (GpuSample.engineOf engine)).sum

theorem snapshotOf_none : SnapshotOf none [] :=
  ⟨rfl, rfl, rfl, rfl, fun _ => rfl⟩

theorem Gpu.Sums.snapshotOf {gpu : Gpu} {before : List GpuSample} (hsums : gpu.Sums before)
    (hengines : gpu.hasEngines = before.any GpuSample.isIntel) :
    SnapshotOf (some gpu.snapshot) before := by
  refine ⟨?_, hsums.usage, hsums.power, hsums.powerPkg, fun engine => ?_⟩
  · rw [Option.elim_some, Gpu.snapshot, hsums.count, toUint32_natCast]
  · rw [← hsums.engine, Option.bind_some, Gpu.snapshot]
    cases hhas : gpu.hasEngines with
    | true => rfl
    | false =>
        rw [hhas] at hengines
        have hnotMem : engine ∉ gpu.engines.keys := by
          rw [hsums.keys]
          rintro ⟨sample, hsample, hengine⟩
          have hintel : sample.isIntel = false := by
            simpa using List.any_eq_false.mp hengines.symm sample hsample
          cases sample with
          | usage => simp [GpuSample.engines] at hengine
          | intel => cases hintel
        rw [Finmap.mem_keys, ← Finmap.lookup_eq_none] at hnotMem
        rw [FiniteMap.sumAt, hnotMem]
        rfl

section Difference

variable {gpu : Gpu} {lastSnapshot : Option GpuSnapshot} {before samples : List GpuSample}
  (hsums : gpu.Sums (before ++ samples)) (hlast : SnapshotOf lastSnapshot before)

include hsums hlast

theorem val_calculateDeltaCount (hcount : (before ++ samples).length < 2 ^ 32) :
    (calculateDeltaCount (toUint32 gpu.count) lastSnapshot).val = samples.length := by
  have hsub : calculateDeltaCount (toUint32 gpu.count) lastSnapshot =
      toUint32 gpu.count - lastSnapshot.elim 0 (·.count) := by
    cases lastSnapshot with
    | none => exact Fin.ext (Fin.sub_val_of_le (Fin.zero_le (toUint32 gpu.count))).symm
    | some snapshot => rfl
  rw [List.length_append] at hcount
  rw [hsub, hlast.count, hsums.count, toUint32_natCast, List.length_append,
    Unsigned.val_ofNat_sub_ofNat (by omega) (by omega)]
  omega

theorem calculateDeltas_eq : calculateDeltas gpu lastSnapshot =
    ((samples.map GpuSample.usageOf).sum, (samples.map GpuSample.powerOf).sum,
      (samples.map GpuSample.powerPkgOf).sum) := by
  have hsub : calculateDeltas gpu lastSnapshot =
      (gpu.usage - lastSnapshot.elim 0 (·.usage), gpu.power - lastSnapshot.elim 0 (·.power),
        gpu.powerPkg - lastSnapshot.elim 0 (·.powerPkg)) := by
    cases lastSnapshot with
    | none => simp [calculateDeltas]
    | some snapshot => rfl
  rw [hsub, hlast.usage, hlast.power, hlast.powerPkg, hsums.usage, hsums.power, hsums.powerPkg]
  simp

theorem lookup_deltaEngines (engine : String) : (deltaEngines gpu lastSnapshot).lookup engine =
    if ∃ sample ∈ before ++ samples, engine ∈ sample.engines.keys then
      some (samples.map (GpuSample.engineOf engine)).sum
    else none := by
  rw [deltaEngines, FiniteMap.lookup_ofLookup]
  by_cases hengine : engine ∈ gpu.engines.keys
  · rw [if_pos hengine, if_pos ((hsums.keys engine).mp hengine)]
    obtain ⟨value, hvalue⟩ := Option.isSome_iff_exists.mp
      (FiniteMap.mem_keys_iff_isSome.mp hengine)
    have hsum := hsums.engine engine
    have hbefore := hlast.engine engine
    rw [FiniteMap.sumAt, hvalue, Option.getD_some, List.map_append, List.sum_append] at hsum
    rw [hvalue, Option.map_some, Option.some_inj]
    cases hengines : lastSnapshot.bind (·.engines) with
    | none =>
        rw [hengines] at hbefore
        have hzero : (before.map (GpuSample.engineOf engine)).sum = 0 := hbefore.symm
        rw [hsum, hzero, zero_add]
    | some engines =>
        rw [hengines] at hbefore
        have hsumAt : (engines.lookup engine).getD 0 =
          (before.map (GpuSample.engineOf engine)).sum := hbefore
        change value - (engines.lookup engine).getD 0 = _
        rw [hsum, hsumAt, add_sub_cancel_left]
  · rw [if_neg hengine, if_neg fun hmem => hengine ((hsums.keys engine).mpr hmem)]

theorem engineMeans_eq {deltaCount : Uint32} (hdelta : deltaCount.val = samples.length) :
    engineMeans (before ++ samples) samples =
      Set.ofPred fun x => ∃ engine value,
        (deltaEngines gpu lastSnapshot).lookup engine = some value ∧
          value / (deltaCount.val : ℚ) = x := by
  have hlookup := lookup_deltaEngines hsums hlast
  ext x
  constructor
  · rintro ⟨engine, hmem, rfl⟩
    exact ⟨engine, _, (hlookup engine).trans (if_pos hmem), by simp only [mean, hdelta]⟩
  · rintro ⟨engine, value, hvalue, rfl⟩
    rw [hlookup, Option.ite_none_right_eq_some] at hvalue
    obtain ⟨hmem, hsum⟩ := hvalue
    obtain rfl := Option.some.inj hsum
    exact ⟨engine, hmem, by simp only [mean, hdelta]⟩

omit hsums hlast in
theorem isGreatest_of_nonneg {means : Set ℚ} {largest : ℚ}
    (hlargest : IsGreatest (insert 0 means) largest) (hmeans : means.Nonempty)
    (hnonneg : ∀ x ∈ means, 0 ≤ x) : IsGreatest means largest := by
  refine ⟨?_, fun x hx => hlargest.2 (Set.mem_insert_of_mem 0 hx)⟩
  rcases hlargest.1 with rfl | hmem
  · obtain ⟨x, hx⟩ := hmeans
    rwa [le_antisymm (hnonneg x hx) (hlargest.2 (Set.mem_insert_of_mem 0 hx))]
  · exact hmem

omit hsums hlast in
theorem engineMeans_nonneg
    (hnonneg : ∀ sample ∈ samples, ∀ engine, 0 ≤ sample.engineOf engine) :
    ∀ x ∈ engineMeans (before ++ samples) samples, 0 ≤ x := by
  rintro _ ⟨engine, -, rfl⟩
  refine div_nonneg (List.sum_nonneg fun x hx => ?_) (Nat.cast_nonneg _)
  obtain ⟨sample, hsample, rfl⟩ := List.mem_map.mp hx
  exact hnonneg sample hsample engine

theorem newAverage_averages (hcount : (before ++ samples).length < 2 ^ 32)
    (hengines : gpu.hasEngines = (before ++ samples).any GpuSample.isIntel) :
    Averages (before ++ samples) samples
      (newAverage gpu lastSnapshot (calculateDeltaCount (toUint32 gpu.count) lastSnapshot)) := by
  have hdelta := val_calculateDeltaCount hsums hlast hcount
  have hdeltas := calculateDeltas_eq hsums hlast
  have hlookup := lookup_deltaEngines hsums hlast
  generalize calculateDeltaCount (toUint32 gpu.count) lastSnapshot = deltaCount at hdelta
  have hlargest := FiniteMap.isGreatest_maxFrom 0
    (fun deltaEngine => deltaEngine / (deltaCount.val : ℚ)) (deltaEngines gpu lastSnapshot)
  rw [← engineMeans_eq hsums hlast hdelta] at hlargest
  rw [newAverage, hdeltas]
  refine ⟨?_, fun hnone => ?_, fun hsome engine => ?_, fun hsome => ?_, fun hsome => ?_,
    fun hsome hmeans hnonneg => ?_⟩
  · cases gpu.hasEngines <;> simp [mean, hdelta]
  · rw [← hengines] at hnone
    simp [hnone, mean, hdelta]
  · rw [← hengines] at hsome
    simp only [hsome, if_true, calculateIntelGPUUsage, FiniteMap.lookup_mapVal, hlookup, hdelta,
      mean]
    split <;> rfl
  · rw [← hengines] at hsome
    simp [hsome, mean, hdelta]
  · rw [← hengines] at hsome
    exact ⟨_, by simp [hsome, calculateIntelGPUUsage], hlargest⟩
  · rw [← hengines] at hsome
    exact ⟨_, by simp [hsome, calculateIntelGPUUsage],
      isGreatest_of_nonneg hlargest hmeans (engineMeans_nonneg hnonneg)⟩

end Difference

/-! ### What a call returns -/

theorem averages_gpuResult {gm : GPUManager} {cacheKey : Uint16} {id : String} {gpu : Gpu}
    {all samples : List GpuSample}
    (haverages : Averages all samples (gm.calculateGPUAverage id gpu cacheKey).2) :
    Averages all samples (gm.gpuResult cacheKey id gpu) := by
  obtain ⟨hpower, husage, hengines, hpowerPkg, hlargest, hbusiest⟩ := haverages
  rw [GPUManager.gpuResult]
  split <;> exact ⟨hpower, husage, hengines, hpowerPkg, hlargest, hbusiest⟩

theorem calculateGPUAverage_new {gm : GPUManager} {cacheKey : Uint16} {id : String} {gpu : Gpu}
    (hnew : calculateDeltaCount (toUint32 gpu.count) (gm.lastSnapshots cacheKey id) ≠ 0) :
    (gm.calculateGPUAverage id gpu cacheKey).2 =
      newAverage gpu (gm.lastSnapshots cacheKey id)
        (calculateDeltaCount (toUint32 gpu.count) (gm.lastSnapshots cacheKey id)) := by
  rw [GPUManager.calculateGPUAverage, if_neg hnew]

/-- New data is averaged in the same way by managers that have the same GPUs and the same snapshot,
whatever else they keep. -/
theorem gpuResult_congr {gm gm' : GPUManager} {cacheKey : Uint16} {id : String} {gpu : Gpu}
    (hnew : calculateDeltaCount (toUint32 gpu.count) (gm.lastSnapshots cacheKey id) ≠ 0)
    (hmap : gm.gpuDataMap = gm'.gpuDataMap)
    (hsnapshots : gm.lastSnapshots cacheKey id = gm'.lastSnapshots cacheKey id) :
    gm.gpuResult cacheKey id gpu = gm'.gpuResult cacheKey id gpu := by
  have hcounts : gm.countGPUNames = gm'.countGPUNames := by
    funext name
    rw [GPUManager.countGPUNames, GPUManager.countGPUNames, hmap]
  rw [GPUManager.gpuResult, GPUManager.gpuResult, hcounts, calculateGPUAverage_new hnew,
    calculateGPUAverage_new (hsnapshots ▸ hnew), hsnapshots]

namespace GPUManager

section Matters

variable {gm : GPUManager} (cacheKey : Uint16)

/-- The GPUs and the snapshots of a key are the same without the calls with other keys. -/
theorem run_filter (hkeyed : gm.Keyed) (es : List GpuEvent) :
    (gm.run (es.filter (GpuEvent.matters cacheKey))).gpuDataMap = (gm.run es).gpuDataMap ∧
      ∀ id, (gm.run (es.filter (GpuEvent.matters cacheKey))).lastSnapshots cacheKey id =
        (gm.run es).lastSnapshots cacheKey id := by
  induction es using List.reverseRecOn with
  | nil => exact ⟨rfl, fun _ => rfl⟩
  | append_singleton es e ih =>
      obtain ⟨hmap, hsnapshots⟩ := ih
      rw [List.filter_append, run_append_singleton]
      cases e with
      | sample id sample =>
          rw [List.filter_cons_of_pos rfl, List.filter_nil, run_append_singleton]
          refine ⟨?_, hsnapshots⟩
          simp only [GPUManager.step, addSample, hmap]
      | getCurrentData cacheKey' =>
          by_cases hkey : cacheKey' = cacheKey
          · subst hkey
            rw [List.filter_cons_of_pos (by simp [GpuEvent.matters]), List.filter_nil,
              run_append_singleton]
            simp only [GPUManager.step, getCurrentData_gpuDataMap,
              getCurrentData_snapshots (hkeyed.run _), hmap, hsnapshots]
            exact ⟨trivial, fun _ => trivial⟩
          · rw [List.filter_cons_of_neg (by simp [GpuEvent.matters, hkey]), List.filter_nil,
              List.append_nil]
            simp only [GPUManager.step, getCurrentData_gpuDataMap,
              getCurrentData_snapshots (hkeyed.run _), if_neg (Ne.symm hkey)]
            exact ⟨hmap, hsnapshots⟩

end Matters

/-! ### From the start -/

theorem start_keyed {gpus : List (String × String)} (hnodup : (gpus.map Prod.fst).Nodup) :
    (start gpus).Keyed := by
  rw [Keyed, start, List.map_map]
  exact hnodup

theorem start_fresh (gpus : List (String × String)) (id : String) :
    Fresh ((start gpus).gpuDataMap.lookup id) := by
  intro gpu hgpu
  obtain ⟨⟨id', name⟩, -, hentry⟩ := List.mem_map.mp (AssocList.mem_of_lookup hgpu)
  obtain ⟨-, rfl⟩ := Prod.mk.inj hentry
  exact ⟨⟨rfl, rfl, rfl, rfl, fun _ => rfl, fun _ => by simp⟩, rfl⟩

theorem run_snapshotOf {gpus : List (String × String)} (hnodup : (gpus.map Prod.fst).Nodup)
    (es : List GpuEvent) (cacheKey : Uint16) (id : String) :
    ∃ before, samplesOf id es = before ++ samplesSince id cacheKey es ∧
      SnapshotOf (((start gpus).run es).lastSnapshots cacheKey id) before := by
  have hnone : (start gpus).lastSnapshots cacheKey id = none := rfl
  obtain ⟨before, hbefore, hsnapshot⟩ := run_snapshot es (start_keyed hnodup) hnone
  refine ⟨before, hbefore, ?_⟩
  rcases hsnapshot with ⟨rfl, hnone⟩ | ⟨gpu, hgpu, hsome⟩
  · rw [hnone]
    exact snapshotOf_none
  · rw [hsome]
    obtain ⟨hsums, hengines⟩ := sums_gpuAfter (start_fresh gpus id) before hgpu
    exact hsums.snapshotOf hengines

end GPUManager

/-- **Averages are per cache key.** What a call returns for a GPU with new samples is their average,
and the same whatever calls with other keys there are. -/
theorem gpu_averages (gpus : List (String × String)) (hnodup : (gpus.map Prod.fst).Nodup)
    (es : List GpuEvent) (cacheKey : Uint16) (id : String)
    (hcount : (samplesOf id es).length < 2 ^ 32) (hnew : samplesSince id cacheKey es ≠ []) :
    ∃ data, (((GPUManager.start gpus).run es).getCurrentData cacheKey).2.lookup id = some data ∧
      Averages (samplesOf id es) (samplesSince id cacheKey es) data ∧
      ∀ es' : List GpuEvent,
        es'.filter (GpuEvent.matters cacheKey) = es.filter (GpuEvent.matters cacheKey) →
        (((GPUManager.start gpus).run es').getCurrentData cacheKey).2.lookup id = some data := by
  have hkeyed := GPUManager.start_keyed hnodup
  obtain ⟨before, hbefore, hsnapshot⟩ := GPUManager.run_snapshotOf hnodup es cacheKey id
  have hlookup := GPUManager.run_lookup (.start gpus) es id
  obtain ⟨gpu, hgpu⟩ : ∃ gpu,
      gpuAfter ((GPUManager.start gpus).gpuDataMap.lookup id) (samplesOf id es) = some gpu := by
    refine Option.ne_none_iff_exists'.mp fun hnone => hnew ?_
    exact (List.append_eq_nil_iff.mp (hbefore.symm.trans (gpuAfter_eq_none hnone))).2
  obtain ⟨hsums, hengines⟩ := sums_gpuAfter (GPUManager.start_fresh gpus id) _ hgpu
  rw [hgpu] at hlookup
  rw [hbefore] at hsums hengines hcount
  have hdelta := val_calculateDeltaCount hsums hsnapshot hcount
  have hnonzero : calculateDeltaCount (toUint32 gpu.count)
      (((GPUManager.start gpus).run es).lastSnapshots cacheKey id) ≠ 0 := by
    intro hzero
    rw [hzero] at hdelta
    exact hnew (List.length_eq_zero_iff.mp hdelta.symm)
  refine ⟨((GPUManager.start gpus).run es).gpuResult cacheKey id gpu, ?_, ?_, fun es' hfilter => ?_⟩
  · rw [GPUManager.getCurrentData_lookup (hkeyed.run es), hlookup, Option.map_some]
  · refine averages_gpuResult ?_
    rw [calculateGPUAverage_new hnonzero, hbefore]
    exact newAverage_averages hsums hsnapshot hcount hengines
  · obtain ⟨hmap, hsame⟩ := GPUManager.run_filter cacheKey hkeyed es
    obtain ⟨hmap', hsame'⟩ := GPUManager.run_filter cacheKey hkeyed es'
    rw [hfilter] at hmap' hsame'
    rw [GPUManager.getCurrentData_lookup (hkeyed.run es'), ← hmap', hmap, hlookup, Option.map_some,
      gpuResult_congr hnonzero (hmap.symm.trans hmap') ((hsame id).symm.trans (hsame' id))]

/-- Three samples of a plain GPU and two of an Intel one, with calls at two keys. -/
def gpuEvents : List GpuEvent :=
  [.sample "0" (.usage { name := "RTX", usage := 10, power := 20 }), .getCurrentData 1,
    .sample "i0" (.intel { powerGPU := 2, engines := Finmap.singleton "Video" 40 }),
    .sample "0" (.usage { name := "RTX", usage := 30, power := 21 }), .getCurrentData 2,
    .sample "0" (.usage { name := "RTX", usage := 51, power := 24 }),
    .sample "i0" (.intel { powerGPU := 3, engines := Finmap.singleton "Render/3D" 10 })]

theorem gpu_averages_two_samples :
    ∃ data, (((GPUManager.start []).run gpuEvents).getCurrentData 1).2.lookup "0" = some data ∧
      Averages (samplesOf "0" gpuEvents) (samplesSince "0" 1 gpuEvents) data ∧
      (data.usage, data.power) = (81 / 2, 45 / 2) := by
  obtain ⟨data, hdata, haverages, -⟩ :=
    gpu_averages [] List.nodup_nil gpuEvents 1 "0" (by decide +kernel) (by
      intro hnil
      have hlength := congrArg List.length hnil
      revert hlength
      decide +kernel)
  refine ⟨data, hdata, haverages, ?_⟩
  have hvalues : ((((GPUManager.start []).run gpuEvents).getCurrentData 1).2.lookup "0").map
      (fun data => (data.usage, data.power)) = some (81 / 2, 45 / 2) := by
    decide +kernel
  rw [hdata] at hvalues
  exact Option.some.inj hvalues

end Picket.Gather
