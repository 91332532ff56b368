import Picket.Lib.Transition
import Picket.NvtopSlots

/-!
# Samples that keep to their device

A slot has the name of its newest sample. So a sample fits what is in its slot if and only if the
slot is new or has its name, and it is the only one of its batch if the slot is unused. A search for
a slot looks at both, but the slot of the position is taken without a look.
-/

namespace Picket.Gather

open Transition

namespace NvtopRun

structure Recorded (s : NvtopRun) : Prop where
  nodup : (s.loop.gpuDataMap.map Prod.fst).Nodup
  /-- A slot has the name of its newest sample. -/
  newest : ∀ id, (s.loop.gpuDataMap.lookup id).map (·.name) =
    (s.updates.find? (·.id = id)).map (·.sample.deviceName)
  used : ∀ id, id ∈ s.loop.usedIDs ↔ ∃ u ∈ s.updates, u.batch = s.batch ∧ u.id = id
  batches : ∀ u ∈ s.updates, u.batch ≤ s.batch
  named : ∀ u ∈ s.updates, u.sample.deviceName ≠ ""

theorem recorded_start : Recorded {} where
  nodup := List.nodup_nil
  newest _ := rfl
  used _ := by simp
  batches := by simp
  named := by simp

theorem Recorded.write {s : NvtopRun} (hs : s.Recorded) (id : String) {sample : NvtopSnapshot}
    (hname : sample.deviceName ≠ "") : (s.write id sample).Recorded where
  nodup := AssocList.nodup_insert hs.nodup id _
  newest id' := by
    simp only [NvtopRun.write, NvtopLoop.write, AssocList.lookup_insert, List.find?_cons]
    by_cases hid : id' = id
    · subst hid
      simp [Gpu.update]
    · rw [if_neg hid, hs.newest id', decide_eq_false (Ne.symm hid)]
  used id' := by
    simp only [NvtopRun.write, NvtopLoop.write, List.mem_cons, exists_eq_or_imp, true_and, hs.used]
    exact or_congr_left eq_comm
  batches := by
    simpa [NvtopRun.write] using hs.batches
  named := by
    simpa [NvtopRun.write] using ⟨hname, hs.named⟩

theorem Recorded.batch {s : NvtopRun} (hs : s.Recorded) : (s.next .batch).Recorded where
  nodup := hs.nodup
  newest := hs.newest
  used id := by
    refine iff_of_false List.not_mem_nil ?_
    rintro ⟨u, hu, hbatch, -⟩
    have hle := hs.batches u hu
    simp only [next] at hbatch
    omega
  batches u hu := (hs.batches u hu).trans (Nat.le_succ s.batch)
  named := hs.named

theorem Recorded.next {s : NvtopRun} (hs : s.Recorded) (e : NvtopEvent) : (s.next e).Recorded := by
  cases e with
  | batch => exact hs.batch
  | sample i sample iteration =>
      rw [NvtopRun.next]
      by_cases hname : sample.deviceName = ""
      · rwa [if_pos hname]
      · rw [if_neg hname]
        exact hs.write _ hname

/-! ### A sample and what has been written before -/

/-- The slot has not been used in this batch, and is new or has the name. -/
def FreeFor (s : NvtopRun) (id deviceName : String) : Prop :=
  id ∉ s.loop.usedIDs ∧ ∀ gpu, s.loop.gpuDataMap.lookup id = some gpu → gpu.name = deviceName

theorem Recorded.name_of_lookup {s : NvtopRun} (hs : s.Recorded) {id : String} {gpu : Gpu}
    (hlookup : s.loop.gpuDataMap.lookup id = some gpu) :
    ∃ u ∈ s.updates, u.id = id ∧ u.sample.deviceName = gpu.name := by
  have hnewest := hs.newest id
  rw [hlookup, Option.map_some, eq_comm, Option.map_eq_some_iff] at hnewest
  obtain ⟨u, hfind, hname⟩ := hnewest
  exact ⟨u, List.mem_of_find?_eq_some hfind, by simpa using List.find?_some hfind, hname⟩

theorem Recorded.lookup_of_update {s : NvtopRun} (hs : s.Recorded) {u : SlotUpdate}
    (hu : u ∈ s.updates) : ∃ gpu, s.loop.gpuDataMap.lookup u.id = some gpu := by
  cases hlookup : s.loop.gpuDataMap.lookup u.id with
  | some gpu => exact ⟨gpu, rfl⟩
  | none =>
      have hnewest := hs.newest u.id
      rw [hlookup, Option.map_none, eq_comm, Option.map_eq_none_iff] at hnewest
      exact absurd (decide_eq_true rfl) (List.find?_eq_none.mp hnewest u hu)

theorem KeepsToDevice.sameDevice {s : NvtopRun} (hkeeps : s.KeepsToDevice) {u v : SlotUpdate}
    (hu : u ∈ s.updates) (hv : v ∈ s.updates) (hid : u.id = v.id) :
    u.sample.deviceName = v.sample.deviceName := by
  have hsymm : Std.Symm fun u v : SlotUpdate =>
      u.id = v.id → u.sample.deviceName = v.sample.deviceName :=
    ⟨fun u v hname hid => (hname hid.symm).symm⟩
  exact (hkeeps.imp And.right).forall_of_forall (fun _ _ _ => rfl) hu hv hid

/-- A sample is compatible with all before it if its slot is free for it. -/
theorem keepsToDevice_write {s : NvtopRun} (hs : s.Recorded) (id : String)
    (sample : NvtopSnapshot) :
    (s.write id sample).KeepsToDevice ↔ s.KeepsToDevice ∧ s.FreeFor id sample.deviceName := by
  rw [KeepsToDevice, NvtopRun.write, List.pairwise_cons, and_comm]
  refine and_congr_right fun hkeeps => ?_
  constructor
  · intro hall
    refine ⟨fun hused => ?_, fun gpu hlookup => ?_⟩
    · obtain ⟨u, hu, hbatch, hid⟩ := (hs.used id).mp hused
      exact (hall u hu).1 hbatch.symm hid.symm
    · obtain ⟨u, hu, hid, hname⟩ := hs.name_of_lookup hlookup
      rw [← hname]
      exact ((hall u hu).2 hid.symm).symm
  · rintro ⟨hused, hname⟩ u hu
    refine ⟨fun hbatch hid => hused ((hs.used id).mpr ⟨u, hu, hbatch.symm, hid.symm⟩), ?_⟩
    rintro rfl
    obtain ⟨gpu, hlookup⟩ := hs.lookup_of_update hu
    obtain ⟨v, hv, hid, hvname⟩ := hs.name_of_lookup hlookup
    calc sample.deviceName = gpu.name := (hname gpu hlookup).symm
      _ = v.sample.deviceName := hvname.symm
      _ = u.sample.deviceName := KeepsToDevice.sameDevice hkeeps hv hu hid

/-! ### The slot that is chosen -/

theorem Recorded.named_of_lookup {s : NvtopRun} (hs : s.Recorded) {id : String} {gpu : Gpu}
    (hlookup : s.loop.gpuDataMap.lookup id = some gpu) : gpu.name ≠ "" := by
  obtain ⟨u, hu, -, hname⟩ := hs.name_of_lookup hlookup
  rw [← hname]
  exact hs.named u hu

theorem Recorded.not_used_of_lookup {s : NvtopRun} (hs : s.Recorded) {id : String}
    (hlookup : s.loop.gpuDataMap.lookup id = none) : id ∉ s.loop.usedIDs := by
  intro hused
  obtain ⟨u, hu, -, rfl⟩ := (hs.used id).mp hused
  obtain ⟨gpu, hsome⟩ := hs.lookup_of_update hu
  rw [hlookup] at hsome
  cases hsome

theorem freeFor_slotID {s : NvtopRun} (hs : s.Recorded) (i : ℕ) {sample : NvtopSnapshot}
    (hname : sample.deviceName ≠ "") (iteration : MapIteration) :
    s.FreeFor (s.loop.slotID i sample.deviceName iteration) sample.deviceName ↔
      s.SlotFree (.sample i sample iteration) := by
  rw [SlotFree, or_iff_right hname, NvtopLoop.slotID]
  cases hlookup : s.loop.gpuDataMap.lookup (indexID i) with
  | none =>
      refine iff_of_true ⟨hs.not_used_of_lookup hlookup, fun gpu hsome => ?_⟩ trivial
      rw [hlookup] at hsome
      cases hsome
  | some existingByIndex =>
      have hnamed := hs.named_of_lookup hlookup
      by_cases hsame : existingByIndex.name = sample.deviceName
      · simp only [hsame, ne_eq, not_true_eq_false, and_false, if_false, if_true]
        refine and_iff_left fun gpu hsome => ?_
        rw [hlookup] at hsome
        rw [← Option.some.inj hsome, hsame]
      · simp only [hsame, hnamed, ne_eq, not_false_eq_true, and_self, if_true, if_false]
        cases hfind : (iteration.order s.loop.gpuDataMap).find?
            (NvtopLoop.isReusable s.loop.usedIDs sample.deviceName) with
        | some existing =>
            have hmem := (iteration.perm _).mem_iff.mp (List.mem_of_find?_eq_some hfind)
            have hreusable := List.find?_some hfind
            refine iff_of_true ⟨?_, fun gpu hsome => ?_⟩ ⟨existing, hmem, hreusable⟩
            · simp only [NvtopLoop.isReusable, Bool.and_eq_true, decide_eq_true_eq] at hreusable
              exact hreusable.1.2
            · simp only [NvtopLoop.isReusable, Bool.and_eq_true, decide_eq_true_eq] at hreusable
              rw [AssocList.lookup_of_mem hs.nodup hmem] at hsome
              rw [← Option.some.inj hsome, hreusable.2]
        | none =>
            refine iff_of_false (fun hfree => hsame (hfree.2 _ hlookup)) ?_
            rintro ⟨existing, hmem, hreusable⟩
            exact List.find?_eq_none.mp hfind existing ((iteration.perm _).mem_iff.mpr hmem)
              hreusable

/-! ### What a slot accumulates -/

def samplesIn (s : NvtopRun) (id : String) : List NvtopSnapshot :=
  (s.updates.filter (·.id = id)).map (·.sample)

/-- A slot has the sums of the usage and the power of its samples. -/
def Accumulated (s : NvtopRun) : Prop :=
  ∀ id,
    ((s.loop.gpuDataMap.lookup id).map (·.usage)).getD 0 =
        ((s.samplesIn id).map fun sample => sample.gpuUtil.getD 0).sum ∧
      ((s.loop.gpuDataMap.lookup id).map (·.power)).getD 0 =
        ((s.samplesIn id).map fun sample => sample.powerDraw.getD 0).sum

theorem Accumulated.write {s : NvtopRun} (hs : s.Accumulated) (id : String)
    (sample : NvtopSnapshot) : (s.write id sample).Accumulated := by
  intro id'
  simp only [samplesIn, NvtopRun.write, NvtopLoop.write, AssocList.lookup_insert]
  by_cases hid : id' = id
  · subst hid
    obtain ⟨husage, hpower⟩ := hs id'
    rw [List.filter_cons_of_pos (by simp), List.map_cons, List.map_cons, List.map_cons,
      List.sum_cons, List.sum_cons, ← samplesIn, ← husage, ← hpower]
    cases s.loop.gpuDataMap.lookup id' <;>
      simp [Gpu.update, NvtopSnapshot.toUsageSample, add_comm]
  · rw [if_neg hid, List.filter_cons_of_neg (by simpa using Ne.symm hid)]
    exact hs id'

theorem Accumulated.next {s : NvtopRun} (hs : s.Accumulated) (e : NvtopEvent) :
    (s.next e).Accumulated := by
  cases e with
  | batch => exact hs
  | sample i sample iteration =>
      rw [NvtopRun.next]
      by_cases hname : sample.deviceName = ""
      · rwa [if_pos hname]
      · rw [if_neg hname]
        exact hs.write _ sample

theorem accumulated_ofBatches (batches : List (List (NvtopSnapshot × MapIteration))) :
    (ofBatches batches).Accumulated := by
  have hrun : run step {} (batches.flatMap events) = some (ofBatches batches) :=
    run_total next {} _
  refine (guarded_of_run hrun).invariant (fun s e t hs _ hstep => ?_) fun _ => ⟨rfl, rfl⟩
  rw [← Option.some.inj hstep]
  exact hs.next e

/-! ### Runs -/

theorem foldl_samples (entries : List ((NvtopSnapshot × MapIteration) × ℕ)) (s : NvtopRun) :
    ((entries.map fun entry => NvtopEvent.sample entry.2 entry.1.1 entry.1.2).foldl next s).loop =
      entries.foldl (fun l entry => l.update entry.2 entry.1.1 entry.1.2) s.loop := by
  induction entries generalizing s with
  | nil => rfl
  | cons entry entries ih =>
      rw [List.map_cons, List.foldl_cons, List.foldl_cons, ih, next, NvtopLoop.update]
      split <;> rfl

/-- A batch is one call of `updateNvtopSnapshots`. -/
theorem foldl_flatMap_events (batches : List (List (NvtopSnapshot × MapIteration)))
    (gm : GPUManager) (s : NvtopRun) (hs : s.loop.gpuDataMap = gm.gpuDataMap) :
    ((batches.flatMap events).foldl next s).loop.gpuDataMap =
      (batches.foldl (fun gm snapshots => (gm.updateNvtopSnapshots snapshots).1) gm).gpuDataMap
    := by
  induction batches generalizing gm s with
  | nil => exact hs
  | cons snapshots batches ih =>
      rw [List.flatMap_cons, List.foldl_append, List.foldl_cons]
      refine ih _ _ ?_
      rw [events, List.foldl_cons, foldl_samples, GPUManager.updateNvtopSnapshots, next, hs]

theorem keepsToDevice_next {s : NvtopRun} (hs : s.Recorded) (e : NvtopEvent) :
    (s.next e).KeepsToDevice ↔ s.KeepsToDevice ∧ s.SlotFree e := by
  cases e with
  | batch => exact (and_iff_left trivial).symm
  | sample i sample iteration =>
      rw [next]
      by_cases hname : sample.deviceName = ""
      · rw [if_pos hname]
        exact (and_iff_left (Or.inl hname)).symm
      · rw [if_neg hname, keepsToDevice_write hs, freeFor_slotID hs i hname]

/-- **Samples keep to their device exactly where each finds a free slot.** -/
theorem keepsToDevice_iff_guarded (batches : List (List (NvtopSnapshot × MapIteration))) :
    (ofBatches batches).KeepsToDevice ↔
      Guarded step SlotFree {} (batches.flatMap events) (ofBatches batches) := by
  have hstart : ({} : NvtopRun).KeepsToDevice := List.Pairwise.nil
  have hrun : run step {} (batches.flatMap events) = some (ofBatches batches) :=
    run_total next {} _
  refine (iff_guarded_of_invariant_step Recorded ?_ ?_ recorded_start hrun).trans
    (and_iff_right hstart)
  · intro s e t hs hstep
    rw [← Option.some.inj hstep]
    exact hs.next e
  · intro s e t hs hstep
    rw [← Option.some.inj hstep]
    exact keepsToDevice_next hs e

/-- Two devices, then one that is shown twice, then another one. -/
def replaced : List (List (NvtopSnapshot × MapIteration)) :=
  let sample deviceName : NvtopSnapshot × MapIteration :=
    ({ deviceName, gpuUtil := some 50 }, ⟨id, fun _ => .refl _⟩)
  [[sample "A", sample "B"], [sample "B", sample "B"], [sample "C"]]

instance (u v : SlotUpdate) : Decidable (u.Compatible v) :=
  inferInstanceAs (Decidable (_ ∧ _))

instance (s : NvtopRun) : Decidable s.KeepsToDevice :=
  inferInstanceAs (Decidable (s.updates.Pairwise _))

/-- Both samples of the second batch go to the second slot, and the last one to that of `A`. -/
theorem replaced_not_keepsToDevice : ¬ (ofBatches replaced).KeepsToDevice := by
  decide +kernel

end NvtopRun

end Picket.Gather
