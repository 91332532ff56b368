import Picket.Proof.AlertWindow

/-!
# What a record adds, and what it should

What the loop adds for a record is what the record gives alone exactly when nothing it leaves out
matters: no bandwidth, GPU or filesystem of an earlier record takes the place of one the record does
not have.
-/

namespace Picket

open FiniteMap FloatingPoint

/-! ### One record -/

/-- What a record adds to the sums of the disks, zeros aside, when it adds its own percentages and
nothing else. -/
structure DiskContribution (shared own : SystemAlertStats) : Prop where
  root : nonzero (diskShares .ieee shared "root") = nonzero [Arithmetic.ieee.single own.disk]
  extra : ∀ key pct, extraPct .ieee own key = some pct →
    nonzero (diskShares .ieee shared key) = nonzero [pct]
  absent : ∀ key, key ≠ "root" → extraPct .ieee own key = none →
    nonzero (diskShares .ieee shared key) = []

/-- A record adds the same whether it is read into the shared struct or alone. -/
structure SameContribution (name : AlertName) (shared own : SystemAlertStats) : Prop where
  metric : metric .ieee name shared = metric .ieee name own
  disk : name = .disk → DiskContribution shared own

def maxUsage (r : Stats) : Value :=
  maxFrom 0 (fun gpu : GPUData => Arithmetic.ieee.double gpu.usage) r.gpuData

/-- The percentage that a filesystem adds, if it has a size. -/
def FsJson.pct (fs : FsJson) : Option Value :=
  (fs.unmarshal .ieee).usedPct .ieee

/-- Nothing an earlier record had stands in for what this one leaves out: a bandwidth, the usage of
a GPU, a filesystem. And an extra filesystem that shares the key of root adds nothing to it. -/
def NothingCarried (name : AlertName) (earlier : List Stats) (own : Stats) : Prop :=
  match name with
  | .bandwidth =>
      own.bandwidth = 0 → ∀ b, latest readBandwidth earlier = some b → b 0 + b 1 = 0
  | .gpu => ∀ id usage, own.gpuData.lookup id = none → latest (readGpu id) earlier = some usage →
      own.gpuData ≠ ∅ ∧ Arithmetic.ieee.double usage ≤ maxUsage own
  | .disk =>
      (∀ key fs, own.extraFs.lookup key = none → latest (readFs key) earlier = some fs →
        ∀ pct ∈ fs.pct, pct = 0) ∧
      ∀ fs, readFs "root" own = some fs → ∀ pct ∈ fs.pct,
        pct = 0 ∧ Arithmetic.ieee.single (Arithmetic.ieee.double own.diskPct) = 0
  | _ => True

/-- Bytes are not lost to rounding. -/
theorem bandwidthMB_eq_zero_iff (b : Uint64) : bandwidthMB .ieee b = 0 ↔ b = 0 := by
  constructor
  · intro hzero
    by_contra hb
    have hone : ((2 : ℚ) ^ (0 : ℤ)) ≤ (b.val : ℚ) := by
      rw [zpow_zero]
      exact_mod_cast Nat.one_le_iff_ne_zero.mpr fun hval => hb (Fin.ext hval)
    have hbytes : Value.finite (2 ^ (0 : ℤ)) ≤ Arithmetic.ieee.double (b.val : ℚ) :=
      Format.le_round (by decide) hone
    rw [bandwidthMB] at hzero
    rcases Value.finite_le_iff.mp hbytes with hinf | ⟨y, hy, hle⟩
    · rw [hinf] at hzero
      exact absurd hzero (by decide +kernel)
    · have hquotient : ((2 : ℚ) ^ (-20 : ℤ)) ≤ y / (1024 * 1024) := by
        rw [zpow_zero] at hle
        rw [le_div_iff₀ (by norm_num)]
        norm_num
        linarith
      have hmegabytes : Value.finite (2 ^ (-20 : ℤ)) ≤
          Arithmetic.ieee.double (y / (1024 * 1024) : ℚ) :=
        Format.le_round (by decide) hquotient
      rw [hy, Value.finite_div (by norm_num)] at hzero
      rw [hzero, Value.zero_def, Value.finite_le_finite] at hmegabytes
      norm_num at hmegabytes
  · rintro rfl
    decide +kernel

section Record

variable (earlier : List Stats) (own : Stats)

theorem metric_bandwidth_iff :
    metric .ieee .bandwidth (readAll .ieee (earlier ++ [own])) =
        metric .ieee .bandwidth (alone .ieee own)
      ↔ NothingCarried .bandwidth earlier own := by
  have hshared : (readAll .ieee (earlier ++ [own])).bandwidth
      = (readBandwidth own).getD ((latest readBandwidth earlier).getD 0) := by
    rw [readAll_snoc, bandwidth_unmarshal, bandwidth_readAll]
  have halone : (alone .ieee own).bandwidth = (readBandwidth own).getD 0 := rfl
  simp only [metric, NothingCarried, hshared, halone, readBandwidth, Option.some.injEq]
  by_cases hzero : own.bandwidth = 0
  · have hnone : bandwidthMB .ieee ((0 : Fin 2 → Uint64) 0 + (0 : Fin 2 → Uint64) 1) = 0 :=
      (bandwidthMB_eq_zero_iff _).mpr rfl
    simp only [hzero, if_true, Option.getD_none, forall_const, hnone, bandwidthMB_eq_zero_iff]
    cases latest readBandwidth earlier <;> simp
  · simp [hzero]

theorem gpu_shared (id : String) :
    (readAll .ieee (earlier ++ [own])).gpu.lookup id
      = ((readGpu id own).or (latest (readGpu id) earlier)).map
          fun usage : ℚ => Arithmetic.ieee.double usage := by
  rw [gpu_readAll, latest_snoc]

theorem gpu_alone (id : String) : (alone .ieee own).gpu.lookup id =
    (readGpu id own).map fun usage : ℚ => Arithmetic.ieee.double usage := by
  rw [alone, gpu_unmarshal]
  simp

theorem gpu_alone_eq_empty_iff : (alone .ieee own).gpu = ∅ ↔ own.gpuData = ∅ := by
  constructor <;> intro hempty <;> refine Finmap.ext_lookup fun id => ?_
  · have hid := gpu_alone own id
    rw [hempty] at hid
    simpa [readGpu] using hid.symm
  · rw [gpu_alone]
    simp [readGpu, hempty]

theorem maxFrom_alone : maxFrom 0 id (alone .ieee own).gpu = maxUsage own := by
  refine eq_of_forall_ge_iff fun x => ?_
  rw [maxUsage, maxFrom_le_iff, maxFrom_le_iff]
  simp [gpu_alone, readGpu]

/-- A record without GPUs does not count, so no GPU may be left over. -/
theorem metric_gpu_iff_of_empty (hempty : own.gpuData = ∅) :
    metric .ieee .gpu (readAll .ieee (earlier ++ [own])) = metric .ieee .gpu (alone .ieee own)
      ↔ NothingCarried .gpu earlier own := by
  have hown : ∀ id, readGpu id own = none := by simp [readGpu, hempty]
  have hcarried : (readAll .ieee (earlier ++ [own])).gpu = ∅
      ↔ ∀ id, latest (readGpu id) earlier = none := by
    rw [gpu_readAll_eq_empty_iff]
    simp [latest_snoc, hown]
  have hnone : metric .ieee .gpu (alone .ieee own) = none :=
    if_pos ((gpu_alone_eq_empty_iff own).mpr hempty)
  have hleft : metric .ieee .gpu (readAll .ieee (earlier ++ [own])) = none
      ↔ (readAll .ieee (earlier ++ [own])).gpu = ∅ := by
    simp [metric]
  rw [hnone, hleft, hcarried]
  simp [NothingCarried, hempty, Option.eq_none_iff_forall_ne_some]

/-- A record with GPUs counts, and no GPU left over may outdo its own. -/
theorem metric_gpu_iff_of_ne (hne : own.gpuData ≠ ∅) :
    metric .ieee .gpu (readAll .ieee (earlier ++ [own])) = metric .ieee .gpu (alone .ieee own)
      ↔ NothingCarried .gpu earlier own := by
  have halone : (alone .ieee own).gpu ≠ ∅ :=
    fun hempty => hne ((gpu_alone_eq_empty_iff own).mp hempty)
  have hshared : (readAll .ieee (earlier ++ [own])).gpu ≠ ∅ := by
    intro hempty
    refine halone (Finmap.ext_lookup fun id => ?_)
    have hid := gpu_shared earlier own id
    rw [hempty, Finmap.lookup_empty, eq_comm, Option.map_eq_none_iff, Option.or_eq_none_iff] at hid
    rw [gpu_alone, hid.1, Option.map_none, Finmap.lookup_empty]
  simp only [metric, if_neg halone, if_neg hshared, Option.some.injEq, maxFrom_alone]
  constructor
  · intro heq key usage hnone hlatest
    have hlookup : (readAll .ieee (earlier ++ [own])).gpu.lookup key =
        some (Arithmetic.ieee.double usage) := by
      rw [gpu_shared, hlatest]
      simp [readGpu, hnone]
    exact ⟨hne, heq ▸ le_maxFrom (f := id) hlookup⟩
  · intro hcarried
    apply le_antisymm
    · refine maxFrom_le_iff.mpr ⟨base_le_maxFrom 0 _ _, fun id v hlookup => ?_⟩
      rw [gpu_shared, Option.map_eq_some_iff] at hlookup
      obtain ⟨usage, hlookup, rfl⟩ := hlookup
      cases hgpu : own.gpuData.lookup id with
      | none => exact (hcarried id usage hgpu (by simpa [readGpu, hgpu] using hlookup)).2
      | some gpu =>
          obtain rfl : gpu.usage = usage := by simpa [readGpu, hgpu] using hlookup
          exact le_maxFrom (f := fun gpu : GPUData => Arithmetic.ieee.double gpu.usage) hgpu
    · refine maxFrom_le_iff.mpr ⟨base_le_maxFrom 0 _ _, fun id gpu hgpu => ?_⟩
      refine le_maxFrom (f := fun v : Value => v) (v := Arithmetic.ieee.double gpu.usage)
        (k := id) ?_
      rw [gpu_shared]
      simp [readGpu, hgpu]

theorem metric_gpu_iff :
    metric .ieee .gpu (readAll .ieee (earlier ++ [own])) = metric .ieee .gpu (alone .ieee own)
      ↔ NothingCarried .gpu earlier own := by
  by_cases hempty : own.gpuData = ∅
  · exact metric_gpu_iff_of_empty earlier own hempty
  · exact metric_gpu_iff_of_ne earlier own hempty

theorem extraPct_shared (key : String) :
    extraPct .ieee (readAll .ieee (earlier ++ [own])) key
      = ((readFs key own).or (latest (readFs key) earlier)).bind FsJson.pct := by
  rw [extraPct, extraFs_readAll, latest_snoc, Option.bind_map]
  rfl

theorem extraPct_alone (key : String) :
    extraPct .ieee (alone .ieee own) key = (readFs key own).bind FsJson.pct := by
  rw [extraPct, alone, extraFs_unmarshal, Finmap.lookup_empty, Option.or_none, Option.bind_map]
  rfl

theorem readFs_eq_none_iff {key : String} :
    readFs key own = none ↔ own.extraFs.lookup key = none :=
  Option.map_eq_none_iff

theorem extraPct_shared_of_some {key : String} {fs : FsJson} (hfs : readFs key own = some fs) :
    extraPct .ieee (readAll .ieee (earlier ++ [own])) key =
      extraPct .ieee (alone .ieee own) key := by
  rw [extraPct_shared, extraPct_alone, hfs, Option.some_or]

theorem disk_shared : (readAll .ieee (earlier ++ [own])).disk = (alone .ieee own).disk := by
  rw [readAll_snoc]
  rfl

theorem diskShares_root (stats : SystemAlertStats) : diskShares .ieee stats "root" =
    Arithmetic.ieee.single stats.disk :: (extraPct .ieee stats "root").toList := by
  rw [diskShares, if_pos rfl]
  rfl

theorem diskShares_of_ne (stats : SystemAlertStats) {key : String} (hkey : key ≠ "root") :
    diskShares .ieee stats key = (extraPct .ieee stats key).toList := by
  rw [diskShares, if_neg hkey, List.nil_append]

theorem nonzero_toList_eq_nil_iff {pct : Option Value} :
    nonzero pct.toList = [] ↔ ∀ v ∈ pct, v = 0 := by
  cases pct <;> simp [nonzero]

theorem nothingCarried_of_diskContribution
    (h : DiskContribution (readAll .ieee (earlier ++ [own])) (alone .ieee own)) :
    NothingCarried .disk earlier own := by
  have hroot := h.root
  rw [diskShares_root, disk_shared, ← List.singleton_append, nonzero_append,
    List.append_right_eq_self, nonzero_toList_eq_nil_iff] at hroot
  refine ⟨fun key fs hnone hlatest pct hpct => ?_, fun fs hfs pct hpct => ?_⟩
  · have hshared : extraPct .ieee (readAll .ieee (earlier ++ [own])) key = some pct := by
      rw [extraPct_shared, (readFs_eq_none_iff own).mpr hnone, hlatest]
      exact hpct
    by_cases hkey : key = "root"
    · exact hroot pct (hkey ▸ hshared)
    · have habsent := h.absent key hkey (by
        rw [extraPct_alone, (readFs_eq_none_iff own).mpr hnone, Option.bind_none])
      rw [diskShares_of_ne _ hkey, nonzero_toList_eq_nil_iff] at habsent
      exact habsent pct hshared
  · -- the filesystem is added to the sum of root, and both percentages must survive that
    have halone : extraPct .ieee (alone .ieee own) "root" = some pct := by
      rw [extraPct_alone, hfs]
      exact hpct
    have hzero : pct = 0 := hroot pct ((extraPct_shared_of_some earlier own hfs).trans halone)
    refine ⟨hzero, ?_⟩
    have hself := h.extra "root" pct halone
    rw [diskShares_root, disk_shared, ← List.singleton_append, nonzero_append,
      nonzero_toList_eq_nil_iff.mpr hroot, List.append_nil, hzero,
      nonzero_singleton_eq_nil_iff.mpr rfl, nonzero_singleton_eq_nil_iff] at hself
    exact hself

/-- What is added for a filesystem that the record does not have is zero. -/
theorem carried_eq_zero (h : NothingCarried .disk earlier own) {key : String}
    (hnone : readFs key own = none) :
    ∀ pct ∈ extraPct .ieee (readAll .ieee (earlier ++ [own])) key, pct = 0 := by
  intro pct hpct
  rw [extraPct_shared, hnone, Option.none_or] at hpct
  obtain ⟨fs, hlatest, hfs⟩ := Option.mem_bind_iff.mp hpct
  exact h.1 key fs ((readFs_eq_none_iff own).mp hnone) hlatest pct hfs

theorem nonzero_diskShares (h : NothingCarried .disk earlier own) (key : String) :
    nonzero (diskShares .ieee (readAll .ieee (earlier ++ [own])) key) =
      nonzero (diskShares .ieee (alone .ieee own) key) := by
  unfold diskShares
  rw [disk_shared, nonzero_append, nonzero_append]
  refine (List.append_right_inj _).mpr ?_
  cases hfs : readFs key own with
  | none =>
      have hcarried := carried_eq_zero earlier own h hfs
      rw [nonzero_toList_eq_nil_iff.mpr hcarried, extraPct_alone, hfs, Option.bind_none]
      rfl
  | some fs => rw [extraPct_shared_of_some earlier own hfs]

theorem root_eq_zero (h : NothingCarried .disk earlier own) :
    ∀ pct ∈ extraPct .ieee (readAll .ieee (earlier ++ [own])) "root", pct = 0 := by
  cases hfs : readFs "root" own with
  | none => exact carried_eq_zero earlier own h hfs
  | some fs =>
      intro pct hpct
      rw [extraPct_shared_of_some earlier own hfs, extraPct_alone, hfs] at hpct
      exact (h.2 fs hfs pct hpct).1

theorem diskContribution_of_nothingCarried (h : NothingCarried .disk earlier own) :
    DiskContribution (readAll .ieee (earlier ++ [own])) (alone .ieee own) where
  root := by
    rw [diskShares_root, disk_shared, ← List.singleton_append, nonzero_append,
      nonzero_toList_eq_nil_iff.mpr (root_eq_zero earlier own h), List.append_nil]
  extra key pct hpct := by
    rw [extraPct_alone, Option.bind_eq_some_iff] at hpct
    obtain ⟨fs, hfs, hpct⟩ := hpct
    by_cases hkey : key = "root"
    · subst hkey
      obtain ⟨hzero, hdisk⟩ := h.2 fs hfs pct hpct
      rw [diskShares_root, disk_shared, ← List.singleton_append, nonzero_append,
        nonzero_toList_eq_nil_iff.mpr (root_eq_zero earlier own h), List.append_nil, hzero,
        nonzero_singleton_eq_nil_iff.mpr rfl, nonzero_singleton_eq_nil_iff]
      exact hdisk
    · rw [diskShares_of_ne _ hkey, extraPct_shared_of_some earlier own hfs, extraPct_alone, hfs,
        Option.bind_some, hpct]
      rfl
  absent key hkey hnone := by
    rw [diskShares_of_ne _ hkey, nonzero_toList_eq_nil_iff]
    cases hfs : readFs key own with
    | none => exact carried_eq_zero earlier own h hfs
    | some fs =>
        rw [extraPct_shared_of_some earlier own hfs, hnone]
        exact fun pct hpct => by cases hpct

/-- **A record adds what it holds alone exactly when nothing earlier is carried over to it.** -/
theorem sameContribution_iff (name : AlertName) :
    SameContribution name (readAll .ieee (earlier ++ [own])) (alone .ieee own)
      ↔ NothingCarried name earlier own := by
  have hlast := readAll_snoc .ieee earlier own
  constructor
  · rintro ⟨hmetric, hdisk⟩
    cases name with
    | bandwidth => exact (metric_bandwidth_iff earlier own).mp hmetric
    | gpu => exact (metric_gpu_iff earlier own).mp hmetric
    | disk => exact nothingCarried_of_diskContribution earlier own (hdisk rfl)
    | _ => trivial
  · intro h
    cases name with
    | bandwidth => exact ⟨(metric_bandwidth_iff earlier own).mpr h, nofun⟩
    | gpu => exact ⟨(metric_gpu_iff earlier own).mpr h, nofun⟩
    | disk => exact ⟨rfl, fun _ => diskContribution_of_nothingCarried earlier own h⟩
    | _ => exact ⟨by rw [hlast]; rfl, nofun⟩

end Record

end Picket
