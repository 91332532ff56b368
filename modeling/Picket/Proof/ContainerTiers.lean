import Picket.ContainerRecords
import Picket.Proof.RecordTiers

/-!
# Two tiers of container records

What a container contributes to a record is the sum of its entries there, zero where it has none.
An average lists every container that occurs, once, and what a container contributes to it is the
average of its contributions. From there on the arithmetic is that of the system records. The
megabyte fallback applies to raw entries only, because an average carries no megabytes.
-/

namespace Picket

open Averaging FiniteMap Rounding

/-! ### The sums -/

theorem containerSums_eq (records : List (List ContainerStats)) :
    containerSums records = records.flatten.foldl accumulateContainer ∅ :=
  List.foldl_flatten.symm

section Sums

variable {A : Type} [AddCommMonoid A] {f load : ContainerStats → A}

def loadOf (load : ContainerStats → A) (name : String) (record : List ContainerStats) : A :=
  ((record.filter fun stat => stat.name = name).map load).sum

theorem loadOf_cons (name : String) (stat : ContainerStats) (record : List ContainerStats) :
    loadOf load name (stat :: record)
      = (if stat.name = name then load stat else 0) + loadOf load name record := by
  by_cases hname : stat.name = name <;> simp [loadOf, hname]

theorem loadOf_flatten (name : String) (records : List (List ContainerStats)) :
    loadOf load name records.flatten = (records.map (loadOf load name)).sum := by
  rw [loadOf, List.filter_flatten, List.map_flatten, List.sum_flatten, List.map_map, List.map_map]
  rfl

variable (hadd : ∀ sum stat, f (addContainer sum stat) = f sum + load stat)
  (hzero : ∀ name, f { name := name } = 0)
include hadd hzero

theorem valueAt_accumulateContainer (sums : GoMap ContainerStats) (stat : ContainerStats)
    (name : String) :
    valueAt f (accumulateContainer sums stat) name
      = valueAt f sums name + if stat.name = name then load stat else 0 := by
  unfold valueAt accumulateContainer
  by_cases hname : stat.name = name
  · subst hname
    rw [Finmap.lookup_insert, if_pos rfl, Option.elim_some, hadd]
    cases sums.lookup stat.name with
    | none => rw [Option.getD_none, hzero, Option.elim_none]
    | some sum => rw [Option.getD_some, Option.elim_some]
  · rw [Finmap.lookup_insert_of_ne _ (Ne.symm hname), if_neg hname, add_zero]

theorem valueAt_containerSums (records : List (List ContainerStats)) (name : String) :
    valueAt f (containerSums records) name = (records.map (loadOf load name)).sum := by
  have hfold : ∀ (stats : List ContainerStats) (sums : GoMap ContainerStats),
      valueAt f (stats.foldl accumulateContainer sums) name
        = valueAt f sums name + loadOf load name stats := by
    intro stats
    induction stats with
    | nil => simp [loadOf]
    | cons stat stats ih =>
        intro sums
        rw [List.foldl_cons, ih, valueAt_accumulateContainer hadd hzero, loadOf_cons, add_assoc]
  rw [containerSums_eq, hfold, valueAt_empty, zero_add, loadOf_flatten]

end Sums

/-! ### Which containers there are -/

def Occurs (name : String) (records : List (List ContainerStats)) : Prop :=
  ∃ stat ∈ records.flatten, stat.name = name

theorem mem_containerSums {records : List (List ContainerStats)} {name : String} :
    name ∈ containerSums records ↔ Occurs name records := by
  have hfold : ∀ (stats : List ContainerStats) (sums : GoMap ContainerStats),
      name ∈ stats.foldl accumulateContainer sums
        ↔ name ∈ sums ∨ ∃ stat ∈ stats, stat.name = name := by
    intro stats
    induction stats with
    | nil => simp
    | cons stat stats ih =>
        intro sums
        rw [List.foldl_cons, ih, accumulateContainer, Finmap.mem_insert, List.exists_mem_cons_iff,
          or_assoc, or_left_comm, eq_comm]
  rw [containerSums_eq, hfold]
  exact or_iff_right (Finmap.notMem_empty)

theorem name_of_lookup_containerSums {records : List (List ContainerStats)} {name : String}
    {sum : ContainerStats} (hsum : (containerSums records).lookup name = some sum) :
    sum.name = name := by
  have hfold : ∀ (stats : List ContainerStats) (sums : GoMap ContainerStats),
      (∀ key v, sums.lookup key = some v → v.name = key) →
      ∀ key v, (stats.foldl accumulateContainer sums).lookup key = some v → v.name = key := by
    intro stats
    induction stats with
    | nil => exact fun sums hsums => hsums
    | cons stat stats ih =>
        intro sums hsums
        apply ih
        intro key v hv
        by_cases hkey : key = stat.name
        · subst hkey
          rw [accumulateContainer, Finmap.lookup_insert, Option.some.injEq] at hv
          subst hv
          cases hold : sums.lookup stat.name with
          | none => rfl
          | some old => exact hsums stat.name old hold
        · rw [accumulateContainer, Finmap.lookup_insert_of_ne _ hkey] at hv
          exact hsums key v hv
  rw [containerSums_eq] at hsum
  exact hfold _ ∅ (fun key v hv => by simp at hv) name sum hsum

/-! ### The average -/

def averageAt (records : List (List ContainerStats)) (name : String) : ContainerStats :=
  averageContainer records.length (((containerSums records).lookup name).getD { name := name })

/-- **An average lists every container that occurs, once.** -/
theorem IsContainerAverage.exists_visit {records : List (List ContainerStats)}
    {result : List ContainerStats} (haverage : IsContainerAverage records result) :
    ∃ visit : List String, visit.Nodup ∧ (∀ name, name ∈ visit ↔ Occurs name records) ∧
      result = visit.map (averageAt records) := by
  obtain ⟨visit, ⟨hnodup, hmem⟩, rfl⟩ := haverage
  refine ⟨visit, hnodup, fun name => (hmem name).trans mem_containerSums, ?_⟩
  rw [averageContainerStatsSlice]
  split
  case isTrue hlength =>
    have hnil : visit = [] := by
      rw [List.eq_nil_iff_forall_not_mem]
      intro name hname
      rw [List.eq_nil_of_length_eq_zero hlength] at hmem
      exact absurd ((hmem name).mp hname) Finmap.notMem_empty
    rw [hnil, List.map_nil]
  case isFalse =>
    rw [← List.filterMap_eq_map]
    refine List.filterMap_congr fun name hname => ?_
    obtain ⟨sum, hsum⟩ := Finmap.mem_iff.mp ((hmem name).mp hname)
    rw [hsum, Option.map_some, Function.comp_apply, averageAt, hsum, Option.getD_some]

theorem name_averageAt (records : List (List ContainerStats)) (name : String) :
    (averageAt records name).name = name := by
  have hname : (((containerSums records).lookup name).getD { name := name }).name = name := by
    cases hsum : (containerSums records).lookup name with
    | none => rfl
    | some sum => exact name_of_lookup_containerSums hsum
  exact hname

theorem mem_average_iff {records : List (List ContainerStats)} {result : List ContainerStats}
    (haverage : IsContainerAverage records result) (name : String) :
    (∃ stat ∈ result, stat.name = name) ↔ Occurs name records := by
  obtain ⟨visit, -, hmem, rfl⟩ := haverage.exists_visit
  simp only [List.mem_map, exists_exists_and_eq_and, name_averageAt, exists_eq_right]
  exact hmem name

theorem occurs_averages {groups : List (List (List ContainerStats))}
    {averages : List (List ContainerStats)}
    (haverages : List.Forall₂ IsContainerAverage groups averages) (name : String) :
    Occurs name averages ↔ Occurs name groups.flatten := by
  induction haverages with
  | nil => rfl
  | @cons group average groups averages haverage _ ih =>
      unfold Occurs at ih ⊢
      simp only [List.flatten_cons, List.flatten_append, List.mem_append, or_and_right, exists_or]
      exact or_congr (mem_average_iff haverage name) ih

theorem uint64_div (sum : Uint64) (count : ℕ) :
    uint64 ((sum.val : ℚ) / count) = divCount sum count := by
  rw [uint64, Rat.floor_natCast_div_natCast, ← Int.natCast_div, Int.toNat_natCast, divCount]

section Average

variable {A : Type} [AddCommMonoid A] {load : ContainerStats → A} {φ : ℕ → A → A}

/-- A reading of an average, when the second pass maps what the entries add up to. -/
theorem reading_averageAt (f : ContainerStats → A)
    (hadd : ∀ sum stat, f (addContainer sum stat) = f sum + load stat)
    (hzero : ∀ name, f { name := name } = 0)
    (haverage : ∀ count sum, load (averageContainer count sum) = φ count (f sum))
    (records : List (List ContainerStats)) (name : String) :
    load (averageAt records name) = φ records.length (records.map (loadOf load name)).sum := by
  rw [averageAt, haverage, ← valueAt_containerSums hadd hzero, valueAt]
  cases (containerSums records).lookup name with
  | none => rw [Option.getD_none, hzero, Option.elim_none]
  | some sum => rw [Option.getD_some, Option.elim_some]

theorem loadOf_eq_zero {records : List (List ContainerStats)} {name : String}
    (hnot : ¬ Occurs name records) : (records.map (loadOf load name)).sum = 0 := by
  have hnone : (records.flatten.filter fun stat => stat.name = name) = [] := by
    rw [List.filter_eq_nil_iff]
    intro stat hstat hname
    exact hnot ⟨stat, hstat, of_decide_eq_true hname⟩
  rw [← loadOf_flatten, loadOf, hnone, List.map_nil, List.sum_nil]

theorem loadOf_average {records : List (List ContainerStats)} {result : List ContainerStats}
    (haverage : IsContainerAverage records result) (hφ : ∀ count, φ count 0 = 0) {name : String}
    (hload : load (averageAt records name)
      = φ records.length (records.map (loadOf load name)).sum) :
    loadOf load name result = load (averageAt records name) := by
  obtain ⟨visit, hnodup, hmem, rfl⟩ := haverage.exists_visit
  have hfilter : ((visit.map (averageAt records)).filter fun stat => stat.name = name)
      = (visit.filter fun key => key = name).map (averageAt records) := by
    rw [List.filter_map]
    refine congrArg (List.map (averageAt records)) (List.filter_congr fun key _ => ?_)
    rw [Function.comp_apply, name_averageAt]
  rw [loadOf, hfilter, List.map_map]
  by_cases hname : name ∈ visit
  · rw [List.filter_eq, List.count_eq_one_of_mem hnodup hname]
    simp
  · have hnone : (visit.filter fun key => key = name) = [] := by
      rw [List.filter_eq_nil_iff]
      intro key hkey heq
      exact hname (of_decide_eq_true heq ▸ hkey)
    rw [hnone, hload, loadOf_eq_zero fun hoccurs => hname ((hmem name).mpr hoccurs), hφ]
    rfl

theorem loadOf_averages {groups : List (List (List ContainerStats))}
    {averages : List (List ContainerStats)}
    (haverages : List.Forall₂ IsContainerAverage groups averages)
    (hφ : ∀ count, φ count 0 = 0) {name : String}
    (hload : ∀ records : List (List ContainerStats), load (averageAt records name)
      = φ records.length (records.map (loadOf load name)).sum) :
    averages.map (loadOf load name) = groups.map fun group => load (averageAt group name) := by
  induction haverages with
  | nil => rfl
  | cons haverage _ ih =>
      rw [List.map_cons, List.map_cons, ih, loadOf_average haverage hφ (hload _)]

end Average

/-- An average carries no megabytes, so its bytes are read as they are. -/
theorem containerBytes_averageContainer (count : ℕ) (sum : ContainerStats) (i : Fin 2) :
    containerBytes (averageContainer count sum) i = divCount (sum.bandwidth i) count := by
  have hfallback : ¬ ((averageContainer count sum).bandwidth 0 = 0 ∧
      (averageContainer count sum).bandwidth 1 = 0 ∧
      ((averageContainer count sum).networkSent ≠ 0 ∨
        (averageContainer count sum).networkRecv ≠ 0)) := by
    rintro ⟨-, -, hsent | hrecv⟩
    · exact hsent rfl
    · exact hrecv rfl
  rw [containerBytes, if_neg hfallback]
  exact uint64_div (sum.bandwidth i) count

theorem containerBytes_averageAt (records : List (List ContainerStats)) (name : String)
    (i : Fin 2) :
    containerBytes (averageAt records name) i = (averageAt records name).bandwidth i :=
  (containerBytes_averageContainer _ _ i).trans (uint64_div _ _).symm

theorem cpu_averageAt (records : List (List ContainerStats)) (name : String) :
    (averageAt records name).cpu
      = twoDecimals ((records.map (loadOf (·.cpu) name)).sum / records.length) :=
  reading_averageAt (fun sum => sum.cpu) (φ := fun count v => twoDecimals (v / count))
    (fun _ _ => rfl) (fun _ => rfl) (fun _ _ => rfl) records name

theorem mem_averageAt (records : List (List ContainerStats)) (name : String) :
    (averageAt records name).mem
      = twoDecimals ((records.map (loadOf (·.mem) name)).sum / records.length) :=
  reading_averageAt (fun sum => sum.mem) (φ := fun count v => twoDecimals (v / count))
    (fun _ _ => rfl) (fun _ => rfl) (fun _ _ => rfl) records name

theorem bytes_averageAt (i : Fin 2) (records : List (List ContainerStats)) (name : String) :
    containerBytes (averageAt records name) i
      = divCount (records.map (loadOf (fun stat => containerBytes stat i) name)).sum
          records.length :=
  reading_averageAt (fun sum => sum.bandwidth i) (φ := fun count v => divCount v count)
    (fun _ _ => rfl) (fun _ => rfl)
    (fun count sum => containerBytes_averageContainer count sum i) records name

/-! ### The two averages -/

/-- No container's bytes leave the 64 bits they are added up in. -/
def ContainerSumsExact (records : List (List ContainerStats)) : Prop :=
  ∀ (i : Fin 2) name, ((records.flatten.filter fun stat => stat.name = name).map
    fun stat => (containerBytes stat i).val).sum < 2 ^ 64

/-- The mean of what the entries of a container add up to in each record. -/
structure ContainerStats.MeansOf (stat : ContainerStats) (records : List (List ContainerStats)) :
    Prop where
  cpu : stat.cpu =
    twoDecimals ((records.map (loadOf (·.cpu) stat.name)).sum / records.length)
  mem : stat.mem =
    twoDecimals ((records.map (loadOf (·.mem) stat.name)).sum / records.length)
  bandwidth : ∀ i, stat.bandwidth i =
    divCount (records.map (loadOf (fun entry => containerBytes entry i) stat.name)).sum
      records.length

theorem meansOf_averageContainer {records : List (List ContainerStats)}
    {result : List ContainerStats} (haverage : IsContainerAverage records result) :
    ∀ stat ∈ result, stat.MeansOf records := by
  obtain ⟨visit, -, -, rfl⟩ := haverage.exists_visit
  rw [List.forall_mem_map]
  intro name _
  constructor
  · rw [name_averageAt, cpu_averageAt]
  · rw [name_averageAt, mem_averageAt]
  · intro i
    rw [name_averageAt, ← containerBytes_averageAt, bytes_averageAt]

structure ContainerStats.Close (stat stat' : ContainerStats) : Prop where
  name : stat.name = stat'.name
  cpu : FloatClose stat.cpu stat'.cpu
  mem : FloatClose stat.mem stat'.mem
  bandwidth : ∀ i, CountClose (stat.bandwidth i).val (stat'.bandwidth i).val

theorem val_sum_le (xs : List Uint64) : xs.sum.val ≤ (xs.map (·.val)).sum := by
  induction xs with
  | nil => rfl
  | cons x xs ih =>
      rw [List.sum_cons, List.map_cons, List.sum_cons, Fin.val_add]
      exact (Nat.mod_le _ _).trans (Nat.add_le_add_left ih _)

theorem sum_loadOf_lt {records : List (List ContainerStats)} (hfit : ContainerSumsExact records)
    (i : Fin 2) (name : String) :
    ((records.map (loadOf (fun stat => containerBytes stat i) name)).map (·.val)).sum < 2 ^ 64 := by
  refine lt_of_le_of_lt ?_ (hfit i name)
  have hsums : ((records.flatten.filter fun stat => stat.name = name).map
      fun stat => (containerBytes stat i).val).sum
      = (records.map (loadOf (fun stat => (containerBytes stat i).val) name)).sum :=
    loadOf_flatten name records
  rw [hsums, List.map_map]
  apply List.sum_le_sum
  intro record _
  have hle := val_sum_le ((record.filter fun stat => stat.name = name).map
    fun stat => containerBytes stat i)
  rwa [List.map_map] at hle

section Tiers

variable {n : ℕ} {groups : List (List (List ContainerStats))}
  {averages : List (List ContainerStats)}
  (hn : 0 < n) (hlength : ∀ group ∈ groups, group.length = n)
  (haverages : List.Forall₂ IsContainerAverage groups averages)

include hlength in
theorem length_loads {A : Type} [AddCommMonoid A] (load : ContainerStats → A) (name : String) :
    ∀ loads ∈ groups.map (List.map (loadOf load name)), loads.length = n := by
  intro loads hmem
  obtain ⟨group, hin, rfl⟩ := List.mem_map.mp hmem
  rw [List.length_map, hlength group hin]

include hn hlength haverages

theorem container_float_tiers {load : ContainerStats → ℚ} {name : String}
    (hload : ∀ records : List (List ContainerStats), load (averageAt records name)
      = twoDecimals ((records.map (loadOf load name)).sum / records.length)) :
    FloatClose (load (averageAt averages name)) (load (averageAt groups.flatten name)) := by
  have hmean : ∀ records : List (List ContainerStats),
      load (averageAt records name) = roundTo 100 (mean (records.map (loadOf load name))) := by
    intro records
    rw [hload, mean, List.length_map, twoDecimals]
  have hloads : averages.map (loadOf load name)
      = (groups.map (List.map (loadOf load name))).map fun loads => roundTo 100 (mean loads) := by
    rw [loadOf_averages (φ := fun count v => twoDecimals (v / count)) haverages
      twoDecimals_zero_div hload, List.map_map]
    exact List.map_congr_left fun group _ => hmean group
  rw [hmean, hmean, hloads, List.map_flatten]
  exact abs_roundTo_tiers_le (by norm_num) hn (length_loads hlength load name)

theorem container_bytes_tiers (hfit : ContainerSumsExact groups.flatten) (i : Fin 2)
    (name : String) :
    CountClose (containerBytes (averageAt averages name) i).val
      (containerBytes (averageAt groups.flatten name) i).val := by
  have hfits := sum_loadOf_lt hfit i name
  have hloads : averages.map (loadOf (fun stat => containerBytes stat i) name)
      = (groups.map (List.map (loadOf (fun stat => containerBytes stat i) name))).map
          fun loads => divCount loads.sum loads.length := by
    rw [loadOf_averages (φ := fun count v => divCount v count) haverages divCount_zero
      fun records => bytes_averageAt i records name, List.map_map]
    refine List.map_congr_left fun group _ => ?_
    rw [bytes_averageAt, Function.comp_apply, List.length_map]
  rw [List.map_flatten] at hfits
  have hclose := count_tiers hn (length_loads hlength _ name) hfits
  rw [← hloads, ← List.map_flatten, List.length_map, List.length_map] at hclose
  rwa [bytes_averageAt, bytes_averageAt, ← haverages.length_eq]

/-- **The average of averages of container records stays close to the flat one**, container by
container. -/
theorem container_tiers_close {tiered flat : List ContainerStats}
    (hfit : ContainerSumsExact groups.flatten) (htiered : IsContainerAverage averages tiered)
    (hflat : IsContainerAverage groups.flatten flat) :
    ∃ order, tiered.Perm order ∧ List.Forall₂ ContainerStats.Close order flat := by
  obtain ⟨visit, hnodup, hmem, rfl⟩ := htiered.exists_visit
  obtain ⟨visit', hnodup', hmem', rfl⟩ := hflat.exists_visit
  have hperm : visit.Perm visit' := by
    rw [List.perm_ext_iff_of_nodup hnodup hnodup']
    intro name
    rw [hmem, hmem', occurs_averages haverages]
  refine ⟨visit'.map (averageAt averages), hperm.map _, ?_⟩
  rw [List.forall₂_map_left_iff, List.forall₂_map_right_iff, List.forall₂_same]
  intro name _
  constructor
  case name => rw [name_averageAt, name_averageAt]
  case cpu =>
    exact container_float_tiers hn hlength haverages fun records => cpu_averageAt records name
  case mem =>
    exact container_float_tiers hn hlength haverages fun records => mem_averageAt records name
  case bandwidth =>
    intro i
    have hbytes := container_bytes_tiers hn hlength haverages hfit i name
    rwa [containerBytes_averageAt, containerBytes_averageAt] at hbytes

end Tiers

/-- **Average of averages.** Averaging in groups of `n` and averaging the results gives the flat
average up to a hundredth in every float and one in every integer, with the same keys and lengths;
and the flat average is the mean of the records. -/
theorem average_of_averages_close :
    (∀ (n : ℕ) (groups : List (List Stats)), 0 < n → (∀ group ∈ groups, group.length = n) →
      SumsExact groups.flatten →
      Stats.Close (averageSystemStatsSlice (groups.map averageSystemStatsSlice))
          (averageSystemStatsSlice groups.flatten) ∧
        (averageSystemStatsSlice groups.flatten).MeansOf groups.flatten) ∧
    (∀ (n : ℕ) (groups : List (List (List ContainerStats))) (averages : List (List ContainerStats))
      (tiered flat : List ContainerStats), 0 < n → (∀ group ∈ groups, group.length = n) →
      ContainerSumsExact groups.flatten → List.Forall₂ IsContainerAverage groups averages →
      IsContainerAverage averages tiered → IsContainerAverage groups.flatten flat →
      (∃ order, tiered.Perm order ∧ List.Forall₂ ContainerStats.Close order flat) ∧
        ∀ stat ∈ flat, stat.MeansOf groups.flatten) := by
  constructor
  · intro n groups hn hlength hfit
    exact ⟨record_tiers_close hn hlength hfit, meansOf_average groups.flatten⟩
  · intro n groups averages tiered flat hn hlength hfit haverages htiered hflat
    exact ⟨container_tiers_close hn hlength haverages hfit htiered hflat,
      meansOf_averageContainer hflat⟩

/-- A filesystem that only the second record of a group has. -/
def groupedStats : List (List Stats) :=
  [[{ cpu := 1, bandwidth := ![10, 3], cpuCoresUsage := [40] },
    { cpu := 5 / 2, bandwidth := ![5, 0], cpuCoresUsage := [41, 7]
      extraFs := Finmap.singleton "sdb1" { diskUsed := 40, diskReadBytes := 7 } }],
   [{ cpu := 333 / 100, diskIo := ![8, 1], cpuCoresUsage := [12, 99] },
    { cpu := 4, diskIo := ![1, 1]
      extraFs := Finmap.singleton "sdb1" { diskUsed := 41, diskReadBytes := 2 } }]]

theorem sumsExact_groupedStats : SumsExact groupedStats.flatten := by
  constructor
  · intro f
    cases f <;> decide +revert +kernel
  · intro i
    match i with
    | 0 | 1 => decide +kernel
    | i + 2 => exact Nat.two_pow_pos 64
  · intro i key
    simp [groupedStats, valueAt]
  · intro f key
    by_cases hkey : key = "sdb1"
    · subst hkey
      cases f <;> decide +kernel
    · have hnone (fs : FsStats) :
          (Finmap.singleton "sdb1" fs : GoMap FsStats).lookup key = none :=
        Finmap.lookup_eq_none.mpr (by rwa [Finmap.mem_singleton])
      simp [groupedStats, valueAt, hnone]

/-- A container of an older agent, one that is gone from some records, and both from an agent that
reports bytes. -/
def groupedContainers : List (List (List ContainerStats)) :=
  [[[{ name := "web", cpu := 3, networkSent := 3 / 2 }], []],
   [[{ name := "web", cpu := 4, bandwidth := ![5, 0] }, { name := "cache", cpu := 7 / 100 }],
    [{ name := "cache", mem := 64, bandwidth := ![1, 2] }]]]

theorem isContainerAverage_of {visit : List String} {records : List (List ContainerStats)}
    (hnodup : visit.Nodup) (hoccurs : ∀ name, name ∈ visit ↔ Occurs name records) :
    IsContainerAverage records (averageContainerStatsSlice visit records) :=
  ⟨visit, ⟨hnodup, fun name => (hoccurs name).trans mem_containerSums.symm⟩, rfl⟩

theorem containerSumsExact_groupedContainers :
    ContainerSumsExact groupedContainers.flatten := by
  intro i name
  by_cases hweb : "web" = name
  · subst hweb
    revert i
    decide +kernel
  · by_cases hcache : "cache" = name
    · subst hcache
      revert i
      decide +kernel
    · simp [groupedContainers, hweb, hcache]

theorem average_of_averages_close_grouped :
    (Stats.Close (averageSystemStatsSlice (groupedStats.map averageSystemStatsSlice))
        (averageSystemStatsSlice groupedStats.flatten) ∧
      (averageSystemStatsSlice groupedStats.flatten).MeansOf groupedStats.flatten) ∧
    (∃ order,
      (averageContainerStatsSlice ["cache", "web"]
        [averageContainerStatsSlice ["web"] groupedContainers[0],
          averageContainerStatsSlice ["web", "cache"] groupedContainers[1]]).Perm order ∧
      List.Forall₂ ContainerStats.Close order
        (averageContainerStatsSlice ["web", "cache"] groupedContainers.flatten)) ∧
    ∀ stat ∈ averageContainerStatsSlice ["web", "cache"] groupedContainers.flatten,
      stat.MeansOf groupedContainers.flatten := by
  have haverages : List.Forall₂ IsContainerAverage groupedContainers
      [averageContainerStatsSlice ["web"] groupedContainers[0],
        averageContainerStatsSlice ["web", "cache"] groupedContainers[1]] := by
    refine .cons (isContainerAverage_of (by decide) fun name => ?_)
      (.cons (isContainerAverage_of (by decide) fun name => ?_) .nil)
    · simp [Occurs, eq_comm]
    · simp [Occurs, eq_comm]
  have hoccurs (name : String) :
      Occurs name groupedContainers.flatten ↔ name = "web" ∨ name = "cache" := by
    simp [groupedContainers, Occurs, eq_comm]
  constructor
  · refine average_of_averages_close.1 2 groupedStats Nat.two_pos ?_ sumsExact_groupedStats
    simp [groupedStats]
  · refine average_of_averages_close.2 2 groupedContainers _ _ _ Nat.two_pos ?_
      containerSumsExact_groupedContainers haverages ?_ ?_
    · simp [groupedContainers]
    · refine isContainerAverage_of (by decide) fun name => ?_
      rw [occurs_averages haverages, hoccurs]
      simp [or_comm]
    · refine isContainerAverage_of (by decide) fun name => ?_
      rw [hoccurs]
      simp

end Picket
