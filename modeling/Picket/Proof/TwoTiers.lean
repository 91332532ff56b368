import Mathlib.Algebra.Group.Fin.Basic
import Picket.Lib.Averaging
import Picket.Lib.Rollup
import Picket.Proof.Fields

/-!
# The average of group averages

Records in groups of equal size, averaged group by group and once more: each averaged field of the
result comes close to that of the flat average. A field that is missing from a record counts as
zero, in both, so every field is treated as a reading that is there for every record; which keys and
how many list elements there are is settled separately.
-/

namespace Picket

open Averaging FiniteMap Rollup Rounding

/-! ### Readings of an average -/

section Reading

variable {records : List Stats}

/-- A reading that starts at zero, that every record adds to and that the second pass maps. -/
theorem reading_sum {A B : Type} [AddCommMonoid A] (sum : Totals → A) {load : Stats → A}
    {top : Stats → B} {φ : ℕ → A → B} (hempty : top {} = φ 0 0) (hzero : sum {} = 0)
    (hadd : ∀ totals r, sum (accumulate totals r) = sum totals + load r)
    (haverage : ∀ count totals, top (computeAverages count totals) = φ count (sum totals)) :
    top (averageSystemStatsSlice records) = φ records.length (records.map load).sum := by
  have hfold : ∀ totals, sum (records.foldl accumulate totals)
      = sum totals + (records.map load).sum := by
    induction records with
    | nil => simp
    | cons r records ih =>
        intro totals
        rw [List.foldl_cons, ih, hadd, List.map_cons, List.sum_cons, add_assoc]
  by_cases hnil : records = []
  · rw [hnil, averageSystemStatsSlice_nil]
    exact hempty
  · rw [averageSystemStatsSlice_of_ne_nil hnil, haverage, hfold, hzero, zero_add]

/-- A reading that every record joins to and that the second pass leaves alone. -/
theorem reading_join {P : Type} [SemilatticeSup P] (base : P) (sum : Totals → P)
    (top : Stats → P)
    (hempty : top {} = base) (hzero : sum {} = base)
    (hadd : ∀ totals r, sum (accumulate totals r) = sum totals ⊔ top r)
    (haverage : ∀ count totals, top (computeAverages count totals) = sum totals) :
    top (averageSystemStatsSlice records) = joinFrom base top records := by
  by_cases hnil : records = []
  · rw [hnil, averageSystemStatsSlice_nil, hempty, joinFrom_nil]
  · have hfold := foldl_eq_joinFrom sum (fun totals r (_ : r ∈ records) => hadd totals r) {}
    rw [averageSystemStatsSlice_of_ne_nil hnil, haverage, hfold, hzero]

end Reading

/-! ### Two tiers of a reading -/

section Tiers

variable {n : ℕ} {groups : List (List Stats)}

theorem join_tiers {P : Type} [SemilatticeSup P] {base : P} (top : Stats → P)
    (haverage : ∀ records, top (averageSystemStatsSlice records) = joinFrom base top records) :
    top (averageSystemStatsSlice (groups.map averageSystemStatsSlice))
      = top (averageSystemStatsSlice groups.flatten) := by
  calc top (averageSystemStatsSlice (groups.map averageSystemStatsSlice))
      = joinFrom base (fun group => top (averageSystemStatsSlice group)) groups := by
        rw [haverage, joinFrom_map]
    _ = joinFrom base (joinFrom base top) groups :=
        joinFrom_congr fun group _ => haverage group
    _ = top (averageSystemStatsSlice groups.flatten) := by
        rw [haverage, joinFrom_flatten]

variable (hn : 0 < n) (hlength : ∀ group ∈ groups, group.length = n)
include hn hlength

theorem float_tiers {scale : ℕ} (hscale : 0 < scale) (top : Stats → ℚ)
    (hgroup : ∀ group ∈ groups,
      top (averageSystemStatsSlice group) = roundTo scale (mean (group.map top)))
    (htiered : top (averageSystemStatsSlice (groups.map averageSystemStatsSlice))
      = roundTo scale (mean ((groups.map averageSystemStatsSlice).map top)))
    (hflat : top (averageSystemStatsSlice groups.flatten)
      = roundTo scale (mean (groups.flatten.map top))) :
    |top (averageSystemStatsSlice (groups.map averageSystemStatsSlice))
      - top (averageSystemStatsSlice groups.flatten)| ≤ 1 / scale := by
  have hvalues : ∀ values ∈ groups.map (List.map top), values.length = n := by
    intro values hmem
    obtain ⟨group, hin, rfl⟩ := List.mem_map.mp hmem
    rw [List.length_map, hlength group hin]
  have hmeans : (groups.map averageSystemStatsSlice).map top
      = (groups.map (List.map top)).map fun values => roundTo scale (mean values) := by
    rw [List.map_map, List.map_map]
    exact List.map_congr_left hgroup
  rw [htiered, hflat, hmeans, List.map_flatten]
  exact abs_roundTo_tiers_le hscale hn hvalues

end Tiers

/-! ### Integers -/

def CountClose (a b : ℕ) : Prop :=
  a ≤ b + 1 ∧ b ≤ a + 1

theorem val_sum_of_lt {xs : List Uint64} (hfit : (xs.map (·.val)).sum < 2 ^ 64) :
    xs.sum.val = (xs.map (·.val)).sum := by
  induction xs with
  | nil => rfl
  | cons x xs ih =>
      simp only [List.map_cons, List.sum_cons] at hfit ⊢
      rw [Fin.val_add, ih (by omega), Nat.mod_eq_of_lt hfit]

theorem val_divCount (sum : Uint64) (count : ℕ) : (divCount sum count).val = sum.val / count :=
  Nat.mod_eq_of_lt ((Nat.div_le_self _ _).trans_lt sum.isLt)

theorem count_tiers {n : ℕ} (hn : 0 < n) {groups : List (List Uint64)}
    (hlength : ∀ group ∈ groups, group.length = n)
    (hfit : (groups.flatten.map (·.val)).sum < 2 ^ 64) :
    CountClose
      (divCount (groups.map fun group => divCount group.sum group.length).sum groups.length).val
      (divCount groups.flatten.sum groups.flatten.length).val := by
  have hsums : (groups.flatten.map (·.val)).sum
      = (groups.map fun group => (group.map (·.val)).sum).sum := by
    rw [List.map_flatten, List.sum_flatten, List.map_map]
    rfl
  have hgroup : ∀ group ∈ groups, group.sum.val = (group.map (·.val)).sum := by
    intro group hmem
    refine val_sum_of_lt (lt_of_le_of_lt ?_ hfit)
    rw [hsums]
    exact List.single_le_sum (fun _ _ => Nat.zero_le _) _ (List.mem_map_of_mem hmem)
  have hvalues : (groups.map fun group => divCount group.sum group.length).map (·.val)
      = (groups.map fun group => (group.map (·.val)).sum).map (· / n) := by
    rw [List.map_map, List.map_map]
    refine List.map_congr_left fun group hmem => ?_
    simp only [Function.comp_apply]
    rw [val_divCount, hgroup group hmem, hlength group hmem]
  have htiers := div_tiers hn (groups.map fun group => (group.map (·.val)).sum)
  have htiered : (groups.map fun group => divCount group.sum group.length).sum.val
      = ((groups.map fun group => (group.map (·.val)).sum).map (· / n)).sum := by
    rw [← hvalues]
    refine val_sum_of_lt (lt_of_le_of_lt ?_ hfit)
    rw [hvalues, hsums]
    exact (Nat.le_mul_of_pos_right _ hn).trans (sum_div_le n _)
  rw [List.length_map] at htiers
  rw [val_divCount, val_divCount, htiered, val_sum_of_lt hfit, hsums,
    length_flatten_of_forall hlength]
  exact ⟨htiers.1.trans (Nat.le_succ _), htiers.2⟩

/-! ### The readings of a record -/

def AveragesFloat (top : Stats → ℚ) : Prop :=
  ∀ records, top (averageSystemStatsSlice records) = roundTo 100 (mean (records.map top))

def AveragesCount (top : Stats → Uint64) : Prop :=
  ∀ records, top (averageSystemStatsSlice records) = divCount (records.map top).sum records.length

theorem twoDecimals_zero_div (count : ℕ) : twoDecimals (0 / count) = 0 := by
  rw [zero_div, twoDecimals, roundTo_of_onGrid (by norm_num) (onGrid_zero 100)]

theorem divCount_zero (count : ℕ) : divCount 0 count = 0 := by
  rw [divCount, Fin.val_zero, Nat.zero_div, Fin.ofNat_zero]

theorem averagesFloat_of (sum : Totals → ℚ) {top : Stats → ℚ} (hempty : top {} = 0)
    (hzero : sum {} = 0)
    (hadd : ∀ totals r, sum (accumulate totals r) = sum totals + top r)
    (haverage : ∀ count totals,
      top (computeAverages count totals) = twoDecimals (sum totals / count)) :
    AveragesFloat top := by
  intro records
  have hnone : top {} = twoDecimals (0 / (0 : ℕ)) := hempty.trans (twoDecimals_zero_div 0).symm
  rw [reading_sum sum (φ := fun count s => twoDecimals (s / count)) hnone hzero hadd haverage, mean,
    List.length_map, twoDecimals]

theorem averagesCount_of (sum : Totals → Uint64) {top : Stats → Uint64} (hempty : top {} = 0)
    (hzero : sum {} = 0)
    (hadd : ∀ totals r, sum (accumulate totals r) = sum totals + top r)
    (haverage : ∀ count totals, top (computeAverages count totals) = divCount (sum totals) count) :
    AveragesCount top := by
  intro records
  exact reading_sum sum (φ := fun count s => divCount s count) hempty hzero hadd haverage

theorem FloatField.averages (f : FloatField) : AveragesFloat f.value :=
  averagesFloat_of (fun totals => f.value totals.sum) f.value_empty f.value_empty
    f.value_accumulate f.value_computeAverages

theorem CountField.averages (f : CountField) : AveragesCount f.value :=
  averagesCount_of (fun totals => f.value totals.sum) f.value_empty f.value_empty
    f.value_accumulate f.value_computeAverages

theorem FsFloatField.averages (f : FsFloatField) (key : String) :
    AveragesFloat fun s => valueAt f.value s.extraFs key := by
  apply averagesFloat_of (fun totals => valueAt f.value totals.sum.extraFs key)
  · exact valueAt_empty f.value key
  · exact valueAt_empty f.value key
  · intro totals r
    exact valueAt_accumulate accumulateFs (fun _ => {}) f.value_accumulateFs
      (fun _ => f.value_empty) totals.sum.extraFs r.extraFs key
  · intro count totals
    exact valueAt_mapVal (φ := fun s => twoDecimals (s / count)) (f.value_averageFs count)
      (twoDecimals_zero_div count) totals.sum.extraFs key

theorem FsCountField.averages (f : FsCountField) (key : String) :
    AveragesCount fun s => valueAt f.value s.extraFs key := by
  apply averagesCount_of (fun totals => valueAt f.value totals.sum.extraFs key)
  · exact valueAt_empty f.value key
  · exact valueAt_empty f.value key
  · intro totals r
    exact valueAt_accumulate accumulateFs (fun _ => {}) f.value_accumulateFs
      (fun _ => f.value_empty) totals.sum.extraFs r.extraFs key
  · intro count totals
    exact valueAt_mapVal (φ := fun s => divCount s count) (f.value_averageFs count)
      (divCount_zero count) totals.sum.extraFs key

/-- The sent and the received bytes of an interface; the other two are totals, kept as peaks. -/
def interfaceRate (i : Fin 2) (value : Fin 4 → Uint64) : Uint64 :=
  value (i.castLE rates_le)

theorem interface_averages (i : Fin 2) (key : String) :
    AveragesCount fun s => valueAt (interfaceRate i) s.networkInterfaces key := by
  apply averagesCount_of
    (fun totals => valueAt (interfaceRate i) totals.sum.networkInterfaces key)
  · exact valueAt_empty _ key
  · exact valueAt_empty _ key
  · intro totals r
    refine valueAt_accumulate accumulateInterface (fun _ => 0) (fun v w => ?_) (fun _ => rfl)
      totals.sum.networkInterfaces r.networkInterfaces key
    match i with
    | 0 => rfl
    | 1 => rfl
  · intro count totals
    refine valueAt_mapVal (φ := fun s => divCount s count) (fun v => ?_) (divCount_zero count)
      totals.sum.networkInterfaces key
    match i with
    | 0 => rfl
    | 1 => rfl

theorem gpuData_averages {value : GPUData → ℚ} (id : String)
    (hnew : ∀ name, value { name := name } = 0)
    (hadd : ∀ gpu w, value (accumulateGpu gpu w) = value gpu + value w)
    (haverage : ∀ count gpu, value (averageGpu count gpu) = twoDecimals (value gpu / count)) :
    AveragesFloat fun s => valueAt value s.gpuData id := by
  apply averagesFloat_of (fun totals => valueAt value totals.sum.gpuData id)
  · exact valueAt_empty value id
  · exact valueAt_empty value id
  · intro totals r
    exact valueAt_accumulate accumulateGpu (fun w => { name := w.name }) hadd
      (fun w => hnew w.name) totals.sum.gpuData r.gpuData id
  · intro count totals
    exact valueAt_mapVal (φ := fun s => twoDecimals (s / count)) (haverage count)
      (twoDecimals_zero_div count) totals.sum.gpuData id

theorem engine_averages (engine id : String) :
    AveragesFloat fun s =>
      valueAt (fun gpu => valueAt (fun v : ℚ => v) gpu.engines engine) s.gpuData id := by
  apply gpuData_averages
  · intro name
    exact valueAt_empty _ engine
  · intro gpu w
    exact valueAt_accumulate (fun sum v => sum + v) (fun _ => 0) (fun _ _ => rfl) (fun _ => rfl)
      gpu.engines w.engines engine
  · intro count gpu
    have hmap := valueAt_mapVal (f := fun v : ℚ => v) (g := fun v : ℚ => v)
      (h := fun v => twoDecimals (v / count)) (φ := fun v => twoDecimals (v / count))
      (fun _ => rfl) (twoDecimals_zero_div count) gpu.engines engine
    exact hmap

end Picket
