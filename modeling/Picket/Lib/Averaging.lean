import Mathlib.Algebra.BigOperators.Group.List.Basic
import Mathlib.Algebra.Order.BigOperators.Group.List
import Picket.Lib.Rounding

/-!
# Averages of averages

Values in groups of equal size are averaged group by group, and the group averages once more. If
every average is rounded on its way, how far can the result be from the rounded average of all the
values? Rounding to the nearest grid point moves an average by half a step at most, so three
roundings move the two results apart by less than two steps, which is one step on the grid.
Truncation is one-sided, which keeps it within one as well.
-/

namespace Averaging

open Rounding

def mean (xs : List ℚ) : ℚ :=
  xs.sum / xs.length

/-! ### Rounding to the nearest -/

theorem abs_roundHalfAway_sub_le (x : ℚ) : |(roundHalfAway x : ℚ) - x| ≤ 1 / 2 := by
  unfold roundHalfAway
  split
  · have hle := Int.floor_le (-x + 1 / 2)
    have hlt := Int.lt_floor_add_one (-x + 1 / 2)
    push_cast
    rw [abs_le]
    constructor <;> linarith
  · have hle := Int.floor_le (x + 1 / 2)
    have hlt := Int.lt_floor_add_one (x + 1 / 2)
    rw [abs_le]
    constructor <;> linarith

theorem length_flatten_of_forall {α : Type*} {n : ℕ} {groups : List (List α)}
    (hlength : ∀ group ∈ groups, group.length = n) :
    groups.flatten.length = groups.length * n := by
  rw [List.length_flatten, List.map_congr_left hlength, List.map_const', List.sum_replicate,
    nsmul_eq_mul, Nat.cast_id]

theorem mean_flatten {n : ℕ} {groups : List (List ℚ)}
    (hlength : ∀ group ∈ groups, group.length = n) (hn : 0 < n) :
    mean groups.flatten = mean (groups.map mean) := by
  have hne : (n : ℚ) ≠ 0 := by positivity
  have hsum : (groups.map mean).sum = groups.flatten.sum / n := by
    clear hn
    induction groups with
    | nil => simp
    | cons group groups ih =>
        rw [List.map_cons, List.sum_cons, List.flatten_cons, List.sum_append,
          ih fun other hmem => hlength other (List.mem_cons_of_mem _ hmem), mean,
          hlength group List.mem_cons_self, add_div]
  rw [mean, mean, hsum, length_flatten_of_forall hlength, List.length_map]
  push_cast
  rw [div_div, mul_comm (n : ℚ)]

theorem abs_sum_sub_sum_le {α : Type*} {e : ℚ} {f g : α → ℚ} {xs : List α}
    (hclose : ∀ x ∈ xs, |f x - g x| ≤ e) :
    |(xs.map f).sum - (xs.map g).sum| ≤ xs.length * e := by
  induction xs with
  | nil => simp
  | cons x xs ih =>
      have hhead := hclose x List.mem_cons_self
      have htail := ih fun y hy => hclose y (List.mem_cons_of_mem x hy)
      simp only [List.map_cons, List.sum_cons, List.length_cons, Nat.cast_succ]
      calc |f x + (xs.map f).sum - (g x + (xs.map g).sum)|
          = |(f x - g x) + ((xs.map f).sum - (xs.map g).sum)| := by rw [add_sub_add_comm]
        _ ≤ |f x - g x| + |(xs.map f).sum - (xs.map g).sum| := abs_add_le _ _
        _ ≤ (xs.length + 1) * e := by linarith

theorem abs_mean_sub_mean_le {α : Type*} {e : ℚ} (he : 0 ≤ e) {f g : α → ℚ} {xs : List α}
    (hclose : ∀ x ∈ xs, |f x - g x| ≤ e) : |mean (xs.map f) - mean (xs.map g)| ≤ e := by
  have hsum := abs_sum_sub_sum_le hclose
  rw [mean, mean, List.length_map, List.length_map, ← sub_div, abs_div, Nat.abs_cast]
  exact div_le_of_le_mul₀ (Nat.cast_nonneg _) he (by linarith)

theorem abs_intCast_sub_le {a b : ℤ} (hlt : |(a : ℚ) - b| < 2) : |(a : ℚ) - b| ≤ 1 := by
  have hint : |a - b| < 2 := by exact_mod_cast hlt
  have hle : |a - b| ≤ 1 := by omega
  exact_mod_cast hle

/-- **Averages of averages, rounded to the nearest.** -/
theorem abs_roundTo_tiers_le {scale : ℕ} (hscale : 0 < scale) {n : ℕ} (hn : 0 < n)
    {groups : List (List ℚ)} (hlength : ∀ group ∈ groups, group.length = n) :
    |roundTo scale (mean (groups.map fun group => roundTo scale (mean group)))
      - roundTo scale (mean groups.flatten)| ≤ 1 / scale := by
  have hpos : (0 : ℚ) < scale := by exact_mod_cast hscale
  have herror : ∀ x : ℚ, |roundTo scale x * scale - x * scale| ≤ 1 / 2 := by
    intro x
    rw [roundTo, div_mul_cancel₀ _ hpos.ne']
    exact abs_roundHalfAway_sub_le _
  -- everything in steps of the grid
  have hmeans : |mean (groups.map fun group => roundTo scale (mean group)) * scale
      - mean groups.flatten * scale| ≤ 1 / 2 := by
    have hgroup : ∀ group ∈ groups, |roundTo scale (mean group) - mean group| ≤ 1 / 2 / scale := by
      intro group _
      rw [le_div_iff₀ hpos, ← abs_of_pos hpos, ← abs_mul, sub_mul]
      exact herror (mean group)
    have hclose := abs_mean_sub_mean_le (by positivity) hgroup
    rwa [← mean_flatten hlength hn, le_div_iff₀ hpos, ← abs_of_pos hpos, ← abs_mul,
      sub_mul] at hclose
  have htiered := herror (mean (groups.map fun group => roundTo scale (mean group)))
  have hflat := herror (mean groups.flatten)
  rw [roundTo, roundTo, ← sub_div, abs_div, abs_of_pos hpos]
  refine div_le_div_of_nonneg_right (abs_intCast_sub_le ?_) hpos.le
  rw [roundTo, div_mul_cancel₀ _ hpos.ne'] at htiered hflat
  rw [abs_le] at hmeans htiered hflat
  rw [abs_lt]
  constructor <;> linarith [hmeans.1, hmeans.2, htiered.1, htiered.2, hflat.1, hflat.2]

/-! ### Truncating -/

theorem sum_div_le (n : ℕ) (sums : List ℕ) : (sums.map (· / n)).sum * n ≤ sums.sum := by
  induction sums with
  | nil => simp
  | cons a sums ih =>
      have hle := Nat.div_mul_le_self a n
      simp only [List.map_cons, List.sum_cons, add_mul]
      omega

theorem sum_le_sum_div {n : ℕ} (hn : 0 < n) (sums : List ℕ) :
    sums.sum ≤ ((sums.map (· / n)).sum + sums.length) * n := by
  induction sums with
  | nil => simp
  | cons a sums ih =>
      have hlt := Nat.lt_div_mul_add (a := a) hn
      simp only [List.map_cons, List.sum_cons, List.length_cons]
      have hexpand : (a / n + (sums.map (· / n)).sum + (sums.length + 1)) * n
          = (a / n * n + n) + ((sums.map (· / n)).sum + sums.length) * n := by ring
      omega

/-- **Averages of averages, truncated.** -/
theorem div_tiers {n : ℕ} (hn : 0 < n) (sums : List ℕ) :
    (sums.map (· / n)).sum / sums.length ≤ sums.sum / (sums.length * n) ∧
      sums.sum / (sums.length * n) ≤ (sums.map (· / n)).sum / sums.length + 1 := by
  rcases Nat.eq_zero_or_pos sums.length with hzero | hpos
  · simp [hzero]
  · have hflat : sums.sum / (sums.length * n) = sums.sum / n / sums.length := by
      rw [Nat.div_div_eq_div_mul, Nat.mul_comm]
    have hlow : (sums.map (· / n)).sum ≤ sums.sum / n :=
      (Nat.le_div_iff_mul_le hn).mpr (sum_div_le n sums)
    have hhigh : sums.sum / n ≤ (sums.map (· / n)).sum + sums.length :=
      Nat.div_le_of_le_mul (by rw [Nat.mul_comm]; exact sum_le_sum_div hn sums)
    rw [hflat]
    refine ⟨Nat.div_le_div_right hlow, ?_⟩
    calc sums.sum / n / sums.length
        ≤ ((sums.map (· / n)).sum + sums.length) / sums.length := Nat.div_le_div_right hhigh
      _ = (sums.map (· / n)).sum / sums.length + 1 := Nat.add_div_right _ hpos

end Averaging
