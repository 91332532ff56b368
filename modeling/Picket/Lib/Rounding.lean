import Mathlib.Algebra.Order.Floor.Ring
import Mathlib.Data.Rat.Floor
import Mathlib.Tactic.Linarith
import Mathlib.Tactic.Positivity
import Mathlib.Tactic.FieldSimp

/-!
# Rounding to a decimal grid

Rounding to the nearest multiple of `1 / scale`, ties away from zero. Two facts about it carry the
accounting of averages: a value already on the grid is its own rounding, and rounding is monotone,
so a value below a grid point rounds to something below it as well.
-/

namespace Rounding

/-- The nearest integer, ties away from zero. -/
def roundHalfAway (x : ℚ) : ℤ :=
  if x < 0 then -⌊-x + 1 / 2⌋ else ⌊x + 1 / 2⌋

@[simp]
theorem roundHalfAway_intCast (z : ℤ) : roundHalfAway (z : ℚ) = z := by
  have hfloor : ∀ w : ℤ, ⌊(w : ℚ) + 1 / 2⌋ = w := by
    intro w
    rw [Int.floor_eq_iff]
    constructor <;> linarith
  unfold roundHalfAway
  split
  · rw [← Int.cast_neg, hfloor, neg_neg]
  · exact hfloor z

theorem roundHalfAway_nonneg {x : ℚ} (hx : 0 ≤ x) : 0 ≤ roundHalfAway x := by
  rw [roundHalfAway, if_neg (not_lt.mpr hx)]
  exact Int.floor_nonneg.mpr (by linarith)

theorem roundHalfAway_mono {x y : ℚ} (hxy : x ≤ y) : roundHalfAway x ≤ roundHalfAway y := by
  by_cases hx : x < 0
  · by_cases hy : y < 0
    · rw [roundHalfAway, roundHalfAway, if_pos hx, if_pos hy]
      exact neg_le_neg (Int.floor_le_floor (by linarith))
    · have hneg : roundHalfAway x ≤ 0 := by
        rw [roundHalfAway, if_pos hx]
        exact neg_nonpos.mpr (Int.floor_nonneg.mpr (by linarith))
      exact hneg.trans (roundHalfAway_nonneg (not_lt.mp hy))
  · have hy : ¬ y < 0 := fun hneg => hx (hxy.trans_lt hneg)
    rw [roundHalfAway, roundHalfAway, if_neg hx, if_neg hy]
    exact Int.floor_le_floor (by linarith)

def OnGrid (scale : ℕ) (x : ℚ) : Prop :=
  ∃ z : ℤ, x = z / scale

def roundTo (scale : ℕ) (x : ℚ) : ℚ :=
  roundHalfAway (x * scale) / scale

theorem onGrid_roundTo (scale : ℕ) (x : ℚ) : OnGrid scale (roundTo scale x) :=
  ⟨roundHalfAway (x * scale), rfl⟩

theorem onGrid_zero (scale : ℕ) : OnGrid scale 0 :=
  ⟨0, by simp⟩

theorem OnGrid.max {scale : ℕ} {x y : ℚ} (hx : OnGrid scale x) (hy : OnGrid scale y) :
    OnGrid scale (x ⊔ y) := by
  rcases max_choice x y with h | h <;> rw [h] <;> assumption

theorem roundTo_nonneg {scale : ℕ} {x : ℚ} (hx : 0 ≤ x) : 0 ≤ roundTo scale x := by
  have hround : 0 ≤ roundHalfAway (x * scale) := roundHalfAway_nonneg (by positivity)
  exact div_nonneg (by exact_mod_cast hround) (by positivity)

section Positive

variable {scale : ℕ} (hscale : 0 < scale)
include hscale

theorem onGrid_natCast (n : ℕ) : OnGrid scale n := by
  have hne : (scale : ℚ) ≠ 0 := by positivity
  exact ⟨n * scale, by push_cast; field_simp⟩

theorem roundTo_of_onGrid {x : ℚ} (hx : OnGrid scale x) : roundTo scale x = x := by
  obtain ⟨z, rfl⟩ := hx
  have hne : (scale : ℚ) ≠ 0 := by positivity
  rw [roundTo, div_mul_cancel₀ _ hne, roundHalfAway_intCast]

theorem roundTo_mono {x y : ℚ} (hxy : x ≤ y) : roundTo scale x ≤ roundTo scale y := by
  have hpos : (0 : ℚ) < scale := by exact_mod_cast hscale
  have hround : roundHalfAway (x * scale) ≤ roundHalfAway (y * scale) :=
    roundHalfAway_mono (mul_le_mul_of_nonneg_right hxy hpos.le)
  exact div_le_div_of_nonneg_right (by exact_mod_cast hround) hpos.le

theorem roundTo_le {x y : ℚ} (hxy : x ≤ y) (hy : OnGrid scale y) : roundTo scale x ≤ y :=
  (roundTo_mono hscale hxy).trans_eq (roundTo_of_onGrid hscale hy)

end Positive

end Rounding
