import Mathlib.Data.ZMod.Defs
import Mathlib.Data.Nat.Basic

/-!
# Unsigned words

A difference of two words is exact when nothing is taken from less than itself, and is as far below
the modulus otherwise; so is its product with a factor, while that product stays below the modulus.
-/

namespace Unsigned

variable {n : ℕ} {a b k : Fin n}

theorem val_sub_of_lt (hlt : a < b) : (a - b).val = n - (b.val - a.val) := by
  have hval := Fin.coe_sub_iff_lt.mpr hlt
  have hval_lt : a.val < b.val := hlt
  have hb := b.isLt
  omega

theorem val_mul_of_lt (hlt : a.val * k.val < n) : (a * k).val = a.val * k.val :=
  Nat.mod_eq_of_lt hlt

theorem val_sub_mul_of_le (hle : b ≤ a) (hlt : (a.val - b.val) * k.val < n) :
    ((a - b) * k).val = (a.val - b.val) * k.val := by
  have hval := Fin.sub_val_of_le hle
  rw [val_mul_of_lt (by rwa [hval]), hval]

theorem val_sub_mul_of_lt (hlt : a < b) (hk : 0 < k.val) (hsmall : (b.val - a.val) * k.val < n) :
    ((a - b) * k).val = n - (b.val - a.val) * k.val := by
  have hval := val_sub_of_lt hlt
  have hlt_val : a.val < b.val := hlt
  have hb := b.isLt
  obtain ⟨x, hx⟩ : ∃ x, b.val - a.val = x := ⟨_, rfl⟩
  have hpos : 0 < x * k.val := Nat.mul_pos (by omega) hk
  rw [hx] at hval hsmall ⊢
  have hsplit : (n - x) * k.val = (n - x * k.val) + n * (k.val - 1) := by
    obtain ⟨m, hm⟩ : ∃ m, k.val = m + 1 := ⟨k.val - 1, by omega⟩
    rw [hm] at hsmall ⊢
    rw [Nat.sub_mul, Nat.mul_succ n, Nat.add_sub_cancel]
    omega
  rw [Fin.val_mul, hval, hsplit, Nat.add_mul_mod_self_left]
  exact Nat.mod_eq_of_lt (by omega)

/-- A difference of sums that are kept modulo `n` is exact while it stays below `n`. -/
theorem val_ofNat_sub_ofNat [NeZero n] {x y : ℕ} (hle : y ≤ x) (hlt : x - y < n) :
    (Fin.ofNat n x - Fin.ofNat n y).val = x - y := by
  obtain ⟨d, rfl⟩ := Nat.exists_eq_add_of_le hle
  rw [Nat.add_sub_cancel_left] at hlt ⊢
  have hy : y % n < n := Nat.mod_lt y (Nat.pos_of_neZero n)
  have hsplit : n - y % n + (y + d) = d + n * (y / n + 1) := by
    have hdiv := Nat.mod_add_div y n
    rw [Nat.mul_succ]
    omega
  change (n - y % n + (y + d) % n) % n = d
  rw [Nat.add_mod_mod, hsplit, Nat.add_mul_mod_self_left, Nat.mod_eq_of_lt hlt]

end Unsigned
