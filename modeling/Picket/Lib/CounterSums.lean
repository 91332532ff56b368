import Mathlib.Algebra.BigOperators.Group.Finset.Basic
import Mathlib.Algebra.Order.BigOperators.Group.Finset
import Mathlib.Algebra.BigOperators.Ring.Finset
import Mathlib.Tactic.Linarith

/-!
# Sums of counters and their differences

Some counters are read twice. A counter that is below where it was has started again, and one that
is only in one of the readings has not grown. The sum of the counters grows by what they grow by,
and by what appears less what is lost: this is hidden from who looks at the counters one by one.
-/

namespace CounterSums

open Finset

variable {ι : Type*}

/-- What a counter has grown by. -/
def growth : Option ℕ → Option ℕ → ℕ
  | some before, some now => if before ≤ now then now - before else now
  | _, _ => 0

/-- What the values differ by beyond that. -/
def hidden : Option ℕ → Option ℕ → ℤ
  | some before, some now => if before ≤ now then 0 else -before
  | some before, none => -before
  | none, now => now.getD 0

theorem getD_sub_getD (before now : Option ℕ) :
    (now.getD 0 : ℤ) - before.getD 0 = growth before now + hidden before now := by
  cases before with
  | none => simp [growth, hidden]
  | some before =>
      cases now with
      | none => simp [growth, hidden]
      | some now =>
          simp only [growth, hidden, Option.getD_some]
          split
          case isTrue hle => rw [Nat.cast_sub hle, add_zero]
          case isFalse => rw [Int.sub_eq_add_neg]

/-- The sum of the counters grows by what they grow by and by what is hidden. -/
theorem sum_sub_sum (s : Finset ι) (before now : ι → Option ℕ) :
    ((∑ i ∈ s, (now i).getD 0 : ℕ) : ℤ) - (∑ i ∈ s, (before i).getD 0 : ℕ) =
      (∑ i ∈ s, growth (before i) (now i) : ℕ) + ∑ i ∈ s, hidden (before i) (now i) := by
  push_cast
  rw [← sum_sub_distrib, ← sum_add_distrib]
  exact sum_congr rfl fun i _ => getD_sub_getD (before i) (now i)

section Rates

variable (s : Finset ι) (x : ι → ℕ) {m : ℕ}

theorem sum_eq_mul_add_sum_mod :
    ∑ i ∈ s, x i = (∑ i ∈ s, x i / m) * m + ∑ i ∈ s, x i % m := by
  rw [sum_mul, ← sum_add_distrib]
  exact sum_congr rfl fun i _ => (Nat.div_add_mod' (x i) m).symm

theorem sum_mod_add_card_le (hm : 0 < m) : ∑ i ∈ s, x i % m + s.card ≤ s.card * m := by
  rw [card_eq_sum_ones, ← sum_add_distrib, sum_mul]
  refine sum_le_sum fun i _ => ?_
  rw [one_mul]
  exact Nat.mod_lt (x i) hm

variable {total k : ℕ} {g : ι → ℕ} {extra : ℤ}

/-- The rate of the sum is that of the parts, and what is left over by the parts and by what is
beyond them. -/
theorem rate_sub_sum_rates (hm : 0 < m) (htotal : (total : ℤ) = (∑ i ∈ s, g i : ℕ) + extra) :
    ((total * k / m : ℕ) : ℤ) - (∑ i ∈ s, g i * k / m : ℕ) =
      ((∑ i ∈ s, g i * k % m : ℕ) + extra * k) / m := by
  have hm' : (m : ℤ) ≠ 0 := by exact_mod_cast hm.ne'
  have hparts := sum_eq_mul_add_sum_mod s (fun i => g i * k) (m := m)
  rw [← sum_mul] at hparts
  have htotal' : ((total * k : ℕ) : ℤ) =
      ((∑ i ∈ s, g i * k % m : ℕ) + extra * k) + (∑ i ∈ s, g i * k / m : ℕ) * m := by
    have hcast := congrArg (Nat.cast (R := ℤ)) hparts
    rw [Nat.cast_mul, htotal, add_mul]
    push_cast at hcast ⊢
    linarith
  rw [Int.natCast_ediv, htotal', Int.add_mul_ediv_right _ _ hm', add_sub_cancel_right]

/-- The rates agree to within one for each part when next to nothing is beyond the parts. -/
theorem abs_rate_sub_sum_rates_le (hm : 0 < m)
    (htotal : (total : ℤ) = (∑ i ∈ s, g i : ℕ) + extra) (hempty : s = ∅ → extra = 0)
    (hextra : |extra * k| ≤ m) :
    |((total * k / m : ℕ) : ℤ) - (∑ i ∈ s, g i * k / m : ℕ)| ≤ s.card := by
  have hm' : (0 : ℤ) < m := by exact_mod_cast hm
  rw [rate_sub_sum_rates s hm htotal]
  rcases s.eq_empty_or_nonempty with rfl | hs
  · simp [hempty rfl]
  · have hmod : ((∑ i ∈ s, g i * k % m : ℕ) : ℤ) + s.card ≤ s.card * m := by
      exact_mod_cast sum_mod_add_card_le s (fun i => g i * k) hm
    have hcard : (1 : ℤ) ≤ s.card := by exact_mod_cast hs.card_pos
    obtain ⟨hlower, hupper⟩ := abs_le.mp hextra
    refine abs_le.mpr ⟨?_, ?_⟩
    · rw [Int.le_ediv_iff_mul_le hm']
      nlinarith [Int.natCast_nonneg (∑ i ∈ s, g i * k % m)]
    · rw [← Int.lt_add_one_iff, Int.ediv_lt_iff_lt_mul hm']
      linarith

/-- And they do not when more is. -/
theorem card_lt_abs_rate_sub_sum_rates (hm : 0 < m)
    (htotal : (total : ℤ) = (∑ i ∈ s, g i : ℕ) + extra)
    (hextra : (2 * s.card + 1) * m ≤ |extra * k|) :
    (s.card : ℤ) < |((total * k / m : ℕ) : ℤ) - (∑ i ∈ s, g i * k / m : ℕ)| := by
  have hm' : (0 : ℤ) < m := by exact_mod_cast hm
  have hmod : ((∑ i ∈ s, g i * k % m : ℕ) : ℤ) + s.card ≤ s.card * m := by
    exact_mod_cast sum_mod_add_card_le s (fun i => g i * k) hm
  rw [rate_sub_sum_rates s hm htotal, lt_abs]
  rcases le_abs.mp hextra with hextra | hextra
  · left
    rw [← Int.add_one_le_iff, Int.le_ediv_iff_mul_le hm']
    nlinarith [Int.natCast_nonneg (∑ i ∈ s, g i * k % m), Int.natCast_nonneg s.card]
  · right
    rw [lt_neg, Int.ediv_lt_iff_lt_mul hm']
    linarith

end Rates

end CounterSums
