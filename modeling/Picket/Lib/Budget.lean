import Mathlib.Algebra.Order.Ring.Int
import Mathlib.Data.List.Basic

/-!
# What fits in a budget

The items of a list are taken one after another, as long as their weights fit in a budget. These are
the longest start of the list that does.
-/

namespace Budget

variable {A : Type*} (weight : A → ℕ)

/-- The longest start of the list that is within the budget. -/
structure IsLongestWithin (budget : ℕ) (kept l : List A) : Prop where
  start : kept <+: l
  within : (kept.map weight).sum ≤ budget
  longest : ∀ longer, longer <+: l → (longer.map weight).sum ≤ budget → longer <+: kept

def takeWithin : ℕ → List A → List A
  | _, [] => []
  | budget, a :: l => if weight a ≤ budget then a :: takeWithin (budget - weight a) l else []

/-- What is left. -/
def dropWithin : ℕ → List A → List A
  | _, [] => []
  | budget, a :: l => if weight a ≤ budget then dropWithin (budget - weight a) l else a :: l

variable {weight}

theorem takeWithin_append_dropWithin (budget : ℕ) (l : List A) :
    takeWithin weight budget l ++ dropWithin weight budget l = l := by
  induction l generalizing budget with
  | nil => rfl
  | cons a l ih =>
      rw [takeWithin, dropWithin]
      by_cases hweight : weight a ≤ budget
      · rw [if_pos hweight, if_pos hweight, List.cons_append, ih]
      · rw [if_neg hweight, if_neg hweight, List.nil_append]

theorem sum_takeWithin_le (budget : ℕ) (l : List A) :
    ((takeWithin weight budget l).map weight).sum ≤ budget := by
  induction l generalizing budget with
  | nil => exact Nat.zero_le budget
  | cons a l ih =>
      rw [takeWithin]
      by_cases hweight : weight a ≤ budget
      · have hrest := ih (budget - weight a)
        rw [if_pos hweight, List.map_cons, List.sum_cons]
        omega
      · rw [if_neg hweight]
        exact Nat.zero_le budget

theorem prefix_takeWithin {budget : ℕ} {l longer : List A} (hstart : longer <+: l)
    (hwithin : (longer.map weight).sum ≤ budget) : longer <+: takeWithin weight budget l := by
  induction l generalizing budget longer with
  | nil => rwa [takeWithin]
  | cons a l ih =>
      cases longer with
      | nil => exact List.nil_prefix
      | cons b longer =>
          obtain ⟨rfl, hrest⟩ := List.cons_prefix_cons.mp hstart
          rw [List.map_cons, List.sum_cons] at hwithin
          rw [takeWithin, if_pos (by omega)]
          exact List.cons_prefix_cons.mpr ⟨rfl, ih hrest (by omega)⟩

theorem isLongestWithin_takeWithin (budget : ℕ) (l : List A) :
    IsLongestWithin weight budget (takeWithin weight budget l) l where
  start := ⟨dropWithin weight budget l, takeWithin_append_dropWithin budget l⟩
  within := sum_takeWithin_le budget l
  longest _ hstart hwithin := prefix_takeWithin hstart hwithin

end Budget
