import Mathlib.Logic.Function.Basic
import Mathlib.Order.Lattice

/-!
# Maps whose entries expire

Every value of the map has a time of expiry. What counts of a map at some time is the part of it
that has not expired by then.
-/

namespace Expiring

variable {K V Θ : Type*} [LinearOrder Θ] (expires : V → Θ)

/-- The entries whose expiry has not passed. -/
def live (now : Θ) (m : K → Option V) : K → Option V :=
  fun k => (m k).filter fun v => now ≤ expires v

variable {expires} {now later : Θ} {m m' : K → Option V} {k : K} {v : V}

theorem live_eq_some_iff :
    live expires now m k = some v ↔ m k = some v ∧ now ≤ expires v := by
  rw [live, Option.filter_eq_some_iff, decide_eq_true_eq]

theorem live_of_eq_none (hnone : m k = none) : live expires now m k = none := by
  rw [live, hnone, Option.filter_none]

theorem live_of_le (hsome : m k = some v) (hle : now ≤ expires v) :
    live expires now m k = some v :=
  live_eq_some_iff.mpr ⟨hsome, hle⟩

theorem live_of_lt (hsome : m k = some v) (hlt : expires v < now) :
    live expires now m k = none := by
  rw [live, hsome, Option.filter_some_neg (by simpa using hlt)]

/-- What has expired stays so. -/
theorem live_live (hle : now ≤ later) (m : K → Option V) :
    live expires later (live expires now m) = live expires later m := by
  funext k
  refine Option.ext fun v => ?_
  rw [live_eq_some_iff, live_eq_some_iff, live_eq_some_iff, and_assoc]
  exact and_congr_right fun _ => and_iff_right_of_imp (le_trans hle)

/-- Maps that agree at some time agree from then on. -/
theorem live_congr (hle : now ≤ later) (heq : live expires now m = live expires now m') :
    live expires later m = live expires later m' := by
  rw [← live_live hle m, heq, live_live hle]

variable [DecidableEq K]

theorem live_update (now : Θ) (m : K → Option V) (k : K) (o : Option V) :
    live expires now (Function.update m k o) =
      Function.update (live expires now m) k (o.filter fun v => now ≤ expires v) := by
  funext k'
  by_cases hk : k' = k
  · subst hk
    rw [live, Function.update_self, Function.update_self]
  · rw [live, Function.update_of_ne hk, Function.update_of_ne hk, live]

/-- An expired entry can be removed. -/
theorem live_remove (hnone : live expires now m k = none) :
    live expires now (Function.update m k none) = live expires now m := by
  rw [live_update, Option.filter_none, ← hnone, Function.update_eq_self]

end Expiring
