import Mathlib.Logic.Function.Basic

/-!
# Baselines

Readings that are compared with earlier ones, under several keys. A key without a reading of its
own starts with the one of the key that all fall back to; a reading becomes the next baseline when
it is one to keep. What happens under other keys than these two does not matter.
-/

namespace Baselines

variable {K R : Type*} [DecidableEq K] (fallback : K) (zero : R)

/-- What a reading under the key is compared with. -/
def baseline (b : K → Option R) (k : K) : R :=
  (b k).getD ((b fallback).getD zero)

variable (keep : R → R → Prop) [DecidableRel keep]

def observe (b : K → Option R) (e : K × R) : K → Option R :=
  let prev := baseline fallback zero b e.1
  Function.update b e.1 (some (if keep prev e.2 then e.2 else prev))

variable {fallback zero keep}

omit [DecidableEq K] in
theorem baseline_of_eq_some {b : K → Option R} {k : K} {r : R} (hr : b k = some r) :
    baseline fallback zero b k = r := by
  rw [baseline, hr, Option.getD_some]

theorem observe_self (b : K → Option R) (k : K) (r : R) :
    observe fallback zero keep b (k, r) k =
      some (if keep (baseline fallback zero b k) r then r else baseline fallback zero b k) :=
  Function.update_self ..

theorem observe_of_ne (b : K → Option R) {k k' : K} (hne : k' ≠ k) (r : R) :
    observe fallback zero keep b (k, r) k' = b k' :=
  Function.update_of_ne hne ..

/-- A baseline comes from before, or is the reading. -/
theorem baseline_observe {P : R → Prop} {b : K → Option R}
    (hb : ∀ k, P (baseline fallback zero b k)) (k : K) {r : R} (hr : P r) (k' : K) :
    P (baseline fallback zero (observe fallback zero keep b (k, r)) k') := by
  have hself : ∀ prev ∈ observe fallback zero keep b (k, r) k, P prev := by
    intro prev hprev
    rw [observe_self] at hprev
    obtain rfl := Option.some.inj hprev
    split
    · exact hr
    · exact hb k
  have hkey (k' : K) : ∀ prev ∈ observe fallback zero keep b (k, r) k', P prev := by
    intro prev hprev
    by_cases hne : k' = k
    · subst hne
      exact hself prev hprev
    · rw [observe_of_ne b hne] at hprev
      have hbase : baseline fallback zero b k' = prev := baseline_of_eq_some hprev
      rw [← hbase]
      exact hb k'
  rw [baseline]
  cases hown : observe fallback zero keep b (k, r) k' with
  | some prev => exact hkey k' prev hown
  | none =>
      cases hother : observe fallback zero keep b (k, r) fallback with
      | some prev => exact hkey fallback prev hother
      | none =>
          have hzero := hb fallback
          by_cases hne : fallback = k
          · subst hne
            rw [observe_self] at hother
            cases hother
          · rw [observe_of_ne b hne] at hother
            rwa [baseline, hother] at hzero

/-! ### Keys do not matter to each other -/

variable (fallback) in
/-- What decides about the readings under a key: its baseline, and the one it falls back to. -/
structure Agree (b c : K → Option R) (k : K) : Prop where
  own : b k = c k
  fallback : b fallback = c fallback

namespace Agree

variable {b c : K → Option R} {k : K}

omit [DecidableEq K] in
theorem baseline_eq (h : Agree fallback b c k) :
    baseline fallback zero b k = baseline fallback zero c k := by
  rw [baseline, baseline, h.own, h.fallback]

theorem observe_of_ne (h : Agree fallback b c k) {key : K} (hkey : key ≠ k)
    (hfallback : key ≠ fallback) (r : R) :
    Agree fallback (observe fallback zero keep b (key, r)) c k where
  own := (Baselines.observe_of_ne b (Ne.symm hkey) r).trans h.own
  fallback := (Baselines.observe_of_ne b (Ne.symm hfallback) r).trans h.fallback

theorem observe (h : Agree fallback b c k) (e : K × R) :
    Agree fallback (observe fallback zero keep b e) (Baselines.observe fallback zero keep c e)
      k := by
  obtain ⟨key, r⟩ := e
  have hone {k' : K} (hk' : b k' = c k') : Baselines.observe fallback zero keep b (key, r) k' =
      Baselines.observe fallback zero keep c (key, r) k' := by
    by_cases hkey : k' = key
    · subst hkey
      have hbase : baseline fallback zero b k' = baseline fallback zero c k' :=
        baseline_eq (Agree.mk hk' h.fallback)
      rw [observe_self, observe_self, hbase]
    · rw [Baselines.observe_of_ne b hkey, Baselines.observe_of_ne c hkey, hk']
  exact ⟨hone h.own, hone h.fallback⟩

end Agree

end Baselines
