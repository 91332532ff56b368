import Mathlib.Data.Int.Basic
import Mathlib.Data.List.Basic

/-!
# Accesses that are checked

An access of a list outside its range is a fault that the language has, apart from the errors of the
program. A computation without such accesses equals one that does not check.
-/

namespace Checked

variable {A S E : Type}

inductive Fault (E : Type) where
  | error (e : E)
  | outOfRange (index : ℤ) (length : ℕ)
deriving DecidableEq

@[simp]
theorem ok_bind (a : A) (f : A → Except (Fault E) S) : (Except.ok a >>= f) = f a := rfl

def index (l : List A) (i : ℤ) : Except (Fault E) A :=
  if h : 0 ≤ i ∧ i.toNat < l.length then .ok (l.get ⟨i.toNat, h.2⟩)
  else .error (.outOfRange i l.length)

theorem index_of_getElem? {l : List A} {i : ℕ} {a : A} (ha : l[i]? = some a) :
    index l i = (.ok a : Except (Fault E) A) := by
  obtain ⟨hlt, rfl⟩ := List.getElem?_eq_some_iff.mp ha
  exact dif_pos ⟨Int.natCast_nonneg i, hlt⟩

theorem index_of_length_le {l : List A} {i : ℕ} (hle : l.length ≤ i) :
    index l i = (.error (.outOfRange i l.length) : Except (Fault E) A) :=
  dif_neg fun h => Nat.not_lt.mpr hle h.2

/-- A loop whose steps have no faults is a loop that does not check. -/
theorem foldlM_eq_ok {f : S → A → Except (Fault E) S} {g : S → A → S} {l : List A}
    (hstep : ∀ s, ∀ a ∈ l, f s a = .ok (g s a)) (s : S) : l.foldlM f s = .ok (l.foldl g s) := by
  induction l generalizing s with
  | nil => rfl
  | cons a l ih =>
      rw [List.foldlM_cons, hstep s a List.mem_cons_self, ok_bind]
      exact ih (fun s a ha => hstep s a (List.mem_cons_of_mem _ ha)) (g s a)

end Checked
