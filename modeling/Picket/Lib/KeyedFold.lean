import Mathlib.Algebra.BigOperators.Group.Finset.Piecewise
import Mathlib.Data.List.Nodup

/-!
# Loops over items with different keys

A loop that writes, for each item, only what belongs to the key of the item, leaves under every key
what its one item writes. A sum over the items is a sum over the keys.
-/

namespace KeyedFold

variable {A K : Type*} [DecidableEq K] {key : A → K}

theorem find?_eq_none_of_not_mem {l : List A} {k : K} (hnotMem : k ∉ l.map key) :
    l.find? (key · = k) = none := by
  rw [List.find?_eq_none]
  intro a ha hkey
  exact hnotMem (List.mem_map.mpr ⟨a, ha, of_decide_eq_true hkey⟩)

theorem find?_eq_some_iff {l : List A} (hnodup : (l.map key).Nodup) {k : K} {a : A} :
    l.find? (key · = k) = some a ↔ a ∈ l ∧ key a = k := by
  constructor
  · intro hfind
    exact ⟨List.mem_of_find?_eq_some hfind, by simpa using List.find?_some hfind⟩
  · rintro ⟨hmem, hkey⟩
    cases hfind : l.find? (key · = k) with
    | none => exact absurd (decide_eq_true hkey) (List.find?_eq_none.mp hfind a hmem)
    | some b =>
        have hb : key b = k := by simpa using List.find?_some hfind
        rw [List.inj_on_of_nodup_map hnodup (List.mem_of_find?_eq_some hfind) hmem
          (hb.trans hkey.symm)]

/-- The order of items with different keys does not matter. -/
theorem find?_perm {l l' : List A} (hnodup : (l.map key).Nodup) (hperm : l.Perm l') (k : K) :
    l.find? (key · = k) = l'.find? (key · = k) := by
  have hnodup' : (l'.map key).Nodup := (hperm.map key).nodup_iff.mp hnodup
  refine Option.ext fun a => ?_
  rw [find?_eq_some_iff hnodup, find?_eq_some_iff hnodup', hperm.mem_iff]

/-- What is read at the key `k` is written by the item with that key, whatever has been written
before; `Inv` is what the loop keeps until then. -/
theorem foldl_eq_find {S B : Type*} {step : S → A → S} (Inv : S → Prop) (read : S → B)
    (write : A → B) {k : K} (hstep : ∀ s a, key a ≠ k → Inv s → Inv (step s a))
    (hself : ∀ s a, key a = k → Inv s → read (step s a) = write a)
    (hother : ∀ s a, key a ≠ k → read (step s a) = read s) {l : List A}
    (hnodup : (l.map key).Nodup) {s : S} (hs : Inv s) :
    read (l.foldl step s) = (l.find? (key · = k)).elim (read s) write := by
  have hrest : ∀ (l : List A) (s : S), k ∉ l.map key → read (l.foldl step s) = read s := by
    intro l
    induction l with
    | nil => exact fun _ _ => rfl
    | cons a l ih =>
        intro s hnotMem
        rw [List.map_cons, List.mem_cons, not_or] at hnotMem
        rw [List.foldl_cons, ih _ hnotMem.2, hother s a (Ne.symm hnotMem.1)]
  induction l generalizing s with
  | nil => rfl
  | cons a l ih =>
      obtain ⟨hnotMem, hnodup⟩ := List.nodup_cons.mp hnodup
      rw [List.foldl_cons]
      by_cases hkey : key a = k
      · subst hkey
        rw [hrest l _ hnotMem, List.find?_cons_of_pos (by simp)]
        exact hself s a rfl hs
      · rw [ih hnodup (hstep s a hkey hs), List.find?_cons_of_neg (by simpa using hkey),
          hother s a hkey]

/-- The sum over some keys of what their items have is the sum over the items with these keys. -/
theorem sum_find {M : Type*} [AddCommMonoid M] (keys : Finset K) (f : A → M) {l : List A}
    (hnodup : (l.map key).Nodup) :
    ∑ k ∈ keys, (l.find? (key · = k)).elim 0 f = ((l.filter (key · ∈ keys)).map f).sum := by
  induction l with
  | nil => simp
  | cons a l ih =>
      obtain ⟨hnotMem, hnodup⟩ := List.nodup_cons.mp hnodup
      have hsplit : ∀ k ∈ keys, ((a :: l).find? (key · = k)).elim 0 f =
          (if key a = k then f a else 0) + (l.find? (key · = k)).elim 0 f := by
        intro k _
        by_cases hkey : key a = k
        · subst hkey
          rw [find?_eq_none_of_not_mem hnotMem, List.find?_cons_of_pos (by simp), if_pos rfl]
          exact (add_zero _).symm
        · rw [List.find?_cons_of_neg (by simpa using hkey), if_neg hkey, zero_add]
      rw [Finset.sum_congr rfl hsplit, Finset.sum_add_distrib, ih hnodup, Finset.sum_ite_eq]
      by_cases hkeys : key a ∈ keys
      · rw [if_pos hkeys, List.filter_cons_of_pos (by simpa using hkeys), List.map_cons,
          List.sum_cons]
      · rw [if_neg hkeys, List.filter_cons_of_neg (by simpa using hkeys), zero_add]

end KeyedFold
