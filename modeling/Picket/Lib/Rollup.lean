import Mathlib.Order.Lattice
import Mathlib.Logic.Relation

/-!
# Summaries that regrouping cannot change

A list is rolled up by splitting it into groups, averaging each group, and doing the same again to
the averages. A summary that an average carries as the join over its group is then the same at
every tier, since a join of joins is the join of everything.
-/

namespace Rollup

variable {α P : Type*}

section Join

variable [SemilatticeSup P]

/-- The join of what each element contributes, starting from `base`. -/
def joinFrom (base : P) (load : α → P) (xs : List α) : P :=
  xs.foldl (fun p x => p ⊔ load x) base

@[simp]
theorem joinFrom_nil (base : P) (load : α → P) : joinFrom base load [] = base := rfl

@[simp]
theorem joinFrom_cons (base : P) (load : α → P) (x : α) (xs : List α) :
    joinFrom base load (x :: xs) = joinFrom (base ⊔ load x) load xs := rfl

theorem joinFrom_append (base : P) (load : α → P) (xs ys : List α) :
    joinFrom base load (xs ++ ys) = joinFrom (joinFrom base load xs) load ys :=
  List.foldl_append

theorem joinFrom_sup (base other : P) (load : α → P) (xs : List α) :
    joinFrom (base ⊔ other) load xs = base ⊔ joinFrom other load xs := by
  induction xs generalizing other with
  | nil => rfl
  | cons x xs ih => rw [joinFrom_cons, joinFrom_cons, sup_assoc, ih]

theorem base_le_joinFrom (base : P) (load : α → P) (xs : List α) :
    base ≤ joinFrom base load xs := by
  have hsplit := joinFrom_sup base base load xs
  rw [sup_idem] at hsplit
  exact hsplit ▸ le_sup_left

theorem joinFrom_congr {base : P} {load load' : α → P} {xs : List α}
    (hload : ∀ x ∈ xs, load x = load' x) : joinFrom base load xs = joinFrom base load' xs := by
  induction xs generalizing base with
  | nil => rfl
  | cons x xs ih =>
      rw [joinFrom_cons, joinFrom_cons, hload x List.mem_cons_self]
      exact ih fun y hy => hload y (List.mem_cons_of_mem x hy)

theorem joinFrom_map {β : Type*} (base : P) (load : β → P) (f : α → β) (xs : List α) :
    joinFrom base load (xs.map f) = joinFrom base (fun x => load (f x)) xs :=
  List.foldl_map

/-- A loop whose every step joins one contribution to a reading of its state joins them all. -/
theorem foldl_eq_joinFrom {σ : Type*} (top : σ → P) {step : σ → α → σ} {load : α → P}
    {xs : List α} (hstep : ∀ s x, x ∈ xs → top (step s x) = top s ⊔ load x) (s : σ) :
    top (xs.foldl step s) = joinFrom (top s) load xs := by
  induction xs generalizing s with
  | nil => rfl
  | cons x xs ih =>
      rw [List.foldl_cons, joinFrom_cons, ← hstep s x List.mem_cons_self]
      exact ih (fun s y hy => hstep s y (List.mem_cons_of_mem x hy)) (step s x)

theorem joinFrom_flatten (base : P) (load : α → P) (groups : List (List α)) :
    joinFrom base load groups.flatten = joinFrom base (joinFrom base load) groups := by
  induction groups with
  | nil => rfl
  | cons group groups ih =>
      have hbase := base_le_joinFrom base load group
      calc joinFrom base load (group :: groups).flatten
          = joinFrom (joinFrom base load group ⊔ base) load groups.flatten := by
            rw [List.flatten_cons, joinFrom_append, sup_eq_left.mpr hbase]
        _ = joinFrom (joinFrom base load group ⊔ base) (joinFrom base load) groups := by
            rw [joinFrom_sup, joinFrom_sup, ih]
        _ = joinFrom base (joinFrom base load) (group :: groups) := by
            rw [joinFrom_cons, sup_comm]

end Join

variable (avg : List α → α)

/-- One tier: the list is split into non-empty groups, each replaced by its average. -/
def Tier (xs ys : List α) : Prop :=
  ∃ groups : List (List α), (∀ group ∈ groups, group ≠ []) ∧ groups.flatten = xs ∧
    ys = groups.map avg

def Tiers : List α → List α → Prop :=
  Relation.ReflTransGen (Tier avg)

variable {avg} {Valid : α → Prop}

theorem Tier.forall_valid (havg : ∀ group, (∀ x ∈ group, Valid x) → Valid (avg group))
    {xs ys : List α} (htier : Tier avg xs ys) (hxs : ∀ x ∈ xs, Valid x) : ∀ y ∈ ys, Valid y := by
  obtain ⟨groups, -, rfl, rfl⟩ := htier
  intro y hy
  obtain ⟨group, hgroup, rfl⟩ := List.mem_map.mp hy
  exact havg group fun x hx => hxs x (List.mem_flatten.mpr ⟨group, hgroup, hx⟩)

theorem Tiers.forall_valid (havg : ∀ group, (∀ x ∈ group, Valid x) → Valid (avg group))
    {xs ys : List α} (htiers : Tiers avg xs ys) (hxs : ∀ x ∈ xs, Valid x) :
    ∀ y ∈ ys, Valid y := by
  induction htiers with
  | refl => exact hxs
  | tail _ htier ih => exact htier.forall_valid havg ih

/-- **Peaks survive any number of tiers.** When an average's peak is the join of the peaks and the
values of its group, and its own value stays below its own peak, the peak of the last average is
the peak of the flat one. -/
theorem Tiers.peak_eq [SemilatticeSup P] {base : P} (value peak : α → P)
    (havg : ∀ group, (∀ x ∈ group, Valid x) → Valid (avg group))
    (hpeak : ∀ group, (∀ x ∈ group, Valid x) →
      peak (avg group) = joinFrom base (fun x => peak x ⊔ value x) group)
    (hvalue : ∀ group, (∀ x ∈ group, Valid x) → value (avg group) ≤ peak (avg group))
    {xs ys : List α} (htiers : Tiers avg xs ys) (hxs : ∀ x ∈ xs, Valid x) :
    peak (avg ys) = peak (avg xs) := by
  induction htiers with
  | refl => rfl
  | @tail zs ys htiers htier ih =>
      have hzs : ∀ z ∈ zs, Valid z := Tiers.forall_valid havg htiers hxs
      have hys : ∀ y ∈ ys, Valid y := htier.forall_valid havg hzs
      rw [← ih, hpeak ys hys, hpeak zs hzs]
      obtain ⟨groups, -, rfl, rfl⟩ := htier
      rw [joinFrom_map, joinFrom_flatten]
      refine joinFrom_congr fun group hgroup => ?_
      have hvalid : ∀ x ∈ group, Valid x := fun x hx =>
        hzs x (List.mem_flatten.mpr ⟨group, hgroup, hx⟩)
      rw [sup_eq_left.mpr (hvalue group hvalid), hpeak group hvalid]

/-! ### Averages of what was at hand

Tiers in which a group may hold elements and averages of any depth, and an element may be in more
than one group. -/

variable (avg) in
/-- `y` is an element itself, or an average of such, and `xs` is all that went into it. -/
inductive Rolled : List α → α → Prop where
  | raw (x : α) : Rolled [x] x
  | average (parts : List (List α × α)) (hparts : ∀ part ∈ parts, Rolled part.1 part.2) :
      Rolled (parts.flatMap Prod.fst) (avg (parts.map Prod.snd))

theorem Rolled.valid (havg : ∀ group, (∀ x ∈ group, Valid x) → Valid (avg group)) {xs : List α}
    {y : α} (h : Rolled avg xs y) (hxs : ∀ x ∈ xs, Valid x) : Valid y := by
  induction h with
  | raw x => exact hxs x List.mem_cons_self
  | average parts _ ih =>
      refine havg _ fun y hy => ?_
      obtain ⟨part, hpart, rfl⟩ := List.mem_map.mp hy
      exact ih part hpart fun x hx => hxs x (List.mem_flatMap.mpr ⟨part, hpart, hx⟩)

section Peak

variable [SemilatticeSup P] {base : P} (value peak : α → P)
  (havg : ∀ group, (∀ x ∈ group, Valid x) → Valid (avg group))
  (hbase : ∀ x, Valid x → base ≤ peak x)
  (hpeak : ∀ group, (∀ x ∈ group, Valid x) →
    peak (avg group) = joinFrom base (fun x => peak x ⊔ value x) group)
  (hvalue : ∀ group, (∀ x ∈ group, Valid x) → value (avg group) ≤ peak (avg group))
include havg hbase hpeak hvalue

/-- **The peak of an average of averages is the peak of the flat one**, however deep its parts. -/
theorem Rolled.peak_eq {xs : List α} {y : α} (h : Rolled avg xs y) (hxs : ∀ x ∈ xs, Valid x) :
    peak y ⊔ value y = peak (avg xs) := by
  induction h with
  | raw x =>
      have hx := hbase x (hxs x List.mem_cons_self)
      rw [hpeak [x] hxs, joinFrom_cons, joinFrom_nil, sup_eq_right.mpr (hx.trans le_sup_left)]
  | average parts hparts ih =>
      have hpart : ∀ part ∈ parts, ∀ x ∈ part.1, Valid x := fun part hpart x hx =>
        hxs x (List.mem_flatMap.mpr ⟨part, hpart, hx⟩)
      have hvalid : ∀ y ∈ parts.map Prod.snd, Valid y := by
        intro y hy
        obtain ⟨part, hmem, rfl⟩ := List.mem_map.mp hy
        exact (hparts part hmem).valid havg (hpart part hmem)
      have hflat : parts.flatMap Prod.fst = (parts.map Prod.fst).flatten := List.flatMap_def ..
      rw [sup_eq_left.mpr (hvalue _ hvalid), hpeak _ hvalid, hpeak _ hxs, joinFrom_map, hflat,
        joinFrom_flatten, joinFrom_map]
      refine joinFrom_congr fun part hmem => ?_
      rw [ih part hmem (hpart part hmem), hpeak _ (hpart part hmem)]

end Peak

end Rollup
