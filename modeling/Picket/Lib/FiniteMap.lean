import Mathlib.Data.Finmap
import Mathlib.Data.Finset.Fold
import Mathlib.Order.WithBot

/-!
# Finite maps updated key by key

A loop `for k, v := range m { sum[k] = f(sum[k], v) }` touches each key of `m` once, so its result
does not depend on the order of the iteration and is described by its lookup. The operations here
are defined through their lookups, and every fact about them is one equation about `lookup`.
-/

namespace FiniteMap

variable {K V W : Type*} [DecidableEq K]

/-- The finite map with the given lookup, restricted to the given keys. -/
def ofLookup (keys : Finset K) (f : K → Option V) : Finmap fun _ : K => V :=
  Finmap.keysLookupEquiv.symm
    ⟨(keys.filter fun k => (f k).isSome, fun k => if k ∈ keys then f k else none), by
      intro k
      by_cases hk : k ∈ keys <;> simp [hk]⟩

theorem lookup_ofLookup (keys : Finset K) (f : K → Option V) (k : K) :
    (ofLookup keys f).lookup k = if k ∈ keys then f k else none := by
  simp [ofLookup]

theorem lookup_ofLookup_of_subset {keys : Finset K} {f : K → Option V}
    (hsub : ∀ k, k ∉ keys → f k = none) (k : K) : (ofLookup keys f).lookup k = f k := by
  rw [lookup_ofLookup]
  by_cases hk : k ∈ keys
  · rw [if_pos hk]
  · rw [if_neg hk, hsub k hk]

def mapVal (g : V → W) (m : Finmap fun _ : K => V) : Finmap fun _ : K => W :=
  ofLookup m.keys fun k => (m.lookup k).map g

@[simp]
theorem lookup_mapVal (g : V → W) (m : Finmap fun _ : K => V) (k : K) :
    (mapVal g m).lookup k = (m.lookup k).map g := by
  refine lookup_ofLookup_of_subset (fun k hk => ?_) k
  rw [Finmap.mem_keys, ← Finmap.lookup_eq_none] at hk
  rw [hk, Option.map_none]

def filterMapVal (g : V → Option W) (m : Finmap fun _ : K => V) : Finmap fun _ : K => W :=
  ofLookup m.keys fun k => (m.lookup k).bind g

@[simp]
theorem lookup_filterMapVal (g : V → Option W) (m : Finmap fun _ : K => V) (k : K) :
    (filterMapVal g m).lookup k = (m.lookup k).bind g := by
  refine lookup_ofLookup_of_subset (fun k hk => ?_) k
  rw [Finmap.mem_keys, ← Finmap.lookup_eq_none] at hk
  rw [hk, Option.bind_none]

/-- The loop that folds each value of `m` into the entry of `sum` with the same key, if there is
one yet. -/
def accumulate (f : Option V → W → V) (sum : Finmap fun _ : K => V) (m : Finmap fun _ : K => W) :
    Finmap fun _ : K => V :=
  ofLookup (sum.keys ∪ m.keys) fun k =>
    (m.lookup k).elim (sum.lookup k) fun v => some (f (sum.lookup k) v)

theorem lookup_accumulate (f : Option V → W → V) (sum : Finmap fun _ : K => V)
    (m : Finmap fun _ : K => W) (k : K) :
    (accumulate f sum m).lookup k
      = (m.lookup k).elim (sum.lookup k) fun v => some (f (sum.lookup k) v) := by
  refine lookup_ofLookup_of_subset (fun k hk => ?_) k
  rw [Finset.mem_union, not_or, Finmap.mem_keys, Finmap.mem_keys, ← Finmap.lookup_eq_none,
    ← Finmap.lookup_eq_none] at hk
  rw [hk.1, hk.2, Option.elim_none]

/-- The same map folded in `n + 1` times: every key of it is folded that often, starting from the
zero of its value. -/
theorem lookup_iterate_accumulate (add : V → W → V) (zero : W → V) (m : Finmap fun _ : K => W)
    (n : ℕ) (k : K) :
    ((fun sum => accumulate (fun entry w => add (entry.getD (zero w)) w) sum m)^[n + 1] ∅).lookup k
      = (m.lookup k).map fun w => (fun v => add v w)^[n + 1] (zero w) := by
  induction n with
  | zero =>
      rw [Function.iterate_one, lookup_accumulate]
      cases m.lookup k <;> simp
  | succ n ih =>
      rw [Function.iterate_succ_apply', lookup_accumulate, ih]
      cases m.lookup k with
      | none => rfl
      | some w => simp [Function.iterate_succ_apply']

theorem lookup_union (m m' : Finmap fun _ : K => V) (k : K) :
    (m ∪ m').lookup k = (m.lookup k).or (m'.lookup k) := by
  by_cases hk : k ∈ m
  · obtain ⟨v, hv⟩ := Finmap.mem_iff.mp hk
    rw [Finmap.lookup_union_left hk, hv, Option.some_or]
  · rw [Finmap.lookup_union_right hk, Finmap.lookup_eq_none.mpr hk, Option.none_or]

/-! ### Which keys there are -/

theorem mem_keys_iff_isSome {m : Finmap fun _ : K => V} {k : K} :
    k ∈ m.keys ↔ (m.lookup k).isSome := by
  rw [Finmap.mem_keys, Finmap.lookup_isSome]

theorem keys_accumulate (f : Option V → W → V) (sum : Finmap fun _ : K => V)
    (m : Finmap fun _ : K => W) : (accumulate f sum m).keys = sum.keys ∪ m.keys := by
  ext k
  rw [Finset.mem_union, mem_keys_iff_isSome, mem_keys_iff_isSome, mem_keys_iff_isSome,
    lookup_accumulate]
  cases m.lookup k <;> simp

theorem keys_mapVal (g : V → W) (m : Finmap fun _ : K => V) : (mapVal g m).keys = m.keys := by
  ext k
  rw [mem_keys_iff_isSome, mem_keys_iff_isSome, lookup_mapVal, Option.isSome_map]

/-- Two maps with the same keys are related entry by entry once their values are. -/
theorem rel_lookup {R : V → W → Prop} {m : Finmap fun _ : K => V} {m' : Finmap fun _ : K => W}
    (hkeys : m.keys = m'.keys) {k : K}
    (hrel : ∀ v v', m.lookup k = some v → m'.lookup k = some v' → R v v') :
    Option.Rel R (m.lookup k) (m'.lookup k) := by
  have hsome : (m.lookup k).isSome ↔ (m'.lookup k).isSome := by
    rw [← mem_keys_iff_isSome, ← mem_keys_iff_isSome, hkeys]
  cases hv : m.lookup k with
  | none =>
      cases hv' : m'.lookup k with
      | none => exact Option.Rel.none
      | some v' => simp [hv, hv'] at hsome
  | some v =>
      cases hv' : m'.lookup k with
      | none => simp [hv, hv'] at hsome
      | some v' => exact Option.Rel.some (hrel v v' hv hv')

/-! ### Entries written one by one -/

/-- A loop that writes one entry after another. -/
theorem lookup_foldl_insert (key : A → K) (write : Option V → A → V) (l : List A)
    (m : Finmap fun _ : K => V) (k : K) :
    (l.foldl (fun m a => m.insert (key a) (write (m.lookup (key a)) a)) m).lookup k =
      (l.filter (key · = k)).foldl (fun entry a => some (write entry a)) (m.lookup k) := by
  induction l generalizing m with
  | nil => rfl
  | cons a l ih =>
      rw [List.foldl_cons, ih, List.filter_cons]
      by_cases hkey : key a = k
      · rw [if_pos (decide_eq_true hkey), List.foldl_cons, hkey, Finmap.lookup_insert]
      · rw [if_neg (by simpa using hkey), Finmap.lookup_insert_of_ne _ (Ne.symm hkey)]

/-- Sums from the left under keys, of which a missing one is zero. -/
theorem lookup_foldl_insert_add [Zero V] [Add V] (key : A → K) (value : A → V) (l : List A)
    (k : K) :
    (l.foldl (fun m a => m.insert (key a) ((m.lookup (key a)).getD 0 + value a))
        (∅ : Finmap fun _ : K => V)).lookup k =
      if k ∈ l.map key then some (((l.filter (key · = k)).map value).foldl (· + ·) 0)
      else none := by
  have hsome (l : List A) (sum : V) :
      l.foldl (fun entry a => some (entry.getD 0 + value a)) (some sum) =
        some ((l.map value).foldl (· + ·) sum) := by
    induction l generalizing sum with
    | nil => rfl
    | cons a l ih => exact ih (sum + value a)
  rw [lookup_foldl_insert key (fun entry a => entry.getD 0 + value a), Finmap.lookup_empty]
  cases hfilter : l.filter (key · = k) with
  | nil =>
      rw [if_neg]
      · rfl
      · rintro hmem
        obtain ⟨a, ha, hkey⟩ := List.mem_map.mp hmem
        exact List.filter_eq_nil_iff.mp hfilter a ha (decide_eq_true hkey)
  | cons a rest =>
      have ha : a ∈ l.filter (key · = k) := hfilter ▸ List.mem_cons_self
      obtain ⟨hmem, hkey⟩ := List.mem_filter.mp ha
      rw [if_pos (List.mem_map.mpr ⟨a, hmem, of_decide_eq_true hkey⟩)]
      exact hsome rest (0 + value a)

/-! ### Sums kept under keys -/

section Sum

variable {A : Type*} [AddZeroClass A]

def sumAt (m : Finmap fun _ : K => A) (k : K) : A :=
  (m.lookup k).getD 0

@[simp]
theorem sumAt_empty (k : K) : sumAt (∅ : Finmap fun _ : K => A) k = 0 := by
  simp [sumAt]

/-- Values are added up in any way at all. -/
theorem sumAt_accumulate_elim (add : A → W → A) (sum : Finmap fun _ : K => A)
    (m : Finmap fun _ : K => W) (k : K) :
    sumAt (accumulate (fun entry w => add (entry.getD 0) w) sum m) k
      = (m.lookup k).elim (sumAt sum k) (add (sumAt sum k)) := by
  unfold sumAt
  rw [lookup_accumulate]
  cases m.lookup k <;> rfl

theorem sumAt_accumulate (sum m : Finmap fun _ : K => A) (k : K) :
    sumAt (accumulate (fun entry v => entry.getD 0 + v) sum m) k = sumAt sum k + sumAt m k := by
  rw [sumAt_accumulate_elim (· + ·)]
  unfold sumAt
  cases m.lookup k <;> simp

/-- What `f` reads under a key, zero where there is none. -/
def valueAt (f : V → A) (m : Finmap fun _ : K => V) (k : K) : A :=
  (m.lookup k).elim 0 f

@[simp]
theorem valueAt_empty (f : V → A) (k : K) : valueAt f (∅ : Finmap fun _ : K => V) k = 0 := by
  simp [valueAt]

theorem valueAt_of_lookup {f : V → A} {m : Finmap fun _ : K => V} {k : K} {v : V}
    (hv : m.lookup k = some v) : valueAt f m k = f v := by
  rw [valueAt, hv, Option.elim_some]

/-- When adding a value adds its load to the reading, so does the loop, at every key. -/
theorem valueAt_accumulate {f : V → A} {load : W → A} (add : V → W → V) (zero : W → V)
    (hadd : ∀ v w, f (add v w) = f v + load w) (hzero : ∀ w, f (zero w) = 0)
    (sum : Finmap fun _ : K => V) (m : Finmap fun _ : K => W) (k : K) :
    valueAt f (accumulate (fun entry w => add (entry.getD (zero w)) w) sum m) k
      = valueAt f sum k + valueAt load m k := by
  unfold valueAt
  rw [lookup_accumulate]
  cases m.lookup k with
  | none => simp
  | some w =>
      rw [Option.elim_some, Option.elim_some, Option.elim_some, hadd]
      cases sum.lookup k with
      | none => rw [Option.getD_none, hzero, Option.elim_none]
      | some v => rfl

theorem valueAt_mapVal {B : Type*} [AddZeroClass B] {f : V → A} {g : W → B} {h : V → W} {φ : A → B}
    (hmap : ∀ v, g (h v) = φ (f v)) (hzero : φ 0 = 0) (m : Finmap fun _ : K => V) (k : K) :
    valueAt g (mapVal h m) k = φ (valueAt f m k) := by
  unfold valueAt
  rw [lookup_mapVal]
  cases m.lookup k with
  | none => exact hzero.symm
  | some v => exact hmap v

end Sum

/-! ### The largest value -/

section Max

variable {P : Type*} [LinearOrder P]

/-- The loop that raises `base` to every larger reading of the map. -/
def maxFrom (base : P) (f : V → P) (m : Finmap fun _ : K => V) : P :=
  m.keys.fold max base fun k => (m.lookup k).elim base f

theorem maxFrom_le_iff {base : P} {f : V → P} {m : Finmap fun _ : K => V} {x : P} :
    maxFrom base f m ≤ x ↔ base ≤ x ∧ ∀ k v, m.lookup k = some v → f v ≤ x := by
  rw [maxFrom, Finset.fold_max_le]
  refine and_congr_right fun hbase => ⟨fun h k v hv => ?_, fun h k hk => ?_⟩
  · have hk : k ∈ m.keys := Finmap.mem_keys.mpr (Finmap.mem_of_lookup_eq_some hv)
    simpa [hv] using h k hk
  · cases hv : m.lookup k with
    | none => exact hbase
    | some v => exact h k v hv

theorem base_le_maxFrom (base : P) (f : V → P) (m : Finmap fun _ : K => V) :
    base ≤ maxFrom base f m :=
  (maxFrom_le_iff.mp le_rfl).1

theorem le_maxFrom {base : P} {f : V → P} {m : Finmap fun _ : K => V} {k : K} {v : V}
    (hv : m.lookup k = some v) : f v ≤ maxFrom base f m :=
  (maxFrom_le_iff.mp le_rfl).2 k v hv

/-- The loop ends with the base or one of the readings. -/
theorem isGreatest_maxFrom (base : P) (f : V → P) (m : Finmap fun _ : K => V) :
    IsGreatest (insert base (Set.ofPred fun x => ∃ k v, m.lookup k = some v ∧ f v = x))
      (maxFrom base f m) := by
  have hfold (keys : Finset K) : keys.fold max base (fun k => (m.lookup k).elim base f) = base ∨
      ∃ k v, m.lookup k = some v ∧
        f v = keys.fold max base (fun k => (m.lookup k).elim base f) := by
    induction keys using Finset.induction with
    | empty => exact Or.inl Finset.fold_empty
    | insert k keys hk ih =>
        rw [Finset.fold_insert hk]
        rcases max_choice ((m.lookup k).elim base f)
          (keys.fold max base fun k => (m.lookup k).elim base f) with hmax | hmax
        · rw [hmax]
          cases hv : m.lookup k with
          | none => exact Or.inl rfl
          | some v => exact Or.inr ⟨k, v, hv, rfl⟩
        · rw [hmax]
          exact ih
  refine ⟨hfold m.keys, ?_⟩
  rintro x (rfl | ⟨k, v, hv, rfl⟩)
  · exact base_le_maxFrom _ f m
  · exact le_maxFrom hv

/-- From zero, the largest value is the largest sum kept under any key at all. -/
theorem maxFrom_zero_le_iff [AddZeroClass P] {m : Finmap fun _ : K => P} {x : P} :
    maxFrom 0 id m ≤ x ↔ 0 ≤ x ∧ ∀ k, sumAt m k ≤ x := by
  rw [maxFrom_le_iff]
  refine and_congr_right fun hzero => ⟨fun h k => ?_, fun h k v hv => ?_⟩
  · unfold sumAt
    cases hv : m.lookup k with
    | none => exact hzero
    | some v => exact h k v hv
  · have hsum := h k
    rwa [sumAt, hv] at hsum

end Max

/-! ### One key as a value in a join semilattice -/

section Join

variable {P : Type*}

/-- What `f` reads under a key, nothing being below everything. -/
def readAt (f : V → P) (m : Finmap fun _ : K => V) (k : K) : WithBot P :=
  (m.lookup k).elim ⊥ fun v => ↑(f v)

@[simp]
theorem readAt_empty (f : V → P) (k : K) : readAt f (∅ : Finmap fun _ : K => V) k = ⊥ := by
  simp [readAt]

theorem readAt_of_lookup {f : V → P} {m : Finmap fun _ : K => V} {k : K} {v : V}
    (hv : m.lookup k = some v) : readAt f m k = f v := by
  rw [readAt, hv, Option.elim_some]

theorem readAt_mapVal (f : W → P) (g : V → W) (m : Finmap fun _ : K => V) (k : K) :
    readAt f (mapVal g m) k = readAt (fun v => f (g v)) m k := by
  rw [readAt, readAt, lookup_mapVal]
  cases m.lookup k <;> rfl

theorem readAt_sup [SemilatticeSup P] (f g : V → P) (m : Finmap fun _ : K => V) (k : K) :
    readAt (fun v => f v ⊔ g v) m k = readAt f m k ⊔ readAt g m k := by
  unfold readAt
  cases m.lookup k <;> simp

theorem readAt_mono [Preorder P] {f g : V → P} {m : Finmap fun _ : K => V} {k : K}
    (hle : ∀ v, m.lookup k = some v → f v ≤ g v) : readAt f m k ≤ readAt g m k := by
  unfold readAt
  cases hv : m.lookup k with
  | none => exact le_rfl
  | some v => exact WithBot.coe_le_coe.mpr (hle v hv)

/-- When adding a value joins its load to the reading, so does the loop, at every key. A new entry
must start no higher than what is added to it. -/
theorem readAt_accumulate [SemilatticeSup P] {f : V → P} {load : W → P} (add : V → W → V)
    (zero : W → V) {sum : Finmap fun _ : K => V} {m : Finmap fun _ : K => W} {k : K}
    (hadd : ∀ v w, f (add v w) = f v ⊔ load w)
    (hzero : ∀ w, m.lookup k = some w → f (zero w) ≤ load w) :
    readAt f (accumulate (fun entry w => add (entry.getD (zero w)) w) sum m) k
      = readAt f sum k ⊔ readAt load m k := by
  unfold readAt
  rw [lookup_accumulate]
  cases hw : m.lookup k with
  | none => simp
  | some w =>
      cases sum.lookup k with
      | none => simp [hadd, sup_eq_right.mpr (hzero w hw)]
      | some v => simp [hadd]

end Join

end FiniteMap
