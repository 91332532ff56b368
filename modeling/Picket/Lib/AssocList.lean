import Mathlib.Data.List.Nodup

/-!
# Small maps as lists of pairs

A map with few entries is a list of its pairs, of which the first with a key counts. Inserting
replaces what there was.
-/

namespace AssocList

variable {K V : Type*} [DecidableEq K]

def delete (k : K) (l : List (K × V)) : List (K × V) :=
  l.filter (·.1 ≠ k)

def insert (k : K) (v : V) (l : List (K × V)) : List (K × V) :=
  (k, v) :: delete k l

/-- What is there keeps its place. -/
def set (k : K) (v : V) (l : List (K × V)) : List (K × V) :=
  if k ∈ l.map Prod.fst then l.map fun entry => if entry.1 = k then (k, v) else entry
  else l ++ [(k, v)]

theorem mem_of_mem_delete {k : K} {l : List (K × V)} {entry : K × V} (hmem : entry ∈ delete k l) :
    entry ∈ l :=
  List.mem_of_mem_filter hmem

theorem mem_insert {k : K} {v : V} {l : List (K × V)} {entry : K × V}
    (hmem : entry ∈ insert k v l) : entry = (k, v) ∨ entry ∈ l :=
  (List.mem_cons.mp hmem).imp_right mem_of_mem_delete

theorem mem_of_lookup {k : K} {v : V} {l : List (K × V)} (hlookup : l.lookup k = some v) :
    (k, v) ∈ l := by
  obtain ⟨_, _, rfl, -⟩ := List.lookup_eq_some_iff.mp hlookup
  simp

theorem lookup_delete (k k' : K) (l : List (K × V)) :
    (delete k l).lookup k' = if k' = k then none else l.lookup k' := by
  induction l with
  | nil => simp [delete]
  | cons entry l ih =>
      obtain ⟨k'', v⟩ := entry
      rw [delete] at ih ⊢
      by_cases hk : k'' = k
      · subst hk
        rw [List.filter_cons_of_neg (by simp), ih, List.lookup_cons]
        by_cases hne : k' = k''
        · rw [if_pos hne, if_pos hne]
        · rw [if_neg hne, if_neg hne, beq_false_of_ne hne]
      · rw [List.filter_cons_of_pos (by simpa using hk), List.lookup_cons, List.lookup_cons, ih]
        by_cases hne : k' = k''
        · subst hne
          simp [hk]
        · rw [beq_false_of_ne hne]

theorem lookup_insert (k k' : K) (v : V) (l : List (K × V)) :
    (insert k v l).lookup k' = if k' = k then some v else l.lookup k' := by
  rw [insert, List.lookup_cons, lookup_delete]
  by_cases hk : k' = k
  · simp [hk]
  · rw [if_neg hk, if_neg hk, beq_false_of_ne hk]

theorem delete_eq_self {k : K} {l : List (K × V)} (hne : ∀ entry ∈ l, entry.1 ≠ k) :
    delete k l = l :=
  List.filter_eq_self.mpr fun entry hentry => by simpa using hne entry hentry

theorem delete_of_lookup_eq_none {k : K} {l : List (K × V)} (hlookup : l.lookup k = none) :
    delete k l = l := by
  refine delete_eq_self fun entry hentry => ?_
  have hne := List.lookup_eq_none_iff.mp hlookup entry hentry
  exact Ne.symm (by simpa using hne)

theorem lookup_filter_key (l : List (K × V)) (keep : K → Bool) (k : K) :
    (l.filter (keep ·.1)).lookup k = if keep k then l.lookup k else none := by
  induction l with
  | nil => simp
  | cons entry l ih =>
      obtain ⟨k', v⟩ := entry
      rw [List.filter_cons]
      by_cases hk : k = k'
      · subst hk
        cases hkeep : keep k <;> simp [hkeep, ih]
      · cases hkeep : keep k'
        · simp [ih, List.lookup_cons, beq_false_of_ne hk]
        · simp [ih, List.lookup_cons, beq_false_of_ne hk]

theorem find?_key (l : List (K × V)) (k : K) :
    l.find? (·.1 = k) = (l.lookup k).map (Prod.mk k) := by
  induction l with
  | nil => rfl
  | cons entry l ih =>
      rw [List.find?_cons, List.lookup_cons]
      by_cases hk : k = entry.1
      · subst hk
        simp
      · rw [ih, beq_false_of_ne hk, decide_eq_false (Ne.symm hk)]

/-- Values that are written in place, key by key. -/
theorem lookup_map {g : K × V → K × V} (hkey : ∀ entry, (g entry).1 = entry.1) (l : List (K × V))
    (k : K) : (l.map g).lookup k = (l.lookup k).map fun v => (g (k, v)).2 := by
  induction l with
  | nil => rfl
  | cons entry l ih =>
      have hg : g entry = (entry.1, (g entry).2) := Prod.ext (hkey entry) rfl
      rw [List.map_cons, hg, List.lookup_cons, List.lookup_cons, ih]
      by_cases hk : k = entry.1
      · subst hk
        simp
      · rw [beq_false_of_ne hk]

theorem lookup_eq_none_iff_not_mem {k : K} {l : List (K × V)} :
    l.lookup k = none ↔ k ∉ l.map Prod.fst := by
  rw [List.lookup_eq_none_iff, List.mem_map]
  constructor
  · rintro hne ⟨entry, hentry, rfl⟩
    exact absurd (hne entry hentry) (by simp)
  · intro hnotMem entry hentry
    simpa using fun hkey : k = entry.1 => hnotMem ⟨entry, hentry, hkey.symm⟩

theorem lookup_set (k k' : K) (v : V) (l : List (K × V)) :
    (set k v l).lookup k' = if k' = k then some v else l.lookup k' := by
  rw [set]
  by_cases hmem : k ∈ l.map Prod.fst
  · have hkeys : ∀ entry : K × V, (if entry.1 = k then (k, v) else entry).1 = entry.1 := by
      intro entry
      split <;> simp [*]
    rw [if_pos hmem, lookup_map hkeys]
    by_cases hk : k' = k
    · subst hk
      obtain ⟨v', hlookup⟩ := Option.ne_none_iff_exists'.mp
        (mt lookup_eq_none_iff_not_mem.mp (not_not_intro hmem))
      simp [hlookup]
    · simp [hk]
  · rw [if_neg hmem, List.lookup_append, List.lookup_cons]
    by_cases hk : k' = k
    · subst hk
      simp [lookup_eq_none_iff_not_mem.mpr hmem]
    · rw [if_neg hk, beq_false_of_ne hk]
      exact Option.or_none

theorem mem_set_iff {k : K} {v : V} {l : List (K × V)} {entry : K × V} :
    entry ∈ set k v l ↔ entry = (k, v) ∨ entry ∈ l ∧ entry.1 ≠ k := by
  rw [set]
  by_cases hmem : k ∈ l.map Prod.fst
  · rw [if_pos hmem, List.mem_map]
    constructor
    · rintro ⟨entry', hentry', rfl⟩
      split
      case isTrue => exact Or.inl rfl
      case isFalse hne => exact Or.inr ⟨hentry', hne⟩
    · rintro (rfl | ⟨hentry, hne⟩)
      · obtain ⟨entry', hentry', hkey⟩ := List.mem_map.mp hmem
        exact ⟨entry', hentry', if_pos hkey⟩
      · exact ⟨entry, hentry, if_neg hne⟩
  · rw [if_neg hmem, List.mem_append, List.mem_singleton, or_comm]
    refine or_congr_right (and_iff_left_of_imp fun hentry hkey => ?_).symm
    exact hmem (hkey ▸ List.mem_map_of_mem hentry)

/-! ### Keys occur once -/

theorem nodup_delete {l : List (K × V)} (hnodup : (l.map Prod.fst).Nodup) (k : K) :
    ((delete k l).map Prod.fst).Nodup :=
  hnodup.sublist (List.filter_sublist.map Prod.fst)

theorem nodup_insert {l : List (K × V)} (hnodup : (l.map Prod.fst).Nodup) (k : K) (v : V) :
    ((insert k v l).map Prod.fst).Nodup := by
  refine List.nodup_cons.mpr ⟨fun hmem => ?_, nodup_delete hnodup k⟩
  obtain ⟨entry, hentry, hkey⟩ := List.mem_map.mp hmem
  have hne : entry.1 ≠ k := by simpa using (List.mem_filter.mp hentry).2
  exact hne hkey

theorem nodup_set {l : List (K × V)} (hnodup : (l.map Prod.fst).Nodup) (k : K) (v : V) :
    ((set k v l).map Prod.fst).Nodup := by
  rw [set]
  by_cases hmem : k ∈ l.map Prod.fst
  · have hkeys : (l.map fun entry => if entry.1 = k then (k, v) else entry).map Prod.fst =
        l.map Prod.fst := by
      rw [List.map_map]
      refine List.map_congr_left fun entry _ => ?_
      dsimp only [Function.comp_apply]
      split <;> simp [*]
    rwa [if_pos hmem, hkeys]
  · rw [if_neg hmem, List.map_append]
    exact hnodup.append (List.nodup_singleton k) (by simpa using hmem)

theorem lookup_of_mem {k : K} {v : V} {l : List (K × V)} (hnodup : (l.map Prod.fst).Nodup)
    (hmem : (k, v) ∈ l) : l.lookup k = some v := by
  cases hlookup : l.lookup k with
  | none => exact absurd (List.lookup_eq_none_iff.mp hlookup _ hmem) (by simp)
  | some v' =>
      have heq := List.inj_on_of_nodup_map hnodup (mem_of_lookup hlookup) hmem rfl
      rw [(Prod.mk.inj heq).2]

theorem lookup_filter_iff {l : List (K × V)} (hnodup : (l.map Prod.fst).Nodup)
    (keep : K × V → Bool) (k : K) (v : V) :
    (l.filter keep).lookup k = some v ↔ l.lookup k = some v ∧ keep (k, v) = true := by
  have hnodup' : ((l.filter keep).map Prod.fst).Nodup :=
    hnodup.sublist (List.filter_sublist.map Prod.fst)
  constructor
  · intro hlookup
    obtain ⟨hmem, hkeep⟩ := List.mem_filter.mp (mem_of_lookup hlookup)
    exact ⟨lookup_of_mem hnodup hmem, hkeep⟩
  · rintro ⟨hlookup, hkeep⟩
    exact lookup_of_mem hnodup' (List.mem_filter.mpr ⟨mem_of_lookup hlookup, hkeep⟩)

theorem perm_cons_delete {k : K} {v : V} {l : List (K × V)} (hnodup : (l.map Prod.fst).Nodup)
    (hlookup : l.lookup k = some v) : l.Perm ((k, v) :: delete k l) := by
  obtain ⟨before, after, rfl, hbefore⟩ := List.lookup_eq_some_iff.mp hlookup
  have hne : ∀ entry ∈ before, entry.1 ≠ k := fun entry hentry =>
    Ne.symm (by simpa using hbefore entry hentry)
  have hne' : ∀ entry ∈ after, entry.1 ≠ k := by
    rintro entry hentry rfl
    rw [List.map_append, List.map_cons, List.nodup_append] at hnodup
    exact (List.nodup_cons.mp hnodup.2.1).1 (List.mem_map.mpr ⟨entry, hentry, rfl⟩)
  have hdelete : delete k (before ++ (k, v) :: after) = before ++ after := by
    rw [delete, List.filter_append, List.filter_cons_of_neg (by simp)]
    exact congrArg₂ _ (delete_eq_self hne) (delete_eq_self hne')
  rw [hdelete]
  exact List.perm_middle

/-! ### Counting keys and values -/

theorem count_delete_le (k : K) (l : List (K × V)) (k' : K) :
    ((delete k l).map Prod.fst).count k' ≤ (l.map Prod.fst).count k' :=
  (List.filter_sublist.map Prod.fst).count_le k'

theorem count_values_delete_le [DecidableEq V] (k : K) (l : List (K × V)) (v : V) :
    ((delete k l).map Prod.snd).count v ≤ (l.map Prod.snd).count v :=
  (List.filter_sublist.map Prod.snd).count_le v

theorem count_insert_le (k : K) (v : V) (l : List (K × V)) (k' : K) :
    ((insert k v l).map Prod.fst).count k'
      ≤ (l.map Prod.fst).count k' + if k = k' then 1 else 0 := by
  have hle := count_delete_le k l k'
  simpa [insert, List.count_cons] using hle

theorem count_values_insert_le [DecidableEq V] (k : K) (v : V) (l : List (K × V)) (v' : V) :
    ((insert k v l).map Prod.snd).count v'
      ≤ (l.map Prod.snd).count v' + if v = v' then 1 else 0 := by
  have hle := count_values_delete_le k l v'
  simpa [insert, List.count_cons] using hle

theorem countP_delete_add {k : K} {v : V} {l : List (K × V)} (hlookup : l.lookup k = some v)
    (p : K × V → Bool) :
    (delete k l).countP p + (if p (k, v) then 1 else 0) ≤ l.countP p := by
  rw [List.countP_eq_countP_filter_add l p (·.1 ≠ k)]
  apply Nat.add_le_add_left
  split
  case isTrue hp =>
    refine List.countP_pos_iff.mpr ⟨(k, v), ?_, hp⟩
    exact List.mem_filter.mpr ⟨mem_of_lookup hlookup, by simp⟩
  · exact Nat.zero_le _

theorem count_delete_add {k : K} {v : V} {l : List (K × V)} (hlookup : l.lookup k = some v)
    (k' : K) :
    ((delete k l).map Prod.fst).count k' + (if k = k' then 1 else 0)
      ≤ (l.map Prod.fst).count k' := by
  have hle := countP_delete_add hlookup fun entry => entry.1 == k'
  simpa [List.count, List.countP_map, Function.comp_def] using hle

theorem count_values_delete_add [DecidableEq V] {k : K} {v : V} {l : List (K × V)}
    (hlookup : l.lookup k = some v) (v' : V) :
    ((delete k l).map Prod.snd).count v' + (if v = v' then 1 else 0)
      ≤ (l.map Prod.snd).count v' := by
  have hle := countP_delete_add hlookup fun entry => entry.2 == v'
  simpa [List.count, List.countP_map, Function.comp_def] using hle

end AssocList

theorem List.mem_modify_imp {α : Type*} {f : α → α} {i : ℕ} {l : List α} {a : α}
    (hmem : a ∈ l.modify i f) : ∃ b ∈ l, a = b ∨ a = f b := by
  obtain ⟨j, hj⟩ := List.mem_iff_getElem?.mp hmem
  rw [List.getElem?_modify, Option.map_eq_map, Option.map_eq_some_iff] at hj
  obtain ⟨b, hb, heq⟩ := hj
  refine ⟨b, List.mem_of_getElem? hb, ?_⟩
  split at heq
  · exact Or.inr heq.symm
  · exact Or.inl heq.symm

theorem List.countP_modify {α : Type*} (p : α → Bool) (f : α → α) {i : ℕ} {l : List α} {a : α}
    (ha : l[i]? = some a) :
    (l.modify i f).countP p + (if p a then 1 else 0) = l.countP p + if p (f a) then 1 else 0 := by
  induction l generalizing i with
  | nil => cases ha
  | cons b l ih =>
      cases i with
      | zero =>
          obtain rfl := Option.some.inj ha
          simp only [List.modify_zero_cons, List.countP_cons]
          omega
      | succ i =>
          have hrest := ih (i := i) ha
          simp only [List.modify_succ_cons, List.countP_cons]
          omega
