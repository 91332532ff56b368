import Picket.Lib.AssocList

/-!
# Objects behind a map of pointers

A map that holds its values by pointer: what an entry points to is written in place, and goes on to
exist when the entry is deleted, since it may be pointed to from elsewhere. No two entries share an
object, so writing the object of one key changes no other.
-/

structure ObjectTable (K V : Type*) where
  entries : List (K × ℕ) := []
  objects : List V := []
  keys : (entries.map Prod.fst).Nodup := by exact List.nodup_nil
  pointers : (entries.map Prod.snd).Nodup := by exact List.nodup_nil
  allocated : ∀ entry ∈ entries, entry.2 < objects.length := by exact nofun

namespace ObjectTable

variable {K V : Type*} [DecidableEq K]

def get (t : ObjectTable K V) (k : K) : Option V :=
  (t.entries.lookup k).bind (t.objects[·]?)

/-- A new object for a new key. -/
def allocate (t : ObjectTable K V) (k : K) (v : V) (hnew : t.entries.lookup k = none) :
    ObjectTable K V where
  entries := (k, t.objects.length) :: t.entries
  objects := t.objects ++ [v]
  keys := by
    refine List.nodup_cons.mpr ⟨fun hmem => ?_, t.keys⟩
    obtain ⟨entry, hentry, hkey⟩ := List.mem_map.mp hmem
    have hne := List.lookup_eq_none_iff.mp hnew entry hentry
    simp [hkey] at hne
  pointers := by
    refine List.nodup_cons.mpr ⟨fun hmem => ?_, t.pointers⟩
    obtain ⟨entry, hentry, hpointer⟩ := List.mem_map.mp hmem
    exact absurd (t.allocated entry hentry) (by rw [hpointer]; exact Nat.lt_irrefl _)
  allocated entry hentry := by
    rw [List.length_append]
    rcases List.mem_cons.mp hentry with rfl | hentry
    · simp
    · exact Nat.lt_of_lt_of_le (t.allocated entry hentry) (Nat.le_add_right _ _)

/-- The object of the key is written, or made. -/
def put (t : ObjectTable K V) (k : K) (v : V) : ObjectTable K V :=
  match hlookup : t.entries.lookup k with
  | none => t.allocate k v hlookup
  | some p =>
      { t with
        objects := t.objects.set p v
        allocated := by
          rw [List.length_set]
          exact t.allocated }

/-- The entries whose key is kept. -/
def retain (t : ObjectTable K V) (keep : K → Bool) : ObjectTable K V where
  entries := t.entries.filter (keep ·.1)
  objects := t.objects
  keys := t.keys.sublist (List.filter_sublist.map Prod.fst)
  pointers := t.pointers.sublist (List.filter_sublist.map Prod.snd)
  allocated entry hentry := t.allocated entry (List.mem_of_mem_filter hentry)

def delete (t : ObjectTable K V) (k : K) : ObjectTable K V :=
  t.retain (· ≠ k)

def values (t : ObjectTable K V) : List V :=
  t.entries.filterMap (t.objects[·.2]?)

theorem pointer_ne {t : ObjectTable K V} {k k' : K} {p p' : ℕ} (hne : k ≠ k')
    (hlookup : t.entries.lookup k = some p) (hlookup' : t.entries.lookup k' = some p') :
    p ≠ p' := by
  rintro rfl
  have heq := List.inj_on_of_nodup_map t.pointers (AssocList.mem_of_lookup hlookup)
    (AssocList.mem_of_lookup hlookup') rfl
  exact hne (Prod.mk.inj heq).1

theorem get_put (t : ObjectTable K V) (k k' : K) (v : V) :
    (t.put k v).get k' = if k' = k then some v else t.get k' := by
  rw [put]
  split
  case h_1 hlookup =>
    rw [get, allocate, List.lookup_cons]
    by_cases hk : k' = k
    · simp [hk]
    · rw [beq_false_of_ne hk, if_neg hk, get]
      cases hlookup' : t.entries.lookup k' with
      | none => rfl
      | some p =>
          have hlt := t.allocated _ (AssocList.mem_of_lookup hlookup')
          exact List.getElem?_append_left hlt
  case h_2 p hlookup =>
    have hlt := t.allocated _ (AssocList.mem_of_lookup hlookup)
    rw [get]
    by_cases hk : k' = k
    · rw [if_pos hk, hk, hlookup]
      exact List.getElem?_set_self hlt
    · rw [if_neg hk, get]
      cases hlookup' : t.entries.lookup k' with
      | none => rfl
      | some p' => exact List.getElem?_set_ne (pointer_ne (Ne.symm hk) hlookup hlookup')

theorem get_retain (t : ObjectTable K V) (keep : K → Bool) (k : K) :
    (t.retain keep).get k = if keep k then t.get k else none := by
  rw [get, retain, AssocList.lookup_filter_key]
  cases keep k <;> rfl

theorem get_delete (t : ObjectTable K V) (k k' : K) :
    (t.delete k).get k' = if k' = k then none else t.get k' := by
  rw [delete, get_retain]
  by_cases hk : k' = k <;> simp [hk]

theorem get_of_mem {t : ObjectTable K V} {entry : K × ℕ} (hentry : entry ∈ t.entries) :
    t.get entry.1 = t.objects[entry.2]? := by
  rw [get, AssocList.lookup_of_mem t.keys hentry]
  rfl

/-- Every value says which key it is for. -/
theorem filter_values {t : ObjectTable K V} {key : V → K}
    (hkey : ∀ k v, t.get k = some v → key v = k) (k : K) :
    t.values.filter (key · = k) = (t.get k).toList := by
  have hall : ∀ l : List (K × ℕ), l.Sublist t.entries →
      (l.filterMap (t.objects[·.2]?)).filter (key · = k) =
        ((l.lookup k).bind (t.objects[·]?)).toList := by
    intro l hl
    induction l with
    | nil => rfl
    | cons entry l ih =>
        have hentry : entry ∈ t.entries := hl.subset (by simp)
        have hlt := t.allocated entry hentry
        have hvalue : t.objects[entry.2]? = some t.objects[entry.2] := List.getElem?_eq_getElem hlt
        have hown := hkey entry.1 _ ((get_of_mem hentry).trans hvalue)
        have hrest := ih ((List.sublist_cons_self _ _).trans hl)
        rw [List.filterMap_cons, hvalue, List.lookup_cons, List.filter_cons, hown, hrest]
        by_cases hk : entry.1 = k
        · have hnone : l.lookup k = none := by
            rw [List.lookup_eq_none_iff]
            intro other hother
            have hnodup := (hl.map Prod.fst).nodup t.keys
            have hnotMem := (List.nodup_cons.mp hnodup).1
            rw [hk] at hnotMem
            simpa using fun heq => hnotMem (List.mem_map.mpr ⟨other, hother, heq.symm⟩)
          rw [hnone]
          simp [hk, hvalue]
        · simp [hk, beq_false_of_ne (Ne.symm hk)]
  exact hall t.entries (List.Sublist.refl _)

end ObjectTable
