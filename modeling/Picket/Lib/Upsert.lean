import Mathlib.Data.List.Induction
import Picket.Lib.AssocList

/-!
# Tables written by upserts

A row belongs to an entity, and is stored under a key of the entity; a write replaces the row with
its key. The table shows every entity with its latest row exactly as long as no two entities that
were written have one key.
-/

namespace Upsert

open AssocList

variable {R E K : Type*} [DecidableEq K] (entity : R → E) (key : E → K)

def upsert (rows : List (K × R)) (row : R) : List (K × R) :=
  insert (key (entity row)) row rows

section Latest

variable [DecidableEq E]

/-- The row of the entity that was written last. -/
def latest (written : List R) (e : E) : Option R :=
  written.reverse.find? (entity · = e)

/-- Each entity that was written has its latest row in the table, and no other. -/
def Exact (rows : List (K × R)) (written : List R) : Prop :=
  ∀ e, (rows.map Prod.snd).filter (entity · = e) = (latest entity written e).toList

end Latest

/-- Different entities that are written have different keys. -/
def KeysApart (written : List R) : Prop :=
  ∀ row ∈ written, ∀ row' ∈ written, key (entity row) = key (entity row') →
    entity row = entity row'

variable {entity key}

/-- What every table has, however keys fall together. -/
structure Stored (entity : R → E) (key : E → K) (rows : List (K × R)) (written : List R) :
    Prop where
  keys : (rows.map Prod.fst).Nodup
  under : ∀ entry ∈ rows, entry.1 = key (entity entry.2) ∧ entry.2 ∈ written

theorem Stored.upsert {rows : List (K × R)} {written : List R}
    (hstored : Stored entity key rows written) (row : R) :
    Stored entity key (upsert entity key rows row) (written ++ [row]) := by
  refine ⟨nodup_insert hstored.keys _ _, fun entry hentry => ?_⟩
  obtain rfl | hmem := mem_insert hentry
  · exact ⟨rfl, List.mem_append_right _ (List.mem_singleton_self row)⟩
  · obtain ⟨hkey, hwritten⟩ := hstored.under entry hmem
    exact ⟨hkey, List.mem_append_left _ hwritten⟩

theorem stored_foldl (written : List R) :
    Stored entity key (written.foldl (upsert entity key) []) written := by
  induction written using List.reverseRecOn with
  | nil => exact ⟨List.nodup_nil, fun _ hentry => (List.not_mem_nil hentry).elim⟩
  | append_singleton written row ih =>
      rw [List.foldl_append]
      exact ih.upsert row

variable [DecidableEq E]

theorem latest_append (written : List R) (row : R) (e : E) :
    latest entity (written ++ [row]) e =
      if entity row = e then some row else latest entity written e := by
  rw [latest, latest, List.reverse_concat, List.find?_cons]
  by_cases he : entity row = e
  · rw [if_pos he, decide_eq_true he]
  · rw [if_neg he, decide_eq_false he]

theorem latest_isSome {written : List R} {row : R} (hmem : row ∈ written) :
    (latest entity written (entity row)).isSome := by
  rw [latest, List.find?_isSome]
  exact ⟨row, List.mem_reverse.mpr hmem, decide_eq_true rfl⟩

theorem mem_of_latest {written : List R} {row : R} {e : E}
    (hlatest : latest entity written e = some row) : row ∈ written ∧ entity row = e :=
  ⟨List.mem_reverse.mp (List.mem_of_find?_eq_some hlatest),
    by simpa using List.find?_some hlatest⟩

theorem Exact.upsert {rows : List (K × R)} {written : List R} {row : R}
    (hstored : Stored entity key rows written) (hexact : Exact entity rows written)
    (hapart : KeysApart entity key (written ++ [row])) :
    Exact entity (upsert entity key rows row) (written ++ [row]) := by
  intro e
  have hmem : ∀ row' ∈ written ++ [row], key (entity row') = key (entity row) →
      entity row' = entity row := fun row' hrow' =>
    hapart row' hrow' row (List.mem_append_right _ (List.mem_singleton_self row))
  -- an entry goes exactly if it is of the entity that is written
  have hdelete : delete (key (entity row)) rows = rows.filter (entity ·.2 ≠ entity row) := by
    refine List.filter_congr fun entry hentry => ?_
    obtain ⟨hkey, hwritten⟩ := hstored.under entry hentry
    rw [decide_eq_decide, hkey, not_iff_not]
    exact ⟨hmem entry.2 (List.mem_append_left _ hwritten), congrArg key⟩
  have hrest : ((delete (key (entity row)) rows).map Prod.snd).filter (entity · = e) =
      if entity row = e then [] else (latest entity written e).toList := by
    rw [hdelete, ← hexact e, List.filter_map, List.filter_filter, List.filter_map]
    split
    case isTrue he =>
      subst he
      simp
    case isFalse he =>
      refine congrArg _ (List.filter_congr fun entry _ => ?_)
      by_cases hentry : entity entry.2 = e
      · simp [hentry, Ne.symm he]
      · simp [hentry]
  rw [Upsert.upsert, AssocList.insert, List.map_cons, latest_append, List.filter_cons, hrest]
  by_cases he : entity row = e
  · simp [he]
  · simp [he]

/-- **A table written by upserts is exact if and only if its keys tell the entities apart.** -/
theorem exact_iff (written : List R) :
    Exact entity (written.foldl (upsert entity key) []) written ↔ KeysApart entity key written := by
  constructor
  · intro hexact row hrow row' hrow' hkey
    have hshown : ∀ row ∈ written, ∃ entry ∈ written.foldl (upsert entity key) [],
        entry.1 = key (entity row) ∧ entity entry.2 = entity row := by
      intro row hrow
      have hsome : (latest entity written (entity row)).isSome := latest_isSome hrow
      obtain ⟨last, hlast⟩ := Option.isSome_iff_exists.mp hsome
      have hmem : last ∈ ((written.foldl (upsert entity key) []).map Prod.snd).filter
          (entity · = entity row) := by
        rw [hexact (entity row), hlast]
        exact List.mem_singleton_self last
      obtain ⟨hmap, -⟩ := List.mem_filter.mp hmem
      obtain ⟨entry, hentry, rfl⟩ := List.mem_map.mp hmap
      have hentity := (mem_of_latest hlast).2
      exact ⟨entry, hentry, ((stored_foldl written).under entry hentry).1.trans
        (congrArg key hentity), hentity⟩
    obtain ⟨entry, hentry, hunder, hentity⟩ := hshown row hrow
    obtain ⟨entry', hentry', hunder', hentity'⟩ := hshown row' hrow'
    have heq : entry = entry' :=
      List.inj_on_of_nodup_map (stored_foldl written).keys hentry hentry'
        (hunder.trans (hkey.trans hunder'.symm))
    rw [← hentity, ← hentity', heq]
  · intro hapart
    induction written using List.reverseRecOn with
    | nil => exact fun _ => rfl
    | append_singleton written row ih =>
        have hbefore : KeysApart entity key written := fun row hrow row' hrow' =>
          hapart row (List.mem_append_left _ hrow) row' (List.mem_append_left _ hrow')
        rw [List.foldl_append]
        exact (ih hbefore).upsert (stored_foldl written) hapart

end Upsert
