import Picket.Proof.ContainerTiers
import Picket.RecordRows

/-!
# Rows that do not parse

The buffer is emptied before each row, so a row that is missing reads as an empty text, and not as
the row before it. The system average leaves such rows out; the container average is empty as soon
as there is one.
-/

namespace Picket

section Rows

variable (query : RowQuery)

theorem read_queryRow {T : Type} (json : Unmarshal T) (id : String) (row : RowBuffer) :
    json.read (queryRow query id row) = parsedRow query json id := by
  rw [queryRow, parsedRow]
  cases query id with
  | none => rw [List.take_zero, Option.getD_none, json.read_nil, Option.bind_none]
  | some text => rw [Option.getD_some, Option.bind_some]

theorem filterMap_rowsThatParse {T : Type} (json : Unmarshal T) (records : List String) :
    (rowsThatParse query json records).filterMap (parsedRow query json) =
      records.filterMap (parsedRow query json) := by
  induction records with
  | nil => rfl
  | cons id records ih =>
      rw [rowsThatParse] at ih ⊢
      cases hrow : parsedRow query json id with
      | none => rw [List.filter_cons_of_neg (by simp [hrow]), ih, List.filterMap_cons_none hrow]
      | some v =>
          rw [List.filter_cons_of_pos (by simp [hrow]), List.filterMap_cons_some hrow, ih,
            List.filterMap_cons_some hrow]

/-! ### System records -/

theorem readSystemStats_eq (json : Unmarshal Stats) (row : RowBuffer) (stats : List Stats)
    (records : List String) :
    readSystemStats query json row stats records =
      stats ++ records.filterMap (parsedRow query json) := by
  induction records generalizing row stats with
  | nil => rw [readSystemStats, List.filterMap_nil, List.append_nil]
  | cons id records ih =>
      rw [readSystemStats]
      simp only [read_queryRow]
      cases hrow : parsedRow query json id with
      | none => rw [List.filterMap_cons_none hrow, ← ih]
      | some s =>
          rw [List.filterMap_cons_some hrow, ← List.singleton_append, ← List.append_assoc, ← ih]

theorem systemRowsAveraged (json : Unmarshal Stats) (records : List String) :
    SystemRowsAveraged query json records := by
  have heq : ∀ records, averageSystemStats query json records =
      averageSystemStatsSlice (records.filterMap (parsedRow query json)) := fun records => by
    rw [averageSystemStats, readSystemStats_eq, List.nil_append]
  exact ⟨heq records, by rw [heq, heq, filterMap_rowsThatParse]⟩

/-! ### Container records -/

variable (json : Unmarshal (List ContainerStats))

theorem readContainerStats_of_all (row : RowBuffer) (allStats : List (List ContainerStats))
    {records : List String} (hall : ∀ id ∈ records, (parsedRow query json id).isSome) :
    readContainerStats query json row allStats records =
      some (allStats ++ records.filterMap (parsedRow query json)) := by
  induction records generalizing row allStats with
  | nil => rw [readContainerStats, List.filterMap_nil, List.append_nil]
  | cons id records ih =>
      rw [List.forall_mem_cons] at hall
      obtain ⟨cs, hrow⟩ := Option.isSome_iff_exists.mp hall.1
      rw [readContainerStats]
      simp only [read_queryRow, hrow]
      rw [List.filterMap_cons_some hrow, ih _ _ hall.2, List.append_assoc, List.singleton_append]

/-- One bad row ends the loop. -/
theorem readContainerStats_of_bad (row : RowBuffer) (allStats : List (List ContainerStats))
    {records : List String} (hbad : ¬ ∀ id ∈ records, (parsedRow query json id).isSome) :
    readContainerStats query json row allStats records = none := by
  induction records generalizing row allStats with
  | nil => exact absurd (List.forall_mem_nil _) hbad
  | cons id records ih =>
      rw [readContainerStats]
      simp only [read_queryRow]
      cases hrow : parsedRow query json id with
      | none => rfl
      | some cs =>
          refine ih _ _ fun hall => hbad ?_
          rw [List.forall_mem_cons, hrow]
          exact ⟨rfl, hall⟩

theorem isAverageContainerStats_of_all {records : List String}
    (hall : ∀ id ∈ records, (parsedRow query json id).isSome) (result : List ContainerStats) :
    IsAverageContainerStats query json records result ↔
      IsContainerAverage (records.filterMap (parsedRow query json)) result := by
  rw [IsAverageContainerStats, readContainerStats_of_all query json [] [] hall, List.nil_append]

/-- The average is empty if and only if there are no containers. -/
theorem isContainerAverage_iff_eq_nil (records : List (List ContainerStats)) :
    (∀ result, IsContainerAverage records result ↔ result = []) ↔ ∀ cs ∈ records, cs = [] := by
  have hoccurs : (∀ cs ∈ records, cs = []) ↔ ∀ name, ¬ Occurs name records := by
    constructor
    · rintro hempty name ⟨stat, hstat, -⟩
      obtain ⟨cs, hcs, hmem⟩ := List.mem_flatten.mp hstat
      rw [hempty cs hcs] at hmem
      exact List.not_mem_nil hmem
    · intro hnone cs hcs
      refine List.eq_nil_iff_forall_not_mem.mpr fun stat hstat => hnone stat.name ?_
      exact ⟨stat, List.mem_flatten.mpr ⟨cs, hcs, hstat⟩, rfl⟩
  rw [hoccurs]
  constructor
  · intro hresult name hname
    obtain ⟨stat, hstat, -⟩ := (mem_average_iff ((hresult []).mpr rfl) name).mpr hname
    exact List.not_mem_nil hstat
  · intro hnone result
    constructor
    · intro haverage
      obtain ⟨visit, -, hmem, rfl⟩ := haverage.exists_visit
      rw [List.eq_nil_iff_forall_not_mem.mpr fun name hname => hnone name ((hmem name).mp hname),
        List.map_nil]
    · rintro rfl
      refine ⟨[], ⟨List.nodup_nil, fun name => ?_⟩, by rw [averageContainerStatsSlice]; simp⟩
      exact iff_of_false List.not_mem_nil fun hkey => hnone name (mem_containerSums.mp hkey)

theorem containerRowsAveraged_iff (records : List String) :
    ContainerRowsAveraged query json records ↔
      (∀ id ∈ records, (parsedRow query json id).isSome) ∨
        ∀ id ∈ records, ∀ cs, parsedRow query json id = some cs → cs = [] := by
  have hparse : ∀ id ∈ rowsThatParse query json records, (parsedRow query json id).isSome :=
    fun id hid => (List.mem_filter.mp hid).2
  have hunlisted : ∀ result, IsAverageContainerStats query json (rowsThatParse query json records)
      result ↔ IsContainerAverage (records.filterMap (parsedRow query json)) result := by
    intro result
    rw [isAverageContainerStats_of_all query json hparse, filterMap_rowsThatParse]
  have hmem : (∀ cs ∈ records.filterMap (parsedRow query json), cs = []) ↔
      ∀ id ∈ records, ∀ cs, parsedRow query json id = some cs → cs = [] := by
    simp only [List.mem_filterMap]
    exact ⟨fun h id hid cs hcs => h cs ⟨id, hid, hcs⟩, fun h cs ⟨id, hid, hcs⟩ => h id hid cs hcs⟩
  by_cases hall : ∀ id ∈ records, (parsedRow query json id).isSome
  · refine iff_of_true ⟨isAverageContainerStats_of_all query json hall, fun result => ?_⟩
      (Or.inl hall)
    rw [hunlisted, isAverageContainerStats_of_all query json hall]
  · have hempty : ∀ result, IsAverageContainerStats query json records result ↔ result = [] :=
      fun result => by
        rw [IsAverageContainerStats, readContainerStats_of_bad query json [] [] hall]
    rw [or_iff_right hall, ← hmem, ← isContainerAverage_iff_eq_nil]
    constructor
    · intro haveraged result
      rw [← haveraged.average, hempty]
    · intro haverage
      exact ⟨fun result => by rw [haverage, hempty],
        fun result => by rw [hunlisted, haverage, hempty]⟩

end Rows

/-- **Bad rows are left out, except where a container record is among others that have
containers.** -/
theorem rowsAveraged_iff (systemQuery containerQuery : RowQuery) (systemJson : Unmarshal Stats)
    (containerJson : Unmarshal (List ContainerStats)) (records : List String) :
    (SystemRowsAveraged systemQuery systemJson records ∧
        ContainerRowsAveraged containerQuery containerJson records) ↔
      (∀ id ∈ records, (parsedRow containerQuery containerJson id).isSome) ∨
        ∀ id ∈ records, ∀ cs,
          parsedRow containerQuery containerJson id = some cs → cs = [] := by
  rw [and_iff_right (systemRowsAveraged systemQuery systemJson records),
    containerRowsAveraged_iff]

/-- The text of a row with one container. -/
def oneContainerText : List Uint8 :=
  "[\x7b\"n\":\"web\",\"c\":1\x7d]".toList.map fun c => Fin.ofNat (2 ^ 8) c.toNat

def oneContainerJson : Unmarshal (List ContainerStats) where
  read text := if text = oneContainerText then some [{ name := "web", cpu := 1 }] else none
  read_nil := by decide +kernel

def firstRowOnly : RowQuery :=
  fun id => if id = "a" then some oneContainerText else none

/-- The container of the first row is lost with the second one. -/
theorem firstRowOnly_not_averaged :
    IsAverageContainerStats firstRowOnly oneContainerJson ["a", "b"] [] ∧
      ¬ ContainerRowsAveraged firstRowOnly oneContainerJson ["a", "b"] := by
  have hfirst : parsedRow firstRowOnly oneContainerJson "a" =
      some [{ name := "web", cpu := 1 }] := by
    simp [parsedRow, firstRowOnly, oneContainerJson]
  have hbad : ¬ ∀ id ∈ ["a", "b"], (parsedRow firstRowOnly oneContainerJson id).isSome :=
    fun hall => Bool.false_ne_true (hall "b" (by simp))
  have hempty : IsAverageContainerStats firstRowOnly oneContainerJson ["a", "b"] [] := by
    rw [IsAverageContainerStats, readContainerStats_of_bad _ _ [] [] hbad]
  refine ⟨hempty, fun haveraged => ?_⟩
  have haverage := (haveraged.average []).mp hempty
  have hweb : Occurs "web" (["a", "b"].filterMap (parsedRow firstRowOnly oneContainerJson)) := by
    refine ⟨{ name := "web", cpu := 1 },
      List.mem_flatten.mpr ⟨_, ?_, List.mem_singleton_self _⟩, rfl⟩
    exact List.mem_filterMap.mpr ⟨"a", List.mem_cons_self, hfirst⟩
  obtain ⟨stat, hstat, -⟩ := (mem_average_iff haverage "web").mpr hweb
  exact List.not_mem_nil hstat

end Picket
