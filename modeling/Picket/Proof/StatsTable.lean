import Picket.Lib.Transition
import Picket.StatsTable

/-!
# Old records are deleted unseen

A longer record is made from records that are more recent than any that a deletion takes, and every
query that reaches back no further than the retention sees all it asks for. So a table whose old
records are deleted from time to time is the table that keeps everything, less what is old.
-/

namespace Picket

open Transition

section

variable {T : Type} {average : List T → T} {collection : StatsCollection}
  {rows : List (StoredRecord T)} {deleted : Option ℤ}

/-- What is left of the rows after a last deletion. -/
def unexpired (deleted : Option ℤ) (rows : List (StoredRecord T)) : List (StoredRecord T) :=
  rows.filter fun record => deleted.all fun d => d - retention record.type ≤ record.created

theorem unexpired_none : unexpired none rows = rows :=
  List.filter_eq_self.mpr fun _ _ => rfl

theorem unexpired_append (more : List (StoredRecord T)) :
    unexpired deleted (rows ++ more) = unexpired deleted rows ++ unexpired deleted more :=
  List.filter_append ..

theorem unexpired_singleton (record : StoredRecord T)
    (hrecent : ∀ d ∈ deleted, d ≤ record.created) :
    unexpired deleted [record] = [record] := by
  have hpos : 0 < retention record.type := by cases record.type <;> decide
  refine List.filter_eq_self.mpr fun r hr => ?_
  obtain rfl := List.mem_singleton.mp hr
  cases deleted with
  | none => rfl
  | some d =>
      have hd := hrecent d rfl
      rw [Option.all_some, decide_eq_true_eq]
      omega

theorem deleteOldStored_unexpired {now : ℤ} (hclock : ∀ d ∈ deleted, d ≤ now) :
    deleteOldStored now (unexpired deleted rows) = unexpired (some now) rows := by
  rw [deleteOldStored, unexpired, unexpired, List.filter_filter]
  refine List.filter_congr fun record _ => ?_
  rw [Option.all_some, Bool.eq_iff_iff, Bool.and_eq_true, decide_eq_true_eq, decide_eq_true_eq,
    not_lt]
  refine and_iff_left_of_imp fun hkept => ?_
  cases deleted with
  | none => rfl
  | some d =>
      have hd := hclock d rfl
      rw [Option.all_some, decide_eq_true_eq]
      omega

/-- **Queries miss nothing**, if they reach back no further than what is kept. -/
theorem recordsAfter_unexpired {type : RecordType} {period : ℤ}
    (hreach : ∀ d ∈ deleted, d - retention type ≤ period) (system : String) :
    recordsAfter (unexpired deleted rows) system type period
      = recordsAfter rows system type period := by
  rw [recordsAfter, recordsAfter, unexpired, List.filter_filter]
  refine List.filter_congr fun record _ => ?_
  rw [Bool.eq_iff_iff, Bool.and_eq_true, decide_eq_true_eq]
  refine and_iff_left_of_imp fun ⟨_, htype, hafter⟩ => ?_
  cases deleted with
  | none => rfl
  | some d =>
      have hd := hreach d rfl
      rw [Option.all_some, decide_eq_true_eq, htype]
      omega

/-- No time of the execution is before `d`. -/
structure Timestamps.From (times : Timestamps) (d : ℤ) : Prop where
  longerNow : ∀ system type, d ≤ times.longerNow system type
  shorterNow : ∀ system type, d ≤ times.shorterNow system type
  created : ∀ system type collection, d ≤ times.created system type collection

/-- Records are kept for longer than they are read, or looked for, to make longer ones. -/
theorem longerTimeDuration_retention : ∀ recordData ∈ longerRecordData,
    -retention recordData.shorterType ≤ recordData.longerTimeDuration ∧
      -retention recordData.longerType ≤ recordData.longerTimeDuration + minute := by
  decide

section Execution

variable {times : Timestamps} {order : RowOrder T}
  (htimes : ∀ d ∈ deleted, times.From d)
include htimes

theorem createStoredRecord_unexpired {system : String} {recordData : LongerRecordData}
    (hmem : recordData ∈ longerRecordData) :
    createStoredRecord average collection times order system (unexpired deleted rows) recordData
      = unexpired deleted
          (createStoredRecord average collection times order system rows recordData) := by
  obtain ⟨hshorter, hlonger⟩ := longerTimeDuration_retention recordData hmem
  have hfound : ∀ d ∈ deleted, d - retention recordData.longerType ≤
      times.longerNow system recordData.longerType +
        (recordData.longerTimeDuration + minute) := by
    intro d hd
    have hnow := (htimes d hd).longerNow system recordData.longerType
    omega
  have hread : ∀ d ∈ deleted, d - retention recordData.shorterType ≤
      times.shorterNow system recordData.longerType + recordData.longerTimeDuration := by
    intro d hd
    have hnow := (htimes d hd).shorterNow system recordData.longerType
    omega
  unfold createStoredRecord
  dsimp only
  rw [recordsAfter_unexpired hfound, recordsAfter_unexpired hread]
  split
  · rfl
  · split
    · rfl
    · rw [unexpired_append, unexpired_singleton _ fun d hd => (htimes d hd).created _ _ _]

theorem createStoredRecords_unexpired (systems : List String) :
    createStoredRecords average collection times order systems (unexpired deleted rows)
      = unexpired deleted (createStoredRecords average collection times order systems rows) := by
  have htiers (system : String) (tiers : List LongerRecordData) (hsub : tiers ⊆ longerRecordData) :
      ∀ rows, tiers.foldl (createStoredRecord average collection times order system)
          (unexpired deleted rows)
        = unexpired deleted
            (tiers.foldl (createStoredRecord average collection times order system) rows) := by
    induction tiers with
    | nil => exact fun _ => rfl
    | cons recordData tiers ih =>
        intro rows
        rw [List.foldl_cons, List.foldl_cons,
          createStoredRecord_unexpired htimes (hsub List.mem_cons_self)]
        exact ih (fun _ hmem => hsub (List.mem_cons_of_mem _ hmem)) _
  exact List.foldl_hom (unexpired deleted) fun rows system =>
    htiers system longerRecordData (List.Subset.refl _) rows

end Execution

/-! ### The rows without their stats -/

/-- The rows of the collection in the store are those of the table. -/
def StatsTable.Mirrors (collection : StatsCollection) (s : StatsTable T) (store : RecordStore) :
    Prop :=
  store.db.filter (·.collection = collection) = s.rows.map (·.row collection)

section Mirrors

variable {db : List StatsRow}
  (hrows : db.filter (·.collection = collection) = rows.map (·.row collection))
include hrows

theorem countAfter_eq (system : String) (type : RecordType) (period : ℤ) :
    countAfter db collection system type period
      = (recordsAfter rows system type period).length := by
  calc
    countAfter db collection system type period
        = (db.filter (·.collection = collection)).countP fun row =>
            row.system = system ∧ row.type = type ∧ period < row.created := by
      rw [countAfter, createdTimes, List.countP_map, List.countP_filter, List.countP_filter]
      refine List.countP_congr fun row _ => ?_
      simp only [Function.comp_apply, Bool.and_eq_true, decide_eq_true_eq]
      tauto
    _ = (recordsAfter rows system type period).length := by
      rw [hrows, List.countP_map, recordsAfter, ← List.countP_eq_length_filter]
      rfl

theorem filter_createLongerRecord (times : Timestamps) (order : RowOrder T) (system : String)
    (recordData : LongerRecordData) :
    (createLongerRecord times system recordData db collection).filter (·.collection = collection)
      = (createStoredRecord average collection times order system rows recordData).map
          (·.row collection) := by
  have hlength (rows : List (StoredRecord T)) : (order.visit rows).length = rows.length :=
    (order.perm rows).length_eq
  unfold createLongerRecord createStoredRecord
  dsimp only
  rw [countAfter_eq hrows, countAfter_eq hrows, hlength]
  split
  · exact hrows
  · split
    · exact hrows
    · rw [List.filter_append, hrows, List.map_append]
      simp [StoredRecord.row]

omit hrows in
theorem filter_createLongerRecord_of_ne {other : StatsCollection} (hne : other ≠ collection)
    (times : Timestamps) (system : String) (recordData : LongerRecordData) :
    (createLongerRecord times system recordData db other).filter (·.collection = collection)
      = db.filter (·.collection = collection) := by
  unfold createLongerRecord
  dsimp only
  split
  · rfl
  · split
    · rfl
    · rw [List.filter_append]
      simp [hne]

theorem filter_createTier (times : Timestamps) (order : RowOrder T) (system : String)
    (recordData : LongerRecordData) :
    ([StatsCollection.systemStats, .containerStats].foldl
        (createLongerRecord times system recordData) db).filter (·.collection = collection)
      = (createStoredRecord average collection times order system rows recordData).map
          (·.row collection) := by
  rw [List.foldl_cons, List.foldl_cons, List.foldl_nil]
  cases collection with
  | systemStats =>
      rw [filter_createLongerRecord_of_ne (by decide)]
      exact filter_createLongerRecord hrows times order system recordData
  | containerStats =>
      refine filter_createLongerRecord ?_ times order system recordData
      rw [filter_createLongerRecord_of_ne (by decide), hrows]

theorem filter_createLongerRecords (times : Timestamps) (order : RowOrder T)
    (systems : List String) :
    (createLongerRecords times systems db).filter (·.collection = collection)
      = (createStoredRecords average collection times order systems rows).map
          (·.row collection) := by
  have htiers (system : String) (tiers : List LongerRecordData) :
      ∀ {db : List StatsRow} {rows : List (StoredRecord T)},
        db.filter (·.collection = collection) = rows.map (·.row collection) →
        (tiers.foldl (fun db recordData => [StatsCollection.systemStats, .containerStats].foldl
          (createLongerRecord times system recordData) db) db).filter (·.collection = collection)
        = (tiers.foldl (createStoredRecord average collection times order system) rows).map
            (·.row collection) := by
    induction tiers with
    | nil => exact fun hrows => hrows
    | cons recordData tiers ih =>
        exact fun hrows => ih (filter_createTier hrows times order system recordData)
  unfold createLongerRecords createStoredRecords
  induction systems generalizing db rows with
  | nil => exact hrows
  | cons system systems ih =>
      rw [List.foldl_cons, List.foldl_cons]
      exact ih (htiers system longerRecordData hrows)

end Mirrors

/-- Each step of a table is one of the store, with the same rows. -/
theorem StatsTable.Mirrors.step {s s' : StatsTable T} {store : RecordStore}
    (h : s.Mirrors collection store) {e : StatsEvent T}
    (hstep : s.step average collection e = some s') :
    ∃ store', store.step (e.erase collection) = some store' ∧ s'.Mirrors collection store' := by
  cases e with
  | store system created stats =>
      cases hstep
      refine ⟨_, rfl, ?_⟩
      dsimp only [Mirrors]
      rw [List.filter_append, h, List.map_append]
      simp [StoredRecord.row]
  | createLongerRecords systems times order =>
      cases hstep
      exact ⟨_, rfl, filter_createLongerRecords h times order systems⟩
  | deleteOldRecords now =>
      cases hstep
      refine ⟨_, rfl, ?_⟩
      dsimp only [Mirrors, deleteOldSystemStats, deleteOldStored]
      rw [List.filter_comm, h, List.filter_map]
      rfl

theorem StatsTable.Mirrors.run {s s' : StatsTable T} {store : RecordStore}
    (h : s.Mirrors collection store) {events : List (StatsEvent T)}
    (hrun : run (StatsTable.step average collection) s events = some s') :
    ∃ store', run RecordStore.step store (events.map (·.erase collection)) = some store' ∧
      s'.Mirrors collection store' := by
  induction events generalizing s store with
  | nil =>
      obtain rfl := Option.some.inj hrun
      exact ⟨store, rfl, h⟩
  | cons e events ih =>
      rw [run_cons, Option.bind_eq_some_iff] at hrun
      obtain ⟨t, hstep, hrest⟩ := hrun
      obtain ⟨next, hnext, hmirrors⟩ := h.step hstep
      obtain ⟨store', hrun', hfinal⟩ := ih hmirrors hrest
      exact ⟨store', by rw [List.map_cons, run_cons, hnext, Option.bind_some, hrun'], hfinal⟩

/-! ### Runs -/

/-- The clock does not go back behind the last deletion. -/
def StatsTable.InOrder (s : StatsTable T) : StatsEvent T → Prop
  | .store _ created _ => ∀ d ∈ s.deleted, d ≤ created
  | .createLongerRecords _ times _ => ∀ d ∈ s.deleted, times.From d
  | .deleteOldRecords now => ∀ d ∈ s.deleted, d ≤ now

/-- A table, and the one that keeps everything. -/
def StatsTable.Trims (s full : StatsTable T) : Prop :=
  s.rows = unexpired s.deleted full.rows

namespace StatsTable

variable {s s' full full' : StatsTable T}

theorem Trims.delete (h : s.Trims full) {now : ℤ} (horder : s.InOrder (.deleteOldRecords now))
    (hstep : s.step average collection (.deleteOldRecords now) = some s') : s'.Trims full := by
  cases hstep
  dsimp only [Trims]
  rw [h, deleteOldStored_unexpired horder]

theorem Trims.step (h : s.Trims full) {e : StatsEvent T} (hkeeps : e.deletes = false)
    (horder : s.InOrder e) (hstep : s.step average collection e = some s')
    (hfull : full.step average collection e = some full') : s'.Trims full' := by
  cases e with
  | deleteOldRecords now => cases hkeeps
  | store system created stats =>
      cases hstep
      cases hfull
      dsimp only [Trims]
      rw [h, unexpired_append, unexpired_singleton { system, type := .m1, created, stats } horder]
  | createLongerRecords systems times order =>
      cases hstep
      cases hfull
      dsimp only [Trims]
      rw [h, createStoredRecords_unexpired horder]

theorem Trims.run (h : s.Trims full) {events : List (StatsEvent T)}
    (hrun : Guarded (StatsTable.step average collection) StatsTable.InOrder s events s')
    (hfull : run (StatsTable.step average collection) full (events.filter (!·.deletes))
      = some full') : s'.Trims full' := by
  induction hrun generalizing full with
  | nil s =>
      cases hfull
      exact h
  | @cons s t u e events horder hstep _ ih =>
      cases hdeletes : e.deletes with
      | true =>
          rw [List.filter_cons_of_neg (by simp [hdeletes])] at hfull
          cases e with
          | deleteOldRecords now => exact ih (h.delete horder hstep) hfull
          | store => cases hdeletes
          | createLongerRecords => cases hdeletes
      | false =>
          rw [List.filter_cons_of_pos (by simp [hdeletes]), run_cons,
            Option.bind_eq_some_iff] at hfull
          obtain ⟨next, hnext, hrest⟩ := hfull
          exact ih (h.step hdeletes horder hstep hnext) hrest

/-- **Old records are deleted unseen.** The table after a run is the one after the run without its
deletions, less the records that were older than their retention at the last deletion; a query that
reaches back no further finds the same. -/
theorem deletions_unseen {events : List (StatsEvent T)}
    (hrun : Guarded (StatsTable.step average collection) StatsTable.InOrder {} events s)
    (hfull : run (StatsTable.step average collection) {} (events.filter (!·.deletes))
      = some full) :
    s.rows = full.rows.filter (fun record =>
        s.deleted.all fun d => d - retention record.type ≤ record.created) ∧
      ∀ system type period, (∀ d ∈ s.deleted, d - retention type ≤ period) →
        recordsAfter s.rows system type period = recordsAfter full.rows system type period := by
  have hstart : Trims ({} : StatsTable T) {} := unexpired_none.symm
  have htrims : s.Trims full := hstart.run hrun hfull
  refine ⟨htrims, fun system type period hreach => ?_⟩
  rw [htrims, recordsAfter_unexpired hreach]

/-- Until the first deletion the clock may say anything. -/
theorem guarded_of_keeps {events : List (StatsEvent T)} (hnone : s.deleted = none)
    (hkeeps : ∀ e ∈ events, e.deletes = false)
    (hrun : run (StatsTable.step average collection) s events = some s') :
    Guarded (StatsTable.step average collection) StatsTable.InOrder s events s' ∧
      s'.deleted = none := by
  induction events generalizing s with
  | nil =>
      obtain rfl := Option.some.inj hrun
      exact ⟨.nil s, hnone⟩
  | cons e events ih =>
      rw [List.forall_mem_cons] at hkeeps
      rw [run_cons, Option.bind_eq_some_iff] at hrun
      obtain ⟨t, hstep, hrest⟩ := hrun
      have horder : s.InOrder e := by
        cases e <;> simp [InOrder, hnone]
      have ht : t.deleted = none := by
        cases e with
        | deleteOldRecords now => cases hkeeps.1
        | store =>
            cases hstep
            exact hnone
        | createLongerRecords =>
            cases hstep
            exact hnone
      obtain ⟨htail, hlast⟩ := ih ht hkeeps.2 hrest
      exact ⟨.cons horder hstep htail, hlast⟩

def minutesFrom (first : ℕ) : List (StatsEvent Stats) :=
  (List.range 9).map fun i => .store "s" ((first + i : ℕ) * minute) { cpu := (first + i : ℕ) }

def rollUpAt (now : ℤ) : StatsEvent Stats :=
  .createLongerRecords ["s"] ⟨fun _ _ => now, fun _ _ => now, fun _ _ _ => now⟩
    ⟨id, fun rows => .refl rows⟩

def hourBefore : List (StatsEvent Stats) :=
  minutesFrom 1 ++ [rollUpAt (10 * minute)] ++ minutesFrom 61

/-- The records of the first roll-up are an hour old before the second. -/
def hourApart : List (StatsEvent Stats) :=
  [.deleteOldRecords (70 * minute - 1), rollUpAt (70 * minute),
    .store "s" (71 * minute) { cpu := 71 }]

theorem deletions_unseen_hourApart :
    ∃ s full : StatsTable Stats,
      Guarded (StatsTable.step averageSaved .systemStats) StatsTable.InOrder {}
        (hourBefore ++ hourApart) s ∧
      s.rows.length = 12 ∧ full.rows.length = 21 ∧
      (recordsAfter s.rows "s" .m10 0).map (·.stats.cpu) = [5, 65] ∧
      s.rows = full.rows.filter (fun record =>
        s.deleted.all fun d => d - retention record.type ≤ record.created) ∧
      ∀ system type period, (∀ d ∈ s.deleted, d - retention type ≤ period) →
        recordsAfter s.rows system type period = recordsAfter full.rows system type period := by
  have hbefore : run (StatsTable.step averageSaved .systemStats) {} hourBefore =
      some ((run (StatsTable.step averageSaved .systemStats) {} hourBefore).getD {}) := rfl
  obtain ⟨hfirst, hnone⟩ := guarded_of_keeps rfl (by decide) hbefore
  have hlast : ∃ s, Guarded (StatsTable.step averageSaved .systemStats) StatsTable.InOrder
      ((run (StatsTable.step averageSaved .systemStats) {} hourBefore).getD {}) hourApart s ∧
      s.rows.length = 12 ∧ (recordsAfter s.rows "s" .m10 0).map (·.stats.cpu) = [5, 65] := by
    refine ⟨_, .cons (by simp [InOrder, hnone]) rfl (.cons ?_ rfl (.cons ?_ rfl (.nil _))), ?_, ?_⟩
    · intro d hd
      obtain rfl := Option.some.inj hd
      have hnow : 70 * minute - 1 ≤ 70 * minute := by decide
      exact ⟨fun _ _ => hnow, fun _ _ => hnow, fun _ _ _ => hnow⟩
    · intro d hd
      obtain rfl := Option.some.inj hd
      decide
    · decide +kernel
    · decide +kernel
  have hfull : ∃ full, run (StatsTable.step averageSaved .systemStats) {}
      ((hourBefore ++ hourApart).filter (!·.deletes)) = some full ∧ full.rows.length = 21 :=
    ⟨_, rfl, by decide +kernel⟩
  obtain ⟨s, hrun, hrows, hcpu⟩ := hlast
  obtain ⟨full, hfull, hall⟩ := hfull
  have hguarded := hfirst.append hrun
  exact ⟨s, full, hguarded, hrows, hall, hcpu, deletions_unseen hguarded hfull⟩

end StatsTable

end

end Picket
