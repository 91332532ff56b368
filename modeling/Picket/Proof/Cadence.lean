import Mathlib.Tactic.Ring
import Picket.Lib.Beat
import Picket.Lib.Transition
import Picket.LongerRecords

/-!
# The cadence of longer records

Longer records are created every ten minutes from the records one tier below, which the same
execution may just have created. In each collection the creation times of a system's records of one
type are paced: one at every execution for 10m, at every second, twelfth and 48th for the longer
types. A tier that finds its own last record skips, one that finds too few shorter records skips
too, and what is left is exactly its beat.
-/

namespace Picket

open Beat Transition

/-- Executions are ten minutes apart and done within a minute. -/
def cron : Beat.Clock where
  length := 10 * minute
  jitter := minute
  jitter_pos := by decide
  jitter_le := by decide

/-- Every so many executions a record of the type is created; 1m records never are. -/
def period : RecordType → ℕ
  | .m1 => 0
  | .m10 => 1
  | .m20 => 2
  | .m120 => 12
  | .m480 => 48

/-! ### What a step does to the creation times -/

section Rows

variable {db : List StatsRow} {collection : StatsCollection} {system : String} {type : RecordType}

theorem createdTimes_append_self (row : StatsRow) :
    createdTimes (db ++ [row]) row.collection row.system row.type
      = createdTimes db row.collection row.system row.type ++ [row.created] := by
  simp [createdTimes]

theorem createdTimes_append_of_ne {row : StatsRow}
    (hne : ¬ (row.collection = collection ∧ row.system = system ∧ row.type = type)) :
    createdTimes (db ++ [row]) collection system type = createdTimes db collection system type := by
  simp [createdTimes, hne]

theorem createdTimes_deleteOld (now : ℤ) :
    createdTimes (deleteOldSystemStats now db) collection system type
      = (createdTimes db collection system type).filter fun created =>
          ¬ created < now - retention type := by
  have hfilter : ((db.filter fun row => ¬ row.created < now - retention row.type).filter
      fun row => row.collection = collection ∧ row.system = system ∧ row.type = type)
      = (db.filter fun row => row.collection = collection ∧ row.system = system ∧
          row.type = type).filter fun row => ¬ row.created < now - retention type := by
    rw [List.filter_filter, List.filter_filter]
    refine List.filter_congr fun row _ => ?_
    by_cases htype : row.type = type
    · rw [htype, Bool.and_comm]
    · simp [htype]
  rw [createdTimes, deleteOldSystemStats, hfilter, createdTimes, List.filter_map]
  rfl

end Rows

/-- The innermost loop creates a record: no longer one is recent, and there are enough shorter ones.
-/
def Due (times : Timestamps) (system : String) (recordData : LongerRecordData) (db : List StatsRow)
    (collection : StatsCollection) : Prop :=
  ¬ (recordData.longerType ≠ .m10 ∧
    0 < countAfter db collection system recordData.longerType
      (times.longerNow system recordData.longerType + (recordData.longerTimeDuration + minute))) ∧
  recordData.minShorterRecords ≤ countAfter db collection system recordData.shorterType
    (times.shorterNow system recordData.longerType + recordData.longerTimeDuration)

instance (times : Timestamps) (system : String) (recordData : LongerRecordData)
    (db : List StatsRow) (collection : StatsCollection) :
    Decidable (Due times system recordData db collection) :=
  inferInstanceAs (Decidable (_ ∧ _))

section Loops

variable {times : Timestamps} {db : List StatsRow} {collection : StatsCollection} {system : String}
  {recordData : LongerRecordData} {type : RecordType}

theorem createLongerRecord_eq :
    createLongerRecord times system recordData db collection
      = if Due times system recordData db collection then
          db ++ [{ collection := collection
                   system := system
                   type := recordData.longerType
                   created := times.created system recordData.longerType collection }]
        else db := by
  by_cases hdue : Due times system recordData db collection
  · rw [if_pos hdue, createLongerRecord, if_neg hdue.1, if_neg (Nat.not_lt.mpr hdue.2)]
  · rw [if_neg hdue, createLongerRecord]
    refine ite_eq_left_iff.mpr fun hlonger => ite_eq_left_iff.mpr fun hshorter => ?_
    exact absurd ⟨hlonger, Nat.le_of_not_lt hshorter⟩ hdue

theorem createdTimes_createLongerRecord :
    createdTimes (createLongerRecord times system recordData db collection) collection system
        recordData.longerType
      = createdTimes db collection system recordData.longerType
        ++ if Due times system recordData db collection then
            [times.created system recordData.longerType collection] else [] := by
  rw [createLongerRecord_eq]
  by_cases hdue : Due times system recordData db collection
  · rw [if_pos hdue, if_pos hdue]
    exact createdTimes_append_self _
  · rw [if_neg hdue, if_neg hdue, List.append_nil]

theorem createdTimes_createLongerRecord_of_ne {other : StatsCollection} {system' : String}
    (hne : ¬ (other = collection ∧ system' = system ∧ recordData.longerType = type)) :
    createdTimes (createLongerRecord times system' recordData db other) collection system type
      = createdTimes db collection system type := by
  rw [createLongerRecord_eq]
  split
  · exact createdTimes_append_of_ne hne
  · rfl

def createTier (times : Timestamps) (system : String) (db : List StatsRow)
    (recordData : LongerRecordData) : List StatsRow :=
  [StatsCollection.systemStats, .containerStats].foldl
    (createLongerRecord times system recordData) db

theorem createdTimes_createTier_of_ne {system' : String}
    (hne : ¬ (system' = system ∧ recordData.longerType = type)) :
    createdTimes (createTier times system' db recordData) collection system type
      = createdTimes db collection system type := by
  have hframe : ∀ (db : List StatsRow) (other : StatsCollection),
      createdTimes (createLongerRecord times system' recordData db other) collection system type
        = createdTimes db collection system type :=
    fun db other => createdTimes_createLongerRecord_of_ne fun heq => hne heq.2
  rw [createTier, List.foldl_cons, List.foldl_cons, List.foldl_nil, hframe, hframe]

theorem due_congr {db' : List StatsRow}
    (hrows : ∀ type, createdTimes db' collection system type
      = createdTimes db collection system type) :
    Due times system recordData db' collection ↔ Due times system recordData db collection := by
  unfold Due countAfter
  rw [hrows, hrows]

theorem createdTimes_createTier :
    createdTimes (createTier times system db recordData) collection system recordData.longerType
      = createdTimes db collection system recordData.longerType
        ++ if Due times system recordData db collection then
            [times.created system recordData.longerType collection] else [] := by
  rw [createTier, List.foldl_cons, List.foldl_cons, List.foldl_nil]
  cases collection with
  | systemStats =>
      rw [createdTimes_createLongerRecord_of_ne (by simp), createdTimes_createLongerRecord]
  | containerStats =>
      have hframe : ∀ type, createdTimes
          (createLongerRecord times system recordData db .systemStats) .containerStats system type
            = createdTimes db .containerStats system type :=
        fun type => createdTimes_createLongerRecord_of_ne (by simp)
      rw [createdTimes_createLongerRecord, hframe]
      simp only [due_congr hframe]

end Loops

/-! ### One execution -/

/-- Within the minute that starts at the `k`-th multiple of ten minutes. -/
def InMinute (k : ℕ) (time : ℤ) : Prop :=
  10 * k * minute ≤ time ∧ time < (10 * k + 1) * minute

theorem InMinute.on {k : ℕ} {time : ℤ} (htime : InMinute k time) : cron.On k time := by
  obtain ⟨hlow, hhigh⟩ := htime
  constructor
  · exact (mul_right_comm _ _ _).trans_le hlow
  · calc time < (10 * k + 1) * minute := hhigh
      _ = cron.length * k + cron.jitter := by
        change _ = 10 * minute * k + minute
        ring

/-- Every timestamp an execution takes or stores for a system is within one minute. -/
structure Timestamps.Within (times : Timestamps) (system : String) (k : ℕ) : Prop where
  longerNow : ∀ type, InMinute k (times.longerNow system type)
  shorterNow : ∀ type, InMinute k (times.shorterNow system type)
  created : ∀ type collection, InMinute k (times.created system type collection)

/-- The longest look-back, in executions. -/
def window : ℕ := 48

section Execution

variable {times : Timestamps} {db : List StatsRow} {collection : StatsCollection} {system : String}
  {recordData : LongerRecordData} {type : RecordType} {n : ℕ}

theorem period_cut (recordData : LongerRecordData)
    (hduration : recordData.longerTimeDuration
      = -(10 * minute * (period recordData.longerType : ℕ))) (now : ℤ) :
    now + recordData.longerTimeDuration
      = now - cron.length * (period recordData.longerType : ℕ) := by
  rw [hduration]
  rfl

/-- **A tier keeps its beat**: it creates a record at the multiples of its period, when the tier
below keeps its own. -/
theorem due_iff (recordData : LongerRecordData) (hwithin : times.Within system (n + 1))
    (hduration : recordData.longerTimeDuration
      = -(10 * minute * (period recordData.longerType : ℕ)))
    (hperiod : period recordData.longerType
      = recordData.minShorterRecords * period recordData.shorterType)
    (hshort : 0 < period recordData.shorterType) (hlong : 1 < period recordData.longerType)
    (hfits : period recordData.longerType ≤ window)
    (hlonger : Paced cron window (period recordData.longerType) n
      (createdTimes db collection system recordData.longerType))
    (hshorter : Paced cron window (period recordData.shorterType) (n + 1)
      (createdTimes db collection system recordData.shorterType)) :
    Due times system recordData db collection ↔ period recordData.longerType ∣ n + 1 := by
  have hten : recordData.longerType ≠ .m10 := fun heq => absurd hlong (by rw [heq]; decide)
  have hown := hlonger.exists_recent_iff (Nat.zero_lt_of_lt hlong) hfits
    (hwithin.longerNow recordData.longerType).on
  have hnow := (hwithin.shorterNow recordData.longerType).on
  have hexists : 0 < countAfter db collection system recordData.longerType
      (times.longerNow system recordData.longerType + (recordData.longerTimeDuration + minute))
        ↔ ¬ period recordData.longerType ∣ n + 1 ∧ period recordData.longerType < n + 1 := by
    rw [← hown, countAfter, List.countP_pos_iff, ← add_assoc, period_cut recordData hduration]
    simp only [decide_eq_true_eq]
    rfl
  rw [Due, hexists, countAfter, period_cut recordData hduration]
  constructor
  · rintro ⟨hnone, henough⟩
    by_contra hnot
    have hbefore : n + 1 < period recordData.longerType := by
      rcases Nat.lt_trichotomy (n + 1) (period recordData.longerType) with hlt | heq | hgt
      · exact hlt
      · exact absurd (heq ▸ dvd_rfl) hnot
      · exact absurd ⟨hten, hnot, hgt⟩ hnone
    rw [hperiod] at hbefore hfits henough
    have hfew := hshorter.count_recent_lt n.succ_pos hfits hbefore hnow
    omega
  · intro hdvd
    refine ⟨fun hskip => hskip.2.1 hdvd, ?_⟩
    rw [hperiod] at hdvd hfits ⊢
    exact hshorter.le_count_recent hshort n.succ_pos hfits hdvd hnow

def createdAt (times : Timestamps) (system : String) (collection : StatsCollection)
    (type : RecordType) (n : ℕ) : List ℤ :=
  if period type ∣ n + 1 then [times.created system type collection] else []

theorem paced_createdAt (collection : StatsCollection) {created : List ℤ}
    (hwithin : times.Within system (n + 1))
    (hpaced : Paced cron window (period type) n created) :
    Paced cron window (period type) (n + 1)
      (created ++ createdAt times system collection type n) := by
  unfold createdAt
  split
  case isTrue hdvd =>
    exact hpaced.create (by decide) hdvd (hwithin.created type collection).on
  case isFalse hnot =>
    rw [List.append_nil]
    exact hpaced.skip hnot

/-- The rows of a system in a collection keep the beat of their types. -/
def Rhythm (db : List StatsRow) (collection : StatsCollection) (system : String) (n : ℕ) : Prop :=
  ∀ type, type ≠ .m1 →
    Paced cron window (period type) n (createdTimes db collection system type)

theorem createdTimes_createTier_eq
    (hdue : Due times system recordData db collection ↔ period recordData.longerType ∣ n + 1)
    (type : RecordType) :
    createdTimes (createTier times system db recordData) collection system type
      = createdTimes db collection system type
        ++ if type = recordData.longerType then createdAt times system collection type n
           else [] := by
  by_cases htype : type = recordData.longerType
  · subst htype
    rw [if_pos rfl, createdTimes_createTier, createdAt]
    by_cases hdvd : period recordData.longerType ∣ n + 1
    · rw [if_pos (hdue.mpr hdvd), if_pos hdvd]
    · rw [if_neg fun h => hdvd (hdue.mp h), if_neg hdvd]
  · rw [if_neg htype, List.append_nil]
    exact createdTimes_createTier_of_ne fun heq => htype heq.2.symm

theorem due_longer10m_iff
    (henough : 9 ≤ countAfter db collection system .m1
      (times.shorterNow system .m10 - 10 * minute)) :
    Due times system longer10m db collection ↔ period .m10 ∣ n + 1 :=
  iff_of_true ⟨fun hskip => hskip.1 rfl, henough⟩ (one_dvd (n + 1))

variable (hwithin : times.Within system (n + 1)) (hrhythm : Rhythm db collection system n)
  (henough : 9 ≤ countAfter db collection system .m1 (times.shorterNow system .m10 - 10 * minute))
include hwithin hrhythm henough

/-- The loop over the tiers: each creates on its beat, the tier below having just done so. -/
theorem createdTimes_tiers (hlonger : type ≠ .m1) :
    createdTimes (longerRecordData.foldl (createTier times system) db) collection system type
      = createdTimes db collection system type ++ createdAt times system collection type n := by
  have hpaced10 := paced_createdAt collection hwithin (hrhythm .m10 (by decide))
  have hpaced20 := paced_createdAt collection hwithin (hrhythm .m20 (by decide))
  have hpaced120 := paced_createdAt collection hwithin (hrhythm .m120 (by decide))
  -- each tier: the rows it leaves, then what it makes of its beat
  set db10 := createTier times system db longer10m
  have hrows10 : ∀ type, createdTimes db10 collection system type
      = createdTimes db collection system type
        ++ if type = .m10 then createdAt times system collection type n else [] :=
    createdTimes_createTier_eq (due_longer10m_iff henough)
  have hdue20 : Due times system longer20m db10 collection ↔ period .m20 ∣ n + 1 := by
    apply due_iff longer20m hwithin rfl rfl (by decide) (by decide) (by decide)
    · rw [hrows10]
      simpa [longer20m] using hrhythm .m20 (by decide)
    · rw [hrows10]
      exact hpaced10
  set db20 := createTier times system db10 longer20m
  have hrows20 : ∀ type, createdTimes db20 collection system type
      = createdTimes db10 collection system type
        ++ if type = .m20 then createdAt times system collection type n else [] :=
    createdTimes_createTier_eq hdue20
  have hdue120 : Due times system longer120m db20 collection ↔ period .m120 ∣ n + 1 := by
    apply due_iff longer120m hwithin rfl rfl (by decide) (by decide) (by decide)
    · rw [hrows20, hrows10]
      simpa [longer120m] using hrhythm .m120 (by decide)
    · rw [hrows20, hrows10]
      simpa [longer120m] using hpaced20
  set db120 := createTier times system db20 longer120m
  have hrows120 : ∀ type, createdTimes db120 collection system type
      = createdTimes db20 collection system type
        ++ if type = .m120 then createdAt times system collection type n else [] :=
    createdTimes_createTier_eq hdue120
  have hdue480 : Due times system longer480m db120 collection ↔ period .m480 ∣ n + 1 := by
    apply due_iff longer480m hwithin rfl rfl (by decide) (by decide) (by decide)
    · rw [hrows120, hrows20, hrows10]
      simpa [longer480m] using hrhythm .m480 (by decide)
    · rw [hrows120, hrows20, hrows10]
      simpa [longer480m] using hpaced120
  rw [longerRecordData, List.foldl_cons, List.foldl_cons, List.foldl_cons, List.foldl_cons,
    List.foldl_nil, createdTimes_createTier_eq hdue480, hrows120, hrows20, hrows10]
  cases type with
  | m1 => exact absurd rfl hlonger
  | m10 => simp [longer480m]
  | m20 => simp [longer480m]
  | m120 => simp [longer480m]
  | m480 => simp [longer480m]

end Execution

/-! ### Runs -/

section Loop

variable {times : Timestamps} {systems : List String} {collection : StatsCollection}
  {system : String} {type : RecordType}

theorem createLongerRecords_eq (db : List StatsRow) :
    createLongerRecords times systems db
      = systems.foldl (fun db system => longerRecordData.foldl (createTier times system) db) db :=
  rfl

/-- Frame: the turn of one system does not touch the rows of another. -/
theorem createdTimes_tiers_of_ne {other : String} (hne : other ≠ system)
    (tiers : List LongerRecordData) (db : List StatsRow) :
    createdTimes (tiers.foldl (createTier times other) db) collection system type
      = createdTimes db collection system type := by
  induction tiers generalizing db with
  | nil => rfl
  | cons recordData tiers ih =>
      rw [List.foldl_cons, ih, createdTimes_createTier_of_ne fun heq => hne heq.1]

theorem createdTimes_systems_of_notMem (hnot : system ∉ systems) (db : List StatsRow) :
    createdTimes (createLongerRecords times systems db) collection system type
      = createdTimes db collection system type := by
  rw [createLongerRecords_eq]
  induction systems generalizing db with
  | nil => rfl
  | cons other systems ih =>
      rw [List.mem_cons, not_or] at hnot
      rw [List.foldl_cons, ih hnot.2, createdTimes_tiers_of_ne (Ne.symm hnot.1)]

end Loop

/-- The schedule, for one system. It is up at every execution, with nine 1m records in the last ten
minutes; between two executions old records may be deleted at any time. -/
def Scheduled (system : String) (store : RecordStore) : RecordEvent → Prop
  | .store _ _ _ => True
  | .createLongerRecords systems times =>
    systems.Nodup ∧ system ∈ systems ∧ times.Within system (store.executions + 1) ∧
      ∀ collection, 9 ≤ countAfter store.db collection system .m1
        (times.shorterNow system .m10 - 10 * minute)
  | .deleteOldRecords now => now < (10 * (store.executions + 1) + 1) * minute

/-- Nothing is left from before the run: no longer record at all, for instance. -/
def NoLongerRecords (system : String) (store : RecordStore) : Prop :=
  ∀ collection type, type ≠ .m1 → ∀ created ∈ createdTimes store.db collection system type,
    created ≤ -470 * minute

section Runs

variable {system : String} {store : RecordStore}

theorem createdTimes_createLongerRecords {systems : List String} {times : Timestamps}
    {collection : StatsCollection} {type : RecordType}
    (hscheduled : Scheduled system store (.createLongerRecords systems times))
    (hrhythm : Rhythm store.db collection system store.executions) (hlonger : type ≠ .m1) :
    createdTimes (createLongerRecords times systems store.db) collection system type
      = createdTimes store.db collection system type
        ++ createdAt times system collection type store.executions := by
  obtain ⟨hnodup, hmem, hwithin, henough⟩ := hscheduled
  obtain ⟨before, after, rfl⟩ := List.append_of_mem hmem
  rw [List.nodup_middle, List.nodup_cons, List.mem_append, not_or] at hnodup
  have hbefore : ∀ type, createdTimes (createLongerRecords times before store.db) collection system
      type = createdTimes store.db collection system type :=
    fun type => createdTimes_systems_of_notMem hnodup.1.1 store.db
  have hsplit : createLongerRecords times (before ++ system :: after) store.db
      = createLongerRecords times after (longerRecordData.foldl (createTier times system)
          (createLongerRecords times before store.db)) := by
    rw [createLongerRecords_eq, List.foldl_append, List.foldl_cons]
    rfl
  have hrhythm' : Rhythm (createLongerRecords times before store.db) collection system
      store.executions := by
    intro type hne
    rw [hbefore]
    exact hrhythm type hne
  have henough' : 9 ≤ countAfter (createLongerRecords times before store.db) collection system .m1
      (times.shorterNow system .m10 - 10 * minute) := by
    rw [countAfter, hbefore]
    exact henough collection
  rw [hsplit, createdTimes_systems_of_notMem hnodup.1.2,
    createdTimes_tiers hwithin hrhythm' henough' hlonger, hbefore]

theorem keep_of_on {type : RecordType} {n j : ℕ} {now created : ℤ} (hlonger : type ≠ .m1)
    (hnow : now < (10 * (n + 1) + 1) * minute) (hon : cron.On j created)
    (hrecent : n < j + window) :
    ¬ created < now - retention type := by
  have hlow : 10 * minute * j ≤ created := hon.1
  have hretention : 12 * 60 * minute ≤ retention type := by
    cases type with
    | m1 => exact absurd rfl hlonger
    | m10 => decide
    | m20 => decide
    | m120 => decide
    | m480 => decide
  simp only [window, minute] at *
  omega

theorem Rhythm.step {event : RecordEvent} {store' : RecordStore} {collection : StatsCollection}
    (hrhythm : Rhythm store.db collection system store.executions)
    (hscheduled : Scheduled system store event) (hstep : store.step event = some store') :
    Rhythm store'.db collection system store'.executions := by
  intro type hlonger
  cases event with
  | store other system' created =>
      obtain rfl := Option.some.inj hstep
      change Paced cron window (period type) store.executions (createdTimes (store.db ++ [_]) _ _ _)
      rw [createdTimes_append_of_ne fun heq => hlonger heq.2.2.symm]
      exact hrhythm type hlonger
  | createLongerRecords systems times =>
      obtain rfl := Option.some.inj hstep
      change Paced cron window (period type) (store.executions + 1)
        (createdTimes (createLongerRecords times systems store.db) _ _ _)
      rw [createdTimes_createLongerRecords hscheduled hrhythm hlonger]
      exact paced_createdAt collection hscheduled.2.2.1 (hrhythm type hlonger)
  | deleteOldRecords now =>
      obtain rfl := Option.some.inj hstep
      change Paced cron window (period type) store.executions
        (createdTimes (deleteOldSystemStats now store.db) _ _ _)
      rw [createdTimes_deleteOld]
      refine (hrhythm type hlonger).filter _ fun j created hon hrecent => ?_
      exact decide_eq_true (keep_of_on hlonger hscheduled hon hrecent)

theorem rhythm_start (hstart : NoLongerRecords system store) (hzero : store.executions = 0)
    (collection : StatsCollection) : Rhythm store.db collection system store.executions := by
  intro type hlonger
  rw [hzero]
  exact Paced.start (by decide) (hstart collection type hlonger)

/-- **The cadence of longer records.** In every scheduled run, in both collections, an execution
creates exactly one record of a longer type when its number is a multiple of the type's period (1
for 10m, 2 for 20m, 12 for 120m, 48 for 480m), and none otherwise. -/
theorem longerRecords_cadence {store' : RecordStore} {events : List RecordEvent}
    {systems : List String} {times : Timestamps} {collection : StatsCollection} {type : RecordType}
    (hstart : NoLongerRecords system store) (hzero : store.executions = 0)
    (hrun : Guarded RecordStore.step (Scheduled system) store events store')
    (hnext : Scheduled system store' (.createLongerRecords systems times))
    (hlonger : type ≠ .m1) :
    createdTimes (createLongerRecords times systems store'.db) collection system type
      = createdTimes store'.db collection system type
        ++ if period type ∣ store'.executions + 1 then [times.created system type collection]
           else [] := by
  have hkept : ∀ s e t, Rhythm s.db collection system s.executions → Scheduled system s e →
      RecordStore.step s e = some t → Rhythm t.db collection system t.executions :=
    fun _ _ _ hrhythm hscheduled hstep => hrhythm.step hscheduled hstep
  have hrhythm := hrun.invariant hkept (rhythm_start hstart hzero collection)
  exact createdTimes_createLongerRecords hnext hrhythm hlonger

/-! A system with a 1m record at every minute of the first twenty, and two executions on time. -/

def onTime (k : ℕ) : Timestamps where
  longerNow _ _ := 10 * k * minute
  shorterNow _ _ := 10 * k * minute
  created _ _ _ := 10 * k * minute

theorem within_onTime (system : String) (k : ℕ) : (onTime k).Within system k := by
  have hin : InMinute k (10 * k * minute) := by
    refine ⟨le_rfl, ?_⟩
    rw [add_mul, one_mul]
    exact lt_add_of_pos_right _ (by decide)
  exact ⟨fun _ => hin, fun _ => hin, fun _ _ => hin⟩

def everyMinute : List StatsRow :=
  (List.range 20).flatMap fun i =>
    [{ collection := .systemStats, system := "s", type := .m1, created := (i + 1) * minute },
     { collection := .containerStats, system := "s", type := .m1, created := (i + 1) * minute }]

theorem longerRecords_cadence_second :
    createdTimes
        (createLongerRecords (onTime 2) ["s"] (createLongerRecords (onTime 1) ["s"] everyMinute))
        .systemStats "s" .m20
      = createdTimes (createLongerRecords (onTime 1) ["s"] everyMinute) .systemStats "s" .m20
        ++ [20 * minute] := by
  have hup : ∀ n (db : List StatsRow),
      (∀ collection, 9 ≤ countAfter db collection "s" .m1
        (10 * (n + 1 : ℕ) * minute - 10 * minute)) →
      Scheduled "s" { db := db, executions := n }
        (.createLongerRecords ["s"] (onTime (n + 1))) :=
    fun n db henough =>
      ⟨List.nodup_singleton "s", List.mem_singleton_self "s", within_onTime "s" (n + 1), henough⟩
  have hfirst : Scheduled "s" { db := everyMinute } (.createLongerRecords ["s"] (onTime 1)) :=
    hup 0 everyMinute fun collection => by cases collection <;> decide +kernel
  have hstart : NoLongerRecords "s" { db := everyMinute } := by
    intro collection type hlonger created hcreated
    have hnone : createdTimes everyMinute collection "s" type = [] := by
      cases type with
      | m1 => exact absurd rfl hlonger
      | m10 => cases collection <;> decide +kernel
      | m20 => cases collection <;> decide +kernel
      | m120 => cases collection <;> decide +kernel
      | m480 => cases collection <;> decide +kernel
    exact absurd hcreated (by rw [hnone]; exact List.not_mem_nil)
  have hnext : Scheduled "s"
      { db := createLongerRecords (onTime 1) ["s"] everyMinute, executions := 1 }
      (.createLongerRecords ["s"] (onTime 2)) :=
    hup 1 _ fun collection => by cases collection <;> decide +kernel
  exact longerRecords_cadence hstart rfl (.cons hfirst rfl (.nil _)) hnext (by decide)

end Runs

end Picket
