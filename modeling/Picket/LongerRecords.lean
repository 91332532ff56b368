import Picket.AlertWindow

/-!
# Longer records and their retention

`CreateLongerRecords` and `deleteOldSystemStats` of the records package, over the rows of the two
stats collections. Which rows are averaged and when a row is created or deleted depends on its
system, type and creation time only; what the averages contain is in the modules on the records
themselves. Times are in milliseconds.
-/

namespace Picket

inductive RecordType where
  | m1
  | m10
  | m20
  | m120
  | m480
  deriving DecidableEq, Repr

inductive StatsCollection where
  | systemStats
  | containerStats
  deriving DecidableEq, Repr

structure StatsRow where
  collection : StatsCollection
  system : String
  type : RecordType
  created : ℤ
  deriving DecidableEq, Repr

structure LongerRecordData where
  shorterType : RecordType
  longerType : RecordType
  longerTimeDuration : ℤ
  minShorterRecords : ℕ

def longer10m : LongerRecordData where
  shorterType := .m1
  -- 9 instead of 10, for edge case timing or short pauses
  minShorterRecords := 9
  longerType := .m10
  longerTimeDuration := -10 * minute

def longer20m : LongerRecordData where
  shorterType := .m10
  minShorterRecords := 2
  longerType := .m20
  longerTimeDuration := -20 * minute

def longer120m : LongerRecordData where
  shorterType := .m20
  minShorterRecords := 6
  longerType := .m120
  longerTimeDuration := -120 * minute

def longer480m : LongerRecordData where
  shorterType := .m120
  minShorterRecords := 4
  longerType := .m480
  longerTimeDuration := -480 * minute

def longerRecordData : List LongerRecordData :=
  [longer10m, longer20m, longer120m, longer480m]

/-- What the clock says during one execution: at the two cut-offs, taken once for each system and
longer type, and when a record is stored. -/
structure Timestamps where
  longerNow : String → RecordType → ℤ
  shorterNow : String → RecordType → ℤ
  created : String → RecordType → StatsCollection → ℤ

def createdTimes (db : List StatsRow) (collection : StatsCollection) (system : String)
    (type : RecordType) : List ℤ :=
  (db.filter fun row =>
    row.collection = collection ∧ row.system = system ∧ row.type = type).map (·.created)

def countAfter (db : List StatsRow) (collection : StatsCollection) (system : String)
    (type : RecordType) (period : ℤ) : ℕ :=
  (createdTimes db collection system type).countP fun created => period < created

/-- The body of the innermost loop. -/
def createLongerRecord (times : Timestamps) (system : String) (recordData : LongerRecordData)
    (db : List StatsRow) (collection : StatsCollection) : List StatsRow :=
  -- one minute of padding, because longer records are created slightly after the job starts
  let longerRecordPeriod :=
    times.longerNow system recordData.longerType + (recordData.longerTimeDuration + minute)
  let shorterRecordPeriod :=
    times.shorterNow system recordData.longerType + recordData.longerTimeDuration
  if recordData.longerType ≠ .m10 ∧
      0 < countAfter db collection system recordData.longerType longerRecordPeriod then
    db
  else if countAfter db collection system recordData.shorterType shorterRecordPeriod
      < recordData.minShorterRecords then
    db
  else
    db ++ [{ collection := collection
             system := system
             type := recordData.longerType
             created := times.created system recordData.longerType collection }]

/-- One execution, over the systems that are up. -/
def createLongerRecords (times : Timestamps) (systems : List String) (db : List StatsRow) :
    List StatsRow :=
  systems.foldl (fun db system =>
    longerRecordData.foldl (fun db recordData =>
      [StatsCollection.systemStats, .containerStats].foldl
        (createLongerRecord times system recordData) db) db) db

def retention : RecordType → ℤ
  | .m1 => 60 * minute
  | .m10 => 12 * 60 * minute
  | .m20 => 24 * 60 * minute
  | .m120 => 7 * 24 * 60 * minute
  | .m480 => 30 * 24 * 60 * minute

def deleteOldSystemStats (now : ℤ) (db : List StatsRow) : List StatsRow :=
  db.filter fun row => ¬ row.created < now - retention row.type

/-! ### Runs of the jobs -/

inductive RecordEvent where
  | store (collection : StatsCollection) (system : String) (created : ℤ)
  | createLongerRecords (systems : List String) (times : Timestamps)
  | deleteOldRecords (now : ℤ)

/-- The two collections, and how many times longer records have been created. -/
structure RecordStore where
  db : List StatsRow := []
  executions : ℕ := 0

def RecordStore.step (store : RecordStore) : RecordEvent → Option RecordStore
  | .store collection system created =>
    some { store with
      db := store.db ++ [{ collection := collection, system := system, type := .m1,
                           created := created }] }
  | .createLongerRecords systems times =>
    some { db := createLongerRecords times systems store.db, executions := store.executions + 1 }
  | .deleteOldRecords now => some { store with db := deleteOldSystemStats now store.db }

end Picket
