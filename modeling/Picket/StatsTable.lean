import Picket.LongerRecords
import Picket.Records

/-!
# Stats tables with what they hold

The rows of one of the two stats collections, with their stats. `CreateLongerRecords` treats both
collections alike but for the average, and none of its queries is about more than one of them, so
each is a table of its own. A row is averaged as it was stored.
-/

namespace Picket

/-- A row of a collection. -/
structure StoredRecord (T : Type) where
  system : String
  type : RecordType
  created : ℤ
  stats : T

/-- All but the stats. -/
def StoredRecord.row {T : Type} (collection : StatsCollection) (record : StoredRecord T) :
    StatsRow where
  collection := collection
  system := record.system
  type := record.type
  created := record.created

/-- The order in which a query without `ORDER BY` gives its rows. -/
structure RowOrder (T : Type) where
  visit : List (StoredRecord T) → List (StoredRecord T)
  perm : ∀ rows, (visit rows).Perm rows

section

variable {T : Type} (average : List T → T) (collection : StatsCollection)

/-- `system={:system} AND type={:type} AND created > {:created}`. -/
def recordsAfter (rows : List (StoredRecord T)) (system : String) (type : RecordType)
    (period : ℤ) : List (StoredRecord T) :=
  rows.filter fun record => record.system = system ∧ record.type = type ∧ period < record.created

/-- The body of the innermost loop. -/
def createStoredRecord (times : Timestamps) (order : RowOrder T) (system : String)
    (rows : List (StoredRecord T)) (recordData : LongerRecordData) : List (StoredRecord T) :=
  let longerRecordPeriod :=
    times.longerNow system recordData.longerType + (recordData.longerTimeDuration + minute)
  let shorterRecordPeriod :=
    times.shorterNow system recordData.longerType + recordData.longerTimeDuration
  if recordData.longerType ≠ .m10 ∧
      0 < (recordsAfter rows system recordData.longerType longerRecordPeriod).length then
    rows
  else
    let shorter := order.visit (recordsAfter rows system recordData.shorterType shorterRecordPeriod)
    if shorter.length < recordData.minShorterRecords then rows
    else
      rows ++ [{ system := system
                 type := recordData.longerType
                 created := times.created system recordData.longerType collection
                 stats := average (shorter.map (·.stats)) }]

def createStoredRecords (times : Timestamps) (order : RowOrder T) (systems : List String)
    (rows : List (StoredRecord T)) : List (StoredRecord T) :=
  systems.foldl (fun rows system =>
    longerRecordData.foldl (createStoredRecord average collection times order system) rows) rows

def deleteOldStored (now : ℤ) (rows : List (StoredRecord T)) : List (StoredRecord T) :=
  rows.filter fun record => ¬ record.created < now - retention record.type

inductive StatsEvent (T : Type) where
  | store (system : String) (created : ℤ) (stats : T)
  | createLongerRecords (systems : List String) (times : Timestamps) (order : RowOrder T)
  | deleteOldRecords (now : ℤ)

structure StatsTable (T : Type) where
  rows : List (StoredRecord T) := []
  /-- The time of the last deletion, and the records of one minute that were ever stored: kept for
  the record only. -/
  deleted : Option ℤ := none
  stored : List (StoredRecord T) := []

def StatsTable.step (s : StatsTable T) : StatsEvent T → Option (StatsTable T)
  | .store system created stats =>
      let record := { system, type := .m1, created, stats }
      some { s with rows := s.rows ++ [record], stored := s.stored ++ [record] }
  | .createLongerRecords systems times order =>
      some { s with rows := createStoredRecords average collection times order systems s.rows }
  | .deleteOldRecords now =>
      some { s with rows := deleteOldStored now s.rows, deleted := some now }

def StatsEvent.deletes : StatsEvent T → Bool
  | .deleteOldRecords _ => true
  | _ => false

/-- The event without the stats. -/
def StatsEvent.erase : StatsEvent T → RecordEvent
  | .store system created _ => .store collection system created
  | .createLongerRecords systems times _ => .createLongerRecords systems times
  | .deleteOldRecords now => .deleteOldRecords now

end

/-- What JSON keeps of a record: neither the temperature of a GPU nor its count. -/
def Stats.saved (s : Stats) : Stats :=
  { s with
    gpuData := FiniteMap.mapVal (fun gpu => { gpu with temperature := 0, count := 0 }) s.gpuData }

/-- `AverageSystemStats` as it is stored. -/
def averageSaved (records : List Stats) : Stats :=
  (averageSystemStatsSlice records).saved

end Picket
