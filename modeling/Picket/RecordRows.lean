import Picket.ContainerRecords

/-!
# Rows of stats records

The rows of a longer record are read one by one, into one buffer, and decoded. A row may be gone by
then, or not be what it should be.
-/

namespace Picket

/-- `json.Unmarshal` into a value of a type. An empty text is not JSON. -/
structure Unmarshal (T : Type) where
  read : List Uint8 → Option T
  read_nil : read [] = none

abbrev RowQuery := String → Option (List Uint8)

abbrev RowBuffer := List Uint8

/-- The buffer is emptied, and then written if there is a row. -/
def queryRow (query : RowQuery) (id : String) (row : RowBuffer) : RowBuffer :=
  let row := row.take 0
  (query id).getD row

section Rows

variable (query : RowQuery)

/-- The loop of `AverageSystemStats`, with the buffer. -/
def readSystemStats (json : Unmarshal Stats) :
    RowBuffer → List Stats → List String → List Stats
  | _, stats, [] => stats
  | row, stats, id :: records =>
      let row := queryRow query id row
      match json.read row with
      | none => readSystemStats json row stats records
      | some s => readSystemStats json row (stats ++ [s]) records

def averageSystemStats (json : Unmarshal Stats) (records : List String) : Stats :=
  averageSystemStatsSlice (readSystemStats query json [] [] records)

/-- The loop of `AverageContainerStats`, or nothing where it returns early. -/
def readContainerStats (json : Unmarshal (List ContainerStats)) :
    RowBuffer → List (List ContainerStats) → List String → Option (List (List ContainerStats))
  | _, allStats, [] => some allStats
  | row, allStats, id :: records =>
      let row := queryRow query id row
      match json.read row with
      | none => none
      | some cs => readContainerStats json row (allStats ++ [cs]) records

/-- The range over the sums visits them in some order. -/
def IsAverageContainerStats (json : Unmarshal (List ContainerStats)) (records : List String)
    (result : List ContainerStats) : Prop :=
  match readContainerStats query json [] [] records with
  | none => result = []
  | some allStats => IsContainerAverage allStats result

/-! ### Rows that parse -/

def parsedRow {T : Type} (json : Unmarshal T) (id : String) : Option T :=
  (query id).bind json.read

def rowsThatParse {T : Type} (json : Unmarshal T) (records : List String) : List String :=
  records.filter fun id => (parsedRow query json id).isSome

/-- The system average is that of the rows that parse, as if no others were listed. -/
structure SystemRowsAveraged (json : Unmarshal Stats) (records : List String) : Prop where
  average : averageSystemStats query json records =
    averageSystemStatsSlice (records.filterMap (parsedRow query json))
  unlisted : averageSystemStats query json records =
    averageSystemStats query json (rowsThatParse query json records)

/-- The container average is that of the rows that parse, as if no others were listed. -/
structure ContainerRowsAveraged (json : Unmarshal (List ContainerStats))
    (records : List String) : Prop where
  average : ∀ result, IsAverageContainerStats query json records result ↔
    IsContainerAverage (records.filterMap (parsedRow query json)) result
  unlisted : ∀ result, IsAverageContainerStats query json records result ↔
    IsAverageContainerStats query json (rowsThatParse query json records) result

end Rows

end Picket
