import Mathlib.Algebra.Order.Ring.Rat
import Mathlib.Data.List.Chain
import Mathlib.Data.List.DropRight

/-!
# The history of a chart

New records are appended to those of a chart, with a gap marker where records are missing, and the
oldest ones are dropped.
-/

namespace Picket.ChartData

variable {V : Type*}

/-- A number of the frontend; `NaN` is `none`. -/
abbrev Number := Option ℚ

/-- A record with its date in milliseconds, if it is not null, and its other properties. -/
structure Point (V : Type*) where
  created : Option Number
  fields : List (String × Option V)
  deriving DecidableEq

inductive Created where
  | null
  | text (date : String)
  | number (time : Number)

structure NewRecord (V : Type*) where
  created : Created
  fields : List (String × Option V)

/-- `slice` of an array, from a start that counts from the end if it is negative. -/
def slice {α : Type*} (l : List α) (start : ℤ) : List α :=
  if start < 0 then l.drop (l.length - (-start).toNat) else l.drop start.toNat

def isTruthy : Number → Bool
  | some t => t ≠ 0
  | none => false

def isLater (expectedInterval : ℚ) : Number → Number → Bool
  | some p, some t => expectedInterval * (3 / 2) < t - p
  | _, _ => false

/-- `stats` is null in a gap marker if the record has that property. -/
def gapMarker (fields : List (String × Option V)) : Point V where
  created := none
  fields := if fields.any (·.1 = "stats") then [("stats", none)] else []

/-- `getTime` is what becomes of a date in text. -/
def Created.time (getTime : String → Number) : Created → Option Number
  | .null => none
  | .text date => some (getTime date)
  | .number time => some time

structure Loop (V : Type*) where
  prevTime : Number
  result : List (Point V)

section Append

variable (getTime : String → Number) (expectedInterval : ℚ)

def NewRecord.point (record : NewRecord V) : Point V :=
  ⟨record.created.time getTime, record.fields⟩

/-- The loop body of `appendData`. -/
def Loop.push (l : Loop V) (record : NewRecord V) : Loop V :=
  match record.created.time getTime with
  | none => { l with result := l.result ++ [record.point getTime] }
  | some created =>
      { prevTime := created
        result :=
          (if isTruthy l.prevTime && isLater expectedInterval l.prevTime created then
              l.result ++ [gapMarker record.fields]
            else l.result) ++ [record.point getTime] }

def trimmed (prev : List (Point V)) (newLength : ℕ) : Option ℕ → List (Point V)
  | none => prev
  | some maxLen =>
      if maxLen ≠ 0 ∧ maxLen ≤ prev.length then slice prev (-((maxLen : ℤ) - newLength)) else prev

/-- `prev.at(-1)?.created`. -/
def lastCreated (prev : List (Point V)) : Option Number :=
  prev.getLast?.bind (·.created)

def appendData (prev : List (Point V)) (newRecords : List (NewRecord V)) (maxLen : Option ℕ) :
    List (Point V) :=
  if newRecords.length = 0 then prev
  else
    let result := trimmed prev newRecords.length maxLen
    (newRecords.foldl (Loop.push getTime expectedInterval)
      { prevTime := (lastCreated result).getD (some 0), result }).result

/-! ### The history that is meant -/

def times (points : List (Point V)) : List Number :=
  points.filterMap (·.created)

/-- A gap marker before each point that is a gap away from the dated one before. -/
def withGaps (isGap : Number → Number → Bool) : Option Number → List (Point V) → List (Point V)
  | _, [] => []
  | last, point :: rest =>
      match point.created with
      | none => point :: withGaps isGap last rest
      | some t =>
          (if last.any (isGap · t) then [gapMarker point.fields] else []) ++
            point :: withGaps isGap (some t) rest

def lastDated (prev : List (Point V)) : Option Number :=
  (times prev).getLast?

def history (prev points : List (Point V)) : List (Point V) :=
  prev ++ withGaps (isLater expectedInterval) (lastDated prev) points

/-- The result is the end of the history, of the length allowed. -/
def KeepsHistory (prev : List (Point V)) (newRecords : List (NewRecord V)) :
    Option ℕ → Prop
  | none =>
      appendData getTime expectedInterval prev newRecords none =
        history expectedInterval prev (newRecords.map (·.point getTime))
  | some maxLen =>
      (appendData getTime expectedInterval prev newRecords (some maxLen)).length ≤ maxLen ∧
        appendData getTime expectedInterval prev newRecords (some maxLen) =
          (history expectedInterval prev (newRecords.map (·.point getTime))).rtake maxLen

end Append

/-! ### Gaps -/

section Gaps

variable (expectedInterval : ℚ) (prev points : List (Point V))

/-- No gap begins at time zero, nor does one begin before undated points at the end of `prev`. -/
structure GapsSeen : Prop where
  within : (times points).IsChain fun p t => isLater expectedInterval p t → p ≠ some 0
  before : ∀ p ∈ lastDated prev, ∀ t ∈ (times points).head?, isLater expectedInterval p t →
    p ≠ some 0 ∧ lastCreated prev = some p

def gapCount : List Number → ℕ
  | p :: t :: rest => (if isLater expectedInterval p t then 1 else 0) + gapCount (t :: rest)
  | _ => 0

/-- The points are without a gap, and if there is one before them, then all that is shown of it are
gap markers. -/
structure GapsShown (kept : ℕ) : Prop where
  within : (times points).IsChain fun p t => ¬ isLater expectedInterval p t
  before : ∀ p ∈ lastDated prev, ∀ point ∈ points.find? (·.created.isSome),
    ∀ t ∈ point.created, isLater expectedInterval p t →
      ∀ shown ∈ prev.rtake kept ++ points.takeWhile (·.created.isNone),
        shown = gapMarker point.fields

/-- Nothing is appended to what is short enough; or no gap is missed and all of it is short enough;
or `prev` is trimmed, but not away, and no gap marker is needed. -/
def Fits : Option ℕ → Prop
  | none => GapsSeen expectedInterval prev points
  | some maxLen =>
      if points.length = 0 then prev.length ≤ maxLen
      else if prev.length < maxLen then
        GapsSeen expectedInterval prev points ∧
          prev.length + points.length +
            gapCount expectedInterval ((lastDated prev).toList ++ times points) ≤ maxLen
      else
        points.length < maxLen ∧
          GapsShown expectedInterval prev points (maxLen - points.length)

end Gaps

end Picket.ChartData
