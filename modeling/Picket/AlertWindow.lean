import Picket.Entities
import Picket.Lib.FiniteMap
import Picket.Lib.FloatingPoint

/-!
# Alerts on averages over a window

`HandleSystemAlerts`: alerts whose current value has crossed their threshold are sent at once or,
when they ask for more than a minute, decided by an average over the stored one-minute records. The
records are read into one `SystemAlertStats` that the whole loop shares. Times are in milliseconds.

The code computes with `Arithmetic.ieee`; without rounding, the same definitions say what it is to
compute. Numbers that come from outside are decimals, which become floating point numbers when they
are read.
-/

namespace Picket

open FloatingPoint

inductive AlertName where
  | status
  | cpu
  | memory
  | bandwidth
  | disk
  | loadAvg1
  | loadAvg5
  | loadAvg15
  | gpu
  | other (name : String)
  deriving DecidableEq

structure CachedAlertData where
  id : String
  name : AlertName
  value : ℚ
  triggered : Bool
  min : Uint8
  deriving DecidableEq

/-! ### Stored records -/

structure SystemAlertFsStats where
  diskTotal : Value
  diskUsed : Value
  deriving DecidableEq

/-- Values pulled from `system_stats.stats` that are relevant to alerts. -/
@[ext]
structure SystemAlertStats where
  cpu : Value := 0
  mem : Value := 0
  disk : Value := 0
  bandwidth : Fin 2 → Uint64 := 0
  gpu : GoMap Value := ∅
  loadAvg : Fin 3 → Value := 0
  extraFs : GoMap SystemAlertFsStats := ∅
  deriving DecidableEq

/-- The keys of a filesystem in a stored record. -/
structure FsJson where
  d : ℚ
  du : ℚ

/-- The keys of a stored record that `SystemAlertStats` names. -/
structure StatsJson where
  cpu : ℚ
  mp : ℚ
  dp : ℚ
  b : Option (Fin 2 → Uint64)
  g : Option (GoMap ℚ)
  la : Fin 3 → ℚ
  efs : Option (GoMap FsJson)

/-- Marshalling leaves out a zero bandwidth and empty maps. -/
def Stats.json (s : Stats) : StatsJson where
  cpu := s.cpu
  mp := s.memPct
  dp := s.diskPct
  b := if s.bandwidth = 0 then none else some s.bandwidth
  g := if s.gpuData = ∅ then none else some (FiniteMap.mapVal GPUData.usage s.gpuData)
  la := s.loadAvg
  efs := if s.extraFs = ∅ then none
    else some (FiniteMap.mapVal (fun fs => ⟨fs.diskTotal, fs.diskUsed⟩) s.extraFs)

section Arithmetic

variable (ar : Arithmetic)

def FsJson.unmarshal (fs : FsJson) : SystemAlertFsStats where
  diskTotal := ar.double fs.d
  diskUsed := ar.double fs.du

/-- `json.Unmarshal` into a struct that already holds something: what the record leaves out stays,
and maps are merged. Its numbers were `float64`s before, so none is out of range. -/
def unmarshal (record : StatsJson) (stats : SystemAlertStats) : SystemAlertStats where
  cpu := ar.double record.cpu
  mem := ar.double record.mp
  disk := ar.double record.dp
  bandwidth := record.b.getD stats.bandwidth
  gpu := FiniteMap.mapVal (fun usage : ℚ => ar.double usage) (record.g.getD ∅) ∪ stats.gpu
  loadAvg := fun i => ar.double (record.la i)
  extraFs := FiniteMap.mapVal (FsJson.unmarshal ar) (record.efs.getD ∅) ∪ stats.extraFs

/-- A row of the query. A record that does not parse is `none`. -/
structure StatRow where
  stats : Option StatsJson
  created : ℤ

/-! ### Selecting alerts -/

structure SystemAlertData where
  alertData : CachedAlertData
  name : AlertName
  val : Value
  threshold : Value
  triggered : Bool
  time : ℤ := 0
  count : Uint8 := 0
  min : Uint8
  mapSums : GoMap Value := ∅
  deriving DecidableEq

def minute : ℤ := 60 * 1000

def isLowAlert (_name : AlertName) : Bool := false

/-- `float64(b) / (1024 * 1024)`. -/
def bandwidthMB (b : Uint64) : Value :=
  ar.double (ar.double (b.val : ℚ) / (1024 * 1024 : ℚ))

/-- `fs.DiskUsed / fs.DiskTotal * 100`. -/
def usedPct (diskUsed diskTotal : Value) : Value :=
  ar.double (ar.double (diskUsed / diskTotal) * (100 : ℚ))

/-- The current value an alert looks at. -/
def currentValue (data : CombinedData) : AlertName → Value
  | .cpu => ar.double data.info.cpu
  | .memory => ar.double data.info.memPct
  | .bandwidth => bandwidthMB ar data.info.bandwidthBytes
  | .disk =>
      FiniteMap.maxFrom (ar.double data.info.diskPct)
        (fun fs => usedPct ar (ar.double fs.diskUsed) (ar.double fs.diskTotal)) data.stats.extraFs
  | .loadAvg1 => ar.double (data.info.loadAvg 0)
  | .loadAvg5 => ar.double (data.info.loadAvg 1)
  | .loadAvg15 => ar.double (data.info.loadAvg 2)
  | .gpu => ar.double data.info.gpuPct
  | .status | .other _ => 0

/-- The part of the first loop that prepares one alert; `none` when its value is on the side of the
threshold it is known to be on. -/
def selectAlert (now : ℤ) (data : CombinedData) (alertData : CachedAlertData) :
    Option SystemAlertData :=
  let val := currentValue ar data alertData.name
  let triggered := alertData.triggered
  let threshold := ar.double alertData.value
  let unchanged :=
    if isLowAlert alertData.name then
      (!triggered && threshold.le val) || (triggered && val.lt threshold)
    else
      (!triggered && val.le threshold) || (triggered && threshold.lt val)
  if unchanged then none
  else
    let min := max 1 alertData.min
    some
      { alertData, name := alertData.name, val, threshold, min
        triggered :=
          if min = 1 then
            if isLowAlert alertData.name then val.lt threshold else threshold.lt val
          else triggered
        time := if min = 1 then 0 else now - min.val * minute }

/-! ### Adding up the records -/

/-- The usage of a filesystem in percent, if it has a size. -/
def SystemAlertFsStats.usedPct (fs : SystemAlertFsStats) : Option Value :=
  if 0 < fs.diskTotal then some (ar.single (Picket.usedPct ar fs.diskUsed fs.diskTotal)) else none

/-- Root under its own key, then every extra filesystem under its. -/
def addDisk (stats : SystemAlertStats) (mapSums : GoMap Value) : GoMap Value :=
  let add : GoMap Value → GoMap Value → GoMap Value :=
    FiniteMap.accumulate fun entry v => ar.single (entry.getD 0 + v)
  add (add mapSums (Finmap.singleton "root" (ar.single stats.disk)))
    (FiniteMap.filterMapVal (SystemAlertFsStats.usedPct ar) stats.extraFs)

/-- The switch of the inner loop. The count is a `uint8` and wraps. -/
def addStats (stats : SystemAlertStats) (alert : SystemAlertData) : SystemAlertData :=
  let counted (alert : SystemAlertData) : SystemAlertData := { alert with count := alert.count + 1 }
  let added (v : Value) : SystemAlertData := { alert with val := ar.double (alert.val + v) }
  match alert.name with
  | .cpu => counted (added stats.cpu)
  | .memory => counted (added stats.mem)
  | .bandwidth => counted (added (bandwidthMB ar (stats.bandwidth 0 + stats.bandwidth 1)))
  | .disk => counted { alert with mapSums := addDisk ar stats alert.mapSums }
  | .loadAvg1 => counted (added (stats.loadAvg 0))
  | .loadAvg5 => counted (added (stats.loadAvg 1))
  | .loadAvg15 => counted (added (stats.loadAvg 2))
  | .gpu =>
      if stats.gpu = ∅ then alert else counted (added (FiniteMap.maxFrom 0 id stats.gpu))
  | .status | .other _ => alert

/-- The body of the inner loop, for the record with index `i`. -/
def addRecord (i : ℕ) (created : ℤ) (stats : SystemAlertStats) (alert : SystemAlertData) :
    SystemAlertData :=
  let alert := if i = 0 then { alert with val := 0 } else alert
  -- ten seconds of slack
  if created - 10 * 1000 < alert.time then alert else addStats ar stats alert

/-- The outer loop, from record `i` on; `none` when a record does not parse. -/
def sumRecords (i : ℕ) (stats : SystemAlertStats) (alerts : List SystemAlertData) :
    List StatRow → Option (List SystemAlertData)
  | [] => some alerts
  | row :: rows =>
      row.stats.bind fun record =>
        let stats := unmarshal ar record stats
        sumRecords (i + 1) stats (alerts.map (addRecord ar i row.created stats)) rows

/-! ### Deciding -/

/-- An alert after its window: the average, whether it was compared with the threshold, and whether
the alert was sent. -/
structure Evaluation where
  alert : SystemAlertData
  compared : Bool
  sent : Bool
  deriving DecidableEq

def averageAlert (alert : SystemAlertData) : SystemAlertData :=
  match alert.name with
  | .disk =>
      { alert with
        val := ar.single (FiniteMap.maxFrom 0 id alert.mapSums / (alert.count.val : ℚ)) }
  | _ => { alert with val := ar.double (alert.val / (alert.count.val : ℚ)) }

/-- The value lies on the other side of the threshold from the alert's state. -/
def SystemAlertData.crossed (alert : SystemAlertData) : Bool :=
  if isLowAlert alert.name then
    (!alert.triggered && alert.val.lt alert.threshold)
      || (alert.triggered && alert.threshold.le alert.val)
  else
    (!alert.triggered && alert.threshold.lt alert.val)
      || (alert.triggered && alert.val.le alert.threshold)

/-- The last loop. Only an alert with enough records is compared. -/
def evaluate (alert : SystemAlertData) : Evaluation :=
  let alert := averageAlert ar alert
  let minCount := ar.single ((alert.min.val : ℚ) / ar.single (6 / 5 : ℚ))
  if minCount.le (alert.count.val : ℚ) then
    { alert := { alert with triggered := xor alert.triggered alert.crossed }
      compared := true
      sent := alert.crossed }
  else { alert, compared := false, sent := false }

/-- The alerts that are left to the window: those of more than a minute whose window starts after
the oldest record. -/
def windowAlerts (alerts : List CachedAlertData) (now : ℤ) (data : CombinedData)
    (oldestRecordTime : ℤ) : List SystemAlertData :=
  ((alerts.filter (·.name ≠ .status)).filterMap (selectAlert ar now data)).filter fun alert =>
    alert.min ≠ 1 && oldestRecordTime < alert.time

/-- The alerts sent at once, and the outcome for those that were left to the window; `none` when a
record does not parse. `systemStats` is the result of the query, ordered by creation. -/
def handleSystemAlerts (alerts : List CachedAlertData) (now : ℤ) (data : CombinedData)
    (systemStats : List StatRow) : List SystemAlertData × Option (List Evaluation) :=
  let immediate := ((alerts.filter (·.name ≠ .status)).filterMap (selectAlert ar now data)).filter
    fun alert => alert.min = 1
  match systemStats with
  | [] => (immediate, some [])
  | oldest :: _ =>
      let validAlerts := windowAlerts ar alerts now data oldest.created
      if validAlerts = [] then (immediate, some [])
      else (immediate, (sumRecords ar 0 {} validAlerts systemStats).map (·.map (evaluate ar)))

end Arithmetic

end Picket
