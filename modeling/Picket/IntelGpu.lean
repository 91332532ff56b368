import Picket.AmdNames
import Picket.GpuStats
import Picket.Lib.Checked

/-!
# The rows of `intel_gpu_top`

Two header lines tell which columns a row has: some of the whole GPU, then three for each engine.
The first line is read for the engines and the second one is counted, so that the columns of a row
are found by what two other lines add up to.
-/

namespace Picket.Gather

open Checked

/-! ### Lines -/

/-- `strings.Fields`. -/
def fields (s : String) : List String :=
  ((s.toList.splitOnP isSpace).filter (· ≠ [])).map String.ofList

/-- `strings.TrimRightFunc`. -/
def trimRightFunc (s : String) (cut : Char → Bool) : String :=
  String.ofList (s.toList.reverse.dropWhile cut).reverse

/-- `strings.EqualFold` with letters that have no other form than the capital one. -/
def equalFold (s t : String) : Bool :=
  s.toList.map Char.toLower = t.toList.map Char.toLower

inductive IntelError where
  | noValidData
  /-- A line does not fit in the buffer of the scanner. -/
  | tooLong
deriving DecidableEq

/-- `intelGpuStats`, of floats of any kind. -/
structure IntelRow (F : Type) [Zero F] where
  powerGPU : F := 0
  powerPkg : F := 0
  engines : GoMap F := ∅

/-! ### The header -/

def friendlyName (key : String) : Option String :=
  if key = "RCS" then some "Render/3D"
  else if key = "BCS" then some "Blitter"
  else if key = "VCS" then some "Video"
  else if key = "VECS" then some "VideoEnhance"
  else if key = "CCS" then some "Compute"
  else none

/-- The name in a column of the first line without its number, when it is one of an engine. -/
def engineOfColumn (col : String) : Option (String × String) :=
  let key := trimRightFunc col fun r => '0' ≤ r && r ≤ '9' || r = '/'
  (friendlyName key).map (key, ·)

/-- What is known of the columns; nothing before a header has come. -/
structure IntelHeaders where
  engineNames : List String := []
  friendlyNames : List String := []
  powerIndex : ℤ := 0
  preEngineCols : ℕ := 0

/-- The loop that ends at the first column of the power. -/
def findPower (h2 : List String) : List ℕ → Except (Fault IntelError) ℤ
  | [] => .ok (-1)
  | i :: rest => do
      if equalFold (← index h2 i) "gpu" then return i
      findPower h2 rest

def parseIntelHeaders (header1 header2 : String) : Except (Fault IntelError) IntelHeaders := do
  let h1 := fields header1
  let h2 := fields header2
  let engines := h1.filterMap engineOfColumn
  let engineNames := engines.map Prod.fst
  let friendlyNames := engines.map Prod.snd
  if engines.length > 0 then
    let preEngineCols := h2.length - 3 * engines.length
    let limit := min h2.length preEngineCols
    let powerIndex ← findPower h2 (List.range limit)
    return { engineNames, friendlyNames, powerIndex, preEngineCols }
  else return { engineNames, friendlyNames, powerIndex := -1, preEngineCols := 0 }

/-! ### A row -/

section Row

variable {F : Type} [Zero F] [Add F] (parseFloat : String → Option F)

def parsePower (fields : List String) (powerIndex : ℤ) :
    Except (Fault IntelError) (IntelRow F) := do
  if 0 ≤ powerIndex ∧ powerIndex < fields.length then
    let powerGPU := (parseFloat (← index fields powerIndex)).getD 0
    let powerPkg := (parseFloat (← index fields (powerIndex + 1))).getD 0
    return { powerGPU, powerPkg }
  else return {}

def addEngine (fields : List String) (headers : IntelHeaders) (engines : GoMap F) (k : ℕ) :
    Except (Fault IntelError) (GoMap F) := do
  let base := headers.preEngineCols + 3 * k
  if base < fields.length then
    let busy := (parseFloat (← index fields base)).getD 0
    let name ← index headers.friendlyNames k
    let cur := (engines.lookup name).getD 0
    return engines.insert name (cur + busy)
  else
    let name ← index headers.friendlyNames k
    return engines.insert name 0

def parseIntelData (line : String) (headers : IntelHeaders) :
    Except (Fault IntelError) (IntelRow F) := do
  let fields := fields line
  if fields.length = 0 then throw (.error .noValidData)
  if fields.length < headers.preEngineCols + 3 * headers.engineNames.length then
    throw (.error .noValidData)
  let sample ← parsePower parseFloat fields headers.powerIndex
  let engines ←
    (List.range headers.engineNames.length).foldlM (addEngine parseFloat fields headers) ∅
  return { sample with engines }

end Row

/-! ### The collector -/

def IntelRow.stats (sample : IntelRow ℚ) : IntelGpuStats where
  powerGPU := sample.powerGPU
  powerPkg := sample.powerPkg
  engines := sample.engines

/-- The variables of the loop of `collectIntelStats`. -/
structure IntelScan where
  gm : GPUManager
  header1 : String := ""
  headers : IntelHeaders := {}
  hadDataRow : Bool := false
  skippedFirstDataRow : Bool := false

section Collect

variable (parseFloat : String → Option ℚ)

def IntelScan.scanLine (s : IntelScan) (text : String) : Except (Fault IntelError) IntelScan :=
  let line := trimSpace text
  if line = "" then .ok s
  else if hasPrefix line "Freq" then .ok { s with header1 := line }
  else if hasPrefix line "req" then do
    let headers ← parseIntelHeaders s.header1 line
    return { s with headers }
  else if !s.skippedFirstDataRow then .ok { s with skippedFirstDataRow := true }
  else do
    let sample ← parseIntelData parseFloat line s.headers
    return { s with hadDataRow := true, gm := s.gm.updateIntelFromStats sample.stats }

/-- The loop ends at a fault, with the samples that have been added until then. -/
def IntelScan.scan (s : IntelScan) : List String → IntelScan × Option (Fault IntelError)
  | [] => (s, none)
  | text :: rest =>
      match s.scanLine parseFloat text with
      | .ok s' => s'.scan rest
      | .error fault => (s, some fault)

def GPUManager.collectIntelStats (gm : GPUManager) (output : String) :
    GPUManager × Option (Fault IntelError) :=
  let lines := scanLines output
  let (s, fault) := IntelScan.scan parseFloat { gm } lines
  if fault.isSome then (s.gm, fault)
  else if lines.length < (splitLines output.toList).length then (s.gm, some (.error .tooLong))
  else if !s.hadDataRow then (s.gm, some (.error .noValidData))
  else (s.gm, none)

end Collect

end Picket.Gather
