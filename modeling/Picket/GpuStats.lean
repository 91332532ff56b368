import Picket.DiskStats
import Picket.Messages

/-!
# GPU data

The samples of a GPU are added up by the collectors. A call averages what has been added since the
last call with its cache key, of which a snapshot is kept; the last average of all is for calls that
come before new data.
-/

namespace Picket.Gather

/-- `uint32` of a float that is not negative. -/
def toUint32 (x : ℚ) : Uint32 :=
  Fin.ofNat (2 ^ 32) x.floor.toNat

/-- `system.GPUData` with the agent's own bookkeeping. Usage, power and engines are sums over the
samples, which are counted. -/
structure Gpu extends Picket.GPUData where
  /-- `Engines != nil`. -/
  hasEngines : Bool := false

/-! ### Samples -/

/-- A sample from a tool that shows usage and power. What is not in it stays as it was. -/
structure UsageSample where
  /-- The name of the GPU, if it is a new one. -/
  name : String := ""
  temperature : Option ℚ := none
  memoryUsed : Option ℚ := none
  memoryTotal : Option ℚ := none
  usage : ℚ := 0
  power : ℚ := 0

structure IntelGpuStats where
  powerGPU : ℚ := 0
  powerPkg : ℚ := 0
  engines : GoMap ℚ := ∅

inductive GpuSample where
  | usage (sample : UsageSample)
  | intel (sample : IntelGpuStats)

def GpuSample.newGpu : GpuSample → Gpu
  | .usage sample => { name := sample.name }
  | .intel _ => { name := "GPU", hasEngines := true }

def Gpu.update (gpu : Gpu) : GpuSample → Gpu
  | .usage sample =>
      { gpu with
        temperature := sample.temperature.getD gpu.temperature
        memoryUsed := sample.memoryUsed.getD gpu.memoryUsed
        memoryTotal := sample.memoryTotal.getD gpu.memoryTotal
        usage := gpu.usage + sample.usage
        power := gpu.power + sample.power
        count := gpu.count + 1 }
  | .intel sample =>
      { gpu with
        power := gpu.power + sample.powerGPU
        powerPkg := gpu.powerPkg + sample.powerPkg
        engines :=
          FiniteMap.accumulate (fun entry engine => entry.getD 0 + engine) gpu.engines
            sample.engines
        hasEngines := true
        count := gpu.count + 1 }

/-! ### The manager -/

structure GpuSnapshot where
  count : Uint32
  usage : ℚ
  power : ℚ
  powerPkg : ℚ
  /-- Nothing when there was no map. -/
  engines : Option (GoMap ℚ)

def Gpu.snapshot (gpu : Gpu) : GpuSnapshot where
  count := toUint32 gpu.count
  usage := gpu.usage
  power := gpu.power
  powerPkg := gpu.powerPkg
  engines := if gpu.hasEngines then some gpu.engines else none

structure GPUManager where
  gpuDataMap : List (String × Gpu) := []
  lastAvgData : String → Option GPUData := fun _ => none
  lastSnapshots : Uint16 → String → Option GpuSnapshot := fun _ _ => none

def calculateDeltaCount (currentCount : Uint32) (lastSnapshot : Option GpuSnapshot) : Uint32 :=
  match lastSnapshot with
  | some snapshot => currentCount - snapshot.count
  | none => currentCount

def calculateDeltas (gpu : Gpu) (lastSnapshot : Option GpuSnapshot) : ℚ × ℚ × ℚ :=
  match lastSnapshot with
  | some snapshot =>
      (gpu.usage - snapshot.usage, gpu.power - snapshot.power, gpu.powerPkg - snapshot.powerPkg)
  | none => (gpu.usage, gpu.power, gpu.powerPkg)

def deltaEngines (gpu : Gpu) (lastSnapshot : Option GpuSnapshot) : GoMap ℚ :=
  FiniteMap.ofLookup gpu.engines.keys fun name =>
    (gpu.engines.lookup name).map fun engine =>
      match lastSnapshot.bind (·.engines) with
      | some engines => engine - (engines.lookup name).getD 0
      | none => engine

def calculateIntelGPUUsage (gpu : Gpu) (lastSnapshot : Option GpuSnapshot) (deltaCount : Uint32) :
    GoMap ℚ × ℚ :=
  let deltas := deltaEngines gpu lastSnapshot
  (FiniteMap.mapVal (fun deltaEngine => twoDecimals (deltaEngine / deltaCount.val)) deltas,
    twoDecimals (FiniteMap.maxFrom 0 (fun deltaEngine => deltaEngine / deltaCount.val) deltas))

def newAverage (gpu : Gpu) (lastSnapshot : Option GpuSnapshot) (deltaCount : Uint32) : GPUData :=
  let (deltaUsage, deltaPower, deltaPowerPkg) := calculateDeltas gpu lastSnapshot
  let gpuAvg := { gpu.toGPUData with power := twoDecimals (deltaPower / deltaCount.val) }
  if gpu.hasEngines then
    let (engines, usage) := calculateIntelGPUUsage gpu lastSnapshot deltaCount
    { gpuAvg with engines, usage, powerPkg := twoDecimals (deltaPowerPkg / deltaCount.val) }
  else { gpuAvg with usage := twoDecimals (deltaUsage / deltaCount.val) }

def updateInstantaneousValues (gpuAvg : GPUData) (gpu : Gpu) : GPUData :=
  { gpuAvg with
    temperature := twoDecimals gpu.temperature
    memoryUsed := twoDecimals gpu.memoryUsed
    memoryTotal := twoDecimals gpu.memoryTotal }

namespace GPUManager

def addSample (gm : GPUManager) (id : String) (sample : GpuSample) : GPUManager :=
  { gm with
    gpuDataMap :=
      AssocList.insert id (((gm.gpuDataMap.lookup id).getD sample.newGpu).update sample)
        gm.gpuDataMap }

/-- There is only one GPU. -/
def updateIntelFromStats (gm : GPUManager) (sample : IntelGpuStats) : GPUManager :=
  gm.addSample "i0" (.intel sample)

def countGPUNames (gm : GPUManager) (name : String) : ℕ :=
  gm.gpuDataMap.countP (·.2.name = name)

def calculateGPUAverage (gm : GPUManager) (id : String) (gpu : Gpu) (cacheKey : Uint16) :
    GPUManager × GPUData :=
  let lastSnapshot := gm.lastSnapshots cacheKey id
  let deltaCount := calculateDeltaCount (toUint32 gpu.count) lastSnapshot
  if deltaCount = 0 then
    if gpu.temperature = 0 ∧ gpu.memoryUsed = 0 then (gm, { name := gpu.name })
    else (gm, (gm.lastAvgData id).getD {})
  else
    let gpuAvg := newAverage gpu lastSnapshot deltaCount
    ({ gm with lastAvgData := Function.update gm.lastAvgData id (some gpuAvg) }, gpuAvg)

def storeSnapshot (gm : GPUManager) (id : String) (gpu : Gpu) (cacheKey : Uint16) : GPUManager :=
  { gm with
    lastSnapshots :=
      Function.update gm.lastSnapshots cacheKey
        (Function.update (gm.lastSnapshots cacheKey) id (some gpu.snapshot)) }

/-- The loop body of `GetCurrentData`, which only touches what belongs to its GPU. -/
def readGpu (nameCounts : String → ℕ) (cacheKey : Uint16)
    (s : GPUManager × List (String × GPUData)) (entry : String × Gpu) :
    GPUManager × List (String × GPUData) :=
  let (id, gpu) := entry
  let (gm, gpuAvg) := s.1.calculateGPUAverage id gpu cacheKey
  let gpuAvg := updateInstantaneousValues gpuAvg gpu
  let gm := gm.storeSnapshot id gpu cacheKey
  let gpuAvg :=
    if 1 < nameCounts gpu.name then { gpuAvg with name := gpu.name ++ " " ++ id } else gpuAvg
  (gm, AssocList.insert id gpuAvg s.2)

def getCurrentData (gm : GPUManager) (cacheKey : Uint16) : GPUManager × List (String × GPUData) :=
  gm.gpuDataMap.foldl (readGpu gm.countGPUNames cacheKey) (gm, [])

/-! ### Runs -/

/-- A manager whose collectors may have added GPUs before there is a sample. -/
def start (gpus : List (String × String)) : GPUManager where
  gpuDataMap := gpus.map fun (id, name) => (id, { name })

end GPUManager

inductive GpuEvent where
  | sample (id : String) (sample : GpuSample)
  | getCurrentData (cacheKey : Uint16)

namespace GPUManager

def step (gm : GPUManager) : GpuEvent → GPUManager
  | .sample id sample => gm.addSample id sample
  | .getCurrentData cacheKey => (gm.getCurrentData cacheKey).1

def run (gm : GPUManager) (es : List GpuEvent) : GPUManager :=
  es.foldl step gm

end GPUManager

/-! ### What an average is of -/

def samplesSince (id : String) (cacheKey : Uint16) (es : List GpuEvent) : List GpuSample :=
  es.foldl (fun samples e =>
    match e with
    | .sample id' sample => if id' = id then samples ++ [sample] else samples
    | .getCurrentData cacheKey' => if cacheKey' = cacheKey then [] else samples) []

def samplesOf (id : String) (es : List GpuEvent) : List GpuSample :=
  es.filterMap fun
    | .sample id' sample => if id' = id then some sample else none
    | .getCurrentData _ => none

namespace GpuSample

def usageOf : GpuSample → ℚ
  | .usage sample => sample.usage
  | .intel _ => 0

def powerOf : GpuSample → ℚ
  | .usage sample => sample.power
  | .intel sample => sample.powerGPU

def powerPkgOf : GpuSample → ℚ
  | .usage _ => 0
  | .intel sample => sample.powerPkg

def engines : GpuSample → GoMap ℚ
  | .usage _ => ∅
  | .intel sample => sample.engines

/-- An engine that is missing counts as zero. -/
def engineOf (engine : String) (sample : GpuSample) : ℚ :=
  (sample.engines.lookup engine).getD 0

def isIntel : GpuSample → Bool
  | .usage _ => false
  | .intel _ => true

end GpuSample

def mean (f : GpuSample → ℚ) (samples : List GpuSample) : ℚ :=
  (samples.map f).sum / samples.length

def engineMeans (all samples : List GpuSample) : Set ℚ :=
  Set.image (fun engine => mean (GpuSample.engineOf engine) samples)
    (Set.ofPred fun engine => ∃ sample ∈ all, engine ∈ sample.engines.keys)

/-- The averages of some samples, out of all that there have been. A GPU with engines has the
largest of their means as its usage, or zero when there are none or all are below. -/
structure Averages (all samples : List GpuSample) (data : GPUData) : Prop where
  power : data.power = twoDecimals (mean GpuSample.powerOf samples)
  usage : all.any GpuSample.isIntel = false →
    data.usage = twoDecimals (mean GpuSample.usageOf samples)
  engines : all.any GpuSample.isIntel = true → ∀ engine, data.engines.lookup engine =
    if ∃ sample ∈ all, engine ∈ sample.engines.keys then
      some (twoDecimals (mean (GpuSample.engineOf engine) samples))
    else none
  powerPkg : all.any GpuSample.isIntel = true →
    data.powerPkg = twoDecimals (mean GpuSample.powerPkgOf samples)
  largest : all.any GpuSample.isIntel = true → ∃ largest, data.usage = twoDecimals largest ∧
    IsGreatest (insert 0 (engineMeans all samples)) largest
  /-- The zero does not count where an engine is never less than idle. -/
  busiest : all.any GpuSample.isIntel = true → (engineMeans all samples).Nonempty →
    (∀ sample ∈ samples, ∀ engine, 0 ≤ sample.engineOf engine) →
    ∃ largest, data.usage = twoDecimals largest ∧ IsGreatest (engineMeans all samples) largest

def GpuEvent.matters (cacheKey : Uint16) : GpuEvent → Bool
  | .sample _ _ => true
  | .getCurrentData cacheKey' => cacheKey' = cacheKey

end Picket.Gather
