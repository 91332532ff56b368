import Picket.DiskDevices
import Picket.GpuStats

/-!
# Slots of nvtop's devices

nvtop shows all devices at once, without identifiers. A sample goes to the slot of its position,
unless that has the name of another device; then it goes to an unused slot of its own name, and back
to the position if there is none.
-/

namespace Picket.Gather

/-- `nvtopSnapshot`, with its numbers as `parseNvtopNumber` reads them. -/
structure NvtopSnapshot where
  deviceName : String
  temp : Option ℚ := none
  powerDraw : Option ℚ := none
  gpuUtil : Option ℚ := none
  memTotal : Option ℚ := none
  memUsed : Option ℚ := none

def NvtopSnapshot.toUsageSample (sample : NvtopSnapshot) : UsageSample where
  name := sample.deviceName
  temperature := sample.temp
  memoryUsed := sample.memUsed.map fun bytes => twoDecimals (bytes / 1048576)
  memoryTotal := sample.memTotal.map fun bytes => twoDecimals (bytes / 1048576)
  usage := sample.gpuUtil.getD 0
  power := sample.powerDraw.getD 0

/-- The order in which a map is gone through, whatever is in it. -/
structure MapIteration where
  order : List (String × Gpu) → List (String × Gpu)
  perm : ∀ gpuDataMap, (order gpuDataMap).Perm gpuDataMap

def indexID (i : ℕ) : String :=
  "n" ++ toString i

/-- The map, and the slots of the batch so far. -/
structure NvtopLoop where
  gpuDataMap : List (String × Gpu) := []
  usedIDs : List String := []
  valid : Bool := false

namespace NvtopLoop

def isReusable (usedIDs : List String) (deviceName : String) (existing : String × Gpu) : Bool :=
  hasPrefix existing.1 "n" && existing.1 ∉ usedIDs && existing.2.name = deviceName

def slotID (l : NvtopLoop) (i : ℕ) (deviceName : String) (iteration : MapIteration) : String :=
  match l.gpuDataMap.lookup (indexID i) with
  | none => indexID i
  | some existingByIndex =>
      if existingByIndex.name ≠ "" ∧ existingByIndex.name ≠ deviceName then
        match (iteration.order l.gpuDataMap).find? (isReusable l.usedIDs deviceName) with
        | some existing => existing.1
        | none => indexID i
      else indexID i

def write (l : NvtopLoop) (id : String) (sample : NvtopSnapshot) : NvtopLoop :=
  let gpu := (l.gpuDataMap.lookup id).getD { name := sample.deviceName }
  { gpuDataMap :=
      AssocList.insert id
        ({ gpu with name := sample.deviceName }.update (.usage sample.toUsageSample)) l.gpuDataMap
    usedIDs := id :: l.usedIDs
    valid := true }

/-- The loop body of `updateNvtopSnapshots`. -/
def update (l : NvtopLoop) (i : ℕ) (sample : NvtopSnapshot) (iteration : MapIteration) :
    NvtopLoop :=
  if sample.deviceName = "" then l
  else l.write (l.slotID i sample.deviceName iteration) sample

end NvtopLoop

/-- Each sample comes with the order in which the map is gone through for it. -/
def GPUManager.updateNvtopSnapshots (gm : GPUManager)
    (snapshots : List (NvtopSnapshot × MapIteration)) : GPUManager × Bool :=
  let l := snapshots.zipIdx.foldl (fun l entry => l.update entry.2 entry.1.1 entry.1.2)
    { gpuDataMap := gm.gpuDataMap : NvtopLoop }
  ({ gm with gpuDataMap := l.gpuDataMap }, l.valid)

/-! ### Runs -/

/-- A sample that has been written to a slot. -/
structure SlotUpdate where
  batch : ℕ
  id : String
  sample : NvtopSnapshot

/-- The loop, and what has been written to which slot, the newest first. -/
structure NvtopRun where
  loop : NvtopLoop := {}
  batch : ℕ := 0
  updates : List SlotUpdate := []

inductive NvtopEvent where
  | batch
  | sample (i : ℕ) (sample : NvtopSnapshot) (iteration : MapIteration)

namespace NvtopRun

def write (s : NvtopRun) (id : String) (sample : NvtopSnapshot) : NvtopRun :=
  { s with loop := s.loop.write id sample, updates := ⟨s.batch, id, sample⟩ :: s.updates }

def next (s : NvtopRun) : NvtopEvent → NvtopRun
  | .batch => { s with loop := { gpuDataMap := s.loop.gpuDataMap }, batch := s.batch + 1 }
  | .sample i sample iteration =>
      if sample.deviceName = "" then s
      else s.write (s.loop.slotID i sample.deviceName iteration) sample

def step (s : NvtopRun) (e : NvtopEvent) : Option NvtopRun :=
  some (s.next e)

def events (snapshots : List (NvtopSnapshot × MapIteration)) : List NvtopEvent :=
  .batch :: snapshots.zipIdx.map fun entry => .sample entry.2 entry.1.1 entry.1.2

def ofBatches (batches : List (List (NvtopSnapshot × MapIteration))) : NvtopRun :=
  (batches.flatMap events).foldl next {}

end NvtopRun

/-! ### What belongs together -/

/-- Samples of one batch go to different slots, and samples of one slot are of one device. -/
def SlotUpdate.Compatible (u v : SlotUpdate) : Prop :=
  (u.batch = v.batch → u.id ≠ v.id) ∧
    (u.id = v.id → u.sample.deviceName = v.sample.deviceName)

def NvtopRun.KeepsToDevice (s : NvtopRun) : Prop :=
  s.updates.Pairwise SlotUpdate.Compatible

/-- The slot of the position is new, or unused and of the same name; or it has another name, and
there is an unused slot of the same name. -/
def NvtopRun.SlotFree (s : NvtopRun) : NvtopEvent → Prop
  | .batch => True
  | .sample i sample _ =>
      sample.deviceName = "" ∨
        match s.loop.gpuDataMap.lookup (indexID i) with
        | none => True
        | some existingByIndex =>
            if existingByIndex.name = sample.deviceName then indexID i ∉ s.loop.usedIDs
            else
              ∃ existing ∈ s.loop.gpuDataMap,
                NvtopLoop.isReusable s.loop.usedIDs sample.deviceName existing = true

end Picket.Gather
