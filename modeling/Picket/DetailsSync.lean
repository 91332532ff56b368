import Mathlib.Logic.Function.Basic
import Picket.GatherStats
import Picket.Fetch

/-!
# The details of a system

An agent sends its details when it is asked for them or when they have changed since it sent them,
and only in answers for the updater that it does not take from its cache. The hub asks until it has
saved some. A `System` belongs to one connection and keeps the details of the last answer that had
any; whatever it saves, it saves them again. Requests and answers on a connection arrive in order,
but the updater stops waiting after some time, and what comes then is dropped.
-/

namespace Picket.DetailsSync

/-- What the CBOR encoding of the details holds: the fields with `omitempty` only if not zero. -/
def encode (details : Details) : SentDetails where
  hostname := some details.hostname
  kernel := if details.kernel = "" then none else some details.kernel
  cores := some details.cores
  threads := some details.threads
  cpuModel := some details.cpuModel
  os := some details.os
  osName := some details.osName
  arch := some details.arch
  podman := if details.podman then some true else none
  memoryTotal := some details.memoryTotal
  smartInterval := if details.smartInterval = 0 then none else some details.smartInterval

/-- A record of `system_details`. -/
structure DetailsRecord where
  hostname : String
  kernel : String
  cores : ℤ
  threads : ℤ
  cpu : String
  os : Uint8
  os_name : String
  arch : String
  memory : Uint64
  podman : Bool
  deriving DecidableEq

def createSystemDetailsRecord (data : Details) : DetailsRecord where
  hostname := data.hostname
  kernel := data.kernel
  cores := data.cores
  threads := data.threads
  cpu := data.cpuModel
  os := data.os
  os_name := data.osName
  arch := data.arch
  memory := data.memoryTotal
  podman := data.podman

/-! ### The agent -/

structure Agent where
  systemDetails : Details
  detailsDirty : Bool := false
  deriving DecidableEq

namespace Agent

/-- `updateSystemDetails`, with the one change that is ever made. -/
def setIsPodman (a : Agent) : Agent where
  systemDetails := { a.systemDetails with podman := true }
  detailsDirty := true

/-- The details in an answer at the default interval. -/
def attachSystemDetails (a : Agent) (isCached includeRequested : Bool) : Agent × Option Details :=
  if isCached ∨ (includeRequested = false ∧ a.detailsDirty = false) then (a, none)
  else ({ a with detailsDirty := false }, some a.systemDetails)

end Agent

/-! ### The hub -/

/-- Where the `update` of a `System` is. Requests are numbered. -/
inductive Stage where
  | idle
  | waiting (id : ℕ)
  | fetched
  deriving DecidableEq

/-- A `System` and its connection. -/
structure System where
  /-- `sys.data.Details`. -/
  details : Option Details := none
  detailsFetched : Bool := false
  stage : Stage := .idle
  nextID : ℕ := 0
  /-- The requests on their way, and whether they ask for details. -/
  requests : List (ℕ × Bool) := []
  /-- The answers on their way, and the details in them. -/
  answers : List (ℕ × Option Details) := []

namespace System

/-- The first half of `update`. -/
def update (sys : System) : Option System :=
  if sys.stage = .idle then
    some
      { sys with
        stage := .waiting (sys.nextID + 1)
        nextID := sys.nextID + 1
        requests := sys.requests ++ [(sys.nextID + 1, !sys.detailsFetched)] }
  else none

/-- The request fails, or takes too long. -/
def fail (sys : System) : Option System :=
  match sys.stage with
  | .waiting _ => some { sys with stage := .idle }
  | _ => none

/-- `sys.data.Details` when an answer is decoded into `sys.data`. -/
def decode (sys : System) (details : Option Details) : Option Details :=
  details.elim sys.details fun sent => some ((encode sent).decode (sys.details.getD {}))

/-- An answer arrives. It is decoded if the updater still waits for it. -/
def receive (sys : System) : Option System :=
  match sys.answers with
  | [] => none
  | (id, details) :: answers =>
      if sys.stage = .waiting id then
        some { sys with answers, stage := .fetched, details := sys.decode details }
      else some { sys with answers }

/-- The second half of `update`, when the transaction of `createRecords` succeeds. -/
def save (sys : System) : System :=
  { sys with
    stage := .idle
    detailsFetched := sys.detailsFetched || sys.details.isSome }

end System

structure State where
  agent : Agent
  systems : ℕ → System := fun _ => {}
  created : ℕ := 0
  /-- The `System` whose connection the agent has. -/
  current : Option ℕ := none
  row : Option DetailsRecord := none

inductive Event where
  | setIsPodman
  /-- The process ends, and another starts with `refreshSystemDetails`. -/
  | restart (details : Details)
  | connect
  | disconnect
  | update (i : ℕ)
  /-- The agent answers the first request of its connection. -/
  | answer (isCached : Bool)
  | receive (i : ℕ)
  | fail (i : ℕ)
  | createRecords (i : ℕ) (ok : Bool)
  deriving DecidableEq

namespace State

def setSystem (s : State) (i : ℕ) (sys : System) : State :=
  { s with systems := Function.update s.systems i sys }

def answer (s : State) (isCached : Bool) : Option State :=
  s.current.bind fun i =>
    match (s.systems i).requests with
    | [] => none
    | (id, includeDetails) :: requests =>
        let (agent, details) := s.agent.attachSystemDetails isCached includeDetails
        some
          { s.setSystem i { s.systems i with
              requests
              answers := (s.systems i).answers ++ [(id, details)] } with agent }

def createRecords (s : State) (i : ℕ) (ok : Bool) : Option State :=
  if (s.systems i).stage = .fetched then
    some
      (if ok then
        { s.setSystem i (s.systems i).save with
          row := ((s.systems i).details.map createSystemDetailsRecord).or s.row }
      else s.setSystem i { s.systems i with stage := .idle })
  else none

def step (s : State) : Event → Option State
  | .setIsPodman => some { s with agent := s.agent.setIsPodman }
  | .restart details => some { s with agent := { systemDetails := details }, current := none }
  | .connect =>
      if s.current = none then some { s with current := some s.created, created := s.created + 1 }
      else none
  | .disconnect => some { s with current := none }
  | .update i => if i < s.created then ((s.systems i).update).map (s.setSystem i) else none
  | .answer isCached => s.answer isCached
  | .receive i => ((s.systems i).receive).map (s.setSystem i)
  | .fail i => ((s.systems i).fail).map (s.setSystem i)
  | .createRecords i ok => s.createRecords i ok

end State

end Picket.DetailsSync
