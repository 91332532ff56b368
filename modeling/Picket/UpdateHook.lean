import Picket.Lib.AssocList
import Picket.Systems

/-!
# The hook of system updates

Once an update of a system record is in the database, the hook brings the `System` of the manager in
line with it, triggers or resolves alerts, and goes on with the rest of its chain.
-/

namespace Picket

/-- A record of `systems`, with the token from before the update. The status is a select field,
which may be empty. -/
structure UpdatedRecord where
  id : String
  status : Option Status
  host : String := ""
  port : String := ""
  token : String := ""
  originalToken : String := ""

/-- A `System` that has an id. -/
structure ManagedSystem where
  id : String
  status : Option Status := none
  host : String := ""
  port : String := ""
  /-- `WsConn != nil`. -/
  wsConn : Bool := false

/-- `SystemManager.systems`. -/
abbrev ManagedSystems := List (String × ManagedSystem)

/-! ### The manager -/

namespace ManagedSystems

def newSystem (systemId : String) : ManagedSystem where
  id := systemId

/-- The `System` and its connection are closed, and there is an error if there is none. -/
def removeSystem (systems : ManagedSystems) (systemID : String) :
    ManagedSystems × Option String :=
  match systems.lookup systemID with
  | none => (systems, some "system not found")
  | some _ => (AssocList.delete systemID systems, none)

/-- A `System` is only added with a connection. -/
def addSystem (systems : ManagedSystems) (sys : ManagedSystem) : ManagedSystems × Option String :=
  if (systems.lookup sys.id).isSome then (systems, some "system exists")
  else if sys.id = "" ∨ sys.wsConn = false then (systems, some "system missing required fields")
  else (AssocList.insert sys.id sys systems, none)

def addRecord (systems : ManagedSystems) (record : UpdatedRecord) (system : Option ManagedSystem) :
    ManagedSystems × Option String :=
  let systems :=
    if (systems.lookup record.id).isSome then (systems.removeSystem record.id).1 else systems
  let system := system.getD (newSystem record.id)
  systems.addSystem
    { system with status := record.status, host := record.host, port := record.port }

end ManagedSystems

/-! ### The hook -/

inductive HookCall where
  | setDown
  | removeSystem
  | closeWebSocketConnection
  | deactivateAlerts
  | cancelPendingStatusAlerts
  | update
  | addRecord
  | handleSystemAlerts
  | handleStatusAlerts (newStatus : Option Status)
  | logError (msg err : String)
  /-- `e.Next()`, the rest of the hook chain. -/
  | next
  deriving DecidableEq

/-- What is called returns these errors. `setDown` saves the record, so that hooks run within it. -/
structure HookOutcomes where
  afterSetDown : ManagedSystems → ManagedSystems := id
  setDown : Option String := none
  deactivateAlerts : Option String := none
  handleSystemAlerts : Option String := none
  handleStatusAlerts : Option String := none
  next : Option String := none

structure HookResult where
  systems : ManagedSystems
  calls : List HookCall
  error : Option String

def logged (msg : String) : Option String → List HookCall
  | none => []
  | some err => [.logError msg err]

def alertCalls (o : HookOutcomes) (newStatus prevStatus : Option Status) : List HookCall :=
  let systemAlerts :=
    if newStatus = some .up then
      .handleSystemAlerts :: logged "Error handling system alerts" o.handleSystemAlerts
    else []
  let statusAlerts :=
    if newStatus = some .down ∧ prevStatus = some .up ∨
        newStatus = some .up ∧ prevStatus = some .down then
      .handleStatusAlerts newStatus :: logged "Error handling status alerts" o.handleStatusAlerts
    else []
  systemAlerts ++ statusAlerts

def onRecordAfterUpdateSuccess (systems : ManagedSystems) (record : UpdatedRecord)
    (o : HookOutcomes) : HookResult :=
  let newStatus := record.status
  let found := systems.lookup record.id
  let prevStatus := found.elim (some .pending) (·.status)
  let systems :=
    match found with
    | none => systems
    | some system => AssocList.insert record.id { system with status := newStatus } systems
  if found.isSome ∧ record.token ≠ record.originalToken then
    { systems := ((o.afterSetDown systems).removeSystem record.id).1
      calls := [.setDown, .removeSystem, .next]
      error := o.next }
  else
    match newStatus with
    | some .paused =>
        { systems
          calls := (if found.isSome then [.closeWebSocketConnection] else []) ++
            [.deactivateAlerts, .cancelPendingStatusAlerts, .next]
          error := o.next }
    | some .pending =>
        if found.any (·.wsConn) then { systems, calls := [.update, .next], error := o.next }
        else { systems, calls := [.deactivateAlerts, .next], error := o.next }
    | newStatus =>
        if found.isNone then
          let (systems, error) := systems.addRecord record none
          { systems, calls := [.addRecord], error }
        else
          { systems, calls := alertCalls o newStatus prevStatus ++ [.next], error := o.next }

/-- The rest of the chain has run once, and only its error is returned. -/
structure HookResult.Completes (o : HookOutcomes) (r : HookResult) : Prop where
  once : r.calls.count .next = 1
  error : r.error = o.next

end Picket
