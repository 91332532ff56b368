import Picket.Lib.AssocList
import Picket.Systems

/-!
# The system stores of the site

`systemsManager.ts`: a store of all systems by name, one by id, and one for each of three statuses.
The listener of the store by id runs within `setKey`. Every record that arrives is a new object, so
setting it always changes a store.
-/

namespace Picket

open AssocList

structure SystemRecord where
  id : String
  name : String
  status : Status
  /-- `"cpu" in system.info`. -/
  hasCpu : Bool := true
  deriving DecidableEq

abbrev SystemStore := List (String × SystemRecord)

def SystemStore.setKey (store : SystemStore) (key : String) : Option SystemRecord → SystemStore
  | none => delete key store
  | some system => insert key system store

def SystemStore.removeFromStore (store : SystemStore) (system : SystemRecord) : SystemStore :=
  store.setKey system.id none

structure SystemStores where
  allSystemsByName : SystemStore := []
  allSystemsById : SystemStore := []
  upSystems : SystemStore := []
  downSystems : SystemStore := []
  pausedSystems : SystemStore := []
  deriving DecidableEq

namespace SystemStores

/-- The first half of the listener. -/
def onRemoved (s : SystemStores) (oldSystem newSystem : Option SystemRecord) : SystemStores :=
  match oldSystem with
  | none => s
  | some oldSystem =>
      if (newSystem.elim "" (·.id)) = "" then
        { s with
          upSystems := s.upSystems.removeFromStore oldSystem
          downSystems := s.downSystems.removeFromStore oldSystem
          pausedSystems := s.pausedSystems.removeFromStore oldSystem
          -- it is gone already, so the listener is not called again
          allSystemsById := s.allSystemsById.removeFromStore oldSystem }
      else s

def onStatus (s : SystemStores) (newSystem : SystemRecord) : SystemStores :=
  match newSystem.status with
  | .up =>
      { s with
        upSystems := s.upSystems.setKey newSystem.id (some newSystem)
        downSystems := s.downSystems.removeFromStore newSystem
        pausedSystems := s.pausedSystems.removeFromStore newSystem }
  | .down =>
      { s with
        downSystems := s.downSystems.setKey newSystem.id (some newSystem)
        upSystems := s.upSystems.removeFromStore newSystem
        pausedSystems := s.pausedSystems.removeFromStore newSystem }
  | .paused =>
      { s with
        pausedSystems := s.pausedSystems.setKey newSystem.id (some newSystem)
        upSystems := s.upSystems.removeFromStore newSystem
        downSystems := s.downSystems.removeFromStore newSystem }
  | .pending =>
      { s with
        upSystems := s.upSystems.removeFromStore newSystem
        downSystems := s.downSystems.removeFromStore newSystem
        pausedSystems := s.pausedSystems.removeFromStore newSystem }

/-- `$allSystemsById.setKey`, with its listener. Removing what is not there changes nothing. -/
def setSystem (s : SystemStores) (key : String) (newSystem : Option SystemRecord) : SystemStores :=
  let oldSystem := s.allSystemsById.lookup key
  if oldSystem = none ∧ newSystem = none then s
  else
    let s := { s with allSystemsById := s.allSystemsById.setKey key newSystem }
    let s := s.onRemoved oldSystem newSystem
    match newSystem with
    | none => s
    | some newSystem => s.onStatus newSystem

def add (s : SystemStores) (system : SystemRecord) : SystemStores :=
  if system.hasCpu then
    setSystem { s with
      allSystemsByName := s.allSystemsByName.setKey system.name (some system) } system.id
        (some system)
  else s

/-- The key that `undefined` is taken for is its own name. -/
def update (s : SystemStores) (system : SystemRecord) : SystemStores :=
  if system.hasCpu then
    let oldName := (s.allSystemsById.lookup system.id).map (·.name)
    let s :=
      if oldName ≠ some system.name then
        { s with
          allSystemsByName := s.allSystemsByName.setKey (oldName.getD "undefined") none }
      else s
    s.add system
  else s

def remove (s : SystemStores) (system : SystemRecord) : SystemStores :=
  let s := { s with allSystemsByName := s.allSystemsByName.setKey system.name none }
  let s := s.setSystem system.id none
  { s with
    upSystems := s.upSystems.removeFromStore system
    downSystems := s.downSystems.removeFromStore system
    pausedSystems := s.pausedSystems.removeFromStore system }

/-- `records` is what was fetched: nothing, if that failed. -/
def refresh (s : SystemStores) (records : List SystemRecord) : SystemStores :=
  records.foldl add s

end SystemStores

inductive SystemsEvent where
  | create (system : SystemRecord)
  | update (system : SystemRecord)
  | delete (system : SystemRecord)
  | refresh (records : List SystemRecord)
  deriving DecidableEq

/-- Ids are not empty; those of the systems in a list, and their names, are distinct. -/
def SystemsEvent.Proper : SystemsEvent → Prop
  | .create system | .update system | .delete system => system.id ≠ ""
  | .refresh records =>
      (∀ system ∈ records, system.id ≠ "") ∧ (records.map (·.id)).Nodup ∧
        (records.map (·.name)).Nodup

instance : DecidablePred SystemsEvent.Proper
  | .create system | .update system | .delete system =>
      inferInstanceAs (Decidable (system.id ≠ ""))
  | .refresh records =>
      inferInstanceAs (Decidable ((∀ system ∈ records, system.id ≠ "") ∧
        (records.map (·.id)).Nodup ∧ (records.map (·.name)).Nodup))

def SystemStores.step (s : SystemStores) (e : SystemsEvent) : Option SystemStores :=
  if e.Proper then
    match e with
    | .create system => some (s.add system)
    | .update system => some (s.update system)
    | .delete system => some (s.remove system)
    | .refresh records => some (s.refresh records)
  else none

end Picket
