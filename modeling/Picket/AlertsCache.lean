import Mathlib.Data.Rat.Defs
import Picket.Lib.AssocList

/-!
# The alerts cache

The table of alerts, and the cache that the hub keeps of it: for each system with an entry, its
alerts by id. A change of the table and the hook that follows are one step. A query may fail.
-/

namespace Picket

open AssocList

namespace AlertsCache

/-- A record of the table; `min` is the number that is stored. -/
structure Record where
  id : String
  system : String
  name : String
  value : ℚ
  triggered : Bool
  min : ℤ
  deriving DecidableEq

structure CachedAlertData where
  id : String
  systemID : String
  name : String
  value : ℚ
  triggered : Bool
  min : UInt8
  deriving DecidableEq

def populateFromRecord (record : Record) : CachedAlertData where
  id := record.id
  systemID := record.system
  name := record.name
  value := record.value
  triggered := record.triggered
  min := UInt8.ofNat (record.min % 256).toNat

abbrev SystemStore := List (String × CachedAlertData)

end AlertsCache

structure AlertsCache where
  store : List (String × AlertsCache.SystemStore) := []
  populated : Bool := false
  deriving DecidableEq

namespace AlertsCache

def update (c : AlertsCache) (record : Record) : AlertsCache :=
  if record.system = "" then c
  else
    let systemStore := (c.store.lookup record.system).getD []
    { c with
      store :=
        insert record.system (insert record.id (populateFromRecord record) systemStore) c.store }

def delete (c : AlertsCache) (record : Record) : AlertsCache :=
  if record.system = "" then c
  else
    match c.store.lookup record.system with
    | none => c
    | some systemStore =>
        { c with store := insert record.system (AssocList.delete record.id systemStore) c.store }

/-- `records` are all records of the table, if they can be found. -/
def populateFromDB (c : AlertsCache) (force : Bool) (records : Option (List Record)) :
    AlertsCache :=
  if !force && c.populated then c
  else
    match records with
    | none => c
    | some records => { records.foldl update { c with store := [] } with populated := true }

/-- `records` are those of the table, if they can be found. -/
def getSystemAlerts (c : AlertsCache) (systemID : String) (records : Option (List Record)) :
    AlertsCache × Option (List CachedAlertData) :=
  match c.store.lookup systemID with
  | some systemStore => (c, some (systemStore.map Prod.snd))
  | none =>
      match records with
      | none => (c, none)
      | some records =>
          let systemStore := (records.filter (·.system = systemID)).foldl
            (fun systemStore record => insert record.id (populateFromRecord record) systemStore) []
          ({ c with store := insert systemID systemStore c.store },
            some (systemStore.map Prod.snd))

end AlertsCache

/-- The order of the records means nothing. -/
structure AlertsState where
  records : List AlertsCache.Record := []
  cache : AlertsCache := {}
  deriving DecidableEq

inductive AlertsEvent where
  | create (record : AlertsCache.Record)
  | update (record : AlertsCache.Record)
  | delete (record : AlertsCache.Record)
  /-- Whether the records can be found is `ok`. -/
  | populateFromDB (force ok : Bool)
  | getSystemAlerts (systemID : String) (ok : Bool)
  deriving DecidableEq

namespace AlertsState

/-- No two alerts of a system have one name. -/
def NameFree (s : AlertsState) (record : AlertsCache.Record) : Prop :=
  ∀ other ∈ s.records, other.system = record.system → other.name = record.name →
    other.id = record.id

instance (s : AlertsState) (record : AlertsCache.Record) : Decidable (s.NameFree record) :=
  inferInstanceAs (Decidable (∀ other ∈ s.records, _ → _ → _))

/-- What a query for all records gives. -/
def findAllRecords (s : AlertsState) (ok : Bool) : Option (List AlertsCache.Record) :=
  if ok then some s.records else none

def save (s : AlertsState) (record : AlertsCache.Record) : AlertsState where
  records := record :: s.records.filter (·.id ≠ record.id)
  cache := s.cache.update record

def step (s : AlertsState) : AlertsEvent → Option AlertsState
  | .create record =>
      if (∀ other ∈ s.records, other.id ≠ record.id) ∧ s.NameFree record then some (s.save record)
      else none
  | .update record =>
      if (∃ old ∈ s.records, old.id = record.id ∧ old.system = record.system) ∧
          s.NameFree record then
        some (s.save record)
      else none
  | .delete record =>
      if record ∈ s.records then
        some
          { records := s.records.filter (·.id ≠ record.id)
            cache := s.cache.delete record }
      else none
  | .populateFromDB force ok =>
      some { s with cache := s.cache.populateFromDB force (s.findAllRecords ok) }
  | .getSystemAlerts systemID ok =>
      some { s with cache := (s.cache.getSystemAlerts systemID (s.findAllRecords ok)).1 }

end AlertsState

end Picket
