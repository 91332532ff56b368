import Picket.Fetch
import Picket.Lib.Upsert

/-!
# The tables of services and containers

`createSystemdStatsRecords` and `createContainerRecords`, each an upsert of one row after the other
into a table with an `id` column. `now` is the time in milliseconds.
-/

namespace Picket

open Upsert

structure SystemdServiceRow where
  system : String
  name : String
  state : Uint8
  sub : Uint8
  cpu : ℚ
  cpuPeak : ℚ
  memory : Uint64
  memPeak : Uint64
  updated : ℤ
  deriving DecidableEq

structure ContainerRow where
  id : String
  system : String
  name : String
  image : String
  ports : String
  status : String
  health : Uint8
  cpu : ℚ
  memory : ℚ
  net : Uint64
  updated : ℤ
  deriving DecidableEq

/-- FNV-1a with 32 bits. -/
def hashWrite (hash : UInt32) (str : String) : UInt32 :=
  str.toUTF8.data.toList.foldl (fun hash c => (hash ^^^ c.toUInt32) * 16777619) hash

def hashSum (strings : List String) : UInt32 :=
  strings.foldl hashWrite 2166136261

/-- The sum in hexadecimal, without leading zeros. -/
def makeStableHashId (strings : List String) : String :=
  String.ofList (Nat.toDigits 16 (hashSum strings).toNat)

def systemdServiceRow (systemId : String) (now : ℤ) (service : Service) : SystemdServiceRow where
  system := systemId
  name := service.name
  state := service.state
  sub := service.sub
  cpu := service.cpu
  cpuPeak := service.cpuPeak
  memory := service.mem
  memPeak := service.memPeak
  updated := now

def containerRow (systemId : String) (now : ℤ) (container : ContainerStats) : ContainerRow where
  id := container.id
  system := systemId
  name := container.name
  image := container.image
  ports := container.ports
  status := container.status
  health := container.health
  cpu := container.cpu
  memory := container.mem
  net :=
    let netBytes := container.bandwidth 0 + container.bandwidth 1
    if netBytes = 0 then uint64 ((container.networkSent + container.networkRecv) * 1024 * 1024)
    else netBytes
  updated := now

/-- A service of a system. -/
def SystemdServiceRow.entity (row : SystemdServiceRow) : String × String :=
  (row.system, row.name)

/-- A container of a system. -/
def ContainerRow.entity (row : ContainerRow) : String × String :=
  (row.system, row.id)

structure CurrentRows where
  systemdServices : List (String × SystemdServiceRow) := []
  containers : List (String × ContainerRow) := []
  deriving DecidableEq

namespace CurrentRows

def createSystemdStatsRecords (t : CurrentRows) (data : List Service) (systemId : String)
    (now : ℤ) : CurrentRows :=
  if data.length = 0 then t
  else
    { t with
      systemdServices :=
        (data.map (systemdServiceRow systemId now)).foldl
          (upsert SystemdServiceRow.entity fun entity => makeStableHashId [entity.1, entity.2])
          t.systemdServices }

def createContainerRecords (t : CurrentRows) (data : List ContainerStats) (systemId : String)
    (now : ℤ) : CurrentRows :=
  if data.length = 0 then t
  else
    { t with
      containers :=
        (data.map (containerRow systemId now)).foldl (upsert ContainerRow.entity Prod.snd)
          t.containers }

end CurrentRows

inductive CreateRecords where
  | createSystemdStatsRecords (data : List Service) (systemId : String) (now : ℤ)
  | createContainerRecords (data : List ContainerStats) (systemId : String) (now : ℤ)
  deriving DecidableEq

def CurrentRows.create (t : CurrentRows) : CreateRecords → CurrentRows
  | .createSystemdStatsRecords data systemId now => t.createSystemdStatsRecords data systemId now
  | .createContainerRecords data systemId now => t.createContainerRecords data systemId now

end Picket
