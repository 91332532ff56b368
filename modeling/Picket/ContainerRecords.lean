import Picket.Fetch
import Picket.Records

/-!
# Averaging container records

`AverageContainerStatsSlice` of the records package. The sums are kept under the container's name
and come out in the order in which a range over a map visits its keys, which is any order.
-/

namespace Picket

/-- Sent and received bytes. An older agent reports megabytes only. -/
def containerBytes (stat : ContainerStats) : Fin 2 → Uint64 :=
  if stat.bandwidth 0 = 0 ∧ stat.bandwidth 1 = 0 ∧
      (stat.networkSent ≠ 0 ∨ stat.networkRecv ≠ 0) then
    ![uint64 (stat.networkSent * mebi), uint64 (stat.networkRecv * mebi)]
  else stat.bandwidth

def addContainer (sum stat : ContainerStats) : ContainerStats :=
  { sum with
    cpu := sum.cpu + stat.cpu
    mem := sum.mem + stat.mem
    bandwidth := fun i => sum.bandwidth i + containerBytes stat i }

def accumulateContainer (sums : GoMap ContainerStats) (stat : ContainerStats) :
    GoMap ContainerStats :=
  sums.insert stat.name (addContainer ((sums.lookup stat.name).getD { name := stat.name }) stat)

def containerSums (records : List (List ContainerStats)) : GoMap ContainerStats :=
  records.foldl (fun sums containerStats => containerStats.foldl accumulateContainer sums) ∅

/-- Health, status, id, image and ports are not averaged. -/
def averageContainer (count : ℕ) (sum : ContainerStats) : ContainerStats where
  name := sum.name
  cpu := twoDecimals (sum.cpu / count)
  mem := twoDecimals (sum.mem / count)
  bandwidth := fun i => uint64 ((sum.bandwidth i).val / count)

/-- The result when the range over the sums visits them in the given order. -/
def averageContainerStatsSlice (visit : List String) (records : List (List ContainerStats)) :
    List ContainerStats :=
  if records.length = 0 then []
  else visit.filterMap fun name =>
    ((containerSums records).lookup name).map (averageContainer records.length)

/-- A range over a map visits every key once. -/
def Visits {V : Type} (visit : List String) (m : GoMap V) : Prop :=
  visit.Nodup ∧ ∀ key, key ∈ visit ↔ key ∈ m

def IsContainerAverage (records : List (List ContainerStats)) (result : List ContainerStats) :
    Prop :=
  ∃ visit, Visits visit (containerSums records) ∧ result = averageContainerStatsSlice visit records

end Picket
