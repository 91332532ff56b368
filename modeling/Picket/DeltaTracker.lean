import Mathlib.Logic.Function.Basic

/-!
# Delta trackers

The package `deltatracker` of the agent. A tracker has the values of an interval and those of the
interval before; the containers and the network interfaces keep theirs in trackers of their own.
-/

namespace Picket

structure DeltaTracker (K V : Type) where
  current : K → Option V := fun _ => none
  previous : K → Option V := fun _ => none

namespace DeltaTracker

variable {K V : Type}

def set [DecidableEq K] (t : DeltaTracker K V) (id : K) (value : V) : DeltaTracker K V :=
  { t with current := Function.update t.current id (some value) }

/-- Zero if the key has no value, or no previous one. -/
def delta [Zero V] [Sub V] (t : DeltaTracker K V) (id : K) : V :=
  match t.current id, t.previous id with
  | some currentVal, some previousVal => currentVal - previousVal
  | _, _ => 0

def cycle (t : DeltaTracker K V) : DeltaTracker K V where
  previous := t.current

end DeltaTracker

end Picket
