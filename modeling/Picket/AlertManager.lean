import Mathlib.Algebra.Order.Ring.Rat
import Picket.Lib.AssocList

/-!
# The alerts of the frontend

The store has the alerts of each system by name. Changes of alerts arrive one by one, and are
gathered in a batch until none has arrived for some time.
-/

namespace Picket.AlertManager

structure AlertRecord where
  id : String
  system : String
  name : String
  triggered : Bool
  value : ℚ
  min : ℚ
  deriving DecidableEq

abbrev AlertMap := List (String × List (String × AlertRecord))

/-- The loop body of `add`. -/
def addOne (alerts : AlertMap) (alert : AlertRecord) : AlertMap :=
  let systemAlerts := (alerts.lookup alert.system).getD []
  AssocList.set alert.system (AssocList.set alert.name alert systemAlerts) alerts

def add (alerts : AlertMap) (records : List AlertRecord) : AlertMap :=
  records.foldl addOne alerts

/-- The loop body of `remove`, which leaves an empty map behind. -/
def removeOne (alerts : AlertMap) (alert : AlertRecord) : AlertMap :=
  let systemAlerts := (alerts.lookup alert.system).getD []
  AssocList.set alert.system (AssocList.delete alert.name systemAlerts) alerts

def remove (alerts : AlertMap) (records : List AlertRecord) : AlertMap :=
  records.foldl removeOne alerts

inductive Action where
  | create
  | update
  | delete
  deriving DecidableEq

def actionFns : Action → AlertMap → List AlertRecord → AlertMap
  | .create => add
  | .update => add
  | .delete => remove

structure Message where
  action : Action
  record : AlertRecord
  deriving DecidableEq

abbrev Batch := List (String × Message)

def Message.batchKey (m : Message) : String :=
  m.record.system ++ m.record.name

def group (batch : Batch) (action : Action) : List AlertRecord :=
  (batch.filter (·.2.action = action)).map (·.2.record)

/-- What the timeout does with the batch. -/
def processBatch (alerts : AlertMap) (batch : Batch) : AlertMap :=
  [Action.create, .update, .delete].foldl
    (fun alerts action =>
      if (group batch action).length ≠ 0 then actionFns action alerts (group batch action)
      else alerts)
    alerts

/-! ### Runs -/

structure State where
  alerts : AlertMap
  batch : Batch := []
  /-- A timeout has been set, and not been cleared since. -/
  timeout : Bool := false

inductive Event where
  | message (m : Message)
  /-- No message has come for 50 ms. -/
  | timeout

def step (s : State) : Event → Option State
  | .message m => some { s with batch := AssocList.set m.batchKey m s.batch, timeout := true }
  | .timeout =>
      if s.timeout then some { alerts := processBatch s.alerts s.batch } else none

def messages (events : List Event) : List Message :=
  events.filterMap fun e =>
    match e with
    | .message m => some m
    | .timeout => none

/-! ### Messages one by one -/

/-- Each message is applied as it arrives. -/
def applyAll (alerts : AlertMap) (arrived : List Message) : AlertMap :=
  arrived.foldl (fun alerts m => actionFns m.action alerts [m.record]) alerts

def alertAt (alerts : AlertMap) (systemId name : String) : Option AlertRecord :=
  (alerts.lookup systemId).bind (·.lookup name)

/-- A system without alerts may be there or not. -/
def SameAlerts (alerts alerts' : AlertMap) : Prop :=
  ∀ systemId name, alertAt alerts systemId name = alertAt alerts' systemId name

end Picket.AlertManager
