import Mathlib.Data.Nat.Notation
import Picket.Lib.AssocList

/-!
# The realtime worker of the hub

The active subscriptions for realtime metrics, and the goroutines that run `startRealtimeWorker`. A
request is handled in one step. A worker takes a step of its own for each operation on a channel,
and one for each tick it has received.
-/

namespace Picket

open AssocList

/-- A key of a client's subscriptions, with `options.Query["system"]`. -/
structure Subscription where
  name : String
  system : String
  deriving DecidableEq

def Subscription.isRealtime (s : Subscription) : Bool :=
  s.name.startsWith "rt_metrics"

structure SubscriptionInfo where
  connectedClients : UInt8 := 0
  deriving DecidableEq

/-- What a worker does next, or is doing. -/
inductive RealtimeWorker where
  /-- It fetches for the first time. -/
  | starting
  | selecting
  /-- In its `select`, with the channel that `tickerStopChan` was when it got there. -/
  | waiting (stopChan : Option ℕ)
  /-- The body of a tick. -/
  | ticked
  deriving DecidableEq

structure Realtime where
  activeSubscriptions : List (String × SubscriptionInfo) := []
  workerRunning : Bool := false
  tickerStopChan : Option ℕ := none
  /-- How many channels have been made; each is the number of those before it. -/
  stopChans : ℕ := 0
  /-- Those that have not returned; the ones that wait are in the order in which they began to. -/
  workers : List RealtimeWorker := []
  deriving DecidableEq

namespace Realtime

def onRealtimeSubscriptionAdded (r : Realtime) : Realtime :=
  if r.workerRunning then r
  else
    { r with
      workerRunning := true
      tickerStopChan := some r.stopChans
      stopChans := r.stopChans + 1
      workers := r.workers ++ [.starting] }

def checkSubscriptions (r : Realtime) : Realtime :=
  if ¬ r.workerRunning ∨ r.activeSubscriptions ≠ [] then r
  else
    { r with
      -- whoever has waited longest receives, and returns; nobody does where nobody waits
      workers :=
        if r.tickerStopChan = none then r.workers
        else r.workers.erase (.waiting r.tickerStopChan)
      workerRunning := false }

/-- The body of the first loop of `onRealtimeSubscribeRequest`. -/
def addRealtimeSubscription (r : Realtime) (s : Subscription) : Realtime :=
  if s.isRealtime then
    let info := (r.activeSubscriptions.lookup s.system).getD {}
    onRealtimeSubscriptionAdded
      { r with
        activeSubscriptions :=
          insert s.system { info with connectedClients := info.connectedClients + 1 }
            r.activeSubscriptions }
  else r

def removeRealtimeSubscription (r : Realtime) (s : Subscription) : Realtime :=
  if s.isRealtime then
    checkSubscriptions <|
      match r.activeSubscriptions.lookup s.system with
      | none => r
      | some info =>
          let info := { info with connectedClients := info.connectedClients - 1 }
          { r with
            activeSubscriptions :=
              if info.connectedClients ≤ 0 then delete s.system r.activeSubscriptions
              else insert s.system info r.activeSubscriptions }
  else r

/-- Both loops go through a map, in any order: that of the lists here. -/
def onRealtimeSubscribeRequest (r : Realtime) (oldSubs newSubs : List Subscription) : Realtime :=
  let added := newSubs.filter fun s => s.name ∉ oldSubs.map (·.name)
  let removed := oldSubs.filter fun s => s.name ∉ newSubs.map (·.name)
  removed.foldl removeRealtimeSubscription (added.foldl addRealtimeSubscription r)

/-- What it does once the client has disconnected. -/
def onRealtimeConnectRequest (r : Realtime) (subscriptions : List Subscription) : Realtime :=
  subscriptions.foldl removeRealtimeSubscription r

/-- A step of a worker: it comes to its `select`, which reads `tickerStopChan`, or it receives a
tick, or it does what is due on one. What it fetches changes nothing here. -/
def startRealtimeWorker (r : Realtime) (i : ℕ) : RealtimeWorker → Realtime
  | .starting => { r with workers := r.workers.set i .selecting }
  | .selecting => { r with workers := r.workers.eraseIdx i ++ [.waiting r.tickerStopChan] }
  | .waiting _ => { r with workers := r.workers.set i .ticked }
  | .ticked =>
      if r.activeSubscriptions = [] then { r with workers := r.workers.eraseIdx i }
      else { r with workers := r.workers.set i .selecting }

end Realtime

inductive RealtimeEvent where
  | onRealtimeSubscribeRequest (oldSubs newSubs : List Subscription)
  | onRealtimeConnectRequest (subscriptions : List Subscription)
  | run (i : ℕ)
  deriving DecidableEq

def Realtime.step (r : Realtime) : RealtimeEvent → Option Realtime
  | .onRealtimeSubscribeRequest oldSubs newSubs =>
      some (r.onRealtimeSubscribeRequest oldSubs newSubs)
  | .onRealtimeConnectRequest subscriptions => some (r.onRealtimeConnectRequest subscriptions)
  | .run i => r.workers[i]?.map (r.startRealtimeWorker i)

end Picket
