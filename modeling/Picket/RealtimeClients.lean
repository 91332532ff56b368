import Picket.Realtime

/-!
# Realtime clients

The clients that are connected to the hub, each with the keys of its subscriptions. The options of a
subscription are part of its key, from which the server reads them: `query` is what it reads for
`system`. A range over a map of subscriptions goes through its keys in any order.
-/

namespace Picket

open AssocList

structure RealtimeHub where
  realtime : Realtime := {}
  clients : List (ℕ × List String) := []
  deriving DecidableEq

inductive ClientEvent where
  | connect (client : ℕ)
  /-- The old keys and the new ones, in the orders in which the two loops find them. -/
  | subscribe (client : ℕ) (oldKeys newKeys : List String)
  | disconnect (client : ℕ) (keys : List String)
  deriving DecidableEq

section Query

variable (query : String → String)

def subscriptions (keys : List String) : List Subscription :=
  keys.map fun key => ⟨key, query key⟩

namespace RealtimeHub

def step (h : RealtimeHub) : ClientEvent → Option RealtimeHub
  | .connect client =>
      if h.clients.lookup client = none then
        some { h with clients := insert client [] h.clients }
      else none
  | .subscribe client oldKeys newKeys =>
      match h.clients.lookup client with
      | none => none
      | some keys =>
          if oldKeys.Perm keys ∧ newKeys.Nodup then
            some
              { realtime := h.realtime.onRealtimeSubscribeRequest (subscriptions query oldKeys)
                  (subscriptions query newKeys)
                clients := insert client newKeys h.clients }
          else none
  | .disconnect client keys' =>
      match h.clients.lookup client with
      | none => none
      | some keys =>
          if keys'.Perm keys then
            some
              { realtime := h.realtime.onRealtimeConnectRequest (subscriptions query keys')
                clients := delete client h.clients }
          else none

end RealtimeHub

end Query

end Picket
