import Picket.Lib.AssocList
import Picket.Lib.Threads
import Picket.Messages

/-!
# Requests to an agent

The request manager of one connection: the goroutines that send requests and wait for responses,
the watchers of their contexts, and the read loop, which handles one message after the other. Each
critical section, each `select` and each write is one operation. A context can be done at any time.
-/

namespace Picket

open Threads AssocList

/-- What does not change of a `PendingRequest`. Its `ResponseCh` and its `Context` are found under
`ref`. -/
structure RequestManager.PendingRequest where
  id : Uint32
  createdAt : ℕ
  ref : ℕ
  deriving DecidableEq

/-- A message that a request was given, and the requests that were pending when it was routed. -/
structure RequestManager.Delivery (M : Type*) where
  message : M
  req : PendingRequest
  pending : List PendingRequest

structure RequestManager (M : Type*) where
  pendingReqs : List (Uint32 × RequestManager.PendingRequest) := []
  nextID : Uint32 := 0
  /-- The message in the one place of `ResponseCh`. -/
  responseCh : ℕ → Option M := fun _ => none
  /-- `Context.Err() != nil`. -/
  done : ℕ → Bool := fun _ => false
  now : ℕ := 0
  /-- The calls of `SendRequest`, the requests they made, those whose message was not sent, and all
  messages that were delivered: kept for the record only. -/
  calls : ℕ := 0
  requests : List RequestManager.PendingRequest := []
  failed : List RequestManager.PendingRequest := []
  deliveries : List (RequestManager.Delivery M) := []

inductive RequestOp (M : Type*) where
  /-- `SendRequest` takes an id, reads the time, and makes the request pending. -/
  | sendRequest
  | timeNow (id : Uint32)
  | insertRequest (id : Uint32) (createdAt : ℕ)
  | sendMessage (req : RequestManager.PendingRequest)
  /-- Its `go` statement. -/
  | goCleanup (req : RequestManager.PendingRequest)
  /-- The `select` of `Request`, and the `Cancel` it defers. -/
  | request (req : RequestManager.PendingRequest)
  | cancel (req : RequestManager.PendingRequest)
  | cleanupRequest (req : RequestManager.PendingRequest)
  | cancelRequest (id : Uint32)
  /-- `handleResponse` looks a request up, or the oldest, and offers it the message. -/
  | handleResponse (message : M)
  | offer (message : M) (req : RequestManager.PendingRequest)
      (pending : List RequestManager.PendingRequest)
  | deleteRequest (id : Uint32)

/-- Whether a message can be sent, which case `select` takes, and the order in which a `range` over
the pending requests visits them. -/
inductive RequestChoice where
  | ok
  | fail
  | done
  | visit (order : List RequestManager.PendingRequest)
  deriving DecidableEq

namespace RequestManager

variable {M : Type*}

def pending (rm : RequestManager M) : List PendingRequest :=
  rm.pendingReqs.map Prod.snd

/-- `req.Cancel()`. -/
def cancel (rm : RequestManager M) (req : PendingRequest) : RequestManager M :=
  { rm with done := Function.update rm.done req.ref true }

def remove (rm : RequestManager M) (id : Uint32) : RequestManager M :=
  { rm with pendingReqs := delete id rm.pendingReqs }

def close (rm : RequestManager M) : RequestManager M :=
  { rm with
    done := fun ref => rm.done ref || rm.pending.any (·.ref = ref)
    pendingReqs := [] }

/-- The loop of `routeLegacyResponse`. -/
def oldestReq : Option PendingRequest → List PendingRequest → Option PendingRequest
  | oldest, [] => oldest
  | none, req :: reqs => oldestReq (some req) reqs
  | some oldest, req :: reqs =>
      oldestReq (some (if req.createdAt < oldest.createdAt then req else oldest)) reqs

def routeLegacyResponse (rm : RequestManager M) (message : M) (choice : RequestChoice) :
    Option (Outcome (RequestManager M) Unit (RequestOp M)) :=
  match choice with
  | .visit order =>
      if order.Perm rm.pending then
        match oldestReq none order with
        | none => some { state := rm }
        | some req => some { state := rm, ops := [.offer message req rm.pending] }
      else none
  | _ => none

end RequestManager

section

variable {M : Type*} (unmarshal : M → Option AgentResponse)

/-- The id that a message is for, if it decodes and has one. -/
def responseID (message : M) : Option Uint32 :=
  (unmarshal message).bind (·.id)

def RequestOp.exec (rm : RequestManager M) (_ : Unit) (choice : RequestChoice) :
    RequestOp M → Option (Outcome (RequestManager M) Unit (RequestOp M))
  | .sendRequest =>
      let id := rm.nextID + 1
      some { state := { rm with nextID := id }, ops := [.timeNow id] }
  | .timeNow id => some { state := rm, ops := [.insertRequest id rm.now] }
  | .insertRequest id createdAt =>
      let req := { id, createdAt, ref := rm.requests.length }
      some
        { state :=
            { rm with
              pendingReqs := insert id req rm.pendingReqs
              requests := rm.requests ++ [req] }
          ops := [.sendMessage req] }
  | .sendMessage req =>
      if choice = .ok then some { state := rm, ops := [.goCleanup req] }
      else
        some
          { state := { rm with failed := req :: rm.failed }
            ops := [.cancelRequest req.id] }
  | .goCleanup req =>
      some
        { state := rm
          ops := [.request req]
          spawned := [⟨(), [.cleanupRequest req]⟩] }
  | .request req =>
      if choice = .done then if rm.done req.ref then some { state := rm } else none
      else
        match rm.responseCh req.ref with
        | none => none
        | some _ =>
            some
              { state := { rm with responseCh := Function.update rm.responseCh req.ref none }
                ops := [.cancel req] }
  | .cancel req => some { state := rm.cancel req }
  | .cleanupRequest req =>
      if rm.done req.ref then some { state := rm, ops := [.cancelRequest req.id] } else none
  | .cancelRequest id =>
      match rm.pendingReqs.lookup id with
      | none => some { state := rm }
      | some req => some { state := (rm.cancel req).remove id }
  | .handleResponse message =>
      match responseID unmarshal message with
      | none => rm.routeLegacyResponse message choice
      | some reqID =>
          match rm.pendingReqs.lookup reqID with
          | none => some { state := rm }
          | some req => some { state := rm, ops := [.offer message req rm.pending] }
  | .offer message req pending =>
      if choice = .done then if rm.done req.ref then some { state := rm } else none
      else
        match rm.responseCh req.ref with
        | some _ => none
        | none =>
            some
              { state :=
                  { rm with
                    responseCh := Function.update rm.responseCh req.ref (some message)
                    deliveries := ⟨message, req, pending⟩ :: rm.deliveries }
                ops := [.deleteRequest req.id] }
  | .deleteRequest id => some { state := rm.remove id }

def RequestOp.handles : RequestOp M → Bool
  | .handleResponse _ | .offer _ _ _ | .deleteRequest _ => true
  | _ => false

abbrev RequestWorld (M : Type*) := World (RequestManager M) Unit (RequestOp M)

inductive RequestEvent (M : Type*) where
  | sendRequest
  | message (message : M)
  /-- A context is cancelled by its caller, or its time is up. -/
  | contextDone (ref : ℕ)
  | close
  | elapse (duration : ℕ)
  | run (i : ℕ) (choice : RequestChoice)

namespace RequestWorld

def init : RequestWorld M := { state := {} }

def step (w : RequestWorld M) : RequestEvent M → Option (RequestWorld M)
  | .sendRequest =>
      some (World.spawn { w with state := { w.state with calls := w.state.calls + 1 } }
        ⟨(), [.sendRequest]⟩)
  | .message message =>
      if w.todo.any (·.handles) then none else some (w.spawn ⟨(), [.handleResponse message]⟩)
  | .contextDone ref =>
      some { w with state := { w.state with done := Function.update w.state.done ref true } }
  | .close => some { w with state := w.state.close }
  | .elapse duration => some { w with state := { w.state with now := w.state.now + duration } }
  | .run i choice => w.turn (RequestOp.exec unmarshal) i choice

end RequestWorld

end

end Picket
