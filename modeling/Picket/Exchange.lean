import Picket.AgentHandlers
import Picket.Demux
import Picket.Requests

/-!
# Requests and their answers on one connection

The hub's request manager at one end, the agent's handlers at the other, and the messages under way
between them, stream frames among them. Each end reads one message after the other. What a handler
finds on the agent's machine may be different each time. On a connection that has broken nothing
more is read.
-/

namespace Picket

open Cbor

/-- The action and data of a `SendRequest` call; frames are sent by `SendStream`. -/
structure Ask where
  action : Uint8
  data : Option Item
  notStream : action ≠ sshStream

/-- A message on its way: a request or response, or a stream frame. -/
inductive Sent (A : Type) where
  | own (message : A)
  | frame (msg : SSHStreamMessage)

def Sent.encode {A : Type} (encode : A → Fields) : Sent A → Fields
  | .own message => encode message
  | .frame msg => (streamRequest msg).encode

def Sent.own? {A : Type} : Sent A → Option A
  | .own message => some message
  | .frame _ => none

structure Exchange where
  hub : RequestWorld Fields := .init
  /-- `SetStreamHandler` has been called. -/
  streamHandler : Bool := false
  toAgent : List (Sent HubRequest) := []
  toHub : List (Sent AgentResponse) := []
  /-- What the agent's handlers were given, and the agent as it was then: kept for the record
  only. -/
  handled : List (HubRequest × Agent) := []

inductive ExchangeEvent where
  | hub (e : RequestEvent Fields)
  | setStreamHandler
  | sendStream (msg : SSHStreamMessage)
  /-- The agent reads a message. -/
  | onMessage (agent : Agent)
  | sendSSHStream (msg : SSHStreamMessage)
  /-- The hub reads a message. -/
  | receive

section

variable (reader : Reader) (asks : ℕ → Ask)

/-- The message of a request; `ref` tells whose call it is. -/
def hubRequest (req : RequestManager.PendingRequest) : HubRequest where
  action := (asks req.ref).action
  data := (asks req.ref).data
  id := some req.id

/-- What a step of the request manager writes. -/
def RequestWorld.written (w : RequestWorld Fields) : RequestEvent Fields → List (Sent HubRequest)
  | .run i .ok =>
      match (w.threads[i]?).bind (·.ops.head?) with
      | some (.sendMessage req) => [.own (hubRequest asks req)]
      | _ => []
  | _ => []

/-- What handling a request comes to. -/
def Agent.react (agent : Agent) (request : HubRequest) : Except HandlerError Unit × Reaction :=
  (handleHubRequest reader agent request request.id).run.run {}

namespace Exchange

def stepHub (x : Exchange) (e : RequestEvent Fields) : Option Exchange :=
  (x.hub.step (AgentResponse.decode reader) e).map fun hub =>
    { x with hub, toAgent := x.toAgent ++ x.hub.written asks e }

def step (x : Exchange) : ExchangeEvent → Option Exchange
  | .hub (.message _) => none
  | .hub e => x.stepHub reader asks e
  | .setStreamHandler => some { x with streamHandler := true }
  | .sendStream msg => some { x with toAgent := x.toAgent ++ [.frame msg] }
  | .onMessage agent =>
      match x.toAgent with
      | [] => none
      | message :: rest =>
          let x := { x with toAgent := rest }
          match onHubRequest reader agent (message.encode HubRequest.encode) with
          | none => some x
          | some (_, reaction) =>
              some
                { x with
                  toHub := x.toHub ++ reaction.responses.map .own
                  handled := x.handled ++ message.own?.toList.map fun request => (request, agent) }
  | .sendSSHStream msg => some { x with toHub := x.toHub ++ [.frame msg] }
  | .receive =>
      match x.toHub with
      | [] => none
      | message :: rest =>
          let x := { x with toHub := rest }
          let fields := message.encode AgentResponse.encode
          if x.streamHandler && (Picket.streamHandler reader fields).isSome then some x
          else x.stepHub reader asks (.message fields)

end Exchange

end

end Picket
