import Picket.Requests

/-!
# The hub end of an agent connection

`Handler.OnMessage` offers every binary message to the stream handler, once `attachAgent` has
installed one, and gives what it refuses to the request manager. `SSHStreamMagic` plays no part
here.
-/

namespace Picket

open Cbor

/-- `WsConn`. The pending requests are listed in the order a `range` over the map visits them. -/
structure WsConn where
  streamHandler : Bool
  requestManager : RequestManager Fields

/-- What became of a message. -/
inductive Handled where
  /-- Consumed by the stream handler, with the frame it held unless that was malformed. -/
  | stream (msg : Option SSHStreamMessage)
  /-- Given to `handleResponse`, with the request it completed, if any. -/
  | response (completed : Option Uint32)
  deriving DecidableEq

section Handler

variable (reader : Reader)

/-- The handler installed by `attachAgent`; `none` when it returns false. -/
def streamHandler (message : Fields) : Option (Option SSHStreamMessage) :=
  match HubRequest.decode reader message with
  | none => none
  | some request =>
      if request.action ≠ sshStream then none
      else some (SSHStreamMessage.decode reader request.data)

/-- The whole of `handleResponse`, and the request it completes. Both branches of the `select` are
ready when the context of the request is done, and `deliver` is the one picked then. -/
def handleResponse (conn : WsConn) (message : Fields) (deliver : Bool) : Option Uint32 :=
  let rm := conn.requestManager
  match RequestOp.exec (AgentResponse.decode reader) rm () (.visit rm.pending)
      (.handleResponse message) with
  | some { ops := [.offer _ req _], .. } =>
      if rm.done req.ref && !deliver then none else some req.id
  | _ => none

/-- `Handler.OnMessage` for a binary message that is not empty. -/
def onMessage (conn : WsConn) (message : Fields) (deliver : Bool) : Handled :=
  match if conn.streamHandler then streamHandler reader message else none with
  | some msg => .stream msg
  | none => .response (handleResponse reader conn message deliver)

end Handler

end Picket
