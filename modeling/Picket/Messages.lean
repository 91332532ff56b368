import Picket.Entities
import Picket.Lib.Cbor

/-!
# What agents and the hub send each other

Every message of either side is an integer-keyed map. Both use the keys 0, 1 and 2: in a request
they are the action, the data and the request id, in a response the request id, the error and the
data. A stream frame travels inside a request whose action is `SSHStream`.
-/

namespace Picket

open Cbor

abbrev Uint32 := Fin (2 ^ 32)

def sshStream : Uint8 := 4

def sshStreamMagic : Uint8 := 0x53

structure SSHStreamMessage where
  magic : Uint8 := 0
  streamID : Uint32
  type : Uint8
  data : List Uint8 := []
  error : String := ""
  deriving DecidableEq

structure AgentResponse where
  id : Option Uint32
  error : String
  /-- An encoded value; an empty raw message is left out. -/
  data : Option Item

/-- A request with its data still encoded. -/
structure HubRequest where
  action : Uint8
  data : Option Item
  id : Option Uint32

def SSHStreamMessage.encode (msg : SSHStreamMessage) : Fields :=
  [(0, .uint msg.streamID.val), (1, .uint msg.type.val)]
    ++ omitted 2 .bytes (if msg.data = [] then none else some msg.data)
    ++ omitted 3 .text (if msg.error = "" then none else some msg.error)
    ++ [(4, .uint msg.magic.val)]

def AgentResponse.encode (response : AgentResponse) : Fields :=
  omitted 0 (fun id => .uint id.val) response.id
    ++ omitted 1 .text (if response.error = "" then none else some response.error)
    ++ omitted 2 (fun item => item) response.data

def HubRequest.encode (request : HubRequest) : Fields :=
  [(0, .uint request.action.val)]
    ++ omitted 1 (fun item => item) request.data
    ++ omitted 2 (fun id => .uint id.val) request.id

/-- `sendSSHStream` of the agent and `SendStream` of the hub wrap a frame alike. -/
def streamRequest (msg : SSHStreamMessage) : HubRequest where
  action := sshStream
  data := some (.map msg.encode)
  id := none

section Decode

variable (reader : Reader)

def HubRequest.decode (message : Fields) : Option HubRequest := do
  let action ← readField reader.uint8 0 0 message
  let data ← readField (fun item => some (some item)) none 1 message
  let id ← readField reader.uint32Ptr none 2 message
  return { action, data, id }

def AgentResponse.decode (message : Fields) : Option AgentResponse := do
  let id ← readField reader.uint32Ptr none 0 message
  let error ← readField reader.text "" 1 message
  let data ← readField (fun item => some (some item)) none 2 message
  return { id, error, data }

/-- A frame, from the data of a request. -/
def SSHStreamMessage.decode (data : Option Item) : Option SSHStreamMessage := do
  let fields ← reader.struct (← data)
  let streamID ← readField reader.uint32 0 0 fields
  let type ← readField reader.uint8 0 1 fields
  let bytes ← readField reader.bytes [] 2 fields
  let error ← readField reader.text "" 3 fields
  let magic ← readField reader.uint8 0 4 fields
  return { magic, streamID, type, data := bytes, error }

end Decode

end Picket
