import Picket.Lib.AssocList
import Picket.Messages

/-!
# The agent's request handlers

What an agent does with a request of the hub, on a connection on which writes succeed. Docker, the
machine and the encoding of results are given with the agent.
-/

namespace Picket

open Cbor AssocList

def getData : Uint8 := 0
def getContainerLogs : Uint8 := 1
def getContainerInfo : Uint8 := 2
def uninstallAgent : Uint8 := 3

structure DataRequestOptions where
  cacheTimeMs : Fin (2 ^ 16)
  includeDetails : Bool

structure UninstallAgentResponse where
  uninstalled : Bool := false
  message : String

inductive Payload where
  | stats (data : CombinedData)
  | text (s : String)
  | uninstall (response : UninstallAgentResponse)

/-- Each error a handler returns; the first is `unknown action: %d`. -/
inductive HandlerError where
  | unknownAction (action : Uint8)
  | unmarshal
  | invalidContainerID
  | docker (text : String)

/-- What the Docker API answers for a container, and what is made of it. -/
structure DockerManager where
  logs : String → Except String String
  info : String → Except String String

structure Agent where
  dockerManager : Option DockerManager
  gatherStats : DataRequestOptions → CombinedData
  /-- What decoding leaves in the options, whether it fails or not. -/
  unmarshalOptions : Option Item → DataRequestOptions
  marshal : Payload → Option Item
  euid : ℕ
  /-- `/run/systemd/system` exists. -/
  systemd : Bool

/-- What has been sent, and whether an uninstallation has been scheduled. -/
structure Reaction where
  responses : List AgentResponse := []
  uninstalling : Bool := false

abbrev Handling := ExceptT HandlerError (StateM Reaction)

/-- The pattern `^[a-fA-F0-9]{12,64}$`. -/
def validContainerID (containerID : String) : Bool :=
  12 ≤ containerID.length && containerID.length ≤ 64
    && containerID.toList.all fun c =>
      c.isDigit || ('a' ≤ c && c ≤ 'f') || ('A' ≤ c && c ≤ 'F')

namespace DockerManager

variable (docker : DockerManager) (containerID : String)

def getLogs : Except HandlerError String :=
  if validContainerID containerID then (docker.logs containerID).mapError .docker
  else .error .invalidContainerID

def getContainerInfo : Except HandlerError String :=
  if validContainerID containerID then (docker.info containerID).mapError .docker
  else .error .invalidContainerID

end DockerManager

section Handlers

variable (reader : Reader) (agent : Agent)

/-- The error of encoding the data is dropped. -/
def newAgentResponse (data : Payload) (requestID : Option Uint32) : AgentResponse where
  id := requestID
  error := ""
  data := agent.marshal data

def sendResponse (data : Payload) (requestID : Option Uint32) : Handling Unit :=
  modify fun reaction =>
    { reaction with
      responses := reaction.responses ++ [newAgentResponse agent data requestID] }

/-- `ContainerLogsRequest` and `ContainerInfoRequest` both hold an id under key 0. -/
def unmarshalContainerID (data : Option Item) : Except HandlerError String :=
  match data.bind reader.struct with
  | none => .error .unmarshal
  | some fields => (readField reader.text "" 0 fields).elim (.error .unmarshal) .ok

inductive RequestHandler where
  | getData
  | getContainerLogs
  | getContainerInfo
  | uninstallAgent

def GetDataHandler.handle (request : HubRequest) (requestID : Option Uint32) : Handling Unit :=
  sendResponse agent (.stats (agent.gatherStats (agent.unmarshalOptions request.data))) requestID

def handleContainer (get : DockerManager → String → Except HandlerError String)
    (request : HubRequest) (requestID : Option Uint32) : Handling Unit :=
  match agent.dockerManager with
  | none => sendResponse agent (.text "") requestID
  | some docker => do
      let containerID ← unmarshalContainerID reader request.data
      let content ← get docker containerID
      sendResponse agent (.text content) requestID

def GetContainerLogsHandler.handle : HubRequest → Option Uint32 → Handling Unit :=
  handleContainer reader agent DockerManager.getLogs

def GetContainerInfoHandler.handle : HubRequest → Option Uint32 → Handling Unit :=
  handleContainer reader agent DockerManager.getContainerInfo

def notRoot : UninstallAgentResponse where
  message := "agent is not running as root"

def noSystemd : UninstallAgentResponse where
  message := "systemd is not available; remove this installation manually"

def uninstallScheduled : UninstallAgentResponse where
  uninstalled := true
  message := "uninstall scheduled"

def UninstallAgentHandler.handle (requestID : Option Uint32) : Handling Unit := do
  if agent.euid ≠ 0 then sendResponse agent (.uninstall notRoot) requestID
  else if !agent.systemd then sendResponse agent (.uninstall noSystemd) requestID
  else
    sendResponse agent (.uninstall uninstallScheduled) requestID
    modify fun reaction => { reaction with uninstalling := true }

def newHandlerRegistry : List (Uint8 × RequestHandler) :=
  insert uninstallAgent .uninstallAgent <|
    insert getContainerInfo .getContainerInfo <|
      insert getContainerLogs .getContainerLogs <|
        insert getData .getData []

/-- `HandlerRegistry.Handle`. -/
def handleHubRequest (request : HubRequest) (requestID : Option Uint32) : Handling Unit :=
  match newHandlerRegistry.lookup request.action with
  | none => throw (.unknownAction request.action)
  | some .getData => GetDataHandler.handle agent request requestID
  | some .getContainerLogs => GetContainerLogsHandler.handle reader agent request requestID
  | some .getContainerInfo => GetContainerInfoHandler.handle reader agent request requestID
  | some .uninstallAgent => UninstallAgentHandler.handle agent requestID

/-- The agent's `OnMessage`, when the message is a request and not a stream frame. An error is only
logged. -/
def onHubRequest (message : Fields) : Option (Except HandlerError Unit × Reaction) :=
  match HubRequest.decode reader message with
  | none => none
  | some request =>
      if request.action = sshStream then none
      else some ((handleHubRequest reader agent request request.id).run.run {})

end Handlers

end Picket
