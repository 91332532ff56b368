import Picket.Lib.AssocList
import Picket.Messages

/-!
# SSH tunnels

One system: the tunnels that the hub keeps for it, the connections of its agent, and the agent with
its sockets. The connector of a user, the hub and the agent exchange stream frames; a connection
delivers in order, and loses what is under way only when it is gone. A frame and a socket carry the
token of the tunnel on whose behalf they are there, which nobody looks at.
-/

namespace Picket

def sshStreamOpen : Uint8 := 0
def sshStreamOpenOK : Uint8 := 1
def sshStreamOpenError : Uint8 := 2
def sshStreamData : Uint8 := 3
def sshStreamEOF : Uint8 := 4
def sshStreamClose : Uint8 := 5

/-- A frame of the connector, which always uses stream 1. -/
def connectorFrame (type : Uint8) (data : List Uint8) : SSHStreamMessage :=
  { magic := sshStreamMagic, streamID := 1, type, data }

structure Frame where
  msg : SSHStreamMessage
  owner : ℕ
  deriving DecidableEq

/-- An `sshTunnel`, known by its token. -/
structure Tunnel where
  token : ℕ
  agent : Option ℕ
  deriving DecidableEq

/-- How far `attachAgent` is with a connection. -/
inductive Attachment where
  | upgraded
  | registered
  | handling
  | attached
  deriving DecidableEq

/-- A connection between the agent and the hub, with the frames that are under way. -/
structure Conn where
  isOpen : Bool := true
  attachment : Attachment := .upgraded
  toAgent : List Frame := []
  toHub : List Frame := []
  deriving DecidableEq

structure Socket where
  ref : ℕ
  owner : ℕ
  deriving DecidableEq

/-- A goroutine in `readSSHStream`; at its end it closes the socket and then deletes its entry. -/
structure StreamReader where
  streamID : Uint32
  socket : Socket
  ending : Bool := false
  deriving DecidableEq

structure SshState where
  /-- The tokens of `sshManager.launch`. -/
  launches : List ℕ := []
  created : ℕ := 0
  tunnels : List Tunnel := []
  /-- The connection in `sshManager.agents`. -/
  agent : Option ℕ := none
  /-- Frames that `forwardUserMessage` has yet to send, and where. -/
  forwarding : List (ℕ × Frame) := []
  conns : List Conn := []
  /-- `client.Conn`. -/
  conn : Option ℕ := none
  sshStreams : List (Uint32 × Socket) := []
  readers : List StreamReader := []
  dialed : ℕ := 0
  closed : List ℕ := []
  /-- The frames that were forwarded to the agent, the tunnels that ended, the owners of frames and
  the tunnels they were delivered to, and the owners of data frames and of the sockets they were
  written to: all kept for the record only. -/
  forwarded : List Frame := []
  ended : List ℕ := []
  delivered : List (ℕ × ℕ) := []
  written : List (ℕ × ℕ) := []
  deriving DecidableEq

namespace SshState

/-! ### The hub -/

def create (s : SshState) : SshState :=
  { s with launches := s.created :: s.launches, created := s.created + 1 }

/-- `connectUser`: the launch is taken, and the tunnel bound if there is an agent. Nothing else can
find the token in between. -/
def connectUser (s : SshState) (token : ℕ) : Option SshState :=
  if token ∈ s.launches then
    some
      { s with
        launches := s.launches.filter (· ≠ token)
        tunnels := ⟨token, s.agent⟩ :: s.tunnels }
  else none

/-- The first half of `forwardUserMessage`; the reader of a user takes no second frame before it
has sent the first. -/
def forwardUserMessage (s : SshState) (token : ℕ) (msg : SSHStreamMessage) : Option SshState :=
  if ∃ entry ∈ s.forwarding, entry.2.owner = token then none
  else
    match (s.tunnels.find? (·.token = token)).bind (·.agent) with
    | none => some s
    | some conn =>
        some
          { s with
            forwarding := (conn, ⟨msg, token⟩) :: s.forwarding
            forwarded := s.forwarded ++ [⟨msg, token⟩] }

def modifyConn (s : SshState) (conn : ℕ) (f : Conn → Conn) : SshState :=
  { s with conns := s.conns.modify conn f }

def sendStream (s : SshState) (entry : ℕ × Frame) : Option SshState :=
  if entry ∈ s.forwarding then
    some (modifyConn { s with forwarding := s.forwarding.erase entry } entry.1 fun conn =>
      if conn.isOpen then { conn with toAgent := conn.toAgent ++ [entry.2] } else conn)
  else none

/-- `remove`, of a tunnel that expired or whose user is gone. -/
def remove (s : SshState) (token : ℕ) : Option SshState :=
  if ∃ tunnel ∈ s.tunnels, tunnel.token = token then
    some
      { s with
        tunnels := s.tunnels.filter (·.token ≠ token)
        ended := token :: s.ended }
  else none

/-- `OnClose`, which is not called while a frame of the user is being forwarded. -/
def onClose (s : SshState) (token : ℕ) : Option SshState :=
  if ∃ entry ∈ s.forwarding, entry.2.owner = token then none else s.remove token

/-- `revokeSSHLaunch`, before or after the user has connected. -/
def revokeSSHLaunch (s : SshState) (token : ℕ) : SshState :=
  let s' := { s with launches := s.launches.filter (· ≠ token) }
  (s'.remove token).getD s'

/-- The first critical section of `attachAgent`. -/
def attachAgent (s : SshState) (conn : ℕ) : Option SshState :=
  if (s.conns[conn]?.map (·.attachment)) = some .upgraded then
    some (modifyConn { s with agent := some conn } conn fun conn =>
      { conn with attachment := .registered })
  else none

def setStreamHandler (s : SshState) (conn : ℕ) : Option SshState :=
  if (s.conns[conn]?.map (·.attachment)) = some .registered then
    some (s.modifyConn conn fun conn => { conn with attachment := .handling })
  else none

/-- The second critical section: some waiting tunnel is bound, if there is one. -/
def attachWaiting (s : SshState) (conn : ℕ) (waiting : Option ℕ) : Option SshState :=
  if (s.conns[conn]?.map (·.attachment)) = some .handling then
    let s' := s.modifyConn conn fun conn => { conn with attachment := .attached }
    match waiting with
    | none => if ∃ tunnel ∈ s.tunnels, tunnel.agent = none then none else some s'
    | some token =>
        if ⟨token, none⟩ ∈ s.tunnels then
          some
            { s' with
              tunnels := s.tunnels.map fun tunnel =>
                if tunnel.token = token then { tunnel with agent := some conn } else tunnel }
        else none
  else none

/-- The stream handler of a connection: a frame goes to some tunnel that is bound to it. -/
def forwardAgentMessage (s : SshState) (conn : ℕ) (candidate : Option ℕ) : Option SshState :=
  match s.conns[conn]? with
  | none => none
  | some c =>
      match c.toHub with
      | [] => none
      | frame :: rest =>
          let s' := s.modifyConn conn fun conn => { conn with toHub := rest }
          -- without a handler it is taken for a response, and dropped
          if c.attachment = .upgraded ∨ c.attachment = .registered then some s'
          else
            match candidate with
            | none => if ∃ tunnel ∈ s.tunnels, tunnel.agent = some conn then none else some s'
            | some token =>
                if ⟨token, some conn⟩ ∈ s.tunnels then
                  some { s' with delivered := (frame.owner, token) :: s.delivered }
                else none

/-! ### The agent -/

/-- `sendSSHStream` goes to the present connection, whichever it is. -/
def canSend (s : SshState) : Bool :=
  (s.conn.bind (s.conns[·]?)).elim false (·.isOpen)

def sendSSHStream (s : SshState) (frame : Frame) : SshState :=
  match s.conn with
  | none => s
  | some conn => s.modifyConn conn fun c =>
      if c.isOpen then { c with toHub := c.toHub ++ [frame] } else c

def deleteStream (s : SshState) (streamID : Uint32) : SshState :=
  { s with sshStreams := AssocList.delete streamID s.sshStreams }

def closeSocket (s : SshState) (socket : Socket) : SshState :=
  { s with closed := socket.ref :: s.closed }

/-- An open frame, once the local SSH server was dialed. -/
def openStream (s : SshState) (frame : Frame) : SshState :=
  let streamID := frame.msg.streamID
  let socket : Socket := ⟨s.dialed, frame.owner⟩
  if s.canSend then
    -- an entry under the same id is overwritten
    sendSSHStream
      { s with
        dialed := s.dialed + 1
        sshStreams := AssocList.insert streamID socket s.sshStreams
        readers := s.readers ++ [{ streamID, socket }] }
      ⟨{ streamID, type := sshStreamOpenOK }, frame.owner⟩
  else (closeSocket { s with dialed := s.dialed + 1 } socket).deleteStream streamID

def handleSSHStream (s : SshState) (frame : Frame) (dialOk : Bool) : SshState :=
  let streamID := frame.msg.streamID
  if frame.msg.type = sshStreamOpen then
    if 2 ≤ s.sshStreams.length then
      s.sendSSHStream
        ⟨{ streamID, type := sshStreamOpenError, error := "SSH session limit reached" },
          frame.owner⟩
    else if dialOk then s.openStream frame
    else
      s.sendSSHStream
        ⟨{ streamID, type := sshStreamOpenError
           error := "unable to connect to local SSH server" }, frame.owner⟩
  else if frame.msg.type = sshStreamData then
    match s.sshStreams.lookup streamID with
    | none => s
    | some socket =>
        if socket.ref ∈ s.closed then s
        else { s with written := (frame.owner, socket.owner) :: s.written }
  else if frame.msg.type = sshStreamEOF ∨ frame.msg.type = sshStreamClose then
    match s.sshStreams.lookup streamID with
    | none => s
    | some socket => (s.deleteStream streamID).closeSocket socket
  else s

/-- `OnMessage` of the agent. -/
def receive (s : SshState) (conn : ℕ) (dialOk : Bool) : Option SshState :=
  match s.conns[conn]? with
  | none => none
  | some c =>
      match c.toAgent with
      | [] => none
      | frame :: rest =>
          let s' := s.modifyConn conn fun conn => { conn with toAgent := rest }
          if frame.msg.magic ≠ sshStreamMagic then some s'
          else some (s'.handleSSHStream frame dialOk)

/-- A socket has data; what was read before it was closed is sent all the same. -/
def readData (s : SshState) (i : ℕ) (data : List Uint8) : Option SshState :=
  match s.readers[i]? with
  | none => none
  | some reader =>
      if reader.ending then none
      else if s.canSend then
        some (s.sendSSHStream
          ⟨{ streamID := reader.streamID, type := sshStreamData, data }, reader.socket.owner⟩)
      else
        some ({ s with readers := s.readers.set i { reader with ending := true } }.closeSocket
          reader.socket)

/-- A socket was closed by either side, or failed. -/
def readEnd (s : SshState) (i : ℕ) : Option SshState :=
  match s.readers[i]? with
  | none => none
  | some reader =>
      if reader.ending then none
      else
        some ((sendSSHStream { s with readers := s.readers.set i { reader with ending := true } }
          ⟨{ streamID := reader.streamID, type := sshStreamEOF }, reader.socket.owner⟩).closeSocket
          reader.socket)

/-- The last lines of `readSSHStream`. -/
def readDelete (s : SshState) (i : ℕ) : Option SshState :=
  match s.readers[i]? with
  | none => none
  | some reader =>
      if reader.ending then
        some (deleteStream { s with readers := s.readers.eraseIdx i } reader.streamID)
      else none

/-- `Close` of the agent. -/
def close (s : SshState) : SshState :=
  let s' :=
    { s with closed := s.sshStreams.map (·.2.ref) ++ s.closed, sshStreams := [] }
  match s.conn with
  | none => s'
  | some conn => s'.modifyConn conn fun conn => { conn with isOpen := false }

def connect (s : SshState) : SshState :=
  let s' := s.close
  { s' with conns := s'.conns ++ [{}], conn := some s'.conns.length }

end SshState

inductive SshEvent where
  | create
  | connectUser (token : ℕ)
  | userFrame (token : ℕ) (msg : SSHStreamMessage)
  | sendStream (entry : ℕ × Frame)
  | userClosed (token : ℕ)
  | expire (token : ℕ)
  | revoke (token : ℕ)
  | attachAgent (conn : ℕ)
  | setStreamHandler (conn : ℕ)
  | attachWaiting (conn : ℕ) (waiting : Option ℕ)
  | agentFrame (conn : ℕ) (candidate : Option ℕ)
  | close
  | connect
  | connectionLost (conn : ℕ)
  /-- What is under way on a connection that is gone is lost. -/
  | lose (conn : ℕ)
  | receive (conn : ℕ) (dialOk : Bool)
  | readData (i : ℕ) (data : List Uint8)
  | readEnd (i : ℕ)
  | readDelete (i : ℕ)
  deriving DecidableEq

namespace SshState

def step (s : SshState) : SshEvent → Option SshState
  | .create => some s.create
  | .connectUser token => s.connectUser token
  | .userFrame token msg => s.forwardUserMessage token msg
  | .sendStream entry => s.sendStream entry
  | .userClosed token => s.onClose token
  | .expire token => s.remove token
  | .revoke token => some (s.revokeSSHLaunch token)
  | .attachAgent conn => s.attachAgent conn
  | .setStreamHandler conn => s.setStreamHandler conn
  | .attachWaiting conn waiting => s.attachWaiting conn waiting
  | .agentFrame conn candidate => s.forwardAgentMessage conn candidate
  | .close => some s.close
  | .connect => some s.connect
  | .connectionLost conn => some (s.modifyConn conn fun conn => { conn with isOpen := false })
  | .lose conn =>
      if (s.conns[conn]?.map (·.isOpen)) = some false then
        some (s.modifyConn conn fun conn => { conn with toAgent := [], toHub := [] })
      else none
  | .receive conn dialOk => s.receive conn dialOk
  | .readData i data => s.readData i data
  | .readEnd i => s.readEnd i
  | .readDelete i => s.readDelete i

end SshState

end Picket
