import Picket.Lib.Link
import Picket.SshTunnels

/-!
# What goes through a tunnel

The SSH client of a user talks to the connector through its standard input and output, and the agent
to the SSH server through a socket. In between are the connection of the connector to the hub and
that of the agent. What is read and written at both ends is kept for the record, and so is what is
sent on the connections of the agent and what arrives from them.
-/

namespace Picket

/-- The connector of a user, `proxy`. -/
structure Connector where
  /-- The open frame was written. -/
  opened : Bool := false
  /-- The goroutine that reads the standard input. -/
  reading : Bool := true
  running : Bool := true
  up : Link SSHStreamMessage := {}
  down : Link SSHStreamMessage := {}
  stdin : List Uint8 := []
  stdout : List Uint8 := []

namespace Connector

/-- The connection is closed by either side, or gone. -/
def close (c : Connector) : Connector :=
  { c with up := c.up.shut, down := c.down.shut }

def stop (c : Connector) : Connector :=
  { c.close with running := false }

def writeFrame (c : Connector) (msg : SSHStreamMessage) : Connector :=
  { c with up := c.up.send msg }

def openStream (c : Connector) : Option Connector :=
  if c.running ∧ c.opened = false then
    if c.up.isOpen then some { c.writeFrame (connectorFrame sshStreamOpen []) with opened := true }
    else some c.stop
  else none

/-- A read of the standard input that gives data. -/
def readStdin (c : Connector) (data : List Uint8) : Option Connector :=
  if c.running ∧ c.opened ∧ c.reading then
    some
      { c.writeFrame (connectorFrame sshStreamData data) with
        stdin := c.stdin ++ data
        reading := c.up.isOpen }
  else none

def stdinEnd (c : Connector) (eof : Bool) : Option Connector :=
  if c.running ∧ c.opened ∧ c.reading then
    let c := { c with reading := false }
    some (if eof then c.writeFrame (connectorFrame sshStreamEOF []) else c)
  else none

/-- The loop. Of the data the first `n` bytes can be written. -/
def readMessage (c : Connector) (n : ℕ) : Option Connector :=
  if c.running ∧ c.opened then
    match c.down.receive with
    | none => none
    | some (msg, down) =>
        let c := { c with down }
        if msg.type = sshStreamData then
          let c := { c with stdout := c.stdout ++ msg.data.take n }
          some (if msg.data.length ≤ n then c else c.stop)
        else if msg.type = sshStreamOpenError ∨ msg.type = sshStreamEOF ∨
            msg.type = sshStreamClose then some c.stop
        else some c
  else none

/-- `ReadMessage` fails. -/
def readFails (c : Connector) : Option Connector :=
  if c.running ∧ c.opened ∧ c.down.isOpen = false ∧ c.down.queue = [] then some c.stop
  else none

end Connector

inductive ConnectorEvent where
  | openStream
  | readStdin (data : List Uint8)
  | stdinEnd (eof : Bool)
  | readMessage (n : ℕ)
  | readFails
  | connectionLost
  /-- What is under way on a connection that is gone is lost. -/
  | lose

def Connector.step (c : Connector) : ConnectorEvent → Option Connector
  | .openStream => c.openStream
  | .readStdin data => c.readStdin data
  | .stdinEnd eof => c.stdinEnd eof
  | .readMessage n => c.readMessage n
  | .readFails => c.readFails
  | .connectionLost => some c.close
  | .lose => some { c with up := c.up.lose, down := c.down.lose }

/-- What was sent on a connection of the agent and what has arrived: the frames for the agent, and
the data frames for the hub. -/
structure ConnLog where
  upSent : List Frame := []
  upArrived : List Frame := []
  downSent : List Frame := []
  downArrived : List Frame := []

/-- The tunnels of a system and the connectors of their users. All but `ssh` and `connectors` is
kept for the record only. -/
structure TunnelState where
  ssh : SshState := {}
  connectors : ℕ → Option Connector := fun _ => none
  /-- The connection that a tunnel was bound to. -/
  bound : ℕ → Option ℕ := fun _ => none
  /-- The tunnels that were bound before the hub handled the frames of the connection. -/
  early : List ℕ := []
  sockets : List Socket := []
  socketIn : ℕ → List Uint8 := fun _ => []
  socketOut : ℕ → List Uint8 := fun _ => []
  logs : ℕ → ConnLog := fun _ => {}

/-- `SetStreamHandler` was called. -/
def Conn.handles (conn : Conn) : Bool :=
  conn.attachment = .handling ∨ conn.attachment = .attached

namespace TunnelState

open Link

def log (s : TunnelState) (conn : ℕ) (f : ConnLog → ConnLog) : TunnelState :=
  { s with logs := Function.update s.logs conn (f (s.logs conn)) }

def setConnector (s : TunnelState) (token : ℕ) (c : Connector) : TunnelState :=
  { s with connectors := Function.update s.connectors token (some c) }

/-- `Dial` of the connector. -/
def connectUser (s : TunnelState) (token : ℕ) : TunnelState :=
  { s.setConnector token {} with
    bound := Function.update s.bound token s.ssh.agent
    early :=
      if s.ssh.agent.all fun conn => (s.ssh.conns[conn]?).any (·.handles) then s.early
      else token :: s.early }

/-- The hub reads a frame of the connector. -/
def userFrame (s : TunnelState) (token : ℕ) (msg : SSHStreamMessage) : Option TunnelState :=
  match s.connectors token with
  | none => none
  | some c =>
      match c.up.receive with
      | none => none
      | some (first, up) => if first = msg then some (s.setConnector token { c with up }) else none

/-- The agent handles a frame. -/
def handleSSHStream (s : TunnelState) (frame : Frame) (dialOk : Bool) : TunnelState :=
  if frame.msg.magic ≠ sshStreamMagic then s
  else if frame.msg.type = sshStreamOpen then
    if s.ssh.sshStreams.length < 2 ∧ dialOk then
      { s with sockets := s.sockets ++ [⟨s.ssh.dialed, frame.owner⟩] }
    else s
  else if frame.msg.type = sshStreamData then
    match s.ssh.sshStreams.lookup frame.msg.streamID with
    | none => s
    | some socket =>
        if socket.ref ∈ s.ssh.closed then s
        else { s with socketIn := record s.socketIn socket.ref frame.msg.data }
  else s

def receive (s : TunnelState) (conn : ℕ) (dialOk : Bool) : Option TunnelState :=
  match (s.ssh.conns[conn]?).bind (·.toAgent.head?) with
  | none => none
  | some frame =>
      let s := s.log conn fun log => { log with upArrived := log.upArrived ++ [frame] }
      some (s.handleSSHStream frame dialOk)

/-- The agent reads from a socket, and sends what it has read or fails to. -/
def readData (s : TunnelState) (i : ℕ) (data : List Uint8) : Option TunnelState :=
  match s.ssh.readers[i]? with
  | none => none
  | some reader =>
      let s := { s with socketOut := record s.socketOut reader.socket.ref data }
      match s.ssh.conn with
      | none => some s
      | some conn =>
          let msg : SSHStreamMessage := { streamID := reader.streamID, type := sshStreamData, data }
          some (s.log conn fun log =>
            { log with downSent := log.downSent ++ [⟨msg, reader.socket.owner⟩] })

/-- The hub writes a frame of the agent to the connection of a user. -/
def forward (s : TunnelState) (token : ℕ) (msg : SSHStreamMessage) : TunnelState :=
  match s.connectors token with
  | none => s
  | some c => s.setConnector token { c with down := c.down.send msg }

def agentFrame (s : TunnelState) (conn : ℕ) (candidate : Option ℕ) : Option TunnelState :=
  match s.ssh.conns[conn]? with
  | none => none
  | some c =>
      match c.toHub with
      | [] => none
      | frame :: _ =>
          let s := s.log conn fun log =>
            if frame.msg.type = sshStreamData then
              { log with downArrived := log.downArrived ++ [frame] }
            else log
          match candidate with
          | none => some s
          | some token => some (if c.handles then s.forward token frame.msg else s)

/-- What an event of the hub or the agent means to the connectors and the records. -/
def observe (s : TunnelState) : SshEvent → Option TunnelState
  | .connectUser token => some (s.connectUser token)
  | .attachWaiting conn (some token) =>
      some { s with bound := Function.update s.bound token (some conn) }
  | .userFrame token msg => s.userFrame token msg
  | .sendStream entry =>
      some (s.log entry.1 fun log => { log with upSent := log.upSent ++ [entry.2] })
  | .receive conn dialOk => s.receive conn dialOk
  | .readData i data => s.readData i data
  | .agentFrame conn candidate => s.agentFrame conn candidate
  | _ => some s

end TunnelState

inductive TunnelEvent where
  | ssh (e : SshEvent)
  | user (token : ℕ) (e : ConnectorEvent)

def TunnelState.step (s : TunnelState) : TunnelEvent → Option TunnelState
  | .ssh e => (s.ssh.step e).bind fun ssh => (s.observe e).map fun s => { s with ssh }
  | .user token e =>
      (s.connectors token).bind fun c => (c.step e).map (s.setConnector token)

end Picket
