import Picket.SshTunnels

/-!
# The local SSH sockets of the agent

`handleSSHStream`, `readSSHStream` and `Close` of the agent in single steps: each critical section,
dial, send and close of a socket is one. One frame is handled at a time; the readers run alongside,
and so may `Close`.
-/

namespace Picket

/-- A socket, known by the order of the dials, with the stream that it was dialed for. -/
structure LocalSocket where
  ref : ℕ
  streamID : Uint32
  deriving DecidableEq

/-- How far `handleSSHStream` is with a frame. -/
inductive FrameStage where
  /-- There was room for another stream. -/
  | dialing (streamID : Uint32)
  | inserting (socket : LocalSocket)
  | sendingOK (socket : LocalSocket)
  /-- It could not be sent: the socket is closed, and then the entry deleted. -/
  | closing (socket : LocalSocket)
  | deleting (streamID : Uint32)
  /-- A socket whose entry is deleted. -/
  | ending (socket : LocalSocket)
  deriving DecidableEq

/-- How far `readSSHStream` is. -/
inductive ReaderStage where
  | reading
  | closing
  | deleting
  deriving DecidableEq

structure SocketReader where
  socket : LocalSocket
  stage : ReaderStage := .reading
  deriving DecidableEq

structure AgentStreams where
  sshStreams : List (Uint32 × LocalSocket) := []
  /-- The sockets that were dialed and are not closed. -/
  openSockets : List LocalSocket := []
  dialed : ℕ := 0
  /-- The frame that is being handled. -/
  frame : Option FrameStage := none
  readers : List SocketReader := []
  /-- The sockets of readers and the sockets whose entries they deleted, kept for the record
  only. -/
  deleted : List (LocalSocket × LocalSocket) := []
  deriving DecidableEq

namespace AgentStreams

def closeSocket (s : AgentStreams) (socket : LocalSocket) : AgentStreams :=
  { s with openSockets := s.openSockets.erase socket }

/-- What a frame does up to its first step that takes time. -/
def handleSSHStream (s : AgentStreams) (msg : SSHStreamMessage) : AgentStreams :=
  if msg.magic ≠ sshStreamMagic then s
  else if msg.type = sshStreamOpen then
    -- the error that is sent where there is no room changes nothing here
    if 2 ≤ s.sshStreams.length then s else { s with frame := some (.dialing msg.streamID) }
  else if msg.type = sshStreamData then s
  else if msg.type = sshStreamEOF ∨ msg.type = sshStreamClose then
    match s.sshStreams.lookup msg.streamID with
    | none => s
    | some socket =>
        { s with
          sshStreams := AssocList.delete msg.streamID s.sshStreams
          frame := some (.ending socket) }
  else s

/-- The next step with the frame; `ok` is whether a dial or a send succeeds. -/
def proceed (s : AgentStreams) (ok : Bool) : FrameStage → AgentStreams
  | .dialing streamID =>
      if ok then
        let socket : LocalSocket := ⟨s.dialed, streamID⟩
        { s with
          openSockets := socket :: s.openSockets
          dialed := s.dialed + 1
          frame := some (.inserting socket) }
      else { s with frame := none }
  | .inserting socket =>
      { s with
        sshStreams := AssocList.insert socket.streamID socket s.sshStreams
        frame := some (.sendingOK socket) }
  | .sendingOK socket =>
      if ok then { s with readers := s.readers ++ [{ socket }], frame := none }
      else { s with frame := some (.closing socket) }
  | .closing socket => { s.closeSocket socket with frame := some (.deleting socket.streamID) }
  | .deleting streamID =>
      { s with sshStreams := AssocList.delete streamID s.sshStreams, frame := none }
  | .ending socket => { s.closeSocket socket with frame := none }

/-- The next step of a reader. It goes on reading until its socket is closed by either side or
fails, or what it read cannot be sent. -/
def readSSHStream (s : AgentStreams) (i : ℕ) (reader : SocketReader) (more : Bool) : AgentStreams :=
  match reader.stage with
  | .reading =>
      if more then s
      else { s with readers := s.readers.set i { reader with stage := .closing } }
  | .closing =>
      { s.closeSocket reader.socket with
        readers := s.readers.set i { reader with stage := .deleting } }
  | .deleting =>
      { s with
        sshStreams := AssocList.delete reader.socket.streamID s.sshStreams
        readers := s.readers.eraseIdx i
        deleted :=
          (s.sshStreams.lookup reader.socket.streamID).toList.map (Prod.mk reader.socket) ++
            s.deleted }

def close (s : AgentStreams) : AgentStreams :=
  { s with
    sshStreams := []
    openSockets := s.openSockets.filter (· ∉ s.sshStreams.map Prod.snd) }

end AgentStreams

inductive StreamEvent where
  | handleSSHStream (msg : SSHStreamMessage)
  | proceed (ok : Bool)
  | readSSHStream (i : ℕ) (more : Bool)
  | close
  deriving DecidableEq

def AgentStreams.step (s : AgentStreams) : StreamEvent → Option AgentStreams
  | .handleSSHStream msg => if s.frame = none then some (s.handleSSHStream msg) else none
  | .proceed ok => s.frame.map (s.proceed ok)
  | .readSSHStream i more => s.readers[i]?.map fun reader => s.readSSHStream i reader more
  | .close => some s.close

end Picket
