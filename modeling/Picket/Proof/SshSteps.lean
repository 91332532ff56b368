import Picket.SshTunnels

/-!
# What an SSH event can do

One theorem for each function that can fail: what it found, and the state it leaves.
-/

namespace Picket.SshState

variable {s s' : SshState}

theorem forwardUserMessage_cases {token : ℕ} {msg : SSHStreamMessage}
    (hstep : s.forwardUserMessage token msg = some s') :
    s' = s ∨ ∃ conn, ⟨token, some conn⟩ ∈ s.tunnels ∧
      (∀ entry ∈ s.forwarding, entry.2.owner ≠ token) ∧
      s' =
        { s with
          forwarding := (conn, ⟨msg, token⟩) :: s.forwarding
          forwarded := s.forwarded ++ [⟨msg, token⟩] } := by
  unfold forwardUserMessage at hstep
  split at hstep
  · cases hstep
  · rename_i hnone
    push Not at hnone
    split at hstep
    · cases hstep
      exact Or.inl rfl
    · rename_i conn hbound
      cases hstep
      obtain ⟨⟨found, agent⟩, hfind, hagent⟩ := Option.bind_eq_some_iff.mp hbound
      obtain rfl : found = token := by simpa using List.find?_some hfind
      obtain rfl : agent = some conn := hagent
      exact Or.inr ⟨conn, List.mem_of_find?_eq_some hfind, hnone, rfl⟩

theorem revokeSSHLaunch_cases (token : ℕ) :
    let t := { s with launches := s.launches.filter (· ≠ token) }
    s.revokeSSHLaunch token = t ∨ t.remove token = some (s.revokeSSHLaunch token) := by
  unfold revokeSSHLaunch
  dsimp only
  cases hremove : remove { s with launches := s.launches.filter (· ≠ token) } token with
  | none => exact Or.inl rfl
  | some s' => exact Or.inr rfl

theorem attachWaiting_cases {conn : ℕ} {waiting : Option ℕ}
    (hstep : s.attachWaiting conn waiting = some s') :
    ∃ c, s.conns[conn]? = some c ∧
      let t := s.modifyConn conn fun conn => { conn with attachment := .attached }
      waiting = none ∧ s' = t ∨
        ∃ token, waiting = some token ∧
          s' =
            { t with
              tunnels := s.tunnels.map fun tunnel =>
                if tunnel.token = token then { tunnel with agent := some conn } else tunnel } := by
  obtain ⟨hhandling, hstep⟩ := Option.ite_none_right_eq_some.mp hstep
  obtain ⟨c, hget, -⟩ := Option.map_eq_some_iff.mp hhandling
  refine ⟨c, hget, ?_⟩
  cases waiting with
  | none =>
      obtain ⟨-, hstep⟩ := Option.ite_none_left_eq_some.mp hstep
      cases hstep
      exact Or.inl ⟨rfl, rfl⟩
  | some token =>
      obtain ⟨-, hstep⟩ := Option.ite_none_right_eq_some.mp hstep
      cases hstep
      exact Or.inr ⟨token, rfl, rfl⟩

theorem forwardAgentMessage_cases {conn : ℕ} {candidate : Option ℕ}
    (hstep : s.forwardAgentMessage conn candidate = some s') :
    ∃ c frame rest, s.conns[conn]? = some c ∧ c.toHub = frame :: rest ∧
      let t := s.modifyConn conn fun conn => { conn with toHub := rest }
      (s' = t ∨ ∃ token, ⟨token, some conn⟩ ∈ s.tunnels ∧
        s' = { t with delivered := (frame.owner, token) :: s.delivered }) := by
  unfold forwardAgentMessage at hstep
  split at hstep
  · cases hstep
  · rename_i c hget
    split at hstep
    · cases hstep
    · rename_i frame rest hqueue
      refine ⟨c, frame, rest, hget, hqueue, ?_⟩
      dsimp only at hstep
      split at hstep
      · cases hstep
        exact Or.inl rfl
      · split at hstep
        · split at hstep
          · cases hstep
          · cases hstep
            exact Or.inl rfl
        · split at hstep
          · rename_i token hbound
            cases hstep
            exact Or.inr ⟨token, hbound, rfl⟩
          · cases hstep

/-- The frame is passed over, answered with an error, or does what its type says. -/
theorem handleSSHStream_cases (frame : Frame) (dialOk : Bool) :
    let t := s.handleSSHStream frame dialOk
    (t = s ∧ (frame.msg.type = sshStreamEOF ∨ frame.msg.type = sshStreamClose →
        s.sshStreams.lookup frame.msg.streamID = none)) ∨
      (frame.msg.type = sshStreamOpen ∧ ∃ msg, t = s.sendSSHStream ⟨msg, frame.owner⟩) ∨
      (frame.msg.type = sshStreamOpen ∧ s.sshStreams.length < 2 ∧ dialOk ∧ t = s.openStream frame) ∨
      ∃ socket, s.sshStreams.lookup frame.msg.streamID = some socket ∧
        (frame.msg.type = sshStreamData ∧
            t = { s with written := (frame.owner, socket.owner) :: s.written } ∨
          t = (s.deleteStream frame.msg.streamID).closeSocket socket) := by
  unfold handleSSHStream
  dsimp only
  split
  · rename_i htype
    refine Or.inr ?_
    split
    · exact Or.inl ⟨htype, _, rfl⟩
    · rename_i hroom
      split
      · rename_i hdial
        exact Or.inr (Or.inl ⟨htype, by omega, hdial, rfl⟩)
      · exact Or.inl ⟨htype, _, rfl⟩
  · split
    · rename_i hdata
      have hskip : frame.msg.type = sshStreamEOF ∨ frame.msg.type = sshStreamClose →
          s.sshStreams.lookup frame.msg.streamID = none := by
        rw [hdata]
        exact fun hclose => absurd hclose (by decide)
      split
      · exact Or.inl ⟨rfl, hskip⟩
      · rename_i socket hlookup
        split
        · exact Or.inl ⟨rfl, hskip⟩
        · exact Or.inr (Or.inr (Or.inr ⟨socket, hlookup, Or.inl ⟨hdata, rfl⟩⟩))
    · split
      · split
        · rename_i hnone
          exact Or.inl ⟨rfl, fun _ => hnone⟩
        · rename_i socket hlookup
          exact Or.inr (Or.inr (Or.inr ⟨socket, hlookup, Or.inr rfl⟩))
      · rename_i hclose
        exact Or.inl ⟨rfl, fun h => absurd h hclose⟩

theorem receive_cases {conn : ℕ} {dialOk : Bool} (hstep : s.receive conn dialOk = some s') :
    ∃ c frame rest, s.conns[conn]? = some c ∧ c.toAgent = frame :: rest ∧
      let t := s.modifyConn conn fun conn => { conn with toAgent := rest }
      (frame.msg.magic ≠ sshStreamMagic ∧ s' = t ∨
        frame.msg.magic = sshStreamMagic ∧ s' = t.handleSSHStream frame dialOk) := by
  unfold receive at hstep
  split at hstep
  · cases hstep
  · rename_i c hget
    split at hstep
    · cases hstep
    · rename_i frame rest hqueue
      refine ⟨c, frame, rest, hget, hqueue, ?_⟩
      dsimp only at hstep
      split at hstep
      · rename_i hmagic
        cases hstep
        exact Or.inl ⟨hmagic, rfl⟩
      · rename_i hmagic
        cases hstep
        exact Or.inr ⟨not_not.mp hmagic, rfl⟩

/-- The state after a reader has closed its socket. -/
def endReader (s : SshState) (i : ℕ) (reader : StreamReader) : SshState :=
  closeSocket { s with readers := s.readers.set i { reader with ending := true } } reader.socket

theorem readData_cases {i : ℕ} {data : List Uint8} (hstep : s.readData i data = some s') :
    ∃ reader, s.readers[i]? = some reader ∧
      ((∃ msg, s' = s.sendSSHStream ⟨msg, reader.socket.owner⟩) ∨ s' = s.endReader i reader) := by
  unfold readData at hstep
  split at hstep
  · cases hstep
  · rename_i reader hget
    refine ⟨reader, hget, ?_⟩
    split at hstep
    · cases hstep
    · split at hstep
      · cases hstep
        exact Or.inl ⟨_, rfl⟩
      · cases hstep
        exact Or.inr rfl

theorem closeSocket_sendSSHStream (frame : Frame) (socket : Socket) :
    (s.sendSSHStream frame).closeSocket socket = (s.closeSocket socket).sendSSHStream frame := by
  unfold sendSSHStream closeSocket
  dsimp only
  split <;> rfl

theorem readEnd_cases {i : ℕ} (hstep : s.readEnd i = some s') :
    ∃ reader msg, s.readers[i]? = some reader ∧
      s' = (s.endReader i reader).sendSSHStream ⟨msg, reader.socket.owner⟩ := by
  unfold readEnd at hstep
  split at hstep
  · cases hstep
  · rename_i reader hget
    split at hstep
    · cases hstep
    · cases hstep
      exact ⟨reader, _, hget, closeSocket_sendSSHStream _ _⟩

theorem readDelete_cases {i : ℕ} (hstep : s.readDelete i = some s') :
    ∃ reader, s.readers[i]? = some reader ∧ reader.ending ∧
      s' = deleteStream { s with readers := s.readers.eraseIdx i } reader.streamID := by
  unfold readDelete at hstep
  split at hstep
  · cases hstep
  · rename_i reader hget
    obtain ⟨hending, hstep⟩ := Option.ite_none_right_eq_some.mp hstep
    cases hstep
    exact ⟨reader, hget, hending, rfl⟩

end Picket.SshState
