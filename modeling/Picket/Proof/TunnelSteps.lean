import Picket.Proof.SshSteps
import Picket.TunnelBytes

/-!
# What an event means to the records

Most events add nothing to what the tunnels and the agent have; for the others, there is one theorem
for each function that looks at the state first.
-/

namespace Picket

/-! ### Steps that add nothing -/

/-- Tunnels, sockets and readers may be gone. -/
structure SshState.Minor (s s' : SshState) : Prop where
  forwarding : s'.forwarding = s.forwarding
  tunnels : ∀ tunnel ∈ s'.tunnels, tunnel ∈ s.tunnels
  entries : ∀ entry ∈ s'.sshStreams, entry ∈ s.sshStreams
  live : ∀ streamID socket, s'.sshStreams.lookup streamID = some socket →
    socket.ref ∉ s'.closed →
      s.sshStreams.lookup streamID = some socket ∧ socket.ref ∉ s.closed
  readers : ∀ reader ∈ s'.readers, ∃ old ∈ s.readers, old.socket = reader.socket
  dialed : s'.dialed = s.dialed
  conn : ∀ conn, conn < s.conns.length → s'.conn = some conn → s.conn = some conn
  handles : ∀ (i : ℕ) (c : Conn), s.conns[i]? = some c →
    ∃ c' : Conn, s'.conns[i]? = some c' ∧ (c.handles → c'.handles)

namespace SshState.Minor

variable {s s' s'' : SshState}

theorem refl (s : SshState) : Minor s s where
  forwarding := rfl
  tunnels _ := id
  entries _ := id
  live _ _ hlookup hopen := ⟨hlookup, hopen⟩
  readers reader hmem := ⟨reader, hmem, rfl⟩
  dialed := rfl
  conn _ _ := id
  handles _ c hget := ⟨c, hget, id⟩

theorem trans (h : Minor s s') (h' : Minor s' s'') : Minor s s'' where
  forwarding := h'.forwarding.trans h.forwarding
  tunnels tunnel hmem := h.tunnels tunnel (h'.tunnels tunnel hmem)
  entries entry hmem := h.entries entry (h'.entries entry hmem)
  live streamID socket hlookup hopen := by
    obtain ⟨hlookup, hopen⟩ := h'.live streamID socket hlookup hopen
    exact h.live streamID socket hlookup hopen
  readers reader hmem := by
    obtain ⟨between, hbetween, hsocket⟩ := h'.readers reader hmem
    obtain ⟨old, hold, hsame⟩ := h.readers between hbetween
    exact ⟨old, hold, hsame.trans hsocket⟩
  dialed := h'.dialed.trans h.dialed
  conn conn hlt hconn := by
    obtain ⟨c', hget', -⟩ := h.handles conn _ (List.getElem?_eq_getElem hlt)
    exact h.conn conn hlt (h'.conn conn (List.getElem?_eq_some_iff.mp hget').1 hconn)
  handles i c hget := by
    obtain ⟨c', hget', hkeep⟩ := h.handles i c hget
    obtain ⟨c'', hget'', hkeep'⟩ := h'.handles i c' hget'
    exact ⟨c'', hget'', hkeep' ∘ hkeep⟩

theorem modifyConn (s : SshState) (i : ℕ) {f : Conn → Conn}
    (hf : ∀ c, s.conns[i]? = some c → c.handles → (f c).handles) : Minor s (s.modifyConn i f) :=
  { refl s with
    conn := fun _ _ => id
    handles := by
      intro j c hget
      by_cases hij : i = j
      · subst hij
        refine ⟨f c, ?_, hf c hget⟩
        rw [SshState.modifyConn, List.getElem?_modify_eq, hget]
        rfl
      · refine ⟨c, ?_, id⟩
        rw [SshState.modifyConn, List.getElem?_modify_ne _ _ hij, hget] }

theorem sendSSHStream (s : SshState) (frame : Frame) : Minor s (s.sendSSHStream frame) := by
  unfold SshState.sendSSHStream
  split
  · exact refl s
  · refine modifyConn s _ fun c _ hc => ?_
    split <;> exact hc

theorem deleteStream (s : SshState) (streamID : Uint32) : Minor s (s.deleteStream streamID) :=
  { refl s with
    entries := fun _ => AssocList.mem_of_mem_delete
    live := by
      intro id socket hlookup hopen
      rw [SshState.deleteStream, AssocList.lookup_delete] at hlookup
      obtain ⟨-, hlookup⟩ := Option.ite_none_left_eq_some.mp hlookup
      exact ⟨hlookup, hopen⟩ }

theorem closeSocket (s : SshState) (socket : Socket) : Minor s (s.closeSocket socket) :=
  { refl s with
    live := fun _ _ hlookup hopen =>
      ⟨hlookup, fun hclosed => hopen (List.mem_cons_of_mem _ hclosed)⟩ }

theorem endReader {i : ℕ} {reader : StreamReader} (hget : s.readers[i]? = some reader) :
    Minor s (s.endReader i reader) :=
  { closeSocket s reader.socket with
    readers := by
      intro other hother
      rcases List.mem_or_eq_of_mem_set hother with hold | rfl
      · exact ⟨other, hold, rfl⟩
      · exact ⟨reader, List.mem_of_getElem? hget, rfl⟩ }

theorem remove {token : ℕ} (hstep : s.remove token = some s') : Minor s s' := by
  obtain ⟨-, hstep⟩ := Option.ite_none_right_eq_some.mp hstep
  cases hstep
  exact { refl s with tunnels := fun _ => List.mem_of_mem_filter }

theorem close (s : SshState) : Minor s s.close := by
  have hcleared :
      Minor s { s with closed := s.sshStreams.map (·.2.ref) ++ s.closed, sshStreams := [] } :=
    { refl s with
      entries := fun _ hmem => by cases hmem
      live := fun _ _ hlookup => by cases hlookup }
  unfold SshState.close
  dsimp only
  split
  · exact hcleared
  · exact hcleared.trans (modifyConn _ _ fun _ _ => id)

theorem connect (s : SshState) : Minor s s.connect := by
  refine (close s).trans { refl s.close with conn := ?_, handles := ?_ }
  · intro conn hlt hconn
    obtain rfl : s.close.conns.length = conn := Option.some.inj hconn
    exact absurd hlt (Nat.lt_irrefl _)
  · intro i c hget
    refine ⟨c, ?_, id⟩
    rw [SshState.connect, List.getElem?_append_left (List.getElem?_eq_some_iff.mp hget).1, hget]

/-- A frame for which no socket is dialed. -/
theorem handleSSHStream (s : SshState) (frame : Frame) (dialOk : Bool)
    (hdial : frame.msg.type = sshStreamOpen → s.sshStreams.length < 2 → dialOk = false) :
    Minor s (s.handleSSHStream frame dialOk) := by
  rcases SshState.handleSSHStream_cases (s := s) frame dialOk with
    ⟨heq, -⟩ | ⟨-, msg, heq⟩ | ⟨htype, hroom, hok, -⟩ | ⟨socket, -, ⟨-, heq⟩ | heq⟩
  · rw [heq]
    exact refl s
  · rw [heq]
    exact sendSSHStream s _
  · rw [hdial htype hroom] at hok
    cases hok
  · rw [heq]
    exact { refl s with }
  · rw [heq]
    exact (deleteStream s _).trans (closeSocket _ socket)

theorem step {e : SshEvent} (hconnect : ∀ token, e ≠ .connectUser token)
    (hbind : ∀ conn token, e ≠ .attachWaiting conn (some token))
    (huser : ∀ token msg, e ≠ .userFrame token msg) (hsend : ∀ entry, e ≠ .sendStream entry)
    (hreceive : ∀ conn dialOk, e ≠ .receive conn dialOk) (hstep : s.step e = some s') :
    Minor s s' := by
  cases e with
  | connectUser token => exact absurd rfl (hconnect token)
  | userFrame token msg => exact absurd rfl (huser token msg)
  | sendStream entry => exact absurd rfl (hsend entry)
  | receive conn dialOk => exact absurd rfl (hreceive conn dialOk)
  | attachWaiting conn waiting =>
      obtain ⟨-, -, ⟨-, rfl⟩ | ⟨token, rfl, -⟩⟩ := SshState.attachWaiting_cases hstep
      · exact modifyConn s conn fun _ _ _ => rfl
      · exact absurd rfl (hbind conn token)
  | create =>
      cases hstep
      exact { refl s with }
  | userClosed token => exact remove (Option.ite_none_left_eq_some.mp hstep).2
  | expire token => exact remove hstep
  | revoke token =>
      cases hstep
      have htaken : Minor s { s with launches := s.launches.filter (· ≠ token) } := { refl s with }
      rcases SshState.revokeSSHLaunch_cases (s := s) token with heq | hremove
      · rwa [heq]
      · exact htaken.trans (remove hremove)
  | attachAgent conn =>
      obtain ⟨hupgraded, hstep⟩ := Option.ite_none_right_eq_some.mp hstep
      cases hstep
      have hagent : Minor s { s with agent := some conn } := { refl s with }
      refine hagent.trans (modifyConn _ conn fun c hget hhandles => ?_)
      -- it was not handled before
      obtain ⟨c', hget', hattachment⟩ := Option.map_eq_some_iff.mp hupgraded
      obtain rfl := Option.some.inj (hget.symm.trans hget')
      rw [Conn.handles, hattachment] at hhandles
      cases hhandles
  | setStreamHandler conn =>
      obtain ⟨-, hstep⟩ := Option.ite_none_right_eq_some.mp hstep
      cases hstep
      exact modifyConn s conn fun _ _ _ => rfl
  | agentFrame conn candidate =>
      obtain ⟨_, _, rest, -, -, hnext⟩ := SshState.forwardAgentMessage_cases hstep
      have hpop := modifyConn s conn (f := fun conn => { conn with toHub := rest }) fun _ _ => id
      rcases hnext with rfl | ⟨token, -, rfl⟩
      · exact hpop
      · exact { hpop with }
  | close =>
      cases hstep
      exact close s
  | connect =>
      cases hstep
      exact connect s
  | connectionLost conn =>
      cases hstep
      exact modifyConn s conn fun _ _ => id
  | lose conn =>
      obtain ⟨-, hstep⟩ := Option.ite_none_right_eq_some.mp hstep
      cases hstep
      exact modifyConn s conn fun _ _ => id
  | readData i data =>
      obtain ⟨reader, hget, ⟨msg, rfl⟩ | rfl⟩ := SshState.readData_cases hstep
      · exact sendSSHStream s _
      · exact endReader hget
  | readEnd i =>
      obtain ⟨reader, msg, hget, rfl⟩ := SshState.readEnd_cases hstep
      exact (endReader hget).trans (sendSSHStream _ _)
  | readDelete i =>
      obtain ⟨reader, -, -, rfl⟩ := SshState.readDelete_cases hstep
      have hdone : Minor s { s with readers := s.readers.eraseIdx i } :=
        { refl s with
          readers := fun other hother => ⟨other, List.mem_of_mem_eraseIdx hother, rfl⟩ }
      exact hdone.trans (deleteStream _ _)

end SshState.Minor

/-! ### Dialing -/

/-- A socket is dialed, and is in the table and has a reader unless it is closed at once. -/
structure SshState.Dials (s s' : SshState) (streamID : Uint32) (socket : Socket) : Prop where
  forwarding : s'.forwarding = s.forwarding
  tunnels : s'.tunnels = s.tunnels
  entries : ∀ entry ∈ s'.sshStreams, entry = (streamID, socket) ∨ entry ∈ s.sshStreams
  live : ∀ found, s'.sshStreams.lookup streamID = some found → found = socket
  readers : ∀ reader ∈ s'.readers, reader.socket = socket ∨ reader ∈ s.readers
  dialed : s'.dialed = s.dialed + 1
  conn : s'.conn = s.conn
  handles : ∀ (i : ℕ) (c : Conn), s.conns[i]? = some c →
    ∃ c' : Conn, s'.conns[i]? = some c' ∧ (c.handles → c'.handles)

namespace SshState.Dials

variable {s s' s'' : SshState} {streamID : Uint32} {socket : Socket}

theorem openStream (s : SshState) (frame : Frame) :
    Dials s (s.openStream frame) frame.msg.streamID ⟨s.dialed, frame.owner⟩ := by
  unfold SshState.openStream
  dsimp only
  split
  · let t : SshState :=
      { s with
        dialed := s.dialed + 1
        sshStreams := AssocList.insert frame.msg.streamID ⟨s.dialed, frame.owner⟩ s.sshStreams
        readers := s.readers ++
          [{ streamID := frame.msg.streamID, socket := ⟨s.dialed, frame.owner⟩ }] }
    have hsent (reply : Frame) : ∃ conns, t.sendSSHStream reply = { t with conns } := by
      unfold SshState.sendSSHStream
      split
      · exact ⟨_, rfl⟩
      · exact ⟨_, rfl⟩
    have hhandles (reply : Frame) := (Minor.sendSSHStream t reply).handles
    specialize hsent ⟨{ streamID := frame.msg.streamID, type := sshStreamOpenOK }, frame.owner⟩
    specialize hhandles ⟨{ streamID := frame.msg.streamID, type := sshStreamOpenOK }, frame.owner⟩
    obtain ⟨conns, hsent⟩ := hsent
    rw [hsent] at hhandles ⊢
    refine ⟨rfl, rfl, fun _ => AssocList.mem_insert, fun found hlookup => ?_, fun reader hmem => ?_,
      rfl, rfl, hhandles⟩
    · rw [show t.sshStreams = AssocList.insert _ _ _ from rfl, AssocList.lookup_insert,
        if_pos rfl] at hlookup
      exact (Option.some.inj hlookup).symm
    · rcases List.mem_append.mp hmem with hold | hnew
      · exact Or.inr hold
      · rw [List.mem_singleton.mp hnew]
        exact Or.inl rfl
  · refine ⟨rfl, rfl, fun entry hmem => Or.inr (AssocList.mem_of_mem_delete hmem),
      fun found hlookup => ?_, fun reader hmem => Or.inr hmem, rfl, rfl,
      fun i c hget => ⟨c, hget, id⟩⟩
    rw [SshState.deleteStream, AssocList.lookup_delete, if_pos rfl] at hlookup
    cases hlookup

theorem of_minor (hminor : Minor s s') (h : Dials s' s'' streamID socket)
    (htunnels : s'.tunnels = s.tunnels) (hreaders : s'.readers = s.readers)
    (hconn : s'.conn = s.conn) : Dials s s'' streamID socket where
  forwarding := h.forwarding.trans hminor.forwarding
  tunnels := h.tunnels.trans htunnels
  entries entry hmem := (h.entries entry hmem).imp_right (hminor.entries entry)
  live := h.live
  readers reader hmem := hreaders ▸ h.readers reader hmem
  dialed := by rw [h.dialed, hminor.dialed]
  conn := h.conn.trans hconn
  handles i c hget := by
    obtain ⟨c', hget', hkeep⟩ := hminor.handles i c hget
    obtain ⟨c'', hget'', hkeep'⟩ := h.handles i c' hget'
    exact ⟨c'', hget'', hkeep' ∘ hkeep⟩

end SshState.Dials

theorem SshState.handleSSHStream_open {s : SshState} {frame : Frame}
    (hopen : frame.msg.type = sshStreamOpen) (hroom : s.sshStreams.length < 2) :
    s.handleSSHStream frame true = s.openStream frame := by
  rw [handleSSHStream, if_pos hopen, if_neg (Nat.not_le.mpr hroom), if_pos rfl]

theorem SshState.handleSSHStream_data {s : SshState} {frame : Frame} {socket : Socket}
    (hdata : frame.msg.type = sshStreamData)
    (hlookup : s.sshStreams.lookup frame.msg.streamID = some socket)
    (hopen : socket.ref ∉ s.closed) (dialOk : Bool) :
    s.handleSSHStream frame dialOk =
      { s with written := (frame.owner, socket.owner) :: s.written } := by
  unfold handleSSHStream
  dsimp only
  rw [if_neg (by rw [hdata]; decide), if_pos hdata, hlookup]
  exact if_neg hopen

/-- A frame of the agent goes to a tunnel that is bound to the connection, where its frames are
handled and there is one. -/
theorem SshState.forwardAgentMessage_effects {s s' : SshState} {conn : ℕ} {candidate : Option ℕ}
    (hstep : s.forwardAgentMessage conn candidate = some s') :
    ∃ c frame rest, s.conns[conn]? = some c ∧ c.toHub = frame :: rest ∧
      (c.handles → (candidate = none ∧ ∀ tunnel ∈ s.tunnels, tunnel.agent ≠ some conn) ∨
        ∃ token, candidate = some token ∧ ⟨token, some conn⟩ ∈ s.tunnels ∧
          (frame.owner, token) ∈ s'.delivered) := by
  unfold forwardAgentMessage at hstep
  split at hstep
  · cases hstep
  · rename_i c hget
    split at hstep
    · cases hstep
    · rename_i frame rest hqueue
      refine ⟨c, frame, rest, hget, hqueue, fun hhandles => ?_⟩
      have hattached : ¬ (c.attachment = .upgraded ∨ c.attachment = .registered) := by
        rw [Conn.handles] at hhandles
        cases hattachment : c.attachment <;> simp_all
      dsimp only at hstep
      rw [if_neg hattached] at hstep
      cases candidate with
      | none =>
          obtain ⟨hnone, -⟩ := Option.ite_none_left_eq_some.mp hstep
          push Not at hnone
          exact Or.inl ⟨rfl, hnone⟩
      | some token =>
          obtain ⟨hbound, hstep⟩ := Option.ite_none_right_eq_some.mp hstep
          cases hstep
          exact Or.inr ⟨token, rfl, hbound, List.mem_cons_self⟩

/-! ### The records -/

namespace TunnelState

variable {s s' t : TunnelState}

theorem step_ssh {e : SshEvent} (hstep : s.step (.ssh e) = some s') :
    ∃ t ssh, s.ssh.step e = some ssh ∧ s.observe e = some t ∧ s' = { t with ssh } := by
  obtain ⟨ssh, hssh, hobserve⟩ := Option.bind_eq_some_iff.mp hstep
  obtain ⟨t, ht, rfl⟩ := Option.map_eq_some_iff.mp hobserve
  exact ⟨t, ssh, hssh, ht, rfl⟩

theorem step_user {token : ℕ} {e : ConnectorEvent} (hstep : s.step (.user token e) = some s') :
    ∃ c c', s.connectors token = some c ∧ c.step e = some c' ∧ s' = s.setConnector token c' := by
  obtain ⟨c, hc, hmap⟩ := Option.bind_eq_some_iff.mp hstep
  obtain ⟨c', hc', rfl⟩ := Option.map_eq_some_iff.mp hmap
  exact ⟨c, c', hc, hc', rfl⟩

theorem userFrame_cases {token : ℕ} {msg : SSHStreamMessage}
    (hobserve : s.userFrame token msg = some t) :
    ∃ c up, s.connectors token = some c ∧ c.up.receive = some (msg, up) ∧
      t = s.setConnector token { c with up } := by
  unfold userFrame at hobserve
  split at hobserve
  · cases hobserve
  · rename_i c hc
    split at hobserve
    · cases hobserve
    · rename_i first up hup
      obtain ⟨rfl, heq⟩ := Option.ite_none_right_eq_some.mp hobserve
      cases heq
      exact ⟨c, up, hc, hup, rfl⟩

theorem receive_cases {conn : ℕ} {dialOk : Bool} (hobserve : s.receive conn dialOk = some t) :
    ∃ c frame rest, s.ssh.conns[conn]? = some c ∧ c.toAgent = frame :: rest ∧
      t = (s.log conn fun log =>
        { log with upArrived := log.upArrived ++ [frame] }).handleSSHStream frame dialOk := by
  unfold receive at hobserve
  split at hobserve
  · cases hobserve
  · rename_i frame hhead
    cases hobserve
    obtain ⟨c, hget, hqueue⟩ := Option.bind_eq_some_iff.mp hhead
    obtain ⟨rest, hrest⟩ := List.head?_eq_some_iff.mp hqueue
    exact ⟨c, frame, rest, hget, hrest, rfl⟩

/-- A socket is dialed, or data is written to one. -/
theorem handleSSHStream_cases (s : TunnelState) (frame : Frame) (dialOk : Bool) :
    (s.handleSSHStream frame dialOk = s ∧
        (frame.msg.magic = sshStreamMagic → frame.msg.type = sshStreamData →
          ∀ socket, s.ssh.sshStreams.lookup frame.msg.streamID = some socket →
            socket.ref ∈ s.ssh.closed)) ∨
      (frame.msg.type = sshStreamOpen ∧ s.ssh.sshStreams.length < 2 ∧ dialOk ∧
        s.handleSSHStream frame dialOk =
          { s with sockets := s.sockets ++ [⟨s.ssh.dialed, frame.owner⟩] }) ∨
      ∃ socket, s.ssh.sshStreams.lookup frame.msg.streamID = some socket ∧
        frame.msg.type = sshStreamData ∧ socket.ref ∉ s.ssh.closed ∧
        s.handleSSHStream frame dialOk =
          { s with socketIn := Link.record s.socketIn socket.ref frame.msg.data } := by
  unfold handleSSHStream
  split
  · rename_i hmagic
    exact Or.inl ⟨rfl, fun heq => absurd heq hmagic⟩
  · split
    · rename_i htype
      split
      · rename_i hroom
        exact Or.inr (Or.inl ⟨htype, hroom.1, hroom.2, rfl⟩)
      · exact Or.inl ⟨rfl, fun _ hdata => absurd (htype.symm.trans hdata) (by decide)⟩
    · split
      · rename_i htype
        split
        · rename_i hnone
          refine Or.inl ⟨rfl, fun _ _ socket hsome => ?_⟩
          rw [hnone] at hsome
          cases hsome
        · rename_i socket hlookup
          split
          · rename_i hclosed
            refine Or.inl ⟨rfl, fun _ _ other hother => ?_⟩
            rwa [← Option.some.inj (hlookup.symm.trans hother)]
          · rename_i hopen
            exact Or.inr (Or.inr ⟨socket, hlookup, htype, hopen, rfl⟩)
      · rename_i htype
        exact Or.inl ⟨rfl, fun _ hdata => absurd hdata htype⟩

/-- What the agent does with a frame: it dials a socket, writes data to one, or does neither. -/
theorem receive_effects {conn : ℕ} {dialOk : Bool} {ssh : SshState}
    (hssh : s.ssh.receive conn dialOk = some ssh) (hobserve : s.receive conn dialOk = some t) :
    ∃ c frame rest, s.ssh.conns[conn]? = some c ∧ c.toAgent = frame :: rest ∧
      let seen := s.log conn fun log => { log with upArrived := log.upArrived ++ [frame] }
      (s.ssh.Minor ssh ∧ t = seen ∧
          (frame.msg.magic = sshStreamMagic → frame.msg.type = sshStreamData →
            ∀ socket, s.ssh.sshStreams.lookup frame.msg.streamID = some socket →
              socket.ref ∈ s.ssh.closed)) ∨
        (s.ssh.Dials ssh frame.msg.streamID ⟨s.ssh.dialed, frame.owner⟩ ∧
          frame.msg.type = sshStreamOpen ∧
          t = { seen with sockets := s.sockets ++ [⟨s.ssh.dialed, frame.owner⟩] }) ∨
        ∃ socket, s.ssh.sshStreams.lookup frame.msg.streamID = some socket ∧
          socket.ref ∉ s.ssh.closed ∧ frame.msg.type = sshStreamData ∧ s.ssh.Minor ssh ∧
          (frame.owner, socket.owner) ∈ ssh.written ∧
          t = { seen with socketIn := Link.record s.socketIn socket.ref frame.msg.data } := by
  obtain ⟨c, frame, rest, hget, hqueue, hnext⟩ := SshState.receive_cases hssh
  obtain ⟨c', frame', rest', hget', hqueue', rfl⟩ := receive_cases hobserve
  obtain rfl := Option.some.inj (hget.symm.trans hget')
  obtain ⟨rfl, rfl⟩ := List.cons.inj (hqueue.symm.trans hqueue')
  refine ⟨c, frame, rest, hget, hqueue, ?_⟩
  dsimp only at hnext ⊢
  have hpop := SshState.Minor.modifyConn s.ssh conn (f := fun conn => { conn with toAgent := rest })
    fun _ _ => id
  rcases hnext with ⟨hmagic, rfl⟩ | ⟨hmagic, rfl⟩
  · exact Or.inl ⟨hpop, by rw [handleSSHStream, if_pos hmagic], fun heq => absurd heq hmagic⟩
  · by_cases hdial : frame.msg.type = sshStreamOpen ∧ s.ssh.sshStreams.length < 2 ∧ dialOk = true
    · obtain ⟨hopen, hroom, hok⟩ := hdial
      refine Or.inr (Or.inl ⟨?_, hopen, ?_⟩)
      · have hopened := SshState.handleSSHStream_open
          (s := s.ssh.modifyConn conn fun conn => { conn with toAgent := rest }) hopen hroom
        rw [hok, hopened]
        exact .of_minor hpop (.openStream _ frame) rfl rfl rfl
      · rw [handleSSHStream, if_neg (not_not_intro hmagic), if_pos hopen, if_pos ⟨hroom, hok⟩]
        rfl
    · have hminor := hpop.trans (SshState.Minor.handleSSHStream _ frame dialOk fun hopen hroom =>
        Bool.eq_false_iff.mpr fun hok => hdial ⟨hopen, hroom, hok⟩)
      rcases handleSSHStream_cases (s.log conn fun log =>
        { log with upArrived := log.upArrived ++ [frame] }) frame dialOk with
        ⟨heq, hclosed⟩ | ⟨hopen, hroom, hok, -⟩ | ⟨socket, hlookup, hdata, hopen, heq⟩
      · exact Or.inl ⟨hminor, heq, hclosed⟩
      · exact absurd ⟨hopen, hroom, hok⟩ hdial
      · refine Or.inr (Or.inr ⟨socket, hlookup, hopen, hdata, hminor, ?_, heq⟩)
        have hwritten := SshState.handleSSHStream_data
          (s := s.ssh.modifyConn conn fun conn => { conn with toAgent := rest }) hdata hlookup hopen
          dialOk
        rw [hwritten]
        exact List.mem_cons_self

theorem readData_cases {i : ℕ} {data : List Uint8} (hobserve : s.readData i data = some t) :
    ∃ reader, s.ssh.readers[i]? = some reader ∧
      let read := { s with socketOut := Link.record s.socketOut reader.socket.ref data }
      (s.ssh.conn = none ∧ t = read ∨ ∃ conn, s.ssh.conn = some conn ∧
        t = read.log conn fun log => { log with
          downSent := log.downSent ++
            [⟨{ streamID := reader.streamID, type := sshStreamData, data },
              reader.socket.owner⟩] }) := by
  unfold readData at hobserve
  split at hobserve
  · cases hobserve
  · rename_i reader hget
    refine ⟨reader, hget, ?_⟩
    dsimp only at hobserve ⊢
    split at hobserve
    · rename_i hnone
      cases hobserve
      exact Or.inl ⟨hnone, rfl⟩
    · rename_i conn hconn
      cases hobserve
      exact Or.inr ⟨conn, hconn, rfl⟩

theorem agentFrame_cases {conn : ℕ} {candidate : Option ℕ}
    (hobserve : s.agentFrame conn candidate = some t) :
    ∃ c frame rest, s.ssh.conns[conn]? = some c ∧ c.toHub = frame :: rest ∧
      let popped := s.log conn fun log =>
        if frame.msg.type = sshStreamData then
          { log with downArrived := log.downArrived ++ [frame] }
        else log
      ((c.handles = false ∨ candidate = none) ∧ t = popped ∨
        ∃ token, candidate = some token ∧ c.handles = true ∧
          t = popped.forward token frame.msg) := by
  unfold agentFrame at hobserve
  split at hobserve
  · cases hobserve
  · rename_i c hget
    split at hobserve
    · cases hobserve
    · rename_i frame rest hqueue
      refine ⟨c, frame, rest, hget, hqueue, ?_⟩
      dsimp only at hobserve ⊢
      split at hobserve
      · cases hobserve
        exact Or.inl ⟨Or.inr rfl, rfl⟩
      · rename_i token
        by_cases hhandles : c.handles = true
        · rw [if_pos hhandles] at hobserve
          cases hobserve
          exact Or.inr ⟨token, rfl, hhandles, rfl⟩
        · rw [if_neg hhandles] at hobserve
          cases hobserve
          exact Or.inl ⟨Or.inl (Bool.not_eq_true _ ▸ hhandles), rfl⟩

theorem forward_cases (s : TunnelState) (token : ℕ) (msg : SSHStreamMessage) :
    s.connectors token = none ∧ s.forward token msg = s ∨
      ∃ c, s.connectors token = some c ∧
        s.forward token msg = s.setConnector token { c with down := c.down.send msg } := by
  unfold forward
  split
  · rename_i hnone
    exact Or.inl ⟨hnone, rfl⟩
  · rename_i c hc
    exact Or.inr ⟨c, hc, rfl⟩

/-- Nothing else is changed. -/
theorem forward_eq (s : TunnelState) (token : ℕ) (msg : SSHStreamMessage) :
    ∃ connectors, s.forward token msg = { s with connectors } := by
  rcases s.forward_cases token msg with ⟨-, heq⟩ | ⟨c, -, heq⟩
  · exact ⟨s.connectors, heq⟩
  · exact ⟨_, heq⟩

end TunnelState

end Picket
