import Picket.Lib.Transition
import Picket.Proof.SshSteps

/-!
# Isolation of tunnels

Neither the hub nor the agent looks at whose a frame is: the hub takes any tunnel bound to the
connection, and the agent any socket under the stream id. They are right only where there is no
choice, that is, as long as at most one tunnel has anything on the agent. A tunnel that is bound to
a connection which is gone can be left there: nothing comes through it any more.
-/

namespace Picket

open Transition

/-- Frames of the agent reach the user of their own tunnel, and data of a user is written to the
socket of its own tunnel. -/
structure SshState.Isolated (s : SshState) : Prop where
  delivered : ∀ pair ∈ s.delivered, pair.1 = pair.2
  written : ∀ pair ∈ s.written, pair.1 = pair.2

instance (s : SshState) : Decidable s.Isolated :=
  decidable_of_iff ((∀ pair ∈ s.delivered, pair.1 = pair.2) ∧ ∀ pair ∈ s.written, pair.1 = pair.2)
    ⟨fun h => ⟨h.1, h.2⟩, fun h => ⟨h.1, h.2⟩⟩

def SshState.Up (s : SshState) (conn : ℕ) : Prop :=
  (s.conns[conn]?.map (·.isOpen)) = some true

instance (s : SshState) (conn : ℕ) : Decidable (s.Up conn) :=
  inferInstanceAs (Decidable (_ = _))

/-- Nothing of another tunnel is left on the way to the agent by the connection, or on the agent. -/
structure SshState.Alone (s : SshState) (conn token : ℕ) : Prop where
  tunnels : ∀ tunnel ∈ s.tunnels, tunnel.agent = some conn → tunnel.token = token
  forwarding : ∀ entry ∈ s.forwarding, entry.1 = conn → entry.2.owner = token
  toAgent : ∀ c ∈ s.conns, ∀ frame ∈ c.toAgent, frame.owner = token
  sshStreams : ∀ entry ∈ s.sshStreams, entry.2.owner = token
  readers : ∀ reader ∈ s.readers, reader.socket.owner = token

instance (s : SshState) (conn token : ℕ) : Decidable (s.Alone conn token) :=
  decidable_of_iff
    ((∀ tunnel ∈ s.tunnels, tunnel.agent = some conn → tunnel.token = token) ∧
      (∀ entry ∈ s.forwarding, entry.1 = conn → entry.2.owner = token) ∧
      (∀ c ∈ s.conns, ∀ frame ∈ c.toAgent, frame.owner = token) ∧
      (∀ entry ∈ s.sshStreams, entry.2.owner = token) ∧
      ∀ reader ∈ s.readers, reader.socket.owner = token)
    ⟨fun ⟨h1, h2, h3, h4, h5⟩ => ⟨h1, h2, h3, h4, h5⟩,
      fun ⟨h1, h2, h3, h4, h5⟩ => ⟨h1, h2, h3, h4, h5⟩⟩

/-- No answer to another tunnel is on the connection, and if it is open the tunnel is alone. -/
structure SshState.Free (s : SshState) (conn token : ℕ) : Prop where
  answers : ∀ c ∈ s.conns[conn]?, ∀ frame ∈ c.toHub, frame.owner = token
  alone : s.Up conn → s.Alone conn token

instance (s : SshState) (conn token : ℕ) : Decidable (s.Free conn token) :=
  decidable_of_iff
    ((∀ c ∈ s.conns[conn]?, ∀ frame ∈ c.toHub, frame.owner = token) ∧
      (s.Up conn → s.Alone conn token))
    ⟨fun ⟨h1, h2⟩ => ⟨h1, h2⟩, fun ⟨h1, h2⟩ => ⟨h1, h2⟩⟩

/-- Whenever a tunnel is bound to a connection, nothing of another tunnel is left there. -/
def IsolationGuard (s : SshState) : SshEvent → Prop
  | .connectUser token => ∀ conn ∈ s.agent, s.Free conn token
  | .attachWaiting conn (some token) => s.Free conn token
  | _ => True

instance (s : SshState) (e : SshEvent) : Decidable (IsolationGuard s e) := by
  unfold IsolationGuard
  split <;> infer_instance

/-! ### The invariant -/

/-- Only the agent's present connection is open, and what refers to a connection refers to one that
was made. -/
structure SshState.Located (s : SshState) : Prop where
  current : ∀ conn, s.Up conn → s.conn = some conn
  agent : ∀ conn ∈ s.agent, conn < s.conns.length
  tunnels : ∀ tunnel ∈ s.tunnels, ∀ conn ∈ tunnel.agent, conn < s.conns.length
  forwarding : ∀ entry ∈ s.forwarding, entry.1 < s.conns.length

/-- What is on the agent, or can still get there, belongs to the tunnel; every connection brings
answers to the tunnel that is bound to it only; and nothing went to another tunnel so far. -/
structure SshState.Apart (s : SshState) (token : ℕ) : Prop extends s.Isolated where
  tunnels : ∀ tunnel ∈ s.tunnels, ∀ conn ∈ tunnel.agent, s.Up conn → tunnel.token = token
  forwarding : ∀ entry ∈ s.forwarding, s.Up entry.1 → entry.2.owner = token
  toAgent : ∀ c ∈ s.conns, ∀ frame ∈ c.toAgent, frame.owner = token
  toHub : ∀ c ∈ s.conns, c.isOpen → ∀ frame ∈ c.toHub, frame.owner = token
  sshStreams : ∀ entry ∈ s.sshStreams, entry.2.owner = token
  readers : ∀ reader ∈ s.readers, reader.socket.owner = token
  answers : ∀ tunnel ∈ s.tunnels, ∀ conn ∈ tunnel.agent, ∀ c ∈ s.conns[conn]?,
    ∀ frame ∈ c.toHub, frame.owner = tunnel.token
  located : s.Located

namespace SshState

variable {s s' : SshState} {token : ℕ}

theorem up_iff {conn : ℕ} : s.Up conn ↔ ∃ c, s.conns[conn]? = some c ∧ c.isOpen := by
  rw [Up, Option.map_eq_some_iff]

/-- A connection after a change of one of them: as it was, or changed. -/
theorem get_modifyConn {i conn : ℕ} {f : Conn → Conn} {c : Conn}
    (hget : (s.modifyConn i f).conns[conn]? = some c) :
    s.conns[conn]? = some c ∨ i = conn ∧ ∃ old ∈ s.conns[i]?, c = f old := by
  rw [modifyConn, List.getElem?_modify, Option.map_eq_map, Option.map_eq_some_iff] at hget
  obtain ⟨old, hold, rfl⟩ := hget
  by_cases hi : i = conn
  · subst hi
    exact Or.inr ⟨rfl, old, hold, if_pos rfl⟩
  · simp only [if_neg hi]
    exact Or.inl hold

/-- A change that opens no connection opens none. -/
theorem up_of_up_modifyConn {i conn : ℕ} {f : Conn → Conn}
    (hopen : ∀ c ∈ s.conns[i]?, (f c).isOpen → c.isOpen) (hup : (s.modifyConn i f).Up conn) :
    s.Up conn := by
  obtain ⟨c, hget, hc⟩ := up_iff.mp hup
  rcases get_modifyConn hget with hold | ⟨rfl, old, hold, rfl⟩
  · exact up_iff.mpr ⟨c, hold, hc⟩
  · exact up_iff.mpr ⟨old, hold, hopen old hold hc⟩

namespace Located

theorem modifyConn (h : s.Located) {i : ℕ} {f : Conn → Conn}
    (hopen : ∀ c ∈ s.conns[i]?, (f c).isOpen → c.isOpen) : (s.modifyConn i f).Located where
  current conn hup := h.current conn (up_of_up_modifyConn hopen hup)
  agent conn hconn := (h.agent conn hconn).trans_eq (List.length_modify ..).symm
  tunnels tunnel hmem conn hconn :=
    (h.tunnels tunnel hmem conn hconn).trans_eq (List.length_modify ..).symm
  forwarding entry hmem := (h.forwarding entry hmem).trans_eq (List.length_modify ..).symm

/-- The connection that was open is closed before the next one is made. -/
theorem not_up_close (h : s.Located) (conn : ℕ) : ¬ s.close.Up conn := by
  intro hup
  unfold SshState.close at hup
  cases hpresent : s.conn with
  | none =>
      rw [hpresent] at hup
      have hcurrent := h.current conn hup
      rw [hpresent] at hcurrent
      cases hcurrent
  | some present =>
      rw [hpresent] at hup
      have hcurrent := h.current conn (up_of_up_modifyConn (fun _ _ hopen => by cases hopen) hup)
      obtain rfl : present = conn := Option.some.inj (hpresent.symm.trans hcurrent)
      obtain ⟨c, hget, hopen⟩ := up_iff.mp hup
      have hclosed : ∃ old, s.conns[present]? = some old ∧ { old with isOpen := false } = c := by
        simpa [SshState.modifyConn, List.getElem?_modify] using hget
      obtain ⟨old, -, rfl⟩ := hclosed
      cases hopen

end Located

namespace Apart

/-- What is taken off a connection, or put on it while it is open. -/
theorem modifyConn (h : s.Apart token) (i : ℕ) {f : Conn → Conn}
    (hopen : ∀ c ∈ s.conns[i]?, (f c).isOpen → c.isOpen)
    (htoAgent : ∀ c ∈ s.conns[i]?, ∀ frame ∈ (f c).toAgent,
      frame ∈ c.toAgent ∨ frame.owner = token)
    (htoHub : ∀ c ∈ s.conns[i]?, ∀ frame ∈ (f c).toHub,
      frame ∈ c.toHub ∨ c.isOpen ∧ frame.owner = token) : (s.modifyConn i f).Apart token := by
  refine
    { h with
      tunnels := fun tunnel hmem conn hconn hup =>
        h.tunnels tunnel hmem conn hconn (up_of_up_modifyConn hopen hup)
      forwarding := fun entry hmem hup =>
        h.forwarding entry hmem (up_of_up_modifyConn hopen hup)
      toAgent := ?_
      toHub := ?_
      answers := ?_
      located := h.located.modifyConn hopen }
  · intro c hc frame hframe
    obtain ⟨conn, hconn⟩ := List.mem_iff_getElem?.mp hc
    rcases get_modifyConn hconn with hold | ⟨rfl, old, hold, rfl⟩
    · exact h.toAgent c (List.mem_of_getElem? hold) frame hframe
    · exact (htoAgent old hold frame hframe).elim
        (h.toAgent old (List.mem_of_getElem? hold) frame) id
  · intro c hc hup frame hframe
    obtain ⟨conn, hconn⟩ := List.mem_iff_getElem?.mp hc
    rcases get_modifyConn hconn with hold | ⟨rfl, old, hold, rfl⟩
    · exact h.toHub c (List.mem_of_getElem? hold) hup frame hframe
    · exact (htoHub old hold frame hframe).elim
        (h.toHub old (List.mem_of_getElem? hold) (hopen old hold hup) frame) And.right
  · intro tunnel hmem conn hbound c hc frame hframe
    rcases get_modifyConn hc with hold | ⟨rfl, old, hold, rfl⟩
    · exact h.answers tunnel hmem conn hbound c hold frame hframe
    · rcases htoHub old hold frame hframe with hthere | ⟨hup, howner⟩
      · exact h.answers tunnel hmem i hbound old hold frame hthere
      · rw [howner, h.tunnels tunnel hmem i hbound (up_iff.mpr ⟨old, hold, hup⟩)]

/-- A change of what `attachAgent` has done with a connection. -/
theorem modifyAttachment (h : s.Apart token) (i : ℕ) (attachment : Attachment) :
    (s.modifyConn i fun c => { c with attachment }).Apart token :=
  h.modifyConn i (fun _ _ => id) (fun _ _ _ hold => Or.inl hold) fun _ _ _ hold => Or.inl hold

theorem sendSSHStream (h : s.Apart token) {frame : Frame} (howner : frame.owner = token) :
    (s.sendSSHStream frame).Apart token := by
  unfold SshState.sendSSHStream
  split
  · exact h
  · refine h.modifyConn _ (fun c _ hup => ?_) (fun c _ old hold => ?_) fun c _ old hold => ?_
    · split at hup
      · assumption
      · exact hup
    · split at hold <;> exact Or.inl hold
    · split at hold
      · rename_i hup
        rcases List.mem_append.mp hold with hold | hnew
        · exact Or.inl hold
        · rw [List.mem_singleton.mp hnew]
          exact Or.inr ⟨hup, howner⟩
      · exact Or.inl hold

theorem deleteStream (h : s.Apart token) (streamID : Uint32) :
    (s.deleteStream streamID).Apart token :=
  { h with
    sshStreams := fun entry hmem => h.sshStreams entry (AssocList.mem_of_mem_delete hmem)
    located := { h.located with } }

theorem closeSocket (h : s.Apart token) (socket : Socket) : (s.closeSocket socket).Apart token :=
  { h with located := { h.located with } }

theorem openStream (h : s.Apart token) {frame : Frame} (howner : frame.owner = token) :
    (s.openStream frame).Apart token := by
  have hdialed : SshState.Apart { s with dialed := s.dialed + 1 } token :=
    { h with located := { h.located with } }
  let socket : Socket := ⟨s.dialed, frame.owner⟩
  have hopened : SshState.Apart
      { s with
        dialed := s.dialed + 1
        sshStreams := AssocList.insert frame.msg.streamID socket s.sshStreams
        readers := s.readers ++ [{ streamID := frame.msg.streamID, socket }] } token :=
    { h with
      sshStreams := by
        intro entry hentry
        rcases AssocList.mem_insert hentry with rfl | hold
        · exact howner
        · exact h.sshStreams entry hold
      readers := by
        intro reader hreader
        rcases List.mem_append.mp hreader with hold | hnew
        · exact h.readers reader hold
        · rw [List.mem_singleton.mp hnew]
          exact howner
      located := { h.located with } }
  unfold SshState.openStream
  dsimp only
  split
  · exact hopened.sendSSHStream howner
  · exact (hdialed.closeSocket _).deleteStream _

theorem handleSSHStream (h : s.Apart token) {frame : Frame} (howner : frame.owner = token)
    (dialOk : Bool) : (s.handleSSHStream frame dialOk).Apart token := by
  rcases SshState.handleSSHStream_cases (s := s) frame dialOk with
    ⟨heq, -⟩ | ⟨-, msg, heq⟩ | ⟨-, -, -, heq⟩ | ⟨socket, hlookup, ⟨-, heq⟩ | heq⟩
  · rwa [heq]
  · rw [heq]
    exact h.sendSSHStream howner
  · rw [heq]
    exact h.openStream howner
  · rw [heq]
    have hsocket := h.sshStreams _ (AssocList.mem_of_lookup hlookup)
    refine { h with written := fun pair hpair => ?_, located := { h.located with } }
    rcases List.mem_cons.mp hpair with rfl | hold
    · exact howner.trans hsocket.symm
    · exact h.written pair hold
  · rw [heq]
    exact (h.deleteStream _).closeSocket _

theorem forwardUserMessage (h : s.Apart token) {sender : ℕ} {msg : SSHStreamMessage}
    (hstep : s.forwardUserMessage sender msg = some s') : s'.Apart token := by
  rcases SshState.forwardUserMessage_cases hstep with rfl | ⟨conn, htunnel, -, rfl⟩
  · exact h
  · refine
      { h with
        forwarding := fun entry hentry hup => ?_
        located := { h.located with forwarding := fun entry hentry => ?_ } }
    · rcases List.mem_cons.mp hentry with rfl | hold
      · exact h.tunnels _ htunnel conn rfl hup
      · exact h.forwarding entry hold hup
    · rcases List.mem_cons.mp hentry with rfl | hold
      · exact h.located.tunnels _ htunnel conn rfl
      · exact h.located.forwarding entry hold

theorem sendStream (h : s.Apart token) {entry : ℕ × Frame} (hstep : s.sendStream entry = some s') :
    s'.Apart token := by
  obtain ⟨hmem, hstep⟩ := Option.ite_none_right_eq_some.mp hstep
  cases hstep
  have herase : SshState.Apart { s with forwarding := s.forwarding.erase entry } token :=
    { h with
      forwarding := fun other hother => h.forwarding other (List.mem_of_mem_erase hother)
      located :=
        { h.located with
          forwarding := fun other hother =>
            h.located.forwarding other (List.mem_of_mem_erase hother) } }
  refine herase.modifyConn _ (fun c _ hup => ?_) (fun c hget frame hframe => ?_)
    fun c _ frame hframe => ?_
  · split at hup
    · assumption
    · exact hup
  · split at hframe
    · rename_i hup
      rcases List.mem_append.mp hframe with hold | hnew
      · exact Or.inl hold
      · rw [List.mem_singleton.mp hnew]
        exact Or.inr (h.forwarding entry hmem (up_iff.mpr ⟨c, hget, hup⟩))
    · exact Or.inl hframe
  · split at hframe <;> exact Or.inl hframe

theorem remove (h : s.Apart token) {ended : ℕ} (hstep : s.remove ended = some s') :
    s'.Apart token := by
  obtain ⟨-, hstep⟩ := Option.ite_none_right_eq_some.mp hstep
  cases hstep
  exact
    { h with
      tunnels := fun tunnel hmem => h.tunnels tunnel (List.mem_of_mem_filter hmem)
      answers := fun tunnel hmem => h.answers tunnel (List.mem_of_mem_filter hmem)
      located :=
        { h.located with
          tunnels := fun tunnel hmem => h.located.tunnels tunnel (List.mem_of_mem_filter hmem) } }

theorem onClose (h : s.Apart token) {ended : ℕ} (hstep : s.onClose ended = some s') :
    s'.Apart token :=
  h.remove (Option.ite_none_left_eq_some.mp hstep).2

theorem revokeSSHLaunch (h : s.Apart token) (revoked : ℕ) :
    (s.revokeSSHLaunch revoked).Apart token := by
  have htaken : SshState.Apart { s with launches := s.launches.filter (· ≠ revoked) } token :=
    { h with located := { h.located with } }
  rcases SshState.revokeSSHLaunch_cases (s := s) revoked with heq | hremove
  · rwa [heq]
  · exact htaken.remove hremove

theorem receive (h : s.Apart token) {conn : ℕ} {dialOk : Bool}
    (hstep : s.receive conn dialOk = some s') : s'.Apart token := by
  obtain ⟨c, frame, rest, hget, hqueue, hnext⟩ := SshState.receive_cases hstep
  have hqueued : ∀ old ∈ c.toAgent, old.owner = token := h.toAgent c (List.mem_of_getElem? hget)
  rw [hqueue] at hqueued
  have hpop : (s.modifyConn conn fun conn => { conn with toAgent := rest }).Apart token := by
    refine h.modifyConn conn (fun _ _ => id) (fun _ _ old hold => ?_) fun _ _ _ hold => Or.inl hold
    exact Or.inr (hqueued old (List.mem_cons_of_mem _ hold))
  rcases hnext with ⟨-, rfl⟩ | ⟨-, rfl⟩
  · exact hpop
  · exact hpop.handleSSHStream (hqueued frame List.mem_cons_self) dialOk

/-- The frame goes to some tunnel bound to the connection, which has answers to that tunnel only. -/
theorem forwardAgentMessage (h : s.Apart token) {conn : ℕ} {candidate : Option ℕ}
    (hstep : s.forwardAgentMessage conn candidate = some s') : s'.Apart token := by
  obtain ⟨c, frame, rest, hget, hqueue, hnext⟩ := SshState.forwardAgentMessage_cases hstep
  have hpop : (s.modifyConn conn fun conn => { conn with toHub := rest }).Apart token := by
    refine h.modifyConn conn (fun _ _ => id) (fun _ _ _ hold => Or.inl hold)
      fun old hold _ hrest => ?_
    obtain rfl : c = old := Option.some.inj (hget.symm.trans hold)
    exact Or.inl (by rw [hqueue]; exact List.mem_cons_of_mem _ hrest)
  rcases hnext with rfl | ⟨receiver, hbound, rfl⟩
  · exact hpop
  · refine { hpop with delivered := fun pair hpair => ?_, located := { hpop.located with } }
    rcases List.mem_cons.mp hpair with rfl | hold
    · exact h.answers _ hbound conn rfl c hget frame (by rw [hqueue]; exact List.mem_cons_self)
    · exact h.delivered pair hold

theorem endReader (h : s.Apart token) {i : ℕ} {reader : StreamReader}
    (hget : s.readers[i]? = some reader) : (s.endReader i reader).Apart token :=
  { h with
    readers := by
      intro other hother
      rcases List.mem_or_eq_of_mem_set hother with hold | rfl
      · exact h.readers other hold
      · exact h.readers reader (List.mem_of_getElem? hget)
    located := { h.located with } }

theorem readData (h : s.Apart token) {i : ℕ} {data : List Uint8}
    (hstep : s.readData i data = some s') : s'.Apart token := by
  obtain ⟨reader, hget, ⟨msg, rfl⟩ | rfl⟩ := SshState.readData_cases hstep
  · exact h.sendSSHStream (h.readers reader (List.mem_of_getElem? hget))
  · exact h.endReader hget

theorem readEnd (h : s.Apart token) {i : ℕ} (hstep : s.readEnd i = some s') : s'.Apart token := by
  obtain ⟨reader, msg, hget, rfl⟩ := SshState.readEnd_cases hstep
  exact (h.endReader hget).sendSSHStream (h.readers reader (List.mem_of_getElem? hget))

theorem readDelete (h : s.Apart token) {i : ℕ} (hstep : s.readDelete i = some s') :
    s'.Apart token := by
  obtain ⟨reader, -, -, rfl⟩ := SshState.readDelete_cases hstep
  have hdone : SshState.Apart { s with readers := s.readers.eraseIdx i } token :=
    { h with
      readers := fun other hother => h.readers other (List.mem_of_mem_eraseIdx hother)
      located := { h.located with } }
  exact hdone.deleteStream _

theorem close (h : s.Apart token) : s.close.Apart token := by
  have hclosed : SshState.Apart
      { s with closed := s.sshStreams.map (·.2.ref) ++ s.closed, sshStreams := [] } token :=
    { h with sshStreams := fun _ hentry => (by cases hentry), located := { h.located with } }
  unfold SshState.close
  dsimp only
  split
  · exact hclosed
  · exact hclosed.modifyConn _ (fun _ _ hup => nomatch hup) (fun _ _ _ hold => Or.inl hold)
      fun _ _ _ hold => Or.inl hold

theorem connect (h : s.Apart token) : s.connect.Apart token := by
  have hclosed := h.close
  have hlength : s.connect.conns.length = s.close.conns.length + 1 := List.length_append
  have hget {conn : ℕ} {c : Conn} (hlt : conn < s.close.conns.length)
      (hc : s.connect.conns[conn]? = some c) : s.close.conns[conn]? = some c := by
    rwa [SshState.connect, List.getElem?_append_left hlt] at hc
  have hdown {conn : ℕ} (hlt : conn < s.close.conns.length) : ¬ s.connect.Up conn := by
    intro hup
    obtain ⟨c, hc, hopen⟩ := up_iff.mp hup
    exact h.located.not_up_close conn (up_iff.mpr ⟨c, hget hlt hc, hopen⟩)
  have hempty {P : Conn → Prop} (hold : ∀ c ∈ s.close.conns, P c) (hnew : P {}) :
      ∀ c ∈ s.connect.conns, P c := by
    intro c hc
    rcases List.mem_append.mp hc with hc | hc
    · exact hold c hc
    · rwa [List.mem_singleton.mp hc]
  refine
    { hclosed with
      tunnels := fun tunnel hmem conn hconn hup =>
        absurd hup (hdown (hclosed.located.tunnels tunnel hmem conn hconn))
      forwarding := fun entry hmem hup =>
        absurd hup (hdown (hclosed.located.forwarding entry hmem))
      toAgent := hempty hclosed.toAgent fun _ hframe => nomatch hframe
      toHub := hempty hclosed.toHub fun _ _ hframe => nomatch hframe
      answers := fun tunnel hmem conn hconn c hc =>
        hclosed.answers tunnel hmem conn hconn c
          (hget (hclosed.located.tunnels tunnel hmem conn hconn) hc)
      located := ?_ }
  refine ⟨fun conn hup => ?_, fun conn hconn => ?_, fun tunnel hmem conn hconn => ?_,
    fun entry hmem => ?_⟩
  · by_cases hlt : conn < s.close.conns.length
    · exact absurd hup (hdown hlt)
    · obtain ⟨c, hc, -⟩ := up_iff.mp hup
      obtain ⟨hle, -⟩ := List.getElem?_eq_some_iff.mp hc
      have heq : conn = s.close.conns.length := by omega
      rw [heq]
      rfl
  · have := hclosed.located.agent conn hconn
    omega
  · have := hclosed.located.tunnels tunnel hmem conn hconn
    omega
  · have := hclosed.located.forwarding entry hmem
    omega

/-! ### Binding -/

/-- A tunnel that is alone where it is bound is from then on the one the agent is there for. -/
theorem adopt (h : s.Apart token) {conn bound : ℕ} (hup : s.Up conn) (hfree : s.Free conn bound) :
    s.Apart bound := by
  have halone := hfree.alone hup
  have hpresent {other : ℕ} (hother : s.Up other) : other = conn :=
    Option.some.inj ((h.located.current other hother).symm.trans (h.located.current conn hup))
  refine
    { h with
      tunnels := fun tunnel hmem other hother hopen => ?_
      forwarding := fun entry hmem hopen => halone.forwarding entry hmem (hpresent hopen)
      toAgent := halone.toAgent
      toHub := fun c hc hopen => ?_
      sshStreams := halone.sshStreams
      readers := halone.readers }
  · exact halone.tunnels tunnel hmem (hpresent hopen ▸ hother)
  · obtain ⟨other, hget⟩ := List.mem_iff_getElem?.mp hc
    obtain rfl := hpresent (up_iff.mpr ⟨c, hget, hopen⟩)
    exact hfree.answers c hget

/-- Tunnels that are bound, each to a connection without answers to others. -/
theorem bind (h : s.Apart token) {tunnels : List Tunnel}
    (hbound : ∀ tunnel ∈ tunnels, ∀ conn ∈ tunnel.agent, tunnel ∈ s.tunnels ∨
      conn < s.conns.length ∧ (s.Up conn → tunnel.token = token) ∧
        ∀ c ∈ s.conns[conn]?, ∀ frame ∈ c.toHub, frame.owner = tunnel.token) :
    SshState.Apart { s with tunnels } token :=
  { h with
    tunnels := fun tunnel hmem conn hconn hup =>
      (hbound tunnel hmem conn hconn).elim (fun hold => h.tunnels tunnel hold conn hconn hup)
        fun hnew => hnew.2.1 hup
    answers := fun tunnel hmem conn hconn =>
      (hbound tunnel hmem conn hconn).elim (fun hold => h.answers tunnel hold conn hconn)
        fun hnew => hnew.2.2
    located :=
      { h.located with
        tunnels := fun tunnel hmem conn hconn =>
          (hbound tunnel hmem conn hconn).elim
            (fun hold => h.located.tunnels tunnel hold conn hconn) And.left } }

end Apart

end SshState

/-- Everything on the agent belongs to one tunnel. -/
def IsolationInv (s : SshState) : Prop :=
  ∃ token, s.Apart token

section Step

variable {s s' : SshState}

/-- Whichever tunnel the agent is there for after one was bound to a connection. -/
theorem SshState.Free.owner {conn bound : ℕ} (hfree : s.Free conn bound) (h : IsolationInv s) :
    ∃ token, s.Apart token ∧ (s.Up conn → bound = token) := by
  obtain ⟨old, h⟩ := h
  by_cases hup : s.Up conn
  · exact ⟨bound, h.adopt hup hfree, fun _ => rfl⟩
  · exact ⟨old, h, fun hopen => absurd hopen hup⟩

theorem IsolationInv.connectUser (h : IsolationInv s) {token : ℕ}
    (hguard : ∀ conn ∈ s.agent, s.Free conn token)
    (hstep : s.connectUser token = some s') : IsolationInv s' := by
  obtain ⟨-, hstep⟩ := Option.ite_none_right_eq_some.mp hstep
  cases hstep
  obtain ⟨owner, hapart, howner⟩ : ∃ owner, s.Apart owner ∧
      ∀ conn ∈ s.agent, s.Up conn → token = owner := by
    cases hagent : s.agent with
    | none =>
        obtain ⟨old, h⟩ := h
        exact ⟨old, h, fun _ hconn => by cases hconn⟩
    | some present =>
        obtain ⟨owner, hapart, howner⟩ := (hguard present hagent).owner h
        refine ⟨owner, hapart, fun conn hconn => ?_⟩
        rwa [← Option.some.inj hconn]
  have htaken : SshState.Apart { s with launches := s.launches.filter (· ≠ token) } owner :=
    { hapart with located := { hapart.located with } }
  refine ⟨owner, htaken.bind fun tunnel hmem conn hconn => ?_⟩
  rcases List.mem_cons.mp hmem with rfl | hold
  · exact Or.inr ⟨hapart.located.agent conn hconn, howner conn hconn, (hguard conn hconn).answers⟩
  · exact Or.inl hold

theorem IsolationInv.attachWaiting (h : IsolationInv s) {conn : ℕ} {waiting : Option ℕ}
    (hguard : ∀ token ∈ waiting, s.Free conn token)
    (hstep : s.attachWaiting conn waiting = some s') : IsolationInv s' := by
  obtain ⟨c, hget, ⟨-, rfl⟩ | ⟨token, rfl, rfl⟩⟩ := SshState.attachWaiting_cases hstep
  · obtain ⟨old, h⟩ := h
    exact ⟨old, h.modifyAttachment conn _⟩
  · have hfree := hguard token rfl
    obtain ⟨owner, hapart, howner⟩ := hfree.owner h
    have hattached : SshState.Apart
        { s with
          tunnels := s.tunnels.map fun tunnel =>
            if tunnel.token = token then { tunnel with agent := some conn } else tunnel }
        owner := by
      refine hapart.bind fun tunnel hmem other hother => ?_
      obtain ⟨old, hold, rfl⟩ := List.mem_map.mp hmem
      by_cases heq : old.token = token
      · rw [if_pos heq] at hother ⊢
        obtain rfl := Option.some.inj hother
        obtain ⟨hlt, -⟩ := List.getElem?_eq_some_iff.mp hget
        exact Or.inr ⟨hlt, fun hup => heq.trans (howner hup), heq.symm ▸ hfree.answers⟩
      · rw [if_neg heq]
        exact Or.inl hold
    exact ⟨owner, hattached.modifyAttachment conn _⟩

theorem SshState.Apart.step {token : ℕ} {e : SshEvent} (h : s.Apart token)
    (hconnect : ∀ bound, e ≠ .connectUser bound)
    (hattach : ∀ conn waiting, e ≠ .attachWaiting conn waiting) (hstep : s.step e = some s') :
    s'.Apart token := by
  cases e with
  | create =>
      cases hstep
      exact { h with located := { h.located with } }
  | connectUser bound => exact absurd rfl (hconnect bound)
  | userFrame sender msg => exact h.forwardUserMessage hstep
  | sendStream entry => exact h.sendStream hstep
  | userClosed ended => exact h.onClose hstep
  | expire ended => exact h.remove hstep
  | revoke revoked =>
      cases hstep
      exact h.revokeSSHLaunch revoked
  | attachAgent conn =>
      obtain ⟨hupgraded, hstep⟩ := Option.ite_none_right_eq_some.mp hstep
      cases hstep
      obtain ⟨c, hget, -⟩ := Option.map_eq_some_iff.mp hupgraded
      obtain ⟨hlt, -⟩ := List.getElem?_eq_some_iff.mp hget
      have hagent : SshState.Apart { s with agent := some conn } token :=
        { h with
          located :=
            { h.located with
              agent := fun other hother => by
                obtain rfl := Option.some.inj hother
                exact hlt } }
      exact hagent.modifyAttachment conn _
  | setStreamHandler conn =>
      obtain ⟨-, hstep⟩ := Option.ite_none_right_eq_some.mp hstep
      cases hstep
      exact h.modifyAttachment conn _
  | attachWaiting conn waiting => exact absurd rfl (hattach conn waiting)
  | agentFrame conn candidate => exact h.forwardAgentMessage hstep
  | close =>
      cases hstep
      exact h.close
  | connect =>
      cases hstep
      exact h.connect
  | connectionLost conn =>
      cases hstep
      exact h.modifyConn conn (fun _ _ hup => nomatch hup) (fun _ _ _ hold => Or.inl hold)
        fun _ _ _ hold => Or.inl hold
  | lose conn =>
      obtain ⟨-, hstep⟩ := Option.ite_none_right_eq_some.mp hstep
      cases hstep
      exact h.modifyConn conn (fun _ _ => id) (fun _ _ _ hframe => nomatch hframe)
        fun _ _ _ hframe => nomatch hframe
  | receive conn dialOk => exact h.receive hstep
  | readData i data => exact h.readData hstep
  | readEnd i => exact h.readEnd hstep
  | readDelete i => exact h.readDelete hstep

theorem IsolationInv.step {e : SshEvent} (h : IsolationInv s) (hguard : IsolationGuard s e)
    (hstep : s.step e = some s') : IsolationInv s' := by
  cases e with
  | connectUser token => exact h.connectUser hguard hstep
  | attachWaiting conn waiting =>
      refine h.attachWaiting (fun token htoken => ?_) hstep
      cases htoken
      exact hguard
  | _ =>
      obtain ⟨token, h⟩ := h
      exact ⟨token, h.step (fun _ heq => by cases heq) (fun _ _ heq => by cases heq) hstep⟩

end Step

theorem isolationInv_init : IsolationInv {} :=
  ⟨0, ⟨by simp, by simp⟩, by simp, by simp, by simp, by simp, by simp, by simp, by simp,
    fun conn hup => by simp [SshState.Up] at hup, by simp, by simp, by simp⟩

/-- **Isolation of tunnels.** In every run of all systems in which a tunnel is bound to a connection
only when nothing of another is left there, every frame goes to its own tunnel. -/
theorem isolated_of_guarded {s : String → SshState} {events : List (String × SshEvent)}
    (hrun : Guarded (each SshState.step) (fun s e => IsolationGuard (s e.1) e.2) (fun _ => {})
      events s) (systemId : String) : (s systemId).Isolated := by
  obtain ⟨_, hone⟩ := hrun.component systemId
  obtain ⟨_, h⟩ := hone.invariant (fun _ _ _ h => h.step) isolationInv_init
  exact h.toIsolated

/-- A frame of a user, all the way to the agent. -/
def userSends (token conn : ℕ) (msg : SSHStreamMessage) : List SshEvent :=
  [.userFrame token msg, .sendStream (conn, ⟨msg, token⟩), .receive conn true]

/-- The agent connects, and the hub attaches it. -/
def agentConnects (conn : ℕ) (waiting : Option ℕ) : List SshEvent :=
  [.connect, .attachAgent conn, .setStreamHandler conn, .attachWaiting conn waiting]

/-- A user opens a stream and sends a byte; the agent answers. -/
def oneExchange (token conn : ℕ) (byte : Uint8) : List SshEvent :=
  userSends token conn (connectorFrame sshStreamOpen []) ++ [.agentFrame conn (some token)] ++
    userSends token conn (connectorFrame sshStreamData [byte]) ++
    [.readData 0 [byte], .agentFrame conn (some token)]

/-- A tunnel that waits for the agent carries data until the agent connects anew. It stays bound to
the connection that is gone, where its user goes on sending, while a second one carries data over
the new connection. -/
def oneAfterAnother : List SshEvent :=
  [.create, .create, .connectUser 0] ++ agentConnects 0 (some 0) ++ oneExchange 0 0 42 ++
    agentConnects 1 none ++ [.readEnd 0, .readDelete 0, .agentFrame 1 none, .connectUser 1] ++
    oneExchange 1 1 43 ++
    [.userFrame 0 (connectorFrame sshStreamData [44]),
      .sendStream (0, ⟨connectorFrame sshStreamData [44], 0⟩)] ++
    userSends 1 1 (connectorFrame sshStreamData [45])

theorem isolated_oneAfterAnother :
    ∃ s, Guarded (each SshState.step) (fun s e => IsolationGuard (s e.1) e.2) (fun _ => {})
        (oneAfterAnother.map (Prod.mk "web")) s ∧
      (s "web").tunnels = [⟨1, some 1⟩, ⟨0, some 0⟩] ∧
      (s "web").delivered = [(1, 1), (1, 1), (0, 0), (0, 0)] ∧
      (s "web").written = [(1, 1), (1, 1), (0, 0)] ∧ (s "web").Isolated := by
  have hcheck : ∃ s, check SshState.step IsolationGuard {} oneAfterAnother = some s ∧
      s.tunnels = [⟨1, some 1⟩, ⟨0, some 0⟩] ∧
      s.delivered = [(1, 1), (1, 1), (0, 0), (0, 0)] ∧ s.written = [(1, 1), (1, 1), (0, 0)] :=
    ⟨_, rfl, rfl, rfl, rfl⟩
  obtain ⟨s, hcheck, htunnels, hdelivered, hwritten⟩ := hcheck
  have hrun := (guarded_of_check hcheck).each (fun _ : String => ({} : SshState)) "web"
  exact ⟨_, hrun, by simpa using htunnels, by simpa using hdelivered, by simpa using hwritten,
    isolated_of_guarded hrun "web"⟩

def twoTunnels : List SshEvent :=
  [.create, .create] ++ agentConnects 0 none ++ [.connectUser 0, .connectUser 1] ++
    userSends 0 0 (connectorFrame sshStreamOpen []) ++
    userSends 1 0 (connectorFrame sshStreamOpen []) ++
    userSends 0 0 (connectorFrame sshStreamData [42])

/-- It is written to the socket of the second. -/
theorem not_isolated_twoTunnels :
    ∃ s, run (each SshState.step) (fun _ => {}) (twoTunnels.map (Prod.mk "web")) = some s ∧
      (0, 1) ∈ (s "web").written ∧ ¬ (s "web").Isolated := by
  have hone : ∃ s, run SshState.step {} twoTunnels = some s ∧ (0, 1) ∈ s.written ∧ ¬ s.Isolated :=
    ⟨_, rfl, by decide +kernel, by decide +kernel⟩
  obtain ⟨s, hone, hwritten, hisolated⟩ := hone
  have hrun := run_each (fun _ : String => ({} : SshState)) "web" hone
  exact ⟨_, hrun, by simpa using hwritten, by simpa using hisolated⟩

end Picket
