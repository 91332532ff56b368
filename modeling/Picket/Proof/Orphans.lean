import Picket.Lib.Transition
import Picket.Proof.Pipeline
import Picket.Proof.Rebinding
import Picket.Proof.SshSteps
import Picket.Proof.StreamTable
import Picket.Proof.TunnelLedger

/-!
# Sockets of tunnels that ended

The hub tells the agent nothing when a tunnel ends. A socket is closed in time only if its user has
closed the stream before, and if the agent can still find the socket under its stream id by then.
What the users have sent is kept beside the state; the hub drops some of it.
-/

namespace Picket

open Transition

namespace SshState

/-- The agent has the socket, in its table or in a reader, and it is not closed. -/
def Holds (s : SshState) (socket : Socket) : Prop :=
  ((∃ entry ∈ s.sshStreams, entry.2 = socket) ∨ ∃ reader ∈ s.readers, reader.socket = socket) ∧
    socket.ref ∉ s.closed

def Settled (s : SshState) : Prop :=
  s.forwarding = [] ∧ ∀ conn ∈ s.conns, conn.toAgent = []

structure NoOrphans (s : SshState) : Prop where
  /-- Whatever a tunnel that ended has opened was closed by a later frame. -/
  closers : ∀ token ∈ s.ended, ∀ streamID, leftOpen token streamID false s.forwarded = false
  sockets : s.Settled → ∀ socket, s.Holds socket →
    ∃ tunnel ∈ s.tunnels, tunnel.token = socket.owner

end SshState

/-- The first connection of the agent stays up. -/
def StaysUp (s : SshState) : SshEvent → Prop
  | .connect => s.conns = []
  | .close | .connectionLost _ => False
  | _ => True

instance (s : SshState) (e : SshEvent) : Decidable (StaysUp s e) := by
  apply @SshEvent.casesOn (fun e => Decidable (StaysUp s e)) e <;> intros <;> unfold StaysUp <;>
    infer_instance

/-- The agent finds under a stream id the socket it means. -/
def FindsOwn (s : SshState) : SshEvent → Prop
  -- a stream is opened under an id that is free
  | .receive conn dialOk =>
      ∀ c ∈ s.conns[conn]?, ∀ frame ∈ c.toAgent.head?, frame.msg.magic = sshStreamMagic →
        frame.msg.type = sshStreamOpen → s.sshStreams.length < 2 → dialOk →
          s.sshStreams.lookup frame.msg.streamID = none
  -- a reader deletes its own entry at most
  | .readDelete i =>
      ∀ reader ∈ s.readers[i]?, ∀ socket ∈ s.sshStreams.lookup reader.streamID,
        socket = reader.socket
  | _ => True

instance (s : SshState) (e : SshEvent) : Decidable (FindsOwn s e) := by
  apply @SshEvent.casesOn (fun e => Decidable (FindsOwn s e)) e <;> intros <;>
    unfold FindsOwn <;> infer_instance

/-! ### What the users have sent -/

/-- A state and the frames that users have sent up to then, whether or not there was a tunnel to
forward them. -/
structure SshHistory where
  state : SshState := {}
  userFrames : List Frame := []

def SshEvent.userFrames : SshEvent → List Frame
  | .userFrame token msg => [⟨msg, token⟩]
  | _ => []

theorem SshEvent.userFrames_of_ne {e : SshEvent} (huser : ∀ token msg, e ≠ .userFrame token msg) :
    e.userFrames = [] := by
  cases e with
  | userFrame token msg => exact absurd rfl (huser token msg)
  | _ => rfl

/-- The tunnel that ends. -/
def SshEvent.ends : SshEvent → Option ℕ
  | .userClosed token | .expire token | .revoke token => some token
  | _ => none

def SshHistory.step (h : SshHistory) (e : SshEvent) : Option SshHistory :=
  (h.state.step e).map fun state => ⟨state, h.userFrames ++ e.userFrames⟩

/-- A tunnel that is bound to a connection ends only after its user has sent an EOF or close frame
for every stream it opened. -/
def ClosedByUser (h : SshHistory) (e : SshEvent) : Prop :=
  ∀ token ∈ e.ends, ∀ tunnel ∈ h.state.tunnels, tunnel.token = token → tunnel.agent ≠ none →
    ∀ frame ∈ h.userFrames, leftOpen token frame.msg.streamID false h.userFrames = false

instance (h : SshHistory) (e : SshEvent) : Decidable (ClosedByUser h e) :=
  inferInstanceAs (Decidable (∀ token ∈ e.ends, _))

def OrphanGuard (h : SshHistory) (e : SshEvent) : Prop :=
  StaysUp h.state e ∧ FindsOwn h.state e ∧ ClosedByUser h e

instance (h : SshHistory) (e : SshEvent) : Decidable (OrphanGuard h e) :=
  inferInstanceAs (Decidable (_ ∧ _ ∧ _))

/-! ### The invariant -/

/-- What is known of a state, and what the agent will have made of the frames on their way; those in
`front` were taken from their connection and not handled yet. -/
structure OrphanInv (front : List Frame) (s : SshState) : Prop where
  ledger : Ledger s.launches s.created s.tunnels s.ended s.forwarded
  wired : Wired s.conns s.agent s.tunnels s.forwarding
  table : StreamTable s.readers s.closed s.sshStreams
  single : s.forwarding.Pairwise (·.2.owner ≠ ·.2.owner)
  pipe : ∀ token streamID, leftOpen token streamID (held s.readers s.closed token streamID)
    (front ++ pipeline s.conns s.forwarding) → leftOpen token streamID false s.forwarded

/-- A tunnel has left nothing open, if it is there. -/
def SshState.Closed (s : SshState) (token : ℕ) : Prop :=
  (∃ tunnel ∈ s.tunnels, tunnel.token = token) →
    ∀ frame ∈ s.forwarded, leftOpen token frame.msg.streamID false s.forwarded = false

namespace OrphanInv

variable {front : List Frame} {s s' : SshState}

theorem modifyConn (h : OrphanInv front s) (conn : ℕ) {f : Conn → Conn}
    (hopen : ∀ conn, (f conn).isOpen = conn.isOpen)
    (hsame : ∀ conn, (f conn).toAgent = conn.toAgent) : OrphanInv front (s.modifyConn conn f) :=
  { h with
    wired := h.wired.modify conn hopen
    pipe := by
      intro token streamID hpipe
      rw [SshState.modifyConn, pipeline_modify conn hsame] at hpipe
      exact h.pipe token streamID hpipe }

theorem sendSSHStream (h : OrphanInv front s) (frame : Frame) :
    OrphanInv front (s.sendSSHStream frame) := by
  unfold SshState.sendSSHStream
  split
  · exact h
  · refine h.modifyConn _ (fun conn => ?_) fun conn => ?_ <;> split <;> rfl

theorem forwardUserMessage (h : OrphanInv [] s) {token : ℕ} {msg : SSHStreamMessage}
    (hstep : s.forwardUserMessage token msg = some s') : OrphanInv [] s' := by
  rcases SshState.forwardUserMessage_cases hstep with rfl | ⟨conn, htunnel, hnone, rfl⟩
  · exact h
  · refine
      { h with
        ledger := h.ledger.forward htunnel msg
        wired := { h.wired with sent := ?_ }
        single := List.pairwise_cons.mpr ⟨fun entry hmem => (hnone entry hmem).symm, h.single⟩
        pipe := ?_ }
    · intro entry hentry
      rcases List.mem_cons.mp hentry with rfl | hold
      · exact h.wired.bound _ htunnel conn rfl
      · exact h.wired.sent entry hold
    · intro token streamID hpipe
      rw [List.nil_append, leftOpen_congr (filter_pipeline_cons hnone token),
        leftOpen_append] at hpipe
      rw [leftOpen_append]
      exact leftOpen_mono (h.pipe token streamID) hpipe

theorem sendStream (h : OrphanInv [] s) {entry : ℕ × Frame}
    (hstep : s.sendStream entry = some s') : OrphanInv [] s' := by
  obtain ⟨hmem, hstep⟩ := Option.ite_none_right_eq_some.mp hstep
  cases hstep
  have hwired : Wired s.conns s.agent s.tunnels (s.forwarding.erase entry) :=
    { h.wired with sent := fun other hother => h.wired.sent other (List.mem_of_mem_erase hother) }
  refine
    { h with
      wired := hwired.modify _ fun conn => by split <;> rfl
      single := h.single.sublist List.erase_sublist
      pipe := ?_ }
  intro token streamID hpipe
  obtain ⟨hzero, c, hconns, hopen⟩ := h.wired.eq_singleton (h.wired.sent entry hmem)
  have hsent : (s.conns.modify entry.1 fun conn =>
      if conn.isOpen then { conn with toAgent := conn.toAgent ++ [entry.2] } else conn)
      = [{ c with toAgent := c.toAgent ++ [entry.2] }] := by
    rw [hconns, hzero, List.modify_zero_cons, if_pos hopen]
  rw [List.nil_append, SshState.modifyConn, hsent,
    leftOpen_congr (filter_pipeline_send hmem h.single token), ← hconns] at hpipe
  exact h.pipe token streamID hpipe

theorem remove (h : OrphanInv front s) {token : ℕ} (hclosed : s.Closed token)
    (hstep : s.remove token = some s') : OrphanInv front s' := by
  obtain ⟨hlive, hstep⟩ := Option.ite_none_right_eq_some.mp hstep
  cases hstep
  exact
    { h with
      ledger := h.ledger.remove hlive (hclosed hlive)
      wired :=
        { h.wired with
          bound := fun tunnel hmem => h.wired.bound tunnel (List.mem_of_mem_filter hmem) } }

theorem onClose (h : OrphanInv front s) {token : ℕ} (hclosed : s.Closed token)
    (hstep : s.onClose token = some s') : OrphanInv front s' :=
  h.remove hclosed (Option.ite_none_left_eq_some.mp hstep).2

theorem revokeSSHLaunch (h : OrphanInv front s) {token : ℕ} (hclosed : s.Closed token) :
    OrphanInv front (s.revokeSSHLaunch token) := by
  have htaken : OrphanInv front { s with launches := s.launches.filter (· ≠ token) } :=
    { h with ledger := h.ledger.take token }
  rcases SshState.revokeSSHLaunch_cases (s := s) token with heq | hremove
  · rwa [heq]
  · exact htaken.remove hclosed hremove

/-- Sockets that are closed and readers that are done are no matter to what is on its way. -/
theorem release (h : OrphanInv front s) {readers : List StreamReader} {closed : List ℕ}
    {sshStreams : List (Uint32 × Socket)} (htable : StreamTable readers closed sshStreams)
    (hheld : ∀ token streamID, held readers closed token streamID →
      held s.readers s.closed token streamID) :
    OrphanInv front { s with readers, closed, sshStreams } :=
  { h with
    table := htable
    pipe := fun token streamID hpipe =>
      h.pipe token streamID (leftOpen_mono (hheld token streamID) hpipe) }

/-- So is the frame that the agent handles next, if it does what the frame says. -/
theorem handled {frame : Frame} (h : OrphanInv [frame] s) {readers : List StreamReader}
    {closed : List ℕ} {sshStreams : List (Uint32 × Socket)} {dialed : ℕ} {written : List (ℕ × ℕ)}
    (htable : StreamTable readers closed sshStreams)
    (hheld : ∀ token streamID, held readers closed token streamID →
      frame.track token streamID (held s.readers s.closed token streamID)) :
    OrphanInv [] { s with readers, closed, sshStreams, dialed, written } :=
  { h with
    table := htable
    pipe := fun token streamID hpipe =>
      h.pipe token streamID (leftOpen_mono (hheld token streamID) hpipe) }

/-- A frame that the agent does not act on, or that does not close a socket which it has. -/
theorem skip {frame : Frame} (h : OrphanInv [frame] s)
    (hkeep : frame.msg.magic = sshStreamMagic → s.sshStreams.lookup frame.msg.streamID ≠ none →
      ¬(frame.msg.type = sshStreamEOF ∨ frame.msg.type = sshStreamClose)) : OrphanInv [] s := by
  refine h.handled h.table fun token streamID hheld => ?_
  rw [hheld]
  refine track_of_open fun hid hmagic => hkeep hmagic fun hnone => ?_
  obtain ⟨reader, hmem, -, hreader, hopen⟩ := held_iff.mp hheld
  obtain ⟨-, hlookup⟩ := h.table.found reader hmem hopen
  rw [hreader, ← hid, hnone] at hlookup
  cases hlookup

theorem openStream {frame : Frame} (h : OrphanInv [frame] s)
    (hmagic : frame.msg.magic = sshStreamMagic) (htype : frame.msg.type = sshStreamOpen)
    (hfree : s.sshStreams.lookup frame.msg.streamID = none) :
    OrphanInv [] (s.openStream frame) := by
  have hkept : ∀ token streamID, held s.readers s.closed token streamID →
      frame.track token streamID (held s.readers s.closed token streamID) := by
    intro token streamID hheld
    rw [hheld]
    exact track_of_open fun _ _ => by rw [htype]; decide
  unfold SshState.openStream
  dsimp only
  split
  · refine OrphanInv.sendSSHStream ?_ _
    refine h.handled (h.table.insert hfree) fun token streamID hheld => ?_
    obtain ⟨reader, hmem, howner, hid, hopen⟩ := held_iff.mp hheld
    rcases List.mem_append.mp hmem with hold | hnew
    · exact hkept token streamID (held_iff.mpr ⟨reader, hold, howner, hid, hopen⟩)
    · obtain rfl := List.mem_singleton.mp hnew
      rw [Frame.track, if_pos ⟨howner, hid, hmagic⟩, if_pos htype]
  · -- the new socket is closed again
    refine h.handled ((h.table.close [s.dialed]).delete fun reader hmem hopen heq => ?_) ?_
    · obtain ⟨-, hlookup⟩ := h.table.found reader hmem fun hclosed =>
        hopen (List.mem_cons_of_mem _ hclosed)
      rw [heq, hfree] at hlookup
      cases hlookup
    · intro token streamID hheld
      exact hkept token streamID (held_mono (fun reader hmem _ => ⟨reader, hmem, rfl, rfl⟩)
        (fun _ => List.mem_cons_of_mem s.dialed) hheld)

theorem closeStream {frame : Frame} (h : OrphanInv [frame] s) {socket : Socket}
    (hlookup : s.sshStreams.lookup frame.msg.streamID = some socket) :
    OrphanInv [] ((s.deleteStream frame.msg.streamID).closeSocket socket) := by
  have hclosed := h.table.closed_of_lookup hlookup
  refine h.handled ((h.table.close [socket.ref]).delete hclosed) fun token streamID hheld => ?_
  obtain ⟨reader, hmem, howner, hid, hopen⟩ := held_iff.mp hheld
  have hheld : held s.readers s.closed token streamID :=
    held_iff.mpr ⟨reader, hmem, howner, hid, fun hold => hopen (List.mem_cons_of_mem _ hold)⟩
  unfold Frame.track
  rw [if_neg fun heq => hclosed reader hmem hopen (hid.trans heq.2.1.symm), hheld]

theorem handleSSHStream {frame : Frame} (h : OrphanInv [frame] s) {dialOk : Bool}
    (hmagic : frame.msg.magic = sshStreamMagic)
    (hfree : frame.msg.type = sshStreamOpen → s.sshStreams.length < 2 → dialOk →
      s.sshStreams.lookup frame.msg.streamID = none) :
    OrphanInv [] (s.handleSSHStream frame dialOk) := by
  rcases SshState.handleSSHStream_cases (s := s) frame dialOk with
    ⟨heq, hnone⟩ | ⟨htype, msg, heq⟩ | ⟨htype, hroom, hdial, heq⟩ |
      ⟨socket, hlookup, ⟨htype, heq⟩ | heq⟩
  · rw [heq]
    exact h.skip fun _ hsome hclose => hsome (hnone hclose)
  · rw [heq]
    have hskip : OrphanInv [] s := h.skip fun _ _ => by rw [htype]; decide
    exact hskip.sendSSHStream _
  · rw [heq]
    exact h.openStream hmagic htype (hfree htype hroom hdial)
  · rw [heq]
    have hskip : OrphanInv [] s := h.skip fun _ _ => by rw [htype]; decide
    exact { hskip with }
  · rw [heq]
    exact h.closeStream hlookup

theorem receive (h : OrphanInv [] s) {conn : ℕ} {dialOk : Bool}
    (hfree : ∀ c ∈ s.conns[conn]?, ∀ frame ∈ c.toAgent.head?, frame.msg.magic = sshStreamMagic →
      frame.msg.type = sshStreamOpen → s.sshStreams.length < 2 → dialOk →
        s.sshStreams.lookup frame.msg.streamID = none)
    (hstep : s.receive conn dialOk = some s') : OrphanInv [] s' := by
  obtain ⟨c, frame, rest, hget, hqueue, hnext⟩ := SshState.receive_cases hstep
  have hpop : OrphanInv [frame] (s.modifyConn conn fun conn => { conn with toAgent := rest }) := by
    refine { h with wired := h.wired.modify conn fun _ => rfl, pipe := ?_ }
    intro token streamID hpipe
    refine h.pipe token streamID ?_
    obtain ⟨hlt, -⟩ := List.getElem?_eq_some_iff.mp hget
    obtain ⟨rfl, c', hconns, -⟩ := h.wired.eq_singleton hlt
    obtain rfl : c' = c := by simpa [hconns] using hget
    simpa [SshState.modifyConn, pipeline, hconns, hqueue] using hpipe
  rcases hnext with ⟨hmagic, rfl⟩ | ⟨hmagic, rfl⟩
  · exact hpop.skip fun heq => absurd heq hmagic
  · exact hpop.handleSSHStream hmagic (hfree c hget frame (by rw [hqueue]; rfl) hmagic)

theorem endReader (h : OrphanInv front s) {i : ℕ} {reader : StreamReader}
    (hget : s.readers[i]? = some reader) : OrphanInv front (s.endReader i reader) := by
  refine h.release (h.table.ending hget) fun token streamID => ?_
  refine held_mono (fun other hmem _ => ?_) fun _ => List.mem_cons_of_mem _
  rcases List.mem_or_eq_of_mem_set hmem with hold | rfl
  · exact ⟨other, hold, rfl, rfl⟩
  · exact ⟨reader, List.mem_of_getElem? hget, rfl, rfl⟩

theorem readData (h : OrphanInv front s) {i : ℕ} {data : List Uint8}
    (hstep : s.readData i data = some s') : OrphanInv front s' := by
  obtain ⟨reader, hget, ⟨msg, rfl⟩ | rfl⟩ := SshState.readData_cases hstep
  · exact h.sendSSHStream _
  · exact h.endReader hget

theorem readEnd (h : OrphanInv front s) {i : ℕ} (hstep : s.readEnd i = some s') :
    OrphanInv front s' := by
  obtain ⟨reader, msg, hget, rfl⟩ := SshState.readEnd_cases hstep
  exact (h.endReader hget).sendSSHStream _

theorem readDelete (h : OrphanInv front s) {i : ℕ}
    (hown : ∀ reader ∈ s.readers[i]?, ∀ socket ∈ s.sshStreams.lookup reader.streamID,
      socket = reader.socket)
    (hstep : s.readDelete i = some s') : OrphanInv front s' := by
  obtain ⟨reader, hget, hending, rfl⟩ := SshState.readDelete_cases hstep
  refine h.release (h.table.done hget hending (hown reader hget)) fun token streamID => ?_
  refine held_mono (fun other hmem _ => ?_) fun _ => id
  exact ⟨other, List.mem_of_mem_eraseIdx hmem, rfl, rfl⟩

theorem connect (h : OrphanInv [] s) (hfirst : s.conns = []) : OrphanInv [] s.connect := by
  have hclosed : OrphanInv []
      { s with
        readers := s.readers
        closed := s.sshStreams.map (·.2.ref) ++ s.closed
        sshStreams := [] } :=
    h.release h.table.clear fun token streamID =>
      held_mono (fun reader hmem _ => ⟨reader, hmem, rfl, rfl⟩) fun _ => List.mem_append_right _
  have hnobody : ∀ conn, ¬conn < s.conns.length := by simp [hfirst]
  have hconnect : s.connect =
      { s with
        closed := s.sshStreams.map (·.2.ref) ++ s.closed
        sshStreams := []
        conns := [{}]
        conn := some 0 } := by
    unfold SshState.connect SshState.close
    dsimp only
    split <;> simp [SshState.modifyConn, hfirst]
  rw [hconnect]
  refine { hclosed with wired := ?_, pipe := ?_ }
  · exact
      { one := Nat.le_refl 1
        up := fun conn hmem => by rw [List.mem_singleton.mp hmem]
        attached := fun conn hconn => absurd (h.wired.attached conn hconn) (hnobody conn)
        bound := fun tunnel hmem conn hconn =>
          absurd (h.wired.bound tunnel hmem conn hconn) (hnobody conn)
        sent := fun entry hmem => absurd (h.wired.sent entry hmem) (hnobody _) }
  · intro token streamID hpipe
    refine hclosed.pipe token streamID ?_
    simpa [pipeline, hfirst] using hpipe

theorem attachAgent (h : OrphanInv front s) {conn : ℕ} (hstep : s.attachAgent conn = some s') :
    OrphanInv front s' := by
  obtain ⟨hupgraded, hstep⟩ := Option.ite_none_right_eq_some.mp hstep
  cases hstep
  obtain ⟨c, hget, -⟩ := Option.map_eq_some_iff.mp hupgraded
  obtain ⟨hlt, -⟩ := List.getElem?_eq_some_iff.mp hget
  have hagent : OrphanInv front { s with agent := some conn } :=
    { h with
      wired :=
        { h.wired with
          attached := fun other hother => by
            cases hother
            exact hlt } }
  exact hagent.modifyConn conn (fun _ => rfl) fun _ => rfl

theorem setStreamHandler (h : OrphanInv front s) {conn : ℕ}
    (hstep : s.setStreamHandler conn = some s') : OrphanInv front s' := by
  obtain ⟨-, hstep⟩ := Option.ite_none_right_eq_some.mp hstep
  cases hstep
  exact h.modifyConn conn (fun _ => rfl) fun _ => rfl

theorem attachWaiting (h : OrphanInv front s) {conn : ℕ} {waiting : Option ℕ}
    (hstep : s.attachWaiting conn waiting = some s') : OrphanInv front s' := by
  have hattached := h.modifyConn conn (f := fun conn => { conn with attachment := .attached })
    (fun _ => rfl) fun _ => rfl
  obtain ⟨c, hget, ⟨-, rfl⟩ | ⟨token, -, rfl⟩⟩ := SshState.attachWaiting_cases hstep
  · exact hattached
  · refine { hattached with ledger := h.ledger.bind _ fun tunnel => ?_, wired := ?_ }
    · split <;> rfl
    · refine { hattached.wired with bound := fun tunnel hmem other hother => ?_ }
      obtain ⟨old, hold, rfl⟩ := List.mem_map.mp hmem
      split at hother
      · cases hother
        obtain ⟨hlt, -⟩ := List.getElem?_eq_some_iff.mp hget
        rw [SshState.modifyConn, List.length_modify]
        exact hlt
      · exact hattached.wired.bound old hold other hother

theorem forwardAgentMessage (h : OrphanInv front s) {conn : ℕ} {candidate : Option ℕ}
    (hstep : s.forwardAgentMessage conn candidate = some s') : OrphanInv front s' := by
  obtain ⟨c, frame, rest, -, -, hnext⟩ := SshState.forwardAgentMessage_cases hstep
  have hpop := h.modifyConn conn (f := fun conn => { conn with toHub := rest })
    (fun _ => rfl) fun _ => rfl
  rcases hnext with rfl | ⟨token, -, rfl⟩
  · exact hpop
  · exact { hpop with }

theorem step (h : OrphanInv [] s) {e : SshEvent} (hup : StaysUp s e) (hfinds : FindsOwn s e)
    (hclosed : ∀ token ∈ e.ends, s.Closed token) (hstep : s.step e = some s') :
    OrphanInv [] s' := by
  cases e with
  | create =>
      cases hstep
      exact { h with ledger := h.ledger.create }
  | connectUser token =>
      obtain ⟨hlaunch, hstep⟩ := Option.ite_none_right_eq_some.mp hstep
      cases hstep
      refine { h with ledger := h.ledger.connectUser hlaunch s.agent, wired := ?_ }
      refine { h.wired with bound := fun tunnel hmem conn hconn => ?_ }
      rcases List.mem_cons.mp hmem with rfl | hold
      · exact h.wired.attached conn hconn
      · exact h.wired.bound tunnel hold conn hconn
  | userFrame token msg => exact h.forwardUserMessage hstep
  | sendStream entry => exact h.sendStream hstep
  | userClosed token => exact h.onClose (hclosed token rfl) hstep
  | expire token => exact h.remove (hclosed token rfl) hstep
  | revoke token =>
      cases hstep
      exact h.revokeSSHLaunch (hclosed token rfl)
  | attachAgent conn => exact h.attachAgent hstep
  | setStreamHandler conn => exact h.setStreamHandler hstep
  | attachWaiting conn waiting => exact h.attachWaiting hstep
  | agentFrame conn candidate => exact h.forwardAgentMessage hstep
  | connect =>
      cases hstep
      exact h.connect hup
  | close => exact hup.elim
  | connectionLost conn => exact hup.elim
  | lose conn =>
      -- what is under way is lost on a closed connection only
      obtain ⟨hgone, -⟩ := Option.ite_none_right_eq_some.mp hstep
      obtain ⟨c, hget, hopen⟩ := Option.map_eq_some_iff.mp hgone
      rw [h.wired.up c (List.mem_of_getElem? hget)] at hopen
      cases hopen
  | receive conn dialOk => exact h.receive hfinds hstep
  | readData i data => exact h.readData hstep
  | readEnd i => exact h.readEnd hstep
  | readDelete i => exact h.readDelete hfinds hstep

/-- Once all frames are handled, an open socket is what the tunnel has left open, which it then is
still there to close. -/
theorem noOrphans (h : OrphanInv [] s) : s.NoOrphans where
  closers := h.ledger.closers
  sockets := by
    rintro ⟨hforwarding, hconns⟩ socket ⟨hhas, hopen⟩
    obtain ⟨reader, hreader, rfl⟩ : ∃ reader ∈ s.readers, reader.socket = socket := by
      rcases hhas with ⟨entry, hentry, rfl⟩ | hreader
      · obtain ⟨reader, hmem, -, hsocket⟩ := h.table.entries entry hentry
        exact ⟨reader, hmem, hsocket⟩
      · exact hreader
    have hheld : held s.readers s.closed reader.socket.owner reader.streamID :=
      held_iff.mpr ⟨reader, hreader, rfl, rfl, hopen⟩
    have hempty : pipeline s.conns s.forwarding = [] := by
      simpa [pipeline, hforwarding] using hconns
    have hleft : leftOpen reader.socket.owner reader.streamID false s.forwarded := by
      refine h.pipe _ _ ?_
      rw [hheld, hempty]
      rfl
    obtain ⟨frame, hframe, howner, -⟩ := exists_of_leftOpen hleft
    rw [← howner]
    refine (h.ledger.owners frame hframe).resolve_left fun hended => ?_
    rw [howner] at hended
    rw [h.ledger.closers _ hended] at hleft
    cases hleft

end OrphanInv

theorem orphanInv_init : OrphanInv [] {} where
  ledger := ⟨by simp, by simp, by simp, by simp, by simp⟩
  wired := ⟨by simp, by simp, by simp, by simp, by simp⟩
  table := ⟨by simp, by simp⟩
  single := List.Pairwise.nil
  pipe := by simp [held, pipeline, leftOpen]

/-! ### What a tunnel has forwarded -/

namespace SshState

variable {s t : SshState}

theorem forwarded_sendSSHStream (frame : Frame) :
    (s.sendSSHStream frame).forwarded = s.forwarded := by
  unfold sendSSHStream
  split <;> rfl

theorem forwarded_handleSSHStream (frame : Frame) (dialOk : Bool) :
    (s.handleSSHStream frame dialOk).forwarded = s.forwarded := by
  rcases handleSSHStream_cases (s := s) frame dialOk with
    ⟨heq, -⟩ | ⟨-, msg, heq⟩ | ⟨-, -, -, heq⟩ | ⟨socket, -, ⟨-, heq⟩ | heq⟩
  · rw [heq]
  · rw [heq, forwarded_sendSSHStream]
  · rw [heq, openStream]
    split
    · exact forwarded_sendSSHStream _
    · rfl
  · rw [heq]
  · rw [heq]
    rfl

theorem forwarded_close : s.close.forwarded = s.forwarded := by
  unfold close
  dsimp only
  split <;> rfl

theorem forwarded_remove {token : ℕ} (hstep : s.remove token = some t) :
    t.forwarded = s.forwarded := by
  obtain ⟨-, hstep⟩ := Option.ite_none_right_eq_some.mp hstep
  cases hstep
  rfl

/-- Only a frame of a user is ever forwarded. -/
theorem forwarded_step {e : SshEvent} (hstep : s.step e = some t)
    (huser : ∀ token msg, e ≠ .userFrame token msg) : t.forwarded = s.forwarded := by
  cases e with
  | userFrame token msg => exact absurd rfl (huser token msg)
  | userClosed token => exact forwarded_remove (Option.ite_none_left_eq_some.mp hstep).2
  | expire token => exact forwarded_remove hstep
  | revoke token =>
      cases hstep
      rcases revokeSSHLaunch_cases (s := s) token with heq | hstep
      · rw [heq]
      · rw [forwarded_remove hstep]
  | create =>
      cases hstep
      rfl
  | connectUser token | sendStream entry | attachAgent conn | setStreamHandler conn | lose conn =>
      obtain ⟨-, hstep⟩ := Option.ite_none_right_eq_some.mp hstep
      cases hstep
      rfl
  | attachWaiting conn waiting =>
      obtain ⟨c, -, ⟨-, rfl⟩ | ⟨token, -, rfl⟩⟩ := attachWaiting_cases hstep <;> rfl
  | agentFrame conn candidate =>
      obtain ⟨c, frame, rest, -, -, rfl | ⟨token, -, rfl⟩⟩ := forwardAgentMessage_cases hstep <;>
        rfl
  | close =>
      cases hstep
      exact forwarded_close
  | connect =>
      cases hstep
      exact forwarded_close
  | connectionLost conn =>
      cases hstep
      rfl
  | receive conn dialOk =>
      obtain ⟨c, frame, rest, -, -, ⟨-, rfl⟩ | ⟨-, rfl⟩⟩ := receive_cases hstep
      · rfl
      · exact forwarded_handleSSHStream frame dialOk
  | readData i data =>
      obtain ⟨reader, -, ⟨msg, rfl⟩ | rfl⟩ := readData_cases hstep
      · exact forwarded_sendSSHStream _
      · rfl
  | readEnd i =>
      obtain ⟨reader, msg, -, rfl⟩ := readEnd_cases hstep
      exact forwarded_sendSSHStream _
  | readDelete i =>
      obtain ⟨reader, -, -, rfl⟩ := readDelete_cases hstep
      rfl

/-- The frames of a tunnel that is bound are forwarded. -/
theorem forwarded_of_bound {token conn : ℕ} {msg : SSHStreamMessage} (htokens : s.Tokens)
    (hmem : ⟨token, some conn⟩ ∈ s.tunnels) (hstep : s.forwardUserMessage token msg = some t) :
    t.forwarded = s.forwarded ++ [⟨msg, token⟩] := by
  obtain ⟨-, hstep⟩ := Option.ite_none_left_eq_some.mp hstep
  have hfind : s.tunnels.find? (·.token = token) = some ⟨token, some conn⟩ := by
    cases hfind : s.tunnels.find? (·.token = token) with
    | none => simpa using List.find?_eq_none.mp hfind _ hmem
    | some tunnel =>
        have htoken : tunnel.token = token := by simpa using List.find?_some hfind
        exact congrArg some
          (List.inj_on_of_nodup_map htokens.tunnels (List.mem_of_find?_eq_some hfind) hmem htoken)
  rw [hfind, Option.bind_some] at hstep
  cases hstep
  rfl

end SshState

/-! ### What a tunnel has left open, its user has -/

structure SshHistoryInv (h : SshHistory) : Prop where
  orphan : OrphanInv [] h.state
  tokens : h.state.Tokens
  /-- What was forwarded is what the user has sent since the tunnel was bound. -/
  sent : ∀ tunnel ∈ h.state.tunnels, ∀ streamID,
    leftOpen tunnel.token streamID false h.state.forwarded →
      tunnel.agent ≠ none ∧ leftOpen tunnel.token streamID false h.userFrames

namespace SshHistoryInv

variable {h : SshHistory} {t : SshState}

theorem closed (hinv : SshHistoryInv h) {e : SshEvent} (hguard : ClosedByUser h e) {token : ℕ}
    (hends : token ∈ e.ends) : h.state.Closed token := by
  rintro ⟨tunnel, hmem, rfl⟩ frame -
  by_contra hopen
  obtain ⟨hbound, hleft⟩ := hinv.sent tunnel hmem _ (by simpa using hopen)
  obtain ⟨sentFrame, hsent, -, hid⟩ := exists_of_leftOpen hleft
  rw [← hid, hguard _ hends tunnel hmem rfl hbound sentFrame hsent] at hleft
  cases hleft

theorem sent_userFrame (hinv : SshHistoryInv h) {token : ℕ} {msg : SSHStreamMessage}
    (hstep : h.state.forwardUserMessage token msg = some t) :
    ∀ tunnel ∈ t.tunnels, ∀ streamID, leftOpen tunnel.token streamID false t.forwarded →
      tunnel.agent ≠ none ∧
        leftOpen tunnel.token streamID false (h.userFrames ++ [⟨msg, token⟩]) := by
  intro tunnel hmem streamID hopen
  have hother : tunnel.token ≠ token → ∀ frames,
      leftOpen tunnel.token streamID false (frames ++ [⟨msg, token⟩])
        = leftOpen tunnel.token streamID false frames := by
    intro hne frames
    rw [leftOpen_append]
    exact track_of_ne hne.symm _
  obtain rfl | ⟨conn, hbound, -, rfl⟩ := SshState.forwardUserMessage_cases hstep
  · -- the frame was dropped, so it is not one of a tunnel that is bound
    obtain ⟨hagent, hleft⟩ := hinv.sent tunnel hmem streamID hopen
    by_cases htoken : tunnel.token = token
    · obtain ⟨conn, hconn⟩ := Option.ne_none_iff_exists'.mp hagent
      have hbound : ⟨token, some conn⟩ ∈ h.state.tunnels := by rwa [← htoken, ← hconn]
      have hforwarded := SshState.forwarded_of_bound hinv.tokens hbound hstep
      simp at hforwarded
    · exact ⟨hagent, by rwa [hother htoken]⟩
  · by_cases htoken : tunnel.token = token
    · obtain rfl := List.inj_on_of_nodup_map hinv.tokens.tunnels hmem hbound htoken
      refine ⟨by simp, ?_⟩
      rw [leftOpen_append] at hopen ⊢
      exact leftOpen_mono (fun hleft => (hinv.sent _ hmem streamID hleft).2) hopen
    · rw [hother htoken] at hopen ⊢
      exact hinv.sent tunnel hmem streamID hopen

/-- A tunnel that has just begun has forwarded nothing. -/
theorem sent_connectUser (hinv : SshHistoryInv h) {token : ℕ}
    (hstep : h.state.connectUser token = some t) :
    ∀ tunnel ∈ t.tunnels, ∀ streamID, leftOpen tunnel.token streamID false t.forwarded →
      tunnel.agent ≠ none ∧ leftOpen tunnel.token streamID false h.userFrames := by
  obtain ⟨hlaunch, hstep⟩ := Option.ite_none_right_eq_some.mp hstep
  cases hstep
  intro tunnel hmem streamID hopen
  rcases List.mem_cons.mp hmem with rfl | hold
  · obtain ⟨frame, hframe, howner, -⟩ := exists_of_leftOpen hopen
    rcases hinv.orphan.ledger.owners frame hframe with hended | ⟨old, hold, heq⟩
    · rw [howner] at hended
      exact absurd hended (hinv.orphan.ledger.fresh token hlaunch).2
    · rw [howner] at heq
      exact absurd (heq ▸ hlaunch) (hinv.orphan.ledger.live old hold).2.2
  · exact hinv.sent tunnel hold streamID hopen

theorem sent_attachWaiting (hinv : SshHistoryInv h) {conn : ℕ} {waiting : Option ℕ}
    (hstep : h.state.attachWaiting conn waiting = some t) :
    ∀ tunnel ∈ t.tunnels, ∀ streamID, leftOpen tunnel.token streamID false t.forwarded →
      tunnel.agent ≠ none ∧ leftOpen tunnel.token streamID false h.userFrames := by
  obtain ⟨c, -, ⟨-, rfl⟩ | ⟨token, -, rfl⟩⟩ := SshState.attachWaiting_cases hstep
  · exact hinv.sent
  · intro tunnel hmem streamID hopen
    obtain ⟨old, hold, rfl⟩ := List.mem_map.mp hmem
    split at hopen
    · rw [if_pos ‹_›]
      exact ⟨by simp, (hinv.sent old hold streamID hopen).2⟩
    · rw [if_neg ‹_›]
      exact hinv.sent old hold streamID hopen

/-- Whatever happens but a frame of a user, a user who connects, and a connection that is
attached. -/
theorem sent_keeps (hinv : SshHistoryInv h) (htunnels : t.tunnels ⊆ h.state.tunnels)
    (hforwarded : t.forwarded = h.state.forwarded) :
    ∀ tunnel ∈ t.tunnels, ∀ streamID, leftOpen tunnel.token streamID false t.forwarded →
      tunnel.agent ≠ none ∧ leftOpen tunnel.token streamID false h.userFrames := by
  intro tunnel hmem streamID hopen
  rw [hforwarded] at hopen
  exact hinv.sent tunnel (htunnels hmem) streamID hopen

theorem step {h' : SshHistory} (hinv : SshHistoryInv h) {e : SshEvent} (hguard : OrphanGuard h e)
    (hstep : h.step e = some h') : SshHistoryInv h' := by
  obtain ⟨t, hnext, rfl⟩ := Option.map_eq_some_iff.mp hstep
  obtain ⟨hup, hfinds, hclosed⟩ := hguard
  refine ⟨hinv.orphan.step hup hfinds (fun token => hinv.closed hclosed) hnext,
    hinv.tokens.step hnext, ?_⟩
  cases e with
  | userFrame token msg => exact hinv.sent_userFrame hnext
  | connectUser token =>
      rw [SshEvent.userFrames_of_ne (by simp), List.append_nil]
      exact hinv.sent_connectUser hnext
  | attachWaiting conn waiting =>
      rw [SshEvent.userFrames_of_ne (by simp), List.append_nil]
      exact hinv.sent_attachWaiting hnext
  | create =>
      obtain rfl := Option.some.inj hnext
      rw [SshEvent.userFrames_of_ne (by simp), List.append_nil]
      exact hinv.sent
  | attachAgent conn =>
      obtain ⟨-, heq⟩ := Option.ite_none_right_eq_some.mp hnext
      obtain rfl := Option.some.inj heq
      rw [SshEvent.userFrames_of_ne (by simp), List.append_nil]
      exact hinv.sent
  | _ =>
      rw [SshEvent.userFrames_of_ne (by simp), List.append_nil]
      refine hinv.sent_keeps (SshState.Keeps.step hnext ?_ ?_ ?_ ?_).tunnels.subset
        (SshState.forwarded_step hnext ?_)
      all_goals simp

end SshHistoryInv

theorem sshHistoryInv_init : SshHistoryInv {} where
  orphan := orphanInv_init
  tokens := SshState.tokens_init
  sent := fun _ hmem => (List.not_mem_nil hmem).elim

/-- **No orphans.** In every run of all systems in which the connections of the agents stay up,
users close what they opened before their tunnels end, and the agent finds the sockets it means, no
socket outlives its tunnel. -/
theorem noOrphans_of_guarded {h : String → SshHistory} {events : List (String × SshEvent)}
    (hrun : Guarded (each SshHistory.step) (fun h e => OrphanGuard (h e.1) e.2) (fun _ => {})
      events h)
    (systemId : String) : (h systemId).state.NoOrphans := by
  obtain ⟨_, hone⟩ := hrun.component systemId
  exact (hone.invariant (fun _ _ _ h => h.step) sshHistoryInv_init).orphan.noOrphans

/-- A frame of the connector, which the agent handles. -/
def sent (token : ℕ) (type : Uint8) : List SshEvent :=
  [.userFrame token (connectorFrame type []), .sendStream (0, ⟨connectorFrame type [], token⟩),
    .receive 0 true]

def attached : List SshEvent :=
  [.connect, .attachAgent 0, .setStreamHandler 0, .attachWaiting 0 none]

def opened (token : ℕ) : List SshEvent :=
  [.create, .connectUser token] ++ sent token sshStreamOpen

/-- The connector says that its input ended before the tunnel ends. -/
def closedInTime (token : ℕ) (ending : SshEvent) : List SshEvent :=
  opened token ++ sent token sshStreamEOF ++ [ending, .readEnd 0, .readDelete 0]

/-- Tunnels end in all three ways, one of them before its user opens anything; a session of another
stays open. -/
def fiveTunnels : List SshEvent :=
  attached ++ closedInTime 0 (.userClosed 0) ++ closedInTime 1 (.expire 1) ++
    closedInTime 2 (.revoke 2) ++ [.create, .connectUser 3, .revoke 3] ++ opened 4

theorem noOrphans_fiveTunnels :
    ∃ h, Guarded (each SshHistory.step) (fun h e => OrphanGuard (h e.1) e.2) (fun _ => {})
        (fiveTunnels.map (Prod.mk "web")) h ∧
      (h "web").state.dialed = 4 ∧ (h "web").state.ended = [3, 2, 1, 0] ∧
      (h "web").state.Settled ∧ (h "web").state.Holds ⟨3, 4⟩ ∧ (h "web").state.NoOrphans := by
  have hcheck : ∃ h, check SshHistory.step OrphanGuard {} fiveTunnels = some h ∧
      h.state.dialed = 4 ∧ h.state.ended = [3, 2, 1, 0] ∧ h.state.Settled ∧
      h.state.Holds ⟨3, 4⟩ :=
    ⟨_, rfl, rfl, rfl, ⟨rfl, by decide⟩, by decide, by decide⟩
  obtain ⟨h, hcheck, hdialed, hended, hsettled, hholds⟩ := hcheck
  have hrun := (guarded_of_check hcheck).each (fun _ : String => ({} : SshHistory)) "web"
  exact ⟨_, hrun, by simpa using hdialed, by simpa using hended, by simpa using hsettled,
    by simpa using hholds, noOrphans_of_guarded hrun "web"⟩

def revokedOpen : List SshEvent :=
  attached ++ opened 0 ++ [.revoke 0]

/-- The agent keeps the socket. -/
theorem not_noOrphans_revoked :
    ∃ h, run (each SshHistory.step) (fun _ => {}) (revokedOpen.map (Prod.mk "web"))
        = some h ∧
      (h "web").state.Settled ∧ (h "web").state.Holds ⟨0, 0⟩ ∧ (h "web").state.tunnels = [] ∧
      ¬ (h "web").state.NoOrphans := by
  have hone : ∃ h, run SshHistory.step {} revokedOpen = some h ∧ h.state.Settled ∧
      h.state.Holds ⟨0, 0⟩ ∧ h.state.tunnels = [] :=
    ⟨_, rfl, ⟨rfl, by decide⟩, ⟨by decide, by decide⟩, rfl⟩
  obtain ⟨h, hone, hsettled, hholds, htunnels⟩ := hone
  have horphan : ¬ h.state.NoOrphans := by
    intro hno
    obtain ⟨tunnel, hmem, -⟩ := hno.sockets hsettled _ hholds
    rw [htunnels] at hmem
    cases hmem
  have hrun := run_each (fun _ : String => ({} : SshHistory)) "web" hone
  exact ⟨_, hrun, by simpa using hsettled, by simpa using hholds, by simpa using htunnels,
    by simpa using horphan⟩

end Picket
