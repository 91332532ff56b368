import Picket.Proof.TunnelSockets

/-!
# From the SSH server to the user

What the agent reads from the socket of a tunnel goes to the connection that it has at the time, and
the hub takes it for the tunnel that is bound to the connection. What came before the hub handles
the frames of the connection is dropped, and so is what comes after the tunnel is gone.
-/

namespace Picket.TunnelState

open Link

variable {s s' t : TunnelState}

/-- What the agent has sent for the tunnel on the connection that the tunnel is bound to. -/
def replied (s : TunnelState) (token : ℕ) : List SSHStreamMessage :=
  own token (s.logOf token).downSent

def returned (s : TunnelState) (token : ℕ) : List SSHStreamMessage :=
  own token (s.logOf token).downArrived

theorem Upstream.downArrived_prefix (h : s.Upstream) (i : ℕ) :
    (s.logs i).downArrived <+: (s.logs i).downSent := by
  rcases Nat.lt_or_ge i s.ssh.conns.length with hlt | hge
  · exact (h.links.recorded i _ (List.getElem?_eq_getElem hlt)).down.arrived_prefix
  · rw [h.links.unused i hge]

theorem Upstream.returned_prefix (h : s.Upstream) (token : ℕ) :
    s.returned token <+: s.replied token := by
  rw [returned, replied, logOf]
  cases s.bound token with
  | none => exact List.prefix_rfl
  | some conn => exact own_prefix token (h.downArrived_prefix conn)

/-! ### What is read from the sockets -/

structure Replies (s : TunnelState) : Prop where
  readers : ∀ reader ∈ s.ssh.readers, reader.socket ∈ s.sockets
  unused : ∀ ref, s.ssh.dialed ≤ ref → s.socketOut ref = []
  senders : ∀ i, ∀ frame ∈ (s.logs i).downSent, ∃ socket ∈ s.sockets, socket.owner = frame.owner
  block : ∀ socket ∈ s.sockets, payloads (s.replied socket.owner) <+: s.socketOut socket.ref
  complete : ∀ socket ∈ s.sockets, ∀ conn, s.bound socket.owner = some conn →
    s.ssh.conn = some conn → payloads (s.replied socket.owner) = s.socketOut socket.ref

namespace Replies

theorem quiet (h : s.Replies) (hup : s.Upstream) (hbound : s'.bound = s.bound)
    (hsockets : s'.sockets = s.sockets) (hout : s'.socketOut = s.socketOut)
    (hlogs : ∀ i, (s'.logs i).downSent = (s.logs i).downSent)
    (hreaders : ∀ reader ∈ s'.ssh.readers, ∃ old ∈ s.ssh.readers, old.socket = reader.socket)
    (hdialed : s'.ssh.dialed = s.ssh.dialed)
    (hconn : ∀ conn, conn < s.ssh.conns.length → s'.ssh.conn = some conn →
      s.ssh.conn = some conn) : s'.Replies := by
  have hreplied (token : ℕ) : s'.replied token = s.replied token :=
    congrArg (own token) (logOf_congr (·.downSent) hbound hlogs token)
  refine ⟨fun reader hmem => ?_, ?_, fun i frame hframe => ?_, ?_, fun socket hmem conn hb hc => ?_⟩
  · obtain ⟨old, hold, hsame⟩ := hreaders reader hmem
    rw [hsockets, ← hsame]
    exact h.readers old hold
  · rw [hdialed, hout]
    exact h.unused
  · rw [hlogs] at hframe
    rw [hsockets]
    exact h.senders i frame hframe
  · simp only [hsockets, hreplied, hout]
    exact h.block
  · rw [hsockets] at hmem
    rw [hbound] at hb
    rw [hreplied, hout]
    exact h.complete socket hmem conn hb (hconn conn (hup.bound.bounds _ conn hb) hc)

/-- A tunnel that is bound now has no socket yet. -/
theorem fresh (h : s.Replies) (hsockets : s.Sockets) {token : ℕ} (hnone : s.bound token = none) :
    (∀ socket ∈ s.sockets, socket.owner ≠ token) ∧ ∀ i, own token (s.logs i).downSent = [] := by
  have hno : ∀ socket ∈ s.sockets, socket.owner ≠ token := by
    rintro socket hmem rfl
    obtain ⟨msg, hmsg, -⟩ := hsockets.opened socket hmem
    rw [handled, logOf, hnone] at hmsg
    cases hmsg
  refine ⟨hno, fun i => own_eq_nil fun frame hframe howner => ?_⟩
  obtain ⟨socket, hmem, hsame⟩ := h.senders i frame hframe
  exact hno socket hmem (hsame.trans howner)

theorem bind (h : s.Replies) (hsockets : s.Sockets) {token : ℕ} (hnone : s.bound token = none)
    {agent : Option ℕ} (hbound : s'.bound = Function.update s.bound token agent)
    (hsame : s'.sockets = s.sockets) (hout : s'.socketOut = s.socketOut)
    (hlogs : s'.logs = s.logs) (hreaders : s'.ssh.readers = s.ssh.readers)
    (hdialed : s'.ssh.dialed = s.ssh.dialed) (hconn : s'.ssh.conn = s.ssh.conn) : s'.Replies := by
  obtain ⟨hno, -⟩ := h.fresh hsockets hnone
  have hkept : ∀ socket ∈ s.sockets, s'.bound socket.owner = s.bound socket.owner := by
    intro socket hmem
    rw [hbound, Function.update_of_ne (hno socket hmem)]
  have hreplied : ∀ socket ∈ s.sockets, s'.replied socket.owner = s.replied socket.owner := by
    intro socket hmem
    rw [replied, replied, logOf, logOf, hkept socket hmem, hlogs]
  refine ⟨?_, ?_, ?_, fun socket hmem => ?_, fun socket hmem conn hb hc => ?_⟩
  · rw [hreaders, hsame]
    exact h.readers
  · rw [hdialed, hout]
    exact h.unused
  · rw [hlogs, hsame]
    exact h.senders
  · rw [hsame] at hmem
    rw [hreplied socket hmem, hout]
    exact h.block socket hmem
  · rw [hsame] at hmem
    rw [hkept socket hmem] at hb
    rw [hconn] at hc
    rw [hreplied socket hmem, hout]
    exact h.complete socket hmem conn hb hc

/-- Nothing has been read from a new socket. -/
theorem dial (h : s.Replies) (hsockets' : s'.Sockets) {token : ℕ} {streamID : Uint32}
    (hsockets : s'.sockets = s.sockets ++ [⟨s.ssh.dialed, token⟩])
    (hdials : s.ssh.Dials s'.ssh streamID ⟨s.ssh.dialed, token⟩) (hbound : s'.bound = s.bound)
    (hout : s'.socketOut = s.socketOut)
    (hlogs : ∀ i, (s'.logs i).downSent = (s.logs i).downSent) : s'.Replies := by
  have hreplied (token : ℕ) : s'.replied token = s.replied token :=
    congrArg (own token) (logOf_congr (·.downSent) hbound hlogs token)
  have hno : ∀ socket ∈ s.sockets, socket.owner ≠ token := by
    intro socket hmem heq
    have honce := hsockets'.owners
    rw [hsockets, List.map_append, List.nodup_append] at honce
    exact honce.2.2 _ (List.mem_map_of_mem hmem) _ (List.mem_singleton_self _) heq
  have hnothing : s.replied token = [] := by
    refine own_eq_nil fun frame hframe howner => ?_
    rw [logOf] at hframe
    cases hconn : s.bound token with
    | none =>
        rw [hconn] at hframe
        cases hframe
    | some conn =>
        rw [hconn] at hframe
        obtain ⟨socket, hmem, hsame⟩ := h.senders conn frame hframe
        exact hno socket hmem (hsame.trans howner)
  have hempty : s.socketOut s.ssh.dialed = [] := h.unused _ le_rfl
  refine ⟨fun reader hmem => ?_, fun ref hle => ?_, fun i frame hframe => ?_, fun socket hmem => ?_,
    fun socket hmem conn hb hc => ?_⟩
  · rw [hsockets]
    rcases hdials.readers reader hmem with heq | hold
    · rw [heq]
      exact List.mem_append_right _ (List.mem_singleton_self _)
    · exact List.mem_append_left _ (h.readers reader hold)
  · rw [hdials.dialed] at hle
    rw [hout]
    exact h.unused ref (Nat.le_of_succ_le hle)
  · rw [hlogs] at hframe
    obtain ⟨socket, hmem, hsame⟩ := h.senders i frame hframe
    rw [hsockets]
    exact ⟨socket, List.mem_append_left _ hmem, hsame⟩
  · rw [hsockets] at hmem
    rw [hreplied, hout]
    rcases List.mem_append.mp hmem with hold | hnew
    · exact h.block socket hold
    · rw [List.mem_singleton.mp hnew, hnothing]
      exact List.nil_prefix
  · rw [hsockets] at hmem
    rw [hbound] at hb
    rw [hdials.conn] at hc
    rw [hreplied, hout]
    rcases List.mem_append.mp hmem with hold | hnew
    · exact h.complete socket hold conn hb hc
    · rw [List.mem_singleton.mp hnew, hnothing, hempty]
      rfl

/-- The agent has read from a socket, and sends it to the connection it has now. -/
theorem readData (h : s.Replies) (hsockets : s.Sockets) (hup : s.Upstream) {reader : StreamReader}
    (hmem : reader ∈ s.ssh.readers) {data : List Uint8} (hminor : s.ssh.Minor s'.ssh)
    (hbound : s'.bound = s.bound) (hsame : s'.sockets = s.sockets)
    (hout : s'.socketOut = record s.socketOut reader.socket.ref data)
    (hlogs : ∀ i, (s'.logs i).downSent = (s.logs i).downSent ++
      if s.ssh.conn = some i then
        [⟨{ streamID := reader.streamID, type := sshStreamData, data }, reader.socket.owner⟩]
      else []) : s'.Replies := by
  have hsocket := h.readers reader hmem
  have hreplied (token : ℕ) : payloads (s'.replied token) = payloads (s.replied token) ++
      if s.bound token = s.ssh.conn ∧ s.bound token ≠ none ∧ token = reader.socket.owner then data
      else [] := by
    rw [replied, replied, logOf, logOf, hbound]
    cases hconn : s.bound token with
    | none => simp
    | some conn =>
        rw [Option.elim_some, Option.elim_some, hlogs, own_append, payloads_append]
        refine congrArg _ ?_
        by_cases hk : s.ssh.conn = some conn
        · rw [if_pos hk]
          by_cases heq : token = reader.socket.owner
          · have hown := own_singleton
              ⟨{ streamID := reader.streamID, type := sshStreamData, data }, reader.socket.owner⟩
            rw [if_pos ⟨hk.symm, by simp, heq⟩, heq]
            exact congrArg payloads hown |>.trans (List.append_nil data)
          · rw [if_neg fun hall => heq hall.2.2, own_singleton_of_ne (Ne.symm heq)]
            rfl
        · rw [if_neg hk, if_neg fun hall => hk hall.1.symm]
          rfl
  have hconn : ∀ socket ∈ s.sockets, ∀ conn, s'.bound socket.owner = some conn →
      s'.ssh.conn = some conn → s.bound socket.owner = some conn ∧ s.ssh.conn = some conn := by
    intro socket _ conn hb hc
    rw [hbound] at hb
    exact ⟨hb, hminor.conn conn (hup.bound.bounds _ conn hb) hc⟩
  have hself : s'.socketOut reader.socket.ref = s.socketOut reader.socket.ref ++ data := by
    rw [hout, record_self]
  have hother : ∀ socket ∈ s.sockets, socket ≠ reader.socket →
      payloads (s'.replied socket.owner) = payloads (s.replied socket.owner) ∧
        s'.socketOut socket.ref = s.socketOut socket.ref := by
    intro socket hmem hne
    have howner : socket.owner ≠ reader.socket.owner := fun heq =>
      hne (hsockets.eq_of_owner hmem hsocket heq)
    have href : socket.ref ≠ reader.socket.ref := fun heq =>
      hne (hsockets.eq_of_ref hmem hsocket heq)
    rw [hreplied, if_neg fun hall => howner hall.2.2, List.append_nil, hout, record_of_ne _ href]
    exact ⟨rfl, rfl⟩
  refine ⟨fun other hother => ?_, fun ref hle => ?_, fun i frame hframe => ?_,
    fun socket hmem => ?_, fun socket hmem conn hb hc => ?_⟩
  · obtain ⟨old, hold, hkept⟩ := hminor.readers other hother
    rw [hsame, ← hkept]
    exact h.readers old hold
  · rw [hminor.dialed] at hle
    have hne : ref ≠ reader.socket.ref := by
      rintro rfl
      exact Nat.not_lt.mpr hle (hsockets.refs _ hsocket)
    rw [hout, record_of_ne _ hne]
    exact h.unused ref hle
  · rw [hsame]
    rw [hlogs] at hframe
    rcases List.mem_append.mp hframe with hold | hnew
    · exact h.senders i frame hold
    · split at hnew
      · rw [List.mem_singleton.mp hnew]
        exact ⟨reader.socket, hsocket, rfl⟩
      · cases hnew
  · rw [hsame] at hmem
    by_cases heq : socket = reader.socket
    · subst heq
      rw [hreplied, hself]
      split
      · rename_i hall
        obtain ⟨conn, hb⟩ := Option.ne_none_iff_exists'.mp hall.2.1
        rw [h.complete reader.socket hmem conn hb (hall.1.symm.trans hb)]
      · rw [List.append_nil]
        exact (h.block reader.socket hmem).trans (List.prefix_append _ _)
    · obtain ⟨hsent, hread⟩ := hother socket hmem heq
      rw [hsent, hread]
      exact h.block socket hmem
  · rw [hsame] at hmem
    obtain ⟨hb, hc⟩ := hconn socket hmem conn hb hc
    by_cases heq : socket = reader.socket
    · subst heq
      rw [hreplied, hself, if_pos ⟨hb.trans hc.symm, by rw [hb]; simp, rfl⟩,
        h.complete reader.socket hmem conn hb hc]
    · obtain ⟨hsent, hread⟩ := hother socket hmem heq
      rw [hsent, hread]
      exact h.complete socket hmem conn hb hc

theorem step (h : s.Replies) (hsockets : s.Sockets) (hup : s.Upstream) {e : SshEvent}
    (hstep : s.step (.ssh e) = some s') (hsockets' : s'.Sockets) : s'.Replies := by
  obtain ⟨t, ssh, hssh, hobserve, rfl⟩ := step_ssh hstep
  have hquiet (hminor : s.ssh.Minor ssh) (hbound : t.bound = s.bound)
      (hsame : t.sockets = s.sockets) (hout : t.socketOut = s.socketOut)
      (hlogs : ∀ i, (t.logs i).downSent = (s.logs i).downSent) : Replies { t with ssh } :=
    h.quiet hup hbound hsame hout hlogs hminor.readers hminor.dialed hminor.conn
  cases e with
  | connectUser token =>
      cases hobserve
      have hnone := (hup.bound.connectUser_fresh hssh).2
      obtain ⟨-, hssh⟩ := Option.ite_none_right_eq_some.mp hssh
      cases hssh
      exact h.bind hsockets hnone rfl rfl rfl rfl rfl rfl rfl
  | attachWaiting conn waiting =>
      cases waiting with
      | none =>
          cases hobserve
          exact hquiet (.step (by simp) (by simp) (by simp) (by simp) (by simp) hssh) rfl rfl rfl
            fun _ => rfl
      | some token =>
          cases hobserve
          obtain ⟨hwaiting, -, rfl⟩ := attachWaiting_some hssh
          have hnone := (hup.bound.tunnels _ hwaiting).1.symm
          exact h.bind hsockets hnone rfl rfl rfl rfl rfl rfl rfl
  | userFrame token msg =>
      obtain ⟨c, up, -, -, rfl⟩ := userFrame_cases hobserve
      rcases SshState.forwardUserMessage_cases hssh with rfl | ⟨conn, -, -, rfl⟩
      · exact hquiet (.refl _) rfl rfl rfl fun _ => rfl
      · exact h.quiet hup rfl rfl rfl (fun _ => rfl) (fun reader hmem => ⟨reader, hmem, rfl⟩) rfl
          fun _ _ => id
  | sendStream entry =>
      cases hobserve
      obtain ⟨-, hssh⟩ := Option.ite_none_right_eq_some.mp hssh
      cases hssh
      refine h.quiet hup rfl rfl rfl ?_ (fun reader hmem => ⟨reader, hmem, rfl⟩) rfl fun _ _ => id
      exact log_congr (·.downSent) s entry.1
        (g := fun log => { log with upSent := log.upSent ++ [entry.2] }) fun _ => rfl
  | receive conn dialOk =>
      obtain ⟨c, frame, rest, -, -, hcase⟩ := receive_effects hssh hobserve
      have hlogs := log_congr (·.downSent) s conn (g := fun log =>
        { log with upArrived := log.upArrived ++ [frame] }) fun _ => rfl
      rcases hcase with ⟨hminor, rfl, -⟩ | ⟨hdials, -, rfl⟩ | ⟨socket, -, -, -, hminor, -, rfl⟩
      · exact hquiet hminor rfl rfl rfl hlogs
      · exact h.dial hsockets' rfl hdials rfl rfl hlogs
      · exact hquiet hminor rfl rfl rfl hlogs
  | readData i data =>
      have hminor := SshState.Minor.step (by simp) (by simp) (by simp) (by simp) (by simp) hssh
      obtain ⟨reader, hget, ⟨hnone, rfl⟩ | ⟨conn, hconn, rfl⟩⟩ := readData_cases hobserve
      · refine h.readData hsockets hup (List.mem_of_getElem? hget) hminor rfl rfl rfl fun j => ?_
        rw [hnone, if_neg (by simp), List.append_nil]
      · refine h.readData hsockets hup (List.mem_of_getElem? hget) hminor rfl rfl rfl fun j => ?_
        dsimp only [log]
        by_cases hj : j = conn
        · subst hj
          rw [Function.update_self, if_pos hconn]
        · rw [Function.update_of_ne hj, hconn, if_neg (by simpa using Ne.symm hj), List.append_nil]
  | agentFrame conn candidate =>
      have hminor := SshState.Minor.step (by simp) (by simp) (by simp) (by simp) (by simp) hssh
      obtain ⟨c, frame, rest, -, -, hseen⟩ := agentFrame_cases hobserve
      have hlogs := log_congr (·.downSent) s conn (g := fun log =>
        if frame.msg.type = sshStreamData then
          { log with downArrived := log.downArrived ++ [frame] }
        else log) fun log => by split <;> rfl
      rcases hseen with ⟨-, rfl⟩ | ⟨user, -, -, ht⟩
      · exact hquiet hminor rfl rfl rfl hlogs
      · obtain ⟨connectors, heq⟩ := forward_eq (s.log conn fun log =>
          if frame.msg.type = sshStreamData then
            { log with downArrived := log.downArrived ++ [frame] }
          else log) user frame.msg
        obtain rfl := ht.trans heq
        exact hquiet hminor rfl rfl rfl hlogs
  | _ =>
      cases hobserve
      exact hquiet (.step (by simp) (by simp) (by simp) (by simp) (by simp) hssh) rfl rfl rfl
        fun _ => rfl

end Replies

/-! ### What the hub hands to the connectors -/

/-- What the hub has sent to a connector is what it took for its tunnel, less what came early and
what came late. -/
structure Delivered (s : TunnelState) : Prop where
  handles : ∀ token conn, s.bound token = some conn → token ∉ s.early →
    ∃ k : Conn, s.ssh.conns[conn]? = some k ∧ k.handles
  nothing : ∀ token c, s.connectors token = some c →
    (∀ (conn : ℕ) (k : Conn), s.bound token = some conn → s.ssh.conns[conn]? = some k →
      k.handles = false) → payloads c.down.sent = []
  block : ∀ token c, s.connectors token = some c → ∃ skipped, (token ∉ s.early → skipped = []) ∧
    skipped ++ payloads c.down.sent <+: payloads (s.returned token) ∧
    ∀ conn, ⟨token, some conn⟩ ∈ s.ssh.tunnels →
      skipped ++ payloads c.down.sent = payloads (s.returned token)

namespace Delivered

theorem quiet (h : s.Delivered) (hbound : s'.bound = s.bound) (hearly : s'.early = s.early)
    (hlogs : ∀ i, (s'.logs i).downArrived = (s.logs i).downArrived)
    (htunnels : ∀ tunnel ∈ s'.ssh.tunnels, tunnel ∈ s.ssh.tunnels)
    (hconnectors : ∀ token c', s'.connectors token = some c' →
      ∃ c, s.connectors token = some c ∧ c'.down.sent = c.down.sent)
    (hhandles : ∀ (i : ℕ) (k : Conn), s.ssh.conns[i]? = some k →
      ∃ k' : Conn, s'.ssh.conns[i]? = some k' ∧ (k.handles → k'.handles)) : s'.Delivered := by
  have hreturned (token : ℕ) : s'.returned token = s.returned token :=
    congrArg (own token) (logOf_congr (·.downArrived) hbound hlogs token)
  refine ⟨fun token conn hb he => ?_, fun token c' hc' hnone => ?_, fun token c' hc' => ?_⟩
  · rw [hbound] at hb
    rw [hearly] at he
    obtain ⟨k, hget, hk⟩ := h.handles token conn hb he
    obtain ⟨k', hget', hkeep⟩ := hhandles conn k hget
    exact ⟨k', hget', hkeep hk⟩
  · obtain ⟨c, hc, hsent⟩ := hconnectors token c' hc'
    rw [hsent]
    refine h.nothing token c hc fun conn k hb hget => ?_
    obtain ⟨k', hget', hkeep⟩ := hhandles conn k hget
    rw [← hbound] at hb
    have hfalse := hnone conn k' hb hget'
    by_contra hk
    rw [hkeep (by simpa using hk)] at hfalse
    cases hfalse
  · obtain ⟨c, hc, hsent⟩ := hconnectors token c' hc'
    obtain ⟨skipped, hskipped, hbegins, hall⟩ := h.block token c hc
    rw [hearly, hsent, hreturned]
    exact ⟨skipped, hskipped, hbegins, fun conn htunnel => hall conn (htunnels _ htunnel)⟩

theorem minor (h : s.Delivered) {ssh : SshState} (hminor : s.ssh.Minor ssh) :
    Delivered { s with ssh } :=
  h.quiet rfl rfl (fun _ => rfl) hminor.tunnels (fun _ c hc => ⟨c, hc, rfl⟩) hminor.handles

/-- A tunnel that is bound now, and has been given nothing. -/
theorem bind (h : s.Delivered) (hup : s.Upstream) (hreplies : s.Replies) (hsockets : s.Sockets)
    {token : ℕ} (hnone : s.bound token = none) (agent : Option ℕ)
    (hbound : s'.bound = Function.update s.bound token agent) (hlogs : s'.logs = s.logs)
    (hearly : ∀ other, other ∉ s'.early → other ∉ s.early)
    (htunnels : ∀ tunnel ∈ s'.ssh.tunnels, tunnel.token ≠ token → tunnel ∈ s.ssh.tunnels)
    (hother : ∀ other, other ≠ token → s'.connectors other = s.connectors other)
    (hself : ∀ c, s'.connectors token = some c → payloads c.down.sent = [])
    (hconns : ∀ (i : ℕ) (k : Conn), s.ssh.conns[i]? = some k →
      ∃ k' : Conn, s'.ssh.conns[i]? = some k' ∧ (k.handles → k'.handles))
    (hagent : ∀ conn, agent = some conn → token ∉ s'.early →
      ∃ k : Conn, s'.ssh.conns[conn]? = some k ∧ k.handles) : s'.Delivered := by
  have hnothing : s'.returned token = [] := by
    rw [returned, logOf, hbound, Function.update_self, hlogs]
    cases agent with
    | none => rfl
    | some conn =>
        have hbegins := own_prefix token (hup.downArrived_prefix conn)
        rw [(hreplies.fresh hsockets hnone).2 conn] at hbegins
        exact List.prefix_nil.mp hbegins
  have hsame {other : ℕ} (hne : other ≠ token) :
      s'.bound other = s.bound other ∧ s'.returned other = s.returned other := by
    have hkeep : s'.bound other = s.bound other := by rw [hbound, Function.update_of_ne hne]
    exact ⟨hkeep, by rw [returned, returned, logOf, logOf, hkeep, hlogs]⟩
  refine ⟨fun other conn hb he => ?_, fun other c hc hnot => ?_, fun other c hc => ?_⟩
  · by_cases heq : other = token
    · subst heq
      rw [hbound, Function.update_self] at hb
      exact hagent conn hb he
    · rw [(hsame heq).1] at hb
      obtain ⟨k, hget, hk⟩ := h.handles other conn hb (hearly other he)
      obtain ⟨k', hget', hkeep⟩ := hconns conn k hget
      exact ⟨k', hget', hkeep hk⟩
  · by_cases heq : other = token
    · subst heq
      exact hself c hc
    · rw [hother other heq] at hc
      refine h.nothing other c hc fun conn k hb hget => ?_
      obtain ⟨k', hget', hkeep⟩ := hconns conn k hget
      rw [← (hsame heq).1] at hb
      have hfalse := hnot conn k' hb hget'
      by_contra hk
      rw [hkeep (by simpa using hk)] at hfalse
      cases hfalse
  · by_cases heq : other = token
    · subst heq
      rw [hself c hc, hnothing]
      exact ⟨[], fun _ => rfl, List.prefix_rfl, fun _ _ => rfl⟩
    · rw [hother other heq] at hc
      obtain ⟨skipped, hskipped, hbegins, hall⟩ := h.block other c hc
      rw [(hsame heq).2]
      refine ⟨skipped, fun he => hskipped (hearly other he), hbegins, fun conn htunnel => ?_⟩
      exact hall conn (htunnels _ htunnel heq)

/-- A frame of the agent, recorded if it has data. -/
def arrived (s : TunnelState) (conn : ℕ) (frame : Frame) : TunnelState :=
  s.log conn fun log =>
    if frame.msg.type = sshStreamData then
      { log with downArrived := log.downArrived ++ [frame] }
    else log

/-- A frame arrives for the tunnels of its connection. -/
theorem returned_arrived {conn : ℕ} {frame : Frame} (hbound : s'.bound = s.bound)
    (hlogs : s'.logs = (arrived s conn frame).logs) (token : ℕ) :
    payloads (s'.returned token) = payloads (s.returned token) ++
      if s.bound token = some conn then payloads (own token [frame]) else [] := by
  rw [returned, returned, logOf, logOf, hbound, hlogs]
  cases hconn : s.bound token with
  | none => simp
  | some k =>
      rw [Option.elim_some, Option.elim_some]
      dsimp only [arrived, log]
      by_cases hk : k = conn
      · subst hk
        rw [Function.update_self, if_pos rfl]
        by_cases hdata : frame.msg.type = sshStreamData
        · rw [if_pos hdata, own_append, payloads_append]
        · have hnothing : payloads (own token [frame]) = [] := by
            by_cases howner : frame.owner = token
            · rw [← howner, own_singleton, payloads_singleton]
              exact if_neg hdata
            · rw [own_singleton_of_ne howner]
              rfl
          rw [if_neg hdata, hnothing, List.append_nil]
      · rw [Function.update_of_ne hk, if_neg (by simpa using hk), List.append_nil]

section AgentFrame

variable {ssh : SshState} (h : s.Delivered) (hminor : s.ssh.Minor ssh)
include h hminor

theorem handles_minor (token conn : ℕ) (hb : s.bound token = some conn) (he : token ∉ s.early) :
    ∃ k : Conn, ssh.conns[conn]? = some k ∧ k.handles := by
  obtain ⟨old, hold, hk⟩ := h.handles token conn hb he
  obtain ⟨new, hnew, hkeep⟩ := hminor.handles conn old hold
  exact ⟨new, hnew, hkeep hk⟩

theorem nothing_minor (token : ℕ) (c : Connector) (hc : s.connectors token = some c)
    (hnot : ∀ (conn : ℕ) (k : Conn), s.bound token = some conn → ssh.conns[conn]? = some k →
      k.handles = false) : payloads c.down.sent = [] := by
  refine h.nothing token c hc fun conn old hb hold => ?_
  obtain ⟨new, hnew, hkeep⟩ := hminor.handles conn old hold
  have hfalse := hnot conn new hb hnew
  by_contra hk
  rw [hkeep (by simpa using hk)] at hfalse
  cases hfalse

variable (hup : s.Upstream) {conn : ℕ} {k : Conn} (hget : s.ssh.conns[conn]? = some k)
include hup hget

/-- What the hub drops comes early, before it handles the frames of the connection, or late, when no
tunnel is bound to it any more. -/
theorem frameDropped (frame : Frame)
    (hlate : k.handles = true → ∀ tunnel ∈ s.ssh.tunnels, tunnel.agent ≠ some conn) :
    Delivered { arrived s conn frame with ssh } := by
  have hreturned (token : ℕ) : payloads (returned { arrived s conn frame with ssh } token) =
      payloads (s.returned token) ++
        if s.bound token = some conn then payloads (own token [frame]) else [] := by
    refine returned_arrived ?_ ?_ token <;> rfl
  refine ⟨h.handles_minor hminor, h.nothing_minor hminor, fun token c hc => ?_⟩
  obtain ⟨skipped, hskipped, hbegins, hall⟩ := h.block token c hc
  rw [hreturned]
  by_cases hb : s.bound token = some conn
  · rw [if_pos hb]
    cases hhandled : k.handles with
    | false =>
        have hsent : payloads c.down.sent = [] := by
          refine h.nothing token c hc fun conn' k' hb' hget' => ?_
          obtain rfl := Option.some.inj (hb.symm.trans hb')
          rwa [← Option.some.inj (hget.symm.trans hget')]
        have hearly : token ∈ s.early := by
          by_contra he
          obtain ⟨k', hget', hyes⟩ := h.handles token conn hb he
          rw [← Option.some.inj (hget.symm.trans hget'), hhandled] at hyes
          cases hyes
        refine ⟨payloads (s.returned token) ++ payloads (own token [frame]),
          fun he => absurd hearly he, ?_, fun _ _ => ?_⟩
        · rw [hsent, List.append_nil]
        · rw [hsent, List.append_nil]
    | true =>
        refine ⟨skipped, hskipped, hbegins.trans (List.prefix_append _ _), fun conn' htunnel => ?_⟩
        have htunnel := hminor.tunnels _ htunnel
        refine absurd ?_ (hlate hhandled _ htunnel)
        rw [(hup.bound.tunnels _ htunnel).1, hb]
  · rw [if_neg hb, List.append_nil]
    exact ⟨skipped, hskipped, hbegins, fun conn' htunnel =>
      hall conn' (hminor.tunnels _ htunnel)⟩

/-- What the hub hands to a user is the next of what the agent sent for the user's tunnel. -/
theorem frameForwarded {frame : Frame} (hhandled : k.handles = true)
    (htunnel : ⟨frame.owner, some conn⟩ ∈ s.ssh.tunnels) :
    Delivered { (arrived s conn frame).forward frame.owner frame.msg with ssh } := by
  have hb : s.bound frame.owner = some conn := (hup.bound.tunnels _ htunnel).1.symm
  have hconnectors (token : ℕ) (c : Connector)
      (hc : ((arrived s conn frame).forward frame.owner frame.msg).connectors token = some c) :
      ∃ old, s.connectors token = some old ∧ payloads c.down.sent =
        payloads old.down.sent ++ if token = frame.owner then frame.msg.payload else [] := by
    obtain ⟨old, hold, rfl⟩ := forward_connectors hc
    refine ⟨old, hold, ?_⟩
    split
    · dsimp only [Link.send]
      rw [payloads_append, payloads_singleton]
    · rw [List.append_nil]
  obtain ⟨connectors, heq⟩ := forward_eq (arrived s conn frame) frame.owner frame.msg
  rw [heq] at hconnectors ⊢
  have hreturned (token : ℕ) :
      payloads (returned { arrived s conn frame with ssh, connectors } token) =
        payloads (s.returned token) ++
          if s.bound token = some conn then payloads (own token [frame]) else [] := by
    refine returned_arrived ?_ ?_ token <;> rfl
  refine ⟨h.handles_minor hminor, fun token c hc hnot => ?_, fun token c hc => ?_⟩
  · obtain ⟨old, hold, hsent⟩ := hconnectors token c hc
    by_cases htoken : token = frame.owner
    · subst htoken
      obtain ⟨new, hnew, hkeep⟩ := hminor.handles conn k hget
      have hfalse := hnot conn new hb hnew
      rw [hkeep hhandled] at hfalse
      cases hfalse
    · rw [hsent, if_neg htoken, List.append_nil]
      exact h.nothing_minor hminor token old hold hnot
  · obtain ⟨old, hold, hsent⟩ := hconnectors token c hc
    obtain ⟨skipped, hskipped, hbegins, hall⟩ := h.block token old hold
    rw [hsent, hreturned]
    by_cases htoken : token = frame.owner
    · subst htoken
      have hgrown : skipped ++ (payloads old.down.sent ++ frame.msg.payload) =
          payloads (s.returned frame.owner) ++ payloads (own frame.owner [frame]) := by
        rw [← List.append_assoc, hall conn htunnel, own_singleton, payloads_singleton]
      rw [if_pos rfl, if_pos hb]
      refine ⟨skipped, hskipped, ?_, fun _ _ => hgrown⟩
      rw [hgrown]
    · rw [if_neg htoken, List.append_nil, own_singleton_of_ne (Ne.symm htoken)]
      have hsame : payloads (s.returned token) ++
          (if s.bound token = some conn then payloads [] else []) =
            payloads (s.returned token) := by
        split <;> exact List.append_nil _
      rw [hsame]
      exact ⟨skipped, hskipped, hbegins, fun conn' htunnel =>
        hall conn' (hminor.tunnels _ htunnel)⟩

end AgentFrame

theorem agentFrame (h : s.Delivered) (hup : s.Upstream) {conn : ℕ} {candidate : Option ℕ}
    {ssh : SshState} (hssh : s.ssh.step (.agentFrame conn candidate) = some ssh)
    (hobserve : s.agentFrame conn candidate = some t) (hisolated : ssh.Isolated) :
    Delivered { t with ssh } := by
  have hminor := SshState.Minor.step (by simp) (by simp) (by simp) (by simp) (by simp) hssh
  obtain ⟨k, frame, rest, hget, hqueue, htakes⟩ := SshState.forwardAgentMessage_effects hssh
  obtain ⟨k', frame', rest', hget', hqueue', hseen⟩ := agentFrame_cases hobserve
  obtain rfl := Option.some.inj (hget.symm.trans hget')
  obtain ⟨rfl, rfl⟩ := List.cons.inj (hqueue.symm.trans hqueue')
  rcases hseen with ⟨hdropped, rfl⟩ | ⟨user, rfl, hhandled, rfl⟩
  · refine h.frameDropped hminor hup hget frame fun hhandled => ?_
    rcases htakes hhandled with ⟨-, hnone⟩ | ⟨user, hcandidate, -, -⟩
    · exact hnone
    · rcases hdropped with hfalse | hnot
      · rw [hhandled] at hfalse
        cases hfalse
      · rw [hcandidate] at hnot
        cases hnot
  · rcases htakes hhandled with ⟨hnot, -⟩ | ⟨other, hcandidate, htunnel, hdelivered⟩
    · cases hnot
    · obtain rfl := Option.some.inj hcandidate
      have howner : frame.owner = user := hisolated.delivered _ hdelivered
      subst howner
      exact h.frameForwarded hminor hup hget hhandled htunnel

theorem step (h : s.Delivered) (hup : s.Upstream) (hreplies : s.Replies) (hsockets : s.Sockets)
    {e : SshEvent} (hstep : s.step (.ssh e) = some s') (hisolated : s'.ssh.Isolated) :
    s'.Delivered := by
  obtain ⟨t, ssh, hssh, hobserve, rfl⟩ := step_ssh hstep
  have hsame (token : ℕ) (c : Connector) (hc : s.connectors token = some c) :
      ∃ old, s.connectors token = some old ∧ c.down.sent = old.down.sent := ⟨c, hc, rfl⟩
  cases e with
  | connectUser token =>
      cases hobserve
      have hnone := (hup.bound.connectUser_fresh hssh).2
      obtain ⟨-, hssh⟩ := Option.ite_none_right_eq_some.mp hssh
      cases hssh
      refine h.bind hup hreplies hsockets hnone s.ssh.agent rfl rfl (fun other he => ?_)
        (fun tunnel hmem hne => ?_) (fun other hne => setConnector_of_ne hne) (fun c hc => ?_)
        (fun i k hget => ⟨k, hget, id⟩) fun conn hconn he => ?_
      · dsimp only [TunnelState.connectUser] at he
        split at he
        · exact he
        · exact fun hmem => he (List.mem_cons_of_mem _ hmem)
      · exact (List.mem_cons.mp hmem).resolve_left fun heq => hne (heq ▸ rfl)
      · have hnew := (setConnector_self s token {}).symm.trans hc
        rw [← Option.some.inj hnew]
        rfl
      · dsimp only [TunnelState.connectUser] at he
        split at he
        · rename_i hall
          rw [hconn, Option.all_some] at hall
          exact Option.any_eq_true _ _ |>.mp hall
        · exact absurd List.mem_cons_self he
  | attachWaiting conn waiting =>
      cases waiting with
      | none =>
          cases hobserve
          exact h.minor (.step (by simp) (by simp) (by simp) (by simp) (by simp) hssh)
      | some token =>
          cases hobserve
          obtain ⟨hwaiting, hconn, rfl⟩ := attachWaiting_some hssh
          have hnone := (hup.bound.tunnels _ hwaiting).1.symm
          have hconns := (SshState.Minor.modifyConn s.ssh conn
            (f := fun conn => { conn with attachment := .attached }) fun _ _ _ => rfl).handles
          refine h.bind hup hreplies hsockets hnone (some conn) rfl rfl (fun _ => id)
            (fun tunnel hmem hne => ?_) (fun _ _ => rfl) (fun c hc => ?_) hconns fun i hi _ => ?_
          · obtain ⟨old, hold, rfl⟩ := List.mem_map.mp hmem
            by_cases heq : old.token = token
            · rw [if_pos heq] at hne
              exact absurd heq hne
            · rwa [if_neg heq]
          · refine h.nothing token c hc fun k _ hb => ?_
            rw [hnone] at hb
            cases hb
          · obtain rfl := Option.some.inj hi
            refine ⟨{ s.ssh.conns[conn] with attachment := .attached }, ?_, rfl⟩
            dsimp only [SshState.modifyConn]
            rw [List.getElem?_modify_eq, List.getElem?_eq_getElem hconn]
            rfl
  | userFrame token msg =>
      obtain ⟨c, up, hc, hup', rfl⟩ := userFrame_cases hobserve
      have hconnectors : ∀ other c',
          (s.setConnector token { c with up }).connectors other = some c' →
          ∃ old, s.connectors other = some old ∧ c'.down.sent = old.down.sent := by
        intro other c' hc'
        by_cases heq : other = token
        · subst heq
          rw [setConnector_self] at hc'
          obtain rfl := Option.some.inj hc'
          exact ⟨c, hc, rfl⟩
        · rw [setConnector_of_ne heq] at hc'
          exact ⟨c', hc', rfl⟩
      rcases SshState.forwardUserMessage_cases hssh with rfl | ⟨conn, -, -, rfl⟩
      · exact h.quiet rfl rfl (fun _ => rfl) (fun _ => id) hconnectors fun _ k hget => ⟨k, hget, id⟩
      · exact h.quiet rfl rfl (fun _ => rfl) (fun _ => id) hconnectors fun _ k hget => ⟨k, hget, id⟩
  | sendStream entry =>
      cases hobserve
      obtain ⟨-, hssh⟩ := Option.ite_none_right_eq_some.mp hssh
      cases hssh
      have hconns := (SshState.Minor.modifyConn s.ssh entry.1 (f := (·.sendToAgent entry.2))
        fun k _ hk => by unfold Conn.sendToAgent; split <;> exact hk).handles
      refine h.quiet rfl rfl ?_ (fun _ => id) hsame hconns
      exact log_congr (·.downArrived) s entry.1
        (g := fun log => { log with upSent := log.upSent ++ [entry.2] }) fun _ => rfl
  | receive conn dialOk =>
      obtain ⟨c, frame, rest, -, -, hcase⟩ := receive_effects hssh hobserve
      have hlogs := log_congr (·.downArrived) s conn (g := fun log =>
        { log with upArrived := log.upArrived ++ [frame] }) fun _ => rfl
      rcases hcase with ⟨hminor, rfl, -⟩ | ⟨hdials, -, rfl⟩ | ⟨socket, -, -, -, hminor, -, rfl⟩
      · exact h.quiet rfl rfl hlogs hminor.tunnels hsame hminor.handles
      · exact h.quiet rfl rfl hlogs (fun _ hmem => hdials.tunnels ▸ hmem) hsame hdials.handles
      · exact h.quiet rfl rfl hlogs hminor.tunnels hsame hminor.handles
  | readData i data =>
      have hminor := SshState.Minor.step (by simp) (by simp) (by simp) (by simp) (by simp) hssh
      obtain ⟨reader, hget, ⟨-, rfl⟩ | ⟨conn, -, rfl⟩⟩ := readData_cases hobserve
      · exact h.quiet rfl rfl (fun _ => rfl) hminor.tunnels hsame hminor.handles
      · refine h.quiet rfl rfl ?_ hminor.tunnels hsame hminor.handles
        exact log_congr (·.downArrived) s conn (g := fun log => { log with downSent := _ })
          fun _ => rfl
  | agentFrame conn candidate => exact h.agentFrame hup hssh hobserve hisolated
  | _ =>
      cases hobserve
      exact h.minor (.step (by simp) (by simp) (by simp) (by simp) (by simp) hssh)

end Delivered





end Picket.TunnelState
