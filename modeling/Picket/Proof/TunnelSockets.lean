import Picket.Proof.TunnelUpstream

/-!
# What is written to a socket

The connector opens its stream once, so that a tunnel has one socket at most; and as long as no
tunnel gets in the way of another, the socket that is found for a frame is that of its tunnel.
-/

namespace Picket.TunnelState

open Link

variable {s s' t : TunnelState}

/-! ### The connectors -/

def ConnectorsOk (s : TunnelState) : Prop :=
  ∀ token c, s.connectors token = some c → c.Ok

theorem ConnectorsOk.setConnector (h : s.ConnectorsOk) {token : ℕ} {c : Connector} (hc : c.Ok) :
    (s.setConnector token c).ConnectorsOk := by
  intro other c' hc'
  by_cases heq : other = token
  · subst heq
    rw [setConnector_self] at hc'
    rwa [← Option.some.inj hc']
  · rw [setConnector_of_ne heq] at hc'
    exact h other c' hc'

theorem ConnectorsOk.step (h : s.ConnectorsOk) {e : TunnelEvent} (hstep : s.step e = some s') :
    s'.ConnectorsOk := by
  cases e with
  | user token e =>
      obtain ⟨c, c', hc, hc', rfl⟩ := step_user hstep
      exact h.setConnector ((h token c hc).step hc')
  | ssh e =>
      obtain ⟨t, ssh, -, hobserve, rfl⟩ := step_ssh hstep
      cases e with
      | connectUser token =>
          cases hobserve
          exact h.setConnector Connector.ok_init
      | userFrame token msg =>
          obtain ⟨c, up, hc, hup, rfl⟩ := userFrame_cases hobserve
          obtain ⟨rest, -, rfl⟩ := receive_eq_some hup
          have hok := h token c hc
          exact h.setConnector { hok with up := hok.up.receive hup }
      | agentFrame conn candidate =>
          obtain ⟨c, frame, rest, -, -, ⟨-, rfl⟩ | ⟨user, -, -, rfl⟩⟩ := agentFrame_cases hobserve
          · exact h
          · intro token c' hc'
            obtain ⟨c, hc, rfl⟩ := forward_connectors hc'
            have hok := h token c hc
            split
            · exact { hok with down := hok.down.send frame.msg }
            · exact hok
      | attachWaiting conn waiting =>
          cases waiting <;>
          · cases hobserve
            exact h
      | receive conn dialOk =>
          obtain ⟨c, frame, rest, -, -, rfl⟩ := receive_cases hobserve
          rcases handleSSHStream_cases (s.log conn fun log =>
            { log with upArrived := log.upArrived ++ [frame] }) frame dialOk with
            ⟨heq, -⟩ | ⟨-, -, -, heq⟩ | ⟨_, -, -, -, heq⟩ <;>
          · rw [heq]
            exact h
      | readData i data =>
          obtain ⟨reader, -, ⟨-, rfl⟩ | ⟨conn, -, rfl⟩⟩ := readData_cases hobserve
          · exact h
          · exact h
      | _ =>
          cases hobserve
          exact h

/-! ### What the agent has handled -/

/-- All about the way from the connectors to the agent. -/
structure Upstream (s : TunnelState) : Prop where
  bound : s.Bound
  links : ConnLogs s.ssh.conns s.logs
  connectors : s.ConnectorsOk
  forwarded : s.Forwarded

namespace Upstream

theorem step_user {token : ℕ} {e : ConnectorEvent} (h : s.Upstream)
    (hstep : s.step (.user token e) = some s') : s'.Upstream := by
  have hconnectors := h.connectors.step hstep
  obtain ⟨c, c', hc, hc', rfl⟩ := TunnelState.step_user hstep
  refine ⟨?_, h.links, hconnectors, h.forwarded.quiet ⟨rfl, fun _ => rfl, rfl, fun _ => id, ?_⟩⟩
  · have hbound := h.bound
    rw [Bound, ← setConnector_connected hc c'] at hbound
    exact hbound
  · intro other d hd
    by_cases heq : other = token
    · subst heq
      rw [setConnector_self] at hd
      obtain rfl := Option.some.inj hd
      exact ⟨c, hc, (Connector.step_hub hc').1⟩
    · rw [setConnector_of_ne heq] at hd
      exact ⟨d, hd, rfl⟩

theorem step {e : TunnelEvent} (h : s.Upstream) (hstep : s.step e = some s') : s'.Upstream := by
  cases e with
  | user token e => exact h.step_user hstep
  | ssh e =>
      exact ⟨(h.bound.step hstep).1, connLogs_step h.bound h.links hstep, h.connectors.step hstep,
        h.forwarded.step h.bound hstep⟩

theorem upArrived_prefix (h : s.Upstream) (i : ℕ) : (s.logs i).upArrived <+: (s.logs i).upSent := by
  rcases Nat.lt_or_ge i s.ssh.conns.length with hlt | hge
  · exact (h.links.recorded i _ (List.getElem?_eq_getElem hlt)).up.arrived_prefix
  · rw [h.links.unused i hge]

theorem handled_prefix (h : s.Upstream) (token : ℕ) :
    s.handled token <+: own token (s.logOf token).upSent := by
  rw [handled, logOf]
  cases s.bound token with
  | none => exact List.prefix_rfl
  | some conn => exact own_prefix token (h.upArrived_prefix conn)

/-- The agent handles what the connector has sent, without gaps. -/
theorem handled_infix (h : s.Upstream) {token : ℕ} {c : Connector}
    (hc : s.connectors token = some c) : s.handled token <:+: c.up.sent :=
  calc
    s.handled token <:+: s.forwarded token :=
      ((h.handled_prefix token).trans (List.prefix_append _ _)).isInfix
    _ <:+: c.up.arrived := h.forwarded.block token c hc
    _ <:+: c.up.sent := (h.connectors token c hc).up.arrived_prefix.isInfix

theorem connected (h : s.Upstream) {token conn : ℕ} (hconn : s.bound token = some conn) :
    ∃ c, s.connectors token = some c := by
  by_contra hnone
  push Not at hnone
  have hfree : s.connectors token = none := Option.eq_none_iff_forall_ne_some.mpr hnone
  have hunbound := h.bound.unbound token (by rw [TunnelState.connected, hfree]; rfl)
  rw [hunbound] at hconn
  cases hconn

/-- A frame that is under way to the agent. -/
theorem underWay (h : s.Upstream) {i : ℕ} {conn : Conn} (hget : s.ssh.conns[i]? = some conn)
    {frame : Frame} (hmem : frame ∈ conn.toAgent) :
    s.bound frame.owner = some i ∧ frame.msg.magic = sshStreamMagic ∧ frame.msg.streamID = 1 := by
  have hsent : frame ∈ (s.logs i).upSent :=
    (h.links.recorded i conn hget).up.inOrder.subset (List.mem_append_right _ hmem)
  have hbound := h.forwarded.owners i frame hsent
  obtain ⟨c, hc⟩ := h.connected hbound
  refine ⟨hbound, (h.connectors frame.owner c hc).frames frame.msg ?_⟩
  have hforwarded : frame.msg ∈ s.forwarded frame.owner := by
    refine List.mem_append_left _ (List.mem_map_of_mem (List.mem_filter.mpr ⟨?_, by simp⟩))
    rw [logOf, hbound]
    exact hsent
  exact (h.connectors frame.owner c hc).up.arrived_prefix.subset
    ((h.forwarded.block frame.owner c hc).subset hforwarded)

/-- A tunnel that is bound now has had nothing handled. -/
theorem handled_bind (h : s.Upstream) {token : ℕ} (hnone : s.bound token = none)
    (agent : Option ℕ) (hbound : s'.bound = Function.update s.bound token agent)
    (hlogs : s'.logs = s.logs) (other : ℕ) : s'.handled other = s.handled other := by
  by_cases heq : other = token
  · subst heq
    have hnothing : own other (agent.elim {} s.logs).upArrived = [] := by
      have hsent := (h.forwarded.forwarded_eq_nil h.bound hnone agent).1
      cases agent with
      | none => rfl
      | some conn =>
          have hbegins := own_prefix other (h.upArrived_prefix conn)
          rw [Option.elim_some] at hsent ⊢
          rw [hsent] at hbegins
          exact List.prefix_nil.mp hbegins
    rw [handled, handled, logOf, logOf, hbound, Function.update_self, hnone, hlogs, hnothing]
    rfl
  · rw [handled, handled, logOf, logOf, hbound, Function.update_of_ne heq, hlogs]

end Upstream

/-- A frame that the agent handles. -/
theorem handled_receive {conn : ℕ} {frame : Frame} (howner : s.bound frame.owner = some conn)
    (hbound : s'.bound = s.bound)
    (hlogs : s'.logs = (s.log conn fun log =>
      { log with upArrived := log.upArrived ++ [frame] }).logs) (token : ℕ) :
    s'.handled token = s.handled token ++ own token [frame] := by
  rw [handled, handled, logOf, logOf, hbound, hlogs]
  cases hconn : s.bound token with
  | none =>
      have hne : frame.owner ≠ token := by
        rintro rfl
        rw [hconn] at howner
        cases howner
      rw [own_singleton_of_ne hne, List.append_nil]
      rfl
  | some conn' =>
      rw [Option.elim_some, Option.elim_some]
      by_cases heq : conn' = conn
      · subst heq
        dsimp only [log]
        rw [Function.update_self, own_append]
      · have hne : frame.owner ≠ token := by
          rintro rfl
          rw [hconn] at howner
          exact heq (Option.some.inj howner)
        dsimp only [log]
        rw [Function.update_of_ne heq, own_singleton_of_ne hne, List.append_nil]

/-! ### The sockets -/

/-- Every tunnel has one socket at most, and what was written to it is what was handled for the
tunnel, as far as the socket is there. -/
structure Sockets (s : TunnelState) : Prop where
  refs : ∀ socket ∈ s.sockets, socket.ref < s.ssh.dialed
  distinct : (s.sockets.map (·.ref)).Nodup
  owners : (s.sockets.map (·.owner)).Nodup
  unused : ∀ ref, s.ssh.dialed ≤ ref → s.socketIn ref = []
  opened : ∀ socket ∈ s.sockets, ∃ msg ∈ s.handled socket.owner, msg.type = sshStreamOpen
  entries : ∀ entry ∈ s.ssh.sshStreams, entry.2 ∈ s.sockets
  written : ∀ socket ∈ s.sockets, s.socketIn socket.ref <+: payloads (s.handled socket.owner)
  live : ∀ socket, s.ssh.sshStreams.lookup 1 = some socket → socket.ref ∉ s.ssh.closed →
    s.socketIn socket.ref = payloads (s.handled socket.owner)

namespace Sockets

theorem quiet (h : s.Sockets) (hsockets : s'.sockets = s.sockets)
    (hentries : ∀ entry ∈ s'.ssh.sshStreams, entry ∈ s.ssh.sshStreams)
    (hlive : ∀ socket, s'.ssh.sshStreams.lookup 1 = some socket → socket.ref ∉ s'.ssh.closed →
      s.ssh.sshStreams.lookup 1 = some socket ∧ socket.ref ∉ s.ssh.closed)
    (hdialed : s'.ssh.dialed = s.ssh.dialed) (hin : s'.socketIn = s.socketIn)
    (hhandled : ∀ token, s'.handled token = s.handled token) : s'.Sockets where
  refs := by
    rw [hsockets, hdialed]
    exact h.refs
  distinct := by
    rw [hsockets]
    exact h.distinct
  owners := by
    rw [hsockets]
    exact h.owners
  unused := by
    rw [hdialed, hin]
    exact h.unused
  opened := by
    simp only [hsockets, hhandled]
    exact h.opened
  entries entry hentry := by
    rw [hsockets]
    exact h.entries entry (hentries entry hentry)
  written := by
    simp only [hsockets, hhandled, hin]
    exact h.written
  live socket hlookup hopen := by
    obtain ⟨hlookup, hopen⟩ := hlive socket hlookup hopen
    rw [hin, hhandled]
    exact h.live socket hlookup hopen

theorem eq_of_owner (h : s.Sockets) {socket other : Socket} (hsocket : socket ∈ s.sockets)
    (hother : other ∈ s.sockets) (howner : socket.owner = other.owner) : socket = other :=
  List.inj_on_of_nodup_map h.owners hsocket hother howner

theorem eq_of_ref (h : s.Sockets) {socket other : Socket} (hsocket : socket ∈ s.sockets)
    (hother : other ∈ s.sockets) (href : socket.ref = other.ref) : socket = other :=
  List.inj_on_of_nodup_map h.distinct hsocket hother href

/-- The agent finds no socket for the frame, or the frame is not about one. -/
theorem pass (h : s.Sockets) {frame : Frame} (hsockets : s'.sockets = s.sockets)
    (hin : s'.socketIn = s.socketIn) (hminor : s.ssh.Minor s'.ssh)
    (hhandled : ∀ token, s'.handled token = s.handled token ++ own token [frame])
    (hclosed : frame.msg.type = sshStreamData → ∀ socket,
      s.ssh.sshStreams.lookup 1 = some socket → socket.ref ∈ s.ssh.closed) : s'.Sockets where
  refs := by
    rw [hsockets, hminor.dialed]
    exact h.refs
  distinct := by
    rw [hsockets]
    exact h.distinct
  owners := by
    rw [hsockets]
    exact h.owners
  unused := by
    rw [hminor.dialed, hin]
    exact h.unused
  opened socket hmem := by
    rw [hsockets] at hmem
    obtain ⟨msg, hmsg, hopen⟩ := h.opened socket hmem
    rw [hhandled]
    exact ⟨msg, List.mem_append_left _ hmsg, hopen⟩
  entries entry hentry := by
    rw [hsockets]
    exact h.entries entry (hminor.entries entry hentry)
  written socket hmem := by
    rw [hsockets] at hmem
    rw [hin, hhandled, payloads_append]
    exact (h.written socket hmem).trans (List.prefix_append _ _)
  live socket hlookup hopen := by
    obtain ⟨hlookup, hopen⟩ := hminor.live 1 socket hlookup hopen
    have hnothing : payloads (own socket.owner [frame]) = [] := by
      by_cases howner : frame.owner = socket.owner
      · rw [← howner, own_singleton, payloads_singleton]
        exact if_neg fun hdata => hopen (hclosed hdata socket hlookup)
      · rw [own_singleton_of_ne howner]
        rfl
    rw [hin, hhandled, payloads_append, hnothing, List.append_nil]
    exact h.live socket hlookup hopen

/-- A socket is dialed for the first frame of a tunnel. -/
theorem dial (h : s.Sockets) {frame : Frame} {streamID : Uint32}
    (hsockets : s'.sockets = s.sockets ++ [⟨s.ssh.dialed, frame.owner⟩])
    (hin : s'.socketIn = s.socketIn)
    (hdials : s.ssh.Dials s'.ssh streamID ⟨s.ssh.dialed, frame.owner⟩) (hstream : streamID = 1)
    (hhandled : ∀ token, s'.handled token = s.handled token ++ own token [frame])
    (hopen : frame.msg.type = sshStreamOpen) (honce : OpensOnce (s'.handled frame.owner)) :
    s'.Sockets := by
  rw [hhandled, own_singleton] at honce
  have hfirst : s.handled frame.owner = [] := honce.eq_nil hopen
  have hnew : s'.handled frame.owner = [frame.msg] := by
    rw [hhandled, own_singleton, hfirst, List.nil_append]
  have hnone : ∀ socket ∈ s.sockets, socket.owner ≠ frame.owner := by
    intro socket hmem howner
    obtain ⟨msg, hmsg, -⟩ := h.opened socket hmem
    rw [howner, hfirst] at hmsg
    cases hmsg
  have hother {token : ℕ} (hne : token ≠ frame.owner) : s'.handled token = s.handled token := by
    rw [hhandled, own_singleton_of_ne (Ne.symm hne), List.append_nil]
  have hempty : s.socketIn s.ssh.dialed = [] := h.unused _ le_rfl
  have hpayload : payloads [frame.msg] = [] := by
    rw [payloads_singleton]
    exact if_neg fun hdata => absurd (hopen.symm.trans hdata) (by decide)
  refine ⟨fun socket hmem => ?_, ?_, ?_, fun ref hle => ?_, fun socket hmem => ?_,
    fun entry hentry => ?_, fun socket hmem => ?_, fun socket hlookup _ => ?_⟩
  · rw [hsockets] at hmem
    rw [hdials.dialed]
    rcases List.mem_append.mp hmem with hold | hnew
    · exact Nat.lt_add_right 1 (h.refs socket hold)
    · rw [List.mem_singleton.mp hnew]
      exact Nat.lt_add_one _
  · rw [hsockets, List.map_append, List.nodup_append]
    refine ⟨h.distinct, List.nodup_singleton _, ?_⟩
    rintro ref hold _ hnew rfl
    obtain ⟨socket, hmem, rfl⟩ := List.mem_map.mp hold
    have hlt := h.refs socket hmem
    rw [List.mem_singleton.mp hnew] at hlt
    exact Nat.lt_irrefl _ hlt
  · rw [hsockets, List.map_append, List.nodup_append]
    refine ⟨h.owners, List.nodup_singleton _, ?_⟩
    rintro owner hold _ hnew rfl
    obtain ⟨socket, hmem, rfl⟩ := List.mem_map.mp hold
    exact hnone socket hmem (List.mem_singleton.mp hnew)
  · rw [hdials.dialed] at hle
    rw [hin]
    exact h.unused ref (Nat.le_of_succ_le hle)
  · rw [hsockets] at hmem
    rcases List.mem_append.mp hmem with hold | hnew'
    · rw [hother (hnone socket hold)]
      exact h.opened socket hold
    · rw [List.mem_singleton.mp hnew', hnew]
      exact ⟨frame.msg, List.mem_singleton_self _, hopen⟩
  · rw [hsockets]
    rcases hdials.entries entry hentry with rfl | hold
    · exact List.mem_append_right _ (List.mem_singleton_self _)
    · exact List.mem_append_left _ (h.entries entry hold)
  · rw [hsockets] at hmem
    rw [hin]
    rcases List.mem_append.mp hmem with hold | hnew'
    · rw [hother (hnone socket hold)]
      exact h.written socket hold
    · rw [List.mem_singleton.mp hnew', hempty]
      exact List.nil_prefix
  · rw [← hstream] at hlookup
    rw [hdials.live socket hlookup, hin, hempty, hnew, hpayload]

/-- Data is written to the socket of its own tunnel. -/
theorem write (h : s.Sockets) {frame : Frame} {socket : Socket}
    (hsockets : s'.sockets = s.sockets)
    (hin : s'.socketIn = record s.socketIn socket.ref frame.msg.data)
    (hminor : s.ssh.Minor s'.ssh)
    (hhandled : ∀ token, s'.handled token = s.handled token ++ own token [frame])
    (hlookup : s.ssh.sshStreams.lookup 1 = some socket) (hopen : socket.ref ∉ s.ssh.closed)
    (hdata : frame.msg.type = sshStreamData) (howner : frame.owner = socket.owner) :
    s'.Sockets := by
  have hsocket : socket ∈ s.sockets := h.entries _ (AssocList.mem_of_lookup hlookup)
  have hpayload : frame.msg.payload = frame.msg.data := if_pos hdata
  have hself : s'.socketIn socket.ref = payloads (s'.handled socket.owner) := by
    rw [hin, record_self, hhandled, payloads_append, ← howner, own_singleton, payloads_singleton,
      hpayload, howner, h.live socket hlookup hopen]
  have hother : ∀ other ∈ s.sockets, other ≠ socket →
      s'.socketIn other.ref = s.socketIn other.ref ∧
        s'.handled other.owner = s.handled other.owner := by
    intro other hmem hne
    have hrefs : other.ref ≠ socket.ref := fun heq => hne (h.eq_of_ref hmem hsocket heq)
    have howners : frame.owner ≠ other.owner := fun heq =>
      hne (h.eq_of_owner hmem hsocket (heq.symm.trans howner))
    exact ⟨by rw [hin, record_of_ne _ hrefs],
      by rw [hhandled, own_singleton_of_ne howners, List.append_nil]⟩
  refine ⟨?_, ?_, ?_, fun ref hle => ?_, fun other hmem => ?_, fun entry hentry => ?_,
    fun other hmem => ?_, fun other hfound hstays => ?_⟩
  · rw [hsockets, hminor.dialed]
    exact h.refs
  · rw [hsockets]
    exact h.distinct
  · rw [hsockets]
    exact h.owners
  · rw [hminor.dialed] at hle
    have hne : ref ≠ socket.ref := by
      rintro rfl
      exact Nat.not_lt.mpr hle (h.refs socket hsocket)
    rw [hin, record_of_ne _ hne]
    exact h.unused ref hle
  · rw [hsockets] at hmem
    obtain ⟨msg, hmsg, htype⟩ := h.opened other hmem
    rw [hhandled]
    exact ⟨msg, List.mem_append_left _ hmsg, htype⟩
  · rw [hsockets]
    exact h.entries entry (hminor.entries entry hentry)
  · rw [hsockets] at hmem
    by_cases heq : other = socket
    · rw [heq, hself]
    · obtain ⟨hsame, hkept⟩ := hother other hmem heq
      rw [hsame, hkept]
      exact h.written other hmem
  · obtain ⟨hfound, -⟩ := hminor.live 1 other hfound hstays
    rw [← Option.some.inj (hlookup.symm.trans hfound), hself]

theorem receive (h : s.Sockets) (hup : s.Upstream) {conn : ℕ} {dialOk : Bool} {ssh : SshState}
    (hssh : s.ssh.receive conn dialOk = some ssh) (hobserve : s.receive conn dialOk = some t)
    (hup' : Upstream { t with ssh }) (hisolated : ssh.Isolated) : Sockets { t with ssh } := by
  obtain ⟨c, frame, rest, hget, hqueue, hcase⟩ := receive_effects hssh hobserve
  obtain ⟨howner, hmagic, hstream⟩ := hup.underWay hget (hqueue ▸ List.mem_cons_self)
  rcases hcase with
    ⟨hminor, rfl, hclosed⟩ | ⟨hdials, hopen, rfl⟩ |
      ⟨socket, hlookup, hopen, hdata, hminor, hwritten, rfl⟩
  · rw [hstream] at hclosed
    exact h.pass rfl rfl hminor (handled_receive howner rfl rfl) (hclosed hmagic)
  · refine h.dial rfl rfl hdials hstream (handled_receive howner rfl rfl) hopen ?_
    obtain ⟨user, huser⟩ := hup'.connected howner
    exact (hup'.connectors _ user huser).opens.of_infix (hup'.handled_infix huser)
  · rw [hstream] at hlookup
    exact h.write rfl rfl hminor (handled_receive howner rfl rfl) hlookup hopen hdata
      (hisolated.written _ hwritten)

theorem step (h : s.Sockets) (hup : s.Upstream) {e : SshEvent}
    (hstep : s.step (.ssh e) = some s') (hisolated : s'.ssh.Isolated) : s'.Sockets := by
  have hup' := hup.step hstep
  obtain ⟨t, ssh, hssh, hobserve, rfl⟩ := step_ssh hstep
  have hhandled (hbound : t.bound = s.bound)
      (hlogs : ∀ i, (t.logs i).upArrived = (s.logs i).upArrived) (token : ℕ) :
      handled { t with ssh } token = s.handled token := by
    rw [handled, handled]
    exact congrArg (own token) (logOf_congr (·.upArrived) hbound hlogs token)
  have hquiet (hminor : s.ssh.Minor ssh) (hsockets : t.sockets = s.sockets)
      (hin : t.socketIn = s.socketIn) (hbound : t.bound = s.bound)
      (hlogs : ∀ i, (t.logs i).upArrived = (s.logs i).upArrived) : Sockets { t with ssh } :=
    h.quiet hsockets hminor.entries (hminor.live 1) hminor.dialed hin (hhandled hbound hlogs)
  cases e with
  | connectUser token =>
      cases hobserve
      have hnone := (hup.bound.connectUser_fresh hssh).2
      obtain ⟨-, hssh⟩ := Option.ite_none_right_eq_some.mp hssh
      cases hssh
      exact h.quiet rfl (fun _ => id) (fun _ hlookup hopen => ⟨hlookup, hopen⟩) rfl rfl
        (hup.handled_bind hnone s.ssh.agent rfl rfl)
  | attachWaiting conn waiting =>
      cases waiting with
      | none =>
          cases hobserve
          exact hquiet (.step (by simp) (by simp) (by simp) (by simp) (by simp) hssh) rfl rfl rfl
            fun _ => rfl
      | some token =>
          cases hobserve
          obtain ⟨hwaiting, -, rfl⟩ := attachWaiting_some hssh
          have hnone := (hup.bound.tunnels _ hwaiting).1.symm
          exact h.quiet rfl (fun _ => id) (fun _ hlookup hopen => ⟨hlookup, hopen⟩) rfl rfl
            (hup.handled_bind hnone (some conn) rfl rfl)
  | userFrame token msg =>
      obtain ⟨c, up, -, -, rfl⟩ := userFrame_cases hobserve
      rcases SshState.forwardUserMessage_cases hssh with rfl | ⟨conn, -, -, rfl⟩
      · exact hquiet (.refl _) rfl rfl rfl fun _ => rfl
      · exact h.quiet rfl (fun _ => id) (fun _ hlookup hopen => ⟨hlookup, hopen⟩) rfl rfl
          (hhandled rfl fun _ => rfl)
  | sendStream entry =>
      cases hobserve
      obtain ⟨-, hssh⟩ := Option.ite_none_right_eq_some.mp hssh
      cases hssh
      refine h.quiet rfl (fun _ => id) (fun _ hlookup hopen => ⟨hlookup, hopen⟩) rfl rfl
        (hhandled rfl ?_)
      exact log_congr (·.upArrived) s entry.1
        (g := fun log => { log with upSent := log.upSent ++ [entry.2] }) fun _ => rfl
  | receive conn dialOk => exact h.receive hup hssh hobserve hup' hisolated
  | readData i data =>
      have hminor := SshState.Minor.step (by simp) (by simp) (by simp) (by simp) (by simp) hssh
      obtain ⟨reader, -, ⟨-, rfl⟩ | ⟨conn, -, rfl⟩⟩ := readData_cases hobserve
      · exact hquiet hminor rfl rfl rfl fun _ => rfl
      · refine hquiet hminor rfl rfl rfl ?_
        exact log_congr (·.upArrived) s conn (g := fun log => { log with downSent := _ })
          fun _ => rfl
  | agentFrame conn candidate =>
      have hminor := SshState.Minor.step (by simp) (by simp) (by simp) (by simp) (by simp) hssh
      obtain ⟨c, frame, rest, -, -, hseen⟩ := agentFrame_cases hobserve
      have hlogs := log_congr (·.upArrived) s conn (g := fun log =>
        if frame.msg.type = sshStreamData then
          { log with downArrived := log.downArrived ++ [frame] }
        else log) fun log => by split <;> rfl
      rcases hseen with ⟨-, rfl⟩ | ⟨user, -, -, ht⟩
      · exact hquiet hminor rfl rfl rfl hlogs
      · obtain ⟨connectors, heq⟩ := forward_eq (s.log conn fun log =>
          if frame.msg.type = sshStreamData then
            { log with downArrived := log.downArrived ++ [frame] }
          else log) user frame.msg
        obtain rfl := ht.trans heq
        exact hquiet hminor rfl rfl rfl hlogs
  | _ =>
      cases hobserve
      exact hquiet (.step (by simp) (by simp) (by simp) (by simp) (by simp) hssh) rfl rfl rfl
        fun _ => rfl

end Sockets


end Picket.TunnelState
