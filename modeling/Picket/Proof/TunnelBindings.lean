import Picket.Proof.TunnelSteps

/-!
# What a tunnel is bound to

A tunnel is bound to one connection at most, and stays with it: so all frames of its user go the
same way.
-/

namespace Picket

open Link

/-- The tunnels, and what they are bound to. -/
structure Bindings (ssh : SshState) (bound : ℕ → Option ℕ) (connected : ℕ → Bool) : Prop where
  launches : ∀ token ∈ ssh.launches, token < ssh.created ∧ connected token = false
  created : ∀ token, ssh.created ≤ token → connected token = false
  unbound : ∀ token, connected token = false → bound token = none
  tokens : (ssh.tunnels.map (·.token)).Nodup
  tunnels : ∀ tunnel ∈ ssh.tunnels,
    tunnel.agent = bound tunnel.token ∧ connected tunnel.token = true
  agent : ∀ conn ∈ ssh.agent, conn < ssh.conns.length
  conn : ∀ conn ∈ ssh.conn, conn < ssh.conns.length
  bounds : ∀ token, ∀ conn ∈ bound token, conn < ssh.conns.length
  forwarding : ∀ entry ∈ ssh.forwarding, bound entry.2.owner = some entry.1
  oneEach : (ssh.forwarding.map (·.2.owner)).Nodup

namespace Bindings

variable {ssh ssh' : SshState} {bound : ℕ → Option ℕ} {connected : ℕ → Bool}

theorem modifyConn (h : Bindings ssh bound connected) (i : ℕ) (f : Conn → Conn) :
    Bindings (ssh.modifyConn i f) bound connected where
  launches := h.launches
  created := h.created
  unbound := h.unbound
  tokens := h.tokens
  tunnels := h.tunnels
  agent conn hconn := (h.agent conn hconn).trans_eq (List.length_modify ..).symm
  conn conn hconn := (h.conn conn hconn).trans_eq (List.length_modify ..).symm
  bounds token conn hconn := (h.bounds token conn hconn).trans_eq (List.length_modify ..).symm
  forwarding := h.forwarding
  oneEach := h.oneEach

theorem sendSSHStream (h : Bindings ssh bound connected) (frame : Frame) :
    Bindings (ssh.sendSSHStream frame) bound connected := by
  unfold SshState.sendSSHStream
  split
  · exact h
  · exact h.modifyConn _ _

theorem deleteStream (h : Bindings ssh bound connected) (streamID : Uint32) :
    Bindings (ssh.deleteStream streamID) bound connected :=
  { h with }

theorem closeSocket (h : Bindings ssh bound connected) (socket : Socket) :
    Bindings (ssh.closeSocket socket) bound connected :=
  { h with }

theorem handleSSHStream (h : Bindings ssh bound connected) (frame : Frame) (dialOk : Bool) :
    Bindings (ssh.handleSSHStream frame dialOk) bound connected := by
  rcases SshState.handleSSHStream_cases (s := ssh) frame dialOk with
    ⟨heq, -⟩ | ⟨-, msg, heq⟩ | ⟨-, -, -, heq⟩ | ⟨socket, -, ⟨-, heq⟩ | heq⟩
  · rwa [heq]
  · rw [heq]
    exact h.sendSSHStream _
  · rw [heq]
    unfold SshState.openStream
    dsimp only
    split
    · refine sendSSHStream ?_ _
      exact { h with }
    · refine deleteStream (closeSocket ?_ _) _
      exact { h with }
  · rw [heq]
    exact { h with }
  · rw [heq]
    exact (h.deleteStream _).closeSocket _

theorem remove (h : Bindings ssh bound connected) {token : ℕ}
    (hstep : ssh.remove token = some ssh') : Bindings ssh' bound connected := by
  obtain ⟨-, hstep⟩ := Option.ite_none_right_eq_some.mp hstep
  cases hstep
  exact
    { h with
      tokens := h.tokens.sublist (List.filter_sublist.map _)
      tunnels := fun tunnel hmem => h.tunnels tunnel (List.mem_of_mem_filter hmem) }

theorem close (h : Bindings ssh bound connected) : Bindings ssh.close bound connected := by
  unfold SshState.close
  dsimp only
  split
  · exact { h with }
  · refine modifyConn ?_ _ _
    exact { h with }

theorem connect (h : Bindings ssh bound connected) : Bindings ssh.connect bound connected := by
  have hlength : ssh.connect.conns.length = ssh.close.conns.length + 1 := List.length_append
  have hclosed := h.close
  refine { hclosed with agent := ?_, conn := ?_, bounds := ?_ }
  · intro conn hconn
    rw [hlength]
    exact Nat.lt_add_right 1 (hclosed.agent conn hconn)
  · intro conn hconn
    rw [hlength]
    obtain rfl : ssh.close.conns.length = conn := Option.some.inj hconn
    exact Nat.lt_add_one _
  · intro token conn hconn
    rw [hlength]
    exact Nat.lt_add_right 1 (hclosed.bounds token conn hconn)

theorem forwardUserMessage (h : Bindings ssh bound connected) {token : ℕ} {msg : SSHStreamMessage}
    (hstep : ssh.forwardUserMessage token msg = some ssh') : Bindings ssh' bound connected := by
  rcases SshState.forwardUserMessage_cases hstep with rfl | ⟨conn, htunnel, hnone, rfl⟩
  · exact h
  · exact
      { h with
        forwarding := List.forall_mem_cons.mpr ⟨(h.tunnels _ htunnel).1.symm, h.forwarding⟩
        oneEach := by
          refine List.nodup_cons.mpr ⟨fun hmem => ?_, h.oneEach⟩
          obtain ⟨entry, hentry, howner⟩ := List.mem_map.mp hmem
          exact hnone entry hentry howner }

theorem sendStream (h : Bindings ssh bound connected) {entry : ℕ × Frame}
    (hstep : ssh.sendStream entry = some ssh') : Bindings ssh' bound connected := by
  obtain ⟨-, hstep⟩ := Option.ite_none_right_eq_some.mp hstep
  cases hstep
  refine modifyConn ?_ _ _
  exact
    { h with
      forwarding := fun other hother => h.forwarding other (List.mem_of_mem_erase hother)
      oneEach := h.oneEach.sublist (List.erase_sublist.map _) }

/-- A tunnel that was not bound before. -/
theorem bind (h : Bindings ssh bound connected) {token conn : ℕ}
    (hwaiting : ⟨token, none⟩ ∈ ssh.tunnels) (hconn : conn < ssh.conns.length) :
    Bindings
      { ssh with
        tunnels := ssh.tunnels.map fun tunnel =>
          if tunnel.token = token then { tunnel with agent := some conn } else tunnel }
      (Function.update bound token (some conn)) connected := by
  obtain ⟨hnone, hconnected⟩ := h.tunnels _ hwaiting
  dsimp only at hnone hconnected
  have hkeep (other : ℕ) (hother : bound other ≠ none) :
      Function.update bound token (some conn) other = bound other := by
    refine Function.update_of_ne ?_ ..
    rintro rfl
    exact hother hnone.symm
  exact
    { h with
      unbound := by
        intro other hother
        rw [Function.update_of_ne]
        · exact h.unbound other hother
        · rintro rfl
          rw [hother] at hconnected
          cases hconnected
      tokens := by
        have hsame : (fun tunnel : Tunnel => tunnel.token) ∘ (fun tunnel =>
            if tunnel.token = token then { tunnel with agent := some conn } else tunnel) =
              (·.token) := by
          funext tunnel
          dsimp only [Function.comp_apply]
          split <;> rfl
        rw [List.map_map, hsame]
        exact h.tokens
      tunnels := by
        intro tunnel hmem
        obtain ⟨old, hold, rfl⟩ := List.mem_map.mp hmem
        by_cases heq : old.token = token
        · rw [if_pos heq]
          dsimp only
          rw [heq, Function.update_self]
          exact ⟨rfl, hconnected⟩
        · rw [if_neg heq, Function.update_of_ne heq]
          exact h.tunnels old hold
      bounds := by
        intro other c hc
        by_cases heq : other = token
        · subst heq
          rw [Function.update_self] at hc
          obtain rfl := Option.some.inj hc
          exact hconn
        · rw [Function.update_of_ne heq] at hc
          exact h.bounds other c hc
      forwarding := by
        intro entry hentry
        have hbound := h.forwarding entry hentry
        rwa [hkeep _ (by rw [hbound]; exact Option.some_ne_none _)] }

theorem connectUser (h : Bindings ssh bound connected) {token : ℕ}
    (hstep : ssh.connectUser token = some ssh') :
    Bindings ssh' (Function.update bound token ssh.agent)
      (Function.update connected token true) := by
  obtain ⟨hlaunch, hstep⟩ := Option.ite_none_right_eq_some.mp hstep
  cases hstep
  obtain ⟨hlt, hfresh⟩ := h.launches token hlaunch
  have hnone := h.unbound token hfresh
  have hne {other : ℕ} (hother : connected other = true) : other ≠ token := by
    rintro rfl
    rw [hfresh] at hother
    cases hother
  exact
    { h with
      launches := by
        intro other hmem
        obtain ⟨hother, hkept⟩ := List.mem_filter.mp hmem
        rw [Function.update_of_ne (by simpa using hkept)]
        exact h.launches other hother
      created := by
        intro other hle
        have hother : other ≠ token := (hlt.trans_le hle).ne'
        rw [Function.update_of_ne hother]
        exact h.created other hle
      unbound := by
        intro other hother
        by_cases heq : other = token
        · subst heq
          rw [Function.update_self] at hother
          cases hother
        · rw [Function.update_of_ne heq] at hother ⊢
          exact h.unbound other hother
      tokens := by
        refine List.nodup_cons.mpr ⟨fun hmem => ?_, h.tokens⟩
        obtain ⟨tunnel, htunnel, htoken⟩ := List.mem_map.mp hmem
        exact hne (h.tunnels tunnel htunnel).2 htoken
      tunnels := by
        refine List.forall_mem_cons.mpr ⟨?_, ?_⟩
        · dsimp only
          rw [Function.update_self, Function.update_self]
          exact ⟨rfl, rfl⟩
        · intro tunnel htunnel
          obtain ⟨hagent, hconnected⟩ := h.tunnels tunnel htunnel
          rw [Function.update_of_ne (hne hconnected), Function.update_of_ne (hne hconnected)]
          exact ⟨hagent, hconnected⟩
      bounds := by
        intro other c hc
        by_cases heq : other = token
        · subst heq
          rw [Function.update_self] at hc
          exact h.agent c hc
        · rw [Function.update_of_ne heq] at hc
          exact h.bounds other c hc
      forwarding := by
        intro entry hentry
        have hbound := h.forwarding entry hentry
        rw [Function.update_of_ne]
        · exact hbound
        · rintro heq
          rw [heq, hnone] at hbound
          cases hbound }

theorem step (h : Bindings ssh bound connected) {e : SshEvent}
    (hother : ∀ token, e ≠ .connectUser token)
    (hbind : ∀ conn token, e ≠ .attachWaiting conn (some token))
    (hstep : ssh.step e = some ssh') : Bindings ssh' bound connected := by
  cases e with
  | create =>
      cases hstep
      exact
        { h with
          launches := by
            refine List.forall_mem_cons.mpr ⟨⟨Nat.lt_add_one _, h.created _ le_rfl⟩, ?_⟩
            intro token hmem
            obtain ⟨hlt, hfresh⟩ := h.launches token hmem
            exact ⟨Nat.lt_add_right 1 hlt, hfresh⟩
          created := fun token hle => h.created token (Nat.le_of_succ_le hle) }
  | connectUser token => exact absurd rfl (hother token)
  | userFrame token msg => exact h.forwardUserMessage hstep
  | sendStream entry => exact h.sendStream hstep
  | userClosed token => exact h.remove (Option.ite_none_left_eq_some.mp hstep).2
  | expire token => exact h.remove hstep
  | revoke token =>
      cases hstep
      have htaken : Bindings { ssh with launches := ssh.launches.filter (· ≠ token) } bound
          connected :=
        { h with launches := fun other hmem => h.launches other (List.mem_of_mem_filter hmem) }
      rcases SshState.revokeSSHLaunch_cases (s := ssh) token with heq | hremove
      · rwa [heq]
      · exact htaken.remove hremove
  | attachAgent conn =>
      obtain ⟨hupgraded, hstep⟩ := Option.ite_none_right_eq_some.mp hstep
      cases hstep
      obtain ⟨c, hget, -⟩ := Option.map_eq_some_iff.mp hupgraded
      refine modifyConn ?_ _ _
      refine { h with agent := fun other hagent => ?_ }
      obtain rfl := Option.some.inj hagent
      exact (List.getElem?_eq_some_iff.mp hget).1
  | setStreamHandler conn =>
      obtain ⟨-, hstep⟩ := Option.ite_none_right_eq_some.mp hstep
      cases hstep
      exact h.modifyConn _ _
  | attachWaiting conn waiting =>
      obtain ⟨-, -, ⟨-, rfl⟩ | ⟨token, rfl, -⟩⟩ := SshState.attachWaiting_cases hstep
      · exact h.modifyConn _ _
      · exact absurd rfl (hbind conn token)
  | agentFrame conn candidate =>
      obtain ⟨-, -, -, -, -, rfl | ⟨token, -, rfl⟩⟩ := SshState.forwardAgentMessage_cases hstep
      · exact h.modifyConn _ _
      · exact { h.modifyConn conn _ with }
  | close =>
      cases hstep
      exact h.close
  | connect =>
      cases hstep
      exact h.connect
  | connectionLost conn =>
      cases hstep
      exact h.modifyConn _ _
  | lose conn =>
      obtain ⟨-, hstep⟩ := Option.ite_none_right_eq_some.mp hstep
      cases hstep
      exact h.modifyConn _ _
  | receive conn dialOk =>
      obtain ⟨-, frame, -, -, -, ⟨-, rfl⟩ | ⟨-, rfl⟩⟩ := SshState.receive_cases hstep
      · exact h.modifyConn _ _
      · exact (h.modifyConn _ _).handleSSHStream _ _
  | readData i data =>
      obtain ⟨reader, -, ⟨msg, rfl⟩ | rfl⟩ := SshState.readData_cases hstep
      · exact h.sendSSHStream _
      · exact { h with }
  | readEnd i =>
      obtain ⟨reader, msg, -, rfl⟩ := SshState.readEnd_cases hstep
      refine sendSSHStream ?_ _
      exact { h with }
  | readDelete i =>
      obtain ⟨reader, -, -, rfl⟩ := SshState.readDelete_cases hstep
      exact { h with }

end Bindings

namespace TunnelState

def connected (s : TunnelState) (token : ℕ) : Bool :=
  (s.connectors token).isSome

theorem setConnector_self (s : TunnelState) (token : ℕ) (c : Connector) :
    (s.setConnector token c).connectors token = some c :=
  Function.update_self ..

theorem setConnector_of_ne {s : TunnelState} {token other : ℕ} (hne : other ≠ token)
    {c : Connector} : (s.setConnector token c).connectors other = s.connectors other :=
  Function.update_of_ne hne ..

theorem setConnector_connected {s : TunnelState} {token : ℕ} {c : Connector}
    (hc : s.connectors token = some c) (c' : Connector) :
    (s.setConnector token c').connected = s.connected := by
  funext other
  rw [connected, connected]
  by_cases hother : other = token
  · subst hother
    rw [setConnector_self, hc]
    rfl
  · rw [setConnector_of_ne hother]

variable {s s' t : TunnelState}

/-- Only `connectUser` and `attachWaiting` bind a tunnel. -/
theorem observe_bound {e : SshEvent} (hother : ∀ token, e ≠ .connectUser token)
    (hbind : ∀ conn token, e ≠ .attachWaiting conn (some token)) (hobserve : s.observe e = some t) :
    t.bound = s.bound ∧ t.early = s.early ∧ t.connected = s.connected := by
  cases e with
  | connectUser token => exact absurd rfl (hother token)
  | attachWaiting conn waiting =>
      cases waiting with
      | none =>
          cases hobserve
          exact ⟨rfl, rfl, rfl⟩
      | some token => exact absurd rfl (hbind conn token)
  | userFrame token msg =>
      obtain ⟨c, up, hc, -, rfl⟩ := userFrame_cases hobserve
      exact ⟨rfl, rfl, setConnector_connected hc _⟩
  | receive conn dialOk =>
      obtain ⟨c, frame, rest, -, -, rfl⟩ := receive_cases hobserve
      rcases handleSSHStream_cases (s.log conn fun log =>
        { log with upArrived := log.upArrived ++ [frame] }) frame dialOk with
        ⟨heq, -⟩ | ⟨-, -, -, heq⟩ | ⟨_, -, -, -, heq⟩ <;>
      · rw [heq]
        exact ⟨rfl, rfl, rfl⟩
  | readData i data =>
      obtain ⟨reader, -, ⟨-, rfl⟩ | ⟨conn, -, rfl⟩⟩ := readData_cases hobserve
      · exact ⟨rfl, rfl, rfl⟩
      · exact ⟨rfl, rfl, rfl⟩
  | agentFrame conn candidate =>
      obtain ⟨c, frame, rest, -, -, ⟨-, rfl⟩ | ⟨token, -, -, rfl⟩⟩ := agentFrame_cases hobserve
      · exact ⟨rfl, rfl, rfl⟩
      · rcases forward_cases (s.log conn fun log =>
          if frame.msg.type = sshStreamData then
            { log with downArrived := log.downArrived ++ [frame] }
          else log) token frame.msg with ⟨-, heq⟩ | ⟨c, hc, heq⟩
        · rw [heq]
          exact ⟨rfl, rfl, rfl⟩
        · rw [heq]
          exact ⟨rfl, rfl, setConnector_connected hc _⟩
  | _ =>
      cases hobserve
      exact ⟨rfl, rfl, rfl⟩

theorem attachWaiting_some {ssh ssh' : SshState} {conn token : ℕ}
    (hstep : ssh.attachWaiting conn (some token) = some ssh') :
    ⟨token, none⟩ ∈ ssh.tunnels ∧ conn < ssh.conns.length ∧ ssh' =
      { ssh.modifyConn conn fun conn => { conn with attachment := .attached } with
        tunnels := ssh.tunnels.map fun tunnel =>
          if tunnel.token = token then { tunnel with agent := some conn } else tunnel } := by
  obtain ⟨hhandling, hstep⟩ := Option.ite_none_right_eq_some.mp hstep
  obtain ⟨c, hget, -⟩ := Option.map_eq_some_iff.mp hhandling
  obtain ⟨hwaiting, hstep⟩ := Option.ite_none_right_eq_some.mp hstep
  cases hstep
  exact ⟨hwaiting, (List.getElem?_eq_some_iff.mp hget).1, rfl⟩

abbrev Bound (s : TunnelState) : Prop :=
  Bindings s.ssh s.bound s.connected

theorem Bound.connectUser_fresh (h : s.Bound) {token : ℕ} {ssh : SshState}
    (hstep : s.ssh.connectUser token = some ssh) :
    s.connectors token = none ∧ s.bound token = none := by
  obtain ⟨hlaunch, -⟩ := Option.ite_none_right_eq_some.mp hstep
  obtain ⟨-, hfresh⟩ := h.launches token hlaunch
  exact ⟨by simpa [connected] using hfresh, h.unbound token hfresh⟩

theorem Bound.step (h : s.Bound) {e : SshEvent} (hstep : s.step (.ssh e) = some s') :
    s'.Bound ∧ ∀ token conn, s.bound token = some conn → s'.bound token = some conn := by
  obtain ⟨t, ssh, hssh, hobserve, rfl⟩ := step_ssh hstep
  by_cases hconnect : ∃ token, e = .connectUser token
  · obtain ⟨token, rfl⟩ := hconnect
    cases hobserve
    have hconnected : (s.connectUser token).connected = Function.update s.connected token true := by
      funext other
      by_cases hother : other = token
      · subst hother
        rw [Function.update_self]
        exact congrArg Option.isSome (setConnector_self s other {})
      · rw [Function.update_of_ne hother]
        exact congrArg Option.isSome (setConnector_of_ne hother)
    refine ⟨?_, fun other conn hother => ?_⟩
    · have hnext := h.connectUser hssh
      rw [← hconnected] at hnext
      exact hnext
    · refine (Function.update_of_ne ?_ ..).trans hother
      rintro rfl
      rw [(h.connectUser_fresh hssh).2] at hother
      cases hother
  · by_cases hbind : ∃ conn token, e = .attachWaiting conn (some token)
    · obtain ⟨conn, token, rfl⟩ := hbind
      cases hobserve
      obtain ⟨hwaiting, hconn, rfl⟩ := attachWaiting_some hssh
      refine ⟨(h.modifyConn conn _).bind hwaiting ?_, fun other c hother => ?_⟩
      · exact hconn.trans_eq (List.length_modify ..).symm
      · refine (Function.update_of_ne ?_ ..).trans hother
        rintro rfl
        rw [← (h.tunnels _ hwaiting).1] at hother
        cases hother
    · push Not at hconnect hbind
      obtain ⟨hbound, -, hconnected⟩ := observe_bound hconnect hbind hobserve
      have hnext := Bindings.step h hconnect hbind hssh
      rw [← hbound, ← hconnected] at hnext
      refine ⟨hnext, fun token conn htoken => ?_⟩
      dsimp only
      rw [hbound, htoken]

end TunnelState

end Picket
