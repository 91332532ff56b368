import Picket.Proof.TunnelDownstream

/-!
# A tunnel carries the bytes

In every run in which a tunnel is bound to the agent only when nothing of another is left there, a
socket is written what the connector of its own tunnel has read, from the start and without gaps,
and the connector shows a piece of what was read from the socket, without gaps. Nothing is missing
while both connections are there.
-/

namespace Picket

open Transition Link

/-- As for the hub and the agent alone. -/
def TunnelGuard (s : TunnelState) : TunnelEvent → Prop
  | .ssh e => IsolationGuard s.ssh e
  | .user _ _ => True

instance (s : TunnelState) (e : TunnelEvent) : Decidable (TunnelGuard s e) := by
  unfold TunnelGuard
  split <;> infer_instance

namespace TunnelState

/-- Everything that is known of a state. -/
structure Carries (s : TunnelState) : Prop where
  upstream : s.Upstream
  isolation : IsolationInv s.ssh
  sockets : s.Sockets
  replies : s.Replies
  delivered : s.Delivered

theorem carries_init : Carries {} where
  upstream :=
    { bound := ⟨by simp, fun _ _ => rfl, fun _ _ => rfl, List.nodup_nil, by simp, by simp, by simp,
        by simp, by simp, List.nodup_nil⟩
      links := ⟨by simp, fun _ _ => rfl⟩
      connectors := fun _ _ hc => by cases hc
      forwarded := ⟨by simp, fun _ _ hc => (by cases hc), fun _ _ _ _ hc => (by cases hc)⟩ }
  isolation := isolationInv_init
  sockets := ⟨by simp, List.nodup_nil, List.nodup_nil, fun _ _ => rfl, by simp, by simp, by simp,
    by simp⟩
  replies := ⟨by simp, fun _ _ => rfl, by simp, by simp, by simp⟩
  delivered := ⟨by simp, fun _ _ hc => (by cases hc), fun _ _ hc => (by cases hc)⟩

variable {s s' : TunnelState}

/-- What the connector does matters to no one else. -/
theorem Carries.step_user (h : s.Carries) {token : ℕ} {e : ConnectorEvent}
    (hstep : s.step (.user token e) = some s') : s'.Carries := by
  have hup := h.upstream.step hstep
  obtain ⟨c, c', hc, hc', rfl⟩ := TunnelState.step_user hstep
  refine ⟨hup, h.isolation, ?_, ?_, ?_⟩
  · exact h.sockets.quiet rfl (fun _ => id) (fun _ hlookup hopen => ⟨hlookup, hopen⟩) rfl rfl
      fun _ => rfl
  · exact h.replies.quiet h.upstream rfl rfl rfl (fun _ => rfl)
      (fun reader hmem => ⟨reader, hmem, rfl⟩) rfl fun _ _ => id
  · refine h.delivered.quiet rfl rfl (fun _ => rfl) (fun _ => id) (fun other d hd => ?_)
      fun _ k hget => ⟨k, hget, id⟩
    by_cases heq : other = token
    · subst heq
      rw [setConnector_self] at hd
      obtain rfl := Option.some.inj hd
      exact ⟨c, hc, (Connector.step_hub hc').2⟩
    · rw [setConnector_of_ne heq] at hd
      exact ⟨d, hd, rfl⟩

theorem Carries.step (h : s.Carries) {e : TunnelEvent} (hguard : TunnelGuard s e)
    (hstep : s.step e = some s') : s'.Carries := by
  cases e with
  | user token e => exact h.step_user hstep
  | ssh e =>
      have hisolation : IsolationInv s'.ssh := by
        obtain ⟨t, ssh, hssh, -, rfl⟩ := step_ssh hstep
        exact h.isolation.step hguard hssh
      have hisolated : s'.ssh.Isolated := by
        obtain ⟨_, hapart⟩ := hisolation
        exact hapart.toIsolated
      have hsockets := h.sockets.step h.upstream hstep hisolated
      exact ⟨h.upstream.step hstep, hisolation, hsockets,
        h.replies.step h.sockets h.upstream hstep hsockets,
        h.delivered.step h.upstream h.replies h.sockets hstep hisolated⟩

theorem carries_of_guarded {events : List TunnelEvent}
    (hrun : Guarded TunnelState.step TunnelGuard {} events s) : s.Carries :=
  hrun.invariant (fun _ _ _ h => h.step) carries_init

/-! ### In order, and to the right one -/

/-- Both ends of a tunnel see what the other end has sent. -/
structure Faithful (s : TunnelState) : Prop where
  oneSocket : (s.sockets.map (·.owner)).Nodup
  written : ∀ socket ∈ s.sockets, ∃ c, s.connectors socket.owner = some c ∧
    s.socketIn socket.ref <+: c.stdin
  shown : ∀ token c, s.connectors token = some c → c.stdout ≠ [] → ∃ socket ∈ s.sockets,
    socket.owner = token ∧ c.stdout <:+: s.socketOut socket.ref ∧
      (token ∉ s.early → c.stdout <+: s.socketOut socket.ref)

theorem Carries.written (h : s.Carries) {socket : Socket} (hmem : socket ∈ s.sockets) :
    ∃ c, s.connectors socket.owner = some c ∧ s.socketIn socket.ref <+: c.stdin := by
  obtain ⟨msg, hmsg, hopen⟩ := h.sockets.opened socket hmem
  obtain ⟨conn, hconn⟩ : ∃ conn, s.bound socket.owner = some conn := by
    refine Option.ne_none_iff_exists'.mp fun hnone => ?_
    rw [handled, logOf, hnone] at hmsg
    cases hmsg
  obtain ⟨c, hc⟩ := h.upstream.connected hconn
  have hok := h.upstream.connectors _ c hc
  refine ⟨c, hc, ?_⟩
  calc
    s.socketIn socket.ref <+: payloads (s.handled socket.owner) := h.sockets.written socket hmem
    _ <+: payloads c.up.sent :=
      (hok.opens.prefix_of_mem (h.upstream.handled_infix hc) hmsg hopen).flatMap _
    _ <+: c.stdin := hok.stdin ▸ List.prefix_rfl

theorem Carries.shown (h : s.Carries) {token : ℕ} {c : Connector} (hc : s.connectors token = some c)
    (hne : c.stdout ≠ []) : ∃ socket ∈ s.sockets, socket.owner = token ∧
      c.stdout <:+: s.socketOut socket.ref ∧
        (token ∉ s.early → c.stdout <+: s.socketOut socket.ref) := by
  have hok := h.upstream.connectors token c hc
  obtain ⟨skipped, hskipped, hbegins, -⟩ := h.delivered.block token c hc
  have hsent : c.stdout <+: payloads c.down.sent :=
    hok.stdout.trans (hok.down.arrived_prefix.flatMap _)
  have hreplied : skipped ++ c.stdout <+: payloads (s.replied token) :=
    ((List.prefix_append_right_inj skipped).mpr hsent).trans
      (hbegins.trans ((h.upstream.returned_prefix token).flatMap _))
  obtain ⟨socket, hmem, rfl⟩ : ∃ socket ∈ s.sockets, socket.owner = token := by
    have hsome : s.replied token ≠ [] := by
      intro hnone
      rw [hnone] at hreplied
      exact hne (List.append_eq_nil_iff.mp (List.prefix_nil.mp hreplied)).2
    obtain ⟨msg, hmsg⟩ := List.exists_mem_of_ne_nil _ hsome
    obtain ⟨frame, hframe, -⟩ := List.mem_map.mp hmsg
    obtain ⟨hframe, howner⟩ := List.mem_filter.mp hframe
    rw [logOf] at hframe
    cases hconn : s.bound token with
    | none =>
        rw [hconn] at hframe
        cases hframe
    | some conn =>
        rw [hconn] at hframe
        obtain ⟨socket, hmem, hsame⟩ := h.replies.senders conn frame hframe
        exact ⟨socket, hmem, hsame.trans (by simpa using howner)⟩
  have hout := hreplied.trans (h.replies.block socket hmem)
  refine ⟨socket, hmem, rfl, ?_, fun hearly => ?_⟩
  · obtain ⟨rest, hrest⟩ := hout
    exact ⟨skipped, rest, hrest⟩
  · rwa [hskipped hearly, List.nil_append] at hout

/-- **Tunnels carry bytes in order, and to the right one.** -/
theorem faithful_of_guarded {events : List TunnelEvent}
    (hrun : Guarded TunnelState.step TunnelGuard {} events s) : s.Faithful where
  oneSocket := (carries_of_guarded hrun).sockets.owners
  written _ := (carries_of_guarded hrun).written
  shown _ _ := (carries_of_guarded hrun).shown

/-- A user connects, types, and is shown what the SSH server answers. -/
def session (token : ℕ) (typed answered : List (List Uint8)) : List TunnelEvent :=
  [.ssh (.connectUser token), .user token .openStream] ++
    (userSends token 0 (connectorFrame sshStreamOpen [])).map .ssh ++
    [.ssh (.agentFrame 0 (some token)), .user token (.readMessage 0)] ++
    typed.flatMap (fun data => .user token (.readStdin data) ::
      (userSends token 0 (connectorFrame sshStreamData data)).map .ssh) ++
    answered.flatMap fun data =>
      [.ssh (.readData 0 data), .ssh (.agentFrame 0 (some token)),
        .user token (.readMessage data.length)]

/-- The input of the user ends, and with it the session. -/
def logout (token : ℕ) : List TunnelEvent :=
  .user token (.stdinEnd true) :: (userSends token 0 (connectorFrame sshStreamEOF [])).map .ssh ++
    [.ssh (.readEnd 0), .ssh (.readDelete 0), .ssh (.agentFrame 0 (some token)),
      .user token (.readMessage 0), .ssh (.userClosed token)]

/-- Two sessions one after the other; the second one goes on. -/
def twoSessions : List TunnelEvent :=
  ([SshEvent.create, .create] ++ agentConnects 0 none).map .ssh ++
    session 0 [[108], [115, 10]] [[97], [98, 10]] ++ logout 0 ++
    session 1 [[112], [119], [100, 10]] [[47], [114, 10]]

theorem faithful_twoSessions :
    ∃ s c d, Guarded TunnelState.step TunnelGuard {} twoSessions s ∧
      s.connectors 0 = some c ∧ c.stdin = [108, 115, 10] ∧ c.stdout = [97, 98, 10] ∧
      s.connectors 1 = some d ∧ d.stdin = [112, 119, 100, 10] ∧ d.stdout = [47, 114, 10] ∧
      s.sockets = [⟨0, 0⟩, ⟨1, 1⟩] ∧ s.Faithful := by
  have hcheck : ∃ s c d, check TunnelState.step TunnelGuard {} twoSessions = some s ∧
      s.connectors 0 = some c ∧ c.stdin = [108, 115, 10] ∧ c.stdout = [97, 98, 10] ∧
      s.connectors 1 = some d ∧ d.stdin = [112, 119, 100, 10] ∧ d.stdout = [47, 114, 10] ∧
      s.sockets = [⟨0, 0⟩, ⟨1, 1⟩] := ⟨_, _, _, rfl, rfl, rfl, rfl, rfl, rfl, rfl, rfl⟩
  obtain ⟨s, c, d, hcheck, hc, hcin, hcout, hd, hdin, hdout, hsockets⟩ := hcheck
  have hrun := guarded_of_check hcheck
  exact ⟨s, c, d, hrun, hc, hcin, hcout, hd, hdin, hdout, hsockets, faithful_of_guarded hrun⟩

/-! ### Nothing is missing -/

/-- A tunnel with both connections, where the agent has the socket of the tunnel. -/
structure Standing (s : TunnelState) (token : ℕ) (c : Connector) (k : Conn) (socket : Socket) :
    Prop where
  connector : s.connectors token = some c
  connectorOpen : c.up.isOpen = true ∧ c.down.isOpen = true
  running : c.running = true
  agent : ∃ conn, ⟨token, some conn⟩ ∈ s.ssh.tunnels ∧ s.ssh.conn = some conn ∧
    s.ssh.conns[conn]? = some k
  agentOpen : k.isOpen = true
  found : s.ssh.sshStreams.lookup 1 = some socket
  live : socket.ref ∉ s.ssh.closed
  owner : socket.owner = token

theorem payloads_own_filter (token : ℕ) (frames : List Frame) :
    payloads (own token (frames.filter Frame.isData)) = payloads (own token frames) := by
  induction frames with
  | nil => rfl
  | cons frame rest ih =>
      rw [List.filter_cons, own_cons token frame rest, payloads_append]
      by_cases hdata : frame.isData = true
      · rw [if_pos hdata, own_cons, payloads_append, ih]
      · have hnothing : payloads (own token [frame]) = [] := by
          by_cases howner : frame.owner = token
          · rw [← howner, own_singleton, payloads_singleton]
            exact if_neg (by simpa [Frame.isData] using hdata)
          · rw [own_singleton_of_ne howner]
            rfl
        rw [if_neg hdata, ih, hnothing, List.nil_append]

theorem Carries.stdin_eq (h : s.Carries) {token : ℕ} {c : Connector} {k : Conn} {socket : Socket}
    (hstands : s.Standing token c k socket) :
    c.stdin = s.socketIn socket.ref ++ payloads (own token k.toAgent) ++
      payloads (own token (s.ssh.forwarding.map (·.2))) ++ payloads c.up.queue := by
  obtain ⟨conn, htunnel, -, hget⟩ := hstands.agent
  have hok := h.upstream.connectors token c hstands.connector
  have hbound : s.bound token = some conn := (h.upstream.bound.tunnels _ htunnel).1.symm
  have hmem : socket ∈ s.sockets := h.sockets.entries _ (AssocList.mem_of_lookup hstands.found)
  obtain ⟨msg, hmsg, hopen⟩ := h.sockets.opened socket hmem
  rw [hstands.owner] at hmsg
  have hwritten : s.socketIn socket.ref = payloads (s.handled token) := by
    rw [h.sockets.live socket hstands.found hstands.live, hstands.owner]
  have hforwarded : s.forwarded token = c.up.arrived := by
    have hlast := h.upstream.forwarded.complete token conn c htunnel hstands.connector
    refine (hok.opens.of_infix hok.up.arrived_prefix.isInfix).eq_of_suffix hlast ?_ hopen
    exact List.mem_append_left _ ((h.upstream.handled_prefix token).subset hmsg)
  have hsent : own token (s.logOf token).upSent = s.handled token ++ own token k.toAgent := by
    have hall := (h.upstream.links.recorded conn k hget).up.complete hstands.agentOpen
    rw [handled, logOf, hbound, Option.elim_some, ← own_append]
    exact congrArg (own token) hall.symm
  calc
    c.stdin = payloads c.up.sent := hok.stdin.symm
    _ = payloads (s.forwarded token ++ c.up.queue) := by
      rw [hforwarded, hok.up.complete hstands.connectorOpen.1]
    _ = _ := by rw [forwarded, hsent, payloads_append, payloads_append, payloads_append, hwritten]

theorem Carries.socketOut_eq (h : s.Carries) {token : ℕ} {c : Connector} {k : Conn}
    {socket : Socket} (hstands : s.Standing token c k socket) (hearly : token ∉ s.early) :
    s.socketOut socket.ref =
      c.stdout ++ payloads c.down.queue ++ payloads (own token k.toHub) := by
  obtain ⟨conn, htunnel, hconn, hget⟩ := hstands.agent
  have hok := h.upstream.connectors token c hstands.connector
  have hbound : s.bound token = some conn := (h.upstream.bound.tunnels _ htunnel).1.symm
  have hmem : socket ∈ s.sockets := h.sockets.entries _ (AssocList.mem_of_lookup hstands.found)
  obtain ⟨skipped, hskipped, -, hall⟩ := h.delivered.block token c hstands.connector
  have hgiven := hall conn htunnel
  rw [hskipped hearly, List.nil_append] at hgiven
  have hreplied : payloads (s.replied token) =
      payloads (s.returned token) ++ payloads (own token k.toHub) := by
    have hlink := (h.upstream.links.recorded conn k hget).down.complete hstands.agentOpen
    rw [replied, returned, logOf, hbound, Option.elim_some, ← payloads_own_filter token k.toHub,
      ← payloads_append, ← own_append]
    exact congrArg (fun frames => payloads (own token frames)) hlink.symm
  calc
    s.socketOut socket.ref = payloads (s.replied token) := by
      rw [← h.replies.complete socket hmem conn (hstands.owner.symm ▸ hbound) hconn, hstands.owner]
    _ = payloads c.down.sent ++ payloads (own token k.toHub) := by rw [hreplied, hgiven]
    _ = _ := by
      rw [← hok.down.complete hstands.connectorOpen.2, payloads_append, hok.running hstands.running]

/-- **Nothing is missing while a tunnel stands**: what one end has read the other end has written,
but for what is under way. -/
theorem underWay_of_guarded {events : List TunnelEvent}
    (hrun : Guarded TunnelState.step TunnelGuard {} events s) {token : ℕ} {c : Connector} {k : Conn}
    {socket : Socket} (hstands : s.Standing token c k socket) :
    c.stdin = s.socketIn socket.ref ++ payloads (own token k.toAgent) ++
        payloads (own token (s.ssh.forwarding.map (·.2))) ++ payloads c.up.queue ∧
      (token ∉ s.early → s.socketOut socket.ref =
        c.stdout ++ payloads c.down.queue ++ payloads (own token k.toHub)) :=
  ⟨(carries_of_guarded hrun).stdin_eq hstands, (carries_of_guarded hrun).socketOut_eq hstands⟩

/-- Bytes of the second session are on their way in both directions. -/
def busySession : List TunnelEvent :=
  twoSessions ++
    [.user 1 (.readStdin [108]), .ssh (.userFrame 1 (connectorFrame sshStreamData [108])),
      .user 1 (.readStdin [115]), .ssh (.readData 0 [98]), .ssh (.readData 0 [105]),
      .ssh (.agentFrame 0 (some 1))]

theorem underWay_busySession :
    ∃ s c k, Guarded TunnelState.step TunnelGuard {} busySession s ∧ s.Standing 1 c k ⟨1, 1⟩ ∧
      payloads c.up.queue = [115] ∧ payloads c.down.queue = [98] ∧
      payloads (own 1 k.toHub) = [105] ∧
      c.stdin = s.socketIn 1 ++ payloads (own 1 k.toAgent) ++
        payloads (own 1 (s.ssh.forwarding.map (·.2))) ++ payloads c.up.queue ∧
      (1 ∉ s.early → s.socketOut 1 =
        c.stdout ++ payloads c.down.queue ++ payloads (own 1 k.toHub)) := by
  have hcheck : ∃ s c k, check TunnelState.step TunnelGuard {} busySession = some s ∧
      s.Standing 1 c k ⟨1, 1⟩ ∧ payloads c.up.queue = [115] ∧ payloads c.down.queue = [98] ∧
      payloads (own 1 k.toHub) = [105] := by
    refine ⟨_, _, _, rfl, ⟨rfl, ⟨rfl, rfl⟩, rfl, ⟨0, List.mem_cons_self, rfl, rfl⟩, rfl, rfl, ?_,
      rfl⟩, rfl, rfl, rfl⟩
    decide
  obtain ⟨s, c, k, hcheck, hstands, hup, hdown, hhub⟩ := hcheck
  have hrun := guarded_of_check hcheck
  exact ⟨s, c, k, hrun, hstands, hup, hdown, hhub, underWay_of_guarded hrun hstands⟩

end TunnelState

end Picket
