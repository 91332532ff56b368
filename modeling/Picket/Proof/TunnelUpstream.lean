import Picket.Proof.Connectors
import Picket.Proof.Isolation
import Picket.Proof.TunnelLinks

/-!
# From the user to the SSH server

What the connector has read goes through three queues, each of which loses nothing but what comes
last. The hub forwards nothing before the tunnel is bound, but then a stream is never opened, as the
open frame is the first. So what is written to the socket is what was read first.
-/

namespace Picket

open Link

namespace TunnelState

/-- The log of the connection that the tunnel is bound to. -/
def logOf (s : TunnelState) (token : ℕ) : ConnLog :=
  (s.bound token).elim {} s.logs

/-- What `forwardUserMessage` has taken on, in order. -/
def forwarded (s : TunnelState) (token : ℕ) : List SSHStreamMessage :=
  own token (s.logOf token).upSent ++ own token (s.ssh.forwarding.map (·.2))

def handled (s : TunnelState) (token : ℕ) : List SSHStreamMessage :=
  own token (s.logOf token).upArrived

/-! ### Forwarding -/

structure Forwarded (s : TunnelState) : Prop where
  owners : ∀ i, ∀ frame ∈ (s.logs i).upSent, s.bound frame.owner = some i
  block : ∀ token c, s.connectors token = some c → s.forwarded token <:+: c.up.arrived
  complete : ∀ token conn c, ⟨token, some conn⟩ ∈ s.ssh.tunnels → s.connectors token = some c →
    s.forwarded token <:+ c.up.arrived

/-- A step that does not forward. -/
structure Forwarded.Quiet (s s' : TunnelState) : Prop where
  bound : s'.bound = s.bound
  upSent : ∀ i, (s'.logs i).upSent = (s.logs i).upSent
  forwarding : s'.ssh.forwarding = s.ssh.forwarding
  tunnels : ∀ tunnel ∈ s'.ssh.tunnels, tunnel ∈ s.ssh.tunnels
  connectors : ∀ token c', s'.connectors token = some c' →
    ∃ c, s.connectors token = some c ∧ c'.up.arrived = c.up.arrived

variable {s s' t : TunnelState}

theorem logOf_congr (f : ConnLog → List Frame) (hbound : s'.bound = s.bound)
    (hlogs : ∀ i, f (s'.logs i) = f (s.logs i)) (token : ℕ) :
    f (s'.logOf token) = f (s.logOf token) := by
  rw [logOf, logOf, hbound]
  cases s.bound token with
  | none => rfl
  | some conn => exact hlogs conn

theorem Forwarded.Quiet.forwarded_eq (q : Forwarded.Quiet s s') (token : ℕ) :
    s'.forwarded token = s.forwarded token := by
  rw [forwarded, forwarded, q.forwarding, logOf_congr (·.upSent) q.bound q.upSent]

theorem Forwarded.quiet (h : s.Forwarded) (q : Forwarded.Quiet s s') : s'.Forwarded where
  owners i frame hframe := by
    rw [q.upSent] at hframe
    rw [q.bound]
    exact h.owners i frame hframe
  block token c' hc' := by
    obtain ⟨c, hc, harrived⟩ := q.connectors token c' hc'
    rw [q.forwarded_eq, harrived]
    exact h.block token c hc
  complete token conn c' htunnel hc' := by
    obtain ⟨c, hc, harrived⟩ := q.connectors token c' hc'
    rw [q.forwarded_eq, harrived]
    exact h.complete token conn c (q.tunnels _ htunnel) hc

/-- Nothing was sent for a tunnel that is not bound. -/
theorem Forwarded.forwarded_eq_nil (h : s.Forwarded) (hbind : s.Bound) {token : ℕ}
    (hnone : s.bound token = none) (agent : Option ℕ) :
    own token (agent.elim {} s.logs).upSent = [] ∧
      own token (s.ssh.forwarding.map (·.2)) = [] := by
  constructor
  · refine own_eq_nil fun frame hframe howner => ?_
    cases agent with
    | none => cases hframe
    | some conn =>
        have hbound := h.owners conn frame hframe
        rw [howner, hnone] at hbound
        cases hbound
  · refine own_eq_nil fun frame hframe howner => ?_
    obtain ⟨entry, hentry, rfl⟩ := List.mem_map.mp hframe
    have hbound := hbind.forwarding entry hentry
    rw [howner, hnone] at hbound
    cases hbound

/-- A tunnel that is bound now has nothing forwarded yet. -/
theorem Forwarded.bind (h : s.Forwarded) (hbind : s.Bound) {token : ℕ}
    (hnone : s.bound token = none) (agent : Option ℕ)
    (hbound : s'.bound = Function.update s.bound token agent)
    (hlogs : s'.logs = s.logs) (hforwarding : s'.ssh.forwarding = s.ssh.forwarding)
    (htunnels : ∀ tunnel ∈ s'.ssh.tunnels, tunnel.token ≠ token → tunnel ∈ s.ssh.tunnels)
    (hconnectors : ∀ other, other ≠ token → s'.connectors other = s.connectors other) :
    s'.Forwarded := by
  obtain ⟨hsent, hpending⟩ := h.forwarded_eq_nil hbind hnone agent
  have hself : s'.forwarded token = [] := by
    rw [forwarded, hforwarding, hpending, logOf, hbound, Function.update_self, hlogs, hsent]
    rfl
  have hother (other : ℕ) (hne : other ≠ token) : s'.forwarded other = s.forwarded other := by
    rw [forwarded, forwarded, hforwarding, logOf, logOf, hbound, Function.update_of_ne hne, hlogs]
  refine ⟨fun i frame hframe => ?_, fun other c hc => ?_, fun other conn c htunnel hc => ?_⟩
  · rw [hlogs] at hframe
    have hold := h.owners i frame hframe
    rw [hbound, Function.update_of_ne]
    · exact hold
    · rintro heq
      rw [heq, hnone] at hold
      cases hold
  · by_cases heq : other = token
    · subst heq
      rw [hself]
      exact List.nil_infix
    · rw [hother other heq]
      exact h.block other c ((hconnectors other heq).symm.trans hc)
  · by_cases heq : other = token
    · subst heq
      rw [hself]
      exact List.nil_suffix
    · rw [hother other heq]
      exact h.complete other conn c (htunnels _ htunnel heq) ((hconnectors other heq).symm.trans hc)

theorem forwardUserMessage_of_bound {ssh ssh' : SshState} {token conn : ℕ}
    {msg : SSHStreamMessage} (htokens : (ssh.tunnels.map (·.token)).Nodup)
    (htunnel : ⟨token, some conn⟩ ∈ ssh.tunnels)
    (hstep : ssh.forwardUserMessage token msg = some ssh') :
    ssh' =
      { ssh with
        forwarding := (conn, ⟨msg, token⟩) :: ssh.forwarding
        forwarded := ssh.forwarded ++ [⟨msg, token⟩] } := by
  unfold SshState.forwardUserMessage at hstep
  obtain ⟨-, hstep⟩ := Option.ite_none_left_eq_some.mp hstep
  have hfind : ssh.tunnels.find? (·.token = token) = some ⟨token, some conn⟩ := by
    cases hfound : ssh.tunnels.find? (·.token = token) with
    | none => exact absurd (List.find?_eq_none.mp hfound _ htunnel) (by simp)
    | some tunnel =>
        have hsame : tunnel.token = token := by simpa using List.find?_some hfound
        have hmem := List.mem_of_find?_eq_some hfound
        rw [List.inj_on_of_nodup_map htokens hmem htunnel hsame]
  rw [hfind] at hstep
  cases hstep
  rfl

/-- The hub takes a frame of the connector. -/
structure Takes (s s' : TunnelState) (token : ℕ) (msg : SSHStreamMessage) : Prop where
  bound : s'.bound = s.bound
  logs : s'.logs = s.logs
  tunnels : s'.ssh.tunnels = s.ssh.tunnels
  connectors : ∀ other c', s'.connectors other = some c' → ∃ c, s.connectors other = some c ∧
    c'.up.arrived = c.up.arrived ++ if other = token then [msg] else []

theorem Takes.forwarded_eq {token : ℕ} {msg : SSHStreamMessage} (k : Takes s s' token msg)
    (frames : List Frame)
    (hforwarding : s'.ssh.forwarding.map (·.2) = frames ++ s.ssh.forwarding.map (·.2))
    (hnone : frames ≠ [] → own token (s.ssh.forwarding.map (·.2)) = [])
    (howner : ∀ frame ∈ frames, frame.owner = token) (other : ℕ) :
    s'.forwarded other = s.forwarded other ++ own other frames := by
  rw [forwarded, forwarded, hforwarding, own_append, logOf, logOf, k.bound, k.logs,
    List.append_assoc]
  refine congrArg _ ?_
  by_cases heq : other = token
  · subst heq
    by_cases hframes : frames = []
    · subst hframes
      rw [own_eq_nil (List.forall_mem_nil _), List.append_nil, List.nil_append]
    · rw [hnone hframes, List.append_nil, List.nil_append]
  · rw [own_eq_nil fun frame hframe howned => heq (howned.symm.trans (howner frame hframe)),
      List.append_nil, List.nil_append]

/-- Without a tunnel that is bound the frame is dropped. -/
theorem Forwarded.skip (h : s.Forwarded) {token : ℕ} {msg : SSHStreamMessage}
    (k : Takes s s' token msg) (hforwarding : s'.ssh.forwarding = s.ssh.forwarding)
    (hunbound : ∀ conn, ⟨token, some conn⟩ ∉ s.ssh.tunnels) : s'.Forwarded := by
  have hsame (other : ℕ) : s'.forwarded other = s.forwarded other := by
    have hnothing := k.forwarded_eq [] (by rw [hforwarding, List.nil_append])
      (fun hne => absurd rfl hne) (List.forall_mem_nil _) other
    rwa [own_eq_nil (List.forall_mem_nil _), List.append_nil] at hnothing
  refine ⟨fun i frame hframe => ?_, fun other c' hc' => ?_, fun other conn c' htunnel hc' => ?_⟩
  · rw [k.bound]
    rw [k.logs] at hframe
    exact h.owners i frame hframe
  · obtain ⟨c, hc, harrived⟩ := k.connectors other c' hc'
    rw [hsame, harrived]
    exact (h.block other c hc).trans (List.prefix_append _ _).isInfix
  · obtain ⟨c, hc, harrived⟩ := k.connectors other c' hc'
    rw [k.tunnels] at htunnel
    have hne : other ≠ token := by
      rintro rfl
      exact hunbound conn htunnel
    rw [hsame, harrived, if_neg hne, List.append_nil]
    exact h.complete other conn c htunnel hc

theorem Forwarded.push (h : s.Forwarded) {token conn : ℕ} {msg : SSHStreamMessage}
    (k : Takes s s' token msg) (htunnel : ⟨token, some conn⟩ ∈ s.ssh.tunnels)
    (hnone : ∀ entry ∈ s.ssh.forwarding, entry.2.owner ≠ token)
    (hforwarding : s'.ssh.forwarding = (conn, ⟨msg, token⟩) :: s.ssh.forwarding) :
    s'.Forwarded := by
  have hpending : own token (s.ssh.forwarding.map (·.2)) = [] := by
    refine own_eq_nil fun frame hframe => ?_
    obtain ⟨entry, hentry, rfl⟩ := List.mem_map.mp hframe
    exact hnone entry hentry
  have hgrown (other : ℕ) :
      s'.forwarded other = s.forwarded other ++ if other = token then [msg] else [] := by
    rw [k.forwarded_eq [⟨msg, token⟩] (by rw [hforwarding]; rfl) (fun _ => hpending)
      (by simp)]
    refine congrArg _ ?_
    by_cases heq : other = token
    · subst heq
      rw [if_pos rfl]
      exact own_singleton ⟨msg, other⟩
    · rw [if_neg heq, own_singleton_of_ne (Ne.symm heq)]
  refine ⟨fun i frame hframe => ?_, fun other c' hc' => ?_, fun other b c' hmem hc' => ?_⟩
  · rw [k.bound]
    rw [k.logs] at hframe
    exact h.owners i frame hframe
  · obtain ⟨c, hc, harrived⟩ := k.connectors other c' hc'
    rw [hgrown, harrived]
    by_cases heq : other = token
    · subst heq
      obtain ⟨before, hbefore⟩ := h.complete other conn c htunnel hc
      exact ⟨before, [], by rw [← hbefore, List.append_nil, List.append_assoc]⟩
    · rw [if_neg heq, List.append_nil, List.append_nil]
      exact h.block other c hc
  · obtain ⟨c, hc, harrived⟩ := k.connectors other c' hc'
    rw [k.tunnels] at hmem
    rw [hgrown, harrived]
    obtain ⟨before, hbefore⟩ := h.complete other b c hmem hc
    exact ⟨before, by rw [← hbefore, List.append_assoc]⟩

theorem Forwarded.userFrame (h : s.Forwarded) (hbind : s.Bound) {token : ℕ}
    {msg : SSHStreamMessage} {ssh : SshState} (hssh : s.ssh.forwardUserMessage token msg = some ssh)
    (hobserve : s.userFrame token msg = some t) : Forwarded { t with ssh } := by
  obtain ⟨c, up, hc, hup, rfl⟩ := userFrame_cases hobserve
  obtain ⟨rest, -, rfl⟩ := receive_eq_some hup
  have hconnectors : ∀ other c', (s.setConnector token
      { c with up := { c.up with queue := rest, arrived := c.up.arrived ++ [msg] } }).connectors
        other = some c' → ∃ old, s.connectors other = some old ∧
      c'.up.arrived = old.up.arrived ++ if other = token then [msg] else [] := by
    intro other c' hc'
    by_cases heq : other = token
    · subst heq
      rw [setConnector_self] at hc'
      obtain rfl := Option.some.inj hc'
      exact ⟨c, hc, by rw [if_pos rfl]⟩
    · rw [setConnector_of_ne heq] at hc'
      exact ⟨c', hc', by rw [if_neg heq, List.append_nil]⟩
  rcases SshState.forwardUserMessage_cases hssh with rfl | ⟨conn, htunnel, hnone, rfl⟩
  · refine h.skip ⟨rfl, rfl, rfl, hconnectors⟩ rfl fun conn htunnel => ?_
    have hgrown := congrArg SshState.forwarding
      (forwardUserMessage_of_bound hbind.tokens htunnel hssh)
    exact absurd (congrArg List.length hgrown) (by simp)
  · exact h.push ⟨rfl, rfl, rfl, hconnectors⟩ htunnel hnone rfl

theorem own_erase {entries : List (ℕ × Frame)} (honce : (entries.map (·.2.owner)).Nodup)
    {entry : ℕ × Frame} (hmem : entry ∈ entries) (token : ℕ) :
    own token (entries.map (·.2)) =
      own token [entry.2] ++ own token ((entries.erase entry).map (·.2)) := by
  induction entries with
  | nil => cases hmem
  | cons first rest ih =>
      obtain ⟨hfirst, honce⟩ := List.nodup_cons.mp honce
      by_cases heq : first = entry
      · subst heq
        rw [List.erase_cons_head, List.map_cons, own_cons]
      · have hrest : entry ∈ rest := (List.mem_cons.mp hmem).resolve_left (Ne.symm heq)
        have howner : entry.2.owner ≠ first.2.owner := by
          intro hsame
          exact hfirst (List.mem_map.mpr ⟨entry, hrest, hsame⟩)
        rw [List.erase_cons_tail (by simpa using heq), List.map_cons, List.map_cons,
          own_cons token first.2 (rest.map _), own_cons token first.2 ((rest.erase entry).map _),
          ih honce hrest]
        -- one of the two is of another tunnel
        by_cases htoken : first.2.owner = token
        · have hother : entry.2.owner ≠ token := htoken ▸ howner
          rw [own_singleton_of_ne hother, List.nil_append, List.nil_append]
        · rw [own_singleton_of_ne htoken, List.nil_append, List.nil_append]

theorem Forwarded.sendStream (h : s.Forwarded) (hbind : s.Bound) {entry : ℕ × Frame}
    (hmem : entry ∈ s.ssh.forwarding) (hbound : s'.bound = s.bound)
    (hsent : ∀ i, (s'.logs i).upSent =
      (s.logs i).upSent ++ if i = entry.1 then [entry.2] else [])
    (hforwarding : s'.ssh.forwarding = s.ssh.forwarding.erase entry)
    (htunnels : s'.ssh.tunnels = s.ssh.tunnels) (hconnectors : s'.connectors = s.connectors) :
    s'.Forwarded := by
  have howner := hbind.forwarding entry hmem
  have hsame (token : ℕ) : s'.forwarded token = s.forwarded token := by
    have hlog : own token (s'.logOf token).upSent =
        own token (s.logOf token).upSent ++ own token [entry.2] := by
      rw [logOf, logOf, hbound]
      cases hconn : s.bound token with
      | none =>
          rw [own_singleton_of_ne, List.append_nil]
          · rfl
          · rintro rfl
            rw [hconn] at howner
            cases howner
      | some conn =>
          rw [Option.elim_some, Option.elim_some, hsent, own_append]
          refine congrArg _ ?_
          by_cases heq : conn = entry.1
          · rw [if_pos heq]
          · rw [if_neg heq, own_singleton_of_ne]
            · rfl
            · rintro rfl
              rw [hconn] at howner
              exact heq (Option.some.inj howner)
    rw [forwarded, forwarded, hlog, hforwarding, own_erase hbind.oneEach hmem, List.append_assoc]
  refine ⟨fun i frame hframe => ?_, fun token c hc => ?_, fun token conn c htunnel hc => ?_⟩
  · rw [hbound]
    rw [hsent] at hframe
    rcases List.mem_append.mp hframe with hold | hnew
    · exact h.owners i frame hold
    · split at hnew
      · rename_i heq
        rw [List.mem_singleton.mp hnew, heq]
        exact howner
      · cases hnew
  · rw [hconnectors] at hc
    rw [hsame]
    exact h.block token c hc
  · rw [hconnectors] at hc
    rw [htunnels] at htunnel
    rw [hsame]
    exact h.complete token conn c htunnel hc

theorem log_congr (f : ConnLog → List Frame) (s : TunnelState) (conn : ℕ) {g : ConnLog → ConnLog}
    (hg : ∀ log, f (g log) = f log) (i : ℕ) : f ((s.log conn g).logs i) = f (s.logs i) := by
  dsimp only [log]
  by_cases hi : i = conn
  · subst hi
    rw [Function.update_self, hg]
  · rw [Function.update_of_ne hi]

/-- A frame that the hub writes to a connector. -/
theorem forward_connectors {token other : ℕ} {msg : SSHStreamMessage} {c' : Connector}
    (hc' : (s.forward token msg).connectors other = some c') :
    ∃ c, s.connectors other = some c ∧
      c' = if other = token then { c with down := c.down.send msg } else c := by
  rcases s.forward_cases token msg with ⟨hnone, heq⟩ | ⟨c, hc, heq⟩
  · rw [heq] at hc'
    refine ⟨c', hc', (if_neg ?_).symm⟩
    rintro rfl
    rw [hnone] at hc'
    cases hc'
  · rw [heq] at hc'
    by_cases hother : other = token
    · subst hother
      rw [setConnector_self] at hc'
      exact ⟨c, hc, by rw [if_pos rfl, Option.some.inj hc']⟩
    · rw [setConnector_of_ne hother] at hc'
      exact ⟨c', hc', (if_neg hother).symm⟩

theorem Forwarded.minor (h : s.Forwarded) {ssh : SshState} (hminor : s.ssh.Minor ssh) :
    Forwarded { s with ssh } :=
  h.quiet ⟨rfl, fun _ => rfl, hminor.forwarding, hminor.tunnels, fun _ c hc => ⟨c, hc, rfl⟩⟩

theorem Forwarded.step (h : s.Forwarded) (hbind : s.Bound) {e : SshEvent}
    (hstep : s.step (.ssh e) = some s') : s'.Forwarded := by
  obtain ⟨t, ssh, hssh, hobserve, rfl⟩ := step_ssh hstep
  have hsame (token : ℕ) (c : Connector) (hc : s.connectors token = some c) :
      ∃ old, s.connectors token = some old ∧ c.up.arrived = old.up.arrived := ⟨c, hc, rfl⟩
  cases e with
  | connectUser token =>
      cases hobserve
      have hnone := (hbind.connectUser_fresh hssh).2
      obtain ⟨-, hssh⟩ := Option.ite_none_right_eq_some.mp hssh
      cases hssh
      refine h.bind hbind hnone s.ssh.agent rfl rfl rfl (fun tunnel hmem hne => ?_)
        fun other hne => ?_
      · exact (List.mem_cons.mp hmem).resolve_left fun heq => hne (heq ▸ rfl)
      · exact setConnector_of_ne hne
  | attachWaiting conn waiting =>
      cases waiting with
      | none =>
          cases hobserve
          exact h.minor (.step (by simp) (by simp) (by simp) (by simp) (by simp) hssh)
      | some token =>
          cases hobserve
          obtain ⟨hwaiting, -, rfl⟩ := attachWaiting_some hssh
          have hnone := (hbind.tunnels _ hwaiting).1.symm
          refine h.bind hbind hnone (some conn) rfl rfl rfl (fun tunnel hmem hne => ?_)
            fun _ _ => rfl
          obtain ⟨old, hold, rfl⟩ := List.mem_map.mp hmem
          by_cases heq : old.token = token
          · rw [if_pos heq] at hne
            exact absurd heq hne
          · rwa [if_neg heq]
  | userFrame token msg => exact h.userFrame hbind hssh hobserve
  | sendStream entry =>
      cases hobserve
      obtain ⟨hmem, hssh⟩ := Option.ite_none_right_eq_some.mp hssh
      cases hssh
      refine h.sendStream hbind hmem rfl (fun i => ?_) rfl rfl rfl
      dsimp only [log]
      by_cases hi : i = entry.1
      · subst hi
        rw [Function.update_self, if_pos rfl]
      · rw [Function.update_of_ne hi, if_neg hi, List.append_nil]
  | receive conn dialOk =>
      obtain ⟨c, frame, rest, -, -, hcase⟩ := receive_effects hssh hobserve
      have hlogs := log_congr (·.upSent) s conn (g := fun log =>
        { log with upArrived := log.upArrived ++ [frame] }) fun _ => rfl
      rcases hcase with ⟨hminor, rfl, -⟩ | ⟨hdials, -, rfl⟩ | ⟨socket, -, -, -, hminor, -, rfl⟩
      · exact h.quiet ⟨rfl, hlogs, hminor.forwarding, hminor.tunnels, hsame⟩
      · exact h.quiet ⟨rfl, hlogs, hdials.forwarding, fun _ hmem => hdials.tunnels ▸ hmem, hsame⟩
      · exact h.quiet ⟨rfl, hlogs, hminor.forwarding, hminor.tunnels, hsame⟩
  | readData i data =>
      have hminor := SshState.Minor.step (by simp) (by simp) (by simp) (by simp) (by simp) hssh
      obtain ⟨reader, -, ⟨-, rfl⟩ | ⟨conn, -, rfl⟩⟩ := readData_cases hobserve
      · exact h.quiet ⟨rfl, fun _ => rfl, hminor.forwarding, hminor.tunnels, hsame⟩
      · refine h.quiet ⟨rfl, ?_, hminor.forwarding, hminor.tunnels, hsame⟩
        exact log_congr (·.upSent) s conn (g := fun log => { log with downSent := _ }) fun _ => rfl
  | agentFrame conn candidate =>
      have hminor := SshState.Minor.step (by simp) (by simp) (by simp) (by simp) (by simp) hssh
      obtain ⟨c, frame, rest, -, -, hseen⟩ := agentFrame_cases hobserve
      have hlogs := log_congr (·.upSent) s conn (g := fun log =>
        if frame.msg.type = sshStreamData then
          { log with downArrived := log.downArrived ++ [frame] }
        else log) fun log => by split <;> rfl
      rcases hseen with ⟨-, rfl⟩ | ⟨user, -, -, rfl⟩
      · exact h.quiet ⟨rfl, hlogs, hminor.forwarding, hminor.tunnels, hsame⟩
      · have hconnectors : ∀ token c', ((s.log conn fun log =>
            if frame.msg.type = sshStreamData then
              { log with downArrived := log.downArrived ++ [frame] }
            else log).forward user frame.msg).connectors token = some c' →
              ∃ c, s.connectors token = some c ∧ c'.up.arrived = c.up.arrived := by
          intro token c' hc'
          obtain ⟨c, hc, rfl⟩ := forward_connectors hc'
          refine ⟨c, hc, ?_⟩
          split <;> rfl
        obtain ⟨connectors, heq⟩ := forward_eq (s.log conn fun log =>
          if frame.msg.type = sshStreamData then
            { log with downArrived := log.downArrived ++ [frame] }
          else log) user frame.msg
        rw [heq] at hconnectors ⊢
        exact h.quiet ⟨rfl, hlogs, hminor.forwarding, hminor.tunnels, hconnectors⟩
  | _ =>
      cases hobserve
      exact h.minor (.step (by simp) (by simp) (by simp) (by simp) (by simp) hssh)

end TunnelState

end Picket
