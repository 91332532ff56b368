import Picket.Lib.Transition
import Picket.Proof.SshSteps

/-!
# Tunnels follow the agent

A tunnel is bound when its user connects, to the connection that there is, or when a connection is
attached. `attachAgent` looks at waiting tunnels only, and stops at the first.
-/

namespace Picket

open Transition

namespace SshState

/-- The connection attached last, while it is open. -/
def Current (s : SshState) (conn : ℕ) : Prop :=
  s.agent = some conn ∧ ∃ c ∈ s.conns[conn]?, c.isOpen ∧ c.attachment = .attached

/-- `forwardUserMessage` sends the frames of a tunnel to the connection it is bound to. -/
def Follows (s : SshState) : Prop :=
  ∀ conn, s.Current conn → ∀ tunnel ∈ s.tunnels, tunnel.agent = some conn

variable {s t u : SshState}

theorem forwarding_of_follows {conn token : ℕ} {msg : SSHStreamMessage} (hfollows : s.Follows)
    (hcurrent : s.Current conn) (hstep : s.forwardUserMessage token msg = some t) :
    (∀ tunnel ∈ s.tunnels, tunnel.token ≠ token) ∨
      t.forwarding = (conn, ⟨msg, token⟩) :: s.forwarding := by
  unfold forwardUserMessage at hstep
  obtain ⟨-, hstep⟩ := Option.ite_none_left_eq_some.mp hstep
  cases hfind : s.tunnels.find? (·.token = token) with
  | none =>
      refine Or.inl fun tunnel hmem => ?_
      simpa using List.find?_eq_none.mp hfind tunnel hmem
  | some tunnel =>
      have hbound := hfollows conn hcurrent tunnel (List.mem_of_find?_eq_some hfind)
      rw [hfind, Option.bind_some, hbound] at hstep
      obtain rfl := Option.some.inj hstep
      exact Or.inr rfl

/-! ### Tokens of tunnels -/

structure Tokens (s : SshState) : Prop where
  tunnels : (s.tunnels.map (·.token)).Nodup
  fresh : ∀ tunnel ∈ s.tunnels, tunnel.token < s.created ∧ tunnel.token ∉ s.launches
  launches : ∀ token ∈ s.launches, token < s.created

/-! ### What does not bind -/

/-- Nothing else matters here. -/
def hub (s : SshState) : List ℕ × ℕ × List Tunnel × Option ℕ × List Conn :=
  (s.launches, s.created, s.tunnels, s.agent, s.conns)

/-- Tunnels may have gone, and connections may have closed. -/
structure Keeps (s t : SshState) : Prop where
  launches : t.launches ⊆ s.launches
  created : t.created = s.created
  tunnels : t.tunnels.Sublist s.tunnels
  agent : t.agent = s.agent
  current : ∀ conn, t.Current conn → s.Current conn

namespace Keeps

theorem refl (s : SshState) : Keeps s s :=
  ⟨fun _ h => h, rfl, List.Sublist.refl _, rfl, fun _ h => h⟩

theorem of_hub (heq : t.hub = s.hub) : Keeps s t := by
  simp only [hub, Prod.mk.injEq] at heq
  obtain ⟨hlaunches, hcreated, htunnels, hagent, hconns⟩ := heq
  refine ⟨hlaunches ▸ fun _ h => h, hcreated, htunnels ▸ List.Sublist.refl _, hagent,
    fun conn hcurrent => ?_⟩
  rwa [Current, hagent, hconns] at hcurrent

theorem trans (h : Keeps s t) (h' : Keeps t u) : Keeps s u :=
  ⟨fun _ hmem => h.launches (h'.launches hmem), h'.created.trans h.created,
    h'.tunnels.trans h.tunnels, h'.agent.trans h.agent,
    fun conn hconn => h.current conn (h'.current conn hconn)⟩

theorem tokens (h : Keeps s t) (htokens : s.Tokens) : t.Tokens where
  tunnels := htokens.tunnels.sublist (h.tunnels.map _)
  fresh := by
    intro tunnel hmem
    obtain ⟨hlt, hlaunch⟩ := htokens.fresh tunnel (h.tunnels.subset hmem)
    exact ⟨h.created ▸ hlt, fun hmem => hlaunch (h.launches hmem)⟩
  launches := fun token hmem => h.created ▸ htokens.launches token (h.launches hmem)

theorem follows (h : Keeps s t) (hfollows : s.Follows) : t.Follows :=
  fun conn hcurrent tunnel hmem =>
    hfollows conn (h.current conn hcurrent) tunnel (h.tunnels.subset hmem)

theorem modifyConn (s : SshState) (conn : ℕ) {f : Conn → Conn}
    (hf : ∀ c, (f c).isOpen → (f c).attachment = .attached →
      c.isOpen ∧ c.attachment = .attached) : Keeps s (s.modifyConn conn f) := by
  refine ⟨fun _ h => h, rfl, List.Sublist.refl _, rfl, ?_⟩
  rintro other ⟨hagent, c, hget, hopen, hattached⟩
  refine ⟨hagent, ?_⟩
  rw [Option.mem_def, SshState.modifyConn, List.getElem?_modify, Option.map_eq_map,
    Option.map_eq_some_iff] at hget
  obtain ⟨old, hold, rfl⟩ := hget
  split at hopen
  · rw [if_pos ‹_›] at hattached
    exact ⟨old, hold, hf old hopen hattached⟩
  · rw [if_neg ‹_›] at hattached
    exact ⟨old, hold, hopen, hattached⟩

theorem sendSSHStream (s : SshState) (frame : Frame) : Keeps s (s.sendSSHStream frame) := by
  unfold SshState.sendSSHStream
  split
  · exact refl s
  · refine modifyConn s _ fun c => ?_
    split <;> exact fun hopen hattached => ⟨hopen, hattached⟩

theorem openStream (s : SshState) (frame : Frame) : Keeps s (s.openStream frame) := by
  unfold SshState.openStream
  dsimp only
  split
  · refine trans ?_ (sendSSHStream _ _)
    exact of_hub rfl
  · exact of_hub rfl

theorem handleSSHStream (s : SshState) (frame : Frame) (dialOk : Bool) :
    Keeps s (s.handleSSHStream frame dialOk) := by
  rcases handleSSHStream_cases (s := s) frame dialOk with
    ⟨heq, -⟩ | ⟨-, msg, heq⟩ | ⟨-, -, -, heq⟩ | ⟨socket, -, ⟨-, heq⟩ | heq⟩
  · rw [heq]
    exact refl s
  · rw [heq]
    exact sendSSHStream s _
  · rw [heq]
    exact openStream s frame
  · rw [heq]
    exact of_hub rfl
  · rw [heq]
    exact of_hub rfl

theorem remove {token : ℕ} (hstep : s.remove token = some t) : Keeps s t := by
  obtain ⟨-, hstep⟩ := Option.ite_none_right_eq_some.mp hstep
  cases hstep
  exact ⟨fun _ h => h, rfl, List.filter_sublist, rfl, fun _ h => h⟩

theorem revokeSSHLaunch (s : SshState) (token : ℕ) : Keeps s (s.revokeSSHLaunch token) := by
  have hlaunch : Keeps s { s with launches := s.launches.filter (· ≠ token) } :=
    ⟨List.filter_subset_self _, rfl, List.Sublist.refl _, rfl, fun _ h => h⟩
  obtain heq | hremove := revokeSSHLaunch_cases (s := s) token
  · rwa [heq]
  · exact hlaunch.trans (remove hremove)

theorem close (s : SshState) : Keeps s s.close := by
  unfold SshState.close
  dsimp only
  split
  · exact of_hub rfl
  · refine trans ?_ (modifyConn _ _ fun c hopen => by cases hopen)
    exact of_hub rfl

theorem connect (s : SshState) : Keeps s s.connect := by
  refine (close s).trans ⟨fun _ h => h, rfl, List.Sublist.refl _, rfl, ?_⟩
  rintro conn ⟨hagent, c, hget, hopen, hattached⟩
  refine ⟨hagent, c, ?_, hopen, hattached⟩
  rw [SshState.connect, Option.mem_def, List.getElem?_append] at hget
  split at hget
  · exact hget
  · obtain rfl := List.mem_singleton.mp (List.mem_of_getElem? hget)
    cases hattached

theorem receive {conn : ℕ} {dialOk : Bool} (hstep : s.receive conn dialOk = some t) :
    Keeps s t := by
  obtain ⟨c, frame, rest, -, -, ⟨-, rfl⟩ | ⟨-, rfl⟩⟩ := receive_cases hstep
  · exact modifyConn s conn fun c hopen hattached => ⟨hopen, hattached⟩
  · refine trans ?_ (handleSSHStream _ _ _)
    exact modifyConn s conn fun c hopen hattached => ⟨hopen, hattached⟩

theorem forwardAgentMessage {conn : ℕ} {candidate : Option ℕ}
    (hstep : s.forwardAgentMessage conn candidate = some t) : Keeps s t := by
  obtain ⟨c, frame, rest, -, -, rfl | ⟨token, -, rfl⟩⟩ := forwardAgentMessage_cases hstep
  · exact modifyConn s conn fun c hopen hattached => ⟨hopen, hattached⟩
  · refine trans (modifyConn s conn fun c hopen hattached => ?_) (of_hub rfl)
    exact ⟨hopen, hattached⟩

/-- Whatever happens but a launch, a user who connects, and a connection that is attached. -/
theorem step {e : SshEvent} (hstep : s.step e = some t) (hcreate : e ≠ .create)
    (huser : ∀ token, e ≠ .connectUser token) (hagent : ∀ conn, e ≠ .attachAgent conn)
    (hwaiting : ∀ conn waiting, e ≠ .attachWaiting conn waiting) : Keeps s t := by
  cases e with
  | create => contradiction
  | connectUser token => exact absurd rfl (huser token)
  | attachAgent conn => exact absurd rfl (hagent conn)
  | attachWaiting conn waiting => exact absurd rfl (hwaiting conn waiting)
  | userFrame token msg =>
      obtain rfl | ⟨conn, -, -, rfl⟩ := forwardUserMessage_cases hstep
      · exact refl _
      · exact of_hub rfl
  | sendStream entry =>
      obtain ⟨-, heq⟩ := Option.ite_none_right_eq_some.mp hstep
      obtain rfl := Option.some.inj heq
      refine trans (of_hub ?_) (modifyConn _ _ fun c => ?_)
      · rfl
      · split <;> exact fun hopen hattached => ⟨hopen, hattached⟩
  | userClosed token => exact remove (Option.ite_none_left_eq_some.mp hstep).2
  | expire token => exact remove hstep
  | revoke token =>
      obtain rfl := Option.some.inj hstep
      exact revokeSSHLaunch s token
  | setStreamHandler conn =>
      obtain ⟨-, heq⟩ := Option.ite_none_right_eq_some.mp hstep
      obtain rfl := Option.some.inj heq
      exact modifyConn s conn fun c _ hattached => by cases hattached
  | agentFrame conn candidate => exact forwardAgentMessage hstep
  | close =>
      obtain rfl := Option.some.inj hstep
      exact close s
  | connect =>
      obtain rfl := Option.some.inj hstep
      exact connect s
  | connectionLost conn =>
      obtain rfl := Option.some.inj hstep
      exact modifyConn s conn fun c hopen => by cases hopen
  | lose conn =>
      obtain ⟨-, heq⟩ := Option.ite_none_right_eq_some.mp hstep
      obtain rfl := Option.some.inj heq
      exact modifyConn s conn fun c hopen hattached => ⟨hopen, hattached⟩
  | receive conn dialOk => exact receive hstep
  | readData i data =>
      obtain ⟨reader, -, ⟨msg, rfl⟩ | rfl⟩ := readData_cases hstep
      · exact sendSSHStream s _
      · exact of_hub rfl
  | readEnd i =>
      obtain ⟨reader, msg, -, rfl⟩ := readEnd_cases hstep
      refine trans ?_ (sendSSHStream (s.endReader i reader) _)
      exact of_hub rfl
  | readDelete i =>
      obtain ⟨reader, -, -, rfl⟩ := readDelete_cases hstep
      exact of_hub rfl

end Keeps

/-! ### What binds -/

theorem Tokens.step {e : SshEvent} (htokens : s.Tokens) (hstep : s.step e = some t) : t.Tokens := by
  cases e with
  | create =>
      obtain rfl := Option.some.inj hstep
      refine ⟨htokens.tunnels, fun tunnel hmem => ?_, fun token hmem => ?_⟩
      · obtain ⟨hlt, hlaunch⟩ := htokens.fresh tunnel hmem
        refine ⟨Nat.lt_succ_of_lt hlt, fun hcons => ?_⟩
        obtain heq | hold := List.mem_cons.mp hcons
        · exact Nat.ne_of_lt hlt heq
        · exact hlaunch hold
      · obtain rfl | hold := List.mem_cons.mp hmem
        · exact Nat.lt_succ_self _
        · exact Nat.lt_succ_of_lt (htokens.launches token hold)
  | connectUser token =>
      obtain ⟨hlaunch, heq⟩ := Option.ite_none_right_eq_some.mp hstep
      obtain rfl := Option.some.inj heq
      refine ⟨List.nodup_cons.mpr ⟨fun hmem => ?_, htokens.tunnels⟩, fun tunnel hmem => ?_,
        fun other hmem => htokens.launches other (List.mem_of_mem_filter hmem)⟩
      · obtain ⟨tunnel, htunnel, heq⟩ := List.mem_map.mp hmem
        exact (htokens.fresh tunnel htunnel).2 (heq ▸ hlaunch)
      · obtain rfl | hold := List.mem_cons.mp hmem
        · exact ⟨htokens.launches token hlaunch, fun hmem => by simp at hmem⟩
        · obtain ⟨hlt, hfresh⟩ := htokens.fresh tunnel hold
          exact ⟨hlt, fun hmem => hfresh (List.mem_of_mem_filter hmem)⟩
  | attachAgent conn =>
      obtain ⟨-, heq⟩ := Option.ite_none_right_eq_some.mp hstep
      obtain rfl := Option.some.inj heq
      exact ⟨htokens.tunnels, htokens.fresh, htokens.launches⟩
  | attachWaiting conn waiting =>
      obtain ⟨c, -, ⟨-, rfl⟩ | ⟨token, -, rfl⟩⟩ := attachWaiting_cases hstep
      · exact ⟨htokens.tunnels, htokens.fresh, htokens.launches⟩
      · have hsame : (fun tunnel : Tunnel =>
            (if tunnel.token = token then { tunnel with agent := some conn } else tunnel).token) =
              (·.token) := by
          funext tunnel
          split <;> rfl
        refine ⟨?_, fun tunnel hmem => ?_, htokens.launches⟩
        · rw [List.map_map, Function.comp_def, hsame]
          exact htokens.tunnels
        · obtain ⟨old, hold, rfl⟩ := List.mem_map.mp hmem
          rw [congrFun hsame old]
          exact htokens.fresh old hold
  | _ =>
      refine (Keeps.step hstep ?_ ?_ ?_ ?_).tokens htokens
      all_goals simp

/-- When the connection attached last is attached to the end, every tunnel is bound to it already,
but for one at most, which waits. -/
def BindsGuard (s : SshState) : SshEvent → Prop
  | .attachWaiting conn _ =>
      s.agent = some conn → (s.conns[conn]?.map (·.isOpen)) = some true →
        ∀ tunnel ∈ s.tunnels, tunnel.agent = some conn ∨
          tunnel.agent = none ∧ ∀ other ∈ s.tunnels, other.agent = none → other = tunnel
  | _ => True

instance (s : SshState) : DecidablePred s.BindsGuard := fun e => by
  apply @SshEvent.casesOn (fun e => Decidable (s.BindsGuard e)) e <;> intros <;>
    unfold BindsGuard <;> infer_instance

theorem current_attachWaiting {conn other : ℕ} {s' : SshState} (hcurrent : s'.Current other)
    (hagent : s'.agent = s.agent)
    (hconns : s'.conns =
      (s.modifyConn conn fun conn => { conn with attachment := .attached }).conns) :
    s.Current other ∨ other = conn ∧ s.agent = some conn ∧
      (s.conns[conn]?.map (·.isOpen)) = some true := by
  obtain ⟨hother, c, hget, hopen, hattached⟩ := hcurrent
  rw [hagent] at hother
  rw [hconns, Option.mem_def, modifyConn, List.getElem?_modify, Option.map_eq_map,
    Option.map_eq_some_iff] at hget
  obtain ⟨old, hold, rfl⟩ := hget
  split at hopen
  case isTrue heq =>
    subst heq
    exact Or.inr ⟨rfl, hother, Option.map_eq_some_iff.mpr ⟨old, hold, hopen⟩⟩
  case isFalse hne =>
    rw [if_neg hne] at hattached
    exact Or.inl ⟨hother, old, hold, hopen, hattached⟩

theorem Current.attachWaiting {conn : ℕ} {s' : SshState} (hagent : s.agent = some conn)
    (hopen : (s.conns[conn]?.map (·.isOpen)) = some true) (hagent' : s'.agent = s.agent)
    (hconns : s'.conns =
      (s.modifyConn conn fun conn => { conn with attachment := .attached }).conns) :
    s'.Current conn := by
  obtain ⟨c, hget, hopen⟩ := Option.map_eq_some_iff.mp hopen
  refine ⟨hagent'.trans hagent, { c with attachment := .attached }, ?_, hopen, rfl⟩
  rw [hconns, Option.mem_def, modifyConn, List.getElem?_modify, hget]
  simp

/-- Nothing waits. -/
theorem attachWaiting_none_iff {conn : ℕ} (hfollows : s.Follows)
    (hstep : s.attachWaiting conn none = some t) :
    s.BindsGuard (.attachWaiting conn none) ↔ t.Follows := by
  obtain ⟨-, hstep⟩ := Option.ite_none_right_eq_some.mp hstep
  obtain ⟨hnone, hstep⟩ := Option.ite_none_left_eq_some.mp hstep
  obtain rfl := Option.some.inj hstep
  constructor
  · intro hguard other hcurrent tunnel hmem
    obtain hold | ⟨rfl, hagent, hopen⟩ := current_attachWaiting (s := s) hcurrent rfl rfl
    · exact hfollows other hold tunnel hmem
    · obtain hbound | ⟨hwaits, -⟩ := hguard hagent hopen tunnel hmem
      · exact hbound
      · exact absurd ⟨tunnel, hmem, hwaits⟩ hnone
  · intro hafter hagent hopen tunnel hmem
    exact Or.inl (hafter conn (Current.attachWaiting (s := s) hagent hopen rfl rfl) tunnel hmem)

/-- One of those that wait is bound. -/
theorem attachWaiting_some_iff {conn token : ℕ} (htokens : s.Tokens) (hfollows : s.Follows)
    (hstep : s.attachWaiting conn (some token) = some t) :
    s.BindsGuard (.attachWaiting conn (some token)) ↔ t.Follows := by
  obtain ⟨-, hstep⟩ := Option.ite_none_right_eq_some.mp hstep
  obtain ⟨hwaiting, hstep⟩ := Option.ite_none_right_eq_some.mp hstep
  obtain rfl := Option.some.inj hstep
  have honly : ∀ tunnel ∈ s.tunnels, tunnel.token = token → tunnel = ⟨token, none⟩ :=
    fun tunnel hmem htoken => List.inj_on_of_nodup_map htokens.tunnels hmem hwaiting htoken
  constructor
  · intro hguard other hcurrent tunnel hmem
    obtain ⟨old, hold, rfl⟩ := List.mem_map.mp hmem
    obtain hcurrent | ⟨rfl, hagent, hopen⟩ := current_attachWaiting (s := s) hcurrent rfl rfl
    · cases hfollows other hcurrent _ hwaiting
    · split
      case isTrue => rfl
      case isFalse hne =>
        obtain hbound | ⟨-, hunique⟩ := hguard hagent hopen old hold
        · exact hbound
        · exact absurd (congrArg Tunnel.token (hunique _ hwaiting rfl)).symm hne
  · intro hafter hagent hopen tunnel hmem
    have hbound : ∀ tunnel ∈ s.tunnels, tunnel.token ≠ token → tunnel.agent = some conn := by
      intro tunnel hmem hne
      have hagent' := hafter conn (Current.attachWaiting (s := s) hagent hopen rfl rfl) tunnel
        (List.mem_map.mpr ⟨tunnel, hmem, if_neg hne⟩)
      exact hagent'
    by_cases htoken : tunnel.token = token
    · refine Or.inr ⟨by rw [honly tunnel hmem htoken], fun other hother hwaits => ?_⟩
      by_cases htoken' : other.token = token
      · rw [honly tunnel hmem htoken, honly other hother htoken']
      · rw [hbound other hother htoken'] at hwaits
        cases hwaits
    · exact Or.inl (hbound tunnel hmem htoken)

theorem bindsGuard_iff {e : SshEvent} (htokens : s.Tokens) (hfollows : s.Follows)
    (hstep : s.step e = some t) : s.BindsGuard e ↔ t.Follows := by
  cases e with
  | create =>
      obtain rfl := Option.some.inj hstep
      exact iff_of_true trivial hfollows
  | connectUser token =>
      obtain ⟨-, heq⟩ := Option.ite_none_right_eq_some.mp hstep
      obtain rfl := Option.some.inj heq
      refine iff_of_true trivial fun conn hcurrent tunnel hmem => ?_
      obtain rfl | hold := List.mem_cons.mp hmem
      · exact hcurrent.1
      · exact hfollows conn hcurrent tunnel hold
  | attachAgent conn =>
      obtain ⟨-, heq⟩ := Option.ite_none_right_eq_some.mp hstep
      obtain rfl := Option.some.inj heq
      -- it is not attached to the end yet
      refine iff_of_true trivial ?_
      rintro other ⟨hagent, c, hget, -, hattached⟩
      obtain rfl := Option.some.inj hagent
      rw [modifyConn, Option.mem_def, List.getElem?_modify, Option.map_eq_map,
        Option.map_eq_some_iff] at hget
      obtain ⟨old, -, rfl⟩ := hget
      rw [if_pos rfl] at hattached
      cases hattached
  | attachWaiting conn waiting =>
      cases waiting with
      | none => exact attachWaiting_none_iff hfollows hstep
      | some token => exact attachWaiting_some_iff htokens hfollows hstep
  | _ =>
      refine iff_of_true trivial ((Keeps.step hstep ?_ ?_ ?_ ?_).follows hfollows)
      all_goals simp

theorem tokens_init : Tokens {} where
  tunnels := List.nodup_nil
  fresh := fun _ hmem => (List.not_mem_nil hmem).elim
  launches := fun _ hmem => (List.not_mem_nil hmem).elim

theorem follows_init : Follows {} := by
  rintro conn ⟨hagent, -⟩
  cases hagent

end SshState

/-- **When tunnels follow.** In every state of a run the tunnels are bound to the connection
attached last, while it is open, if and only if no tunnel was bound before, and one at most waited,
each time such a connection was attached to the end. -/
theorem follows_iff_guarded {s : SshState} {es : List SshEvent}
    (hrun : run SshState.step {} es = some s) :
    (∀ before t, before <+: es → run SshState.step {} before = some t → t.Follows) ↔
      Guarded SshState.step SshState.BindsGuard {} es s :=
  (guarded_iff_throughout (fun s : SshState => s.Tokens ∧ s.Follows) (fun _ hinv => hinv.2)
    (fun _ _ _ hinv hstep => SshState.bindsGuard_iff hinv.1 hinv.2 hstep)
    (fun _ _ _ hinv hstep hfollows => ⟨hinv.1.step hstep, hfollows⟩)
    ⟨SshState.tokens_init, SshState.follows_init⟩ hrun).symm

def attachedBy (conn : ℕ) (waiting : Option ℕ) : List SshEvent :=
  [.connect, .attachAgent conn, .setStreamHandler conn, .attachWaiting conn waiting]

/-- A user waits for the agent; another comes when it is there. -/
def waitsAlone : List SshEvent :=
  [.create, .connectUser 0] ++ attachedBy 0 (some 0) ++ [.create, .connectUser 1]

theorem follows_waitsAlone : (run SshState.step {} waitsAlone).isSome ∧
    ∀ before t, before <+: waitsAlone → run SshState.step {} before = some t → t.Follows := by
  obtain ⟨s, hcheck⟩ := Option.isSome_iff_exists.mp
    (show (check SshState.step SshState.BindsGuard {} waitsAlone).isSome by decide +kernel)
  have hguarded := guarded_of_check hcheck
  exact ⟨by rw [hguarded.run_eq]; rfl, (follows_iff_guarded hguarded.run_eq).mpr hguarded⟩

/-- Two users wait for the agent. -/
def twoWait : List SshEvent :=
  [.create, .create, .connectUser 0, .connectUser 1] ++ attachedBy 0 (some 0)

theorem not_follows : ¬ ∀ (es : List SshEvent) (s : SshState),
    run SshState.step {} es = some s → s.Follows := by
  intro hall
  have hsome : (run SshState.step {} twoWait).map (fun s => (s.tunnels, s.agent, s.conns)) =
      some ([⟨1, none⟩, ⟨0, some 0⟩], some 0, [{ attachment := .attached }]) := by
    decide +kernel
  obtain ⟨s, hrun, heq⟩ := Option.map_eq_some_iff.mp hsome
  simp only [Prod.mk.injEq] at heq
  obtain ⟨htunnels, hagent, hconns⟩ := heq
  have hcurrent : s.Current 0 :=
    ⟨hagent, { attachment := .attached }, by rw [hconns]; rfl, rfl, rfl⟩
  have hbound := hall _ s hrun 0 hcurrent ⟨1, none⟩ (by rw [htunnels]; exact List.mem_cons_self)
  cases hbound

end Picket
