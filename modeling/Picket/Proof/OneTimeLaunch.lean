import Picket.Lib.Transition
import Picket.SshLaunches

/-!
# One-time launches

A token is in one place at a time: in the launch map, with a goroutine that is upgrading its
connection, or with the tunnel it became. A `done` channel is closed by whoever took its tunnel out
of the map. Revoking, though, looks into the two maps only, and a launch on its way from the one to
the other is in neither.
-/

namespace Picket

open Transition Threads AssocList

/-- Launches are one-time, and revoking is final. -/
structure SshManager.OneTime (m : SshManager) : Prop where
  oneTunnel : (m.inserted.map (·.sshToken)).Nodup
  inTime : ∀ entry ∈ m.taken,
    ∃ expires, m.issued.lookup entry.1 = some expires ∧ entry.2 ≤ expires
  revoked : ∀ token ∈ m.returned, m.tunnels.lookup token = none
  closedOnce : ∀ tunnel ∈ m.inserted, tunnel.closes ≤ 1

/-! ### Where a token is, and who closes a channel -/

def LaunchOp.holds : LaunchOp → Option String
  | .upgrade token _ | .connectUser token _ _ => some token
  | _ => none

/-- The token of the tunnel that a goroutine is about to insert. -/
def LaunchOp.connects : LaunchOp → Option String
  | .connectUser token _ _ => some token
  | _ => none

/-- The tunnel whose `done` a goroutine is about to close. -/
def LaunchOp.closing : LaunchOp → Option ℕ
  | .selectDone ref | .closeDone ref => some ref
  | _ => none

namespace SshManager

variable (m : SshManager)

/-- How often a token is in the launch map or has become a tunnel. -/
def keeps (token : String) : ℕ :=
  (m.launch.map Prod.fst).count token + (m.inserted.map (·.sshToken)).count token

def closesOf (ref : ℕ) : ℕ :=
  m.inserted[ref]?.elim 0 (·.closes)

/-- How often `done` was closed, and whether the tunnel is still to be found in the map. -/
def closers (ref : ℕ) : ℕ :=
  m.closesOf ref + (m.tunnels.map Prod.snd).count ref

theorem keeps_modifyTunnel {f : SshTunnel → SshTunnel}
    (hf : ∀ tunnel, (f tunnel).sshToken = tunnel.sshToken) (ref : ℕ) (token : String) :
    (m.modifyTunnel ref f).keeps token = m.keeps token := by
  have hmap : (m.inserted.modify ref f).map (·.sshToken) = m.inserted.map (·.sshToken) := by
    apply List.ext_getElem?
    intro i
    rw [List.getElem?_map, List.getElem?_map, List.getElem?_modify]
    cases m.inserted[i]? with
    | none => rfl
    | some tunnel => by_cases href : ref = i <;> simp [href, hf]
  unfold keeps modifyTunnel
  rw [hmap]

theorem closers_modifyTunnel {f : SshTunnel → SshTunnel}
    (hf : ∀ tunnel, (f tunnel).closes = tunnel.closes) (ref ref' : ℕ) :
    (m.modifyTunnel ref f).closers ref' = m.closers ref' := by
  unfold closers closesOf modifyTunnel
  rw [List.getElem?_modify]
  cases m.inserted[ref']? with
  | none => rfl
  | some tunnel => by_cases href : ref = ref' <;> simp [href, hf]

@[simp]
theorem length_modifyTunnel (ref : ℕ) (f : SshTunnel → SshTunnel) :
    (m.modifyTunnel ref f).inserted.length = m.inserted.length :=
  List.length_modify f m.inserted ref

@[simp]
theorem keeps_close (ref : ℕ) (token : String) : (m.close ref).keeps token = m.keeps token := by
  apply m.keeps_modifyTunnel
  exact fun _ => rfl

@[simp]
theorem length_close (ref : ℕ) : (m.close ref).inserted.length = m.inserted.length :=
  m.length_modifyTunnel ref _

theorem closesOf_close_le (ref ref' : ℕ) :
    (m.close ref).closesOf ref' ≤ m.closesOf ref' + if ref = ref' then 1 else 0 := by
  unfold closesOf close modifyTunnel
  rw [List.getElem?_modify]
  cases m.inserted[ref']? with
  | none => simp
  | some tunnel => by_cases href : ref = ref' <;> simp [href]

@[simp]
theorem keeps_bind (ref agent : ℕ) (token : String) :
    (m.bind ref agent).keeps token = m.keeps token := by
  apply m.keeps_modifyTunnel
  exact fun _ => rfl

@[simp]
theorem closers_bind (ref agent ref' : ℕ) : (m.bind ref agent).closers ref' = m.closers ref' := by
  apply m.closers_modifyTunnel
  exact fun _ => rfl

@[simp]
theorem length_bind (ref agent : ℕ) : (m.bind ref agent).inserted.length = m.inserted.length :=
  m.length_modifyTunnel ref _

@[simp]
theorem keeps_touch (ref : ℕ) (token : String) : (m.touch ref).keeps token = m.keeps token := by
  apply m.keeps_modifyTunnel
  exact fun _ => rfl

@[simp]
theorem closers_touch (ref ref' : ℕ) : (m.touch ref).closers ref' = m.closers ref' := by
  apply m.closers_modifyTunnel
  exact fun _ => rfl

@[simp]
theorem length_touch (ref : ℕ) : (m.touch ref).inserted.length = m.inserted.length :=
  m.length_modifyTunnel ref _

theorem closesOf_append (tunnel : SshTunnel) (hcloses : tunnel.closes = 0) (ref : ℕ) :
    closesOf { m with inserted := m.inserted ++ [tunnel] } ref = m.closesOf ref := by
  unfold closesOf
  rw [List.getElem?_append]
  split
  · rfl
  case isFalse hle =>
    rw [List.getElem?_eq_none (Nat.le_of_not_lt hle), List.getElem?_singleton]
    split <;> simp [hcloses]

end SshManager

/-- `expire` only looks, and either ends or goes on. -/
theorem LaunchOp.exec_expire {m : SshManager} {choice : LaunchChoice} {token : String} {ref : ℕ}
    {out : Outcome SshManager Unit LaunchOp}
    (hexec : (LaunchOp.expire token ref).exec m () choice = some out) :
    out.state = m ∧ out.spawned = [] ∧
      (out.ops = [] ∨ out.ops = [.remove token] ∨ out.ops = [.expire token ref]) := by
  cases choice <;> grind [exec]

theorem LaunchOp.exec_bindTunnel {m : SshManager} {choice : LaunchChoice} {systemID : String}
    {agent : ℕ} {out : Outcome SshManager Unit LaunchOp}
    (hexec : (LaunchOp.bindTunnel systemID agent).exec m () choice = some out) :
    (∃ inserted, out.state = { m with inserted := inserted }) ∧ out.ops = [] ∧
      out.spawned = [] := by
  cases choice with
  | none =>
      have hstate : out.state = m := by grind [exec]
      exact ⟨⟨m.inserted, hstate⟩, by grind [exec], by grind [exec]⟩
  | _ => grind [exec, SshManager.bind, SshManager.modifyTunnel]

section Exec

variable {m : SshManager} {choice : LaunchChoice} {op : LaunchOp}
  {out : Outcome SshManager Unit LaunchOp}
  (hexec : op.exec m () choice = some out)
include hexec

theorem LaunchOp.exec_keeps (token : String) :
    out.state.keeps token + (out.ops.filterMap LaunchOp.holds).count token
        + ((out.spawned.flatMap (·.ops)).filterMap LaunchOp.holds).count token
      ≤ m.keeps token + if op.holds = some token then 1 else 0 := by
  cases op with
  | take token' =>
      simp only [exec] at hexec
      split at hexec
      · cases hexec
        simp [holds]
      case h_2 launch hlookup =>
        split at hexec <;> cases hexec
        · simp [holds]
        · have hdelete := count_delete_add hlookup token
          simp only [SshManager.keeps, List.filterMap_cons, holds, List.filterMap_nil,
            List.count_singleton, List.flatMap_nil, List.count_nil, beq_iff_eq, reduceCtorEq,
            if_false]
          omega
  | connectUser token' launch last =>
      cases hexec
      simp [SshManager.keeps, List.filterMap_cons, holds, List.count_singleton]
      omega
  | revokeSSHLaunch token' =>
      have hdelete := count_delete_le token' m.launch token
      simp only [exec] at hexec
      split at hexec <;> cases hexec <;>
        simpa [List.filterMap_cons, holds, SshManager.keeps] using hdelete
  | upgrade token' launch =>
      simp only [exec] at hexec
      split at hexec <;> cases hexec <;> simp [holds, List.count_singleton]
  | remove token' =>
      simp only [exec] at hexec
      split at hexec <;> cases hexec
      · simp [holds]
      case h_2 ref _ =>
        simp only [holds, List.filterMap_nil, List.count_nil, List.flatMap_nil]
        exact Nat.le_of_eq (m.keeps_close ref token)
  | closeDone ref =>
      cases hexec
      simp [holds]
  | bindTunnel systemID agent =>
      cases choice with
      | tunnel token' =>
          simp only [exec] at hexec
          split at hexec
          · cases hexec
          case h_2 ref _ =>
            split at hexec <;> cases hexec
            simp [holds]
      | _ => grind [exec, holds]
  | expire token' ref => grind [exec_expire hexec, holds]
  | _ => grind [exec, holds, SshManager.keeps]

theorem LaunchOp.exec_closers (ref : ℕ) :
    out.state.closers ref + (out.ops.filterMap LaunchOp.closing).count ref
        + ((out.spawned.flatMap (·.ops)).filterMap LaunchOp.closing).count ref
        + (if ref < m.inserted.length then 1 else 0)
      ≤ m.closers ref + (if op.closing = some ref then 1 else 0)
        + if ref < out.state.inserted.length then 1 else 0 := by
  cases op with
  | take token =>
      have hframe : out.state.tunnels = m.tunnels ∧ out.state.inserted = m.inserted ∧
          out.ops.filterMap LaunchOp.closing = [] ∧ out.spawned = [] := by
        grind [exec, closing]
      obtain ⟨htunnels, hinserted, hops, hspawned⟩ := hframe
      simp [SshManager.closers, SshManager.closesOf, *]
  | connectUser token launch last =>
      have hinsert := count_values_insert_le token m.inserted.length m.tunnels ref
      cases hexec
      have hcloses := m.closesOf_append
        { sshToken := token, launch, agent := m.agents.lookup launch.systemID, last } rfl ref
      simp only [SshManager.closesOf] at hcloses
      simp only [SshManager.closers, SshManager.closesOf, hcloses, List.length_append,
        List.length_singleton]
      simp [List.filterMap_cons, closing]
      grind
  | revokeSSHLaunch token =>
      simp only [exec] at hexec
      split at hexec <;> cases hexec
      · simp [List.filterMap_cons, closing, SshManager.closers, SshManager.closesOf]
      case h_2 ref' hlookup =>
        have hdelete := count_values_delete_add hlookup ref
        simp [List.filterMap_cons, closing, SshManager.closers, SshManager.closesOf,
          List.count_singleton]
        omega
  | remove token =>
      simp only [exec] at hexec
      split at hexec <;> cases hexec
      · simp [closing]
      case h_2 ref' hlookup =>
        have hdelete := count_values_delete_add hlookup ref
        have hclose := m.closesOf_close_le ref' ref
        simp only [SshManager.closesOf] at hclose
        simp [closing, SshManager.closers, SshManager.closesOf]
        omega
  | selectDone ref' =>
      simp only [exec] at hexec
      split at hexec
      · cases hexec
      · split at hexec <;> cases hexec <;> simp [closing, List.count_singleton]
  | closeDone ref' =>
      cases hexec
      have hclose := m.closesOf_close_le ref' ref
      have hframe : (m.close ref').tunnels = m.tunnels := rfl
      simp [closing, SshManager.closers, hframe]
      omega
  | bindTunnel systemID agent =>
      cases choice with
      | tunnel token =>
          simp only [exec] at hexec
          split at hexec
          · cases hexec
          case h_2 ref' _ =>
            split at hexec <;> cases hexec
            simp [closing]
      | _ => grind [exec, closing]
  | expire token ref' => grind [exec_expire hexec, closing]
  | _ => grind [exec, closing, SshManager.closers, SshManager.closesOf]

theorem LaunchOp.exec_named : out.state.named = m.named ∧ out.state.issued = m.issued := by
  cases op with
  | expire token ref => grind [exec_expire hexec]
  | bindTunnel systemID agent => grind [exec_bindTunnel hexec]
  | _ => grind [exec, SshManager.close, SshManager.modifyTunnel]

theorem LaunchOp.exec_launch {entry : String × SshLaunch} (hmem : entry ∈ out.state.launch) :
    entry ∈ m.launch := by
  cases op with
  | expire token ref => grind [exec_expire hexec]
  | bindTunnel systemID agent => grind [exec_bindTunnel hexec]
  | _ => grind [exec, SshManager.close, SshManager.modifyTunnel, mem_of_mem_delete]

theorem LaunchOp.exec_taken {entry : String × ℕ} (hmem : entry ∈ out.state.taken) :
    entry ∈ m.taken ∨
      ∃ launch, m.launch.lookup entry.1 = some launch ∧ entry.2 ≤ launch.expires := by
  cases op with
  | expire token ref => grind [exec_expire hexec]
  | bindTunnel systemID agent => grind [exec_bindTunnel hexec]
  | _ => grind [exec, SshManager.close, SshManager.modifyTunnel]

/-- A token is looked up in the launch map or in the tunnels after a step only if it was there
before, or its tunnel has just been inserted. -/
theorem LaunchOp.exec_lookup (token : String) :
    (m.launch.lookup token = none → out.state.launch.lookup token = none) ∧
      (m.tunnels.lookup token = none → out.state.tunnels.lookup token = none ∨
        ∃ launch last, op = .connectUser token launch last) := by
  cases op with
  | expire token ref => grind [exec_expire hexec]
  | bindTunnel systemID agent => grind [exec_bindTunnel hexec]
  | _ => grind [exec, SshManager.close, SshManager.modifyTunnel, lookup_delete, lookup_insert]

theorem LaunchOp.exec_revoked {token : String} (hmem : token ∈ out.state.revoked) :
    token ∈ m.revoked ∨ (op = .revokeSSHLaunch token ∧
      out.state.launch.lookup token = none ∧ out.state.tunnels.lookup token = none) := by
  cases op with
  | expire token ref => grind [exec_expire hexec]
  | bindTunnel systemID agent => grind [exec_bindTunnel hexec]
  | _ => grind [exec, SshManager.close, SshManager.modifyTunnel, lookup_delete]

theorem LaunchOp.revoked_exec {token : String} (hmem : token ∈ m.revoked) :
    token ∈ out.state.revoked := by
  cases op with
  | expire token ref => grind [exec_expire hexec]
  | bindTunnel systemID agent => grind [exec_bindTunnel hexec]
  | _ => grind [exec, SshManager.close, SshManager.modifyTunnel]

theorem LaunchOp.exec_returned {token : String} (hmem : token ∈ out.state.returned) :
    token ∈ m.returned ∨ op = .answer token := by
  cases op with
  | expire token ref => grind [exec_expire hexec]
  | bindTunnel systemID agent => grind [exec_bindTunnel hexec]
  | _ => grind [exec, SshManager.close, SshManager.modifyTunnel]

theorem LaunchOp.connects_of_pushed {pushed : LaunchOp} (hmem : pushed ∈ out.ops)
    {token : String} (hconnects : pushed.connects = some token) :
    ∃ launch, op = .upgrade token launch ∧ choice = .ok := by
  cases op with
  | expire token ref => grind [exec_expire hexec, connects]
  | bindTunnel systemID agent => grind [exec_bindTunnel hexec]
  | _ => grind [exec, connects]

theorem LaunchOp.answer_of_pushed {token : String} (hmem : .answer token ∈ out.ops) :
    token ∈ out.state.revoked := by
  cases op with
  | expire token ref => grind [exec_expire hexec]
  | bindTunnel systemID agent => grind [exec_bindTunnel hexec]
  | _ => grind [exec]

theorem LaunchOp.not_revoke_of_pushed (token : String) : .revokeSSHLaunch token ∉ out.ops := by
  cases op with
  | expire token ref => grind [exec_expire hexec]
  | bindTunnel systemID agent => grind [exec_bindTunnel hexec]
  | _ => grind [exec]

theorem LaunchOp.of_spawned {thread : Thread Unit LaunchOp} (hmem : thread ∈ out.spawned)
    {pushed : LaunchOp} (hop : pushed ∈ thread.ops) :
    (∃ token ref, pushed = .expire token ref) ∨ ∃ token, pushed = .remove token := by
  cases op with
  | expire token ref => grind [exec_expire hexec]
  | bindTunnel systemID agent => grind [exec_bindTunnel hexec]
  | _ => grind [exec]

end Exec

/-! ### What holds in every run -/

structure LaunchInv (w : LaunchWorld) : Prop where
  /-- A token is in one place, once it has been created. -/
  places : ∀ token, w.state.keeps token + (w.todo.filterMap LaunchOp.holds).count token
    ≤ if token ∈ w.state.named then 1 else 0
  closers : ∀ ref, w.state.closers ref + (w.todo.filterMap LaunchOp.closing).count ref
    ≤ if ref < w.state.inserted.length then 1 else 0
  expires : ∀ entry ∈ w.state.launch, w.state.issued.lookup entry.1 = some entry.2.expires
  inTime : ∀ entry ∈ w.state.taken,
    ∃ expires, w.state.issued.lookup entry.1 = some expires ∧ entry.2 ≤ expires
  named : ∀ entry ∈ w.state.issued, entry.1 ∈ w.state.named

theorem LaunchInv.run {w : LaunchWorld} {i : ℕ} {choice : LaunchChoice} (h : LaunchInv w)
    (turn : Turn LaunchOp.exec w i choice) : LaunchInv turn.next := by
  obtain ⟨hnamed, hissued⟩ := LaunchOp.exec_named turn.exec
  constructor
  case places =>
    intro token
    have hplaces := h.places token
    have hexec := LaunchOp.exec_keeps turn.exec token
    have hcount := turn.count_todo LaunchOp.holds token
    rw [turn.next_state, hnamed]
    omega
  case closers =>
    intro ref
    have hclosers := h.closers ref
    have hexec := LaunchOp.exec_closers turn.exec ref
    have hcount := turn.count_todo LaunchOp.closing ref
    rw [turn.next_state]
    omega
  case expires =>
    intro entry hentry
    rw [turn.next_state, hissued]
    exact h.expires entry (LaunchOp.exec_launch turn.exec hentry)
  case inTime =>
    intro entry hentry
    rw [turn.next_state, hissued]
    rcases LaunchOp.exec_taken turn.exec hentry with hold | ⟨launch, hlookup, hle⟩
    · exact h.inTime entry hold
    · exact ⟨launch.expires, h.expires (entry.1, launch) (mem_of_lookup hlookup), hle⟩
  case named =>
    intro entry hentry
    rw [turn.next_state, hissued] at hentry
    rw [turn.next_state, hnamed]
    exact h.named entry hentry

theorem LaunchInv.request {w : LaunchWorld} (h : LaunchInv w) (named : List String)
    (hnamed : ∀ token ∈ w.state.named, token ∈ named) {op : LaunchOp} (hholds : op.holds = none)
    (hcloses : op.closing = none) :
    LaunchInv (World.spawn { w with state := { w.state with named := named } } ⟨(), [op]⟩) := by
  constructor
  case places =>
    intro token
    have hplaces := h.places token
    rw [World.todo_spawn]
    simp only [List.filterMap_append, List.filterMap_cons, hholds, List.filterMap_nil,
      List.append_nil]
    apply Nat.le_trans hplaces
    split
    case isTrue hmem => exact Nat.le_of_eq (if_pos (hnamed token hmem)).symm
    · exact Nat.zero_le _
  case closers =>
    intro ref
    rw [World.todo_spawn]
    simp only [List.filterMap_append, List.filterMap_cons, hcloses, List.filterMap_nil,
      List.append_nil]
    exact h.closers ref
  case expires => exact h.expires
  case inTime => exact h.inTime
  case named => exact fun entry hentry => hnamed _ (h.named entry hentry)

theorem LaunchInv.create {w w' : LaunchWorld} (h : LaunchInv w) {token systemID username : String}
    (hstep : w.step (.create token systemID username) = some w') : LaunchInv w' := by
  rw [LaunchWorld.step, Option.ite_none_left_eq_some] at hstep
  obtain ⟨hfresh, hstep⟩ := hstep
  obtain rfl := Option.some.inj hstep
  have hne : ∀ token' ∈ w.state.named, token' ≠ token := by
    rintro token' hmem rfl
    exact hfresh hmem
  constructor
  case places =>
    intro token'
    have hplaces := h.places token'
    have hinsert (launch : SshLaunch) := count_insert_le token launch w.state.launch token'
    have hnamed : (if token' ∈ w.state.named then 1 else 0) + (if token = token' then 1 else 0)
        ≤ if token' ∈ token :: w.state.named then 1 else 0 := by grind
    unfold SshManager.keeps at hplaces
    refine Nat.le_trans (Nat.add_le_add_right (Nat.add_le_add_right (hinsert _) _) _) ?_
    refine Nat.le_trans ?_ hnamed
    refine Nat.le_trans ?_ (Nat.add_le_add_right hplaces _)
    apply Nat.le_of_eq
    rw [Nat.add_right_comm (List.count _ _), Nat.add_right_comm (_ + _)]
    rfl
  case closers => exact h.closers
  case expires =>
    intro entry hentry
    dsimp only
    rw [lookup_insert]
    rcases mem_insert hentry with rfl | hold
    · exact if_pos rfl
    · have hlookup := h.expires entry hold
      rw [if_neg (hne _ (h.named _ (mem_of_lookup hlookup)))]
      exact hlookup
  case inTime =>
    intro entry hentry
    obtain ⟨expires, hlookup, hle⟩ := h.inTime entry hentry
    refine ⟨expires, ?_, hle⟩
    have hmem := h.named _ (mem_of_lookup hlookup)
    dsimp only
    rw [lookup_insert, if_neg (hne _ hmem)]
    exact hlookup
  case named =>
    intro entry hentry
    rcases mem_insert hentry with rfl | hold
    · exact List.mem_cons_self
    · exact List.mem_cons_of_mem _ (h.named entry hold)

theorem LaunchInv.step {w w' : LaunchWorld} {e : LaunchEvent} (h : LaunchInv w)
    (hstep : w.step e = some w') : LaunchInv w' := by
  cases e with
  | create token systemID username => exact h.create hstep
  | connectUser token =>
      obtain rfl := Option.some.inj hstep
      exact h.request _ (fun _ hmem => List.mem_cons_of_mem _ hmem) rfl rfl
  | revokeSSHLaunch token =>
      obtain rfl := Option.some.inj hstep
      exact h.request _ (fun _ hmem => List.mem_cons_of_mem _ hmem) rfl rfl
  | attachAgent systemID agent =>
      obtain rfl := Option.some.inj hstep
      exact h.request _ (fun _ hmem => hmem) rfl rfl
  | forward ref =>
      obtain rfl := Option.some.inj hstep
      refine ⟨fun token => ?_, fun ref' => ?_, h.expires, h.inTime, h.named⟩
      · have hplaces := h.places token
        rw [← w.state.keeps_touch ref] at hplaces
        exact hplaces
      · have hclosers := h.closers ref'
        rw [← w.state.closers_touch ref, ← w.state.length_touch ref] at hclosers
        exact hclosers
  | elapse duration =>
      obtain rfl := Option.some.inj hstep
      exact ⟨h.places, h.closers, h.expires, h.inTime, h.named⟩
  | run i choice =>
      obtain ⟨turn, rfl⟩ := Turn.exists_of_turn hstep
      exact h.run turn

theorem launchInv_init : LaunchInv LaunchWorld.init where
  places _ := by simp [LaunchWorld.init, SshManager.keeps, World.todo]
  closers _ := by simp [LaunchWorld.init, SshManager.closers, SshManager.closesOf, World.todo]
  expires _ hentry := nomatch hentry
  inTime _ hentry := nomatch hentry
  named _ hentry := nomatch hentry

/-! ### Revoking -/

/-- When an operation lets no launch slip past `revokeSSHLaunch`. -/
def LaunchOp.RevokeSafe (w : LaunchWorld) (choice : LaunchChoice) : LaunchOp → Prop
  -- no connection that has been upgraded is about to become a tunnel
  | .revokeSSHLaunch token => ∀ op ∈ w.todo, op.connects ≠ some token
  -- and none is upgraded any more
  | .upgrade token _ => choice = .ok → token ∉ w.state.revoked
  | _ => True

instance (w : LaunchWorld) (choice : LaunchChoice) (op : LaunchOp) :
    Decidable (op.RevokeSafe w choice) := by
  unfold LaunchOp.RevokeSafe
  split <;> infer_instance

def RevokeGuard (w : LaunchWorld) : LaunchEvent → Prop
  | .run i choice => ∀ thread ∈ w.threads[i]?, ∀ op ∈ thread.ops.head?, op.RevokeSafe w choice
  | _ => True

instance (w : LaunchWorld) (e : LaunchEvent) : Decidable (RevokeGuard w e) := by
  unfold RevokeGuard
  split <;> infer_instance

/-- What has been revoked is nowhere, and stays so. -/
structure RevokeInv (w : LaunchWorld) : Prop where
  launch : ∀ token ∈ w.state.revoked, w.state.launch.lookup token = none
  tunnels : ∀ token ∈ w.state.revoked, w.state.tunnels.lookup token = none
  connects : ∀ op ∈ w.todo, ∀ token ∈ op.connects, token ∉ w.state.revoked
  answers : ∀ token, .answer token ∈ w.todo → token ∈ w.state.revoked
  returned : ∀ token ∈ w.state.returned, token ∈ w.state.revoked
  /-- A token that is to be created has not been revoked before. -/
  named : ∀ token ∈ w.state.revoked, token ∈ w.state.named
  revokes : ∀ token, .revokeSSHLaunch token ∈ w.todo → token ∈ w.state.named

theorem revokeSafe_of_guard {w : LaunchWorld} {i : ℕ} {choice : LaunchChoice}
    (turn : Turn LaunchOp.exec w i choice) (hguard : RevokeGuard w (.run i choice)) :
    turn.op.RevokeSafe w choice := by
  refine hguard turn.thread turn.get turn.op ?_
  rw [turn.ops]
  rfl

section Run

variable {w : LaunchWorld} {i : ℕ} {choice : LaunchChoice}

theorem RevokeInv.connects_run (h : RevokeInv w) (turn : Turn LaunchOp.exec w i choice)
    (hsafe : turn.op.RevokeSafe w choice) (op : LaunchOp) (hop : op ∈ turn.next.todo)
    (token : String) (hconnects : op.connects = some token) : token ∉ turn.out.state.revoked := by
  intro hrevoked
  rcases turn.mem_todo_next hop with hold | hpushed | ⟨thread, hspawned, hop⟩
  · rcases LaunchOp.exec_revoked turn.exec hrevoked with hbefore | ⟨hrevoke, -⟩
    · exact h.connects op hold token hconnects hbefore
    · rw [hrevoke] at hsafe
      exact hsafe op hold hconnects
  · obtain ⟨launch, hupgrade, hok⟩ := LaunchOp.connects_of_pushed turn.exec hpushed hconnects
    rw [hupgrade] at hsafe
    rcases LaunchOp.exec_revoked turn.exec hrevoked with hbefore | ⟨hrevoke, -⟩
    · exact hsafe hok hbefore
    · rw [hupgrade] at hrevoke
      cases hrevoke
  · rcases LaunchOp.of_spawned turn.exec hspawned hop with ⟨_, _, rfl⟩ | ⟨_, rfl⟩ <;>
      cases hconnects

theorem RevokeInv.run (h : RevokeInv w) (turn : Turn LaunchOp.exec w i choice)
    (hsafe : turn.op.RevokeSafe w choice) : RevokeInv turn.next := by
  constructor
  case launch =>
    intro token hrevoked
    rcases LaunchOp.exec_revoked turn.exec hrevoked with hbefore | ⟨-, hlaunch, -⟩
    · exact (LaunchOp.exec_lookup turn.exec token).1 (h.launch token hbefore)
    · exact hlaunch
  case tunnels =>
    intro token hrevoked
    rcases LaunchOp.exec_revoked turn.exec hrevoked with hbefore | ⟨-, -, htunnels⟩
    · rcases (LaunchOp.exec_lookup turn.exec token).2 (h.tunnels token hbefore)
        with hnone | ⟨launch, last, hconnect⟩
      · exact hnone
      · exact absurd hbefore (h.connects turn.op turn.op_mem_todo token (hconnect ▸ rfl))
    · exact htunnels
  case connects => exact h.connects_run turn hsafe
  case answers =>
    intro token hop
    rcases turn.mem_todo_next hop with hold | hpushed | ⟨thread, hspawned, hop⟩
    · exact LaunchOp.revoked_exec turn.exec (h.answers token hold)
    · exact LaunchOp.answer_of_pushed turn.exec hpushed
    · rcases LaunchOp.of_spawned turn.exec hspawned hop with ⟨_, _, heq⟩ | ⟨_, heq⟩ <;>
        cases heq
  case returned =>
    intro token hreturned
    rcases LaunchOp.exec_returned turn.exec hreturned with hbefore | hanswer
    · exact LaunchOp.revoked_exec turn.exec (h.returned token hbefore)
    · exact LaunchOp.revoked_exec turn.exec (h.answers token (hanswer ▸ turn.op_mem_todo))
  case named =>
    intro token hrevoked
    rw [turn.next_state, (LaunchOp.exec_named turn.exec).1]
    rcases LaunchOp.exec_revoked turn.exec hrevoked with hbefore | ⟨hrevoke, -⟩
    · exact h.named token hbefore
    · exact h.revokes token (hrevoke ▸ turn.op_mem_todo)
  case revokes =>
    intro token hop
    rw [turn.next_state, (LaunchOp.exec_named turn.exec).1]
    rcases turn.mem_todo_next hop with hold | hpushed | ⟨thread, hspawned, hop⟩
    · exact h.revokes token hold
    · exact absurd hpushed (LaunchOp.not_revoke_of_pushed turn.exec token)
    · rcases LaunchOp.of_spawned turn.exec hspawned hop with ⟨_, _, heq⟩ | ⟨_, heq⟩ <;>
        cases heq

end Run

theorem RevokeInv.request {w : LaunchWorld} (h : RevokeInv w) (named : List String)
    (hnamed : ∀ token ∈ w.state.named, token ∈ named) {op : LaunchOp}
    (hconnects : op.connects = none) (hanswers : ∀ token, op ≠ .answer token)
    (hrevokes : ∀ token, op = .revokeSSHLaunch token → token ∈ named) :
    RevokeInv (World.spawn { w with state := { w.state with named := named } } ⟨(), [op]⟩) := by
  have htodo : ∀ pushed,
      pushed ∈ (World.spawn { w with state := { w.state with named := named } } ⟨(), [op]⟩).todo →
        pushed ∈ w.todo ∨ pushed = op := by
    intro pushed hmem
    exact (World.mem_todo_spawn.mp hmem).imp_right List.mem_singleton.mp
  constructor
  case launch => exact h.launch
  case tunnels => exact h.tunnels
  case connects =>
    intro pushed hmem token htoken
    rcases htodo pushed hmem with hold | rfl
    · exact h.connects pushed hold token htoken
    · rw [hconnects] at htoken
      cases htoken
  case answers =>
    intro token hmem
    rcases htodo _ hmem with hold | heq
    · exact h.answers token hold
    · exact absurd heq.symm (hanswers token)
  case returned => exact h.returned
  case named => exact fun token hmem => hnamed token (h.named token hmem)
  case revokes =>
    intro token hmem
    rcases htodo _ hmem with hold | heq
    · exact hnamed token (h.revokes token hold)
    · exact hrevokes token heq.symm

theorem RevokeInv.create {w w' : LaunchWorld} (h : RevokeInv w)
    {token systemID username : String}
    (hstep : w.step (.create token systemID username) = some w') : RevokeInv w' := by
  rw [LaunchWorld.step, Option.ite_none_left_eq_some] at hstep
  obtain ⟨hfresh, hstep⟩ := hstep
  obtain rfl := Option.some.inj hstep
  constructor
  case launch =>
    intro token' hrevoked
    have hne : token' ≠ token := by
      rintro rfl
      exact hfresh (h.named token' hrevoked)
    dsimp only
    rw [lookup_insert, if_neg hne]
    exact h.launch token' hrevoked
  case tunnels => exact h.tunnels
  case connects => exact h.connects
  case answers => exact h.answers
  case returned => exact h.returned
  case named => exact fun token' hmem => List.mem_cons_of_mem _ (h.named token' hmem)
  case revokes => exact fun token' hmem => List.mem_cons_of_mem _ (h.revokes token' hmem)

theorem RevokeInv.step {w w' : LaunchWorld} {e : LaunchEvent} (h : RevokeInv w)
    (hguard : RevokeGuard w e) (hstep : w.step e = some w') : RevokeInv w' := by
  cases e with
  | create token systemID username => exact h.create hstep
  | connectUser token =>
      obtain rfl := Option.some.inj hstep
      exact h.request _ (fun _ hmem => List.mem_cons_of_mem _ hmem) rfl (fun _ heq => nomatch heq)
        fun _ heq => nomatch heq
  | revokeSSHLaunch token =>
      obtain rfl := Option.some.inj hstep
      refine h.request _ (fun _ hmem => List.mem_cons_of_mem _ hmem) rfl (fun _ heq => nomatch heq)
        fun token' heq => ?_
      cases heq
      exact List.mem_cons_self
  | attachAgent systemID agent =>
      obtain rfl := Option.some.inj hstep
      exact h.request _ (fun _ hmem => hmem) rfl (fun _ heq => nomatch heq) fun _ heq => nomatch heq
  | forward ref =>
      obtain rfl := Option.some.inj hstep
      exact ⟨h.launch, h.tunnels, h.connects, h.answers, h.returned, h.named, h.revokes⟩
  | elapse duration =>
      obtain rfl := Option.some.inj hstep
      exact ⟨h.launch, h.tunnels, h.connects, h.answers, h.returned, h.named, h.revokes⟩
  | run i choice =>
      obtain ⟨turn, rfl⟩ := Turn.exists_of_turn hstep
      exact h.run turn (revokeSafe_of_guard turn hguard)

theorem revokeInv_init : RevokeInv LaunchWorld.init := by
  constructor <;> simp [LaunchWorld.init, World.todo]

/-! ### The result -/

theorem LaunchInv.oneTime {w : LaunchWorld} (h : LaunchInv w) (hrevoke : RevokeInv w) :
    w.state.OneTime where
  oneTunnel := by
    rw [List.nodup_iff_count_le_one]
    intro token
    have hplaces := h.places token
    unfold SshManager.keeps at hplaces
    split at hplaces <;> omega
  inTime := h.inTime
  revoked token hreturned := hrevoke.tunnels token (hrevoke.returned token hreturned)
  closedOnce tunnel hmem := by
    obtain ⟨ref, href⟩ := List.mem_iff_getElem?.mp hmem
    have hclosers := h.closers ref
    unfold SshManager.closers SshManager.closesOf at hclosers
    rw [href, Option.elim_some] at hclosers
    split at hclosers <;> omega

/-- **Launch tokens are one-time, and revoking is final.** In every run in which, once a launch has
been taken, either its tunnel is inserted before `revokeSSHLaunch` looks for it, or its connection
is never upgraded. -/
theorem oneTime_of_guarded {w : LaunchWorld} {events : List LaunchEvent}
    (hrun : Guarded LaunchWorld.step RevokeGuard .init events w) : w.state.OneTime := by
  have hinv := hrun.invariant (fun _ _ _ h _ => LaunchInv.step h) launchInv_init
  exact hinv.oneTime (hrun.invariant (fun _ _ _ h => RevokeInv.step h) revokeInv_init)

/-- A launch is taken, its tunnel is used, and revoked before it expires. -/
def revokedInUse : List LaunchEvent :=
  [.create "t" "web" "root", .attachAgent "web" 0, .run 0 .ok, .run 0 .none, .connectUser "t",
    .run 1 .ok, .run 1 .ok, .run 1 .ok, .forward 0, .revokeSSHLaunch "t", .run 4 .ok, .run 4 .ok,
    .run 4 .ok, .run 4 .ok, .run 2 .done, .run 3 .ok]

theorem oneTime_revokedInUse :
    ∃ w, Guarded LaunchWorld.step RevokeGuard .init revokedInUse w ∧ w.state.returned = ["t"] ∧
      w.state.inserted.length = 1 ∧ w.state.OneTime := by
  have hcheck : ∃ w, check LaunchWorld.step RevokeGuard .init revokedInUse = some w ∧
      w.state.returned = ["t"] ∧ w.state.inserted.length = 1 := ⟨_, rfl, rfl, rfl⟩
  obtain ⟨w, hcheck, hreturned, hinserted⟩ := hcheck
  have hrun := guarded_of_check hcheck
  exact ⟨w, hrun, hreturned, hinserted, oneTime_of_guarded hrun⟩

/-- The launch is revoked while its connection is being upgraded. -/
def revokedInUpgrade : List LaunchEvent :=
  [.create "t" "web" "root", .connectUser "t", .run 0 .ok, .revokeSSHLaunch "t", .run 1 .ok,
    .run 1 .ok, .run 0 .ok, .run 0 .ok]

theorem not_oneTime_revokedInUpgrade :
    ∃ w, run LaunchWorld.step .init revokedInUpgrade = some w ∧ w.state.returned = ["t"] ∧
      w.state.tunnels = [("t", 0)] ∧ ¬ w.state.OneTime := by
  refine ⟨_, rfl, rfl, rfl, fun h => ?_⟩
  exact absurd (h.revoked "t" (by decide)) (by decide)

end Picket
