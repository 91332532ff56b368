import Picket.Proof.TunnelBindings

/-!
# The connections of the agent

Every connection of the agent is a link for the frames to the agent and one for the data frames to
the hub.
-/

namespace Picket

open Link

def Frame.isData (frame : Frame) : Bool :=
  frame.msg.type = sshStreamData

namespace Conn

def up (conn : Conn) (log : ConnLog) : Link Frame :=
  ⟨conn.isOpen, conn.toAgent, log.upSent, log.upArrived⟩

def down (conn : Conn) (log : ConnLog) : Link Frame :=
  ⟨conn.isOpen, conn.toHub.filter Frame.isData, log.downSent, log.downArrived⟩

structure Recorded (conn : Conn) (log : ConnLog) : Prop where
  up : (conn.up log).InOrder
  down : (conn.down log).InOrder

def sendToAgent (conn : Conn) (frame : Frame) : Conn :=
  if conn.isOpen then { conn with toAgent := conn.toAgent ++ [frame] } else conn

def sendToHub (conn : Conn) (frame : Frame) : Conn :=
  if conn.isOpen then { conn with toHub := conn.toHub ++ [frame] } else conn

namespace Recorded

variable {conn : Conn} {log : ConnLog}

theorem sendToAgent (h : conn.Recorded log) (frame : Frame) :
    (conn.sendToAgent frame).Recorded { log with upSent := log.upSent ++ [frame] } := by
  have hsend := h.up.send frame
  unfold Conn.sendToAgent
  rw [Conn.up, Link.send] at hsend
  by_cases hopen : conn.isOpen
  · rw [if_pos hopen] at hsend ⊢
    exact ⟨hsend, h.down⟩
  · rw [if_neg hopen] at hsend ⊢
    exact ⟨hsend, h.down⟩

theorem sendToHub_data (h : conn.Recorded log) {frame : Frame} (hdata : frame.isData) :
    (conn.sendToHub frame).Recorded { log with downSent := log.downSent ++ [frame] } := by
  have hsend := h.down.send frame
  unfold Conn.sendToHub
  rw [Conn.down, Link.send] at hsend
  by_cases hopen : conn.isOpen
  · rw [if_pos hopen] at hsend ⊢
    refine ⟨h.up, ?_⟩
    rw [Conn.down, List.filter_append, List.filter_singleton, hdata]
    exact hsend
  · rw [if_neg hopen] at hsend ⊢
    exact ⟨h.up, hsend⟩

theorem sendToHub_other (h : conn.Recorded log) {frame : Frame} (hdata : frame.isData = false) :
    (conn.sendToHub frame).Recorded log := by
  unfold Conn.sendToHub
  split
  · refine ⟨h.up, ?_⟩
    rw [Conn.down, List.filter_append, List.filter_singleton, hdata]
    exact (List.append_nil (conn.toHub.filter Frame.isData)).symm ▸ h.down
  · exact h

theorem popToAgent (h : conn.Recorded log) {frame : Frame} {rest : List Frame}
    (hqueue : conn.toAgent = frame :: rest) :
    Recorded { conn with toAgent := rest } { log with upArrived := log.upArrived ++ [frame] } := by
  have hup := h.up
  rw [Conn.up, hqueue] at hup
  exact ⟨hup.receive rfl, h.down⟩

theorem popToHub (h : conn.Recorded log) {frame : Frame} {rest : List Frame}
    (hqueue : conn.toHub = frame :: rest) :
    Recorded { conn with toHub := rest }
      (if frame.msg.type = sshStreamData then
        { log with downArrived := log.downArrived ++ [frame] }
      else log) := by
  have hdown := h.down
  rw [Conn.down, hqueue, List.filter_cons] at hdown
  by_cases hdata : frame.msg.type = sshStreamData
  · rw [if_pos hdata]
    rw [if_pos (show frame.isData = true by simpa [Frame.isData] using hdata)] at hdown
    exact ⟨h.up, hdown.receive rfl⟩
  · rw [if_neg hdata]
    rw [if_neg (show ¬ frame.isData = true by simpa [Frame.isData] using hdata)] at hdown
    exact ⟨h.up, hdown⟩

theorem shut (h : conn.Recorded log) : Recorded { conn with isOpen := false } log :=
  ⟨h.up.shut, h.down.shut⟩

theorem lose (h : conn.Recorded log) (hshut : conn.isOpen = false) :
    Recorded { conn with toAgent := [], toHub := [] } log := by
  have hup := h.up.lose
  have hdown := h.down.lose
  rw [Link.lose, Conn.up, if_neg (by simpa using hshut)] at hup
  rw [Link.lose, Conn.down, if_neg (by simpa using hshut)] at hdown
  exact ⟨hup, hdown⟩

theorem attachment (h : conn.Recorded log) (attachment : Attachment) :
    Recorded { conn with attachment } log :=
  ⟨h.up, h.down⟩

end Recorded

end Conn

/-- All connections, and no record of one that is not there yet. -/
structure ConnLogs (conns : List Conn) (logs : ℕ → ConnLog) : Prop where
  recorded : ∀ (i : ℕ) (conn : Conn), conns[i]? = some conn → conn.Recorded (logs i)
  unused : ∀ i, conns.length ≤ i → logs i = {}

namespace ConnLogs

variable {conns : List Conn} {logs : ℕ → ConnLog}

theorem modify_log (h : ConnLogs conns logs) {i : ℕ} (hi : i < conns.length) {f : Conn → Conn}
    {g : ConnLog → ConnLog}
    (hconn : ∀ conn log, conns[i]? = some conn → conn.Recorded log → (f conn).Recorded (g log)) :
    ConnLogs (conns.modify i f) (Function.update logs i (g (logs i))) where
  recorded j conn hj := by
    by_cases hne : i = j
    · subst hne
      rw [List.getElem?_modify_eq] at hj
      obtain ⟨old, hold, rfl⟩ := Option.map_eq_some_iff.mp hj
      rw [Function.update_self]
      exact hconn old _ hold (h.recorded i old hold)
    · rw [List.getElem?_modify_ne _ _ hne] at hj
      rw [Function.update_of_ne (Ne.symm hne)]
      exact h.recorded j conn hj
  unused j hj := by
    rw [List.length_modify] at hj
    rw [Function.update_of_ne (hi.trans_le hj).ne']
    exact h.unused j hj

theorem modify (h : ConnLogs conns logs) (i : ℕ) {f : Conn → Conn}
    (hconn : ∀ conn log, conns[i]? = some conn → conn.Recorded log → (f conn).Recorded log) :
    ConnLogs (conns.modify i f) logs := by
  by_cases hi : i < conns.length
  · have hsame := h.modify_log hi (g := id) hconn
    rwa [id, Function.update_eq_self] at hsame
  · rwa [List.modify_eq_self (Nat.not_lt.mp hi)]

theorem append (h : ConnLogs conns logs) :
    ConnLogs (conns ++ [({ toAgent := [] } : Conn)]) logs where
  recorded i conn hi := by
    rcases Nat.lt_or_ge i conns.length with hlt | hge
    · rw [List.getElem?_append_left hlt] at hi
      exact h.recorded i conn hi
    · rw [List.getElem?_append_right hge, List.getElem?_singleton] at hi
      obtain ⟨-, heq⟩ := Option.ite_none_right_eq_some.mp hi
      cases heq
      rw [h.unused i hge]
      exact ⟨inOrder_empty, inOrder_empty⟩
  unused i hi := by
    rw [List.length_append] at hi
    exact h.unused i (Nat.le_of_add_right_le hi)

theorem sendSSHStream {ssh : SshState} (h : ConnLogs ssh.conns logs) {frame : Frame}
    (hdata : frame.isData = false) : ConnLogs (ssh.sendSSHStream frame).conns logs := by
  unfold SshState.sendSSHStream
  split
  · exact h
  · exact h.modify _ fun conn log _ hconn => hconn.sendToHub_other hdata

theorem handleSSHStream (ssh : SshState) (h : ConnLogs ssh.conns logs) (frame : Frame)
    (dialOk : Bool) : ConnLogs (ssh.handleSSHStream frame dialOk).conns logs := by
  unfold SshState.handleSSHStream
  dsimp only
  split
  · split
    · exact h.sendSSHStream rfl
    · split
      · unfold SshState.openStream
        dsimp only
        split
        · refine sendSSHStream ?_ rfl
          exact h
        · exact h
      · exact h.sendSSHStream rfl
  · split
    · split
      · exact h
      · split <;> exact h
    · split
      · split <;> exact h
      · exact h

theorem close {ssh : SshState} (h : ConnLogs ssh.conns logs) : ConnLogs ssh.close.conns logs := by
  unfold SshState.close
  dsimp only
  split
  · exact h
  · exact h.modify _ fun conn log _ hconn => hconn.shut

end ConnLogs

theorem SshState.readData_conns {s s' : SshState} {i : ℕ} {data : List Uint8}
    {reader : StreamReader} (hget : s.readers[i]? = some reader)
    (hstep : s.readData i data = some s') :
    (s.conn = none ∧ s'.conns = s.conns) ∨ ∃ conn, s.conn = some conn ∧
      s'.conns = s.conns.modify conn (·.sendToHub
        ⟨{ streamID := reader.streamID, type := sshStreamData, data }, reader.socket.owner⟩) := by
  unfold readData at hstep
  rw [hget] at hstep
  obtain ⟨-, hstep⟩ := Option.ite_none_left_eq_some.mp hstep
  cases hconn : s.conn with
  | none =>
      have hcannot : s.canSend = false := by
        rw [canSend, hconn]
        rfl
      rw [hcannot] at hstep
      cases hstep
      exact Or.inl ⟨rfl, rfl⟩
  | some conn =>
      refine Or.inr ⟨conn, rfl, ?_⟩
      by_cases hsend : s.canSend = true
      · rw [if_pos hsend, sendSSHStream, hconn] at hstep
        cases hstep
        rfl
      · rw [if_neg hsend] at hstep
        cases hstep
        have hsame : ∀ c, s.conns[conn]? = some c → ∀ frame, c.sendToHub frame = c := by
          intro c hc frame
          rw [canSend, hconn, Option.bind_some, hc] at hsend
          exact if_neg hsend
        refine List.ext_getElem? fun j => ?_
        by_cases hj : conn = j
        · subst hj
          rw [List.getElem?_modify_eq]
          cases hc : s.conns[conn]? with
          | none => exact hc
          | some c =>
              rw [Option.map_eq_map, Option.map_some, hsame c hc]
              exact hc
        · rw [List.getElem?_modify_ne _ _ hj]
          rfl

namespace TunnelState

theorem handleSSHStream_logs (s : TunnelState) (frame : Frame) (dialOk : Bool) :
    (s.handleSSHStream frame dialOk).logs = s.logs ∧
      (s.handleSSHStream frame dialOk).ssh = s.ssh := by
  rcases s.handleSSHStream_cases frame dialOk with
    ⟨heq, -⟩ | ⟨-, -, -, heq⟩ | ⟨_, -, -, -, heq⟩ <;>
  · rw [heq]
    exact ⟨rfl, rfl⟩

theorem connLogs_step {s s' : TunnelState} {e : SshEvent}
    (hbind : Bindings s.ssh s.bound s.connected) (h : ConnLogs s.ssh.conns s.logs)
    (hstep : s.step (.ssh e) = some s') : ConnLogs s'.ssh.conns s'.logs := by
  obtain ⟨t, ssh, hssh, hobserve, rfl⟩ := step_ssh hstep
  dsimp only
  cases e with
  | create =>
      cases hssh
      cases hobserve
      exact h
  | connectUser token =>
      obtain ⟨-, hssh⟩ := Option.ite_none_right_eq_some.mp hssh
      cases hssh
      cases hobserve
      exact h
  | userFrame token msg =>
      obtain ⟨c, up, -, -, rfl⟩ := userFrame_cases hobserve
      rcases SshState.forwardUserMessage_cases hssh with rfl | ⟨conn, -, -, rfl⟩
      · exact h
      · exact h
  | sendStream entry =>
      obtain ⟨hmem, hssh⟩ := Option.ite_none_right_eq_some.mp hssh
      cases hssh
      cases hobserve
      have hlt := hbind.bounds _ _ (hbind.forwarding entry hmem)
      exact h.modify_log hlt fun conn log _ hconn => hconn.sendToAgent entry.2
  | userClosed token =>
      obtain ⟨-, hssh⟩ := Option.ite_none_right_eq_some.mp (Option.ite_none_left_eq_some.mp hssh).2
      cases hssh
      cases hobserve
      exact h
  | expire token =>
      obtain ⟨-, hssh⟩ := Option.ite_none_right_eq_some.mp hssh
      cases hssh
      cases hobserve
      exact h
  | revoke token =>
      cases hssh
      cases hobserve
      rcases SshState.revokeSSHLaunch_cases (s := s.ssh) token with heq | hremove
      · rwa [heq]
      · obtain ⟨-, hremove⟩ := Option.ite_none_right_eq_some.mp hremove
        rw [← Option.some.inj hremove]
        exact h
  | attachAgent conn =>
      obtain ⟨-, hssh⟩ := Option.ite_none_right_eq_some.mp hssh
      cases hssh
      cases hobserve
      exact h.modify conn fun conn log _ hconn => hconn.attachment _
  | setStreamHandler conn =>
      obtain ⟨-, hssh⟩ := Option.ite_none_right_eq_some.mp hssh
      cases hssh
      cases hobserve
      exact h.modify conn fun conn log _ hconn => hconn.attachment _
  | attachWaiting conn waiting =>
      have hattached := h.modify conn (f := fun conn => { conn with attachment := .attached })
        fun conn log _ hconn => hconn.attachment _
      obtain ⟨-, -, ⟨rfl, rfl⟩ | ⟨token, rfl, rfl⟩⟩ := SshState.attachWaiting_cases hssh
      · cases hobserve
        exact hattached
      · cases hobserve
        exact hattached
  | agentFrame conn candidate =>
      obtain ⟨c, frame, rest, hget, hqueue, hnext⟩ := SshState.forwardAgentMessage_cases hssh
      obtain ⟨c', frame', rest', hget', hqueue', hseen⟩ := agentFrame_cases hobserve
      obtain rfl := Option.some.inj (hget.symm.trans hget')
      obtain ⟨rfl, rfl⟩ := List.cons.inj (hqueue.symm.trans hqueue')
      have hpop := h.modify_log (List.getElem?_eq_some_iff.mp hget).1
        (f := fun conn => { conn with toHub := rest })
        (g := fun log =>
          if frame.msg.type = sshStreamData then
            { log with downArrived := log.downArrived ++ [frame] }
          else log) (by
          intro old log hold hrecorded
          obtain rfl := Option.some.inj (hget.symm.trans hold)
          exact hrecorded.popToHub hqueue)
      have hlogs : t.logs = Function.update s.logs conn
          (if frame.msg.type = sshStreamData then
            { s.logs conn with downArrived := (s.logs conn).downArrived ++ [frame] }
          else s.logs conn) := by
        rcases hseen with ⟨-, rfl⟩ | ⟨token, -, -, rfl⟩
        · rfl
        · obtain ⟨connectors, heq⟩ := forward_eq _ token frame.msg
          rw [heq]
          rfl
      rw [hlogs]
      rcases hnext with rfl | ⟨token, -, rfl⟩
      · exact hpop
      · exact hpop
  | close =>
      cases hssh
      cases hobserve
      exact h.close
  | connect =>
      cases hssh
      cases hobserve
      exact h.close.append
  | connectionLost conn =>
      cases hssh
      cases hobserve
      exact h.modify conn fun conn log _ hconn => hconn.shut
  | lose conn =>
      obtain ⟨hshut, hssh⟩ := Option.ite_none_right_eq_some.mp hssh
      cases hssh
      cases hobserve
      refine h.modify conn fun c log hget hconn => hconn.lose ?_
      rw [hget] at hshut
      exact Option.some.inj hshut
  | receive conn dialOk =>
      obtain ⟨c, frame, rest, hget, hqueue, hnext⟩ := SshState.receive_cases hssh
      obtain ⟨c', frame', rest', hget', hqueue', rfl⟩ := receive_cases hobserve
      obtain rfl := Option.some.inj (hget.symm.trans hget')
      obtain ⟨rfl, rfl⟩ := List.cons.inj (hqueue.symm.trans hqueue')
      rw [(handleSSHStream_logs _ frame dialOk).1]
      have hpop := h.modify_log (List.getElem?_eq_some_iff.mp hget).1
        (f := fun conn => { conn with toAgent := rest })
        (g := fun log => { log with upArrived := log.upArrived ++ [frame] })
        (by
          intro old log hold hrecorded
          obtain rfl := Option.some.inj (hget.symm.trans hold)
          exact hrecorded.popToAgent hqueue)
      rcases hnext with ⟨-, rfl⟩ | ⟨-, rfl⟩
      · exact hpop
      · exact ConnLogs.handleSSHStream (SshState.modifyConn _ _ _) hpop frame dialOk
  | readData i data =>
      obtain ⟨reader, hget, hread⟩ := readData_cases hobserve
      rcases SshState.readData_conns hget hssh with ⟨hnone, hsame⟩ | ⟨conn, hconn, hsent⟩
      · obtain ⟨-, rfl⟩ | ⟨conn, hsome, -⟩ := hread
        · rw [hsame]
          exact h
        · rw [hnone] at hsome
          cases hsome
      · obtain ⟨hnone, -⟩ | ⟨conn', hsome, rfl⟩ := hread
        · rw [hconn] at hnone
          cases hnone
        · obtain rfl := Option.some.inj (hconn.symm.trans hsome)
          rw [hsent]
          exact h.modify_log (hbind.conn conn hconn) fun c log _ hc => hc.sendToHub_data rfl
  | readEnd i =>
      cases hobserve
      unfold SshState.step SshState.readEnd at hssh
      dsimp only at hssh
      split at hssh
      · cases hssh
      · obtain ⟨-, hssh⟩ := Option.ite_none_left_eq_some.mp hssh
        cases hssh
        refine ConnLogs.sendSSHStream ?_ rfl
        exact h
  | readDelete i =>
      cases hobserve
      obtain ⟨reader, -, -, rfl⟩ := SshState.readDelete_cases hssh
      exact h

end TunnelState

end Picket
