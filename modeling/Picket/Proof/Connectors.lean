import Picket.TunnelBytes

/-!
# The frames of a user

The connector opens its stream once, with the first frame, and what follows carries what it reads.
-/

namespace Picket

open Link

/-- The data of a frame, where it is there for data. -/
def SSHStreamMessage.payload (msg : SSHStreamMessage) : List Uint8 :=
  if msg.type = sshStreamData then msg.data else []

def payloads (msgs : List SSHStreamMessage) : List Uint8 :=
  msgs.flatMap (·.payload)

theorem payloads_append (msgs msgs' : List SSHStreamMessage) :
    payloads (msgs ++ msgs') = payloads msgs ++ payloads msgs' :=
  List.flatMap_append

theorem payloads_singleton (msg : SSHStreamMessage) : payloads [msg] = msg.payload :=
  List.append_nil _

/-- The frames of a tunnel. -/
def own (token : ℕ) (frames : List Frame) : List SSHStreamMessage :=
  (frames.filter (·.owner = token)).map (·.msg)

theorem own_append (token : ℕ) (frames frames' : List Frame) :
    own token (frames ++ frames') = own token frames ++ own token frames' := by
  rw [own, List.filter_append, List.map_append, own, own]

theorem own_cons (token : ℕ) (frame : Frame) (frames : List Frame) :
    own token (frame :: frames) = own token [frame] ++ own token frames :=
  own_append token [frame] frames

theorem own_singleton (frame : Frame) : own frame.owner [frame] = [frame.msg] := by
  simp [own]

theorem own_singleton_of_ne {token : ℕ} {frame : Frame} (hne : frame.owner ≠ token) :
    own token [frame] = [] := by
  simp [own, hne]

theorem own_eq_nil {token : ℕ} {frames : List Frame} (hne : ∀ frame ∈ frames, frame.owner ≠ token) :
    own token frames = [] := by
  rw [own, List.filter_eq_nil_iff.mpr fun frame hframe => by simpa using hne frame hframe,
    List.map_nil]

theorem own_prefix (token : ℕ) {frames frames' : List Frame} (hbegins : frames <+: frames') :
    own token frames <+: own token frames' :=
  (hbegins.filter _).map _

/-- At most the first frame is an open frame. -/
def OpensOnce (msgs : List SSHStreamMessage) : Prop :=
  ∀ msg ∈ msgs.tail, msg.type ≠ sshStreamOpen

namespace OpensOnce

variable {msgs msgs' : List SSHStreamMessage} {msg : SSHStreamMessage}

theorem append (h : OpensOnce msgs) (hne : msgs ≠ []) (hmsg : msg.type ≠ sshStreamOpen) :
    OpensOnce (msgs ++ [msg]) := by
  intro other hother
  rw [List.tail_append_of_ne_nil hne] at hother
  rcases List.mem_append.mp hother with hold | hnew
  · exact h other hold
  · rwa [List.mem_singleton.mp hnew]

/-- What an open frame is in has nothing before it. -/
theorem prefix_of_mem (h : OpensOnce msgs) (hpart : msgs' <:+: msgs) (hmem : msg ∈ msgs')
    (hopen : msg.type = sshStreamOpen) : msgs' <+: msgs := by
  obtain ⟨before, after, rfl⟩ := hpart
  cases before with
  | nil => exact List.prefix_append _ _
  | cons first before =>
      refine absurd hopen (h msg ?_)
      rw [List.cons_append, List.cons_append, List.tail_cons]
      exact List.mem_append_left _ (List.mem_append_right _ hmem)

theorem eq_of_suffix (h : OpensOnce msgs) (hsuffix : msgs' <:+ msgs) (hmem : msg ∈ msgs')
    (hopen : msg.type = sshStreamOpen) : msgs' = msgs := by
  obtain ⟨before, rfl⟩ := hsuffix
  cases before with
  | nil => rfl
  | cons first before =>
      refine absurd hopen (h msg ?_)
      rw [List.cons_append, List.tail_cons]
      exact List.mem_append_right _ hmem

theorem of_infix (h : OpensOnce msgs) (hpart : msgs' <:+: msgs) : OpensOnce msgs' := by
  obtain ⟨before, after, rfl⟩ := hpart
  intro msg hmem
  refine h msg ?_
  cases before with
  | nil =>
      cases msgs' with
      | nil => cases hmem
      | cons first rest => exact List.mem_append_left _ hmem
  | cons first before =>
      rw [List.cons_append, List.cons_append, List.tail_cons]
      exact List.mem_append_left _ (List.mem_append_right _ (List.mem_of_mem_tail hmem))

theorem eq_nil (h : OpensOnce (msgs ++ [msg])) (hopen : msg.type = sshStreamOpen) : msgs = [] := by
  cases msgs with
  | nil => rfl
  | cons first rest =>
      refine absurd hopen (h msg ?_)
      rw [List.cons_append, List.tail_cons]
      exact List.mem_append_right _ (List.mem_singleton_self msg)

end OpensOnce

/-! ### The connector -/

/-- What the connector has read it has sent, and what has arrived it has written, as long as it
runs. -/
structure Connector.Ok (c : Connector) : Prop where
  up : c.up.InOrder
  down : c.down.InOrder
  opened : c.opened = true ↔ c.up.sent ≠ []
  opens : OpensOnce c.up.sent
  frames : ∀ msg ∈ c.up.sent, msg.magic = sshStreamMagic ∧ msg.streamID = 1
  stdin : payloads c.up.sent = c.stdin
  stdout : c.stdout <+: payloads c.down.arrived
  running : c.running → c.stdout = payloads c.down.arrived

namespace Connector

variable {c c' : Connector}

theorem ok_init : Ok {} where
  up := inOrder_empty
  down := inOrder_empty
  opened := by simp
  opens := List.forall_mem_nil _
  frames := List.forall_mem_nil _
  stdin := rfl
  stdout := List.prefix_rfl
  running _ := rfl

theorem Ok.close (h : c.Ok) : c.close.Ok :=
  { h with
    up := h.up.shut
    down := h.down.shut }

theorem Ok.stop (h : c.Ok) : c.stop.Ok :=
  { h.close with running := fun hfalse => absurd hfalse Bool.false_ne_true }

/-- A frame after the first. -/
theorem Ok.writeFrame (h : c.Ok) (hopened : c.opened = true) {type : Uint8} (data : List Uint8)
    (htype : type ≠ sshStreamOpen) {reading : Bool} :
    Ok
      { c.writeFrame (connectorFrame type data) with
        stdin := c.stdin ++ (connectorFrame type data).payload
        reading } :=
  { h with
    up := h.up.send _
    opened := iff_of_true hopened (List.append_ne_nil_of_right_ne_nil _ (List.cons_ne_nil _ _))
    opens := h.opens.append (h.opened.mp hopened) htype
    frames := by
      intro msg hmsg
      rcases List.mem_append.mp hmsg with hold | hnew
      · exact h.frames msg hold
      · rw [List.mem_singleton.mp hnew]
        exact ⟨rfl, rfl⟩
    stdin := by
      dsimp only [Connector.writeFrame, Link.send]
      rw [payloads_append, payloads_singleton, h.stdin] }

theorem Ok.step (h : c.Ok) {e : ConnectorEvent} (hstep : c.step e = some c') : c'.Ok := by
  cases e with
  | openStream =>
      obtain ⟨⟨-, hopened⟩, hstep⟩ := Option.ite_none_right_eq_some.mp hstep
      have hnone : c.up.sent = [] := by
        by_contra hne
        rw [h.opened.mpr hne] at hopened
        cases hopened
      split at hstep
      · cases hstep
        exact
          { h with
            up := h.up.send _
            opened := by
              refine iff_of_true rfl ?_
              exact List.append_ne_nil_of_right_ne_nil _ (List.cons_ne_nil _ _)
            opens := by
              dsimp only [Connector.writeFrame, Link.send]
              rw [hnone]
              exact List.forall_mem_nil _
            frames := by
              dsimp only [Connector.writeFrame, Link.send]
              rw [hnone]
              exact List.forall_mem_singleton.mpr ⟨rfl, rfl⟩
            stdin := by
              have hstdin := h.stdin
              dsimp only [Connector.writeFrame, Link.send]
              rw [hnone] at hstdin ⊢
              exact hstdin }
      · cases hstep
        exact h.stop
  | readStdin data =>
      obtain ⟨⟨-, hopened, -⟩, hstep⟩ := Option.ite_none_right_eq_some.mp hstep
      cases hstep
      exact h.writeFrame hopened data (by decide)
  | stdinEnd eof =>
      obtain ⟨⟨-, hopened, -⟩, hstep⟩ := Option.ite_none_right_eq_some.mp hstep
      cases hstep
      cases eof with
      | false => exact { h with }
      | true =>
          have hsent : Ok
              { c.writeFrame (connectorFrame sshStreamEOF []) with
                stdin := c.stdin ++ (connectorFrame sshStreamEOF []).payload
                reading := false } := h.writeFrame hopened [] (by decide)
          rw [show (connectorFrame sshStreamEOF []).payload = [] from rfl, List.append_nil] at hsent
          exact hsent
  | readMessage n =>
      obtain ⟨⟨hrunning, -⟩, hstep⟩ := Option.ite_none_right_eq_some.mp hstep
      split at hstep
      · cases hstep
      · rename_i msg down hreceive
        have hdown := h.down.receive hreceive
        obtain ⟨rest, -, rfl⟩ := receive_eq_some hreceive
        have hall := h.running hrunning
        dsimp only at hstep
        split at hstep
        · rename_i hdata
          have hpayload : msg.payload = msg.data := if_pos hdata
          have hwritten : Ok
              { c with
                down := { c.down with queue := rest, arrived := c.down.arrived ++ [msg] }
                stdout := c.stdout ++ msg.data.take n
                running := decide (msg.data.length ≤ n) } :=
            { h with
              down := hdown
              stdout := by
                dsimp only
                rw [payloads_append, payloads_singleton, hpayload, hall]
                exact (List.prefix_append_right_inj _).mpr (List.take_prefix _ _)
              running := by
                intro hn
                dsimp only
                rw [payloads_append, payloads_singleton, hpayload, hall,
                  List.take_of_length_le (of_decide_eq_true hn)] }
          split at hstep
          · rename_i hn
            cases hstep
            rw [decide_eq_true hn, ← hrunning] at hwritten
            exact hwritten
          · cases hstep
            exact { hwritten.stop with }
        · rename_i hdata
          have hpayload : msg.payload = [] := if_neg hdata
          have hsame : payloads (c.down.arrived ++ [msg]) = payloads c.down.arrived := by
            rw [payloads_append, payloads_singleton, hpayload, List.append_nil]
          have hread : Ok
              { c with
                down := { c.down with queue := rest, arrived := c.down.arrived ++ [msg] } } :=
            { h with
              down := hdown
              stdout := by
                rw [hsame]
                exact h.stdout
              running := by
                rw [hsame]
                exact h.running }
          split at hstep
          · cases hstep
            exact hread.stop
          · cases hstep
            exact hread
  | readFails =>
      obtain ⟨-, hstep⟩ := Option.ite_none_right_eq_some.mp hstep
      cases hstep
      exact h.stop
  | connectionLost =>
      cases hstep
      exact h.close
  | lose =>
      cases hstep
      exact
        { h with
          up := h.up.lose
          down := h.down.lose }

/-- What has arrived at the hub and what the hub has sent is not changed by the connector. -/
theorem step_hub {e : ConnectorEvent} (hstep : c.step e = some c') :
    c'.up.arrived = c.up.arrived ∧ c'.down.sent = c.down.sent := by
  cases e with
  | openStream =>
      obtain ⟨-, hstep⟩ := Option.ite_none_right_eq_some.mp hstep
      split at hstep <;> cases hstep <;> exact ⟨rfl, rfl⟩
  | readStdin data =>
      obtain ⟨-, hstep⟩ := Option.ite_none_right_eq_some.mp hstep
      cases hstep
      exact ⟨rfl, rfl⟩
  | stdinEnd eof =>
      obtain ⟨-, hstep⟩ := Option.ite_none_right_eq_some.mp hstep
      cases hstep
      cases eof <;> exact ⟨rfl, rfl⟩
  | readMessage n =>
      obtain ⟨-, hstep⟩ := Option.ite_none_right_eq_some.mp hstep
      split at hstep
      · cases hstep
      · rename_i msg down hreceive
        obtain ⟨rest, -, rfl⟩ := receive_eq_some hreceive
        dsimp only at hstep
        split at hstep
        · split at hstep <;> cases hstep <;> exact ⟨rfl, rfl⟩
        · split at hstep <;> cases hstep <;> exact ⟨rfl, rfl⟩
  | readFails =>
      obtain ⟨-, hstep⟩ := Option.ite_none_right_eq_some.mp hstep
      cases hstep
      exact ⟨rfl, rfl⟩
  | connectionLost =>
      cases hstep
      exact ⟨rfl, rfl⟩
  | lose =>
      cases hstep
      exact ⟨rfl, rfl⟩

end Connector

end Picket
