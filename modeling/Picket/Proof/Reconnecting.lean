import Picket.ConnectionManager
import Picket.Lib.Transition

/-!
# The connection manager does not wedge

Every attempt ends with a running ticker or a new connection, and a new connection ends with the
state it reports. What is left is the early return of `handleStateChange`: it relies on whoever has
set `isConnecting`. That was a goroutine which began after the connection was up; it can only find
that out, and start the ticker.
-/

namespace Picket

open Transition Threads

/-- A ticker attempt or a call of `connect` in progress. -/
def ConnectionOp.attempts : ConnectionOp → Bool
  | .connect _ | .recentAttempt _ | .sleep _ _ | .startWebSocketConnection _ | .checkClient _
  | .checkLastAttempt _ | .setLastAttempt _ | .dial _ | .osExit _ | .startWsTicker _
  | .connectDone _ => true
  | _ => false

/-- The loop is handling an event, and has not set the state for a connection that is up yet, or not
begun to reconnect after one that is lost. -/
def ConnectionOp.handling : ConnectionOp → Bool
  | .handleEvent event => event = .webSocketConnect
  | .handleStateChange newState | .setState newState => newState = .webSocketConnected
  | .checkConnecting | .setConnecting | .goConnect => true
  | _ => false

namespace ConnectionWorld

/-- An event is queued, a connection is about to report, an attempt is in progress, or the ticker
will make one. -/
def Progresses (w : ConnectionWorld) : Prop :=
  w.state.eventChan.isSome ∨ 0 < w.state.opening ∨ (∃ op ∈ w.todo, op.attempts) ∨ w.state.wsTicker

instance (w : ConnectionWorld) : Decidable w.Progresses :=
  inferInstanceAs (Decidable (_ ∨ _ ∨ _ ∨ _))

def Wedged (w : ConnectionWorld) : Prop :=
  w.state.state = .disconnected ∧ ¬ w.Progresses

end ConnectionWorld

/-! ### What brings a connection back -/

/-- An operation that leads to a new attempt, a running ticker, or a connected state. -/
def ConnectionOp.drives : ConnectionOp → Bool
  | .connect _ | .recentAttempt _ | .sleep _ _ | .osExit _ | .startWsTicker _ | .setConnecting
  | .goConnect => true
  | .startWebSocketConnection caller | .checkClient caller | .checkLastAttempt caller
  | .setLastAttempt caller | .dial caller => caller.isSome
  | .handleEvent event => event = .webSocketConnect
  | .handleStateChange newState | .setState newState => newState = .webSocketConnected
  | _ => false

/-- A call of `connect` that has yet to look at the state, or has found it connected. -/
def ConnectionOp.revives : ConnectionOp → Bool
  | .recentAttempt _ | .sleep _ _ | .startWsTicker _ => true
  | .startWebSocketConnection caller => caller.isSome
  | _ => false

/-- The operations of the event loop, or of `Start` before it. -/
def ConnectionOp.isLoop : ConnectionOp → Bool
  | .connect caller | .recentAttempt caller | .sleep caller _ | .osExit caller
  | .startWsTicker caller | .connectDone caller => caller = .start
  | .startWebSocketConnection caller | .checkClient caller | .checkLastAttempt caller
  | .setLastAttempt caller | .dial caller => caller ≠ some .goroutine
  | _ => true

/-- The rest of `handleStateChange`, operation by operation. -/
def ConnectionOp.Follows (op : ConnectionOp) : ConnectionOp → Prop :=
  match op with
  | .stopWsTicker => (· = .setState .webSocketConnected)
  | .resetConnecting => (· = .stopWsTicker)
  | .checkConnecting => (· = .setState .disconnected)
  | .setConnecting => (· = .checkConnecting)
  | _ => fun _ => True

namespace ConnectionWorld

def Driven (w : ConnectionWorld) : Prop :=
  w.state.wsTicker ∨ 0 < w.state.opening ∨ w.state.eventChan = some .webSocketConnect ∨
    ∃ op ∈ w.todo, op.drives

def Revived (w : ConnectionWorld) : Prop :=
  w.state.wsTicker ∨ ∃ op ∈ w.todo, op.revives

theorem Revived.driven {w : ConnectionWorld} (h : w.Revived) : w.Driven := by
  rcases h with hticker | ⟨op, hop, hrevives⟩
  · exact Or.inl hticker
  · refine Or.inr (Or.inr (Or.inr ⟨op, hop, ?_⟩))
    cases op <;> simp_all [ConnectionOp.revives, ConnectionOp.drives]

end ConnectionWorld

section Exec

variable {c : ConnectionManager} {choice : ConnectionChoice} {op : ConnectionOp}
  {out : Outcome ConnectionManager Unit ConnectionOp}
  (hexec : op.exec c () choice = some out)
include hexec

theorem ConnectionOp.exec_wsTicker (hticker : c.wsTicker) (hop : op ≠ .stopWsTicker) :
    out.state.wsTicker := by
  cases op <;> grind [exec]

theorem ConnectionOp.exec_opening : c.opening ≤ out.state.opening := by
  cases op <;> grind [exec]

theorem ConnectionOp.exec_eventChan {event : ConnectionEvent} (hevent : c.eventChan = some event) :
    out.state.eventChan = some event ∨ .handleEvent event ∈ out.ops := by
  cases op <;> grind [exec]

theorem ConnectionOp.exec_state : out.state.state = c.state ∨
    ∃ newState, op = .setState newState ∧ out.state.state = newState := by
  cases op <;> grind [exec]

theorem ConnectionOp.exec_isConnecting (hconnecting : out.state.isConnecting) :
    c.isConnecting ∨ op = .setConnecting ∨ out.ops.any revives := by
  cases op <;> grind [exec, revives]

theorem ConnectionOp.exec_drives (hdrives : op.drives) (hstate : c.state = .disconnected) :
    out.state.wsTicker ∨ 0 < out.state.opening ∨ out.ops.any drives ∨
      (out.spawned.any fun thread => thread.ops.any drives) ∨
      out.state.state = .webSocketConnected := by
  cases op with
  | startWebSocketConnection caller | checkClient caller | checkLastAttempt caller
  | setLastAttempt caller | dial caller => cases caller <;> grind [exec, drives, afterAttempt]
  | _ => grind [exec, drives]

theorem ConnectionOp.exec_revives (hrevives : op.revives)
    (hstate : c.state = .webSocketConnected) :
    out.state.wsTicker ∨ out.ops.any revives := by
  cases op with
  | startWebSocketConnection caller => cases caller <;> grind [exec, revives, afterAttempt]
  | _ => grind [exec, revives]

theorem ConnectionOp.countP_isLoop : out.ops.countP isLoop ≤ if op.isLoop then 1 else 0 := by
  cases op with
  | connect caller | recentAttempt caller | sleep caller wakeAt | startWsTicker caller
  | connectDone caller => cases caller <;> grind [exec, isLoop]
  | startWebSocketConnection caller | checkClient caller | checkLastAttempt caller
  | setLastAttempt caller | dial caller =>
      obtain _ | _ | _ := caller <;> grind [exec, isLoop, afterAttempt]
  | _ => grind [exec, isLoop]

theorem ConnectionOp.follows_of_pushed {next : ConnectionOp} (hmem : next ∈ out.ops) :
    next.Follows op := by
  cases op with
  | startWebSocketConnection caller | checkClient caller | checkLastAttempt caller
  | setLastAttempt caller | dial caller => cases caller <;> grind [exec, Follows, afterAttempt]
  | setState newState => cases newState <;> grind [exec, Follows]
  | _ => grind [exec, Follows]

theorem ConnectionOp.of_spawned {thread : Thread Unit ConnectionOp} (hmem : thread ∈ out.spawned) :
    thread.ops = [.connect .goroutine] := by
  cases op <;> grind [exec]

end Exec

/-! ### What every step keeps -/

structure ConnectionInv (w : ConnectionWorld) : Prop where
  /-- The loop does one thing at a time. -/
  serial : w.todo.countP ConnectionOp.isLoop ≤ 1
  progress : w.state.state = .disconnected → w.Driven ∨ .checkConnecting ∈ w.todo
  /-- The early return leaves the connection to somebody. -/
  lost : .checkConnecting ∈ w.todo →
    w.state.state = .disconnected ∧ (w.state.isConnecting → w.Driven)
  up : w.state.state = .webSocketConnected → .stopWsTicker ∈ w.todo ∨ .resetConnecting ∈ w.todo ∨
    (w.state.isConnecting → w.Revived)
  stops : .stopWsTicker ∈ w.todo ∨ .resetConnecting ∈ w.todo → w.state.state = .webSocketConnected
  reconnects : .setConnecting ∈ w.todo → w.state.state = .disconnected

section Run

variable {w : ConnectionWorld} {i : ℕ} {choice : ConnectionChoice}

theorem mem_todo_of_any {p : ConnectionOp → Bool} (turn : Turn ConnectionOp.exec w i choice)
    (hany : turn.out.ops.any p) : ∃ op ∈ turn.next.todo, p op := by
  obtain ⟨op, hop, hp⟩ := List.any_eq_true.mp hany
  exact ⟨op, turn.mem_todo_of_pushed hop, hp⟩

/-- As long as the state is disconnected, what drives the manager goes on, unless the ticker is
stopped. -/
theorem driven_next (turn : Turn ConnectionOp.exec w i choice)
    (hstate : turn.out.state.state = .disconnected) (hbefore : w.state.state = .disconnected)
    (hstop : turn.op ≠ .stopWsTicker) (h : w.Driven) : ConnectionWorld.Driven turn.next := by
  rcases h with hticker | hopening | hevent | ⟨op, hop, hdrives⟩
  · exact Or.inl (ConnectionOp.exec_wsTicker turn.exec hticker hstop)
  · exact Or.inr (Or.inl (Nat.lt_of_lt_of_le hopening (ConnectionOp.exec_opening turn.exec)))
  · rcases ConnectionOp.exec_eventChan turn.exec hevent with hkept | hhandled
    · exact Or.inr (Or.inr (Or.inl hkept))
    · exact Or.inr (Or.inr (Or.inr ⟨_, turn.mem_todo_of_pushed hhandled, rfl⟩))
  · rcases turn.eq_or_mem_todo hop with rfl | hstays
    · rcases ConnectionOp.exec_drives turn.exec hdrives hbefore
        with hticker | hopening | hpushed | hspawned | hconnected
      · exact Or.inl hticker
      · exact Or.inr (Or.inl hopening)
      · exact Or.inr (Or.inr (Or.inr (mem_todo_of_any turn hpushed)))
      · obtain ⟨thread, hthread, hany⟩ := List.any_eq_true.mp hspawned
        obtain ⟨op, hop, hp⟩ := List.any_eq_true.mp hany
        exact Or.inr (Or.inr (Or.inr ⟨op, turn.mem_todo_of_spawned hthread hop, hp⟩))
      · rw [hconnected] at hstate
        cases hstate
    · exact Or.inr (Or.inr (Or.inr ⟨op, hstays, hdrives⟩))

theorem revived_next (turn : Turn ConnectionOp.exec w i choice)
    (hbefore : w.state.state = .webSocketConnected) (hstop : turn.op ≠ .stopWsTicker)
    (h : w.Revived) : ConnectionWorld.Revived turn.next := by
  rcases h with hticker | ⟨op, hop, hrevives⟩
  · exact Or.inl (ConnectionOp.exec_wsTicker turn.exec hticker hstop)
  · rcases turn.eq_or_mem_todo hop with rfl | hstays
    · rcases ConnectionOp.exec_revives turn.exec hrevives hbefore with hticker | hpushed
      · exact Or.inl hticker
      · exact Or.inr (mem_todo_of_any turn hpushed)
    · exact Or.inr ⟨op, hstays, hrevives⟩

namespace ConnectionInv

theorem eq_op (h : ConnectionInv w) (turn : Turn ConnectionOp.exec w i choice) {op : ConnectionOp}
    (hop : op ∈ w.todo) (hloop : op.isLoop) (hturn : turn.op.isLoop) : turn.op = op :=
  List.eq_of_countP_le_one h.serial turn.op_mem_todo hop hturn hloop

theorem serial_run (h : ConnectionInv w) (turn : Turn ConnectionOp.exec w i choice) :
    turn.next.todo.countP ConnectionOp.isLoop ≤ 1 := by
  have hcount := turn.countP_todo ConnectionOp.isLoop
  have hops := ConnectionOp.countP_isLoop turn.exec
  have hspawned : (turn.out.spawned.flatMap (·.ops)).countP ConnectionOp.isLoop = 0 := by
    rw [List.countP_eq_zero]
    intro op hop
    obtain ⟨thread, hthread, hop⟩ := List.mem_flatMap.mp hop
    rw [ConnectionOp.of_spawned turn.exec hthread] at hop
    obtain rfl := List.mem_singleton.mp hop
    decide
  have hbefore := h.serial
  omega

/-- The state changes by `setState` only, and not while the loop is busy with something else. -/
theorem state_next (h : ConnectionInv w) (turn : Turn ConnectionOp.exec w i choice)
    {op : ConnectionOp} (hop : op ∈ w.todo) (hloop : op.isLoop)
    (hne : ∀ newState, op ≠ .setState newState) : turn.out.state.state = w.state.state := by
  rcases ConnectionOp.exec_state turn.exec with hsame | ⟨newState, hset, -⟩
  · exact hsame
  · exact absurd (h.eq_op turn hop hloop (hset ▸ rfl)).symm (hset ▸ hne newState)

theorem progress_run (h : ConnectionInv w) (turn : Turn ConnectionOp.exec w i choice)
    (hstate : turn.out.state.state = .disconnected) :
    ConnectionWorld.Driven turn.next ∨ .checkConnecting ∈ turn.next.todo := by
  have hstop : w.state.state = .disconnected → turn.op ≠ .stopWsTicker := by
    intro hbefore heq
    have hup := h.stops (Or.inl (heq ▸ turn.op_mem_todo))
    rw [hbefore] at hup
    cases hup
  rcases ConnectionOp.exec_state turn.exec with hsame | ⟨newState, hset, hnew⟩
  · have hbefore := hsame.symm.trans hstate
    rcases h.progress hbefore with hdriven | hcheck
    · exact Or.inl (driven_next turn hstate hbefore (hstop hbefore) hdriven)
    · rcases turn.eq_or_mem_todo hcheck with heq | hstays
      · cases hconnecting : w.state.isConnecting with
        | true =>
            have hdriven := (h.lost hcheck).2 hconnecting
            exact Or.inl (driven_next turn hstate hbefore (hstop hbefore) hdriven)
        | false =>
            have hops : .setConnecting ∈ turn.out.ops := by
              rw [turn.out_eq heq.symm (if_neg (by simp [hconnecting]))]
              exact List.mem_cons_self
            exact Or.inl (Or.inr (Or.inr (Or.inr ⟨_, turn.mem_todo_of_pushed hops, rfl⟩)))
      · exact Or.inr hstays
  · obtain rfl := hnew.symm.trans hstate
    refine Or.inr (turn.mem_todo_of_pushed ?_)
    rw [turn.out_eq hset rfl]
    exact List.mem_cons_self

theorem eq_of_next (h : ConnectionInv w) (turn : Turn ConnectionOp.exec w i choice)
    {op pushed : ConnectionOp} (hop : op ∈ turn.next.todo) (hpushed : pushed ∈ turn.out.ops)
    (hloop : op.isLoop) (hloop' : pushed.isLoop) : op = pushed :=
  List.eq_of_countP_le_one (h.serial_run turn) hop (turn.mem_todo_of_pushed hpushed) hloop hloop'

theorem of_mem_next (turn : Turn ConnectionOp.exec w i choice) {op : ConnectionOp}
    (hop : op ∈ turn.next.todo) (hne : op ≠ .connect .goroutine) :
    op ∈ w.todo ∨ op ∈ turn.out.ops := by
  rcases turn.mem_todo_next hop with hold | hpushed | ⟨thread, hthread, hmem⟩
  · exact Or.inl hold
  · exact Or.inr hpushed
  · rw [ConnectionOp.of_spawned turn.exec hthread] at hmem
    exact absurd (List.mem_singleton.mp hmem) hne

theorem lost_run (h : ConnectionInv w) (turn : Turn ConnectionOp.exec w i choice)
    (hcheck : .checkConnecting ∈ turn.next.todo) :
    turn.out.state.state = .disconnected ∧
      (turn.out.state.isConnecting → ConnectionWorld.Driven turn.next) := by
  rcases of_mem_next turn hcheck (by decide) with hold | hpushed
  · obtain ⟨hbefore, hlost⟩ := h.lost hold
    have hsame := h.state_next turn hold rfl (by simp)
    have hstate := hsame.trans hbefore
    refine ⟨hstate, fun hconnecting => ?_⟩
    -- it is a goroutine's turn: the loop has not got to look at `isConnecting` yet
    have hgoroutine : turn.op.isLoop = false := by
      by_contra hloop
      have heq := h.eq_op turn hold rfl (by simpa using hloop)
      have hnext : .select ∈ turn.out.ops ∨ .setConnecting ∈ turn.out.ops := by
        have hexec := turn.exec
        rw [heq] at hexec
        grind [ConnectionOp.exec]
      rcases hnext with hselect | hset
      · cases h.eq_of_next turn hcheck hselect rfl rfl
      · cases h.eq_of_next turn hcheck hset rfl rfl
    rcases ConnectionOp.exec_isConnecting turn.exec hconnecting with hold | hset | hpushed
    · refine driven_next turn hstate hbefore ?_ (hlost hold)
      rintro heq
      rw [heq] at hgoroutine
      cases hgoroutine
    · rw [hset] at hgoroutine
      cases hgoroutine
    · exact ConnectionWorld.Revived.driven (Or.inr (mem_todo_of_any turn hpushed))
  · have hset : turn.op = .setState .disconnected :=
      ConnectionOp.follows_of_pushed turn.exec hpushed
    have hstate : turn.out.state = { w.state with state := .disconnected } := by
      rw [turn.out_eq hset rfl]
    have hmem := turn.op_mem_todo
    rw [hset] at hmem
    have hstop : turn.op ≠ .stopWsTicker := by simp [hset]
    refine ⟨by rw [hstate], fun hconnecting => ?_⟩
    rw [hstate] at hconnecting
    cases hbefore : w.state.state with
    | disconnected =>
        rcases h.progress hbefore with hdriven | hcheck
        · exact driven_next turn (by rw [hstate]) hbefore hstop hdriven
        · cases (h.eq_op turn hcheck rfl (by rw [hset]; rfl)).symm.trans hset
    | webSocketConnected =>
        rcases h.up hbefore with hstops | hreset | hrevived
        · cases (h.eq_op turn hstops rfl (by rw [hset]; rfl)).symm.trans hset
        · cases (h.eq_op turn hreset rfl (by rw [hset]; rfl)).symm.trans hset
        · exact (revived_next turn hbefore hstop (hrevived hconnecting)).driven

theorem up_run (h : ConnectionInv w) (turn : Turn ConnectionOp.exec w i choice)
    (hstate : turn.out.state.state = .webSocketConnected) :
    .stopWsTicker ∈ turn.next.todo ∨ .resetConnecting ∈ turn.next.todo ∨
      (turn.out.state.isConnecting → ConnectionWorld.Revived turn.next) := by
  rcases ConnectionOp.exec_state turn.exec with hsame | ⟨newState, hset, hnew⟩
  · have hbefore := hsame.symm.trans hstate
    by_cases hstop : turn.op = .stopWsTicker
    · refine Or.inr (Or.inl (turn.mem_todo_of_pushed ?_))
      rw [turn.out_eq hstop rfl]
      exact List.mem_cons_self
    rcases h.up hbefore with hstops | hreset | hrevived
    · exact Or.inl ((turn.eq_or_mem_todo hstops).resolve_left (Ne.symm hstop))
    · rcases turn.eq_or_mem_todo hreset with heq | hstays
      · refine Or.inr (Or.inr fun hconnecting => ?_)
        rw [turn.out_eq heq.symm rfl] at hconnecting
        cases hconnecting
      · exact Or.inr (Or.inl hstays)
    · refine Or.inr (Or.inr fun hconnecting => ?_)
      rcases ConnectionOp.exec_isConnecting turn.exec hconnecting with hold | hset | hpushed
      · exact revived_next turn hbefore hstop (hrevived hold)
      · have hdown := h.reconnects (hset ▸ turn.op_mem_todo)
        rw [hbefore] at hdown
        cases hdown
      · exact Or.inr (mem_todo_of_any turn hpushed)
  · obtain rfl := hnew.symm.trans hstate
    refine Or.inl (turn.mem_todo_of_pushed ?_)
    rw [turn.out_eq hset rfl]
    exact List.mem_cons_self

theorem stops_run (h : ConnectionInv w) (turn : Turn ConnectionOp.exec w i choice)
    (hop : .stopWsTicker ∈ turn.next.todo ∨ .resetConnecting ∈ turn.next.todo) :
    turn.out.state.state = .webSocketConnected := by
  rcases hop with hstop | hreset
  · rcases of_mem_next turn hstop (by decide) with hold | hpushed
    · exact (h.state_next turn hold rfl (by simp)).trans (h.stops (Or.inl hold))
    · have hset : turn.op = .setState .webSocketConnected :=
        ConnectionOp.follows_of_pushed turn.exec hpushed
      rw [turn.out_eq hset rfl]
  · rcases of_mem_next turn hreset (by decide) with hold | hpushed
    · exact (h.state_next turn hold rfl (by simp)).trans (h.stops (Or.inr hold))
    · have hstop : turn.op = .stopWsTicker := ConnectionOp.follows_of_pushed turn.exec hpushed
      have hmem := hstop ▸ turn.op_mem_todo
      exact (h.state_next turn hmem rfl (by simp)).trans (h.stops (Or.inl hmem))

theorem reconnects_run (h : ConnectionInv w) (turn : Turn ConnectionOp.exec w i choice)
    (hop : .setConnecting ∈ turn.next.todo) : turn.out.state.state = .disconnected := by
  rcases of_mem_next turn hop (by decide) with hold | hpushed
  · exact (h.state_next turn hold rfl (by simp)).trans (h.reconnects hold)
  · have hcheck : turn.op = .checkConnecting := ConnectionOp.follows_of_pushed turn.exec hpushed
    have hmem := hcheck ▸ turn.op_mem_todo
    exact (h.state_next turn hmem rfl (by simp)).trans (h.lost hmem).1

end ConnectionInv

end Run

namespace ConnectionInv

theorem step_onClose {w : ConnectionWorld} (h : ConnectionInv w) (hempty : w.state.eventChan = none)
    (event : Option ConnectionEvent) (opened : ℕ) :
    ConnectionInv { w with state := { w.state with eventChan := event, opened := opened } } := by
  have hdriven (hdriven : w.Driven) : ConnectionWorld.Driven
      { w with state := { w.state with eventChan := event, opened := opened } } := by
    rcases hdriven with hticker | hopening | hevent | hop
    · exact Or.inl hticker
    · exact Or.inr (Or.inl hopening)
    · rw [hempty] at hevent
      cases hevent
    · exact Or.inr (Or.inr (Or.inr hop))
  exact
    { serial := h.serial
      progress := fun hstate => (h.progress hstate).imp_left hdriven
      lost := fun hcheck => (h.lost hcheck).imp_right fun hlost hconnecting =>
        hdriven (hlost hconnecting)
      up := h.up
      stops := h.stops
      reconnects := h.reconnects }

theorem step_onOpen {w : ConnectionWorld} (h : ConnectionInv w) (opening opened : ℕ) :
    ConnectionInv
      { w with
        state :=
          { w.state with
            eventChan := some .webSocketConnect, opening := opening, opened := opened } } where
  serial := h.serial
  progress := fun _ => Or.inl (Or.inr (Or.inr (Or.inl rfl)))
  lost := fun hcheck => ⟨(h.lost hcheck).1, fun _ => Or.inr (Or.inr (Or.inl rfl))⟩
  up := h.up
  stops := h.stops
  reconnects := h.reconnects

theorem step {w w' : ConnectionWorld} {e : AgentEvent} (h : ConnectionInv w)
    (hstep : w.step e = some w') : ConnectionInv w' := by
  cases e with
  | onOpen =>
      obtain ⟨-, heq⟩ := Option.ite_none_right_eq_some.mp hstep
      obtain rfl := Option.some.inj heq
      exact h.step_onOpen _ _
  | onClose =>
      obtain ⟨⟨-, hempty⟩, heq⟩ := Option.ite_none_right_eq_some.mp hstep
      obtain rfl := Option.some.inj heq
      exact h.step_onClose hempty _ _
  | elapse duration =>
      obtain rfl := Option.some.inj hstep
      exact ⟨h.serial, h.progress, h.lost, h.up, h.stops, h.reconnects⟩
  | run i choice =>
      obtain ⟨turn, rfl⟩ := Turn.exists_of_turn hstep
      exact ⟨h.serial_run turn, h.progress_run turn, h.lost_run turn, h.up_run turn,
        h.stops_run turn, h.reconnects_run turn⟩

theorem init (wsClient : Bool) : ConnectionInv (ConnectionWorld.init wsClient) where
  serial := Nat.le_refl 1
  progress := fun _ => Or.inl (Or.inl rfl)
  lost := by simp [ConnectionWorld.init, World.todo]
  up := by simp [ConnectionWorld.init]
  stops := by simp [ConnectionWorld.init, World.todo]
  reconnects := by simp [ConnectionWorld.init, World.todo]

end ConnectionInv

theorem ConnectionOp.attempts_or_handling {op : ConnectionOp} (hdrives : op.drives) :
    op.attempts ∨ op.handling := by
  cases op <;> simp_all [drives, attempts, handling]

/-- **The connection manager makes progress** in every state that is disconnected, or its loop is
still handling an event. -/
theorem progresses_of_run {wsClient : Bool} {events : List AgentEvent} {w : ConnectionWorld}
    (hrun : run ConnectionWorld.step (.init wsClient) events = some w)
    (hstate : w.state.state = .disconnected) :
    w.Progresses ∨ ∃ op ∈ w.todo, op.handling := by
  have hinv : ConnectionInv w :=
    (guarded_of_run hrun).invariant (fun _ _ _ h _ => h.step) (.init wsClient)
  rcases hinv.progress hstate with (hticker | hopening | hevent | ⟨op, hop, hdrives⟩) | hcheck
  · exact Or.inl (Or.inr (Or.inr (Or.inr hticker)))
  · exact Or.inl (Or.inr (Or.inl hopening))
  · exact Or.inl (Or.inl (hevent ▸ rfl))
  · rcases ConnectionOp.attempts_or_handling hdrives with hattempts | hhandling
    · exact Or.inl (Or.inr (Or.inr (Or.inl ⟨op, hop, hattempts⟩)))
    · exact Or.inr ⟨op, hop, hhandling⟩
  · exact Or.inr ⟨_, hcheck, rfl⟩

/-- The first connection is up and lost; the loop has set the state, and is about to look at
`isConnecting`. -/
def lostOnce : List AgentEvent :=
  List.replicate 6 (.run 0 .event) ++ .run 0 .success :: .run 0 .event ::
    .onOpen :: List.replicate 6 (.run 0 .event) ++ .onClose :: List.replicate 4 (.run 0 .event)

theorem progresses_lostOnce :
    ∃ w, run ConnectionWorld.step (.init true) lostOnce = some w ∧
      w.state.state = .disconnected ∧ (w.Progresses ∨ ∃ op ∈ w.todo, op.handling) := by
  have hrun : ∃ w, run ConnectionWorld.step (.init true) lostOnce = some w ∧
      w.state.state = .disconnected := ⟨_, rfl, rfl⟩
  obtain ⟨w, hrun, hstate⟩ := hrun
  exact ⟨w, hrun, hstate, progresses_of_run hrun hstate⟩

theorem wedged_lostOnce :
    ∃ w, run ConnectionWorld.step (.init true) lostOnce = some w ∧ w.Wedged :=
  ⟨_, rfl, rfl, by decide⟩

end Picket
