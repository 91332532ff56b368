import Picket.Lib.Transition
import Picket.Requests

/-!
# Requests and responses

Whoever makes a request pending sees to it that it is removed again: its sender, then its watcher.
The read loop offers a message to a request that is pending and has got none, and removes it before
it takes the next message.
-/

namespace Picket

open Transition Threads AssocList RequestManager

variable {M : Type*} (unmarshal : M → Option AgentResponse)

/-- A message with an id went to the request of that id, one without to the oldest. -/
structure RequestManager.Delivery.Routed (d : Delivery M) : Prop where
  byID : ∀ id ∈ responseID unmarshal d.message, d.req.id = id
  oldest : responseID unmarshal d.message = none →
    d.req ∈ d.pending ∧ ∀ req ∈ d.pending, d.req.createdAt ≤ req.createdAt

/-- Not a step in progress: a sender that waits for its response, a watcher for its context. -/
def RequestOp.Waits (rm : RequestManager M) : RequestOp M → Prop
  | .request _ => True
  | .cleanupRequest req => rm.done req.ref = false
  | _ => False

def RequestWorld.AtRest (w : RequestWorld M) : Prop :=
  ∀ op ∈ w.todo, op.Waits w.state

structure RequestWorld.Correct (w : RequestWorld M) : Prop where
  distinct : (w.state.requests.map (·.id)).Nodup
  once : ∀ req, (w.state.deliveries.countP fun d => d.req = req) ≤ 1
  routed : ∀ d ∈ w.state.deliveries, d.Routed unmarshal
  cleared : w.AtRest → ∀ req ∈ w.state.pending,
    w.state.done req.ref = false ∧ (∀ d ∈ w.state.deliveries, d.req ≠ req) ∧
      req ∉ w.state.failed

/-! ### The oldest request -/

theorem oldestReq_some (oldest : RequestManager.PendingRequest)
    (reqs : List RequestManager.PendingRequest) :
    ∃ req, oldestReq (some oldest) reqs = some req ∧ (req = oldest ∨ req ∈ reqs) ∧
      req.createdAt ≤ oldest.createdAt ∧ ∀ other ∈ reqs, req.createdAt ≤ other.createdAt := by
  induction reqs generalizing oldest with
  | nil => exact ⟨oldest, rfl, Or.inl rfl, Nat.le_refl _, by simp⟩
  | cons first reqs ih =>
      obtain ⟨req, hreq, hmem, hle, hothers⟩ :=
        ih (if first.createdAt < oldest.createdAt then first else oldest)
      refine ⟨req, hreq, ?_, ?_, ?_⟩
      · grind
      · grind
      · intro other hother
        rcases List.mem_cons.mp hother with rfl | hrest
        · grind
        · exact hothers other hrest

theorem oldestReq_spec {reqs : List RequestManager.PendingRequest}
    {req : RequestManager.PendingRequest} (hreq : oldestReq none reqs = some req) :
    req ∈ reqs ∧ ∀ other ∈ reqs, req.createdAt ≤ other.createdAt := by
  cases reqs with
  | nil => cases hreq
  | cons first reqs =>
      obtain ⟨found, hfound, hmem, hle, hothers⟩ := oldestReq_some first reqs
      rw [oldestReq, hfound] at hreq
      obtain rfl := Option.some.inj hreq
      exact ⟨List.mem_cons.mpr hmem, List.forall_mem_cons.mpr ⟨hle, hothers⟩⟩

theorem mem_pending {rm : RequestManager M} {req : RequestManager.PendingRequest} :
    req ∈ rm.pending ↔ ∃ id, (id, req) ∈ rm.pendingReqs := by
  simp [pending]

variable {unmarshal} in
/-- What `handleResponse` does with a message: nothing, or it offers it to the request it is for. -/
theorem RequestOp.exec_handleResponse {rm : RequestManager M} {choice : RequestChoice} {message : M}
    {out : Outcome (RequestManager M) Unit (RequestOp M)}
    (hexec : (handleResponse message).exec unmarshal rm () choice = some out) :
    out.state = rm ∧ out.spawned = [] ∧ (out.ops = [] ∨ ∃ req ∈ rm.pending,
      out.ops = [.offer message req rm.pending] ∧
        ((∀ entry ∈ rm.pendingReqs, entry.2.id = entry.1) →
          Delivery.Routed unmarshal ⟨message, req, rm.pending⟩)) := by
  simp only [exec] at hexec
  split at hexec
  case h_1 hlegacy =>
    unfold RequestManager.routeLegacyResponse at hexec
    split at hexec
    case h_2 => cases hexec
    case h_1 order =>
      split at hexec
      case isFalse => cases hexec
      case isTrue hperm =>
        split at hexec <;> cases hexec
        · exact ⟨rfl, rfl, Or.inl rfl⟩
        case h_2 req hoccurs =>
          obtain ⟨hmem, hoccurs⟩ := oldestReq_spec hoccurs
          have hpending : req ∈ rm.pending := hperm.mem_iff.mp hmem
          refine ⟨rfl, rfl, Or.inr ⟨req, hpending, rfl, fun _ => ⟨?_, fun _ => ⟨hpending, ?_⟩⟩⟩⟩
          · intro id hid
            rw [hlegacy] at hid
            cases hid
          · exact fun other hother => hoccurs other (hperm.mem_iff.mpr hother)
  case h_2 id hid =>
    split at hexec <;> cases hexec
    · exact ⟨rfl, rfl, Or.inl rfl⟩
    case h_2 req hlookup =>
      have hentry := mem_of_lookup hlookup
      refine ⟨rfl, rfl, Or.inr ⟨req, mem_pending.mpr ⟨id, hentry⟩, rfl, fun hknown => ⟨?_, ?_⟩⟩⟩
      · intro id' hid'
        obtain rfl := Option.some.inj (hid.symm.trans hid')
        exact hknown _ hentry
      · intro hnone
        rw [hid] at hnone
        cases hnone

section Exec

variable {unmarshal} {rm : RequestManager M} {choice : RequestChoice} {op : RequestOp M}
  {out : Outcome (RequestManager M) Unit (RequestOp M)}
  (hexec : op.exec unmarshal rm () choice = some out)
include hexec

theorem RequestOp.exec_pendingReqs {entry : Uint32 × RequestManager.PendingRequest}
    (hmem : entry ∈ out.state.pendingReqs) :
    (entry ∈ rm.pendingReqs ∧ op ≠ .cancelRequest entry.1 ∧ op ≠ .deleteRequest entry.1) ∨
      (entry.2.id = entry.1 ∧ entry.2.ref = rm.requests.length ∧
        out.state.requests = rm.requests ++ [entry.2] ∧ .sendMessage entry.2 ∈ out.ops) := by
  cases op with
  | handleResponse message => grind [exec_handleResponse]
  | insertRequest id createdAt =>
      cases hexec
      rcases mem_insert hmem with rfl | hold
      · exact Or.inr ⟨rfl, rfl, rfl, List.mem_cons_self⟩
      · exact Or.inl ⟨hold, nofun, nofun⟩
  | _ => grind [exec, remove, RequestManager.cancel, delete]

theorem RequestOp.exec_requests : out.state.requests = rm.requests ∨
    ∃ id createdAt, op = .insertRequest id createdAt ∧
      out.state.requests = rm.requests ++ [⟨id, createdAt, rm.requests.length⟩] := by
  cases op with
  | handleResponse message => grind [exec_handleResponse]
  | _ => grind [exec, remove, RequestManager.cancel]

theorem RequestOp.exec_deliveries : out.state.deliveries = rm.deliveries ∨
    ∃ message req pending, op = .offer message req pending ∧
      out.state.deliveries = ⟨message, req, pending⟩ :: rm.deliveries ∧
      out.ops = [.deleteRequest req.id] := by
  cases op with
  | handleResponse message => grind [exec_handleResponse]
  | _ => grind [exec, remove, RequestManager.cancel]

theorem RequestOp.exec_failed : out.state.failed = rm.failed ∨
    ∃ req, op = .sendMessage req ∧ out.state.failed = req :: rm.failed ∧
      .cancelRequest req.id ∈ out.ops := by
  cases op with
  | handleResponse message => grind [exec_handleResponse]
  | _ => grind [exec, remove, RequestManager.cancel]

theorem RequestOp.of_offer_pushed {message : M} {req : RequestManager.PendingRequest}
    {pending : List RequestManager.PendingRequest} (hmem : .offer message req pending ∈ out.ops) :
    op = .handleResponse message ∧ req ∈ rm.pending ∧
      ((∀ entry ∈ rm.pendingReqs, entry.2.id = entry.1) →
        Delivery.Routed unmarshal ⟨message, req, pending⟩) := by
  cases op with
  | handleResponse message =>
      obtain ⟨-, -, hnone | ⟨req, hpending, hops, hrouted⟩⟩ := exec_handleResponse hexec
      · simp [hnone] at hmem
      · rw [hops] at hmem
        cases List.mem_singleton.mp hmem
        exact ⟨rfl, hpending, hrouted⟩
  | _ => grind [exec]

theorem RequestOp.of_send_pushed {req : RequestManager.PendingRequest}
    (hmem : .sendMessage req ∈ out.ops) : req ∈ out.state.requests := by
  cases op with
  | handleResponse message =>
      obtain ⟨-, -, hnone | ⟨_, -, hops, -⟩⟩ := exec_handleResponse hexec
      · simp [hnone] at hmem
      · simp [hops] at hmem
  | _ => grind [exec]

theorem RequestOp.countP_handles : out.ops.countP handles ≤ if op.handles then 1 else 0 := by
  cases op with
  | handleResponse message =>
      obtain ⟨-, -, hnone | ⟨req, -, hops, -⟩⟩ := exec_handleResponse hexec
      · simp [hnone, handles]
      · simp [hops, handles]
  | _ => grind [exec, handles]

theorem RequestOp.of_spawned {pushed : RequestOp M}
    (hmem : pushed ∈ out.spawned.flatMap (·.ops)) : ∃ req, pushed = .cleanupRequest req := by
  cases op with
  | handleResponse message =>
      rw [(exec_handleResponse hexec).2.1] at hmem
      cases hmem
  | _ => grind [exec]

theorem RequestOp.countP_spawned {p : RequestOp M → Bool}
    (hp : ∀ req, p (.cleanupRequest req) = false) :
    (out.spawned.flatMap (·.ops)).countP p = 0 := by
  rw [List.countP_eq_zero]
  intro pushed hmem
  obtain ⟨req, rfl⟩ := RequestOp.of_spawned hexec hmem
  simp [hp req]

end Exec

section Attend

variable {unmarshal} {rm : RequestManager M} {choice : RequestChoice}
  {req : RequestManager.PendingRequest} {out : Outcome (RequestManager M) Unit (RequestOp M)}

theorem RequestOp.exec_sendMessage
    (hexec : (sendMessage req).exec unmarshal rm () choice = some out) :
    .goCleanup req ∈ out.ops ∨ .cancelRequest req.id ∈ out.ops := by
  grind [exec]

theorem RequestOp.exec_goCleanup (hexec : (goCleanup req).exec unmarshal rm () choice = some out) :
    ⟨(), [.cleanupRequest req]⟩ ∈ out.spawned := by
  cases hexec
  exact List.mem_cons_self

theorem RequestOp.exec_cleanupRequest
    (hexec : (cleanupRequest req).exec unmarshal rm () choice = some out) :
    .cancelRequest req.id ∈ out.ops := by
  grind [exec]

end Attend

/-! ### What every step keeps -/

/-- Who will remove a request: its sender, or its watcher. -/
def RequestWorld.Attended (w : RequestWorld M) (req : RequestManager.PendingRequest) : Prop :=
  .sendMessage req ∈ w.todo ∨ .goCleanup req ∈ w.todo ∨ .cleanupRequest req ∈ w.todo ∨
    .cancelRequest req.id ∈ w.todo

structure RequestInv (w : RequestWorld M) : Prop where
  /-- The read loop handles one message at a time. -/
  serial : w.todo.countP RequestOp.handles ≤ 1
  known : ∀ entry ∈ w.state.pendingReqs, entry.2.id = entry.1
  old : ∀ req ∈ w.state.requests, req.ref < w.state.requests.length
  pending : ∀ req ∈ w.state.pending, req ∈ w.state.requests
  delivered : ∀ d ∈ w.state.deliveries, d.req ∈ w.state.requests
  failed : ∀ req ∈ w.state.failed, req ∈ w.state.requests
  sending : ∀ req, .sendMessage req ∈ w.todo → req ∈ w.state.requests
  once : ∀ req, (w.state.deliveries.countP fun d => d.req = req) ≤ 1
  routed : ∀ d ∈ w.state.deliveries, d.Routed unmarshal
  offered : ∀ message req pending, .offer message req pending ∈ w.todo →
    req ∈ w.state.requests ∧ (∀ d ∈ w.state.deliveries, d.req ≠ req) ∧
      Delivery.Routed unmarshal ⟨message, req, pending⟩
  /-- A request that has its response is about to be removed. -/
  answered : ∀ req ∈ w.state.pending,
    (∀ d ∈ w.state.deliveries, d.req ≠ req) ∨ .deleteRequest req.id ∈ w.todo
  unsent : ∀ req ∈ w.state.pending, req ∈ w.state.failed → .cancelRequest req.id ∈ w.todo
  attended : ∀ req ∈ w.state.pending, w.Attended req

section Run

variable {unmarshal} {w : RequestWorld M} {i : ℕ} {choice : RequestChoice}

theorem RequestInv.mem_pending_run (h : RequestInv unmarshal w)
    (turn : Turn (RequestOp.exec unmarshal) w i choice) {req : RequestManager.PendingRequest}
    (hmem : req ∈ turn.out.state.pending) :
    (req ∈ w.state.pending ∧ turn.op ≠ .cancelRequest req.id ∧ turn.op ≠ .deleteRequest req.id) ∨
      (req ∉ w.state.requests ∧ req ∈ turn.out.state.requests ∧
        .sendMessage req ∈ turn.out.ops) := by
  obtain ⟨id, hentry⟩ := mem_pending.mp hmem
  rcases RequestOp.exec_pendingReqs turn.exec hentry with ⟨hold, hkept⟩ | ⟨-, href, hnew, hsend⟩
  · have hid := h.known _ hold
    rw [← hid] at hkept
    exact Or.inl ⟨mem_pending.mpr ⟨id, hold⟩, hkept⟩
  · refine Or.inr ⟨fun hbefore => ?_, by simp [hnew], hsend⟩
    have hlt := h.old req hbefore
    dsimp only at href
    omega

theorem RequestInv.mem_deliveries_run (h : RequestInv unmarshal w)
    (turn : Turn (RequestOp.exec unmarshal) w i choice) {d : Delivery M}
    (hmem : d ∈ turn.out.state.deliveries) :
    d ∈ w.state.deliveries ∨ (d.req ∈ w.state.requests ∧ d.Routed unmarshal ∧
      turn.out.ops = [.deleteRequest d.req.id]) := by
  rcases RequestOp.exec_deliveries turn.exec with hsame | ⟨message, req, pending, hop, hnew, hops⟩
  · exact Or.inl (hsame ▸ hmem)
  · rw [hnew] at hmem
    rcases List.mem_cons.mp hmem with rfl | hbefore
    · obtain ⟨hreq, -, hrouted⟩ := h.offered message req pending (hop ▸ turn.op_mem_todo)
      exact Or.inr ⟨hreq, hrouted, hops⟩
    · exact Or.inl hbefore

theorem RequestInv.mem_failed_run (h : RequestInv unmarshal w)
    (turn : Turn (RequestOp.exec unmarshal) w i choice) {req : RequestManager.PendingRequest}
    (hmem : req ∈ turn.out.state.failed) :
    req ∈ w.state.failed ∨
      (req ∈ w.state.requests ∧ .cancelRequest req.id ∈ turn.out.ops) := by
  rcases RequestOp.exec_failed turn.exec with hsame | ⟨req', hop, hnew, hops⟩
  · exact Or.inl (hsame ▸ hmem)
  · rw [hnew] at hmem
    rcases List.mem_cons.mp hmem with rfl | hbefore
    · exact Or.inr ⟨h.sending req (hop ▸ turn.op_mem_todo), hops⟩
    · exact Or.inl hbefore

theorem RequestInv.serial_run (h : RequestInv unmarshal w)
    (turn : Turn (RequestOp.exec unmarshal) w i choice) :
    turn.next.todo.countP RequestOp.handles ≤ 1 := by
  have hcount := turn.countP_todo RequestOp.handles
  have hops := RequestOp.countP_handles turn.exec
  rw [RequestOp.countP_spawned turn.exec fun _ => rfl] at hcount
  have hbefore := h.serial
  omega

theorem RequestInv.eq_of_handles (h : RequestInv unmarshal w) {op op' : RequestOp M}
    (hop : op ∈ w.todo) (hop' : op' ∈ w.todo) (hhandles : op.handles) (hhandles' : op'.handles) :
    op = op' :=
  List.eq_of_countP_le_one h.serial hop hop' hhandles hhandles'

theorem RequestInv.offered_run (h : RequestInv unmarshal w)
    (turn : Turn (RequestOp.exec unmarshal) w i choice) {message : M}
    {req : RequestManager.PendingRequest} {pending : List RequestManager.PendingRequest}
    (hop : .offer message req pending ∈ turn.next.todo) :
    req ∈ w.state.requests ∧ (∀ d ∈ turn.out.state.deliveries, d.req ≠ req) ∧
      Delivery.Routed unmarshal ⟨message, req, pending⟩ := by
  -- whoever is offered a message has got none: the loop would still be busy with that
  have hnew : ∀ d ∈ turn.out.state.deliveries, d ∈ w.state.deliveries := by
    intro d hd
    rcases h.mem_deliveries_run turn hd with hbefore | ⟨-, -, hops⟩
    · exact hbefore
    · have hdelete := turn.mem_todo_of_pushed (hops ▸ List.mem_cons_self)
      cases List.eq_of_countP_le_one (h.serial_run turn) hop hdelete rfl rfl
  rcases turn.mem_todo_next hop with hold | hpushed | ⟨thread, hspawned, hmem⟩
  · obtain ⟨hreq, hnone, hrouted⟩ := h.offered message req pending hold
    exact ⟨hreq, fun d hd => hnone d (hnew d hd), hrouted⟩
  · obtain ⟨hhandle, hpending, hrouted⟩ := RequestOp.of_offer_pushed turn.exec hpushed
    refine ⟨h.pending req hpending, fun d hd => ?_, hrouted h.known⟩
    rcases h.answered req hpending with hnone | hdelete
    · exact hnone d (hnew d hd)
    · cases h.eq_of_handles (hhandle ▸ turn.op_mem_todo) hdelete rfl rfl
  · obtain ⟨_, heq⟩ :=
      RequestOp.of_spawned turn.exec (List.mem_flatMap.mpr ⟨thread, hspawned, hmem⟩)
    cases heq

theorem RequestInv.once_run (h : RequestInv unmarshal w)
    (turn : Turn (RequestOp.exec unmarshal) w i choice) (req : RequestManager.PendingRequest) :
    (turn.out.state.deliveries.countP fun d => d.req = req) ≤ 1 := by
  rcases RequestOp.exec_deliveries turn.exec with hsame | ⟨message, req', pending, hop, hnew, -⟩
  · rw [hsame]
    exact h.once req
  · obtain ⟨-, hnone, -⟩ := h.offered message req' pending (hop ▸ turn.op_mem_todo)
    rw [hnew, List.countP_cons]
    by_cases hreq : req' = req
    · have hzero : (w.state.deliveries.countP fun d => d.req = req) = 0 := by
        rw [List.countP_eq_zero]
        intro d hd
        simpa [← hreq] using hnone d hd
      simp [hzero, hreq]
    · simpa [hreq] using h.once req

theorem RequestInv.answered_run (h : RequestInv unmarshal w)
    (turn : Turn (RequestOp.exec unmarshal) w i choice) {req : RequestManager.PendingRequest}
    (hreq : req ∈ turn.out.state.pending) :
    (∀ d ∈ turn.out.state.deliveries, d.req ≠ req) ∨ .deleteRequest req.id ∈ turn.next.todo := by
  rcases h.mem_pending_run turn hreq with ⟨hold, -, hkept⟩ | ⟨hfresh, -, -⟩
  · rcases h.answered req hold with hnone | hdelete
    · by_cases hany : ∀ d ∈ turn.out.state.deliveries, d.req ≠ req
      · exact Or.inl hany
      · push Not at hany
        obtain ⟨d, hd, rfl⟩ := hany
        rcases h.mem_deliveries_run turn hd with hbefore | ⟨-, -, hops⟩
        · exact absurd rfl (hnone d hbefore)
        · exact Or.inr (turn.mem_todo_of_pushed (hops ▸ List.mem_cons_self))
    · exact Or.inr ((turn.eq_or_mem_todo hdelete).resolve_left (Ne.symm hkept))
  · left
    rintro d hd rfl
    rcases h.mem_deliveries_run turn hd with hbefore | ⟨hrequest, -⟩
    · exact hfresh (h.delivered d hbefore)
    · exact hfresh hrequest

theorem RequestInv.unsent_run (h : RequestInv unmarshal w)
    (turn : Turn (RequestOp.exec unmarshal) w i choice) {req : RequestManager.PendingRequest}
    (hreq : req ∈ turn.out.state.pending) (hfailed : req ∈ turn.out.state.failed) :
    .cancelRequest req.id ∈ turn.next.todo := by
  rcases h.mem_failed_run turn hfailed with hbefore | ⟨-, hops⟩
  · rcases h.mem_pending_run turn hreq with ⟨hold, hkept, -⟩ | ⟨hfresh, -, -⟩
    · have hcancel := h.unsent req hold hbefore
      exact (turn.eq_or_mem_todo hcancel).resolve_left (Ne.symm hkept)
    · exact absurd (h.failed req hbefore) hfresh
  · exact turn.mem_todo_of_pushed hops

theorem RequestInv.attended_run (h : RequestInv unmarshal w)
    (turn : Turn (RequestOp.exec unmarshal) w i choice) {req : RequestManager.PendingRequest}
    (hreq : req ∈ turn.out.state.pending) : RequestWorld.Attended turn.next req := by
  rcases h.mem_pending_run turn hreq with ⟨hold, hkept, -⟩ | ⟨-, -, hsend⟩
  · rcases h.attended req hold with hop | hop | hop | hop
    · rcases turn.eq_or_mem_todo hop with heq | hstays
      · rcases RequestOp.exec_sendMessage (heq ▸ turn.exec) with hgo | hcancel
        · exact Or.inr (Or.inl (turn.mem_todo_of_pushed hgo))
        · exact Or.inr (Or.inr (Or.inr (turn.mem_todo_of_pushed hcancel)))
      · exact Or.inl hstays
    · rcases turn.eq_or_mem_todo hop with heq | hstays
      · have hspawned := RequestOp.exec_goCleanup (heq ▸ turn.exec)
        exact Or.inr (Or.inr (Or.inl (turn.mem_todo_of_spawned hspawned List.mem_cons_self)))
      · exact Or.inr (Or.inl hstays)
    · rcases turn.eq_or_mem_todo hop with heq | hstays
      · have hcancel := RequestOp.exec_cleanupRequest (heq ▸ turn.exec)
        exact Or.inr (Or.inr (Or.inr (turn.mem_todo_of_pushed hcancel)))
      · exact Or.inr (Or.inr (Or.inl hstays))
    · exact Or.inr (Or.inr (Or.inr ((turn.eq_or_mem_todo hop).resolve_left (Ne.symm hkept))))
  · exact Or.inl (turn.mem_todo_of_pushed hsend)

theorem RequestInv.run (h : RequestInv unmarshal w)
    (turn : Turn (RequestOp.exec unmarshal) w i choice) : RequestInv unmarshal turn.next := by
  have hmono : ∀ req ∈ w.state.requests, req ∈ turn.out.state.requests := by
    intro req hreq
    rcases RequestOp.exec_requests turn.exec with hsame | ⟨_, _, -, hnew⟩
    · exact hsame ▸ hreq
    · exact hnew ▸ List.mem_append_left _ hreq
  constructor
  case serial => exact h.serial_run turn
  case known =>
    intro entry hentry
    rcases RequestOp.exec_pendingReqs turn.exec hentry with ⟨hold, -⟩ | ⟨hid, -⟩
    · exact h.known entry hold
    · exact hid
  case old =>
    intro req hreq
    rw [turn.next_state] at hreq ⊢
    rcases RequestOp.exec_requests turn.exec with hsame | ⟨id, createdAt, -, hnew⟩
    · rw [hsame] at hreq ⊢
      exact h.old req hreq
    · rw [hnew] at hreq ⊢
      rw [List.length_append]
      rcases List.mem_append.mp hreq with hbefore | hlast
      · exact Nat.lt_add_right _ (h.old req hbefore)
      · rw [List.mem_singleton.mp hlast]
        exact Nat.lt_succ_self _
  case pending =>
    intro req hreq
    rcases h.mem_pending_run turn hreq with ⟨hold, -⟩ | ⟨-, hnew, -⟩
    · exact hmono req (h.pending req hold)
    · exact hnew
  case delivered =>
    intro d hd
    rcases h.mem_deliveries_run turn hd with hbefore | ⟨hreq, -⟩
    · exact hmono _ (h.delivered d hbefore)
    · exact hmono _ hreq
  case failed =>
    intro req hreq
    rcases h.mem_failed_run turn hreq with hbefore | ⟨hbefore, -⟩
    · exact hmono _ (h.failed req hbefore)
    · exact hmono _ hbefore
  case sending =>
    intro req hop
    rcases turn.mem_todo_next hop with hold | hpushed | ⟨thread, hspawned, hmem⟩
    · exact hmono _ (h.sending req hold)
    · exact RequestOp.of_send_pushed turn.exec hpushed
    · obtain ⟨_, heq⟩ :=
        RequestOp.of_spawned turn.exec (List.mem_flatMap.mpr ⟨thread, hspawned, hmem⟩)
      cases heq
  case once => exact h.once_run turn
  case routed =>
    intro d hd
    rcases h.mem_deliveries_run turn hd with hbefore | ⟨-, hrouted, -⟩
    · exact h.routed d hbefore
    · exact hrouted
  case offered =>
    intro message req pending hop
    exact (h.offered_run turn hop).imp_left (hmono req)
  case answered => exact fun req hreq => h.answered_run turn hreq
  case unsent => exact fun req hreq => h.unsent_run turn hreq
  case attended => exact fun req hreq => h.attended_run turn hreq

end Run

section Step

variable {unmarshal} {w w' : RequestWorld M}

theorem RequestInv.of_frame (h : RequestInv unmarshal w)
    (hpending : ∀ entry ∈ w'.state.pendingReqs, entry ∈ w.state.pendingReqs)
    (hrequests : w'.state.requests = w.state.requests)
    (hfailed : w'.state.failed = w.state.failed)
    (hdeliveries : w'.state.deliveries = w.state.deliveries)
    (htodo : ∀ op ∈ w.todo, op ∈ w'.todo)
    (hnew : ∀ op ∈ w'.todo, op ∈ w.todo ∨ op = .sendRequest ∨
      (∃ message, op = .handleResponse message) ∧ ∀ op' ∈ w.todo, op'.handles = false)
    (hserial : w'.todo.countP RequestOp.handles ≤ 1) : RequestInv unmarshal w' := by
  have hreq : ∀ req ∈ w'.state.pending, req ∈ w.state.pending := by
    intro req hmem
    obtain ⟨id, hentry⟩ := mem_pending.mp hmem
    exact mem_pending.mpr ⟨id, hpending _ hentry⟩
  constructor
  case serial => exact hserial
  case known => exact fun entry hentry => h.known entry (hpending entry hentry)
  case old => exact hrequests ▸ h.old
  case pending => exact fun req hmem => hrequests ▸ h.pending req (hreq req hmem)
  case delivered => exact hdeliveries ▸ hrequests ▸ h.delivered
  case failed => exact hfailed ▸ hrequests ▸ h.failed
  case sending =>
    intro req hop
    rcases hnew _ hop with hold | heq | ⟨⟨message, heq⟩, -⟩
    · exact hrequests ▸ h.sending req hold
    · cases heq
    · cases heq
  case once => exact hdeliveries ▸ h.once
  case routed => exact hdeliveries ▸ h.routed
  case offered =>
    intro message req pending hop
    rcases hnew _ hop with hold | heq | ⟨⟨message, heq⟩, -⟩
    · exact hrequests ▸ hdeliveries ▸ h.offered message req pending hold
    · cases heq
    · cases heq
  case answered =>
    intro req hmem
    exact hdeliveries ▸ (h.answered req (hreq req hmem)).imp_right (htodo _)
  case unsent => exact fun req hmem hf => htodo _ (h.unsent req (hreq req hmem) (hfailed ▸ hf))
  case attended =>
    intro req hmem
    exact (h.attended req (hreq req hmem)).imp (htodo _)
      (Or.imp (htodo _) (Or.imp (htodo _) (htodo _)))

theorem RequestInv.step {e : RequestEvent M} (h : RequestInv unmarshal w)
    (hstep : w.step unmarshal e = some w') : RequestInv unmarshal w' := by
  cases e with
  | sendRequest =>
      obtain rfl := Option.some.inj hstep
      refine h.of_frame (fun _ hentry => hentry) rfl rfl rfl
        (fun op hop => World.mem_todo_spawn.mpr (Or.inl hop)) (fun op hop => ?_) ?_
      · rcases World.mem_todo_spawn.mp hop with hold | hmem
        · exact Or.inl hold
        · exact Or.inr (Or.inl (List.mem_singleton.mp hmem))
      · rw [World.todo_spawn, List.countP_append]
        exact h.serial
  | message message =>
      rw [RequestWorld.step, Option.ite_none_left_eq_some] at hstep
      obtain ⟨hidle, hstep⟩ := hstep
      obtain rfl := Option.some.inj hstep
      have hnone : ∀ op ∈ w.todo, op.handles = false := by simpa using hidle
      refine h.of_frame (fun _ hentry => hentry) rfl rfl rfl
        (fun op hop => World.mem_todo_spawn.mpr (Or.inl hop)) (fun op hop => ?_) ?_
      · rcases World.mem_todo_spawn.mp hop with hold | hmem
        · exact Or.inl hold
        · exact Or.inr (Or.inr ⟨⟨message, List.mem_singleton.mp hmem⟩, hnone⟩)
      · rw [World.todo_spawn, List.countP_append, List.countP_eq_zero.mpr (by simpa using hnone)]
        exact Nat.le_refl 1
  | contextDone ref =>
      obtain rfl := Option.some.inj hstep
      exact h.of_frame (fun _ hentry => hentry) rfl rfl rfl (fun _ hop => hop)
        (fun _ hop => Or.inl hop) h.serial
  | close =>
      obtain rfl := Option.some.inj hstep
      exact h.of_frame (fun _ hentry => nomatch hentry) rfl rfl rfl (fun _ hop => hop)
        (fun _ hop => Or.inl hop) h.serial
  | elapse duration =>
      obtain rfl := Option.some.inj hstep
      exact h.of_frame (fun _ hentry => hentry) rfl rfl rfl (fun _ hop => hop)
        (fun _ hop => Or.inl hop) h.serial
  | run i choice =>
      obtain ⟨turn, rfl⟩ := Turn.exists_of_turn hstep
      exact h.run turn

end Step

theorem requestInv_init : RequestInv unmarshal RequestWorld.init := by
  constructor <;> simp [RequestWorld.init, World.todo, RequestManager.pending]

variable {unmarshal} in
/-- With no step in progress, whoever attends to a pending request waits for its context. -/
theorem RequestInv.cleared {w : RequestWorld M} (h : RequestInv unmarshal w) (hrest : w.AtRest)
    {req : RequestManager.PendingRequest} (hreq : req ∈ w.state.pending) :
    w.state.done req.ref = false ∧ (∀ d ∈ w.state.deliveries, d.req ≠ req) ∧
      req ∉ w.state.failed := by
  refine ⟨?_, ?_, fun hfailed => (hrest _ (h.unsent req hreq hfailed)).elim⟩
  · rcases h.attended req hreq with hop | hop | hop | hop
    · exact (hrest _ hop).elim
    · exact (hrest _ hop).elim
    · exact hrest _ hop
    · exact (hrest _ hop).elim
  · rcases h.answered req hreq with hnone | hdelete
    · exact hnone
    · exact (hrest _ hdelete).elim

/-! ### Ids are different -/

def RequestOp.isSendRequest : RequestOp M → Bool
  | .sendRequest => true
  | _ => false

/-- The id of a request that is yet to be made. -/
def RequestOp.reserves : RequestOp M → Option Uint32
  | .timeNow id | .insertRequest id _ => some id
  | _ => none

def RequestEvent.isSendRequest : RequestEvent M → Bool
  | .sendRequest => true
  | _ => false

structure IdInv (w : RequestWorld M) : Prop where
  nextID : w.state.nextID.val + w.todo.countP RequestOp.isSendRequest = w.state.calls
  /-- An id up to the last is reserved or in use once. -/
  ids : ∀ id, (w.state.requests.map (·.id)).count id
      + (w.todo.filterMap RequestOp.reserves).count id
    ≤ if 0 < id.val ∧ id.val ≤ w.state.nextID.val then 1 else 0

section Exec

variable {unmarshal} {rm : RequestManager M} {choice : RequestChoice} {op : RequestOp M}
  {out : Outcome (RequestManager M) Unit (RequestOp M)}
  (hexec : op.exec unmarshal rm () choice = some out)
include hexec

theorem RequestOp.exec_calls : out.state.calls = rm.calls := by
  cases op with
  | handleResponse message => grind [exec_handleResponse]
  | _ => grind [exec, remove, RequestManager.cancel]

theorem RequestOp.exec_nextID :
    out.state.nextID = (if op.isSendRequest then rm.nextID + 1 else rm.nextID) := by
  cases op with
  | handleResponse message => grind [exec_handleResponse, isSendRequest]
  | _ => grind [exec, remove, RequestManager.cancel, isSendRequest]

theorem RequestOp.countP_isSendRequest : out.ops.countP isSendRequest = 0 := by
  cases op with
  | handleResponse message =>
      obtain ⟨-, -, hnone | ⟨req, -, hops, -⟩⟩ := exec_handleResponse hexec
      · simp [hnone]
      · simp [hops, isSendRequest]
  | _ => grind [exec, isSendRequest]

theorem RequestOp.exec_reserves (id : Uint32) :
    (out.state.requests.map (·.id)).count id + (out.ops.filterMap reserves).count id
      = (rm.requests.map (·.id)).count id + (if op.reserves = some id then 1 else 0)
        + if op.isSendRequest ∧ rm.nextID + 1 = id then 1 else 0 := by
  cases op with
  | handleResponse message =>
      obtain ⟨hstate, -, hnone | ⟨req, -, hops, -⟩⟩ := exec_handleResponse hexec
      · simp [hstate, hnone, reserves, isSendRequest]
      · simp [hstate, hops, List.filterMap_cons, reserves, isSendRequest]
  | sendRequest =>
      cases hexec
      simp [reserves, isSendRequest, List.count_singleton]
  | timeNow id' =>
      cases hexec
      simp [reserves, isSendRequest, List.count_singleton]
  | insertRequest id' createdAt =>
      cases hexec
      simp [List.filterMap_cons, reserves, isSendRequest, List.count_singleton]
  | _ => grind [exec, remove, RequestManager.cancel, reserves, isSendRequest]

end Exec

theorem nextID_add_one {id : Uint32} (hlt : id.val + 1 < 2 ^ 32) : (id + 1).val = id.val + 1 := by
  rw [Fin.val_add]
  exact Nat.mod_eq_of_lt hlt

section Ids

variable {unmarshal} {w w' : RequestWorld M}

theorem IdInv.run {i : ℕ} {choice : RequestChoice} (h : IdInv w)
    (turn : Turn (RequestOp.exec unmarshal) w i choice) (hfew : w.state.calls < 2 ^ 32) :
    IdInv turn.next := by
  have hsends := turn.countP_todo RequestOp.isSendRequest
  rw [RequestOp.countP_isSendRequest turn.exec,
    RequestOp.countP_spawned turn.exec fun _ => rfl] at hsends
  have hnextID := h.nextID
  have hval : turn.out.state.nextID.val
      = w.state.nextID.val + if turn.op.isSendRequest then 1 else 0 := by
    rw [RequestOp.exec_nextID turn.exec]
    split
    case isTrue hsend =>
      rw [if_pos hsend] at hsends
      exact nextID_add_one (by omega)
    · rfl
  constructor
  case nextID =>
    rw [turn.next_state, hval, RequestOp.exec_calls turn.exec]
    omega
  case ids =>
    intro id
    have hids := h.ids id
    have hexec := RequestOp.exec_reserves turn.exec id
    have hcount := turn.count_todo RequestOp.reserves id
    have hspawned : (turn.out.spawned.flatMap (·.ops)).filterMap RequestOp.reserves = [] := by
      rw [List.filterMap_eq_nil_iff]
      intro op hop
      obtain ⟨req, rfl⟩ := RequestOp.of_spawned turn.exec hop
      rfl
    rw [hspawned, List.count_nil] at hcount
    rw [turn.next_state, hval]
    by_cases hnew : turn.op.isSendRequest ∧ w.state.nextID + 1 = id
    · have hid : id.val = w.state.nextID.val + 1 := by
        rw [if_pos hnew.1] at hsends
        rw [← hnew.2]
        exact nextID_add_one (by omega)
      rw [if_pos hnew] at hexec
      rw [if_neg (by omega)] at hids
      rw [if_pos hnew.1, if_pos (by omega)]
      omega
    · rw [if_neg hnew] at hexec
      split at hids
      case isTrue hle =>
        rw [if_pos ⟨hle.1, by omega⟩]
        omega
      · omega

theorem IdInv.step {e : RequestEvent M} (h : IdInv w) (hstep : w.step unmarshal e = some w')
    (hfew : w.state.calls < 2 ^ 32) : IdInv w' := by
  cases e with
  | sendRequest =>
      obtain rfl := Option.some.inj hstep
      constructor
      case nextID =>
        rw [World.todo_spawn, List.countP_append, ← Nat.add_assoc]
        exact congrArg (· + 1) h.nextID
      case ids =>
        intro id
        rw [World.todo_spawn, List.filterMap_append]
        change _ + List.count id (_ ++ []) ≤ _
        rw [List.append_nil]
        exact h.ids id
  | message message =>
      rw [RequestWorld.step, Option.ite_none_left_eq_some] at hstep
      obtain ⟨-, hstep⟩ := hstep
      obtain rfl := Option.some.inj hstep
      constructor
      case nextID =>
        rw [World.todo_spawn, List.countP_append]
        exact h.nextID
      case ids =>
        intro id
        rw [World.todo_spawn, List.filterMap_append]
        change _ + List.count id (_ ++ []) ≤ _
        rw [List.append_nil]
        exact h.ids id
  | contextDone ref =>
      obtain rfl := Option.some.inj hstep
      exact ⟨h.nextID, h.ids⟩
  | close =>
      obtain rfl := Option.some.inj hstep
      exact ⟨h.nextID, h.ids⟩
  | elapse duration =>
      obtain rfl := Option.some.inj hstep
      exact ⟨h.nextID, h.ids⟩
  | run i choice =>
      obtain ⟨turn, rfl⟩ := Turn.exists_of_turn hstep
      exact h.run turn hfew

theorem calls_step {e : RequestEvent M} (hstep : w.step unmarshal e = some w') :
    w'.state.calls = w.state.calls + if e.isSendRequest then 1 else 0 := by
  cases e with
  | message message =>
      rw [RequestWorld.step, Option.ite_none_left_eq_some] at hstep
      obtain ⟨-, hstep⟩ := hstep
      obtain rfl := Option.some.inj hstep
      rfl
  | run i choice =>
      obtain ⟨turn, rfl⟩ := Turn.exists_of_turn hstep
      exact RequestOp.exec_calls turn.exec
  | _ =>
      obtain rfl := Option.some.inj hstep
      rfl

theorem idInv_of_run {events : List (RequestEvent M)}
    (hrun : run (RequestWorld.step unmarshal) w events = some w') (h : IdInv w)
    (hfew : w.state.calls + events.countP RequestEvent.isSendRequest < 2 ^ 32) : IdInv w' := by
  induction events generalizing w with
  | nil =>
      obtain rfl := Option.some.inj hrun
      exact h
  | cons e events ih =>
      rw [run_cons, Option.bind_eq_some_iff] at hrun
      obtain ⟨v, hstep, htail⟩ := hrun
      rw [List.countP_cons] at hfew
      refine ih htail (h.step hstep (by omega)) ?_
      rw [calls_step hstep]
      omega

end Ids

theorem idInv_init : IdInv (RequestWorld.init : RequestWorld M) where
  nextID := rfl
  ids id := by simp [RequestWorld.init, World.todo]

variable {unmarshal} in
/-- **Responses reach the request they are for.** In every run with fewer than `2 ^ 32` requests. -/
theorem correct_of_run {w : RequestWorld M} {events : List (RequestEvent M)}
    (hrun : run (RequestWorld.step unmarshal) .init events = some w)
    (hfew : events.countP RequestEvent.isSendRequest < 2 ^ 32) : w.Correct unmarshal := by
  have hinv : RequestInv unmarshal w := (guarded_of_run hrun).invariant
    (fun _ _ _ h _ => RequestInv.step h) (requestInv_init unmarshal)
  have hid : IdInv w := idInv_of_run hrun idInv_init (by simpa [RequestWorld.init] using hfew)
  refine ⟨?_, hinv.once, hinv.routed, fun hrest req hreq => hinv.cleared hrest hreq⟩
  rw [List.nodup_iff_count_le_one]
  intro id
  have hids := hid.ids id
  split at hids <;> omega

def sendRequest (i : ℕ) : List (RequestEvent (Option Uint32)) :=
  .sendRequest :: List.replicate 5 (.run i .ok)

/-- Two requests; the second gets its response by id, the first, which is older, one without an id,
and a third message comes too late. -/
def twoRequests : List (RequestEvent (Option Uint32)) :=
  sendRequest 0 ++ .elapse 1 :: sendRequest 2 ++
    [.message (some 2), .run 4 .ok, .run 4 .ok, .run 4 .ok, .message none,
      .run 5 (.visit [⟨1, 0, 0⟩]), .run 5 .ok, .run 5 .ok, .message (some 1), .run 6 .ok,
      .run 0 .ok, .run 0 .ok, .run 1 .ok, .run 1 .ok]

theorem correct_twoRequests :
    ∃ w, run (RequestWorld.step fun id : Option Uint32 => some ⟨id, "", none⟩) .init twoRequests
        = some w ∧ w.state.deliveries.map (·.req.id) = [1, 2] ∧ w.state.pendingReqs = [] ∧
      w.Correct fun id => some ⟨id, "", none⟩ := by
  have hone : (run (RequestWorld.step fun id : Option Uint32 => some ⟨id, "", none⟩) .init
      twoRequests).map (fun w => (w.state.deliveries.map (·.req.id), w.state.pendingReqs))
      = some ([1, 2], []) := by decide +kernel
  obtain ⟨w, hrun, hstate⟩ := Option.map_eq_some_iff.mp hone
  obtain ⟨hdeliveries, hpending⟩ := Prod.mk.inj hstate
  exact ⟨w, hrun, hdeliveries, hpending, correct_of_run hrun (by decide)⟩

end Picket
