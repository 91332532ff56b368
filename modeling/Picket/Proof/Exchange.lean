import Picket.Exchange
import Picket.Proof.Answers
import Picket.Proof.Routing

/-!
# Requests get their own answers

A request is written once, the agent reads it once, and its handler either fails or sends one
response, which carries the id of the request. The hub gives it to the request of that id. What is
assumed: the hub tells responses and frames apart when it reads them, and ids are not used twice.
-/

namespace Picket

open Cbor Transition Threads AssocList RequestManager

/-- Ids are read back, too. -/
structure ReadsIds (reader : Reader) : Prop extends reader.Lawful where
  uint32Ptr_val : ∀ id : Uint32, reader.uint32Ptr (.uint id.val) = some (some id)

def ExchangeEvent.isReceive : ExchangeEvent → Bool
  | .receive => true
  | _ => false

section Exchange

variable (reader : Reader) (asks : ℕ → Ask)

namespace Exchange

variable (x : Exchange)

/-- An agent handled the request and the message is the response it sent. -/
def Answers (handled : List (HubRequest × Agent)) (req : RequestManager.PendingRequest)
    (message : Fields) : Prop :=
  ∃ agent response, (hubRequest asks req, agent) ∈ handled ∧
    (agent.react reader (hubRequest asks req)).1 = .ok () ∧
    (agent.react reader (hubRequest asks req)).2.responses = [response] ∧
    message = response.encode

/-- An agent handled the request and sent no response. -/
def Failed (handled : List (HubRequest × Agent)) (req : RequestManager.PendingRequest) : Prop :=
  ∃ agent error, (hubRequest asks req, agent) ∈ handled ∧
    (agent.react reader (hubRequest asks req)).1 = .error error ∧
    (agent.react reader (hubRequest asks req)).2.responses = []

/-- Nothing is under way, and no step is in progress. -/
structure Quiet : Prop where
  hub : x.hub.AtRest
  toAgent : x.toAgent = []
  toHub : x.toHub = []

structure Correct : Prop where
  asked : ∀ entry ∈ x.handled, ∃ req ∈ x.hub.state.requests, entry.1 = hubRequest asks req
  handledOnce : (x.handled.map (·.1.id)).Nodup
  answered : ∀ d ∈ x.hub.state.deliveries, Answers reader asks x.handled d.req d.message
  deliveredOnce : ∀ req, (x.hub.state.deliveries.countP fun d => d.req = req) ≤ 1
  /-- A request that is left without an answer is one that the agent failed on. -/
  settled : x.Quiet → ∀ req ∈ x.hub.state.pending, Failed reader asks x.handled req

/-- The message read next is told apart: a frame with the stream handler installed, a response that
the stream handler, if it is installed, does not take for one. -/
def toldApart : Bool :=
  match x.toHub with
  | [] => true
  | .own response :: _ => !x.streamHandler || (Picket.streamHandler reader response.encode).isNone
  | .frame _ :: _ => x.streamHandler

/-- A step while fewer than `2 ^ 32` calls of `SendRequest` have been made. -/
def Guard (e : ExchangeEvent) : Prop :=
  x.hub.state.calls < 2 ^ 32 ∧ (e.isReceive → x.toldApart reader)

instance (e : ExchangeEvent) : Decidable (Guard reader x e) :=
  inferInstanceAs (Decidable (_ ∧ (_ → _)))

end Exchange

end Exchange

/-! ### Messages are read as they were written -/

section Decode

variable {reader : Reader} (hlawful : ReadsIds reader)
include hlawful

theorem HubRequest.decode_encode (request : HubRequest) :
    HubRequest.decode reader request.encode = some request := by
  obtain ⟨action, data, id⟩ := request
  have haction := hlawful.uint8_val action
  cases data <;> cases id <;>
    simp [HubRequest.decode, HubRequest.encode, readField, omitted, haction, List.lookup_cons,
      hlawful.uint32Ptr_val]

theorem AgentResponse.decode_encode {response : AgentResponse} (herror : response.error = "") :
    AgentResponse.decode reader response.encode = some response := by
  obtain ⟨id, error, data⟩ := response
  obtain rfl : error = "" := herror
  cases id <;> cases data <;>
    simp [AgentResponse.decode, AgentResponse.encode, readField, omitted, List.lookup_cons,
      hlawful.uint32Ptr_val]

end Decode

/-! ### What a handler sends -/

section React

variable {reader : Reader} {agent : Agent}

/-- A handler fails and has sent nothing, or sends one response as the last thing it does. -/
def Settles (agent : Agent) (id : Option Uint32)
    (outcome : Except HandlerError Unit × Reaction) : Prop :=
  (∃ error, outcome.1 = .error error ∧ outcome.2.responses = []) ∨
    ∃ data, outcome.1 = .ok () ∧ outcome.2.responses = [newAgentResponse agent data id]

variable {id : Option Uint32}

theorem settles_sendResponse (data : Payload) :
    Settles agent id ((sendResponse agent data id).run.run {}) := Or.inr ⟨data, rfl, rfl⟩

theorem settles_throw (e : HandlerError) :
    Settles agent id ((throw e : Handling Unit).run.run {}) := Or.inl ⟨e, rfl, rfl⟩

theorem settles_handleContainer (get : DockerManager → String → Except HandlerError String)
    (request : HubRequest) :
    Settles agent id ((handleContainer reader agent get request id).run.run {}) := by
  unfold handleContainer
  cases agent.dockerManager with
  | none => exact settles_sendResponse _
  | some docker =>
      cases unmarshalContainerID reader request.data with
      | error e => exact settles_throw e
      | ok containerID =>
          change Settles agent id ((do
            let content ← get docker containerID
            sendResponse agent (.text content) id : Handling Unit).run.run {})
          cases get docker containerID with
          | error e => exact settles_throw e
          | ok content => exact settles_sendResponse (.text content)

theorem settles_uninstallAgent :
    Settles agent id ((UninstallAgentHandler.handle agent id).run.run {}) := by
  unfold UninstallAgentHandler.handle
  split
  · exact settles_sendResponse _
  · split
    · exact settles_sendResponse _
    · exact Or.inr ⟨.uninstall uninstallScheduled, rfl, rfl⟩

variable (reader agent) in
theorem settles_react (request : HubRequest) :
    Settles agent request.id (agent.react reader request) := by
  unfold Agent.react handleHubRequest
  split
  · exact settles_throw _
  · exact settles_sendResponse _
  · exact settles_handleContainer _ request
  · exact settles_handleContainer _ request
  · exact settles_uninstallAgent

end React

/-! ### What every step keeps -/

section Inv

variable (reader : Reader) (asks : ℕ → Ask)

open Exchange

def RequestOp.writes (choice : RequestChoice) : RequestOp Fields → List HubRequest
  | .sendMessage req => if choice = .ok then [hubRequest asks req] else []
  | _ => []

def RequestOp.sends {M : Type*} : RequestOp M → Option Uint32
  | .sendMessage req => some req.id
  | _ => none

/-- A request that is neither answered nor given up is yet to be sent, on its way, or handled, with
the response on its way back. -/
def UnderWay (w : RequestWorld Fields) (sent : List HubRequest) (replies : List AgentResponse)
    (given : List (HubRequest × Agent)) (req : RequestManager.PendingRequest) : Prop :=
  .sendMessage req ∈ w.todo ∨ .cancelRequest req.id ∈ w.todo ∨ hubRequest asks req ∈ sent ∨
    Failed reader asks given req ∨
    (∃ response ∈ replies, Answers reader asks given req response.encode) ∨
    ∃ message, Answers reader asks given req message ∧
      (.handleResponse message ∈ w.todo ∨ ∃ pending, .offer message req pending ∈ w.todo)

/-- What is known of the request manager, of the requests and responses on their way, and of the
requests the agent was given. -/
structure ExchangeInv (w : RequestWorld Fields) (sent : List HubRequest)
    (replies : List AgentResponse) (given : List (HubRequest × Agent)) : Prop where
  requests : RequestInv (AgentResponse.decode reader) w
  ids : IdInv w
  asked : ∀ request ∈ sent, ∃ req ∈ w.state.requests, request = hubRequest asks req
  handled : ∀ entry ∈ given, ∃ req ∈ w.state.requests, entry.1 = hubRequest asks req
  /-- A request is sent once and handled once. -/
  once : ∀ id, (w.todo.filterMap RequestOp.sends).count id + (sent.map (·.id)).count (some id)
      + (given.map (·.1.id)).count (some id) ≤ (w.state.requests.map (·.id)).count id
  answers : ∀ response ∈ replies, ∃ req ∈ w.state.requests,
    Answers reader asks given req response.encode
  handling : ∀ message, .handleResponse message ∈ w.todo → ∃ req ∈ w.state.requests,
    Answers reader asks given req message
  offering : ∀ message req pending, .offer message req pending ∈ w.todo →
    Answers reader asks given req message
  delivered : ∀ d ∈ w.state.deliveries, Answers reader asks given d.req d.message
  waiting : ∀ req ∈ w.state.pending, w.state.done req.ref = false →
    (∀ d ∈ w.state.deliveries, d.req ≠ req) → UnderWay reader asks w sent replies given req

end Inv

section Ids

variable {M : Type*} {w : RequestWorld M}

theorem IdInv.nodup (h : IdInv w) : (w.state.requests.map (·.id)).Nodup := by
  rw [List.nodup_iff_count_le_one]
  intro id
  have hids := h.ids id
  split at hids <;> omega

theorem IdInv.eq_of_id (h : IdInv w) {req req' : RequestManager.PendingRequest}
    (hreq : req ∈ w.state.requests) (hreq' : req' ∈ w.state.requests) (hid : req.id = req'.id) :
    req = req' :=
  List.inj_on_of_nodup_map h.nodup hreq hreq' hid

end Ids

section Exec

variable {M : Type*} {unmarshal : M → Option AgentResponse} {rm : RequestManager M}
  {choice : RequestChoice} {op : RequestOp M} {out : Outcome (RequestManager M) Unit (RequestOp M)}
  (hexec : op.exec unmarshal rm () choice = some out)
include hexec

theorem RequestOp.exec_sends (id : Uint32) :
    (out.ops.filterMap sends).count id + (rm.requests.map (·.id)).count id
      = (out.state.requests.map (·.id)).count id := by
  cases op with
  | handleResponse message =>
      obtain ⟨hstate, -, hnone | ⟨req, -, hops, -⟩⟩ := exec_handleResponse hexec
      · simp [hstate, hnone]
      · simp [hstate, hops, List.filterMap_cons, sends]
  | insertRequest id' createdAt =>
      cases hexec
      simp [sends, Nat.add_comm]
  | _ => grind [exec, remove, RequestManager.cancel, sends]

theorem RequestOp.filterMap_sends_spawned :
    (out.spawned.flatMap (·.ops)).filterMap sends = [] := by
  rw [List.filterMap_eq_nil_iff]
  intro pushed hmem
  obtain ⟨req, rfl⟩ := RequestOp.of_spawned hexec hmem
  rfl

theorem RequestOp.not_handling_pushed {message : M} : .handleResponse message ∉ out.ops := by
  cases op with
  | handleResponse message =>
      obtain ⟨-, -, hnone | ⟨req, -, hops, -⟩⟩ := exec_handleResponse hexec
      · simp [hnone]
      · simp [hops]
  | _ => grind [exec]

omit hexec in
theorem RequestManager.done_cancel (req : RequestManager.PendingRequest) (ref : ℕ) :
    (rm.cancel req).done ref = (rm.done ref || decide (ref = req.ref)) := by
  by_cases heq : ref = req.ref <;> simp [RequestManager.cancel, heq]

theorem RequestOp.exec_done {ref : ℕ} (hdone : out.state.done ref = false) :
    rm.done ref = false := by
  cases op with
  | handleResponse message => grind [exec_handleResponse]
  | cancelRequest id =>
      rw [exec] at hexec
      split at hexec <;> cases hexec
      · exact hdone
      · exact (Bool.or_eq_false_iff.mp ((done_cancel _ ref).symm.trans hdone)).1
  | _ => grind [exec, remove, done_cancel]

end Exec

section Done

variable {M : Type*} {unmarshal : M → Option AgentResponse} {rm : RequestManager M}
  {choice : RequestChoice} {req : RequestManager.PendingRequest}
  {out : Outcome (RequestManager M) Unit (RequestOp M)}

theorem RequestOp.sent_or_cancelled
    (hexec : (sendMessage req).exec unmarshal rm () choice = some out) :
    choice = .ok ∨ .cancelRequest req.id ∈ out.ops := by
  grind [exec]

theorem RequestOp.done_or_delivered {message : M} {pending : List RequestManager.PendingRequest}
    (hexec : (offer message req pending).exec unmarshal rm () choice = some out) :
    rm.done req.ref = true ∨ ⟨message, req, pending⟩ ∈ out.state.deliveries := by
  grind [exec]

end Done

section Step

variable {reader : Reader} {asks : ℕ → Ask} {w w' : RequestWorld Fields} {sent : List HubRequest}
  {replies : List AgentResponse} {given : List (HubRequest × Agent)}

open Exchange

theorem Exchange.Answers.mono {given' : List (HubRequest × Agent)}
    {req : RequestManager.PendingRequest} {message : Fields}
    (h : Answers reader asks given req message) (hsub : given ⊆ given') :
    Answers reader asks given' req message := by
  obtain ⟨agent, response, hmem, hrest⟩ := h
  exact ⟨agent, response, hsub hmem, hrest⟩

theorem Exchange.Failed.mono {given' : List (HubRequest × Agent)}
    {req : RequestManager.PendingRequest} (h : Failed reader asks given req)
    (hsub : given ⊆ given') : Failed reader asks given' req := by
  obtain ⟨agent, error, hmem, hrest⟩ := h
  exact ⟨agent, error, hsub hmem, hrest⟩

/-- The response that answers a request carries its id. -/
theorem Exchange.Answers.responseID_eq (hlawful : ReadsIds reader)
    {req : RequestManager.PendingRequest} {message : Fields}
    (h : Answers reader asks given req message) :
    responseID (AgentResponse.decode reader) message = some req.id := by
  obtain ⟨agent, response, -, hok, hresponses, rfl⟩ := h
  rcases settles_react reader agent (hubRequest asks req)
    with ⟨error, herror, -⟩ | ⟨data, -, hone⟩
  · rw [herror] at hok
    cases hok
  · obtain rfl : response = newAgentResponse agent data (hubRequest asks req).id := by
      simpa [hresponses] using hone
    rw [responseID, AgentResponse.decode_encode hlawful rfl]
    rfl

section UnderWay

variable {req : RequestManager.PendingRequest}

theorem UnderWay.request (hsent : hubRequest asks req ∈ sent) :
    UnderWay reader asks w sent replies given req :=
  Or.inr (Or.inr (Or.inl hsent))

theorem UnderWay.failed (hfailed : Failed reader asks given req) :
    UnderWay reader asks w sent replies given req :=
  Or.inr (Or.inr (Or.inr (Or.inl hfailed)))

theorem UnderWay.reply {response : AgentResponse} (hresponse : response ∈ replies)
    (hanswers : Answers reader asks given req response.encode) :
    UnderWay reader asks w sent replies given req :=
  Or.inr (Or.inr (Or.inr (Or.inr (Or.inl ⟨response, hresponse, hanswers⟩))))

theorem UnderWay.read {message : Fields} (hanswers : Answers reader asks given req message)
    (hop : .handleResponse message ∈ w.todo ∨ ∃ pending, .offer message req pending ∈ w.todo) :
    UnderWay reader asks w sent replies given req :=
  Or.inr (Or.inr (Or.inr (Or.inr (Or.inr ⟨message, hanswers, hop⟩))))

theorem UnderWay.of_todo (h : UnderWay reader asks w sent replies given req)
    (htodo : ∀ op ∈ w.todo, op ∈ w'.todo) : UnderWay reader asks w' sent replies given req := by
  rcases h with hop | hop | hsent | hfailed | ⟨response, hresponse, hanswers⟩ |
    ⟨message, hanswers, hop | ⟨pending, hop⟩⟩
  · exact Or.inl (htodo _ hop)
  · exact Or.inr (Or.inl (htodo _ hop))
  · exact .request hsent
  · exact .failed hfailed
  · exact .reply hresponse hanswers
  · exact .read hanswers (Or.inl (htodo _ hop))
  · exact .read hanswers (Or.inr ⟨pending, htodo _ hop⟩)

/-- The first response is being handled. -/
theorem UnderWay.tail {response : AgentResponse}
    (h : UnderWay reader asks w sent (response :: replies) given req)
    (hop : .handleResponse response.encode ∈ w.todo) :
    UnderWay reader asks w sent replies given req := by
  rcases h with hsend | hcancel | hsent | hfailed | ⟨other, hother, hanswers⟩ |
    ⟨message, hanswers, hread⟩
  · exact Or.inl hsend
  · exact Or.inr (Or.inl hcancel)
  · exact .request hsent
  · exact .failed hfailed
  · rcases List.mem_cons.mp hother with rfl | hrest
    · exact .read hanswers (Or.inl hop)
    · exact .reply hrest hanswers
  · exact .read hanswers hread

end UnderWay

theorem ExchangeInv.of_frame (h : ExchangeInv reader asks w sent replies given)
    (hinv : RequestInv (AgentResponse.decode reader) w') (hids : IdInv w')
    (hpending : ∀ req ∈ w'.state.pending, req ∈ w.state.pending)
    (hrequests : w'.state.requests = w.state.requests)
    (hdeliveries : w'.state.deliveries = w.state.deliveries)
    (hdone : ∀ ref, w'.state.done ref = false → w.state.done ref = false)
    (htodo : ∀ op ∈ w.todo, op ∈ w'.todo)
    (hnew : ∀ op ∈ w'.todo, op ∈ w.todo ∨ op = .sendRequest)
    (hsends : w'.todo.filterMap RequestOp.sends = w.todo.filterMap RequestOp.sends) :
    ExchangeInv reader asks w' sent replies given := by
  constructor
  case requests => exact hinv
  case ids => exact hids
  case asked => exact hrequests ▸ h.asked
  case handled => exact hrequests ▸ h.handled
  case once => exact hsends ▸ hrequests ▸ h.once
  case answers => exact hrequests ▸ h.answers
  case handling =>
    intro message hop
    rcases hnew _ hop with hold | heq
    · exact hrequests ▸ h.handling message hold
    · cases heq
  case offering =>
    intro message req pending hop
    rcases hnew _ hop with hold | heq
    · exact h.offering message req pending hold
    · cases heq
  case delivered => exact hdeliveries ▸ h.delivered
  case waiting =>
    intro req hreq hundone hnone
    exact (h.waiting req (hpending req hreq) (hdone _ hundone) (hdeliveries ▸ hnone)).of_todo htodo

/-- The hub reads a response. -/
theorem ExchangeInv.read {response : AgentResponse}
    (h : ExchangeInv reader asks w sent (response :: replies) given)
    (hinv : RequestInv (AgentResponse.decode reader)
      (w.spawn ⟨(), [.handleResponse response.encode]⟩))
    (hids : IdInv (w.spawn ⟨(), [.handleResponse response.encode]⟩)) :
    ExchangeInv reader asks (w.spawn ⟨(), [.handleResponse response.encode]⟩) sent replies
      given := by
  have htodo : ∀ op ∈ w.todo, op ∈ (w.spawn ⟨(), [.handleResponse response.encode]⟩).todo :=
    fun op hop => World.mem_todo_spawn.mpr (Or.inl hop)
  constructor
  case requests => exact hinv
  case ids => exact hids
  case asked => exact h.asked
  case handled => exact h.handled
  case once =>
    intro id
    rw [World.todo_spawn, List.filterMap_append]
    change List.count id (_ ++ []) + _ + _ ≤ _
    rw [List.append_nil]
    exact h.once id
  case answers => exact fun r hr => h.answers r (List.mem_cons_of_mem _ hr)
  case handling =>
    intro message hop
    rcases World.mem_todo_spawn.mp hop with hold | hnew
    · exact h.handling message hold
    · cases List.mem_singleton.mp hnew
      exact h.answers response List.mem_cons_self
  case offering =>
    intro message req pending hop
    rcases World.mem_todo_spawn.mp hop with hold | hnew
    · exact h.offering message req pending hold
    · cases List.mem_singleton.mp hnew
  case delivered => exact h.delivered
  case waiting =>
    intro req hreq hundone hnone
    exact ((h.waiting req hreq hundone hnone).of_todo htodo).tail
      (World.mem_todo_spawn.mpr (Or.inr List.mem_cons_self))

/-- The agent reads a request, and its handler fails or sends a response. -/
theorem ExchangeInv.react {request : HubRequest}
    (h : ExchangeInv reader asks w (request :: sent) replies given) (agent : Agent) :
    ExchangeInv reader asks w sent (replies ++ (agent.react reader request).2.responses)
      (given ++ [(request, agent)]) := by
  have hsub : given ⊆ given ++ [(request, agent)] := List.subset_append_left _ _
  have hlast : (request, agent) ∈ given ++ [(request, agent)] :=
    List.mem_append_right _ List.mem_cons_self
  obtain ⟨req, hreq, rfl⟩ := h.asked request List.mem_cons_self
  constructor
  case requests => exact h.requests
  case ids => exact h.ids
  case asked => exact fun r hr => h.asked r (List.mem_cons_of_mem _ hr)
  case handled =>
    intro entry hentry
    rcases List.mem_append.mp hentry with hold | hnew
    · exact h.handled entry hold
    · cases List.mem_singleton.mp hnew
      exact ⟨req, hreq, rfl⟩
  case once =>
    intro id
    have honce := h.once id
    rw [List.map_cons, List.count_cons] at honce
    rw [List.map_append, List.count_append, List.map_singleton, List.count_singleton]
    dsimp only
    omega
  case answers =>
    intro response hresponse
    rcases List.mem_append.mp hresponse with hold | hnew
    · obtain ⟨req', hreq', hanswers⟩ := h.answers response hold
      exact ⟨req', hreq', hanswers.mono hsub⟩
    · refine ⟨req, hreq, agent, response, hlast, ?_⟩
      rcases settles_react reader agent (hubRequest asks req)
        with ⟨error, -, hnone⟩ | ⟨data, hok, hone⟩
      · rw [hnone] at hnew
        cases hnew
      · rw [hone] at hnew
        obtain rfl := List.mem_singleton.mp hnew
        exact ⟨hok, hone, rfl⟩
  case handling =>
    intro message hop
    obtain ⟨req', hreq', hanswers⟩ := h.handling message hop
    exact ⟨req', hreq', hanswers.mono hsub⟩
  case offering =>
    exact fun message req' pending hop => (h.offering message req' pending hop).mono hsub
  case delivered => exact fun d hd => (h.delivered d hd).mono hsub
  case waiting =>
    intro req' hreq' hundone hnone
    rcases h.waiting req' hreq' hundone hnone with hop | hop | hsent | hfailed | hreply | hread
    · exact Or.inl hop
    · exact Or.inr (Or.inl hop)
    · rcases List.mem_cons.mp hsent with heq | hrest
      · rcases settles_react reader agent (hubRequest asks req)
          with ⟨error, herror, hempty⟩ | ⟨data, hok, hone⟩
        · exact .failed ⟨agent, error, heq ▸ hlast, heq ▸ herror, heq ▸ hempty⟩
        · refine .reply (List.mem_append_right _ (hone ▸ List.mem_cons_self)) ?_
          exact ⟨agent, _, heq ▸ hlast, heq ▸ hok, heq ▸ hone, rfl⟩
      · exact .request hrest
    · exact .failed (hfailed.mono hsub)
    · obtain ⟨response, hresponse, hanswers⟩ := hreply
      exact .reply (List.mem_append_left _ hresponse) (hanswers.mono hsub)
    · obtain ⟨message, hanswers, hop⟩ := hread
      exact .read (hanswers.mono hsub) hop

/-! The request manager takes a turn. -/

section Run

variable (hlawful : ReadsIds reader) (h : ExchangeInv reader asks w sent replies given) {i : ℕ}
  {choice : RequestChoice} (turn : Turn (RequestOp.exec (AgentResponse.decode reader)) w i choice)
include h

theorem ExchangeInv.once_run (id : Uint32) :
    (turn.next.todo.filterMap RequestOp.sends).count id
        + ((sent ++ turn.op.writes asks choice).map (·.id)).count (some id)
        + (given.map (·.1.id)).count (some id)
      ≤ (turn.out.state.requests.map (·.id)).count id := by
  have honce := h.once id
  have hexec := RequestOp.exec_sends turn.exec id
  have hcount := turn.count_todo RequestOp.sends id
  rw [RequestOp.filterMap_sends_spawned turn.exec, List.count_nil] at hcount
  have hwrites : ((turn.op.writes asks choice).map (·.id)).count (some id)
      ≤ if turn.op.sends = some id then 1 else 0 := by
    cases turn.op with
    | sendMessage req =>
        by_cases hok : choice = .ok
        · simp [RequestOp.writes, RequestOp.sends, hubRequest, hok, List.count_singleton]
        · simp [RequestOp.writes, hok]
    | _ => simp [RequestOp.writes]
  rw [List.map_append, List.count_append]
  omega

include hlawful

theorem ExchangeInv.offering_run {message : Fields} {req : RequestManager.PendingRequest}
    {pending : List RequestManager.PendingRequest}
    (hop : .offer message req pending ∈ turn.next.todo) :
    Answers reader asks given req message := by
  rcases turn.mem_todo_next hop with hold | hpushed | ⟨thread, hspawned, hmem⟩
  · exact h.offering message req pending hold
  · obtain ⟨hhandle, hpending, hrouted⟩ := RequestOp.of_offer_pushed turn.exec hpushed
    obtain ⟨req', hreq', hanswers⟩ := h.handling message (hhandle ▸ turn.op_mem_todo)
    have hid : req.id = req'.id :=
      (hrouted h.requests.known).byID req'.id (hanswers.responseID_eq hlawful)
    obtain rfl := h.ids.eq_of_id (h.requests.pending req hpending) hreq' hid
    exact hanswers
  · obtain ⟨_, heq⟩ :=
      RequestOp.of_spawned turn.exec (List.mem_flatMap.mpr ⟨thread, hspawned, hmem⟩)
    cases heq

omit hlawful in
theorem ExchangeInv.delivered_run {d : Delivery Fields} (hd : d ∈ turn.out.state.deliveries) :
    Answers reader asks given d.req d.message := by
  rcases RequestOp.exec_deliveries turn.exec with hsame | ⟨message, req, pending, hop, hnew, -⟩
  · exact h.delivered d (hsame ▸ hd)
  · rw [hnew] at hd
    rcases List.mem_cons.mp hd with rfl | hbefore
    · exact h.offering message req pending (hop ▸ turn.op_mem_todo)
    · exact h.delivered d hbefore

/-- A pending request is found under its id. -/
theorem ExchangeInv.exec_answer {req : RequestManager.PendingRequest}
    (hreq : req ∈ w.state.pending) {message : Fields}
    (hanswers : Answers reader asks given req message)
    (hop : turn.op = .handleResponse message) :
    .offer message req w.state.pending ∈ turn.out.ops := by
  have hid := hanswers.responseID_eq hlawful
  obtain ⟨id, hentry⟩ := mem_pending.mp hreq
  obtain rfl : req.id = id := h.requests.known _ hentry
  cases hfound : w.state.pendingReqs.lookup req.id with
  | none =>
      exact absurd (List.mem_map_of_mem hentry) (lookup_eq_none_iff_not_mem.mp hfound)
  | some found =>
      have hmem := mem_of_lookup hfound
      have hfoundPending := h.requests.pending found (mem_pending.mpr ⟨_, hmem⟩)
      obtain rfl : found = req := h.ids.eq_of_id hfoundPending (h.requests.pending req hreq)
        (h.requests.known _ hmem)
      have hout : turn.out = ⟨w.state, [.offer message found w.state.pending], []⟩ :=
        turn.out_eq hop (by simp [RequestOp.exec, hid, hfound])
      rw [hout]
      exact List.mem_cons_self

/-- A request that stays pending and is not given up is on its way after the turn, too. -/
theorem ExchangeInv.waiting_run {req : RequestManager.PendingRequest}
    (hreq : req ∈ turn.out.state.pending) (hundone : turn.out.state.done req.ref = false)
    (hnone : ∀ d ∈ turn.out.state.deliveries, d.req ≠ req) :
    UnderWay reader asks turn.next (sent ++ turn.op.writes asks choice) replies given req := by
  have hundone' := RequestOp.exec_done turn.exec hundone
  rcases h.requests.mem_pending_run turn hreq with ⟨hold, hcancel, -⟩ | ⟨-, -, hsend⟩
  · have hnone' : ∀ d ∈ w.state.deliveries, d.req ≠ req := by
      rcases RequestOp.exec_deliveries turn.exec with hsame | ⟨message, req', pending, -, hnew, -⟩
      · exact hsame ▸ hnone
      · exact fun d hd => hnone d (hnew ▸ List.mem_cons_of_mem _ hd)
    rcases h.waiting req hold hundone' hnone'
      with hop | hop | hsent | hfailed | ⟨response, hresponse, hanswers⟩ | ⟨message, hanswers, hop⟩
    · rcases turn.eq_or_mem_todo hop with heq | hstays
      · rcases RequestOp.sent_or_cancelled (heq ▸ turn.exec) with hok | hcancelled
        · exact .request (by simp [← heq, RequestOp.writes, hok])
        · exact Or.inr (Or.inl (turn.mem_todo_of_pushed hcancelled))
      · exact Or.inl hstays
    · exact Or.inr (Or.inl ((turn.eq_or_mem_todo hop).resolve_left (Ne.symm hcancel)))
    · exact .request (List.mem_append_left _ hsent)
    · exact .failed hfailed
    · exact .reply hresponse hanswers
    · refine .read hanswers ?_
      rcases hop with hop | ⟨pending, hop⟩
      · rcases turn.eq_or_mem_todo hop with heq | hstays
        · have hoffer := h.exec_answer hlawful turn hold hanswers heq.symm
          exact Or.inr ⟨_, turn.mem_todo_of_pushed hoffer⟩
        · exact Or.inl hstays
      · rcases turn.eq_or_mem_todo hop with heq | hstays
        · rcases RequestOp.done_or_delivered (heq ▸ turn.exec) with hdone | hdelivered
          · exact absurd (hundone'.symm.trans hdone) Bool.false_ne_true
          · exact absurd rfl (hnone _ hdelivered)
        · exact Or.inr ⟨pending, hstays⟩
  · exact Or.inl (turn.mem_todo_of_pushed hsend)

theorem ExchangeInv.run (hfew : w.state.calls < 2 ^ 32) :
    ExchangeInv reader asks turn.next (sent ++ turn.op.writes asks choice) replies given := by
  have hmono : ∀ req ∈ w.state.requests, req ∈ turn.out.state.requests := by
    intro req hreq
    rcases RequestOp.exec_requests turn.exec with hsame | ⟨_, _, -, hnew⟩
    · exact hsame ▸ hreq
    · exact hnew ▸ List.mem_append_left _ hreq
  constructor
  case requests => exact h.requests.run turn
  case ids => exact h.ids.run turn hfew
  case asked =>
    intro request hrequest
    rcases List.mem_append.mp hrequest with hold | hnew
    · obtain ⟨req, hreq, heq⟩ := h.asked request hold
      exact ⟨req, hmono req hreq, heq⟩
    · cases hop : turn.op with
      | sendMessage req =>
          have hmem := hop ▸ hnew
          rw [RequestOp.writes, List.mem_ite_nil_right] at hmem
          refine ⟨req, hmono req (h.requests.sending req (hop ▸ turn.op_mem_todo)), ?_⟩
          exact List.mem_singleton.mp hmem.2
      | _ => simp [hop, RequestOp.writes] at hnew
  case handled =>
    intro entry hentry
    obtain ⟨req, hreq, heq⟩ := h.handled entry hentry
    exact ⟨req, hmono req hreq, heq⟩
  case once => exact h.once_run turn
  case answers =>
    intro response hresponse
    obtain ⟨req, hreq, hanswers⟩ := h.answers response hresponse
    exact ⟨req, hmono req hreq, hanswers⟩
  case handling =>
    intro message hop
    rcases turn.mem_todo_next hop with hold | hpushed | ⟨thread, hspawned, hmem⟩
    · obtain ⟨req, hreq, hanswers⟩ := h.handling message hold
      exact ⟨req, hmono req hreq, hanswers⟩
    · exact absurd hpushed (RequestOp.not_handling_pushed turn.exec)
    · obtain ⟨_, heq⟩ :=
        RequestOp.of_spawned turn.exec (List.mem_flatMap.mpr ⟨thread, hspawned, hmem⟩)
      cases heq
  case offering => exact fun message req pending hop => h.offering_run hlawful turn hop
  case delivered => exact fun d hd => h.delivered_run turn hd
  case waiting => exact fun req hreq hundone hnone => h.waiting_run hlawful turn hreq hundone hnone

end Run

theorem written_run {i : ℕ} {choice : RequestChoice}
    (turn : Turn (RequestOp.exec (AgentResponse.decode reader)) w i choice) :
    (w.written asks (.run i choice)).filterMap Sent.own? = turn.op.writes asks choice := by
  have hop : (w.threads[i]?).bind (·.ops.head?) = some turn.op := by
    rw [turn.get, Option.bind_some, turn.ops, List.head?_cons]
  cases choice with
  | ok =>
      rw [RequestWorld.written, hop]
      cases turn.op <;> rfl
  | _ => cases turn.op <;> rfl

def Exchange.Inv (reader : Reader) (asks : ℕ → Ask) (x : Exchange) : Prop :=
  ExchangeInv reader asks x.hub (x.toAgent.filterMap Sent.own?) (x.toHub.filterMap Sent.own?)
    x.handled

theorem ExchangeInv.stepHub (hlawful : ReadsIds reader)
    (h : ExchangeInv reader asks w sent replies given) {e : RequestEvent Fields}
    (hstep : w.step (AgentResponse.decode reader) e = some w') (hfew : w.state.calls < 2 ^ 32)
    (he : ∀ message, e ≠ .message message) :
    ExchangeInv reader asks w' (sent ++ (w.written asks e).filterMap Sent.own?) replies given := by
  have hinv := h.requests.step hstep
  have hids := h.ids.step hstep hfew
  cases e with
  | message message => exact absurd rfl (he message)
  | run i choice =>
      obtain ⟨turn, rfl⟩ := Turn.exists_of_turn hstep
      rw [written_run turn]
      exact h.run hlawful turn hfew
  | sendRequest =>
      obtain rfl := Option.some.inj hstep
      change ExchangeInv reader asks _ (sent ++ []) replies given
      rw [List.append_nil]
      refine h.of_frame hinv hids (fun _ hreq => hreq) rfl rfl (fun _ hdone => hdone)
        (fun op hop => World.mem_todo_spawn.mpr (Or.inl hop)) (fun op hop => ?_) ?_
      · exact (World.mem_todo_spawn.mp hop).imp_right List.mem_singleton.mp
      · rw [World.todo_spawn, List.filterMap_append]
        exact List.append_nil _
  | contextDone ref =>
      obtain rfl := Option.some.inj hstep
      change ExchangeInv reader asks _ (sent ++ []) replies given
      rw [List.append_nil]
      refine h.of_frame hinv hids (fun _ hreq => hreq) rfl rfl (fun ref' hdone => ?_)
        (fun _ hop => hop) (fun _ hop => Or.inl hop) rfl
      by_contra hbefore
      by_cases heq : ref' = ref <;> simp_all
  | close =>
      obtain rfl := Option.some.inj hstep
      change ExchangeInv reader asks _ (sent ++ []) replies given
      rw [List.append_nil]
      refine h.of_frame hinv hids (fun _ hreq => ?_) rfl rfl
        (fun ref hdone => (Bool.or_eq_false_iff.mp hdone).1) (fun _ hop => hop)
        (fun _ hop => Or.inl hop) rfl
      cases hreq
  | elapse duration =>
      obtain rfl := Option.some.inj hstep
      change ExchangeInv reader asks _ (sent ++ []) replies given
      rw [List.append_nil]
      exact h.of_frame hinv hids (fun _ hreq => hreq) rfl rfl (fun _ hdone => hdone)
        (fun _ hop => hop) (fun _ hop => Or.inl hop) rfl

/-! What each end makes of the message it reads. -/

section Read

variable (hlawful : ReadsIds reader) {x : Exchange}
include hlawful

theorem Exchange.onMessage_frame (agent : Agent) {msg : SSHStreamMessage}
    {rest : List (Sent HubRequest)} (hnext : x.toAgent = .frame msg :: rest) :
    x.step reader asks (.onMessage agent) = some { x with toAgent := rest } := by
  have hframe : onHubRequest reader agent (streamRequest msg).encode = none := by
    simp [onHubRequest, HubRequest.decode_encode hlawful, streamRequest]
  rw [Exchange.step, hnext]
  simp only [Sent.encode, hframe]

theorem Exchange.onMessage_own (agent : Agent) {request : HubRequest}
    {rest : List (Sent HubRequest)} (hnext : x.toAgent = .own request :: rest)
    (haction : request.action ≠ sshStream) :
    x.step reader asks (.onMessage agent) = some
      { x with
        toAgent := rest
        toHub := x.toHub ++ (agent.react reader request).2.responses.map .own
        handled := x.handled ++ [(request, agent)] } := by
  have hhandled : onHubRequest reader agent request.encode
      = some (agent.react reader request) := by
    simp [onHubRequest, HubRequest.decode_encode hlawful, haction, Agent.react]
  rw [Exchange.step, hnext]
  simp only [Sent.encode, hhandled]
  rfl

theorem Exchange.receive_frame {msg : SSHStreamMessage} {rest : List (Sent AgentResponse)}
    (hnext : x.toHub = .frame msg :: rest) (hclear : x.toldApart reader = true) :
    x.step reader asks .receive = some { x with toHub := rest } := by
  have hhandler : x.streamHandler = true := by simpa [toldApart, hnext] using hclear
  rw [Exchange.step, hnext]
  simp [Sent.encode, hhandler, streamHandler_frame msg hlawful.toLawful]

omit hlawful in
theorem Exchange.receive_own {response : AgentResponse} {rest : List (Sent AgentResponse)}
    (hnext : x.toHub = .own response :: rest) (hclear : x.toldApart reader = true) :
    x.step reader asks .receive
      = ({ x with toHub := rest } : Exchange).stepHub reader asks (.message response.encode) := by
  have hrefused : (x.streamHandler && (Picket.streamHandler reader response.encode).isSome)
      = false := by
    rw [toldApart, hnext] at hclear
    cases hhandler : x.streamHandler <;> simp_all
  rw [Exchange.step, hnext]
  simp only [Sent.encode, hrefused, Bool.false_eq_true, if_false]

end Read

theorem Exchange.Inv.onMessage {x x' : Exchange} {agent : Agent} (hlawful : ReadsIds reader)
    (h : x.Inv reader asks) (hstep : x.step reader asks (.onMessage agent) = some x') :
    x'.Inv reader asks := by
  cases hnext : x.toAgent with
  | nil =>
      rw [Exchange.step, hnext] at hstep
      cases hstep
  | cons message rest =>
      rw [Exchange.Inv, hnext] at h
      cases message with
      | frame msg =>
          rw [onMessage_frame hlawful agent hnext] at hstep
          obtain rfl := Option.some.inj hstep
          exact h
      | own request =>
          obtain ⟨req, -, hrequest⟩ := ExchangeInv.asked h request List.mem_cons_self
          rw [onMessage_own hlawful agent hnext (hrequest ▸ (asks req.ref).notStream)] at hstep
          obtain rfl := Option.some.inj hstep
          rw [Exchange.Inv, List.filterMap_append, List.filterMap_map]
          have hreact := ExchangeInv.react h agent
          rwa [← List.filterMap_some (l := (agent.react reader request).2.responses)] at hreact

theorem Exchange.Inv.receive {x x' : Exchange} (hlawful : ReadsIds reader)
    (h : x.Inv reader asks) (hfew : x.hub.state.calls < 2 ^ 32)
    (hclear : x.toldApart reader = true) (hstep : x.step reader asks .receive = some x') :
    x'.Inv reader asks := by
  cases hnext : x.toHub with
  | nil =>
      rw [Exchange.step, hnext] at hstep
      cases hstep
  | cons message rest =>
      rw [Exchange.Inv, hnext] at h
      cases message with
      | frame msg =>
          rw [receive_frame hlawful hnext hclear] at hstep
          obtain rfl := Option.some.inj hstep
          exact h
      | own response =>
          rw [receive_own hnext hclear] at hstep
          obtain ⟨hub, hhub, rfl⟩ := Option.map_eq_some_iff.mp hstep
          have hinv := (ExchangeInv.requests h).step hhub
          have hids := (ExchangeInv.ids h).step hhub hfew
          rw [RequestWorld.step, Option.ite_none_left_eq_some] at hhub
          obtain rfl := Option.some.inj hhub.2
          rw [Exchange.Inv, RequestWorld.written, List.append_nil]
          · exact ExchangeInv.read h hinv hids
          · intro i heq
            cases heq

theorem Exchange.Inv.step {x x' : Exchange} {e : ExchangeEvent} (hlawful : ReadsIds reader)
    (h : x.Inv reader asks) (hguard : Guard reader x e)
    (hstep : x.step reader asks e = some x') : x'.Inv reader asks := by
  obtain ⟨hfew, hread⟩ := hguard
  cases e with
  | hub e =>
      have hhub : x.stepHub reader asks e = some x' ∧ ∀ message, e ≠ .message message := by
        cases e with
        | message message => cases hstep
        | _ => exact ⟨hstep, by rintro _ ⟨⟩⟩
      obtain ⟨hub, hnext, rfl⟩ := Option.map_eq_some_iff.mp hhub.1
      rw [Exchange.Inv, List.filterMap_append]
      exact ExchangeInv.stepHub hlawful h hnext hfew hhub.2
  | setStreamHandler =>
      obtain rfl := Option.some.inj hstep
      exact h
  | sendStream msg =>
      obtain rfl := Option.some.inj hstep
      rw [Exchange.Inv, List.filterMap_append]
      exact (List.append_nil _).symm ▸ h
  | sendSSHStream msg =>
      obtain rfl := Option.some.inj hstep
      rw [Exchange.Inv, List.filterMap_append]
      exact (List.append_nil _).symm ▸ h
  | onMessage agent => exact h.onMessage hlawful hstep
  | receive => exact h.receive hlawful hfew (hread rfl) hstep

theorem Exchange.inv_init : ({} : Exchange).Inv reader asks := by
  constructor
  case requests => exact requestInv_init _
  case ids => exact idInv_init
  all_goals simp [RequestWorld.init, World.todo, RequestManager.pending]

/-- Who is left pending on a quiet connection is not on the way any more. -/
theorem Exchange.Inv.settled {x : Exchange} (h : x.Inv reader asks) (hquiet : x.Quiet)
    {req : RequestManager.PendingRequest} (hreq : req ∈ x.hub.state.pending) :
    Failed reader asks x.handled req := by
  obtain ⟨hrest, htoAgent, htoHub⟩ := hquiet
  obtain ⟨hdone, hnone, -⟩ := (ExchangeInv.requests h).cleared hrest hreq
  rw [Exchange.Inv, htoAgent, htoHub] at h
  rcases ExchangeInv.waiting h req hreq hdone hnone
    with hop | hop | hsent | hfailed | ⟨_, hreply, -⟩ | ⟨_, -, hop | ⟨_, hop⟩⟩
  · exact (hrest _ hop).elim
  · exact (hrest _ hop).elim
  · cases hsent
  · exact hfailed
  · cases hreply
  · exact (hrest _ hop).elim
  · exact (hrest _ hop).elim

theorem Exchange.Inv.handledOnce {x : Exchange} (h : x.Inv reader asks) :
    (x.handled.map (·.1.id)).Nodup := by
  rw [List.nodup_iff_count_le_one]
  rintro (_ | id)
  · refine (List.count_eq_zero_of_not_mem fun hmem => ?_).le.trans (Nat.zero_le 1)
    obtain ⟨entry, hentry, hid⟩ := List.mem_map.mp hmem
    obtain ⟨req, -, hreq⟩ := ExchangeInv.handled h entry hentry
    rw [hreq] at hid
    cases hid
  · have honce := ExchangeInv.once h id
    have hdistinct := List.nodup_iff_count_le_one.mp (ExchangeInv.ids h).nodup id
    omega

end Step

/-- **Requests get their own answers.** In every run of a connection in which the hub tells
responses and frames apart as it reads them, and with fewer than `2 ^ 32` requests. -/
theorem exchange_correct {reader : Reader} {asks : ℕ → Ask} {x : Exchange}
    {events : List ExchangeEvent} (hlawful : ReadsIds reader)
    (hrun : Guarded (Exchange.step reader asks) (Exchange.Guard reader) {} events x) :
    x.Correct reader asks := by
  have hinv : x.Inv reader asks := hrun.invariant
    (fun _ _ _ h hguard hstep => h.step hlawful hguard hstep) Exchange.inv_init
  have hrequests := ExchangeInv.requests hinv
  constructor
  case asked => exact ExchangeInv.handled hinv
  case handledOnce => exact hinv.handledOnce
  case answered => exact ExchangeInv.delivered hinv
  case deliveredOnce => exact hrequests.once
  case settled => exact fun hquiet req hreq => hinv.settled hquiet hreq

theorem plainReader_readsIds : ReadsIds plainReader where
  toLawful := plainReader_lawful
  uint32Ptr_val id := dif_pos id.isLt

/-- The logs of a container, then data. -/
def logsAndData (ref : ℕ) : Ask :=
  if ref = 0 then ⟨getContainerLogs, some (.map [(0, .text "0123456789ab")]), by decide⟩
  else ⟨getData, none, by decide⟩

def sendFrom (i : ℕ) : List ExchangeEvent :=
  .hub .sendRequest :: List.replicate 5 (.hub (.run i .ok))

/-- The agent fails on the first request and answers the second, with frames in between. -/
def missingContainer : List ExchangeEvent :=
  sendFrom 0 ++ sendFrom 2
    ++ [.setStreamHandler, .sendStream { streamID := 1, type := 0 }, .onMessage hostWithDocker,
      .onMessage hostWithDocker, .onMessage hostWithDocker,
      .sendSSHStream { streamID := 1, type := 1 }, .receive]
    ++ List.replicate 3 (.hub (.run 4 .ok))
    ++ [.receive, .hub (.run 2 .ok), .hub (.run 2 .ok), .hub (.run 3 .ok), .hub (.run 3 .ok)]

theorem exchange_missingContainer :
    ∃ x, Guarded (Exchange.step plainReader logsAndData) (Exchange.Guard plainReader) {}
        missingContainer x ∧ x.hub.state.deliveries.map (·.req.id) = [2] ∧
      x.hub.state.pending.map (·.id) = [1] ∧ x.Correct plainReader logsAndData := by
  have hone : (check (Exchange.step plainReader logsAndData) (Exchange.Guard plainReader) {}
      missingContainer).map (fun x =>
        (x.hub.state.deliveries.map (·.req.id), x.hub.state.pending.map (·.id)))
      = some ([2], [1]) := by decide +kernel
  obtain ⟨x, hcheck, hstate⟩ := Option.map_eq_some_iff.mp hone
  obtain ⟨hdeliveries, hpending⟩ := Prod.mk.inj hstate
  have hrun := guarded_of_check hcheck
  exact ⟨x, hrun, hdeliveries, hpending, exchange_correct plainReader_readsIds hrun⟩

end Picket
