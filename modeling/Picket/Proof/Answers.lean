import Picket.AgentHandlers
import Picket.Proof.Demux

/-!
# Which requests are answered

A handler sends its response as the last thing it does, and `newAgentResponse` leaves the error of a
response empty. So a request is answered when nothing fails before that, and when the result can be
encoded; an error ends in the log.
-/

namespace Picket

open Cbor

/-- One response with the id of the request: with data if the handler succeeded, else with an
error. -/
def Answered (id : Uint32) (outcome : Except HandlerError Unit × Reaction) : Prop :=
  ∃ response, outcome.2.responses = [response] ∧ response.id = some id ∧
    match outcome.1 with
    | .ok _ => response.data.isSome
    | .error _ => response.error ≠ ""

namespace Agent

variable (reader : Reader) (agent : Agent)

def Encodes (data : Payload) : Prop :=
  (agent.marshal data).isSome

/-- There is no Docker, or the payload names a container that Docker answers for. -/
def ServesContainer (get : DockerManager → String → Except HandlerError String)
    (request : HubRequest) : Prop :=
  match agent.dockerManager with
  | none => agent.Encodes (.text "")
  | some docker =>
      ∃ containerID content, unmarshalContainerID reader request.data = .ok containerID ∧
        get docker containerID = .ok content ∧ agent.Encodes (.text content)

def ServesUninstall : Prop :=
  if agent.euid ≠ 0 then agent.Encodes (.uninstall notRoot)
  else if !agent.systemd then agent.Encodes (.uninstall noSystemd)
  else agent.Encodes (.uninstall uninstallScheduled)

/-- The action is a known one, nothing it needs fails, and its result can be encoded. -/
def Serves (request : HubRequest) : Prop :=
  (request.action = getData ∧
      agent.Encodes (.stats (agent.gatherStats (agent.unmarshalOptions request.data)))) ∨
    (request.action = getContainerLogs ∧
      agent.ServesContainer reader DockerManager.getLogs request) ∨
    (request.action = getContainerInfo ∧
      agent.ServesContainer reader DockerManager.getContainerInfo request) ∨
    (request.action = uninstallAgent ∧ agent.ServesUninstall)

end Agent

section Handlers

variable {reader : Reader} {agent : Agent} {id : Uint32}

theorem answered_sendResponse (data : Payload) :
    Answered id ((sendResponse agent data (some id)).run.run {}) ↔ agent.Encodes data := by
  constructor
  · rintro ⟨response, hresponses, -, hdata⟩
    cases hresponses
    exact hdata
  · exact fun hencodes => ⟨newAgentResponse agent data (some id), rfl, rfl, hencodes⟩

theorem not_answered_throw (e : HandlerError) :
    ¬ Answered id ((throw e : Handling Unit).run.run {}) := by
  rintro ⟨response, hresponses, -⟩
  cases hresponses

theorem answered_handleContainer (get : DockerManager → String → Except HandlerError String)
    (request : HubRequest) :
    Answered id ((handleContainer reader agent get request (some id)).run.run {})
      ↔ agent.ServesContainer reader get request := by
  unfold handleContainer Agent.ServesContainer
  cases agent.dockerManager with
  | none => exact answered_sendResponse _
  | some docker =>
      cases hid : unmarshalContainerID reader request.data with
      | error e =>
          simp only [reduceCtorEq, false_and, exists_false, iff_false]
          exact not_answered_throw e
      | ok containerID =>
          change Answered id ((do
              let content ← get docker containerID
              sendResponse agent (.text content) (some id) : Handling Unit).run.run {})
            ↔ ∃ containerID' content, Except.ok containerID = Except.ok containerID' ∧
              get docker containerID' = .ok content ∧ agent.Encodes (.text content)
          cases hcontent : get docker containerID with
          | error e =>
              constructor
              · exact fun hanswered => absurd hanswered (not_answered_throw e)
              · rintro ⟨containerID', content, hid, hget, -⟩
                obtain rfl := Except.ok.inj hid
                rw [hcontent] at hget
                cases hget
          | ok content =>
              refine (answered_sendResponse (.text content)).trans ⟨fun hencodes => ?_, ?_⟩
              · exact ⟨containerID, content, rfl, hcontent, hencodes⟩
              · rintro ⟨containerID', content', hid, hget, hencodes⟩
                obtain rfl := Except.ok.inj hid
                obtain rfl := Except.ok.inj (hcontent.symm.trans hget)
                exact hencodes

theorem answered_uninstallAgent :
    Answered id ((UninstallAgentHandler.handle agent (some id)).run.run {})
      ↔ agent.ServesUninstall := by
  unfold UninstallAgentHandler.handle Agent.ServesUninstall
  split
  · exact answered_sendResponse _
  · split
    · exact answered_sendResponse _
    · constructor
      · rintro ⟨response, hresponses, -, hdata⟩
        cases hresponses
        exact hdata
      · exact fun hencodes => ⟨newAgentResponse agent _ (some id), rfl, rfl, hencodes⟩

theorem lookup_newHandlerRegistry (action : Uint8) : newHandlerRegistry.lookup action
    = if action = uninstallAgent then some .uninstallAgent
      else if action = getContainerInfo then some .getContainerInfo
      else if action = getContainerLogs then some .getContainerLogs
      else if action = getData then some .getData else none := by
  simp only [newHandlerRegistry, AssocList.lookup_insert, List.lookup_nil]

theorem answered_handleHubRequest (request : HubRequest) :
    Answered id ((handleHubRequest reader agent request (some id)).run.run {})
      ↔ agent.Serves reader request := by
  unfold handleHubRequest Agent.Serves
  rw [lookup_newHandlerRegistry]
  have hdistinct : getData ≠ getContainerLogs ∧ getData ≠ getContainerInfo ∧
      getData ≠ uninstallAgent ∧ getContainerLogs ≠ getContainerInfo ∧
      getContainerLogs ≠ uninstallAgent ∧ getContainerInfo ≠ uninstallAgent := by decide
  by_cases hdata : request.action = getData
  · simp only [hdata, hdistinct, if_true, if_false, true_and, false_and, or_false]
    exact answered_sendResponse _
  by_cases hlogs : request.action = getContainerLogs
  · simp only [hlogs, hdistinct, hdistinct.1.symm, if_true, if_false, true_and, false_and, or_false,
      false_or]
    exact answered_handleContainer _ request
  by_cases hinfo : request.action = getContainerInfo
  · simp only [hinfo, hdistinct, hdistinct.2.1.symm, hdistinct.2.2.2.1.symm, if_true, if_false,
      true_and, false_and, or_false, false_or]
    exact answered_handleContainer _ request
  by_cases huninstall : request.action = uninstallAgent
  · simp only [huninstall, hdistinct.2.2.1.symm, hdistinct.2.2.2.2.1.symm,
      hdistinct.2.2.2.2.2.symm, if_true, true_and, false_and, false_or]
    exact answered_uninstallAgent
  · simp only [hdata, hlogs, hinfo, huninstall, if_false, false_and, or_false, iff_false]
    exact not_answered_throw _

end Handlers

/-- **Which requests are answered.** A request with an id is answered, with data or with an error,
just when its action is known, what the handler needs does not fail, and the result can be encoded:
errors are never sent. -/
theorem answered_iff (reader : Reader) (agent : Agent) {message : Fields} {request : HubRequest}
    {id : Uint32} (hdecode : HubRequest.decode reader message = some request)
    (hid : request.id = some id) (haction : request.action ≠ sshStream) :
    (∃ outcome, onHubRequest reader agent message = some outcome ∧ Answered id outcome)
      ↔ agent.Serves reader request := by
  unfold onHubRequest
  simp only [hdecode, if_neg haction, hid, Option.some.injEq, exists_eq_left']
  exact answered_handleHubRequest request

/-- An agent on a host with Docker, whose containers are all gone. -/
def hostWithDocker : Agent where
  dockerManager := some
    { logs := fun _ => .error "logs request failed: 404 Not Found"
      info := fun _ => .error "container info request failed: 404 Not Found" }
  gatherStats := fun _ => {}
  unmarshalOptions := fun _ => ⟨0, false⟩
  marshal
    | .text s => some (.text s)
    | .stats _ => some (.map [])
    | .uninstall response => some (.map [(0, .bool response.uninstalled)])
  euid := 0
  systemd := true

def containerRequest (action : Uint8) : HubRequest where
  action := action
  data := some (.map [(0, .text "0123456789ab")])
  id := some 7

theorem answered_withoutDocker :
    ∃ outcome, onHubRequest plainReader { hostWithDocker with dockerManager := none }
        (containerRequest getContainerLogs).encode = some outcome ∧ Answered 7 outcome :=
  (answered_iff plainReader { hostWithDocker with dockerManager := none } rfl rfl (by decide)).mpr
    (Or.inr (Or.inl ⟨rfl, rfl⟩))

/-- The logs of a container that is gone: nothing is sent. Nor is it for an action without a
handler. -/
theorem not_answered_missingContainer :
    (∃ outcome, onHubRequest plainReader hostWithDocker
        (containerRequest getContainerLogs).encode = some outcome ∧
      outcome.2.responses = [] ∧ ¬ Answered 7 outcome) ∧
    (∃ outcome, onHubRequest plainReader hostWithDocker (containerRequest 9).encode = some outcome ∧
      outcome.2.responses = [] ∧ ¬ Answered 7 outcome) := by
  refine ⟨⟨_, rfl, rfl, ?_⟩, ⟨_, rfl, rfl, ?_⟩⟩ <;>
  · rintro ⟨response, hresponses, -⟩
    cases hresponses

end Picket
