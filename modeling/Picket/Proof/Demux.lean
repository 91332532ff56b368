import Picket.Demux
import Picket.Proof.Routing

/-!
# Demultiplexing agent messages

Nothing on the wire says whether a message of an agent is a response or a frame. The two theorems
here say when `OnMessage` tells them apart: a response is mistaken for a frame when its request id
is the number of the SSH action and its data could be a request id, and a frame is mistaken for a
response while no stream handler is installed.
-/

namespace Picket

open Cbor RequestManager

inductive AgentMessage where
  | response (response : AgentResponse)
  | frame (msg : SSHStreamMessage)

section Demux

variable (reader : Reader) (conn : WsConn)

/-- A response reaches `handleResponse`, and a frame completes no request, whichever ready branch a
`select` picks. -/
def Demultiplexed : AgentMessage → Prop
  | .response r => ∀ deliver, ∃ completed,
      onMessage reader conn r.encode deliver = .response completed
  | .frame msg => ∀ deliver reqID,
      onMessage reader conn (streamRequest msg).encode deliver ≠ .response (some reqID)

/-- The data of a response, if any, can be read as a request id. -/
def AgentResponse.dataIsId (r : AgentResponse) : Prop :=
  ∀ item, r.data = some item → (reader.uint32Ptr item).isSome

/-- When a message is told apart: a response unless a stream handler is installed, its id is the
number of the SSH action and its data could be an id; a frame once a handler is installed, or while
nothing is pending. -/
def ToldApart : AgentMessage → Prop
  | .response r =>
      ¬ (conn.streamHandler ∧ r.id = some 4 ∧ r.dataIsId reader)
  | .frame _ => conn.streamHandler ∨ conn.requestManager.pendingReqs = []

end Demux

/-! ### Responses -/

section Response

variable (r : AgentResponse)

theorem lookup_id : r.encode.lookup 0 = r.id.map fun id => .uint id.val := by
  unfold AgentResponse.encode
  cases r.id <;> cases r.data <;> split <;> rfl

theorem lookup_data : r.encode.lookup 2 = r.data := by
  unfold AgentResponse.encode
  cases r.id <;> cases r.data <;> split <;> rfl

variable {reader : Reader} (hlawful : reader.Lawful)
include hlawful

theorem readAction : readField reader.uint8 0 0 r.encode = some sshStream ↔ r.id = some 4 := by
  unfold readField
  rw [lookup_id]
  cases hid : r.id with
  | none => simp [sshStream]
  | some id =>
      by_cases hrange : id.val < 2 ^ 8
      · have hread := hlawful.uint8_val ⟨id.val, hrange⟩
        simp only [Option.map_some, Option.elim_some, hread, Option.some.injEq, Fin.ext_iff]
        rfl
      · have hread := hlawful.uint8_out id.val (Nat.le_of_not_lt hrange)
        have hne : id ≠ 4 := by
          rintro rfl
          exact hrange (by decide)
        simp [hread, hne]

theorem streamHandler_response :
    (streamHandler reader r.encode).isSome ↔ r.id = some 4 ∧ r.dataIsId reader := by
  have haction := readAction r hlawful
  have hdata : (readField reader.uint32Ptr none 2 r.encode).isSome ↔ r.dataIsId reader := by
    unfold readField AgentResponse.dataIsId
    rw [lookup_data]
    cases r.data <;> simp
  have herror : ∃ data, readField (fun item => some (some item)) none 1 r.encode = some data := by
    unfold readField
    cases r.encode.lookup 1 <;> simp
  obtain ⟨error, herror⟩ := herror
  rw [← haction, ← hdata]
  unfold streamHandler HubRequest.decode
  cases readField reader.uint8 0 0 r.encode with
  | none => simp
  | some action =>
      cases readField reader.uint32Ptr none 2 r.encode with
      | none => simp [herror]
      | some id => by_cases h : action = sshStream <;> simp [herror, h]

theorem demultiplexed_response (conn : WsConn) :
    Demultiplexed reader conn (.response r) ↔ ToldApart reader conn (.response r) := by
  have hhandler := streamHandler_response r hlawful
  simp only [Demultiplexed, ToldApart, onMessage]
  rw [← hhandler]
  by_cases hinstalled : conn.streamHandler = true
  · simp only [hinstalled, if_true, true_and]
    cases streamHandler reader r.encode <;> simp
  · simp [hinstalled]

end Response

/-! ### Frames -/

/-- A message without a request's id completes the oldest, if any is pending. -/
theorem handleResponse_eq_none_iff (conn : WsConn) {message : Fields}
    (hlegacy : AgentResponse.decode reader message = none) :
    (∀ deliver reqID, handleResponse reader conn message deliver ≠ some reqID) ↔
      conn.requestManager.pendingReqs = [] := by
  have hid : responseID (AgentResponse.decode reader) message = none := by
    rw [responseID, hlegacy, Option.bind_none]
  unfold handleResponse
  simp only [RequestOp.exec, hid, RequestManager.routeLegacyResponse, List.Perm.refl, if_true]
  cases hreqs : conn.requestManager.pendingReqs with
  | nil => simp [RequestManager.pending, hreqs, oldestReq]
  | cons entry reqs =>
      obtain ⟨oldest, holdest, -⟩ := oldestReq_some entry.2 (reqs.map Prod.snd)
      refine iff_of_false (fun hnone => hnone true oldest.id ?_) (List.cons_ne_nil entry reqs)
      simp [RequestManager.pending, hreqs, oldestReq, holdest]

section Frame

variable (msg : SSHStreamMessage) {reader : Reader} (hlawful : reader.Lawful)
include hlawful

theorem streamHandler_frame :
    streamHandler reader (streamRequest msg).encode
      = some (SSHStreamMessage.decode reader (some (.map msg.encode))) := by
  have haction : reader.uint8 (.uint sshStream.val) = some sshStream := hlawful.uint8_val sshStream
  simp [streamHandler, HubRequest.decode, HubRequest.encode, streamRequest, omitted, readField,
    haction, List.lookup_cons]

/-- The key of a response's error holds the data of a request. -/
theorem decode_frame : AgentResponse.decode reader (streamRequest msg).encode = none := by
  have herror := hlawful.text_map msg.encode
  simp [AgentResponse.decode, HubRequest.encode, streamRequest, omitted, readField, herror,
    List.lookup_cons]

theorem demultiplexed_frame (conn : WsConn) :
    Demultiplexed reader conn (.frame msg) ↔ ToldApart reader conn (.frame msg) := by
  simp only [Demultiplexed, ToldApart, onMessage]
  by_cases hinstalled : conn.streamHandler = true
  · simp [hinstalled, streamHandler_frame msg hlawful]
  · have hlegacy := handleResponse_eq_none_iff conn (decode_frame msg hlawful)
    simpa [hinstalled] using hlegacy

end Frame

/-- **When the hub tells responses and frames apart.** -/
theorem demultiplexed_iff {reader : Reader} (hlawful : reader.Lawful) (conn : WsConn)
    (message : AgentMessage) :
    Demultiplexed reader conn message ↔ ToldApart reader conn message := by
  cases message with
  | response r => exact demultiplexed_response r hlawful conn
  | frame msg => exact demultiplexed_frame msg hlawful conn

/-- Unsigned integers, text, bytes and maps, with null as the zero value. -/
def plainReader : Reader where
  uint8
    | .uint n => if h : n < 2 ^ 8 then some ⟨n, h⟩ else none
    | .null => some 0
    | _ => none
  uint32
    | .uint n => if h : n < 2 ^ 32 then some ⟨n, h⟩ else none
    | .null => some 0
    | _ => none
  uint32Ptr
    | .uint n => if h : n < 2 ^ 32 then some (some ⟨n, h⟩) else none
    | .null => some none
    | _ => none
  bytes
    | .bytes data => some data
    | .null => some []
    | _ => none
  text
    | .text s => some s
    | .null => some ""
    | _ => none
  struct
    | .map fields => some fields
    | .null => some []
    | _ => none

theorem plainReader_lawful : plainReader.Lawful where
  uint8_val n := dif_pos n.isLt
  uint8_out _ hn := dif_neg (Nat.not_lt.mpr hn)
  text_map _ := rfl

/-- Request 7 was made before request 5. -/
def twoPending : RequestManager Fields where
  pendingReqs := [(5, ⟨5, 20, 1⟩), (7, ⟨7, 10, 0⟩)]

theorem demultiplexed_twoPending :
    Demultiplexed plainReader ⟨true, twoPending⟩ (.response ⟨some 5, "", some (.uint 3)⟩) ∧
      Demultiplexed plainReader ⟨true, twoPending⟩ (.frame { streamID := 1, type := 1 }) ∧
      ¬ Demultiplexed plainReader ⟨false, twoPending⟩ (.frame { streamID := 1, type := 1 }) := by
  refine ⟨(demultiplexed_iff plainReader_lawful _ _).mpr ?_,
    (demultiplexed_iff plainReader_lawful _ _).mpr (Or.inl rfl), fun hframe => ?_⟩
  · rintro ⟨-, hid, -⟩
    exact absurd hid (by decide)
  · rcases (demultiplexed_iff plainReader_lawful _ _).mp hframe with hinstalled | hnone
    · cases hinstalled
    · cases hnone

/-- An empty response to request 4 is taken for a frame, and an open acknowledgement that arrives
before the stream handler completes request 7. -/
theorem not_demultiplexed :
    plainReader.Lawful ∧
      ¬ Demultiplexed plainReader ⟨true, {}⟩ (.response ⟨some 4, "", none⟩) ∧
      ¬ Demultiplexed plainReader ⟨false, twoPending⟩ (.frame { streamID := 1, type := 1 }) := by
  refine ⟨plainReader_lawful, fun hresponse => ?_, fun hframe => ?_⟩
  · obtain ⟨completed, hcompleted⟩ := hresponse true
    have hstream : onMessage plainReader ⟨true, {}⟩ (AgentResponse.encode ⟨some 4, "", none⟩) true
        = .stream none := by decide
    rw [hstream] at hcompleted
    cases hcompleted
  · exact hframe true 7 (by decide)

end Picket
