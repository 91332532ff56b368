import Mathlib.Data.List.Perm.Subperm
import Picket.AgentStreams
import Picket.Lib.Transition

/-!
# The socket table of the agent

An entry is found and deleted by its stream id alone. It belongs to the frame that made it, and then
to a reader; so no id must be used again while it has either.
-/

namespace Picket

open Transition

/-- The socket that the frame has in its hands, outside of the table. -/
def FrameStage.inHand : FrameStage → Option LocalSocket
  | .inserting socket | .ending socket => some socket
  | _ => none

/-- The socket that it is about to enter. -/
def FrameStage.next : FrameStage → Option LocalSocket
  | .inserting socket => some socket
  | _ => none

/-- The socket that it enters, or has entered. -/
def FrameStage.enters : FrameStage → Option LocalSocket
  | .inserting socket | .sendingOK socket => some socket
  | _ => none

/-- The stream whose entry is the frame's. -/
def FrameStage.claims : FrameStage → Option Uint32
  | .sendingOK socket | .closing socket => some socket.streamID
  | .deleting streamID => some streamID
  | _ => none

/-- The room that it takes beside the entries. -/
def FrameStage.room : FrameStage → ℕ
  | .dialing _ | .inserting _ | .ending _ => 1
  | _ => 0

namespace AgentStreams

/-- At most two sockets are open; each is the entry of its stream, but for one that a frame has in
its hands; and readers have deleted no entries but their own. -/
structure Kept (s : AgentStreams) : Prop where
  few : s.openSockets.length ≤ 2
  entries : ∀ socket ∈ s.openSockets, s.frame.bind (·.inHand) = some socket ∨
    s.sshStreams.lookup socket.streamID = some socket
  deleted : ∀ pair ∈ s.deleted, pair.1 = pair.2

/-- A stream that is entered has no entry, nor a reader that has not come to its end. -/
def FreshGuard (s : AgentStreams) : StreamEvent → Prop
  | .proceed _ => ∀ socket ∈ s.frame.bind (·.next),
      s.sshStreams.lookup socket.streamID = none ∧
        ∀ reader ∈ s.readers, reader.socket.streamID ≠ socket.streamID
  | _ => True

instance (s : AgentStreams) : DecidablePred s.FreshGuard
  | .proceed _ => inferInstanceAs (Decidable (∀ socket ∈ s.frame.bind (·.next), _ ∧ _))
  | .handleSSHStream _ => inferInstanceAs (Decidable True)
  | .readSSHStream _ _ => inferInstanceAs (Decidable True)
  | .close => inferInstanceAs (Decidable True)

def owners (s : AgentStreams) : List LocalSocket :=
  s.readers.map (·.socket)

/-- The streams with an entry of the frame or with a reader. -/
def busy (s : AgentStreams) : List Uint32 :=
  (s.frame.bind (·.claims)).toList ++ s.owners.map (·.streamID)

structure Inv (s : AgentStreams) : Prop where
  keys : (s.sshStreams.map Prod.fst).Nodup
  busy : s.busy.Nodup
  /-- Each entry belongs to a reader or to the frame. -/
  owned : ∀ streamID socket, s.sshStreams.lookup streamID = some socket →
    socket.streamID = streamID ∧ (socket ∈ s.owners ∨ s.frame = some (.sendingOK socket) ∨
      s.frame = some (.closing socket) ∨ s.frame = some (.deleting streamID))
  entries : ∀ socket ∈ s.openSockets, s.frame.bind (·.inHand) = some socket ∨
    s.sshStreams.lookup socket.streamID = some socket
  sockets : s.openSockets.Nodup
  dialed : ∀ socket, socket ∈ s.openSockets ∨ socket ∈ s.owners ∨
    s.frame.bind (·.enters) = some socket → socket.ref < s.dialed
  room : s.sshStreams.length + (s.frame.elim 0 (·.room)) ≤ 2
  /-- What is about to be deleted is closed. -/
  ended : ∀ reader ∈ s.readers, reader.stage = .deleting → reader.socket ∉ s.openSockets
  forgotten : ∀ streamID, s.frame = some (.deleting streamID) →
    ∀ socket ∈ s.openSockets, socket.streamID ≠ streamID
  deleted : ∀ pair ∈ s.deleted, pair.1 = pair.2

namespace Inv

variable {s t : AgentStreams}

theorem kept (h : s.Inv) : s.Kept := by
  refine ⟨?_, h.entries, h.deleted⟩
  have hsubset : s.openSockets ⊆
      (s.frame.bind (·.inHand)).toList ++ s.sshStreams.map Prod.snd := by
    intro socket hmem
    obtain hhand | hlookup := h.entries socket hmem
    · exact List.mem_append_left _ (by simp [hhand])
    · exact List.mem_append_right _ (List.mem_map_of_mem (AssocList.mem_of_lookup hlookup))
  have hlength := (h.sockets.subperm hsubset).length_le
  have hroom : (s.frame.bind (·.inHand)).toList.length ≤ s.frame.elim 0 (·.room) := by
    cases s.frame with
    | none => exact Nat.le_refl 0
    | some frame => cases frame <;> simp [FrameStage.inHand, FrameStage.room]
  have := h.room
  rw [List.length_append, List.length_map] at hlength
  omega

/-- Nothing that is open has the stream of an entry but the entry. -/
theorem lookup_of_open (h : s.Inv) (hhand : s.frame.bind (·.inHand) = none) {socket : LocalSocket}
    (hmem : socket ∈ s.openSockets) : s.sshStreams.lookup socket.streamID = some socket :=
  (h.entries socket hmem).resolve_left (by simp [hhand])

theorem at_frame (h : s.Inv) {frame : Option FrameStage} (hframe : s.frame = frame) :
    s.sshStreams.length + frame.elim 0 (·.room) ≤ 2 ∧
      ((frame.bind (·.claims)).toList ++ s.owners.map (·.streamID)).Nodup := by
  subst hframe
  exact ⟨h.room, h.busy⟩

theorem handleSSHStream (h : s.Inv) (hidle : s.frame = none) (msg : SSHStreamMessage) :
    (s.handleSSHStream msg).Inv := by
  have hhand : s.frame.bind (·.inHand) = none := by rw [hidle]; rfl
  obtain ⟨hroom, hbusy⟩ := h.at_frame hidle
  unfold AgentStreams.handleSSHStream
  split
  · exact h
  split
  · split
    · exact h
    case isFalse hless =>
      refine { h with
        busy := hbusy, owned := ?_, entries := ?_, dialed := ?_, room := ?_, forgotten := ?_ }
      · intro streamID socket hlookup
        obtain ⟨hstream, howner⟩ := h.owned streamID socket hlookup
        exact ⟨hstream, Or.inl (howner.resolve_right (by simp [hidle]))⟩
      · exact fun socket hmem => Or.inr (h.lookup_of_open hhand hmem)
      · intro socket hknown
        exact h.dialed socket (hknown.imp_right fun h => Or.inl (h.resolve_right nofun))
      · simp only [Option.elim_some, FrameStage.room]
        omega
      · rintro streamID ⟨⟩
  split
  · exact h
  split
  · split
    · exact h
    case h_2 socket hlookup =>
      have hlength := (AssocList.perm_cons_delete h.keys hlookup).length_eq
      refine { h with
        keys := AssocList.nodup_delete h.keys _, busy := hbusy, owned := ?_, entries := ?_
        dialed := ?_, room := ?_, forgotten := ?_ }
      · intro streamID other hother
        rw [AssocList.lookup_delete, Option.ite_none_left_eq_some] at hother
        obtain ⟨hstream, howner⟩ := h.owned streamID other hother.2
        exact ⟨hstream, Or.inl (howner.resolve_right (by simp [hidle]))⟩
      · intro other hmem
        have hother := h.lookup_of_open hhand hmem
        by_cases heq : other.streamID = msg.streamID
        · rw [heq, hlookup] at hother
          exact Or.inl hother
        · rw [AssocList.lookup_delete, if_neg heq]
          exact Or.inr hother
      · intro other hknown
        exact h.dialed other (hknown.imp_right fun h => Or.inl (h.resolve_right nofun))
      · simp only [Option.elim_some, FrameStage.room]
        rw [List.length_cons] at hlength
        simp only [Option.elim_none, Nat.add_zero] at hroom
        omega
      · rintro streamID ⟨⟩
  · exact h

/-! ### The steps of a frame -/

theorem dialing (h : s.Inv) {streamID : Uint32} (hframe : s.frame = some (.dialing streamID))
    (ok : Bool) : (s.proceed ok (.dialing streamID)).Inv := by
  have hhand : s.frame.bind (·.inHand) = none := by rw [hframe]; rfl
  obtain ⟨hroom, hbusy⟩ := h.at_frame hframe
  have howned : ∀ streamID socket, s.sshStreams.lookup streamID = some socket →
      socket.streamID = streamID ∧ socket ∈ s.owners := by
    intro streamID socket hlookup
    obtain ⟨hstream, howner⟩ := h.owned streamID socket hlookup
    exact ⟨hstream, howner.resolve_right (by simp [hframe])⟩
  cases ok with
  | false =>
      refine { h with
        busy := hbusy, owned := ?_, entries := ?_, dialed := ?_, room := ?_, forgotten := ?_ }
      · intro streamID socket hlookup
        exact (howned streamID socket hlookup).imp_right Or.inl
      · exact fun socket hmem => Or.inr (h.lookup_of_open hhand hmem)
      · intro socket hknown
        exact h.dialed socket (hknown.imp_right fun h => Or.inl (h.resolve_right nofun))
      · exact (Nat.le_add_right _ _).trans hroom
      · rintro streamID ⟨⟩
  | true =>
      have hnew : ∀ socket ∈ s.openSockets ++ s.owners,
          (⟨s.dialed, streamID⟩ : LocalSocket) ≠ socket := by
        rintro socket hmem rfl
        have hlt := h.dialed _ ((List.mem_append.mp hmem).imp_right Or.inl)
        exact Nat.lt_irrefl _ hlt
      refine { h with
        busy := hbusy, owned := ?_, entries := ?_, sockets := List.nodup_cons.mpr ⟨?_, h.sockets⟩
        dialed := ?_, room := hroom, ended := ?_, forgotten := ?_ }
      · intro streamID socket hlookup
        exact (howned streamID socket hlookup).imp_right Or.inl
      · intro socket hmem
        obtain rfl | hold := List.mem_cons.mp hmem
        · exact Or.inl rfl
        · exact Or.inr (h.lookup_of_open hhand hold)
      · exact fun hmem => hnew _ (List.mem_append_left _ hmem) rfl
      · rintro socket (hmem | hmem | hmem)
        · obtain rfl | hold := List.mem_cons.mp hmem
          · exact Nat.lt_succ_self _
          · exact Nat.lt_succ_of_lt (h.dialed socket (Or.inl hold))
        · exact Nat.lt_succ_of_lt (h.dialed socket (Or.inr (Or.inl hmem)))
        · obtain rfl := Option.some.inj hmem
          exact Nat.lt_succ_self _
      · intro reader hreader hstage hmem
        obtain heq | hold := List.mem_cons.mp hmem
        · exact hnew _ (List.mem_append_right _ (List.mem_map_of_mem hreader)) heq.symm
        · exact h.ended reader hreader hstage hold
      · rintro streamID ⟨⟩

theorem inserting (h : s.Inv) {socket : LocalSocket} (hframe : s.frame = some (.inserting socket))
    (hentry : s.sshStreams.lookup socket.streamID = none)
    (hreaders : ∀ reader ∈ s.readers, reader.socket.streamID ≠ socket.streamID) (ok : Bool) :
    (s.proceed ok (.inserting socket)).Inv := by
  obtain ⟨hroom, hbusy⟩ := h.at_frame hframe
  have hdelete := AssocList.delete_of_lookup_eq_none hentry
  refine { h with
    keys := AssocList.nodup_insert h.keys _ _, busy := List.nodup_cons.mpr ⟨?_, hbusy⟩, owned := ?_
    entries := ?_, dialed := ?_, room := ?_, forgotten := ?_ }
  · intro hmem
    obtain ⟨other, hother, heq⟩ := List.mem_map.mp hmem
    obtain ⟨reader, hreader, rfl⟩ := List.mem_map.mp hother
    exact hreaders reader hreader heq
  · intro streamID other hother
    rw [proceed, AssocList.lookup_insert] at hother
    split at hother
    case isTrue heq =>
      obtain rfl := Option.some.inj hother
      exact ⟨heq.symm, Or.inr (Or.inl rfl)⟩
    case isFalse =>
      obtain ⟨hstream, howner⟩ := h.owned streamID other hother
      exact ⟨hstream, Or.inl (howner.resolve_right (by simp [hframe]))⟩
  · intro other hmem
    refine Or.inr ?_
    rw [proceed, AssocList.lookup_insert]
    obtain hhand | hlookup := h.entries other hmem
    · rw [hframe] at hhand
      obtain rfl := Option.some.inj hhand
      exact if_pos rfl
    · rwa [if_neg]
      intro heq
      rw [heq, hentry] at hlookup
      cases hlookup
  · rintro other (hmem | hmem | hmem)
    · exact h.dialed other (Or.inl hmem)
    · exact h.dialed other (Or.inr (Or.inl hmem))
    · exact h.dialed other (Or.inr (Or.inr (by rw [hframe]; exact hmem)))
  · rw [proceed, AssocList.insert, hdelete]
    exact hroom
  · rintro streamID ⟨⟩

theorem sendingOK (h : s.Inv) {socket : LocalSocket} (hframe : s.frame = some (.sendingOK socket))
    (ok : Bool) : (s.proceed ok (.sendingOK socket)).Inv := by
  have hhand : s.frame.bind (·.inHand) = none := by rw [hframe]; rfl
  obtain ⟨hroom, hbusy⟩ := h.at_frame hframe
  have howned : ∀ streamID other, s.sshStreams.lookup streamID = some other →
      other.streamID = streamID ∧ (other ∈ s.owners ∨ other = socket) := by
    intro streamID other hlookup
    obtain ⟨hstream, howner⟩ := h.owned streamID other hlookup
    refine ⟨hstream, howner.imp_right fun hrest => ?_⟩
    simpa [hframe, eq_comm] using hrest
  cases ok with
  | false =>
      refine { h with
        busy := hbusy, owned := ?_, entries := ?_, dialed := ?_, room := hroom, forgotten := ?_ }
      · intro streamID other hlookup
        obtain ⟨hstream, howner | rfl⟩ := howned streamID other hlookup
        · exact ⟨hstream, Or.inl howner⟩
        · exact ⟨hstream, Or.inr (Or.inr (Or.inl rfl))⟩
      · exact fun other hmem => Or.inr (h.lookup_of_open hhand hmem)
      · intro other hknown
        exact h.dialed other (hknown.imp_right fun h => Or.inl (h.resolve_right nofun))
      · rintro streamID ⟨⟩
  | true =>
      have howners : (s.proceed true (.sendingOK socket)).owners = s.owners ++ [socket] := by
        rw [proceed, owners, if_pos rfl, List.map_append]
        rfl
      refine { h with
        busy := ?_, owned := ?_, entries := ?_, dialed := ?_, room := hroom, ended := ?_
        forgotten := ?_ }
      · rw [AgentStreams.busy, howners, List.map_append]
        exact (List.perm_append_singleton _ _).nodup_iff.mpr hbusy
      · intro streamID other hlookup
        obtain ⟨hstream, howner | rfl⟩ := howned streamID other hlookup
        · exact ⟨hstream, Or.inl (howners ▸ List.mem_append_left _ howner)⟩
        · exact ⟨hstream, Or.inl (howners ▸ List.mem_append_right _ (List.mem_singleton_self _))⟩
      · exact fun other hmem => Or.inr (h.lookup_of_open hhand hmem)
      · rintro other (hmem | hmem | hmem)
        · exact h.dialed other (Or.inl hmem)
        · rw [howners] at hmem
          obtain hold | hnew := List.mem_append.mp hmem
          · exact h.dialed other (Or.inr (Or.inl hold))
          · rw [List.mem_singleton.mp hnew]
            exact h.dialed socket (Or.inr (Or.inr (by rw [hframe]; rfl)))
        · cases hmem
      · intro reader hreader hstage
        obtain hold | hnew := List.mem_append.mp hreader
        · exact h.ended reader hold hstage
        · rw [List.mem_singleton.mp hnew] at hstage
          cases hstage
      · rintro streamID ⟨⟩

theorem closeSocket (h : s.Inv) (socket : LocalSocket) : (s.closeSocket socket).Inv :=
  have hold : ∀ {other}, other ∈ s.openSockets.erase socket → other ∈ s.openSockets :=
    List.mem_of_mem_erase
  { h with
    entries := fun other hmem => h.entries other (hold hmem)
    sockets := h.sockets.erase _
    dialed := fun other hknown => h.dialed other (hknown.imp_left hold)
    ended := fun reader hreader hstage hmem => h.ended reader hreader hstage (hold hmem)
    forgotten := fun streamID hframe other hmem => h.forgotten streamID hframe other (hold hmem) }

theorem closed_closeSocket (h : s.Inv) (socket : LocalSocket) :
    socket ∉ (s.closeSocket socket).openSockets :=
  fun hmem => (h.sockets.mem_erase_iff.mp hmem).1 rfl

theorem closing (h : s.Inv) {socket : LocalSocket} (hframe : s.frame = some (.closing socket))
    (ok : Bool) : (s.proceed ok (.closing socket)).Inv := by
  have hclosed := h.closeSocket socket
  have hhand : (s.closeSocket socket).frame.bind (·.inHand) = none := by
    rw [AgentStreams.closeSocket, hframe]
    rfl
  obtain ⟨hroom, hbusy⟩ := h.at_frame hframe
  refine { hclosed with
    busy := hbusy, owned := ?_, entries := ?_, dialed := ?_, room := hroom, forgotten := ?_ }
  · intro streamID other hlookup
    obtain ⟨hstream, howner⟩ := h.owned streamID other hlookup
    refine ⟨hstream, howner.imp_right fun hrest => Or.inr (Or.inr ?_)⟩
    obtain rfl : socket = other := by simpa [hframe] using hrest
    rw [← hstream]
    rfl
  · exact fun other hmem => Or.inr (hclosed.lookup_of_open hhand hmem)
  · intro other hknown
    exact hclosed.dialed other (hknown.imp_right fun h => Or.inl (h.resolve_right nofun))
  · -- what is open under the stream would be its entry, which is the frame's
    rintro streamID hstream other hmem rfl
    have hid : socket.streamID = other.streamID := by simpa [AgentStreams.proceed] using hstream
    obtain ⟨-, howner | hrest⟩ := h.owned _ _ (hclosed.lookup_of_open hhand hmem)
    · refine (List.nodup_cons.mp hbusy).1 ?_
      rw [hid]
      exact List.mem_map_of_mem howner
    · obtain rfl : socket = other := by simpa [hframe] using hrest
      exact h.closed_closeSocket socket hmem

theorem deleting (h : s.Inv) {streamID : Uint32} (hframe : s.frame = some (.deleting streamID))
    (ok : Bool) : (s.proceed ok (.deleting streamID)).Inv := by
  have hhand : s.frame.bind (·.inHand) = none := by rw [hframe]; rfl
  obtain ⟨hroom, hbusy⟩ := h.at_frame hframe
  refine { h with
    keys := AssocList.nodup_delete h.keys _, busy := (List.nodup_cons.mp hbusy).2, owned := ?_
    entries := ?_, dialed := ?_, room := ?_, forgotten := ?_ }
  · intro other socket hlookup
    rw [proceed, AssocList.lookup_delete, Option.ite_none_left_eq_some] at hlookup
    obtain ⟨hne, hlookup⟩ := hlookup
    obtain ⟨hstream, howner⟩ := h.owned other socket hlookup
    exact ⟨hstream, Or.inl (howner.resolve_right (by simp [hframe, Ne.symm hne]))⟩
  · intro socket hmem
    rw [proceed, AssocList.lookup_delete, if_neg (h.forgotten streamID hframe socket hmem)]
    exact Or.inr (h.lookup_of_open hhand hmem)
  · intro socket hknown
    exact h.dialed socket (hknown.imp_right fun h => Or.inl (h.resolve_right nofun))
  · exact (List.length_filter_le _ _).trans hroom
  · rintro other ⟨⟩

theorem ending (h : s.Inv) {socket : LocalSocket} (hframe : s.frame = some (.ending socket))
    (ok : Bool) : (s.proceed ok (.ending socket)).Inv := by
  have hclosed := h.closeSocket socket
  obtain ⟨hroom, hbusy⟩ := h.at_frame hframe
  refine { hclosed with
    busy := hbusy, owned := ?_, entries := ?_, dialed := ?_
    room := (Nat.le_add_right _ _).trans hroom, forgotten := ?_ }
  · intro streamID other hlookup
    obtain ⟨hstream, howner⟩ := h.owned streamID other hlookup
    exact ⟨hstream, Or.inl (howner.resolve_right (by simp [hframe]))⟩
  · intro other hmem
    refine Or.inr ((hclosed.entries other hmem).resolve_left fun hhand => ?_)
    rw [AgentStreams.closeSocket, hframe] at hhand
    obtain rfl := Option.some.inj hhand
    exact h.closed_closeSocket socket hmem
  · intro other hknown
    exact hclosed.dialed other (hknown.imp_right fun h => Or.inl (h.resolve_right nofun))
  · rintro streamID ⟨⟩

theorem proceed (h : s.Inv) {frame : FrameStage} (hframe : s.frame = some frame)
    (hfresh : ∀ socket ∈ frame.next, s.sshStreams.lookup socket.streamID = none ∧
      ∀ reader ∈ s.readers, reader.socket.streamID ≠ socket.streamID) (ok : Bool) :
    (s.proceed ok frame).Inv := by
  cases frame with
  | dialing streamID => exact h.dialing hframe ok
  | inserting socket => exact h.inserting hframe (hfresh socket rfl).1 (hfresh socket rfl).2 ok
  | sendingOK socket => exact h.sendingOK hframe ok
  | closing socket => exact h.closing hframe ok
  | deleting streamID => exact h.deleting hframe ok
  | ending socket => exact h.ending hframe ok

/-! ### Readers, and the end of a connection -/

theorem setStage (h : s.Inv) {i : ℕ} {reader : SocketReader} (hget : s.readers[i]? = some reader)
    (stage : ReaderStage) (hstage : stage = .deleting → reader.socket ∉ s.openSockets) :
    AgentStreams.Inv { s with readers := s.readers.set i { reader with stage := stage } } := by
  have howners : (s.readers.set i { reader with stage := stage }).map (·.socket) = s.owners := by
    refine List.ext_getElem? fun j => ?_
    rw [owners, List.getElem?_map, List.getElem?_map]
    by_cases hij : i = j
    · subst hij
      rw [List.getElem?_set_self (List.getElem?_eq_some_iff.mp hget).1, hget]
      rfl
    · rw [List.getElem?_set_ne hij]
  refine { h with busy := ?_, owned := ?_, dialed := ?_, ended := ?_ }
  · rw [AgentStreams.busy, owners, howners]
    exact h.busy
  · rw [owners, howners]
    exact h.owned
  · rw [owners, howners]
    exact h.dialed
  · intro other hother hdeleting
    obtain hold | rfl := List.mem_or_eq_of_mem_set hother
    · exact h.ended other hold hdeleting
    · exact hstage hdeleting

theorem readers_perm {i : ℕ} {reader : SocketReader} (hget : s.readers[i]? = some reader) :
    (reader :: s.readers.eraseIdx i).Perm s.readers := by
  obtain ⟨hlt, hreader⟩ := List.getElem?_eq_some_iff.mp hget
  exact hreader ▸ List.getElem_cons_eraseIdx_perm hlt

/-- The streams that are busy beside that of a reader. -/
theorem busy_reader (h : s.Inv) {i : ℕ} {reader : SocketReader}
    (hget : s.readers[i]? = some reader) :
    reader.socket.streamID ∉ (s.frame.bind (·.claims)).toList ++
        (s.readers.eraseIdx i).map (·.socket.streamID) ∧
      ((s.frame.bind (·.claims)).toList ++
        (s.readers.eraseIdx i).map (·.socket.streamID)).Nodup := by
  have hbusy := h.busy
  rw [AgentStreams.busy, owners, List.map_map] at hbusy
  have hmiddle := (((readers_perm hget).map (·.socket.streamID)).append_left
    (s.frame.bind (·.claims)).toList).symm.trans List.perm_middle
  exact List.nodup_cons.mp (hmiddle.nodup_iff.mp hbusy)

/-- The entry under the stream of a reader is its own. -/
theorem entry_reader (h : s.Inv) {i : ℕ} {reader : SocketReader}
    (hget : s.readers[i]? = some reader) {other : LocalSocket}
    (hlookup : s.sshStreams.lookup reader.socket.streamID = some other) :
    other = reader.socket := by
  obtain ⟨hfree, -⟩ := h.busy_reader hget
  obtain ⟨hstream, howner⟩ := h.owned _ _ hlookup
  rw [List.mem_append, Option.mem_toList, not_or] at hfree
  obtain hmem | hrest := howner
  · obtain ⟨reader', hreader', rfl⟩ := List.mem_map.mp hmem
    obtain rfl | hother := List.mem_cons.mp ((readers_perm hget).mem_iff.mpr hreader')
    · rfl
    · exact absurd (List.mem_map.mpr ⟨reader', hother, hstream⟩) hfree.2
  · refine absurd ?_ hfree.1
    obtain hframe | hframe | hframe := hrest
    · rw [hframe, ← hstream]
      rfl
    · rw [hframe, ← hstream]
      rfl
    · rw [hframe]
      rfl

theorem readerDeletes (h : s.Inv) {i : ℕ} {reader : SocketReader}
    (hget : s.readers[i]? = some reader) (hstage : reader.stage = .deleting) :
    AgentStreams.Inv
      { s with
        sshStreams := AssocList.delete reader.socket.streamID s.sshStreams
        readers := s.readers.eraseIdx i
        deleted :=
          (s.sshStreams.lookup reader.socket.streamID).toList.map (Prod.mk reader.socket) ++
            s.deleted } := by
  have hclosed := h.ended reader (List.mem_of_getElem? hget) hstage
  have hsublist := List.eraseIdx_sublist s.readers i
  refine { h with
    keys := AssocList.nodup_delete h.keys _, busy := ?_, owned := ?_, entries := ?_, dialed := ?_
    room := ?_, ended := ?_, deleted := ?_ }
  · rw [AgentStreams.busy, owners, List.map_map]
    exact (h.busy_reader hget).2
  · intro streamID other hlookup
    rw [AssocList.lookup_delete, Option.ite_none_left_eq_some] at hlookup
    obtain ⟨hne, hlookup⟩ := hlookup
    obtain ⟨hstream, howner⟩ := h.owned streamID other hlookup
    refine ⟨hstream, howner.imp_left fun hmem => ?_⟩
    obtain ⟨reader', hreader', rfl⟩ := List.mem_map.mp hmem
    obtain rfl | hother := List.mem_cons.mp ((readers_perm hget).mem_iff.mpr hreader')
    · exact absurd hstream.symm hne
    · exact List.mem_map_of_mem hother
  · intro other hmem
    refine (h.entries other hmem).imp_right fun hlookup => ?_
    rwa [AssocList.lookup_delete, if_neg]
    intro heq
    rw [heq] at hlookup
    exact hclosed (h.entry_reader hget hlookup ▸ hmem)
  · exact fun other hknown => h.dialed other
      (hknown.imp_right (Or.imp_left fun hmem => (hsublist.map _).subset hmem))
  · exact (Nat.add_le_add_right (List.length_filter_le _ _) _).trans h.room
  · exact fun other hother => h.ended other (hsublist.subset hother)
  · intro pair hmem
    obtain hnew | hold := List.mem_append.mp hmem
    · obtain ⟨other, hother, rfl⟩ := List.mem_map.mp hnew
      exact (h.entry_reader hget (Option.mem_toList.mp hother)).symm
    · exact h.deleted pair hold

theorem readSSHStream (h : s.Inv) {i : ℕ} {reader : SocketReader}
    (hget : s.readers[i]? = some reader) (more : Bool) :
    (s.readSSHStream i reader more).Inv := by
  rw [AgentStreams.readSSHStream]
  cases hstage : reader.stage with
  | reading =>
      dsimp only
      split
      · exact h
      · exact h.setStage hget .closing nofun
  | closing =>
      exact (h.closeSocket reader.socket).setStage hget .deleting fun _ =>
        h.closed_closeSocket reader.socket
  | deleting => exact h.readerDeletes hget hstage

theorem close (h : s.Inv) : s.close.Inv := by
  have hold : ∀ {socket}, socket ∈ s.close.openSockets → socket ∈ s.openSockets :=
    List.mem_of_mem_filter
  refine { h with
    keys := List.nodup_nil, owned := nofun, entries := ?_, sockets := h.sockets.filter _
    dialed := fun socket hknown => h.dialed socket (hknown.imp_left hold), room := ?_
    ended := fun reader hreader hstage hmem => h.ended reader hreader hstage (hold hmem)
    forgotten := fun streamID hframe socket hmem => h.forgotten streamID hframe socket (hold hmem) }
  · intro socket hmem
    refine Or.inl ((h.entries socket (hold hmem)).resolve_right fun hlookup => ?_)
    have hentry : socket ∈ s.sshStreams.map Prod.snd :=
      List.mem_map_of_mem (AssocList.mem_of_lookup hlookup)
    have hnot : socket ∉ s.sshStreams.map Prod.snd := by
      simpa using (List.mem_filter.mp hmem).2
    exact hnot hentry
  · exact (Nat.add_le_add_right (Nat.zero_le _) _).trans h.room

theorem step {e : StreamEvent} (h : s.Inv) (hguard : s.FreshGuard e) (hstep : s.step e = some t) :
    t.Inv := by
  cases e with
  | handleSSHStream msg =>
      obtain ⟨hidle, heq⟩ := Option.ite_none_right_eq_some.mp hstep
      obtain rfl := Option.some.inj heq
      exact h.handleSSHStream hidle msg
  | proceed ok =>
      obtain ⟨frame, hframe, rfl⟩ := Option.map_eq_some_iff.mp hstep
      refine h.proceed hframe (fun socket hsocket => hguard socket ?_) ok
      rw [hframe]
      exact hsocket
  | readSSHStream i more =>
      obtain ⟨reader, hget, rfl⟩ := Option.map_eq_some_iff.mp hstep
      exact h.readSSHStream hget more
  | close =>
      obtain rfl := Option.some.inj hstep
      exact h.close

theorem init : AgentStreams.Inv {} where
  keys := List.nodup_nil
  busy := List.nodup_nil
  owned := nofun
  entries := nofun
  sockets := List.nodup_nil
  dialed := by
    rintro socket (hmem | hmem | hmem)
    · cases hmem
    · cases hmem
    · cases hmem
  room := Nat.zero_le 2
  ended := nofun
  forgotten := nofun
  deleted := nofun

end Inv

end AgentStreams

/-- **The table is right as long as no stream is entered under an id that is in use.** -/
theorem kept_of_guarded {s : AgentStreams} {es : List StreamEvent}
    (hrun : Guarded AgentStreams.step AgentStreams.FreshGuard {} es s) : s.Kept :=
  (hrun.invariant (fun _ _ _ h hguard hstep => AgentStreams.Inv.step h hguard hstep)
    AgentStreams.Inv.init).kept

/-- A stream is opened, the local server is reached, and the hub told. -/
def streamOpened (streamID : Uint32) : List StreamEvent :=
  [.handleSSHStream { magic := sshStreamMagic, streamID, type := sshStreamOpen }, .proceed true,
    .proceed true, .proceed true]

/-- Two streams; one is closed by the hub, the socket of the other ends. -/
def streamsEnd : List StreamEvent :=
  streamOpened 1 ++ streamOpened 2 ++
    [.handleSSHStream { magic := sshStreamMagic, streamID := 1, type := sshStreamClose },
      .readSSHStream 1 true, .proceed true, .readSSHStream 1 false, .readSSHStream 1 false,
      .readSSHStream 0 false, .readSSHStream 0 false, .readSSHStream 1 false,
      .readSSHStream 0 false] ++ streamOpened 1

theorem kept_streamsEnd : AgentStreams.Kept
    { sshStreams := [(1, ⟨2, 1⟩)], openSockets := [⟨2, 1⟩], dialed := 3
      readers := [{ socket := ⟨2, 1⟩ }], deleted := [(⟨1, 2⟩, ⟨1, 2⟩)] } := by
  have hcheck : check AgentStreams.step AgentStreams.FreshGuard {} streamsEnd = some
      { sshStreams := [(1, ⟨2, 1⟩)], openSockets := [⟨2, 1⟩], dialed := 3
        readers := [{ socket := ⟨2, 1⟩ }], deleted := [(⟨1, 2⟩, ⟨1, 2⟩)] } := by
    decide +kernel
  exact kept_of_guarded (guarded_of_check hcheck)

theorem not_kept : ¬ ∀ (es : List StreamEvent) (s : AgentStreams),
    run AgentStreams.step {} es = some s → s.Kept := by
  intro hall
  have hrun : run AgentStreams.step {} (streamOpened 1 ++ streamOpened 1) = some
      { sshStreams := [(1, ⟨1, 1⟩)], openSockets := [⟨1, 1⟩, ⟨0, 1⟩], dialed := 2
        readers := [{ socket := ⟨0, 1⟩ }, { socket := ⟨1, 1⟩ }] } := by
    decide +kernel
  have hentry := (hall _ _ hrun).entries ⟨0, 1⟩ (by decide)
  revert hentry
  decide

end Picket
