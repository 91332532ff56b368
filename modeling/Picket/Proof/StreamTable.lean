import Picket.Proof.OpenStreams

/-!
# The table of the agent

The agent finds a socket by its stream id. It can find every socket that is not closed as long as
no stream is opened under an id in use, and no reader deletes the entry of another.
-/

namespace Picket

section Table

variable {readers : List StreamReader} {closed : List ℕ} {sshStreams : List (Uint32 × Socket)}

/-- Every socket that is not closed is in the table, under the id of its reader; and there is a
reader for every entry. -/
structure StreamTable (readers : List StreamReader) (closed : List ℕ)
    (sshStreams : List (Uint32 × Socket)) : Prop where
  found : ∀ reader ∈ readers, reader.socket.ref ∉ closed →
    reader.ending = false ∧ sshStreams.lookup reader.streamID = some reader.socket
  entries : ∀ entry ∈ sshStreams, ∃ reader ∈ readers,
    reader.streamID = entry.1 ∧ reader.socket = entry.2

/-- The agent has an open socket of the tunnel under the stream id. -/
def held (readers : List StreamReader) (closed : List ℕ) (token : ℕ) (streamID : Uint32) : Bool :=
  readers.any fun reader =>
    reader.socket.owner = token && reader.streamID = streamID && reader.socket.ref ∉ closed

theorem held_iff {token : ℕ} {streamID : Uint32} :
    held readers closed token streamID ↔ ∃ reader ∈ readers,
      reader.socket.owner = token ∧ reader.streamID = streamID ∧ reader.socket.ref ∉ closed := by
  simp [held, and_assoc]

/-- Readers that are as before, and sockets that are closed, hold no more. -/
theorem held_mono {readers' : List StreamReader} {closed' : List ℕ}
    (hreaders : ∀ reader ∈ readers', reader.socket.ref ∉ closed' →
      ∃ old ∈ readers, old.socket = reader.socket ∧ old.streamID = reader.streamID)
    (hclosed : ∀ ref ∈ closed, ref ∈ closed') {token : ℕ} {streamID : Uint32}
    (hheld : held readers' closed' token streamID) : held readers closed token streamID := by
  obtain ⟨reader, hmem, howner, hid, hopen⟩ := held_iff.mp hheld
  obtain ⟨old, hold, hsocket, hstream⟩ := hreaders reader hmem hopen
  refine held_iff.mpr ⟨old, hold, ?_, hstream.trans hid, ?_⟩
  · rw [hsocket, howner]
  · rw [hsocket]
    exact fun hmem => hopen (hclosed _ hmem)

namespace StreamTable

theorem close (h : StreamTable readers closed sshStreams) (refs : List ℕ) :
    StreamTable readers (refs ++ closed) sshStreams where
  found reader hmem hopen :=
    h.found reader hmem fun hclosed => hopen (List.mem_append_right _ hclosed)
  entries := h.entries

theorem delete (h : StreamTable readers closed sshStreams) {streamID : Uint32}
    (hfree : ∀ reader ∈ readers, reader.socket.ref ∉ closed → reader.streamID ≠ streamID) :
    StreamTable readers closed (AssocList.delete streamID sshStreams) where
  found reader hmem hopen := by
    rw [AssocList.lookup_delete, if_neg (hfree reader hmem hopen)]
    exact h.found reader hmem hopen
  entries entry hentry := h.entries entry (AssocList.mem_of_mem_delete hentry)

theorem insert (h : StreamTable readers closed sshStreams) {streamID : Uint32} {socket : Socket}
    (hfree : sshStreams.lookup streamID = none) :
    StreamTable (readers ++ [⟨streamID, socket, false⟩]) closed
      (AssocList.insert streamID socket sshStreams) where
  found reader hmem hopen := by
    rw [AssocList.lookup_insert]
    rcases List.mem_append.mp hmem with hold | hnew
    · obtain ⟨hending, hlookup⟩ := h.found reader hold hopen
      have hne : reader.streamID ≠ streamID := fun heq => by
        rw [heq, hfree] at hlookup
        cases hlookup
      rw [if_neg hne]
      exact ⟨hending, hlookup⟩
    · obtain rfl := List.mem_singleton.mp hnew
      exact ⟨rfl, if_pos rfl⟩
  entries entry hentry := by
    rcases AssocList.mem_insert hentry with rfl | hold
    · exact ⟨_, List.mem_append_right _ (List.mem_singleton_self _), rfl, rfl⟩
    · obtain ⟨reader, hmem, hreader⟩ := h.entries entry hold
      exact ⟨reader, List.mem_append_left _ hmem, hreader⟩

theorem ending (h : StreamTable readers closed sshStreams) {i : ℕ} {reader : StreamReader}
    (hget : readers[i]? = some reader) :
    StreamTable (readers.set i { reader with ending := true }) (reader.socket.ref :: closed)
      sshStreams where
  found other hmem hopen := by
    rcases List.mem_or_eq_of_mem_set hmem with hold | rfl
    · exact h.found other hold fun hclosed => hopen (List.mem_cons_of_mem _ hclosed)
    · exact absurd List.mem_cons_self hopen
  entries entry hentry := by
    obtain ⟨other, hmem, hid, hsocket⟩ := h.entries entry hentry
    obtain ⟨j, hj⟩ := List.mem_iff_getElem?.mp hmem
    by_cases hji : j = i
    · subst hji
      obtain rfl := Option.some.inj (hget.symm.trans hj)
      obtain ⟨hlt, -⟩ := List.getElem?_eq_some_iff.mp hget
      exact ⟨_, List.mem_set hlt _, hid, hsocket⟩
    · refine ⟨other, List.mem_iff_getElem?.mpr ⟨j, ?_⟩, hid, hsocket⟩
      rw [List.getElem?_set_ne (Ne.symm hji), hj]

/-- A reader that is done deletes the entry under its id, if it is its own. -/
theorem done (h : StreamTable readers closed sshStreams) {i : ℕ} {reader : StreamReader}
    (hget : readers[i]? = some reader) (hending : reader.ending)
    (hown : ∀ socket ∈ sshStreams.lookup reader.streamID, socket = reader.socket) :
    StreamTable (readers.eraseIdx i) closed (AssocList.delete reader.streamID sshStreams) where
  found other hmem hopen := by
    obtain ⟨hrunning, hlookup⟩ := h.found other (List.mem_of_mem_eraseIdx hmem) hopen
    have hne : other.streamID ≠ reader.streamID := by
      intro heq
      rw [heq] at hlookup
      -- the two have one socket, which the other has open and this one has closed
      have hsocket := hown other.socket hlookup
      have hself := h.found reader (List.mem_of_getElem? hget) (hsocket ▸ hopen)
      rw [hending] at hself
      cases hself.1
    rw [AssocList.lookup_delete, if_neg hne]
    exact ⟨hrunning, hlookup⟩
  entries entry hentry := by
    obtain ⟨hmem, hne⟩ := List.mem_filter.mp hentry
    obtain ⟨other, hother, hid, hsocket⟩ := h.entries entry hmem
    obtain ⟨j, hj⟩ := List.mem_iff_getElem?.mp hother
    refine ⟨other, List.mem_eraseIdx_iff_getElem?.mpr ⟨j, ?_, hj⟩, hid, hsocket⟩
    rintro rfl
    obtain rfl := Option.some.inj (hget.symm.trans hj)
    simp [hid] at hne

theorem clear (h : StreamTable readers closed sshStreams) :
    StreamTable readers (sshStreams.map (·.2.ref) ++ closed) [] where
  found reader hmem hopen := by
    obtain ⟨-, hlookup⟩ := h.found reader hmem fun hclosed =>
      hopen (List.mem_append_right _ hclosed)
    have hentry := AssocList.mem_of_lookup hlookup
    exact absurd (List.mem_append_left _ (List.mem_map.mpr ⟨_, hentry, rfl⟩)) hopen
  entries _ hentry := by cases hentry

/-- Closing the socket that is found under an id leaves nothing open under it. -/
theorem closed_of_lookup (h : StreamTable readers closed sshStreams) {streamID : Uint32}
    {socket : Socket} (hlookup : sshStreams.lookup streamID = some socket) :
    ∀ reader ∈ readers, reader.socket.ref ∉ socket.ref :: closed → reader.streamID ≠ streamID := by
  rintro reader hmem hopen rfl
  obtain ⟨-, hfound⟩ := h.found reader hmem fun hclosed => hopen (List.mem_cons_of_mem _ hclosed)
  obtain rfl := Option.some.inj (hlookup.symm.trans hfound)
  exact hopen List.mem_cons_self

end StreamTable

end Table

end Picket
