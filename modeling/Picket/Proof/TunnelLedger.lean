import Picket.Proof.OpenStreams

/-!
# Tunnels and their tokens

A token is used once: a tunnel that ended does not come back, and forwards nothing any more. So what
it has left open then stays so.
-/

namespace Picket

/-- The tokens: a tunnel that ended stays ended, and has left nothing open. -/
structure Ledger (launches : List ℕ) (created : ℕ) (tunnels : List Tunnel) (ended : List ℕ)
    (forwarded : List Frame) : Prop where
  fresh : ∀ token ∈ launches, token < created ∧ token ∉ ended
  live : ∀ tunnel ∈ tunnels,
    tunnel.token < created ∧ tunnel.token ∉ ended ∧ tunnel.token ∉ launches
  past : ∀ token ∈ ended, token < created
  owners : ∀ frame ∈ forwarded,
    frame.owner ∈ ended ∨ ∃ tunnel ∈ tunnels, tunnel.token = frame.owner
  closers : ∀ token ∈ ended, ∀ streamID, leftOpen token streamID false forwarded = false

namespace Ledger

variable {launches ended : List ℕ} {created : ℕ} {tunnels : List Tunnel} {forwarded : List Frame}

theorem create (h : Ledger launches created tunnels ended forwarded) :
    Ledger (created :: launches) (created + 1) tunnels ended forwarded :=
  { h with
    fresh := by
      intro token hmem
      rcases List.mem_cons.mp hmem with rfl | hold
      · exact ⟨by omega, fun hended => Nat.lt_irrefl _ (h.past token hended)⟩
      · obtain ⟨hlt, hended⟩ := h.fresh token hold
        exact ⟨by omega, hended⟩
    live := by
      intro tunnel hmem
      obtain ⟨hlt, hended, hlaunch⟩ := h.live tunnel hmem
      refine ⟨by omega, hended, fun hcons => ?_⟩
      rcases List.mem_cons.mp hcons with heq | hold
      · omega
      · exact hlaunch hold
    past := by
      intro token hmem
      have := h.past token hmem
      omega }

theorem take (h : Ledger launches created tunnels ended forwarded) (token : ℕ) :
    Ledger (launches.filter (· ≠ token)) created tunnels ended forwarded :=
  { h with
    fresh := fun other hmem => h.fresh other (List.mem_of_mem_filter hmem)
    live := by
      intro tunnel hmem
      obtain ⟨hlt, hended, hother⟩ := h.live tunnel hmem
      exact ⟨hlt, hended, fun hmem => hother (List.mem_of_mem_filter hmem)⟩ }

theorem connectUser (h : Ledger launches created tunnels ended forwarded) {token : ℕ}
    (hlaunch : token ∈ launches) (agent : Option ℕ) :
    Ledger (launches.filter (· ≠ token)) created (⟨token, agent⟩ :: tunnels) ended forwarded :=
  { h.take token with
    live := by
      intro tunnel hmem
      rcases List.mem_cons.mp hmem with rfl | hold
      · obtain ⟨hlt, hended⟩ := h.fresh token hlaunch
        exact ⟨hlt, hended, fun hmem => by simpa using (List.mem_filter.mp hmem).2⟩
      · exact (h.take token).live tunnel hold
    owners := by
      intro frame hframe
      refine (h.owners frame hframe).imp_right ?_
      rintro ⟨tunnel, hmem, howner⟩
      exact ⟨tunnel, List.mem_cons_of_mem _ hmem, howner⟩ }

theorem forward (h : Ledger launches created tunnels ended forwarded) {tunnel : Tunnel}
    (hmem : tunnel ∈ tunnels) (msg : SSHStreamMessage) :
    Ledger launches created tunnels ended (forwarded ++ [⟨msg, tunnel.token⟩]) :=
  { h with
    owners := by
      intro frame hframe
      rcases List.mem_append.mp hframe with hold | hnew
      · exact h.owners frame hold
      · rw [List.mem_singleton.mp hnew]
        exact Or.inr ⟨tunnel, hmem, rfl⟩
    closers := by
      intro token hended streamID
      have hne : tunnel.token ≠ token := fun heq => (h.live tunnel hmem).2.1 (heq ▸ hended)
      rw [leftOpen_append, h.closers token hended]
      exact track_of_ne hne false }

theorem remove (h : Ledger launches created tunnels ended forwarded) {token : ℕ}
    (hlive : ∃ tunnel ∈ tunnels, tunnel.token = token)
    (hclosed : ∀ frame ∈ forwarded,
      leftOpen token frame.msg.streamID false forwarded = false) :
    Ledger launches created (tunnels.filter (·.token ≠ token)) (token :: ended) forwarded := by
  obtain ⟨tunnel, htunnel, rfl⟩ := hlive
  obtain ⟨hlt, hended, hlaunch⟩ := h.live tunnel htunnel
  refine ⟨fun other hmem => ?_, fun other hmem => ?_, fun other hmem => ?_, fun frame hframe => ?_,
    fun other hmem streamID => ?_⟩
  · obtain ⟨hother, hkept⟩ := h.fresh other hmem
    refine ⟨hother, fun hcons => ?_⟩
    rcases List.mem_cons.mp hcons with rfl | hold
    · exact hlaunch hmem
    · exact hkept hold
  · obtain ⟨hold, hne⟩ := List.mem_filter.mp hmem
    obtain ⟨hother, hkept, hnew⟩ := h.live other hold
    refine ⟨hother, fun hcons => ?_, hnew⟩
    rcases List.mem_cons.mp hcons with heq | hold
    · simp [heq] at hne
    · exact hkept hold
  · rcases List.mem_cons.mp hmem with rfl | hold
    · exact hlt
    · exact h.past other hold
  · rcases h.owners frame hframe with hold | ⟨other, hother, howner⟩
    · exact Or.inl (List.mem_cons_of_mem _ hold)
    · by_cases heq : other.token = tunnel.token
      · exact Or.inl (by rw [← howner, heq]; exact List.mem_cons_self)
      · exact Or.inr ⟨other, List.mem_filter.mpr ⟨hother, by simpa using heq⟩, howner⟩
  · rcases List.mem_cons.mp hmem with rfl | hold
    · by_contra hopen
      obtain ⟨frame, hframe, -, rfl⟩ := exists_of_leftOpen (by simpa using hopen)
      exact hopen (hclosed frame hframe)
    · exact h.closers other hold streamID

theorem bind (h : Ledger launches created tunnels ended forwarded) (f : Tunnel → Tunnel)
    (htoken : ∀ tunnel, (f tunnel).token = tunnel.token) :
    Ledger launches created (tunnels.map f) ended forwarded :=
  { h with
    live := by
      intro tunnel hmem
      obtain ⟨old, hold, rfl⟩ := List.mem_map.mp hmem
      rw [htoken]
      exact h.live old hold
    owners := by
      intro frame hframe
      refine (h.owners frame hframe).imp_right ?_
      rintro ⟨tunnel, hmem, howner⟩
      exact ⟨f tunnel, List.mem_map_of_mem hmem, (htoken tunnel).trans howner⟩ }

end Ledger

end Picket
