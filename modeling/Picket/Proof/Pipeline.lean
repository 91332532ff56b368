import Picket.Lib.AssocList
import Picket.SshTunnels

/-!
# Frames on their way to the agent

While the agent has one connection, a frame is first with the goroutine that forwards it and then on
the connection. A tunnel has one frame at most with a goroutine, so that its frames stay in order.
-/

namespace Picket

/-- There is one connection at most, it is open, and all frames go there. -/
structure Wired (conns : List Conn) (agent : Option ℕ) (tunnels : List Tunnel)
    (forwarding : List (ℕ × Frame)) : Prop where
  one : conns.length ≤ 1
  up : ∀ conn ∈ conns, conn.isOpen
  attached : ∀ conn ∈ agent, conn < conns.length
  bound : ∀ tunnel ∈ tunnels, ∀ conn ∈ tunnel.agent, conn < conns.length
  sent : ∀ entry ∈ forwarding, entry.1 < conns.length

namespace Wired

variable {conns : List Conn} {agent : Option ℕ} {tunnels : List Tunnel}
  {forwarding : List (ℕ × Frame)}

theorem modify (h : Wired conns agent tunnels forwarding) (conn : ℕ) {f : Conn → Conn}
    (hopen : ∀ conn, (f conn).isOpen = conn.isOpen) :
    Wired (conns.modify conn f) agent tunnels forwarding where
  one := by
    rw [List.length_modify]
    exact h.one
  up c hmem := by
    obtain ⟨old, hold, rfl | rfl⟩ := List.mem_modify_imp hmem
    · exact h.up _ hold
    · rw [hopen]
      exact h.up old hold
  attached c hc := by
    rw [List.length_modify]
    exact h.attached c hc
  bound tunnel hmem c hc := by
    rw [List.length_modify]
    exact h.bound tunnel hmem c hc
  sent entry hmem := by
    rw [List.length_modify]
    exact h.sent entry hmem

theorem eq_singleton (h : Wired conns agent tunnels forwarding) {conn : ℕ}
    (hlt : conn < conns.length) : conn = 0 ∧ ∃ c, conns = [c] ∧ c.isOpen := by
  have hone := h.one
  obtain ⟨c, rfl⟩ : ∃ c, conns = [c] := List.length_eq_one_iff.mp (by omega)
  refine ⟨?_, c, rfl, h.up c (List.mem_singleton_self c)⟩
  rw [List.length_singleton] at hlt
  omega

end Wired

/-- The frames that are on their way to the agent. Those of one tunnel are in their order. -/
def pipeline (conns : List Conn) (forwarding : List (ℕ × Frame)) : List Frame :=
  conns.flatMap (·.toAgent) ++ forwarding.map (·.2)

section Pipeline

variable {conns : List Conn} {forwarding : List (ℕ × Frame)}

theorem pipeline_modify (conn : ℕ) {f : Conn → Conn}
    (hsame : ∀ conn, (f conn).toAgent = conn.toAgent) :
    pipeline (conns.modify conn f) forwarding = pipeline conns forwarding := by
  have hflat : (conns.modify conn f).flatMap (·.toAgent) = conns.flatMap (·.toAgent) := by
    induction conns generalizing conn with
    | nil => simp
    | cons c conns ih =>
        cases conn with
        | zero => simp [hsame]
        | succ conn => simp [ih conn]
  rw [pipeline, pipeline, hflat]

/-- A new frame of a tunnel that has no other to be sent comes last among those of the tunnel. -/
theorem filter_pipeline_cons {conn : ℕ} {frame : Frame}
    (hnone : ∀ entry ∈ forwarding, entry.2.owner ≠ frame.owner) (token : ℕ) :
    (pipeline conns ((conn, frame) :: forwarding)).filter (·.owner = token)
      = (pipeline conns forwarding ++ [frame]).filter (·.owner = token) := by
  by_cases howner : frame.owner = token
  · subst howner
    have hempty : (forwarding.map (·.2)).filter (·.owner = frame.owner) = [] := by
      refine List.filter_eq_nil_iff.mpr fun other hmem => ?_
      obtain ⟨entry, hentry, rfl⟩ := List.mem_map.mp hmem
      simpa using hnone entry hentry
    simp only [pipeline, List.map_cons, List.filter_append, hempty]
    simp [hempty]
  · simp [pipeline, howner]

theorem filter_pipeline_send {c : Conn} {entry : ℕ × Frame} (hmem : entry ∈ forwarding)
    (hsingle : forwarding.Pairwise (·.2.owner ≠ ·.2.owner)) (token : ℕ) :
    (pipeline [{ c with toAgent := c.toAgent ++ [entry.2] }] (forwarding.erase entry)).filter
        (·.owner = token)
      = (pipeline [c] forwarding).filter (·.owner = token) := by
  obtain ⟨before, after, -, rfl, herase⟩ := List.exists_erase_eq hmem
  obtain ⟨-, hafter, hbefore⟩ := List.pairwise_append.mp hsingle
  rw [herase]
  by_cases howner : entry.2.owner = token
  · subst howner
    have hempty : (before.map (·.2)).filter (·.owner = entry.2.owner) = [] := by
      refine List.filter_eq_nil_iff.mpr fun other hother => ?_
      obtain ⟨old, hold, rfl⟩ := List.mem_map.mp hother
      simpa using hbefore old hold entry List.mem_cons_self
    simp [pipeline, hempty]
  · simp [pipeline, howner]

end Pipeline

end Picket
