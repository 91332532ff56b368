import Mathlib.Data.List.Pairwise
import Picket.StreamBridge

/-!
# When the bridge times out

The idle timer is made once and never started again, so it fires an idle bound after the start
whatever is copied in between.
-/

namespace Picket.Bridge

variable {b : Setup} {schedule : Schedule} {past : List Event} {t : ℤ}

/-- Only the timers exceed a deadline. -/
theorem returns_deadlineExceeded (hreturns : Returns b schedule past t .deadlineExceeded) :
    b.idleTimer ≤ t ∨ b.lifetimeTimer ≤ t := by
  obtain ⟨c, hready, hresult⟩ := hreturns.ready
  simp only [readyCases, List.mem_append] at hready
  rcases hready with ((hctx | hidle) | hlifetime) | herrs
  · split at hctx
    · rw [List.mem_singleton.mp hctx] at hresult
      cases hresult
    · cases hctx
  · split at hidle
    · exact Or.inl ‹_›
    · cases hidle
  · split at hlifetime
    · exact Or.inr ‹_›
    · cases hlifetime
  · rw [Option.mem_toList, Option.map_eq_some_iff] at herrs
    obtain ⟨err, -, rfl⟩ := herrs
    cases err with
    | none => cases hresult
    | some err =>
        rw [Case.result] at hresult
        split at hresult <;> cases hresult

theorem readyCases_eq_nil_iff : readyCases b past t = [] ↔
    t < b.idleTimer ∧ t < b.lifetimeTimer ∧ ∀ e ∈ past, e.what = .copied := by
  have hwhat : (∀ e ∈ past, e.what = .copied) ↔
      (∀ e ∈ past, e.what ≠ .contextDone) ∧ sentErrs past = [] := by
    rw [sentErrs, List.filterMap_eq_nil_iff, ← forall₂_and]
    refine forall₂_congr fun e _ => ?_
    cases e.what <;> simp
  rw [hwhat]
  simp [readyCases, and_left_comm]

theorem exists_past {events : List Event}
    (hordered : events.Pairwise fun e e' => e.time ≤ e'.time) (t : ℤ) :
    ∃ past later, events = past ++ later ∧ (∀ e ∈ later, t ≤ e.time) ∧
      ∀ e ∈ events, e ∈ past ↔ e.time ≤ t := by
  induction events with
  | nil => exact ⟨[], [], rfl, by simp, by simp⟩
  | cons e events ih =>
      obtain ⟨hfirst, hrest⟩ := List.pairwise_cons.mp hordered
      by_cases he : e.time ≤ t
      · obtain ⟨past, later, rfl, hlater, hpast⟩ := ih hrest
        refine ⟨e :: past, later, rfl, hlater, ?_⟩
        rw [List.forall_mem_cons]
        refine ⟨iff_of_true List.mem_cons_self he, fun e' he' => ?_⟩
        rw [List.mem_cons, hpast e' he']
        exact or_iff_right_of_imp fun heq => heq ▸ he
      · have hlater : ∀ e' ∈ e :: events, ¬ e'.time ≤ t := by
          rw [List.forall_mem_cons]
          refine ⟨he, fun e' he' => ?_⟩
          have hle := hfirst e' he'
          omega
        refine ⟨[], e :: events, rfl, fun e' he' => (not_le.mp (hlater e' he')).le, ?_⟩
        exact fun e' he' => iff_of_false List.not_mem_nil (hlater e' he')

/-- The loop does not wait any longer once the idle timer has fired. -/
theorem Returns.le_idleEnd {result : Result} (hreturns : Returns b schedule past t result) :
    t ≤ b.idleEnd := by
  by_contra hlate
  rw [not_le] at hlate
  have hready := hreturns.parked b.idleEnd (le_max_right _ _) hlate
  have hbefore := (readyCases_eq_nil_iff.mp hready).1
  exact hbefore.not_ge (le_max_left _ _)

/-- Nothing but bytes comes before a return. -/
theorem Returns.not_endsBefore {result : Result} (hreturns : Returns b schedule past t result)
    (hend : b.idleEnd ≤ t) : ¬ EndsBefore b schedule := by
  rintro ⟨e, he, hwhat, hbefore⟩
  have hready := hreturns.parked _ (le_max_right e.time b.entered) (hbefore.trans_le hend)
  refine hwhat ((readyCases_eq_nil_iff.mp hready).2.2 e (List.mem_filter.mpr ⟨he, ?_⟩))
  exact decide_eq_true (le_max_left e.time b.entered)

/-- The idle timer ends the bridge if nothing else does before. -/
theorem exists_returns (hlifetime : b.idleEnd ≤ b.lifetimeTimer)
    (hends : ¬ EndsBefore b schedule) :
    ∃ past, Returns b schedule past b.idleEnd .deadlineExceeded ∧
      ∀ e ∈ schedule.events, e ∈ past ↔ e.time ≤ b.idleEnd := by
  obtain ⟨past, later, hsplit, hlater, hpast⟩ := exists_past schedule.ordered b.idleEnd
  refine ⟨past, ?_, hpast⟩
  have htimer : b.idleTimer ≤ b.idleEnd := le_max_left _ _
  refine {
    entered := le_max_right _ _
    split := ⟨later, hsplit, hlater⟩
    past_le := fun e he => (hpast e (hsplit ▸ List.mem_append_left later he)).mp he
    parked := fun s hs hbefore => ?_
    ready := ⟨.idleTimer, by simp [readyCases, htimer], rfl⟩ }
  -- a loop that has come to its `select` by then waits for the timer
  have hparked : b.idleEnd = b.idleTimer := by
    rw [Setup.idleEnd] at hbefore ⊢
    omega
  refine readyCases_eq_nil_iff.mpr ⟨hparked ▸ hbefore, hbefore.trans_le hlifetime, ?_⟩
  intro e he
  obtain ⟨he, htime⟩ := List.mem_filter.mp he
  by_contra hwhat
  exact hends ⟨e, he, hwhat, (max_le (of_decide_eq_true htime) hs).trans_lt hbefore⟩

/-- **When the bridge times out.** It times out only when it is idle exactly if nothing is copied
close to the one time at which its idle timer can end it, or something else ends it before. -/
theorem timesOutIdle_iff (b : Setup) (schedule : Schedule) :
    TimesOutIdle b schedule ↔ QuietOnceStarted b schedule := by
  have hbegun := b.begun_le
  have hidleFrom := b.idleFrom_le
  have hentered : b.lifetimeFrom ≤ b.idleEnd := b.lifetimeFrom_le.trans (le_max_right _ _)
  constructor
  · intro hidle
    rw [QuietOnceStarted, or_iff_not_imp_left, or_iff_not_imp_left]
    intro hlifetime hends e he hcopied hbefore
    have htimer : b.idleEnd ≤ b.lifetimeTimer := by
      rw [Setup.lifetimeTimer]
      omega
    obtain ⟨past, hreturns, hpast⟩ := exists_returns htimer hends
    have hquiet := (hidle past _ hreturns).resolve_right hlifetime
    exact hquiet.copied e ((hpast e he).mpr hbefore) hcopied
  · intro hquiet past t hreturns
    by_cases hover : b.begun + b.lifetimeTimeout ≤ t
    · exact Or.inr hover
    · have htimers := returns_deadlineExceeded hreturns
      have hle := hreturns.le_idleEnd
      have hfrom := hreturns.entered
      have hfired : b.idleTimer ≤ t := by
        refine htimers.resolve_right fun hlifetime => ?_
        have hlast := b.lifetimeFrom_le
        rw [Setup.lifetimeTimer] at hlifetime
        omega
      have hend : b.idleEnd ≤ t := max_le hfired hfrom
      obtain rfl : t = b.idleEnd := hle.antisymm hend
      rcases hquiet with hlifetime | hends | hcopied
      · exact absurd hlifetime hover
      · exact absurd hends (hreturns.not_endsBefore hend)
      · obtain ⟨later, hsplit, -⟩ := hreturns.split
        rw [Setup.idleTimer] at hfired
        refine Or.inl ⟨by omega, fun e he hwhat => ?_⟩
        exact hcopied e (by rw [hsplit]; exact List.mem_append_left later he) hwhat
          (hreturns.past_le e he)

/-- Ten seconds of idleness are allowed, and bytes are copied after nine. -/
def activeSchedule : Schedule where
  events := [⟨9000000000, .copied⟩]
  ordered := List.pairwise_singleton _ _

/-- The session is ended a second after its last byte. -/
theorem active_timesOut :
    ¬ TimesOutIdle
      { idle := 10000000000, lifetime := 0, begun := 0, idleFrom := 0, lifetimeFrom := 0
        entered := 0, begun_le := Int.le_refl 0, idleFrom_le := Int.le_refl 0
        lifetimeFrom_le := Int.le_refl 0 } activeSchedule := by
  intro hidle
  have hend := hidle [⟨9000000000, .copied⟩] 10000000000 {
    entered := by decide
    split := ⟨[], rfl, by simp⟩
    past_le := by simp
    parked := fun s _ hbefore => by
      have hlifetime : s < 43200000000000 := hbefore.trans (by decide)
      refine readyCases_eq_nil_iff.mpr ⟨hbefore, ?_, ?_⟩
      · exact hlifetime
      · exact fun e he => by rw [List.mem_singleton.mp (List.mem_filter.mp he).1]
    ready := ⟨.idleTimer, by decide, rfl⟩ }
  rcases hend with hquiet | hover
  · have hlast := hquiet.copied _ List.mem_cons_self rfl
    revert hlast
    decide
  · revert hover
    decide

end Picket.Bridge
