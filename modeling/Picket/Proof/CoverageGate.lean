import Picket.Proof.WindowAverage

/-!
# When a window has enough records

An alert on an average is decided only when enough records of the window contributed. They are
counted in one byte: a full window of more than 255 records passes for a short one, or divides its
sum by what is left of the number. Besides, an average that is close to the threshold may be rounded
to the other side of it.
-/

namespace Picket

open FloatingPoint

/-! ### The decision -/

/-- A value lies on the other side of the threshold from the alert's state. -/
def SystemAlertData.crossedBy (ar : Arithmetic) (alert : SystemAlertData) (x : Value) : Prop :=
  ({ alert with val := x, threshold := ar.double alert.alertData.value } : SystemAlertData).crossed

instance (ar : Arithmetic) (alert : SystemAlertData) (x : Value) :
    Decidable (alert.crossedBy ar x) := by
  unfold SystemAlertData.crossedBy
  infer_instance

section Decision

variable (ar : Arithmetic) {now : ℤ} {alert : SystemAlertData}

theorem sent_evaluate (alert : SystemAlertData) :
    (evaluate ar alert).sent = true ↔
      (evaluate ar alert).compared = true ∧
        ({ alert with val := (averageAlert ar alert).val } : SystemAlertData).crossed := by
  have hcrossed : (averageAlert ar alert).crossed =
      ({ alert with val := (averageAlert ar alert).val } : SystemAlertData).crossed := by
    unfold averageAlert
    split <;> rfl
  unfold evaluate
  dsimp only
  rw [hcrossed]
  split
  · simp
  · simp

theorem count_evaluate (alert : SystemAlertData) :
    (evaluate ar alert).alert.count = alert.count := by
  have haverage := count_averageAlert ar alert
  unfold evaluate
  dsimp only
  split <;> exact haverage

variable (records : List (ℤ × Stats)) (hselected : Selected ar now alert)
include hselected

theorem crossed_summed (x : Value) :
    ({ summed ar records alert with val := x } : SystemAlertData).crossed ↔
      alert.crossedBy ar x := by
  have hfixed := fixed_summed ar records alert
  have htriggered : (summed ar records alert).triggered = alert.triggered :=
    congrArg (fun fixed => fixed.2.2.2.1) hfixed
  have hthreshold : (summed ar records alert).threshold = ar.double alert.alertData.value :=
    (congrArg (fun fixed => fixed.2.2.1) hfixed).trans hselected.threshold
  unfold SystemAlertData.crossedBy SystemAlertData.crossed isLowAlert
  dsimp only
  rw [htriggered, hthreshold]

theorem sent_summed :
    (evaluate ar (summed ar records alert)).sent = true ↔
      (evaluate ar (summed ar records alert)).compared = true ∧
        alert.crossedBy ar (average ar alert.name (contributors ar alert.time records)
          (number alert.name (contributors ar alert.time records) % 2 ^ 8)) := by
  rw [sent_evaluate, crossed_summed ar records hselected,
    val_averageAlert_summed ar records hselected]

end Decision

/-! ### The number of contributing records -/

/-- How many records of the window have contributed. -/
def SystemAlertData.contributing (alert : SystemAlertData) (records : List (ℤ × Stats)) : ℕ :=
  number alert.name (contributors .unrounded alert.time records)

/-- The sum of what the records of the window contribute, divided by a number. -/
def SystemAlertData.averageOf (ar : Arithmetic) (alert : SystemAlertData)
    (records : List (ℤ × Stats)) (n : ℕ) : Value :=
  average ar alert.name (contributors ar alert.time records) n

/-- The alert is sent only when enough records contributed, and whenever enough did and their
average has crossed, be it computed as the code does or without rounding; an average that is
compared is of some records. -/
structure CoverageGate (ar : Arithmetic) (alerts : List CachedAlertData) (now : ℤ)
    (data : CombinedData) (records : List (ℤ × Stats)) (alert : SystemAlertData) : Prop where
  decided : ∃ e, AlertOutcome .ieee alerts now data records alert e
  only : ∀ e, AlertOutcome .ieee alerts now data records alert e → e.sent = true →
    alert.enough (alert.contributing records)
  whenever : ∀ e, AlertOutcome .ieee alerts now data records alert e →
    alert.enough (alert.contributing records) →
    alert.crossedBy ar (alert.averageOf ar records (alert.contributing records)) → e.sent = true
  divisor : ∀ e, AlertOutcome .ieee alerts now data records alert e → e.compared = true →
    e.alert.count ≠ 0

/-- The records fit in their byte, or their average has not crossed, or what is left of their number
is enough and leads to the same. -/
def CountFits (ar : Arithmetic) (records : List (ℤ × Stats)) (alert : SystemAlertData) : Prop :=
  2 ^ 8 ≤ alert.contributing records →
    alert.crossedBy ar (alert.averageOf ar records (alert.contributing records)) →
    alert.enough (alert.contributing records % 2 ^ 8) ∧
      alert.crossedBy .ieee (alert.averageOf .ieee records (alert.contributing records % 2 ^ 8))

/-- Rounding does not take an average that has crossed the threshold back over it. -/
def RoundingKeeps (ar : Arithmetic) (records : List (ℤ × Stats)) (alert : SystemAlertData) : Prop :=
  alert.contributing records < 2 ^ 8 → alert.enough (alert.contributing records) →
    alert.crossedBy ar (alert.averageOf ar records (alert.contributing records)) →
    alert.crossedBy .ieee (alert.averageOf .ieee records (alert.contributing records))

/-- More records than a byte counts are enough for any alert. -/
theorem enough_of_le {alert : SystemAlertData} {n : ℕ} (hn : 2 ^ 8 ≤ n) : alert.enough n := by
  have hmin : (alert.min.val : ℚ) ≤ 255 := by
    exact_mod_cast Nat.lt_succ_iff.mp alert.min.isLt
  have hn' : (256 : ℚ) ≤ n := by exact_mod_cast hn
  unfold SystemAlertData.enough
  linarith

section CoverageGate

variable {alerts : List CachedAlertData} {now : ℤ} {data : CombinedData} {oldest : ℤ × Stats}
  {records : List (ℤ × Stats)} {alert : SystemAlertData}

theorem compared_iff_enough (hselected : Selected .ieee now alert) :
    (evaluate .ieee (summed .ieee records alert)).compared = true ↔
      alert.enough (alert.contributing records % 2 ^ 8) := by
  rw [compared_summed records hselected, number_contributors .ieee .unrounded,
    SystemAlertData.contributing]

theorem sent_iff_crossed (hselected : Selected .ieee now alert) :
    (evaluate .ieee (summed .ieee records alert)).sent = true ↔
      alert.enough (alert.contributing records % 2 ^ 8) ∧
        alert.crossedBy .ieee
          (alert.averageOf .ieee records (alert.contributing records % 2 ^ 8)) := by
  rw [sent_summed .ieee records hselected, compared_iff_enough hselected,
    number_contributors .ieee .unrounded, SystemAlertData.averageOf, SystemAlertData.contributing]

variable (halert : alert ∈ windowAlerts .ieee alerts now data oldest.1)
include halert

/-- The byte matters to more than 255 records, and rounding to all others. -/
theorem coverageGate_iff_countFits (ar : Arithmetic) :
    CoverageGate ar alerts now data (oldest :: records) alert ↔
      CountFits ar (oldest :: records) alert ∧ RoundingKeeps ar (oldest :: records) alert := by
  obtain ⟨hselected, -⟩ := selected_windowAlerts halert
  have hsent := @sent_iff_crossed now (oldest :: records) alert hselected
  have hcompared := @compared_iff_enough now (oldest :: records) alert hselected
  constructor
  · intro h
    have hwhenever := h.whenever _ ((outcome_iff halert _).mpr rfl)
    rw [hsent] at hwhenever
    refine ⟨fun hge hcrossed => ?_, fun hlt henough hcrossed => ?_⟩
    · exact hwhenever (enough_of_le hge) hcrossed
    · rw [Nat.mod_eq_of_lt hlt] at hwhenever
      exact (hwhenever henough hcrossed).2
  · rintro ⟨hwraps, hfits⟩
    refine ⟨⟨_, (outcome_iff halert _).mpr rfl⟩, fun e he hsent' => ?_,
      fun e he henough hcrossed => ?_, fun e he hcompared' => ?_⟩
    · rw [(outcome_iff halert e).mp he, hsent] at hsent'
      exact hsent'.1.mono (Nat.mod_le _ _)
    · rw [(outcome_iff halert e).mp he, hsent]
      rcases lt_or_ge (alert.contributing (oldest :: records)) (2 ^ 8) with hlt | hge
      · rw [Nat.mod_eq_of_lt hlt]
        exact ⟨henough, hfits hlt henough hcrossed⟩
      · exact hwraps hge hcrossed
    · rw [(outcome_iff halert e).mp he] at hcompared' ⊢
      have hpos := (hcompared.mp hcompared').pos hselected.one_le_min
      have hcount := count_summed .ieee (oldest :: records) hselected
      rw [number_contributors .ieee .unrounded] at hcount
      rw [count_evaluate, Fin.ne_iff_vne, hcount]
      exact hpos.ne'

/-- **When the gate counts as it should.** An alert on the average of a window is decided by the
number of records that contributed and their average in floating point exactly when that number fits
in its byte or makes no difference, and by their exact average when rounding makes none either. -/
theorem coverageGate_iff :
    (CoverageGate .ieee alerts now data (oldest :: records) alert ↔
      CountFits .ieee (oldest :: records) alert) ∧
    (CoverageGate .unrounded alerts now data (oldest :: records) alert ↔
      CountFits .unrounded (oldest :: records) alert ∧
        RoundingKeeps .unrounded (oldest :: records) alert) := by
  refine ⟨?_, coverageGate_iff_countFits halert .unrounded⟩
  rw [coverageGate_iff_countFits halert .ieee]
  exact and_iff_left fun _ _ hcrossed => hcrossed

end CoverageGate

/-- A triggered alert on 80 percent whose three records have 80 percent on average, which `float64`
rounds up. -/
example :
    let alert : SystemAlertData :=
      { alertData := { id := "a", name := .cpu, value := 80, triggered := true, min := 3 }
        name := .cpu, val := 0, threshold := (80 : ℚ), triggered := true, time := 0, min := 3 }
    let records : List (ℤ × Stats) :=
      [(minute, { cpu := 7865 / 100 }), (2 * minute, { cpu := 817 / 10 }),
        (3 * minute, { cpu := 7965 / 100 })]
    alert.crossedBy .unrounded (alert.averageOf .unrounded records 3) ∧
      ¬ alert.crossedBy .ieee (alert.averageOf .ieee records 3) := by
  decide +kernel

/-- Two records, both enough and fired on. -/
theorem coverageGate_usage :
    CoverageGate .ieee [usageAlert] (130 * 1000) usageNow usageRecords usageWindow ∧
      CoverageGate .unrounded [usageAlert] (130 * 1000) usageNow usageRecords usageWindow := by
  have hfew : ¬ 2 ^ 8 ≤ usageWindow.contributing usageRecords := by
    decide +kernel
  have hcrossed : usageWindow.crossedBy .ieee
      (usageWindow.averageOf .ieee usageRecords (usageWindow.contributing usageRecords)) := by
    decide +kernel
  obtain ⟨hrounded, hexact⟩ := @coverageGate_iff [usageAlert] (130 * 1000) usageNow
    (0, { diskPct := 50 }) usageRecords.tail usageWindow usageWindow_mem
  exact ⟨hrounded.mpr fun hge _ => absurd hge hfew,
    hexact.mpr ⟨fun hge _ => absurd hge hfew, fun _ _ _ => hcrossed⟩⟩

def busyAlert : CachedAlertData where
  id := "a"
  name := .cpu
  value := 50
  triggered := false
  min := 255

def busyWindow : SystemAlertData where
  alertData := busyAlert
  name := .cpu
  val := (99 : ℚ)
  threshold := (50 : ℚ)
  triggered := false
  time := minute
  min := 255

def busyNow : CombinedData where
  info := { cpu := 99 }

/-- A record before the window and 256 in it. -/
def busyRecords : List (ℤ × Stats) :=
  (0, {}) :: (List.range 256).map fun i => (70 * 1000 + 59 * 1000 * (i : ℤ), { cpu := 99 })

/-- Every record has a CPU usage of its own. -/
theorem averageOf_cpu (ar : Arithmetic) {alert : SystemAlertData} (hname : alert.name = .cpu)
    (records : List (ℤ × Stats)) (n : ℕ) :
    alert.averageOf ar records n = average ar .cpu (ownWindow ar alert.time records) n := by
  have hmetric : (contributors ar alert.time records).filterMap (metric ar .cpu) =
      (ownWindow ar alert.time records).filterMap (metric ar .cpu) := by
    unfold contributors ownWindow
    rw [List.filterMap_map, List.filterMap_map]
    refine List.filterMap_congr fun r _ => ?_
    rw [Function.comp_apply, readAll_snoc]
    rfl
  have hne : AlertName.cpu ≠ .disk := by decide
  rw [SystemAlertData.averageOf, hname, average, average, if_neg hne, if_neg hne, contributed,
    contributed, if_neg hne, if_neg hne, hmetric]

theorem busyWindow_mem :
    busyWindow ∈ windowAlerts .ieee [busyAlert] (256 * minute) busyNow 0 := by
  decide +kernel

/-- The average of 99 percent is over 50 percent, but of 256 records none are left to count. -/
theorem not_coverageGate_busy :
    busyWindow ∈ windowAlerts .ieee [busyAlert] (256 * minute) busyNow 0 ∧
      ¬ CoverageGate .ieee [busyAlert] (256 * minute) busyNow busyRecords busyWindow ∧
      ¬ CoverageGate .unrounded [busyAlert] (256 * minute) busyNow busyRecords busyWindow := by
  have hnumber : busyWindow.contributing busyRecords = 256 := by
    decide +kernel
  have hfew : ¬ busyWindow.enough 0 := by
    decide +kernel
  have hmem : busyWindow ∈ windowAlerts .ieee [busyAlert] (256 * minute) busyNow
      ((0, {}) : ℤ × Stats).1 := busyWindow_mem
  obtain ⟨hselected, -⟩ := selected_windowAlerts hmem
  have hunsent : (evaluate .ieee (summed .ieee busyRecords busyWindow)).sent ≠ true := by
    intro hsent
    have henough := ((sent_iff_crossed hselected).mp hsent).1
    rw [hnumber] at henough
    exact hfew henough
  have houtcome : AlertOutcome .ieee [busyAlert] (256 * minute) busyNow busyRecords busyWindow
      (evaluate .ieee (summed .ieee busyRecords busyWindow)) :=
    (outcome_iff hmem _).mpr rfl
  refine ⟨busyWindow_mem, fun h => hunsent ?_, fun h => hunsent ?_⟩
  · refine h.whenever _ houtcome (enough_of_le hnumber.ge) ?_
    rw [hnumber, averageOf_cpu _ rfl]
    decide +kernel
  · refine h.whenever _ houtcome (enough_of_le hnumber.ge) ?_
    rw [hnumber, averageOf_cpu _ rfl]
    decide +kernel

end Picket
