import Picket.CpuTimes
import Picket.Lib.Baselines

/-!
# What the shares of the CPU time add up to

Under one interval the readings that are reported follow each other, so that the shares, each
weighted with the time it is a share of, add up to the whole: no time is counted twice and none is
left out. Other intervals have no part in it.
-/

namespace Picket.Gather

open Baselines

/-- All CPU times have grown. -/
@[mk_iff]
structure TimesStat.Le (t1 t2 : TimesStat) : Prop where
  user : t1.user ≤ t2.user
  system : t1.system ≤ t2.system
  idle : t1.idle ≤ t2.idle
  nice : t1.nice ≤ t2.nice
  iowait : t1.iowait ≤ t2.iowait
  irq : t1.irq ≤ t2.irq
  softirq : t1.softirq ≤ t2.softirq
  steal : t1.steal ≤ t2.steal
  guest : t1.guest ≤ t2.guest
  guestNice : t1.guestNice ≤ t2.guestNice

instance : DecidableRel TimesStat.Le := fun t1 t2 => decidable_of_iff' _ (TimesStat.le_iff t1 t2)

/-- What the time is divided into; the time of guests is in that of the users. -/
def cpuParts : List (TimesStat → ℚ) :=
  [(·.user), (·.system), (·.idle), (·.nice), (·.iowait), (·.irq), (·.softirq), (·.steal)]

theorem TimesStat.Le.of_mem {t1 t2 : TimesStat} (hle : t1.Le t2) {part : TimesStat → ℚ}
    (hmem : part ∈ cpuParts) : part t1 ≤ part t2 := by
  simp only [cpuParts, List.mem_cons, List.not_mem_nil, or_false] at hmem
  rcases hmem with rfl | rfl | rfl | rfl | rfl | rfl | rfl | rfl
  exacts [hle.user, hle.system, hle.idle, hle.nice, hle.iowait, hle.irq, hle.softirq, hle.steal]

/-- The sum that `Total` is. -/
def TimesStat.sum (t : TimesStat) : ℚ :=
  t.user + t.system + t.idle + t.nice + t.iowait + t.irq + t.softirq + t.steal + t.guest +
    t.guestNice

section Polls

variable (total : TimesStat → ℚ) (linux : Bool)

/-- Time has passed between the two. -/
def Advanced (t1 t2 : TimesStat) : Prop :=
  ¬ (getAllBusy total linux t2).1 - (getAllBusy total linux t1).1 ≤ 0

instance : DecidableRel (Advanced total linux) := fun _ _ => inferInstanceAs (Decidable (¬ _))

/-- The readings of an interval, in order. -/
def timesAt (calls : List TimesReading) (cacheTimeMs : Uint16) : List TimesStat :=
  (calls.filter (·.cacheTimeMs = cacheTimeMs)).filterMap TimesReading.time

def reportsAt (s : CpuAgent) (calls : List TimesReading) (cacheTimeMs : Uint16) : List CpuReport :=
  (s.polls total linux calls).2.filter (·.cacheTimeMs = cacheTimeMs)

/-! ### One call -/

section Poll

variable {total linux} {s : CpuAgent} {r : TimesReading}

variable (total linux) in
theorem getCpuMetrics_lastPerCoreCpuTimes (s : CpuAgent) (cacheTimeMs : Uint16)
    (times : Option (List TimesStat)) :
    (s.getCpuMetrics total linux cacheTimeMs times).1.lastPerCoreCpuTimes =
      s.lastPerCoreCpuTimes := by
  rcases times with _ | _ | ⟨t2, rest⟩
  · rfl
  · rfl
  · rw [CpuAgent.getCpuMetrics]
    dsimp only
    split <;> rfl

theorem getPerCoreCpuUsage_lastCpuTimes (s : CpuAgent) (cacheTimeMs : Uint16)
    (perCoreTimes : Option (List TimesStat)) :
    (s.getPerCoreCpuUsage total linux cacheTimeMs perCoreTimes).1.lastCpuTimes =
      s.lastCpuTimes := by
  rcases perCoreTimes with _ | _ | ⟨t2, rest⟩ <;> rfl

variable (total linux) in
theorem getCpuMetrics_cons (s : CpuAgent) (cacheTimeMs : Uint16) (t2 : TimesStat)
    (rest : List TimesStat) :
    (s.getCpuMetrics total linux cacheTimeMs (some (t2 :: rest))).1.lastCpuTimes =
        observe 60000 {} (Advanced total linux) s.lastCpuTimes (cacheTimeMs, t2) ∧
      (s.getCpuMetrics total linux cacheTimeMs (some (t2 :: rest))).2 =
        some (if Advanced total linux (s.lastCpuTime cacheTimeMs) t2 then
          cpuMetrics total linux (s.lastCpuTime cacheTimeMs) t2
            (s.totalDelta total linux cacheTimeMs t2) else {}) := by
  rw [CpuAgent.getCpuMetrics, observe]
  dsimp only
  by_cases hdelta : (getAllBusy total linux t2).1 -
      (getAllBusy total linux (s.lastCpuTime cacheTimeMs)).1 ≤ 0
  · have hkeep : ¬ Advanced total linux (s.lastCpuTime cacheTimeMs) t2 := not_not.mpr hdelta
    rw [if_pos hdelta, if_neg hkeep]
    refine ⟨?_, rfl⟩
    rw [if_neg (show ¬ Advanced total linux (baseline 60000 {} s.lastCpuTimes cacheTimeMs) t2 from
      hkeep)]
    rfl
  · have hkeep : Advanced total linux (s.lastCpuTime cacheTimeMs) t2 := hdelta
    rw [if_neg hdelta, if_pos hkeep]
    refine ⟨?_, rfl⟩
    rw [if_pos (show Advanced total linux (baseline 60000 {} s.lastCpuTimes cacheTimeMs) t2 from
      hdelta), Function.update_idem]

theorem poll_eq (s : CpuAgent) (r : TimesReading) :
    s.poll total linux r =
      (((s.getCpuMetrics total linux r.cacheTimeMs r.times).1.getPerCoreCpuUsage total linux
        r.cacheTimeMs r.perCoreTimes).1,
      { cacheTimeMs := r.cacheTimeMs
        elapsed := (r.time.map (s.totalDelta total linux r.cacheTimeMs)).getD 0
        metrics := (s.getCpuMetrics total linux r.cacheTimeMs r.times).2
        cores := ((s.getCpuMetrics total linux r.cacheTimeMs r.times).1.getPerCoreCpuUsage total
          linux r.cacheTimeMs r.perCoreTimes).2 }) := rfl

theorem polls_cons (s : CpuAgent) (r : TimesReading) (rest : List TimesReading) :
    s.polls total linux (r :: rest) =
      (((s.poll total linux r).1.polls total linux rest).1,
        (s.poll total linux r).2 :: ((s.poll total linux r).1.polls total linux rest).2) := rfl

theorem poll_lastCpuTimes (s : CpuAgent) (r : TimesReading) :
    (s.poll total linux r).1.lastCpuTimes =
      (s.getCpuMetrics total linux r.cacheTimeMs r.times).1.lastCpuTimes := by
  rw [poll_eq, getPerCoreCpuUsage_lastCpuTimes]

theorem time_eq_some {t2 : TimesStat} (ht2 : r.time = some t2) :
    ∃ rest, r.times = some (t2 :: rest) := by
  obtain ⟨times, htimes, hhead⟩ := Option.bind_eq_some_iff.mp ht2
  obtain ⟨rest, rfl⟩ := List.head?_eq_some_iff.mp hhead
  exact ⟨rest, htimes⟩

theorem time_eq_none (hnone : r.time = none) : r.times = none ∨ r.times = some [] := by
  rcases htimes : r.times with _ | _ | ⟨t2, rest⟩
  · exact Or.inl rfl
  · exact Or.inr rfl
  · rw [TimesReading.time, htimes] at hnone
    cases hnone

variable (total linux s) in
theorem poll_of_time {t2 : TimesStat} (ht2 : r.time = some t2) :
    (s.poll total linux r).1.lastCpuTimes =
        observe 60000 {} (Advanced total linux) s.lastCpuTimes (r.cacheTimeMs, t2) ∧
      (s.poll total linux r).2.elapsed = s.totalDelta total linux r.cacheTimeMs t2 ∧
      (s.poll total linux r).2.metrics =
        some (if Advanced total linux (s.lastCpuTime r.cacheTimeMs) t2 then
          cpuMetrics total linux (s.lastCpuTime r.cacheTimeMs) t2
            (s.totalDelta total linux r.cacheTimeMs t2) else {}) := by
  obtain ⟨rest, htimes⟩ := time_eq_some ht2
  obtain ⟨hstate, hmetrics⟩ := getCpuMetrics_cons total linux s r.cacheTimeMs t2 rest
  rw [← htimes] at hstate hmetrics
  refine ⟨(poll_lastCpuTimes s r).trans hstate, ?_, hmetrics⟩
  rw [poll_eq]
  dsimp only
  rw [ht2, Option.map_some, Option.getD_some]

variable (total linux s) in
theorem poll_of_no_time (hnone : r.time = none) :
    (s.poll total linux r).1.lastCpuTimes = s.lastCpuTimes ∧
      (s.poll total linux r).2.elapsed = 0 ∧
      ∀ metrics ∈ (s.poll total linux r).2.metrics, metrics = {} := by
  rw [poll_lastCpuTimes, poll_eq]
  dsimp only
  rw [hnone]
  rcases time_eq_none hnone with htimes | htimes
  · rw [htimes]
    exact ⟨rfl, rfl, fun metrics hmem => absurd hmem (Option.not_mem_none metrics)⟩
  · rw [htimes]
    exact ⟨rfl, rfl, fun metrics hmem => (Option.some.inj hmem).symm⟩

end Poll

/-! ### The shares -/

theorem clampPercent_mem (value : ℚ) : 0 ≤ clampPercent value ∧ clampPercent value ≤ 100 :=
  ⟨le_min (by norm_num) (le_max_left _ _), min_le_left _ _⟩

theorem mul_clampPercent {d e : ℚ} (hd : 0 ≤ d) (hle : d ≤ e) (he : 0 < e) :
    e * clampPercent (d / e * 100) = 100 * d := by
  have hlow : 0 ≤ d / e * 100 := by positivity
  have hhigh : d / e * 100 ≤ 100 := by
    have hone : d / e ≤ 1 := (div_le_one he).mpr hle
    linarith
  rw [clampPercent, max_eq_right hlow, min_eq_right hhigh]
  field_simp

/-- What a report says of the time it is about, as an amount of time. -/
def CpuReport.amount (report : CpuReport) (share : CpuMetrics → ℚ) : ℚ :=
  report.elapsed * report.metrics.elim 0 share / 100

/-- An amount of the reports is the growth of what is measured. -/
structure Measures (amount : CpuReport → ℚ) (measured : TimesStat → ℚ) : Prop where
  still : ∀ t1 t2, t1.Le t2 → ¬ Advanced total linux t1 t2 → measured t2 = measured t1
  none : ∀ report, report.elapsed = 0 → amount report = 0
  share : ∀ t1 t2 report, t1.Le t2 → Advanced total linux t1 t2 →
    report.elapsed = (getAllBusy total linux t2).1 - (getAllBusy total linux t1).1 →
    report.metrics = some (cpuMetrics total linux t1 t2 report.elapsed) →
    amount report = measured t2 - measured t1

/-- A part grows no more than the whole. -/
def IsPart (part : TimesStat → ℚ) : Prop :=
  ∀ t1 t2, t1.Le t2 → part t1 ≤ part t2 ∧
    part t2 - part t1 ≤ (getAllBusy total linux t2).1 - (getAllBusy total linux t1).1

variable {total linux} in
/-- The amounts of a share add up to its part. -/
theorem IsPart.measures {part : TimesStat → ℚ} {share : CpuMetrics → ℚ}
    (hpart : IsPart total linux part)
    (hshare : ∀ t1 t2, t1.Le t2 → Advanced total linux t1 t2 →
      share (cpuMetrics total linux t1 t2
          ((getAllBusy total linux t2).1 - (getAllBusy total linux t1).1)) =
        clampPercent ((part t2 - part t1) /
          ((getAllBusy total linux t2).1 - (getAllBusy total linux t1).1) * 100)) :
    Measures total linux (·.amount share) part where
  still t1 t2 hle hstill := by
    obtain ⟨hgrows, hwhole⟩ := hpart t1 t2 hle
    linarith only [hgrows, hwhole, not_not.mp hstill]
  none report hnone := by
    rw [CpuReport.amount, hnone, zero_mul, zero_div]
  share t1 t2 report hle hadvanced helapsed hmetrics := by
    obtain ⟨hgrows, hwhole⟩ := hpart t1 t2 hle
    rw [CpuReport.amount, hmetrics, Option.elim_some, helapsed, hshare t1 t2 hle hadvanced,
      mul_clampPercent (sub_nonneg.mpr hgrows) hwhole (not_le.mp hadvanced),
      mul_div_cancel_left₀ _ (by norm_num)]

section Shares

variable {total} (hTotal : ∀ t, total t = t.sum)
include hTotal

theorem getAllBusy_all (t : TimesStat) :
    (getAllBusy total linux t).1 =
      t.user + t.system + t.idle + t.nice + t.iowait + t.irq + t.softirq + t.steal +
        if linux then 0 else t.guest + t.guestNice := by
  rw [getAllBusy]
  dsimp only
  rw [hTotal, TimesStat.sum]
  cases linux
  · rw [if_neg Bool.false_ne_true, if_neg Bool.false_ne_true]
    ring
  · rw [if_pos rfl, if_pos rfl]
    ring

theorem getAllBusy_sub (t1 t2 : TimesStat) :
    (getAllBusy total linux t2).1 - (getAllBusy total linux t1).1 =
      (cpuParts.map fun part => part t2 - part t1).sum +
        if linux then 0 else (t2.guest - t1.guest) + (t2.guestNice - t1.guestNice) := by
  rw [getAllBusy_all linux hTotal, getAllBusy_all linux hTotal]
  simp only [cpuParts, List.map_cons, List.map_nil, List.sum_cons, List.sum_nil]
  cases linux
  · rw [if_neg Bool.false_ne_true, if_neg Bool.false_ne_true, if_neg Bool.false_ne_true]
    ring
  · rw [if_pos rfl, if_pos rfl, if_pos rfl]
    ring

theorem sum_parts_le {t1 t2 : TimesStat} (hle : t1.Le t2) :
    (cpuParts.map fun part => part t2 - part t1).sum ≤
      (getAllBusy total linux t2).1 - (getAllBusy total linux t1).1 := by
  rw [getAllBusy_sub linux hTotal]
  split
  · exact (add_zero _).ge
  · linarith only [hle.guest, hle.guestNice]

theorem all_le {t1 t2 : TimesStat} (hle : t1.Le t2) :
    (getAllBusy total linux t1).1 ≤ (getAllBusy total linux t2).1 := by
  have hsum := sum_parts_le linux hTotal hle
  simp only [cpuParts, List.map_cons, List.map_nil, List.sum_cons, List.sum_nil] at hsum
  linarith only [hsum, hle.user, hle.system, hle.idle, hle.nice, hle.iowait, hle.irq, hle.softirq,
    hle.steal]

theorem isPart_of_mem {part : TimesStat → ℚ} (hmem : part ∈ cpuParts) :
    IsPart total linux part := by
  intro t1 t2 hle
  refine ⟨hle.of_mem hmem, le_trans ?_ (sum_parts_le linux hTotal hle)⟩
  refine List.single_le_sum ?_ _ (List.mem_map_of_mem hmem)
  intro d hd
  obtain ⟨other, hother, rfl⟩ := List.mem_map.mp hd
  exact sub_nonneg.mpr (hle.of_mem hother)

theorem isPart_busy : IsPart total linux fun t => (getAllBusy total linux t).2 := by
  intro t1 t2 hle
  have hsum := sum_parts_le linux hTotal hle
  simp only [cpuParts, List.map_cons, List.map_nil, List.sum_cons, List.sum_nil] at hsum
  have hbusy (t : TimesStat) :
      (getAllBusy total linux t).2 = (getAllBusy total linux t).1 - t.idle - t.iowait := rfl
  simp only [hbusy]
  constructor
  · linarith only [hsum, hle.user, hle.system, hle.nice, hle.irq, hle.softirq, hle.steal]
  · linarith only [hle.idle, hle.iowait]

theorem measures_part {part : TimesStat → ℚ} {share : CpuMetrics → ℚ} (hmem : part ∈ cpuParts)
    (hshare : ∀ t1 t2 totalDelta, share (cpuMetrics total linux t1 t2 totalDelta) =
      clampPercent ((part t2 - part t1) / totalDelta * 100)) :
    Measures total linux (·.amount share) part :=
  (isPart_of_mem linux hTotal hmem).measures fun t1 t2 _ _ => hshare t1 t2 _

theorem measures_user : Measures total linux (·.amount (·.user)) (·.user) :=
  measures_part linux hTotal (by simp [cpuParts]) fun _ _ _ => rfl

theorem measures_system : Measures total linux (·.amount (·.system)) (·.system) :=
  measures_part linux hTotal (by simp [cpuParts]) fun _ _ _ => rfl

theorem measures_iowait : Measures total linux (·.amount (·.iowait)) (·.iowait) :=
  measures_part linux hTotal (by simp [cpuParts]) fun _ _ _ => rfl

theorem measures_steal : Measures total linux (·.amount (·.steal)) (·.steal) :=
  measures_part linux hTotal (by simp [cpuParts]) fun _ _ _ => rfl

theorem measures_idle : Measures total linux (·.amount (·.idle)) (·.idle) :=
  measures_part linux hTotal (by simp [cpuParts]) fun _ _ _ => rfl

theorem measures_total : Measures total linux (·.amount (·.total)) fun t =>
    (getAllBusy total linux t).2 := by
  refine (isPart_busy linux hTotal).measures fun t1 t2 hle hadvanced => ?_
  obtain ⟨hgrows, -⟩ := isPart_busy linux hTotal t1 t2 hle
  rw [cpuMetrics, calculateBusy]
  dsimp only
  by_cases hbusy : (getAllBusy total linux t2).2 ≤ (getAllBusy total linux t1).2
  · rw [if_pos (Or.inr hbusy), le_antisymm hbusy hgrows, sub_self, zero_div, zero_mul]
    rfl
  · have hall : ¬ (getAllBusy total linux t2).1 ≤ (getAllBusy total linux t1).1 := fun hall =>
      hadvanced (sub_nonpos.mpr hall)
    rw [if_neg (not_or.mpr ⟨hall, hbusy⟩)]

theorem measures_elapsed : Measures total linux (·.elapsed) fun t =>
    (getAllBusy total linux t).1 where
  still _ _ hle hstill :=
    le_antisymm (sub_nonpos.mp (not_not.mp hstill)) (all_le linux hTotal hle)
  none _ hnone := hnone
  share _ _ _ _ _ helapsed _ := helapsed

end Shares

/-! ### Runs -/

theorem timesAt_cons_of_ne {r : TimesReading} {cacheTimeMs : Uint16}
    (hne : r.cacheTimeMs ≠ cacheTimeMs) (rest : List TimesReading) :
    timesAt (r :: rest) cacheTimeMs = timesAt rest cacheTimeMs := by
  rw [timesAt, List.filter_cons, if_neg (by simpa using hne), timesAt]

theorem timesAt_cons_self (r : TimesReading) (rest : List TimesReading) :
    timesAt (r :: rest) r.cacheTimeMs = r.time.toList ++ timesAt rest r.cacheTimeMs := by
  rw [timesAt, List.filter_cons, if_pos (by simp), List.filterMap_cons, timesAt]
  cases r.time <;> rfl

section Sum

variable {total linux} {s : CpuAgent} {r : TimesReading} {amount : CpuReport → ℚ}
  {measured : TimesStat → ℚ} (hTotal : ∀ t, total t = t.sum)

theorem poll_lastCpuTimes_of_ne {cacheTimeMs : Uint16} (hne : r.cacheTimeMs ≠ cacheTimeMs) :
    (s.poll total linux r).1.lastCpuTimes cacheTimeMs = s.lastCpuTimes cacheTimeMs := by
  cases htime : r.time with
  | none => rw [(poll_of_no_time total linux s htime).1]
  | some t2 => rw [(poll_of_time total linux s htime).1, observe_of_ne _ (Ne.symm hne)]

include hTotal

/-- A reading adds its growth, and the next one is compared with it, or with one that is not
different in what is measured. -/
theorem Measures.poll (h : Measures total linux amount measured) {t1 t2 : TimesStat}
    (hstart : s.lastCpuTimes r.cacheTimeMs = some t1) (ht2 : r.time = some t2) (hle : t1.Le t2) :
    amount (s.poll total linux r).2 = measured t2 - measured t1 ∧
      ∃ t, (s.poll total linux r).1.lastCpuTimes r.cacheTimeMs = some t ∧ (t = t2 ∨ t = t1) ∧
        measured t = measured t2 := by
  obtain ⟨hnext, helapsed, hmetrics⟩ := poll_of_time total linux s ht2
  have hbase : s.lastCpuTime r.cacheTimeMs = t1 := baseline_of_eq_some hstart
  rw [CpuAgent.totalDelta, hbase] at helapsed
  rw [CpuAgent.totalDelta, hbase, ← helapsed] at hmetrics
  rw [hnext, observe_self, baseline_of_eq_some hstart]
  by_cases hadvanced : Advanced total linux t1 t2
  · rw [if_pos hadvanced] at hmetrics ⊢
    exact ⟨h.share t1 t2 _ hle hadvanced helapsed hmetrics, t2, rfl, Or.inl rfl, rfl⟩
  · have hsame := h.still t1 t2 hle hadvanced
    have hwhole := all_le linux hTotal hle
    rw [if_neg hadvanced, hsame, sub_self]
    refine ⟨h.none _ ?_, t1, rfl, Or.inr rfl, rfl⟩
    linarith only [helapsed, hwhole, not_not.mp hadvanced]

/-- **The amounts add up**, from the baseline to the last reading of the interval. -/
theorem Measures.sum (h : Measures total linux amount measured) {cacheTimeMs : Uint16}
    {t1 : TimesStat} (hstart : s.lastCpuTimes cacheTimeMs = some t1) {calls : List TimesReading}
    (hgrow : (t1 :: timesAt calls cacheTimeMs).Pairwise TimesStat.Le) :
    ((reportsAt total linux s calls cacheTimeMs).map amount).sum =
      measured ((timesAt calls cacheTimeMs).getLastD t1) - measured t1 := by
  induction calls generalizing s t1 with
  | nil => exact (sub_self _).symm
  | cons r rest ih =>
      rw [reportsAt, polls_cons, List.filter_cons]
      by_cases hkey : r.cacheTimeMs = cacheTimeMs
      · subst hkey
        rw [if_pos (by rw [poll_eq]; simp), List.map_cons, List.sum_cons]
        rw [timesAt_cons_self] at hgrow ⊢
        cases htime : r.time with
        | none =>
            obtain ⟨hsame, helapsed, -⟩ :=
              poll_of_no_time total linux s htime
            rw [htime] at hgrow
            rw [h.none _ helapsed, zero_add]
            exact ih (by rw [hsame, hstart]) hgrow
        | some t2 =>
            rw [htime] at hgrow
            obtain ⟨hbelow, hrest⟩ := List.pairwise_cons.mp hgrow
            obtain ⟨hadds, t, hnext, hwhich, hmeasured⟩ :=
              h.poll hTotal hstart htime (hbelow t2 List.mem_cons_self)
            have hlast : measured ((timesAt rest r.cacheTimeMs).getLastD t) =
                measured ((timesAt rest r.cacheTimeMs).getLastD t2) := by
              cases timesAt rest r.cacheTimeMs with
              | nil => exact hmeasured
              | cons => rfl
            have hgrow' : (t :: timesAt rest r.cacheTimeMs).Pairwise TimesStat.Le := by
              rcases hwhich with rfl | rfl
              · exact hrest
              · exact List.pairwise_cons.mpr
                  ⟨fun t' ht' => hbelow t' (List.mem_cons_of_mem _ ht'), hrest.of_cons⟩
            have hsum := ih hnext hgrow'
            rw [reportsAt] at hsum
            rw [hadds, hsum, hlast, hmeasured, Option.toList_some, List.singleton_append,
              List.getLastD_cons]
            ring
      · rw [if_neg (by rw [poll_eq]; simpa using hkey)]
        rw [timesAt_cons_of_ne hkey] at hgrow ⊢
        exact ih ((poll_lastCpuTimes_of_ne hkey).trans hstart) hgrow

end Sum

/-- What the reports of an interval say of the time between two readings: where all of it went. -/
structure Accounted (t1 t2 : TimesStat) (reports : List CpuReport) : Prop where
  elapsed : (reports.map (·.elapsed)).sum =
    (getAllBusy total linux t2).1 - (getAllBusy total linux t1).1
  busy : (reports.map (·.amount (·.total))).sum =
    (getAllBusy total linux t2).2 - (getAllBusy total linux t1).2
  user : (reports.map (·.amount (·.user))).sum = t2.user - t1.user
  system : (reports.map (·.amount (·.system))).sum = t2.system - t1.system
  iowait : (reports.map (·.amount (·.iowait))).sum = t2.iowait - t1.iowait
  steal : (reports.map (·.amount (·.steal))).sum = t2.steal - t1.steal
  idle : (reports.map (·.amount (·.idle))).sum = t2.idle - t1.idle

variable {total} in
/-- **No CPU time is counted twice or left out.** -/
theorem cpuTime_accounted (hTotal : ∀ t, total t = t.sum) {s : CpuAgent} {cacheTimeMs : Uint16}
    {t1 : TimesStat} (hstart : s.lastCpuTimes cacheTimeMs = some t1) {calls : List TimesReading}
    (hgrow : (t1 :: timesAt calls cacheTimeMs).Pairwise TimesStat.Le) :
    Accounted total linux t1 ((timesAt calls cacheTimeMs).getLastD t1)
      (reportsAt total linux s calls cacheTimeMs) where
  elapsed := (measures_elapsed linux hTotal).sum hTotal hstart hgrow
  busy := (measures_total linux hTotal).sum hTotal hstart hgrow
  user := (measures_user linux hTotal).sum hTotal hstart hgrow
  system := (measures_system linux hTotal).sum hTotal hstart hgrow
  iowait := (measures_iowait linux hTotal).sum hTotal hstart hgrow
  steal := (measures_steal linux hTotal).sum hTotal hstart hgrow
  idle := (measures_idle linux hTotal).sum hTotal hstart hgrow

/-- Two cores; users, the system, interrupts, disks and other guests of the host all take time. -/
def busyTimes (cacheTimeMs : Uint16) (user iowait idle : ℚ) : TimesReading where
  cacheTimeMs := cacheTimeMs
  times := some
    [{ user, system := user / 2, idle, nice := 1, iowait, irq := 2, softirq := user / 4
       steal := iowait / 2, guest := user / 5 }]
  perCoreTimes := some
    [{ user, system := user / 2, idle := idle / 2 }, { iowait, idle := idle / 2 }]

/-- Calls at one second and at a minute, some of which fail or read nothing. -/
def sixPolls : List TimesReading :=
  [busyTimes 1000 20 3 100, busyTimes 60000 40 5 160,
    { cacheTimeMs := 60000, times := none, perCoreTimes := none },
    { cacheTimeMs := 60000, times := some [], perCoreTimes := some [] },
    busyTimes 1000 50 8 200, busyTimes 60000 90 8 230]

def firstTimes : TimesStat :=
  { user := 10, system := 5, idle := 80, nice := 1, iowait := 2, irq := 2, softirq := 1 }

theorem cpuTime_accounted_sixPolls :
    Accounted TimesStat.sum true firstTimes
      { user := 90, system := 45, idle := 230, nice := 1, iowait := 8, irq := 2, softirq := 45 / 2
        steal := 4, guest := 18 }
      (reportsAt TimesStat.sum true
        { lastCpuTimes := Function.update (fun _ => none) 60000 (some firstTimes) } sixPolls
        60000) := by
  have hgrow : (firstTimes :: timesAt sixPolls 60000).Pairwise TimesStat.Le := by decide +kernel
  have haccounted := cpuTime_accounted true (fun _ => rfl)
    (s := { lastCpuTimes := Function.update (fun _ => none) 60000 (some firstTimes) })
    (Function.update_self (60000 : Uint16) (some firstTimes) fun _ => none) hgrow
  have hlast : (timesAt sixPolls 60000).getLastD firstTimes =
      { user := 90, system := 45, idle := 230, nice := 1, iowait := 8, irq := 2, softirq := 45 / 2
        steal := 4, guest := 18 } := by decide +kernel
  rwa [hlast] at haccounted

/-! ### Intervals do not matter to each other -/

/-- What decides about the calls at an interval. -/
structure CpuAgent.Agree (s s' : CpuAgent) (cacheTimeMs : Uint16) : Prop where
  times : Baselines.Agree 60000 s.lastCpuTimes s'.lastCpuTimes cacheTimeMs
  cores : Baselines.Agree 60000 s.lastPerCoreCpuTimes s'.lastPerCoreCpuTimes cacheTimeMs

/-- `perCoreTimes`, unless there are none. -/
def TimesReading.coreTimes (r : TimesReading) : Option (List TimesStat) :=
  r.perCoreTimes.filter (· ≠ [])

section Agree

variable {total linux} {s s' : CpuAgent} {r : TimesReading} {cacheTimeMs : Uint16}

theorem poll_lastPerCoreCpuTimes (s : CpuAgent) (r : TimesReading) :
    (s.poll total linux r).1.lastPerCoreCpuTimes =
      r.coreTimes.elim s.lastPerCoreCpuTimes fun perCoreTimes =>
        observe 60000 [] (fun _ _ => True) s.lastPerCoreCpuTimes (r.cacheTimeMs, perCoreTimes) := by
  have hcores := getCpuMetrics_lastPerCoreCpuTimes total linux s r.cacheTimeMs r.times
  rw [poll_eq, TimesReading.coreTimes]
  dsimp only
  rcases r.perCoreTimes with _ | _ | ⟨t, rest⟩
  · exact hcores
  · exact hcores
  · rw [CpuAgent.getPerCoreCpuUsage, hcores]
    · rfl
    · exact List.cons_ne_nil t rest

theorem getCpuMetrics_congr (hsame : s.lastCpuTime cacheTimeMs = s'.lastCpuTime cacheTimeMs)
    (times : Option (List TimesStat)) :
    (s.getCpuMetrics total linux cacheTimeMs times).2 =
      (s'.getCpuMetrics total linux cacheTimeMs times).2 := by
  rcases times with _ | _ | ⟨t2, rest⟩
  · rfl
  · rfl
  · rw [(getCpuMetrics_cons total linux s cacheTimeMs t2 rest).2,
      (getCpuMetrics_cons total linux s' cacheTimeMs t2 rest).2, CpuAgent.totalDelta,
      CpuAgent.totalDelta, hsame]

theorem getPerCoreCpuUsage_congr
    (hsame : s.lastPerCoreCpuTime cacheTimeMs = s'.lastPerCoreCpuTime cacheTimeMs)
    (perCoreTimes : Option (List TimesStat)) :
    (s.getPerCoreCpuUsage total linux cacheTimeMs perCoreTimes).2 =
      (s'.getPerCoreCpuUsage total linux cacheTimeMs perCoreTimes).2 := by
  rcases perCoreTimes with _ | _ | ⟨t, rest⟩
  · rfl
  · rfl
  · rw [CpuAgent.getPerCoreCpuUsage, CpuAgent.getPerCoreCpuUsage, hsame] <;>
      exact List.cons_ne_nil t rest

namespace CpuAgent.Agree

variable (h : s.Agree s' cacheTimeMs)
include h

variable (total linux) in
theorem poll (r : TimesReading) :
    (s.poll total linux r).1.Agree (s'.poll total linux r).1 cacheTimeMs where
  times := by
    cases htime : r.time with
    | none =>
        rw [(poll_of_no_time total linux s htime).1, (poll_of_no_time total linux s' htime).1]
        exact h.times
    | some t2 =>
        rw [(poll_of_time total linux s htime).1, (poll_of_time total linux s' htime).1]
        exact h.times.observe _
  cores := by
    rw [poll_lastPerCoreCpuTimes, poll_lastPerCoreCpuTimes]
    cases r.coreTimes with
    | none => exact h.cores
    | some perCoreTimes =>
        rw [Option.elim_some, Option.elim_some]
        exact h.cores.observe (r.cacheTimeMs, perCoreTimes)

theorem poll_of_ne (hne : r.cacheTimeMs ≠ cacheTimeMs) (hdefault : r.cacheTimeMs ≠ 60000) :
    (s.poll total linux r).1.Agree s' cacheTimeMs where
  times := by
    cases htime : r.time with
    | none =>
        rw [(poll_of_no_time total linux s htime).1]
        exact h.times
    | some t2 =>
        rw [(poll_of_time total linux s htime).1]
        exact h.times.observe_of_ne hne hdefault _
  cores := by
    rw [poll_lastPerCoreCpuTimes]
    cases r.coreTimes with
    | none => exact h.cores
    | some perCoreTimes =>
        rw [Option.elim_some]
        exact h.cores.observe_of_ne hne hdefault perCoreTimes

theorem report_eq (hkey : r.cacheTimeMs = cacheTimeMs) :
    (s.poll total linux r).2 = (s'.poll total linux r).2 := by
  subst hkey
  have htimes : s.lastCpuTime r.cacheTimeMs = s'.lastCpuTime r.cacheTimeMs := h.times.baseline_eq
  have hcores : s.lastPerCoreCpuTime r.cacheTimeMs = s'.lastPerCoreCpuTime r.cacheTimeMs :=
    h.cores.baseline_eq
  have hkept (s : CpuAgent) :
      (s.getCpuMetrics total linux r.cacheTimeMs r.times).1.lastPerCoreCpuTime r.cacheTimeMs =
        s.lastPerCoreCpuTime r.cacheTimeMs := by
    rw [lastPerCoreCpuTime, getCpuMetrics_lastPerCoreCpuTimes, lastPerCoreCpuTime]
  have hdelta :
      s.totalDelta total linux r.cacheTimeMs = s'.totalDelta total linux r.cacheTimeMs := by
    funext t2
    rw [totalDelta, totalDelta, htimes]
  rw [poll_eq, poll_eq]
  dsimp only
  rw [hdelta, getCpuMetrics_congr htimes,
    getPerCoreCpuUsage_congr ((hkept s).trans (hcores.trans (hkept s').symm))]

end CpuAgent.Agree

end Agree

/-- **Calls at other intervals make no difference**, but for those at the interval that the others
start with. -/
theorem reportsAt_filter (s : CpuAgent) (calls : List TimesReading) (cacheTimeMs : Uint16) :
    reportsAt total linux s calls cacheTimeMs =
      reportsAt total linux s
        (calls.filter fun r => r.cacheTimeMs = cacheTimeMs ∨ r.cacheTimeMs = 60000)
        cacheTimeMs := by
  suffices hgeneral : ∀ s s' : CpuAgent, s.Agree s' cacheTimeMs →
      reportsAt total linux s calls cacheTimeMs =
        reportsAt total linux s'
          (calls.filter fun r => r.cacheTimeMs = cacheTimeMs ∨ r.cacheTimeMs = 60000)
          cacheTimeMs from hgeneral s s ⟨⟨rfl, rfl⟩, ⟨rfl, rfl⟩⟩
  induction calls with
  | nil => exact fun _ _ _ => rfl
  | cons r rest ih =>
      intro s s' hagree
      by_cases hrelevant : r.cacheTimeMs = cacheTimeMs ∨ r.cacheTimeMs = 60000
      · rw [List.filter_cons, if_pos (by simpa using hrelevant)]
        have hrest := ih _ _ (hagree.poll total linux r)
        rw [reportsAt, reportsAt] at hrest ⊢
        rw [polls_cons, polls_cons, List.filter_cons, List.filter_cons, hrest]
        by_cases hkey : r.cacheTimeMs = cacheTimeMs
        · rw [hagree.report_eq hkey]
        · rw [if_neg (by rw [poll_eq]; simpa using hkey),
            if_neg (by rw [poll_eq]; simpa using hkey)]
      · obtain ⟨hkey, hdefault⟩ := not_or.mp hrelevant
        rw [List.filter_cons, if_neg (by simpa using hrelevant), reportsAt, polls_cons,
          List.filter_cons, if_neg (by rw [poll_eq]; simpa using hkey)]
        exact ih _ _ (hagree.poll_of_ne hkey hdefault)

/-! ### What is left of a whole -/

/-- What is sent are percentages, and where time has passed, nothing else than the parts of the
whole. -/
structure CpuReport.Consistent (report : CpuReport) : Prop where
  cpu : 0 ≤ (report.updateCpu {}).cpu ∧ (report.updateCpu {}).cpu ≤ 100
  breakdown : ∀ share ∈ (report.updateCpu {}).cpuBreakdown, 0 ≤ share ∧ share ≤ 100
  cores : ∀ usage ∈ (report.updateCpu {}).cpuCoresUsage, usage.val ≤ 100
  whole : ∀ metrics ∈ report.metrics, 0 < report.elapsed →
    metrics.total + metrics.iowait + metrics.idle = 100
  parts : ∀ metrics ∈ report.metrics, metrics.user + metrics.system + metrics.steal ≤ metrics.total

theorem updateCpu_cpu (report : CpuReport) :
    (report.updateCpu {}).cpu = report.metrics.elim 0 (twoDecimals ·.total) := by
  rcases report with ⟨_, _, _ | _, _ | _⟩ <;> rfl

theorem updateCpu_cpuBreakdown (report : CpuReport) :
    (report.updateCpu {}).cpuBreakdown = report.metrics.elim [] fun metrics =>
      [(·.user), (·.system), (·.iowait), (·.steal), CpuMetrics.idle].map
        (twoDecimals <| · metrics) := by
  rcases report with ⟨_, _, _ | _, _ | _⟩ <;> rfl

theorem updateCpu_cpuCoresUsage (report : CpuReport) :
    (report.updateCpu {}).cpuCoresUsage = report.cores.getD [] := by
  rcases report with ⟨_, _, _ | _, _ | _⟩ <;> rfl

theorem twoDecimals_percent {value : ℚ} (h : 0 ≤ value ∧ value ≤ 100) :
    0 ≤ twoDecimals value ∧ twoDecimals value ≤ 100 :=
  ⟨Rounding.roundTo_nonneg h.1,
    Rounding.roundTo_le (by norm_num) h.2 (Rounding.onGrid_natCast (by norm_num) 100)⟩

/-- All shares are percentages. -/
def CpuMetrics.Percentages (metrics : CpuMetrics) : Prop :=
  ∀ share ∈ [CpuMetrics.total, (·.user), (·.system), (·.iowait), (·.steal), (·.idle)],
    0 ≤ share metrics ∧ share metrics ≤ 100

theorem CpuMetrics.percentages_zero : CpuMetrics.Percentages {} := by
  intro share hshare
  simp only [List.mem_cons, List.not_mem_nil, or_false] at hshare
  rcases hshare with rfl | rfl | rfl | rfl | rfl | rfl <;> norm_num

theorem calculateBusy_mem (t1 t2 : TimesStat) :
    0 ≤ calculateBusy total linux t1 t2 ∧ calculateBusy total linux t1 t2 ≤ 100 := by
  rw [calculateBusy]
  dsimp only
  split
  · norm_num
  · exact clampPercent_mem _

theorem cpuMetrics_percentages (t1 t2 : TimesStat) (totalDelta : ℚ) :
    (cpuMetrics total linux t1 t2 totalDelta).Percentages := by
  intro share hshare
  simp only [List.mem_cons, List.not_mem_nil, or_false] at hshare
  rcases hshare with rfl | rfl | rfl | rfl | rfl | rfl
  · exact calculateBusy_mem total linux t1 t2
  all_goals exact clampPercent_mem _

theorem usage_le (t1 t2 : TimesStat) :
    (Fin.ofNat (2 ^ 8) (Rounding.roundHalfAway (calculateBusy total linux t1 t2)).toNat).val ≤
      100 := by
  have hround : Rounding.roundHalfAway (calculateBusy total linux t1 t2) ≤ 100 := by
    have hmono := Rounding.roundHalfAway_mono (calculateBusy_mem total linux t1 t2).2
    rwa [show (100 : ℚ) = ((100 : ℤ) : ℚ) by norm_num, Rounding.roundHalfAway_intCast] at hmono
  refine (Nat.mod_le _ _).trans ?_
  omega

theorem getPerCoreCpuUsage_le (s : CpuAgent) (cacheTimeMs : Uint16)
    (perCoreTimes : Option (List TimesStat)) :
    ∀ cores ∈ (s.getPerCoreCpuUsage total linux cacheTimeMs perCoreTimes).2, ∀ usage ∈ cores,
      usage.val ≤ 100 := by
  intro cores hcores usage husage
  rcases perCoreTimes with _ | _ | ⟨t, rest⟩
  · cases hcores
  · obtain rfl := Option.some.inj hcores
    cases husage
  · rw [CpuAgent.getPerCoreCpuUsage] at hcores
    · obtain rfl := Option.some.inj hcores
      rw [← List.map_uncurry_zip_eq_zipWith] at husage
      obtain ⟨pair, -, rfl⟩ := List.mem_map.mp husage
      exact usage_le total linux pair.1 pair.2
    · exact List.cons_ne_nil t rest

section Consistent

variable {total} {s : CpuAgent} {r : TimesReading} (hTotal : ∀ t, total t = t.sum)
include hTotal

/-- Where time has passed, the shares are those of the parts in the whole. -/
theorem cpuMetrics_whole {t1 t2 : TimesStat} (hle : t1.Le t2)
    (hadvanced : Advanced total linux t1 t2) :
    let metrics := cpuMetrics total linux t1 t2
      ((getAllBusy total linux t2).1 - (getAllBusy total linux t1).1)
    metrics.total + metrics.iowait + metrics.idle = 100 ∧
      metrics.user + metrics.system + metrics.steal ≤ metrics.total := by
  intro metrics
  set e := (getAllBusy total linux t2).1 - (getAllBusy total linux t1).1
  have he : 0 < e := not_le.mp hadvanced
  have hpart {share : CpuMetrics → ℚ} {part : TimesStat → ℚ}
      (h : Measures total linux (·.amount share) part) :
      e * share metrics = 100 * (part t2 - part t1) := by
    have hshare := h.share t1 t2
      { cacheTimeMs := 0, elapsed := e, metrics := some metrics, cores := none }
      hle hadvanced rfl rfl
    rw [CpuReport.amount, Option.elim_some] at hshare
    linarith only [hshare]
  have hbusy := hpart (measures_total linux hTotal)
  have hiowait := hpart (measures_iowait linux hTotal)
  have hidle := hpart (measures_idle linux hTotal)
  have hrest (t : TimesStat) :
      (getAllBusy total linux t).2 = (getAllBusy total linux t).1 - t.idle - t.iowait := rfl
  rw [hrest, hrest] at hbusy
  constructor
  · refine mul_left_cancel₀ he.ne' ?_
    linarith only [hbusy, hiowait, hidle, show e = _ from rfl]
  · have huser := hpart (measures_user linux hTotal)
    have hsystem := hpart (measures_system linux hTotal)
    have hsteal := hpart (measures_steal linux hTotal)
    have hsum := sum_parts_le linux hTotal hle
    simp only [cpuParts, List.map_cons, List.map_nil, List.sum_cons, List.sum_nil] at hsum
    refine le_of_mul_le_mul_left ?_ he
    linarith only [hbusy, huser, hsystem, hsteal, hsum, hle.nice, hle.irq, hle.softirq]

theorem poll_metrics (hle : ∀ t2 ∈ r.time, (s.lastCpuTime r.cacheTimeMs).Le t2) :
    ∀ metrics ∈ (s.poll total linux r).2.metrics, metrics.Percentages ∧
      (0 < (s.poll total linux r).2.elapsed →
        metrics.total + metrics.iowait + metrics.idle = 100) ∧
      metrics.user + metrics.system + metrics.steal ≤ metrics.total := by
  intro metrics hmetrics
  cases htime : r.time with
  | none =>
      obtain ⟨-, helapsed, hnothing⟩ := poll_of_no_time total linux s htime
      rw [hnothing metrics hmetrics, helapsed]
      exact ⟨CpuMetrics.percentages_zero, fun h => absurd h (lt_irrefl 0), by norm_num⟩
  | some t2 =>
      obtain ⟨-, helapsed, hgiven⟩ := poll_of_time total linux s htime
      obtain rfl := Option.some.inj (hgiven.symm.trans hmetrics)
      by_cases hadvanced : Advanced total linux (s.lastCpuTime r.cacheTimeMs) t2
      · rw [if_pos hadvanced]
        obtain ⟨hwhole, hparts⟩ := cpuMetrics_whole linux hTotal (hle t2 htime) hadvanced
        exact ⟨cpuMetrics_percentages total linux _ _ _, fun _ => hwhole, hparts⟩
      · rw [if_neg hadvanced, helapsed]
        exact ⟨CpuMetrics.percentages_zero,
          fun h => absurd h (not_lt.mpr (not_not.mp hadvanced)), by norm_num⟩

theorem poll_consistent (hle : ∀ t2 ∈ r.time, (s.lastCpuTime r.cacheTimeMs).Le t2) :
    (s.poll total linux r).2.Consistent where
  cpu := by
    cases hmetrics : (s.poll total linux r).2.metrics with
    | none =>
        rw [updateCpu_cpu, hmetrics]
        norm_num
    | some metrics =>
        rw [updateCpu_cpu, hmetrics]
        exact twoDecimals_percent ((poll_metrics linux hTotal hle metrics hmetrics).1 _ (by simp))
  breakdown := by
    rw [updateCpu_cpuBreakdown]
    cases hmetrics : (s.poll total linux r).2.metrics with
    | none => exact List.forall_mem_nil _
    | some metrics =>
        intro value hvalue
        obtain ⟨share, hshare, rfl⟩ := List.mem_map.mp hvalue
        exact twoDecimals_percent
          ((poll_metrics linux hTotal hle metrics hmetrics).1 share (List.mem_cons_of_mem _ hshare))
  cores := by
    rw [updateCpu_cpuCoresUsage]
    cases hcores : (s.poll total linux r).2.cores with
    | none => exact List.forall_mem_nil _
    | some cores =>
        exact getPerCoreCpuUsage_le total linux _ r.cacheTimeMs r.perCoreTimes cores hcores
  whole metrics hmetrics := (poll_metrics linux hTotal hle metrics hmetrics).2.1
  parts metrics hmetrics := (poll_metrics linux hTotal hle metrics hmetrics).2.2

/-- **Every report of a run divides its time**, as long as times grow. -/
theorem polls_consistent {calls : List TimesReading}
    (hstart : ∀ cacheTimeMs, ∀ t ∈ calls.filterMap TimesReading.time,
      (s.lastCpuTime cacheTimeMs).Le t)
    (hgrow : (calls.filterMap TimesReading.time).Pairwise TimesStat.Le) :
    ∀ report ∈ (s.polls total linux calls).2, report.Consistent := by
  induction calls generalizing s with
  | nil => exact List.forall_mem_nil _
  | cons r rest ih =>
      rw [polls_cons]
      rw [List.filterMap_cons] at hstart hgrow
      cases htime : r.time with
      | none =>
          rw [htime] at hstart hgrow
          have hsame := (poll_of_no_time total linux s htime).1
          refine List.forall_mem_cons.mpr ⟨poll_consistent linux hTotal ?_, ih ?_ hgrow⟩
          · intro t2 ht2
            rw [htime] at ht2
            cases ht2
          · intro cacheTimeMs
            rw [CpuAgent.lastCpuTime, hsame]
            exact hstart cacheTimeMs
      | some t2 =>
          rw [htime] at hstart hgrow
          obtain ⟨hbelow, hrest⟩ := List.pairwise_cons.mp hgrow
          refine List.forall_mem_cons.mpr ⟨poll_consistent linux hTotal ?_, ih ?_ hrest⟩
          · intro t ht
            obtain rfl := Option.some.inj (htime.symm.trans ht)
            exact hstart r.cacheTimeMs _ List.mem_cons_self
          · intro cacheTimeMs t ht
            have hnext : TimesStat.Le (baseline 60000 {} (observe 60000 {} (Advanced total linux)
                s.lastCpuTimes (r.cacheTimeMs, _)) cacheTimeMs) t :=
              baseline_observe (P := fun t1 => TimesStat.Le t1 t)
                (fun k => hstart k t (List.mem_cons_of_mem _ ht)) r.cacheTimeMs (hbelow t ht)
                cacheTimeMs
            rw [← (poll_of_time total linux s htime).1] at hnext
            exact hnext

omit hTotal in
theorem polls_consistent_sixPolls :
    (CpuAgent.polls TimesStat.sum true {} sixPolls).2.length = 6 ∧
      ∀ report ∈ (CpuAgent.polls TimesStat.sum true {} sixPolls).2, report.Consistent := by
  refine ⟨rfl, polls_consistent true (fun _ => rfl) (fun _ => ?_) (by decide +kernel)⟩
  change ∀ t ∈ sixPolls.filterMap TimesReading.time, TimesStat.Le {} t
  decide +kernel

end Consistent

end Polls

end Picket.Gather
