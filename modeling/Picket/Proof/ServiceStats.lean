import Picket.Lib.Transition
import Picket.SystemdServices

/-!
# The statistics of a service

A percentage is of the difference from whatever was stored last. A counter that could not be read is
stored as zero, and one that is not available as the largest number there is, so that the next
difference may be of no two readings of the counter; and the peak keeps it.
-/

namespace Picket.Gather

open Transition

/-! ### Calls and what they read -/

structure CpuReading where
  value : Option Uint64
  time : ℤ

/-- The manager, and what has been read of the counter of each unit. -/
structure ServiceRun where
  sm : SystemdManager := {}
  last : String → Option CpuReading := fun _ => none
  /-- The last reading that says how much the service has used. -/
  lastAvailable : String → Option (Uint64 × ℤ) := fun _ => none

def Unit.hasBeenActive (unit : Unit) : Bool :=
  (available unit.activeEnterTimestamp).any (· ≠ 0)

namespace ServiceRun

def read (s : ServiceRun) (unit : Unit) : ServiceRun :=
  { s with
    last := Function.update s.last unit.name (some ⟨unit.cpuUsageNSec, unit.now⟩)
    lastAvailable :=
      (available unit.cpuUsageNSec).elim s.lastAvailable fun v =>
        Function.update s.lastAvailable unit.name (some (v, unit.now)) }

def step (cfg : SystemdConfig) (s : ServiceRun) (unit : Unit) : Option ServiceRun :=
  some
    { if unit.hasBeenActive then s.read unit else s with
      sm := s.sm.updateServiceStats cfg unit }

/-- Between two available readings the counter grows by at most what the cores can do, or is
smaller. The times are short enough to be counted. -/
structure Feasible (cfg : SystemdConfig) (s : ServiceRun) (unit : Unit) : Prop where
  grows : ∀ r ∈ s.lastAvailable unit.name, ∀ v ∈ available unit.cpuUsageNSec,
    (v.val : ℤ) ≤ r.1.val + (unit.now - r.2) * cfg.numCPU
  exact : ∀ r ∈ s.last unit.name, (unit.now - r.time) * cfg.numCPU < 2 ^ 63

/-- A reading that is not available, or follows one that could not be read, is not further from what
the last call stored than the cores can have brought the counter since. -/
def NoJump (cfg : SystemdConfig) (s : ServiceRun) (unit : Unit) : Prop :=
  unit.hasBeenActive = true → ∀ r ∈ s.last unit.name, ∀ v ∈ unit.cpuUsageNSec,
    v = maxUint64 ∨ r.value = none → r.time < unit.now →
      (v.val : ℤ) ≤ (r.value.getD 0).val + (unit.now - r.time) * cfg.numCPU

/-- Without trying all numbers. -/
instance (property : Option Uint64) (P : Uint64 → Prop) [DecidablePred P] :
    Decidable (∀ v ∈ property, P v) :=
  Option.decidableForallMem property

instance (cfg : SystemdConfig) (s : ServiceRun) (unit : Unit) : Decidable (s.Feasible cfg unit) :=
  decidable_of_iff
    ((∀ r ∈ s.lastAvailable unit.name, ∀ v ∈ available unit.cpuUsageNSec,
        (v.val : ℤ) ≤ r.1.val + (unit.now - r.2) * cfg.numCPU) ∧
      ∀ r ∈ s.last unit.name, (unit.now - r.time) * cfg.numCPU < 2 ^ 63)
    ⟨fun h => ⟨h.1, h.2⟩, fun h => ⟨h.1, h.2⟩⟩

instance (cfg : SystemdConfig) (s : ServiceRun) (unit : Unit) : Decidable (s.NoJump cfg unit) := by
  unfold ServiceRun.NoJump
  infer_instance

end ServiceRun

structure Service.InRange (service : Service) : Prop where
  nonneg : 0 ≤ service.cpu
  le_peak : service.cpu ≤ service.cpuPeak
  peak_le : service.cpuPeak ≤ 100
  mem_le : service.mem ≤ service.memPeak

def SystemdManager.InRange (sm : SystemdManager) : Prop :=
  ∀ name service, sm.serviceStatsMap.get name = some service → service.InRange

def SystemdManager.PeaksLe (sm sm' : SystemdManager) : Prop :=
  ∀ name service, sm.serviceStatsMap.get name = some service →
    ∃ service', sm'.serviceStatsMap.get name = some service' ∧
      service.cpuPeak ≤ service'.cpuPeak ∧ service.memPeak ≤ service'.memPeak

/-! ### One update -/

section Update

variable {service : Service} {cores now : ℤ} {cpuUsage : Uint64}

theorem cpu_percent_le {delta : ℕ} {duration : ℤ} (hpos : 0 < duration)
    (hdelta : (delta : ℤ) ≤ duration) : twoDecimals (delta / duration * 100) ≤ 100 := by
  have hle : (delta : ℚ) / duration ≤ 1 := by
    rw [div_le_one (by exact_mod_cast hpos)]
    exact_mod_cast hdelta
  exact Rounding.roundTo_le (by norm_num) (by linarith)
    (by exact_mod_cast Rounding.onGrid_natCast (by norm_num) 100)

theorem mulInt64_of_lt {a b : ℤ} (hpos : 0 < a * b) (hlt : a * b < 2 ^ 63) :
    mulInt64 a b = a * b := by
  rw [mulInt64]
  exact Int.bmod_eq_of_le (by omega) (by omega)

/-- What the percentage is of, when the difference is no more than the cores can have done. -/
theorem inRange_updateCPUPercent (h : service.InRange) (hcores : 1 ≤ cores)
    (hexact : service.prevReadTime ≠ 0 → (now - service.prevReadTime) * cores < 2 ^ 63)
    (hjump : service.prevReadTime ≠ 0 → service.prevCpuUsage ≤ cpuUsage →
      service.prevReadTime < now → (cpuUsage.val : ℤ) ≤
        service.prevCpuUsage.val + (now - service.prevReadTime) * cores) :
    (service.updateCPUPercent cores now cpuUsage).InRange ∧
      service.cpuPeak ≤ (service.updateCPUPercent cores now cpuUsage).cpuPeak := by
  rw [Service.updateCPUPercent]
  split
  case isTrue => exact ⟨⟨le_rfl, h.nonneg.trans h.le_peak, h.peak_le, h.mem_le⟩, le_rfl⟩
  case isFalse hfirst =>
    rw [not_or, not_lt] at hfirst
    have hexact := hexact hfirst.1
    simp only
    split
    case isTrue => exact ⟨⟨h.nonneg, h.le_peak, h.peak_le, h.mem_le⟩, le_rfl⟩
    case isFalse hduration =>
      have hlater : service.prevReadTime < now := by
        rw [timeSub] at hduration
        omega
      have hpos : 0 < (now - service.prevReadTime) * cores :=
        Int.mul_pos (by omega) (by omega)
      have hsub : timeSub now service.prevReadTime = now - service.prevReadTime := by
        have hle : now - service.prevReadTime ≤ (now - service.prevReadTime) * cores :=
          le_mul_of_one_le_right (by omega) hcores
        rw [timeSub]
        omega
      have hdelta : (cpuUsage - service.prevCpuUsage).val =
          cpuUsage.val - service.prevCpuUsage.val := Fin.sub_val_of_le hfirst.2
      have hle : service.prevCpuUsage.val ≤ cpuUsage.val := hfirst.2
      have hgrown := hjump hfirst.1 hfirst.2 hlater
      rw [hsub, mulInt64_of_lt hpos hexact, hdelta]
      have hcpu : twoDecimals (((cpuUsage.val - service.prevCpuUsage.val : ℕ) : ℚ) /
          (((now - service.prevReadTime) * cores : ℤ) : ℚ) * 100) ≤ 100 :=
        cpu_percent_le hpos (by omega)
      have hnonneg : 0 ≤ twoDecimals (((cpuUsage.val - service.prevCpuUsage.val : ℕ) : ℚ) /
          (((now - service.prevReadTime) * cores : ℤ) : ℚ) * 100) :=
        Rounding.roundTo_nonneg (by positivity)
      refine ⟨⟨hnonneg, ?_, ?_, h.mem_le⟩, ?_⟩
      · dsimp only
        split
        case isTrue => exact le_rfl
        case isFalse hpeak => exact not_lt.mp hpeak
      · dsimp only
        split
        case isTrue => exact hcpu
        case isFalse => exact h.peak_le
      · dsimp only
        split
        case isTrue hpeak => exact hpeak.le
        case isFalse => exact le_rfl

end Update

/-! ### One call -/

theorem inRange_default (name : String) : ({ name } : Service).InRange :=
  ⟨le_rfl, le_rfl, by norm_num, le_rfl⟩

theorem updateServiceStats_of_active (cfg : SystemdConfig) (sm : SystemdManager) {unit : Unit}
    (hactive : unit.hasBeenActive = true) :
    sm.updateServiceStats cfg unit =
      { sm with
        serviceStatsMap :=
          sm.serviceStatsMap.put unit.name
            (((sm.serviceStatsMap.get unit.name).getD
              { name := unescapeServiceName cfg (trimService unit.name) }).update cfg unit) } := by
  rw [Unit.hasBeenActive, Option.any_eq_true] at hactive
  obtain ⟨t, ht, hne⟩ := hactive
  rw [SystemdManager.updateServiceStats]
  split
  case h_1 hnone => rw [hnone] at ht; cases ht
  case h_2 hzero =>
    rw [hzero] at ht
    rw [← Option.some.inj ht] at hne
    simp at hne
  case h_3 => rfl

theorem updateServiceStats_of_not_active (cfg : SystemdConfig) (sm : SystemdManager) {unit : Unit}
    (hactive : unit.hasBeenActive = false) : sm.updateServiceStats cfg unit = sm := by
  rw [Unit.hasBeenActive, Option.any_eq_false] at hactive
  rw [SystemdManager.updateServiceStats]
  split
  case h_1 => rfl
  case h_2 => rfl
  case h_3 t hne ht =>
    have hzero := hactive t ht
    have hzero' : t = 0 := by simpa using hzero
    exact (hne hzero').elim

/-- The memory never passes its peak, whatever is read of it. -/
theorem inRange_memory {service : Service} (h : service.InRange) (unit : Unit) :
    let memUsage := (available unit.memoryCurrent).getD 0
    let memPeak := max memUsage ((available unit.memoryPeak).getD service.memPeak)
    let service' : Service :=
      { service with
        state := parseServiceStatus unit.activeState
        sub := parseServiceSubState unit.subState
        mem := memUsage
        memPeak := max service.memPeak memPeak }
    service'.InRange ∧ service.memPeak ≤ service'.memPeak :=
  ⟨⟨h.nonneg, h.le_peak, h.peak_le, (le_max_left _ _).trans (le_max_right _ _)⟩, le_max_left _ _⟩

theorem memPeak_updateCPUPercent (service : Service) (coreCount now : ℤ) (cpuUsage : Uint64) :
    (service.updateCPUPercent coreCount now cpuUsage).memPeak = service.memPeak ∧
      (service.updateCPUPercent coreCount now cpuUsage).prevReadTime = now ∧
      (service.updateCPUPercent coreCount now cpuUsage).prevCpuUsage = cpuUsage := by
  rw [Service.updateCPUPercent]
  split
  · exact ⟨rfl, rfl, rfl⟩
  · simp only
    split <;> exact ⟨rfl, rfl, rfl⟩

theorem inRange_update {cfg : SystemdConfig} {service : Service} {unit : Unit}
    (h : service.InRange) (hcores : 1 ≤ cfg.numCPU)
    (hexact : service.prevReadTime ≠ 0 →
      (unit.now - service.prevReadTime) * cfg.numCPU < 2 ^ 63)
    (hjump : service.prevReadTime ≠ 0 → service.prevCpuUsage ≤ unit.cpuUsageNSec.getD 0 →
      service.prevReadTime < unit.now → ((unit.cpuUsageNSec.getD 0).val : ℤ) ≤
        service.prevCpuUsage.val + (unit.now - service.prevReadTime) * cfg.numCPU) :
    (service.update cfg unit).InRange ∧ service.cpuPeak ≤ (service.update cfg unit).cpuPeak ∧
      service.memPeak ≤ (service.update cfg unit).memPeak := by
  obtain ⟨hmemory, hmemPeak⟩ := inRange_memory h unit
  obtain ⟨hrange, hcpuPeak⟩ := inRange_updateCPUPercent hmemory hcores hexact hjump
  refine ⟨hrange, hcpuPeak, hmemPeak.trans (le_of_eq ?_)⟩
  exact (memPeak_updateCPUPercent _ _ _ _).1.symm

/-! ### Runs -/

/-- What is stored of a unit is what the last call read, and the unit is in range. -/
structure ReadingInv (s : ServiceRun) (name : String) : Prop where
  unread : s.last name = none → s.sm.serviceStatsMap.get name = none
  read : ∀ r ∈ s.last name, ∃ service, s.sm.serviceStatsMap.get name = some service ∧
    service.InRange ∧ service.prevReadTime = r.time ∧ service.prevCpuUsage = r.value.getD 0
  lastAvailable : ∀ r ∈ s.last name, ∀ v ∈ available r.value,
    s.lastAvailable name = some (v, r.time)

theorem readingInv_init (name : String) : ReadingInv {} name :=
  ⟨fun _ => rfl, nofun, nofun⟩

theorem mem_available {v : Uint64} {property : Option Uint64} :
    v ∈ available property ↔ property = some v ∧ v ≠ maxUint64 := by
  rw [available, Option.mem_def, Option.filter_eq_some_iff, decide_eq_true_eq]

section Run

variable {cfg : SystemdConfig} {s s' : ServiceRun} {unit : Unit} {name : String}

/-- The difference is of two readings of the counter, or of nothing that it could not have done. -/
theorem no_jump_of_inv (hinv : ReadingInv s unit.name) (hfeasible : s.Feasible cfg unit)
    (hguard : s.NoJump cfg unit) (hactive : unit.hasBeenActive = true) {r : CpuReading}
    (hr : s.last unit.name = some r) (hcores : 1 ≤ cfg.numCPU) (hlater : r.time < unit.now)
    (hle : r.value.getD 0 ≤ unit.cpuUsageNSec.getD 0) :
    ((unit.cpuUsageNSec.getD 0).val : ℤ) ≤
      (r.value.getD 0).val + (unit.now - r.time) * cfg.numCPU := by
  have hpos : 0 < (unit.now - r.time) * cfg.numCPU := Int.mul_pos (by omega) (by omega)
  cases hv : unit.cpuUsageNSec with
  | none =>
      change (0 : ℤ) ≤ _
      omega
  | some v =>
      rw [hv] at hle
      by_cases hjump : v = maxUint64 ∨ r.value = none
      · exact hguard hactive r hr v hv hjump hlater
      · rw [not_or] at hjump
        obtain ⟨hmax, hread⟩ := hjump
        obtain ⟨v', hv'⟩ := Option.ne_none_iff_exists'.mp hread
        have hne : v' ≠ maxUint64 := by
          rintro rfl
          rw [hv'] at hle
          exact hmax (Fin.last_le_iff.mp hle)
        have hlast := hinv.lastAvailable r hr v' (mem_available.mpr ⟨hv', hne⟩)
        rw [hv']
        exact hfeasible.grows _ hlast v (mem_available.mpr ⟨hv, hmax⟩)

theorem step_of_not_active (hactive : unit.hasBeenActive = false) :
    s.step cfg unit = some s := by
  rw [ServiceRun.step, updateServiceStats_of_not_active cfg s.sm hactive, hactive]
  rfl

theorem step_of_active (hactive : unit.hasBeenActive = true) :
    s.step cfg unit =
      some { s.read unit with
        sm := { s.sm with
          serviceStatsMap :=
            s.sm.serviceStatsMap.put unit.name
              (((s.sm.serviceStatsMap.get unit.name).getD
                { name := unescapeServiceName cfg (trimService unit.name) }).update cfg
                unit) } } := by
  rw [ServiceRun.step, updateServiceStats_of_active cfg s.sm hactive, hactive]
  rfl

theorem read_of_ne (hne : name ≠ unit.name) :
    (s.read unit).last name = s.last name ∧
      (s.read unit).lastAvailable name = s.lastAvailable name := by
  refine ⟨Function.update_of_ne hne _ _, ?_⟩
  rw [ServiceRun.read]
  cases available unit.cpuUsageNSec with
  | none => rfl
  | some v => exact Function.update_of_ne hne _ _

theorem inRange_updated (hcores : 1 ≤ cfg.numCPU) (hinv : ReadingInv s unit.name)
    (hfeasible : s.Feasible cfg unit) (hguard : s.NoJump cfg unit)
    (hactive : unit.hasBeenActive = true) {service : Service}
    (hservice : (s.sm.serviceStatsMap.get unit.name).getD
      { name := unescapeServiceName cfg (trimService unit.name) } = service) :
    (service.update cfg unit).InRange ∧ service.cpuPeak ≤ (service.update cfg unit).cpuPeak ∧
      service.memPeak ≤ (service.update cfg unit).memPeak := by
  cases hlast : s.last unit.name with
  | none =>
      rw [hinv.unread hlast, Option.getD_none] at hservice
      subst hservice
      exact inRange_update (inRange_default _) hcores (fun hne => absurd rfl hne)
        (fun hne => absurd rfl hne)
  | some r =>
      obtain ⟨old, hold, hrange, htime, husage⟩ := hinv.read r hlast
      rw [hold, Option.getD_some] at hservice
      subst hservice
      refine inRange_update hrange hcores (fun _ => ?_) (fun _ hle hlater => ?_)
      · rw [htime]
        exact hfeasible.exact r hlast
      · rw [husage] at hle
        rw [htime] at hlater
        rw [htime, husage]
        exact no_jump_of_inv hinv hfeasible hguard hactive hlast hcores hlater hle

/-- **One call.** -/
theorem readingInv_step (hcores : 1 ≤ cfg.numCPU) (hinv : ∀ name, ReadingInv s name)
    (hfeasible : s.Feasible cfg unit) (hguard : s.NoJump cfg unit)
    (hstep : s.step cfg unit = some s') :
    (∀ name, ReadingInv s' name) ∧ s.sm.PeaksLe s'.sm := by
  cases hactive : unit.hasBeenActive with
  | false =>
      rw [step_of_not_active hactive] at hstep
      obtain rfl := Option.some.inj hstep
      exact ⟨hinv, fun name service hget => ⟨service, hget, le_rfl, le_rfl⟩⟩
  | true =>
      rw [step_of_active hactive] at hstep
      obtain ⟨service, hservice⟩ : ∃ service, (s.sm.serviceStatsMap.get unit.name).getD
        { name := unescapeServiceName cfg (trimService unit.name) } = service := ⟨_, rfl⟩
      obtain ⟨hrange, hcpu, hmem⟩ :=
        inRange_updated hcores (hinv unit.name) hfeasible hguard hactive hservice
      rw [hservice] at hstep
      obtain rfl := Option.some.inj hstep
      have hget (name : String) := s.sm.serviceStatsMap.get_put unit.name name
        (service.update cfg unit)
      refine ⟨fun name => ?_, fun name old hold => ?_⟩
      · by_cases hname : name = unit.name
        · subst hname
          have hself := hget unit.name
          rw [if_pos rfl] at hself
          have hlast : (s.read unit).last unit.name = some ⟨unit.cpuUsageNSec, unit.now⟩ :=
            Function.update_self _ _ _
          refine ⟨fun hnone => ?_, fun r hr => ?_, fun r hr v hv => ?_⟩
          · exact absurd (hlast.symm.trans hnone) nofun
          · obtain rfl := Option.some.inj (hlast.symm.trans hr)
            exact ⟨_, hself, hrange, (memPeak_updateCPUPercent _ _ _ _).2⟩
          · obtain rfl := Option.some.inj (hlast.symm.trans hr)
            change (s.read unit).lastAvailable unit.name = _
            rw [ServiceRun.read, Option.mem_def.mp hv]
            exact Function.update_self _ _ _
        · obtain ⟨hlast, havailable⟩ := read_of_ne (s := s) hname
          have hother := hget name
          rw [if_neg hname] at hother
          refine ⟨fun hnone => hother.trans ((hinv name).unread (hlast.symm.trans hnone)),
            fun r hr => ?_, fun r hr v hv => ?_⟩
          · obtain ⟨old, hold, hread⟩ := (hinv name).read r (hlast.symm.trans hr)
            exact ⟨old, hother.trans hold, hread⟩
          · exact havailable.trans ((hinv name).lastAvailable r (hlast.symm.trans hr) v hv)
      · by_cases hname : name = unit.name
        · subst hname
          have hself := hget unit.name
          rw [if_pos rfl] at hself
          rw [hold, Option.getD_some] at hservice
          subst hservice
          exact ⟨_, hself, hcpu, hmem⟩
        · have hother := hget name
          rw [if_neg hname] at hother
          exact ⟨old, hother.trans hold, le_rfl, le_rfl⟩

theorem SystemdManager.PeaksLe.trans {sm sm' sm'' : SystemdManager} (h : sm.PeaksLe sm')
    (h' : sm'.PeaksLe sm'') : sm.PeaksLe sm'' := by
  intro name service hget
  obtain ⟨service', hget', hcpu, hmem⟩ := h name service hget
  obtain ⟨service'', hget'', hcpu', hmem'⟩ := h' name service' hget'
  exact ⟨service'', hget'', hcpu.trans hcpu', hmem.trans hmem'⟩

theorem peaksLe_of_guarded (hcores : 1 ≤ cfg.numCPU) {units : List Unit}
    (hrun : Guarded (ServiceRun.step cfg) (fun s unit => s.Feasible cfg unit ∧ s.NoJump cfg unit) s
      units s') (hinv : ∀ name, ReadingInv s name) :
    (∀ name, ReadingInv s' name) ∧ s.sm.PeaksLe s'.sm := by
  induction hrun with
  | nil s => exact ⟨hinv, fun name service hget => ⟨service, hget, le_rfl, le_rfl⟩⟩
  | cons hguard hstep _ ih =>
      obtain ⟨hinv', hpeaks⟩ := readingInv_step hcores hinv hguard.1 hguard.2 hstep
      obtain ⟨hinv'', hpeaks'⟩ := ih hinv'
      exact ⟨hinv'', hpeaks.trans hpeaks'⟩

theorem inRange_of_inv (hinv : ∀ name, ReadingInv s name) : s.sm.InRange := by
  intro name service hget
  cases hlast : s.last name with
  | none => exact absurd ((hinv name).unread hlast) (by rw [hget]; nofun)
  | some r =>
      obtain ⟨service', hget', hrange, -⟩ := (hinv name).read r hlast
      rwa [Option.some.inj (hget.symm.trans hget')]

/-- **Services in range.** While no counter is taken to have jumped, every service is in range in
every state, and no peak becomes less from any state to a later one. -/
theorem services_in_range (hcores : 1 ≤ cfg.numCPU) {units : List Unit}
    (hrun : Guarded (ServiceRun.step cfg) (fun s unit => s.Feasible cfg unit ∧ s.NoJump cfg unit) {}
      units s) :
    ∀ before u, before <+: units → run (ServiceRun.step cfg) {} before = some u →
      u.sm.InRange ∧ u.sm.PeaksLe s.sm := by
  rintro before u ⟨after, rfl⟩ hbefore
  obtain ⟨u', hfirst, hrest⟩ := hrun.of_append
  obtain rfl := Option.some.inj (hbefore.symm.trans hfirst.run_eq)
  obtain ⟨hinv, -⟩ := peaksLe_of_guarded hcores hfirst readingInv_init
  exact ⟨inRange_of_inv hinv, (peaksLe_of_guarded hcores hrest hinv).2⟩

end Run

def oneCore : SystemdConfig where
  numCPU := 1
  unquote := some

def sshUnit (cpuUsageNSec : Option Uint64) (now : ℤ) : Unit where
  name := "ssh.service"
  activeState := "active"
  activeEnterTimestamp := some 1
  memoryCurrent := some 5000000
  cpuUsageNSec
  now

/-- The counter cannot be read the second time, and has started again the third. -/
def restartedUnread : List Unit :=
  [sshUnit (some 1000) 600, sshUnit none 1200, sshUnit (some 420) 1800, sshUnit (some 900) 2400]

theorem services_in_range_ssh :
    ∃ s, Guarded (ServiceRun.step oneCore)
        (fun s unit => s.Feasible oneCore unit ∧ s.NoJump oneCore unit) {} restartedUnread s ∧
      (s.sm.serviceStatsMap.get "ssh.service").map (fun service =>
        (service.cpu, service.cpuPeak)) = some (80, 80) ∧
      ∀ before u, before <+: restartedUnread → run (ServiceRun.step oneCore) {} before = some u →
        u.sm.InRange ∧ u.sm.PeaksLe s.sm := by
  obtain ⟨s, hcheck, hs⟩ := Option.map_eq_some_iff.mp
    (show (check (ServiceRun.step oneCore)
        (fun s unit => s.Feasible oneCore unit ∧ s.NoJump oneCore unit) {} restartedUnread).map
        (fun s => (s.sm.serviceStatsMap.get "ssh.service").map fun service =>
          (service.cpu, service.cpuPeak)) = some (some (80, 80)) by decide +kernel)
  have hrun := guarded_of_check hcheck
  exact ⟨s, hrun, hs, services_in_range (by decide) hrun⟩

/-- The counter cannot be read the first time. -/
def unreadOnce : List Unit :=
  [sshUnit none 600, sshUnit (some 1001) 1200]

theorem service_out_of_range : ¬ ∀ (cfg : SystemdConfig) (units : List Unit) (s : ServiceRun),
    1 ≤ cfg.numCPU →
    Guarded (ServiceRun.step cfg) (fun s unit => s.Feasible cfg unit) {} units s →
    ∀ before u, before <+: units → run (ServiceRun.step cfg) {} before = some u →
      u.sm.InRange ∧ u.sm.PeaksLe s.sm := by
  intro hall
  obtain ⟨s, hcheck, hs⟩ := Option.map_eq_some_iff.mp
    (show (check (ServiceRun.step oneCore) (fun s unit => s.Feasible oneCore unit) {}
        unreadOnce).map (fun s =>
          (s.sm.serviceStatsMap.get "ssh.service").map fun service => service.cpuPeak) =
        some (some 166.83) by decide +kernel)
  obtain ⟨service, hget, hpeak⟩ := Option.map_eq_some_iff.mp hs
  have hrun := guarded_of_check hcheck
  have hrange := (hall oneCore unreadOnce s (by decide) hrun _ s List.prefix_rfl hrun.run_eq).1
  have hle := (hrange _ service hget).peak_le
  rw [hpeak] at hle
  norm_num at hle

end Picket.Gather
