import Picket.NetworkStats
import Picket.Lib.KeyedFold
import Picket.Lib.Transition
import Picket.Lib.Unsigned

/-!
# The total and the interfaces

At every interval the baseline of the total is the sum of what the tracker has last seen, modulo
`2 ^ 64`. The total therefore shows what the interfaces show and, beyond that, what appears with new
interfaces less what is lost with old ones.
-/

namespace Picket.Gather

open Transition

/-! ### Keys of the tracker -/

theorem nicKey_inj {i j : Fin 2} {name name' : String} :
    nicKey i name = nicKey j name' ↔ i = j ∧ name = name' := by
  refine ⟨fun heq => ?_, fun ⟨hi, hname⟩ => by rw [hi, hname]⟩
  have hlist := congrArg String.toList heq
  rw [nicKey, nicKey, String.toList_append, String.toList_append] at hlist
  have hlast := congrArg List.getLast? hlist
  rw [List.getLast?_append, List.getLast?_append] at hlast
  have hij : i = 0 ↔ j = 0 := by
    by_cases hi : i = 0 <;> by_cases hj : j = 0 <;> simp [hi, hj] at hlast ⊢
  obtain rfl : i = j := by omega
  exact ⟨rfl, String.toList_inj.mp (List.append_cancel_right hlist)⟩

/-! ### The loop over the interfaces -/

def NicSums.total (sums : NicSums) (i : Fin 2) : Uint64 :=
  if i = 0 then sums.totalBytesSent else sums.totalBytesRecv

def NetIoStats.bytes (nis : NetIoStats) (i : Fin 2) : Uint64 :=
  if i = 0 then nis.bytesSent else nis.bytesRecv

section Loop

variable {netInterfaces : Finset String} {msElapsed : Uint64} {sums : NicSums} {v : NetCounters}

theorem track_previous :
    (sums.track netInterfaces msElapsed v).tracker.previous = sums.tracker.previous := by
  rw [NicSums.track]
  split <;> rfl

theorem track_current (i : Fin 2) (hname : v.name ∈ netInterfaces) :
    (sums.track netInterfaces msElapsed v).tracker.current (nicKey i v.name) =
      some (v.bytes i) := by
  rw [NicSums.track, if_pos hname]
  by_cases hi : i = 0
  · simp [DeltaTracker.set, nicKey, NetCounters.bytes, hi]
  · simp [DeltaTracker.set, nicKey, NetCounters.bytes, hi]

theorem track_current_of_ne (i : Fin 2) {name : String} (hne : v.name ≠ name) :
    (sums.track netInterfaces msElapsed v).tracker.current (nicKey i name) =
      sums.tracker.current (nicKey i name) := by
  have hup : nicKey i name ≠ v.name ++ "up" := fun heq =>
    hne (nicKey_inj (j := 0).mp heq).2.symm
  have hdown : nicKey i name ≠ v.name ++ "down" := fun heq =>
    hne (nicKey_inj (j := 1).mp heq).2.symm
  rw [NicSums.track]
  split
  · simp [DeltaTracker.set, Function.update_of_ne hup, Function.update_of_ne hdown]
  · rfl

theorem track_total (i : Fin 2) :
    (sums.track netInterfaces msElapsed v).total i =
      sums.total i + if v.name ∈ netInterfaces then v.bytes i else 0 := by
  rw [NicSums.track]
  split
  · by_cases hi : i = 0 <;> simp [NicSums.total, NetCounters.bytes, hi]
  · exact (Fin.add_zero _).symm

theorem nicDelta_congr {t t' : DeltaTracker String Uint64} (heq : t.previous = t'.previous)
    (key : String) (bytes : Uint64) :
    nicDelta t msElapsed key bytes = nicDelta t' msElapsed key bytes := by
  rw [nicDelta, nicDelta, heq]

def NicSums.rate (sums : NicSums) (i : Fin 2) (name : String) : Option Uint64 :=
  (sums.systemStats.networkInterfaces.lookup name).map fun v => v (i.castLE rates_le)

theorem track_rate (i : Fin 2) (hname : v.name ∈ netInterfaces) :
    (sums.track netInterfaces msElapsed v).rate i v.name =
      some (nicDelta sums.tracker msElapsed (nicKey i v.name) (v.bytes i)) := by
  rw [NicSums.track, if_pos hname]
  simp only [NicSums.rate, Finmap.lookup_insert, Option.map_some, Option.some_inj]
  by_cases hi : i = 0
  · subst hi
    exact nicDelta_congr rfl _ _
  · obtain rfl : i = 1 := by omega
    exact nicDelta_congr rfl _ _

theorem track_rate_of_ne (i : Fin 2) {name : String} (hne : v.name ≠ name) :
    (sums.track netInterfaces msElapsed v).rate i name = sums.rate i name := by
  rw [NicSums.track]
  split
  · simp only [NicSums.rate]
    rw [Finmap.lookup_insert_of_ne _ hne.symm]
  · rfl

variable {l : List NetCounters}

theorem foldl_track_current (hnodup : (l.map (·.name)).Nodup) (i : Fin 2) {name : String}
    (hname : name ∈ netInterfaces) :
    (l.foldl (NicSums.track netInterfaces msElapsed) sums).tracker.current (nicKey i name) =
      (l.find? (·.name = name)).elim (sums.tracker.current (nicKey i name)) fun v =>
        some (v.bytes i) := by
  refine KeyedFold.foldl_eq_find (fun _ : NicSums => True)
    (fun sums : NicSums => sums.tracker.current (nicKey i name))
    (fun v : NetCounters => some (v.bytes i)) (fun _ _ _ _ => trivial) ?_ ?_ hnodup trivial
  · rintro _ v rfl -
    exact track_current i hname
  · exact fun _ _ hne => track_current_of_ne i hne

theorem foldl_track_rate (hnodup : (l.map (·.name)).Nodup) (i : Fin 2) {name : String}
    (hname : name ∈ netInterfaces) :
    (l.foldl (NicSums.track netInterfaces msElapsed) sums).rate i name =
      (l.find? (·.name = name)).elim (sums.rate i name) fun v =>
        some (nicDelta sums.tracker msElapsed (nicKey i name) (v.bytes i)) := by
  refine KeyedFold.foldl_eq_find
    (fun sums' : NicSums => sums'.tracker.previous = sums.tracker.previous)
    (fun sums' : NicSums => sums'.rate i name)
    (fun v : NetCounters => some (nicDelta sums.tracker msElapsed (nicKey i name) (v.bytes i)))
    (fun _ _ _ hprevious => track_previous.trans hprevious) ?_ ?_ hnodup rfl
  · rintro _ v rfl hprevious
    rw [track_rate i hname, nicDelta_congr hprevious]
  · exact fun _ _ hne => track_rate_of_ne i hne

theorem foldl_track_total (i : Fin 2) :
    (l.foldl (NicSums.track netInterfaces msElapsed) sums).total i =
      Fin.ofNat (2 ^ 64) ((sums.total i).val +
        ((l.filter (·.name ∈ netInterfaces)).map fun v => (v.bytes i).val).sum) := by
  induction l generalizing sums with
  | nil => simp
  | cons v l ih =>
      rw [List.foldl_cons, ih, track_total]
      by_cases hname : v.name ∈ netInterfaces
      · rw [if_pos hname, List.filter_cons_of_pos (by simpa using hname), List.map_cons,
          List.sum_cons, ← Nat.add_assoc, Fin.ext_iff, Fin.val_ofNat, Fin.val_ofNat, Fin.val_add,
          Nat.mod_add_mod]
      · rw [if_neg hname, List.filter_cons_of_neg (by simpa using hname), Fin.add_zero]

end Loop

/-! ### One reading -/

theorem NetReading.bytes_getD (netIo : NetReading) (i : Fin 2) (name : String) :
    (netIo.bytes i name).getD 0 =
      (netIo.counters.find? (·.name = name)).elim 0 fun v => (v.bytes i).val := by
  rw [NetReading.bytes]
  cases netIo.counters.find? (·.name = name) <;> rfl

section Reading

variable {a : NetAgent} {cacheTimeMs : Uint16} {msElapsed : Uint64} {netIo : NetReading}

variable (a cacheTimeMs msElapsed netIo) in
theorem sums_total (i : Fin 2) :
    (a.sumAndTrackPerNicDeltas cacheTimeMs msElapsed netIo {}).total i =
      Fin.ofNat (2 ^ 64) (∑ name ∈ a.netInterfaces, (netIo.bytes i name).getD 0) := by
  have hzero : NicSums.total
      { tracker := ((a.netInterfaceDeltaTrackers cacheTimeMs).getD {}).cycle, systemStats := {} }
      i = 0 := by
    by_cases hi : i = 0 <;> simp [NicSums.total, hi]
  simp only [NetReading.bytes_getD]
  rw [NetAgent.sumAndTrackPerNicDeltas, foldl_track_total, hzero,
    KeyedFold.sum_find a.netInterfaces (fun v => (v.bytes i).val) netIo.nodup]
  simp

variable (cacheTimeMs msElapsed netIo) in
theorem sums_current (i : Fin 2) {name : String} (hname : name ∈ a.netInterfaces) :
    ((a.sumAndTrackPerNicDeltas cacheTimeMs msElapsed netIo {}).tracker.current
      (nicKey i name)).map (·.val) = netIo.bytes i name := by
  rw [NetAgent.sumAndTrackPerNicDeltas, foldl_track_current netIo.nodup i hname, NetReading.bytes]
  cases netIo.counters.find? (·.name = name) <;> rfl

/-- What is reported of an interface is what it has grown by, for each second. -/
theorem nicDelta_val {t : DeltaTracker String Uint64} {key : String} {bytes : Uint64}
    (hms : 0 < msElapsed)
    (hfits : CounterSums.growth ((t.previous key).map (·.val)) (some bytes.val) * 1000 < 2 ^ 64) :
    (nicDelta t msElapsed key bytes).val =
      CounterSums.growth ((t.previous key).map (·.val)) (some bytes.val) * 1000 /
        msElapsed.val := by
  rw [nicDelta, if_pos hms]
  cases hprevious : t.previous key with
  | none => simp [CounterSums.growth]
  | some prevVal =>
      rw [hprevious] at hfits
      simp only [CounterSums.growth, Option.map_some] at hfits ⊢
      rw [Fin.div_val]
      refine congrArg (· / msElapsed.val) ?_
      by_cases hle : prevVal ≤ bytes
      · have hle' : prevVal.val ≤ bytes.val := hle
        rw [if_pos hle'] at hfits ⊢
        rw [if_pos hle]
        exact Unsigned.val_sub_mul_of_le hle hfits
      · have hle' : ¬ prevVal.val ≤ bytes.val := hle
        rw [if_neg hle'] at hfits ⊢
        rw [if_neg hle]
        exact Unsigned.val_mul_of_lt hfits

theorem sums_rate (i : Fin 2) {name : String} (hname : name ∈ a.netInterfaces)
    (hms : 0 < msElapsed)
    (hfits : CounterSums.growth (a.lastBytes cacheTimeMs i name) (netIo.bytes i name) * 1000
      < 2 ^ 64) :
    ((a.sumAndTrackPerNicDeltas cacheTimeMs msElapsed netIo {}).rate i name).elim 0 (·.val) =
      CounterSums.growth (a.lastBytes cacheTimeMs i name) (netIo.bytes i name) * 1000 /
        msElapsed.val := by
  rw [NetAgent.sumAndTrackPerNicDeltas, foldl_track_rate netIo.nodup i hname]
  rw [NetReading.bytes] at hfits ⊢
  cases hfind : netIo.counters.find? (·.name = name) with
  | none =>
      have hgrowth : CounterSums.growth (a.lastBytes cacheTimeMs i name) none = 0 := by
        cases a.lastBytes cacheTimeMs i name <;> rfl
      simp [NicSums.rate, hgrowth]
  | some v =>
      rw [hfind] at hfits
      exact nicDelta_val hms hfits

variable (cacheTimeMs netIo) in
theorem sums_rate_zero (i : Fin 2) {name : String} (hname : name ∈ a.netInterfaces) :
    ((a.sumAndTrackPerNicDeltas cacheTimeMs 0 netIo {}).rate i name).elim 0 (·.val) = 0 := by
  rw [NetAgent.sumAndTrackPerNicDeltas, foldl_track_rate netIo.nodup i hname]
  cases netIo.counters.find? (·.name = name) <;> rfl

end Reading

/-! ### Baselines -/

/-- The baseline of the total is the sum of what the tracker has seen last. -/
def NetAgent.BaselinesAgree (a : NetAgent) : Prop :=
  ∀ cacheTimeMs i, ((a.netIoStats cacheTimeMs).getD {}).bytes i =
    Fin.ofNat (2 ^ 64) (∑ name ∈ a.netInterfaces, (a.lastBytes cacheTimeMs i name).getD 0)

section Agent

variable {pathMatch : String → String → Bool} {nicCfg : Option NicConfig} {a : NetAgent}

theorem baselinesAgree_initialized (netIo : Option NetReading) :
    (NetAgent.initializeNetIoStats pathMatch nicCfg netIo).BaselinesAgree := by
  intro cacheTimeMs i
  have hlast (name : String) : (NetAgent.initializeNetIoStats pathMatch nicCfg netIo).lastBytes
      cacheTimeMs i name = none := rfl
  simp only [hlast, Option.getD_none, Finset.sum_const_zero]
  by_cases hi : i = 0 <;> simp [NetAgent.initializeNetIoStats, NetIoStats.bytes, hi]

theorem NetAgent.BaselinesAgree.ensure (hagree : a.BaselinesAgree) (before : Option NetReading) :
    (a.ensureNetInterfacesInitialized pathMatch nicCfg before).BaselinesAgree := by
  rw [NetAgent.ensureNetInterfacesInitialized]
  split
  · exact baselinesAgree_initialized before
  · exact hagree

theorem NetAgent.BaselinesAgree.apply (hagree : a.BaselinesAgree) (r : NetCall)
    (netIo : NetReading) :
    (a.applyNetworkTotals pathMatch nicCfg r (a.netRates r netIo {})).1.BaselinesAgree := by
  rw [NetAgent.applyNetworkTotals]
  split
  · exact baselinesAgree_initialized r.after
  · intro cacheTimeMs i
    by_cases hinterval : cacheTimeMs = r.cacheTimeMs
    · subst hinterval
      have hlast : ∀ name ∈ a.netInterfaces, _ = netIo.bytes i name :=
        fun name hname => sums_current r.cacheTimeMs
          (a.loadAndTickNetBaseline r.cacheTimeMs r.since r.now).2 netIo i hname
      simp only [NetAgent.lastBytes, Function.update_self, Option.getD_some, NetAgent.netRates]
      rw [Finset.sum_congr rfl fun name hname => congrArg (·.getD 0) (hlast name hname),
        ← sums_total a r.cacheTimeMs (a.loadAndTickNetBaseline r.cacheTimeMs r.since r.now).2 netIo
          i]
      rfl
    · simp only [NetAgent.lastBytes, Function.update_of_ne hinterval]
      exact hagree cacheTimeMs i

end Agent

/-! ### One report -/

def NetRates.bytesPerSecond (rates : NetRates) (i : Fin 2) : Uint64 :=
  if i = 0 then rates.bytesSentPerSecond else rates.bytesRecvPerSecond

def NetRates.report (rates : NetRates) (netInterfaces : Finset String) : NetReport where
  netInterfaces
  stats :=
    { rates.sums.systemStats with
      bandwidth := ![rates.bytesSentPerSecond, rates.bytesRecvPerSecond] }

theorem report_agrees_iff {rates : NetRates} {netInterfaces : Finset String} :
    (rates.report netInterfaces).Agrees ↔
      ∀ i, |((rates.bytesPerSecond i).val : ℤ) -
        (∑ name ∈ netInterfaces, (rates.sums.rate i name).elim 0 (·.val) : ℕ)| ≤
          netInterfaces.card := by
  refine forall_congr' fun i => ?_
  have hbandwidth : (rates.report netInterfaces).stats.bandwidth i = rates.bytesPerSecond i := by
    by_cases hi : i = 0
    · subst hi
      rfl
    · obtain rfl : i = 1 := by omega
      rfl
  have hrate (name : String) : ((rates.report netInterfaces).stats.networkInterfaces.lookup
      name).elim 0 (fun v => (v (i.castLE rates_le)).val) =
        (rates.sums.rate i name).elim 0 (·.val) := by
    rw [NicSums.rate, Option.elim_map]
    rfl
  rw [hbandwidth]
  simp only [hrate]
  rfl

theorem computeBytesPerSecond_at {msElapsed sent recv : Uint64} {nis : NetIoStats} (i : Fin 2) :
    (if i = 0 then (computeBytesPerSecond msElapsed sent recv nis).1
      else (computeBytesPerSecond msElapsed sent recv nis).2) =
      if 0 < msElapsed then ((if i = 0 then sent else recv) - nis.bytes i) * 1000 / msElapsed
      else 0 := by
  rw [computeBytesPerSecond, NetIoStats.bytes]
  by_cases hi : i = 0
  · rw [if_pos hi, if_pos hi, if_pos hi]
    split <;> rfl
  · rw [if_neg hi, if_neg hi, if_neg hi]
    split <;> rfl

section Report

variable {a : NetAgent} {r : NetCall} {netIo : NetReading}

theorem netRates_bytesPerSecond (i : Fin 2) :
    let msElapsed := (a.loadAndTickNetBaseline r.cacheTimeMs r.since r.now).2
    (a.netRates r netIo {}).bytesPerSecond i =
      if 0 < msElapsed then
        ((a.sumAndTrackPerNicDeltas r.cacheTimeMs msElapsed netIo {}).total i -
          ((a.netIoStats r.cacheTimeMs).getD {}).bytes i) * 1000 / msElapsed
      else 0 := by
  intro msElapsed
  have hnis (i : Fin 2) : (a.loadAndTickNetBaseline r.cacheTimeMs r.since r.now).1.bytes i =
      ((a.netIoStats r.cacheTimeMs).getD {}).bytes i := by
    rw [NetAgent.loadAndTickNetBaseline]
    split <;> rfl
  rw [← hnis]
  exact computeBytesPerSecond_at i

theorem bytesPerSecond_val (hagree : a.BaselinesAgree) (i : Fin 2)
    (hms : 0 < (a.loadAndTickNetBaseline r.cacheTimeMs r.since r.now).2)
    (hle : ∑ name ∈ a.netInterfaces, (a.lastBytes r.cacheTimeMs i name).getD 0 ≤
      ∑ name ∈ a.netInterfaces, (netIo.bytes i name).getD 0)
    (hfits : (∑ name ∈ a.netInterfaces, (netIo.bytes i name).getD 0 -
      ∑ name ∈ a.netInterfaces, (a.lastBytes r.cacheTimeMs i name).getD 0) * 1000 < 2 ^ 64) :
    ((a.netRates r netIo {}).bytesPerSecond i).val =
      (∑ name ∈ a.netInterfaces, (netIo.bytes i name).getD 0 -
        ∑ name ∈ a.netInterfaces, (a.lastBytes r.cacheTimeMs i name).getD 0) * 1000 /
          (a.loadAndTickNetBaseline r.cacheTimeMs r.since r.now).2.val := by
  have hsub := Unsigned.val_ofNat_sub_ofNat (n := 2 ^ 64) hle (by omega)
  rw [netRates_bytesPerSecond, if_pos hms, sums_total, hagree r.cacheTimeMs i, Fin.div_val,
    Unsigned.val_mul_of_lt (by rw [hsub]; exact hfits), hsub]
  rfl

theorem rates_val (i : Fin 2)
    (hms : 0 < (a.loadAndTickNetBaseline r.cacheTimeMs r.since r.now).2)
    (hfits : (∑ name ∈ a.netInterfaces,
      CounterSums.growth (a.lastBytes r.cacheTimeMs i name) (netIo.bytes i name)) * 1000 < 2 ^ 64) :
    ∑ name ∈ a.netInterfaces, ((a.netRates r netIo {}).sums.rate i name).elim 0 (·.val) =
      ∑ name ∈ a.netInterfaces,
        CounterSums.growth (a.lastBytes r.cacheTimeMs i name) (netIo.bytes i name) * 1000 /
          (a.loadAndTickNetBaseline r.cacheTimeMs r.since r.now).2.val := by
  refine Finset.sum_congr rfl fun name hname => sums_rate i hname hms ?_
  refine lt_of_le_of_lt (Nat.mul_le_mul_right 1000 ?_) hfits
  exact Finset.single_le_sum
    (f := fun name =>
      CounterSums.growth (a.lastBytes r.cacheTimeMs i name) (netIo.bytes i name))
    (fun _ _ => Nat.zero_le _) hname

theorem agrees_of_balanced (hagree : a.BaselinesAgree)
    (hbalanced : 0 < (a.loadAndTickNetBaseline r.cacheTimeMs r.since r.now).2 → ∀ i,
      a.Balanced r.cacheTimeMs (a.loadAndTickNetBaseline r.cacheTimeMs r.since r.now).2 netIo i) :
    ((a.netRates r netIo {}).report a.netInterfaces).Agrees := by
  rw [report_agrees_iff]
  intro i
  by_cases hms : 0 < (a.loadAndTickNetBaseline r.cacheTimeMs r.since r.now).2
  · obtain ⟨hhidden, hgrowth, hle, htotal⟩ := hbalanced hms i
    rw [bytesPerSecond_val hagree i hms hle htotal, rates_val i hms hgrowth]
    have hsum := CounterSums.sum_sub_sum a.netInterfaces (a.lastBytes r.cacheTimeMs i)
      (netIo.bytes i)
    rw [← Nat.cast_sub hle] at hsum
    exact CounterSums.abs_rate_sub_sum_rates_le a.netInterfaces hms hsum
      (fun hempty => by rw [hempty, Finset.sum_empty]) (by exact_mod_cast hhidden)
  · have hzero : (a.loadAndTickNetBaseline r.cacheTimeMs r.since r.now).2 = 0 := by
      rw [Fin.pos_iff_ne_zero, not_not] at hms
      exact hms
    have hrates : ∑ name ∈ a.netInterfaces,
        ((a.netRates r netIo {}).sums.rate i name).elim 0 (·.val) = 0 := by
      refine Finset.sum_eq_zero fun name hname => ?_
      have hrate := sums_rate_zero r.cacheTimeMs netIo i hname
      rw [← hzero] at hrate
      exact hrate
    rw [netRates_bytesPerSecond, if_neg hms, hrates]
    simp

/-- More that is hidden than that shows in the total. -/
theorem not_agrees_of_hidden (hagree : a.BaselinesAgree) (i : Fin 2)
    (hms : 0 < (a.loadAndTickNetBaseline r.cacheTimeMs r.since r.now).2)
    (hgrowth : (∑ name ∈ a.netInterfaces,
      CounterSums.growth (a.lastBytes r.cacheTimeMs i name) (netIo.bytes i name)) * 1000 < 2 ^ 64)
    (hle : ∑ name ∈ a.netInterfaces, (a.lastBytes r.cacheTimeMs i name).getD 0 ≤
      ∑ name ∈ a.netInterfaces, (netIo.bytes i name).getD 0)
    (htotal : (∑ name ∈ a.netInterfaces, (netIo.bytes i name).getD 0 -
      ∑ name ∈ a.netInterfaces, (a.lastBytes r.cacheTimeMs i name).getD 0) * 1000 < 2 ^ 64)
    (hhidden : (2 * a.netInterfaces.card + 1) *
        ((a.loadAndTickNetBaseline r.cacheTimeMs r.since r.now).2.val : ℤ) ≤
      |(∑ name ∈ a.netInterfaces, CounterSums.hidden (a.lastBytes r.cacheTimeMs i name)
        (netIo.bytes i name)) * 1000|) :
    ¬ ((a.netRates r netIo {}).report a.netInterfaces).Agrees := by
  rw [report_agrees_iff]
  intro hall
  have hi := hall i
  rw [bytesPerSecond_val hagree i hms hle htotal, rates_val i hms hgrowth] at hi
  have hsum := CounterSums.sum_sub_sum a.netInterfaces (a.lastBytes r.cacheTimeMs i) (netIo.bytes i)
  rw [← Nat.cast_sub hle] at hsum
  exact (CounterSums.card_lt_abs_rate_sub_sum_rates a.netInterfaces hms hsum
    (by exact_mod_cast hhidden)).not_ge hi

end Report

/-! ### Runs -/

section Run

variable (pathMatch : String → String → Bool) (nicCfg : Option NicConfig)

def NetPolls.start (netIo : Option NetReading) : NetPolls where
  agent := .initializeNetIoStats pathMatch nicCfg netIo

/-- What is reported of a reading that is not thrown away. -/
theorem applyNetworkTotals_report (a : NetAgent) (r : NetCall) {rates : NetRates}
    (hvalid : ¬ rates.Invalid) :
    NetReport.mk (a.applyNetworkTotals pathMatch nicCfg r rates).1.netInterfaces
      (a.applyNetworkTotals pathMatch nicCfg r rates).2 = rates.report a.netInterfaces := by
  rw [NetAgent.applyNetworkTotals, if_neg hvalid]
  rfl

variable {pathMatch nicCfg}

theorem step_baselines {s s' : NetPolls} {r : NetCall} (hagree : s.agent.BaselinesAgree)
    (hstep : s.step pathMatch nicCfg r = some s') : s'.agent.BaselinesAgree := by
  obtain rfl := Option.some.inj hstep
  dsimp only
  cases r.netIo with
  | none => exact hagree.ensure r.before
  | some netIo => exact (hagree.ensure r.before).apply r netIo

theorem step_reports {s s' : NetPolls} {r : NetCall}
    (hstep : s.step pathMatch nicCfg r = some s') :
    let a := s.agent.ensureNetInterfacesInitialized pathMatch nicCfg r.before
    (∃ netIo, r.netIo = some netIo ∧ (a.netRates r netIo {}).Invalid ∧ s'.reports = s.reports) ∨
      (∃ netIo, r.netIo = some netIo ∧ ¬ (a.netRates r netIo {}).Invalid ∧
        s'.reports = (a.netRates r netIo {}).report a.netInterfaces :: s.reports) ∨
      r.netIo = none ∧
        s'.reports = { netInterfaces := a.netInterfaces, stats := {} } :: s.reports := by
  intro a
  obtain rfl := Option.some.inj hstep
  cases hnetIo : r.netIo with
  | none =>
      have hresets : ¬ s.agent.Resets pathMatch nicCfg r := by
        rintro ⟨netIo, hsome, -⟩
        rw [hnetIo] at hsome
        cases hsome
      refine Or.inr (Or.inr ⟨rfl, ?_⟩)
      simp only [if_neg hresets]
      rfl
  | some netIo =>
      have hresets : s.agent.Resets pathMatch nicCfg r ↔ (a.netRates r netIo {}).Invalid := by
        simp [NetAgent.Resets, hnetIo, a]
      by_cases hinvalid : (a.netRates r netIo {}).Invalid
      · refine Or.inl ⟨netIo, rfl, hinvalid, ?_⟩
        simp only [if_pos (hresets.mpr hinvalid)]
      · refine Or.inr (Or.inl ⟨netIo, rfl, hinvalid, ?_⟩)
        simp only [if_neg fun h => hinvalid (hresets.mp h)]
        rw [← applyNetworkTotals_report pathMatch nicCfg a r hinvalid]

/-- What holds of every run in which nothing is hidden from the total. -/
structure NetPolls.Sound (s : NetPolls) : Prop where
  baselines : s.agent.BaselinesAgree
  reports : ∀ report ∈ s.reports, report.Agrees

theorem sound_step {s s' : NetPolls} {r : NetCall} (hsound : s.Sound)
    (hhidden : s.NothingHidden pathMatch nicCfg r)
    (hstep : s.step pathMatch nicCfg r = some s') : s'.Sound := by
  refine ⟨step_baselines hsound.baselines hstep, ?_⟩
  rcases step_reports hstep with ⟨_, -, -, hsame⟩ | ⟨netIo, hnetIo, hvalid, hnew⟩ | ⟨-, hnew⟩
  · rw [hsame]
    exact hsound.reports
  · rw [hnew]
    have hresets : ¬ s.agent.Resets pathMatch nicCfg r := by
      rintro ⟨netIo', hnetIo', hinvalid⟩
      obtain rfl := Option.some.inj (hnetIo.symm.trans hnetIo')
      exact hvalid hinvalid
    have hagrees := agrees_of_balanced (hsound.baselines.ensure r.before)
      (hhidden netIo hnetIo hresets)
    exact List.forall_mem_cons.mpr ⟨hagrees, hsound.reports⟩
  · rw [hnew]
    refine List.forall_mem_cons.mpr ⟨fun i => ?_, hsound.reports⟩
    simp

end Run

/-- **The total is that of the interfaces**, to within one for each, in every run in which nothing
is hidden from it. -/
theorem bandwidth_agrees (pathMatch : String → String → Bool) (nicCfg : Option NicConfig)
    (netIo : Option NetReading) {rs : List NetCall} {s : NetPolls}
    (hrun : Guarded (NetPolls.step pathMatch nicCfg) (NetPolls.NothingHidden pathMatch nicCfg)
      (.start pathMatch nicCfg netIo) rs s) :
    ∀ report ∈ s.reports, report.Agrees :=
  (hrun.invariant (fun _ _ _ hsound hhidden hstep => sound_step hsound hhidden hstep)
    ⟨baselinesAgree_initialized netIo, fun _ h => (List.not_mem_nil h).elim⟩).reports

/-- Two interfaces, as much received as sent. -/
def readNics (eth wlan : Uint64) : NetReading where
  counters :=
    [{ name := "eth0", bytesSent := eth, bytesRecv := eth },
      { name := "wlan0", bytesSent := wlan, bytesRecv := wlan }]
  nodup := by simp

def pollNics (eth wlan : Uint64) (seconds : ℤ) : NetCall where
  cacheTimeMs := 1000
  netIo := some (readNics eth wlan)
  since := seconds * 1000000000
  now := seconds * 1000000000

theorem bandwidth_agrees_nics :
    ∃ s, Guarded (NetPolls.step (fun _ _ => false) none)
        (NetPolls.NothingHidden (fun _ _ => false) none)
        (.start (fun _ _ => false) none (some (readNics 1000 5000)))
        [pollNics 1000 5000 1, pollNics 11000 5600 2] s ∧
      s.reports.map (fun report => report.stats.bandwidth 0) = [10600, 0] ∧
      ∀ report ∈ s.reports, report.Agrees := by
  obtain ⟨s, hcheck, hreports⟩ := Option.map_eq_some_iff.mp
    (show (check (NetPolls.step (fun _ _ => false) none)
        (NetPolls.NothingHidden (fun _ _ => false) none)
        (.start (fun _ _ => false) none (some (readNics 1000 5000)))
        [pollNics 1000 5000 1, pollNics 11000 5600 2]).map
          (fun s => s.reports.map fun report => report.stats.bandwidth 0) = some [10600, 0] by
      decide +kernel)
  exact ⟨s, guarded_of_check hcheck, hreports, bandwidth_agrees _ _ _ (guarded_of_check hcheck)⟩

/-- What has been reported in the direction up: the total and the two interfaces. -/
def NetPolls.up (s : NetPolls) : List (Uint64 × Option Uint64 × Option Uint64) :=
  s.reports.map fun report =>
    (report.stats.bandwidth 0, (report.stats.networkInterfaces.lookup "eth0").map fun v => v 0,
      (report.stats.networkInterfaces.lookup "wlan0").map fun v => v 0)

/-- One interface starts again, while another one is busy. -/
theorem reset_hidden_by_traffic :
    ∃ s, run (NetPolls.step (fun _ _ => false) none)
        (.start (fun _ _ => false) none (some (readNics 1000 5000)))
        [pollNics 1000 5000 1, pollNics 11000 600 2] = some s ∧
      s.up = [(5600, some 10000, some 600), (0, some 0, some 0)] ∧
      ¬ ∀ report ∈ s.reports, report.Agrees := by
  obtain ⟨s, hrun, hvalues⟩ := Option.map_eq_some_iff.mp
    (show (run (NetPolls.step (fun _ _ => false) none)
        (.start (fun _ _ => false) none (some (readNics 1000 5000)))
        [pollNics 1000 5000 1, pollNics 11000 600 2]).map
          (fun s => (s.up, decide (∀ report ∈ s.reports, report.Agrees))) =
        some ([(5600, some 10000, some 600), (0, some 0, some 0)], false) by
      decide +kernel)
  obtain ⟨hup, hagrees⟩ := Prod.mk.inj hvalues
  exact ⟨s, hrun, hup, of_decide_eq_false hagrees⟩

end Picket.Gather
