import Mathlib.Tactic.Linarith
import Picket.ContainerRates
import Picket.Lib.Unsigned
import Picket.Proof.ContainerLeaks

/-!
# The rates of a container

What the trackers keep of a container at an interval are its totals of the latest poll there, and
the time of its last reading until it is restarted. A rate is only computed where both are of one
reading. A total that has gone down wraps to a rate beyond the limit.
-/

namespace Picket.Docker

open Transition

/-! ### What an update does to a tracker -/

namespace Tracker

variable (t : Tracker) (cacheTimeMs : Uint16)

def net (t : Tracker) : (Uint16 → Meter) × (Uint16 → Meter) × (Uint16 → Option ℤ) :=
  (t.sent, t.recv, t.lastNetworkReadTime)

def readNet (totalSent totalRecv : Uint64) (now : ℤ) : Tracker :=
  (t.setNetworkTotals cacheTimeMs totalSent totalRecv).setLastNetworkReadTime cacheTimeMs now

/-- What an attempt that is answered does: it fails and leaves the network alone, or reads it. -/
theorem applyStats_cases (isWindows : Bool) (res : ApiStats) (a : Attempt) :
    ((t.applyStats isWindows cacheTimeMs res a).2 ≠ none ∧
      (t.applyStats isWindows cacheTimeMs res a).1.net = t.net ∧
      (t.applyStats isWindows cacheTimeMs res a).1.stats = t.stats) ∨
    ((t.applyStats isWindows cacheTimeMs res a).2 = none ∧
      (t.applyStats isWindows cacheTimeMs res a).1.net =
        (t.readNet cacheTimeMs res.totalSent res.totalRecv a.now).net ∧
      ∃ stats, (t.applyStats isWindows cacheTimeMs res a).1.stats = some stats ∧
        stats.bandwidth =
          (t.setNetworkTotals cacheTimeMs res.totalSent res.totalRecv).networkRates cacheTimeMs
            a.since) := by
  simp only [applyStats]
  cases calculateMemoryUsage res isWindows with
  | none => exact .inl ⟨Option.some_ne_none _, rfl, rfl⟩
  | some usedMemory =>
      simp only
      split
      · exact .inl ⟨Option.some_ne_none _, rfl, rfl⟩
      · exact .inr ⟨rfl, rfl, _, rfl, rfl⟩

end Tracker

inductive Updated (cacheTimeMs : Uint16) (a : Attempt) (t t' : Tracker) : Option UpdateError → Prop
  | unanswered {e : UpdateError} (hresponse : a.response = none) (hsame : t' = t) :
      Updated cacheTimeMs a t t' (some e)
  | failed {e : UpdateError} {stats : DockerStats} (hnet : t'.net = t.net)
      (hstats : t'.stats = some stats) (hrates : stats.bandwidth = (0, 0)) :
      Updated cacheTimeMs a t t' (some e)
  | read {response : StatsResponse} {stats : DockerStats} (hresponse : a.response = some response)
      (hnet : t'.net = (t.readNet cacheTimeMs (response.decode {}).totalSent
        (response.decode {}).totalRecv a.now).net)
      (hstats : t'.stats = some stats)
      (hrates : stats.bandwidth = (t.setNetworkTotals cacheTimeMs (response.decode {}).totalSent
        (response.decode {}).totalRecv).networkRates cacheTimeMs a.since) :
      Updated cacheTimeMs a t t' none

def DockerManager.decoded (cfg : DockerConfig) (dm : DockerManager) (i : ℕ) (a : Attempt)
    (response : StatsResponse) : DockerManager :=
  { (dm.modifyStats (dm.ctr i).idShort
      (beginStats cfg dm.usingPodman (dm.ctr i) a.podmanHealth)).modifyCtr i ApiInfo.clearPorts with
    apiStats := response.decode dm.apiStats }

theorem updateContainerStats_of_response (cfg : DockerConfig) (dm : DockerManager)
    (cacheTimeMs : Uint16) (i : ℕ) {a : Attempt} {response : StatsResponse}
    (hresponse : a.response = some response) :
    dm.updateContainerStats cfg cacheTimeMs i a =
      if response.decodes then
        (dm.decoded cfg i a response).applyStats cacheTimeMs (dm.ctr i).idShort a
      else (dm.decoded cfg i a response, some .decode) := by
  rw [DockerManager.updateContainerStats, hresponse]
  rfl

theorem track_decoded (cfg : DockerConfig) (dm : DockerManager) (i : ℕ) (a : Attempt)
    (response : StatsResponse) :
    (dm.decoded cfg i a response).track (dm.ctr i).idShort =
      (dm.track (dm.ctr i).idShort).modifyStats
        (beginStats cfg dm.usingPodman (dm.ctr i) a.podmanHealth) := by
  rw [DockerManager.decoded, DockerManager.track_apiStats, DockerManager.track_modifyCtr,
    DockerManager.track_modifyStats, if_pos rfl]

theorem updated_updateContainerStats (cfg : DockerConfig) (dm : DockerManager)
    (cacheTimeMs : Uint16) (i : ℕ) (a : Attempt) :
    Updated cacheTimeMs a (dm.track (dm.ctr i).idShort)
      ((dm.updateContainerStats cfg cacheTimeMs i a).1.track (dm.ctr i).idShort)
      (dm.updateContainerStats cfg cacheTimeMs i a).2 := by
  cases hresponse : a.response with
  | none =>
      rw [DockerManager.updateContainerStats, hresponse]
      exact .unanswered hresponse rfl
  | some response =>
      have hbegin := track_decoded cfg dm i a response
      rw [updateContainerStats_of_response cfg dm cacheTimeMs i hresponse]
      cases response.decodes with
      | false =>
          rw [if_neg Bool.false_ne_true, hbegin]
          exact .failed rfl rfl rfl
      | true =>
          have htrack := (dm.decoded cfg i a response).track_applyStats (dm.ctr i).idShort
            cacheTimeMs a
          rw [hbegin] at htrack
          have hmoved := congrArg Prod.fst htrack
          have herr := congrArg Prod.snd htrack
          dsimp only at hmoved herr
          rw [if_pos rfl, hmoved, herr]
          obtain ⟨hfailed, hnet, hstats⟩ | ⟨hok, hnet, stats, hstats, hrates⟩ :=
            Tracker.applyStats_cases ((dm.track (dm.ctr i).idShort).modifyStats
              (beginStats cfg dm.usingPodman (dm.ctr i) a.podmanHealth)) cacheTimeMs
              (dm.decoded cfg i a response).isWindows (dm.decoded cfg i a response).apiStats a
          · obtain ⟨e, he⟩ := Option.ne_none_iff_exists'.mp hfailed
            rw [he]
            exact .failed hnet hstats rfl
          · rw [hok]
            exact .read hresponse hnet hstats hrates

/-! ### What is kept between readings -/

def lastReading (cacheTimeMs : Uint16) (c : Bytes) (logs : List PollLog) : Option NetReading :=
  baseline (fun _ _ => false) cacheTimeMs c logs

theorem lastReading_cons (cacheTimeMs : Uint16) (c : Bytes) (log : PollLog) (logs : List PollLog) :
    lastReading cacheTimeMs c (log :: logs) =
      if log.cacheTimeMs = cacheTimeMs then log.reading c else lastReading cacheTimeMs c logs := by
  simp [lastReading, baseline]

theorem lastReading_of_baseline {restarted : PollLog → Bytes → Bool} {cacheTimeMs : Uint16}
    {c : Bytes} {logs : List PollLog} {r : NetReading}
    (hbaseline : baseline restarted cacheTimeMs c logs = some r) :
    lastReading cacheTimeMs c logs = some r := by
  induction logs with
  | nil => cases hbaseline
  | cons log logs ih =>
      rw [baseline] at hbaseline
      rw [lastReading_cons]
      split at hbaseline
      case isTrue hcache => rwa [if_pos hcache]
      case isFalse hcache =>
        rw [if_neg hcache]
        split at hbaseline
        · cases hbaseline
        · exact ih hbaseline

/-- The trackers hold the totals of the latest poll at each interval, and the time of its reading
unless the container has been restarted since. -/
structure Kept (c : Bytes) (t : Tracker) (log : PollLog) (earlier : List PollLog) : Prop where
  sent : ∀ k, t.sent k =
    ⟨if log.cacheTimeMs = k then (log.reading c).map (·.sent) else none,
      (lastReading k c earlier).map (·.sent)⟩
  recv : ∀ k, t.recv k =
    ⟨if log.cacheTimeMs = k then (log.reading c).map (·.recv) else none,
      (lastReading k c earlier).map (·.recv)⟩
  read : ∀ r ∈ log.reading c, t.lastNetworkReadTime log.cacheTimeMs = some r.now
  time : ∀ k, (log.cacheTimeMs = k → log.reading c = none) → (lastReading k c earlier).isSome →
    t.lastNetworkReadTime k =
      (if log.restarted c then none else baseline PollLog.restarted k c earlier).map (·.now)

section Kept

variable {c : Bytes} {t t' : Tracker} {log log' : PollLog} {earlier : List PollLog}

theorem kept_init (c : Bytes) : Kept c {} {} [] where
  sent k := by simp [lastReading, baseline, PollLog.reading]
  recv k := by simp [lastReading, baseline, PollLog.reading]
  read := nofun
  time := nofun

theorem Kept.congr (h : Kept c t log earlier) (hnet : t'.net = t.net)
    (hcache : log'.cacheTimeMs = log.cacheTimeMs) (hreading : log'.reading c = log.reading c)
    (hrestarted : log'.restarted c = log.restarted c) : Kept c t' log' earlier := by
  have hsent : t'.sent = t.sent := congrArg Prod.fst hnet
  have hrecv : t'.recv = t.recv := congrArg (·.2.1) hnet
  have htime : t'.lastNetworkReadTime = t.lastNetworkReadTime := congrArg (·.2.2) hnet
  refine ⟨fun k => ?_, fun k => ?_, fun r hr => ?_, fun k hk hlast => ?_⟩
  · rw [hsent, hcache, hreading, h.sent]
  · rw [hrecv, hcache, hreading, h.recv]
  · rw [htime, hcache]
    exact h.read r (hreading ▸ hr)
  · rw [htime, hrestarted]
    exact h.time k (by rwa [← hcache, ← hreading]) hlast

theorem Kept.restart (h : Kept c t log earlier) (hcache : log'.cacheTimeMs = log.cacheTimeMs)
    (hread : log.reading c = none) (hreading : log'.reading c = log.reading c)
    (hrestarted : log'.restarted c = true) : Kept c t.deleteContainerStats log' earlier where
  sent k := by rw [hcache, hreading]; exact h.sent k
  recv k := by rw [hcache, hreading]; exact h.recv k
  read r hr := by rw [hreading, hread] at hr; cases hr
  time k _ _ := by rw [hrestarted]; rfl

theorem Kept.list (h : Kept c t {} earlier) (hnet : t'.net = t.net) (cacheTimeMs : Uint16) :
    Kept c t' { cacheTimeMs := cacheTimeMs } earlier := by
  have h' : Kept c t { cacheTimeMs := cacheTimeMs } earlier := by
    refine ⟨fun k => ?_, fun k => ?_, nofun, fun k _ hlast => h.time k (fun _ => rfl) hlast⟩
    · rw [h.sent]
      simp [PollLog.reading]
    · rw [h.recv]
      simp [PollLog.reading]
  exact h'.congr hnet rfl rfl rfl

theorem Kept.readNet (h : Kept c t log earlier) (hread : log.reading c = none) {r : NetReading}
    (hnet : t'.net = (t.readNet log.cacheTimeMs r.sent r.recv r.now).net)
    (hcache : log'.cacheTimeMs = log.cacheTimeMs) (hreading : log'.reading c = some r)
    (hrestarted : log'.restarted c = log.restarted c) : Kept c t' log' earlier := by
  have hsent : t'.sent = (t.readNet log.cacheTimeMs r.sent r.recv r.now).sent :=
    congrArg Prod.fst hnet
  have hrecv : t'.recv = (t.readNet log.cacheTimeMs r.sent r.recv r.now).recv :=
    congrArg (·.2.1) hnet
  have htime : t'.lastNetworkReadTime =
      Function.update t.lastNetworkReadTime log.cacheTimeMs (some r.now) := congrArg (·.2.2) hnet
  refine ⟨fun k => ?_, fun k => ?_, fun r' hr' => ?_, fun k hk hlast => ?_⟩
  · rw [hsent, hcache, hreading]
    by_cases hk : log.cacheTimeMs = k
    · subst hk
      simp [Tracker.readNet, Tracker.setLastNetworkReadTime, Tracker.setNetworkTotals, h.sent]
    · simp [Tracker.readNet, Tracker.setLastNetworkReadTime, Tracker.setNetworkTotals, h.sent, hk,
        Ne.symm hk]
  · rw [hrecv, hcache, hreading]
    by_cases hk : log.cacheTimeMs = k
    · subst hk
      simp [Tracker.readNet, Tracker.setLastNetworkReadTime, Tracker.setNetworkTotals, h.recv]
    · simp [Tracker.readNet, Tracker.setLastNetworkReadTime, Tracker.setNetworkTotals, h.recv, hk,
        Ne.symm hk]
  · rw [hreading] at hr'
    obtain rfl := Option.some.inj hr'
    rw [htime, hcache, Function.update_self]
  · have hne : k ≠ log.cacheTimeMs := by
      rintro rfl
      rw [hreading] at hk
      cases hk hcache
    rw [htime, Function.update_of_ne hne, hrestarted]
    exact h.time k (fun _ => hread) hlast

theorem Kept.collect (h : Kept c t log earlier) :
    Kept c (t.cycle log.cacheTimeMs) {} (log :: earlier) := by
  refine ⟨fun k => ?_, fun k => ?_, nofun, fun k _ hlast => ?_⟩
  · rw [lastReading_cons, Tracker.cycle]
    by_cases hk : log.cacheTimeMs = k
    · subst hk
      simp [PollLog.reading, h.sent]
    · simp [PollLog.reading, h.sent, hk, Ne.symm hk]
  · rw [lastReading_cons, Tracker.cycle]
    by_cases hk : log.cacheTimeMs = k
    · subst hk
      simp [PollLog.reading, h.recv]
    · simp [PollLog.reading, h.recv, hk, Ne.symm hk]
  · rw [lastReading_cons] at hlast
    have hnew : PollLog.restarted {} c = false := rfl
    rw [hnew, if_neg Bool.false_ne_true, baseline]
    by_cases hk : log.cacheTimeMs = k
    · subst hk
      rw [if_pos rfl] at hlast ⊢
      obtain ⟨r, hr⟩ := Option.isSome_iff_exists.mp hlast
      rw [hr]
      exact h.read r hr
    · rw [if_neg hk] at hlast ⊢
      exact h.time k (fun heq => absurd heq hk) hlast

end Kept

/-! ### Rates as they are computed -/

def ratesBetween (r r' : NetReading) : Uint64 × Uint64 :=
  (networkRate (some r.now) r'.since (r'.sent - r.sent),
    networkRate (some r.now) r'.since (r'.recv - r.recv))

def ratesOf (log : PollLog) (earlier : List PollLog) (c : Bytes) : Uint64 × Uint64 :=
  match log.previous PollLog.restarted earlier c, log.reading c with
  | some r, some r' => ratesBetween r r'
  | _, _ => (0, 0)

theorem ratesOf_of_unread {log : PollLog} {earlier : List PollLog} {c : Bytes}
    (hread : log.reading c = none) : ratesOf log earlier c = (0, 0) := by
  rw [ratesOf, hread]
  cases log.previous PollLog.restarted earlier c <;> rfl

theorem networkRate_zero (prevReadTime : Option ℤ) (since : ℤ) :
    networkRate prevReadTime since 0 = 0 := by
  cases prevReadTime <;> simp [networkRate]

/-- What a reading is compared with is the reading of the latest poll at the interval, if the
container has not been restarted since. -/
theorem Kept.networkRates {c : Bytes} {t : Tracker} {log log' : PollLog} {earlier : List PollLog}
    (h : Kept c t log earlier) (hread : log.reading c = none) {r : NetReading}
    (hcache : log'.cacheTimeMs = log.cacheTimeMs) (hreading : log'.reading c = some r)
    (hrestarted : log'.restarted c = log.restarted c) :
    (t.setNetworkTotals log.cacheTimeMs r.sent r.recv).networkRates log.cacheTimeMs r.since =
      ratesOf log' earlier c := by
  have hsent := congrArg Meter.previous (h.sent log.cacheTimeMs)
  have hrecv := congrArg Meter.previous (h.recv log.cacheTimeMs)
  have hrates : (t.setNetworkTotals log.cacheTimeMs r.sent r.recv).networkRates log.cacheTimeMs
      r.since =
        (networkRate (t.lastNetworkReadTime log.cacheTimeMs) r.since
            (Meter.delta ⟨some r.sent, (t.sent log.cacheTimeMs).previous⟩),
          networkRate (t.lastNetworkReadTime log.cacheTimeMs) r.since
            (Meter.delta ⟨some r.recv, (t.recv log.cacheTimeMs).previous⟩)) := by
    simp [Tracker.networkRates, Tracker.setNetworkTotals]
  rw [hrates, hsent, hrecv, ratesOf, hreading, PollLog.previous, hcache, hrestarted]
  cases hlast : lastReading log.cacheTimeMs c earlier with
  | none =>
      have hnone : baseline PollLog.restarted log.cacheTimeMs c earlier = none := by
        by_contra hsome
        obtain ⟨r', hr'⟩ := Option.ne_none_iff_exists'.mp hsome
        rw [lastReading_of_baseline hr'] at hlast
        cases hlast
      rw [hnone, ite_self]
      simp [Meter.delta, networkRate_zero]
  | some r' =>
      rw [h.time log.cacheTimeMs (fun _ => hread) (by rw [hlast]; rfl)]
      cases hprevious : (if log.restarted c then none
        else baseline PollLog.restarted log.cacheTimeMs c earlier) with
      | none => rfl
      | some r'' =>
          rw [Option.ite_none_left_eq_some] at hprevious
          have heq := lastReading_of_baseline hprevious.2
          rw [hlast, Option.some.injEq] at heq
          subst heq
          rfl

/-! ### A poll -/

/-- The entry of the container, if it has been read, is there, and it has the rates of the
reading. -/
def EntryRates (c : Bytes) (t : Tracker) (log : PollLog) (earlier : List PollLog) : Prop :=
  ((log.reading c).isSome → t.stats.isSome) ∧
    ∀ stats ∈ t.stats, stats.bandwidth = ratesOf log earlier c

/-- Where the poll is with the container, when the list has it at an index. -/
structure OwnRates (c : Bytes) (t : Tracker) (p : Polling) (log : PollLog)
    (earlier : List PollLog) (i : ℕ) : Prop where
  waiting : p.stage i = .waiting → c ∉ log.young ∧ c ∉ log.launched
  unread : p.stage i ≠ .done → log.reading c = none
  failed : p.stage i = .failed → t.stats = none
  done : p.stage i = .done → c ∈ log.launched → EntryRates c t log earlier
  skipped : c ∉ log.launched →
    log.reading c = none ∧ (p.stage i = .waiting ∨ p.stage i = .done)

structure PollRates (c : Bytes) (dm : DockerManager) (p : Polling) (log : PollLog)
    (earlier : List PollLog) : Prop where
  list : ListInv c dm p
  cacheTimeMs : log.cacheTimeMs = p.input.cacheTimeMs
  valid : dm.validIds = log.launched
  kept : Kept c (dm.track c) log earlier
  own : ∀ i l, p.input.IsOwn c i l → OwnRates c (dm.track c) p log earlier i
  absent : (∀ i l, ¬ p.input.IsOwn c i l) → c ∉ log.launched ∧ log.reading c = none

section Poll

variable {c : Bytes} {dm dm' : DockerManager} {p p' : Polling} {log log' : PollLog}
  {earlier : List PollLog}

theorem OwnRates.congr {i : ℕ} (h : OwnRates c (dm.track c) p log earlier i)
    (htrack : dm'.track c = dm.track c) (hstage : p'.stage i = p.stage i)
    (hyoung : c ∈ log'.young ↔ c ∈ log.young) (hlaunched : c ∈ log'.launched ↔ c ∈ log.launched)
    (hreading : log'.reading c = log.reading c) (hcache : log'.cacheTimeMs = log.cacheTimeMs) :
    OwnRates c (dm'.track c) p' log' earlier i := by
  have hrestarted : log'.restarted c = log.restarted c := by
    simp only [PollLog.restarted, hyoung, hlaunched]
  refine ⟨?_, ?_, ?_, ?_, ?_⟩
  · rw [hstage, hyoung, hlaunched]
    exact h.waiting
  · rw [hstage, hreading]
    exact h.unread
  · rw [hstage, htrack]
    exact h.failed
  · rw [hstage, hlaunched, htrack, EntryRates, ratesOf, PollLog.previous, hreading, hcache,
      hrestarted]
    exact h.done
  · rw [hlaunched, hreading, hstage]
    exact h.skipped

theorem OwnRates.launched {i : ℕ} (h : OwnRates c (dm.track c) p log earlier i)
    (hwaiting : p.stage i ≠ .waiting) (hdone : p.stage i ≠ .done) : c ∈ log.launched := by
  by_contra hskipped
  exact (h.skipped hskipped).2.elim hwaiting hdone

/-! ### What is recorded -/

theorem reading_cons (r : NetReading) (readings : List NetReading) :
    ({ log with readings := r :: readings } : PollLog).reading c =
      if r.id = c then some r else ({ log with readings } : PollLog).reading c := by
  simp only [PollLog.reading, List.find?_cons]
  by_cases hr : r.id = c <;> simp [hr]

theorem reading_read_of_ne {id : Bytes} (hne : id ≠ c) (a : Attempt) (err : Option UpdateError) :
    (log.read id a err).reading c = log.reading c := by
  rw [PollLog.read.eq_def]
  split
  · rw [reading_cons, if_neg hne]
  · rfl

variable (log) in
theorem visit_of_ne (cfg : DockerConfig) {ctr : ApiInfo} (hne : ctr.id.take 12 ≠ c) :
    (c ∈ (log.visit cfg ctr).young ↔ c ∈ log.young) ∧
      (c ∈ (log.visit cfg ctr).launched ↔ c ∈ log.launched) := by
  rw [PollLog.visit]
  split
  · exact ⟨Iff.rfl, Iff.rfl⟩
  · refine ⟨?_, ?_⟩
    · dsimp only
      split
      · rw [List.mem_cons, or_iff_right (Ne.symm hne)]
      · rfl
    · dsimp only
      split
      · rfl
      · rw [List.mem_cons, or_iff_right (Ne.symm hne)]

variable (log) in
theorem visit_of_not_panics (cfg : DockerConfig) {ctr : ApiInfo} (hguard : ctr.panics = false) :
    log.visit cfg ctr =
      { log with
        young := if ctr.isYoung then ctr.id.take 12 :: log.young else log.young
        launched :=
          if shouldExcludeContainer cfg ctr.name then log.launched
          else ctr.id.take 12 :: log.launched } := by
  rw [PollLog.visit, hguard]
  rfl

/-! ### Steps of a poll -/

theorem PollRates.frame (h : PollRates c dm p log earlier) (hlist : ListInv c dm' p')
    (hinput : p'.input = p.input) (htrack : dm'.track c = dm.track c)
    (hstage : ∀ i l, p.input.IsOwn c i l → p'.stage i = p.stage i)
    (hvalid : dm'.validIds = log'.launched) (hcache : log'.cacheTimeMs = log.cacheTimeMs)
    (hyoung : c ∈ log'.young ↔ c ∈ log.young) (hlaunched : c ∈ log'.launched ↔ c ∈ log.launched)
    (hreading : log'.reading c = log.reading c) : PollRates c dm' p' log' earlier where
  list := hlist
  cacheTimeMs := by rw [hcache, hinput, h.cacheTimeMs]
  valid := hvalid
  kept := by
    rw [htrack]
    refine h.kept.congr rfl hcache hreading ?_
    simp only [PollLog.restarted, hyoung, hlaunched]
  own i l hown := by
    rw [hinput] at hown
    exact (h.own i l hown).congr htrack (hstage i l hown) hyoung hlaunched hreading hcache
  absent hnone := by
    rw [hinput] at hnone
    rw [hlaunched, hreading]
    exact h.absent hnone

theorem PollRates.moved (h : PollRates c dm p log earlier) {j : ℕ} {l : Listed}
    (hown : p.input.IsOwn c j l) (hlist : ListInv c dm' p') (hinput : p'.input = p.input)
    (hvalid : dm'.validIds = log'.launched) (hcache : log'.cacheTimeMs = log.cacheTimeMs)
    (hkept : Kept c (dm'.track c) log' earlier)
    (hrates : OwnRates c (dm'.track c) p' log' earlier j) : PollRates c dm' p' log' earlier where
  list := hlist
  cacheTimeMs := by rw [hcache, hinput, h.cacheTimeMs]
  valid := hvalid
  kept := hkept
  own i l' hown' := by
    rw [hinput] at hown'
    rwa [h.list.unique i j l' l hown' hown]
  absent hnone := by
    rw [hinput] at hnone
    exact absurd hown (hnone j l)

theorem PollRates.skipped (h : PollRates c dm p log earlier) {cfg : DockerConfig}
    (hnext : p.next < p.input.listed.length) (hguard : (dm.ctr p.next).panics = false)
    (hexcluded : shouldExcludeContainer cfg (dm.ctr p.next).name = true) :
    PollRates c (dm.setIdShort p.next) p.skipped (log.visit cfg (dm.ctr p.next)) earlier := by
  have hstep : LoopStep dm (dm.setIdShort p.next) p p.skipped := loopStep_skipped
  have hvisit := visit_of_not_panics log cfg hguard
  rw [hexcluded, if_pos rfl] at hvisit
  have hlist := hstep.listInv h.list hnext
  by_cases hlisted : ∃ l, p.input.IsOwn c p.next l
  · obtain ⟨l, hown⟩ := hlisted
    have hold := h.own _ l hown
    have hwaiting : p.stage p.next = .waiting := stage_waiting le_rfl
    have hnotLaunched := (hold.waiting hwaiting).2
    have hread := hold.unread (ne_of_eq_of_ne hwaiting (by decide))
    have hdone : p.skipped.stage p.next = .done := by
      obtain ⟨hrunning, herred, hfailed⟩ := not_mem_next h.list
      simp [Polling.stage, Polling.skipped, hrunning, herred, hfailed]
    rw [hvisit]
    refine h.moved hown hlist rfl h.valid rfl (h.kept.congr rfl rfl rfl ?_) ?_
    · simp [PollLog.restarted, hnotLaunched]
    · refine ⟨?_, fun hne => absurd hdone hne, ?_, fun _ hlaunched => absurd hlaunched hnotLaunched,
        fun _ => ⟨hread, .inr hdone⟩⟩
      · simp [hdone]
      · simp [hdone]
  · have hne : (dm.ctr p.next).id.take 12 ≠ c := fun heq => hlisted ((h.list.ids _ hnext).mp heq)
    obtain ⟨hyoung, hlaunched⟩ := visit_of_ne log cfg hne
    refine h.frame hlist rfl rfl (fun i l hown => ?_) (by rw [hvisit]; exact h.valid)
      (by rw [hvisit]) hyoung hlaunched (by rw [hvisit]; rfl)
    have hi : i ≠ p.next := by
      rintro rfl
      exact hlisted ⟨l, hown⟩
    exact hstep.stage_of_ne hi Iff.rfl rfl rfl

theorem PollRates.launched (h : PollRates c dm p log earlier) {cfg : DockerConfig}
    (hnext : p.next < p.input.listed.length) (hguard : (dm.ctr p.next).panics = false)
    (hexcluded : shouldExcludeContainer cfg (dm.ctr p.next).name = false) :
    PollRates c ((dm.setIdShort p.next).launch ((dm.setIdShort p.next).ctr p.next)) p.launched
      (log.visit cfg (dm.ctr p.next)) earlier := by
  have hctr : (dm.setIdShort p.next).ctr p.next =
      { dm.ctr p.next with idShort := (dm.ctr p.next).id.take 12 } :=
    (dm.ctr_modifyCtr _ _ _ (by rwa [h.list.length])).trans (if_pos rfl)
  have hstep : LoopStep dm ((dm.setIdShort p.next).launch ((dm.setIdShort p.next).ctr p.next)) p
      p.launched := loopStep_launched _
  have hvisit := visit_of_not_panics log cfg hguard
  rw [hexcluded, if_neg Bool.false_ne_true] at hvisit
  have hlist := hstep.listInv h.list hnext
  have hvalid : ((dm.setIdShort p.next).launch ((dm.setIdShort p.next).ctr p.next)).validIds =
      (log.visit cfg (dm.ctr p.next)).launched := by
    rw [validIds_launch, hctr, hvisit]
    exact congrArg _ h.valid
  have htrack : ((dm.setIdShort p.next).launch ((dm.setIdShort p.next).ctr p.next)).track c =
      if c = (dm.ctr p.next).id.take 12 then (dm.track c).restart (dm.ctr p.next)
      else dm.track c := by
    rw [track_launch, hctr]
    rfl
  by_cases hlisted : ∃ l, p.input.IsOwn c p.next l
  · obtain ⟨l, hown⟩ := hlisted
    have hold := h.own _ l hown
    have hwaiting : p.stage p.next = .waiting := stage_waiting le_rfl
    have hread := hold.unread (ne_of_eq_of_ne hwaiting (by decide))
    have hid : (dm.ctr p.next).id.take 12 = c := (h.list.ids _ hnext).mpr ⟨l, hown⟩
    have hrunning : p.launched.stage p.next = .running := by
      simp [Polling.stage, Polling.launched]
    rw [if_pos hid.symm] at htrack
    refine h.moved hown hlist rfl hvalid (by rw [hvisit]) ?_ ?_
    · rw [htrack, Tracker.restart]
      split
      case isTrue hyoung =>
        refine h.kept.restart (by rw [hvisit]) hread (by rw [hvisit]; rfl) ?_
        simp [PollLog.restarted, hvisit, hyoung, hid]
      case isFalse hyoung =>
        refine h.kept.congr rfl (by rw [hvisit]) (by rw [hvisit]; rfl) ?_
        have hnotYoung := (hold.waiting hwaiting).1
        simp [PollLog.restarted, hvisit, hyoung, hnotYoung]
    · refine ⟨?_, fun _ => by rw [hvisit]; exact hread, ?_, ?_, fun hskipped => ?_⟩
      · simp [hrunning]
      · simp [hrunning]
      · simp [hrunning]
      · simp [hvisit, hid] at hskipped
  · have hne : (dm.ctr p.next).id.take 12 ≠ c := fun heq => hlisted ((h.list.ids _ hnext).mp heq)
    obtain ⟨hyoung, hlaunched⟩ := visit_of_ne log cfg hne
    rw [if_neg hne.symm] at htrack
    refine h.frame hlist rfl htrack (fun i l hown => ?_) hvalid (by rw [hvisit]) hyoung hlaunched
      (by rw [hvisit]; rfl)
    have hi : i ≠ p.next := by
      rintro rfl
      exact hlisted ⟨l, hown⟩
    exact hstep.stage_of_ne hi (by simp [Polling.launched, hi]) rfl rfl

/-! ### Updates -/

theorem read_error {id : Bytes} {a : Attempt} {e : UpdateError} :
    log.read id a (some e) = log := rfl

theorem read_of_response {id : Bytes} {a : Attempt} {response : StatsResponse}
    (hresponse : a.response = some response) :
    log.read id a none =
      { log with
        readings := ⟨id, (response.decode {}).totalSent, (response.decode {}).totalRecv, a.since,
          a.now⟩ :: log.readings } := by
  rw [PollLog.read.eq_def, hresponse]

theorem Updated.kept {a : Attempt} {t t' : Tracker} {err : Option UpdateError}
    (h : Updated log.cacheTimeMs a t t' err) (hkept : Kept c t log earlier)
    (hread : log.reading c = none) : Kept c t' (log.read c a err) earlier := by
  cases h with
  | unanswered hresponse hsame =>
      rw [read_error, hsame]
      exact hkept
  | failed hnet hstats hrates =>
      rw [read_error]
      exact hkept.congr hnet rfl rfl rfl
  | @read response stats hresponse hnet hstats hrates =>
      rw [read_of_response hresponse]
      refine hkept.readNet hread (r := ⟨c, (response.decode {}).totalSent,
        (response.decode {}).totalRecv, a.since, a.now⟩) hnet rfl ?_ rfl
      rw [reading_cons, if_pos rfl]

/-- An update that succeeds leaves the rates of its reading, and one that fails leaves none where
there was no entry. -/
theorem Updated.entryRates {a : Attempt} {t t' : Tracker} {err : Option UpdateError}
    (h : Updated log.cacheTimeMs a t t' err) (hkept : Kept c t log earlier)
    (hread : log.reading c = none) (hstart : err = none ∨ t.stats = none) :
    EntryRates c t' (log.read c a err) earlier := by
  cases h with
  | unanswered hresponse hsame =>
      have hnone : t'.stats = none := by
        rw [hsame]
        exact hstart.resolve_left nofun
      refine ⟨?_, ?_⟩
      · rw [read_error, hread]
        nofun
      · rw [hnone]
        nofun
  | failed hnet hstats hrates =>
      refine ⟨fun _ => by rw [hstats]; rfl, fun stats' hstats' => ?_⟩
      rw [hstats] at hstats'
      rw [← Option.some.inj hstats', hrates, read_error, ratesOf_of_unread hread]
  | @read response stats hresponse hnet hstats hrates =>
      refine ⟨fun _ => by rw [hstats]; rfl, fun stats' hstats' => ?_⟩
      rw [hstats] at hstats'
      rw [← Option.some.inj hstats', hrates, read_of_response hresponse]
      refine hkept.networkRates hread (r := ⟨c, (response.decode {}).totalSent,
        (response.decode {}).totalRecv, a.since, a.now⟩) rfl ?_ rfl
      rw [reading_cons, if_pos rfl]

variable (log) in
theorem read_launched (id : Bytes) (a : Attempt) (err : Option UpdateError) :
    (log.read id a err).launched = log.launched ∧ (log.read id a err).young = log.young ∧
      (log.read id a err).cacheTimeMs = log.cacheTimeMs := by
  rw [PollLog.read.eq_def]
  split <;> exact ⟨rfl, rfl, rfl⟩

theorem PollRates.updatedOther (h : PollRates c dm p log earlier) {cfg : DockerConfig} {j : ℕ}
    (a : Attempt)
    (hstep : GoroutineStep dm (dm.updateContainerStats cfg p.input.cacheTimeMs j a).1 p p')
    (hstarted : j < p.next) (hstage : ∀ i, i ≠ j → p'.stage i = p.stage i)
    (hnone : ∀ l, ¬ p.input.IsOwn c j l) (err : Option UpdateError) :
    PollRates c (dm.updateContainerStats cfg p.input.cacheTimeMs j a).1 p'
      (log.read (dm.ctr j).idShort a err) earlier := by
  have hne := h.list.idShort_ne hnone hstarted
  obtain ⟨hlaunched, hyoung, hcache⟩ := read_launched log (dm.ctr j).idShort a err
  refine h.frame (hstep.listInv h.list) hstep.input
    (dm.track_updateContainerStats_of_ne cfg c _ j a hne.symm) (fun i l hown => ?_) ?_ hcache
    (by rw [hyoung]) (by rw [hlaunched]) (reading_read_of_ne hne a err)
  · refine hstage i ?_
    rintro rfl
    exact hnone l hown
  · rw [hlaunched, validIds_updateContainerStats, h.valid]

theorem PollRates.updatedOwn (h : PollRates c dm p log earlier) {cfg : DockerConfig} {j : ℕ}
    {a : Attempt} {l : Listed} (hown : p.input.IsOwn c j l) {dm' : DockerManager}
    {err : Option UpdateError} (hupdate : dm.updateContainerStats cfg p.input.cacheTimeMs j a =
      (dm', err)) (hstep : GoroutineStep dm dm' p p') (hstarted : j < p.next)
    (hwaiting : p.stage j ≠ .waiting) (hdone : p.stage j ≠ .done)
    (hunread : p'.stage j ≠ .done → err ≠ none) (hwaiting' : p'.stage j ≠ .waiting)
    (hfailed : p'.stage j ≠ .failed)
    (hstart : p'.stage j = .done → err = none ∨ (dm.track c).stats = none) :
    PollRates c dm' p' (log.read (dm.ctr j).idShort a err) earlier := by
  have hold := h.own j l hown
  have hread := hold.unread hdone
  have hmem := hold.launched hwaiting hdone
  have hupdated := updated_updateContainerStats cfg dm p.input.cacheTimeMs j a
  have hvalid := validIds_updateContainerStats cfg dm p.input.cacheTimeMs j a
  rw [h.list.idShort_of_own hown hstarted, hupdate, ← h.cacheTimeMs] at hupdated
  rw [h.list.idShort_of_own hown hstarted]
  rw [hupdate, h.valid] at hvalid
  obtain ⟨hlaunched, -, hcache⟩ := read_launched log c a err
  refine h.moved hown (hstep.listInv h.list) hstep.input (by rw [hlaunched, hvalid]) hcache
    (hupdated.kept h.kept hread) ?_
  refine ⟨fun heq => absurd heq hwaiting', fun hne => ?_, fun heq => absurd heq hfailed,
    fun heq _ => hupdated.entryRates h.kept hread (hstart heq), fun hskipped => ?_⟩
  · obtain ⟨e, he⟩ := Option.ne_none_iff_exists'.mp (hunread hne)
    rw [he, read_error]
    exact hread
  · rw [hlaunched] at hskipped
    exact absurd hmem hskipped

theorem PollRates.updated (h : PollRates c dm p log earlier) (cfg : DockerConfig) {j : ℕ}
    (hj : j ∈ p.running) (a : Attempt) :
    PollRates c (dm.updateContainerStats cfg p.input.cacheTimeMs j a).1
      (p.updated j (dm.updateContainerStats cfg p.input.cacheTimeMs j a).2)
      (log.read (dm.ctr j).idShort a (dm.updateContainerStats cfg p.input.cacheTimeMs j a).2)
      earlier := by
  have hstarted : j < p.next := h.list.started j (by simp [Polling.goroutines, hj])
  have hstep : GoroutineStep dm (dm.updateContainerStats cfg p.input.cacheTimeMs j a).1 p
      (p.updated j (dm.updateContainerStats cfg p.input.cacheTimeMs j a).2) :=
    goroutineStep_update a rfl rfl (goroutines_updated hj _)
  by_cases hlisted : ∃ l, p.input.IsOwn c j l
  · obtain ⟨l, hown⟩ := hlisted
    have hrunning := h.list.stage_running hj
    have hstage := stage_updated h.list hj (dm.updateContainerStats cfg p.input.cacheTimeMs j a).2
    refine h.updatedOwn hown rfl hstep hstarted (ne_of_eq_of_ne hrunning (by decide))
      (ne_of_eq_of_ne hrunning (by decide)) ?_ ?_ ?_ ?_
    all_goals
      rw [hstage]
      cases (dm.updateContainerStats cfg p.input.cacheTimeMs j a).2 <;> simp
  · exact h.updatedOther a hstep hstarted (fun i hne => stage_updated_of_ne hne _)
      (fun l hown => hlisted ⟨l, hown⟩) _

theorem PollRates.retried (h : PollRates c dm p log earlier) (cfg : DockerConfig) {j : ℕ}
    (hj : j ∈ p.failedContainers) (a : Attempt) :
    PollRates c (dm.updateContainerStats cfg p.input.cacheTimeMs j a).1 (p.retried j)
      (log.read (dm.ctr j).idShort a (dm.updateContainerStats cfg p.input.cacheTimeMs j a).2)
      earlier := by
  have hstarted : j < p.next := h.list.started j (by simp [Polling.goroutines, hj])
  have hstep : GoroutineStep dm (dm.updateContainerStats cfg p.input.cacheTimeMs j a).1 p
      (p.retried j) := goroutineStep_update a rfl rfl goroutines_retried
  by_cases hlisted : ∃ l, p.input.IsOwn c j l
  · obtain ⟨l, hown⟩ := hlisted
    have hfailed := h.list.stage_failed hj
    have hdone := stage_retried h.list hj
    refine h.updatedOwn hown rfl hstep hstarted (ne_of_eq_of_ne hfailed (by decide))
      (ne_of_eq_of_ne hfailed (by decide)) (fun hne => absurd hdone hne)
      (ne_of_eq_of_ne hdone (by decide)) (ne_of_eq_of_ne hdone (by decide))
      (fun _ => .inr ((h.own j l hown).failed hfailed))
  · exact h.updatedOther a hstep hstarted (fun i hne => stage_retried_of_ne hne)
      (fun l hown => hlisted ⟨l, hown⟩) _

theorem PollRates.dropped (h : PollRates c dm p log earlier) {j : ℕ} (hj : j ∈ p.erred) :
    PollRates c (dm.deleteStats (dm.ctr j).idShort) (p.dropped j) log earlier := by
  have hstarted : j < p.next := h.list.started j (by simp [Polling.goroutines, hj])
  have hstep : GoroutineStep dm _ p (p.dropped j) := goroutineStep_drop hj (dm.ctr j).idShort
  have htrack := dm.track_deleteStats c (dm.ctr j).idShort
  by_cases hlisted : ∃ l, p.input.IsOwn c j l
  · obtain ⟨l, hown⟩ := hlisted
    have hold := h.own j l hown
    have herred := h.list.stage_erred hj
    have hfailed := stage_dropped h.list hj
    have hread := hold.unread (ne_of_eq_of_ne herred (by decide))
    have hmem := hold.launched (ne_of_eq_of_ne herred (by decide))
      (ne_of_eq_of_ne herred (by decide))
    rw [if_pos (h.list.idShort_of_own hown hstarted).symm] at htrack
    refine h.moved hown (hstep.listInv h.list) rfl h.valid rfl ?_ ?_
    · rw [htrack]
      exact h.kept.congr rfl rfl rfl rfl
    · refine ⟨?_, fun _ => hread, fun _ => ?_, ?_, fun hskipped => absurd hmem hskipped⟩
      · simp [hfailed]
      · rw [htrack]
        rfl
      · simp [hfailed]
  · have hne := h.list.idShort_ne (fun l hown => hlisted ⟨l, hown⟩) hstarted
    rw [if_neg hne.symm] at htrack
    refine h.frame (hstep.listInv h.list) rfl htrack (fun i l hown => ?_) h.valid rfl Iff.rfl
      Iff.rfl rfl
    refine stage_dropped_of_ne ?_
    rintro rfl
    exact hlisted ⟨l, hown⟩

theorem isOwn_unique {input : PollInput} (hdistinct : input.Distinct) {i j : ℕ} {l l' : Listed}
    (hi : input.IsOwn c i l) (hj : input.IsOwn c j l') : i = j := by
  have hids := List.nodup_iff_getElem?_ne_getElem?.mp hdistinct.2
  have hi' : (input.listed.map (·.entry.shortId))[i]? = some c := by
    rw [List.getElem?_map, hi.1, Option.map_some, hi.2]
  have hj' : (input.listed.map (·.entry.shortId))[j]? = some c := by
    rw [List.getElem?_map, hj.1, Option.map_some, hj.2]
  have hilt : i < (input.listed.map (·.entry.shortId)).length := by
    rw [List.length_map]
    exact hi.lt_length
  have hjlt : j < (input.listed.map (·.entry.shortId)).length := by
    rw [List.length_map]
    exact hj.lt_length
  rcases Nat.lt_trichotomy i j with hlt | heq | hgt
  · exact absurd (hi'.trans hj'.symm) (hids i j hlt hjlt)
  · exact heq
  · exact absurd (hj'.trans hi'.symm) (hids j i hgt hilt)

theorem pollRates_list {s : DockerPolls} {input : PollInput} (hdistinct : input.Distinct)
    (hkept : Kept c (s.dm.track c) {} earlier) :
    PollRates c (s.list input).dm { input } { cacheTimeMs := input.cacheTimeMs } earlier where
  list := by
    refine listInv_list s (fun i j l l' => isOwn_unique hdistinct) fun i l hl => ?_
    obtain ⟨id, hid⟩ := Option.isSome_iff_exists.mp (hdistinct.1 l (List.mem_of_getElem? hl))
    rw [ApiEntry.decode, ApiEntry.shortId, hid]
    rfl
  cacheTimeMs := rfl
  valid := rfl
  kept := by
    refine hkept.list ?_ _
    rfl
  own i l _ := by
    have hwaiting : Polling.stage { input } i = .waiting := stage_waiting (Nat.zero_le i)
    refine ⟨fun _ => ⟨List.not_mem_nil, List.not_mem_nil⟩, fun _ => rfl, ?_, ?_,
      fun _ => ⟨rfl, .inl hwaiting⟩⟩
    · simp [hwaiting]
    · simp [hwaiting]
  absent _ := ⟨List.not_mem_nil, rfl⟩

end Poll

/-! ### Runs -/

/-- The container is reported if it is read, and with the rates of the reading. -/
def OwnReported (c : Bytes) (f : FinishedPoll) (earlier : List PollLog) : Prop :=
  ((f.log.reading c).isSome → ∃ stats ∈ f.values, stats.id = c) ∧
    ∀ stats ∈ f.values, stats.id = c → stats.bandwidth = ratesOf f.log earlier c

structure RatesInv (c : Bytes) (s : LoggedPolls) : Prop where
  keyed : Keyed s.dm.containerStatsMap
  idle : s.polls.polling = none → s.log = {} ∧ Kept c (s.dm.track c) {} s.earlier
  polling : ∀ p ∈ s.polls.polling, PollRates c s.dm p s.log s.earlier
  finished : EachPoll (OwnReported c) s.finished

theorem ratesInv_init (c : Bytes) : RatesInv c {} :=
  ⟨nofun, fun _ => ⟨rfl, kept_init c⟩, nofun, trivial⟩

def DockerEvent.Distinct : DockerEvent → Prop
  | .list input => input.Distinct
  | _ => True

instance (e : DockerEvent) : Decidable e.Distinct := by
  apply @DockerEvent.casesOn (fun e => Decidable e.Distinct) e <;> intros <;>
    unfold DockerEvent.Distinct <;> infer_instance

section Run

variable {cfg : DockerConfig} {c : Bytes} {s s' : LoggedPolls} {p p' : Polling}

theorem RatesInv.during (h : RatesInv c s) (hfinished : s'.finished = s.finished)
    (hpolling : s'.polls.polling = some p') (hkeyed : Keyed s'.dm.containerStatsMap)
    (hrates : PollRates c s'.dm p' s'.log s.earlier) : RatesInv c s' where
  keyed := hkeyed
  idle hidle := by rw [hpolling] at hidle; cases hidle
  polling p'' hp'' := by
    rw [hpolling] at hp''
    rw [← Option.some.inj hp'', LoggedPolls.earlier, hfinished]
    exact hrates
  finished := by rw [hfinished]; exact h.finished

theorem ownReported_of_pollRates {dm : DockerManager} {log : PollLog} {earlier : List PollLog}
    (h : PollRates c dm p log earlier) (hkeyed : Keyed dm.pruneStats.containerStatsMap)
    (hwaited : p.waited = true) (hfailed : p.failedContainers = []) :
    OwnReported c ⟨log, dm.pruneStats.containerStatsMap.values⟩ earlier := by
  have hvalues := ObjectTable.filter_values hkeyed c
  have hstats := congrArg Tracker.stats (dm.track_pruneStats c)
  change dm.pruneStats.containerStatsMap.get c = _ at hstats
  rw [h.valid] at hstats
  have hentry : c ∈ log.launched → EntryRates c (dm.track c) log earlier := by
    intro hmem
    have hlisted : ∃ i l, p.input.IsOwn c i l := by
      by_contra hnone
      exact (h.absent fun i l hown => hnone ⟨i, l, hown⟩).1 hmem
    obtain ⟨i, l, hown⟩ := hlisted
    exact (h.own i l hown).done (stage_of_waited hown hwaited hfailed) hmem
  have hskipped : c ∉ log.launched → log.reading c = none := by
    intro hnotMem
    by_cases hlisted : ∃ i l, p.input.IsOwn c i l
    · obtain ⟨i, l, hown⟩ := hlisted
      exact ((h.own i l hown).skipped hnotMem).1
    · exact (h.absent fun i l hown => hlisted ⟨i, l, hown⟩).2
  have hmem (stats : DockerStats) : stats ∈ dm.pruneStats.containerStatsMap.values ∧
      stats.id = c ↔ dm.pruneStats.containerStatsMap.get c = some stats := by
    rw [← Option.mem_toList, ← hvalues, List.mem_filter, decide_eq_true_eq]
  by_cases hlaunched : c ∈ log.launched
  · obtain ⟨hread, hrates⟩ := hentry hlaunched
    rw [if_pos hlaunched] at hstats
    refine ⟨fun hsome => ?_, fun stats hvalue hid => ?_⟩
    · obtain ⟨stats, hold⟩ := Option.isSome_iff_exists.mp (hread hsome)
      exact ⟨stats, (hmem stats).mpr (hstats.trans hold)⟩
    · exact hrates stats (hstats.symm.trans ((hmem stats).mp ⟨hvalue, hid⟩))
  · rw [if_neg hlaunched] at hstats
    refine ⟨fun hsome => ?_, fun stats hvalue hid => ?_⟩
    · change (log.reading c).isSome = true at hsome
      rw [hskipped hlaunched] at hsome
      cases hsome
    · exact absurd (hstats.symm.trans ((hmem stats).mp ⟨hvalue, hid⟩)) nofun

theorem kept_of_collected {dm : DockerManager} {log : PollLog} {earlier : List PollLog}
    (h : PollRates c dm p log earlier) :
    Kept c ((dm.pruneStats.cycleNetworkDeltasForCacheTime p.input.cacheTimeMs).track c) {}
      (log :: earlier) := by
  have hnet : (dm.pruneStats.track c).net = (dm.track c).net := by
    rw [DockerManager.track_pruneStats]
    split <;> rfl
  rw [DockerManager.track_cycle, ← h.cacheTimeMs]
  exact (h.kept.congr hnet rfl rfl rfl).collect

theorem RatesInv.visit (h : RatesInv c s) (hp : s.polls.polling = some p)
    (hnext : p.next < p.input.listed.length) {log' : PollLog}
    (hlog : log' = s.log.visit cfg (s.dm.ctr p.next)) :
    RatesInv c { s with polls := s.polls.visit cfg p, log := log' } := by
  have hpoll := h.polling p hp
  have hkeyed : Keyed (s.dm.setIdShort p.next).containerStatsMap := h.keyed
  subst hlog
  cases hguard : (s.dm.ctr p.next).panics with
  | true =>
      have hpolls : s.polls.visit cfg p = { s.polls with panicked := true } := by
        rw [DockerPolls.visit]
        exact if_pos hguard
      have hlog : s.log.visit cfg (s.dm.ctr p.next) = s.log := by
        rw [PollLog.visit]
        exact if_pos hguard
      rw [hpolls, hlog]
      exact h.during rfl hp h.keyed hpoll
  | false =>
      cases hexcluded : shouldExcludeContainer cfg (s.dm.ctr p.next).name with
      | true =>
          have hpolls : s.polls.visit cfg p =
              { s.polls with dm := s.dm.setIdShort p.next, polling := some p.skipped } := by
            rw [DockerPolls.visit]
            exact (if_neg (by rw [LoggedPolls.dm] at hguard; simp [hguard])).trans
              (if_pos hexcluded)
          rw [hpolls]
          exact h.during rfl rfl hkeyed (hpoll.skipped hnext hguard hexcluded)
      | false =>
          have hpolls : s.polls.visit cfg p =
              { s.polls with
                dm := (s.dm.setIdShort p.next).launch ((s.dm.setIdShort p.next).ctr p.next)
                polling := some p.launched } := by
            rw [DockerPolls.visit]
            exact (if_neg (by rw [LoggedPolls.dm] at hguard; simp [hguard])).trans
              (if_neg (by rw [LoggedPolls.dm] at hexcluded; simp [hexcluded]))
          rw [hpolls]
          exact h.during rfl rfl (keyed_launch hkeyed _) (hpoll.launched hnext hguard hexcluded)

theorem ratesInv_step (hinv : RatesInv c s) {e : DockerEvent} (hguard : e.Distinct)
    (hstep : s.step cfg e = some s') : RatesInv c s' := by
  rw [LoggedPolls.step, Option.map_eq_some_iff] at hstep
  obtain ⟨polls, hpolls, rfl⟩ := hstep
  rw [DockerPolls.step.eq_def, Option.ite_none_left_eq_some] at hpolls
  obtain ⟨-, hpolls⟩ := hpolls
  cases hp : s.polls.polling with
  | none =>
      obtain ⟨hlog, hkept⟩ := hinv.idle hp
      cases e with
      | list input =>
          simp only [hp, Option.some_inj] at hpolls
          subst hpolls
          refine hinv.during rfl rfl hinv.keyed ?_
          rw [LoggedPolls.nextLog.eq_def]
          exact pollRates_list hguard hkept
      | badList entries =>
          simp only [hp, Option.some_inj] at hpolls
          subst hpolls
          refine ⟨hinv.keyed, fun _ => ?_, ?_, hinv.finished⟩
          · rw [LoggedPolls.nextLog.eq_def, hp]
            exact ⟨hlog, hkept⟩
          · exact fun p hmem => absurd hmem (Option.not_mem_none p)
      | _ => simp [hp] at hpolls
  | some p =>
      have hpoll := hinv.polling p hp
      cases e with
      | visit =>
          simp only [hp, Option.ite_none_right_eq_some, Option.some_inj] at hpolls
          obtain ⟨hnext, rfl⟩ := hpolls
          have hlog : s.nextLog cfg .visit = s.log.visit cfg (s.dm.ctr p.next) := by
            rw [LoggedPolls.nextLog.eq_def, hp]
          exact hinv.visit hp hnext hlog
      | update i =>
          simp only [hp, Option.ite_none_right_eq_some, Option.some_inj] at hpolls
          obtain ⟨hi, rfl⟩ := hpolls
          refine hinv.during rfl rfl (keyed_updateContainerStats hinv.keyed cfg _ i _) ?_
          rw [LoggedPolls.nextLog.eq_def, hp]
          exact hpoll.updated cfg hi _
      | drop i =>
          simp only [hp, Option.ite_none_right_eq_some, Option.some_inj] at hpolls
          obtain ⟨hi, rfl⟩ := hpolls
          refine hinv.during rfl rfl (hinv.keyed.retain _) ?_
          rw [LoggedPolls.nextLog.eq_def, hp]
          exact hpoll.dropped hi
      | retry i =>
          simp only [hp, Option.ite_none_right_eq_some, Option.some_inj] at hpolls
          obtain ⟨⟨-, hi⟩, rfl⟩ := hpolls
          refine hinv.during rfl rfl (keyed_updateContainerStats hinv.keyed cfg _ i _) ?_
          rw [LoggedPolls.nextLog.eq_def, hp]
          exact hpoll.retried cfg hi _
      | collect =>
          simp only [hp, Option.ite_none_right_eq_some, Option.some_inj] at hpolls
          obtain ⟨⟨hwaited, hfailed⟩, rfl⟩ := hpolls
          have hkeyed : Keyed s.dm.pruneStats.containerStatsMap := hinv.keyed.retain _
          have hlog : s.nextLog cfg .collect = {} := by rw [LoggedPolls.nextLog.eq_def, hp]
          refine ⟨hkeyed, fun _ => ⟨hlog, kept_of_collected hpoll⟩,
            fun p hmem => absurd hmem (Option.not_mem_none p), ?_⟩
          refine ⟨?_, hinv.finished⟩
          rw [DockerPolls.collect, List.getLast?_concat]
          exact ownReported_of_pollRates hpoll hkeyed hwaited hfailed
      | _ => simp [hp] at hpolls

theorem ratesInv_of_guarded {es : List DockerEvent} (c : Bytes)
    (hrun : Guarded (LoggedPolls.step cfg) (fun _ e => e.Distinct) {} es s) : RatesInv c s :=
  hrun.invariant (fun _ _ _ hinv hguard hstep => ratesInv_step hinv hguard hstep) (ratesInv_init c)

end Run

/-! ### Rates that do not wrap -/

/-- The rate in numbers, of a product that may have wrapped. -/
theorem val_networkRate {since now : ℤ} (hpos : 0 ≤ (since - now) / 1000000)
    (hlt : (since - now) / 1000000 < 2 ^ 31) (deltaRaw : Uint64) :
    (networkRate (some now) since deltaRaw).val =
      if 0 < (since - now) / 1000000 ∧
          (deltaRaw * 1000).val / ((since - now) / 1000000).toNat ≤ 5000000000 then
        (deltaRaw * 1000).val / ((since - now) / 1000000).toNat
      else 0 := by
  have hms := val_toUint64_millis (t := since) (u := now) (by omega) (by omega)
  obtain ⟨ms, hms'⟩ : ∃ ms, toUint64 ((timeSub since now).tdiv 1000000) = ms := ⟨_, rfl⟩
  have hms_iff : 0 < ms ↔ 0 < (since - now) / 1000000 := by
    rw [← hms', Fin.lt_def, hms]
    simp
  rw [hms'] at hms
  rw [networkRate, ← hms, hms']
  by_cases hzero : deltaRaw = 0
  · subst hzero
    simp
  · have hdelta : 0 < deltaRaw := Fin.pos_of_ne_zero hzero
    by_cases hms0 : 0 < ms
    · have hlimit : maxNetworkSpeedBps < deltaRaw * 1000 / ms ↔
          ¬ (deltaRaw * 1000).val / ms.val ≤ 5000000000 := by
        rw [Nat.not_le]
        rfl
      simp only [hms0, hdelta, hms_iff.mp hms0, and_self, true_and, if_true]
      by_cases hle : (deltaRaw * 1000).val / ms.val ≤ 5000000000
      · rw [if_pos hle, if_neg (fun hover => hlimit.mp hover hle)]
        rfl
      · rw [if_neg hle, if_pos (hlimit.mpr hle)]
        rfl
    · rw [if_neg (fun hand => hms0 hand.1), if_neg (fun hand => hms0 (hms_iff.mpr hand.1))]
      rfl

/-- A total that goes up is far from wrapping, and one that goes down wraps to a rate above the
limit. -/
theorem networkRate_of_near {before after : Uint64} {now since : ℤ}
    (htotal : |(after.val : ℤ) - before.val| < 2 ^ 52) (hpos : 0 ≤ (since - now) / 1000000)
    (hlt : (since - now) / 1000000 < 2 ^ 31) :
    (networkRate (some now) since (after - before)).val =
      exactRate before after ((since - now) / 1000000) := by
  rw [val_networkRate hpos hlt, exactRate]
  rw [abs_lt] at htotal
  generalize (since - now) / 1000000 = ms at hpos hlt
  rcases Nat.lt_or_ge after.val before.val with hdown | hup
  · have hwrap : ((after - before) * 1000).val = 2 ^ 64 - (before.val - after.val) * 1000 :=
      Unsigned.val_sub_mul_of_lt (Fin.lt_def.mpr hdown) (by decide)
        (by change _ * 1000 < _; omega)
    have hle : ¬ before ≤ after := Fin.not_le.mpr hdown
    simp only [hle, false_and, if_false]
    refine if_neg fun hand => ?_
    have hms : 0 < ms.toNat := by omega
    have hlimit := (Nat.div_le_iff_le_mul hms).mp hand.2
    rw [hwrap] at hlimit
    omega
  · have hexact : ((after - before) * 1000).val = (after.val - before.val) * 1000 :=
      Unsigned.val_sub_mul_of_le (Fin.le_def.mpr hup) (by change _ * 1000 < _; omega)
    have hle : before ≤ after := Fin.le_def.mpr hup
    rw [hexact]
    simp only [hle, true_and]

theorem ratesBetween_of_near {r r' : NetReading} (hnear : r.Near r') :
    ((ratesBetween r r').1.val, (ratesBetween r r').2.val) =
      (exactRate r.sent r'.sent (elapsedMs r r'), exactRate r.recv r'.recv (elapsedMs r r')) :=
  congrArg₂ Prod.mk (networkRate_of_near hnear.1 hnear.2.2.1 hnear.2.2.2)
    (networkRate_of_near hnear.2.1 hnear.2.2.1 hnear.2.2.2)

theorem ratesOf_of_near {log : PollLog} {earlier : List PollLog} {values : List DockerStats}
    (hnear : ReadingsNear ⟨log, values⟩ earlier) (c : Bytes) :
    ((ratesOf log earlier c).1.val, (ratesOf log earlier c).2.val) =
      exactRates PollLog.restarted log earlier c := by
  rw [ratesOf, exactRates]
  cases hprevious : log.previous PollLog.restarted earlier c with
  | none => rfl
  | some r =>
      cases hreading : log.reading c with
      | none => rfl
      | some r' =>
          rw [PollLog.previous, Option.ite_none_left_eq_some] at hprevious
          have hmem : r' ∈ log.readings := List.mem_of_find?_eq_some hreading
          have hid : r'.id = c := by simpa using List.find?_some hreading
          refine ratesBetween_of_near (hnear r' hmem r ?_)
          rw [hid]
          exact lastReading_of_baseline hprevious.2

theorem EachPoll.imp {P Q R : FinishedPoll → List PollLog → Prop} {finished : List FinishedPoll}
    (himp : ∀ f earlier, P f earlier → Q f earlier → R f earlier) (hP : EachPoll P finished)
    (hQ : EachPoll Q finished) : EachPoll R finished := by
  induction finished with
  | nil => trivial
  | cons f finished ih => exact ⟨himp _ _ hP.1 hQ.1, ih hP.2 hQ.2⟩

theorem eachPoll_forall {I : Type} {P : I → FinishedPoll → List PollLog → Prop}
    {finished : List FinishedPoll} (hall : ∀ i, EachPoll (P i) finished) :
    EachPoll (fun f earlier => ∀ i, P i f earlier) finished := by
  induction finished with
  | nil => trivial
  | cons f finished ih => exact ⟨fun i => (hall i).1, ih fun i => (hall i).2⟩

/-- **Container rates.** When the totals and the times of a container's consecutive readings at an
interval are near, each poll reports the exact rates between the readings of this and the last poll
there, if the container has not been restarted in between, and else none. -/
theorem rates_exact {cfg : DockerConfig} {es : List DockerEvent} {s : LoggedPolls}
    (hrun : Guarded (LoggedPolls.step cfg) (fun _ e => e.Distinct) {} es s)
    (hnear : EachPoll ReadingsNear s.finished) :
    EachPoll (RatesExact PollLog.restarted) s.finished := by
  refine EachPoll.imp (fun f earlier hreported hnear => ⟨fun r hr => ?_, fun stats hstats => ?_⟩)
    (eachPoll_forall fun c => (ratesInv_of_guarded c hrun).finished) hnear
  · refine (hreported r.id).1 ?_
    rw [PollLog.reading, List.find?_isSome]
    exact ⟨r, hr, by simp⟩
  · rw [(hreported stats.id).2 stats hstats rfl]
    exact ratesOf_of_near hnear stats.id

/-- Containers that are called setup are excluded. -/
def setupExcluded : DockerConfig where
  excludeContainers := ["setup".toUTF8.toList]
  pathMatch pattern name := pattern = name
  sortPorts := id

def networkContainer (name status : String) (sent : Uint64) (second : ℤ) : Listed where
  entry :=
    { id := some (List.replicate 64 99), names := some [name.toUTF8.toList], status := some status,
      image := some "web:1", healthStatus := some "", ports := some [] }
  first :=
    { response := some { fullResponse 200000000 0 with networks := [⟨0, sent⟩] },
      since := second * 1000000000, now := second * 1000000000 }

def pollNetwork (cacheTimeMs : Uint16) (l : Listed) : List DockerEvent :=
  [.list { cacheTimeMs, listed := [l] }, .visit, .update 0, .collect]

theorem rates_exact_minute :
    ∃ s, Guarded (LoggedPolls.step setupExcluded) (fun _ e => e.Distinct) {}
        (pollNetwork 60000 (networkContainer "/web" "Up 2 hours" 1000 1000) ++
          pollNetwork 60000 (networkContainer "/web" "Up 2 hours" 61000 1060)) s ∧
      EachPoll (RatesExact PollLog.restarted) s.finished := by
  obtain ⟨s, hcheck, hnear⟩ := Option.map_eq_some_iff.mp
    (show (check (LoggedPolls.step setupExcluded) (fun _ e => e.Distinct) {}
        (pollNetwork 60000 (networkContainer "/web" "Up 2 hours" 1000 1000) ++
          pollNetwork 60000 (networkContainer "/web" "Up 2 hours" 61000 1060))).map (fun s =>
            decide (EachPoll ReadingsNear s.finished)) = some true by decide +kernel)
  exact ⟨s, guarded_of_check hcheck,
    rates_exact (guarded_of_check hcheck) (of_decide_eq_true hnear)⟩

/-- The container is listed as seconds old at another interval, under a name that is excluded. -/
def renamedPolls : List DockerEvent :=
  pollNetwork 60000 (networkContainer "/web" "Up 2 hours" 1000 1000) ++
    [.list { cacheTimeMs := 1000, listed := [networkContainer "/setup" "Up 5 seconds" 1000 1030] },
      .visit, .collect] ++
    pollNetwork 60000 (networkContainer "/web" "Up 2 minutes" 61000 1060)

theorem rates_across_restart : ¬ ∀ (cfg : DockerConfig) (es : List DockerEvent) (s : LoggedPolls),
    Guarded (LoggedPolls.step cfg) (fun _ e => e.Distinct) {} es s →
    EachPoll ReadingsNear s.finished → EachPoll (RatesExact PollLog.isYoung) s.finished := by
  intro hall
  obtain ⟨s, hcheck, hs⟩ := Option.map_eq_some_iff.mp
    (show (check (LoggedPolls.step setupExcluded) (fun _ e => e.Distinct) {} renamedPolls).map
        (fun s => (decide (EachPoll ReadingsNear s.finished),
          decide (EachPoll (RatesExact PollLog.isYoung) s.finished))) = some (true, false) by
      decide +kernel)
  obtain ⟨hnear, hexact⟩ := Prod.mk.inj hs
  exact of_decide_eq_false hexact
    (hall setupExcluded renamedPolls s (guarded_of_check hcheck) (of_decide_eq_true hnear))

end Picket.Docker
