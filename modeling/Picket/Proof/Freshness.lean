import Picket.Fetch
import Picket.Lib.Transition

/-!
# When a fetch returns its own response

Decoding into `sys.data` gives what decoding alone gives exactly when every field the response
leaves out is still zero there, the structs behind its slices and its details included. A run in
which that is so at each decoding, and in which no fetch decodes while another is still at work,
uses nothing but what each fetch received itself.
-/

namespace Picket

open FiniteMap Transition

theorem getD_eq_getD_iff {V : Type} {sent : Option V} {old zero : V} :
    sent.getD old = sent.getD zero ↔ (sent = none → old = zero) := by
  cases sent <;> simp

theorem union_eq_union_empty_iff {V : Type} {sent old : GoMap V} :
    sent ∪ old = sent ∪ ∅ ↔ ∀ key, sent.lookup key = none → old.lookup key = none := by
  constructor
  · intro heq key hnone
    have hlookup := congrArg (Finmap.lookup key) heq
    simpa [lookup_union, hnone] using hlookup
  · intro h
    refine Finmap.ext_lookup fun key => ?_
    rw [lookup_union, lookup_union]
    cases hsent : sent.lookup key with
    | none => simp [h key hsent]
    | some v => rfl

/-! ### What a response must not leave out -/

def Covered {V : Type} (sent : Option (GoMap V)) (old : GoMap V) : Prop :=
  ∀ key, (sent.getD ∅).lookup key = none → old.lookup key = none

def SentStats.Covers (sent : SentStats) (old : Stats) : Prop :=
  (sent.cpu = none → old.cpu = 0) ∧ (sent.mem = none → old.mem = 0) ∧
  (sent.memUsed = none → old.memUsed = 0) ∧ (sent.memPct = none → old.memPct = 0) ∧
  (sent.memBuffCache = none → old.memBuffCache = 0) ∧
  (sent.memZfsArc = none → old.memZfsArc = 0) ∧ (sent.swap = none → old.swap = 0) ∧
  (sent.swapUsed = none → old.swapUsed = 0) ∧ (sent.diskTotal = none → old.diskTotal = 0) ∧
  (sent.diskUsed = none → old.diskUsed = 0) ∧ (sent.diskPct = none → old.diskPct = 0) ∧
  (sent.diskReadPs = none → old.diskReadPs = 0) ∧
  (sent.diskWritePs = none → old.diskWritePs = 0) ∧
  (sent.networkSent = none → old.networkSent = 0) ∧
  (sent.networkRecv = none → old.networkRecv = 0) ∧
  Covered sent.extraFs old.extraFs ∧ Covered sent.gpuData old.gpuData ∧
  (sent.bandwidth = none → old.bandwidth = 0) ∧ (sent.loadAvg = none → old.loadAvg = 0) ∧
  Covered sent.networkInterfaces old.networkInterfaces ∧
  (sent.diskIo = none → old.diskIo = 0) ∧ (sent.cpuBreakdown = none → old.cpuBreakdown = []) ∧
  (sent.cpuCoresUsage = none → old.cpuCoresUsage = []) ∧
  (sent.diskIoStats = none → old.diskIoStats = 0)

def SentInfo.Covers (sent : SentInfo) (old : Info) : Prop :=
  (sent.hostname = none → old.hostname = "") ∧
  (sent.kernelVersion = none → old.kernelVersion = "") ∧ (sent.cores = none → old.cores = 0) ∧
  (sent.threads = none → old.threads = 0) ∧ (sent.cpuModel = none → old.cpuModel = "") ∧
  (sent.uptime = none → old.uptime = 0) ∧ (sent.cpu = none → old.cpu = 0) ∧
  (sent.memPct = none → old.memPct = 0) ∧ (sent.diskPct = none → old.diskPct = 0) ∧
  (sent.bandwidth = none → old.bandwidth = 0) ∧
  (sent.agentVersion = none → old.agentVersion = "") ∧
  (sent.podman = none → old.podman = false) ∧ (sent.gpuPct = none → old.gpuPct = 0) ∧
  (sent.os = none → old.os = 0) ∧ (sent.bandwidthBytes = none → old.bandwidthBytes = 0) ∧
  (sent.loadAvg = none → old.loadAvg = 0) ∧
  (sent.connectionType = none → old.connectionType = 0) ∧
  Covered sent.extraFsPct old.extraFsPct ∧ (sent.services = none → old.services = [])

def SentDetails.Covers (sent : SentDetails) (old : Details) : Prop :=
  (sent.hostname = none → old.hostname = "") ∧ (sent.kernel = none → old.kernel = "") ∧
  (sent.cores = none → old.cores = 0) ∧ (sent.threads = none → old.threads = 0) ∧
  (sent.cpuModel = none → old.cpuModel = "") ∧ (sent.os = none → old.os = 0) ∧
  (sent.osName = none → old.osName = "") ∧ (sent.arch = none → old.arch = "") ∧
  (sent.podman = none → old.podman = false) ∧ (sent.memoryTotal = none → old.memoryTotal = 0) ∧
  (sent.smartInterval = none → old.smartInterval = 0)

def SentContainer.Covers (sent : SentContainer) (old : ContainerStats) : Prop :=
  (sent.name = none → old.name = "") ∧ (sent.cpu = none → old.cpu = 0) ∧
  (sent.mem = none → old.mem = 0) ∧ (sent.networkSent = none → old.networkSent = 0) ∧
  (sent.networkRecv = none → old.networkRecv = 0) ∧ (sent.bandwidth = none → old.bandwidth = 0) ∧
  (sent.health = none → old.health = 0) ∧ (sent.status = none → old.status = "") ∧
  (sent.id = none → old.id = "") ∧ (sent.image = none → old.image = "") ∧
  (sent.ports = none → old.ports = "")

def SentService.Covers (sent : SentService) (old : Service) : Prop :=
  (sent.name = none → old.name = "") ∧ (sent.state = none → old.state = 0) ∧
  (sent.cpu = none → old.cpu = 0) ∧ (sent.mem = none → old.mem = 0) ∧
  (sent.memPeak = none → old.memPeak = 0) ∧ (sent.sub = none → old.sub = 0) ∧
  (sent.cpuPeak = none → old.cpuPeak = 0)

/-- Each element is decoded into a new struct, or into one it covers. -/
def PtrSlice.Covered {M V : Type} (covers : M → V → Prop) (ms : List M) (old : PtrSlice V) : Prop :=
  (old.elems ++ old.spare).length < ms.length ∨
    ∀ pair ∈ ms.zip (old.elems ++ old.spare), covers pair.1 pair.2

/-- Whatever the response leaves out is zero in `sys.data`. -/
structure Response.Covers (response : Response) (old : SysData) : Prop where
  stats : response.stats.Covers old.stats
  info : response.info.Covers old.info
  containers : response.containers.elim (old.containers.elems = []) fun sent =>
    old.containers.Covered SentContainer.Covers sent
  systemdServices : response.systemdServices.elim (old.systemdServices.elems = []) fun sent =>
    old.systemdServices.Covered SentService.Covers sent
  details : response.details.elim (old.details = none) fun sent =>
    sent.Covers (old.details.getD {})

/-- The peak fields do not travel and are never set. -/
def NoPeaks (s : Stats) : Prop :=
  s.maxCpu = 0 ∧ s.maxMem = 0 ∧ s.maxDiskReadPs = 0 ∧ s.maxDiskWritePs = 0 ∧
    s.maxNetworkSent = 0 ∧ s.maxNetworkRecv = 0 ∧ s.maxBandwidth = 0 ∧ s.maxDiskIo = 0 ∧
    s.maxDiskIoStats = 0

theorem SentStats.decode_eq_iff {sent : SentStats} {old : Stats} (hpeaks : NoPeaks old) :
    sent.decode old = sent.decode {} ↔ sent.Covers old := by
  obtain ⟨h1, h2, h3, h4, h5, h6, h7, h8, h9⟩ := hpeaks
  simp only [Stats.ext_iff, SentStats.decode, getD_eq_getD_iff, union_eq_union_empty_iff, h1, h2,
    h3, h4, h5, h6, h7, h8, h9, true_and, and_true]
  rfl

theorem SentInfo.decode_eq_iff {sent : SentInfo} {old : Info} :
    sent.decode old = sent.decode {} ↔ sent.Covers old := by
  simp only [Info.ext_iff, SentInfo.decode, getD_eq_getD_iff, union_eq_union_empty_iff]
  rfl

theorem SentDetails.decode_eq_iff {sent : SentDetails} {old : Details} :
    sent.decode old = sent.decode {} ↔ sent.Covers old := by
  simp only [Details.ext_iff, SentDetails.decode, getD_eq_getD_iff]
  rfl

theorem SentContainer.decode_eq_iff {sent : SentContainer} {old : ContainerStats} :
    sent.decode old = sent.decode {} ↔ sent.Covers old := by
  simp only [ContainerStats.ext_iff, SentContainer.decode, getD_eq_getD_iff]
  rfl

theorem SentService.decode_eq_iff {sent : SentService} {old : Service} :
    sent.decode old = sent.decode {} ↔ sent.Covers old := by
  simp only [Service.ext_iff, SentService.decode, getD_eq_getD_iff]
  rfl

section Slice

variable {M V : Type} {decode : M → V → V} {covers : M → V → Prop} {zero : V}
  (hdecode : ∀ m v, decode m v = decode m zero ↔ covers m v)
include hdecode

theorem decodeElems_eq_iff {ms : List M} {backing : List V} (hlength : ms.length ≤ backing.length) :
    decodeElems decode zero ms backing = decodeElems decode zero ms []
      ↔ ∀ pair ∈ ms.zip backing, covers pair.1 pair.2 := by
  induction ms generalizing backing with
  | nil => simp [decodeElems]
  | cons m ms ih =>
      cases backing with
      | nil => simp at hlength
      | cons v backing =>
          rw [decodeElems, decodeElems, List.cons.injEq, hdecode,
            ih (Nat.le_of_succ_le_succ hlength), List.zip_cons_cons, List.forall_mem_cons]

theorem PtrSlice.decode_eq_iff {ms : List M} {old : PtrSlice V} :
    (old.decode decode zero ms).elems = (({} : PtrSlice V).decode decode zero ms).elems
      ↔ old.Covered covers ms := by
  have hnew : (({} : PtrSlice V).decode decode zero ms).elems = decodeElems decode zero ms [] := by
    unfold PtrSlice.decode
    dsimp only
    split <;> rfl
  rw [hnew, PtrSlice.decode, PtrSlice.Covered]
  by_cases hempty : ms.length = 0
  · obtain rfl := List.eq_nil_of_length_eq_zero hempty
    simp [decodeElems]
  · by_cases hshort : (old.elems ++ old.spare).length < ms.length
    · simp only [hshort, or_true, if_true, true_or]
    · simp only [hempty, hshort, or_self, if_false, false_or]
      exact decodeElems_eq_iff hdecode (Nat.le_of_not_lt hshort)

end Slice

/-- **Decoding into `sys.data` reads back the response exactly when it covers what is there.** -/
theorem Response.value_decode_eq_iff {response : Response} {old : SysData}
    (hpeaks : NoPeaks old.stats) :
    (response.decode old).value = (response.decode {}).value ↔ response.Covers old := by
  have hcontainers : (response.decode old).containers.elems
      = (response.decode {}).containers.elems
      ↔ response.containers.elim (old.containers.elems = []) fun sent =>
          old.containers.Covered SentContainer.Covers sent := by
    unfold Response.decode
    cases response.containers with
    | none => exact Iff.rfl
    | some sent => exact PtrSlice.decode_eq_iff @SentContainer.decode_eq_iff
  have hservices : (response.decode old).systemdServices.elems
      = (response.decode {}).systemdServices.elems
      ↔ response.systemdServices.elim (old.systemdServices.elems = []) fun sent =>
          old.systemdServices.Covered SentService.Covers sent := by
    unfold Response.decode
    cases response.systemdServices with
    | none => exact Iff.rfl
    | some sent => exact PtrSlice.decode_eq_iff @SentService.decode_eq_iff
  have hdetails : (response.decode old).details = (response.decode {}).details
      ↔ response.details.elim (old.details = none) fun sent =>
          sent.Covers (old.details.getD {}) := by
    unfold Response.decode
    cases response.details with
    | none => exact Iff.rfl
    | some sent => exact Option.some_inj.trans SentDetails.decode_eq_iff
  constructor
  · intro heq
    obtain ⟨hstats, hinfo, hcs, hss, hds⟩ := CombinedData.ext_iff.mp heq
    exact ⟨(SentStats.decode_eq_iff hpeaks).mp hstats, SentInfo.decode_eq_iff.mp hinfo,
      hcontainers.mp hcs, hservices.mp hss, hdetails.mp hds⟩
  · rintro ⟨hstats, hinfo, hcs, hss, hds⟩
    exact CombinedData.ext ((SentStats.decode_eq_iff hpeaks).mpr hstats)
      (SentInfo.decode_eq_iff.mpr hinfo) (hcontainers.mpr hcs) (hservices.mpr hss)
      (hdetails.mpr hds)

/-! ### Migrating -/

theorem value_migrate_congr {data data' : SysData} (createDetails : Bool)
    (hvalue : data.value = data'.value) :
    (migrateDeprecatedFields createDetails data).value
      = (migrateDeprecatedFields createDetails data').value := by
  obtain ⟨hstats, hinfo, hcs, hss, hds⟩ := CombinedData.ext_iff.mp hvalue
  simp only [SysData.value] at hstats hinfo hcs hss hds
  unfold migrateDeprecatedFields
  dsimp only
  rw [hstats, hinfo, hds]
  split <;> simp only [SysData.value, hcs, hss]

theorem NoPeaks.decode {sent : SentStats} {old : Stats} (h : NoPeaks old) :
    NoPeaks (sent.decode old) := h

theorem NoPeaks.migrateStats {s : Stats} (h : NoPeaks s) : NoPeaks (migrateStats s) := by
  unfold Picket.migrateStats
  dsimp only
  split <;> split <;> exact h

theorem NoPeaks.migrate {data : SysData} (h : NoPeaks data.stats) (createDetails : Bool) :
    NoPeaks (migrateDeprecatedFields createDetails data).stats := by
  unfold migrateDeprecatedFields
  dsimp only
  split <;> exact h.migrateStats

/-! ### Runs -/

/-- What a fetch should use: its own response, decoded alone, and migrated by the updater. -/
def Fetch.own (fetch : Fetch) : CombinedData :=
  match fetch.migrated with
  | none => (fetch.response.decode {}).value
  | some createDetails =>
      (migrateDeprecatedFields createDetails (fetch.response.decode {})).value

def FetchState.Fresh (s : FetchState) : Prop :=
  ∀ used ∈ s.used, used.value = used.fetch.own

instance (s : FetchState) : Decidable s.Fresh :=
  inferInstanceAs (Decidable (∀ used ∈ s.used, used.value = used.fetch.own))

/-- A response is decoded while no fetch is between decoding and using, and unless decoding fails
it leaves out nothing that is still in `sys.data`. -/
def DecodesFresh (s : FetchState) : FetchEvent → Prop
  | .decode _ _ response ok => s.fetches = [] ∧ (ok = true → response.Covers s.data)
  | _ => True

/-- At most one fetch is at work, and `sys.data` is its own. -/
structure FetchInv (s : FetchState) : Prop where
  peaks : NoPeaks s.data.stats
  fresh : s.Fresh
  alone : s.fetches = [] ∨ ∃ fetch, s.fetches = [fetch] ∧ s.data.value = fetch.own

theorem FetchInv.eq_of_find {s : FetchState} (h : FetchInv s) {id : ℕ} {fetch : Fetch}
    (hfind : s.find id = some fetch) :
    s.fetches = [fetch] ∧ fetch.id = id ∧ s.data.value = fetch.own := by
  unfold FetchState.find at hfind
  rcases h.alone with hnil | ⟨other, hone, hvalue⟩
  · rw [hnil] at hfind
    cases hfind
  · rw [hone, List.find?_singleton, Option.ite_none_right_eq_some] at hfind
    obtain ⟨hid, heq⟩ := hfind
    obtain rfl := Option.some.inj heq
    exact ⟨hone, by simpa using hid, hvalue⟩

theorem FetchInv.decode {s t : FetchState} {id : ℕ} {kind : FetchKind} {response : Response}
    {ok : Bool} (h : FetchInv s) (hguard : DecodesFresh s (.decode id kind response ok))
    (hstep : s.step (.decode id kind response ok) = some t) : FetchInv t := by
  obtain ⟨hnone, hcovers⟩ := hguard
  simp only [FetchState.step, FetchState.find, hnone, List.find?_nil, Option.isSome_none,
    Bool.false_eq_true, if_false, Option.some.injEq] at hstep
  subst hstep
  cases ok with
  | false => exact ⟨h.peaks.decode, h.fresh, Or.inl rfl⟩
  | true =>
      refine ⟨h.peaks.decode, h.fresh, Or.inr ⟨{ id, kind, response }, rfl, ?_⟩⟩
      exact (Response.value_decode_eq_iff h.peaks).mpr (hcovers rfl)

theorem FetchInv.migrate {s t : FetchState} {id : ℕ} (h : FetchInv s)
    (hstep : s.step (.migrate id) = some t) : FetchInv t := by
  simp only [FetchState.step] at hstep
  cases hfind : s.find id with
  | none => simp [hfind] at hstep
  | some fetch =>
      obtain ⟨hone, hid, hvalue⟩ := h.eq_of_find hfind
      simp only [hfind, Option.ite_none_left_eq_some, Option.some.injEq] at hstep
      obtain ⟨hready, rfl⟩ := hstep
      refine ⟨h.peaks.migrate _, h.fresh,
        Or.inr ⟨{ fetch with migrated := some !s.detailsFetched }, ?_, ?_⟩⟩
      · simp [hone, hid]
      · have hfirst : fetch.migrated = none := by
          rw [Fetch.ready, Bool.or_eq_true, not_or] at hready
          simpa using hready.2
        have hown : s.data.value = (fetch.response.decode {}).value := by
          rwa [Fetch.own, hfirst] at hvalue
        exact value_migrate_congr (!s.detailsFetched) hown

theorem FetchInv.use {s t : FetchState} {id : ℕ} {ok : Bool} (h : FetchInv s)
    (hstep : s.step (.use id ok) = some t) : FetchInv t := by
  simp only [FetchState.step] at hstep
  cases hfind : s.find id with
  | none => simp [hfind] at hstep
  | some fetch =>
      obtain ⟨hone, hid, hvalue⟩ := h.eq_of_find hfind
      have hdone : (s.finish id).fetches = [] := by simp [FetchState.finish, hone, hid]
      simp only [hfind, Option.ite_none_left_eq_some] at hstep
      obtain ⟨-, hstep⟩ := hstep
      cases ok with
      | false =>
          obtain rfl := Option.some.inj hstep
          exact ⟨h.peaks, h.fresh, Or.inl hdone⟩
      | true =>
          obtain rfl := Option.some.inj hstep
          refine ⟨h.peaks, fun used hused => ?_, Or.inl hdone⟩
          rcases List.mem_cons.mp hused with rfl | hold
          · exact hvalue
          · exact h.fresh used hold

theorem FetchInv.step {s t : FetchState} {e : FetchEvent} (h : FetchInv s)
    (hguard : DecodesFresh s e) (hstep : s.step e = some t) : FetchInv t := by
  cases e with
  | decode id kind response ok => exact h.decode hguard hstep
  | migrate id => exact h.migrate hstep
  | use id ok => exact h.use hstep

theorem fetchInv_init : FetchInv {} :=
  ⟨⟨rfl, rfl, rfl, rfl, rfl, rfl, rfl, rfl, rfl⟩, by simp [FetchState.Fresh], Or.inl rfl⟩

/-- **Freshness of fetched data.** In every run in which each response is decoded while no other
fetch is at work and leaves out nothing that is still there, every fetch uses what its own response
gives alone. -/
theorem fresh_of_guarded {s : FetchState} {events : List FetchEvent}
    (hrun : Guarded FetchState.step DecodesFresh {} events s) : s.Fresh :=
  (hrun.invariant (fun _ _ _ h => h.step) fetchInv_init).fresh

/-! ### Checking a run -/

instance decidableCovered {V : Type} (sent : Option (GoMap V)) (old : GoMap V) :
    Decidable (Covered sent old) :=
  decidable_of_iff (old.keys ⊆ (sent.getD ∅).keys) <| by
    simp only [Covered, Finset.subset_iff, Finmap.mem_keys, Finmap.lookup_eq_none, not_imp_not]

instance decidableCoversStats (sent : SentStats) (old : Stats) : Decidable (sent.Covers old) := by
  unfold SentStats.Covers
  repeat' apply instDecidableAnd

instance decidableCoversInfo (sent : SentInfo) (old : Info) : Decidable (sent.Covers old) := by
  unfold SentInfo.Covers
  infer_instance

instance decidableCoversDetails (sent : SentDetails) (old : Details) :
    Decidable (sent.Covers old) := by
  unfold SentDetails.Covers
  infer_instance

instance decidableCoversContainer (sent : SentContainer) (old : ContainerStats) :
    Decidable (sent.Covers old) := by
  unfold SentContainer.Covers
  infer_instance

instance decidableCoversService (sent : SentService) (old : Service) :
    Decidable (sent.Covers old) := by
  unfold SentService.Covers
  infer_instance

instance decidableCoveredSlice {M V : Type} (covers : M → V → Prop)
    [∀ m v, Decidable (covers m v)] (ms : List M) (old : PtrSlice V) :
    Decidable (PtrSlice.Covered covers ms old) :=
  inferInstanceAs (Decidable (_ ∨ _))

instance decidableElim {M : Type} (sent : Option M) (absent : Prop) (covers : M → Prop)
    [Decidable absent] [DecidablePred covers] : Decidable (sent.elim absent covers) :=
  match sent with
  | none => inferInstanceAs (Decidable absent)
  | some m => inferInstanceAs (Decidable (covers m))

instance decidableCoversResponse (response : Response) (old : SysData) :
    Decidable (response.Covers old) :=
  decidable_of_iff
    (response.stats.Covers old.stats ∧ response.info.Covers old.info ∧
      (response.containers.elim (old.containers.elems = []) fun sent =>
        old.containers.Covered SentContainer.Covers sent) ∧
      (response.systemdServices.elim (old.systemdServices.elems = []) fun sent =>
        old.systemdServices.Covered SentService.Covers sent) ∧
      response.details.elim (old.details = none) fun sent => sent.Covers (old.details.getD {}))
    ⟨fun ⟨hstats, hinfo, hcontainers, hservices, hdetails⟩ =>
        ⟨hstats, hinfo, hcontainers, hservices, hdetails⟩,
      fun h => ⟨h.stats, h.info, h.containers, h.systemdServices, h.details⟩⟩

instance decidableDecodesFresh (s : FetchState) (e : FetchEvent) :
    Decidable (DecodesFresh s e) := by
  apply @FetchEvent.casesOn (fun e => Decidable (DecodesFresh s e)) e <;> intros <;>
    unfold DecodesFresh <;> infer_instance

def busyResponse : Response where
  stats := { cpu := some 10, bandwidth := some ![3, 4] }
  details := some { hostname := some "web" }

def idleResponse : Response where
  stats := { cpu := some 20 }

def update (id : ℕ) (response : Response) : List FetchEvent :=
  [.decode id .updater response true, .migrate id, .use id true]

def watch (id : ℕ) (response : Response) : List FetchEvent :=
  [.decode id .realtime response true, .use id true]

/-- A response with every field that the ones before it have. -/
def coveringResponse (cpu : ℚ) (bandwidth : Fin 2 → Uint64) (containers : List SentContainer) :
    Response :=
  { busyResponse with
    stats :=
      { cpu := some cpu
        bandwidth := some bandwidth
        networkInterfaces := some (Finmap.singleton "eth0" ![1, 2, 300, 400]) }
    containers := some containers }

/-- Two turns of the updater and two realtime fetches. The containers change, and one is decoded
into the struct of another. -/
def fourFetches : List FetchEvent :=
  update 0 busyResponse ++
    watch 1 (coveringResponse 20 ![5, 6]
      [{ name := some "db", cpu := some 1 }, { name := some "web", cpu := some 2 }]) ++
    update 2 (coveringResponse 30 ![7, 0]
      [{ name := some "web", cpu := some 3, mem := some 64 }]) ++
    watch 3 (coveringResponse 5 ![1, 1]
      [{ name := some "db", cpu := some 4, mem := some 32 },
        { name := some "web", cpu := some 5 }])

theorem fresh_fourFetches :
    ∃ s, Guarded FetchState.step DecodesFresh {} fourFetches s ∧
      s.used.map (·.value.stats.cpu) = [5, 30, 20, 10] ∧
      s.used.map (·.value.containers.map (·.name)) =
        [["db", "web"], ["web"], ["db", "web"], []] ∧ s.Fresh := by
  have hcheck : (check FetchState.step DecodesFresh {} fourFetches).map (fun s =>
      (s.used.map (·.value.stats.cpu), s.used.map (·.value.containers.map (·.name)))) =
        some ([5, 30, 20, 10], [["db", "web"], ["web"], ["db", "web"], []]) := by
    decide +kernel
  obtain ⟨s, hcheck, hused⟩ := Option.map_eq_some_iff.mp hcheck
  obtain ⟨hcpu, hcontainers⟩ := Prod.mk.inj hused
  have hrun := guarded_of_check hcheck
  exact ⟨s, hrun, hcpu, hcontainers, fresh_of_guarded hrun⟩

/-- The second turn saves the bandwidth and the details of the first. -/
theorem exists_not_fresh :
    ∃ s, run FetchState.step {} (update 0 busyResponse ++ update 1 idleResponse) = some s ∧
      ¬ s.Fresh :=
  ⟨_, rfl, by decide +kernel⟩

end Picket
