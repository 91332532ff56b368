import Picket.DockerTracker

/-!
# Decoding into a struct that was used before

A response decoded into a used struct is the response decoded into a new one, as far as anything is
looked at, when every field that it leaves out is empty in the struct.
-/

namespace Picket

/-! ### Statistics -/

/-- Nothing that is looked at on the platform is taken from the struct: what the response leaves out
of it is zero there. -/
def StatsResponse.Covers (response : StatsResponse) (isWindows : Bool) (old : ApiStats) : Prop :=
  (response.read = none → old.read = 0) ∧
  (response.totalUsage = none → old.totalUsage = 0) ∧
  (response.systemUsage = none → old.systemUsage = 0) ∧
  if isWindows then
    (response.numProcs = none → old.numProcs = 0) ∧
    (response.privateWorkingSet = none → old.privateWorkingSet = 0)
  else
    (response.usage = none → old.usage = 0) ∧
    (response.inactiveFile = none → old.inactiveFile = 0) ∧
    -- The cache counts only where there is no inactive file.
    (response.inactiveFile.getD 0 = 0 → response.cache = none → old.cache = 0)

instance (response : StatsResponse) (isWindows : Bool) (old : ApiStats) :
    Decidable (response.Covers isWindows old) := by
  unfold StatsResponse.Covers
  infer_instance

theorem getD_eq_of_none {α : Type} {o : Option α} {old zero : α} (hnone : o = none → old = zero) :
    o.getD old = o.getD zero := by
  cases o with
  | none => exact hnone rfl
  | some a => rfl

namespace StatsResponse

variable {response : StatsResponse} {isWindows : Bool} {old : ApiStats}
  (hcovers : response.Covers isWindows old)
include hcovers

theorem Covers.read : (response.decode old).read = (response.decode {}).read :=
  getD_eq_of_none hcovers.1

theorem Covers.totalUsage : (response.decode old).totalUsage = (response.decode {}).totalUsage :=
  getD_eq_of_none hcovers.2.1

theorem Covers.systemUsage : (response.decode old).systemUsage = (response.decode {}).systemUsage :=
  getD_eq_of_none hcovers.2.2.1

theorem Covers.calculateMemoryUsage :
    calculateMemoryUsage (response.decode old) isWindows =
      calculateMemoryUsage (response.decode {}) isWindows := by
  obtain ⟨-, -, -, hplatform⟩ := hcovers
  cases isWindows with
  | true => exact congrArg some (getD_eq_of_none hplatform.2)
  | false =>
      obtain ⟨husage, hinactive, hcache⟩ := hplatform
      have husage' : (response.decode old).usage = (response.decode {}).usage :=
        getD_eq_of_none husage
      have hinactive' : (response.decode old).inactiveFile = (response.decode {}).inactiveFile :=
        getD_eq_of_none hinactive
      have hmemCache : (response.decode {}).inactiveFile = 0 →
          (response.decode old).cache = (response.decode {}).cache := fun hzero =>
        getD_eq_of_none (hcache hzero)
      simp only [Picket.calculateMemoryUsage, husage', hinactive', Bool.false_eq_true, if_false]
      by_cases hzero : (response.decode {}).inactiveFile = 0
      · simp only [if_pos hzero, hmemCache hzero]
      · simp only [if_neg hzero]

theorem Covers.cpuPct (prevCpuContainer prevCpuSystem : Uint64) (prevRead : ℤ) :
    (response.decode old).cpuPct isWindows prevCpuContainer prevCpuSystem prevRead =
      (response.decode {}).cpuPct isWindows prevCpuContainer prevCpuSystem prevRead := by
  have htotal := hcovers.totalUsage
  have hsystem := hcovers.systemUsage
  have hread := hcovers.read
  cases isWindows with
  | true =>
      have hnumProcs : (response.decode old).numProcs = (response.decode {}).numProcs :=
        getD_eq_of_none hcovers.2.2.2.1
      simp only [ApiStats.cpuPct, ApiStats.calculateCpuPercentWindows, htotal, hread, hnumProcs,
        if_true]
  | false =>
      simp only [ApiStats.cpuPct, ApiStats.calculateCpuPercentLinux, htotal, hsystem,
        Bool.false_eq_true, if_false]

open Docker in
theorem Covers.applyStats (t : Tracker) (cacheTimeMs : Uint16) (a : Attempt) :
    t.applyStats isWindows cacheTimeMs (response.decode old) a =
      t.applyStats isWindows cacheTimeMs (response.decode {}) a := by
  have hsent : (response.decode old).totalSent = (response.decode {}).totalSent := rfl
  have hrecv : (response.decode old).totalRecv = (response.decode {}).totalRecv := rfl
  simp only [Tracker.applyStats, hcovers.calculateMemoryUsage, hcovers.cpuPct, hcovers.read,
    hcovers.totalUsage, hcovers.systemUsage, hsent, hrecv]

end StatsResponse

/-! ### List entries -/

/-- The ports that are decoded onto old ones leave no field out that is not empty there. -/
def FillsPorts (sent : List SentPort) (backing : List Port) : Prop :=
  ∀ p ∈ sent.zip backing,
    (p.1.publicPort = none → p.2.publicPort = 0) ∧ (p.1.ip = none → p.2.ip = "")

/-- What the entry leaves out is empty in the struct. -/
def ApiEntry.Fills (entry : ApiEntry) (old : ApiInfo) : Prop :=
  (entry.id = none → old.id = []) ∧
  (entry.names = none → old.names = []) ∧
  (entry.status = none → old.status = "") ∧
  (entry.image = none → old.image = "") ∧
  (entry.healthStatus = none → old.healthStatus = "") ∧
  (entry.ports = none → old.ports.elems = []) ∧
  ∀ sent ∈ entry.ports, FillsPorts sent (old.ports.elems ++ old.ports.spare)

instance (sent : List SentPort) (backing : List Port) : Decidable (FillsPorts sent backing) := by
  unfold FillsPorts
  infer_instance

instance (entry : ApiEntry) (old : ApiInfo) : Decidable (entry.Fills old) := by
  unfold ApiEntry.Fills
  infer_instance

/-- The same container, up to the spare capacity of its ports. -/
structure ApiInfo.SameInfo (ctr ctr' : ApiInfo) : Prop where
  id : ctr.id = ctr'.id
  names : ctr.names = ctr'.names
  status : ctr.status = ctr'.status
  image : ctr.image = ctr'.image
  healthStatus : ctr.healthStatus = ctr'.healthStatus
  ports : ctr.ports.elems = ctr'.ports.elems

theorem decodeElems_of_fillsPorts {sent : List SentPort} {backing : List Port}
    (hfills : FillsPorts sent backing) :
    decodeElems SentPort.decode {} sent backing = decodeElems SentPort.decode {} sent [] := by
  induction sent generalizing backing with
  | nil => rfl
  | cons p sent ih =>
      cases backing with
      | nil => rfl
      | cons old backing =>
          obtain ⟨hport, hip⟩ := hfills (p, old) (by simp)
          have hdecode : p.decode old = p.decode {} := by
            rw [SentPort.decode, SentPort.decode, getD_eq_of_none hport, getD_eq_of_none hip]
          rw [decodeElems, decodeElems, hdecode, ih fun q hq => hfills q (by simp [hq])]

theorem ApiEntry.Fills.sameInfo {entry : ApiEntry} {old : ApiInfo} (hfills : entry.Fills old) :
    (entry.decode old).SameInfo (entry.decode {}) := by
  obtain ⟨hid, hnames, hstatus, himage, hhealth, hnone, hports⟩ := hfills
  refine ⟨getD_eq_of_none hid, getD_eq_of_none hnames, getD_eq_of_none hstatus,
    getD_eq_of_none himage, getD_eq_of_none hhealth, ?_⟩
  simp only [ApiEntry.decode]
  cases hsent : entry.ports with
  | none => exact hnone hsent
  | some sent =>
      simp only [Option.elim_some, PtrSlice.decodeJson]
      split
      · rfl
      · exact decodeElems_of_fillsPorts (hports sent hsent)

namespace ApiInfo.SameInfo

variable {ctr ctr' : ApiInfo} (hsame : ctr.SameInfo ctr')
include hsame

theorem name : ctr.name = ctr'.name := by
  rw [ApiInfo.name, ApiInfo.name, hsame.names]

theorem isYoung : ctr.isYoung = ctr'.isYoung :=
  congrArg (fun status : String => decide ("second".toList <:+: status.toList)) hsame.status

theorem clearPorts : ctr.clearPorts.SameInfo ctr'.clearPorts := by
  rw [ApiInfo.clearPorts, ApiInfo.clearPorts, hsame.ports]
  split
  · exact hsame
  · exact { hsame with ports := rfl }

open Docker in
theorem after (a : Attempt) : (a.after ctr).SameInfo (a.after ctr') := by
  rw [Attempt.after, Attempt.after]
  split
  · exact hsame.clearPorts
  · exact hsame

open Docker in
theorem beginStats (hid : ctr.idShort = ctr'.idShort) (cfg : DockerConfig) (usingPodman : Bool)
    (podmanHealth : Option String) (stats : Option DockerStats) :
    beginStats cfg usingPodman ctr podmanHealth stats =
      beginStats cfg usingPodman ctr' podmanHealth stats := by
  simp only [Docker.beginStats, containerHealth, convertContainerPortsToString, hsame.name, hid,
    hsame.status, hsame.image, hsame.healthStatus, hsame.ports]

open Docker in
theorem attempt (hid : ctr.idShort = ctr'.idShort) (cfg : DockerConfig) (t : Tracker)
    (isWindows : Bool) (cacheTimeMs : Uint16) (a : Attempt) :
    t.attempt cfg isWindows cacheTimeMs ctr a = t.attempt cfg isWindows cacheTimeMs ctr' a := by
  have hbegin : Docker.beginStats cfg t.usingPodman ctr a.podmanHealth =
      Docker.beginStats cfg t.usingPodman ctr' a.podmanHealth :=
    funext fun stats => hsame.beginStats hid cfg t.usingPodman a.podmanHealth stats
  rw [Tracker.attempt, Tracker.attempt, hbegin]

end ApiInfo.SameInfo

end Picket
