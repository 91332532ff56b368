import Picket.Proof.DecodeReuse
import Picket.Proof.TrackerSteps

/-!
# An update of one container

An update moves the tracker of the container it is for, in the way an attempt of that tracker does
when nothing is taken from the reused structs, and no other.
-/

namespace Picket.Docker

/-- A request that is answered with statistics that give everything looked at. -/
def Covered (dm : DockerManager) (a : Attempt) : Prop :=
  ∀ response ∈ a.response, response.decodes = true → response.Covers dm.isWindows dm.apiStats

instance (dm : DockerManager) (a : Attempt) : Decidable (Covered dm a) := by
  unfold Covered
  infer_instance

/-- What an update leaves alone: all but the maps, the statistics and the ports of its container. -/
structure SameList (dm dm' : DockerManager) : Prop where
  apiContainerList : dm'.apiContainerList = dm.apiContainerList
  validIds : dm'.validIds = dm.validIds
  isWindows : dm'.isWindows = dm.isWindows

namespace DockerManager

variable (cfg : DockerConfig) (dm : DockerManager) (c id : Bytes) (cacheTimeMs : Uint16) (i : ℕ)
  (a : Attempt)

theorem sameList_applyStats : SameList dm (dm.applyStats cacheTimeMs id a).1 := by
  rw [applyStats]
  simp only
  cases calculateMemoryUsage dm.apiStats dm.isWindows with
  | none => exact ⟨rfl, rfl, rfl⟩
  | some usedMemory =>
      simp only
      split <;> exact ⟨rfl, rfl, rfl⟩

theorem sameList_updateContainerStats :
    SameList (if a.response.isSome then dm.modifyCtr i ApiInfo.clearPorts else dm)
      (dm.updateContainerStats cfg cacheTimeMs i a).1 := by
  rw [updateContainerStats]
  cases a.response with
  | none => exact ⟨rfl, rfl, rfl⟩
  | some response =>
      simp only [Option.isSome_some, if_true]
      split
      · have hsame := sameList_applyStats
          { (dm.modifyStats (dm.ctr i).idShort
              (beginStats cfg dm.usingPodman (dm.ctr i) a.podmanHealth)).modifyCtr i
                ApiInfo.clearPorts with
            apiStats := response.decode dm.apiStats } (dm.ctr i).idShort cacheTimeMs a
        exact ⟨hsame.apiContainerList, hsame.validIds, hsame.isWindows⟩
      · exact ⟨rfl, rfl, rfl⟩

theorem track_updateContainerStats_of_ne (hc : c ≠ (dm.ctr i).idShort) :
    (dm.updateContainerStats cfg cacheTimeMs i a).1.track c = dm.track c := by
  rw [updateContainerStats]
  cases a.response with
  | none => rfl
  | some response =>
      simp only
      split
      · rw [track_applyStats_of_ne _ _ _ _ _ hc, track_apiStats, track_modifyCtr, track_modifyStats,
          if_neg hc]
      · rw [track_apiStats, track_modifyCtr, track_modifyStats, if_neg hc]

theorem track_updateContainerStats {ctr : ApiInfo} (hctr : (dm.ctr i).SameInfo ctr)
    (hid : (dm.ctr i).idShort = ctr.idShort) (hcovered : Covered dm a) :
    ((dm.updateContainerStats cfg cacheTimeMs i a).1.track ctr.idShort,
        (dm.updateContainerStats cfg cacheTimeMs i a).2) =
      (dm.track ctr.idShort).attempt cfg dm.isWindows cacheTimeMs ctr a := by
  rw [← hctr.attempt hid, ← hid, updateContainerStats, Tracker.attempt]
  cases hresponse : a.response with
  | none => rfl
  | some response =>
      have hpodman : (dm.track (dm.ctr i).idShort).usingPodman = dm.usingPodman := rfl
      simp only [hpodman]
      cases hdecodes : response.decodes with
      | false =>
          simp only [Bool.false_eq_true, if_false]
          rw [track_apiStats, track_modifyCtr, track_modifyStats, if_pos rfl]
      | true =>
          have hcovers := hcovered response hresponse hdecodes
          simp only [if_true]
          rw [track_applyStats, track_apiStats, track_modifyCtr, track_modifyStats, if_pos rfl]
          exact hcovers.applyStats _ cacheTimeMs a

theorem ctr_modifyCtr (f : ApiInfo → ApiInfo) (j : ℕ) (hj : j < dm.apiContainerList.elems.length) :
    (dm.modifyCtr i f).ctr j = if i = j then f (dm.ctr j) else dm.ctr j := by
  rw [ctr, ctr, modifyCtr, List.getD_eq_getElem?_getD, List.getD_eq_getElem?_getD,
    List.getElem?_modify, List.getElem?_eq_getElem hj]
  split <;> rfl

theorem length_modifyCtr (f : ApiInfo → ApiInfo) :
    (dm.modifyCtr i f).apiContainerList.elems.length = dm.apiContainerList.elems.length :=
  List.length_modify ..

/-- The containers of the list after an update. -/
theorem ctr_updateContainerStats (j : ℕ) (hj : j < dm.apiContainerList.elems.length) :
    (dm.updateContainerStats cfg cacheTimeMs i a).1.ctr j =
      if i = j then a.after (dm.ctr j) else dm.ctr j := by
  have hsame := dm.sameList_updateContainerStats cfg cacheTimeMs i a
  rw [ctr, hsame.apiContainerList, Attempt.after]
  cases a.response with
  | none => exact (ite_self _).symm
  | some response => exact dm.ctr_modifyCtr i ApiInfo.clearPorts j hj

end DockerManager

end Picket.Docker
