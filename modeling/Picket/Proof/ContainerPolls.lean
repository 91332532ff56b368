import Picket.Proof.ContainerUpdate
import Picket.Lib.Transition

/-!
# A container through the polls

Whatever order the goroutines of a poll take the mutex in, the tracker of a container is at each
moment where its own entry and its own attempts have brought it, as long as no list entry or
response of it takes anything from the structs that are used again, and no other entry has its short
id.
-/

namespace Picket.Docker

open Transition

/-! ### Apart from the others -/

/-- The container is listed at most once; its own entry gives every field that is not empty in the
struct it is decoded into, and no entry without an id is decoded into a struct of the container. -/
def ListApart (c : Bytes) (pool : List ApiInfo) (listed : List Listed) : Prop :=
  listed.Pairwise (fun l l' => ¬ (l.entry.shortId = c ∧ l'.entry.shortId = c)) ∧
  ∀ i < listed.length, ∀ l ∈ listed[i]?,
    (l.entry.shortId = c → l.entry.Fills (pool.getD i {})) ∧
    (l.entry.id = none → (pool.getD i {}).id.take 12 = c → l.entry.shortId = c)

instance (c : Bytes) (pool : List ApiInfo) (listed : List Listed) :
    Decidable (ListApart c pool listed) := by
  unfold ListApart
  infer_instance

def DockerManager.pool (dm : DockerManager) : List ApiInfo :=
  dm.apiContainerList.elems ++ dm.apiContainerList.spare

/-- The condition on a step under which it takes nothing from other containers to `c`, and no
container ends the process. -/
def Apart (c : Bytes) (s : DockerPolls) : DockerEvent → Prop
  | .list input => ListApart c s.dm.pool input.listed
  | .visit => ∀ p ∈ s.polling, (s.dm.ctr p.next).panics = false
  | .update i =>
      ∀ p ∈ s.polling, (s.dm.ctr i).idShort = c → Covered s.dm (p.attempt (·.first) i)
  | .retry i =>
      ∀ p ∈ s.polling, (s.dm.ctr i).idShort = c → Covered s.dm (p.attempt (·.second) i)
  | .badList _ => True
  | .drop _ => True
  | .collect => True

instance (c : Bytes) (s : DockerPolls) (e : DockerEvent) : Decidable (Apart c s e) := by
  cases e <;> unfold Apart <;> infer_instance

/-! ### Where a container is in a poll -/

/-- The container at an index of the list is `c`. -/
def PollInput.IsOwn (input : PollInput) (c : Bytes) (i : ℕ) (l : Listed) : Prop :=
  input.listed[i]? = some l ∧ l.entry.shortId = c

inductive Stage where
  | waiting
  | running
  | erred
  | failed
  | done
  deriving DecidableEq

def Polling.stage (p : Polling) (i : ℕ) : Stage :=
  if p.next ≤ i then .waiting
  else if i ∈ p.running then .running
  else if i ∈ p.erred then .erred
  else if i ∈ p.failedContainers then .failed
  else .done

def Polling.goroutines (p : Polling) : List ℕ :=
  p.running ++ p.erred ++ p.failedContainers

namespace Tracker

/-- Before the entries of containers that are not valid are deleted. -/
def finished (cfg : DockerConfig) (t : Tracker) (o : OwnInput) (l : Listed) : Tracker :=
  if shouldExcludeContainer cfg l.ctr.name then t.start o
  else if (t.first cfg o l).2 = none then (t.first cfg o l).1
  else (t.second cfg o l).1

def stageTracker (cfg : DockerConfig) (t : Tracker) (o : OwnInput) (l : Listed) : Stage → Tracker
  | .waiting => t.start o
  | .running => (t.start o).restart l.ctr
  | .erred => (t.first cfg o l).1
  | .failed => (t.first cfg o l).1.dropStats
  | .done => t.finished cfg o l

end Tracker

def Listed.stageCtr (l : Listed) : Stage → ApiInfo
  | .waiting => l.ctr
  | .running => l.ctr
  | _ => l.first.after l.ctr

structure ListInv (c : Bytes) (dm : DockerManager) (p : Polling) : Prop where
  length : dm.apiContainerList.elems.length = p.input.listed.length
  isWindows : dm.isWindows = p.input.windows
  next_le : p.next ≤ p.input.listed.length
  started : ∀ i ∈ p.goroutines, i < p.next
  nodup : p.goroutines.Nodup
  unique : ∀ i j l l', p.input.IsOwn c i l → p.input.IsOwn c j l' → i = j
  ids : ∀ i < p.input.listed.length, (dm.ctr i).id.take 12 = c ↔ ∃ l, p.input.IsOwn c i l
  idShort : ∀ i < p.next, (dm.ctr i).idShort = (dm.ctr i).id.take 12

/-- Where the container is, when the list has it at an index. -/
structure OwnInv (cfg : DockerConfig) (c : Bytes) (t : Tracker) (dm : DockerManager) (p : Polling)
    (i : ℕ) (l : Listed) : Prop where
  track : dm.track c = t.stageTracker cfg (p.input.own c) l (p.stage i)
  ctr : p.stage i ≠ .done → (dm.ctr i).SameInfo (l.stageCtr (p.stage i))
  err : p.stage i = .erred ∨ p.stage i = .failed → (t.first cfg (p.input.own c) l).2 ≠ none
  excluded : shouldExcludeContainer cfg l.ctr.name = true → p.stage i = .waiting ∨ p.stage i = .done
  valid : c ∈ dm.validIds ↔ i < p.next ∧ shouldExcludeContainer cfg l.ctr.name = false

structure PollInv (cfg : DockerConfig) (c : Bytes) (t : Tracker) (dm : DockerManager)
    (p : Polling) : Prop where
  list : ListInv c dm p
  own : ∀ i l, p.input.IsOwn c i l → OwnInv cfg c t dm p i l
  absent : (∀ i l, ¬ p.input.IsOwn c i l) →
    dm.track c = t.start (p.input.own c) ∧ c ∉ dm.validIds

/-! ### Stages -/

theorem stage_congr {p p' : Polling} {i : ℕ} (hnext : p'.next ≤ i ↔ p.next ≤ i)
    (hrunning : i ∈ p'.running ↔ i ∈ p.running) (herred : i ∈ p'.erred ↔ i ∈ p.erred)
    (hfailed : i ∈ p'.failedContainers ↔ i ∈ p.failedContainers) : p'.stage i = p.stage i := by
  simp only [Polling.stage, hnext, hrunning, herred, hfailed]

theorem stage_waiting {p : Polling} {i : ℕ} (hi : p.next ≤ i) : p.stage i = .waiting :=
  if_pos hi

namespace ListInv

variable {c : Bytes} {dm : DockerManager} {p : Polling} {i : ℕ} (h : ListInv c dm p)
include h

theorem not_mem_of_running (hi : i ∈ p.running) : i ∉ p.erred ∧ i ∉ p.failedContainers := by
  have hnodup := h.nodup
  rw [Polling.goroutines, List.append_assoc, List.nodup_append] at hnodup
  have hrest := fun hmem => hnodup.2.2 i hi i hmem rfl
  exact ⟨fun hmem => hrest (List.mem_append_left _ hmem),
    fun hmem => hrest (List.mem_append_right _ hmem)⟩

theorem not_mem_of_erred (hi : i ∈ p.erred) : i ∉ p.running ∧ i ∉ p.failedContainers := by
  have hnodup := h.nodup
  refine ⟨fun hmem => (h.not_mem_of_running hmem).1 hi, fun hmem => ?_⟩
  rw [Polling.goroutines, List.nodup_append] at hnodup
  exact hnodup.2.2 i (List.mem_append_right _ hi) i hmem rfl

theorem not_mem_of_failed (hi : i ∈ p.failedContainers) : i ∉ p.running ∧ i ∉ p.erred :=
  ⟨fun hmem => (h.not_mem_of_running hmem).2 hi, fun hmem => (h.not_mem_of_erred hmem).2 hi⟩

theorem next_of_mem (hi : i ∈ p.goroutines) : ¬ p.next ≤ i :=
  Nat.not_le.mpr (h.started i hi)

theorem stage_running (hi : i ∈ p.running) : p.stage i = .running := by
  have hnext := h.next_of_mem (i := i) (by simp [Polling.goroutines, hi])
  rw [Polling.stage, if_neg hnext, if_pos hi]

theorem stage_erred (hi : i ∈ p.erred) : p.stage i = .erred := by
  have hnext := h.next_of_mem (i := i) (by simp [Polling.goroutines, hi])
  rw [Polling.stage, if_neg hnext, if_neg (h.not_mem_of_erred hi).1, if_pos hi]

theorem stage_failed (hi : i ∈ p.failedContainers) : p.stage i = .failed := by
  have hnext := h.next_of_mem (i := i) (by simp [Polling.goroutines, hi])
  rw [Polling.stage, if_neg hnext, if_neg (h.not_mem_of_failed hi).1,
    if_neg (h.not_mem_of_failed hi).2, if_pos hi]

end ListInv

/-- A step of a goroutine: the loop stays where it is, and goroutines move on or are done. -/
structure GoroutineStep (dm dm' : DockerManager) (p p' : Polling) : Prop where
  input : p'.input = p.input
  next : p'.next = p.next
  goroutines : List.Subperm p'.goroutines p.goroutines
  length : dm'.apiContainerList.elems.length = dm.apiContainerList.elems.length
  isWindows : dm'.isWindows = dm.isWindows
  validIds : dm'.validIds = dm.validIds
  id : ∀ i < dm.apiContainerList.elems.length, (dm'.ctr i).id = (dm.ctr i).id
  idShort : ∀ i < dm.apiContainerList.elems.length, (dm'.ctr i).idShort = (dm.ctr i).idShort

section GoroutineStep

variable {cfg : DockerConfig} {c : Bytes} {t : Tracker} {dm dm' : DockerManager} {p p' : Polling}
  (hstep : GoroutineStep dm dm' p p')
include hstep

theorem GoroutineStep.listInv (h : ListInv c dm p) : ListInv c dm' p' where
  length := by rw [hstep.length, hstep.input, h.length]
  isWindows := by rw [hstep.isWindows, hstep.input, h.isWindows]
  next_le := by rw [hstep.next, hstep.input]; exact h.next_le
  started i hi := by rw [hstep.next]; exact h.started i (hstep.goroutines.subset hi)
  nodup := by
    obtain ⟨l, hperm, hsublist⟩ := hstep.goroutines
    exact hperm.nodup_iff.mp (hsublist.nodup h.nodup)
  unique := by rw [hstep.input]; exact h.unique
  ids i hi := by
    rw [hstep.input] at hi ⊢
    rw [hstep.id i (by rwa [h.length]), h.ids i hi]
  idShort i hi := by
    rw [hstep.next] at hi
    have hlength : i < dm.apiContainerList.elems.length := by
      rw [h.length]
      exact Nat.lt_of_lt_of_le hi h.next_le
    rw [hstep.id i hlength, hstep.idShort i hlength, h.idShort i hi]

theorem GoroutineStep.ownInv {i : ℕ} {l : Listed} (h : OwnInv cfg c t dm p i l)
    (htrack : dm'.track c = dm.track c) (hctr : dm'.ctr i = dm.ctr i)
    (hstage : p'.stage i = p.stage i) : OwnInv cfg c t dm' p' i l where
  track := by rw [htrack, hstage, hstep.input, h.track]
  ctr := by rw [hctr, hstage]; exact h.ctr
  err := by rw [hstage, hstep.input]; exact h.err
  excluded := by rw [hstage]; exact h.excluded
  valid := by rw [hstep.validIds, hstep.next]; exact h.valid

end GoroutineStep

theorem PollInput.IsOwn.lt_length {input : PollInput} {c : Bytes} {i : ℕ} {l : Listed}
    (hown : input.IsOwn c i l) : i < input.listed.length :=
  (List.getElem?_eq_some_iff.mp hown.1).1

namespace ListInv

variable {c : Bytes} {dm : DockerManager} {p : Polling} {i j : ℕ} {l : Listed}
  (h : ListInv c dm p)
include h

theorem idShort_of_own (hown : p.input.IsOwn c i l) (hi : i < p.next) : (dm.ctr i).idShort = c := by
  rw [h.idShort i hi]
  exact (h.ids i hown.lt_length).mpr ⟨l, hown⟩

theorem idShort_ne (hnot : ∀ l, ¬ p.input.IsOwn c i l) (hi : i < p.next) :
    (dm.ctr i).idShort ≠ c := by
  rw [h.idShort i hi]
  intro heq
  obtain ⟨l, hown⟩ := (h.ids i (Nat.lt_of_lt_of_le hi h.next_le)).mp heq
  exact hnot l hown

theorem not_own (hown : p.input.IsOwn c i l) (hne : i ≠ j) : ∀ l, ¬ p.input.IsOwn c j l :=
  fun _ hown' => hne (h.unique _ _ _ _ hown hown')

end ListInv

/-! ### An update -/

section Update

variable {cfg : DockerConfig} {c : Bytes} {t : Tracker} {dm : DockerManager} {p : Polling} {j : ℕ}

theorem attempt_of_own {i : ℕ} {l : Listed} (attempt : Listed → Attempt)
    (hown : p.input.IsOwn c i l) : p.attempt attempt i = attempt l := by
  rw [Polling.attempt, hown.1]
  rfl

theorem id_after (a : Attempt) (ctr : ApiInfo) : (a.after ctr).id = ctr.id := by
  rw [Attempt.after, ApiInfo.clearPorts]
  split
  · split <;> rfl
  · rfl

theorem idShort_after (a : Attempt) (ctr : ApiInfo) : (a.after ctr).idShort = ctr.idShort := by
  rw [Attempt.after, ApiInfo.clearPorts]
  split
  · split <;> rfl
  · rfl

theorem validIds_updateContainerStats (cfg : DockerConfig) (dm : DockerManager)
    (cacheTimeMs : Uint16) (i : ℕ) (a : Attempt) :
    (dm.updateContainerStats cfg cacheTimeMs i a).1.validIds = dm.validIds := by
  rw [(dm.sameList_updateContainerStats cfg cacheTimeMs i a).validIds]
  split <;> rfl

/-- Updating a container is a step of a goroutine, however its goroutine goes on. -/
theorem goroutineStep_update {p' : Polling} (a : Attempt) (hinput : p'.input = p.input)
    (hnext : p'.next = p.next) (hsubperm : List.Subperm p'.goroutines p.goroutines) :
    GoroutineStep dm (dm.updateContainerStats cfg p.input.cacheTimeMs j a).1 p p' := by
  have hsame := dm.sameList_updateContainerStats cfg p.input.cacheTimeMs j a
  refine ⟨hinput, hnext, hsubperm, ?_, ?_, ?_, fun i hi => ?_, fun i hi => ?_⟩
  · rw [hsame.apiContainerList]
    split
    · exact dm.length_modifyCtr j _
    · rfl
  · rw [hsame.isWindows]
    split <;> rfl
  · exact validIds_updateContainerStats cfg dm p.input.cacheTimeMs j a
  · rw [dm.ctr_updateContainerStats cfg _ j a i hi]
    split
    · exact id_after a _
    · rfl
  · rw [dm.ctr_updateContainerStats cfg _ j a i hi]
    split
    · exact idShort_after a _
    · rfl

theorem stage_updated_of_ne {i : ℕ} (hne : i ≠ j) (err : Option UpdateError) :
    (p.updated j err).stage i = p.stage i := by
  refine stage_congr Iff.rfl (List.mem_erase_of_ne hne) ?_ Iff.rfl
  simp only [Polling.updated]
  split
  · simp [hne]
  · rfl

theorem stage_updated (h : ListInv c dm p) (hj : j ∈ p.running) (err : Option UpdateError) :
    (p.updated j err).stage j = if err.isSome then .erred else .done := by
  have hnext : ¬ p.next ≤ j := h.next_of_mem (by simp [Polling.goroutines, hj])
  have hrunning : j ∉ p.running.erase j := by
    have hnodup := h.nodup
    rw [Polling.goroutines, List.append_assoc, List.nodup_append] at hnodup
    exact hnodup.1.not_mem_erase
  obtain ⟨herred, hfailed⟩ := h.not_mem_of_running hj
  cases err <;> simp [Polling.stage, Polling.updated, hnext, hrunning, herred, hfailed]

theorem goroutines_updated (hj : j ∈ p.running) (err : Option UpdateError) :
    List.Subperm (p.updated j err).goroutines p.goroutines := by
  have hperm : (j :: p.running.erase j).Perm p.running := (List.perm_cons_erase hj).symm
  simp only [Polling.goroutines, Polling.updated]
  cases err with
  | none =>
      refine List.Sublist.subperm ?_
      simp only [Option.isSome_none, Bool.false_eq_true, if_false]
      exact (List.erase_sublist.append_right _).append_right _
  | some e =>
      simp only [Option.isSome_some, if_true]
      refine List.Perm.subperm (List.Perm.append_right _ ?_)
      exact List.perm_middle.trans (hperm.append_right _)

theorem OwnInv.not_excluded {i : ℕ} {l : Listed} (h : OwnInv cfg c t dm p i l)
    (hwaiting : p.stage i ≠ .waiting) (hdone : p.stage i ≠ .done) :
    shouldExcludeContainer cfg l.ctr.name = false := by
  cases hexcluded : shouldExcludeContainer cfg l.ctr.name with
  | false => rfl
  | true => exact absurd (h.excluded hexcluded) (not_or.mpr ⟨hwaiting, hdone⟩)

theorem ctr_of_running (h : PollInv cfg c t dm p) {i : ℕ} {l : Listed}
    (hown : p.input.IsOwn c i l) (hi : i ∈ p.running) : (dm.ctr i).SameInfo l.ctr := by
  have hstage := h.list.stage_running hi
  have hctr := (h.own i l hown).ctr (by rw [hstage]; nofun)
  rwa [hstage] at hctr

/-- The update that is running is the first attempt of the tracker. -/
theorem first_of_running (h : PollInv cfg c t dm p) {i : ℕ} {l : Listed}
    (hown : p.input.IsOwn c i l) (hi : i ∈ p.running) (hcovered : Covered dm l.first) :
    ((dm.updateContainerStats cfg p.input.cacheTimeMs i l.first).1.track c,
        (dm.updateContainerStats cfg p.input.cacheTimeMs i l.first).2) =
      t.first cfg (p.input.own c) l := by
  have hstarted : i < p.next := h.list.started i (by simp [Polling.goroutines, hi])
  have hid : (dm.ctr i).idShort = l.ctr.idShort :=
    (h.list.idShort_of_own hown hstarted).trans hown.2.symm
  have hmoved := dm.track_updateContainerStats cfg p.input.cacheTimeMs i l.first
    (ctr_of_running h hown hi) hid hcovered
  rwa [show l.ctr.idShort = c from hown.2, (h.own i l hown).track, h.list.stage_running hi,
    h.list.isWindows] at hmoved

theorem updated_own (h : PollInv cfg c t dm p) {i : ℕ} {l : Listed}
    (hown : p.input.IsOwn c i l) (hi : i ∈ p.running) (hcovered : Covered dm l.first) :
    OwnInv cfg c t (dm.updateContainerStats cfg p.input.cacheTimeMs i l.first).1
      (p.updated i (dm.updateContainerStats cfg p.input.cacheTimeMs i l.first).2) i l := by
  have hold := h.own i l hown
  have hstage := h.list.stage_running hi
  have hmoved := first_of_running h hown hi hcovered
  have hvalid := validIds_updateContainerStats cfg dm p.input.cacheTimeMs i l.first
  have hctr' := dm.ctr_updateContainerStats cfg p.input.cacheTimeMs i l.first i
    (by rw [h.list.length]; exact hown.lt_length)
  generalize dm.updateContainerStats cfg p.input.cacheTimeMs i l.first = r at hmoved hvalid hctr' ⊢
  have htrack : r.1.track c = (t.first cfg (p.input.own c) l).1 := congrArg Prod.fst hmoved
  have herr : r.2 = (t.first cfg (p.input.own c) l).2 := congrArg Prod.snd hmoved
  have hnotExcluded := hold.not_excluded (by rw [hstage]; nofun) (by rw [hstage]; nofun)
  have hstage' := stage_updated h.list hi r.2
  have hsameInfo : (r.1.ctr i).SameInfo (l.first.after l.ctr) := by
    rw [hctr', if_pos rfl]
    exact (ctr_of_running h hown hi).after l.first
  cases hr : r.2 with
  | none =>
      have hdone : (p.updated i none).stage i = .done := by rwa [hr] at hstage'
      rw [hr] at herr
      refine ⟨?_, fun hne => absurd hdone hne, ?_, fun _ => .inr hdone, ?_⟩
      · rw [hdone, htrack]
        change _ = t.finished cfg (p.input.own c) l
        rw [Tracker.finished, hnotExcluded, if_neg Bool.false_ne_true, if_pos herr.symm]
      · rw [hdone]
        nofun
      · rw [hvalid]
        exact hold.valid
  | some e =>
      have herred : (p.updated i (some e)).stage i = .erred := by rwa [hr] at hstage'
      rw [hr] at herr
      refine ⟨?_, fun _ => ?_, fun _ => ?_, fun hexcluded => ?_, ?_⟩
      · rw [herred, htrack]
        rfl
      · rw [herred]
        exact hsameInfo
      · change (t.first cfg (p.input.own c) l).2 ≠ none
        rw [← herr]
        nofun
      · rw [hnotExcluded] at hexcluded
        cases hexcluded
      · rw [hvalid]
        exact hold.valid

/-- An update of one container leaves the other containers as they are. -/
theorem pollInv_update {p' : Polling} (h : PollInv cfg c t dm p) (hstarted : j < p.next)
    (a : Attempt)
    (hstep : GoroutineStep dm (dm.updateContainerStats cfg p.input.cacheTimeMs j a).1 p p')
    (hstage : ∀ i, i ≠ j → p'.stage i = p.stage i)
    (hupdated : ∀ l, p.input.IsOwn c j l →
      OwnInv cfg c t (dm.updateContainerStats cfg p.input.cacheTimeMs j a).1 p' j l) :
    PollInv cfg c t (dm.updateContainerStats cfg p.input.cacheTimeMs j a).1 p' := by
  refine ⟨hstep.listInv h.list, fun i l hown => ?_, fun hnone => ?_⟩
  · rw [hstep.input] at hown
    by_cases hi : i = j
    · subst hi
      exact hupdated l hown
    · have hne := h.list.idShort_ne (h.list.not_own hown hi) hstarted
      refine hstep.ownInv (h.own i l hown) ?_ ?_ (hstage i hi)
      · exact dm.track_updateContainerStats_of_ne cfg c _ j _ hne.symm
      · rw [dm.ctr_updateContainerStats cfg _ j _ i (by rw [h.list.length]; exact hown.lt_length),
          if_neg (Ne.symm hi)]
  · rw [hstep.input] at hnone ⊢
    have hne := h.list.idShort_ne (hnone j) hstarted
    obtain ⟨htrack, hvalid⟩ := h.absent hnone
    refine ⟨?_, by rwa [hstep.validIds]⟩
    rw [dm.track_updateContainerStats_of_ne cfg c _ j _ hne.symm, htrack]

theorem PollInv.updated (h : PollInv cfg c t dm p) (hj : j ∈ p.running)
    (hcovered : (dm.ctr j).idShort = c → Covered dm (p.attempt (·.first) j)) :
    PollInv cfg c t
      (dm.updateContainerStats cfg p.input.cacheTimeMs j (p.attempt (·.first) j)).1
      (p.updated j
        (dm.updateContainerStats cfg p.input.cacheTimeMs j (p.attempt (·.first) j)).2) := by
  have hstarted : j < p.next := h.list.started j (by simp [Polling.goroutines, hj])
  refine pollInv_update h hstarted (p.attempt (·.first) j)
    (goroutineStep_update _ rfl rfl (goroutines_updated hj _))
    (fun i hne => stage_updated_of_ne hne _) fun l hown => ?_
  have hid := h.list.idShort_of_own hown hstarted
  rw [attempt_of_own (p := p) (·.first) hown] at hcovered ⊢
  exact updated_own h hown hj (hcovered hid)

/-! ### A deleted entry -/

theorem goroutineStep_drop (hj : j ∈ p.erred) (id : Bytes) :
    GoroutineStep dm (dm.deleteStats id) p (p.dropped j) := by
  refine ⟨rfl, rfl, List.Perm.subperm ?_, rfl, rfl, rfl, fun _ _ => rfl, fun _ _ => rfl⟩
  have hperm : (p.failedContainers ++ [j]).Perm (j :: p.failedContainers) :=
    List.perm_append_singleton _ _
  have herred : (j :: p.erred.erase j).Perm p.erred := (List.perm_cons_erase hj).symm
  simp only [Polling.goroutines, Polling.dropped, List.append_assoc]
  refine List.Perm.append_left _ ?_
  refine (List.Perm.append_left _ hperm).trans ?_
  exact List.perm_middle.trans (herred.append_right _)

theorem stage_dropped_of_ne {i : ℕ} (hne : i ≠ j) : (p.dropped j).stage i = p.stage i := by
  refine stage_congr Iff.rfl Iff.rfl (List.mem_erase_of_ne hne) ?_
  simp [Polling.dropped, hne]

theorem stage_dropped (h : ListInv c dm p) (hj : j ∈ p.erred) :
    (p.dropped j).stage j = .failed := by
  have hnext : ¬ p.next ≤ j := h.next_of_mem (by simp [Polling.goroutines, hj])
  have herred : j ∉ p.erred.erase j := by
    have hnodup := h.nodup
    rw [Polling.goroutines, List.nodup_append, List.nodup_append] at hnodup
    exact hnodup.1.2.1.not_mem_erase
  have hrunning := (h.not_mem_of_erred hj).1
  simp [Polling.stage, Polling.dropped, hnext, herred, hrunning]

theorem PollInv.dropped (h : PollInv cfg c t dm p) (hj : j ∈ p.erred) :
    PollInv cfg c t (dm.deleteStats (dm.ctr j).idShort) (p.dropped j) := by
  have hstarted : j < p.next := h.list.started j (by simp [Polling.goroutines, hj])
  have hstep : GoroutineStep dm _ p (p.dropped j) := goroutineStep_drop hj (dm.ctr j).idShort
  have htrack := dm.track_deleteStats c (dm.ctr j).idShort
  refine ⟨hstep.listInv h.list, fun i l hown => ?_, fun hnone => ?_⟩
  · by_cases hi : i = j
    · subst hi
      have hold := h.own i l hown
      have hstage := h.list.stage_erred hj
      have hstage' := stage_dropped h.list hj
      have hid := h.list.idShort_of_own hown hstarted
      rw [if_pos hid.symm, hold.track, hstage] at htrack
      refine ⟨?_, fun _ => ?_, fun _ => hold.err (.inl hstage), fun hexcluded => ?_, hold.valid⟩
      · rw [hstage', htrack]
        rfl
      · have hctr := hold.ctr (by rw [hstage]; nofun)
        rw [hstage] at hctr
        rw [hstage']
        exact hctr
      · rcases hold.excluded hexcluded with hw | hd <;> simp [hstage] at *
    · have hne := h.list.idShort_ne (h.list.not_own hown hi) hstarted
      rw [if_neg hne.symm] at htrack
      exact hstep.ownInv (h.own i l hown) htrack rfl (stage_dropped_of_ne hi)
  · have hne := h.list.idShort_ne (hnone j) hstarted
    obtain ⟨hstart, hvalid⟩ := h.absent hnone
    rw [if_neg hne.symm] at htrack
    exact ⟨htrack.trans hstart, hvalid⟩

/-! ### A second attempt -/

theorem goroutines_retried : List.Subperm (p.retried j).goroutines p.goroutines :=
  (List.erase_sublist.append_left _).subperm

theorem stage_retried_of_ne {i : ℕ} (hne : i ≠ j) : (p.retried j).stage i = p.stage i :=
  stage_congr Iff.rfl Iff.rfl Iff.rfl (List.mem_erase_of_ne hne)

theorem stage_retried (h : ListInv c dm p) (hj : j ∈ p.failedContainers) :
    (p.retried j).stage j = .done := by
  have hnext : ¬ p.next ≤ j := h.next_of_mem (by simp [Polling.goroutines, hj])
  have hfailed : j ∉ p.failedContainers.erase j := by
    have hnodup := h.nodup
    rw [Polling.goroutines, List.nodup_append] at hnodup
    exact hnodup.2.1.not_mem_erase
  obtain ⟨hrunning, herred⟩ := h.not_mem_of_failed hj
  simp [Polling.stage, Polling.retried, hnext, hfailed, hrunning, herred]

/-- The update of a failed container is the second attempt of the tracker. -/
theorem second_of_failed (h : PollInv cfg c t dm p) {i : ℕ} {l : Listed}
    (hown : p.input.IsOwn c i l) (hi : i ∈ p.failedContainers) (hcovered : Covered dm l.second) :
    ((dm.updateContainerStats cfg p.input.cacheTimeMs i l.second).1.track c,
        (dm.updateContainerStats cfg p.input.cacheTimeMs i l.second).2) =
      t.second cfg (p.input.own c) l := by
  have hold := h.own i l hown
  have hstage := h.list.stage_failed hi
  have hstarted : i < p.next := h.list.started i (by simp [Polling.goroutines, hi])
  have hctr : (dm.ctr i).SameInfo (l.first.after l.ctr) := by
    have hctr := hold.ctr (by rw [hstage]; nofun)
    rwa [hstage] at hctr
  have hlid : (l.first.after l.ctr).idShort = c := (idShort_after _ _).trans hown.2
  have hid := (h.list.idShort_of_own hown hstarted).trans hlid.symm
  have hmoved := dm.track_updateContainerStats cfg p.input.cacheTimeMs i l.second hctr hid hcovered
  rwa [hlid, hold.track, hstage, h.list.isWindows] at hmoved

theorem retried_own (h : PollInv cfg c t dm p) {i : ℕ} {l : Listed}
    (hown : p.input.IsOwn c i l) (hi : i ∈ p.failedContainers) (hcovered : Covered dm l.second) :
    OwnInv cfg c t (dm.updateContainerStats cfg p.input.cacheTimeMs i l.second).1 (p.retried i) i
      l := by
  have hold := h.own i l hown
  have hstage := h.list.stage_failed hi
  have hmoved := second_of_failed h hown hi hcovered
  have hdone := stage_retried h.list hi
  have hnotExcluded := hold.not_excluded (by rw [hstage]; nofun) (by rw [hstage]; nofun)
  refine ⟨?_, fun hne => absurd hdone hne, ?_, fun _ => .inr hdone, ?_⟩
  · rw [hdone]
    refine (congrArg Prod.fst hmoved).trans ?_
    change _ = t.finished cfg (p.input.own c) l
    rw [Tracker.finished, hnotExcluded, if_neg Bool.false_ne_true,
      if_neg (hold.err (.inr hstage))]
  · rw [hdone]
    nofun
  · rw [validIds_updateContainerStats]
    exact hold.valid

theorem PollInv.retried (h : PollInv cfg c t dm p) (hj : j ∈ p.failedContainers)
    (hcovered : (dm.ctr j).idShort = c → Covered dm (p.attempt (·.second) j)) :
    PollInv cfg c t
      (dm.updateContainerStats cfg p.input.cacheTimeMs j (p.attempt (·.second) j)).1
      (p.retried j) := by
  have hstarted : j < p.next := h.list.started j (by simp [Polling.goroutines, hj])
  refine pollInv_update h hstarted (p.attempt (·.second) j)
    (goroutineStep_update _ rfl rfl goroutines_retried)
    (fun i hne => stage_retried_of_ne hne) fun l hown => ?_
  have hid := h.list.idShort_of_own hown hstarted
  rw [attempt_of_own (p := p) (·.second) hown] at hcovered ⊢
  exact retried_own h hown hj (hcovered hid)

end Update

/-! ### The loop over the list -/

section Visit

variable {cfg : DockerConfig} {c : Bytes} {t : Tracker} {dm dm' : DockerManager} {p p' : Polling}

structure LoopStep (dm dm' : DockerManager) (p p' : Polling) : Prop where
  input : p'.input = p.input
  next : p'.next = p.next + 1
  goroutines : List.Subperm p'.goroutines (p.next :: p.goroutines)
  apiContainerList : dm'.apiContainerList = (dm.setIdShort p.next).apiContainerList
  isWindows : dm'.isWindows = dm.isWindows

namespace LoopStep

variable (hstep : LoopStep dm dm' p p')
include hstep

theorem ctr (h : ListInv c dm p) {i : ℕ} (hi : i < p.input.listed.length) :
    dm'.ctr i =
      if p.next = i then { dm.ctr i with idShort := (dm.ctr i).id.take 12 } else dm.ctr i := by
  rw [DockerManager.ctr, hstep.apiContainerList]
  exact dm.ctr_modifyCtr _ _ i (by rwa [h.length])

theorem listInv (h : ListInv c dm p) (hnext : p.next < p.input.listed.length) :
    ListInv c dm' p' where
  length := by
    rw [hstep.apiContainerList, hstep.input, ← h.length]
    exact dm.length_modifyCtr _ _
  isWindows := by rw [hstep.isWindows, hstep.input, h.isWindows]
  next_le := by rw [hstep.next, hstep.input]; exact hnext
  started i hi := by
    rw [hstep.next]
    rcases List.mem_cons.mp (hstep.goroutines.subset hi) with rfl | hi
    · exact Nat.lt_succ_self _
    · exact Nat.lt_succ_of_lt (h.started i hi)
  nodup := by
    obtain ⟨l, hperm, hsublist⟩ := hstep.goroutines
    have hnotMem : p.next ∉ p.goroutines := fun hmem => Nat.lt_irrefl _ (h.started _ hmem)
    exact hperm.nodup_iff.mp (hsublist.nodup (List.nodup_cons.mpr ⟨hnotMem, h.nodup⟩))
  unique := by rw [hstep.input]; exact h.unique
  ids i hi := by
    rw [hstep.input] at hi ⊢
    rw [hstep.ctr h hi, ← h.ids i hi]
    split <;> rfl
  idShort i hi := by
    rw [hstep.next] at hi
    rw [hstep.ctr h (by omega)]
    split
    case isTrue => rfl
    case isFalse hne => exact h.idShort i (by omega)

theorem stage_of_ne {i : ℕ} (hne : i ≠ p.next) (hrunning : i ∈ p'.running ↔ i ∈ p.running)
    (herred : p'.erred = p.erred) (hfailed : p'.failedContainers = p.failedContainers) :
    p'.stage i = p.stage i := by
  refine stage_congr ?_ hrunning (by rw [herred]) (by rw [hfailed])
  rw [hstep.next]
  omega

theorem ownInv {i : ℕ} {l : Listed} (hlist : ListInv c dm p) (h : OwnInv cfg c t dm p i l)
    (hown : p.input.IsOwn c i l) (hne : i ≠ p.next) (htrack : dm'.track c = dm.track c)
    (hvalid : c ∈ dm'.validIds ↔ c ∈ dm.validIds) (hstage : p'.stage i = p.stage i) :
    OwnInv cfg c t dm' p' i l where
  track := by rw [htrack, hstage, hstep.input, h.track]
  ctr := by
    rw [hstep.ctr hlist hown.lt_length, if_neg (Ne.symm hne), hstage]
    exact h.ctr
  err := by rw [hstage, hstep.input]; exact h.err
  excluded := by rw [hstage]; exact h.excluded
  valid := by
    rw [hvalid, h.valid, hstep.next]
    refine and_congr_left fun _ => ?_
    omega

end LoopStep

theorem track_launch (ctr : ApiInfo) :
    (dm.launch ctr).track c =
      if c = ctr.idShort then (dm.track c).restart ctr else dm.track c := by
  rw [DockerManager.launch, Tracker.restart]
  split
  · rw [DockerManager.track_deleteContainerStatsSync, DockerManager.track_validIds]
  · rw [DockerManager.track_validIds, ite_self]

theorem validIds_launch (ctr : ApiInfo) :
    (dm.launch ctr).validIds = ctr.idShort :: dm.validIds := by
  rw [DockerManager.launch]
  split <;> rfl

theorem loopStep_skipped : LoopStep dm (dm.setIdShort p.next) p p.skipped :=
  ⟨rfl, rfl, (List.sublist_cons_self _ _).subperm, rfl, rfl⟩

theorem loopStep_launched (ctr : ApiInfo) :
    LoopStep dm ((dm.setIdShort p.next).launch ctr) p p.launched := by
  refine ⟨rfl, rfl, List.Subperm.refl _, ?_, ?_⟩
  · rw [DockerManager.launch]
    split <;> rfl
  · rw [DockerManager.launch]
    split <;> rfl

theorem not_mem_next (h : ListInv c dm p) : p.next ∉ p.running ∧ p.next ∉ p.erred ∧
    p.next ∉ p.failedContainers := by
  have hnotMem : p.next ∉ p.goroutines := fun hmem => Nat.lt_irrefl _ (h.started _ hmem)
  simpa [Polling.goroutines] using hnotMem

theorem PollInv.skipped (h : PollInv cfg c t dm p) (hnext : p.next < p.input.listed.length)
    (hexcluded : shouldExcludeContainer cfg (dm.ctr p.next).name = true) :
    PollInv cfg c t (dm.setIdShort p.next) p.skipped := by
  have hstep : LoopStep dm (dm.setIdShort p.next) p p.skipped := loopStep_skipped
  refine ⟨hstep.listInv h.list hnext, fun i l hown => ?_, fun hnone => h.absent hnone⟩
  by_cases hi : i = p.next
  · have hold := h.own i l hown
    have hwaiting : p.stage i = .waiting := stage_waiting (Nat.le_of_eq hi.symm)
    have hctr : (dm.ctr i).SameInfo l.ctr := by
      have hctr := hold.ctr (by rw [hwaiting]; nofun)
      rwa [hwaiting] at hctr
    have hname : shouldExcludeContainer cfg l.ctr.name = true := by
      rwa [← hctr.name, hi]
    have hdone : p.skipped.stage i = .done := by
      obtain ⟨hrunning, herred, hfailed⟩ := not_mem_next h.list
      simp [Polling.stage, Polling.skipped, hi, hrunning, herred, hfailed]
    have hfinished : t.finished cfg (p.input.own c) l = t.start (p.input.own c) := if_pos hname
    refine ⟨?_, fun hne => absurd hdone hne, ?_, fun _ => .inr hdone, ?_⟩
    · rw [hdone]
      refine hold.track.trans ?_
      rw [hwaiting]
      exact hfinished.symm
    · rw [hdone]
      nofun
    · have hnotValid : c ∉ dm.validIds := fun hmem => by
        have hlt := (hold.valid.mp hmem).1
        omega
      exact iff_of_false hnotValid fun hand => by simp [hname] at hand
  · refine hstep.ownInv h.list (h.own i l hown) hown hi rfl Iff.rfl ?_
    exact hstep.stage_of_ne hi Iff.rfl rfl rfl

theorem PollInv.launched (h : PollInv cfg c t dm p) (hnext : p.next < p.input.listed.length)
    (hexcluded : shouldExcludeContainer cfg (dm.ctr p.next).name = false) :
    PollInv cfg c t ((dm.setIdShort p.next).launch ((dm.setIdShort p.next).ctr p.next))
      p.launched := by
  have hctrNext : (dm.setIdShort p.next).ctr p.next =
      { dm.ctr p.next with idShort := (dm.ctr p.next).id.take 12 } :=
    (dm.ctr_modifyCtr _ _ _ (by rwa [h.list.length])).trans (if_pos rfl)
  set ctr := (dm.setIdShort p.next).ctr p.next with hctr
  have hidShort : ctr.idShort = (dm.ctr p.next).id.take 12 := congrArg ApiInfo.idShort hctrNext
  have hstep : LoopStep dm ((dm.setIdShort p.next).launch ctr) p p.launched := loopStep_launched ctr
  have htrack : ((dm.setIdShort p.next).launch ctr).track c =
      if c = ctr.idShort then (dm.track c).restart ctr else dm.track c := track_launch ctr
  have hvalid : ((dm.setIdShort p.next).launch ctr).validIds = ctr.idShort :: dm.validIds :=
    validIds_launch ctr
  refine ⟨hstep.listInv h.list hnext, fun i l hown => ?_, fun hnone => ?_⟩
  · by_cases hi : i = p.next
    · subst hi
      have hold := h.own _ l hown
      have hwaiting : p.stage p.next = .waiting := stage_waiting le_rfl
      have hsame : (dm.ctr p.next).SameInfo l.ctr := by
        have hsame := hold.ctr (by rw [hwaiting]; nofun)
        rwa [hwaiting] at hsame
      have hsame' : ctr.SameInfo l.ctr := by
        rw [hctrNext]
        exact { hsame with }
      have hid : c = ctr.idShort := by
        rw [hidShort]
        exact ((h.list.ids _ hnext).mpr ⟨l, hown⟩).symm
      have hname : shouldExcludeContainer cfg l.ctr.name = false := by rwa [← hsame.name]
      have hrunning : p.launched.stage p.next = .running := by
        simp [Polling.stage, Polling.launched]
      have hrestart (t : Tracker) : t.restart ctr = t.restart l.ctr := by
        rw [Tracker.restart, Tracker.restart, hsame'.isYoung]
      refine ⟨?_, fun _ => ?_, ?_, fun hexcluded => ?_, ?_⟩
      · rw [htrack, if_pos hid, hold.track, hwaiting, hrunning, hrestart]
        rfl
      · rw [hrunning, hstep.ctr h.list hnext, if_pos rfl]
        exact { hsame with }
      · rw [hrunning]
        nofun
      · rw [hname] at hexcluded
        cases hexcluded
      · rw [hvalid, hid]
        exact iff_of_true (by simp) ⟨Nat.lt_succ_self _, hname⟩
    · have hne : ctr.idShort ≠ c := by
        rw [hidShort]
        intro heq
        obtain ⟨l', hown'⟩ := (h.list.ids _ hnext).mp heq
        exact h.list.not_own hown hi l' hown'
      refine hstep.ownInv h.list (h.own i l hown) hown hi ?_ ?_ ?_
      · rw [htrack, if_neg hne.symm]
      · rw [hvalid, List.mem_cons]
        exact or_iff_right hne.symm
      · exact hstep.stage_of_ne hi (by simp [Polling.launched, hi]) rfl rfl
  · have hne : ctr.idShort ≠ c := by
      rw [hidShort]
      intro heq
      obtain ⟨l', hown'⟩ := (h.list.ids _ hnext).mp heq
      exact hnone _ l' hown'
    obtain ⟨hstart, hnotValid⟩ := h.absent hnone
    rw [htrack, if_neg hne.symm, hvalid]
    exact ⟨hstart, fun hmem => (List.mem_cons.mp hmem).elim hne.symm hnotValid⟩

end Visit

/-! ### A list, and the end of a poll -/

theorem length_decodeElems {M V : Type} (decode : M → V → V) (zero : V) (ms : List M)
    (vs : List V) : (decodeElems decode zero ms vs).length = ms.length := by
  induction ms generalizing vs with
  | nil => cases vs <;> rfl
  | cons m ms ih => cases vs <;> simp [decodeElems, ih]

theorem getElem?_decodeElems {M V : Type} (decode : M → V → V) (zero : V) (ms : List M)
    (vs : List V) (i : ℕ) :
    (decodeElems decode zero ms vs)[i]? = ms[i]?.map fun m => decode m (vs.getD i zero) := by
  induction ms generalizing vs i with
  | nil => cases vs <;> rfl
  | cons m ms ih =>
      cases vs with
      | nil =>
          cases i with
          | zero => rfl
          | succ i => simp [decodeElems, ih]
      | cons v vs =>
          cases i with
          | zero => rfl
          | succ i => simp [decodeElems, ih]

section Listed

variable {cfg : DockerConfig} {c : Bytes} {t : Tracker} {dm : DockerManager} {input : PollInput}

theorem elems_decodeList (entries : List ApiEntry) :
    (dm.decodeList entries).apiContainerList.elems =
      decodeElems ApiEntry.decode {} entries dm.pool := by
  simp only [DockerManager.decodeList, PtrSlice.decodeJson]
  split
  case isTrue hnil =>
    rw [hnil]
    cases dm.pool <;> rfl
  · rfl

theorem ctr_decodeList {i : ℕ} {l : Listed} (hl : input.listed[i]? = some l) :
    (dm.decodeList (input.listed.map (·.entry))).ctr i = l.entry.decode (dm.pool.getD i {}) := by
  rw [DockerManager.ctr, elems_decodeList, List.getD_eq_getElem?_getD, getElem?_decodeElems,
    List.getElem?_map, hl]
  rfl

theorem unique_of_listApart (hapart : ListApart c dm.pool input.listed) {i j : ℕ} {l l' : Listed}
    (hi : input.IsOwn c i l) (hj : input.IsOwn c j l') : i = j := by
  obtain ⟨hil, hli⟩ := List.getElem?_eq_some_iff.mp hi.1
  obtain ⟨hjl, hlj⟩ := List.getElem?_eq_some_iff.mp hj.1
  have hpairwise := List.pairwise_iff_getElem.mp hapart.1
  rcases Nat.lt_trichotomy i j with hlt | heq | hgt
  · exact absurd ⟨by rw [hli]; exact hi.2, by rw [hlj]; exact hj.2⟩ (hpairwise i j hil hjl hlt)
  · exact heq
  · exact absurd ⟨by rw [hlj]; exact hj.2, by rw [hli]; exact hi.2⟩ (hpairwise j i hjl hil hgt)

theorem ids_of_listApart (hapart : ListApart c dm.pool input.listed) {i : ℕ} {l : Listed}
    (hl : input.listed[i]? = some l) :
    (l.entry.decode (dm.pool.getD i {})).id.take 12 = c ↔ l.entry.shortId = c := by
  obtain ⟨hlt, -⟩ := List.getElem?_eq_some_iff.mp hl
  obtain ⟨hfills, hid⟩ := hapart.2 i hlt l hl
  simp only [ApiEntry.decode, ApiEntry.shortId]
  cases hentry : l.entry.id with
  | some id => rfl
  | none =>
      have hshort : l.entry.shortId = [] := by
        rw [ApiEntry.shortId, hentry]
        rfl
      constructor
      · intro heq
        rw [← hid hentry heq, hshort]
        rfl
      · intro heq
        have hold := (hfills (hshort.trans heq)).1 hentry
        rw [← heq, Option.getD_none, hold]
        rfl

theorem listInv_list (s : DockerPolls)
    (hunique : ∀ i j l l', input.IsOwn c i l → input.IsOwn c j l' → i = j)
    (hids : ∀ i (l : Listed), input.listed[i]? = some l →
      ((l.entry.decode (s.dm.pool.getD i {})).id.take 12 = c ↔ l.entry.shortId = c)) :
    ListInv c (s.list input).dm { input } := by
  refine ⟨?_, rfl, Nat.zero_le _, nofun, List.nodup_nil, hunique, fun i hi => ?_, nofun⟩
  · change (s.dm.decodeList (input.listed.map (·.entry))).apiContainerList.elems.length = _
    rw [elems_decodeList, length_decodeElems, List.length_map]
  · have hl : input.listed[i]? = some input.listed[i] := List.getElem?_eq_getElem hi
    have hctr : (s.list input).dm.ctr i = _ := ctr_decodeList hl
    rw [hctr, hids i _ hl]
    refine ⟨fun heq => ⟨_, hl, heq⟩, ?_⟩
    rintro ⟨l, hl', heq⟩
    rwa [Option.some.inj (hl.symm.trans hl')]

theorem pollInv_list (s : DockerPolls) (htrack : s.dm.track c = t)
    (hapart : ListApart c s.dm.pool input.listed) :
    PollInv cfg c t (s.list input).dm { input } := by
  have hctr {i : ℕ} {l : Listed} (hl : input.listed[i]? = some l) :
      (s.list input).dm.ctr i = l.entry.decode (s.dm.pool.getD i {}) := ctr_decodeList hl
  have hstart : (s.list input).dm.track c = t.start (input.own c) := by
    rw [← htrack]
    rfl
  refine ⟨listInv_list s (fun i j l l' => unique_of_listApart hapart)
    (fun i l => ids_of_listApart hapart), ?_, ?_⟩
  · intro i l hown
    have hwaiting : Polling.stage { input } i = .waiting := stage_waiting (Nat.zero_le i)
    have hfills := (hapart.2 i hown.lt_length l hown.1).1 hown.2
    refine ⟨?_, fun _ => ?_, ?_, fun _ => .inl hwaiting, ?_⟩
    · rw [hwaiting]
      exact hstart
    · rw [hwaiting, hctr hown.1]
      exact { hfills.sameInfo with }
    · rw [hwaiting]
      nofun
    · exact iff_of_false List.not_mem_nil fun hand => absurd hand.1 (Nat.not_lt_zero _)
  · exact fun _ => ⟨hstart, List.not_mem_nil⟩

theorem own_listed {i : ℕ} {l : Listed} (hown : input.IsOwn c i l)
    (hunique : ∀ i j l l', input.IsOwn c i l → input.IsOwn c j l' → i = j) :
    (input.own c).listed = some l := by
  change input.listed.find? (·.entry.shortId = c) = some l
  cases hfind : input.listed.find? (·.entry.shortId = c) with
  | none =>
      have hnone := List.find?_eq_none.mp hfind l (List.mem_of_getElem? hown.1)
      simp [hown.2] at hnone
  | some l' =>
      obtain ⟨j, hj⟩ := List.mem_iff_getElem?.mp (List.mem_of_find?_eq_some hfind)
      have hown' : input.IsOwn c j l' := ⟨hj, by simpa using List.find?_some hfind⟩
      have heq := hunique _ _ _ _ hown hown'
      subst heq
      exact hj.symm.trans hown.1

theorem own_listed_none (hnone : ∀ i l, ¬ input.IsOwn c i l) : (input.own c).listed = none := by
  refine List.find?_eq_none.mpr fun l hl heq => ?_
  obtain ⟨i, hi⟩ := List.mem_iff_getElem?.mp hl
  exact hnone i l ⟨hi, by simpa using heq⟩

/-- When all goroutines are done, every container of the list is. -/
theorem stage_of_waited {p : Polling} {i : ℕ} {l : Listed} (hown : p.input.IsOwn c i l)
    (hwaited : p.waited = true) (hfailed : p.failedContainers = []) : p.stage i = .done := by
  simp only [Polling.waited, Bool.and_eq_true, decide_eq_true_eq, List.isEmpty_iff] at hwaited
  obtain ⟨⟨hnext, hrunning⟩, herred⟩ := hwaited
  have hlt : i < p.next := by rw [hnext]; exact hown.lt_length
  rw [Polling.stage, if_neg (Nat.not_le.mpr hlt), hrunning, herred, hfailed]
  rfl

theorem settled_of_own {o : OwnInput} {l : Listed} (hlisted : o.listed = some l)
    (hexcluded : shouldExcludeContainer cfg l.ctr.name = false) :
    t.settled cfg o = t.finished cfg o l := by
  rw [Tracker.settled, hlisted, Tracker.finished]
  simp only [hexcluded, Bool.false_eq_true, if_false]

theorem track_pruneStats_of_pollInv {p : Polling} (h : PollInv cfg c t dm p)
    (hwaited : p.waited = true) (hfailed : p.failedContainers = []) :
    dm.pruneStats.track c = t.settled cfg (p.input.own c) := by
  rw [DockerManager.track_pruneStats]
  by_cases hlisted : ∃ i l, p.input.IsOwn c i l
  · obtain ⟨i, l, hown⟩ := hlisted
    have hold := h.own i l hown
    have hdone := stage_of_waited hown hwaited hfailed
    have hlistedOwn := own_listed hown h.list.unique
    have hlt : i < p.next := by
      simp only [Polling.waited, Bool.and_eq_true, decide_eq_true_eq] at hwaited
      rw [hwaited.1.1]
      exact hown.lt_length
    have hfinished : dm.track c = t.finished cfg (p.input.own c) l := by
      rw [hold.track, hdone]
      rfl
    cases hexcluded : shouldExcludeContainer cfg l.ctr.name with
    | true =>
        have hnotValid : c ∉ dm.validIds := fun hmem => by
          simpa [hexcluded] using (hold.valid.mp hmem).2
        have hstart : t.finished cfg (p.input.own c) l = t.start (p.input.own c) := if_pos hexcluded
        rw [if_neg hnotValid, hfinished, hstart, Tracker.settled, hlistedOwn]
        exact (if_pos hexcluded).symm
    | false =>
        rw [if_pos (hold.valid.mpr ⟨hlt, hexcluded⟩), hfinished,
          settled_of_own hlistedOwn hexcluded]
  · have hnone : ∀ i l, ¬ p.input.IsOwn c i l := fun i l hown => hlisted ⟨i, l, hown⟩
    obtain ⟨hstart, hnotValid⟩ := h.absent hnone
    rw [if_neg hnotValid, hstart, Tracker.settled, own_listed_none hnone]

end Listed

end Picket.Docker
