import Picket.AlertManager
import Picket.Lib.KeyedFold
import Picket.Lib.Transition

/-!
# Batches of alerts

A message writes one place of the store, that of its system and name. A batch has at most one
message for each place, so the order of its messages does not matter; and the last message for a
place is the one that counts when they are applied one by one.
-/

namespace Picket.AlertManager

open AssocList Transition

/-! ### Places -/

def Message.place (m : Message) : String × String :=
  (m.record.system, m.record.name)

def Message.left (m : Message) : Option AlertRecord :=
  if m.action = .delete then none else some m.record

theorem alertAt_set (alerts : AlertMap) (system systemId name : String)
    (systemAlerts : List (String × AlertRecord)) :
    alertAt (AssocList.set system systemAlerts alerts) systemId name =
      if systemId = system then systemAlerts.lookup name else alertAt alerts systemId name := by
  rw [alertAt, lookup_set]
  split <;> rfl

theorem lookup_getD (alerts : AlertMap) (systemId name : String) :
    ((alerts.lookup systemId).getD []).lookup name = alertAt alerts systemId name := by
  rw [alertAt]
  cases alerts.lookup systemId <;> rfl

def applyOne (alerts : AlertMap) (m : Message) : AlertMap :=
  actionFns m.action alerts [m.record]

theorem alertAt_applyOne (alerts : AlertMap) (m : Message) (systemId name : String) :
    alertAt (applyOne alerts m) systemId name =
      if m.place = (systemId, name) then m.left else alertAt alerts systemId name := by
  have hadd : alertAt (addOne alerts m.record) systemId name =
      if m.place = (systemId, name) then some m.record else alertAt alerts systemId name := by
    rw [addOne, alertAt_set, lookup_set, Message.place]
    by_cases hsystem : systemId = m.record.system
    · subst hsystem
      by_cases hname : name = m.record.name
      · simp [hname]
      · simp [hname, Ne.symm hname, lookup_getD]
    · simp [hsystem, Ne.symm hsystem]
  have hremove : alertAt (removeOne alerts m.record) systemId name =
      if m.place = (systemId, name) then none else alertAt alerts systemId name := by
    rw [removeOne, alertAt_set, lookup_delete, Message.place]
    by_cases hsystem : systemId = m.record.system
    · subst hsystem
      by_cases hname : name = m.record.name
      · simp [hname]
      · simp [hname, Ne.symm hname, lookup_getD]
    · simp [hsystem, Ne.symm hsystem]
  rw [applyOne, Message.left]
  cases m.action with
  | create => exact hadd
  | update => exact hadd
  | delete => exact hremove

/-! ### A batch -/

/-- The messages in the order in which the timeout takes them. -/
def inOrder (batch : Batch) : Batch :=
  [Action.create, .update, .delete].flatMap fun action => batch.filter (·.2.action = action)

theorem actionFns_eq (action : Action) (alerts : AlertMap) (records : List AlertRecord) :
    actionFns action alerts records =
      records.foldl (fun alerts record => applyOne alerts ⟨action, record⟩) alerts := by
  cases action <;> rfl

theorem processBatch_eq (alerts : AlertMap) (batch : Batch) :
    processBatch alerts batch =
      (inOrder batch).foldl (fun alerts entry => applyOne alerts entry.2) alerts := by
  rw [processBatch, inOrder, List.foldl_flatMap]
  refine List.foldl_ext _ _ _ fun alerts action _ => ?_
  have hgroup : (batch.filter (·.2.action = action)).foldl
        (fun alerts entry => applyOne alerts entry.2) alerts =
      actionFns action alerts (group batch action) := by
    rw [actionFns_eq, group, List.foldl_map]
    refine List.foldl_ext _ _ _ fun alerts entry hentry => ?_
    have haction : entry.2.action = action := by simpa using (List.mem_filter.mp hentry).2
    rw [← haction]
  rw [hgroup]
  split
  case isTrue => rfl
  case isFalse hempty =>
    rw [List.length_eq_zero_iff.mp (not_not.mp hempty), actionFns_eq, List.foldl_nil]

theorem inOrder_perm (batch : Batch) : (inOrder batch).Perm batch := by
  simp only [inOrder, List.flatMap_cons, List.flatMap_nil, List.append_nil]
  induction batch with
  | nil => exact List.Perm.nil
  | cons entry batch ih =>
      simp only [List.filter_cons, decide_eq_true_eq]
      cases entry.2.action with
      | create => exact ih.cons entry
      | update => exact (List.perm_middle).trans (ih.cons entry)
      | delete =>
          refine (List.Perm.append_left _ List.perm_middle).trans ?_
          exact List.perm_middle.trans (ih.cons entry)

/-- The keys of a batch are those of its messages, and tell their places apart. -/
structure Keyed (n : ℕ) (batch : Batch) : Prop where
  nodup : (batch.map Prod.fst).Nodup
  key : ∀ entry ∈ batch, entry.1 = entry.2.batchKey
  length : ∀ entry ∈ batch, entry.2.record.system.length = n

theorem place_eq_of_batchKey {m m' : Message}
    (hlength : m.record.system.length = m'.record.system.length)
    (hkey : m.batchKey = m'.batchKey) : m.place = m'.place := by
  have hlist := congrArg String.toList hkey
  rw [Message.batchKey, Message.batchKey, String.toList_append, String.toList_append] at hlist
  rw [← String.length_toList, ← String.length_toList] at hlength
  obtain ⟨hsystem, hname⟩ := List.append_inj hlist hlength
  exact Prod.ext (String.toList_inj.mp hsystem) (String.toList_inj.mp hname)

section Keyed

variable {n : ℕ} {batch : Batch}

theorem Keyed.nodup_place (hbatch : Keyed n batch) :
    (batch.map fun entry => entry.2.place).Nodup := by
  refine List.Nodup.of_map (fun place : String × String => place.1 ++ place.2) ?_
  have hkeys : (batch.map fun entry => entry.2.place).map (fun place => place.1 ++ place.2) =
      batch.map Prod.fst := by
    rw [List.map_map]
    exact List.map_congr_left fun entry hentry => (hbatch.key entry hentry).symm
  rw [hkeys]
  exact hbatch.nodup

theorem Keyed.set (hbatch : Keyed n batch) {m : Message} (hlength : m.record.system.length = n) :
    Keyed n (AssocList.set m.batchKey m batch) where
  nodup := nodup_set hbatch.nodup _ _
  key entry hentry := by
    obtain rfl | ⟨hmem, -⟩ := mem_set_iff.mp hentry
    · rfl
    · exact hbatch.key entry hmem
  length entry hentry := by
    obtain rfl | ⟨hmem, -⟩ := mem_set_iff.mp hentry
    · exact hlength
    · exact hbatch.length entry hmem

/-- What the batch leaves at a place is what its message for the place leaves. -/
theorem alertAt_processBatch (hbatch : Keyed n batch) (alerts : AlertMap)
    (systemId name : String) :
    alertAt (processBatch alerts batch) systemId name =
      (batch.find? (·.2.place = (systemId, name))).elim (alertAt alerts systemId name)
        (·.2.left) := by
  have hnodup : ((inOrder batch).map fun entry => entry.2.place).Nodup :=
    ((inOrder_perm batch).map _).nodup_iff.mpr hbatch.nodup_place
  rw [processBatch_eq, ← KeyedFold.find?_perm hnodup (inOrder_perm batch)]
  refine KeyedFold.foldl_eq_find (fun _ => True) (alertAt · systemId name) (·.2.left)
    (fun _ _ _ _ => trivial) (fun alerts entry hplace _ => ?_) (fun alerts entry hplace => ?_)
    hnodup trivial
  · rw [alertAt_applyOne, if_pos hplace]
  · rw [alertAt_applyOne, if_neg hplace]

/-- Of the messages for a place the batch keeps the last. -/
theorem alertAt_processBatch_set (hbatch : Keyed n batch) {m : Message}
    (hlength : m.record.system.length = n) (alerts : AlertMap) (systemId name : String) :
    alertAt (processBatch alerts (AssocList.set m.batchKey m batch)) systemId name =
      if m.place = (systemId, name) then m.left
      else alertAt (processBatch alerts batch) systemId name := by
  have hset := hbatch.set hlength
  rw [alertAt_processBatch hset, alertAt_processBatch hbatch]
  split
  case isTrue hplace =>
    have hfind := (KeyedFold.find?_eq_some_iff hset.nodup_place).mpr
      ⟨mem_set_iff.mpr (Or.inl rfl), hplace⟩
    rw [hfind, Option.elim_some]
  case isFalse hplace =>
    refine congrArg (Option.elim · _ _) (Option.ext fun entry => ?_)
    rw [KeyedFold.find?_eq_some_iff hset.nodup_place,
      KeyedFold.find?_eq_some_iff hbatch.nodup_place, mem_set_iff]
    refine and_congr_left fun hentry => ⟨?_, fun hmem => Or.inr ⟨hmem, fun hkey => ?_⟩⟩
    · rintro (rfl | hmem)
      · exact absurd hentry hplace
      · exact hmem.1
    · refine hplace ((place_eq_of_batchKey ?_ ?_).trans hentry)
      · exact hlength.trans (hbatch.length entry hmem).symm
      · exact hkey.symm.trans (hbatch.key entry hmem)

end Keyed

/-! ### Runs -/

/-- Processing the batch at once gives what the messages give one by one. -/
structure InStep (n : ℕ) (s : State) (alerts : AlertMap) : Prop where
  keyed : Keyed n s.batch
  same : SameAlerts (processBatch s.alerts s.batch) alerts

theorem InStep.message {n : ℕ} {s : State} {alerts : AlertMap} (hs : InStep n s alerts)
    {m : Message} (hlength : m.record.system.length = n) :
    InStep n { s with batch := AssocList.set m.batchKey m s.batch, timeout := true }
      (applyOne alerts m) where
  keyed := hs.keyed.set hlength
  same systemId name := by
    rw [alertAt_processBatch_set hs.keyed hlength, alertAt_applyOne, hs.same systemId name]

theorem InStep.timeout {n : ℕ} {s : State} {alerts : AlertMap} (hs : InStep n s alerts) :
    InStep n { alerts := processBatch s.alerts s.batch } alerts where
  keyed := ⟨List.nodup_nil, by simp, by simp⟩
  same := hs.same

theorem InStep.run {n : ℕ} {events : List Event} {s t : State} {alerts : AlertMap}
    (hs : InStep n s alerts) (hlength : ∀ m ∈ messages events, m.record.system.length = n)
    (hrun : Transition.run step s events = some t) :
    InStep n t (applyAll alerts (messages events)) := by
  induction events generalizing s alerts with
  | nil =>
      obtain rfl := Option.some.inj hrun
      exact hs
  | cons e events ih =>
      rw [run_cons, Option.bind_eq_some_iff] at hrun
      obtain ⟨u, hstep, hrest⟩ := hrun
      cases e with
      | message m =>
          obtain ⟨hm, hlater⟩ := List.forall_mem_cons.mp hlength
          obtain rfl := Option.some.inj hstep
          exact ih (hs.message hm) hlater hrest
      | timeout =>
          rw [step, Option.ite_none_right_eq_some] at hstep
          obtain rfl := Option.some.inj hstep.2
          exact ih hs.timeout hlength hrest

/-- **After the timeout, the store is as if each message had been applied as it arrived.** -/
theorem batched_sameAlerts {n : ℕ} (alerts : AlertMap) {events : List Event} {s : State}
    (hlength : ∀ m ∈ messages events, m.record.system.length = n)
    (hrun : run step { alerts } (events ++ [.timeout]) = some s) :
    SameAlerts s.alerts (applyAll alerts (messages events)) := by
  have hstart : InStep n { alerts } alerts :=
    ⟨⟨List.nodup_nil, by simp, by simp⟩, fun _ _ => rfl⟩
  obtain ⟨t, hbefore, hlast⟩ := (guarded_of_run hrun).of_append
  have hsame := (hstart.run hlength hbefore.run_eq).same
  cases hlast with
  | cons _ hstep hrest =>
      cases hrest
      rw [step, Option.ite_none_right_eq_some] at hstep
      rw [← Option.some.inj hstep.2]
      exact hsame

def cpuAlert (value : ℚ) : AlertRecord where
  id := "a1"
  system := "s1"
  name := "CPU"
  triggered := false
  value
  min := 10

/-- An alert is deleted and created again, with another value. -/
def recreated : List Event :=
  [.message ⟨.delete, cpuAlert 80⟩, .message ⟨.create, cpuAlert 90⟩]

theorem recreated_sameAlerts :
    ∃ s, run step { alerts := add [] [cpuAlert 80] } (recreated ++ [.timeout]) = some s ∧
      SameAlerts s.alerts (applyAll (add [] [cpuAlert 80]) (messages recreated)) := by
  have hlength : ∀ m ∈ messages recreated, m.record.system.length = 2 := by decide
  exact ⟨_, rfl, batched_sameAlerts _ hlength rfl⟩

end Picket.AlertManager
