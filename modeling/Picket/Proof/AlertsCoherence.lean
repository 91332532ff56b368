import Picket.AlertsCache
import Picket.Lib.Transition

/-!
# Coherence of the alerts cache

An entry is taken for complete. One that the save of an alert makes is complete only if the system
has no other alert; a read or a population makes complete ones.
-/

namespace Picket

open Transition AssocList

namespace AlertsCache

/-- The record that the cached data show. -/
def CachedAlertData.record (alert : CachedAlertData) : Record where
  id := alert.id
  system := alert.systemID
  name := alert.name
  value := alert.value
  triggered := alert.triggered
  min := alert.min.toNat

theorem record_populateFromRecord {record : Record} (hpos : 0 ≤ record.min)
    (hlt : record.min < 256) : (populateFromRecord record).record = record := by
  have hmin : ((UInt8.ofNat (record.min % 256).toNat).toNat : ℤ) = record.min := by
    rw [Int.emod_eq_of_lt hpos hlt, UInt8.toNat_ofNat_of_lt' (by simp; omega)]
    exact Int.toNat_of_nonneg hpos
  rw [CachedAlertData.record]
  simp only [populateFromRecord, hmin]

/-! ### Entries that hold some records -/

structure Holds (systemStore : SystemStore) (records : List Record) : Prop where
  ids : ∀ entry ∈ systemStore, entry.1 = entry.2.id
  alerts : (systemStore.map Prod.snd).Perm (records.map populateFromRecord)

theorem Holds.perm {systemStore : SystemStore} {records records' : List Record}
    (hholds : Holds systemStore records) (hperm : records.Perm records') :
    Holds systemStore records' :=
  ⟨hholds.ids, hholds.alerts.trans (hperm.map _)⟩

theorem Holds.delete {systemStore : SystemStore} {records : List Record}
    (hholds : Holds systemStore records) (id : String) :
    Holds (AssocList.delete id systemStore) (records.filter (·.id ≠ id)) := by
  refine ⟨fun entry hentry => hholds.ids entry (mem_of_mem_delete hentry), ?_⟩
  have hleft : (AssocList.delete id systemStore).map Prod.snd =
      (systemStore.map Prod.snd).filter (·.id ≠ id) := by
    rw [AssocList.delete, List.filter_map]
    refine congrArg _ (List.filter_congr fun entry hentry => ?_)
    rw [hholds.ids entry hentry, Function.comp]
  have hright : (records.filter (·.id ≠ id)).map populateFromRecord =
      (records.map populateFromRecord).filter (·.id ≠ id) := by
    rw [List.filter_map]
    rfl
  rw [hleft, hright]
  exact hholds.alerts.filter _

theorem Holds.insert {systemStore : SystemStore} {records : List Record}
    (hholds : Holds systemStore records) (record : Record) :
    Holds (AssocList.insert record.id (populateFromRecord record) systemStore)
      (record :: records.filter (·.id ≠ record.id)) := by
  have hrest := hholds.delete record.id
  refine ⟨fun entry hentry => ?_, hrest.alerts.cons _⟩
  obtain rfl | hmem := List.mem_cons.mp hentry
  · rfl
  · exact hrest.ids entry hmem

theorem holds_nil : Holds [] [] :=
  ⟨fun _ hentry => (List.not_mem_nil hentry).elim, List.Perm.nil⟩

theorem filter_id_eq_self {records : List Record} {id : String}
    (hfresh : id ∉ records.map (·.id)) : records.filter (·.id ≠ id) = records := by
  refine List.filter_eq_self.mpr fun record hrecord => ?_
  simp only [decide_eq_true_eq]
  rintro rfl
  exact hfresh (List.mem_map_of_mem hrecord)

/-- A load inserts one record after the other. -/
theorem Holds.foldl {records loaded : List Record} {systemStore : SystemStore}
    (hnodup : ((records ++ loaded).map (·.id)).Nodup) (hholds : Holds systemStore loaded) :
    Holds (records.foldl
        (fun systemStore record =>
          AssocList.insert record.id (populateFromRecord record) systemStore) systemStore)
      (records ++ loaded) := by
  induction records generalizing loaded systemStore with
  | nil => exact hholds
  | cons record records ih =>
      have hperm : (records ++ record :: loaded).Perm (record :: records ++ loaded) :=
        List.perm_middle
      have hnext := hholds.insert record
      rw [List.cons_append, List.map_cons, List.map_append, List.nodup_cons, List.mem_append]
        at hnodup
      rw [filter_id_eq_self fun hmem => hnodup.1 (Or.inr hmem)] at hnext
      refine (ih ?_ hnext).perm hperm
      rw [(hperm.map _).nodup_iff, List.cons_append, List.map_cons, List.map_append,
        List.nodup_cons, List.mem_append]
      exact hnodup

/-! ### Caches whose entries are complete -/

def Tracks (c : AlertsCache) (records : List Record) : Prop :=
  ∀ systemID systemStore, c.store.lookup systemID = some systemStore →
    Holds systemStore (records.filter (·.system = systemID))

theorem Tracks.perm {c : AlertsCache} {records records' : List Record} (htracks : c.Tracks records)
    (hperm : records.Perm records') : c.Tracks records' :=
  fun systemID systemStore hlookup => (htracks systemID systemStore hlookup).perm (hperm.filter _)

theorem filter_system_of_ne {records : List Record} {id systemID systemID' : String}
    (hsame : ∀ other ∈ records, other.id = id → other.system = systemID)
    (hne : systemID' ≠ systemID) :
    (records.filter (·.id ≠ id)).filter (·.system = systemID') =
      records.filter (·.system = systemID') := by
  rw [List.filter_filter]
  refine List.filter_congr fun other hother => ?_
  by_cases hid : other.id = id
  · simp [hid, hsame other hother hid, Ne.symm hne]
  · simp [hid]

/-- The records after a save that the cache learns of. -/
theorem Tracks.update {c : AlertsCache} {records : List Record} {record : Record}
    (htracks : c.Tracks records)
    (hsame : ∀ other ∈ records, other.id = record.id → other.system = record.system)
    (hne : record.system ≠ "")
    (hknown : (c.store.lookup record.system).isSome ∨
      ∀ other ∈ records, other.system = record.system → other.id = record.id) :
    (c.update record).Tracks (record :: records.filter (·.id ≠ record.id)) := by
  intro systemID systemStore hlookup
  rw [AlertsCache.update, if_neg hne, lookup_insert] at hlookup
  by_cases heq : systemID = record.system
  · subst heq
    rw [if_pos rfl, Option.some.injEq] at hlookup
    subst hlookup
    rw [List.filter_cons_of_pos (by simp), List.filter_comm]
    cases hentry : c.store.lookup record.system with
    | some entry => exact (htracks _ entry hentry).insert record
    | none =>
        have hnone :
            (records.filter (·.system = record.system)).filter (·.id ≠ record.id) = [] := by
          refine List.filter_eq_nil_iff.mpr fun other hother => ?_
          obtain ⟨hmem, hsystem⟩ := List.mem_filter.mp hother
          have hid := (hknown.resolve_left (by simp [hentry])) other hmem (by simpa using hsystem)
          simpa using hid
        rw [hnone]
        exact holds_nil.insert record
  · rw [if_neg heq] at hlookup
    rw [List.filter_cons_of_neg (by simpa using Ne.symm heq), filter_system_of_ne hsame heq]
    exact htracks systemID systemStore hlookup

theorem Tracks.delete {c : AlertsCache} {records : List Record} {record : Record}
    (htracks : c.Tracks records)
    (hsame : ∀ other ∈ records, other.id = record.id → other.system = record.system)
    (hne : record.system = "" → c.store.lookup "" = none) :
    (c.delete record).Tracks (records.filter (·.id ≠ record.id)) := by
  intro systemID systemStore hlookup
  by_cases heq : systemID = record.system
  · subst heq
    rw [List.filter_comm]
    rw [AlertsCache.delete] at hlookup
    split at hlookup
    case isTrue hempty =>
      rw [hempty, hne hempty] at hlookup
      cases hlookup
    · cases hentry : c.store.lookup record.system with
      | none => simp [hentry] at hlookup
      | some entry =>
          simp only [hentry, lookup_insert, if_pos, Option.some.injEq] at hlookup
          subst hlookup
          exact (htracks _ entry hentry).delete record.id
  · rw [filter_system_of_ne hsame heq]
    refine htracks systemID systemStore ?_
    rw [AlertsCache.delete] at hlookup
    split at hlookup
    · exact hlookup
    · cases hentry : c.store.lookup record.system with
      | none => simpa only [hentry] using hlookup
      | some entry => simpa only [hentry, lookup_insert, if_neg heq] using hlookup

/-! ### Loads -/

theorem Tracks.getSystemAlerts {c : AlertsCache} {records : List Record}
    (htracks : c.Tracks records) (hnodup : (records.map (·.id)).Nodup) (systemID : String)
    (ok : Bool) :
    (c.getSystemAlerts systemID (if ok then some records else none)).1.Tracks records := by
  rw [AlertsCache.getSystemAlerts.eq_def]
  split
  · exact htracks
  · cases ok with
    | false => exact htracks
    | true =>
        intro systemID' systemStore hlookup
        simp only [if_pos, lookup_insert] at hlookup
        by_cases heq : systemID' = systemID
        · subst heq
          rw [if_pos rfl, Option.some.injEq] at hlookup
          subst hlookup
          have hids :
              ((records.filter (Record.system · = systemID') ++ []).map Record.id).Nodup := by
            rw [List.append_nil]
            exact hnodup.sublist (List.filter_sublist.map _)
          have hload := holds_nil.foldl hids
          rwa [List.append_nil] at hload
        · rw [if_neg heq] at hlookup
          exact htracks systemID' systemStore hlookup

/-- A read returns the entry that it leaves. -/
theorem getSystemAlerts_snd (c : AlertsCache) (systemID : String) (records : Option (List Record)) :
    (c.getSystemAlerts systemID records).2 =
      ((c.getSystemAlerts systemID records).1.store.lookup systemID).map (List.map Prod.snd) := by
  rw [AlertsCache.getSystemAlerts.eq_def]
  cases hentry : c.store.lookup systemID with
  | some systemStore => simp only [hentry, Option.map_some]
  | none =>
      cases records with
      | none => simp only [hentry, Option.map_none]
      | some records => simp only [lookup_insert, if_pos, Option.map_some]

/-- What a population keeps from one record to the next. -/
structure Loaded (c : AlertsCache) (records : List Record) : Prop where
  tracks : c.Tracks records
  noSystem : c.store.lookup "" = none
  entry : ∀ record ∈ records, record.system ≠ "" → (c.store.lookup record.system).isSome

theorem Loaded.update {c : AlertsCache} {records : List Record} {record : Record}
    (hloaded : c.Loaded records) (hfresh : record.id ∉ records.map (·.id)) :
    (c.update record).Loaded (record :: records) := by
  have hsame : ∀ other ∈ records, other.id = record.id → other.system = record.system :=
    fun other hother hid => (hfresh (hid ▸ List.mem_map_of_mem hother)).elim
  by_cases hne : record.system = ""
  · have hupdate : c.update record = c := if_pos hne
    rw [hupdate]
    refine ⟨fun systemID systemStore hlookup => ?_, hloaded.noSystem,
      fun other hother hother' => ?_⟩
    · rw [List.filter_cons_of_neg]
      · exact hloaded.tracks systemID systemStore hlookup
      · rintro heq
        rw [decide_eq_true_eq] at heq
        rw [← heq, hne, hloaded.noSystem] at hlookup
        cases hlookup
    · obtain rfl | hmem := List.mem_cons.mp hother
      · exact (hother' hne).elim
      · exact hloaded.entry other hmem hother'
  · have htracks := hloaded.tracks.update hsame hne <| by
      by_cases hsome : (c.store.lookup record.system).isSome
      · exact Or.inl hsome
      · refine Or.inr fun other hother heq => (hsome ?_).elim
        rw [← heq]
        exact hloaded.entry other hother (heq ▸ hne)
    rw [filter_id_eq_self hfresh] at htracks
    refine ⟨htracks, ?_, fun other hother hother' => ?_⟩
    · rw [AlertsCache.update, if_neg hne, lookup_insert, if_neg (Ne.symm hne)]
      exact hloaded.noSystem
    · rw [AlertsCache.update, if_neg hne, lookup_insert]
      split
      · rfl
      · obtain rfl | hmem := List.mem_cons.mp hother
        · contradiction
        · exact hloaded.entry other hmem hother'

theorem Loaded.foldl {c : AlertsCache} {records loaded : List Record} (hloaded : c.Loaded loaded)
    (hnodup : ((records ++ loaded).map (·.id)).Nodup) :
    (records.foldl AlertsCache.update c).Loaded (records.reverse ++ loaded) := by
  induction records generalizing c loaded with
  | nil => exact hloaded
  | cons record records ih =>
      have hperm : (records ++ record :: loaded).Perm (record :: records ++ loaded) :=
        List.perm_middle
      rw [List.reverse_cons, List.append_assoc, List.singleton_append]
      refine ih (hloaded.update ?_) ((hperm.map _).nodup_iff.mpr hnodup)
      rw [List.cons_append, List.map_cons, List.map_append, List.nodup_cons,
        List.mem_append] at hnodup
      exact fun hmem => hnodup.1 (Or.inr hmem)

theorem Tracks.populateFromDB {c : AlertsCache} {records : List Record} (htracks : c.Tracks records)
    (hnodup : (records.map (·.id)).Nodup) (force ok : Bool) :
    (c.populateFromDB force (if ok then some records else none)).Tracks records := by
  rw [AlertsCache.populateFromDB.eq_def]
  split
  · exact htracks
  · cases ok with
    | false => exact htracks
    | true =>
        have hempty : AlertsCache.Loaded { c with store := [] } [] :=
          ⟨fun _ _ hlookup => (by cases hlookup), rfl, fun _ hmem => (List.not_mem_nil hmem).elim⟩
        have hids : ((records ++ []).map Record.id).Nodup := by rwa [List.append_nil]
        have hloaded := hempty.foldl hids
        rw [List.append_nil] at hloaded
        exact hloaded.tracks.perm (List.reverse_perm records)

end AlertsCache

open AlertsCache

namespace AlertsState

/-- A read that succeeds returns the alerts of the system as they are in the table. -/
def Coherent (s : AlertsState) : Prop :=
  ∀ systemID ok alerts,
    (s.cache.getSystemAlerts systemID (s.findAllRecords ok)).2 = some alerts →
      (alerts.map CachedAlertData.record).Perm (s.records.filter (·.system = systemID))

structure Sound (s : AlertsState) : Prop where
  ids : (s.records.map (·.id)).Nodup
  range : ∀ record ∈ s.records, 0 ≤ record.min ∧ record.min < 256
  tracks : s.cache.Tracks s.records

/-- Where the save of a record makes an entry, the record is the only one of its system. The cache
never learns of an alert without a system; there is no entry for those, or the record is the one
that was there. -/
def Completes (s : AlertsState) (record : Record) : Prop :=
  (record.system = "" → s.cache.store.lookup "" = none ∨ record ∈ s.records) ∧
    (record.system ≠ "" → (s.cache.store.lookup record.system).isSome ∨
      ∀ other ∈ s.records, other.system = record.system → other.id = record.id)

instance (s : AlertsState) : DecidablePred s.Completes := fun record =>
  inferInstanceAs (Decidable
    ((record.system = "" → s.cache.store.lookup "" = none ∨ record ∈ s.records) ∧
      (record.system ≠ "" → (s.cache.store.lookup record.system).isSome ∨
        ∀ other ∈ s.records, other.system = record.system → other.id = record.id)))

/-- An alert is saved with a `min` that fits, and leaves its system a complete entry, if any. -/
def CompletesGuard (s : AlertsState) : AlertsEvent → Prop
  | .create record | .update record =>
      (0 ≤ record.min ∧ record.min < 256) ∧ s.Completes record
  | .delete record => record.system = "" → s.cache.store.lookup "" = none
  | _ => True

instance (s : AlertsState) : DecidablePred s.CompletesGuard
  | .create record | .update record =>
      inferInstanceAs (Decidable ((0 ≤ record.min ∧ record.min < 256) ∧ s.Completes record))
  | .delete record =>
      inferInstanceAs (Decidable (record.system = "" → s.cache.store.lookup "" = none))
  | .populateFromDB _ _ => inferInstanceAs (Decidable True)
  | .getSystemAlerts _ _ => inferInstanceAs (Decidable True)

variable {s t : AlertsState}

theorem Sound.coherent (hsound : s.Sound) : s.Coherent := by
  intro systemID ok alerts hread
  rw [getSystemAlerts_snd, Option.map_eq_some_iff] at hread
  obtain ⟨systemStore, hlookup, rfl⟩ := hread
  have hholds := hsound.tracks.getSystemAlerts hsound.ids systemID ok systemID systemStore hlookup
  have hrecords : ((s.records.filter (·.system = systemID)).map populateFromRecord).map
      CachedAlertData.record = s.records.filter (·.system = systemID) := by
    rw [List.map_map]
    refine (List.map_congr_left fun record hrecord => ?_).trans (List.map_id _)
    obtain ⟨hpos, hlt⟩ := hsound.range record (List.mem_of_mem_filter hrecord)
    exact record_populateFromRecord hpos hlt
  rw [← hrecords]
  exact hholds.alerts.map _

theorem Sound.save {record : Record} (hsound : s.Sound)
    (hsame : ∀ other ∈ s.records, other.id = record.id → other.system = record.system)
    (hmin : 0 ≤ record.min ∧ record.min < 256) (hcompletes : s.Completes record) :
    (s.save record).Sound := by
  have hids : ((s.save record).records.map (·.id)).Nodup := by
    rw [AlertsState.save, List.map_cons, List.nodup_cons]
    refine ⟨fun hmem => ?_, hsound.ids.sublist (List.filter_sublist.map _)⟩
    obtain ⟨other, hother, hid⟩ := List.mem_map.mp hmem
    simpa [hid] using (List.mem_filter.mp hother).2
  refine ⟨hids, fun other hother => ?_, ?_⟩
  · obtain rfl | hmem := List.mem_cons.mp hother
    · exact hmin
    · exact hsound.range other (List.mem_of_mem_filter hmem)
  · by_cases hne : record.system = ""
    · have hupdate : s.cache.update record = s.cache := if_pos hne
      rw [AlertsState.save, hupdate]
      obtain hnone | hmem := hcompletes.1 hne
      · intro systemID systemStore hlookup
        have hother : systemID ≠ record.system := by
          rintro rfl
          rw [hne, hnone] at hlookup
          cases hlookup
        rw [List.filter_cons_of_neg (by simpa using Ne.symm hother),
          filter_system_of_ne hsame hother]
        exact hsound.tracks systemID systemStore hlookup
      · have hrest : s.records.erase record = s.records.filter (·.id ≠ record.id) := by
          rw [List.Nodup.erase_eq_filter hsound.ids.of_map]
          refine List.filter_congr fun other hother => ?_
          have hiff : other = record ↔ other.id = record.id :=
            ⟨congrArg _, fun hid => List.inj_on_of_nodup_map hsound.ids hother hmem hid⟩
          rw [Bool.eq_iff_iff, bne_iff_ne, decide_eq_true_eq, Ne, Ne, hiff]
        rw [← hrest]
        exact hsound.tracks.perm (List.perm_cons_erase hmem)
    · exact hsound.tracks.update hsame hne (hcompletes.2 hne)

theorem Sound.step {e : AlertsEvent} (hsound : s.Sound) (hguard : s.CompletesGuard e)
    (hstep : s.step e = some t) : t.Sound := by
  cases e with
  | create record =>
      rw [AlertsState.step, Option.ite_none_right_eq_some] at hstep
      obtain ⟨⟨hfresh, -⟩, heq⟩ := hstep
      obtain rfl := Option.some.inj heq
      exact hsound.save (fun other hother hid => (hfresh other hother hid).elim) hguard.1 hguard.2
  | update record =>
      rw [AlertsState.step, Option.ite_none_right_eq_some] at hstep
      obtain ⟨⟨⟨old, hold, hid, hsystem⟩, -⟩, heq⟩ := hstep
      obtain rfl := Option.some.inj heq
      refine hsound.save (fun other hother hid' => ?_) hguard.1 hguard.2
      rw [List.inj_on_of_nodup_map hsound.ids hother hold (hid'.trans hid.symm), hsystem]
  | delete record =>
      rw [AlertsState.step, Option.ite_none_right_eq_some] at hstep
      obtain ⟨hmem, heq⟩ := hstep
      obtain rfl := Option.some.inj heq
      refine ⟨hsound.ids.sublist (List.filter_sublist.map _), fun other hother =>
        hsound.range other (List.mem_of_mem_filter hother), ?_⟩
      refine hsound.tracks.delete (fun other hother hid => ?_) hguard
      rw [List.inj_on_of_nodup_map hsound.ids hother hmem hid]
  | populateFromDB force ok =>
      obtain rfl := Option.some.inj hstep
      exact ⟨hsound.ids, hsound.range, hsound.tracks.populateFromDB hsound.ids force ok⟩
  | getSystemAlerts systemID ok =>
      obtain rfl := Option.some.inj hstep
      exact ⟨hsound.ids, hsound.range, hsound.tracks.getSystemAlerts hsound.ids systemID ok⟩

/-- A read while the table can be queried, and what is known of it in a coherent state. -/
theorem Coherent.entry (hcoherent : s.Coherent) {systemID : String} {systemStore : SystemStore}
    (hlookup : s.cache.store.lookup systemID = some systemStore) :
    (systemStore.map fun entry => entry.2.record).Perm
      (s.records.filter (·.system = systemID)) := by
  have hread : (s.cache.getSystemAlerts systemID (s.findAllRecords true)).2 =
      some (systemStore.map Prod.snd) := by
    rw [AlertsCache.getSystemAlerts.eq_def, hlookup]
  have hperm := hcoherent systemID true _ hread
  rwa [List.map_map] at hperm

theorem Coherent.range (hcoherent : s.Coherent) {record : Record} (hmem : record ∈ s.records) :
    0 ≤ record.min ∧ record.min < 256 := by
  have hread : ∃ alerts, (s.cache.getSystemAlerts record.system (s.findAllRecords true)).2 =
      some alerts := by
    rw [AlertsCache.getSystemAlerts.eq_def]
    split
    · exact ⟨_, rfl⟩
    · exact ⟨_, rfl⟩
  obtain ⟨alerts, hread⟩ := hread
  have hperm := hcoherent record.system true alerts hread
  have hrecord := hperm.mem_iff.mpr (List.mem_filter.mpr ⟨hmem, by simp⟩)
  obtain ⟨alert, -, rfl⟩ := List.mem_map.mp hrecord
  have hlt := alert.min.toNat_lt
  rw [CachedAlertData.record]
  dsimp only
  omega

theorem completes_of_coherent {record : Record} (hsound : s.Sound)
    (hcoherent : (s.save record).Coherent) : s.Completes record := by
  constructor
  · intro hne
    cases hentry : s.cache.store.lookup "" with
    | none => exact Or.inl rfl
    | some systemStore =>
        have hupdate : (s.save record).cache = s.cache := if_pos hne
        have hbefore := hsound.coherent.entry hentry
        have hafter := hcoherent.entry (hupdate ▸ hentry)
        have hmem : record ∈ (s.save record).records.filter (·.system = "") :=
          List.mem_filter.mpr ⟨List.mem_cons_self, by simpa using hne⟩
        have hmem' := hbefore.mem_iff.mp (hafter.mem_iff.mpr hmem)
        exact Or.inr (List.mem_of_mem_filter hmem')
  · intro hne
    cases hentry : s.cache.store.lookup record.system with
    | some systemStore => exact Or.inl rfl
    | none =>
        -- the entry that the save makes has one alert, and so has the system
        have hafter : (s.save record).cache.store.lookup record.system =
            some [(record.id, populateFromRecord record)] := by
          rw [AlertsState.save, AlertsCache.update, if_neg hne, lookup_insert, if_pos rfl, hentry]
          rfl
        have hlength := (hcoherent.entry hafter).length_eq
        rw [AlertsState.save, List.filter_cons_of_pos (by simp), List.map_singleton,
          List.length_singleton, List.length_cons, Nat.right_eq_add, List.length_eq_zero_iff,
          List.filter_eq_nil_iff] at hlength
        refine Or.inr fun other hother hsystem => ?_
        by_contra hid
        exact hlength other (List.mem_filter.mpr ⟨hother, by simpa using hid⟩)
          (by simpa using hsystem)

theorem completesGuard_iff {e : AlertsEvent} (hsound : s.Sound) (hstep : s.step e = some t) :
    s.CompletesGuard e ↔ t.Coherent := by
  refine ⟨fun hguard => (hsound.step hguard hstep).coherent, fun hcoherent => ?_⟩
  cases e with
  | create record | update record =>
      rw [AlertsState.step, Option.ite_none_right_eq_some] at hstep
      obtain rfl := Option.some.inj hstep.2
      exact ⟨hcoherent.range List.mem_cons_self, completes_of_coherent hsound hcoherent⟩
  | delete record =>
      rw [AlertsState.step, Option.ite_none_right_eq_some] at hstep
      obtain ⟨hmem, heq⟩ := hstep
      obtain rfl := Option.some.inj heq
      intro hne
      by_contra hentry
      obtain ⟨systemStore, hentry⟩ := Option.ne_none_iff_exists'.mp hentry
      have hdelete : s.cache.delete record = s.cache := if_pos hne
      have hbefore := hsound.coherent.entry hentry
      have hafter := hcoherent.entry (hdelete ▸ hentry)
      have hrecord := hbefore.mem_iff.mpr (List.mem_filter.mpr ⟨hmem, by simpa using hne⟩)
      have hgone := List.mem_of_mem_filter (hafter.mem_iff.mp hrecord)
      simpa using (List.mem_filter.mp hgone).2
  | populateFromDB force ok => trivial
  | getSystemAlerts systemID ok => trivial

end AlertsState

/-- **The cache is coherent as long as it makes complete entries.** The process starts with some
table, and with nothing in the cache. -/
theorem coherent_iff_guarded {records : List Record} {s : AlertsState} {es : List AlertsEvent}
    (hids : (records.map (·.id)).Nodup)
    (hrun : run AlertsState.step { records := records } es = some s) :
    (∀ before t, before <+: es → run AlertsState.step { records := records } before = some t →
      t.Coherent) ↔
      (∀ record ∈ records, 0 ≤ record.min ∧ record.min < 256) ∧
        Guarded AlertsState.step AlertsState.CompletesGuard { records := records } es s := by
  have hrule (hrange : ∀ record ∈ records, 0 ≤ record.min ∧ record.min < 256) :=
    guarded_iff_throughout AlertsState.Sound (fun _ hsound => hsound.coherent)
      (fun _ _ _ hsound hstep => AlertsState.completesGuard_iff hsound hstep)
      (fun _ _ _ hsound hstep hcoherent =>
        hsound.step ((AlertsState.completesGuard_iff hsound hstep).mpr hcoherent) hstep)
      ⟨hids, hrange, fun _ _ hlookup => by cases hlookup⟩ hrun
  constructor
  · intro hall
    have hstart := hall [] { records := records } List.nil_prefix rfl
    have hrange : ∀ record ∈ records, 0 ≤ record.min ∧ record.min < 256 :=
      fun record hrecord => hstart.range hrecord
    exact ⟨hrange, (hrule hrange).mpr hall⟩
  · rintro ⟨hrange, hguarded⟩
    exact (hrule hrange).mp hguarded

def cpuAlert (min : ℤ) : Record where
  id := "a"
  system := "web"
  name := "CPU"
  value := 80
  triggered := false
  min := min

def diskAlert : Record :=
  { cpuAlert 5 with id := "b", name := "Disk" }

/-- The population fails at first; a read loads the entry that later changes keep. -/
def lateLoad : List AlertsEvent :=
  [.populateFromDB true false, .getSystemAlerts "web" false, .getSystemAlerts "web" true,
    .create diskAlert, .update (cpuAlert 20), .populateFromDB false true, .delete diskAlert]

theorem coherent_lateLoad :
    (run AlertsState.step { records := [cpuAlert 10] } lateLoad).isSome ∧
      ∀ before t, before <+: lateLoad →
        run AlertsState.step { records := [cpuAlert 10] } before = some t → t.Coherent := by
  have hguarded : Guarded AlertsState.step AlertsState.CompletesGuard { records := [cpuAlert 10] }
      lateLoad
      ⟨[cpuAlert 20], ⟨[("web", [("a", populateFromRecord (cpuAlert 20))])], true⟩⟩ :=
    guarded_of_check (by decide +kernel)
  exact ⟨by rw [hguarded.run_eq]; rfl,
    (coherent_iff_guarded (by decide) hguarded.run_eq).mpr ⟨by decide, hguarded⟩⟩

/-- The population fails, and the next change makes an entry with one of two alerts. -/
def changedUnloaded : List AlertsEvent :=
  [.populateFromDB true false, .create diskAlert]

theorem not_coherent : ¬ ∀ (records : List Record) (es : List AlertsEvent) (s : AlertsState),
    (records.map (·.id)).Nodup → run AlertsState.step { records := records } es = some s →
      s.Coherent := by
  intro hall
  have hrun : run AlertsState.step { records := [cpuAlert 10] } changedUnloaded = some
      ⟨[diskAlert, cpuAlert 10], ⟨[("web", [("b", populateFromRecord diskAlert)])], false⟩⟩ := by
    decide +kernel
  have hcoherent := hall _ _ _ (by decide) hrun
  have hread := hcoherent "web" true [populateFromRecord diskAlert] rfl
  cases hread.length_eq

end Picket
