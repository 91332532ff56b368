import Picket.Lib.KeyedFold
import Picket.Lib.Transition
import Picket.SystemStores

/-!
# The stores as views of the systems by id

The stores of the statuses follow the store by id through its listener. The store by name is written
beside it, under the names in the event; so it goes wrong where the name that a system had is not
among those, or one of them is the name of another system.
-/

namespace Picket

open Transition AssocList

/-! ### Names and ids -/

/-- By name there are exactly the systems that there are by id. -/
def NamesMatch (byName byId : String → Option SystemRecord) : Prop :=
  ∀ name system, byName name = some system ↔ ∃ id, byId id = some system ∧ system.name = name

/-- What there is under some keys is replaced. -/
def replaced (keys : List String) (key : SystemRecord → String) (systems : List SystemRecord)
    (store : String → Option SystemRecord) (k : String) : Option SystemRecord :=
  if k ∈ keys then systems.find? (key · = k) else store k

theorem mem_of_find? {key : SystemRecord → String} {systems : List SystemRecord} {k : String}
    {system : SystemRecord} (hfind : systems.find? (key · = k) = some system) :
    system ∈ systems ∧ key system = k :=
  ⟨List.mem_of_find?_eq_some hfind, by simpa using List.find?_some hfind⟩

/-- Names still match if and only if the systems whose names are replaced are those whose ids
are. -/
theorem namesMatch_replaced_iff {byName byId : String → Option SystemRecord}
    (hmatch : NamesMatch byName byId) (hid : ∀ id system, byId id = some system → system.id = id)
    {names ids : List String} {systems : List SystemRecord}
    (hnames : (systems.map (·.name)).Nodup) (hids : (systems.map (·.id)).Nodup)
    (hname : ∀ system ∈ systems, system.name ∈ names ∧ system.id ∈ ids) :
    NamesMatch (replaced names (·.name) systems byName) (replaced ids (·.id) systems byId) ↔
      ∀ id system, byId id = some system → (id ∈ ids ↔ system.name ∈ names) := by
  constructor
  · intro hafter id system hsystem
    have hbefore := (hmatch system.name system).mpr ⟨id, hsystem, rfl⟩
    constructor
    · intro hmem
      by_contra hnot
      -- it is still there by name, with another record or none by id
      have hkept : replaced names (·.name) systems byName system.name = some system := by
        rwa [replaced, if_neg hnot]
      obtain ⟨id', hid', -⟩ := (hafter system.name system).mp hkept
      rw [replaced] at hid'
      split at hid'
      · exact hnot (hname system (mem_of_find? hid').1).1
      case isFalse hother =>
        exact hother ((hid _ _ hid').symm.trans (hid _ _ hsystem) ▸ hmem)
    · intro hmem
      by_contra hnot
      have hkept : replaced ids (·.id) systems byId id = some system := by
        rwa [replaced, if_neg hnot]
      have hafter' := (hafter system.name system).mpr ⟨id, hkept, rfl⟩
      rw [replaced, if_pos hmem] at hafter'
      have hin := (hname system (mem_of_find? hafter').1).2
      rw [hid _ _ hsystem] at hin
      exact hnot hin
  · intro hsame name system
    constructor
    · intro hlookup
      rw [replaced] at hlookup
      split at hlookup
      · obtain ⟨hmem, rfl⟩ := mem_of_find? hlookup
        refine ⟨system.id, ?_, rfl⟩
        rw [replaced, if_pos (hname system hmem).2]
        exact (KeyedFold.find?_eq_some_iff hids).mpr ⟨hmem, rfl⟩
      case isFalse hnot =>
        obtain ⟨id, hsystem, rfl⟩ := (hmatch name system).mp hlookup
        refine ⟨id, ?_, rfl⟩
        rwa [replaced, if_neg fun hmem => hnot ((hsame id system hsystem).mp hmem)]
    · rintro ⟨id, hlookup, rfl⟩
      rw [replaced] at hlookup
      split at hlookup
      · obtain ⟨hmem, rfl⟩ := mem_of_find? hlookup
        rw [replaced, if_pos (hname system hmem).1]
        exact (KeyedFold.find?_eq_some_iff hnames).mpr ⟨hmem, rfl⟩
      case isFalse hnot =>
        rw [replaced, if_neg fun hmem => hnot ((hsame id system hlookup).mpr hmem)]
        exact (hmatch system.name system).mpr ⟨id, hlookup, rfl⟩

namespace SystemStores

/-- The store of a status; there is none for pending systems. -/
def ofStatus (s : SystemStores) : Status → SystemStore
  | .up => s.upSystems
  | .down => s.downSystems
  | .paused => s.pausedSystems
  | .pending => []

structure Consistent (s : SystemStores) : Prop where
  byName : ∀ name system, s.allSystemsByName.lookup name = some system ↔
    ∃ id, s.allSystemsById.lookup id = some system ∧ system.name = name
  byStatus : ∀ status, status ≠ .pending → ∀ id system,
    (s.ofStatus status).lookup id = some system ↔
      s.allSystemsById.lookup id = some system ∧ system.status = status

/-- What holds whatever happens to names. -/
structure Views (s : SystemStores) : Prop where
  nodup : (s.allSystemsById.map Prod.fst).Nodup
  ids : ∀ id system, s.allSystemsById.lookup id = some system → system.id = id
  byStatus : ∀ status, status ≠ .pending → ∀ id system,
    (s.ofStatus status).lookup id = some system ↔
      s.allSystemsById.lookup id = some system ∧ system.status = status

variable {s t : SystemStores}

/-! ### One system is set -/

theorem lookup_setKey (store : SystemStore) (key k : String) (system : Option SystemRecord) :
    (store.setKey key system).lookup k = if k = key then system else store.lookup k := by
  cases system with
  | none => exact lookup_delete key k store
  | some system => exact lookup_insert key k system store

theorem nodup_setKey {store : SystemStore} (hnodup : (store.map Prod.fst).Nodup) (key : String)
    (system : Option SystemRecord) : ((store.setKey key system).map Prod.fst).Nodup := by
  cases system with
  | none => exact nodup_delete hnodup key
  | some system => exact nodup_insert hnodup key system

theorem lookup_onStatus (s : SystemStores) (new : SystemRecord) {status : Status}
    (hstatus : status ≠ .pending) (k : String) :
    ((s.onStatus new).ofStatus status).lookup k =
      if k = new.id then (some new).filter (·.status = status)
      else (s.ofStatus status).lookup k := by
  rw [onStatus.eq_def]
  cases hnew : new.status <;> cases status <;>
    simp [ofStatus, SystemStore.removeFromStore, lookup_setKey, hnew, Option.filter] at hstatus ⊢

theorem byId_onStatus (s : SystemStores) (new : SystemRecord) :
    (s.onStatus new).allSystemsById = s.allSystemsById ∧
      (s.onStatus new).allSystemsByName = s.allSystemsByName := by
  rw [onStatus.eq_def]
  cases new.status <;> exact ⟨rfl, rfl⟩

/-- A system that is set is passed on to the stores of the statuses. -/
theorem setSystem_some (s : SystemStores) {new : SystemRecord} (hne : new.id ≠ "") :
    s.setSystem new.id (some new) =
      onStatus { s with allSystemsById := s.allSystemsById.setKey new.id (some new) } new := by
  rw [setSystem, if_neg (by simp)]
  cases s.allSystemsById.lookup new.id with
  | none => rfl
  | some old =>
      dsimp only [onRemoved]
      rw [if_neg (by simpa using hne)]

/-- One that is removed is taken out of them. -/
theorem setSystem_none {s : SystemStores} {old : SystemRecord}
    (hold : s.allSystemsById.lookup old.id = some old) :
    s.setSystem old.id none =
      { s with
        allSystemsById := (s.allSystemsById.setKey old.id none).removeFromStore old
        upSystems := s.upSystems.removeFromStore old
        downSystems := s.downSystems.removeFromStore old
        pausedSystems := s.pausedSystems.removeFromStore old } := by
  rw [setSystem, hold, if_neg (by simp)]
  rfl

theorem setSystem_absent {s : SystemStores} {key : String}
    (hold : s.allSystemsById.lookup key = none) : s.setSystem key none = s :=
  if_pos ⟨hold, rfl⟩

theorem Views.lookup_setSystem (h : s.Views) {key : String} {system : Option SystemRecord}
    (hkey : ∀ new ∈ system, new.id = key ∧ new.id ≠ "") (k : String) :
    (s.setSystem key system).allSystemsById.lookup k =
        (if k = key then system else s.allSystemsById.lookup k) ∧
      ∀ status, status ≠ .pending → ((s.setSystem key system).ofStatus status).lookup k =
        if k = key then system.filter (·.status = status)
        else (s.ofStatus status).lookup k := by
  cases system with
  | none =>
      cases hold : s.allSystemsById.lookup key with
      | none =>
          rw [setSystem_absent hold]
          refine ⟨?_, fun status hstatus => ?_⟩
          · split
            case isTrue heq => rw [heq, hold]
            case isFalse => rfl
          · split
            case isTrue heq =>
              subst heq
              refine Option.eq_none_iff_forall_ne_some.mpr fun system hlookup => ?_
              have hid := ((h.byStatus status hstatus k system).mp hlookup).1
              rw [hold] at hid
              cases hid
            case isFalse => rfl
      | some old =>
          obtain rfl := h.ids key old hold
          rw [setSystem_none hold]
          refine ⟨?_, fun status hstatus => ?_⟩
          · simp only [SystemStore.removeFromStore, lookup_setKey]
            split <;> rfl
          · cases status with
            | pending => exact absurd rfl hstatus
            | _ => simp [ofStatus, SystemStore.removeFromStore, lookup_setKey]
  | some new =>
      obtain ⟨rfl, hne⟩ := hkey new rfl
      rw [setSystem_some s hne]
      refine ⟨?_, fun status hstatus => ?_⟩
      · rw [(byId_onStatus _ new).1]
        exact lookup_setKey s.allSystemsById new.id k (some new)
      · rw [lookup_onStatus _ new hstatus]
        cases status <;> rfl

theorem allSystemsByName_setSystem (h : s.Views) {key : String} {system : Option SystemRecord}
    (hkey : ∀ new ∈ system, new.id = key ∧ new.id ≠ "") :
    (s.setSystem key system).allSystemsByName = s.allSystemsByName := by
  cases system with
  | none =>
      cases hold : s.allSystemsById.lookup key with
      | none => rw [setSystem_absent hold]
      | some old =>
          obtain rfl := h.ids key old hold
          rw [setSystem_none hold]
  | some new =>
      obtain ⟨rfl, hne⟩ := hkey new rfl
      rw [setSystem_some s hne, (byId_onStatus _ new).2]

theorem Views.setSystem (h : s.Views) {key : String} {system : Option SystemRecord}
    (hkey : ∀ new ∈ system, new.id = key ∧ new.id ≠ "") : (s.setSystem key system).Views := by
  have hlookup := fun k => h.lookup_setSystem hkey k
  refine ⟨?_, fun id new hnew => ?_, fun status hstatus id new => ?_⟩
  · cases system with
    | none =>
        cases hold : s.allSystemsById.lookup key with
        | none =>
            rw [setSystem_absent hold]
            exact h.nodup
        | some old =>
            obtain rfl := h.ids key old hold
            rw [setSystem_none hold]
            exact nodup_setKey (nodup_setKey h.nodup old.id none) old.id none
    | some new =>
        obtain ⟨rfl, hne⟩ := hkey new rfl
        rw [setSystem_some s hne, (byId_onStatus _ new).1]
        exact nodup_setKey h.nodup new.id (some new)
  · rw [(hlookup id).1] at hnew
    split at hnew
    case isTrue heq => exact (hkey new hnew).1.trans heq.symm
    case isFalse => exact h.ids id new hnew
  · rw [(hlookup id).1, (hlookup id).2 status hstatus]
    split
    · simp [Option.filter_eq_some_iff]
    · exact h.byStatus status hstatus id new

end SystemStores

/-! ### What an event replaces -/

namespace SystemsEvent

/-- The systems that it stores. -/
def systems : SystemsEvent → List SystemRecord
  | .create system | .update system => [system].filter (·.hasCpu)
  | .delete _ => []
  | .refresh records => records.filter (·.hasCpu)

/-- The ids under which it stores them, or that it removes. -/
def ids : SystemsEvent → List String
  | .delete system => [system.id]
  | e => e.systems.map (·.id)

/-- The names under which it stores them, or that it removes. -/
def names (s : SystemStores) : SystemsEvent → List String
  | .delete system => [system.name]
  | .update system =>
      if system.hasCpu then
        [((s.allSystemsById.lookup system.id).map (·.name)).getD "undefined", system.name]
      else []
  | e => e.systems.map (·.name)

end SystemsEvent

theorem replaced_cons {key : SystemRecord → String} {system : SystemRecord}
    {systems : List SystemRecord} (hnew : key system ∉ systems.map key)
    (store : String → Option SystemRecord) (k : String) :
    replaced (systems.map key) key systems (replaced [key system] key [system] store) k =
      replaced ((system :: systems).map key) key (system :: systems) store k := by
  simp only [replaced, List.map_cons, List.mem_cons, List.not_mem_nil, or_false, List.find?_cons,
    List.find?_nil]
  by_cases hk : k = key system
  · subst hk
    simp [hnew]
  · simp [hk, Ne.symm hk]

theorem replaced_singleton (key : SystemRecord → String) (system : SystemRecord)
    (store : String → Option SystemRecord) (k : String) :
    replaced [key system] key [system] store k =
      if k = key system then some system else store k := by
  by_cases hk : k = key system
  · simp [replaced, hk]
  · simp [replaced, hk]

/-- The stores after some systems were replaced. -/
structure Replaces (s t : SystemStores) (names ids : List String) (systems : List SystemRecord) :
    Prop where
  byName : ∀ name, t.allSystemsByName.lookup name =
    replaced names (·.name) systems (s.allSystemsByName.lookup ·) name
  byId : ∀ id, t.allSystemsById.lookup id =
    replaced ids (·.id) systems (s.allSystemsById.lookup ·) id
  views : t.Views

namespace SystemStores

variable {s t : SystemStores}

theorem replaces_add (h : s.Views) {system : SystemRecord} (hid : system.id ≠ "")
    (hcpu : system.hasCpu) : Replaces s (s.add system) [system.name] [system.id] [system] := by
  let s' : SystemStores :=
    { s with allSystemsByName := s.allSystemsByName.setKey system.name (some system) }
  have hviews : s'.Views := ⟨h.nodup, h.ids, h.byStatus⟩
  have hkey : ∀ new ∈ some system, new.id = system.id ∧ new.id ≠ "" := by
    rintro new ⟨⟩
    exact ⟨rfl, hid⟩
  rw [add, if_pos hcpu]
  refine ⟨fun name => ?_, fun id => ?_, hviews.setSystem hkey⟩
  · rw [allSystemsByName_setSystem hviews hkey, lookup_setKey,
      replaced_singleton fun system => system.name]
  · rw [(hviews.lookup_setSystem hkey id).1, replaced_singleton fun system => system.id]

theorem replaces_refresh (h : s.Views) {records : List SystemRecord}
    (hid : ∀ system ∈ records, system.id ≠ "") (hids : (records.map (·.id)).Nodup)
    (hnames : (records.map (·.name)).Nodup) :
    Replaces s (s.refresh records) ((records.filter (·.hasCpu)).map (·.name))
      ((records.filter (·.hasCpu)).map (·.id)) (records.filter (·.hasCpu)) := by
  induction records generalizing s with
  | nil => exact ⟨fun _ => rfl, fun _ => rfl, h⟩
  | cons system records ih =>
      rw [List.map_cons, List.nodup_cons] at hids hnames
      have hrest : ∀ other ∈ records, other.id ≠ "" :=
        fun other hmem => hid other (List.mem_cons_of_mem _ hmem)
      rw [refresh, List.foldl_cons, ← refresh]
      by_cases hcpu : system.hasCpu
      · have hadd := replaces_add h (hid system List.mem_cons_self) hcpu
        have htail := ih hadd.views hrest hids.2 hnames.2
        have hsub : ∀ key : SystemRecord → String, key system ∉ records.map key →
            key system ∉ (records.filter (·.hasCpu)).map key :=
          fun key hnot hmem => hnot ((List.filter_sublist.map key).subset hmem)
        rw [List.filter_cons_of_pos hcpu]
        refine ⟨fun name => ?_, fun id => ?_, htail.views⟩
        · rw [htail.byName, funext hadd.byName, replaced_cons (hsub _ hnames.1)]
        · rw [htail.byId, funext hadd.byId, replaced_cons (hsub _ hids.1)]
      · rw [List.filter_cons_of_neg hcpu, add, if_neg hcpu]
        exact ih h hrest hids.2 hnames.2

theorem replaces_update (h : s.Views) {system : SystemRecord} (hid : system.id ≠ "")
    (hcpu : system.hasCpu) :
    Replaces s (s.update system)
      [((s.allSystemsById.lookup system.id).map (·.name)).getD "undefined", system.name]
      [system.id] [system] := by
  rw [update, if_pos hcpu]
  dsimp only
  generalize hold : (s.allSystemsById.lookup system.id).map (·.name) = oldName
  split
  · let s' : SystemStores :=
      { s with allSystemsByName := s.allSystemsByName.setKey (oldName.getD "undefined") none }
    have hviews : s'.Views := ⟨h.nodup, h.ids, h.byStatus⟩
    have hadd := replaces_add hviews hid hcpu
    refine ⟨fun name => ?_, hadd.byId, hadd.views⟩
    rw [hadd.byName, replaced_singleton fun system => system.name, replaced, lookup_setKey]
    by_cases hname : name = system.name
    · simp [hname]
    · simp [hname, Ne.symm hname]
  case isFalse hsame =>
    have hadd := replaces_add h hid hcpu
    rw [not_not.mp hsame]
    refine ⟨fun name => ?_, hadd.byId, hadd.views⟩
    rw [hadd.byName, replaced, replaced]
    simp

theorem replaces_remove (h : s.Views) (system : SystemRecord) :
    Replaces s (s.remove system) [system.name] [system.id] [] := by
  let s' : SystemStores :=
    { s with allSystemsByName := s.allSystemsByName.setKey system.name none }
  have hviews : s'.Views := ⟨h.nodup, h.ids, h.byStatus⟩
  have hkey : ∀ new ∈ (none : Option SystemRecord), new.id = system.id ∧ new.id ≠ "" := nofun
  have hset := hviews.setSystem hkey
  have hgone : (s'.setSystem system.id none).allSystemsById.lookup system.id = none := by
    rw [(hviews.lookup_setSystem hkey system.id).1, if_pos rfl]
  refine ⟨fun name => ?_, fun id => ?_, ?_⟩
  · have hname := allSystemsByName_setSystem hviews hkey
    rw [remove, hname, lookup_setKey, replaced]
    simp
  · have hid := (hviews.lookup_setSystem hkey id).1
    rw [remove, hid, replaced]
    exact if_congr (by simp) rfl rfl
  · -- what is removed once more is not there
    refine ⟨hset.nodup, hset.ids, fun status hstatus id other => ?_⟩
    have hlookup : ((s.remove system).ofStatus status).lookup id =
        if id = system.id then none
        else ((s'.setSystem system.id none).ofStatus status).lookup id := by
      cases status with
      | pending => exact absurd rfl hstatus
      | _ => exact lookup_setKey _ system.id id none
    rw [hlookup]
    split
    case isTrue heq =>
      subst heq
      refine iff_of_false nofun fun hafter => ?_
      have hid := hgone.symm.trans hafter.1
      cases hid
    case isFalse => exact hset.byStatus status hstatus id other

theorem replaces_step (h : s.Views) {e : SystemsEvent} (hstep : s.step e = some t) :
    Replaces s t (e.names s) e.ids e.systems ∧ (e.systems.map (·.id)).Nodup ∧
      (e.systems.map (·.name)).Nodup ∧
      ∀ system ∈ e.systems, system.name ∈ e.names s ∧ system.id ∈ e.ids := by
  obtain ⟨hproper, hstep⟩ := Option.ite_none_right_eq_some.mp hstep
  have hunchanged : Replaces s s [] [] [] := ⟨fun _ => rfl, fun _ => rfl, h⟩
  cases e with
  | create system =>
      obtain rfl := Option.some.inj hstep
      by_cases hcpu : system.hasCpu
      · have hsystems : (SystemsEvent.create system).systems = [system] :=
          List.filter_cons_of_pos hcpu
        rw [SystemsEvent.names, SystemsEvent.ids, hsystems]
        · exact ⟨replaces_add h hproper hcpu, List.nodup_singleton _, List.nodup_singleton _,
            by simp⟩
        all_goals nofun
      · have hsystems : (SystemsEvent.create system).systems = [] :=
          List.filter_cons_of_neg hcpu
        rw [SystemsEvent.names, SystemsEvent.ids, hsystems, add, if_neg hcpu]
        · exact ⟨hunchanged, List.nodup_nil, List.nodup_nil, nofun⟩
        all_goals nofun
  | update system =>
      obtain rfl := Option.some.inj hstep
      by_cases hcpu : system.hasCpu
      · have hsystems : (SystemsEvent.update system).systems = [system] :=
          List.filter_cons_of_pos hcpu
        rw [SystemsEvent.names, SystemsEvent.ids, hsystems, if_pos hcpu]
        · exact ⟨replaces_update h hproper hcpu, List.nodup_singleton _, List.nodup_singleton _,
            by simp⟩
        all_goals nofun
      · have hsystems : (SystemsEvent.update system).systems = [] :=
          List.filter_cons_of_neg hcpu
        rw [SystemsEvent.names, SystemsEvent.ids, hsystems, if_neg hcpu, update, if_neg hcpu]
        · exact ⟨hunchanged, List.nodup_nil, List.nodup_nil, nofun⟩
        all_goals nofun
  | delete system =>
      obtain rfl := Option.some.inj hstep
      exact ⟨replaces_remove h system, List.nodup_nil, List.nodup_nil, nofun⟩
  | refresh records =>
      obtain rfl := Option.some.inj hstep
      obtain ⟨hid, hids, hnames⟩ := hproper
      have hsub := List.filter_sublist (l := records) (p := (·.hasCpu))
      exact ⟨replaces_refresh h hid hids hnames, hids.sublist (hsub.map _),
        hnames.sublist (hsub.map _), fun system hmem =>
          ⟨List.mem_map_of_mem hmem, List.mem_map_of_mem hmem⟩⟩

/-- The systems whose names the event replaces or removes are those whose ids it does. -/
def NamesGuard (s : SystemStores) (e : SystemsEvent) : Prop :=
  ∀ entry ∈ s.allSystemsById, entry.1 ∈ e.ids ↔ entry.2.name ∈ e.names s

instance (s : SystemStores) : DecidablePred s.NamesGuard := fun e =>
  inferInstanceAs
    (Decidable (∀ entry ∈ s.allSystemsById, entry.1 ∈ e.ids ↔ entry.2.name ∈ e.names s))

theorem Consistent.namesMatch (h : s.Consistent) :
    NamesMatch (s.allSystemsByName.lookup ·) (s.allSystemsById.lookup ·) :=
  h.byName

theorem namesGuard_iff {e : SystemsEvent} (h : s.Views) (hconsistent : s.Consistent)
    (hstep : s.step e = some t) : s.NamesGuard e ↔ t.Consistent := by
  obtain ⟨hreplaces, hids, hnames, hmem⟩ := replaces_step h hstep
  have hiff := namesMatch_replaced_iff hconsistent.namesMatch h.ids hnames hids hmem
  rw [← funext hreplaces.byName, ← funext hreplaces.byId] at hiff
  have hlookup : ∀ id system,
      s.allSystemsById.lookup id = some system ↔ (id, system) ∈ s.allSystemsById :=
    fun id system => ⟨mem_of_lookup, lookup_of_mem h.nodup⟩
  constructor
  · intro hguard
    refine ⟨hiff.mpr fun id system hsystem => hguard (id, system) (mem_of_lookup hsystem),
      hreplaces.views.byStatus⟩
  · rintro hafter ⟨id, system⟩ hentry
    exact hiff.mp hafter.byName id system (lookup_of_mem h.nodup hentry)

theorem views_init : SystemStores.Views {} := by
  refine ⟨List.nodup_nil, nofun, fun status hstatus id system => ?_⟩
  cases status <;> simp [ofStatus]

theorem consistent_init : SystemStores.Consistent {} :=
  ⟨fun name system => by simp, views_init.byStatus⟩

end SystemStores

/-- **Names stay with their systems.** The stores are consistent throughout exactly those runs in
which every event replaces the names of the systems whose records it replaces, and no others. -/
theorem consistent_iff_guarded {s : SystemStores} {es : List SystemsEvent}
    (hrun : run SystemStores.step {} es = some s) :
    (∀ before t, before <+: es → run SystemStores.step {} before = some t → t.Consistent) ↔
      Guarded SystemStores.step SystemStores.NamesGuard {} es s :=
  (guarded_iff_throughout (fun s : SystemStores => s.Views ∧ s.Consistent) (fun _ hinv => hinv.2)
    (fun _ _ _ hinv hstep => SystemStores.namesGuard_iff hinv.1 hinv.2 hstep)
    (fun _ _ _ hinv hstep hafter => ⟨(SystemStores.replaces_step hinv.1 hstep).1.views, hafter⟩)
    ⟨SystemStores.views_init, SystemStores.consistent_init⟩ hrun).symm

/-- Two systems swap their names by way of a third; then one of them is deleted. -/
def swapNames : List SystemsEvent :=
  [.create ⟨"s1", "web", .pending, true⟩, .create ⟨"s2", "db", .up, true⟩,
    .update ⟨"s1", "tmp", .up, true⟩, .update ⟨"s2", "web", .down, true⟩,
    .update ⟨"s1", "db", .up, true⟩,
    .refresh [⟨"s1", "db", .paused, true⟩, ⟨"s2", "web", .down, true⟩],
    .delete ⟨"s2", "web", .down, true⟩]

theorem consistent_swapNames : (run SystemStores.step {} swapNames).isSome ∧
    ∀ before t, before <+: swapNames → run SystemStores.step {} before = some t →
      t.Consistent := by
  have hcheck : check SystemStores.step SystemStores.NamesGuard {} swapNames = some
      { allSystemsByName := [("db", ⟨"s1", "db", .paused, true⟩)]
        allSystemsById := [("s1", ⟨"s1", "db", .paused, true⟩)]
        pausedSystems := [("s1", ⟨"s1", "db", .paused, true⟩)] } := by
    decide +kernel
  have hguarded := guarded_of_check hcheck
  exact ⟨by rw [hguarded.run_eq]; rfl, (consistent_iff_guarded hguarded.run_eq).mpr hguarded⟩

/-- The name of a system changes while nobody listens; a refresh follows. -/
def missedRename : List SystemsEvent :=
  [.refresh [⟨"s1", "web", .up, true⟩], .refresh [⟨"s1", "db", .up, true⟩]]

theorem not_consistent : ¬ ∀ (es : List SystemsEvent) (s : SystemStores),
    run SystemStores.step {} es = some s → s.Consistent := by
  intro hall
  have hrun : run SystemStores.step {} missedRename = some
      { allSystemsByName := [("db", ⟨"s1", "db", .up, true⟩), ("web", ⟨"s1", "web", .up, true⟩)]
        allSystemsById := [("s1", ⟨"s1", "db", .up, true⟩)]
        upSystems := [("s1", ⟨"s1", "db", .up, true⟩)] } := by
    decide +kernel
  obtain ⟨id, hid, -⟩ := ((hall _ _ hrun).byName "web" ⟨"s1", "web", .up, true⟩).mp rfl
  have hmem := mem_of_lookup hid
  simp at hmem

end Picket
