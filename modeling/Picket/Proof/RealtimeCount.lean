import Mathlib.Algebra.Order.Ring.Int
import Mathlib.Algebra.BigOperators.Group.List.Basic
import Picket.RealtimeClients
import Picket.Lib.Transition

/-!
# Counting realtime subscriptions

The count of a system is kept modulo 256, and removal looks at zero only. So an entry stands for up
to 256 subscriptions, of which it shows the last as none; one more, and the entry goes when the
count comes down to 256.
-/

namespace Picket

open Transition AssocList

section Query

variable (query : String → String)

/-- The key is one of a realtime subscription for the system. -/
def watches (systemId key : String) : Bool :=
  (⟨key, query key⟩ : Subscription).isRealtime ∧ query key = systemId

namespace RealtimeHub

/-- The pairs of a client and one of its keys for the system. -/
def held (h : RealtimeHub) (systemId : String) : ℕ :=
  (h.clients.map fun entry => entry.2.countP (watches query systemId)).sum

structure Counted (h : RealtimeHub) : Prop where
  entry : ∀ systemId, (h.realtime.activeSubscriptions.lookup systemId).isSome ↔
    ∃ entry ∈ h.clients, ∃ key ∈ entry.2, watches query systemId key
  count : ∀ systemId, ∀ info ∈ h.realtime.activeSubscriptions.lookup systemId,
    info.connectedClients.toNat = h.held query systemId

end RealtimeHub

def addedKeys (oldKeys newKeys : List String) : List String :=
  newKeys.filter (· ∉ oldKeys)

/-- A system for which a request brings new subscriptions has at most 255 of them afterwards, and at
most 256 before those that end are taken away. -/
def CountsGuard (h : RealtimeHub) : ClientEvent → Prop
  | .subscribe _ oldKeys newKeys =>
      ∀ key ∈ addedKeys oldKeys newKeys, (⟨key, query key⟩ : Subscription).isRealtime →
        h.held query (query key) + (addedKeys oldKeys newKeys).countP (watches query (query key))
            ≤ 256 ∧
          h.held query (query key) + (addedKeys oldKeys newKeys).countP (watches query (query key))
            ≤ (addedKeys newKeys oldKeys).countP (watches query (query key)) + 255
  | _ => True

instance (h : RealtimeHub) : DecidablePred (CountsGuard query h)
  | .subscribe _ oldKeys newKeys =>
      inferInstanceAs (Decidable (∀ key ∈ addedKeys oldKeys newKeys, _ → _ ∧ _))
  | .connect _ => inferInstanceAs (Decidable True)
  | .disconnect _ _ => inferInstanceAs (Decidable True)

end Query

/-! ### Counting modulo 256 -/

/-- How many removals it takes until there is no entry. -/
def removals : Option UInt8 → ℕ
  | none => 0
  | some count => if count = 0 then 256 else count.toNat

def lessOne (count : UInt8) : Option UInt8 :=
  if count - 1 ≤ 0 then none else some (count - 1)

theorem removals_le (count : Option UInt8) : removals count ≤ 256 := by
  cases count with
  | none => exact Nat.zero_le _
  | some count =>
      have hlt := count.toNat_lt
      rw [removals]
      split <;> omega

theorem removals_add (count : Option UInt8) :
    removals (some (count.getD 0 + 1)) =
      if removals count = 256 then 1 else removals count + 1 := by
  cases count with
  | none => rfl
  | some count =>
      have hlt := count.toNat_lt
      simp only [removals, Option.getD_some, ← UInt8.toNat_inj, UInt8.toNat_add, UInt8.toNat_zero,
        UInt8.toNat_one]
      grind

theorem removals_bind (count : Option UInt8) :
    removals (count.bind lessOne) = removals count - 1 := by
  cases count with
  | none => rfl
  | some count =>
      have hlt := count.toNat_lt
      simp only [removals, Option.bind_some, lessOne, UInt8.le_iff_toNat_le, ← UInt8.toNat_inj,
        UInt8.toNat_zero]
      have hsub : (count - 1).toNat = if count.toNat = 0 then 255 else count.toNat - 1 := by
        rw [UInt8.toNat_sub]
        simp only [UInt8.toNat_one]
        split <;> omega
      grind

/-! ### The counts of the hub -/

namespace Realtime

def activeCount (r : Realtime) (systemId : String) : Option UInt8 :=
  (r.activeSubscriptions.lookup systemId).map (·.connectedClients)

theorem activeCount_addRealtimeSubscription (r : Realtime) (s : Subscription) (systemId : String) :
    (r.addRealtimeSubscription s).activeCount systemId =
      if s.isRealtime ∧ s.system = systemId then some ((r.activeCount systemId).getD 0 + 1)
      else r.activeCount systemId := by
  have hkept : ∀ r : Realtime,
      r.onRealtimeSubscriptionAdded.activeSubscriptions = r.activeSubscriptions := by
    intro r
    rw [onRealtimeSubscriptionAdded]
    split <;> rfl
  rw [addRealtimeSubscription]
  by_cases hs : s.isRealtime
  · rw [if_pos hs]
    simp only [activeCount, hkept, lookup_insert, hs, true_and]
    by_cases heq : s.system = systemId
    · subst heq
      rw [if_pos rfl, if_pos rfl]
      cases r.activeSubscriptions.lookup s.system <;> rfl
    · rw [if_neg (Ne.symm heq), if_neg heq]
  · rw [if_neg hs, if_neg fun h => hs h.1]

theorem activeCount_removeRealtimeSubscription (r : Realtime) (s : Subscription)
    (systemId : String) :
    (r.removeRealtimeSubscription s).activeCount systemId =
      if s.isRealtime ∧ s.system = systemId then (r.activeCount systemId).bind lessOne
      else r.activeCount systemId := by
  have hkept (r : Realtime) : r.checkSubscriptions.activeSubscriptions = r.activeSubscriptions := by
    rw [checkSubscriptions]
    split <;> rfl
  rw [removeRealtimeSubscription]
  by_cases hs : s.isRealtime
  · rw [if_pos hs]
    simp only [activeCount, hkept, hs, true_and]
    by_cases heq : s.system = systemId
    · subst heq
      rw [if_pos rfl]
      cases hlookup : r.activeSubscriptions.lookup s.system with
      | none => simp [hlookup]
      | some info =>
          simp only [Option.map_some, Option.bind_some, lessOne]
          split
          · rw [lookup_delete, if_pos rfl, Option.map_none]
          · rw [lookup_insert, if_pos rfl, Option.map_some]
    · rw [if_neg heq]
      cases r.activeSubscriptions.lookup s.system with
      | none => rfl
      | some info =>
          dsimp only
          split
          · rw [lookup_delete, if_neg (Ne.symm heq)]
          · rw [lookup_insert, if_neg (Ne.symm heq)]
  · rw [if_neg hs, if_neg fun h => hs h.1]

end Realtime

section Query

variable (query : String → String)

namespace Realtime

theorem removals_adding (keys : List String) (r : Realtime) (systemId : String)
    (hle : removals (r.activeCount systemId) + keys.countP (watches query systemId) ≤ 256) :
    removals (((subscriptions query keys).foldl addRealtimeSubscription r).activeCount systemId) =
      removals (r.activeCount systemId) + keys.countP (watches query systemId) := by
  induction keys generalizing r with
  | nil => rfl
  | cons key keys ih =>
      have hone := activeCount_addRealtimeSubscription r ⟨key, query key⟩ systemId
      rw [List.countP_cons] at hle ⊢
      by_cases hkey : watches query systemId key
      · rw [if_pos (by simpa [watches] using hkey)] at hone
        have hadd := removals_add (r.activeCount systemId)
        rw [← hone, if_neg (by rw [if_pos hkey] at hle; omega)] at hadd
        rw [if_pos hkey] at hle ⊢
        have hrest := ih (r.addRealtimeSubscription ⟨key, query key⟩) (by omega)
        rw [subscriptions, List.map_cons, List.foldl_cons]
        rw [subscriptions] at hrest
        omega
      · rw [if_neg (by simpa [watches] using hkey)] at hone
        rw [if_neg hkey, Nat.add_zero] at hle ⊢
        rw [← hone] at hle ⊢
        exact ih _ hle

theorem removals_removing (keys : List String) (r : Realtime) (systemId : String) :
    removals
        (((subscriptions query keys).foldl removeRealtimeSubscription r).activeCount systemId) =
      removals (r.activeCount systemId) - keys.countP (watches query systemId) := by
  induction keys generalizing r with
  | nil => rfl
  | cons key keys ih =>
      have hone := activeCount_removeRealtimeSubscription r ⟨key, query key⟩ systemId
      have hrest := ih (r.removeRealtimeSubscription ⟨key, query key⟩)
      rw [subscriptions] at hrest
      rw [List.countP_cons, subscriptions, List.map_cons, List.foldl_cons, hrest, hone]
      by_cases hkey : watches query systemId key
      · rw [if_pos (by simpa [watches] using hkey), if_pos hkey, removals_bind]
        omega
      · rw [if_neg (by simpa [watches] using hkey), if_neg hkey, Nat.add_zero]

end Realtime

theorem subscriptions_filter (keys others : List String) :
    (subscriptions query keys).filter
        (fun s => s.name ∉ (subscriptions query others).map (·.name)) =
      subscriptions query (addedKeys others keys) := by
  simp [subscriptions, addedKeys, List.filter_map, Function.comp_def]

end Query

theorem countP_added (p : String → Bool) {keys keys' : List String} (hnodup : keys.Nodup)
    (hnodup' : keys'.Nodup) :
    keys.countP p + (addedKeys keys keys').countP p =
      keys'.countP p + (addedKeys keys' keys).countP p := by
  have hcommon : (keys.filter (· ∈ keys')).Perm (keys'.filter (· ∈ keys)) := by
    refine (List.perm_ext_iff_of_nodup (hnodup.filter _) (hnodup'.filter _)).mpr fun key => ?_
    simp only [List.mem_filter, decide_eq_true_eq]
    exact and_comm
  have hold := List.countP_eq_countP_filter_add keys p (· ∈ keys')
  have hnew := List.countP_eq_countP_filter_add keys' p (· ∈ keys)
  have heq := hcommon.countP_eq p
  simp only [← decide_not] at hold hnew
  simp only [addedKeys]
  omega

section Query

variable (query : String → String)

namespace RealtimeHub

structure Tracked (h : RealtimeHub) : Prop where
  clients : (h.clients.map Prod.fst).Nodup
  keys : ∀ entry ∈ h.clients, entry.2.Nodup
  removals : ∀ systemId, removals (h.realtime.activeCount systemId) = h.held query systemId
  few : ∀ systemId, h.held query systemId ≤ 255

variable {query} {h t : RealtimeHub}

theorem held_pos (systemId : String) : 0 < h.held query systemId ↔
    ∃ entry ∈ h.clients, ∃ key ∈ entry.2, watches query systemId key := by
  rw [held, Nat.pos_iff_ne_zero, Ne, List.sum_eq_zero_iff_forall_eq_nat]
  simp [List.countP_eq_zero]

/-- With the counts as they are, an entry cannot stand for 256. -/
theorem counted_iff : h.Counted query ↔ ∀ systemId,
    removals (h.realtime.activeCount systemId) = h.held query systemId ∧
      h.held query systemId ≤ 255 := by
  constructor
  · intro hcounted systemId
    have hentry := hcounted.entry systemId
    rw [← held_pos] at hentry
    rw [Realtime.activeCount]
    cases hlookup : h.realtime.activeSubscriptions.lookup systemId with
    | none =>
        rw [hlookup] at hentry
        have hzero : ¬ 0 < h.held query systemId := fun hpos => by cases hentry.mpr hpos
        rw [Option.map_none, removals]
        omega
    | some info =>
        rw [hlookup] at hentry
        have hpos := hentry.mp rfl
        have hcount := hcounted.count systemId info hlookup
        have hlt := info.connectedClients.toNat_lt
        have hne : info.connectedClients ≠ 0 := by
          rintro hzero
          rw [hzero] at hcount
          exact Nat.ne_of_lt hpos hcount
        rw [Option.map_some, removals, if_neg hne]
        omega
  · intro hall
    have hcount : ∀ systemId, ∀ info ∈ h.realtime.activeSubscriptions.lookup systemId,
        info.connectedClients ≠ 0 ∧ info.connectedClients.toNat = h.held query systemId := by
      intro systemId info hlookup
      obtain ⟨heq, hle⟩ := hall systemId
      rw [Realtime.activeCount, Option.mem_def.mp hlookup, Option.map_some, removals] at heq
      split at heq
      · omega
      · exact ⟨‹_›, heq⟩
    refine ⟨fun systemId => ?_, fun systemId info hlookup => (hcount systemId info hlookup).2⟩
    rw [← held_pos]
    constructor
    · intro hsome
      obtain ⟨info, hlookup⟩ := Option.isSome_iff_exists.mp hsome
      obtain ⟨hne, heq⟩ := hcount systemId info hlookup
      have hpos : info.connectedClients.toNat ≠ 0 := fun hzero =>
        hne (UInt8.toNat_inj.mp hzero)
      omega
    · intro hpos
      rw [← (hall systemId).1, Realtime.activeCount] at hpos
      cases hlookup : h.realtime.activeSubscriptions.lookup systemId with
      | none =>
          rw [hlookup] at hpos
          cases hpos
      | some info => rfl

theorem held_of_lookup {client : ℕ} {keys : List String} (hnodup : (h.clients.map Prod.fst).Nodup)
    (hlookup : h.clients.lookup client = some keys) (systemId : String) :
    h.held query systemId = keys.countP (watches query systemId) +
      ((delete client h.clients).map fun entry => entry.2.countP (watches query systemId)).sum := by
  rw [held, ((perm_cons_delete hnodup hlookup).map _).sum_eq]
  rfl

theorem held_subscribe {client : ℕ} {oldKeys newKeys keys : List String}
    (htracked : h.Tracked query) (hlookup : h.clients.lookup client = some keys)
    (hold : oldKeys.Perm keys) (hnew : newKeys.Nodup) (realtime : Realtime) (systemId : String) :
    (⟨realtime, insert client newKeys h.clients⟩ : RealtimeHub).held query systemId +
        (addedKeys newKeys oldKeys).countP (watches query systemId) =
      h.held query systemId + (addedKeys oldKeys newKeys).countP (watches query systemId) := by
  have hnodup : oldKeys.Nodup :=
    hold.nodup_iff.mpr (htracked.keys _ (mem_of_lookup hlookup))
  have hadded := countP_added (watches query systemId) hnodup hnew
  have hbefore := @held_of_lookup query h client keys htracked.clients hlookup systemId
  have heq := hold.countP_eq (watches query systemId)
  rw [held, AssocList.insert, List.map_cons, List.sum_cons]
  dsimp only
  omega

theorem removed_le_held {client : ℕ} {oldKeys keys : List String} (htracked : h.Tracked query)
    (hlookup : h.clients.lookup client = some keys) (hold : oldKeys.Perm keys)
    (newKeys : List String) (systemId : String) :
    (addedKeys newKeys oldKeys).countP (watches query systemId) ≤ h.held query systemId := by
  have hle : (addedKeys newKeys oldKeys).countP (watches query systemId) ≤
      oldKeys.countP (watches query systemId) :=
    List.filter_sublist.countP_le
  rw [held_of_lookup htracked.clients hlookup]
  rw [hold.countP_eq] at hle
  exact Nat.le_add_right_of_le hle

theorem held_disconnect {client : ℕ} {keys keys' : List String} (htracked : h.Tracked query)
    (hlookup : h.clients.lookup client = some keys) (hperm : keys'.Perm keys) (realtime : Realtime)
    (systemId : String) :
    (⟨realtime, delete client h.clients⟩ : RealtimeHub).held query systemId +
        keys'.countP (watches query systemId) = h.held query systemId := by
  rw [held_of_lookup htracked.clients hlookup, hperm.countP_eq, Nat.add_comm]
  rfl

theorem removals_subscribe (r : Realtime) (oldKeys newKeys : List String) (systemId : String)
    (hle : removals (r.activeCount systemId) +
      (addedKeys oldKeys newKeys).countP (watches query systemId) ≤ 256) :
    removals ((r.onRealtimeSubscribeRequest (subscriptions query oldKeys)
        (subscriptions query newKeys)).activeCount systemId) =
      removals (r.activeCount systemId) +
          (addedKeys oldKeys newKeys).countP (watches query systemId) -
        (addedKeys newKeys oldKeys).countP (watches query systemId) := by
  rw [Realtime.onRealtimeSubscribeRequest, subscriptions_filter, subscriptions_filter,
    Realtime.removals_removing, Realtime.removals_adding query _ r systemId hle]

/-- Beyond 256 the sum of the additions is lost. -/
theorem removals_subscribe_le (r : Realtime) (oldKeys newKeys : List String) (systemId : String) :
    removals ((r.onRealtimeSubscribeRequest (subscriptions query oldKeys)
        (subscriptions query newKeys)).activeCount systemId) ≤
      256 - (addedKeys newKeys oldKeys).countP (watches query systemId) := by
  rw [Realtime.onRealtimeSubscribeRequest, subscriptions_filter, subscriptions_filter,
    Realtime.removals_removing]
  exact Nat.sub_le_sub_right (removals_le _) _

theorem of_subscribe {client : ℕ} {oldKeys newKeys : List String}
    (hstep : h.step query (.subscribe client oldKeys newKeys) = some t) :
    ∃ keys, h.clients.lookup client = some keys ∧ oldKeys.Perm keys ∧ newKeys.Nodup ∧
      t =
        { realtime := h.realtime.onRealtimeSubscribeRequest (subscriptions query oldKeys)
            (subscriptions query newKeys)
          clients := insert client newKeys h.clients } := by
  rw [step] at hstep
  cases hlookup : h.clients.lookup client with
  | none => simp [hlookup] at hstep
  | some keys =>
      simp only [hlookup, Option.ite_none_right_eq_some] at hstep
      obtain ⟨⟨hold, hnew⟩, heq⟩ := hstep
      exact ⟨keys, rfl, hold, hnew, (Option.some.inj heq).symm⟩

theorem of_disconnect {client : ℕ} {keys' : List String}
    (hstep : h.step query (.disconnect client keys') = some t) :
    ∃ keys, h.clients.lookup client = some keys ∧ keys'.Perm keys ∧
      t =
        { realtime := h.realtime.onRealtimeConnectRequest (subscriptions query keys')
          clients := delete client h.clients } := by
  rw [step] at hstep
  cases hlookup : h.clients.lookup client with
  | none => simp [hlookup] at hstep
  | some keys =>
      simp only [hlookup, Option.ite_none_right_eq_some] at hstep
      exact ⟨keys, rfl, hstep.1, (Option.some.inj hstep.2).symm⟩

theorem countP_pos_of_watches {systemId key : String} {keys : List String} (hmem : key ∈ keys)
    (hkey : watches query systemId key) : 0 < keys.countP (watches query systemId) :=
  List.countP_pos_iff.mpr ⟨key, hmem, hkey⟩

theorem countsGuard_subscribe_iff {client : ℕ} {oldKeys newKeys : List String} :
    CountsGuard query h (.subscribe client oldKeys newKeys) ↔
      ∀ systemId, 0 < (addedKeys oldKeys newKeys).countP (watches query systemId) →
        h.held query systemId + (addedKeys oldKeys newKeys).countP (watches query systemId) ≤ 256 ∧
          h.held query systemId + (addedKeys oldKeys newKeys).countP (watches query systemId)
            ≤ (addedKeys newKeys oldKeys).countP (watches query systemId) + 255 := by
  constructor
  · intro hguard systemId hpos
    obtain ⟨key, hmem, hkey⟩ := List.countP_pos_iff.mp hpos
    rw [watches, decide_eq_true_eq] at hkey
    obtain ⟨hrealtime, rfl⟩ := hkey
    exact hguard key hmem hrealtime
  · intro hall key hmem hrealtime
    exact hall (query key) (countP_pos_of_watches hmem (by simp [watches, hrealtime]))

theorem countsGuard_iff {e : ClientEvent} (htracked : h.Tracked query)
    (hstep : h.step query e = some t) : CountsGuard query h e ↔ t.Counted query := by
  rw [counted_iff]
  cases e with
  | connect client =>
      rw [step, Option.ite_none_right_eq_some] at hstep
      obtain ⟨hlookup, heq⟩ := hstep
      obtain rfl := Option.some.inj heq
      refine iff_of_true trivial fun systemId => ?_
      have hsame :
          RealtimeHub.held query { h with clients := insert client [] h.clients } systemId =
            h.held query systemId := by
        rw [held, AssocList.insert, delete_of_lookup_eq_none hlookup, List.map_cons, List.sum_cons]
        exact Nat.zero_add _
      rw [hsame]
      exact ⟨htracked.removals systemId, htracked.few systemId⟩
  | disconnect client keys' =>
      obtain ⟨keys, hlookup, hperm, rfl⟩ := of_disconnect hstep
      refine iff_of_true trivial fun systemId => ?_
      have hheld := held_disconnect htracked hlookup hperm
        (h.realtime.onRealtimeConnectRequest (subscriptions query keys')) systemId
      have hfew := htracked.few systemId
      have hcount := htracked.removals systemId
      rw [Realtime.onRealtimeConnectRequest] at hheld ⊢
      rw [Realtime.removals_removing]
      omega
  | subscribe client oldKeys newKeys =>
      obtain ⟨keys, hlookup, hold, hnew, rfl⟩ := of_subscribe hstep
      rw [countsGuard_subscribe_iff]
      refine forall_congr' fun systemId => ?_
      have hheld := held_subscribe htracked hlookup hold hnew
        (h.realtime.onRealtimeSubscribeRequest (subscriptions query oldKeys)
          (subscriptions query newKeys)) systemId
      have hfew := htracked.few systemId
      have hcount := htracked.removals systemId
      have hwithin := @removals_subscribe query h.realtime oldKeys newKeys systemId
      have hbeyond := @removals_subscribe_le query h.realtime oldKeys newKeys systemId
      have hremoved := removed_le_held htracked hlookup hold newKeys systemId
      dsimp only
      omega

theorem tracked_step {e : ClientEvent} (htracked : h.Tracked query)
    (hstep : h.step query e = some t) (hcounted : t.Counted query) : t.Tracked query := by
  have hcounts := counted_iff.mp hcounted
  suffices hclients : (t.clients.map Prod.fst).Nodup ∧ ∀ entry ∈ t.clients, entry.2.Nodup from
    ⟨hclients.1, hclients.2, fun systemId => (hcounts systemId).1,
      fun systemId => (hcounts systemId).2⟩
  cases e with
  | connect client =>
      rw [step, Option.ite_none_right_eq_some] at hstep
      obtain rfl := Option.some.inj hstep.2
      refine ⟨nodup_insert htracked.clients _ _, fun entry hentry => ?_⟩
      obtain rfl | hmem := mem_insert hentry
      · exact List.nodup_nil
      · exact htracked.keys entry hmem
  | disconnect client keys' =>
      obtain ⟨-, -, -, rfl⟩ := of_disconnect hstep
      exact ⟨nodup_delete htracked.clients _,
        fun entry hentry => htracked.keys entry (mem_of_mem_delete hentry)⟩
  | subscribe client oldKeys newKeys =>
      obtain ⟨-, -, -, hnew, rfl⟩ := of_subscribe hstep
      refine ⟨nodup_insert htracked.clients _ _, fun entry hentry => ?_⟩
      obtain rfl | hmem := mem_insert hentry
      · exact hnew
      · exact htracked.keys entry hmem

theorem tracked_empty : RealtimeHub.Tracked query {} :=
  ⟨List.nodup_nil, fun _ hentry => (List.not_mem_nil hentry).elim, fun _ => rfl,
    fun _ => Nat.zero_le _⟩

end RealtimeHub

/-- **The counts are right as long as they fit.** The subscriptions to every system are counted
throughout exactly those runs in which no request goes beyond what the count can show. -/
theorem counted_iff_guarded {h : RealtimeHub} {es : List ClientEvent}
    (hrun : run (RealtimeHub.step query) {} es = some h) :
    (∀ before t, before <+: es → run (RealtimeHub.step query) {} before = some t →
      t.Counted query) ↔
      Guarded (RealtimeHub.step query) (CountsGuard query) {} es h :=
  (guarded_iff_throughout (RealtimeHub.Tracked query)
    (fun _ htracked => RealtimeHub.counted_iff.mpr fun systemId =>
      ⟨htracked.removals systemId, htracked.few systemId⟩)
    (fun _ _ _ htracked hstep => RealtimeHub.countsGuard_iff htracked hstep)
    (fun _ _ _ htracked hstep hcounted => RealtimeHub.tracked_step htracked hstep hcounted)
    RealtimeHub.tracked_empty hrun).symm

end Query

/-- The key of a page that asks for the metrics of a system. -/
def metricsKey (systemId : String) : String :=
  "rt_metrics?options=%7B%22query%22%3A%7B%22system%22%3A%22" ++ systemId ++ "%22%7D%7D"

/-- What the server reads from the keys of two systems, and from any other. -/
def twoSystems (key : String) : String :=
  if key = metricsKey "web" then "web" else if key = metricsKey "db" then "db" else ""

/-- Two pages watch one system; one of them turns to another system, the other goes. -/
def twoPages : List ClientEvent :=
  [.connect 0, .subscribe 0 [] [metricsKey "web"], .connect 1,
    .subscribe 1 [] [metricsKey "web", "systems/*"],
    .subscribe 0 [metricsKey "web"] [metricsKey "db"],
    .disconnect 1 ["systems/*", metricsKey "web"]]

theorem counted_twoPages : (run (RealtimeHub.step twoSystems) {} twoPages).isSome ∧
    ∀ before t, before <+: twoPages → run (RealtimeHub.step twoSystems) {} before = some t →
      t.Counted twoSystems := by
  have hguarded : Guarded (RealtimeHub.step twoSystems) (CountsGuard twoSystems) {} twoPages
      ⟨⟨[("db", ⟨1⟩)], true, some 0, 1, [.starting]⟩, [(0, [metricsKey "db"])]⟩ :=
    guarded_of_check (by decide +kernel)
  exact ⟨by rw [hguarded.run_eq]; rfl,
    (counted_iff_guarded twoSystems hguarded.run_eq).mpr hguarded⟩

/-- As many clients as there are values of the count, each with a subscription for one system. -/
def manyClients : List ClientEvent :=
  (List.range 256).flatMap fun client =>
    [.connect client, .subscribe client [] [metricsKey "web"]]

theorem not_counted : ¬ ∀ (query : String → String) (es : List ClientEvent) (h : RealtimeHub),
    run (RealtimeHub.step query) {} es = some h → h.Counted query := by
  intro hall
  have hcount : (run (RealtimeHub.step twoSystems) {} manyClients).map
      (fun h => (h.realtime.activeSubscriptions, h.held twoSystems "web")) =
        some ([("web", ⟨0⟩)], 256) := by
    decide +kernel
  obtain ⟨h, hrun, heq⟩ := Option.map_eq_some_iff.mp hcount
  obtain ⟨hactive, hheld⟩ := Prod.mk.inj heq
  have hcounted := (hall _ _ h hrun).count "web" ⟨0⟩ (by rw [hactive]; rfl)
  rw [hheld] at hcounted
  cases hcounted

end Picket
