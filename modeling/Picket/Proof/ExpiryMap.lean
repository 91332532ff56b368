import Picket.ExpiryMap
import Picket.Lib.Transition

/-!
# The expiring map and the ideal one

What an ideal map holds at some time is what the store has that is live. A call that is not misled
by an expired entry does to the live entries what it does to the ideal map; one that is misled does
not.
-/

namespace Picket.ExpiryMap

open Expiring Transition

variable {T : Type*}

namespace Store

@[simp]
theorem lookup_insert (s : Store T) (key : String) (v : Val T) :
    (s.insert key v).lookup = Function.update s.lookup key (some v) := by
  funext key'
  rw [lookup, insert, AssocList.lookup_insert, Function.update_apply]
  rfl

@[simp]
theorem lookup_delete (s : Store T) (key : String) :
    (s.delete key).lookup = Function.update s.lookup key none := by
  funext key'
  rw [lookup, delete, AssocList.lookup_delete, Function.update_apply]
  rfl

theorem mem_entries_iff {s : Store T} {entry : String × Val T} :
    entry ∈ s.entries ↔ s.lookup entry.1 = some entry.2 :=
  ⟨AssocList.lookup_of_mem s.nodup, AssocList.mem_of_lookup⟩

def live (s : Store T) (now : ℤ) : Ideal T :=
  Ideal.live now s.lookup

theorem live_delete_of_expired {s : Store T} {now : ℤ} {key : String} {v : Val T}
    (hlookup : s.lookup key = some v) (hexpired : v.expires < now) :
    (s.delete key).live now = s.live now := by
  rw [live, lookup_delete]
  exact live_remove (live_of_lt hlookup hexpired)

theorem live_delete (s : Store T) (now : ℤ) (key : String) :
    (s.delete key).live now = Function.update (s.live now) key none := by
  rw [live, lookup_delete]
  exact live_update now s.lookup key none

theorem live_live_update (s : Store T) (now : ℤ) (key : String) (o : Option (Val T)) :
    Ideal.live now (Function.update (s.live now) key o) =
      Ideal.live now (Function.update s.lookup key o) := by
  rw [Ideal.live, Ideal.live, live_update, live_update]
  exact congrArg (Function.update · key _) (live_live le_rfl s.lookup)

theorem hasValue_live {s : Store T} {now : ℤ} {value : T} {key : String} :
    (s.live now).HasValue value key ↔
      ∃ v, (key, v) ∈ s.entries ∧ v.value = value ∧ now ≤ v.expires := by
  refine exists_congr fun v => ?_
  rw [live, Ideal.live, live_eq_some_iff, mem_entries_iff, and_assoc, and_comm (a := _ = value)]

variable [DecidableEq T]

theorem getByValueLoop_eq (s : Store T) (now : ℤ) (val : T) (order : List (String × Val T)) :
    s.getByValueLoop now val order =
      match order.find? (·.2.value = val) with
      | none => (none, s)
      | some entry =>
          if entry.2.expires < now then (none, s.delete entry.1)
          else (some (entry.1, entry.2.value), s) := by
  induction order with
  | nil => rfl
  | cons entry rest ih =>
      rw [getByValueLoop, List.find?_cons]
      by_cases hvalue : entry.2.value = val
      · rw [if_pos hvalue, decide_eq_true hvalue]
      · rw [if_neg hvalue, decide_eq_false hvalue, ih]

theorem removebyValueLoop_eq (s : Store T) (value : T) (order : List (String × Val T)) :
    s.removebyValueLoop value order =
      match order.find? (·.2.value = value) with
      | none => (none, s)
      | some entry => (some entry.2.value, s.delete entry.1) := by
  induction order with
  | nil => rfl
  | cons entry rest ih =>
      rw [removebyValueLoop, List.find?_cons]
      by_cases hvalue : entry.2.value = value
      · rw [if_pos hvalue, decide_eq_true hvalue]
      · rw [if_neg hvalue, decide_eq_false hvalue, ih]

theorem not_hasValue_of_find?_none {s : Store T} {iteration : Iteration T} {value : T}
    (hfind : (iteration.order s.entries).find? (·.2.value = value) = none) (now : ℤ)
    (key : String) : ¬ (s.live now).HasValue value key := by
  rw [hasValue_live]
  rintro ⟨v, hmem, hvalue, -⟩
  exact List.find?_eq_none.mp hfind (key, v) ((iteration.perm _).mem_iff.mpr hmem)
    (decide_eq_true hvalue)

theorem lookup_of_find? {s : Store T} {iteration : Iteration T} {value : T}
    {entry : String × Val T}
    (hfind : (iteration.order s.entries).find? (·.2.value = value) = some entry) :
    s.lookup entry.1 = some entry.2 ∧ entry.2.value = value :=
  ⟨mem_entries_iff.mp ((iteration.perm _).mem_iff.mp (List.mem_of_find?_eq_some hfind)),
    by simpa using List.find?_some hfind⟩

/-! ### What the calls do to the live entries -/

omit [DecidableEq T] in
theorem getOk_eq (s : Store T) (now : ℤ) (key : String) :
    (s.getOk now key).1 = (s.live now key).map (·.value) ∧
      (s.getOk now key).2.live now = s.live now := by
  rw [getOk]
  cases hlookup : s.lookup key with
  | none => exact ⟨by rw [live, Ideal.live, live_of_eq_none hlookup, Option.map_none], rfl⟩
  | some v =>
      by_cases hexpired : v.expires < now
      · simp only [hexpired, if_true]
        refine ⟨?_, live_delete_of_expired hlookup hexpired⟩
        rw [live, Ideal.live, live_of_lt hlookup hexpired, Option.map_none]
      · simp only [hexpired, if_false]
        refine ⟨?_, trivial⟩
        rw [live, Ideal.live, live_of_le hlookup (not_lt.mp hexpired), Option.map_some]

theorem live_getByValue (s : Store T) (now : ℤ) (val : T) (iteration : Iteration T) :
    (s.getByValue now val iteration).2.live now = s.live now := by
  rw [getByValue, getByValueLoop_eq]
  cases hfind : (iteration.order s.entries).find? (·.2.value = val) with
  | none => rfl
  | some entry =>
      by_cases hexpired : entry.2.expires < now
      · simp only [hexpired, if_true]
        exact live_delete_of_expired (lookup_of_find? hfind).1 hexpired
      · simp only [hexpired, if_false]

omit [DecidableEq T] in
theorem live_updateExpiration (s : Store T) (now : ℤ) (key : String) (ttl : ℤ) :
    (s.updateExpiration now key ttl).live now =
      Ideal.live now (Function.update s.lookup key
        ((s.lookup key).map fun v => { v with expires := now + ttl })) := by
  rw [updateExpiration]
  cases hlookup : s.lookup key with
  | none =>
      have hself := Function.update_eq_self key s.lookup
      rw [hlookup] at hself
      rw [Option.map_none, hself, live]
  | some v => rw [Option.map_some, live, lookup_insert]

omit [DecidableEq T] in
theorem live_self (s : Store T) (now : ℤ) : (s.live now).live now = s.live now :=
  live_live le_rfl s.lookup

/-! ### Calls and the ideal map -/

/-- The live entries go the way of an ideal map. -/
def Follows (s : Store T) (time : ℤ) (iteration : Iteration T) (call : Call T) : Prop :=
  ∃ m', Ideal.Answers (s.live time) time call (s.call time iteration call).1 m' ∧
    m'.live time = (s.call time iteration call).2.live time

theorem follows_set (s : Store T) (time : ℤ) (iteration : Iteration T) (key : String) (value : T)
    (ttl : ℤ) : s.Follows time iteration (.set key value ttl) := by
  refine ⟨_, .set key value ttl, ?_⟩
  rw [live_live_update, ← lookup_insert]
  rfl

theorem follows_getOk (s : Store T) (time : ℤ) (iteration : Iteration T) (key : String) :
    s.Follows time iteration (.getOk key) := by
  obtain ⟨hreply, hlive⟩ := getOk_eq s time key
  refine ⟨s.live time, ?_, (live_self s time).trans hlive.symm⟩
  rw [call, Prod.map_fst, hreply]
  exact .getOk key

theorem follows_remove (s : Store T) (time : ℤ) (iteration : Iteration T) (key : String) :
    s.Follows time iteration (.remove key) := by
  refine ⟨_, .remove key, ?_⟩
  rw [live_live_update, ← lookup_delete]
  rfl

theorem follows_getByValue_iff (s : Store T) (time : ℤ) (iteration : Iteration T) (val : T) :
    s.Follows time iteration (.getByValue val) ↔ s.NotMisled time iteration (.getByValue val) := by
  have hlive := live_getByValue s time val iteration
  simp only [Follows, call, Prod.map, id, hlive, NotMisled]
  rw [getByValue, getByValueLoop_eq]
  cases hfind : (iteration.order s.entries).find? (·.2.value = val) with
  | none =>
      refine iff_of_true ⟨s.live time, .noneByValue ?_, live_self s time⟩ (by simp)
      exact not_hasValue_of_find?_none hfind time
  | some entry =>
      obtain ⟨hlookup, hvalue⟩ := lookup_of_find? hfind
      by_cases hexpired : entry.2.expires < time
      · simp only [hexpired, if_true, Option.some.injEq, forall_eq', forall_const]
        constructor
        · rintro ⟨m', hanswers, -⟩ other hother hsame
          cases hanswers with
          | noneByValue hnone =>
              refine not_le.mp fun hle => hnone other.1 ?_
              exact hasValue_live.mpr ⟨other.2, hother, hsame, hle⟩
        · intro hall
          refine ⟨s.live time, .noneByValue fun key hkey => ?_, live_self s time⟩
          obtain ⟨v, hmem, hsame, hle⟩ := hasValue_live.mp hkey
          exact absurd (hall (key, v) hmem hsame) (not_lt.mpr hle)
      · simp only [hexpired, if_false, Option.some.injEq, forall_eq', false_imp_iff, iff_true]
        rw [hvalue]
        refine ⟨s.live time, .getByValue ?_, live_self s time⟩
        exact hasValue_live.mpr
          ⟨entry.2, mem_entries_iff.mpr hlookup, hvalue, not_lt.mp hexpired⟩

theorem follows_removebyValue_iff (s : Store T) (time : ℤ) (iteration : Iteration T) (value : T) :
    s.Follows time iteration (.removebyValue value) ↔
      s.NotMisled time iteration (.removebyValue value) := by
  simp only [Follows, call, Prod.map, id, NotMisled]
  rw [removebyValue, removebyValueLoop_eq]
  cases hfind : (iteration.order s.entries).find? (·.2.value = value) with
  | none =>
      refine iff_of_true ⟨s.live time, .removeNone ?_, live_self s time⟩ (by simp)
      exact not_hasValue_of_find?_none hfind time
  | some entry =>
      obtain ⟨hlookup, hvalue⟩ := lookup_of_find? hfind
      simp only [Option.some.injEq, forall_eq', hvalue]
      constructor
      · rintro ⟨m', hanswers, hsame⟩
        by_contra hexpired
        rw [live_delete_of_expired hlookup (not_le.mp hexpired)] at hsame
        cases hanswers with
        | @removebyValue key _ hkey =>
            obtain ⟨v, hv, -⟩ := hkey
            have hnone := congrFun hsame key
            rw [Ideal.live, live_update, Function.update_self, hv] at hnone
            cases hnone
      · intro hle
        have hkey : (s.live time).HasValue value entry.1 :=
          hasValue_live.mpr ⟨entry.2, mem_entries_iff.mpr hlookup, hvalue, hle⟩
        refine ⟨_, .removebyValue hkey, ?_⟩
        rw [live_live_update, live, lookup_delete]

theorem follows_updateExpiration_iff (s : Store T) (time : ℤ) (iteration : Iteration T)
    (key : String) (ttl : ℤ) :
    s.Follows time iteration (.updateExpiration key ttl) ↔
      s.NotMisled time iteration (.updateExpiration key ttl) := by
  have hlive := live_updateExpiration s time key ttl
  have hforced : s.Follows time iteration (.updateExpiration key ttl) ↔
      ((s.live time key).map fun v => { v with expires := time + ttl }).filter (time ≤ ·.expires) =
        ((s.lookup key).map fun v => { v with expires := time + ttl }).filter
          (time ≤ ·.expires) := by
    rw [← (Function.update_injective (s.live time) key).eq_iff, live, Ideal.live, ← live_update,
      ← live_update]
    constructor
    · rintro ⟨_, ⟨⟩, hsame⟩
      exact (live_live_update s time key _).symm.trans (hsame.trans hlive)
    · intro hsame
      exact ⟨_, .updateExpiration key ttl,
        (live_live_update s time key _).trans (hsame.trans hlive.symm)⟩
  rw [hforced, NotMisled]
  cases hlookup : s.lookup key with
  | none =>
      rw [live, Ideal.live, live_of_eq_none hlookup]
      simp
  | some v =>
      by_cases hexpired : v.expires < time
      · rw [live, Ideal.live, live_of_lt hlookup hexpired]
        simp [hexpired, Option.filter_some]
      · rw [live, Ideal.live, live_of_le hlookup (not_lt.mp hexpired)]
        simp [hexpired]

/-- **A call does to the live entries what it does to an ideal map exactly if it is not misled.** -/
theorem follows_iff_notMisled (s : Store T) (time : ℤ) (iteration : Iteration T) (call : Call T) :
    s.Follows time iteration call ↔ s.NotMisled time iteration call := by
  cases call with
  | set key value ttl => exact iff_of_true (follows_set s time iteration key value ttl) trivial
  | getOk key => exact iff_of_true (follows_getOk s time iteration key) trivial
  | getByValue val => exact follows_getByValue_iff s time iteration val
  | remove key => exact iff_of_true (follows_remove s time iteration key) trivial
  | removebyValue value => exact follows_removebyValue_iff s time iteration value
  | updateExpiration key ttl => exact follows_updateExpiration_iff s time iteration key ttl

/-! ### The cleaner -/

omit [DecidableEq T] in
theorem live_delete_eq_self_iff (s : Store T) (now : ℤ) (key : String) :
    (s.delete key).live now = s.live now ↔ ∀ v, s.lookup key = some v → v.expires < now := by
  rw [live_delete, Function.update_eq_self_iff, eq_comm, Option.eq_none_iff_forall_ne_some]
  refine forall_congr' fun v => ?_
  rw [live, Ideal.live, Ne, live_eq_some_iff, not_and, not_le]

omit [DecidableEq T] in
theorem lookup_of_mem_expiredKeys {s : Store T} {now : ℤ} {key : String}
    (hmem : key ∈ s.expiredKeys now) : ∀ v, s.lookup key = some v → v.expires < now := by
  obtain ⟨entry, hentry, rfl⟩ := List.mem_map.mp hmem
  obtain ⟨hentries, hexpired⟩ := List.mem_filter.mp hentry
  intro v hlookup
  rw [mem_entries_iff.mp hentries] at hlookup
  rw [← Option.some.inj hlookup]
  exact of_decide_eq_true hexpired

omit [DecidableEq T] in
/-- A cleanup that nothing interrupts leaves what is live. -/
theorem live_cleanup (s : Store T) (now : ℤ) :
    ((s.expiredKeys now).foldl delete s).live now = s.live now := by
  have hkeys : ∀ key ∈ s.expiredKeys now, s.live now key = none := by
    intro key hmem
    have hself := (live_delete_eq_self_iff s now key).mpr (lookup_of_mem_expiredKeys hmem)
    rw [← hself, live_delete, Function.update_self]
  suffices hgeneral : ∀ (keys : List String) (s' : Store T), s'.live now = s.live now →
      (∀ key ∈ keys, s.live now key = none) → (keys.foldl delete s').live now = s.live now from
    hgeneral _ s rfl hkeys
  intro keys
  induction keys with
  | nil => exact fun s' hs' _ => hs'
  | cons key keys ih =>
      intro s' hs' hnone
      obtain ⟨hkey, hrest⟩ := List.forall_mem_cons.mp hnone
      refine ih (s'.delete key) ?_ hrest
      rw [live_delete, hs', ← hkey, Function.update_eq_self]

end Store

/-! ### Runs -/

variable [DecidableEq T]

/-- An ideal map has answered the calls, and holds what is live. -/
def State.Agrees (s : State T) : Prop :=
  ∃ m, Ideal.Run s.history m ∧ m.live s.now = s.store.live s.now

theorem State.Agrees.step {s t : State T} {e : Event T} (hs : s.Agrees) (hnot : s.NotMisled e)
    (hstep : step s e = some t) : t.Agrees := by
  obtain ⟨m, hrun, hsame⟩ := hs
  cases e with
  | call time call iteration =>
      rw [ExpiryMap.step, Option.ite_none_left_eq_some] at hstep
      obtain ⟨hlater, hnext⟩ := hstep
      rw [← Option.some.inj hnext]
      obtain ⟨m', hanswers, hlive⟩ :=
        (Store.follows_iff_notMisled s.store time iteration call).mpr hnot
      refine ⟨m', .cons hrun ?_, hlive⟩
      have hlive : m.live time = s.store.live time := live_congr (not_lt.mp hlater) hsame
      rwa [hlive]
  | cleanup time =>
      rw [ExpiryMap.step, Option.ite_none_left_eq_some] at hstep
      rw [← Option.some.inj hstep.2]
      exact ⟨m, hrun, live_congr (le_max_left _ _) hsame⟩
  | cleanupRemoves key =>
      rw [ExpiryMap.step, Option.ite_none_right_eq_some] at hstep
      rw [← Option.some.inj hstep.2]
      exact ⟨m, hrun, hsame.trans ((Store.live_delete_eq_self_iff _ _ _).mpr hnot).symm⟩

/-- **The results are those of an ideal map in every run in which nothing is misled.** -/
theorem refines_of_notMisled {es : List (Event T)} {s : State T}
    (hrun : Guarded step State.NotMisled {} es s) : s.Refines := by
  have hstart : State.Agrees ({} : State T) := ⟨_, .nil, rfl⟩
  obtain ⟨m, hm, -⟩ := hrun.invariant (fun s e t hs hnot => hs.step hnot) hstart
  exact ⟨m, hm⟩

/-- Two entries with one value, of which the first expires soon. -/
def twice : List (Event String) :=
  [.call 0 (.set "a" "token" 10) ⟨id, fun _ => .refl _⟩,
    .call 0 (.set "b" "token" 1000) ⟨id, fun _ => .refl _⟩]

/-- The expired entry is removed before the search. -/
def swept : List (Event String) :=
  twice ++ [.cleanup 20, .cleanupRemoves "a",
    .call 20 (.getByValue "token") ⟨id, fun _ => .refl _⟩]

theorem swept_refines : ∃ s, run step {} swept = some s ∧ s.Refines := by
  refine ⟨_, rfl, refines_of_notMisled (?_ : Guarded step State.NotMisled {} swept _)⟩
  refine Guarded.cons trivial rfl (Guarded.cons trivial rfl (Guarded.cons trivial rfl ?_))
  refine Guarded.cons ?_ rfl (Guarded.cons ?_ rfl (Guarded.nil _))
  · intro v hlookup
    obtain rfl := Option.some.inj hlookup
    decide
  · intro entry hfind hexpired
    obtain rfl := Option.some.inj hfind
    revert hexpired
    decide

/-- The search comes upon the expired entry and ends. -/
theorem expired_first_not_refines :
    ∃ s, run step {} (twice ++ [.call 20 (.getByValue "token")
      ⟨List.reverse, List.reverse_perm⟩]) = some s ∧ ¬ s.Refines := by
  refine ⟨_, rfl, ?_⟩
  rintro ⟨m', hrun⟩
  have hhistory : Ideal.Run [⟨20, .getByValue "token", .entry none⟩,
      ⟨0, .set "b" "token" 1000, .done⟩, ⟨0, .set "a" "token" 10, .done⟩] m' := hrun
  cases hhistory with
  | cons hpast hanswers =>
      cases hpast with
      | @cons _ _ m _ _ hset =>
          cases hset
          cases hanswers with
          | noneByValue hnone =>
              refine hnone "b" ⟨⟨"token", 1000⟩, ?_, rfl⟩
              exact live_of_le (Function.update_self _ _ _) (by decide)

end Picket.ExpiryMap
