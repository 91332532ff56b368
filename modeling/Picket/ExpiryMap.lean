import Mathlib.Algebra.Order.Ring.Int
import Picket.Lib.AssocList
import Picket.Lib.Expiring

/-!
# The map with expiring entries

Entries have a time of expiry. An expired entry stays in the store until a call comes upon it or the
cleaner removes it. Every call reads the clock at most once.
-/

namespace Picket.ExpiryMap

variable {T : Type*} [DecidableEq T]

structure Val (T : Type*) where
  value : T
  expires : ℤ

/-- `store.Store`, a map behind a lock. -/
structure Store (T : Type*) where
  entries : List (String × Val T) := []
  nodup : (entries.map Prod.fst).Nodup := by simp

/-- The order in which a map is gone through, whatever is in it. -/
structure Iteration (T : Type*) where
  order : List (String × Val T) → List (String × Val T)
  perm : ∀ entries, (order entries).Perm entries

namespace Store

def lookup (s : Store T) (key : String) : Option (Val T) :=
  s.entries.lookup key

def insert (s : Store T) (key : String) (v : Val T) : Store T :=
  ⟨AssocList.insert key v s.entries, AssocList.nodup_insert s.nodup key v⟩

def delete (s : Store T) (key : String) : Store T :=
  ⟨AssocList.delete key s.entries, AssocList.nodup_delete s.nodup key⟩

/-! ### Calls -/

def set (s : Store T) (now : ℤ) (key : String) (value : T) (ttl : ℤ) : Store T :=
  s.insert key { value, expires := now + ttl }

def getOk (s : Store T) (now : ℤ) (key : String) : Option T × Store T :=
  match s.lookup key with
  | none => (none, s)
  | some v => if v.expires < now then (none, s.delete key) else (some v.value, s)

/-- The loop of `GetByValue`, which ends at the first entry with the value. -/
def getByValueLoop (s : Store T) (now : ℤ) (val : T) :
    List (String × Val T) → Option (String × T) × Store T
  | [] => (none, s)
  | (key, v) :: rest =>
      if v.value = val then
        if v.expires < now then (none, s.delete key) else (some (key, v.value), s)
      else getByValueLoop s now val rest

def getByValue (s : Store T) (now : ℤ) (val : T) (iteration : Iteration T) :
    Option (String × T) × Store T :=
  s.getByValueLoop now val (iteration.order s.entries)

def remove (s : Store T) (key : String) : Store T :=
  s.delete key

/-- The loop of `RemovebyValue`, which does not look at the expiry. -/
def removebyValueLoop (s : Store T) (value : T) : List (String × Val T) → Option T × Store T
  | [] => (none, s)
  | (key, v) :: rest =>
      if v.value = value then (some v.value, s.delete key) else removebyValueLoop s value rest

def removebyValue (s : Store T) (value : T) (iteration : Iteration T) : Option T × Store T :=
  s.removebyValueLoop value (iteration.order s.entries)

/-- The expiry is not looked at here either. -/
def updateExpiration (s : Store T) (now : ℤ) (key : String) (ttl : ℤ) : Store T :=
  match s.lookup key with
  | none => s
  | some v => s.insert key { v with expires := now + ttl }

/-- The keys that `cleanup` is going to remove, of the copy that it goes through. -/
def expiredKeys (s : Store T) (now : ℤ) : List String :=
  (s.entries.filter (·.2.expires < now)).map Prod.fst

end Store

inductive Call (T : Type*) where
  | set (key : String) (value : T) (ttl : ℤ)
  | getOk (key : String)
  | getByValue (val : T)
  | remove (key : String)
  | removebyValue (value : T)
  | updateExpiration (key : String) (ttl : ℤ)

/-- What a call returns; a value that is not there is returned as the zero value and `false`. -/
inductive Reply (T : Type*) where
  | done
  | value (value : Option T)
  | entry (entry : Option (String × T))
  deriving DecidableEq

def Store.call (s : Store T) (now : ℤ) (iteration : Iteration T) : Call T → Reply T × Store T
  | .set key value ttl => (.done, s.set now key value ttl)
  | .getOk key => (s.getOk now key).map .value id
  | .getByValue val => (s.getByValue now val iteration).map .entry id
  | .remove key => (.done, s.remove key)
  | .removebyValue value => (s.removebyValue value iteration).map .value id
  | .updateExpiration key ttl => (.done, s.updateExpiration now key ttl)

/-! ### Runs -/

/-- A call with its reading of the clock and what it returned. -/
structure Exchange (T : Type*) where
  time : ℤ
  call : Call T
  reply : Reply T

structure State (T : Type*) where
  store : Store T := {}
  now : ℤ := 0
  /-- The keys that the cleaner has still to remove. -/
  cleaning : List String := []
  history : List (Exchange T) := []

inductive Event (T : Type*) where
  | call (time : ℤ) (call : Call T) (iteration : Iteration T)
  /-- The cleaner has read the clock, and takes a copy of the store. -/
  | cleanup (time : ℤ)
  /-- The cleaner removes a key that was expired in its copy. -/
  | cleanupRemoves (key : String)

def step (s : State T) : Event T → Option (State T)
  | .call time call iteration =>
      if time < s.now then none
      else
        let result := s.store.call time iteration call
        some { s with
          store := result.2, now := time, history := ⟨time, call, result.1⟩ :: s.history }
  | .cleanup time =>
      if s.cleaning ≠ [] then none
      else some { s with now := max s.now time, cleaning := s.store.expiredKeys time }
  | .cleanupRemoves key =>
      if key ∈ s.cleaning then
        some { s with store := s.store.delete key, cleaning := s.cleaning.erase key }
      else none

/-! ### The ideal map -/

abbrev Ideal (T : Type*) := String → Option (Val T)

namespace Ideal

def live (now : ℤ) (m : Ideal T) : Ideal T :=
  Expiring.live Val.expires now m

def HasValue (m : Ideal T) (value : T) (key : String) : Prop :=
  ∃ v, m key = some v ∧ v.value = value

/-- What the map returns when all of it is live, and what it is then. -/
inductive Answers (m : Ideal T) (time : ℤ) : Call T → Reply T → Ideal T → Prop where
  | set (key : String) (value : T) (ttl : ℤ) :
      Answers m time (.set key value ttl) .done
        (Function.update m key (some { value, expires := time + ttl }))
  | getOk (key : String) : Answers m time (.getOk key) (.value ((m key).map (·.value))) m
  | getByValue {key : String} {val : T} (hkey : m.HasValue val key) :
      Answers m time (.getByValue val) (.entry (some (key, val))) m
  | noneByValue {val : T} (hnone : ∀ key, ¬ m.HasValue val key) :
      Answers m time (.getByValue val) (.entry none) m
  | remove (key : String) : Answers m time (.remove key) .done (Function.update m key none)
  | removebyValue {key : String} {value : T} (hkey : m.HasValue value key) :
      Answers m time (.removebyValue value) (.value (some value)) (Function.update m key none)
  | removeNone {value : T} (hnone : ∀ key, ¬ m.HasValue value key) :
      Answers m time (.removebyValue value) (.value none) m
  | updateExpiration (key : String) (ttl : ℤ) :
      Answers m time (.updateExpiration key ttl) .done
        (Function.update m key ((m key).map fun v => { v with expires := time + ttl }))

/-- The calls have been answered by an ideal map. -/
inductive Run : List (Exchange T) → Ideal T → Prop where
  | nil : Run [] fun _ => none
  | cons {e : Exchange T} {past : List (Exchange T)} {m m' : Ideal T} (hpast : Run past m)
      (hanswers : Answers (m.live e.time) e.time e.call e.reply m') : Run (e :: past) m'

end Ideal

def State.Refines (s : State T) : Prop :=
  ∃ m, Ideal.Run s.history m

/-! ### Expired entries in the way -/

/-- No expired entry that is still there misleads the call. -/
def Store.NotMisled (s : Store T) (time : ℤ) (iteration : Iteration T) : Call T → Prop
  | .getByValue val =>
      ∀ entry, (iteration.order s.entries).find? (·.2.value = val) = some entry →
        entry.2.expires < time → ∀ live ∈ s.entries, live.2.value = val → live.2.expires < time
  | .removebyValue value =>
      ∀ entry, (iteration.order s.entries).find? (·.2.value = value) = some entry →
        time ≤ entry.2.expires
  | .updateExpiration key ttl =>
      ∀ v, s.lookup key = some v → v.expires < time → ttl < 0
  | .set .. | .getOk _ | .remove _ => True

/-- Neither is a call misled, nor does the cleaner remove an entry that is not expired any more. -/
def State.NotMisled (s : State T) : Event T → Prop
  | .call time call iteration => s.store.NotMisled time iteration call
  | .cleanup _ => True
  | .cleanupRemoves key => ∀ v, s.store.lookup key = some v → v.expires < s.now

end Picket.ExpiryMap
