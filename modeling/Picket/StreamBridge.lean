import Mathlib.Algebra.Order.Ring.Int
import Mathlib.Data.List.Basic
import Mathlib.Order.Lattice

/-!
# The bridge of an SSH session

Bytes are copied between two ends until one of them ends, the context is done, or one of two timers
fires. Times are in nanoseconds.
-/

namespace Picket.Bridge

def defaultIdleTimeout : ℤ := 15 * 60 * 1000000000

def maxLifetime : ℤ := 12 * 60 * 60 * 1000000000

inductive Happening where
  /-- Bytes are copied, in either direction. -/
  | copied
  | contextDone
  /-- The copy from one end to the other is over, and its error is sent. -/
  | sideEnds (err : Option String)
  deriving DecidableEq

structure Event where
  time : ℤ
  what : Happening

structure Schedule where
  events : List Event
  ordered : events.Pairwise fun e e' => e.time ≤ e'.time

/-- The bounds, when the bridge was called, when its timers were made, and when it came to its
loop. -/
structure Setup where
  idle : ℤ
  lifetime : ℤ
  begun : ℤ
  idleFrom : ℤ
  lifetimeFrom : ℤ
  entered : ℤ
  begun_le : begun ≤ idleFrom
  idleFrom_le : idleFrom ≤ lifetimeFrom
  lifetimeFrom_le : lifetimeFrom ≤ entered

namespace Setup

def idleTimeout (b : Setup) : ℤ :=
  if b.idle ≤ 0 then defaultIdleTimeout else b.idle

def lifetimeTimeout (b : Setup) : ℤ :=
  if b.lifetime ≤ 0 then maxLifetime else b.lifetime

def idleTimer (b : Setup) : ℤ :=
  b.idleFrom + b.idleTimeout

def lifetimeTimer (b : Setup) : ℤ :=
  b.lifetimeFrom + b.lifetimeTimeout

end Setup

/-! ### The loop -/

inductive Case where
  | contextDone
  | idleTimer
  | lifetimeTimer
  | errs (err : Option String)
  deriving DecidableEq

inductive Result where
  | ok
  /-- `ctx.Err()`, of the context that the bridge is called with. -/
  | contextErr
  | deadlineExceeded
  | failed (err : String)
  deriving DecidableEq

def Case.result : Case → Result
  | .contextDone => .contextErr
  | .idleTimer => .deadlineExceeded
  | .lifetimeTimer => .deadlineExceeded
  | .errs none => .ok
  | .errs (some err) => if err = "EOF" then .ok else .failed err

def sentErrs (past : List Event) : List (Option String) :=
  past.filterMap fun e =>
    match e.what with
    | .sideEnds err => some err
    | _ => none

/-- The cases that are ready at a time, of which `select` takes any. -/
def readyCases (b : Setup) (past : List Event) (t : ℤ) : List Case :=
  (if past.any (·.what = .contextDone) then [.contextDone] else []) ++
    (if b.idleTimer ≤ t then [.idleTimer] else []) ++
    (if b.lifetimeTimer ≤ t then [.lifetimeTimer] else []) ++
    ((sentErrs past).head?.map Case.errs).toList

/-- The bridge returns with what has happened by then: as soon as a case is ready, for a loop that
has come to its `select`. -/
structure Returns (b : Setup) (schedule : Schedule) (past : List Event) (t : ℤ)
    (result : Result) : Prop where
  entered : b.entered ≤ t
  split : ∃ later, schedule.events = past ++ later ∧ ∀ e ∈ later, t ≤ e.time
  past_le : ∀ e ∈ past, e.time ≤ t
  parked : ∀ s, b.entered ≤ s → s < t →
    readyCases b (schedule.events.filter (·.time ≤ s)) s = []
  ready : ∃ c ∈ readyCases b past t, c.result = result

/-! ### Idleness -/

structure IdleAt (b : Setup) (past : List Event) (t : ℤ) : Prop where
  begun : b.begun + b.idleTimeout ≤ t
  copied : ∀ e ∈ past, e.what = .copied → e.time + b.idleTimeout ≤ t

/-- The bridge times out only when it is idle or its lifetime is over. -/
def TimesOutIdle (b : Setup) (schedule : Schedule) : Prop :=
  ∀ past t, Returns b schedule past t .deadlineExceeded →
    IdleAt b past t ∨ b.begun + b.lifetimeTimeout ≤ t

/-- The first time at which the idle timer can end the loop. -/
def Setup.idleEnd (b : Setup) : ℤ :=
  max b.idleTimer b.entered

/-- An end of the copying, or of the context, ends the loop before. -/
def EndsBefore (b : Setup) (schedule : Schedule) : Prop :=
  ∃ e ∈ schedule.events, e.what ≠ .copied ∧ max e.time b.entered < b.idleEnd

/-- When the idle timer can end the loop, the lifetime or the bridge is over already, or the last
bytes up to then were copied long enough before. -/
def QuietOnceStarted (b : Setup) (schedule : Schedule) : Prop :=
  b.begun + b.lifetimeTimeout ≤ b.idleEnd ∨ EndsBefore b schedule ∨
    ∀ e ∈ schedule.events, e.what = .copied → e.time ≤ b.idleEnd →
      e.time + b.idleTimeout ≤ b.idleEnd

end Picket.Bridge
