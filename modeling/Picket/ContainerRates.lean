import Picket.DockerTracker

/-!
# What network rates are of

Beside the polls a record is kept of each: which containers it lists as seconds old, which updates
it starts, and which of them succeed, with the totals they read and the times they take them at. The
rate of a container is to be that between two of these readings.
-/

namespace Picket.Docker

structure NetReading where
  id : Bytes
  sent : Uint64
  recv : Uint64
  /-- When the time since the last reading is measured. -/
  since : ℤ
  /-- When the time of the reading is stored. -/
  now : ℤ
  deriving DecidableEq

structure PollLog where
  cacheTimeMs : Uint16 := 0
  young : List Bytes := []
  /-- The containers that are not excluded. -/
  launched : List Bytes := []
  readings : List NetReading := []
  deriving DecidableEq

namespace PollLog

def reading (log : PollLog) (c : Bytes) : Option NetReading :=
  log.readings.find? (·.id = c)

/-- The container is listed as seconds old. -/
def isYoung (log : PollLog) (c : Bytes) : Bool :=
  c ∈ log.young

/-- The container is listed as seconds old, and not under a name that is excluded. -/
def restarted (log : PollLog) (c : Bytes) : Bool :=
  c ∈ log.young && c ∈ log.launched

def visit (cfg : DockerConfig) (log : PollLog) (ctr : ApiInfo) : PollLog :=
  let id := ctr.id.take 12
  if ctr.panics then log
  else
    { log with
      young := if ctr.isYoung then id :: log.young else log.young
      launched :=
        if shouldExcludeContainer cfg ctr.name then log.launched else id :: log.launched }

def read (log : PollLog) (id : Bytes) (a : Attempt) (err : Option UpdateError) : PollLog :=
  match err, a.response with
  | none, some response =>
      let res := response.decode {}
      { log with
        readings := ⟨id, res.totalSent, res.totalRecv, a.since, a.now⟩ :: log.readings }
  | _, _ => log

end PollLog

structure FinishedPoll where
  log : PollLog
  values : List DockerStats

structure LoggedPolls where
  polls : DockerPolls := {}
  log : PollLog := {}
  finished : List FinishedPoll := []

namespace LoggedPolls

def dm (s : LoggedPolls) : DockerManager :=
  s.polls.dm

def earlier (s : LoggedPolls) : List PollLog :=
  s.finished.map (·.log)

def nextLog (cfg : DockerConfig) (s : LoggedPolls) (e : DockerEvent) : PollLog :=
  match s.polls.polling, e with
  | _, .list input => { cacheTimeMs := input.cacheTimeMs }
  | some p, .visit => s.log.visit cfg (s.dm.ctr p.next)
  | some p, .update i =>
      let a := p.attempt (·.first) i
      s.log.read (s.dm.ctr i).idShort a
        (s.dm.updateContainerStats cfg p.input.cacheTimeMs i a).2
  | some p, .retry i =>
      let a := p.attempt (·.second) i
      s.log.read (s.dm.ctr i).idShort a
        (s.dm.updateContainerStats cfg p.input.cacheTimeMs i a).2
  | some _, .collect => {}
  | _, _ => s.log

def step (cfg : DockerConfig) (s : LoggedPolls) (e : DockerEvent) : Option LoggedPolls :=
  (s.polls.step cfg e).map fun polls =>
    { polls
      log := s.nextLog cfg e
      finished :=
        if e = .collect then ⟨s.log, polls.reports.getLast?.elim [] (·.values)⟩ :: s.finished
        else s.finished }

end LoggedPolls

/-! ### The rates -/

/-- The reading of the latest poll at the interval, unless the container has restarted since. -/
def baseline (restarted : PollLog → Bytes → Bool) (cacheTimeMs : Uint16) (c : Bytes) :
    List PollLog → Option NetReading
  | [] => none
  | log :: logs =>
      if log.cacheTimeMs = cacheTimeMs then log.reading c
      else if restarted log c then none
      else baseline restarted cacheTimeMs c logs

/-- The earlier reading that a poll compares its own with. -/
def PollLog.previous (restarted : PollLog → Bytes → Bool) (log : PollLog) (earlier : List PollLog)
    (c : Bytes) : Option NetReading :=
  if restarted log c then none else baseline restarted log.cacheTimeMs c earlier

def elapsedMs (r r' : NetReading) : ℤ :=
  (r'.since - r.now) / 1000000

def exactRate (before after : Uint64) (ms : ℤ) : ℕ :=
  if before ≤ after ∧ 0 < ms ∧ (after.val - before.val) * 1000 / ms.toNat ≤ 5000000000 then
    (after.val - before.val) * 1000 / ms.toNat
  else 0

def exactRates (restarted : PollLog → Bytes → Bool) (log : PollLog) (earlier : List PollLog)
    (c : Bytes) : ℕ × ℕ :=
  match log.previous restarted earlier c, log.reading c with
  | some r, some r' =>
      (exactRate r.sent r'.sent (elapsedMs r r'), exactRate r.recv r'.recv (elapsedMs r r'))
  | _, _ => (0, 0)

/-- Something of each poll, in view of the polls before it. -/
def EachPoll (P : FinishedPoll → List PollLog → Prop) : List FinishedPoll → Prop
  | [] => True
  | f :: finished => P f (finished.map (·.log)) ∧ EachPoll P finished

instance decidableEachPoll {P : FinishedPoll → List PollLog → Prop}
    [∀ f earlier, Decidable (P f earlier)] :
    (finished : List FinishedPoll) → Decidable (EachPoll P finished)
  | [] => inferInstanceAs (Decidable True)
  | f :: finished =>
      have := decidableEachPoll (P := P) finished
      inferInstanceAs (Decidable (P f (finished.map (·.log)) ∧ EachPoll P finished))

/-- Every container that is read is reported, and what is reported has the rates it should. -/
def RatesExact (restarted : PollLog → Bytes → Bool) (f : FinishedPoll) (earlier : List PollLog) :
    Prop :=
  (∀ r ∈ f.log.readings, ∃ stats ∈ f.values, stats.id = r.id) ∧
  ∀ stats ∈ f.values,
    (stats.bandwidth.1.val, stats.bandwidth.2.val) =
      exactRates restarted f.log earlier stats.id

instance (restarted : PollLog → Bytes → Bool) (f : FinishedPoll) (earlier : List PollLog) :
    Decidable (RatesExact restarted f earlier) := by
  unfold RatesExact
  infer_instance

/-- Two readings between which no total changes by `2^52`, nor do `2^31` milliseconds pass. -/
def NetReading.Near (r r' : NetReading) : Prop :=
  |(r'.sent.val : ℤ) - r.sent.val| < 2 ^ 52 ∧ |(r'.recv.val : ℤ) - r.recv.val| < 2 ^ 52 ∧
    0 ≤ elapsedMs r r' ∧ elapsedMs r r' < 2 ^ 31

instance (r r' : NetReading) : Decidable (r.Near r') := by
  unfold NetReading.Near
  infer_instance

/-- Consecutive readings of a container at an interval are near. -/
def ReadingsNear (f : FinishedPoll) (earlier : List PollLog) : Prop :=
  ∀ r' ∈ f.log.readings, ∀ r ∈ baseline (fun _ _ => false) f.log.cacheTimeMs r'.id earlier,
    r.Near r'

instance (f : FinishedPoll) (earlier : List PollLog) : Decidable (ReadingsNear f earlier) := by
  unfold ReadingsNear
  infer_instance

/-- Every entry of a list has its id, and no two have one short id. -/
def PollInput.Distinct (input : PollInput) : Prop :=
  (∀ l ∈ input.listed, l.entry.id.isSome) ∧ (input.listed.map (·.entry.shortId)).Nodup

instance (input : PollInput) : Decidable input.Distinct := by
  unfold PollInput.Distinct
  infer_instance

end Picket.Docker
