import Picket.DeltaTracker
import Picket.DiskStats
import Picket.Lib.CounterSums

/-!
# Network interfaces

The rates of the interfaces are differences of their own counters, kept in a tracker for each
interval, where a counter that falls has started again. The total is one difference of the sums of
all counters, kept somewhere else.
-/

namespace Picket.Gather

/-- `net.IOCountersStat`. -/
structure NetCounters where
  name : String
  bytesSent : Uint64 := 0
  bytesRecv : Uint64 := 0

/-- What `net.IOCounters` reads, of interfaces with different names. -/
structure NetReading where
  counters : List NetCounters
  nodup : (counters.map (·.name)).Nodup := by decide

/-- `system.NetIoStats`. -/
structure NetIoStats where
  bytesRecv : Uint64 := 0
  bytesSent : Uint64 := 0
  time : ℤ := 0

/-! ### Which interfaces count -/

structure NicConfig where
  nics : Finset String
  isBlacklist : Bool
  hasWildcards : Bool

section Selection

variable (pathMatch : String → String → Bool)

def isValidNic (nicName : String) (cfg : NicConfig) : Bool :=
  if cfg.nics = ∅ then cfg.isBlacklist
  else if nicName ∈ cfg.nics then !cfg.isBlacklist
  else if cfg.hasWildcards = false then cfg.isBlacklist
  else if ∃ pattern ∈ cfg.nics, '*' ∈ pattern.toList ∧ pathMatch pattern nicName then
    !cfg.isBlacklist
  else cfg.isBlacklist

def autoFilter : List String :=
  ["lo", "docker", "br-", "veth", "bond", "cali"]

def skipNetworkInterface (v : NetCounters) (nicCfg : Option NicConfig) : Bool :=
  let auto :=
    autoFilter.any (fun start => start.toList.isPrefixOf v.name.toList) ||
      v.bytesRecv = 0 || v.bytesSent = 0
  match nicCfg with
  | none => auto
  | some cfg => !isValidNic pathMatch v.name cfg || (cfg.isBlacklist && auto)

end Selection

/-! ### The agent -/

structure NetAgent where
  netInterfaces : Finset String := ∅
  netInterfaceDeltaTrackers : Uint16 → Option (DeltaTracker String Uint64) := fun _ => none
  netIoStats : Uint16 → Option NetIoStats := fun _ => none

/-- What a call of `updateNetworkStats` reads, and what it reads before and after if the interfaces
have to be found. -/
structure NetCall where
  cacheTimeMs : Uint16
  netIo : Option NetReading
  since : ℤ
  now : ℤ
  before : Option NetReading := none
  after : Option NetReading := none

structure NicSums where
  tracker : DeltaTracker String Uint64
  totalBytesSent : Uint64 := 0
  totalBytesRecv : Uint64 := 0
  systemStats : Stats

def nicDelta (tracker : DeltaTracker String Uint64) (msElapsed : Uint64) (key : String)
    (bytes : Uint64) : Uint64 :=
  if 0 < msElapsed then
    match tracker.previous key with
    | some prevVal =>
        let deltaBytes := if prevVal ≤ bytes then bytes - prevVal else bytes
        deltaBytes * 1000 / msElapsed
    | none => 0
  else 0

/-- The loop body of `sumAndTrackPerNicDeltas`. -/
def NicSums.track (netInterfaces : Finset String) (msElapsed : Uint64) (sums : NicSums)
    (v : NetCounters) : NicSums :=
  if v.name ∈ netInterfaces then
    let upKey := v.name ++ "up"
    let downKey := v.name ++ "down"
    let tracker := (sums.tracker.set upKey v.bytesSent).set downKey v.bytesRecv
    let upDelta := nicDelta tracker msElapsed upKey v.bytesSent
    let downDelta := nicDelta tracker msElapsed downKey v.bytesRecv
    { tracker
      totalBytesSent := sums.totalBytesSent + v.bytesSent
      totalBytesRecv := sums.totalBytesRecv + v.bytesRecv
      systemStats :=
        { sums.systemStats with
          networkInterfaces :=
            sums.systemStats.networkInterfaces.insert v.name
              ![upDelta, downDelta, v.bytesSent, v.bytesRecv] } }
  else sums

def computeBytesPerSecond (msElapsed totalBytesSent totalBytesRecv : Uint64) (nis : NetIoStats) :
    Uint64 × Uint64 :=
  if 0 < msElapsed then
    ((totalBytesSent - nis.bytesSent) * 1000 / msElapsed,
      (totalBytesRecv - nis.bytesRecv) * 1000 / msElapsed)
  else (0, 0)

structure NetRates where
  nis : NetIoStats
  msElapsed : Uint64
  sums : NicSums
  bytesSentPerSecond : Uint64
  bytesRecvPerSecond : Uint64

def NetRates.Invalid (rates : NetRates) : Prop :=
  10000000000 < rates.bytesSentPerSecond ∨ 10000000000 < rates.bytesRecvPerSecond

instance (rates : NetRates) : Decidable rates.Invalid := by
  unfold NetRates.Invalid
  infer_instance

namespace NetAgent

/-- A time of zero is that of an interval without a reading. -/
def loadAndTickNetBaseline (a : NetAgent) (cacheTimeMs : Uint16) (since now : ℤ) :
    NetIoStats × Uint64 :=
  let netIoStat := (a.netIoStats cacheTimeMs).getD {}
  if netIoStat.time = 0 then ({ netIoStat with time := now }, 0)
  else
    ({ netIoStat with time := now }, toUint64 ((timeSub since netIoStat.time).tdiv 1000000))

def sumAndTrackPerNicDeltas (a : NetAgent) (cacheTimeMs : Uint16) (msElapsed : Uint64)
    (netIo : NetReading) (systemStats : Stats) : NicSums :=
  netIo.counters.foldl (NicSums.track a.netInterfaces msElapsed)
    { tracker := ((a.netInterfaceDeltaTrackers cacheTimeMs).getD {}).cycle, systemStats }

def netRates (a : NetAgent) (r : NetCall) (netIo : NetReading) (systemStats : Stats) : NetRates :=
  let (nis, msElapsed) := a.loadAndTickNetBaseline r.cacheTimeMs r.since r.now
  let sums := a.sumAndTrackPerNicDeltas r.cacheTimeMs msElapsed netIo systemStats
  let (bytesSentPerSecond, bytesRecvPerSecond) :=
    computeBytesPerSecond msElapsed sums.totalBytesSent sums.totalBytesRecv nis
  { nis, msElapsed, sums, bytesSentPerSecond, bytesRecvPerSecond }

section Configured

variable (pathMatch : String → String → Bool) (nicCfg : Option NicConfig)

def initializeNetIoStats (netIo : Option NetReading) : NetAgent where
  netInterfaces :=
    match netIo with
    | none => ∅
    | some netIo =>
        ((netIo.counters.filter fun v => !skipNetworkInterface pathMatch v nicCfg).map
          (·.name)).toFinset

def ensureNetInterfacesInitialized (a : NetAgent) (before : Option NetReading) : NetAgent :=
  if a.netInterfaces = ∅ then initializeNetIoStats pathMatch nicCfg before else a

/-- The totals are reported, or everything is reset on an anomaly. -/
def applyNetworkTotals (a : NetAgent) (r : NetCall) (rates : NetRates) : NetAgent × Stats :=
  if rates.Invalid then
    (initializeNetIoStats pathMatch nicCfg r.after,
      { rates.sums.systemStats with bandwidth := ![0, 0] })
  else
    ({ a with
        netInterfaceDeltaTrackers :=
          Function.update a.netInterfaceDeltaTrackers r.cacheTimeMs (some rates.sums.tracker)
        netIoStats :=
          Function.update a.netIoStats r.cacheTimeMs
            (some
              { rates.nis with
                bytesSent := rates.sums.totalBytesSent
                bytesRecv := rates.sums.totalBytesRecv }) },
      { rates.sums.systemStats with
        bandwidth := ![rates.bytesSentPerSecond, rates.bytesRecvPerSecond] })

def updateNetworkStats (a : NetAgent) (r : NetCall) (systemStats : Stats) : NetAgent × Stats :=
  let a := a.ensureNetInterfacesInitialized pathMatch nicCfg r.before
  match r.netIo with
  | none => (a, systemStats)
  | some netIo => a.applyNetworkTotals pathMatch nicCfg r (a.netRates r netIo systemStats)

def Resets (a : NetAgent) (r : NetCall) : Prop :=
  ∃ netIo ∈ r.netIo,
    ((a.ensureNetInterfacesInitialized pathMatch nicCfg r.before).netRates r netIo {}).Invalid

instance (a : NetAgent) (r : NetCall) : Decidable (a.Resets pathMatch nicCfg r) :=
  decidable_of_iff
    (r.netIo.any fun netIo =>
      ((a.ensureNetInterfacesInitialized pathMatch nicCfg r.before).netRates r netIo {}).Invalid)
    (by
      unfold Resets
      cases r.netIo <;> simp)

end Configured

end NetAgent

/-! ### Runs -/

/-- What has been reported, of the interfaces that were tracked. -/
structure NetReport where
  netInterfaces : Finset String
  stats : Stats

/-- The total bandwidth is that of the interfaces, to within one for each. -/
def NetReport.Agrees (report : NetReport) : Prop :=
  ∀ i : Fin 2,
    |((report.stats.bandwidth i).val : ℤ) -
        (∑ name ∈ report.netInterfaces,
          ((report.stats.networkInterfaces.lookup name).elim 0 fun v =>
            (v (i.castLE rates_le)).val : ℕ) : ℕ)| ≤ report.netInterfaces.card

instance (report : NetReport) : Decidable report.Agrees := by
  unfold NetReport.Agrees
  infer_instance

/-- The agent, and what it has reported without an anomaly. -/
structure NetPolls where
  agent : NetAgent := {}
  reports : List NetReport := []

namespace NetPolls

variable (pathMatch : String → String → Bool) (nicCfg : Option NicConfig)

def step (s : NetPolls) (r : NetCall) : Option NetPolls :=
  let (agent, stats) := s.agent.updateNetworkStats pathMatch nicCfg r {}
  some
    { agent
      reports :=
        if s.agent.Resets pathMatch nicCfg r then s.reports
        else { netInterfaces := agent.netInterfaces, stats } :: s.reports }

end NetPolls

/-! ### What the total does not hide -/

def nicKey (i : Fin 2) (name : String) : String :=
  name ++ if i = 0 then "up" else "down"

def NetCounters.bytes (v : NetCounters) (i : Fin 2) : Uint64 :=
  if i = 0 then v.bytesSent else v.bytesRecv

def NetReading.bytes (netIo : NetReading) (i : Fin 2) (name : String) : Option ℕ :=
  (netIo.counters.find? (·.name = name)).map fun v => (v.bytes i).val

def NetAgent.lastBytes (a : NetAgent) (cacheTimeMs : Uint16) (i : Fin 2) (name : String) :
    Option ℕ :=
  (((a.netInterfaceDeltaTrackers cacheTimeMs).getD {}).current (nicKey i name)).map (·.val)

/-- What has appeared since the last reading at an interval and what has been lost, by interfaces
that are gone or have started again, are the same to within one byte per second; and a thousand
times what there is more fits in 64 bits. -/
structure NetAgent.Balanced (a : NetAgent) (cacheTimeMs : Uint16) (msElapsed : Uint64)
    (netIo : NetReading) (i : Fin 2) : Prop where
  hidden : |(∑ name ∈ a.netInterfaces,
    CounterSums.hidden (a.lastBytes cacheTimeMs i name) (netIo.bytes i name)) * 1000| ≤
      msElapsed.val
  growth : (∑ name ∈ a.netInterfaces,
    CounterSums.growth (a.lastBytes cacheTimeMs i name) (netIo.bytes i name)) * 1000 < 2 ^ 64
  le_total : ∑ name ∈ a.netInterfaces, (a.lastBytes cacheTimeMs i name).getD 0 ≤
    ∑ name ∈ a.netInterfaces, (netIo.bytes i name).getD 0
  total : (∑ name ∈ a.netInterfaces, (netIo.bytes i name).getD 0 -
    ∑ name ∈ a.netInterfaces, (a.lastBytes cacheTimeMs i name).getD 0) * 1000 < 2 ^ 64

instance (a : NetAgent) (cacheTimeMs : Uint16) (msElapsed : Uint64) (netIo : NetReading)
    (i : Fin 2) : Decidable (a.Balanced cacheTimeMs msElapsed netIo i) :=
  decidable_of_iff
    (|(∑ name ∈ a.netInterfaces,
        CounterSums.hidden (a.lastBytes cacheTimeMs i name) (netIo.bytes i name)) * 1000| ≤
          msElapsed.val ∧
      (∑ name ∈ a.netInterfaces,
        CounterSums.growth (a.lastBytes cacheTimeMs i name) (netIo.bytes i name)) * 1000 < 2 ^ 64 ∧
      ∑ name ∈ a.netInterfaces, (a.lastBytes cacheTimeMs i name).getD 0 ≤
        ∑ name ∈ a.netInterfaces, (netIo.bytes i name).getD 0 ∧
      (∑ name ∈ a.netInterfaces, (netIo.bytes i name).getD 0 -
        ∑ name ∈ a.netInterfaces, (a.lastBytes cacheTimeMs i name).getD 0) * 1000 < 2 ^ 64)
    ⟨fun h => ⟨h.1, h.2.1, h.2.2.1, h.2.2.2⟩, fun h => ⟨h.1, h.2, h.3, h.4⟩⟩

/-- At a reading that is not the first at its interval, and that is not thrown away, both directions
are balanced. -/
def NetPolls.NothingHidden (pathMatch : String → String → Bool) (nicCfg : Option NicConfig)
    (s : NetPolls) (r : NetCall) : Prop :=
  let a := s.agent.ensureNetInterfacesInitialized pathMatch nicCfg r.before
  ∀ netIo ∈ r.netIo, ¬ s.agent.Resets pathMatch nicCfg r →
    let msElapsed := (a.loadAndTickNetBaseline r.cacheTimeMs r.since r.now).2
    0 < msElapsed → ∀ i, a.Balanced r.cacheTimeMs msElapsed netIo i

instance (pathMatch : String → String → Bool) (nicCfg : Option NicConfig) (s : NetPolls)
    (r : NetCall) : Decidable (s.NothingHidden pathMatch nicCfg r) := by
  unfold NetPolls.NothingHidden
  infer_instance

end Picket.Gather
