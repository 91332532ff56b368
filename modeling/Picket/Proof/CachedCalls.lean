import Picket.GatherStats

/-!
# What a cached answer still says

A cached answer is the struct of the last uncached one, without the details. What it holds itself
is the same; what it points to belongs to the agent, and is the same only as long as no uncached
call, at whatever interval, and no refresh of the services has written it.
-/

namespace Picket.Gather

open Transition

/-! ### The last uncached call -/

def Happening.IsUncached : Happening → Prop
  | .call c => c.isCached = false
  | _ => False

def Happening.IsUncachedAt (cacheTimeMs : Uint16) : Happening → Prop
  | .call c => c.isCached = false ∧ c.options.cacheTimeMs = cacheTimeMs
  | _ => False

def Happening.IsServices : Happening → Prop
  | .services => True
  | _ => False

/-- The last uncached call at the interval, and what has happened since. -/
def LastUncached (history : List Happening) (cacheTimeMs : Uint16) (last : Call)
    (between : List Happening) : Prop :=
  (∃ earlier, history = earlier ++ .call last :: between) ∧
  last.isCached = false ∧ last.options.cacheTimeMs = cacheTimeMs ∧
  ∀ h ∈ between, ¬ h.IsUncachedAt cacheTimeMs

/-- The data are those of the last uncached call without the details, and the objects are as they
were then if nothing has happened since that writes them. -/
structure Still (last : Call) (between : List Happening) (data : CombinedData)
    (reached : Reached) : Prop where
  data : data = { last.data with details := false }
  disks : (∀ h ∈ between, ¬ h.IsUncached) → reached.extraFs = last.reached.extraFs
  containers : (∀ h ∈ between, ¬ h.IsUncached) → reached.containers = last.reached.containers
  services : (∀ h ∈ between, ¬ h.IsServices) →
    reached.systemdServices = last.reached.systemdServices

section Snoc

variable {history between : List Happening} {cacheTimeMs : Uint16} {last : Call} {h : Happening}

theorem LastUncached.snoc (hlast : LastUncached history cacheTimeMs last between)
    (hh : ¬ h.IsUncachedAt cacheTimeMs) :
    LastUncached (history ++ [h]) cacheTimeMs last (between ++ [h]) := by
  obtain ⟨⟨earlier, rfl⟩, huncached, hinterval, hbetween⟩ := hlast
  refine ⟨⟨earlier, by simp⟩, huncached, hinterval, fun h' hmem => ?_⟩
  rcases List.mem_append.mp hmem with hold | hnew
  · exact hbetween h' hold
  · rwa [List.mem_singleton.mp hnew]

theorem Still.snoc {data : CombinedData} {reached reached' : Reached}
    (hstill : Still last between data reached)
    (hwritten : ¬ h.IsUncached →
      reached'.extraFs = reached.extraFs ∧ reached'.containers = reached.containers)
    (hservices : ¬ h.IsServices → reached'.systemdServices = reached.systemdServices) :
    Still last (between ++ [h]) data reached' where
  data := hstill.data
  disks hquiet := by
    rw [(hwritten (hquiet h (by simp))).1]
    exact hstill.disks fun h' hmem => hquiet h' (List.mem_append_left _ hmem)
  containers hquiet := by
    rw [(hwritten (hquiet h (by simp))).2]
    exact hstill.containers fun h' hmem => hquiet h' (List.mem_append_left _ hmem)
  services hquiet := by
    rw [hservices (hquiet h (by simp))]
    exact hstill.services fun h' hmem => hquiet h' (List.mem_append_left _ hmem)

theorem snoc_split {before after : List Happening} {h' : Happening}
    (hsplit : history ++ [h] = before ++ h' :: after) :
    (before = history ∧ h' = h) ∨ ∃ after', history = before ++ h' :: after' := by
  rcases List.eq_nil_or_concat after with rfl | ⟨after', h'', rfl⟩
  · obtain ⟨hhistory, heq⟩ := List.append_inj' hsplit rfl
    exact .inl ⟨hhistory.symm, (List.singleton_inj.mp heq).symm⟩
  · rw [List.concat_eq_append, ← List.cons_append, ← List.append_assoc] at hsplit
    exact .inr ⟨after', (List.append_inj' hsplit rfl).1⟩

end Snoc

/-! ### An uncached call -/

namespace Agent

variable {cfg : GatherConfig} {a a' : Agent} {cacheTimeMs : Uint16} {r : Reading}

/-- The objects of the services. -/
def serviceObjects (a : Agent) : List Service :=
  a.systemdManager.elim [] (·.serviceStatsMap.objects)

theorem reach_systemdServices (a : Agent) (data : CombinedData) :
    (a.reach data).systemdServices = data.systemdServices.filterMap (a.serviceObjects[·]?) := by
  rw [reach, serviceObjects]
  cases a.systemdManager <;> rfl

theorem addServices_spec (a : Agent) (cacheTimeMs : Uint16) (data : CombinedData) :
    (a.addServices cacheTimeMs data).1.cache = a.cache ∧
      (a.addServices cacheTimeMs data).1.serviceObjects = a.serviceObjects ∧
      (a.addServices cacheTimeMs data).2.details = data.details := by
  rw [addServices]
  cases hmanager : a.systemdManager with
  | none => exact ⟨rfl, rfl, rfl⟩
  | some sm =>
      simp only
      split
      · exact ⟨rfl, rfl, rfl⟩
      · have hdetails (services : List Uint16) (c : Prop) [Decidable c] :
            (if c then { data with info := { data.info with services } } else data).details =
              data.details := by split <;> rfl
        split
        · refine ⟨rfl, ?_, hdetails _ _⟩
          rw [serviceObjects, serviceObjects, hmanager]
          rfl
        · exact ⟨rfl, rfl, hdetails _ _⟩

theorem pollContainers_spec {containers : List ℕ}
    (hpoll : a.pollContainers cfg cacheTimeMs r = some (a', containers)) :
    a'.cache = a.cache ∧ a'.serviceObjects = a.serviceObjects := by
  rw [pollContainers] at hpoll
  cases hmanager : a.dockerManager with
  | none =>
      simp only [hmanager, Option.some_inj, Prod.mk.injEq] at hpoll
      rw [← hpoll.1]
      exact ⟨rfl, rfl⟩
  | some s =>
      simp only [hmanager, Option.map_eq_some_iff] at hpoll
      obtain ⟨answer, -, heq⟩ := hpoll
      split at heq
      all_goals
        rw [← (Prod.mk.inj heq).1]
        exact ⟨rfl, rfl⟩

theorem gatherUncached_spec {data : CombinedData}
    (hgather : a.gatherUncached cfg cacheTimeMs r = some (a', data)) :
    a'.cache = Function.update a.cache cacheTimeMs (some ⟨data, r.now⟩) ∧
      a'.serviceObjects = a.serviceObjects ∧ data.details = false := by
  rw [gatherUncached] at hgather
  obtain ⟨⟨polled, containers⟩, hpoll, heq⟩ := Option.map_eq_some_iff.mp hgather
  obtain ⟨hcache, hobjects⟩ := pollContainers_spec hpoll
  obtain ⟨rfl, rfl⟩ := Prod.mk.inj heq
  obtain ⟨hcache', hobjects', hdetails⟩ := polled.addServices_spec cacheTimeMs
    { stats := (a.getSystemStats cacheTimeMs r).2
      info := (a.getSystemStats cacheTimeMs r).1.systemInfo
      containers }
  exact ⟨congrArg (fun cache => Function.update cache cacheTimeMs _) (hcache'.trans hcache),
    hobjects'.trans hobjects, hdetails⟩

theorem attachSystemDetails_spec (a : Agent) (data : CombinedData) (options : DataRequestOptions) :
    (a.attachSystemDetails data options).1.cache = a.cache ∧
      (a.attachSystemDetails data options).1.serviceObjects = a.serviceObjects ∧
      ∃ details, (a.attachSystemDetails data options).2 = { data with details } := by
  rw [attachSystemDetails]
  split
  · exact ⟨rfl, rfl, data.details, rfl⟩
  · exact ⟨rfl, rfl, true, rfl⟩

end Agent

/-! ### Runs -/

/-- What an answer from the cache is to be. -/
def Call.FromCache (before : List Happening) (call : Call) : Prop :=
  ∃ last between, LastUncached before call.options.cacheTimeMs last between ∧
    Still last between call.data call.reached ∧ call.reached.details = none

structure CacheInv (s : Gathering) : Prop where
  nodes : ∀ cacheTimeMs node, s.agent.cache cacheTimeMs = some node → ∃ last between,
    LastUncached s.history cacheTimeMs last between ∧
      Still last between node.data (s.agent.reach node.data)
  calls : ∀ before call after, s.history = before ++ .call call :: after → call.isCached = true →
    call.FromCache before

section Step

variable {cfg : GatherConfig} {s : Gathering} {agent : Agent} {h : Happening}

/-- Something happens that leaves the cache alone. -/
theorem CacheInv.keep (hinv : CacheInv s) (hcache : agent.cache = s.agent.cache)
    (huncached : ∀ cacheTimeMs, ¬ h.IsUncachedAt cacheTimeMs)
    (hcall : ∀ call, h = .call call → call.isCached = true → call.FromCache s.history)
    (hwritten : agent.disks = s.agent.disks ∧ agent.dockerManager = s.agent.dockerManager)
    (hservices : ¬ h.IsServices → agent.systemdManager = s.agent.systemdManager) :
    CacheInv ⟨agent, s.history ++ [h]⟩ where
  nodes cacheTimeMs node hnode := by
    rw [hcache] at hnode
    obtain ⟨last, between, hlast, hstill⟩ := hinv.nodes cacheTimeMs node hnode
    refine ⟨last, between ++ [h], hlast.snoc (huncached cacheTimeMs), hstill.snoc ?_ ?_⟩
    · intro _
      simp only [Agent.reach, hwritten.1, hwritten.2, and_self]
    · intro hnot
      simp only [Agent.reach, hservices hnot]
  calls before call after hsplit hcached := by
    rcases snoc_split hsplit with ⟨rfl, heq⟩ | ⟨after', hold⟩
    · exact hcall call heq.symm hcached
    · exact hinv.calls before call after' hold hcached

theorem CacheInv.cached (hinv : CacheInv s) {options : DataRequestOptions} {since : ℤ}
    {data : CombinedData} (hfresh : s.agent.fresh options.cacheTimeMs since = some data) :
    CacheInv ⟨s.agent, s.history ++ [.call ⟨options, true, data, s.agent.reach data⟩]⟩ := by
  refine hinv.keep rfl (fun _ huncached => nomatch huncached.1) ?_ ⟨rfl, rfl⟩
    fun _ => rfl
  rintro call ⟨⟩ -
  obtain ⟨node, hnode, hdata⟩ := Option.bind_eq_some_iff.mp hfresh
  obtain ⟨-, hdata⟩ := Option.ite_none_right_eq_some.mp hdata
  obtain rfl := Option.some.inj hdata
  obtain ⟨last, between, hlast, hstill⟩ := hinv.nodes _ node hnode
  refine ⟨last, between, hlast, hstill, ?_⟩
  have hdetails : node.data.details = false := by rw [hstill.data]
  simp only [Agent.reach, hdetails, Bool.false_eq_true, if_false]

theorem still_self (agent : Agent) {data : CombinedData} (hdata : data.details = false)
    (details : Bool) (options : DataRequestOptions) :
    Still ⟨options, false, { data with details }, agent.reach { data with details }⟩ [] data
      (agent.reach data) where
  data := by
    change data = { data with details := false }
    rw [← hdata]
  disks _ := rfl
  containers _ := rfl
  services _ := rfl

theorem CacheInv.gathered (hinv : CacheInv s) {options : DataRequestOptions} {r : Reading}
    {data : CombinedData}
    (hgather : s.agent.gatherUncached cfg options.cacheTimeMs r = some (agent, data)) :
    let (agent, data) := agent.attachSystemDetails data options
    CacheInv ⟨agent, s.history ++ [.call ⟨options, false, data, agent.reach data⟩]⟩ := by
  obtain ⟨hcache, hobjects, hdetails⟩ := Agent.gatherUncached_spec hgather
  obtain ⟨hcache', hobjects', details, hdata⟩ := agent.attachSystemDetails_spec data options
  generalize agent.attachSystemDetails data options = answer at hcache' hobjects' hdata ⊢
  obtain ⟨agent', data'⟩ := answer
  obtain rfl : data' = { data with details } := hdata
  simp only at hcache' hobjects' ⊢
  set call : Call := ⟨options, false, { data with details }, agent'.reach { data with details }⟩
  refine ⟨fun cacheTimeMs node hnode => ?_, fun before call after hsplit hcached => ?_⟩
  · simp only [hcache', hcache] at hnode
    by_cases hinterval : cacheTimeMs = options.cacheTimeMs
    · subst hinterval
      rw [Function.update_self] at hnode
      obtain rfl := Option.some.inj hnode
      refine ⟨call, [], ⟨⟨s.history, rfl⟩, rfl, rfl, by simp⟩, ?_⟩
      exact still_self agent' hdetails details options
    · rw [Function.update_of_ne hinterval] at hnode
      obtain ⟨last, between, hlast, hstill⟩ := hinv.nodes cacheTimeMs node hnode
      refine ⟨last, _, hlast.snoc fun hat => hinterval hat.2.symm, hstill.snoc ?_ fun _ => ?_⟩
      · exact fun hcached => absurd rfl hcached
      · rw [Agent.reach_systemdServices, Agent.reach_systemdServices, hobjects', hobjects]
  · rcases snoc_split hsplit with ⟨-, heq⟩ | ⟨after', hold⟩
    · obtain rfl := Happening.call.inj heq
      cases hcached
    · exact hinv.calls before call after' hold hcached

theorem cacheInv_step (hinv : CacheInv s) {e : GatherEvent} {s' : Gathering}
    (hstep : s.step cfg e = some s') : CacheInv s' := by
  rw [Gathering.step.eq_def] at hstep
  cases e with
  | gatherStats options r =>
      simp only at hstep
      obtain ⟨-, hstep⟩ := Option.ite_none_right_eq_some.mp hstep
      obtain ⟨⟨agent, data, isCached⟩, hgather, rfl⟩ := Option.map_eq_some_iff.mp hstep
      rw [Agent.gatherStats.eq_def] at hgather
      cases hfresh : s.agent.fresh options.cacheTimeMs r.since with
      | some cached =>
          simp only [hfresh, Option.some_inj, Prod.mk.injEq] at hgather
          obtain ⟨rfl, rfl, rfl⟩ := hgather
          exact hinv.cached hfresh
      | none =>
          simp only [hfresh, Option.map_eq_some_iff, Prod.mk.injEq] at hgather
          obtain ⟨⟨agent', data'⟩, huncached, rfl, rfl, rfl⟩ := hgather
          exact hinv.gathered huncached
  | updateServiceStats unit =>
      obtain ⟨sm, -, rfl⟩ := Option.map_eq_some_iff.mp hstep
      exact hinv.keep rfl (fun _ => id) (by simp) ⟨rfl, rfl⟩ fun hnot => absurd trivial hnot
  | finishRefresh currentUnits =>
      obtain ⟨sm, -, rfl⟩ := Option.map_eq_some_iff.mp hstep
      exact hinv.keep rfl (fun _ => id) (by simp) ⟨rfl, rfl⟩ fun hnot => absurd trivial hnot
  | updateSystemDetails details =>
      obtain rfl := Option.some.inj hstep
      exact hinv.keep rfl (fun _ => id) (by simp) ⟨rfl, rfl⟩ fun _ => rfl

end Step

theorem cacheInv_start (a : Agent) : CacheInv (.start a) where
  nodes _ _ hnode := by cases hnode
  calls before call after hsplit := by
    have hlength := congrArg List.length hsplit
    simp [Gathering.start] at hlength

/-- **Cached answers.** In every run each answer from the cache is the struct of the last uncached
call at its interval without the details, and what it points to is as that call returned it, as long
as nothing has happened since that writes it. -/
theorem fromCache_of_run {cfg : GatherConfig} {a : Agent} {es : List GatherEvent} {s : Gathering}
    (hrun : run (Gathering.step cfg) (.start a) es = some s) {before after : List Happening}
    {call : Call} (hcall : s.history = before ++ .call call :: after)
    (hcached : call.isCached = true) : call.FromCache before := by
  have hinv : CacheInv s :=
    (guarded_of_run hrun).invariant (fun _ _ _ hinv _ hstep => cacheInv_step hinv hstep)
      (cacheInv_start a)
  exact hinv.calls before call after hcall hcached

def Happening.call? : Happening → Option Call
  | .call c => some c
  | _ => none

theorem call_of_map {h : Happening} {V : Type} {f : Call → V} {v : V}
    (hmap : h.call?.map f = some v) : ∃ c, h = .call c ∧ f c = v := by
  cases h with
  | call c => exact ⟨c, rfl, Option.some.inj hmap⟩
  | services => cases hmap
  | details => cases hmap

def noConfig : GatherConfig where
  docker := { pathMatch := fun _ _ => false, sortPorts := id }
  systemd := { numCPU := 1, unquote := fun _ => none }

def busyAgent : Agent where
  disks := { fsStats := [("sda1", { root := true }), ("sdb1", { name := "data" })] }
  dockerManager := some {}
  systemdManager := some {}

/-- The second filesystem has an amount in use, and the container an amount of memory. -/
def busyReading (second : ℤ) (used memory : Uint64) : Reading where
  since := second * 1000000000
  usage :=
    { since := second * 1000000000
      usages :=
        [("sda1", some { total := 2147483648, used := 1073741824, usedPercent := 50 }),
          ("sdb1", some { total := 8589934592, used })]
      now := second * 1000000000 }
  docker :=
    .listed
      { cacheTimeMs := 60000
        listed :=
          [{ entry :=
               { id := some (List.replicate 64 99), names := some ["/web".toUTF8.toList],
                 status := some "Up 2 hours" }
             first :=
               { response :=
                   some { read := some second, totalUsage := some 5, systemUsage := some 9,
                          usage := some memory } } }] }
      [.visit, .update 0]
  fsOrder := ["sda1", "sdb1"]
  now := second * 1000000000

def sshService (memory : Uint64) : GatherEvent :=
  .updateServiceStats
    { name := "ssh.service", activeState := "active", subState := "running"
      activeEnterTimestamp := some 1, memoryCurrent := some memory }

/-- A call at another interval comes between an uncached call and the next one, which is cached; the
service is updated in between too. Then nothing comes between such calls. -/
def busyCalls : List GatherEvent :=
  [sshService 1000, .finishRefresh ["ssh.service"],
    .gatherStats ⟨60000, true⟩ (busyReading 1000 4294967296 104857600), sshService 2000,
    .gatherStats ⟨1000, false⟩ (busyReading 1010 5368709120 209715200),
    .gatherStats ⟨60000, true⟩ (busyReading 1020 6442450944 314572800),
    .gatherStats ⟨60000, false⟩ (busyReading 1040 7516192768 419430400),
    .gatherStats ⟨60000, false⟩ (busyReading 1050 8589934592 524288000)]

/-- What the pointers of a call reach: gigabytes of a filesystem, megabytes of the containers, and
bytes of the services. -/
structure Objects where
  extraFs : Option ℚ
  containers : List ℚ
  services : List Uint64
  deriving DecidableEq

def Call.summary (c : Call) : Uint16 × Bool × Objects :=
  (c.options.cacheTimeMs, c.isCached,
    { extraFs := (c.reached.extraFs.lookup "data").map (·.diskUsed)
      containers := c.reached.containers.map (·.mem)
      services := c.reached.systemdServices.map (·.mem) })

theorem fromCache_busyCalls : ∃ s before between last other call last' call',
    run (Gathering.step noConfig) (.start busyAgent) busyCalls = some s ∧
    s.history =
      before ++ [.call last, between, .call other, .call call, .call last', .call call'] ∧
    last.summary = (60000, false, ⟨some 4, [100], [1000]⟩) ∧
    other.summary = (1000, false, ⟨some 5, [200], []⟩) ∧
    call.summary = (60000, true, ⟨some 5, [200], [2000]⟩) ∧
    last'.summary = (60000, false, ⟨some 7, [400], []⟩) ∧
    call'.summary = (60000, true, ⟨some 7, [400], []⟩) ∧
    call.FromCache (before ++ [.call last, between, .call other]) ∧
    call'.FromCache
      (before ++ [.call last, between, .call other, .call call, .call last']) := by
  obtain ⟨s, hrun, hsummary⟩ := Option.map_eq_some_iff.mp
    (show (run (Gathering.step noConfig) (.start busyAgent) busyCalls).map
        (·.history.map fun h => h.call?.map Call.summary) =
      some ([none, none] ++ [some (60000, false, ⟨some 4, [100], [1000]⟩), none,
        some (1000, false, ⟨some 5, [200], []⟩), some (60000, true, ⟨some 5, [200], [2000]⟩),
        some (60000, false, ⟨some 7, [400], []⟩), some (60000, true, ⟨some 7, [400], []⟩)]) by
      decide +kernel)
  obtain ⟨before, rest, hhistory, -, hrest⟩ := List.map_eq_append_iff.mp hsummary
  obtain ⟨h₁, rest, rfl, hlast₁, hrest⟩ := List.map_eq_cons_iff.mp hrest
  obtain ⟨between, rest, rfl, -, hrest⟩ := List.map_eq_cons_iff.mp hrest
  obtain ⟨h₂, rest, rfl, hother₁, hrest⟩ := List.map_eq_cons_iff.mp hrest
  obtain ⟨h₃, rest, rfl, hcall₁, hrest⟩ := List.map_eq_cons_iff.mp hrest
  obtain ⟨h₄, rest, rfl, hlast₂, hrest⟩ := List.map_eq_cons_iff.mp hrest
  obtain ⟨h₅, rest, rfl, hcall₂, hnil⟩ := List.map_eq_cons_iff.mp hrest
  obtain rfl := List.map_eq_nil_iff.mp hnil
  obtain ⟨last, rfl, hlast⟩ := call_of_map hlast₁
  obtain ⟨other, rfl, hother⟩ := call_of_map hother₁
  obtain ⟨call, rfl, hcall⟩ := call_of_map hcall₁
  obtain ⟨last', rfl, hlast'⟩ := call_of_map hlast₂
  obtain ⟨call', rfl, hcall'⟩ := call_of_map hcall₂
  have hcached : call.isCached = true := congrArg (fun summary => summary.2.1) hcall
  have hcached' : call'.isCached = true := congrArg (fun summary => summary.2.1) hcall'
  have hfirst : s.history = (before ++ [.call last, between, .call other]) ++
      .call call :: [.call last', .call call'] := by
    rw [hhistory, List.append_assoc]
    rfl
  have hhistory' : s.history =
      (before ++ [.call last, between, .call other, .call call, .call last']) ++ [.call call'] := by
    rw [hhistory, List.append_assoc]
    rfl
  exact ⟨s, before, between, last, other, call, last', call', hrun, hhistory, hlast, hother, hcall,
    hlast', hcall', fromCache_of_run hrun hfirst hcached, fromCache_of_run hrun hhistory' hcached'⟩

/-- The first call asks for the details; the second comes a second later. -/
def twoCalls : List GatherEvent :=
  [.gatherStats ⟨60000, true⟩ {}, .gatherStats ⟨60000, true⟩ { since := 1000000000 }]

theorem cached_differs : ¬ ∀ (cfg : GatherConfig) (a : Agent) (es : List GatherEvent)
    (s : Gathering), run (Gathering.step cfg) (.start a) es = some s →
    ∀ before call after, s.history = before ++ .call call :: after → call.isCached = true →
      ∀ last between, LastUncached before call.options.cacheTimeMs last between →
        call.data = last.data ∧ call.reached = last.reached := by
  intro hall
  obtain ⟨s, hrun, hsummary⟩ := Option.map_eq_some_iff.mp
    (show (run (Gathering.step noConfig) (.start {}) twoCalls).map
        (·.history.map fun h =>
          h.call?.map fun c => (c.options.cacheTimeMs, c.isCached, c.reached.details.isSome)) =
      some [some (60000, false, true), some (60000, true, false)] by decide +kernel)
  obtain ⟨h, rest, hhistory, hfirst, hrest⟩ := List.map_eq_cons_iff.mp hsummary
  obtain ⟨h', rest', rfl, hsecond, hnil⟩ := List.map_eq_cons_iff.mp hrest
  obtain rfl := List.map_eq_nil_iff.mp hnil
  obtain ⟨last, rfl, hlast⟩ := call_of_map hfirst
  obtain ⟨call, rfl, hcall⟩ := call_of_map hsecond
  simp only [Prod.mk.injEq] at hlast hcall
  obtain ⟨hinterval, hlast, hdetails⟩ := hlast
  obtain ⟨hinterval', hcall, hdetails'⟩ := hcall
  have huncached : LastUncached [.call last] call.options.cacheTimeMs last [] :=
    ⟨⟨[], rfl⟩, hlast, hinterval.trans hinterval'.symm, by simp⟩
  obtain ⟨-, hreached⟩ :=
    hall noConfig {} twoCalls s hrun [.call last] call [] hhistory hcall last [] huncached
  rw [hreached, hdetails] at hdetails'
  cases hdetails'

end Picket.Gather
