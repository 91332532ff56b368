import Picket.DetailsSync
import Picket.Lib.Transition
import Picket.Proof.CachedCalls

/-!
# The hub has the details of the agent

The details that a `System` has, those on their way to it and those of the agent are versions of the
same details, each the one before it or that with podman. The last version that was sent is that of
the agent, unless the agent knows that it has changed. Only an answer that comes too late can break
this: the agent takes its details for sent, and the hub has some and does not ask again.
-/

namespace Picket.DetailsSync

open Transition

/-! ### Versions -/

/-- The details of an agent change in one way only. -/
def Precedes (old details : Details) : Prop :=
  details = old ∨ details = { old with podman := true }

theorem Precedes.refl (details : Details) : Precedes details details :=
  Or.inl rfl

theorem Precedes.setIsPodman {old details : Details} (h : Precedes old details) :
    Precedes old { details with podman := true } := by
  rcases h with rfl | rfl
  · exact Or.inr rfl
  · exact Or.inr rfl

theorem decode_encode (details : Details) : (encode details).decode {} = details := by
  obtain ⟨_, kernel, _, _, _, _, _, _, podman, _, interval⟩ := details
  by_cases hkernel : kernel = "" <;> by_cases hpodman : podman = true <;>
    by_cases hinterval : interval = 0 <;> simp [encode, SentDetails.decode, *]

/-- What is left out of the encoding did not change. -/
theorem decode_encode_of_precedes {old details : Details} (h : Precedes old details) :
    (encode details).decode old = details := by
  obtain ⟨_, kernel, _, _, _, _, _, _, podman, _, interval⟩ := old
  rcases h with rfl | rfl
  · by_cases hkernel : kernel = "" <;> by_cases hpodman : podman = true <;>
      by_cases hinterval : interval = 0 <;> simp [encode, SentDetails.decode, *]
  · by_cases hkernel : kernel = "" <;> by_cases hinterval : interval = 0 <;>
      simp [encode, SentDetails.decode, *]

/-! ### The answers of the agent -/

section Gathering

variable {cfg : Gather.GatherConfig} {a a' : Gather.Agent} {cacheTimeMs : Uint16}
  {r : Gather.Reading}

def ofGather (a : Gather.Agent) : Agent where
  systemDetails := a.systemDetails
  detailsDirty := a.detailsDirty

theorem ofGather_pollContainers {containers : List ℕ}
    (hpoll : a.pollContainers cfg cacheTimeMs r = some (a', containers)) :
    ofGather a' = ofGather a ∨ ofGather a' = (ofGather a).setIsPodman := by
  unfold Gather.Agent.pollContainers at hpoll
  split at hpoll
  · cases hpoll
    exact Or.inl rfl
  · obtain ⟨⟨polls, found⟩, -, hresult⟩ := Option.map_eq_some_iff.mp hpoll
    dsimp only at hresult
    split at hresult
    · cases hresult
      exact Or.inr rfl
    · cases hresult
      exact Or.inl rfl

theorem ofGather_addServices (a : Gather.Agent) (cacheTimeMs : Uint16)
    (data : Gather.CombinedData) :
    ofGather (a.addServices cacheTimeMs data).1 = ofGather a := by
  unfold Gather.Agent.addServices
  split
  · rfl
  · split
    · rfl
    · dsimp only
      split <;> rfl

theorem ofGather_gatherUncached {data : Gather.CombinedData}
    (hgather : a.gatherUncached cfg cacheTimeMs r = some (a', data)) :
    ofGather a' = ofGather a ∨ ofGather a' = (ofGather a).setIsPodman := by
  rw [Gather.Agent.gatherUncached] at hgather
  obtain ⟨⟨polled, containers⟩, hpoll, hresult⟩ := Option.map_eq_some_iff.mp hgather
  obtain ⟨rfl, rfl⟩ := Prod.mk.inj hresult
  have hservices := ofGather_addServices polled cacheTimeMs
    { stats := (a.getSystemStats cacheTimeMs r).2
      info := (a.getSystemStats cacheTimeMs r).1.systemInfo
      containers }
  have hstats : ofGather (a.getSystemStats cacheTimeMs r).1 = ofGather a := rfl
  rcases ofGather_pollContainers hpoll with hsame | hpodman
  · exact Or.inl (hservices.trans (hsame.trans hstats))
  · exact Or.inr (hservices.trans hpodman)

/-- A call at the default interval answers as the agent of this model does, after it has found out
about podman or not. -/
theorem attachSystemDetails_gatherStats {s : Gather.Gathering} (hinv : Gather.CacheInv s)
    {options : DataRequestOptions} {data : Gather.CombinedData} {isCached : Bool}
    (hinterval : options.cacheTimeMs = Gather.defaultDataCacheTimeMs)
    (hcall : s.agent.gatherStats cfg options r = some (a', data, isCached)) :
    ∃ b, (b = ofGather s.agent ∨ b = (ofGather s.agent).setIsPodman) ∧
      (ofGather a', (a'.reach data).details)
        = b.attachSystemDetails isCached options.includeDetails := by
  unfold Gather.Agent.gatherStats at hcall
  split at hcall
  · rename_i node hfresh
    cases hcall
    refine ⟨_, Or.inl rfl, ?_⟩
    obtain ⟨node, hnode, hdata⟩ := Option.bind_eq_some_iff.mp hfresh
    obtain ⟨-, hdata⟩ := Option.ite_none_right_eq_some.mp hdata
    obtain ⟨_, _, -, hstill⟩ := hinv.nodes _ node hnode
    have hdetails : node.data.details = false := by rw [hstill.data]
    rw [Option.some.inj hdata] at hdetails
    simp [Agent.attachSystemDetails, Gather.Agent.reach, hdetails]
  · obtain ⟨⟨gathered, uncached⟩, hgather, hresult⟩ := Option.map_eq_some_iff.mp hcall
    obtain ⟨-, -, hdetails⟩ := Gather.Agent.gatherUncached_spec hgather
    refine ⟨ofGather gathered, ofGather_gatherUncached hgather, ?_⟩
    by_cases hasked : options.includeDetails = false ∧ gathered.detailsDirty = false
    · have hnot : options.cacheTimeMs ≠ Gather.defaultDataCacheTimeMs ∨
          options.includeDetails = false ∧ gathered.detailsDirty = false := Or.inr hasked
      dsimp only [Gather.Agent.attachSystemDetails] at hresult
      rw [if_pos hnot] at hresult
      cases hresult
      have hattach : false = true ∨
          options.includeDetails = false ∧ (ofGather gathered).detailsDirty = false := Or.inr hasked
      rw [Agent.attachSystemDetails, if_pos hattach]
      dsimp only [Gather.Agent.reach]
      rw [hdetails]
      rfl
    · have hnot : ¬ (options.cacheTimeMs ≠ Gather.defaultDataCacheTimeMs ∨
          options.includeDetails = false ∧ gathered.detailsDirty = false) := by
        rintro (hne | hnone)
        · exact hne hinterval
        · exact hasked hnone
      dsimp only [Gather.Agent.attachSystemDetails] at hresult
      rw [if_neg hnot] at hresult
      cases hresult
      have hattach : ¬ (false = true ∨
          options.includeDetails = false ∧ (ofGather gathered).detailsDirty = false) := by
        rintro (hcached | hnone)
        · cases hcached
        · exact hasked hnone
      rw [Agent.attachSystemDetails, if_neg hattach]
      rfl

end Gathering

namespace System

/-- The details that the hub has and those on their way to it. -/
def versions (sys : System) : List Details :=
  sys.details.toList ++ sys.answers.filterMap (·.2)

/-- The numbers of what is on the way, answers first. -/
def ids (sys : System) : List ℕ :=
  sys.answers.map (·.1) ++ sys.requests.map (·.1)

end System

/-- A `System` and the agent it is connected with. -/
structure InStep (a : Agent) (sys : System) : Prop where
  fetched : sys.detailsFetched = true → sys.details.isSome
  chain : (sys.versions ++ [a.systemDetails]).Pairwise Precedes
  latest : a.detailsDirty = false → ∀ last ∈ sys.versions.getLast?, last = a.systemDetails
  ordered : sys.ids.Pairwise (· < ·)
  bounded : ∀ id ∈ sys.ids, id ≤ sys.nextID
  waiting : ∀ id, sys.stage = .waiting id → id = sys.nextID
  quiet : sys.stage = .fetched → sys.answers = [] ∧ sys.requests = []

namespace InStep

variable {a : Agent} {sys sys' : System}

theorem fresh (a : Agent) : InStep a {} where
  fetched h := by cases h
  chain := List.pairwise_singleton _ _
  latest _ _ h := by cases h
  ordered := List.Pairwise.nil
  bounded _ h := by cases h
  waiting _ h := by cases h
  quiet _ := ⟨rfl, rfl⟩

theorem setIsPodman (h : InStep a sys) : InStep a.setIsPodman sys where
  fetched := h.fetched
  chain := by
    obtain ⟨hversions, -, hall⟩ := List.pairwise_append.mp h.chain
    refine List.pairwise_append.mpr
      ⟨hversions, List.pairwise_singleton _ _, fun old hold d hd => ?_⟩
    rw [List.mem_singleton.mp hd]
    exact (hall old hold _ List.mem_cons_self).setIsPodman
  latest hclean := by cases hclean
  ordered := h.ordered
  bounded := h.bounded
  waiting := h.waiting
  quiet := h.quiet

theorem update (h : InStep a sys) (hstep : sys.update = some sys') : InStep a sys' := by
  obtain ⟨-, hstep⟩ := Option.ite_none_right_eq_some.mp hstep
  obtain rfl := Option.some.inj hstep
  have hids : System.ids { sys with
      stage := .waiting (sys.nextID + 1)
      nextID := sys.nextID + 1
      requests := sys.requests ++ [(sys.nextID + 1, !sys.detailsFetched)] }
      = sys.ids ++ [sys.nextID + 1] := by
    simp [System.ids]
  refine ⟨h.fetched, h.chain, h.latest, ?_, ?_, ?_, fun hstage => by cases hstage⟩
  · rw [hids]
    refine List.pairwise_append.mpr ⟨h.ordered, List.pairwise_singleton _ _, fun id hid n hn => ?_⟩
    rw [List.mem_singleton.mp hn]
    exact Nat.lt_succ_of_le (h.bounded id hid)
  · rw [hids]
    intro id hid
    rcases List.mem_append.mp hid with hid | hid
    · exact (h.bounded id hid).trans (Nat.le_succ _)
    · exact (List.mem_singleton.mp hid).le
  · intro id hstage
    cases hstage
    rfl

theorem fail (h : InStep a sys) (hstep : sys.fail = some sys') : InStep a sys' := by
  unfold System.fail at hstep
  split at hstep
  · cases hstep
    exact ⟨h.fetched, h.chain, h.latest, h.ordered, h.bounded, fun _ hstage => (by cases hstage),
      fun hstage => (by cases hstage)⟩
  · cases hstep

/-- The transaction is over, whether it succeeded or not. -/
theorem idle (h : InStep a sys) (fetched : Bool)
    (hfetched : fetched = true → sys.details.isSome) :
    InStep a { sys with stage := .idle, detailsFetched := fetched } :=
  ⟨hfetched, h.chain, h.latest, h.ordered, h.bounded, fun _ hstage => (by cases hstage),
    fun hstage => (by cases hstage)⟩

theorem answer (h : InStep a sys) {id : ℕ} {includeDetails : Bool} {requests : List (ℕ × Bool)}
    (hrequests : sys.requests = (id, includeDetails) :: requests) (isCached : Bool) :
    InStep (a.attachSystemDetails isCached includeDetails).1
      { sys with
        requests
        answers := sys.answers ++ [(id, (a.attachSystemDetails isCached includeDetails).2)] } := by
  have hids (details : Option Details) :
      System.ids { sys with requests, answers := sys.answers ++ [(id, details)] } = sys.ids := by
    simp [System.ids, hrequests]
  have hrest : sys.stage ≠ .fetched := by
    intro hstage
    rw [(h.quiet hstage).2] at hrequests
    cases hrequests
  unfold Agent.attachSystemDetails
  split
  · have hversions : System.versions { sys with requests, answers := sys.answers ++ [(id, none)] }
        = sys.versions := by
      simp [System.versions]
    refine ⟨h.fetched, hversions.symm ▸ h.chain, hversions.symm ▸ h.latest, (hids none).symm ▸
      h.ordered, (hids none).symm ▸ h.bounded, h.waiting, fun hstage => absurd hstage hrest⟩
  · have hversions : System.versions
        { sys with requests, answers := sys.answers ++ [(id, some a.systemDetails)] }
        = sys.versions ++ [a.systemDetails] := by
      simp [System.versions]
    refine ⟨h.fetched, ?_, fun _ last hlast => ?_, (hids _).symm ▸ h.ordered,
      (hids _).symm ▸ h.bounded, h.waiting, fun hstage => absurd hstage hrest⟩
    · rw [hversions]
      refine List.pairwise_append.mpr
        ⟨h.chain, List.pairwise_singleton _ _, fun old hold d hd => ?_⟩
      rw [List.mem_singleton.mp hd]
      rcases List.mem_append.mp hold with hold | hold
      · exact (List.pairwise_append.mp h.chain).2.2 old hold _ List.mem_cons_self
      · rw [List.mem_singleton.mp hold]
        exact .refl _
    · rw [hversions, List.getLast?_concat, Option.mem_some_iff] at hlast
      exact hlast.symm

/-- An answer that the updater waits for is the last one. -/
theorem alone (h : InStep a sys) {id : ℕ} {details : Option Details}
    {answers : List (ℕ × Option Details)} (hanswers : sys.answers = (id, details) :: answers)
    (hstage : sys.stage = .waiting id) : answers = [] ∧ sys.requests = [] := by
  have hids : sys.ids = id :: (answers.map (·.1) ++ sys.requests.map (·.1)) := by
    rw [System.ids, hanswers, List.map_cons, List.cons_append]
  have hnone : answers.map (·.1) ++ sys.requests.map (·.1) = [] := by
    refine List.eq_nil_iff_forall_not_mem.mpr fun other hother => ?_
    have hbefore := List.rel_of_pairwise_cons (hids ▸ h.ordered) hother
    have hbound := h.bounded other (hids ▸ List.mem_cons_of_mem id hother)
    exact absurd (h.waiting id hstage) (by omega)
  obtain ⟨hanswers, hrequests⟩ := List.append_eq_nil_iff.mp hnone
  exact ⟨List.map_eq_nil_iff.mp hanswers, List.map_eq_nil_iff.mp hrequests⟩

/-- The details that the hub has after an answer are the last version. -/
theorem versions_decode (h : InStep a sys) {id : ℕ} {details : Option Details}
    (hanswers : sys.answers = [(id, details)]) :
    (sys.decode details).toList <:+ sys.versions ∧
      (sys.details ≠ none → sys.decode details ≠ none) := by
  have hchain := h.chain
  rw [System.versions, hanswers] at hchain ⊢
  cases details with
  | none =>
      refine ⟨?_, fun hsome => hsome⟩
      change sys.details.toList <:+ sys.details.toList ++ []
      rw [List.append_nil]
  | some sent =>
      change List.Pairwise Precedes (sys.details.toList ++ [sent] ++ [a.systemDetails]) at hchain
      have hdecoded : sys.decode (some sent) = some sent := by
        cases hdetails : sys.details with
        | none => rw [System.decode, hdetails, Option.elim_some, Option.getD_none, decode_encode]
        | some old =>
            rw [hdetails] at hchain
            have hold : Precedes old sent := List.rel_of_pairwise_cons hchain List.mem_cons_self
            rw [System.decode, hdetails, Option.elim_some, Option.getD_some,
              decode_encode_of_precedes hold]
      rw [hdecoded]
      exact ⟨List.suffix_append _ _, fun _ => Option.some_ne_none _⟩

theorem receive (h : InStep a sys)
    (hkept : ∀ id sent, sys.answers.head? = some (id, some sent) →
      sys.stage = .waiting id ∨ sys.details = none)
    (hstep : sys.receive = some sys') : InStep a sys' := by
  unfold System.receive at hstep
  split at hstep
  · cases hstep
  · rename_i id details answers hanswers
    have hids : sys.ids = id :: (answers.map (·.1) ++ sys.requests.map (·.1)) := by
      rw [System.ids, hanswers, List.map_cons, List.cons_append]
    have hordered := (List.pairwise_cons.mp (hids ▸ h.ordered)).2
    have hbounded : ∀ other ∈ answers.map (·.1) ++ sys.requests.map (·.1), other ≤ sys.nextID :=
      fun other hother => h.bounded other (hids ▸ List.mem_cons_of_mem id hother)
    split at hstep
    · rename_i hstage
      obtain ⟨rfl, hrequests⟩ := h.alone hanswers hstage
      obtain ⟨hsuffix, hne⟩ := h.versions_decode hanswers
      cases hstep
      refine ⟨fun hfetched => ?_, ?_, fun hclean last hlast => h.latest hclean last ?_, hordered,
        hbounded, fun _ hstage => (by cases hstage), fun _ => ⟨rfl, hrequests⟩⟩
      · have hsome := Option.isSome_iff_ne_none.mp (h.fetched hfetched)
        exact Option.isSome_iff_ne_none.mpr (hne hsome)
      · rw [System.versions, List.filterMap_nil, List.append_nil]
        exact h.chain.sublist (hsuffix.sublist.append_right _)
      · rw [System.versions, List.filterMap_nil, List.append_nil] at hlast
        obtain ⟨before, hbefore⟩ := hsuffix
        rw [← hbefore, List.getLast?_append, hlast]
        rfl
    · rename_i hstage
      cases hstep
      have hversions : System.versions { sys with answers } <:+ sys.versions := by
        rw [System.versions, System.versions, hanswers]
        cases details with
        | none => exact List.suffix_refl _
        | some sent =>
            have hnone := (hkept id sent (by rw [hanswers]; rfl)).resolve_left hstage
            dsimp only
            rw [hnone]
            exact List.suffix_cons _ _
      refine ⟨h.fetched, h.chain.sublist (hversions.sublist.append_right _),
        fun hclean last hlast => h.latest hclean last ?_, hordered, hbounded, h.waiting,
        fun hfetched => ?_⟩
      · obtain ⟨before, hbefore⟩ := hversions
        rw [← hbefore, List.getLast?_append, hlast]
        rfl
      · rw [(h.quiet hfetched).1] at hanswers
        cases hanswers

/-- What is saved. -/
theorem details_eq (h : InStep a sys) (hclean : a.detailsDirty = false)
    (hanswers : sys.answers = []) (hsome : sys.details ≠ none) :
    sys.details = some a.systemDetails := by
  obtain ⟨details, hdetails⟩ := Option.ne_none_iff_exists'.mp hsome
  have hversions : sys.versions = [details] := by
    rw [System.versions, hanswers, hdetails]
    rfl
  rw [hdetails, h.latest hclean details (by rw [hversions]; rfl)]

/-- An answer that is not cached leaves the hub with the details of the agent. -/
theorem decode_attach (h : InStep a sys) (hanswers : sys.answers = []) :
    sys.decode (a.attachSystemDetails false !sys.detailsFetched).2 = some a.systemDetails := by
  unfold Agent.attachSystemDetails
  split
  · rename_i hnot
    obtain ⟨hasked, hclean⟩ := hnot.resolve_left Bool.false_ne_true
    have hfetched : sys.detailsFetched = true := by simpa using hasked
    exact h.details_eq hclean hanswers (Option.isSome_iff_ne_none.mp (h.fetched hfetched))
  · rw [System.decode, Option.elim_some]
    refine congrArg some ?_
    cases hdetails : sys.details with
    | none => exact decode_encode _
    | some old =>
        have hchain := h.chain
        rw [System.versions, hdetails] at hchain
        refine decode_encode_of_precedes (List.rel_of_pairwise_cons hchain ?_)
        exact List.mem_append_right _ List.mem_cons_self

end InStep

/-! ### Runs -/

/-- No answer with details comes too late for a `System` that has some already. -/
def State.NoneDropped (s : State) : Event → Prop
  | .receive i => s.current = some i → ∀ id sent,
      (s.systems i).answers.head? = some (id, some sent) →
        (s.systems i).stage = .waiting id ∨ (s.systems i).details = none
  | _ => True

structure Inv (s : State) : Prop where
  fresh : ∀ i, s.created ≤ i → s.systems i = {}
  known : ∀ i, s.current = some i → i < s.created
  inStep : ∀ i, s.current = some i → InStep s.agent (s.systems i)

namespace Inv

variable {s t : State}

theorem init (a : Agent) : Inv { agent := a } where
  fresh _ _ := rfl
  known _ h := by cases h
  inStep _ h := by cases h

theorem lt_created (h : Inv s) {i : ℕ} (hne : s.systems i ≠ {}) : i < s.created :=
  lt_of_not_ge fun hle => hne (h.fresh i hle)

theorem set (h : Inv s) {i : ℕ} (hi : i < s.created) {sys : System} {agent : Agent}
    {row : Option DetailsRecord}
    (hself : s.current = some i → InStep agent sys)
    (hagent : s.current ≠ some i → agent = s.agent) :
    Inv { s.setSystem i sys with agent, row } where
  fresh j hj := by
    have hj : s.created ≤ j := hj
    exact (Function.update_of_ne (by omega) _ _).trans (h.fresh j hj)
  known := h.known
  inStep j hj := by
    by_cases heq : j = i
    · subst heq
      dsimp only [State.setSystem]
      rw [Function.update_self]
      exact hself hj
    · have hother : s.current ≠ some i := by
        rintro hcurrent
        exact heq (Option.some.inj (hj.symm.trans hcurrent))
      dsimp only [State.setSystem]
      rw [Function.update_of_ne heq, hagent hother]
      exact h.inStep j hj

theorem answer (h : Inv s) {isCached : Bool} (hstep : s.answer isCached = some t) : Inv t := by
  obtain ⟨i, hcurrent, hstep⟩ := Option.bind_eq_some_iff.mp hstep
  split at hstep
  · cases hstep
  · rename_i id includeDetails requests hrequests
    cases hstep
    exact h.set (h.known i hcurrent)
      (fun _ => (h.inStep i hcurrent).answer hrequests isCached) fun hne => absurd hcurrent hne

theorem createRecords (h : Inv s) {i : ℕ} {ok : Bool} (hstep : s.createRecords i ok = some t) :
    Inv t := by
  obtain ⟨hstage, hstep⟩ := Option.ite_none_right_eq_some.mp hstep
  obtain rfl := Option.some.inj hstep
  have hi : i < s.created := h.lt_created fun hnone => by
    rw [hnone] at hstage
    cases hstage
  split
  · refine h.set hi (fun hcurrent => (h.inStep i hcurrent).idle _ fun hfetched => ?_) fun _ => rfl
    rcases Bool.or_eq_true_iff.mp hfetched with hfetched | hsome
    · exact (h.inStep i hcurrent).fetched hfetched
    · exact hsome
  · exact h.set hi (fun hcurrent => (h.inStep i hcurrent).idle _ (h.inStep i hcurrent).fetched)
      fun _ => rfl

theorem step (h : Inv s) {e : Event} (hkept : s.NoneDropped e) (hstep : s.step e = some t) :
    Inv t := by
  cases e with
  | setIsPodman =>
      cases hstep
      exact ⟨h.fresh, h.known, fun i hi => (h.inStep i hi).setIsPodman⟩
  | restart details =>
      cases hstep
      exact ⟨h.fresh, fun _ hi => (by cases hi), fun _ hi => (by cases hi)⟩
  | connect =>
      obtain ⟨-, hstep⟩ := Option.ite_none_right_eq_some.mp hstep
      obtain rfl := Option.some.inj hstep
      refine ⟨fun i hi => h.fresh i (Nat.le_of_succ_le hi), fun i hi => ?_, fun i hi => ?_⟩
      · exact Option.some.inj hi ▸ Nat.lt_succ_self _
      · obtain rfl := Option.some.inj hi
        exact (h.fresh _ le_rfl).symm ▸ InStep.fresh s.agent
  | disconnect =>
      cases hstep
      exact ⟨h.fresh, fun _ hi => (by cases hi), fun _ hi => (by cases hi)⟩
  | update i =>
      obtain ⟨hi, hstep⟩ := Option.ite_none_right_eq_some.mp hstep
      obtain ⟨sys, hsys, rfl⟩ := Option.map_eq_some_iff.mp hstep
      exact h.set hi (fun hcurrent => (h.inStep i hcurrent).update hsys) fun _ => rfl
  | answer isCached => exact h.answer hstep
  | receive i =>
      obtain ⟨sys, hsys, rfl⟩ := Option.map_eq_some_iff.mp hstep
      have hi : i < s.created := h.lt_created fun hnone => by
        rw [hnone] at hsys
        cases hsys
      exact h.set hi (fun hcurrent => (h.inStep i hcurrent).receive (hkept hcurrent) hsys)
        fun _ => rfl
  | fail i =>
      obtain ⟨sys, hsys, rfl⟩ := Option.map_eq_some_iff.mp hstep
      have hi : i < s.created := h.lt_created fun hnone => by
        rw [hnone] at hsys
        cases hsys
      exact h.set hi (fun hcurrent => (h.inStep i hcurrent).fail hsys) fun _ => rfl
  | createRecords i ok => exact h.createRecords hstep

end Inv

/-! ### What is saved -/

theorem Agent.attachSystemDetails_spec (a : Agent) (includeRequested : Bool) :
    (a.attachSystemDetails false includeRequested).1.systemDetails = a.systemDetails ∧
      (a.attachSystemDetails false includeRequested).1.detailsDirty = false := by
  unfold Agent.attachSystemDetails
  split
  · rename_i hnot
    exact ⟨rfl, (hnot.resolve_left Bool.false_ne_true).2⟩
  · exact ⟨rfl, rfl⟩

namespace Inv

variable {s t : State}

theorem saved (h : Inv s) {i : ℕ} (hcurrent : s.current = some i)
    (hstep : s.step (.createRecords i true) = some t) :
    t.row = some (createSystemDetailsRecord s.agent.systemDetails) ∨ s.agent.detailsDirty = true ∨
      (t.row = s.row ∧ (t.systems i).detailsFetched = false) := by
  have hinStep := h.inStep i hcurrent
  obtain ⟨hstage, hstep⟩ := Option.ite_none_right_eq_some.mp hstep
  obtain rfl := Option.some.inj hstep
  rw [if_pos rfl]
  dsimp only [State.setSystem]
  rw [Function.update_self]
  by_cases hnone : (s.systems i).details = none
  · refine Or.inr (Or.inr ⟨by rw [hnone, Option.map_none, Option.none_or], ?_⟩)
    have hfetched : (s.systems i).detailsFetched = false := by
      refine Bool.eq_false_iff.mpr fun hfetched => ?_
      exact Option.isSome_iff_ne_none.mp (hinStep.fetched hfetched) hnone
    rw [System.save, hnone, hfetched]
    rfl
  · cases hclean : s.agent.detailsDirty with
    | true => exact Or.inr (Or.inl rfl)
    | false =>
        have hdetails := hinStep.details_eq hclean (hinStep.quiet hstage).1 hnone
        exact Or.inl (by rw [hdetails, Option.map_some, Option.some_or])

theorem updated (h : Inv s) {i : ℕ} (hcurrent : s.current = some i)
    (hstage : (s.systems i).stage = .idle) (hanswers : (s.systems i).answers = [])
    (hrequests : (s.systems i).requests = []) :
    ∃ t, run State.step s [.update i, .answer false, .receive i, .createRecords i true] = some t ∧
      t.agent.systemDetails = s.agent.systemDetails ∧ t.agent.detailsDirty = false ∧
      t.row = some (createSystemDetailsRecord t.agent.systemDetails) := by
  have hdecoded := (h.inStep i hcurrent).decode_attach hanswers
  obtain ⟨hsame, hclean⟩ := s.agent.attachSystemDetails_spec !(s.systems i).detailsFetched
  have hknown := h.known i hcurrent
  simp only [run, State.step, hknown, if_true, System.update, hstage, hrequests, List.nil_append,
    hanswers, Option.map_some, State.setSystem, hcurrent, State.answer, System.receive,
    State.createRecords, Option.bind_fun_some, Option.bind_some, Function.update_self,
    Function.update_idem, Option.some.injEq, exists_eq_left', Option.or_eq_some_iff,
    Option.map_eq_some_iff, Option.map_eq_none_iff]
  exact ⟨hsame, hclean, Or.inl ⟨_, hdecoded, by rw [hsame]⟩⟩

end Inv

end Picket.DetailsSync
