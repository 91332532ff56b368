import Picket.DiskDevices
import Mathlib.Data.List.MinMax
import Mathlib.Data.Prod.Lex
import Mathlib.Order.OrderDual

/-!
# Which devices are found in any order

Among candidates the best one does not depend on the order, for no two devices are equally good. An
exact match is another matter: the first one in the order is taken.
-/

namespace Picket.Gather

/-! ### The order of candidates -/

namespace IoMatchCandidate

/-- More bytes first, then more operations, then the smaller name. -/
def rank (c : IoMatchCandidate) : Uint64 ×ₗ Uint64 ×ₗ Stringᵒᵈ :=
  toLex (c.bytes, toLex (c.ops, OrderDual.toDual c.name))

theorem beats_iff {c best : IoMatchCandidate} : c.Beats best ↔ best.rank < c.rank := by
  rw [rank, rank, Prod.Lex.toLex_lt_toLex, Prod.Lex.toLex_lt_toLex, OrderDual.toDual_lt_toDual,
    Beats]
  refine or_congr Iff.rfl ?_
  rw [eq_comm (a := best.bytes), eq_comm (a := best.ops), and_or_left]

theorem name_eq_of_rank_eq {c c' : IoMatchCandidate} (hrank : c.rank = c'.rank) :
    c.name = c'.name :=
  congrArg (fun r : Uint64 ×ₗ Uint64 ×ₗ Stringᵒᵈ => OrderDual.ofDual (ofLex (ofLex r).2).2) hrank

theorem beats_of_not_beats {c c' : IoMatchCandidate} (hnot : ¬ c.Beats c')
    (hname : c.name ≠ c'.name) : c'.Beats c := by
  rw [beats_iff] at hnot ⊢
  exact lt_of_le_of_ne (not_lt.mp hnot) fun hrank => hname (name_eq_of_rank_eq hrank)

end IoMatchCandidate

theorem bestCandidate_eq_argmax (best : IoMatchCandidate) (candidates : List IoMatchCandidate) :
    (best :: candidates).argmax IoMatchCandidate.rank =
      some (bestCandidate best candidates) := by
  rw [bestCandidate]
  induction candidates using List.reverseRecOn with
  | nil => rfl
  | append_singleton candidates c ih =>
      rw [← List.cons_append, List.argmax_concat, ih, List.foldl_append]
      simp only [List.foldl_cons, List.foldl_nil, IoMatchCandidate.beats_iff]
      split <;> rfl

theorem argmax_eq_of_perm {α β : Type} [LinearOrder β] {f : α → β} {l l' : List α}
    (hperm : l.Perm l') (hinj : ∀ a ∈ l, ∀ b ∈ l, f a = f b → a = b) :
    l.argmax f = l'.argmax f := by
  classical
  refine Option.ext fun m => ?_
  have hiff (l' : List α) (hperm : l.Perm l') :
      m ∈ l'.argmax f ↔ m ∈ l ∧ ∀ a ∈ l, f a ≤ f m := by
    rw [List.mem_argmax_iff, hperm.mem_iff]
    refine and_congr_right fun hm => ⟨fun h a ha => h.1 a (hperm.mem_iff.mp ha), fun h => ?_⟩
    refine ⟨fun a ha => h a (hperm.mem_iff.mpr ha), fun a ha hle => ?_⟩
    have ha' := hperm.mem_iff.mpr ha
    rw [hinj m (hperm.mem_iff.mpr hm) a ha' (le_antisymm hle (h a ha'))]
  exact (hiff l (List.Perm.refl l)).trans (hiff l' hperm).symm

theorem find?_eq_of_perm {α : Type} {p : α → Bool} {l l' : List α} (hperm : l.Perm l')
    (hone : (l.filter p).length ≤ 1) : l.find? p = l'.find? p := by
  have hfilter := hperm.filter p
  rw [← List.head?_filter, ← List.head?_filter]
  match hl : l.filter p, hone with
  | [], _ =>
      rw [hl, List.nil_perm] at hfilter
      rw [hfilter]
  | [a], _ =>
      rw [hl, List.singleton_perm] at hfilter
      rw [hfilter]

/-! ### Looking for a device -/

section Find

variable (paths : Paths)

/-- The loop ends at the first exact match, or has all candidates. -/
theorem matchDevices_eq (filesystem : String) (candidates : List IoMatchCandidate)
    (devices : List DeviceCounters) :
    matchDevices paths filesystem candidates devices =
      match devices.find? (·.isExact paths filesystem) with
      | some d => .inl d.name
      | none =>
          .inr (candidates ++
            (devices.filter (·.isRelated paths filesystem)).map DeviceCounters.candidate) := by
  induction devices generalizing candidates with
  | nil => simp [matchDevices]
  | cons d devices ih =>
      rw [matchDevices]
      by_cases hexact : d.isExact paths filesystem = true
      · rw [if_pos hexact, List.find?_cons_of_pos hexact]
      · rw [if_neg hexact, List.find?_cons_of_neg hexact]
        by_cases hrelated : d.isRelated paths filesystem = true
        · rw [if_pos hrelated, ih, List.filter_cons_of_pos hrelated, List.map_cons,
            List.append_assoc, List.singleton_append]
        · rw [if_neg hrelated, ih, List.filter_cons_of_neg hrelated]

/-- What is found: the first exact match, or the best of the candidates. -/
theorem findIoDevice_eq {filesystem : String} (devices : List DeviceCounters)
    (hnonempty : normalizeDeviceName paths filesystem ≠ "") :
    findIoDevice paths filesystem devices =
      match devices.find? (·.isExact paths (normalizeDeviceName paths filesystem)) with
      | some d => some d.name
      | none =>
          (((devices.filter (·.isRelated paths (normalizeDeviceName paths filesystem))).map
            DeviceCounters.candidate).argmax IoMatchCandidate.rank).map (·.name) := by
  rw [findIoDevice, if_neg hnonempty, matchDevices_eq, List.nil_append]
  cases devices.find? (·.isExact paths (normalizeDeviceName paths filesystem)) with
  | some d => rfl
  | none =>
      cases (devices.filter (·.isRelated paths (normalizeDeviceName paths filesystem))).map
        DeviceCounters.candidate with
      | nil => rfl
      | cons best candidates => simp only [bestCandidate_eq_argmax, Option.map_some]

theorem findIoDevice_eq_of_perm {counters : DiskCounters} {filesystem : String}
    (hone : counters.OneExact paths filesystem) {devices : List DeviceCounters}
    (hperm : devices.Perm counters.devices) :
    findIoDevice paths filesystem devices = findIoDevice paths filesystem counters.devices := by
  by_cases hempty : normalizeDeviceName paths filesystem = ""
  · rw [findIoDevice, findIoDevice, if_pos hempty, if_pos hempty]
  · have hfind := find?_eq_of_perm hperm.symm (hone.resolve_left hempty)
    have hargmax := argmax_eq_of_perm (f := IoMatchCandidate.rank)
      ((hperm.filter (·.isRelated paths (normalizeDeviceName paths filesystem))).map
        DeviceCounters.candidate)
    rw [findIoDevice_eq paths devices hempty, findIoDevice_eq paths counters.devices hempty, hfind,
      hargmax]
    intro c hc c' hc' hrank
    obtain ⟨d, hd, rfl⟩ := List.mem_map.mp hc
    obtain ⟨d', hd', rfl⟩ := List.mem_map.mp hc'
    have hname : d.name = d'.name := IoMatchCandidate.name_eq_of_rank_eq hrank
    rw [List.inj_on_of_nodup_map counters.nodup (hperm.subset (List.mem_of_mem_filter hd))
      (hperm.subset (List.mem_of_mem_filter hd')) hname]

/-- Two exact matches are found in orders that begin with them. -/
theorem findIoDevice_of_first {filesystem : String} {d : DeviceCounters}
    {devices : List DeviceCounters} (hnonempty : normalizeDeviceName paths filesystem ≠ "")
    (hexact : d.isExact paths (normalizeDeviceName paths filesystem) = true) :
    findIoDevice paths filesystem (d :: devices) = some d.name := by
  rw [findIoDevice_eq paths _ hnonempty, List.find?_cons_of_pos hexact]

theorem exists_perm_cons {α : Type} {a : α} {l : List α} (ha : a ∈ l) :
    ∃ rest, (a :: rest).Perm l := by
  obtain ⟨s, t, rfl⟩ := List.append_of_mem ha
  exact ⟨s ++ t, List.perm_middle.symm⟩

theorem oneExact_of_orderFree {counters : DiskCounters} {filesystem : String}
    (hfree : counters.OrderFree paths filesystem) : counters.OneExact paths filesystem := by
  rw [DiskCounters.OneExact, or_iff_not_imp_left]
  intro hnonempty
  by_contra hmore
  have hsub := (List.filter_sublist (l := counters.devices)
    (p := (·.isExact paths (normalizeDeviceName paths filesystem)))).map (·.name)
  match hfilter : counters.devices.filter
      (·.isExact paths (normalizeDeviceName paths filesystem)) with
  | [] => simp [hfilter] at hmore
  | [d] => simp [hfilter] at hmore
  | d :: d' :: rest =>
      have hname : d.name ≠ d'.name := by
        have hnodup := counters.nodup.sublist hsub
        rw [hfilter, List.map_cons, List.nodup_cons] at hnodup
        exact fun heq => hnodup.1 (by rw [heq]; simp)
      have hfound (d : DeviceCounters) (hd : d ∈ counters.devices.filter
          (·.isExact paths (normalizeDeviceName paths filesystem))) :
          findIoDevice paths filesystem counters.devices = some d.name := by
        obtain ⟨hmem, hexact⟩ := List.mem_filter.mp hd
        obtain ⟨rest, hperm⟩ := exists_perm_cons hmem
        rw [← (hfree _ hperm).1, findIoDevice_of_first paths hnonempty hexact]
      have hd := hfound d (by rw [hfilter]; simp)
      have hd' := hfound d' (by rw [hfilter]; simp)
      exact hname (Option.some.inj (hd.symm.trans hd'))

end Find

/-! ### The most active device -/

def moreActive (best : IoMatchCandidate) (d : DeviceCounters) : IoMatchCandidate :=
  if best.name = "" ∨ d.candidate.Beats best then d.candidate else best

theorem moreActive_cases (best : IoMatchCandidate) (d : DeviceCounters) :
    moreActive best d = best ∧ best.name ≠ "" ∨ moreActive best d = d.candidate := by
  rw [moreActive]
  split
  case isTrue => exact Or.inr rfl
  case isFalse hnot => exact Or.inl ⟨rfl, fun hname => hnot (Or.inl hname)⟩

theorem foldl_moreActive_mem (devices : List DeviceCounters) :
    devices.foldl moreActive {} = {} ∨
      ∃ d ∈ devices, devices.foldl moreActive {} = d.candidate := by
  induction devices using List.reverseRecOn with
  | nil => exact Or.inl rfl
  | append_singleton devices d ih =>
      rw [List.foldl_append, List.foldl_cons, List.foldl_nil]
      rcases moreActive_cases (devices.foldl moreActive {}) d with ⟨hsame, -⟩ | hnew
      · rw [hsame]
        exact ih.imp_right fun ⟨d', hd', heq⟩ => ⟨d', List.mem_append_left _ hd', heq⟩
      · exact Or.inr ⟨d, by simp, hnew⟩

/-- A device that no other one beats takes the place of whatever came before it. -/
theorem moreActive_of_unbeaten {devices : List DeviceCounters} {d : DeviceCounters}
    (hname : ∀ d' ∈ devices, d'.name ≠ d.name)
    (hunbeaten : ∀ d' ∈ devices, ¬ d'.candidate.Beats d.candidate) :
    moreActive (devices.foldl moreActive {}) d = d.candidate := by
  refine if_pos ?_
  rcases foldl_moreActive_mem devices with hnone | ⟨d', hd', hbest⟩
  · rw [hnone]
    exact Or.inl rfl
  · rw [hbest]
    exact Or.inr (IoMatchCandidate.beats_of_not_beats (hunbeaten d' hd') (hname d' hd'))

theorem foldl_moreActive_keeps {devices : List DeviceCounters} {d : DeviceCounters}
    (hname : d.name ≠ "") (hunbeaten : ∀ d' ∈ devices, ¬ d'.candidate.Beats d.candidate) :
    devices.foldl moreActive d.candidate = d.candidate := by
  induction devices with
  | nil => rfl
  | cons d' devices ih =>
      have hnot : ¬ (d.candidate.name = "" ∨ d'.candidate.Beats d.candidate) := by
        rintro (hempty | hbeats)
        · exact hname hempty
        · exact hunbeaten d' List.mem_cons_self hbeats
      rw [List.foldl_cons, moreActive, if_neg hnot]
      exact ih fun d' hd' => hunbeaten d' (List.mem_cons_of_mem _ hd')

/-- A device that has a name and that no other one beats is the most active one. -/
theorem mostActiveIoDevice_eq {devices : List DeviceCounters}
    (hnodup : (devices.map (·.name)).Nodup) {d : DeviceCounters} (hd : d ∈ devices)
    (hname : d.name ≠ "") (hunbeaten : ∀ d' ∈ devices, ¬ d'.candidate.Beats d.candidate) :
    mostActiveIoDevice devices = d.name := by
  obtain ⟨s, t, rfl⟩ := List.append_of_mem hd
  have hother : ∀ d' ∈ s, d'.name ≠ d.name := by
    rw [List.map_append, List.map_cons, List.nodup_append] at hnodup
    exact fun d' hd' => hnodup.2.2 _ (List.mem_map_of_mem hd') _ List.mem_cons_self
  have hbefore := moreActive_of_unbeaten hother fun d' hd' =>
    hunbeaten d' (List.mem_append_left _ hd')
  have hafter := foldl_moreActive_keeps hname fun d' hd' =>
    hunbeaten d' (List.mem_append_right s (List.mem_cons_of_mem d hd'))
  have hfold : (s ++ d :: t).foldl moreActive {} = d.candidate := by
    rw [List.foldl_append, List.foldl_cons, hbefore, hafter]
  exact congrArg (·.name) hfold

theorem name_foldl_moreActive {devices : List DeviceCounters} {best : IoMatchCandidate}
    (hbest : best.name ≠ "") (hnames : ∀ d ∈ devices, d.name ≠ "") :
    (devices.foldl moreActive best).name ≠ "" := by
  induction devices generalizing best with
  | nil => exact hbest
  | cons d devices ih =>
      rw [List.foldl_cons]
      refine ih ?_ fun d' hd' => hnames d' (List.mem_cons_of_mem d hd')
      rcases moreActive_cases best d with ⟨hsame, -⟩ | hnew
      · rwa [hsame]
      · rw [hnew]
        exact hnames d List.mem_cons_self

theorem exists_unbeaten {devices : List DeviceCounters} (hne : devices ≠ []) :
    ∃ d ∈ devices, ∀ d' ∈ devices, ¬ d'.candidate.Beats d.candidate := by
  obtain ⟨d, hd⟩ := Option.ne_none_iff_exists'.mp fun hnone =>
    hne (List.argmax_eq_none (f := fun d : DeviceCounters => d.candidate.rank).mp hnone)
  refine ⟨d, List.argmax_mem hd, fun d' hd' hbeats => ?_⟩
  have hle : d'.candidate.rank ≤ d.candidate.rank :=
    List.le_of_mem_argmax (f := fun d : DeviceCounters => d.candidate.rank) hd' hd
  exact (IoMatchCandidate.beats_iff.mp hbeats).not_ge hle

theorem mostActiveIoDevice_eq_of_perm {counters : DiskCounters} (hbusiest : counters.BusiestNamed)
    {devices : List DeviceCounters} (hperm : devices.Perm counters.devices) :
    mostActiveIoDevice devices = mostActiveIoDevice counters.devices := by
  by_cases hempty : counters.devices = []
  · rw [hempty] at hperm ⊢
    rw [hperm.eq_nil]
  · obtain ⟨d, hd, hunbeaten⟩ := exists_unbeaten hempty
    by_cases hname : d.name = ""
    · obtain ⟨d', hsingle⟩ := List.length_eq_one_iff.mp (hbusiest d hd hname hunbeaten)
      rw [hsingle] at hperm ⊢
      rw [hperm.eq_singleton]
    · rw [mostActiveIoDevice_eq counters.nodup hd hname hunbeaten]
      exact mostActiveIoDevice_eq ((hperm.map _).nodup_iff.mpr counters.nodup)
        (hperm.mem_iff.mpr hd) hname fun d' hd' => hunbeaten d' (hperm.mem_iff.mp hd')

theorem busiestNamed_of_orderFree {paths : Paths} {counters : DiskCounters} {filesystem : String}
    (hfree : counters.OrderFree paths filesystem) : counters.BusiestNamed := by
  intro d hd hname hunbeaten
  obtain ⟨rest, hperm⟩ := exists_perm_cons hd
  cases rest with
  | nil => exact hperm.length_eq.symm
  | cons r rest =>
      exfalso
      have hnames : ∀ d' ∈ r :: rest, d'.name ≠ d.name := by
        have hnodup := (hperm.map (·.name)).nodup_iff.mpr counters.nodup
        rw [List.map_cons, List.nodup_cons] at hnodup
        exact fun d' hd' heq => hnodup.1 (heq ▸ List.mem_map_of_mem hd')
      have hnamed : ∀ d' ∈ r :: rest, d'.name ≠ "" := fun d' hd' => hname ▸ hnames d' hd'
      -- first, the nameless device gives way to the next one
      have hfirst : mostActiveIoDevice (d :: r :: rest) ≠ "" := by
        have hr : moreActive (moreActive {} d) r = r.candidate := if_pos (Or.inl (by
          rw [moreActive, if_pos (Or.inl rfl)]
          exact hname))
        have hfold : (d :: r :: rest).foldl moreActive {} = rest.foldl moreActive r.candidate := by
          rw [List.foldl_cons, List.foldl_cons, hr]
        change ((d :: r :: rest).foldl moreActive {}).name ≠ ""
        rw [hfold]
        exact name_foldl_moreActive (hnamed r List.mem_cons_self) fun d' hd' =>
          hnamed d' (List.mem_cons_of_mem r hd')
      -- last, it beats all the others
      have hlast : mostActiveIoDevice (r :: rest ++ [d]) = "" := by
        have hfold : (r :: rest ++ [d]).foldl moreActive {} = d.candidate := by
          rw [List.foldl_append]
          exact moreActive_of_unbeaten hnames fun d' hd' =>
            hunbeaten d' (hperm.mem_iff.mp (List.mem_cons_of_mem d hd'))
        exact (congrArg (·.name) hfold).trans hname
      have hperm' : (r :: rest ++ [d]).Perm counters.devices :=
        (List.perm_append_singleton d (r :: rest)).trans hperm
      exact hfirst (((hfree _ hperm).2.trans (hfree _ hperm').2.symm).trans hlast)

/-- **When the order does not matter.** The same devices are found in every order exactly when at
most one device matches exactly, and no nameless device is the busiest of several. -/
theorem orderFree_iff (paths : Paths) (counters : DiskCounters) (filesystem : String) :
    counters.OrderFree paths filesystem ↔
      counters.OneExact paths filesystem ∧ counters.BusiestNamed :=
  ⟨fun hfree => ⟨oneExact_of_orderFree paths hfree, busiestNamed_of_orderFree hfree⟩,
    fun ⟨hone, hbusiest⟩ _ hperm =>
      ⟨findIoDevice_eq_of_perm paths hone hperm, mostActiveIoDevice_eq_of_perm hbusiest hperm⟩⟩

/-- A disk whose label is the name of another one. -/
def labelledDisks : DiskCounters where
  devices := [{ name := "sda", label := "sdb" }, { name := "sdb" }]

theorem findIoDevice_label_or_name :
    findIoDevice .unix "sdb" labelledDisks.devices = some "sda" ∧
      findIoDevice .unix "sdb" labelledDisks.devices.reverse = some "sdb" ∧
      ¬ labelledDisks.OrderFree .unix "sdb" := by
  have hsda : findIoDevice .unix "sdb" labelledDisks.devices = some "sda" := by decide +kernel
  have hsdb : findIoDevice .unix "sdb" labelledDisks.devices.reverse = some "sdb" := by
    decide +kernel
  refine ⟨hsda, hsdb, fun hfree => ?_⟩
  have hsame := (hfree _ (List.reverse_perm _)).1
  rw [hsda, hsdb] at hsame
  revert hsame
  decide

end Picket.Gather
