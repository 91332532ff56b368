import Picket.DiskDiscovery

/-!
# One root filesystem

Extra filesystems never take a key from another one, and never are the root. So there is one root
once it has been put into the map; but a partition that is found to be the root is not put there if
an extra filesystem has its key, and nothing looks for the root again.
-/

namespace Picket.Gather

/-! ### Maps with and without a root -/

abbrev FsMap := List (String × FsStats)

def NoRoot (fsStats : FsMap) : Prop :=
  ∀ device stats, fsStats.lookup device = some stats → stats.root = false

theorem NoRoot.not_oneRoot {fsStats : FsMap} (hnone : NoRoot fsStats) : ¬ OneRoot fsStats := by
  rintro ⟨device, ⟨stats, hlookup, hroot⟩, -⟩
  rw [hnone device stats hlookup] at hroot
  cases hroot

theorem NoRoot.insert_root {fsStats : FsMap} (hnone : NoRoot fsStats) (key : String)
    {stats : FsStats} (hroot : stats.root = true) :
    OneRoot (AssocList.insert key stats fsStats) := by
  refine ⟨key, ⟨stats, by rw [AssocList.lookup_insert, if_pos rfl], hroot⟩, ?_⟩
  rintro device ⟨stats', hlookup, hroot'⟩
  rw [AssocList.lookup_insert] at hlookup
  by_contra hne
  rw [if_neg hne] at hlookup
  rw [hnone device stats' hlookup] at hroot'
  cases hroot'

theorem noRoot_nil : NoRoot [] := fun _ _ hlookup => absurd hlookup (Option.some_ne_none _).symm

/-- Only which entries are those of roots matters. -/
theorem oneRoot_congr {fsStats fsStats' : FsMap}
    (hroots : ∀ device, (∃ stats, fsStats'.lookup device = some stats ∧ stats.root = true) ↔
      ∃ stats, fsStats.lookup device = some stats ∧ stats.root = true) :
    OneRoot fsStats' ↔ OneRoot fsStats :=
  existsUnique_congr hroots

structure Adds (keys : String → Prop) (fsStats fsStats' : FsMap) : Prop where
  nodup : (fsStats.map Prod.fst).Nodup → (fsStats'.map Prod.fst).Nodup
  noRoot : NoRoot fsStats → NoRoot fsStats'
  oneRoot : OneRoot fsStats → OneRoot fsStats'
  taken : ∀ key, (fsStats'.lookup key).isSome ↔ (fsStats.lookup key).isSome ∨ keys key

theorem Adds.refl {keys : String → Prop} {fsStats : FsMap}
    (hkeys : ∀ key, keys key → (fsStats.lookup key).isSome) : Adds keys fsStats fsStats :=
  ⟨id, id, id, fun key => (or_iff_left_of_imp (hkeys key)).symm⟩

theorem Adds.trans {keys keys' : String → Prop} {fsStats fsStats' fsStats'' : FsMap}
    (h : Adds keys fsStats fsStats') (h' : Adds keys' fsStats' fsStats'') :
    Adds (fun key => keys key ∨ keys' key) fsStats fsStats'' where
  nodup := h'.nodup ∘ h.nodup
  noRoot := h'.noRoot ∘ h.noRoot
  oneRoot := h'.oneRoot ∘ h.oneRoot
  taken key := by rw [h'.taken, h.taken, or_assoc]

theorem Adds.foldl {A : Type} {step : FsMap → A → FsMap} (key : A → Option String)
    (hstep : ∀ fsStats a, Adds (fun k => key a = some k) fsStats (step fsStats a))
    (l : List A) (fsStats : FsMap) :
    Adds (fun k => ∃ a ∈ l, key a = some k) fsStats (l.foldl step fsStats) := by
  induction l generalizing fsStats with
  | nil => exact Adds.refl fun _ ⟨_, ha, _⟩ => (List.not_mem_nil ha).elim
  | cons a l ih =>
      simp only [List.exists_mem_cons_iff]
      exact (hstep fsStats a).trans (ih (step fsStats a))

theorem Adds.insert {fsStats : FsMap} {key : String} (hkey : fsStats.lookup key = none)
    {stats : FsStats} (hroot : stats.root = false) :
    Adds (some key = some ·) fsStats (AssocList.insert key stats fsStats) where
  nodup hnodup := AssocList.nodup_insert hnodup key stats
  noRoot hnone device stats' hlookup := by
    rw [AssocList.lookup_insert] at hlookup
    by_cases hdevice : device = key
    · rw [if_pos hdevice] at hlookup
      rw [← Option.some.inj hlookup, hroot]
    · rw [if_neg hdevice] at hlookup
      exact hnone device stats' hlookup
  oneRoot := by
    rintro ⟨device, ⟨stats', hlookup, hroot'⟩, hunique⟩
    have hne : device ≠ key := by
      rintro rfl
      rw [hkey] at hlookup
      cases hlookup
    refine ⟨device, ⟨stats', by rw [AssocList.lookup_insert, if_neg hne, hlookup], hroot'⟩, ?_⟩
    rintro device' ⟨stats'', hlookup', hroot''⟩
    rw [AssocList.lookup_insert] at hlookup'
    by_cases hdevice : device' = key
    · rw [if_pos hdevice] at hlookup'
      rw [← Option.some.inj hlookup', hroot] at hroot''
      cases hroot''
    · rw [if_neg hdevice] at hlookup'
      exact hunique device' ⟨stats'', hlookup', hroot''⟩
  taken key' := by
    rw [AssocList.lookup_insert]
    by_cases hkey' : key' = key
    · simp [hkey']
    · simp [hkey', Ne.symm hkey']

/-! ### Registration -/

section Register

variable (paths : Paths) {ctx : FsRegistrationContext} {fsStats : FsMap}
  (orders : MapOrders ctx.diskIoCounters) (device mountpoint customName : String)

theorem addFsStat_eq (root : Bool) :
    addFsStat paths ctx fsStats orders device mountpoint root customName =
      if (fsStats.lookup (registrationKey paths ctx orders device mountpoint root)).isSome then
        fsStats
      else
        AssocList.insert (registrationKey paths ctx orders device mountpoint root)
          { root, mountpoint, name := customName } fsStats := by
  rw [addFsStat, registerFilesystemStats]
  split
  case h_1 hnone =>
    rw [ite_eq_left_iff] at hnone
    rw [if_pos (by by_contra hnot; cases hnone hnot)]
  case h_2 key stats hsome =>
    rw [Option.ite_none_left_eq_some] at hsome
    obtain ⟨hfree, hentry⟩ := hsome
    obtain ⟨rfl, rfl⟩ := Prod.mk.inj (Option.some.inj hentry)
    rw [if_neg hfree]

theorem addFsStat_adds :
    Adds (some (registrationKey paths ctx orders device mountpoint false) = some ·) fsStats
      (addFsStat paths ctx fsStats orders device mountpoint false customName) := by
  rw [addFsStat_eq]
  by_cases htaken : (fsStats.lookup (registrationKey paths ctx orders device mountpoint
      false)).isSome = true
  · rw [if_pos htaken]
    refine Adds.refl fun key hkey => ?_
    rwa [← Option.some.inj hkey]
  · rw [if_neg htaken]
    rw [Option.not_isSome_iff_eq_none] at htaken
    exact Adds.insert htaken rfl

end Register

namespace DiskInfoReading

variable (paths : Paths) (r : DiskInfoReading)

/-! ### Extra filesystems -/

theorem adds_configuredExtra (fsStats : FsMap) (fsEntry : String) (n : ℕ) :
    Adds (r.extraKey paths (fsEntry, n) = some ·) fsStats
      (let (filesystem, customName) := parseFilesystemEntry fsEntry
      r.addConfiguredExtraFsEntry paths fsStats n filesystem customName) := by
  simp only [extraKey]
  generalize parseFilesystemEntry fsEntry = parsed
  obtain ⟨filesystem, customName⟩ := parsed
  simp only [addConfiguredExtraFsEntry]
  cases r.findPartitionByFilesystemSetting filesystem with
  | some p => exact addFsStat_adds paths _ p.device p.mountpoint _
  | none =>
      by_cases husage : (r.usageFn filesystem).isSome = true
      · simp only [if_pos husage]
        exact addFsStat_adds paths _ _ _ _
      · simp only [if_neg husage]
        exact Adds.refl fun _ hkey => absurd hkey (Option.some_ne_none _).symm

theorem adds_configuredExtras (fsStats : FsMap) :
    Adds (fun key => ∃ entry ∈ r.extraEntries.zipIdx, r.extraKey paths entry = some key) fsStats
      (r.addConfiguredExtraFilesystems paths fsStats) := by
  rw [addConfiguredExtraFilesystems]
  refine Adds.foldl (r.extraKey paths) (fun fsStats entry => ?_) _ _
  obtain ⟨fsEntry, n⟩ := entry
  exact r.adds_configuredExtra paths fsStats fsEntry n

theorem adds_partitionExtra (fsStats : FsMap) (entry : PartitionStat × ℕ) :
    Adds (r.partitionExtraKey paths entry = some ·) fsStats
      (r.addPartitionExtraFs paths fsStats entry.2 entry.1) := by
  rw [addPartitionExtraFs]
  simp only [partitionExtraKey]
  by_cases hdir : paths.dir entry.1.mountpoint ≠ r.ctx.efPath
  · simp only [if_pos hdir]
    exact Adds.refl fun _ hkey => absurd hkey (Option.some_ne_none _).symm
  · simp only [if_neg hdir]
    exact addFsStat_adds paths _ _ _ _

theorem adds_folders (fsStats : FsMap) (folderNames : List String) :
    ∃ keys, Adds keys fsStats (r.addExtraFilesystemFolders paths fsStats folderNames) := by
  refine ⟨_, Adds.foldl (fun entry : String × ℕ =>
    if paths.join r.ctx.efPath entry.1 ∈ fsStats.map (·.2.mountpoint) then none
    else some (registrationKey paths r.ctx (r.folderOrders entry.2)
      (parseFilesystemEntry entry.1).1 (paths.join r.ctx.efPath entry.1) false))
    (fun fsStats' entry => ?_) folderNames.zipIdx fsStats⟩
  by_cases hmounted : paths.join r.ctx.efPath entry.1 ∈ fsStats.map (·.2.mountpoint)
  · simp only [if_pos hmounted]
    exact Adds.refl fun _ hkey => absurd hkey (Option.some_ne_none _).symm
  · simp only [if_neg hmounted]
    exact addFsStat_adds paths _ _ _ _

/-! ### The loop over the partitions -/

/-- A partition that is not taken for the root only adds an extra filesystem. -/
theorem addPartition_extra {s : FsMap × Bool} {entry : PartitionStat × ℕ}
    (hkey : s.2 = false → r.partitionRootKey paths entry = none) :
    r.addPartition paths s entry =
      (r.addPartitionExtraFs paths s.1 entry.2 entry.1, s.2) := by
  rw [addPartition]
  by_cases hfallback : s.2 = false ∧ isRootFallbackPartition entry.1 r.rootMountPoint = true
  · have hnone := hkey hfallback.1
    rw [partitionRootKey, if_pos hfallback.2, Option.map_eq_none_iff] at hnone
    simp only [if_pos hfallback, addPartitionRootFs, hnone]
    rw [hfallback.1]
  · simp only [if_neg hfallback]

/-- One that is taken for the root is put there, unless its key is taken. -/
theorem addPartition_root {fsStats : FsMap} {entry : PartitionStat × ℕ} {key : String}
    (hkey : r.partitionRootKey paths entry = some key) :
    r.addPartition paths (fsStats, false) entry =
      (r.addPartitionExtraFs paths
        (if (fsStats.lookup key).isSome then fsStats
          else AssocList.insert key { root := true, mountpoint := entry.1.mountpoint } fsStats)
        entry.2 entry.1, true) := by
  rw [partitionRootKey, Option.ite_none_right_eq_some, Option.map_eq_some_iff] at hkey
  obtain ⟨hfallback, fs, hfind, rfl⟩ := hkey
  rw [addPartition]
  simp only [hfallback, and_self, if_true, addPartitionRootFs, hfind, addFsStat_eq]

theorem foldl_addPartition (l : List (PartitionStat × ℕ)) (fsStats : FsMap) (hasRoot : Bool)
    (hkey : hasRoot = false → ∀ entry ∈ l, r.partitionRootKey paths entry = none) :
    ∃ fsStats', l.foldl (r.addPartition paths) (fsStats, hasRoot) = (fsStats', hasRoot) ∧
      Adds (fun key => ∃ entry ∈ l, r.partitionExtraKey paths entry = some key) fsStats
        fsStats' := by
  induction l generalizing fsStats with
  | nil => exact ⟨fsStats, rfl, Adds.refl fun _ ⟨_, hentry, _⟩ => (List.not_mem_nil hentry).elim⟩
  | cons entry l ih =>
      have hstep := r.addPartition_extra paths (s := (fsStats, hasRoot))
        fun hfalse => hkey hfalse entry List.mem_cons_self
      obtain ⟨fsStats', hloop, hadds⟩ := ih (r.addPartitionExtraFs paths fsStats entry.2 entry.1)
        fun hfalse entry' hentry' => hkey hfalse entry' (List.mem_cons_of_mem entry hentry')
      simp only [List.exists_mem_cons_iff]
      refine ⟨fsStats', ?_, (r.adds_partitionExtra paths fsStats entry).trans hadds⟩
      rw [List.foldl_cons, hstep, hloop]

/-! ### The root filesystem -/

theorem addConfiguredRootFs_configured (hconfigured : r.Configured paths) :
    ∃ key stats, stats.root = true ∧
      r.addConfiguredRootFs paths [] = (AssocList.insert key stats [], true) := by
  obtain ⟨hset, hfound⟩ := hconfigured
  rw [addConfiguredRootFs, if_neg hset]
  split
  case h_1 p _ => exact ⟨_, _, rfl, by rw [addFsStat_eq]; rfl⟩
  case h_2 hnone =>
    have hdevice := hfound.resolve_left fun ⟨p, hp, hmatches⟩ =>
      List.find?_eq_none.mp hnone p hp hmatches
    obtain ⟨ioKey, hioKey⟩ := Option.isSome_iff_exists.mp hdevice
    rw [hioKey]
    exact ⟨ioKey, _, rfl, rfl⟩

theorem addConfiguredRootFs_not_configured (hconfigured : ¬ r.Configured paths) :
    r.addConfiguredRootFs paths [] = ([], false) := by
  rw [addConfiguredRootFs]
  by_cases hset : r.ctx.filesystem = ""
  · rw [if_pos hset]
  · rw [if_neg hset]
    split
    case h_1 p hfind =>
      exact absurd ⟨hset, Or.inl ⟨p, List.mem_of_find?_eq_some hfind,
        List.find?_some hfind⟩⟩ hconfigured
    case h_2 =>
      split
      case h_1 ioKey hioKey =>
        exact absurd ⟨hset, Or.inr (by rw [hioKey]; rfl)⟩ hconfigured
      case h_2 => rfl

/-! ### All of it -/

def addFolders (fsStats : FsMap) : FsMap :=
  match r.folders with
  | some folders => r.addExtraFilesystemFolders paths fsStats ((folders.filter (·.2)).map (·.1))
  | none => fsStats

theorem addFolders_adds (fsStats : FsMap) :
    ∃ keys, Adds keys fsStats (r.addFolders paths fsStats) := by
  rw [addFolders]
  cases r.folders with
  | none => exact ⟨fun _ => False, Adds.refl fun _ => False.elim⟩
  | some folders => exact r.adds_folders paths fsStats _

theorem discover_eq {fsStats fsStats' : FsMap} {hasRoot hasRoot' : Bool}
    (hconfigured : r.addConfiguredRootFs paths [] = (fsStats, hasRoot))
    (hloop : r.partitions.zipIdx.foldl (r.addPartition paths)
      (r.addConfiguredExtraFilesystems paths fsStats, hasRoot) = (fsStats', hasRoot')) :
    r.discover paths =
      if hasRoot' then r.addFolders paths fsStats'
      else r.addLastResortRootFs paths (r.addFolders paths fsStats') := by
  rw [discover, hconfigured]
  simp only [hloop]
  rfl

theorem discover_configured (hconfigured : r.Configured paths) :
    ((r.discover paths).map Prod.fst).Nodup ∧ OneRoot (r.discover paths) := by
  obtain ⟨key, stats, hroot, hadd⟩ := r.addConfiguredRootFs_configured paths hconfigured
  have hextras := r.adds_configuredExtras paths (AssocList.insert key stats [])
  obtain ⟨fsStats, hloop, hpartitions⟩ := r.foldl_addPartition paths r.partitions.zipIdx
    (r.addConfiguredExtraFilesystems paths (AssocList.insert key stats [])) true
    fun hfalse => Bool.noConfusion hfalse
  obtain ⟨keys, hfolders⟩ := r.addFolders_adds paths fsStats
  rw [r.discover_eq paths hadd hloop, if_pos rfl]
  refine ⟨hfolders.nodup (hpartitions.nodup (hextras.nodup ?_)),
    hfolders.oneRoot (hpartitions.oneRoot (hextras.oneRoot ?_))⟩
  · exact List.nodup_singleton key
  · exact noRoot_nil.insert_root key hroot

theorem discover_lastResort (hconfigured : ¬ r.Configured paths)
    (hnone : ∀ entry ∈ r.partitions.zipIdx, r.partitionRootKey paths entry = none) :
    ((r.discover paths).map Prod.fst).Nodup ∧ OneRoot (r.discover paths) := by
  have hextras := r.adds_configuredExtras paths []
  obtain ⟨fsStats, hloop, hpartitions⟩ := r.foldl_addPartition paths r.partitions.zipIdx
    (r.addConfiguredExtraFilesystems paths []) false fun _ => hnone
  obtain ⟨keys, hfolders⟩ := r.addFolders_adds paths fsStats
  rw [r.discover_eq paths (r.addConfiguredRootFs_not_configured paths hconfigured) hloop,
    if_neg Bool.false_ne_true, addLastResortRootFs]
  refine ⟨AssocList.nodup_insert (hfolders.nodup (hpartitions.nodup (hextras.nodup ?_))) _ _,
    (hfolders.noRoot (hpartitions.noRoot (hextras.noRoot noRoot_nil))).insert_root _ rfl⟩
  exact List.nodup_nil

/-- The first partition that is taken for the root filesystem becomes it, if its key is free. -/
theorem discover_partition (hconfigured : ¬ r.Configured paths)
    {before after : List (PartitionStat × ℕ)} {entry : PartitionStat × ℕ} {key : String}
    (hsplit : r.partitions.zipIdx = before ++ entry :: after)
    (hbefore : ∀ entry' ∈ before, r.partitionRootKey paths entry' = none)
    (hkey : r.partitionRootKey paths entry = some key) :
    ((r.discover paths).map Prod.fst).Nodup ∧
      open Classical in
      if (∃ entry' ∈ r.extraEntries.zipIdx, r.extraKey paths entry' = some key) ∨
        ∃ entry' ∈ before, r.partitionExtraKey paths entry' = some key
      then NoRoot (r.discover paths)
      else OneRoot (r.discover paths) := by
  have hextras := r.adds_configuredExtras paths []
  obtain ⟨fsStats, hloop, hpartitions⟩ := r.foldl_addPartition paths before
    (r.addConfiguredExtraFilesystems paths []) false fun _ => hbefore
  have hadded := hextras.trans hpartitions
  have htaken := hadded.taken key
  have hstart : (([] : FsMap).lookup key).isSome = false := rfl
  rw [hstart, Bool.false_eq_true, false_or] at htaken
  have hnodup : (fsStats.map Prod.fst).Nodup := hadded.nodup List.nodup_nil
  have hnoRoot : NoRoot fsStats := hadded.noRoot noRoot_nil
  set put := if (fsStats.lookup key).isSome then fsStats
    else AssocList.insert key { root := true, mountpoint := entry.1.mountpoint } fsStats with hput
  obtain ⟨fsStats', hloop', hafter⟩ := r.foldl_addPartition paths after
    (r.addPartitionExtraFs paths put entry.2 entry.1) true fun hfalse => Bool.noConfusion hfalse
  obtain ⟨keys, hfolders⟩ := r.addFolders_adds paths fsStats'
  have hall : r.partitions.zipIdx.foldl (r.addPartition paths)
      (r.addConfiguredExtraFilesystems paths [], false) = (fsStats', true) := by
    rw [hsplit, List.foldl_append, hloop, List.foldl_cons, r.addPartition_root paths hkey, ← hput,
      hloop']
  have hdiscover := ((r.adds_partitionExtra paths put entry).trans hafter).trans hfolders
  rw [r.discover_eq paths (r.addConfiguredRootFs_not_configured paths hconfigured) hall,
    if_pos rfl]
  by_cases hkeyTaken : (fsStats.lookup key).isSome = true
  · rw [if_pos hkeyTaken] at hput
    rw [if_pos (htaken.mp hkeyTaken)]
    rw [hput] at hdiscover
    exact ⟨hdiscover.nodup hnodup, hdiscover.noRoot hnoRoot⟩
  · rw [if_neg hkeyTaken] at hput
    rw [if_neg (hkeyTaken ∘ htaken.mpr)]
    rw [hput] at hdiscover
    exact ⟨hdiscover.nodup (AssocList.nodup_insert hnodup _ _),
      hdiscover.oneRoot (hnoRoot.insert_root key rfl)⟩

theorem discover_not_configured (hconfigured : ¬ r.Configured paths) :
    ((r.discover paths).map Prod.fst).Nodup ∧
      (OneRoot (r.discover paths) ↔ ¬ r.RootKeyTaken paths) := by
  by_cases htaken : r.RootKeyTaken paths
  · obtain ⟨before, entry, after, key, hsplit, hbefore, hkey, hextra⟩ := htaken
    obtain ⟨hnodup, hroot⟩ := r.discover_partition paths hconfigured hsplit hbefore hkey
    rw [if_pos hextra] at hroot
    exact ⟨hnodup, iff_of_false hroot.not_oneRoot
      (not_not_intro ⟨before, entry, after, key, hsplit, hbefore, hkey, hextra⟩)⟩
  · cases hfirst : r.partitions.zipIdx.findSome? (r.partitionRootKey paths) with
    | none =>
        rw [List.findSome?_eq_none_iff] at hfirst
        obtain ⟨hnodup, hone⟩ := r.discover_lastResort paths hconfigured hfirst
        exact ⟨hnodup, iff_of_true hone htaken⟩
    | some key =>
        obtain ⟨before, entry, after, hsplit, hkey, hbefore⟩ :=
          List.findSome?_eq_some_iff.mp hfirst
        obtain ⟨hnodup, hroot⟩ := r.discover_partition paths hconfigured hsplit hbefore hkey
        rw [if_neg fun hextra => htaken
          ⟨before, entry, after, key, hsplit, hbefore, hkey, hextra⟩] at hroot
        exact ⟨hnodup, iff_of_true hroot htaken⟩

end DiskInfoReading

/-! ### What is done afterwards -/

theorem oneRoot_prune {fsStats : FsMap} (hnodup : (fsStats.map Prod.fst).Nodup)
    (usage : String → Option UsageStat) :
    OneRoot (pruneDuplicateRootExtraFilesystems usage fsStats) ↔ OneRoot fsStats := by
  rw [pruneDuplicateRootExtraFilesystems]
  split
  case h_1 => rfl
  case h_2 root _ =>
    by_cases hmountpoint : root.2.mountpoint = ""
    · rw [if_pos hmountpoint]
    · rw [if_neg hmountpoint]
      split
      case h_1 => rfl
      case h_2 rootUsage _ =>
        refine oneRoot_congr fun device => exists_congr fun stats => ?_
        rw [AssocList.lookup_filter_iff hnodup, and_assoc]
        refine and_congr_right fun _ => and_iff_right_of_imp fun hroot => ?_
        rw [hroot, Bool.true_or]

theorem oneRoot_initializeDiskIoStats (a : Disks) (ioCounters : List IoReading) (now : ℤ) :
    OneRoot (a.initializeDiskIoStats ioCounters now).fsStats ↔ OneRoot a.fsStats := by
  refine oneRoot_congr fun device => ?_
  rw [Disks.initializeDiskIoStats]
  simp only
  rw [AssocList.lookup_map (fun entry => by split <;> rfl)]
  cases a.fsStats.lookup device with
  | none => simp
  | some stats =>
      simp only [Option.map_some, Option.some.injEq, exists_eq_left']
      split <;> rfl

namespace DiskInfoReading

def trimmed (r : DiskInfoReading) : DiskInfoReading :=
  { r with partitions := r.partitions.map (trimDevice r.ctx.isWindows) }

/-- There is one root filesystem if it is configured, or the partition that is taken for it has a
key that no extra filesystem has, or no partition is taken for it. -/
theorem oneRoot_iff (paths : Paths) (r : DiskInfoReading) :
    OneRoot (initializeDiskInfo paths r).fsStats ↔
      r.trimmed.Configured paths ∨ ¬ r.trimmed.RootKeyTaken paths := by
  have hdiscover : ((r.trimmed.discover paths).map Prod.fst).Nodup ∧
      (OneRoot (r.trimmed.discover paths) ↔
        r.trimmed.Configured paths ∨ ¬ r.trimmed.RootKeyTaken paths) := by
    by_cases hconfigured : r.trimmed.Configured paths
    · obtain ⟨hnodup, hone⟩ := r.trimmed.discover_configured paths hconfigured
      exact ⟨hnodup, iff_of_true hone (Or.inl hconfigured)⟩
    · rw [or_iff_right hconfigured]
      exact r.trimmed.discover_not_configured paths hconfigured
  exact ((oneRoot_initializeDiskIoStats _ _ _).trans (oneRoot_prune hdiscover.1 _)).trans
    hdiscover.2

/-- The device of two partitions has counters, and they do not. -/
def oneDevice : DiskInfoReading where
  ctx := { diskIoCounters := { devices := [{ name := "nda0" }] } }
  extraFilesystems := some "/mnt/data"
  partitions := [{ device := "/dev/nda0p2", mountpoint := "/" },
    { device := "/dev/nda0p3", mountpoint := "/mnt/data" }]
  rootMountPoint := "/"
  now := 0
  configuredOrders := ⟨⟨_, .refl _⟩, ⟨_, .refl _⟩, ⟨_, .refl _⟩⟩
  extraOrders _ := ⟨⟨_, .refl _⟩, ⟨_, .refl _⟩, ⟨_, .refl _⟩⟩
  partitionOrders _ := ⟨⟨_, .refl _⟩, ⟨_, .refl _⟩, ⟨_, .refl _⟩⟩
  partitionExtraOrders _ := ⟨⟨_, .refl _⟩, ⟨_, .refl _⟩, ⟨_, .refl _⟩⟩
  folderOrders _ := ⟨⟨_, .refl _⟩, ⟨_, .refl _⟩, ⟨_, .refl _⟩⟩
  lastResortOrder := ⟨_, .refl _⟩

/-- The extra filesystem has the key of the device, and the root filesystem is not put there. -/
theorem oneDevice_no_root : ¬ OneRoot (initializeDiskInfo Paths.unix oneDevice).fsStats := by
  have hnone : ∀ entry ∈ (initializeDiskInfo Paths.unix oneDevice).fsStats,
      entry.2.root = false := by
    decide +kernel
  rintro ⟨device, ⟨stats, hlookup, hroot⟩, -⟩
  rw [hnone (device, stats) (AssocList.mem_of_lookup hlookup)] at hroot
  cases hroot

end DiskInfoReading

end Picket.Gather
