import Picket.DiskDevices

/-!
# The filesystems to monitor

The root filesystem is the configured one, or else a partition that looks like it, or else the
busiest device. Extra filesystems are configured, or mounted in one folder, or only folders there.
All are put into one map, under the device that a fuzzy match finds for them, where a key that is
taken is left as it is.
-/

namespace Picket.Gather

/-- `disk.PartitionStat`. -/
structure PartitionStat where
  device : String
  mountpoint : String

abbrev MapOrder (counters : DiskCounters) :=
  { devices : List DeviceCounters // devices.Perm counters.devices }

/-- The orders of the iterations that may be needed for one filesystem. -/
structure MapOrders (counters : DiskCounters) where
  find : MapOrder counters
  register : MapOrder counters
  registerAgain : MapOrder counters

structure FsRegistrationContext where
  filesystem : String := ""
  isWindows : Bool := false
  efPath : String := "/extra-filesystems"
  diskIoCounters : DiskCounters

def DiskCounters.has (counters : DiskCounters) (key : String) : Bool :=
  counters.devices.any (·.name = key)

/-! ### Entries -/

def cutUnderscores : List Char → Option (List Char × List Char)
  | '_' :: '_' :: rest => some ([], rest)
  | c :: rest => (cutUnderscores rest).map fun (before, after) => (c :: before, after)
  | [] => none

def parseFilesystemEntry (entry : String) : String × String :=
  let entry := trimSpace entry
  match cutUnderscores entry.toList with
  | some (device, customName) =>
      (trimSpace (String.ofList device), trimSpace (String.ofList customName))
  | none => (entry, "")

def isDockerSpecialMountpoint (mountpoint : String) : Bool :=
  mountpoint ∈ ["/etc/hosts", "/etc/resolv.conf", "/etc/hostname"]

def isRootFallbackPartition (p : PartitionStat) (rootMountPoint : String) : Bool :=
  p.mountpoint = rootMountPoint ||
    isDockerSpecialMountpoint p.mountpoint && hasPrefix p.device "/dev"

section Discovery

variable (paths : Paths)

def extraFilesystemPartitionInfo (p : PartitionStat) : String × String :=
  let device := trimSpace p.device
  let (folderDevice, customName) := parseFilesystemEntry (paths.base p.mountpoint)
  (if device = "" then folderDevice else device, customName)

def filesystemMatchesPartitionSetting (filesystem : String) (p : PartitionStat) : Bool :=
  let filesystem := trimSpace filesystem
  if filesystem = "" then false
  else if p.mountpoint = filesystem then true
  else
    let fsName := normalizeDeviceName paths filesystem
    let partName := normalizeDeviceName paths p.device
    if fsName = "" ∨ partName = "" then false
    else fsName = partName || prefixRelated partName fsName

/-! ### Registration -/

def registrationKey (ctx : FsRegistrationContext) (orders : MapOrders ctx.diskIoCounters)
    (device mountpoint : String) (root : Bool) : String :=
  let key := if ctx.isWindows then device else paths.base device
  if ctx.diskIoCounters.has key then key
  else if root then
    match findIoDevice paths key orders.register with
    | some matchedKey => matchedKey
    | none =>
        if ctx.filesystem = "" then key
        else (findIoDevice paths ctx.filesystem orders.registerAgain).getD key
  else
    let folderDevice := (parseFilesystemEntry (paths.base mountpoint)).1
    let key :=
      if hasPrefix mountpoint ctx.efPath ∧ folderDevice ≠ "" then
        (findIoDevice paths folderDevice orders.register).getD key
      else key
    if ctx.diskIoCounters.has key then key
    else (findIoDevice paths key orders.registerAgain).getD key

def registerFilesystemStats (existing : List (String × FsStats)) (ctx : FsRegistrationContext)
    (orders : MapOrders ctx.diskIoCounters) (device mountpoint : String) (root : Bool)
    (customName : String) : Option (String × FsStats) :=
  let key := registrationKey paths ctx orders device mountpoint root
  if (existing.lookup key).isSome then none
  else some (key, { root, mountpoint, name := customName })

/-- A key that is taken is left as it is. -/
def addFsStat (ctx : FsRegistrationContext) (fsStats : List (String × FsStats))
    (orders : MapOrders ctx.diskIoCounters) (device mountpoint : String) (root : Bool)
    (customName : String) : List (String × FsStats) :=
  match registerFilesystemStats paths fsStats ctx orders device mountpoint root customName with
  | none => fsStats
  | some (key, stats) => AssocList.insert key stats fsStats

end Discovery

/-! ### What is read -/

/-- What `initializeDiskInfo` reads, with the orders of all iterations over the counters. -/
structure DiskInfoReading where
  ctx : FsRegistrationContext
  extraFilesystems : Option String := none
  partitions : List PartitionStat
  rootMountPoint : String
  /-- What is in the folder of extra filesystems, and whether it is a folder. -/
  folders : Option (List (String × Bool)) := none
  usageFn : String → Option UsageStat := fun _ => none
  /-- The usages when duplicates are looked for. -/
  usageAfter : String → Option UsageStat := fun _ => none
  now : ℤ
  configuredOrders : MapOrders ctx.diskIoCounters
  extraOrders : ℕ → MapOrders ctx.diskIoCounters
  partitionOrders : ℕ → MapOrders ctx.diskIoCounters
  partitionExtraOrders : ℕ → MapOrders ctx.diskIoCounters
  folderOrders : ℕ → MapOrders ctx.diskIoCounters
  lastResortOrder : MapOrder ctx.diskIoCounters

namespace DiskInfoReading

variable (paths : Paths) (r : DiskInfoReading)

/-! ### The root filesystem -/

/-- `FILESYSTEM` is a partition, or else a device that is not one. -/
def addConfiguredRootFs (fsStats : List (String × FsStats)) : List (String × FsStats) × Bool :=
  if r.ctx.filesystem = "" then (fsStats, false)
  else
    match r.partitions.find? (filesystemMatchesPartitionSetting paths r.ctx.filesystem) with
    | some p =>
        (addFsStat paths r.ctx fsStats r.configuredOrders p.device p.mountpoint true "", true)
    | none =>
        match findIoDevice paths r.ctx.filesystem r.configuredOrders.find with
        | some ioKey =>
            (AssocList.insert ioKey { root := true, mountpoint := r.rootMountPoint } fsStats, true)
        | none => (fsStats, false)

/-- The partition is taken for the root filesystem, if its device has counters. -/
def addPartitionRootFs (fsStats : List (String × FsStats)) (n : ℕ) (p : PartitionStat) :
    List (String × FsStats) × Bool :=
  match findIoDevice paths (paths.base p.device) (r.partitionOrders n).find with
  | none => (fsStats, false)
  | some fs => (addFsStat paths r.ctx fsStats (r.partitionOrders n) fs p.mountpoint true "", true)

def addLastResortRootFs (fsStats : List (String × FsStats)) : List (String × FsStats) :=
  let mostActive := mostActiveIoDevice r.lastResortOrder
  let rootKey :=
    if mostActive ≠ "" then mostActive
    else
      let rootKey := paths.base r.rootMountPoint
      if (fsStats.lookup rootKey).isSome then "root" else rootKey
  AssocList.insert rootKey { root := true, mountpoint := r.rootMountPoint } fsStats

/-! ### Extra filesystems -/

def findPartitionByFilesystemSetting (filesystem : String) : Option PartitionStat :=
  r.partitions.find? fun p => hasSuffix p.device filesystem || p.mountpoint = filesystem

def addConfiguredExtraFsEntry (fsStats : List (String × FsStats)) (n : ℕ)
    (filesystem customName : String) : List (String × FsStats) :=
  match r.findPartitionByFilesystemSetting filesystem with
  | some p =>
      addFsStat paths r.ctx fsStats (r.extraOrders n) p.device p.mountpoint false customName
  | none =>
      if (r.usageFn filesystem).isSome then
        addFsStat paths r.ctx fsStats (r.extraOrders n) (paths.base filesystem) filesystem false
          customName
      else fsStats

def extraEntries : List String :=
  match r.extraFilesystems with
  | none => []
  | some extraFilesystems => (extraFilesystems.toList.splitOn ',').map String.ofList

def addConfiguredExtraFilesystems (fsStats : List (String × FsStats)) : List (String × FsStats) :=
  r.extraEntries.zipIdx.foldl
    (fun fsStats (fsEntry, n) =>
      let (filesystem, customName) := parseFilesystemEntry fsEntry
      r.addConfiguredExtraFsEntry paths fsStats n filesystem customName)
    fsStats

def addPartitionExtraFs (fsStats : List (String × FsStats)) (n : ℕ) (p : PartitionStat) :
    List (String × FsStats) :=
  if paths.dir p.mountpoint ≠ r.ctx.efPath then fsStats
  else
    let (device, customName) := extraFilesystemPartitionInfo paths p
    addFsStat paths r.ctx fsStats (r.partitionExtraOrders n) device p.mountpoint false customName

/-- Folders whose mountpoints are not there yet. -/
def addExtraFilesystemFolders (fsStats : List (String × FsStats)) (folderNames : List String) :
    List (String × FsStats) :=
  let existingMountpoints := fsStats.map (·.2.mountpoint)
  folderNames.zipIdx.foldl
    (fun fsStats (folderName, n) =>
      let mountpoint := paths.join r.ctx.efPath folderName
      if mountpoint ∈ existingMountpoints then fsStats
      else
        let (device, customName) := parseFilesystemEntry folderName
        addFsStat paths r.ctx fsStats (r.folderOrders n) device mountpoint false customName)
    fsStats

/-! ### All of it -/

/-- The loop over the partitions, with whether there is a root filesystem. -/
def addPartition (s : List (String × FsStats) × Bool) (entry : PartitionStat × ℕ) :
    List (String × FsStats) × Bool :=
  let (p, n) := entry
  let (fsStats, hasRoot) :=
    if s.2 = false ∧ isRootFallbackPartition p r.rootMountPoint then
      r.addPartitionRootFs paths s.1 n p
    else s
  (r.addPartitionExtraFs paths fsStats n p, hasRoot)

def discover : List (String × FsStats) :=
  let (fsStats, hasRoot) := r.addConfiguredRootFs paths []
  let fsStats := r.addConfiguredExtraFilesystems paths fsStats
  let (fsStats, hasRoot) := r.partitions.zipIdx.foldl (r.addPartition paths) (fsStats, hasRoot)
  let fsStats :=
    match r.folders with
    | some folders => r.addExtraFilesystemFolders paths fsStats ((folders.filter (·.2)).map (·.1))
    | none => fsStats
  if hasRoot then fsStats else r.addLastResortRootFs paths fsStats

end DiskInfoReading

def withinUsageTolerance (a b tolerance : Uint64) : Bool :=
  if b ≤ a then a - b ≤ tolerance else b - a ≤ tolerance

def hasSameDiskUsage (a b : UsageStat) : Bool :=
  a.total ≠ 0 && b.total ≠ 0 && withinUsageTolerance a.total b.total (16 * 1024 * 1024) &&
    withinUsageTolerance a.used b.used (16 * 1024 * 1024)

def pruneDuplicateRootExtraFilesystems (usage : String → Option UsageStat)
    (fsStats : List (String × FsStats)) : List (String × FsStats) :=
  match fsStats.find? (·.2.root) with
  | none => fsStats
  | some root =>
      if root.2.mountpoint = "" then fsStats
      else
        match usage root.2.mountpoint with
        | none => fsStats
        | some rootUsage =>
            fsStats.filter fun entry =>
              entry.2.root ||
                !(usage entry.2.mountpoint).any (hasSameDiskUsage rootUsage ·)

/-- On Windows the backslash at the end of a device is cut off. -/
def trimDevice (isWindows : Bool) (p : PartitionStat) : PartitionStat :=
  if isWindows ∧ hasSuffix p.device "\\" then
    { p with device := String.ofList p.device.toList.dropLast }
  else p

def initializeDiskInfo (paths : Paths) (r : DiskInfoReading) : Disks :=
  let r := { r with partitions := r.partitions.map (trimDevice r.ctx.isWindows) }
  Disks.initializeDiskIoStats
    { fsStats := pruneDuplicateRootExtraFilesystems r.usageAfter (r.discover paths) }
    (r.ctx.diskIoCounters.devices.map fun d => { key := d.name, counters := d.toIOCounters }) r.now

/-! ### One root filesystem -/

/-- Exactly one entry of the map is that of the root filesystem. -/
def OneRoot (fsStats : List (String × FsStats)) : Prop :=
  ∃! device, ∃ stats, fsStats.lookup device = some stats ∧ stats.root = true

namespace DiskInfoReading

variable (paths : Paths) (r : DiskInfoReading)

/-- `FILESYSTEM` names a partition or a device. -/
def Configured : Prop :=
  r.ctx.filesystem ≠ "" ∧
    ((∃ p ∈ r.partitions, filesystemMatchesPartitionSetting paths r.ctx.filesystem p = true) ∨
      (findIoDevice paths r.ctx.filesystem r.configuredOrders.find).isSome)

/-- The key of an entry of `EXTRA_FILESYSTEMS`, if it is valid. -/
def extraKey (entry : String × ℕ) : Option String :=
  let filesystem := (parseFilesystemEntry entry.1).1
  match r.findPartitionByFilesystemSetting filesystem with
  | some p =>
      some (registrationKey paths r.ctx (r.extraOrders entry.2) p.device p.mountpoint false)
  | none =>
      if (r.usageFn filesystem).isSome then
        some (registrationKey paths r.ctx (r.extraOrders entry.2) (paths.base filesystem)
          filesystem false)
      else none

/-- The key of a partition that is mounted as an extra filesystem. -/
def partitionExtraKey (entry : PartitionStat × ℕ) : Option String :=
  if paths.dir entry.1.mountpoint ≠ r.ctx.efPath then none
  else
    some (registrationKey paths r.ctx (r.partitionExtraOrders entry.2)
      (extraFilesystemPartitionInfo paths entry.1).1 entry.1.mountpoint false)

/-- The key of a partition that is taken for the root filesystem. -/
def partitionRootKey (entry : PartitionStat × ℕ) : Option String :=
  if isRootFallbackPartition entry.1 r.rootMountPoint then
    (findIoDevice paths (paths.base entry.1.device) (r.partitionOrders entry.2).find).map fun fs =>
      registrationKey paths r.ctx (r.partitionOrders entry.2) fs entry.1.mountpoint true
  else none

/-- The first partition that is taken for the root filesystem has a key that an extra filesystem has
taken before it. -/
def RootKeyTaken : Prop :=
  ∃ before entry after key, r.partitions.zipIdx = before ++ entry :: after ∧
    (∀ entry' ∈ before, r.partitionRootKey paths entry' = none) ∧
    r.partitionRootKey paths entry = some key ∧
    ((∃ entry' ∈ r.extraEntries.zipIdx, r.extraKey paths entry' = some key) ∨
      ∃ entry' ∈ before, r.partitionExtraKey paths entry' = some key)

end DiskInfoReading

end Picket.Gather
