import Picket.DiskStats
import Mathlib.Data.String.Basic
import Mathlib.Data.List.Perm.Basic

/-!
# Which device a filesystem is on

What is asked for is the name or the label of a device, or has a common start with one of them.
Devices are gone through in the order of a map, which is another one each time.
-/

namespace Picket.Gather

/-! ### Strings and paths -/

/-- `unicode.IsSpace`. -/
def isSpace (c : Char) : Bool :=
  9 ≤ c.toNat && c.toNat ≤ 13 || 0x2000 ≤ c.toNat && c.toNat ≤ 0x200a ||
    c.toNat ∈ [0x20, 0x85, 0xa0, 0x1680, 0x2028, 0x2029, 0x202f, 0x205f, 0x3000]

/-- `strings.TrimSpace`. -/
def trimSpace (s : String) : String :=
  String.ofList (((s.toList.dropWhile isSpace).reverse.dropWhile isSpace).reverse)

/-- `strings.HasPrefix`. -/
def hasPrefix (s start : String) : Bool :=
  start.toList.isPrefixOf s.toList

/-- `strings.HasSuffix`. -/
def hasSuffix (s rest : String) : Bool :=
  rest.toList.isSuffixOf s.toList

/-- The functions of `filepath`, which depend on the system. -/
structure Paths where
  base : String → String
  dir : String → String
  join : String → String → String

/-- `filepath.Base` where paths have slashes. -/
def slashBase (path : String) : String :=
  if path.toList = [] then "."
  else
    match path.toList.reverse.dropWhile (· = '/') with
    | [] => "/"
    | rest => String.ofList (rest.takeWhile (· ≠ '/')).reverse

/-- `filepath.Dir` of a path that is clean. -/
def slashDir (path : String) : String :=
  let rest := path.toList.reverse.dropWhile (· ≠ '/')
  match rest.dropWhile (· = '/') with
  | [] => if rest = [] then "." else "/"
  | parent => String.ofList parent.reverse

def Paths.unix : Paths where
  base := slashBase
  dir := slashDir
  join parent name := parent ++ "/" ++ name

/-! ### Devices -/

/-- `disk.IOCountersStat`. -/
structure DeviceCounters extends IOCounters where
  label : String := ""

/-- `map[string]disk.IOCountersStat`, with devices under their names. -/
structure DiskCounters where
  devices : List DeviceCounters
  nodup : (devices.map (·.name)).Nodup := by decide

structure IoMatchCandidate where
  name : String := ""
  bytes : Uint64 := 0
  ops : Uint64 := 0

def DeviceCounters.candidate (d : DeviceCounters) : IoMatchCandidate where
  name := d.name
  bytes := d.readBytes + d.writeBytes
  ops := d.readCount + d.writeCount

def IoMatchCandidate.Beats (c best : IoMatchCandidate) : Prop :=
  best.bytes < c.bytes ∨ c.bytes = best.bytes ∧ best.ops < c.ops ∨
    c.bytes = best.bytes ∧ c.ops = best.ops ∧ c.name < best.name

instance (c best : IoMatchCandidate) : Decidable (c.Beats best) := by
  unfold IoMatchCandidate.Beats
  infer_instance

def prefixRelated (a b : String) : Bool :=
  if a = "" ∨ b = "" ∨ a = b then false else hasPrefix a b || hasPrefix b a

section Matching

variable (paths : Paths)

def normalizeDeviceName (value : String) : String :=
  let name := paths.base (trimSpace value)
  if name = "." then "" else name

def DeviceCounters.isExact (filesystem : String) (d : DeviceCounters) : Bool :=
  normalizeDeviceName paths d.name = filesystem ||
    d.label ≠ "" && normalizeDeviceName paths d.label = filesystem

def DeviceCounters.isRelated (filesystem : String) (d : DeviceCounters) : Bool :=
  prefixRelated (normalizeDeviceName paths d.name) filesystem ||
    d.label ≠ "" && prefixRelated (normalizeDeviceName paths d.label) filesystem

/-- The loop of `findIoDevice`, with the candidates so far: an exact match ends it. -/
def matchDevices (filesystem : String) :
    List IoMatchCandidate → List DeviceCounters → String ⊕ List IoMatchCandidate
  | candidates, [] => .inr candidates
  | candidates, d :: ds =>
      if d.isExact paths filesystem then .inl d.name
      else if d.isRelated paths filesystem then
        matchDevices filesystem (candidates ++ [d.candidate]) ds
      else matchDevices filesystem candidates ds

def bestCandidate (best : IoMatchCandidate) (candidates : List IoMatchCandidate) :
    IoMatchCandidate :=
  candidates.foldl (fun best c => if c.Beats best then c else best) best

/-- The devices come in the order in which the map is gone through. -/
def findIoDevice (filesystem : String) (devices : List DeviceCounters) : Option String :=
  let filesystem := normalizeDeviceName paths filesystem
  if filesystem = "" then none
  else
    match matchDevices paths filesystem [] devices with
    | .inl name => some name
    | .inr [] => none
    | .inr (best :: candidates) => some (bestCandidate best candidates).name

end Matching

def mostActiveIoDevice (devices : List DeviceCounters) : String :=
  (devices.foldl
    (fun best d => if best.name = "" ∨ d.candidate.Beats best then d.candidate else best)
    ({} : IoMatchCandidate)).name

/-! ### What does not depend on the order -/

/-- The same devices are found in whichever order the map is gone through. -/
def DiskCounters.OrderFree (paths : Paths) (counters : DiskCounters) (filesystem : String) : Prop :=
  ∀ devices, devices.Perm counters.devices →
    findIoDevice paths filesystem devices = findIoDevice paths filesystem counters.devices ∧
      mostActiveIoDevice devices = mostActiveIoDevice counters.devices

/-- At most one device has the name or the label that is asked for. -/
def DiskCounters.OneExact (paths : Paths) (counters : DiskCounters) (filesystem : String) : Prop :=
  normalizeDeviceName paths filesystem = "" ∨
    (counters.devices.filter
      (·.isExact paths (normalizeDeviceName paths filesystem))).length ≤ 1

/-- Of several devices, one that has no name does not have the most activity. -/
def DiskCounters.BusiestNamed (counters : DiskCounters) : Prop :=
  ∀ d ∈ counters.devices, d.name = "" →
    (∀ d' ∈ counters.devices, ¬ d'.candidate.Beats d.candidate) → counters.devices.length = 1

end Picket.Gather
