import Picket.DiskDevices
import Picket.Lib.AssocList

/-!
# Names of AMD GPUs

The name of a GPU is looked up in a file, by its device and revision, or else by its device alone.
What has been found is cached under both, and so is what has not been found.
-/

namespace Picket.Gather

/-- `strings.TrimPrefix`. -/
def trimPrefix (s start : String) : String :=
  if hasPrefix s start then String.ofList (s.toList.drop start.toList.length) else s

/-- `strings.TrimSuffix`. -/
def trimSuffix (s rest : String) : String :=
  if hasSuffix s rest then
    String.ofList (s.toList.take (s.toList.length - rest.toList.length))
  else s

/-! ### The file -/

/-- What `bufio.ScanLines` makes of the text: no line after the last newline, and no carriage return
at the end of a line. -/
def splitLines (text : List Char) : List (List Char) :=
  let lines := text.splitOn '\n'
  if lines.getLast? = some [] then lines.dropLast else lines

def dropCR (line : List Char) : List Char :=
  if line.getLast? = some '\r' then line.dropLast else line

/-- The lines that `bufio.Scanner` comes to: it ends at one that does not fit in its buffer. -/
def scanLines (text : String) : List String :=
  ((splitLines text.toList).takeWhile fun line => (String.ofList line).utf8ByteSize < 65536).map
    fun line => String.ofList (dropCR line)

section Lower

variable (toLower : Char → Char)

/-- Small letters are those of `unicode.ToLower`. -/
def normalizeHexID (id : String) : String :=
  trimPrefix (String.ofList ((trimSpace id).toList.map toLower)) "0x"

structure AmdgpuLine where
  dev : String
  rev : String
  productName : String
  dev_ne : dev ≠ ""
  productName_ne : productName ≠ ""

def splitCommas (line : List Char) : Option (String × String × String) :=
  match line.splitOn ',' with
  | dev :: rev :: productName :: rest =>
      some (String.ofList dev, String.ofList rev,
        String.ofList ([','].intercalate (productName :: rest)))
  | _ => none

def parseAmdgpuLine (text : String) : Option AmdgpuLine :=
  let line := trimSpace text
  if line = "" ∨ hasPrefix line "#" then none
  else
    match splitCommas line.toList with
    | none => none
    | some parts =>
        let dev := normalizeHexID toLower parts.1
        let productName := trimSpace parts.2.2
        if h : dev = "" ∨ productName = "" then none
        else
          some
            { dev
              rev := normalizeHexID toLower parts.2.1
              productName
              dev_ne := (not_or.mp h).1
              productName_ne := (not_or.mp h).2 }

/-- The loop over the lines, with the first name of the device so far; whether the name is that of
the revision. -/
def lookupAmdgpuName (deviceID revisionID : String) : String → List String → Option (String × Bool)
  | byDevice, [] => if byDevice ≠ "" then some (byDevice, false) else none
  | byDevice, text :: rest =>
      match parseAmdgpuLine toLower text with
      | none => lookupAmdgpuName deviceID revisionID byDevice rest
      | some line =>
          if line.dev ≠ deviceID then lookupAmdgpuName deviceID revisionID byDevice rest
          else
            let byDevice := if byDevice = "" then line.productName else byDevice
            if revisionID ≠ "" ∧ line.rev = revisionID then some (line.productName, true)
            else lookupAmdgpuName deviceID revisionID byDevice rest

def lookupAmdgpuNameInFile (deviceID revisionID : String) (file : Option String) :
    Option (String × Bool) :=
  match file with
  | none => none
  | some text => lookupAmdgpuName toLower deviceID revisionID "" (scanLines text)

end Lower

/-! ### The cache -/

structure AmdgpuNameCache where
  hits : List (String × String) := []
  misses : List String := []

def cacheKeyForAmdgpu (deviceID revisionID : String) : String :=
  if revisionID ≠ "" then deviceID ++ ":" ++ revisionID else deviceID

def cacheKeys (deviceID revisionID : String) : List String :=
  if revisionID ≠ "" then [cacheKeyForAmdgpu deviceID revisionID, deviceID]
  else [cacheKeyForAmdgpu deviceID revisionID]

def normalizeAmdgpuName (name : String) : String :=
  [" Graphics", " Series"].foldl trimSuffix name

namespace AmdgpuNameCache

/-- The name of the first key that has one, and whether there is nothing to look up. -/
def getCachedAmdgpuName (c : AmdgpuNameCache) (deviceID revisionID : String) :
    Option String × Bool :=
  let keys := cacheKeys deviceID revisionID
  match keys.findSome? (List.lookup · c.hits) with
  | some name => (some name, true)
  | none => (none, keys.countP (· ∈ c.misses) = keys.length)

def cacheAmdgpuName (c : AmdgpuNameCache) (deviceID revisionID name : String) (exact : Bool) :
    AmdgpuNameCache :=
  let name := normalizeAmdgpuName name
  let hits :=
    if exact = true ∧ revisionID ≠ "" then
      AssocList.insert (cacheKeyForAmdgpu deviceID revisionID) name c.hits
    else c.hits
  { c with hits := AssocList.insert deviceID name hits }

def cacheMissingAmdgpuName (c : AmdgpuNameCache) (deviceID revisionID : String) :
    AmdgpuNameCache :=
  { c with
    misses :=
      if revisionID ≠ "" then cacheKeyForAmdgpu deviceID revisionID :: deviceID :: c.misses
      else deviceID :: c.misses }

end AmdgpuNameCache

/-! ### Names -/

structure AmdDevice where
  productName : Option String := none
  device : Option String := none
  revision : Option String := none

section Names

variable (toLower : Char → Char) (file : Option String)

def AmdDevice.revisionID (d : AmdDevice) : String :=
  match d.revision with
  | some rev => normalizeHexID toLower rev
  | none => ""

def rawAmdName (id : String) : String :=
  "AMD GPU (" ++ id ++ ")"

def getAmdGpuName (c : AmdgpuNameCache) (d : AmdDevice) : AmdgpuNameCache × String :=
  match d.productName with
  | some prod => (c, prod)
  | none =>
      match d.device with
      | none => (c, "AMD GPU")
      | some deviceID =>
          let id := normalizeHexID toLower deviceID
          let revision := d.revisionID toLower
          match c.getCachedAmdgpuName id revision with
          | (some name, _) => (c, name)
          | (none, true) => (c, rawAmdName id)
          | (none, false) =>
              match lookupAmdgpuNameInFile toLower id revision file with
              | some (name, exact) =>
                  (c.cacheAmdgpuName id revision name exact, normalizeAmdgpuName name)
              | none => (c.cacheMissingAmdgpuName id revision, rawAmdName id)

/-! ### The name without a cache -/

def amdgpuLines : List AmdgpuLine :=
  match file with
  | none => []
  | some text => (scanLines text).filterMap (parseAmdgpuLine toLower)

/-- The line of the device and the revision, if the device has one, or else the first line of the
device. -/
def amdgpuLine (deviceID revisionID : String) : Option AmdgpuLine :=
  ((amdgpuLines toLower file).find? fun line =>
      revisionID ≠ "" ∧ line.dev = deviceID ∧ line.rev = revisionID).or
    ((amdgpuLines toLower file).find? (·.dev = deviceID))

def plainName (deviceID revisionID : String) : String :=
  match amdgpuLine toLower file deviceID revisionID with
  | some line => normalizeAmdgpuName line.productName
  | none => rawAmdName deviceID

def AmdDevice.plainName (d : AmdDevice) : String :=
  match d.productName with
  | some prod => prod
  | none =>
      match d.device with
      | none => "AMD GPU"
      | some deviceID =>
          Gather.plainName toLower file (normalizeHexID toLower deviceID) (d.revisionID toLower)

/-! ### Runs -/

/-- The cache, the queries by which its keys have come into it, and what has been answered. -/
structure AmdRun where
  cache : AmdgpuNameCache := {}
  storedBy : String → Option (String × String) := fun _ => none
  answers : List (AmdDevice × String) := []

/-- A key that is new in the cache comes from this query. -/
def AmdRun.query (s : AmdRun) (d : AmdDevice) : AmdRun :=
  let (cache, name) := getAmdGpuName toLower file s.cache d
  { cache
    storedBy := fun key =>
      if (s.cache.hits.lookup key).isSome then s.storedBy key
      else if (cache.hits.lookup key).isSome then
        some (normalizeHexID toLower (d.device.getD ""), d.revisionID toLower)
      else none
    answers := s.answers ++ [(d, name)] }

def AmdRun.step (s : AmdRun) (d : AmdDevice) : Option AmdRun :=
  some (s.query toLower file d)

/-- The queries, one after another, from an empty cache. -/
def AmdRun.ofQueries (ds : List AmdDevice) : AmdRun :=
  ds.foldl (AmdRun.query toLower file) {}

/-- Each answer is what it would be with an empty cache. -/
def AmdRun.AgreesWithFresh (s : AmdRun) : Prop :=
  ∀ answer ∈ s.answers, answer.2 = (getAmdGpuName toLower file {} answer.1).2

/-- The query that the first of its keys in the cache comes from has the same name; and if all of
its keys are known to be missing, it is not in the file by a name. -/
def AmdRun.Unshadowed (s : AmdRun) (d : AmdDevice) : Prop :=
  d.productName = none → ∀ deviceID, d.device = some deviceID →
    let id := normalizeHexID toLower deviceID
    let revision := d.revisionID toLower
    match (cacheKeys id revision).findSome? s.storedBy with
    | some by' => plainName toLower file by'.1 by'.2 = plainName toLower file id revision
    | none =>
        (∀ key ∈ cacheKeys id revision, key ∈ s.cache.misses) →
          plainName toLower file id revision = rawAmdName id

end Names

end Picket.Gather
