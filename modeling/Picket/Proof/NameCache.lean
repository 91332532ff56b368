import Picket.AmdNames
import Picket.Lib.Transition

/-!
# Cached names

A name that has been found for a revision is also cached for the device. It then answers for all
other revisions of the device, which have names of their own.
-/

namespace Picket.Gather

open Transition

section Names

variable (toLower : Char → Char) (file : Option String)

/-! ### The lookup -/

/-- The loop finds the first line of the revision, or else the first of the device. -/
theorem lookupAmdgpuName_eq (deviceID revisionID byDevice : String) (texts : List String) :
    lookupAmdgpuName toLower deviceID revisionID byDevice texts =
      (((texts.filterMap (parseAmdgpuLine toLower)).find? fun line =>
          revisionID ≠ "" ∧ line.dev = deviceID ∧ line.rev = revisionID).map fun line =>
            (line.productName, true)).or
        ((if byDevice ≠ "" then some byDevice
          else ((texts.filterMap (parseAmdgpuLine toLower)).find? (·.dev = deviceID)).map
            (·.productName)).map (·, false)) := by
  induction texts generalizing byDevice with
  | nil =>
      rw [lookupAmdgpuName]
      by_cases hbyDevice : byDevice = "" <;> simp [hbyDevice]
  | cons text texts ih =>
      rw [lookupAmdgpuName]
      cases hparse : parseAmdgpuLine toLower text with
      | none => simp only [ih, List.filterMap_cons, hparse]
      | some line =>
          simp only [List.filterMap_cons, hparse, List.find?_cons]
          by_cases hdev : line.dev = deviceID
          · simp only [hdev, ne_eq, not_true_eq_false, if_false, true_and, decide_true]
            by_cases hrev : revisionID ≠ "" ∧ line.rev = revisionID
            · simp [hrev]
            · rw [if_neg hrev, ih, decide_eq_false hrev]
              by_cases hbyDevice : byDevice = ""
              · simp [hbyDevice, line.productName_ne]
              · simp [hbyDevice]
          · simp [hdev, ih]

theorem lookupAmdgpuNameInFile_eq (deviceID revisionID : String) :
    (lookupAmdgpuNameInFile toLower deviceID revisionID file).map Prod.fst =
      (amdgpuLine toLower file deviceID revisionID).map (·.productName) := by
  cases file with
  | none => rfl
  | some text =>
      simp only [lookupAmdgpuNameInFile, lookupAmdgpuName_eq, amdgpuLine, amdgpuLines, ne_eq,
        not_true_eq_false, if_false, Option.map_or, Option.map_map]
      rfl

theorem plainName_of_lookup {deviceID revisionID name : String} {exact : Bool}
    (hlookup : lookupAmdgpuNameInFile toLower deviceID revisionID file = some (name, exact)) :
    plainName toLower file deviceID revisionID = normalizeAmdgpuName name := by
  have hline := lookupAmdgpuNameInFile_eq toLower file deviceID revisionID
  rw [hlookup, Option.map_some, eq_comm, Option.map_eq_some_iff] at hline
  obtain ⟨line, hline, rfl⟩ := hline
  rw [plainName, hline]

theorem plainName_of_lookup_none {deviceID revisionID : String}
    (hlookup : lookupAmdgpuNameInFile toLower deviceID revisionID file = none) :
    plainName toLower file deviceID revisionID = rawAmdName deviceID := by
  have hline := lookupAmdgpuNameInFile_eq toLower file deviceID revisionID
  rw [hlookup, Option.map_none, eq_comm, Option.map_eq_none_iff] at hline
  rw [plainName, hline]

/-! ### The cache -/

theorem deviceID_mem_cacheKeys (deviceID revisionID : String) :
    deviceID ∈ cacheKeys deviceID revisionID := by
  rw [cacheKeys]
  by_cases hrevision : revisionID = ""
  · simp [hrevision, cacheKeyForAmdgpu]
  · simp [hrevision]

theorem cacheKey_mem_cacheKeys (deviceID revisionID : String) :
    cacheKeyForAmdgpu deviceID revisionID ∈ cacheKeys deviceID revisionID := by
  rw [cacheKeys]
  split <;> exact List.mem_cons_self

theorem lookup_cacheAmdgpuName (c : AmdgpuNameCache) (deviceID revisionID name : String)
    (exact : Bool) (key : String) :
    (c.cacheAmdgpuName deviceID revisionID name exact).hits.lookup key = c.hits.lookup key ∨
      key ∈ cacheKeys deviceID revisionID ∧
        (c.cacheAmdgpuName deviceID revisionID name exact).hits.lookup key =
          some (normalizeAmdgpuName name) := by
  simp only [AmdgpuNameCache.cacheAmdgpuName, AssocList.lookup_insert]
  by_cases hdevice : key = deviceID
  · subst hdevice
    rw [if_pos rfl]
    exact Or.inr ⟨deviceID_mem_cacheKeys key revisionID, rfl⟩
  · rw [if_neg hdevice]
    by_cases hexact : exact = true ∧ revisionID ≠ ""
    · rw [if_pos hexact, AssocList.lookup_insert]
      by_cases hkey : key = cacheKeyForAmdgpu deviceID revisionID
      · rw [if_pos hkey, hkey]
        exact Or.inr ⟨cacheKey_mem_cacheKeys deviceID revisionID, rfl⟩
      · rw [if_neg hkey]
        exact Or.inl rfl
    · rw [if_neg hexact]
      exact Or.inl rfl

theorem lookup_of_getCached_none (c : AmdgpuNameCache) {deviceID revisionID : String}
    (hcached : (c.getCachedAmdgpuName deviceID revisionID).1 = none) :
    ∀ key ∈ cacheKeys deviceID revisionID, c.hits.lookup key = none := by
  rw [AmdgpuNameCache.getCachedAmdgpuName] at hcached
  cases hfirst : (cacheKeys deviceID revisionID).findSome? (List.lookup · c.hits) with
  | some name => simp [hfirst] at hcached
  | none => exact List.findSome?_eq_none_iff.mp hfirst

/-- A query answers with the first of its keys in the cache, or with what is missing, or with what
it finds in the file. -/
theorem getAmdGpuName_answer (c : AmdgpuNameCache) {d : AmdDevice} {deviceID : String}
    (hproduct : d.productName = none) (hdevice : d.device = some deviceID) :
    (getAmdGpuName toLower file c d).2 =
      match (cacheKeys (normalizeHexID toLower deviceID) (d.revisionID toLower)).findSome?
          (List.lookup · c.hits) with
      | some name => name
      | none =>
          if ∀ key ∈ cacheKeys (normalizeHexID toLower deviceID) (d.revisionID toLower),
            key ∈ c.misses
          then rawAmdName (normalizeHexID toLower deviceID)
          else
            plainName toLower file (normalizeHexID toLower deviceID) (d.revisionID toLower) := by
  simp only [getAmdGpuName, hproduct, hdevice, AmdgpuNameCache.getCachedAmdgpuName]
  generalize normalizeHexID toLower deviceID = id
  generalize d.revisionID toLower = revision
  cases (cacheKeys id revision).findSome? (List.lookup · c.hits) with
  | some name => rfl
  | none =>
      have hcount : (cacheKeys id revision).countP (· ∈ c.misses) = (cacheKeys id revision).length ↔
          ∀ key ∈ cacheKeys id revision, key ∈ c.misses := by
        simp [List.countP_eq_length]
      by_cases hmisses : ∀ key ∈ cacheKeys id revision, key ∈ c.misses
      · simp only [decide_eq_true (hcount.mpr hmisses), if_pos hmisses]
      · simp only [decide_eq_false (hmisses ∘ hcount.mp), if_neg hmisses]
        cases hlookup : lookupAmdgpuNameInFile toLower id revision file with
        | some found => exact (plainName_of_lookup toLower file hlookup).symm
        | none => exact (plainName_of_lookup_none toLower file hlookup).symm

/-- What is in the cache stays there, and what comes into it is the name of the query. -/
theorem getAmdGpuName_lookup (c : AmdgpuNameCache) (d : AmdDevice) (key : String) :
    (getAmdGpuName toLower file c d).1.hits.lookup key = c.hits.lookup key ∨
      c.hits.lookup key = none ∧
        (getAmdGpuName toLower file c d).1.hits.lookup key =
          some (plainName toLower file (normalizeHexID toLower (d.device.getD ""))
            (d.revisionID toLower)) := by
  rw [getAmdGpuName]
  cases d.productName with
  | some prod => exact Or.inl rfl
  | none =>
      cases d.device with
      | none => exact Or.inl rfl
      | some deviceID =>
          simp only [Option.getD_some]
          generalize normalizeHexID toLower deviceID = id
          generalize d.revisionID toLower = revision
          cases hcached : c.getCachedAmdgpuName id revision with
          | mk name done =>
              cases name with
              | some name => exact Or.inl rfl
              | none =>
                  cases done with
                  | true => exact Or.inl rfl
                  | false =>
                      simp only
                      cases hlookup : lookupAmdgpuNameInFile toLower id revision file with
                      | none => exact Or.inl rfl
                      | some found =>
                          simp only
                          rw [plainName_of_lookup toLower file hlookup]
                          have hcase :=
                            lookup_cacheAmdgpuName c id revision found.1 found.2 key
                          refine hcase.imp_right fun ⟨hkey, hname⟩ => ⟨?_, hname⟩
                          exact lookup_of_getCached_none c (congrArg Prod.fst hcached) key hkey

/-- With an empty cache the name is that of the line in the file. -/
theorem getAmdGpuName_empty (d : AmdDevice) :
    (getAmdGpuName toLower file {} d).2 = d.plainName toLower file := by
  rw [AmdDevice.plainName]
  cases hproduct : d.productName with
  | some prod => simp [getAmdGpuName, hproduct]
  | none =>
      cases hdevice : d.device with
      | none => simp [getAmdGpuName, hproduct, hdevice]
      | some deviceID =>
          rw [getAmdGpuName_answer toLower file {} hproduct hdevice]
          have hmiss : ¬ ∀ key ∈ cacheKeys (normalizeHexID toLower deviceID)
              (d.revisionID toLower), key ∈ ({} : AmdgpuNameCache).misses := fun hall =>
            List.not_mem_nil (hall _ (deviceID_mem_cacheKeys _ _))
          have hfirst : (cacheKeys (normalizeHexID toLower deviceID)
              (d.revisionID toLower)).findSome?
                (List.lookup · ({} : AmdgpuNameCache).hits) = none :=
            List.findSome?_eq_none_iff.mpr fun _ _ => rfl
          simp only [hfirst, if_neg hmiss]

/-! ### Runs -/

namespace AmdRun

/-- What is in the cache is the name of the query that it comes from. -/
def Cached (s : AmdRun) : Prop :=
  ∀ key, s.cache.hits.lookup key =
    (s.storedBy key).map fun by' => plainName toLower file by'.1 by'.2

theorem Cached.query {s : AmdRun} (hs : s.Cached toLower file) (d : AmdDevice) :
    (s.query toLower file d).Cached toLower file := by
  intro key
  have hkey := hs key
  have hnew := getAmdGpuName_lookup toLower file s.cache d key
  simp only [AmdRun.query]
  cases hlookup : s.cache.hits.lookup key with
  | some name =>
      rw [hlookup] at hkey hnew
      simp only [Option.isSome_some, if_true, ← hkey]
      exact hnew.resolve_right fun ⟨hnone, _⟩ => Option.some_ne_none name hnone
  | none =>
      rw [hlookup] at hnew
      rcases hnew with hsame | ⟨-, hstored⟩
      · simp [hsame]
      · simp [hstored]

theorem findSome?_cached {s : AmdRun} (hs : s.Cached toLower file) (keys : List String) :
    keys.findSome? (List.lookup · s.cache.hits) =
      (keys.findSome? s.storedBy).map fun by' => plainName toLower file by'.1 by'.2 := by
  rw [List.map_findSome?]
  exact congrArg (fun f => List.findSome? f keys) (funext hs)

/-- The answer is what it would be with an empty cache if the query is not shadowed. -/
theorem answer_iff_unshadowed {s : AmdRun} (hs : s.Cached toLower file) (d : AmdDevice) :
    (getAmdGpuName toLower file s.cache d).2 = (getAmdGpuName toLower file {} d).2 ↔
      s.Unshadowed toLower file d := by
  rw [getAmdGpuName_empty, AmdDevice.plainName, Unshadowed]
  cases hproduct : d.productName with
  | some prod => simp [getAmdGpuName, hproduct]
  | none =>
      cases hdevice : d.device with
      | none => simp [getAmdGpuName, hproduct, hdevice]
      | some deviceID =>
          rw [getAmdGpuName_answer toLower file s.cache hproduct hdevice,
            findSome?_cached toLower file hs]
          simp only [Option.some.injEq, forall_const, forall_eq']
          cases (cacheKeys (normalizeHexID toLower deviceID) (d.revisionID toLower)).findSome?
            s.storedBy with
          | some by' => rfl
          | none =>
              simp only [Option.map_none]
              split
              case isTrue hmisses =>
                rw [forall_prop_of_true hmisses]
                exact eq_comm
              case isFalse hmisses =>
                exact iff_of_true rfl fun hall => absurd hall hmisses

theorem agreesWithFresh_query {s : AmdRun} (hs : s.Cached toLower file) (d : AmdDevice) :
    (s.query toLower file d).AgreesWithFresh toLower file ↔
      s.AgreesWithFresh toLower file ∧ s.Unshadowed toLower file d := by
  rw [← answer_iff_unshadowed toLower file hs, AgreesWithFresh, AgreesWithFresh]
  simp only [AmdRun.query, List.forall_mem_append, List.forall_mem_singleton]

/-- **The cached names are the plain ones exactly where no query is shadowed.** -/
theorem agreesWithFresh_iff_guarded (ds : List AmdDevice) :
    ((ofQueries toLower file ds).AgreesWithFresh toLower file ↔
      Guarded (step toLower file) (Unshadowed toLower file) {} ds (ofQueries toLower file ds)) ∧
    ∀ d : AmdDevice, (getAmdGpuName toLower file {} d).2 = d.plainName toLower file := by
  refine ⟨?_, getAmdGpuName_empty toLower file⟩
  have hstart : ({} : AmdRun).AgreesWithFresh toLower file := fun _ hanswer =>
    absurd hanswer List.not_mem_nil
  refine (iff_guarded_of_invariant_step (Cached toLower file) ?_ ?_ (fun _ => rfl)
    (run_total (query toLower file) {} ds)).trans (and_iff_right hstart)
  · intro s d t hs hstep
    rw [← Option.some.inj hstep]
    exact hs.query toLower file d
  · intro s d t hs hstep
    rw [← Option.some.inj hstep]
    exact agreesWithFresh_query toLower file hs d

end AmdRun

end Names

def twoRevisions : String :=
  "15BF,\t00,\tAMD Radeon 780M Graphics\n15BF,\t01,\tAMD Radeon 760M Graphics\n"

/-- The second revision is given the name of the first. -/
theorem twoRevisions_shadowed :
    ¬ (AmdRun.ofQueries Char.toLower (some twoRevisions)
      [{ device := some "0x15bf", revision := some "0x00" },
        { device := some "0x15bf", revision := some "0x01" }]).AgreesWithFresh
          Char.toLower (some twoRevisions) := by
  rw [AmdRun.AgreesWithFresh]
  decide +kernel

end Picket.Gather
