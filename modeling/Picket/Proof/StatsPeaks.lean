import Picket.Proof.Cadence
import Picket.Proof.PeakRollup
import Picket.Proof.StatsTable

/-!
# The peaks of a table were recorded

A longer record is made from whatever shorter records are recent, which may have been made by the
same execution, so two of them can overlap and their depths can differ. Still the peaks of each are
those of the records of one minute that went into it, and none of these is older than the periods of
the tiers below add up to.
-/

namespace Picket

open FiniteMap Rollup Transition

/-! ### Stored averages -/

theorem FloatGauge.peak_saved (g : FloatGauge) (s : Stats) : g.peak s.saved = g.peak s := by
  cases g <;> rfl

theorem FloatGauge.value_saved (g : FloatGauge) (s : Stats) :
    g.field.value s.saved = g.field.value s := by
  cases g <;> rfl

theorem CountField.peak_saved (g : CountField) (s : Stats) : g.peak s.saved = g.peak s := by
  cases g <;> rfl

theorem CountField.value_saved (g : CountField) (s : Stats) : g.value s.saved = g.value s := by
  cases g <;> rfl

theorem Readings.saved {s : Stats} (h : Readings s) : Readings s.saved where
  floats g := by
    rw [g.value_saved, g.peak_saved]
    exact h.floats g
  extraFs := h.extraFs

theorem BelowPeaks.saved {s : Stats} (h : BelowPeaks s) : BelowPeaks s.saved :=
  { h with }

theorem readings_averageSaved {records : List Stats} (hread : ∀ r ∈ records, Readings r) :
    Readings (averageSaved records) :=
  (readings_average hread).saved

section Rolled

variable {xs ys : List Stats} (h : Rolled averageSaved xs (averageSaved ys))
  (hxs : ∀ r ∈ xs, Readings r) (hys : ∀ r ∈ ys, Readings r)
include h hxs hys

theorem FloatGauge.peak_rolled (g : FloatGauge) :
    g.peak (averageSaved ys) = g.peak (averageSaved xs) := by
  have hbelow (group : List Stats) (hgroup : ∀ r ∈ group, Readings r) :
      g.field.value (averageSaved group) ≤ g.peak (averageSaved group) := by
    rw [averageSaved, g.value_saved, g.peak_saved]
    exact (g.average hgroup).2
  have hjoin := h.peak_eq g.field.value g.peak (fun _ => readings_averageSaved)
    (fun _ hr => (hr.floats g).peak_nonneg)
    (fun group _ => (g.peak_saved _).trans (g.peak_average group)) hbelow hxs
  rwa [sup_eq_left.mpr (hbelow ys hys)] at hjoin

theorem CountField.peak_rolled (g : CountField) :
    g.peak (averageSaved ys) = g.peak (averageSaved xs) := by
  have hbelow (group : List Stats) (hgroup : ∀ r ∈ group, Readings r) :
      g.value (averageSaved group) ≤ g.peak (averageSaved group) := by
    rw [averageSaved, g.value_saved, g.peak_saved]
    exact g.average_le hgroup
  have hjoin := h.peak_eq g.value g.peak (fun _ => readings_averageSaved)
    (fun r _ => Fin.zero_le (g.peak r))
    (fun group _ => (g.peak_saved _).trans (g.peak_average group)) hbelow hxs
  rwa [sup_eq_left.mpr (hbelow ys hys)] at hjoin

theorem FsFloatGauge.peak_rolled (g : FsFloatGauge) (key : String) :
    readAt g.peak (averageSaved ys).extraFs key = readAt g.peak (averageSaved xs).extraFs key := by
  have hempty (fs : FsStats) (hfs : FsReadings fs) : g.peak {} ≤ g.peak fs := by
    rw [g.peak_empty]
    exact (hfs g).peak_nonneg
  have hbelow (group : List Stats) (hgroup : ∀ r ∈ group, Readings r) :
      readAt g.field.value (averageSaved group).extraFs key
        ≤ readAt g.peak (averageSaved group).extraFs key :=
    readAt_mono fun fs hfs => (g.average hgroup hfs).2
  have hjoin := h.peak_eq (fun s => readAt g.field.value s.extraFs key)
    (fun s => readAt g.peak s.extraFs key) (fun _ => readings_averageSaved) (fun _ _ => bot_le)
    (fun group hgroup => fsPeak_average key hgroup g.peak_accumulateFs g.peak_averageFs hempty)
    hbelow hxs
  rwa [sup_eq_left.mpr (hbelow ys hys)] at hjoin

theorem FsCountField.peak_rolled (g : FsCountField) (key : String) :
    readAt g.peak (averageSaved ys).extraFs key = readAt g.peak (averageSaved xs).extraFs key := by
  have hempty (fs : FsStats) (_ : FsReadings fs) : g.peak {} ≤ g.peak fs := by
    rw [g.peak_empty]
    exact Fin.zero_le _
  have hbelow (group : List Stats) (hgroup : ∀ r ∈ group, Readings r) :
      readAt g.value (averageSaved group).extraFs key
        ≤ readAt g.peak (averageSaved group).extraFs key :=
    readAt_mono fun fs hfs => g.average_le hgroup hfs
  have hjoin := h.peak_eq (fun s => readAt g.value s.extraFs key)
    (fun s => readAt g.peak s.extraFs key) (fun _ => readings_averageSaved) (fun _ _ => bot_le)
    (fun group hgroup => fsPeak_average key hgroup g.peak_accumulateFs g.peak_averageFs hempty)
    hbelow hxs
  rwa [sup_eq_left.mpr (hbelow ys hys)] at hjoin

omit hys in
theorem interfacePeak_rolled (key : String) :
    readAt interfacePeaks (averageSaved ys).networkInterfaces key
      = readAt interfacePeaks (averageSaved xs).networkInterfaces key := by
  have hjoin := h.peak_eq (fun s => readAt interfacePeaks s.networkInterfaces key)
    (fun s => readAt interfacePeaks s.networkInterfaces key) (fun _ => readings_averageSaved)
    (fun _ _ => bot_le) (fun group _ => interfacePeak_average key group) (fun _ _ => le_rfl) hxs
  rwa [sup_idem] at hjoin

/-- The peaks of an average are those of all the records that went into it. -/
theorem peaks_rolled : (averageSaved ys).peaks = (averageSystemStatsSlice xs).peaks := by
  have hfloat := fun g : FloatGauge => g.peak_rolled h hxs hys
  have hcount := fun g : CountField => g.peak_rolled h hxs hys
  refine Peaks.ext (hfloat .cpu) (hfloat .mem) (hfloat .diskReadPs) (hfloat .diskWritePs)
    (hfloat .networkSent) (hfloat .networkRecv) (funext fun i => hcount (.bandwidth i))
    (funext fun i => hcount (.diskIo i)) (funext fun i => hfloat (.diskIoStats i)) ?_ ?_
  · refine Finmap.ext_lookup fun key => ?_
    rw [Stats.peaks, Stats.peaks, lookup_mapVal, lookup_mapVal]
    exact lookup_interfacePeaks_eq (interfacePeak_rolled h hxs key)
  · refine Finmap.ext_lookup fun key => ?_
    rw [Stats.peaks, Stats.peaks, lookup_mapVal, lookup_mapVal]
    exact lookup_fsPeaks_eq (fun g => g.peak_rolled h hxs hys key)
      fun g => g.peak_rolled h hxs hys key

end Rolled

/-! ### What goes into the records of a table -/

/-- How far back the records reach that a record is made of: the periods of its own tier and of
those below, with a minute for each execution. -/
def reach : RecordType → ℤ
  | .m1 => 0
  | .m10 => 11 * minute
  | .m20 => 32 * minute
  | .m120 => 153 * minute
  | .m480 => 634 * minute

theorem reach_longerType : ∀ recordData ∈ longerRecordData,
    reach recordData.longerType
      = reach recordData.shorterType - recordData.longerTimeDuration + minute := by
  decide

/-- The records of one minute that a record is made of. -/
structure MadeOf (stored : List (StoredRecord Stats)) (record : StoredRecord Stats)
    (minutes : List (StoredRecord Stats)) : Prop where
  nonempty : minutes ≠ []
  stored : ∀ x ∈ minutes, x ∈ stored
  system : ∀ x ∈ minutes, x.system = record.system
  recent : ∀ x ∈ minutes, record.created - reach record.type ≤ x.created
  rolled : Rolled averageSaved (minutes.map (·.stats)) record.stats

/-- A record of a longer type is an average. -/
def Averaged (record : StoredRecord Stats) : Prop :=
  record.type ≠ .m1 → ∃ ys, (∀ y ∈ ys, Readings y) ∧ record.stats = averageSaved ys

structure Traced (stored rows : List (StoredRecord Stats)) : Prop where
  readings : ∀ x ∈ stored, Readings x.stats
  madeOf : ∀ record ∈ rows, ∃ minutes, MadeOf stored record minutes
  averaged : ∀ record ∈ rows, Averaged record

theorem MadeOf.readings {stored minutes : List (StoredRecord Stats)} {record : StoredRecord Stats}
    (h : MadeOf stored record minutes) (hread : ∀ x ∈ stored, Readings x.stats) :
    ∀ r ∈ minutes.map (·.stats), Readings r := by
  intro r hr
  obtain ⟨x, hx, rfl⟩ := List.mem_map.mp hr
  exact hread x (h.stored x hx)

theorem MadeOf.mono {stored stored' minutes : List (StoredRecord Stats)}
    {record : StoredRecord Stats} (h : MadeOf stored record minutes)
    (hsub : ∀ x ∈ stored, x ∈ stored') : MadeOf stored' record minutes :=
  { h with stored := fun x hx => hsub x (h.stored x hx) }

section Steps

variable {stored rows : List (StoredRecord Stats)} {collection : StatsCollection}

theorem Traced.sub (h : Traced stored rows) {rows' : List (StoredRecord Stats)}
    (hsub : ∀ record ∈ rows', record ∈ rows) : Traced stored rows' where
  readings := h.readings
  madeOf record hmem := h.madeOf record (hsub record hmem)
  averaged record hmem := h.averaged record (hsub record hmem)

theorem Traced.append (h : Traced stored rows) {record : StoredRecord Stats}
    (hmade : ∃ minutes, MadeOf stored record minutes) (haveraged : Averaged record) :
    Traced stored (rows ++ [record]) where
  readings := h.readings
  madeOf r hr := by
    rcases List.mem_append.mp hr with hold | hnew
    · exact h.madeOf r hold
    · exact List.mem_singleton.mp hnew ▸ hmade
  averaged r hr := by
    rcases List.mem_append.mp hr with hold | hnew
    · exact h.averaged r hold
    · exact List.mem_singleton.mp hnew ▸ haveraged

theorem Traced.store (h : Traced stored rows) {record : StoredRecord Stats}
    (htype : record.type = .m1) (hread : Readings record.stats) :
    Traced (stored ++ [record]) (rows ++ [record]) := by
  have hold : Traced (stored ++ [record]) rows := by
    refine ⟨fun x hx => ?_, fun r hr => ?_, h.averaged⟩
    · rcases List.mem_append.mp hx with hx | hx
      · exact h.readings x hx
      · exact List.mem_singleton.mp hx ▸ hread
    · obtain ⟨minutes, hmade⟩ := h.madeOf r hr
      exact ⟨minutes, hmade.mono fun x hx => List.mem_append_left _ hx⟩
  refine hold.append ⟨[record], List.cons_ne_nil _ _, ?_, ?_, ?_, .raw _⟩
    fun hne => absurd htype hne
  · intro x hx
    exact List.mem_append_right _ hx
  · intro x hx
    rw [List.mem_singleton.mp hx]
  · intro x hx
    rw [List.mem_singleton.mp hx, htype]
    exact (sub_zero _).le

/-- The records that a longer one is made of, put together. -/
theorem exists_parts {records : List (StoredRecord Stats)}
    (hmade : ∀ record ∈ records, ∃ minutes, MadeOf stored record minutes) :
    ∃ parts : List (List (StoredRecord Stats) × StoredRecord Stats),
      parts.map Prod.snd = records ∧ ∀ part ∈ parts, MadeOf stored part.2 part.1 := by
  induction records with
  | nil => exact ⟨[], rfl, List.forall_mem_nil _⟩
  | cons record records ih =>
      obtain ⟨minutes, hminutes⟩ := hmade record List.mem_cons_self
      obtain ⟨parts, hparts, hall⟩ := ih fun r hr => hmade r (List.mem_cons_of_mem _ hr)
      refine ⟨(minutes, record) :: parts, by rw [List.map_cons, hparts], fun part hpart => ?_⟩
      rcases List.mem_cons.mp hpart with rfl | hpart
      · exact hminutes
      · exact hall part hpart

theorem madeOf_average {records : List (StoredRecord Stats)} {record : StoredRecord Stats}
    (hne : records ≠ []) (hmade : ∀ r ∈ records, ∃ minutes, MadeOf stored r minutes)
    (hsystem : ∀ r ∈ records, r.system = record.system)
    (hrecent : ∀ r ∈ records, record.created - reach record.type ≤ r.created - reach r.type)
    (hstats : record.stats = averageSaved (records.map (·.stats))) :
    ∃ minutes, MadeOf stored record minutes := by
  obtain ⟨parts, rfl, hall⟩ := exists_parts hmade
  have hpart {x : StoredRecord Stats} (hx : x ∈ parts.flatMap Prod.fst) :
      ∃ part ∈ parts, x ∈ part.1 := List.mem_flatMap.mp hx
  refine ⟨parts.flatMap Prod.fst, ?_, fun x hx => ?_, fun x hx => ?_, fun x hx => ?_, ?_⟩
  · obtain ⟨part, hmem⟩ := List.exists_mem_of_ne_nil parts (by rintro rfl; exact hne rfl)
    obtain ⟨x, hx⟩ := List.exists_mem_of_ne_nil _ (hall part hmem).nonempty
    exact List.ne_nil_of_mem (List.mem_flatMap.mpr ⟨part, hmem, hx⟩)
  · obtain ⟨part, hmem, hx⟩ := hpart hx
    exact (hall part hmem).stored x hx
  · obtain ⟨part, hmem, hx⟩ := hpart hx
    exact ((hall part hmem).system x hx).trans (hsystem _ (List.mem_map_of_mem hmem))
  · obtain ⟨part, hmem, hx⟩ := hpart hx
    exact (hrecent _ (List.mem_map_of_mem hmem)).trans ((hall part hmem).recent x hx)
  · have hrolled : Rolled averageSaved _ _ := .average
      (parts.map fun part => (part.1.map (·.stats), part.2.stats)) fun part hmem => by
        obtain ⟨old, hold, rfl⟩ := List.mem_map.mp hmem
        exact (hall old hold).rolled
    rw [hstats, List.map_flatMap]
    rw [List.flatMap_map, List.map_map] at hrolled
    rwa [List.map_map]

theorem minShorterRecords_pos : ∀ recordData ∈ longerRecordData,
    0 < recordData.minShorterRecords := by
  decide

/-- An execution takes a minute at most from reading the shorter records to storing the longer
one. -/
def Timestamps.Prompt (times : Timestamps) : Prop :=
  ∀ system type collection,
    times.created system type collection ≤ times.shorterNow system type + minute

theorem Traced.createStoredRecord (h : Traced stored rows) {times : Timestamps}
    (hprompt : times.Prompt) (order : RowOrder Stats) (system : String)
    {recordData : LongerRecordData} (hmem : recordData ∈ longerRecordData) :
    Traced stored
      (createStoredRecord averageSaved collection times order system rows recordData) := by
  unfold Picket.createStoredRecord
  dsimp only
  split
  · exact h
  · split
    · exact h
    · rename_i henough
      set shorter := order.visit (recordsAfter rows system recordData.shorterType
        (times.shorterNow system recordData.longerType + recordData.longerTimeDuration))
        with hshorter
      have hread : ∀ r ∈ shorter, r ∈ rows ∧ r.system = system ∧
          r.type = recordData.shorterType ∧ times.shorterNow system recordData.longerType +
            recordData.longerTimeDuration < r.created := by
        intro r hr
        rw [hshorter, (order.perm _).mem_iff] at hr
        obtain ⟨hrow, hfound⟩ := List.mem_filter.mp hr
        exact ⟨hrow, of_decide_eq_true hfound⟩
      have hne : shorter ≠ [] := by
        intro hnil
        rw [hnil, List.length_nil] at henough
        exact henough (minShorterRecords_pos recordData hmem)
      refine h.append (madeOf_average hne (fun r hr => h.madeOf r (hread r hr).1)
        (fun r hr => (hread r hr).2.1) (fun r hr => ?_) rfl) fun _ =>
          ⟨shorter.map (·.stats), fun y hy => ?_, rfl⟩
      · obtain ⟨-, -, htype, hafter⟩ := hread r hr
        have hcreated := hprompt system recordData.longerType collection
        have hreach := reach_longerType recordData hmem
        rw [htype]
        dsimp only
        omega
      · obtain ⟨r, hr, rfl⟩ := List.mem_map.mp hy
        obtain ⟨minutes, hmade⟩ := h.madeOf r (hread r hr).1
        exact hmade.rolled.valid (fun _ => readings_averageSaved) (hmade.readings h.readings)

theorem Traced.createStoredRecords (h : Traced stored rows) {times : Timestamps}
    (hprompt : times.Prompt) (order : RowOrder Stats) (systems : List String) :
    Traced stored (createStoredRecords averageSaved collection times order systems rows) :=
  List.foldlRecOn systems _ h fun _ h system _ =>
    List.foldlRecOn longerRecordData _ h fun _ h _ hmem =>
      h.createStoredRecord hprompt order system hmem

end Steps

/-! ### Runs -/

/-- What is stored are readings, and executions are prompt. -/
def StatsTable.Timely : StatsTable Stats → StatsEvent Stats → Prop
  | _, .store _ _ stats => Readings stats
  | _, .createLongerRecords _ times _ => times.Prompt
  | _, .deleteOldRecords _ => True

namespace StatsTable

variable {collection : StatsCollection} {s s' : StatsTable Stats}

theorem traced_step (h : Traced s.stored s.rows) {e : StatsEvent Stats} (htimely : s.Timely e)
    (hstep : s.step averageSaved collection e = some s') : Traced s'.stored s'.rows := by
  cases e with
  | store system created stats =>
      cases hstep
      exact h.store rfl htimely
  | createLongerRecords systems times order =>
      cases hstep
      exact h.createStoredRecords htimely order systems
  | deleteOldRecords now =>
      cases hstep
      exact h.sub fun _ hmem => List.mem_of_mem_filter hmem

/-- **The peaks of a longer record were recorded.** They are the peaks of the average of records of
one minute of the same system, none of them much older than its period, and no averaged field of the
record exceeds its own peak. -/
theorem peaks_recorded {events : List (StatsEvent Stats)}
    (hrun : Guarded (StatsTable.step averageSaved collection) Timely {} events s)
    {record : StoredRecord Stats} (hmem : record ∈ s.rows) (hlonger : record.type ≠ .m1) :
    (∃ minutes : List (StoredRecord Stats), minutes ≠ [] ∧
      (∀ x ∈ minutes, x ∈ s.stored ∧ x.system = record.system ∧
        record.created - reach record.type ≤ x.created) ∧
      record.stats.peaks = (averageSystemStatsSlice (minutes.map (·.stats))).peaks) ∧
    BelowPeaks record.stats := by
  have hstart : Traced ({} : StatsTable Stats).stored ({} : StatsTable Stats).rows :=
    ⟨List.forall_mem_nil _, List.forall_mem_nil _, List.forall_mem_nil _⟩
  have htraced : Traced s.stored s.rows :=
    hrun.invariant (fun _ _ _ h htimely hstep => traced_step h htimely hstep) hstart
  obtain ⟨minutes, hmade⟩ := htraced.madeOf record hmem
  obtain ⟨ys, hys, hstats⟩ := htraced.averaged record hmem hlonger
  refine ⟨⟨minutes, hmade.nonempty, fun x hx => ⟨hmade.stored x hx, hmade.system x hx,
    hmade.recent x hx⟩, ?_⟩, ?_⟩
  · rw [hstats]
    exact peaks_rolled (hstats ▸ hmade.rolled) (hmade.readings htraced.readings) hys
  · rw [hstats]
    exact (belowPeaks_average hys).saved

/-- Records of one minute, nine of them, and an execution that finds enough of them. -/
def nineMinutes : List (StatsEvent Stats) :=
  (List.range 9).map (fun i => .store "s" ((i + 1) * minute) spikeRecord) ++
    [.createLongerRecords ["s"] (onTime 1) ⟨id, fun _ => List.Perm.refl _⟩]

theorem peaks_recorded_nineMinutes :
    ∃ s record, Guarded (StatsTable.step averageSaved .systemStats) Timely {} nineMinutes s ∧
      record ∈ s.rows ∧ record.type = .m10 ∧
      (∃ minutes : List (StoredRecord Stats), minutes ≠ [] ∧
        (∀ x ∈ minutes, x ∈ s.stored ∧ x.system = record.system ∧
          record.created - reach record.type ≤ x.created) ∧
        record.stats.peaks = (averageSystemStatsSlice (minutes.map (·.stats))).peaks) ∧
      BelowPeaks record.stats := by
  have hrun : ∃ s, Guarded (StatsTable.step averageSaved .systemStats) Timely {} nineMinutes s ∧
      (s.rows.map (·.type))[9]? = some .m10 := by
    have hread := readings_spikeRecord
    have hprompt : (onTime 1).Prompt := fun _ _ _ => le_add_of_nonneg_right (by decide)
    refine ⟨_, .cons hread rfl (.cons hread rfl (.cons hread rfl (.cons hread rfl (.cons hread rfl
      (.cons hread rfl (.cons hread rfl (.cons hread rfl (.cons hread rfl (.cons hprompt rfl
      (.nil _)))))))))), ?_⟩
    decide +kernel
  obtain ⟨s, hrun, hget⟩ := hrun
  rw [List.getElem?_map, Option.map_eq_some_iff] at hget
  obtain ⟨record, hget, htype⟩ := hget
  have hmem := List.mem_of_getElem? hget
  have hlonger : record.type ≠ .m1 := by
    rw [htype]
    decide
  exact ⟨s, record, hrun, hmem, htype, peaks_recorded hrun hmem hlonger⟩

end StatsTable

end Picket
