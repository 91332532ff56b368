import Picket.Proof.Contribution

/-!
# When a window average is the mean of its records

The average compared with the threshold is computed, in floating point, from what the loop has of
the records of a window. Where every record adds what it holds alone and the count of records fits
in its byte, it is their mean as floating point has it, and their exact mean where rounding makes no
difference.
-/

namespace Picket

open FiniteMap FloatingPoint

/-! ### The average of a window -/

section Average

variable (ar : Arithmetic)

def extraKeys : List SystemAlertStats → Finset String
  | [] => ∅
  | stats :: window => stats.extraFs.keys ∪ extraKeys window

/-- The sum kept under `key`. -/
def diskTotal (window : List SystemAlertStats) (key : String) : Value :=
  addUp ar.single 0 (window.flatMap (diskShares ar · key))

/-- What the records contribute: their sum, or the largest over the filesystems of its sum. -/
def contributed (name : AlertName) (window : List SystemAlertStats) : Value :=
  if name = .disk then (insert "root" (extraKeys window)).fold max 0 (diskTotal ar window)
  else addUp ar.double 0 (window.filterMap (metric ar name))

/-- What is contributed, divided by a number of records. -/
def average (name : AlertName) (window : List SystemAlertStats) (n : ℕ) : Value :=
  if name = .disk then ar.single (contributed ar name window / (n : ℚ))
  else ar.double (contributed ar name window / (n : ℚ))

theorem extraPct_eq_none {window : List SystemAlertStats} {key : String}
    (hkey : key ∉ extraKeys window) : ∀ stats ∈ window, extraPct ar stats key = none := by
  induction window with
  | nil => simp
  | cons stats window ih =>
      rw [extraKeys, Finset.mem_union, not_or] at hkey
      rw [List.forall_mem_cons]
      refine ⟨?_, ih hkey.2⟩
      rw [extraPct, Finmap.lookup_eq_none.mpr fun hmem => hkey.1 (Finmap.mem_keys.mpr hmem),
        Option.bind_none]

theorem diskTotal_eq_zero {window : List SystemAlertStats} {key : String}
    (hkey : key ∉ insert "root" (extraKeys window)) : diskTotal ar window key = 0 := by
  rw [Finset.mem_insert, not_or] at hkey
  have hshares : window.flatMap (diskShares ar · key) = [] := by
    rw [List.flatMap_eq_nil_iff]
    intro stats hmem
    rw [diskShares, if_neg hkey.1, extraPct_eq_none ar hkey.2 stats hmem]
    rfl
  rw [diskTotal, hshares]
  rfl

theorem contributed_disk_le_iff {window : List SystemAlertStats} {x : Value} :
    contributed ar .disk window ≤ x ↔ 0 ≤ x ∧ ∀ key, diskTotal ar window key ≤ x := by
  rw [contributed, if_pos rfl, Finset.fold_max_le]
  refine and_congr_right fun hx => ⟨fun h key => ?_, fun h key _ => h key⟩
  by_cases hkey : key ∈ insert "root" (extraKeys window)
  · exact h key hkey
  · rw [diskTotal_eq_zero ar hkey]
    exact hx

end Average

/-! ### The mean of a window -/

/-- The largest, over root and every extra filesystem, of the sum of its own percentages. -/
def largestDisk (window : List SystemAlertStats) : Value :=
  (extraKeys window).fold max (window.map (·.disk)).sum
    fun key => (window.filterMap (extraPct .unrounded · key)).sum

/-- What a window's mean divides. -/
def windowTotal (name : AlertName) (window : List SystemAlertStats) : Value :=
  if name = .disk then largestDisk window
  else (window.filterMap (metric .unrounded name)).sum

/-- The number of records of a window that count. -/
def windowNumber (name : AlertName) (time : ℤ) (records : List (ℤ × Stats)) : ℕ :=
  number name (ownWindow .unrounded time records)

/-- The mean of what the records of a window hold alone, with nothing rounded. -/
def exactMean (name : AlertName) (time : ℤ) (records : List (ℤ × Stats)) : Value :=
  windowTotal name (ownWindow .unrounded time records) / (windowNumber name time records : ℚ)

/-- The same in the floating point of the code. -/
def roundedMean (name : AlertName) (time : ℤ) (records : List (ℤ × Stats)) : Value :=
  average .ieee name (ownWindow .ieee time records) (windowNumber name time records)

/-! ### Windows to which nothing is carried over -/

/-- A property of every record of the window, given the records before it. -/
def ForWindow (time : ℤ) (records : List (ℤ × Stats)) (P : List Stats → Stats → Prop) : Prop :=
  ∀ r ∈ windowed time [] records, P r.1 r.2

section Carried

variable {name : AlertName} {time : ℤ} {records : List (ℤ × Stats)}
  (hcarried : ForWindow time records (NothingCarried name))
include hcarried

theorem metric_contributors :
    (contributors .ieee time records).filterMap (metric .ieee name) =
      (ownWindow .ieee time records).filterMap (metric .ieee name) := by
  unfold contributors ownWindow
  rw [List.filterMap_map, List.filterMap_map]
  refine List.filterMap_congr fun r hr => ?_
  exact ((sameContribution_iff r.1 r.2 name).mpr (hcarried r hr)).metric

theorem number_contributors_own :
    number name (contributors .ieee time records) = number name (ownWindow .ieee time records) := by
  unfold number contributors ownWindow
  rw [List.countP_map, List.countP_map]
  refine List.countP_congr fun r hr => ?_
  have hsame := (sameContribution_iff r.1 r.2 name).mpr (hcarried r hr)
  rw [Function.comp_apply, Function.comp_apply, ← isSome_metric .ieee, hsame.metric,
    isSome_metric]

end Carried

theorem diskTotal_contributors {time : ℤ} {records : List (ℤ × Stats)}
    (hcarried : ForWindow time records (NothingCarried .disk)) (key : String) :
    diskTotal .ieee (contributors .ieee time records) key =
      diskTotal .ieee (ownWindow .ieee time records) key := by
  have hnonzero : nonzero ((contributors .ieee time records).flatMap (diskShares .ieee · key)) =
      nonzero ((ownWindow .ieee time records).flatMap (diskShares .ieee · key)) := by
    unfold contributors ownWindow
    rw [nonzero_flatMap, nonzero_flatMap, List.flatMap_map, List.flatMap_map]
    exact List.flatMap_congr fun r hr => nonzero_diskShares r.1 r.2 (hcarried r hr) key
  have hround : ∀ v, Arithmetic.ieee.single (Arithmetic.ieee.single v) = Arithmetic.ieee.single v :=
    Format.round_round
  have hzero : Arithmetic.ieee.single 0 = 0 := Format.round_zero
  rw [diskTotal, diskTotal, ← addUp_nonzero hround hzero, hnonzero, addUp_nonzero hround hzero]

/-- Where nothing is carried over, the average is computed from what the records hold alone. -/
theorem average_contributors {name : AlertName} {time : ℤ} {records : List (ℤ × Stats)}
    (hcarried : ForWindow time records (NothingCarried name)) (n : ℕ) :
    average .ieee name (contributors .ieee time records) n =
      average .ieee name (ownWindow .ieee time records) n := by
  have hcontributed : contributed .ieee name (contributors .ieee time records) =
      contributed .ieee name (ownWindow .ieee time records) := by
    by_cases hdisk : name = .disk
    · subst hdisk
      refine eq_of_forall_ge_iff fun x => ?_
      simp only [contributed_disk_le_iff, diskTotal_contributors hcarried]
    · rw [contributed, contributed, if_neg hdisk, if_neg hdisk, metric_contributors hcarried]
  rw [average, average, hcontributed]

/-! ### One alert after its window -/

/-- What is known of an alert that has been selected for its window. -/
structure Selected (ar : Arithmetic) (now : ℤ) (alert : SystemAlertData) : Prop where
  count : alert.count = 0
  mapSums : alert.mapSums = ∅
  one_le_min : 1 ≤ alert.min
  threshold : alert.threshold = ar.double alert.alertData.value
  time : alert.min ≠ 1 → alert.time = now - alert.min.val * minute

/-- An alert after the records of its window. -/
def summed (ar : Arithmetic) (records : List (ℤ × Stats)) (alert : SystemAlertData) :
    SystemAlertData :=
  addWindow ar { alert with val := 0 } (contributors ar alert.time records)

section Decision

variable (ar : Arithmetic) {now : ℤ} {data : CombinedData} {alert : SystemAlertData}

theorem alertData_selectAlert {cached : CachedAlertData}
    (hselect : selectAlert ar now data cached = some alert) : alert.alertData = cached := by
  simp only [selectAlert, Option.ite_none_left_eq_some, Option.some.injEq] at hselect
  obtain ⟨-, rfl⟩ := hselect
  rfl

theorem selected_selectAlert {cached : CachedAlertData}
    (hselect : selectAlert ar now data cached = some alert) : Selected ar now alert := by
  simp only [selectAlert, Option.ite_none_left_eq_some, Option.some.injEq] at hselect
  obtain ⟨-, rfl⟩ := hselect
  exact ⟨rfl, rfl, le_max_left 1 cached.min, rfl, fun hmin => if_neg hmin⟩

theorem fixed_averageAlert (alert : SystemAlertData) :
    (averageAlert ar alert).fixed = alert.fixed := by
  unfold averageAlert
  split <;> rfl

theorem count_averageAlert (alert : SystemAlertData) :
    (averageAlert ar alert).count = alert.count := by
  unfold averageAlert
  split <;> rfl

theorem alertData_evaluate (alert : SystemAlertData) :
    (evaluate ar alert).alert.alertData = alert.alertData := by
  have haverage : (averageAlert ar alert).alertData = alert.alertData :=
    congrArg (fun fixed => fixed.1) (fixed_averageAlert ar alert)
  unfold evaluate
  dsimp only
  split <;> exact haverage

theorem val_evaluate (alert : SystemAlertData) :
    (evaluate ar alert).alert.val = (averageAlert ar alert).val := by
  unfold evaluate
  dsimp only
  split <;> rfl

variable (records : List (ℤ × Stats))

theorem fixed_summed (alert : SystemAlertData) :
    (summed ar records alert).fixed = alert.fixed :=
  fixed_addWindow ar (contributors ar alert.time records) { alert with val := 0 }

theorem alertData_summed (alert : SystemAlertData) :
    (summed ar records alert).alertData = alert.alertData :=
  congrArg (fun fixed => fixed.1) (fixed_summed ar records alert)

theorem name_summed (alert : SystemAlertData) :
    (summed ar records alert).name = alert.name :=
  congrArg (fun fixed => fixed.2.1) (fixed_summed ar records alert)

theorem min_summed (alert : SystemAlertData) :
    (summed ar records alert).min = alert.min :=
  congrArg (fun fixed => fixed.2.2.2.2.2) (fixed_summed ar records alert)

variable (hselected : Selected ar now alert)
include hselected

theorem count_summed : (summed ar records alert).count.val =
    number alert.name (contributors ar alert.time records) % 2 ^ 8 := by
  rw [summed, count_addWindow, hselected.count, Fin.val_zero, Nat.zero_add]

theorem maxFrom_summed (hname : alert.name = .disk) :
    maxFrom 0 id (summed ar records alert).mapSums =
      contributed ar .disk (contributors ar alert.time records) := by
  have hsum (key : String) : sumAt (summed ar records alert).mapSums key =
      diskTotal ar (contributors ar alert.time records) key := by
    refine (sumAt_addWindow ar _ { alert with val := 0 } hname key).trans ?_
    rw [hselected.mapSums, sumAt_empty, diskTotal]
  refine eq_of_forall_ge_iff fun x => ?_
  simp only [maxFrom_zero_le_iff, hsum, contributed_disk_le_iff]

theorem val_averageAlert_summed :
    (averageAlert ar (summed ar records alert)).val =
      average ar alert.name (contributors ar alert.time records)
        (number alert.name (contributors ar alert.time records) % 2 ^ 8) := by
  have hname := name_summed ar records alert
  have hcount := count_summed ar records hselected
  unfold averageAlert average
  rw [← hcount]
  split
  · rename_i hdisk
    rw [hname] at hdisk
    rw [if_pos hdisk, hdisk, maxFrom_summed ar records hselected hdisk]
  · rename_i hdisk
    rw [hname] at hdisk
    have hval := val_addWindow ar (contributors ar alert.time records)
      { alert with val := 0 } hdisk
    rw [if_neg hdisk, contributed, if_neg hdisk, summed, hval]

end Decision

/-! ### Enough records -/

/-- A number of records of which an alert can be decided. -/
def SystemAlertData.enough (alert : SystemAlertData) (n : ℕ) : Prop :=
  (alert.min.val : ℚ) / (6 / 5) ≤ n

instance (alert : SystemAlertData) (n : ℕ) : Decidable (alert.enough n) := by
  unfold SystemAlertData.enough
  infer_instance

theorem SystemAlertData.enough.mono {alert : SystemAlertData} {n n' : ℕ} (h : alert.enough n)
    (hle : n ≤ n') : alert.enough n' :=
  le_trans h (by exact_mod_cast hle)

theorem SystemAlertData.enough.pos {alert : SystemAlertData} {n : ℕ} (hmin : 1 ≤ alert.min)
    (h : alert.enough n) : 0 < n := by
  have hmin' : (1 : ℚ) ≤ alert.min.val := by exact_mod_cast hmin
  unfold enough at h
  have hpos : (0 : ℚ) < n := by linarith
  exact_mod_cast hpos

def minCount (ar : Arithmetic) (min : Uint8) : Value :=
  ar.single ((min.val : ℚ) / ar.single (6 / 5 : ℚ))

/-- Rounding never reaches another whole number of records. -/
theorem minCount_between (min : Uint8) :
    Value.finite (⌈(min.val : ℚ) / (6 / 5)⌉ - 1) < minCount .ieee min ∧
      minCount .ieee min ≤ Value.finite ⌈(min.val : ℚ) / (6 / 5)⌉ := by
  revert min
  decide +kernel

theorem minCount_le_iff (alert : SystemAlertData) (n : ℕ) :
    (minCount .ieee alert.min).le (n : ℚ) ↔ alert.enough n := by
  obtain ⟨hlow, hhigh⟩ := minCount_between alert.min
  have hnan : minCount .ieee alert.min ≠ .nan := ((Value.nan_le _).trans_lt hlow).ne'
  rw [Value.le_finite_iff hnan, SystemAlertData.enough]
  constructor
  · intro hle
    have hceil := Value.finite_lt_finite.mp (hlow.trans_le hle)
    rw [sub_lt_iff_lt_add] at hceil
    exact Int.ceil_le.mp (Int.lt_add_one_iff.mp (by exact_mod_cast hceil))
  · intro hle
    have hceil : (⌈(alert.min.val : ℚ) / (6 / 5)⌉ : ℚ) ≤ n := by
      exact_mod_cast Int.ceil_le.mpr hle
    exact hhigh.trans (Value.finite_le_finite.mpr hceil)

theorem compared_evaluate (ar : Arithmetic) (alert : SystemAlertData) :
    (evaluate ar alert).compared = (minCount ar alert.min).le (alert.count.val : ℚ) := by
  have hmin : (averageAlert ar alert).min = alert.min :=
    congrArg (fun fixed => fixed.2.2.2.2.2) (fixed_averageAlert ar alert)
  unfold evaluate minCount
  dsimp only
  rw [hmin, count_averageAlert]
  split
  case isTrue hgate => exact hgate.symm
  case isFalse hgate => exact (Bool.eq_false_iff.mpr hgate).symm

theorem compared_summed {now : ℤ} {alert : SystemAlertData} (records : List (ℤ × Stats))
    (hselected : Selected .ieee now alert) :
    (evaluate .ieee (summed .ieee records alert)).compared = true ↔
      alert.enough (number alert.name (contributors .ieee alert.time records) % 2 ^ 8) := by
  rw [compared_evaluate, count_summed .ieee records hselected, min_summed, minCount_le_iff]

/-! ### The outcome of an alert -/

section Outcome

variable {ar : Arithmetic} {alerts : List CachedAlertData} {now : ℤ} {data : CombinedData}
  {oldest : ℤ × Stats} {records : List (ℤ × Stats)} {alert : SystemAlertData}

/-- What has become of an alert. -/
def AlertOutcome (ar : Arithmetic) (alerts : List CachedAlertData) (now : ℤ) (data : CombinedData)
    (records : List (ℤ × Stats)) (alert : SystemAlertData) (e : Evaluation) : Prop :=
  ∃ evaluations, (handleSystemAlerts ar alerts now data (records.map row)).2 = some evaluations ∧
    e ∈ evaluations ∧ e.alert.alertData = alert.alertData

variable (halert : alert ∈ windowAlerts ar alerts now data oldest.1)
include halert

theorem selected_windowAlerts : Selected ar now alert ∧ alert.min ≠ 1 := by
  rw [windowAlerts, List.mem_filter, List.mem_filterMap] at halert
  obtain ⟨⟨cached, -, hselect⟩, hkeep⟩ := halert
  have hmin : alert.min ≠ 1 := by
    simp only [Bool.and_eq_true, decide_eq_true_eq] at hkeep
    exact hkeep.1
  exact ⟨selected_selectAlert ar hselect, hmin⟩

theorem eq_of_alertData_eq {other : SystemAlertData}
    (hother : other ∈ windowAlerts ar alerts now data oldest.1)
    (hdata : other.alertData = alert.alertData) : other = alert := by
  rw [windowAlerts, List.mem_filter, List.mem_filterMap] at halert hother
  obtain ⟨⟨cached, -, hselect⟩, -⟩ := halert
  obtain ⟨⟨cached', -, hselect'⟩, -⟩ := hother
  rw [alertData_selectAlert ar hselect, alertData_selectAlert ar hselect'] at hdata
  rw [hdata] at hselect'
  exact Option.some.inj (hselect'.symm.trans hselect)

theorem handleSystemAlerts_eq :
    (handleSystemAlerts ar alerts now data ((oldest :: records).map row)).2
      = some ((windowAlerts ar alerts now data oldest.1).map fun alert =>
          evaluate ar (summed ar (oldest :: records) alert)) := by
  have hne : windowAlerts ar alerts now data (row oldest).created ≠ [] :=
    List.ne_nil_of_mem halert
  have hsum := sumRecords_zero ar (windowAlerts ar alerts now data oldest.1) oldest records
  rw [List.map_cons] at hsum ⊢
  unfold handleSystemAlerts
  dsimp only
  rw [if_neg hne]
  refine (congrArg (Option.map (List.map (evaluate ar))) hsum).trans ?_
  rw [Option.map_some, List.map_map]
  refine congrArg some (List.map_congr_left fun alert _ => ?_)
  have hwindow := inWindow_shared ar alert.time [] (oldest :: records)
  exact congrArg (fun window => evaluate ar (addWindow ar { alert with val := 0 } window))
    hwindow

/-- An alert that is left to the window has one outcome, which its own records decide. -/
theorem outcome_iff (e : Evaluation) :
    AlertOutcome ar alerts now data (oldest :: records) alert e ↔
      e = evaluate ar (summed ar (oldest :: records) alert) := by
  rw [AlertOutcome, handleSystemAlerts_eq halert]
  constructor
  · rintro ⟨evaluations, heq, he, hdata⟩
    obtain rfl := Option.some.inj heq
    obtain ⟨other, hother, rfl⟩ := List.mem_map.mp he
    rw [alertData_evaluate, alertData_summed] at hdata
    rw [eq_of_alertData_eq halert hother hdata]
  · rintro rfl
    refine ⟨_, rfl, List.mem_map.mpr ⟨alert, halert, rfl⟩, ?_⟩
    rw [alertData_evaluate, alertData_summed]

end Outcome

/-! ### Averages and means -/

/-- Records of a window add what they hold alone, and an average that is compared with the threshold
is the mean of that, in one of the two ways of computing it. -/
structure WindowAverage (mean : AlertName → ℤ → List (ℤ × Stats) → Value)
    (alerts : List CachedAlertData) (now : ℤ) (data : CombinedData) (records : List (ℤ × Stats))
    (alert : SystemAlertData) : Prop where
  contributions : ForWindow (now - alert.min.val * minute) records fun earlier own =>
    SameContribution alert.name (readAll .ieee (earlier ++ [own])) (alone .ieee own)
  compared : ∀ e, AlertOutcome .ieee alerts now data records alert e → e.compared = true →
    e.alert.val = mean alert.name (now - alert.min.val * minute) records

/-- The records of a window as they should be: nothing is carried over to any of them, and where
they do not fit in the byte that counts them and what is left is still enough, dividing by that
makes no difference. -/
structure CleanWindow (mean : AlertName → ℤ → List (ℤ × Stats) → Value) (now : ℤ)
    (records : List (ℤ × Stats)) (alert : SystemAlertData) : Prop where
  carried : ForWindow (now - alert.min.val * minute) records (NothingCarried alert.name)
  wraps : 2 ^ 8 ≤ windowNumber alert.name (now - alert.min.val * minute) records →
    alert.enough (windowNumber alert.name (now - alert.min.val * minute) records % 2 ^ 8) →
    average .ieee alert.name (ownWindow .ieee (now - alert.min.val * minute) records)
        (windowNumber alert.name (now - alert.min.val * minute) records % 2 ^ 8) =
      mean alert.name (now - alert.min.val * minute) records

/-- Rounding makes no difference to the mean of the records, if they fit in their byte and are
enough. -/
def RoundsTo (mean : AlertName → ℤ → List (ℤ × Stats) → Value) (now : ℤ)
    (records : List (ℤ × Stats)) (alert : SystemAlertData) : Prop :=
  windowNumber alert.name (now - alert.min.val * minute) records < 2 ^ 8 →
    alert.enough (windowNumber alert.name (now - alert.min.val * minute) records) →
    roundedMean alert.name (now - alert.min.val * minute) records =
      mean alert.name (now - alert.min.val * minute) records

section Mean

variable {name : AlertName} {time : ℤ} {records : List (ℤ × Stats)}

/-- Rounding makes no difference where `float64` holds the values, the sums on the way and the
mean. -/
theorem roundedMean_of_holds (hname : name ≠ .disk) {values : List ℚ}
    (hieee : (ownWindow .ieee time records).filterMap (metric .ieee name) =
      values.map Value.finite)
    (hunrounded : (ownWindow .unrounded time records).filterMap (metric .unrounded name) =
      values.map Value.finite)
    (hsums : ∀ first, first <+: values → float64.Holds first.sum)
    (hmean : float64.Holds (values.sum / windowNumber name time records))
    (hcounts : windowNumber name time records ≠ 0) :
    roundedMean name time records = exactMean name time records := by
  have hn : (windowNumber name time records : ℚ) ≠ 0 := by exact_mod_cast hcounts
  have hsum : addUp Arithmetic.ieee.double 0 (values.map Value.finite) = .finite values.sum := by
    have hadd : addUp float64.round (.finite 0) (values.map .finite) = .finite (0 + values.sum) :=
      addUp_eq_sum fun first hfirst => by rw [zero_add]; exact hsums first hfirst
    rwa [zero_add] at hadd
  rw [roundedMean, average, contributed, exactMean, windowTotal, if_neg hname, if_neg hname,
    if_neg hname, hieee, hunrounded, hsum, sum_map_finite, Value.finite_div hn]
  exact Format.round_of_holds hmean

/-- In `float32`, 80.3 percent in every record are more than 80.3 percent. -/
example : Value.finite (803 / 10) < roundedMean .disk 0
    [(10 * 1000, { diskPct := 803 / 10 }), (70 * 1000, { diskPct := 803 / 10 })] := by
  decide +kernel

variable {now : ℤ} {alert : SystemAlertData}

/-- Where nothing is carried over, what is compared is computed from what the records hold alone and
from what is left of their number. -/
theorem val_eq_iff (hselected : Selected .ieee now alert)
    (hcarried : ForWindow alert.time records (NothingCarried alert.name)) (mean : Value) :
    ((evaluate .ieee (summed .ieee records alert)).compared = true →
        (evaluate .ieee (summed .ieee records alert)).alert.val = mean) ↔
      (alert.enough (windowNumber alert.name alert.time records % 2 ^ 8) →
        average .ieee alert.name (ownWindow .ieee alert.time records)
          (windowNumber alert.name alert.time records % 2 ^ 8) = mean) := by
  have hnumber : number alert.name (contributors .ieee alert.time records) =
      windowNumber alert.name alert.time records :=
    (number_contributors_own hcarried).trans (number_ownWindow .ieee .unrounded _ _ _)
  rw [compared_summed records hselected, val_evaluate, val_averageAlert_summed .ieee records
    hselected, average_contributors hcarried, hnumber]

end Mean

section WindowAverage

variable {alerts : List CachedAlertData} {now : ℤ} {data : CombinedData} {oldest : ℤ × Stats}
  {records : List (ℤ × Stats)} {alert : SystemAlertData}
  (halert : alert ∈ windowAlerts .ieee alerts now data oldest.1)
include halert

/-- Of the two causes for an average that is not the mean, the byte matters to windows of more than
255 records and rounding to all others. -/
theorem windowAverage_iff_cleanWindow (mean : AlertName → ℤ → List (ℤ × Stats) → Value) :
    WindowAverage mean alerts now data (oldest :: records) alert ↔
      CleanWindow mean now (oldest :: records) alert ∧
        RoundsTo mean now (oldest :: records) alert := by
  obtain ⟨hselected, hmin⟩ := selected_windowAlerts halert
  have htime : now - alert.min.val * minute = alert.time := (hselected.time hmin).symm
  have hcompared : (∀ e, AlertOutcome .ieee alerts now data (oldest :: records) alert e →
        e.compared = true → e.alert.val = mean alert.name alert.time (oldest :: records)) ↔
      ((evaluate .ieee (summed .ieee (oldest :: records) alert)).compared = true →
        (evaluate .ieee (summed .ieee (oldest :: records) alert)).alert.val =
          mean alert.name alert.time (oldest :: records)) := by
    simp only [outcome_iff halert, forall_eq]
  constructor
  · rintro ⟨hcontributions, hmean⟩
    rw [htime] at hcontributions hmean
    have hcarried : ForWindow alert.time (oldest :: records) (NothingCarried alert.name) :=
      fun r hr => (sameContribution_iff r.1 r.2 alert.name).mp (hcontributions r hr)
    have hexact := (val_eq_iff hselected hcarried _).mp (hcompared.mp hmean)
    refine ⟨⟨by rwa [htime], fun _ => ?_⟩, ?_⟩
    · rwa [htime]
    · rw [RoundsTo, htime]
      intro hlt
      rwa [Nat.mod_eq_of_lt hlt] at hexact
  · rintro ⟨⟨hcarried, hwraps⟩, hfits⟩
    rw [RoundsTo, htime] at hfits
    rw [htime] at hcarried hwraps
    refine ⟨?_, ?_⟩
    · rw [htime]
      exact fun r hr => (sameContribution_iff r.1 r.2 alert.name).mpr (hcarried r hr)
    · rw [htime, hcompared, val_eq_iff hselected hcarried]
      by_cases hlt : windowNumber alert.name alert.time (oldest :: records) < 2 ^ 8
      · rw [Nat.mod_eq_of_lt hlt]
        exact hfits hlt
      · exact hwraps (Nat.le_of_not_lt hlt)

/-- **When a window average is the mean of its records.** It is their mean in floating point exactly
if the window is clean, and their exact mean if rounding makes no difference besides. -/
theorem windowAverage_iff :
    (WindowAverage roundedMean alerts now data (oldest :: records) alert ↔
      CleanWindow roundedMean now (oldest :: records) alert) ∧
    (WindowAverage exactMean alerts now data (oldest :: records) alert ↔
      CleanWindow exactMean now (oldest :: records) alert ∧
        RoundsTo exactMean now (oldest :: records) alert) := by
  refine ⟨?_, windowAverage_iff_cleanWindow halert exactMean⟩
  rw [windowAverage_iff_cleanWindow halert roundedMean]
  exact and_iff_left fun _ _ => rfl

end WindowAverage

/-- An alert on more than 70 percent of any filesystem, averaged over two minutes. -/
def usageAlert : CachedAlertData where
  id := "a"
  name := .disk
  value := 70
  triggered := false
  min := 2

def usageWindow : SystemAlertData where
  alertData := usageAlert
  name := .disk
  val := (90 : ℚ)
  threshold := (70 : ℚ)
  triggered := false
  time := 10 * 1000
  min := 2

def usageNow : CombinedData where
  info := { diskPct := 90 }

def usageFs : GoMap FsStats :=
  Finmap.singleton "sdb1" { diskTotal := 64, diskUsed := 40 }

/-- Root at 80.5 and 70.25 percent in the window, with another filesystem at 62.5. -/
def usageRecords : List (ℤ × Stats) :=
  [(0, { diskPct := 50 }), (70 * 1000, { diskPct := 161 / 2, extraFs := usageFs }),
    (125 * 1000, { diskPct := 281 / 4, extraFs := usageFs })]

theorem usageWindow_mem :
    usageWindow ∈ windowAlerts .ieee [usageAlert] (130 * 1000) usageNow 0 := by
  decide +kernel

theorem nothingCarried_usage :
    ForWindow (130 * 1000 - usageWindow.min.val * minute) usageRecords (NothingCarried .disk) := by
  intro r hr
  obtain rfl | rfl : r = ([{ diskPct := 50 }], { diskPct := 161 / 2, extraFs := usageFs }) ∨
      r = ([{ diskPct := 50 }, { diskPct := 161 / 2, extraFs := usageFs }],
        { diskPct := 281 / 4, extraFs := usageFs }) := by
    simpa [windowed, usageRecords, usageWindow, minute] using hr
  all_goals
    refine ⟨fun key fs hnone hlatest => ?_, fun fs hroot => ?_⟩
    · simp [latest, readFs, show usageFs.lookup key = none from hnone] at hlatest
    · have hkey : usageFs.lookup "root" = none := by decide
      simp [readFs, hkey] at hroot

/-- The mean of root, which is the larger, is 75.375 percent. -/
theorem windowAverage_usage :
    WindowAverage roundedMean [usageAlert] (130 * 1000) usageNow usageRecords usageWindow ∧
      WindowAverage exactMean [usageAlert] (130 * 1000) usageNow usageRecords usageWindow := by
  have hfew : ¬ 2 ^ 8 ≤
      windowNumber .disk (130 * 1000 - usageWindow.min.val * minute) usageRecords := by
    decide +kernel
  obtain ⟨hrounded, hexact⟩ := @windowAverage_iff [usageAlert] (130 * 1000) usageNow
    (0, { diskPct := 50 }) usageRecords.tail usageWindow usageWindow_mem
  refine ⟨hrounded.mpr ⟨nothingCarried_usage, fun hge _ => absurd hge hfew⟩,
    hexact.mpr ⟨⟨nothingCarried_usage, fun hge _ => absurd hge hfew⟩, fun _ _ => ?_⟩⟩
  change roundedMean .disk (130 * 1000 - usageWindow.min.val * minute) usageRecords =
    exactMean .disk (130 * 1000 - usageWindow.min.val * minute) usageRecords
  decide +kernel

/-- An alert on more than one megabyte per second, averaged over two minutes. -/
def trafficAlert : CachedAlertData where
  id := "a"
  name := .bandwidth
  value := 1
  triggered := false
  min := 2

def trafficWindow : SystemAlertData where
  alertData := trafficAlert
  name := .bandwidth
  val := (3 : ℚ)
  threshold := (1 : ℚ)
  triggered := false
  time := 10 * 1000
  min := 2

def trafficNow : CombinedData where
  info := { bandwidthBytes := 3 * 1024 * 1024 }

/-- Two megabytes per second in the first minute of the window, nothing in the second. -/
def trafficRecords : List (ℤ × Stats) :=
  [(0, {}), (70 * 1000, { bandwidth := ![2 * 1024 * 1024, 0] }), (125 * 1000, {})]

theorem trafficWindow_mem :
    trafficWindow ∈ windowAlerts .ieee [trafficAlert] (130 * 1000) trafficNow 0 := by
  decide +kernel

/-- The alert fires on an average of two; the mean of the two records is one. -/
theorem not_windowAverage_traffic :
    trafficWindow ∈ windowAlerts .ieee [trafficAlert] (130 * 1000) trafficNow 0 ∧
      ¬ WindowAverage roundedMean [trafficAlert] (130 * 1000) trafficNow trafficRecords
        trafficWindow ∧
      ¬ WindowAverage exactMean [trafficAlert] (130 * 1000) trafficNow trafficRecords
        trafficWindow := by
  have hevaluations : (handleSystemAlerts .ieee [trafficAlert] (130 * 1000) trafficNow
      (trafficRecords.map row)).2 =
        some [⟨{ trafficWindow with val := (2 : ℚ), count := 2, triggered := true }, true,
          true⟩] := by
    decide +kernel
  have houtcome : AlertOutcome .ieee [trafficAlert] (130 * 1000) trafficNow trafficRecords
      trafficWindow ⟨{ trafficWindow with val := (2 : ℚ), count := 2, triggered := true }, true,
        true⟩ :=
    ⟨_, hevaluations, List.mem_singleton_self _, rfl⟩
  refine ⟨trafficWindow_mem, fun h => ?_, fun h => ?_⟩
  · exact absurd (h.compared _ houtcome rfl) (by decide +kernel)
  · exact absurd (h.compared _ houtcome rfl) (by decide +kernel)

end Picket
