import Picket.IntelGpu
import Picket.Lib.FiniteMap

/-!
# The columns of a row

What two header lines say of the columns, and what a row has in them. The second column of the power
is never beyond those of the engines, and a row without all of these is not read. Only before a
header is there a column for the power and no engine after it.
-/

namespace Picket.Gather

open Checked

/-! ### The layout -/

section Layout

variable (header1 header2 : String)

/-- The classes of the engines, in the order of the first line. -/
def engineClasses : List String :=
  (fields header1).filterMap fun col => (engineOfColumn col).map Prod.snd

/-- The columns of the second line before those of the engines, which come three by three. -/
def preColumns : ℕ :=
  (fields header2).length - 3 * (engineClasses header1).length

def busyColumn (k : ℕ) : ℕ :=
  preColumns header1 header2 + 3 * k

/-- The first column of the power, when there are engines after it. -/
def powerColumn : Option ℕ :=
  if engineClasses header1 = [] then none
  else ((fields header2).take (preColumns header1 header2)).findIdx? (equalFold · "gpu")

/-- The headers are those of the two lines. -/
structure IntelHeaders.Describes (headers : IntelHeaders) : Prop where
  engineNames : headers.engineNames.length = (engineClasses header1).length
  friendlyNames : headers.friendlyNames = engineClasses header1
  powerIndex : headers.powerIndex = (powerColumn header1 header2).elim (-1) (↑)
  preEngineCols : engineClasses header1 ≠ [] → headers.preEngineCols = preColumns header1 header2
  noEngines : engineClasses header1 = [] → headers.preEngineCols = 0

variable {header1 header2} in
theorem powerColumn_lt {i : ℕ} (hi : powerColumn header1 header2 = some i) :
    engineClasses header1 ≠ [] ∧ i < preColumns header1 header2 := by
  unfold powerColumn at hi
  split at hi
  case isTrue => cases hi
  case isFalse hengines =>
    obtain ⟨hlt, -⟩ := List.findIdx?_eq_some_iff_getElem.mp hi
    rw [List.length_take] at hlt
    exact ⟨hengines, hlt.trans_le (min_le_left _ _)⟩

theorem findPower_range' (h2 : List String) (i n : ℕ) (hle : i + n ≤ h2.length) :
    findPower h2 (List.range' i n) =
      .ok ((((h2.drop i).take n).findIdx? (equalFold · "gpu")).elim (-1)
        fun j => ((i + j : ℕ) : ℤ)) := by
  induction n generalizing i with
  | zero => rfl
  | succ n ih =>
      have hlt : i < h2.length := by omega
      rw [List.range'_succ, findPower, index_of_getElem? (List.getElem?_eq_getElem hlt), ok_bind,
        List.drop_eq_getElem_cons hlt, List.take_succ_cons, List.findIdx?_cons]
      by_cases hgpu : equalFold h2[i] "gpu" = true
      · rw [if_pos hgpu, if_pos hgpu]
        rfl
      · rw [if_neg hgpu, if_neg hgpu, ih (i + 1) (by omega), Option.elim_map]
        have hshift : (fun j => ((i + 1 + j : ℕ) : ℤ)) = fun j => ((i + (j + 1) : ℕ) : ℤ) := by
          funext j
          omega
        rw [hshift]
        rfl

theorem findPower_range (h2 : List String) {n : ℕ} (hle : n ≤ h2.length) :
    findPower h2 (List.range n) =
      .ok (((h2.take n).findIdx? (equalFold · "gpu")).elim (-1) (↑)) := by
  rw [List.range_eq_range', findPower_range' h2 0 n (by omega), List.drop_zero]
  simp only [Nat.zero_add]

theorem parseIntelHeaders_describes (header1 header2 : String) :
    ∃ headers, parseIntelHeaders header1 header2 = .ok headers ∧
      headers.Describes header1 header2 := by
  have hclasses : ((fields header1).filterMap engineOfColumn).map Prod.snd =
      engineClasses header1 := List.map_filterMap
  have hlength : ((fields header1).filterMap engineOfColumn).length =
      (engineClasses header1).length := by
    rw [← hclasses, List.length_map]
  unfold parseIntelHeaders
  dsimp only
  by_cases hengines : engineClasses header1 = []
  · rw [hlength, if_neg (by simp [hengines])]
    refine ⟨_, rfl, ?_, hclasses, ?_, absurd hengines, fun _ => rfl⟩
    · rw [List.length_map, hlength]
    · rw [powerColumn, if_pos hengines]
      rfl
  · have hpos : (engineClasses header1).length > 0 := List.length_pos_iff.mpr hengines
    rw [hlength, if_pos hpos, min_eq_right (Nat.sub_le _ _), findPower_range _ (Nat.sub_le _ _),
      ok_bind]
    refine ⟨_, rfl, ?_, hclasses, ?_, fun _ => rfl, fun hnone => absurd hnone hengines⟩
    · rw [List.length_map, hlength]
    · rw [powerColumn, if_neg hengines, preColumns]

end Layout

/-! ### A row -/

section Row

variable {F : Type} [Zero F] [Add F] (parseFloat : String → Option F)

/-- What is no number counts as zero. -/
def floatAt (row : List String) (i : ℕ) : F :=
  (row[i]?.bind parseFloat).getD 0

def busyColumns (header1 header2 line name : String) : List F :=
  ((List.range (engineClasses header1).length).filter
    fun k => (engineClasses header1)[k]? = some name).map
      fun k => floatAt parseFloat (fields line) (busyColumn header1 header2 k)

/-- A row has the busy columns of all engines, and each class has the sum of its own, from the left.
The power is in two columns, or there is none. -/
structure ReadsRow (header1 header2 line : String) (sample : IntelRow F) : Prop where
  columns : ∀ k < (engineClasses header1).length,
    busyColumn header1 header2 k < (fields line).length
  engines : ∀ name, sample.engines.lookup name =
    if name ∈ engineClasses header1 then
      some ((busyColumns parseFloat header1 header2 line name).foldl (· + ·) 0)
    else none
  power : ∀ i ∈ powerColumn header1 header2, i + 1 < (fields line).length ∧
    sample.powerGPU = floatAt parseFloat (fields line) i ∧
    sample.powerPkg = floatAt parseFloat (fields line) (i + 1)
  noPower : powerColumn header1 header2 = none → sample.powerGPU = 0 ∧ sample.powerPkg = 0

omit [Add F] in
theorem floatAt_of_index {row : List String} {i : ℕ} (hlt : i < row.length) :
    (parseFloat row[i]).getD 0 = floatAt parseFloat row i := by
  rw [floatAt, List.getElem?_eq_getElem hlt, Option.bind_some]

omit [Add F] in
theorem parsePower_of_lt {row : List String} {i : ℕ} (hlt : i + 1 < row.length) :
    parsePower parseFloat row i =
      .ok { powerGPU := floatAt parseFloat row i, powerPkg := floatAt parseFloat row (i + 1) } := by
  have hlt' : i < row.length := by omega
  have hnext : ((i : ℤ) + 1) = ((i + 1 : ℕ) : ℤ) := rfl
  rw [parsePower, if_pos ⟨Int.natCast_nonneg i, by omega⟩, hnext,
    index_of_getElem? (List.getElem?_eq_getElem hlt'), ok_bind,
    index_of_getElem? (List.getElem?_eq_getElem hlt), ok_bind, floatAt_of_index parseFloat hlt',
    floatAt_of_index parseFloat hlt]
  rfl

omit [Add F] in
theorem parsePower_of_last {row : List String} {i : ℕ} (hlast : row.length = i + 1) :
    parsePower parseFloat row i = .error (.outOfRange (i + 1 : ℕ) row.length) := by
  have hlt : i < row.length := by omega
  have hnext : ((i : ℤ) + 1) = ((i + 1 : ℕ) : ℤ) := rfl
  rw [parsePower, if_pos ⟨Int.natCast_nonneg i, by omega⟩, hnext,
    index_of_getElem? (List.getElem?_eq_getElem hlt), ok_bind, index_of_length_le hlast.le]
  rfl

omit [Add F] in
theorem parsePower_none (row : List String) : parsePower parseFloat row (-1) = .ok {} := by
  rw [parsePower, if_neg (by omega)]
  rfl

theorem addEngine_of_lt {row : List String} {headers : IntelHeaders} {k : ℕ} {name : String}
    (hbase : headers.preEngineCols + 3 * k < row.length)
    (hname : headers.friendlyNames[k]? = some name) (engines : GoMap F) :
    addEngine parseFloat row headers engines k =
      .ok (engines.insert name ((engines.lookup name).getD 0 +
        floatAt parseFloat row (headers.preEngineCols + 3 * k))) := by
  rw [addEngine, if_pos hbase, index_of_getElem? (List.getElem?_eq_getElem hbase), ok_bind,
    index_of_getElem? hname, ok_bind, floatAt_of_index parseFloat hbase]
  rfl

section Described

variable {header1 header2 line : String} {headers : IntelHeaders}
  (hdescribes : headers.Describes header1 header2)
  (hcolumns : headers.preEngineCols + 3 * headers.engineNames.length ≤ (fields line).length)
include hdescribes hcolumns

theorem busyColumn_lt {k : ℕ} (hk : k < (engineClasses header1).length) :
    headers.preEngineCols + 3 * k = busyColumn header1 header2 k ∧
      busyColumn header1 header2 k < (fields line).length := by
  have hengines : engineClasses header1 ≠ [] := List.ne_nil_of_length_pos (Nat.zero_lt_of_lt hk)
  have hnames := hdescribes.engineNames
  have hpre := hdescribes.preEngineCols hengines
  rw [busyColumn]
  omega

/-- After the power come the columns of one engine at least. -/
theorem powerColumn_succ_lt {i : ℕ} (hi : powerColumn header1 header2 = some i) :
    i + 1 < (fields line).length := by
  obtain ⟨hengines, hlt⟩ := powerColumn_lt hi
  have hnames := hdescribes.engineNames
  have hpre := hdescribes.preEngineCols hengines
  have hpos : 0 < (engineClasses header1).length := List.length_pos_iff.mpr hengines
  omega

theorem foldlM_addEngine :
    ∃ engines, (List.range headers.engineNames.length).foldlM
        (addEngine parseFloat (fields line) headers) ∅ = .ok engines ∧
      ∀ name, engines.lookup name =
        if name ∈ engineClasses header1 then
          some ((busyColumns parseFloat header1 header2 line name).foldl (· + ·) 0)
        else none := by
  set nameOf := fun k => (engineClasses header1).getD k ""
  have hnameOf {k : ℕ} (hk : k < (engineClasses header1).length) :
      (engineClasses header1)[k]? = some (nameOf k) := by
    simp [nameOf, hk]
  have hstep (engines : GoMap F) (k : ℕ) (hk : k ∈ List.range (engineClasses header1).length) :
      addEngine parseFloat (fields line) headers engines k =
        .ok (engines.insert (nameOf k) ((engines.lookup (nameOf k)).getD 0 +
          floatAt parseFloat (fields line) (busyColumn header1 header2 k))) := by
    have hlt := List.mem_range.mp hk
    obtain ⟨hbase, hin⟩ := busyColumn_lt hdescribes hcolumns hlt
    rw [addEngine_of_lt parseFloat (hbase ▸ hin) (hdescribes.friendlyNames ▸ hnameOf hlt), hbase]
  rw [hdescribes.engineNames]
  refine ⟨_, foldlM_eq_ok hstep ∅, fun name => ?_⟩
  have hnames : (List.range (engineClasses header1).length).map nameOf = engineClasses header1 := by
    refine List.ext_getElem? fun k => ?_
    by_cases hk : k < (engineClasses header1).length
    · rw [hnameOf hk]
      simp [hk]
    · simp [hk]
  have hsame : (List.range (engineClasses header1).length).filter (nameOf · = name) =
      (List.range (engineClasses header1).length).filter
        fun k => (engineClasses header1)[k]? = some name := by
    refine List.filter_congr fun k hk => ?_
    rw [hnameOf (List.mem_range.mp hk)]
    simp
  rw [FiniteMap.lookup_foldl_insert_add nameOf, hnames, hsame, busyColumns]

theorem parseIntelData_reads (hline : (fields line).length ≠ 0) :
    ∃ sample, parseIntelData parseFloat line headers = .ok sample ∧
      ReadsRow parseFloat header1 header2 line sample := by
  obtain ⟨engines, hfold, hengines⟩ := foldlM_addEngine parseFloat hdescribes hcolumns
  have hin (k : ℕ) (hk : k < (engineClasses header1).length) :=
    (busyColumn_lt hdescribes hcolumns hk).2
  rw [parseIntelData]
  dsimp only
  rw [if_neg hline, if_neg (Nat.not_lt.mpr hcolumns), hfold, hdescribes.powerIndex]
  cases hpower : powerColumn header1 header2 with
  | none =>
      rw [Option.elim_none, parsePower_none]
      refine ⟨_, rfl, hin, hengines, fun i hi => ?_, fun _ => ⟨rfl, rfl⟩⟩
      cases hpower.symm.trans hi
  | some i =>
      have hlt := powerColumn_succ_lt hdescribes hcolumns hpower
      rw [Option.elim_some, parsePower_of_lt parseFloat hlt]
      refine ⟨_, rfl, hin, hengines, fun i' hi' => ?_, fun hnone => ?_⟩
      · obtain rfl := Option.some.inj (hpower.symm.trans hi')
        exact ⟨hlt, rfl, rfl⟩
      · cases hpower.symm.trans hnone

end Described

/-- A row is long enough that has a column, and all that the header has if there are engines. -/
def LongEnough (header1 header2 line : String) : Prop :=
  fields line ≠ [] ∧ (engineClasses header1 ≠ [] →
    (fields header2).length ≤ (fields line).length ∧
      3 * (engineClasses header1).length ≤ (fields line).length)

theorem columns_le_iff {header1 header2 : String} {headers : IntelHeaders}
    (hdescribes : headers.Describes header1 header2) (row : List String) :
    headers.preEngineCols + 3 * headers.engineNames.length ≤ row.length ↔
      (engineClasses header1 ≠ [] → (fields header2).length ≤ row.length ∧
        3 * (engineClasses header1).length ≤ row.length) := by
  have hnames := hdescribes.engineNames
  by_cases hengines : engineClasses header1 = []
  · have hpre := hdescribes.noEngines hengines
    rw [hengines, List.length_nil] at hnames
    refine iff_of_true (by omega) fun h => absurd hengines h
  · have hpre := hdescribes.preEngineCols hengines
    rw [preColumns] at hpre
    rw [forall_prop_of_true hengines]
    omega

section LongEnough

variable {header1 header2 line : String} {headers : IntelHeaders}
  (hdescribes : headers.Describes header1 header2)
include hdescribes

theorem parseIntelData_of_longEnough (hlong : LongEnough header1 header2 line) :
    ∃ sample, parseIntelData parseFloat line headers = .ok sample ∧
      ReadsRow parseFloat header1 header2 line sample := by
  obtain ⟨hline, hcolumns⟩ := hlong
  exact parseIntelData_reads parseFloat hdescribes ((columns_le_iff hdescribes _).mpr hcolumns)
    (mt List.length_eq_zero_iff.mp hline)

theorem parseIntelData_of_short (hshort : ¬ LongEnough header1 header2 line) :
    parseIntelData parseFloat line headers = .error (.error .noValidData) := by
  rw [parseIntelData]
  by_cases hline : (fields line).length = 0
  · exact if_pos hline
  · have hcolumns := mt (columns_le_iff hdescribes (fields line)).mp fun hcolumns =>
      hshort ⟨mt List.length_eq_zero_iff.mpr hline, hcolumns⟩
    dsimp only
    rw [if_neg hline, if_pos (Nat.not_le.mp hcolumns)]
    rfl

end LongEnough

/-- **No access is out of range, and what is read is what the columns have**, of just the rows that
are long enough. -/
theorem readsRow_or_noValidData (header1 header2 line : String) :
    (¬ LongEnough header1 header2 line ∧
      (parseIntelHeaders header1 header2 >>= parseIntelData parseFloat line) =
        .error (.error .noValidData)) ∨
      LongEnough header1 header2 line ∧
        ∃ sample, (parseIntelHeaders header1 header2 >>= parseIntelData parseFloat line) =
          .ok sample ∧ ReadsRow parseFloat header1 header2 line sample := by
  obtain ⟨headers, hheaders, hdescribes⟩ := parseIntelHeaders_describes header1 header2
  rw [hheaders, ok_bind]
  by_cases hlong : LongEnough header1 header2 line
  · exact Or.inr ⟨hlong, parseIntelData_of_longEnough parseFloat hdescribes hlong⟩
  · exact Or.inl ⟨hlong, parseIntelData_of_short parseFloat hdescribes hlong⟩

example :
    (match parseIntelHeaders "Freq MHz IRQ Power W RCS VCS/0 VCS/1"
        "req act /s gpu pkg % se wa % se wa % se wa" >>=
          parseIntelData (fun s => [("9", 9), ("20", 20), ("30", 30)].lookup s)
            "0 0 0 9 x 0 0 0 20 0 0 30 0 0" with
      | .ok sample => some (sample.powerGPU, sample.powerPkg, sample.engines.lookup "Video")
      | .error _ => none) = some (9, (0 : ℕ), some 50) := by
  decide +kernel

end Row

/-! ### The collector -/

theorem exists_word {l : List Char} (hword : ∃ c ∈ l, isSpace c = false) :
    ∃ word ∈ l.splitOnP isSpace, word ≠ [] := by
  induction l with
  | nil =>
      obtain ⟨c, hc, -⟩ := hword
      cases hc
  | cons c l ih =>
      rw [List.splitOnP_cons_eq_if_modifyHead]
      by_cases hspace : isSpace c = true
      · rw [if_pos hspace]
        have hrest : ∃ c ∈ l, isSpace c = false := by
          obtain ⟨c', hc', hnot⟩ := hword
          rcases List.mem_cons.mp hc' with rfl | hmem
          · rw [hspace] at hnot
            cases hnot
          · exact ⟨c', hmem, hnot⟩
        obtain ⟨word, hmem, hne⟩ := ih hrest
        exact ⟨word, List.mem_cons_of_mem _ hmem, hne⟩
      · rw [if_neg hspace]
        obtain ⟨word, words, hwords⟩ := List.exists_cons_of_ne_nil (List.splitOnP_ne_nil isSpace l)
        rw [hwords]
        exact ⟨c :: word, List.mem_cons_self, List.cons_ne_nil _ _⟩

/-- A line that has been trimmed and is not empty has a column. -/
theorem fields_trimSpace_ne_nil {text : String} (hline : trimSpace text ≠ "") :
    fields (trimSpace text) ≠ [] := by
  set rest := (text.toList.dropWhile isSpace).reverse.dropWhile isSpace with hrest
  have hchars : (trimSpace text).toList = rest.reverse := by
    rw [trimSpace, String.toList_ofList]
  have hne : rest ≠ [] := by
    rintro hnil
    rw [hnil] at hchars
    exact hline (String.toList_eq_nil_iff.mp hchars)
  obtain ⟨word, hmem, hword⟩ := exists_word (l := rest.reverse)
    ⟨rest.head hne, List.mem_reverse.mpr (List.head_mem hne),
      by simpa using List.head_dropWhile_not isSpace hne⟩
  rw [fields, hchars]
  exact List.ne_nil_of_mem (List.mem_map_of_mem (List.mem_filter.mpr ⟨hmem, by simpa using hword⟩))

/-- The rows before the second line of the first header. -/
def unheadedRows (lines : List String) : List String :=
  ((lines.map trimSpace).filter fun line => line ≠ "" ∧ !hasPrefix line "Freq").takeWhile
    (!hasPrefix · "req")

theorem unheadedRows_cons (text : String) (rest : List String) :
    unheadedRows (text :: rest) =
      if trimSpace text = "" ∨ hasPrefix (trimSpace text) "Freq" then unheadedRows rest
      else if hasPrefix (trimSpace text) "req" then []
      else trimSpace text :: unheadedRows rest := by
  rw [unheadedRows, List.map_cons, List.filter_cons]
  by_cases hskipped : trimSpace text = "" ∨ hasPrefix (trimSpace text) "Freq"
  · rw [if_pos hskipped, if_neg (by simpa [or_iff_not_imp_left] using hskipped), unheadedRows]
  · rw [if_neg hskipped, if_pos (by simpa [not_or] using hskipped), List.takeWhile_cons]
    by_cases hheader : hasPrefix (trimSpace text) "req"
    · rw [if_pos hheader, if_neg (by simp [hheader])]
    · rw [if_neg hheader, if_pos (by simp [hheader]), unheadedRows]

section Collect

variable (parseFloat : String → Option ℚ)

/-- What a line does to the loop, and to the rows that are left before a header. -/
inductive LineScanned (s : IntelScan) (text : String) (rest : List String) :
    Except (Fault IntelError) IntelScan → Prop
  | passed (header1 : String) (hrows : unheadedRows (text :: rest) = unheadedRows rest) :
      LineScanned s text rest (.ok { s with header1 })
  | header {header1 header2 : String} {headers : IntelHeaders}
      (hdescribes : headers.Describes header1 header2) (hrows : unheadedRows (text :: rest) = []) :
      LineScanned s text rest (.ok { s with headers })
  | first (hskipped : s.skippedFirstDataRow = false)
      (hrows : unheadedRows (text :: rest) = trimSpace text :: unheadedRows rest) :
      LineScanned s text rest (.ok { s with skippedFirstDataRow := true })
  | row (hskipped : s.skippedFirstDataRow = true) (hline : fields (trimSpace text) ≠ [])
      (hrows : unheadedRows (text :: rest) = trimSpace text :: unheadedRows rest) :
      LineScanned s text rest (do
        let sample ← parseIntelData parseFloat (trimSpace text) s.headers
        return { s with hadDataRow := true, gm := s.gm.updateIntelFromStats sample.stats })

theorem lineScanned (s : IntelScan) (text : String) (rest : List String) :
    LineScanned parseFloat s text rest (s.scanLine parseFloat text) := by
  have hrows := unheadedRows_cons text rest
  rw [IntelScan.scanLine]
  split_ifs with hempty hfreq hheader hskipped
  · rw [if_pos (Or.inl hempty)] at hrows
    exact .passed s.header1 hrows
  · rw [if_pos (Or.inr hfreq)] at hrows
    exact .passed _ hrows
  · obtain ⟨headers, hheaders, hdescribes⟩ :=
      parseIntelHeaders_describes s.header1 (trimSpace text)
    rw [if_neg (not_or.mpr ⟨hempty, hfreq⟩), if_pos hheader] at hrows
    rw [hheaders, ok_bind]
    exact .header hdescribes hrows
  · rw [if_neg (not_or.mpr ⟨hempty, hfreq⟩), if_neg hheader] at hrows
    exact .first (by simpa using hskipped) hrows
  · rw [if_neg (not_or.mpr ⟨hempty, hfreq⟩), if_neg hheader] at hrows
    exact .row (by simpa using hskipped) (fields_trimSpace_ne_nil hempty) hrows

/-- A sample that is read by two header lines. -/
def IsRead (sample : IntelRow ℚ) : Prop :=
  ∃ header1 header2 line, ReadsRow parseFloat header1 header2 line sample

def GPUManager.addAll (gm : GPUManager) (samples : List (IntelRow ℚ)) : GPUManager :=
  samples.foldl (fun gm sample => gm.updateIntelFromStats sample.stats) gm

/-- A loop adds samples that are read by headers, and ends with an error at most. -/
structure ScansRows (gm : GPUManager) (result : IntelScan × Option (Fault IntelError)) : Prop where
  added : ∃ samples, (∀ sample ∈ samples, IsRead parseFloat sample) ∧
    result.1.gm = gm.addAll samples
  fault : ∀ fault ∈ result.2, fault = .error .noValidData

variable {parseFloat} {s : IntelScan}

theorem ScansRows.none (s : IntelScan) : ScansRows parseFloat s.gm (s, none) :=
  ⟨⟨[], List.forall_mem_nil _, rfl⟩, fun fault hfault => absurd hfault (Option.not_mem_none fault)⟩

theorem ScansRows.cons {gm : GPUManager} {sample : IntelRow ℚ}
    {result : IntelScan × Option (Fault IntelError)} (hread : IsRead parseFloat sample)
    (h : ScansRows parseFloat (gm.updateIntelFromStats sample.stats) result) :
    ScansRows parseFloat gm result := by
  obtain ⟨⟨samples, hall, hgm⟩, hfault⟩ := h
  exact ⟨⟨sample :: samples, List.forall_mem_cons.mpr ⟨hread, hall⟩, hgm⟩, hfault⟩

def IntelScan.Headed (s : IntelScan) : Prop :=
  ∃ header1 header2, s.headers.Describes header1 header2

/-- **After a header every row is read or ends the loop.** -/
theorem scan_headed (h : s.Headed) (lines : List String) :
    ScansRows parseFloat s.gm (s.scan parseFloat lines) := by
  induction lines generalizing s with
  | nil => exact .none s
  | cons text rest ih =>
      have hscanned := lineScanned parseFloat s text rest
      rw [IntelScan.scan]
      generalize s.scanLine parseFloat text = result at hscanned
      cases hscanned with
      | passed header1 _ => exact ih (s := { s with header1 }) h
      | header hdescribes _ => exact ih (s := { s with headers := _ }) ⟨_, _, hdescribes⟩
      | first _ _ => exact ih (s := { s with skippedFirstDataRow := true }) h
      | row _ _ _ =>
          obtain ⟨header1, header2, hdescribes⟩ := h
          by_cases hlong : LongEnough header1 header2 (trimSpace text)
          · obtain ⟨sample, hparsed, hreads⟩ :=
              parseIntelData_of_longEnough parseFloat hdescribes hlong
            rw [hparsed, ok_bind]
            refine .cons ⟨header1, header2, _, hreads⟩ ?_
            exact ih (s := { s with hadDataRow := true, gm := _ }) ⟨_, _, hdescribes⟩
          · rw [parseIntelData_of_short parseFloat hdescribes hlong]
            exact ⟨⟨[], List.forall_mem_nil _, rfl⟩,
              fun fault hfault => (Option.some.inj hfault).symm⟩

/-! ### Before a header -/

/-- The zero is the index of a column, as long as no header has said that there is no power. -/
theorem parseIntelData_unheaded {line : String} (hline : fields line ≠ []) :
    parseIntelData parseFloat line {} =
      if (fields line).length = 1 then .error (.outOfRange 1 1)
      else .ok
        { powerGPU := floatAt parseFloat (fields line) 0
          powerPkg := floatAt parseFloat (fields line) 1 } := by
  have hlength := mt List.length_eq_zero_iff.mp hline
  rw [parseIntelData]
  dsimp only
  rw [if_neg hlength, if_neg (by simp)]
  by_cases hone : (fields line).length = 1
  · have hlast := parsePower_of_last parseFloat (i := 0) hone
    rw [Nat.cast_zero] at hlast
    rw [if_pos hone, hlast, hone]
    rfl
  · have hlt : 0 + 1 < (fields line).length := by omega
    have hpower := parsePower_of_lt parseFloat hlt
    rw [Nat.cast_zero] at hpower
    rw [if_neg hone, hpower]
    rfl

/-- The rows of a loop that are parsed before a header. -/
def IntelScan.unheaded (s : IntelScan) (lines : List String) : List String :=
  (unheadedRows lines).drop (if s.skippedFirstDataRow then 0 else 1)

theorem scan_unheaded_iff (h : s.headers = {}) (lines : List String) :
    (∃ index length, (s.scan parseFloat lines).2 = some (.outOfRange index length)) ↔
      ∃ row ∈ s.unheaded lines, (fields row).length = 1 := by
  induction lines generalizing s with
  | nil => simp [IntelScan.scan, IntelScan.unheaded, unheadedRows]
  | cons text rest ih =>
      have hscanned := lineScanned parseFloat s text rest
      rw [IntelScan.scan]
      generalize s.scanLine parseFloat text = result at hscanned
      cases hscanned with
      | passed header1 hrows =>
          rw [IntelScan.unheaded, hrows]
          exact ih (s := { s with header1 }) h
      | header hdescribes hrows =>
          have hscans : ScansRows parseFloat s.gm (IntelScan.scan parseFloat _ rest) :=
            scan_headed (s := { s with headers := _ }) ⟨_, _, hdescribes⟩ rest
          rw [IntelScan.unheaded, hrows, List.drop_nil]
          refine iff_of_false ?_ (by simp)
          rintro ⟨index, length, hoff⟩
          cases hscans.fault _ hoff
      | first hskipped hrows =>
          rw [IntelScan.unheaded, hrows, hskipped, if_neg Bool.false_ne_true, List.drop_succ_cons]
          exact ih (s := { s with skippedFirstDataRow := true }) h
      | row hskipped hline hrows =>
          rw [IntelScan.unheaded, hrows, hskipped, if_pos rfl, List.drop_zero, h,
            parseIntelData_unheaded hline, List.exists_mem_cons_iff]
          by_cases hone : (fields (trimSpace text)).length = 1
          · rw [if_pos hone]
            exact iff_of_true ⟨1, 1, rfl⟩ (Or.inl hone)
          · rw [if_neg hone, ok_bind, or_iff_right hone]
            exact ih (s := ⟨_, s.header1, {}, true, true⟩) rfl

theorem scan_unheaded (h : s.headers = {}) {lines : List String} (hrows : s.unheaded lines = []) :
    ScansRows parseFloat s.gm (s.scan parseFloat lines) := by
  induction lines generalizing s with
  | nil => exact .none s
  | cons text rest ih =>
      have hscanned := lineScanned parseFloat s text rest
      rw [IntelScan.scan]
      generalize s.scanLine parseFloat text = result at hscanned
      cases hscanned with
      | passed header1 hpassed =>
          rw [IntelScan.unheaded, hpassed] at hrows
          exact ih (s := { s with header1 }) h hrows
      | header hdescribes _ =>
          exact scan_headed (s := { s with headers := _ }) ⟨_, _, hdescribes⟩ rest
      | first hskipped hfirst =>
          rw [IntelScan.unheaded, hfirst, hskipped, if_neg Bool.false_ne_true, List.drop_succ_cons]
            at hrows
          exact ih (s := { s with skippedFirstDataRow := true }) h hrows
      | row hskipped _ hrow =>
          rw [IntelScan.unheaded, hrow, hskipped, if_pos rfl] at hrows
          cases hrows

/-- **The collector goes out of range exactly at a row of one column before a header**, the first
row apart. -/
theorem collectIntelStats_outOfRange_iff (gm : GPUManager) (output : String) :
    (∃ index length, (gm.collectIntelStats parseFloat output).2 =
        some (.outOfRange index length)) ↔
      ∃ row ∈ (unheadedRows (scanLines output)).drop 1, (fields row).length = 1 := by
  have hunheaded : IntelScan.unheaded { gm } (scanLines output) =
      (unheadedRows (scanLines output)).drop 1 := rfl
  rw [← hunheaded, ← scan_unheaded_iff rfl, GPUManager.collectIntelStats]
  generalize IntelScan.scan parseFloat { gm } (scanLines output) = result
  obtain ⟨s, fault⟩ := result
  cases fault with
  | some fault => rfl
  | none =>
      dsimp only
      split_ifs <;> simp

/-- **What is added is what the rows have**, when the header comes before the second row. -/
theorem collectIntelStats_reads (gm : GPUManager) {output : String}
    (hrows : (unheadedRows (scanLines output)).length ≤ 1) :
    ∃ samples, (∀ sample ∈ samples, IsRead parseFloat sample) ∧
      (gm.collectIntelStats parseFloat output).1 = gm.addAll samples := by
  have hscan : ScansRows parseFloat gm (IntelScan.scan parseFloat { gm } (scanLines output)) :=
    scan_unheaded (s := { gm }) rfl (List.drop_eq_nil_of_le hrows)
  obtain ⟨samples, hread, hgm⟩ := hscan.added
  refine ⟨samples, hread, ?_⟩
  rw [← hgm, GPUManager.collectIntelStats]
  dsimp only
  split_ifs <;> rfl

example :
    (GPUManager.collectIntelStats (fun _ => none) {} "Freq MHz RCS\n0\n0\n").2 =
      some (.outOfRange 1 1) := by
  decide +kernel

end Collect

end Picket.Gather
