import Picket.ChartData

/-!
# When the history of a chart is kept

Gap markers are undated, so what is dated of a history is what is dated of its records. The loop
does not see every gap: none that begins at time zero, and none that begins before undated points at
the end of what it appends to.
-/

namespace Picket.ChartData

variable {V : Type*}

section Lists

variable {α : Type*}

theorem rtake_append_add (l l' : List α) (k : ℕ) :
    (l ++ l').rtake (k + l'.length) = l.rtake k ++ l' := by
  have hstart : (l ++ l').length - (k + l'.length) = l.length - k := by
    rw [List.length_append]
    omega
  rw [List.rtake, List.rtake, hstart, List.drop_append_of_le_length (Nat.sub_le _ _)]

theorem length_rtake (l : List α) {k : ℕ} (hle : k ≤ l.length) : (l.rtake k).length = k := by
  rw [List.rtake, List.length_drop]
  omega

theorem tail_rtake (l : List α) {k : ℕ} (hle : k ≤ l.length) (hpos : 0 < k) :
    (l.rtake k).tail = l.rtake (k - 1) := by
  rw [List.rtake, List.tail_drop, List.rtake]
  congr 1
  omega

/-- A list that is moved up by one place and filled with `b` has nothing but `b`. -/
theorem eq_tail_concat_iff {l : List α} {b : α} (hne : l ≠ []) :
    l = l.tail ++ [b] ↔ ∀ a ∈ l, a = b := by
  induction l with
  | nil => exact absurd rfl hne
  | cons a l ih =>
      cases l with
      | nil => simp
      | cons a' l =>
          rw [List.tail_cons, List.cons_append, List.cons.injEq, List.forall_mem_cons,
            ← ih (List.cons_ne_nil _ _), List.tail_cons]
          refine and_congr_left fun hrest => ?_
          have hall := (ih (List.cons_ne_nil a' l)).mp hrest
          rw [hall a' List.mem_cons_self]

/-- The end of a list, and that of the list with `b` inserted. -/
theorem rtake_append_insert_iff (l middle rest : List α) {b : α} {kept : ℕ} (hpos : 0 < kept)
    (hle : kept ≤ l.length) :
    l.rtake kept ++ (middle ++ rest) =
        (l ++ (middle ++ b :: rest)).rtake (kept + (middle ++ rest).length) ↔
      ∀ a ∈ l.rtake kept ++ middle, a = b := by
  have hlength : kept + (middle ++ rest).length =
      kept - 1 + (middle ++ b :: rest).length := by
    simp only [List.length_append, List.length_cons]
    omega
  have hne : l.rtake kept ≠ [] := by
    rw [← List.length_pos_iff, length_rtake l hle]
    exact hpos
  have hinserted : middle ++ b :: rest = middle ++ [b] ++ rest := by simp
  rw [hlength, rtake_append_add, hinserted, ← tail_rtake l hle hpos, ← List.append_assoc,
    ← List.append_assoc, ← List.append_assoc, List.append_cancel_right_eq,
    ← List.tail_append_of_ne_nil hne]
  exact eq_tail_concat_iff (List.append_ne_nil_of_left_ne_nil hne middle)

end Lists

/-! ### Points with gap markers -/

@[simp]
theorem times_append (points points' : List (Point V)) :
    times (points ++ points') = times points ++ times points' :=
  List.filterMap_append

theorem times_cons_of_none {point : Point V} (hcreated : point.created = none)
    (rest : List (Point V)) : times (point :: rest) = times rest := by
  rw [times, List.filterMap_cons, hcreated, times]

theorem times_cons_of_some {point : Point V} {t : Number} (hcreated : point.created = some t)
    (rest : List (Point V)) : times (point :: rest) = t :: times rest := by
  rw [times, List.filterMap_cons, hcreated, times]

theorem times_eq_nil_iff {points : List (Point V)} :
    times points = [] ↔ ∀ point ∈ points, point.created = none := by
  rw [times, List.filterMap_eq_nil_iff]

section WithGaps

variable (isGap : Number → Number → Bool)

theorem withGaps_of_none {point : Point V} (hcreated : point.created = none)
    (last : Option Number) (rest : List (Point V)) :
    withGaps isGap last (point :: rest) = point :: withGaps isGap last rest := by
  rw [withGaps, hcreated]

theorem withGaps_of_some {point : Point V} {t : Number} (hcreated : point.created = some t)
    (last : Option Number) (rest : List (Point V)) :
    withGaps isGap last (point :: rest) =
      (if last.any (isGap · t) then [gapMarker point.fields] else []) ++
        point :: withGaps isGap (some t) rest := by
  rw [withGaps, hcreated]

theorem withGaps_congr {last last' : Option Number}
    (hlast : ∀ t, last.any (isGap · t) = last'.any (isGap · t)) (points : List (Point V)) :
    withGaps isGap last points = withGaps isGap last' points := by
  induction points with
  | nil => rfl
  | cons point rest ih =>
      cases hcreated : point.created with
      | none => rw [withGaps_of_none isGap hcreated, withGaps_of_none isGap hcreated, ih]
      | some t => rw [withGaps_of_some isGap hcreated, withGaps_of_some isGap hcreated, hlast]

theorem times_withGaps (last : Option Number) (points : List (Point V)) :
    times (withGaps isGap last points) = times points := by
  induction points generalizing last with
  | nil => rfl
  | cons point rest ih =>
      cases hcreated : point.created with
      | none =>
          rw [withGaps_of_none isGap hcreated, times_cons_of_none hcreated,
            times_cons_of_none hcreated, ih]
      | some t =>
          rw [withGaps_of_some isGap hcreated, times_append, times_cons_of_some hcreated,
            times_cons_of_some hcreated, ih]
          split <;> rfl

theorem sublist_withGaps (last : Option Number) (points : List (Point V)) :
    points.Sublist (withGaps isGap last points) := by
  induction points generalizing last with
  | nil => exact List.Sublist.refl _
  | cons point rest ih =>
      cases hcreated : point.created with
      | none =>
          rw [withGaps_of_none isGap hcreated]
          exact (ih last).cons_cons point
      | some t =>
          rw [withGaps_of_some isGap hcreated]
          exact ((ih (some t)).cons_cons point).trans (List.sublist_append_right _ _)

theorem gapMarker_ne {point : Point V} {t : Number} (hcreated : point.created = some t)
    (fields : List (String × Option V)) : gapMarker fields ≠ point := by
  rintro rfl
  cases hcreated

theorem withGaps_eq_self_iff (last : Option Number) (points : List (Point V)) :
    withGaps isGap last points = points ↔
      (last.toList ++ times points).IsChain fun p t => ¬ isGap p t := by
  induction points generalizing last with
  | nil => cases last <;> simp [withGaps, times]
  | cons point rest ih =>
      cases hcreated : point.created with
      | none =>
          rw [withGaps_of_none isGap hcreated, times_cons_of_none hcreated, List.cons.injEq,
            and_iff_right rfl, ih]
      | some t =>
          rw [withGaps_of_some isGap hcreated, times_cons_of_some hcreated]
          have htail := ih (some t)
          cases last with
          | none =>
              rw [Option.any_none, if_neg Bool.false_ne_true, List.nil_append, List.cons.injEq,
                and_iff_right rfl, htail]
              rfl
          | some p =>
              rw [Option.any_some, Option.toList_some, List.singleton_append,
                List.isChain_cons_cons]
              by_cases hgap : isGap p t
              · rw [if_pos hgap, List.singleton_append]
                refine iff_of_false (fun heq => ?_) fun hchain => hchain.1 hgap
                exact gapMarker_ne hcreated _ (List.cons.inj heq).1
              · rw [if_neg hgap, List.nil_append, List.cons.injEq, and_iff_right rfl, htail,
                  and_iff_right hgap]
                rfl

/-! ### Where the history begins -/

/-- The undated points that a list begins with. -/
def undatedStart (points : List (Point V)) : ℕ :=
  (points.takeWhile (·.created.isNone)).length

theorem undatedStart_of_times_eq_nil {points : List (Point V)} (htimes : times points = [])
    (points' : List (Point V)) :
    undatedStart (points ++ points') = points.length + undatedStart points' := by
  rw [undatedStart, List.takeWhile_append_of_pos, List.length_append, undatedStart]
  exact fun point hpoint => Option.isNone_iff_eq_none.mpr (times_eq_nil_iff.mp htimes point hpoint)

theorem undatedStart_append {points : List (Point V)} (htimes : times points ≠ [])
    (points' : List (Point V)) : undatedStart (points ++ points') = undatedStart points := by
  induction points with
  | nil => exact absurd rfl htimes
  | cons point rest ih =>
      rw [undatedStart, undatedStart, List.cons_append, List.takeWhile_cons, List.takeWhile_cons]
      cases hcreated : point.created with
      | none =>
          rw [times_cons_of_none hcreated] at htimes
          simpa [undatedStart] using ih htimes
      | some t => rfl

/-- No gap marker stands before the first dated point. -/
theorem undatedStart_append_withGaps {prev : List (Point V)} {last : Option Number}
    (hlast : times prev = [] → last = none) (points : List (Point V)) :
    undatedStart (prev ++ withGaps isGap last points) = undatedStart (prev ++ points) := by
  by_cases htimes : times prev = []
  · rw [undatedStart_of_times_eq_nil htimes, undatedStart_of_times_eq_nil htimes, hlast htimes]
    refine congrArg (prev.length + ·) ?_
    induction points with
    | nil => rfl
    | cons point rest ih =>
        cases hcreated : point.created with
        | none =>
            rw [withGaps_of_none isGap hcreated, undatedStart, undatedStart, List.takeWhile_cons,
              List.takeWhile_cons, hcreated]
            simpa [undatedStart] using ih
        | some t =>
            rw [withGaps_of_some isGap hcreated, undatedStart, undatedStart]
            simp [hcreated]
  · rw [undatedStart_append htimes, undatedStart_append htimes]

end WithGaps

section Gaps

variable (expectedInterval : ℚ)

theorem length_withGaps (last : Option Number) (points : List (Point V)) :
    (withGaps (isLater expectedInterval) last points).length =
      points.length + gapCount expectedInterval (last.toList ++ times points) := by
  induction points generalizing last with
  | nil => cases last <;> rfl
  | cons point rest ih =>
      cases hcreated : point.created with
      | none =>
          rw [withGaps_of_none _ hcreated, times_cons_of_none hcreated, List.length_cons, ih,
            List.length_cons]
          omega
      | some t =>
          have htail := ih (some t)
          rw [Option.toList_some, List.singleton_append] at htail
          rw [withGaps_of_some _ hcreated, times_cons_of_some hcreated, List.length_append,
            List.length_cons, htail, List.length_cons]
          cases last with
          | none => simp [Nat.add_right_comm]
          | some p =>
              rw [Option.any_some, Option.toList_some, List.singleton_append, gapCount]
              split <;> simp <;> omega

def seesGap (p t : Number) : Bool :=
  isTruthy p && isLater expectedInterval p t

theorem isTruthy_of_isLater {p t : Number} (hlater : isLater expectedInterval p t) :
    isTruthy p ↔ p ≠ some 0 := by
  cases p with
  | none => cases hlater
  | some p => simp [isTruthy]

theorem any_seesGap_iff {seen last : Option Number} (hseen : seen = none ∨ seen = last)
    (t : Number) :
    seen.any (seesGap expectedInterval · t) ↔
      ∃ p, last = some p ∧ isLater expectedInterval p t ∧ p ≠ some 0 ∧ seen = some p := by
  rw [Option.any_eq_true]
  refine exists_congr fun p => ?_
  rw [seesGap, Bool.and_eq_true]
  constructor
  · rintro ⟨rfl, htruthy, hlater⟩
    refine ⟨(hseen.resolve_left (Option.some_ne_none p)).symm, hlater, ?_, rfl⟩
    exact (isTruthy_of_isLater expectedInterval hlater).mp htruthy
  · rintro ⟨-, hlater, hne, hsome⟩
    exact ⟨hsome, (isTruthy_of_isLater expectedInterval hlater).mpr hne, hlater⟩

/-- Every gap is seen. -/
theorem withGaps_seesGap_eq_iff {seen last : Option Number} (hseen : seen = none ∨ seen = last)
    (points : List (Point V)) :
    withGaps (seesGap expectedInterval) seen points =
        withGaps (isLater expectedInterval) last points ↔
      ((times points).IsChain fun p t => isLater expectedInterval p t → p ≠ some 0) ∧
        ∀ p ∈ last, ∀ t ∈ (times points).head?, isLater expectedInterval p t →
          p ≠ some 0 ∧ seen = some p := by
  induction points generalizing seen last with
  | nil => simp [withGaps, times]
  | cons point rest ih =>
      cases hcreated : point.created with
      | none =>
          rw [withGaps_of_none _ hcreated, withGaps_of_none _ hcreated, times_cons_of_none hcreated,
            List.cons.injEq, and_iff_right rfl, ih hseen]
      | some t =>
          have hrest : withGaps (seesGap expectedInterval) (some t) rest =
              withGaps (isLater expectedInterval) (some t) rest ↔
                (t :: times rest).IsChain fun p t => isLater expectedInterval p t → p ≠ some 0 := by
            rw [ih (Or.inr rfl), List.isChain_cons, and_comm]
            simp
          have hsees := any_seesGap_iff expectedInterval hseen t
          rw [withGaps_of_some _ hcreated, withGaps_of_some _ hcreated,
            times_cons_of_some hcreated]
          simp only [List.head?_cons, Option.mem_some_iff, forall_eq']
          by_cases hsee : seen.any (seesGap expectedInterval · t)
          · obtain ⟨p, rfl, hlater, hne, hsome⟩ := hsees.mp hsee
            rw [if_pos hsee, Option.any_some, if_pos hlater, List.append_cancel_left_eq,
              List.cons.injEq, and_iff_right rfl, hrest]
            refine (and_iff_left ?_).symm
            rintro _ ⟨⟩ -
            exact ⟨hne, hsome⟩
          · rw [if_neg hsee, List.nil_append]
            by_cases hlater : last.any (isLater expectedInterval · t)
            · rw [if_pos hlater, List.singleton_append]
              obtain ⟨p, hp, hlater⟩ := (Option.any_eq_true _ _).mp hlater
              refine iff_of_false (fun heq => ?_) fun hall => ?_
              · exact gapMarker_ne hcreated _ (List.cons.inj heq).1.symm
              · obtain ⟨hne, hsome⟩ := hall.2 p hp hlater
                exact hsee (hsees.mpr ⟨p, hp, hlater, hne, hsome⟩)
            · rw [if_neg hlater, List.nil_append, List.cons.injEq, and_iff_right rfl, hrest]
              refine (and_iff_left fun p hp hgap => ?_).symm
              exact absurd ((Option.any_eq_true _ _).mpr ⟨p, hp, hgap⟩) hlater

/-! ### The loop -/

variable (getTime : String → Number)

theorem result_foldl_push (newRecords : List (NewRecord V)) (l : Loop V) :
    (newRecords.foldl (Loop.push getTime expectedInterval) l).result =
      l.result ++ withGaps (seesGap expectedInterval) (some l.prevTime)
        (newRecords.map (·.point getTime)) := by
  induction newRecords generalizing l with
  | nil => exact (List.append_nil _).symm
  | cons record rest ih =>
      rw [List.foldl_cons, ih, List.map_cons, Loop.push]
      cases hcreated : record.created.time getTime with
      | none =>
          have hpoint : (record.point getTime).created = none := hcreated
          rw [withGaps_of_none _ hpoint, List.append_assoc, List.singleton_append]
      | some t =>
          have hpoint : (record.point getTime).created = some t := hcreated
          rw [withGaps_of_some _ hpoint, Option.any_some, seesGap]
          dsimp only
          by_cases hgap : isTruthy l.prevTime && isLater expectedInterval l.prevTime t
          · rw [if_pos hgap, if_pos hgap]
            simp [NewRecord.point]
          · rw [if_neg hgap, if_neg hgap]
            simp

theorem appendData_eq (prev : List (Point V)) {newRecords : List (NewRecord V)}
    (hne : newRecords.length ≠ 0) (maxLen : Option ℕ) :
    appendData getTime expectedInterval prev newRecords maxLen =
      trimmed prev newRecords.length maxLen ++
        withGaps (seesGap expectedInterval)
          (lastCreated (trimmed prev newRecords.length maxLen))
          (newRecords.map (·.point getTime)) := by
  rw [appendData, if_neg hne]
  simp only
  rw [result_foldl_push]
  refine congrArg _ (withGaps_congr _ (fun t => ?_) _)
  cases lastCreated (trimmed prev newRecords.length maxLen) <;> simp [seesGap, isTruthy]

theorem lastCreated_eq (prev : List (Point V)) :
    lastCreated prev = none ∨ lastCreated prev = lastDated prev := by
  cases List.eq_nil_or_concat' prev with
  | inl hnil => exact Or.inl (by rw [hnil]; rfl)
  | inr hconcat =>
      obtain ⟨before, point, rfl⟩ := hconcat
      cases hcreated : point.created with
      | none => exact Or.inl (by simp [lastCreated, hcreated])
      | some t =>
          refine Or.inr ?_
          rw [lastDated, times_append, times_cons_of_some hcreated]
          simp [lastCreated, hcreated, times]

/-! ### Nothing is trimmed -/

theorem lastDated_eq_none {prev : List (Point V)} (htimes : times prev = []) :
    lastDated prev = none := by
  rw [lastDated, htimes, List.getLast?_nil]

theorem append_withGaps_eq_history_iff (prev points : List (Point V)) :
    prev ++ withGaps (seesGap expectedInterval) (lastCreated prev) points =
        history expectedInterval prev points ↔ GapsSeen expectedInterval prev points := by
  rw [history, List.append_cancel_left_eq,
    withGaps_seesGap_eq_iff expectedInterval (lastCreated_eq prev)]
  exact ⟨fun h => ⟨h.1, h.2⟩, fun h => ⟨h.within, h.before⟩⟩

/-- An end of the history with all of its records is all of it, since both begin alike. -/
theorem append_withGaps_eq_rtake_iff (prev points : List (Point V)) (maxLen : ℕ) :
    ((prev ++ withGaps (seesGap expectedInterval) (lastCreated prev) points).length ≤ maxLen ∧
        prev ++ withGaps (seesGap expectedInterval) (lastCreated prev) points =
          (history expectedInterval prev points).rtake maxLen) ↔
      GapsSeen expectedInterval prev points ∧
        prev.length + points.length +
          gapCount expectedInterval ((lastDated prev).toList ++ times points) ≤ maxLen := by
  set result := prev ++ withGaps (seesGap expectedInterval) (lastCreated prev) points with hresult
  have hlength : (history expectedInterval prev points).length = prev.length + points.length +
      gapCount expectedInterval ((lastDated prev).toList ++ times points) := by
    rw [history, List.length_append, length_withGaps, add_assoc]
  rw [← append_withGaps_eq_history_iff, ← hlength, ← hresult]
  constructor
  · rintro ⟨hle, hend⟩
    rw [List.rtake] at hend
    set dropped := (history expectedInterval prev points).length - maxLen with hdropped
    have htimes : times result = times (history expectedInterval prev points) := by
      rw [hresult, history, times_append, times_append, times_withGaps, times_withGaps]
    have hstart : undatedStart result = undatedStart (history expectedInterval prev points) := by
      have hlast : times prev = [] → lastCreated prev = none := fun hnil =>
        (lastCreated_eq prev).elim id fun heq => heq.trans (lastDated_eq_none hnil)
      rw [hresult, history, undatedStart_append_withGaps _ hlast,
        undatedStart_append_withGaps _ lastDated_eq_none]
    have hsplit := List.take_append_drop dropped (history expectedInterval prev points)
    have hundated : times ((history expectedInterval prev points).take dropped) = [] := by
      have hagain : times ((history expectedInterval prev points).take dropped) ++ times result =
          times result := by
        conv_rhs => rw [htimes, ← hsplit, times_append]
        rw [← hend]
      exact List.append_left_eq_self.mp hagain
    have hall := undatedStart_of_times_eq_nil hundated result
    rw [hend, hsplit, ← hend, hstart, List.length_take] at hall
    have hzero : dropped = 0 := by omega
    rw [hzero, List.drop_zero] at hend
    exact ⟨hend, by omega⟩
  · rintro ⟨heq, hle⟩
    rw [heq, List.rtake, Nat.sub_eq_zero_of_le hle]
    exact ⟨hle, rfl⟩

/-! ### `prev` is trimmed -/

theorem withGaps_append_of_times_eq_nil (isGap : Number → Number → Bool) (last : Option Number)
    {undated : List (Point V)} (htimes : times undated = []) (rest : List (Point V)) :
    withGaps isGap last (undated ++ rest) = undated ++ withGaps isGap last rest := by
  induction undated with
  | nil => rfl
  | cons point undated ih =>
      obtain ⟨hcreated, hrest⟩ := List.forall_mem_cons.mp (times_eq_nil_iff.mp htimes)
      rw [List.cons_append, withGaps_of_none isGap hcreated, ih (times_eq_nil_iff.mpr hrest),
        List.cons_append]

/-- The points up to the first dated one, if there is one. -/
theorem split_undated (points : List (Point V)) :
    (times points = [] ∧ points.find? (·.created.isSome) = none) ∨
      ∃ point t rest, points = points.takeWhile (·.created.isNone) ++ point :: rest ∧
        point.created = some t ∧ points.find? (·.created.isSome) = some point ∧
        times (points.takeWhile (·.created.isNone)) = [] := by
  induction points with
  | nil => exact Or.inl ⟨rfl, rfl⟩
  | cons point rest ih =>
      cases hcreated : point.created with
      | some t =>
          refine Or.inr ⟨point, t, rest, ?_, hcreated, ?_, ?_⟩ <;> simp [hcreated, times]
      | none =>
          rw [List.takeWhile_cons_of_pos (by simp [hcreated]),
            List.find?_cons_of_neg (by simp [hcreated]), times_cons_of_none hcreated,
            times_cons_of_none hcreated]
          refine ih.imp_right ?_
          rintro ⟨point', t, rest', hsplit, hpoint⟩
          exact ⟨point', t, rest', congrArg (point :: ·) hsplit, hpoint⟩

/-- Of two ends of one list, the one that has gap markers among the new points is no longer. -/
theorem eq_of_suffix {point : Point V} {t : Number} {rest marked l : List (Point V)}
    (hcreated : point.created = some t) (hsublist : rest.Sublist marked)
    (htimes : times marked = times rest) (hrest : point :: rest <:+ l) (hmarked : marked <:+ l) :
    marked = rest := by
  by_contra hne
  have hlonger : rest.length < marked.length :=
    lt_of_le_of_ne hsublist.length_le fun hlength => hne (hsublist.eq_of_length hlength).symm
  have hinside : point :: rest <:+ marked :=
    List.suffix_of_suffix_length_le hrest hmarked hlonger
  have hle := (hinside.sublist.filterMap (·.created)).length_le
  rw [← times, ← times, times_cons_of_some hcreated, htimes] at hle
  exact Nat.not_succ_le_self _ hle

theorem gapsShown_iff {prev points : List (Point V)} {kept : ℕ} {point : Point V} {t : Number}
    {rest : List (Point V)}
    (hsplit : points = points.takeWhile (·.created.isNone) ++ point :: rest)
    (hcreated : point.created = some t) (hfind : points.find? (·.created.isSome) = some point)
    (htimes : times (points.takeWhile (·.created.isNone)) = []) :
    GapsShown expectedInterval prev points kept ↔
      withGaps (isLater expectedInterval) (some t) rest = rest ∧
        ((lastDated prev).any (isLater expectedInterval · t) →
          ∀ shown ∈ prev.rtake kept ++ points.takeWhile (·.created.isNone),
            shown = gapMarker point.fields) := by
  have hpoints : times points = t :: times rest := by
    rw [hsplit, times_append, htimes, times_cons_of_some hcreated, List.nil_append]
  rw [withGaps_eq_self_iff, Option.toList_some, List.singleton_append, ← hpoints,
    Option.any_eq_true]
  constructor
  · intro hshown
    refine ⟨hshown.within, ?_⟩
    rintro ⟨p, hp, hlater⟩
    exact hshown.before p hp point hfind t hcreated hlater
  · rintro ⟨hwithin, hbefore⟩
    refine ⟨hwithin, fun p hp point' hpoint' t' ht' hlater => ?_⟩
    obtain rfl := Option.some.inj (hfind.symm.trans hpoint')
    obtain rfl := Option.some.inj (hcreated.symm.trans ht')
    exact hbefore ⟨p, hp, hlater⟩

theorem lastCreated_rtake (prev : List (Point V)) {kept : ℕ} (hpos : 0 < kept)
    (hle : kept ≤ prev.length) : lastCreated (prev.rtake kept) = lastCreated prev := by
  rw [lastCreated, List.rtake, List.getLast?_drop, if_neg (by omega), lastCreated]

/-- No gap is seen if none has to be shown. -/
theorem withGaps_seesGap_of_gapsShown {prev points : List (Point V)} {kept : ℕ} (hpos : 0 < kept)
    (hle : kept ≤ prev.length) (hshown : GapsShown expectedInterval prev points kept) :
    withGaps (seesGap expectedInterval) (lastCreated prev) points = points := by
  have hwithin : (times points).IsChain fun p t => ¬ seesGap expectedInterval p t :=
    hshown.within.imp fun p t hlater hsee => hlater (Bool.and_eq_true_iff.mp hsee).2
  rw [withGaps_eq_self_iff]
  cases hlast : lastCreated prev with
  | none => exact hwithin
  | some p =>
      rw [Option.toList_some, List.singleton_append, List.isChain_cons]
      refine ⟨fun t ht hsee => ?_, hwithin⟩
      have hdated : lastDated prev = some p :=
        (((lastCreated_eq prev).resolve_left (by simp [hlast])).symm.trans hlast)
      obtain ⟨hnil, -⟩ | ⟨point, t', rest, hsplit, hcreated, hfind, htimes⟩ :=
        split_undated points
      · rw [hnil] at ht
        cases ht
      · rw [hsplit, times_append, htimes, times_cons_of_some hcreated] at ht
        obtain rfl := Option.some.inj ht
        have hlater := (Bool.and_eq_true_iff.mp hsee).2
        have hall := hshown.before p hdated point hfind t' hcreated hlater
        have hkept := (lastCreated_rtake prev hpos hle).trans hlast
        obtain ⟨point', hpoint', hcreated'⟩ := Option.bind_eq_some_iff.mp hkept
        refine gapMarker_ne hcreated' _ (hall point' ?_).symm
        exact List.mem_append_left _ (List.mem_of_getLast? hpoint')

/-- What is kept of `prev` and the new points are the end of the history exactly if no gap is left
to be shown. -/
theorem rtake_append_eq_rtake_iff {prev points : List (Point V)} {kept : ℕ} (hpos : 0 < kept)
    (hle : kept ≤ prev.length) :
    prev.rtake kept ++ points =
        (history expectedInterval prev points).rtake (kept + points.length) ↔
      GapsShown expectedInterval prev points kept := by
  obtain ⟨hnil, hfind⟩ | ⟨point, t, rest, hsplit, hcreated, hfind, htimes⟩ := split_undated points
  · have hself : withGaps (isLater expectedInterval) (lastDated prev) points = points := by
      have happend := withGaps_append_of_times_eq_nil (isLater expectedInterval) (lastDated prev)
        hnil []
      simpa [withGaps] using happend
    rw [history, hself, rtake_append_add]
    refine iff_of_true rfl ⟨by simp [hnil], fun p _ point hpoint => ?_⟩
    exact absurd (hfind.symm.trans hpoint) (by simp)
  · rw [gapsShown_iff expectedInterval hsplit hcreated hfind htimes]
    generalize hundated : points.takeWhile (·.created.isNone) = undated at *
    subst hsplit
    rw [history, withGaps_append_of_times_eq_nil _ _ htimes, withGaps_of_some _ hcreated]
    generalize hmarked : withGaps (isLater expectedInterval) (some t) rest = marked
    have hsublist : rest.Sublist marked := hmarked ▸ sublist_withGaps _ _ _
    have hmarkedTimes : times marked = times rest := by
      rw [← hmarked, times_withGaps]
    by_cases hself : marked = rest
    · rw [and_iff_right hself, hself]
      by_cases hgap : (lastDated prev).any (isLater expectedInterval · t)
      · rw [if_pos hgap, List.singleton_append, forall_prop_of_true hgap]
        exact rtake_append_insert_iff prev undated (point :: rest) hpos hle
      · rw [if_neg hgap, List.nil_append, rtake_append_add]
        exact iff_of_true rfl fun hgap' => absurd hgap' hgap
    · refine iff_of_false (fun heq => hself ?_) fun h => hself h.1
      have hpointEnd : point :: rest <:+ prev.rtake kept ++ (undated ++ point :: rest) :=
        (List.suffix_append undated _).trans (List.suffix_append _ _)
      rw [heq] at hpointEnd
      refine eq_of_suffix hcreated hsublist hmarkedTimes
        (hpointEnd.trans (List.drop_suffix _ _)) ?_
      exact (List.suffix_cons point marked).trans
        ((List.suffix_append _ _).trans ((List.suffix_append _ _).trans (List.suffix_append _ _)))

theorem slice_neg (prev : List (Point V)) {newLength maxLen : ℕ} (hlt : newLength < maxLen) :
    slice prev (-((maxLen : ℤ) - newLength)) = prev.rtake (maxLen - newLength) := by
  rw [slice, if_pos (by omega), List.rtake, neg_neg]
  congr 2
  omega

/-- The result of a call whose new records do not fill the chart. -/
theorem keepsHistory_trimmed {prev : List (Point V)} {newRecords : List (NewRecord V)} {maxLen : ℕ}
    (hne : newRecords.length ≠ 0) (hlt : newRecords.length < maxLen)
    (hfull : maxLen ≤ prev.length) :
    KeepsHistory getTime expectedInterval prev newRecords (some maxLen) ↔
      GapsShown expectedInterval prev (newRecords.map (·.point getTime))
        (maxLen - newRecords.length) := by
  have htrimmed : trimmed prev newRecords.length (some maxLen) =
      prev.rtake (maxLen - newRecords.length) := by
    rw [trimmed, if_pos ⟨by omega, hfull⟩, slice_neg prev hlt]
  have hpos : 0 < maxLen - newRecords.length := by omega
  have hle : maxLen - newRecords.length ≤ prev.length := by omega
  have hmax : maxLen =
      maxLen - newRecords.length + (newRecords.map (·.point getTime)).length := by
    rw [List.length_map]
    omega
  have hend : prev.rtake (maxLen - newRecords.length) ++ newRecords.map (·.point getTime) =
        (history expectedInterval prev (newRecords.map (·.point getTime))).rtake maxLen ↔
      GapsShown expectedInterval prev (newRecords.map (·.point getTime))
        (maxLen - newRecords.length) := by
    rw [← rtake_append_eq_rtake_iff expectedInterval hpos hle, ← hmax]
  rw [KeepsHistory, appendData_eq _ _ _ hne, htrimmed, lastCreated_rtake prev hpos hle]
  have hsublist := sublist_withGaps (seesGap expectedInterval) (lastCreated prev)
    (newRecords.map (·.point getTime))
  constructor
  · rintro ⟨hlength, heq⟩
    rw [List.length_append, length_rtake prev hle] at hlength
    have hself := hsublist.eq_of_length (le_antisymm hsublist.length_le (by omega))
    rw [← hself] at heq
    exact hend.mp heq
  · intro hshown
    rw [withGaps_seesGap_of_gapsShown expectedInterval hpos hle hshown, List.length_append,
      length_rtake prev hle, ← hmax]
    exact ⟨le_rfl, hend.mpr hshown⟩

/-- **The history of a chart is kept exactly if it fits and no gap is missed.** -/
theorem keepsHistory_iff (prev : List (Point V)) (newRecords : List (NewRecord V))
    (maxLen : Option ℕ) (hmax : ∀ m ∈ maxLen, 0 < m ∧ newRecords.length ≤ m) :
    KeepsHistory getTime expectedInterval prev newRecords maxLen ↔
      Fits expectedInterval prev (newRecords.map (·.point getTime)) maxLen := by
  by_cases hne : newRecords.length = 0
  · obtain rfl := List.length_eq_zero_iff.mp hne
    have hresult : ∀ m, appendData getTime expectedInterval prev [] m = prev := fun m => rfl
    have hhistory : history expectedInterval prev [] = prev := List.append_nil prev
    cases maxLen with
    | none =>
        rw [KeepsHistory, hresult, List.map_nil, hhistory]
        exact iff_of_true rfl ⟨List.IsChain.nil, by simp [times]⟩
    | some maxLen =>
        rw [KeepsHistory, hresult, List.map_nil, hhistory, Fits, if_pos List.length_nil]
        refine and_iff_left_of_imp fun hle => ?_
        rw [List.rtake, Nat.sub_eq_zero_of_le hle, List.drop_zero]
  · cases maxLen with
    | none =>
        rw [KeepsHistory, appendData_eq _ _ _ hne, Fits]
        exact append_withGaps_eq_history_iff expectedInterval prev _
    | some maxLen =>
        obtain ⟨hpos, hle⟩ := hmax maxLen rfl
        rw [Fits, List.length_map, if_neg hne]
        by_cases hshort : prev.length < maxLen
        · rw [if_pos hshort, KeepsHistory, appendData_eq _ _ _ hne, trimmed,
            if_neg (by omega), append_withGaps_eq_rtake_iff, List.length_map]
        · rw [if_neg hshort]
          by_cases hlt : newRecords.length < maxLen
          · rw [and_iff_right hlt]
            exact keepsHistory_trimmed expectedInterval getTime hne hlt (not_lt.mp hshort)
          · have htrimmed : trimmed prev newRecords.length (some maxLen) = prev := by
              rw [trimmed, if_pos ⟨hpos.ne', not_lt.mp hshort⟩,
                le_antisymm hle (not_lt.mp hlt), sub_self, neg_zero]
              rfl
            have hlonger := (sublist_withGaps (seesGap expectedInterval) (lastCreated prev)
              (newRecords.map (·.point getTime))).length_le
            rw [List.length_map] at hlonger
            rw [KeepsHistory, appendData_eq _ _ _ hne, htrimmed, List.length_append]
            refine iff_of_false (fun hkeeps => ?_) fun hfits => hlt hfits.1
            have hlength := hkeeps.1
            omega

end Gaps

def fullChart : List (Point ℕ) :=
  [⟨some (some 1000), [("stats", some 1)]⟩, ⟨some (some 2000), [("stats", some 1)]⟩]

/-- The next record follows at once. -/
theorem next_keepsHistory :
    KeepsHistory (fun _ => none) 1000 fullChart
      [⟨.number (some 3000), [("stats", some 1)]⟩] (some 2) := by
  refine (keepsHistory_iff 1000 _ fullChart _ (some 2) (by simp)).mpr ?_
  refine ⟨by decide, List.isChain_singleton _, ?_⟩
  decide +kernel

/-- Eight seconds are missing, and the marker for them is one too many. -/
theorem missing_not_keepsHistory :
    ¬ KeepsHistory (fun _ => none) 1000 fullChart
      [⟨.number (some 10000), [("stats", some 1)]⟩] (some 2) := by
  rintro ⟨hlength, -⟩
  revert hlength
  decide +kernel

end Picket.ChartData
