import Picket.Notifications

/-!
# Who is notified

The first delivery that fails ends the loop, and the users after it are never written to. So all are
attempted only if none but the last fails.
-/

namespace Picket

/-- The users are those whose ids are not blank. -/
theorem nonEmptyTelegramUserIDs_eq (userIDs : List String) :
    nonEmptyTelegramUserIDs userIDs = (userIDs.map Gather.trimSpace).filter (· ≠ "") := by
  induction userIDs with
  | nil => rfl
  | cons userID userIDs ih =>
      rw [nonEmptyTelegramUserIDs, List.map_cons, List.filter_cons, ih]
      simp only [decide_eq_true_eq]

section Sending

variable (esc : UrlEscape) (token : String) (data : AlertMessageData) (outcome : ℕ → Option String)

theorem sendEach_ok {n : ℕ} {userIDs : List String}
    (hok : ∀ i < userIDs.length, outcome (n + i) = none) :
    sendEach esc token data outcome n userIDs =
      (userIDs.map fun userID => sendTelegramAlert esc token userID data, none) := by
  induction userIDs generalizing n with
  | nil => rfl
  | cons userID userIDs ih =>
      have hfirst : outcome n = none := hok 0 (Nat.succ_pos _)
      have hrest := ih (n := n + 1) fun i hi => by
        rw [Nat.succ_add_eq_add_succ]
        exact hok (i + 1) (Nat.succ_lt_succ hi)
      rw [sendEach, hfirst]
      simp only [hrest, List.map_cons]

/-- The first failure ends the loop. -/
theorem sendEach_fail {n i : ℕ} {userIDs : List String} {err : String} (hi : i < userIDs.length)
    (hok : ∀ j < i, outcome (n + j) = none) (hfail : outcome (n + i) = some err) :
    sendEach esc token data outcome n userIDs =
      ((userIDs.take (i + 1)).map fun userID => sendTelegramAlert esc token userID data,
        some err) := by
  induction userIDs generalizing n i with
  | nil => exact absurd hi (Nat.not_lt_zero i)
  | cons userID userIDs ih =>
      rw [sendEach, List.take_succ_cons, List.map_cons]
      cases i with
      | zero =>
          rw [Nat.add_zero] at hfail
          rw [hfail, List.take_zero, List.map_nil]
      | succ i =>
          have hfirst : outcome n = none := hok 0 (Nat.succ_pos i)
          have hrest := ih (n := n + 1) (Nat.lt_of_succ_lt_succ hi)
            (fun j hj => by
              rw [Nat.succ_add_eq_add_succ]
              exact hok (j + 1) (Nat.succ_lt_succ hj))
            (by rw [Nat.succ_add_eq_add_succ]; exact hfail)
          rw [hfirst]
          simp only [hrest]

/-- Either all deliveries succeed, or there is a first one that fails. -/
theorem all_or_first_fails (count : ℕ) :
    (∀ i < count, outcome i = none) ∨
      ∃ i < count, (∀ j < i, outcome j = none) ∧ ∃ err, outcome i = some err := by
  induction count with
  | zero => exact Or.inl fun i hi => absurd hi (Nat.not_lt_zero i)
  | succ count ih =>
      rcases ih with hok | ⟨i, hi, hfirst⟩
      · cases hlast : outcome count with
        | none =>
            refine Or.inl fun i hi => ?_
            rcases Nat.lt_succ_iff_lt_or_eq.mp hi with hlt | rfl
            · exact hok i hlt
            · exact hlast
        | some err => exact Or.inr ⟨count, Nat.lt_succ_self count, hok, err, hlast⟩
      · exact Or.inr ⟨i, Nat.lt_succ_of_lt hi, hfirst⟩

/-- **All are notified exactly if no delivery but the last one fails.** -/
theorem fansOut_iff (settings : NotificationSettings) (unmarshalError : Option String) :
    FansOut esc settings data outcome
        (sendAlert esc (.found settings unmarshalError) data outcome) ↔
      nonEmptyTelegramUserIDs settings.telegramUserIDs = [] ∨
        settings.telegramBotToken ≠ "" ∧
          ∀ n, n + 1 < (nonEmptyTelegramUserIDs settings.telegramUserIDs).length →
            outcome n = none := by
  rw [sendAlert]
  by_cases hnone : nonEmptyTelegramUserIDs settings.telegramUserIDs = []
  · refine iff_of_true ⟨?_, ?_⟩ (Or.inl hnone) <;> simp [hnone]
  · have hlength : (nonEmptyTelegramUserIDs settings.telegramUserIDs).length ≠ 0 :=
      mt List.length_eq_zero_iff.mp hnone
    rw [or_iff_right hnone]
    by_cases htoken : settings.telegramBotToken = ""
    · refine iff_of_false (fun hfans => ?_) fun h => h.1 htoken
      have hattempts := hfans.attempts
      rw [if_pos (Or.inl htoken), eq_comm, List.map_eq_nil_iff] at hattempts
      exact hnone hattempts
    · rw [if_neg (not_or.mpr ⟨htoken, hlength⟩), and_iff_right htoken]
      set userIDs := nonEmptyTelegramUserIDs settings.telegramUserIDs with huserIDs
      rcases all_or_first_fails outcome userIDs.length with hok | ⟨i, hi, hok, err, hfail⟩
      · have hall := sendEach_ok esc settings.telegramBotToken data outcome (n := 0)
          fun i hi => (Nat.zero_add i).symm ▸ hok i hi
        rw [hall]
        refine iff_of_true ⟨rfl, ?_⟩ fun n hn => hok n (Nat.lt_of_succ_lt hn)
        refine iff_of_false Bool.false_ne_true ?_
        rintro ⟨n, hn, hfails⟩
        rw [List.length_map] at hn
        rw [hok n hn] at hfails
        cases hfails
      · have hfirst := sendEach_fail esc settings.telegramBotToken data outcome (n := 0) hi
          (fun j hj => (Nat.zero_add j).symm ▸ hok j hj) ((Nat.zero_add i).symm ▸ hfail)
        rw [hfirst]
        constructor
        · intro hfans n hn
          have hlengths := congrArg List.length hfans.attempts
          rw [List.length_map, List.length_map, List.length_take, ← huserIDs] at hlengths
          exact hok n (by omega)
        · intro hlast
          have hend : userIDs.length ≤ i + 1 := by
            by_contra hlt
            rw [hlast i (Nat.lt_of_not_le hlt)] at hfail
            cases hfail
          rw [List.take_of_length_le hend]
          refine ⟨rfl, iff_of_true rfl ⟨i, ?_, by rw [hfail]; rfl⟩⟩
          rwa [List.length_map]

end Sending

/-- The first of two users cannot be reached, and the second is not written to. -/
theorem first_fails_not_fansOut :
    ¬ FansOut ⟨id, id⟩ { telegramBotToken := "t", telegramUserIDs := ["1", "2"] }
      { title := "Down", message := "s1 is down" } (fun n => if n = 0 then some "blocked" else none)
      (sendAlert ⟨id, id⟩ (.found { telegramBotToken := "t", telegramUserIDs := ["1", "2"] })
        { title := "Down", message := "s1 is down" }
        fun n => if n = 0 then some "blocked" else none) := by
  intro hfans
  have hattempts := congrArg List.length hfans.attempts
  revert hattempts
  decide +kernel

end Picket
