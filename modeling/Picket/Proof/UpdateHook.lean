import Picket.UpdateHook

/-!
# The rest of the hook chain

Every exit of the hook goes on with the chain, except the one for a system that is not in the
manager. That one tries to add a `System` without a connection, which is never added, and returns
the error.
-/

namespace Picket

theorem lookup_removeSystem (systems : ManagedSystems) (systemID : String) :
    (systems.removeSystem systemID).1.lookup systemID = none := by
  rw [ManagedSystems.removeSystem]
  split
  case h_1 hnone => exact hnone
  case h_2 => rw [AssocList.lookup_delete, if_pos rfl]

theorem addRecord_none (systems : ManagedSystems) (record : UpdatedRecord) :
    (systems.addRecord record none).2 = some "system missing required fields" := by
  have habsent : (if (systems.lookup record.id).isSome then (systems.removeSystem record.id).1
      else systems).lookup record.id = none := by
    split
    case isTrue => exact lookup_removeSystem systems record.id
    case isFalse hnone => exact Option.not_isSome_iff_eq_none.mp hnone
  simp only [ManagedSystems.addRecord, ManagedSystems.addSystem, Option.getD_none,
    ManagedSystems.newSystem, or_true, if_true, habsent, Option.isSome_none, Bool.false_eq_true,
    if_false]

theorem count_next_logged (msg : String) (err : Option String) :
    (logged msg err).count .next = 0 := by
  cases err <;> simp [logged]

theorem count_next_alertCalls (o : HookOutcomes) (newStatus prevStatus : Option Status) :
    (alertCalls o newStatus prevStatus).count .next = 0 := by
  rw [alertCalls, List.count_append]
  split_ifs <;> simp [count_next_logged]

section Exits

variable (systems : ManagedSystems) (record : UpdatedRecord) (o : HookOutcomes)

theorem completes_of_managed {system : ManagedSystem}
    (hfound : systems.lookup record.id = some system) :
    (onRecordAfterUpdateSuccess systems record o).Completes o := by
  rw [onRecordAfterUpdateSuccess, hfound]
  by_cases htoken : record.token ≠ record.originalToken
  · simp only [Option.isSome_some, htoken, ne_eq, not_false_eq_true, and_self, if_true]
    exact ⟨rfl, rfl⟩
  · simp only [Option.isSome_some, htoken, and_false, if_false]
    split
    case h_1 => exact ⟨rfl, rfl⟩
    case h_2 => split <;> exact ⟨rfl, rfl⟩
    case h_3 =>
      refine ⟨?_, rfl⟩
      simp [count_next_alertCalls]

theorem completes_of_not_managed (hfound : systems.lookup record.id = none) :
    (onRecordAfterUpdateSuccess systems record o).Completes o ↔
      record.status = some .paused ∨ record.status = some .pending := by
  rw [onRecordAfterUpdateSuccess, hfound]
  simp only [Option.isSome_none, Bool.false_eq_true, false_and, if_false]
  split
  case h_1 hpaused => exact iff_of_true ⟨rfl, rfl⟩ (Or.inl hpaused)
  case h_2 hpending => exact iff_of_true ⟨rfl, rfl⟩ (Or.inr hpending)
  case h_3 hpaused hpending =>
    refine iff_of_false (fun hcompletes => ?_) (not_or.mpr ⟨hpaused, hpending⟩)
    have honce := hcompletes.once
    simp at honce

/-- Where the hook does not complete, it returns an error of its own, and nothing else is called. -/
theorem addRecord_of_not_completes
    (hcompletes : ¬ (onRecordAfterUpdateSuccess systems record o).Completes o) :
    (onRecordAfterUpdateSuccess systems record o).calls = [.addRecord] ∧
      (onRecordAfterUpdateSuccess systems record o).error =
        some "system missing required fields" := by
  cases hfound : systems.lookup record.id with
  | some system => exact absurd (completes_of_managed systems record o hfound) hcompletes
  | none =>
      rw [completes_of_not_managed systems record o hfound] at hcompletes
      rw [onRecordAfterUpdateSuccess, hfound]
      simp only [Option.isSome_none, Bool.false_eq_true, false_and, if_false]
      split
      case h_1 hpaused => exact absurd (Or.inl hpaused) hcompletes
      case h_2 hpending => exact absurd (Or.inr hpending) hcompletes
      case h_3 => exact ⟨rfl, addRecord_none systems record⟩

/-- **The hook completes exactly for a system in the manager, or one that is paused or pending.** -/
theorem completes_iff :
    (onRecordAfterUpdateSuccess systems record o).Completes o ↔
      (systems.lookup record.id).isSome ∨ record.status = some .paused ∨
        record.status = some .pending := by
  cases hfound : systems.lookup record.id with
  | some system =>
      exact iff_of_true (completes_of_managed systems record o hfound) (Or.inl rfl)
  | none =>
      rw [completes_of_not_managed systems record o hfound]
      exact (or_iff_right Bool.false_ne_true).symm

end Exits

/-- An update to down while the manager has no `System`: it fails, and the chain ends there. -/
theorem not_managed_not_completes :
    (onRecordAfterUpdateSuccess [] { id := "s1", status := some .down } {}).error =
      some "system missing required fields" ∧
    ¬ (onRecordAfterUpdateSuccess [] { id := "s1", status := some .down } {}).Completes {} := by
  refine ⟨by decide, fun hcompletes => ?_⟩
  have honce := hcompletes.once
  revert honce
  decide

end Picket
