import Mathlib.Data.List.Infix
import Mathlib.Logic.Function.Basic

/-!
# Links

A link delivers in order, and loses what is under way only when it is gone. What was sent on it and
what has arrived is kept for the record.
-/

structure Link (α : Type*) where
  isOpen : Bool := true
  queue : List α := []
  sent : List α := []
  arrived : List α := []

namespace Link

variable {α : Type*}

/-- On a link that is gone this fails. -/
def send (l : Link α) (a : α) : Link α :=
  { l with
    queue := if l.isOpen then l.queue ++ [a] else l.queue
    sent := l.sent ++ [a] }

def receive (l : Link α) : Option (α × Link α) :=
  match l.queue with
  | [] => none
  | a :: rest => some (a, { l with queue := rest, arrived := l.arrived ++ [a] })

def shut (l : Link α) : Link α :=
  { l with isOpen := false }

def lose (l : Link α) : Link α :=
  { l with queue := if l.isOpen then l.queue else [] }

/-- Nothing overtakes anything, and nothing is missing but at the end. -/
structure InOrder (l : Link α) : Prop where
  inOrder : l.arrived ++ l.queue <+: l.sent
  complete : l.isOpen → l.arrived ++ l.queue = l.sent

theorem inOrder_empty : InOrder ({} : Link α) :=
  ⟨List.prefix_rfl, fun _ => rfl⟩

theorem receive_eq_some {l l' : Link α} {a : α} (h : l.receive = some (a, l')) :
    ∃ rest, l.queue = a :: rest ∧ l' = { l with queue := rest, arrived := l.arrived ++ [a] } := by
  unfold receive at h
  split at h
  · cases h
  · rename_i rest hqueue
    cases h
    exact ⟨rest, hqueue, rfl⟩

namespace InOrder

variable {l l' : Link α}

theorem arrived_prefix (h : l.InOrder) : l.arrived <+: l.sent :=
  (List.prefix_append _ _).trans h.inOrder

theorem send (h : l.InOrder) (a : α) : (l.send a).InOrder := by
  unfold Link.send
  by_cases hopen : l.isOpen
  · have hall : l.arrived ++ (l.queue ++ [a]) = l.sent ++ [a] := by
      rw [← List.append_assoc, h.complete hopen]
    refine ⟨?_, fun _ => ?_⟩
    · rw [if_pos hopen]
      exact hall ▸ List.prefix_rfl
    · rw [if_pos hopen]
      exact hall
  · refine ⟨?_, fun hsome => absurd hsome hopen⟩
    rw [if_neg hopen]
    exact h.inOrder.trans (List.prefix_append _ _)

theorem receive (h : l.InOrder) {a : α} (hreceive : l.receive = some (a, l')) : l'.InOrder := by
  obtain ⟨rest, hqueue, rfl⟩ := receive_eq_some hreceive
  obtain ⟨hbegins, hcomplete⟩ := h
  rw [hqueue, List.append_cons] at hbegins hcomplete
  exact ⟨hbegins, hcomplete⟩

theorem shut (h : l.InOrder) : l.shut.InOrder :=
  ⟨h.inOrder, fun hopen => absurd hopen Bool.false_ne_true⟩

theorem lose (h : l.InOrder) : l.lose.InOrder := by
  unfold Link.lose
  by_cases hopen : l.isOpen
  · rw [if_pos hopen]
    exact h
  · rw [if_neg hopen]
    refine ⟨?_, fun hsome => absurd hsome hopen⟩
    rw [List.append_nil]
    exact h.arrived_prefix

end InOrder

/-! ### Records with an index -/

/-- What is added to a record under one index. -/
def record (log : ℕ → List α) (i : ℕ) (as : List α) : ℕ → List α :=
  Function.update log i (log i ++ as)

theorem record_self (log : ℕ → List α) (i : ℕ) (as : List α) :
    record log i as i = log i ++ as :=
  Function.update_self ..

theorem record_of_ne (log : ℕ → List α) {i j : ℕ} (hne : j ≠ i) (as : List α) :
    record log i as j = log j :=
  Function.update_of_ne hne ..

end Link
