import Mathlib.Data.List.Basic
import Mathlib.Data.Nat.Notation

/-!
# Interleaved threads

A thread is the list of the operations it has yet to do, in the order in which it does them. In one
turn the first is executed on the shared state; it may put further operations in front of the rest,
and may start new threads. Which thread has its turn next is arbitrary.
-/

namespace Threads

variable {S T C O : Type*}

structure Thread (T O : Type*) where
  owner : T
  ops : List O
  deriving DecidableEq

structure Outcome (S T O : Type*) where
  state : S
  ops : List O := []
  spawned : List (Thread T O) := []

structure World (S T O : Type*) where
  state : S
  threads : List (Thread T O) := []

namespace World

variable {w w' : World S T O} {i : ℕ} {c : C} {owner : T}

def spawn (w : World S T O) (thread : Thread T O) : World S T O :=
  { w with threads := w.threads ++ [thread] }

def advance (w : World S T O) (i : ℕ) (thread : Thread T O) (rest : List O)
    (out : Outcome S T O) : World S T O where
  state := out.state
  threads := w.threads.set i { thread with ops := out.ops ++ rest } ++ out.spawned

/-- One turn; `exec` may depend on whose thread it is and on a choice from outside. -/
def turn (exec : S → T → C → O → Option (Outcome S T O)) (w : World S T O) (i : ℕ) (c : C) :
    Option (World S T O) :=
  match w.threads[i]? with
  | none => none
  | some thread =>
      match thread.ops with
      | [] => none
      | op :: rest => (exec w.state thread.owner c op).map (w.advance i thread rest)

def pending [DecidableEq T] (w : World S T O) (owner : T) : List O :=
  (w.threads.filter (·.owner = owner)).flatMap (·.ops)

def todo (w : World S T O) : List O :=
  w.threads.flatMap (·.ops)

theorem mem_pending [DecidableEq T] {op : O} :
    op ∈ w.pending owner ↔ ∃ thread ∈ w.threads, thread.owner = owner ∧ op ∈ thread.ops := by
  simp [pending, and_assoc]

theorem mem_todo {op : O} : op ∈ w.todo ↔ ∃ thread ∈ w.threads, op ∈ thread.ops :=
  List.mem_flatMap

theorem mem_pending_spawn [DecidableEq T] {thread : Thread T O} {op : O}
    (hmem : op ∈ (w.spawn thread).pending owner) :
    op ∈ w.pending owner ∨ (thread.owner = owner ∧ op ∈ thread.ops) := by
  simp only [mem_pending, spawn, List.mem_append, List.mem_singleton] at hmem ⊢
  obtain ⟨thread, hold | rfl, howner, hop⟩ := hmem
  · exact Or.inl ⟨thread, hold, howner, hop⟩
  · exact Or.inr ⟨howner, hop⟩

@[simp]
theorem mem_todo_spawn {thread : Thread T O} {op : O} :
    op ∈ (w.spawn thread).todo ↔ op ∈ w.todo ∨ op ∈ thread.ops := by
  simp [todo, spawn]

theorem todo_spawn (thread : Thread T O) : (w.spawn thread).todo = w.todo ++ thread.ops := by
  simp [todo, spawn]

end World

/-- The thread whose turn it is, its next operation, and what that does. -/
structure Turn (exec : S → T → C → O → Option (Outcome S T O)) (w : World S T O) (i : ℕ)
    (c : C) where
  thread : Thread T O
  op : O
  rest : List O
  out : Outcome S T O
  get : w.threads[i]? = some thread
  ops : thread.ops = op :: rest
  exec : exec w.state thread.owner c op = some out

namespace Turn

variable {exec : S → T → C → O → Option (Outcome S T O)} {w w' : World S T O} {i : ℕ} {c : C}

def next (t : Turn exec w i c) : World S T O :=
  w.advance i t.thread t.rest t.out

theorem exists_of_turn (hturn : w.turn exec i c = some w') :
    ∃ t : Turn exec w i c, w' = t.next := by
  unfold World.turn at hturn
  cases hget : w.threads[i]? with
  | none => simp [hget] at hturn
  | some thread =>
      cases hops : thread.ops with
      | nil => simp [hget, hops] at hturn
      | cons op rest =>
          simp only [hget, hops, Option.map_eq_some_iff] at hturn
          obtain ⟨out, hexec, rfl⟩ := hturn
          exact ⟨⟨thread, op, rest, out, hget, hops, hexec⟩, rfl⟩

variable (t : Turn exec w i c)

@[simp]
theorem next_state : t.next.state = t.out.state := rfl

theorem out_eq {op : O} {out : Outcome S T O} (hop : t.op = op)
    (hexec : exec w.state t.thread.owner c op = some out) : t.out = out := by
  subst hop
  exact Option.some.inj (t.exec.symm.trans hexec)

theorem thread_mem : t.thread ∈ w.threads := List.mem_of_getElem? t.get

theorem op_mem : t.op ∈ t.thread.ops := by
  rw [t.ops]
  exact List.mem_cons_self

theorem op_mem_pending [DecidableEq T] : t.op ∈ w.pending t.thread.owner :=
  World.mem_pending.mpr ⟨t.thread, t.thread_mem, rfl, t.op_mem⟩

theorem op_mem_todo : t.op ∈ w.todo :=
  World.mem_todo.mpr ⟨t.thread, t.thread_mem, t.op_mem⟩

/-- What is to be done after a turn was to be done before, or the turn put it there. -/
theorem mem_pending_next [DecidableEq T] {owner : T} {op : O} (hmem : op ∈ t.next.pending owner) :
    op ∈ w.pending owner ∨ (t.thread.owner = owner ∧ op ∈ t.out.ops) ∨
      ∃ thread ∈ t.out.spawned, op ∈ thread.ops := by
  obtain ⟨thread, hthread, howner, hop⟩ := World.mem_pending.mp hmem
  rcases List.mem_append.mp hthread with hold | hnew
  · rcases List.mem_or_eq_of_mem_set hold with hold | rfl
    · exact Or.inl (World.mem_pending.mpr ⟨thread, hold, howner, hop⟩)
    · rcases List.mem_append.mp hop with hpushed | hrest
      · exact Or.inr (Or.inl ⟨howner, hpushed⟩)
      · refine Or.inl (World.mem_pending.mpr ⟨t.thread, t.thread_mem, howner, ?_⟩)
        rw [t.ops]
        exact List.mem_cons_of_mem _ hrest
  · exact Or.inr (Or.inr ⟨thread, hnew, hop⟩)

theorem mem_todo_next {op : O} (hmem : op ∈ t.next.todo) :
    op ∈ w.todo ∨ op ∈ t.out.ops ∨ ∃ thread ∈ t.out.spawned, op ∈ thread.ops := by
  classical
  obtain ⟨thread, hthread, hop⟩ := World.mem_todo.mp hmem
  rcases t.mem_pending_next (World.mem_pending.mpr ⟨thread, hthread, rfl, hop⟩)
    with hold | ⟨-, hpushed⟩ | hspawned
  · obtain ⟨old, hold, -, hop⟩ := World.mem_pending.mp hold
    exact Or.inl (World.mem_todo.mpr ⟨old, hold, hop⟩)
  · exact Or.inr (Or.inl hpushed)
  · exact Or.inr (Or.inr hspawned)

theorem mem_todo_of_pushed {op : O} (hmem : op ∈ t.out.ops) : op ∈ t.next.todo := by
  obtain ⟨hlt, -⟩ := List.getElem?_eq_some_iff.mp t.get
  refine World.mem_todo.mpr ⟨{ t.thread with ops := t.out.ops ++ t.rest }, ?_, ?_⟩
  · exact List.mem_append_left _ (List.mem_set hlt _)
  · exact List.mem_append_left _ hmem

theorem mem_todo_of_spawned {thread : Thread T O} (hspawned : thread ∈ t.out.spawned) {op : O}
    (hop : op ∈ thread.ops) : op ∈ t.next.todo :=
  World.mem_todo.mpr ⟨thread, List.mem_append_right _ hspawned, hop⟩

/-- What was to be done is still to be done, but for the operation whose turn it was. -/
theorem eq_or_mem_todo {op : O} (hmem : op ∈ w.todo) : op = t.op ∨ op ∈ t.next.todo := by
  obtain ⟨thread, hthread, hop⟩ := World.mem_todo.mp hmem
  obtain ⟨j, hj⟩ := List.mem_iff_getElem?.mp hthread
  by_cases hji : j = i
  · subst hji
    obtain rfl := Option.some.inj (t.get.symm.trans hj)
    rw [t.ops] at hop
    rcases List.mem_cons.mp hop with rfl | hrest
    · exact Or.inl rfl
    · obtain ⟨hlt, -⟩ := List.getElem?_eq_some_iff.mp t.get
      refine Or.inr (World.mem_todo.mpr ⟨{ t.thread with ops := t.out.ops ++ t.rest }, ?_, ?_⟩)
      · exact List.mem_append_left _ (List.mem_set hlt _)
      · exact List.mem_append_right _ hrest
  · refine Or.inr (World.mem_todo.mpr ⟨thread, List.mem_append_left _ ?_, hop⟩)
    refine List.mem_iff_getElem?.mpr ⟨j, ?_⟩
    rw [List.getElem?_set_ne (Ne.symm hji), hj]

/-- A turn trades its operation for what that puts in front and starts. -/
theorem todo_perm :
    (t.op :: t.next.todo).Perm (w.todo ++ t.out.ops ++ t.out.spawned.flatMap (·.ops)) := by
  obtain ⟨hlt, hget⟩ := List.getElem?_eq_some_iff.mp t.get
  have hold : w.threads = w.threads.take i ++ t.thread :: w.threads.drop (i + 1) := by
    rw [← hget, ← List.drop_eq_getElem_cons hlt, List.take_append_drop]
  have hnew : t.next.todo
      = (w.threads.take i).flatMap (·.ops) ++ ((t.out.ops ++ t.rest)
        ++ (w.threads.drop (i + 1)).flatMap (·.ops)) ++ t.out.spawned.flatMap (·.ops) := by
    simp [next, World.advance, World.todo, List.set_eq_take_append_cons_drop, hlt]
  have htodo : w.todo = (w.threads.take i).flatMap (·.ops) ++ ((t.op :: t.rest)
      ++ (w.threads.drop (i + 1)).flatMap (·.ops)) := by
    rw [World.todo, hold, List.flatMap_append, List.flatMap_cons, t.ops, ← hold]
  have hswap : (t.op :: ((w.threads.take i).flatMap (·.ops) ++ ((t.out.ops ++ t.rest)
      ++ (w.threads.drop (i + 1)).flatMap (·.ops)))).Perm (w.todo ++ t.out.ops) := by
    rw [htodo, List.append_assoc, List.append_assoc, List.cons_append, List.cons_append]
    refine List.perm_middle.symm.trans (List.Perm.append_left _ (List.Perm.cons _ ?_))
    exact List.perm_append_comm
  rw [hnew]
  exact hswap.append_right _

theorem countP_todo (p : O → Bool) :
    t.next.todo.countP p + (if p t.op then 1 else 0)
      = w.todo.countP p + t.out.ops.countP p
        + (t.out.spawned.flatMap (·.ops)).countP p := by
  rw [← List.countP_append, ← List.countP_append, ← t.todo_perm.countP_eq, List.countP_cons]

theorem count_todo {A : Type*} [DecidableEq A] (f : O → Option A) (a : A) :
    (t.next.todo.filterMap f).count a + (if f t.op = some a then 1 else 0)
      = (w.todo.filterMap f).count a + (t.out.ops.filterMap f).count a
        + ((t.out.spawned.flatMap (·.ops)).filterMap f).count a := by
  have hcount := (t.todo_perm.filterMap f).count_eq a
  rw [List.filterMap_append, List.filterMap_append, List.count_append, List.count_append] at hcount
  rw [← hcount, List.filterMap_cons]
  cases f t.op with
  | none => simp
  | some b => simp [List.count_cons]

end Turn

end Threads

theorem List.eq_of_countP_le_one {α : Type*} {p : α → Bool} {l : List α} (hle : l.countP p ≤ 1)
    {a b : α} (ha : a ∈ l) (hb : b ∈ l) (hpa : p a) (hpb : p b) : a = b := by
  rw [List.countP_eq_length_filter] at hle
  have hamem := List.mem_filter.mpr ⟨ha, hpa⟩
  have hbmem := List.mem_filter.mpr ⟨hb, hpb⟩
  cases hl : l.filter p with
  | nil =>
      rw [hl] at hamem
      cases hamem
  | cons c rest =>
      rw [hl, List.length_cons] at hle
      obtain rfl := List.length_eq_zero_iff.mp (Nat.le_zero.mp (Nat.le_of_succ_le_succ hle))
      rw [hl] at hamem hbmem
      exact (List.mem_singleton.mp hamem).trans (List.mem_singleton.mp hbmem).symm
