import Mathlib.Data.List.Basic

/-!
# Runs of a guarded transition function

A system is a partial step function: `step s e` is the state after event `e`, or nothing where the
event cannot happen. A condition on steps restricts the runs; what every such step preserves holds
in every state such a run reaches.
-/

namespace Transition

variable {S E : Type*} (step : S → E → Option S)

/-- The state after the events, if they can all happen. -/
def run : S → List E → Option S
  | s, [] => some s
  | s, e :: es => (step s e).bind fun t => run t es

theorem run_cons (s : S) (e : E) (es : List E) :
    run step s (e :: es) = (step s e).bind fun t => run step t es := rfl

/-- A run all of whose steps meet a condition. -/
inductive Guarded (guard : S → E → Prop) : S → List E → S → Prop where
  | nil (s : S) : Guarded guard s [] s
  | cons {s t u : S} {e : E} {es : List E} (hguard : guard s e) (hstep : step s e = some t)
      (htail : Guarded guard t es u) : Guarded guard s (e :: es) u

variable {step} {guard : S → E → Prop}

/-- **The invariant rule.** What holds at the start and is kept by every step that meets the
condition holds in every state reached by such steps. -/
theorem Guarded.invariant {Inv : S → Prop} {s t : S} {es : List E}
    (hrun : Guarded step guard s es t)
    (hstep : ∀ s e t, Inv s → guard s e → step s e = some t → Inv t) (hstart : Inv s) : Inv t := by
  induction hrun with
  | nil => exact hstart
  | cons hguard hnext _ ih => exact ih (hstep _ _ _ hstart hguard hnext)

/-- Events that can always happen. -/
theorem run_total (next : S → E → S) (s : S) (es : List E) :
    run (fun s e => some (next s e)) s es = some (es.foldl next s) := by
  induction es generalizing s with
  | nil => rfl
  | cons e es ih => rw [run_cons, Option.bind_some, ih, List.foldl_cons]

theorem guarded_of_run {s t : S} {es : List E} (hrun : run step s es = some t) :
    Guarded step (fun _ _ => True) s es t := by
  induction es generalizing s with
  | nil =>
      obtain rfl := Option.some.inj hrun
      exact .nil s
  | cons e es ih =>
      rw [run_cons, Option.bind_eq_some_iff] at hrun
      obtain ⟨u, hstep, htail⟩ := hrun
      exact .cons trivial hstep (ih htail)

theorem Guarded.run_eq {s t : S} {es : List E} (hrun : Guarded step guard s es t) :
    run step s es = some t := by
  induction hrun with
  | nil => rfl
  | cons _ hnext _ ih => rw [run_cons, hnext, Option.bind_some, ih]

theorem Guarded.append {s t u : S} {es fs : List E} (hfirst : Guarded step guard s es t)
    (hlast : Guarded step guard t fs u) : Guarded step guard s (es ++ fs) u := by
  induction hfirst with
  | nil => exact hlast
  | cons hguard hstep _ ih => exact .cons hguard hstep (ih hlast)

/-- A run of some events and then others passes through a state in the middle. -/
theorem Guarded.of_append {s t : S} {es fs : List E} (hrun : Guarded step guard s (es ++ fs) t) :
    ∃ u, Guarded step guard s es u ∧ Guarded step guard u fs t := by
  induction es generalizing s with
  | nil => exact ⟨s, .nil s, hrun⟩
  | cons e es ih =>
      cases hrun with
      | cons hguard hnext hrest =>
          obtain ⟨u, hfirst, hlast⟩ := ih hrest
          exact ⟨u, .cons hguard hnext hfirst, hlast⟩

/-- A condition under which a step keeps a property, and without which it breaks it, holds at every
step of exactly those runs that have the property throughout. `Inv` is what is known of a state that
is reached with the property. -/
theorem guarded_iff_throughout (Inv : S → Prop) {P : S → Prop}
    (hproperty : ∀ s, Inv s → P s)
    (hguard : ∀ s e t, Inv s → step s e = some t → (guard s e ↔ P t))
    (hstep : ∀ s e t, Inv s → step s e = some t → P t → Inv t)
    {s t : S} {es : List E} (hstart : Inv s) (hrun : run step s es = some t) :
    Guarded step guard s es t ↔
      ∀ before u, before <+: es → run step s before = some u → P u := by
  induction es generalizing s with
  | nil =>
      obtain rfl := Option.some.inj hrun
      refine iff_of_true (.nil s) fun before u hprefix hbefore => ?_
      rw [List.prefix_nil.mp hprefix] at hbefore
      obtain rfl := Option.some.inj hbefore
      exact hproperty s hstart
  | cons e es ih =>
      rw [run_cons, Option.bind_eq_some_iff] at hrun
      obtain ⟨v, hnext, htail⟩ := hrun
      constructor
      · rintro (_ | ⟨hmeets, hnext', hrest⟩) before u hprefix hbefore
        obtain rfl := Option.some.inj (hnext.symm.trans hnext')
        have hv := (hguard s e v hstart hnext).mp hmeets
        cases before with
        | nil =>
            obtain rfl := Option.some.inj hbefore
            exact hproperty s hstart
        | cons e' before =>
            obtain ⟨rfl, hshorter⟩ := List.cons_prefix_cons.mp hprefix
            rw [run_cons, hnext, Option.bind_some] at hbefore
            exact (ih (hstep s e' v hstart hnext hv) htail).mp hrest before u hshorter hbefore
      · intro hall
        have hv : P v := by
          refine hall [e] v (List.cons_prefix_cons.mpr ⟨rfl, List.nil_prefix⟩) ?_
          rw [run_cons, hnext]
          rfl
        refine .cons ((hguard s e v hstart hnext).mpr hv) hnext ?_
        refine (ih (hstep s e v hstart hnext hv) htail).mpr fun before u hprefix hbefore => ?_
        refine hall (e :: before) u (List.cons_prefix_cons.mpr ⟨rfl, hprefix⟩) ?_
        rwa [run_cons, hnext, Option.bind_some]

/-- A property of what has happened so far, which a step adds its condition to, holds at the end of
exactly the runs that meet the condition at every step. `Inv` is what is known of every state. -/
theorem iff_guarded_of_invariant_step (Inv : S → Prop) {P : S → Prop}
    (hinv : ∀ s e t, Inv s → step s e = some t → Inv t)
    (hstep : ∀ s e t, Inv s → step s e = some t → (P t ↔ P s ∧ guard s e))
    {s t : S} {es : List E} (hstart : Inv s) (hrun : run step s es = some t) :
    P t ↔ P s ∧ Guarded step guard s es t := by
  induction es generalizing s with
  | nil =>
      obtain rfl := Option.some.inj hrun
      exact (and_iff_left (.nil s)).symm
  | cons e es ih =>
      rw [run_cons, Option.bind_eq_some_iff] at hrun
      obtain ⟨u, hnext, htail⟩ := hrun
      rw [ih (hinv s e u hstart hnext) htail, hstep s e u hstart hnext, and_assoc]
      refine and_congr_right fun _ => ⟨fun h => .cons h.1 hnext h.2, ?_⟩
      rintro (_ | ⟨hguard, hnext', hrest⟩)
      obtain rfl := Option.some.inj (hnext.symm.trans hnext')
      exact ⟨hguard, hrest⟩

theorem iff_guarded_of_step {P : S → Prop}
    (hstep : ∀ s e t, step s e = some t → (P t ↔ P s ∧ guard s e))
    {s t : S} {es : List E} (hrun : run step s es = some t) :
    P t ↔ P s ∧ Guarded step guard s es t :=
  iff_guarded_of_invariant_step (fun _ => True) (fun _ _ _ _ _ => trivial)
    (fun s e t _ => hstep s e t) trivial hrun

/-- A condition that can be checked can be checked along a run. -/
def check (step : S → E → Option S) (guard : S → E → Prop) [∀ s e, Decidable (guard s e)] :
    S → List E → Option S
  | s, [] => some s
  | s, e :: es => if guard s e then (step s e).bind fun t => check step guard t es else none

theorem guarded_of_check [∀ s e, Decidable (guard s e)] {s t : S} {es : List E}
    (hcheck : check step guard s es = some t) : Guarded step guard s es t := by
  induction es generalizing s with
  | nil =>
      obtain rfl := Option.some.inj hcheck
      exact .nil s
  | cons e es ih =>
      rw [check, Option.ite_none_right_eq_some, Option.bind_eq_some_iff] at hcheck
      obtain ⟨hguard, u, hstep, htail⟩ := hcheck
      exact .cons hguard hstep (ih htail)

section Each

variable {I : Type*} [DecidableEq I] (step)

/-- Many systems side by side; an event is one of one of them. -/
def each (s : I → S) (e : I × E) : Option (I → S) :=
  (step (s e.1) e.2).map (Function.update s e.1)

variable {step}

theorem Guarded.component {s t : I → S} {es : List (I × E)}
    (hrun : Guarded (each step) (fun s e => guard (s e.1) e.2) s es t) (i : I) :
    ∃ fs, Guarded step guard (s i) fs (t i) := by
  induction hrun with
  | nil => exact ⟨[], .nil _⟩
  | @cons s t u e es hguard hstep _ ih =>
      obtain ⟨fs, hrest⟩ := ih
      obtain ⟨v, hnext, rfl⟩ := Option.map_eq_some_iff.mp hstep
      by_cases hi : i = e.1
      · subst hi
        rw [Function.update_self] at hrest
        exact ⟨e.2 :: fs, .cons hguard hnext hrest⟩
      · rw [Function.update_of_ne hi] at hrest
        exact ⟨fs, hrest⟩

theorem Guarded.each (s : I → S) (i : I) {t : S} {es : List E}
    (hrun : Guarded step guard (s i) es t) :
    Guarded (each step) (fun s e => guard (s e.1) e.2) s (es.map (Prod.mk i))
      (Function.update s i t) := by
  generalize hu : s i = u at hrun
  induction hrun generalizing s with
  | nil u =>
      rw [← hu, Function.update_eq_self]
      exact .nil s
  | @cons u v t e es hguard hstep _ ih =>
      subst hu
      have hrest := ih (Function.update s i v) (Function.update_self i v s)
      rw [Function.update_idem] at hrest
      exact .cons hguard (Option.map_eq_some_iff.mpr ⟨v, hstep, rfl⟩) hrest

theorem run_each (s : I → S) (i : I) {t : S} {es : List E} (hrun : run step (s i) es = some t) :
    run (Transition.each step) s (es.map (Prod.mk i)) = some (Function.update s i t) := by
  induction es generalizing s with
  | nil =>
      obtain rfl := Option.some.inj hrun
      rw [Function.update_eq_self]
      rfl
  | cons e es ih =>
      rw [run_cons, Option.bind_eq_some_iff] at hrun
      obtain ⟨v, hstep, hrest⟩ := hrun
      have htail := ih (Function.update s i v) (by rwa [Function.update_self])
      rw [Function.update_idem] at htail
      rw [List.map_cons, run_cons, Transition.each, hstep, Option.map_some, Option.bind_some, htail]

end Each

end Transition
