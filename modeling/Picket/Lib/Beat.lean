import Mathlib.Data.List.Nodup
import Mathlib.Data.List.Perm.Subperm
import Mathlib.Algebra.Order.Ring.Int
import Mathlib.Tactic.Linarith

/-!
# Jobs on a beat

A job runs once per beat, somewhere within a tolerance after the beat. What it creates on every
`p`-th beat is paced: one creation time in each such beat, none elsewhere. A job that looks back
over `p` beats recognises its own last creation when the look-back is shortened by the tolerance,
and counts a faster job's creations right without it.
-/

namespace Beat

/-- Beats are `length` apart, and a run is less than `jitter` late. -/
structure Clock where
  length : ℤ
  jitter : ℤ
  jitter_pos : 0 < jitter
  jitter_le : 2 * jitter ≤ length

variable (clock : Clock)

namespace Clock

def On (j : ℕ) (c : ℤ) : Prop :=
  clock.length * j ≤ c ∧ c < clock.length * j + clock.jitter

/-- Before anything that is looked back at, over up to `window` beats, from the first beat on. -/
def Stale (window : ℕ) (c : ℤ) : Prop :=
  c ≤ clock.length * (1 - window)

variable {clock} {window p j k : ℕ} {c now : ℤ}

theorem length_pos : 0 < clock.length := by
  have hpos := clock.jitter_pos
  have hle := clock.jitter_le
  omega

theorem length_mul_le {a b : ℤ} (hle : a ≤ b) : clock.length * a ≤ clock.length * b :=
  mul_le_mul_of_nonneg_left hle length_pos.le

theorem On.beat_eq (hj : clock.On j c) (hk : clock.On k c) : j = k := by
  have hle : ∀ {a b : ℕ}, clock.On a c → clock.On b c → a ≤ b := by
    intro a b ha hb
    by_contra hlt
    have hmul : clock.length * (b + 1) ≤ clock.length * a := length_mul_le (by omega)
    have hfits := clock.jitter_le
    have hpos := clock.jitter_pos
    rw [mul_add, mul_one] at hmul
    have hlow := ha.1
    have hhigh := hb.2
    omega
  exact le_antisymm (hle hj hk) (hle hk hj)

/-- A creation less than `p` beats old lies within the shortened look-back. -/
theorem On.recent_padded (hc : clock.On j c) (hnow : clock.On k now) (hrecent : k < j + p) :
    now - clock.length * p + clock.jitter < c := by
  have hmul : clock.length * (k + 1 - p) ≤ clock.length * j := length_mul_le (by omega)
  rw [mul_sub, mul_add, mul_one] at hmul
  have hfits := clock.jitter_le
  have hlow := hc.1
  have hhigh := hnow.2
  omega

theorem On.recent (hc : clock.On j c) (hnow : clock.On k now) (hrecent : k < j + p) :
    now - clock.length * p < c := by
  have hpadded := hc.recent_padded hnow hrecent
  have hpos := clock.jitter_pos
  omega

theorem On.not_recent_padded (hc : clock.On j c) (hnow : clock.On k now) (hold : j + p ≤ k) :
    c ≤ now - clock.length * p + clock.jitter := by
  have hmul : clock.length * j ≤ clock.length * (k - p) := length_mul_le (by omega)
  rw [mul_sub] at hmul
  have hhigh := hc.2
  have hlow := hnow.1
  omega

theorem Stale.not_recent (hstale : clock.Stale window c) (hnow : clock.On k now) (hk : 0 < k)
    (hp : p ≤ window) : c ≤ now - clock.length * p := by
  have hmul : clock.length * (1 - window) ≤ clock.length * (k - p) := length_mul_le (by omega)
  rw [mul_sub clock.length (k : ℤ)] at hmul
  have hlow := hnow.1
  unfold Stale at hstale
  omega

theorem On.not_stale (hc : clock.On j c) (hj : 0 < j) (hwindow : 0 < window) :
    ¬ clock.Stale window c := by
  intro hstale
  have hlow : clock.length * 1 ≤ clock.length * j := length_mul_le (by omega)
  have hhigh : clock.length * (1 - window) ≤ clock.length * 0 := length_mul_le (by omega)
  have hpos := clock.length_pos
  have hon := hc.1
  unfold Stale at hstale
  omega

variable (clock) in
def beatOf (c : ℤ) : ℕ :=
  (c / clock.length).toNat

theorem On.beatOf (hc : clock.On j c) : clock.beatOf c = j := by
  have hpos := clock.length_pos
  have hfits := clock.jitter_le
  have hjitter := clock.jitter_pos
  have hdiv : c / clock.length = j := by
    rw [Int.ediv_eq_iff_of_pos hpos]
    constructor
    · linarith [hc.1]
    · linarith [hc.2]
  rw [Clock.beatOf, hdiv, Int.toNat_natCast]

end Clock

/-- Creation times, one on each multiple of `p` up to beat `n`; those of the last `window` beats are
still there. -/
structure Paced (window p n : ℕ) (times : List ℤ) : Prop where
  placed : ∀ c ∈ times,
    clock.Stale window c ∨ ∃ j, 0 < j ∧ j ≤ n ∧ p ∣ j ∧ clock.On j c
  distinct : times.Pairwise fun c d => ∀ j, 0 < j → clock.On j c → ¬ clock.On j d
  kept : ∀ j, 0 < j → j ≤ n → p ∣ j → n < j + window → ∃ c ∈ times, clock.On j c

namespace Paced

variable {clock} {window p q r n k : ℕ} {times : List ℤ} {now c : ℤ}

theorem start (hwindow : 0 < window) (hstale : ∀ c ∈ times, clock.Stale window c) :
    Paced clock window p 0 times where
  placed c hc := .inl (hstale c hc)
  distinct := by
    apply List.pairwise_of_forall_mem_list
    intro c hc d _ j hj hon
    exact absurd (hstale c hc) (hon.not_stale hj hwindow)
  kept j hpos hle _ _ := absurd hpos (by omega)

theorem skip (hpaced : Paced clock window p n times) (hnot : ¬ p ∣ n + 1) :
    Paced clock window p (n + 1) times where
  placed c hc := by
    rcases hpaced.placed c hc with hstale | ⟨j, hpos, hle, hdvd, hon⟩
    · exact .inl hstale
    · exact .inr ⟨j, hpos, hle.trans n.le_succ, hdvd, hon⟩
  distinct := hpaced.distinct
  kept j hpos hle hdvd hrecent := by
    have hne : j ≠ n + 1 := fun heq => hnot (heq ▸ hdvd)
    exact hpaced.kept j hpos (by omega) hdvd (by omega)

theorem create (hpaced : Paced clock window p n times) (hwindow : 0 < window) (hdvd : p ∣ n + 1)
    (hc : clock.On (n + 1) c) : Paced clock window p (n + 1) (times ++ [c]) where
  placed d hd := by
    rcases List.mem_append.mp hd with hold | hnew
    · rcases hpaced.placed d hold with hstale | ⟨j, hpos, hle, hdvd, hon⟩
      · exact .inl hstale
      · exact .inr ⟨j, hpos, hle.trans n.le_succ, hdvd, hon⟩
    · rw [List.mem_singleton] at hnew
      exact .inr ⟨n + 1, n.succ_pos, le_rfl, hdvd, hnew ▸ hc⟩
  distinct := by
    rw [List.pairwise_append]
    refine ⟨hpaced.distinct, List.pairwise_singleton _ c, fun d hd e he j hj hdj hej => ?_⟩
    rw [List.mem_singleton] at he
    subst he
    obtain rfl := hej.beat_eq hc
    rcases hpaced.placed d hd with hstale | ⟨i, _, hle, _, hdi⟩
    · exact hdj.not_stale hj hwindow hstale
    · exact absurd (hdj.beat_eq hdi) (by omega)
  kept j hpos hle hdvd hrecent := by
    rcases Nat.lt_or_eq_of_le hle with hlt | rfl
    · obtain ⟨d, hd, hon⟩ := hpaced.kept j hpos (by omega) hdvd (by omega)
      exact ⟨d, List.mem_append_left _ hd, hon⟩
    · exact ⟨c, List.mem_append_right _ (List.mem_singleton_self c), hc⟩

theorem filter (hpaced : Paced clock window p n times) (keep : ℤ → Bool)
    (hkeep : ∀ j c, clock.On j c → n < j + window → keep c = true) :
    Paced clock window p n (times.filter keep) where
  placed c hc := hpaced.placed c (List.mem_of_mem_filter hc)
  distinct := hpaced.distinct.filter keep
  kept j hpos hle hdvd hrecent := by
    obtain ⟨c, hc, hon⟩ := hpaced.kept j hpos hle hdvd hrecent
    exact ⟨c, List.mem_filter.mpr ⟨hc, hkeep j c hon hrecent⟩, hon⟩

/-- **The own last creation.** On beat `n + 1` the shortened look-back over `p` beats finds nothing
exactly when the next creation is due, or nothing has been created yet. -/
theorem exists_recent_iff (hpaced : Paced clock window p n times) (hp : 0 < p)
    (hwindow : p ≤ window) (hnow : clock.On (n + 1) now) :
    (∃ c ∈ times, now - clock.length * p + clock.jitter < c) ↔ ¬ p ∣ n + 1 ∧ p < n + 1 := by
  constructor
  · rintro ⟨c, hc, hrecent⟩
    rcases hpaced.placed c hc with hstale | ⟨j, hpos, hle, hdvd, hon⟩
    · have hold := hstale.not_recent hnow n.succ_pos hwindow
      have hjitter := clock.jitter_pos
      exact absurd hrecent (by omega)
    · have hyoung : n + 1 < j + p := by
        by_contra hlt
        exact absurd (hon.not_recent_padded (p := p) hnow (by omega)) (by omega)
      constructor
      · intro hdue
        have hgap : p ∣ n + 1 - j := Nat.dvd_sub hdue hdvd
        exact absurd (Nat.le_of_dvd (by omega) hgap) (by omega)
      · have := Nat.le_of_dvd hpos hdvd
        omega
  · rintro ⟨hnot, hlt⟩
    -- the last multiple of `p`
    have hmod := Nat.div_add_mod (n + 1) p
    have hmodlt := Nat.mod_lt (n + 1) hp
    have hmodpos : 0 < (n + 1) % p :=
      Nat.pos_of_ne_zero fun hzero => hnot (Nat.dvd_of_mod_eq_zero hzero)
    have hdivpos : 0 < p * ((n + 1) / p) := Nat.mul_pos hp (Nat.div_pos hlt.le hp)
    obtain ⟨c, hc, hon⟩ :=
      hpaced.kept (p * ((n + 1) / p)) hdivpos (by omega) (Nat.dvd_mul_right _ _) (by omega)
    exact ⟨c, hc, hon.recent_padded hnow (by omega)⟩

/-- **A faster job's creations.** The look-back over `q * r` beats finds at least `q` of the
creations made every `r` beats when `q * r` divides the beat, and fewer before that many beats. -/
theorem le_count_recent (hpaced : Paced clock window r k times) (hr : 0 < r) (hk : 0 < k)
    (hwindow : q * r ≤ window) (hdvd : q * r ∣ k) (hnow : clock.On k now) :
    q ≤ times.countP fun c => now - clock.length * (q * r : ℕ) < c := by
  have hle : q * r ≤ k := Nat.le_of_dvd hk hdvd
  -- one creation for each of the last `q` multiples of `r`
  have hpick : ∀ i : Fin q, ∃ c ∈ times,
      now - clock.length * (q * r : ℕ) < c ∧ clock.On (k - i * r) c := by
    intro i
    have hstep : (i + 1) * r ≤ q * r := Nat.mul_le_mul_right r i.isLt
    rw [Nat.add_mul, Nat.one_mul] at hstep
    have hmultiple : r ∣ k - i * r :=
      Nat.dvd_sub ((Nat.dvd_mul_left r q).trans hdvd) (Nat.dvd_mul_left r i)
    obtain ⟨c, hc, hon⟩ := hpaced.kept (k - i * r) (by omega) (by omega) hmultiple (by omega)
    exact ⟨c, hc, hon.recent hnow (by omega), hon⟩
  choose f hmem hrecent hon using hpick
  have hinj : Function.Injective f := by
    intro i i' heq
    have hstep : ∀ i : Fin q, i * r < q * r := fun i => Nat.mul_lt_mul_of_pos_right i.isLt hr
    have hbeat := (hon i).beat_eq (heq ▸ hon i')
    have hmul : i * r = (i' : ℕ) * r := by
      have hi := hstep i
      have hi' := hstep i'
      omega
    exact Fin.ext (Nat.eq_of_mul_eq_mul_right hr hmul)
  have hsubset : (List.finRange q).map f
      ⊆ times.filter fun c => now - clock.length * (q * r : ℕ) < c := by
    intro c hc
    obtain ⟨i, -, rfl⟩ := List.mem_map.mp hc
    exact List.mem_filter.mpr ⟨hmem i, decide_eq_true (hrecent i)⟩
  have hlength := (((List.nodup_finRange q).map hinj).subperm hsubset).length_le
  rwa [List.length_map, List.length_finRange, ← List.countP_eq_length_filter] at hlength

theorem count_recent_lt (hpaced : Paced clock window r k times) (hk : 0 < k)
    (hwindow : q * r ≤ window) (hlt : k < q * r) (hnow : clock.On k now) :
    (times.countP fun c => now - clock.length * (q * r : ℕ) < c) < q := by
  set recent := times.filter fun c => now - clock.length * (q * r : ℕ) < c with hrecent
  have hplaced : ∀ c ∈ recent, ∃ j, 0 < j ∧ j ≤ k ∧ r ∣ j ∧ clock.On j c := by
    intro c hc
    obtain ⟨hmem, hyoung⟩ := List.mem_filter.mp hc
    rcases hpaced.placed c hmem with hstale | hplace
    · exact absurd (hstale.not_recent hnow hk hwindow) (not_le.mpr (of_decide_eq_true hyoung))
    · exact hplace
  have hnodup : (recent.map clock.beatOf).Nodup := by
    have hpairwise := (hpaced.distinct.filter fun c => now - clock.length * (q * r : ℕ) < c)
    rw [← hrecent] at hpairwise
    rw [List.Nodup, List.pairwise_map]
    refine hpairwise.imp_of_mem fun {c d} hc hd hapart heq => ?_
    obtain ⟨j, hj, -, -, hjc⟩ := hplaced c hc
    obtain ⟨j', -, -, -, hjd⟩ := hplaced d hd
    rw [hjc.beatOf, hjd.beatOf] at heq
    exact hapart j hj hjc (heq ▸ hjd)
  have hsubset : recent.map clock.beatOf ⊆ (List.range (q - 1)).map fun i => (i + 1) * r := by
    intro j hj
    obtain ⟨c, hc, rfl⟩ := List.mem_map.mp hj
    obtain ⟨j, hpos, hle, ⟨m, rfl⟩, hon⟩ := hplaced c hc
    have hm : m < q := by
      by_contra hge
      have := Nat.mul_le_mul_left r (not_lt.mp hge)
      rw [Nat.mul_comm r q] at this
      omega
    have hm0 : 0 < m := Nat.pos_of_mul_pos_left hpos
    rw [hon.beatOf, List.mem_map]
    exact ⟨m - 1, List.mem_range.mpr (by omega), by rw [Nat.sub_add_cancel hm0, Nat.mul_comm]⟩
  have hlength := (hnodup.subperm hsubset).length_le
  rw [List.length_map, List.length_map, List.length_range, hrecent,
    ← List.countP_eq_length_filter] at hlength
  have hq : 0 < q := Nat.pos_of_mul_pos_right (Nat.zero_lt_of_lt hlt)
  omega

end Paced

end Beat
