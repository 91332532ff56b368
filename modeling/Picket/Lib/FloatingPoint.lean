import Mathlib.Data.Int.Log
import Mathlib.Data.Prod.Lex
import Mathlib.Data.Rat.Floor
import Mathlib.Tactic.Linarith

/-!
# Binary floating point

Values are rational numbers, the two infinities and a NaN, and zero has no sign. An operation
computes its exact result, which is then rounded to a format: to the nearest number of the format,
ties to even, gradually near zero and to infinity beyond the largest. What a format holds already is
its own rounding, and nothing that is not small becomes zero.
-/

namespace FloatingPoint

/-! ### Values -/

inductive Value where
  | nan
  | inf (negative : Bool)
  | finite (x : ℚ)

namespace Value

/-- From the NaN, which is put below all numbers, to positive infinity. -/
def rank : Value → ℕ ×ₗ ℚ
  | nan => toLex (0, 0)
  | inf true => toLex (1, 0)
  | finite x => toLex (2, x)
  | inf false => toLex (3, 0)

theorem rank_injective : Function.Injective rank := by
  rintro (_ | (_ | _) | x) (_ | (_ | _) | y) h <;> simp_all [rank]

instance : LinearOrder Value :=
  LinearOrder.lift' rank rank_injective

instance : Coe ℚ Value := ⟨finite⟩

instance : Zero Value := ⟨finite 0⟩

theorem zero_def : (0 : Value) = finite 0 := rfl

theorem finite_le_finite {x y : ℚ} : finite x ≤ finite y ↔ x ≤ y := by
  change rank (finite x) ≤ rank (finite y) ↔ x ≤ y
  simp [rank, Prod.Lex.toLex_le_toLex]

theorem finite_lt_finite {x y : ℚ} : finite x < finite y ↔ x < y := by
  rw [← not_le, finite_le_finite, not_le]

theorem nan_le (v : Value) : nan ≤ v := by
  change rank nan ≤ rank v
  rcases v with _ | (_ | _) | x <;> simp [rank, Prod.Lex.toLex_le_toLex]

/-- Nothing is above a number but the larger ones and positive infinity. -/
theorem finite_le_iff {x : ℚ} {v : Value} :
    finite x ≤ v ↔ v = inf false ∨ ∃ y, v = finite y ∧ x ≤ y := by
  rcases v with _ | (_ | _) | y
  · refine iff_of_false ?_ (by simp)
    change ¬ rank (finite x) ≤ rank nan
    simp [rank, Prod.Lex.toLex_le_toLex]
  · refine iff_of_true ?_ (Or.inl rfl)
    change rank (finite x) ≤ rank (inf false)
    simp [rank, Prod.Lex.toLex_le_toLex]
  · refine iff_of_false ?_ (by simp)
    change ¬ rank (finite x) ≤ rank (inf true)
    simp [rank, Prod.Lex.toLex_le_toLex]
  · simp [finite_le_finite]

/-! ### Comparisons -/

/-- `x <= y`, which does not hold for a NaN. -/
def le (x y : Value) : Bool :=
  x ≠ nan && y ≠ nan && x ≤ y

/-- `x < y`. -/
def lt (x y : Value) : Bool :=
  x ≠ nan && y ≠ nan && x < y

theorem le_finite_iff {v : Value} (hv : v ≠ nan) {x : ℚ} : v.le (finite x) ↔ v ≤ finite x := by
  simp [le, hv]

/-! ### Exact operations -/

def add : Value → Value → Value
  | nan, _ | _, nan => nan
  | inf s, inf t => if s = t then inf s else nan
  | inf s, finite _ | finite _, inf s => inf s
  | finite x, finite y => finite (x + y)

def mul : Value → Value → Value
  | nan, _ | _, nan => nan
  | inf s, inf t => inf (xor s t)
  | inf s, finite x | finite x, inf s => if x = 0 then nan else inf (xor s (x < 0))
  | finite x, finite y => finite (x * y)

def div : Value → Value → Value
  | nan, _ | _, nan | inf _, inf _ => nan
  | inf s, finite y => inf (xor s (y < 0))
  | finite _, inf _ => finite 0
  | finite x, finite y =>
      if y = 0 then if x = 0 then nan else inf (x < 0) else finite (x / y)

instance : Add Value := ⟨add⟩

instance : Mul Value := ⟨mul⟩

instance : Div Value := ⟨div⟩

theorem finite_add (x y : ℚ) : finite x + finite y = finite (x + y) := rfl

theorem finite_div {x y : ℚ} (hy : y ≠ 0) : finite x / finite y = finite (x / y) :=
  if_neg hy

instance : AddZeroClass Value where
  zero_add v := by
    rcases v with _ | s | x
    · rfl
    · rfl
    · exact congrArg finite (zero_add x)
  add_zero v := by
    rcases v with _ | s | x
    · rfl
    · rfl
    · exact congrArg finite (add_zero x)

end Value

/-! ### Rounding to an integer -/

/-- The nearest integer, ties to even. -/
def roundHalfEven (x : ℚ) : ℤ :=
  if x - ⌊x⌋ < 1 / 2 ∨ x - ⌊x⌋ = 1 / 2 ∧ Even ⌊x⌋ then ⌊x⌋ else ⌊x⌋ + 1

theorem le_roundHalfEven {n : ℤ} {x : ℚ} (h : (n : ℚ) ≤ x) : n ≤ roundHalfEven x := by
  have hfloor : n ≤ ⌊x⌋ := Int.le_floor.mpr h
  unfold roundHalfEven
  split <;> omega

theorem roundHalfEven_le {n : ℤ} {x : ℚ} (h : x ≤ n) : roundHalfEven x ≤ n := by
  have hle : ⌊x⌋ ≤ n := Int.floor_le_iff.mpr (by linarith)
  unfold roundHalfEven
  split
  · exact hle
  · rename_i hfrac
    rw [not_or, not_lt] at hfrac
    have hlt : (⌊x⌋ : ℚ) < n := by linarith [hfrac.1]
    exact Int.add_one_le_iff.mpr (by exact_mod_cast hlt)

@[simp]
theorem roundHalfEven_intCast (n : ℤ) : roundHalfEven (n : ℚ) = n :=
  le_antisymm (roundHalfEven_le le_rfl) (le_roundHalfEven le_rfl)

/-! ### Rounding to a format -/

/-- Numbers are integers of at most `precision` bits times a power of two from `2 ^ minExp` on, and
are below `2 ^ maxExp`. -/
structure Format where
  precision : ℕ
  minExp : ℤ
  maxExp : ℤ
  precision_pos : 0 < precision

def float32 : Format where
  precision := 24
  minExp := -149
  maxExp := 128
  precision_pos := by decide

def float64 : Format where
  precision := 53
  minExp := -1074
  maxExp := 1024
  precision_pos := by decide

namespace Format

variable (fmt : Format)

/-- The exponent of the last place of a number. -/
def exponent (x : ℚ) : ℤ :=
  max (Int.log 2 |x| - (fmt.precision - 1)) fmt.minExp

def nearest (x : ℚ) : ℚ :=
  roundHalfEven (x / 2 ^ fmt.exponent x) * 2 ^ fmt.exponent x

def round : Value → Value
  | .finite x =>
      if 2 ^ fmt.maxExp ≤ |fmt.nearest x| then .inf (x < 0) else .finite (fmt.nearest x)
  | v => v

def Representable (x : ℚ) : Prop :=
  ∃ n e : ℤ, x = n * 2 ^ e ∧ |n| < 2 ^ fmt.precision ∧ fmt.minExp ≤ e

/-- `x` is a number of the format. -/
structure Holds (x : ℚ) : Prop where
  representable : fmt.Representable x
  lt_maxExp : |x| < 2 ^ fmt.maxExp

variable {fmt} {x : ℚ}

theorem minExp_le_exponent : fmt.minExp ≤ fmt.exponent x :=
  le_max_right _ _

theorem abs_lt_zpow_exponent (x : ℚ) : |x| < 2 ^ (fmt.exponent x + fmt.precision) := by
  refine (Int.lt_zpow_succ_log_self (by norm_num : 1 < 2) |x|).trans_le ?_
  have hle := le_max_left (Int.log 2 |x| - (fmt.precision - 1)) fmt.minExp
  exact zpow_le_zpow_right₀ (by norm_num) (by rw [exponent]; omega)

/-- A number that is small for its last place is at the bottom of the format. -/
theorem exponent_eq_or (hx : x ≠ 0) :
    fmt.exponent x = fmt.minExp ∨ 2 ^ (fmt.exponent x + fmt.precision - 1) ≤ |x| := by
  rcases max_choice (Int.log 2 |x| - (fmt.precision - 1)) fmt.minExp with hmax | hmax
  · have hexp : fmt.exponent x + fmt.precision - 1 = Int.log 2 |x| := by
      rw [exponent, hmax]
      omega
    refine Or.inr ?_
    rw [hexp]
    exact_mod_cast Int.zpow_log_le_self (b := 2) (by norm_num) (abs_pos.mpr hx)
  · exact Or.inl hmax

/-- The last place of a number of the format is one that it has. -/
theorem exponent_le_of_representable {n e : ℤ} (hx : x = n * 2 ^ e) (hne : x ≠ 0)
    (hn : |n| < 2 ^ fmt.precision) (he : fmt.minExp ≤ e) : fmt.exponent x ≤ e := by
  obtain hmin | hlarge : fmt.exponent x = fmt.minExp ∨ _ := exponent_eq_or hne
  · rwa [hmin]
  · have hn' : |(n : ℚ)| < 2 ^ (fmt.precision : ℤ) := by
      rw [zpow_natCast]
      exact_mod_cast hn
    have habs : |x| < 2 ^ (e + fmt.precision) := by
      rw [hx, abs_mul, abs_of_pos (zpow_pos (by norm_num : (0 : ℚ) < 2) e), mul_comm,
        zpow_add₀ (by norm_num : (2 : ℚ) ≠ 0)]
      exact mul_lt_mul_of_pos_left hn' (zpow_pos (by norm_num) e)
    have hlt := (zpow_lt_zpow_iff_right₀ (by norm_num : (1 : ℚ) < 2)).mp (hlarge.trans_lt habs)
    omega

/-- A number of the format is its own rounding. -/
theorem nearest_of_representable (h : fmt.Representable x) : fmt.nearest x = x := by
  by_cases hzero : x = 0
  · simp [nearest, hzero, roundHalfEven]
  · obtain ⟨n, e, hx, hn, he⟩ := h
    have hle := exponent_le_of_representable hx hzero hn he
    have htwo : (2 : ℚ) ^ fmt.exponent x ≠ 0 := zpow_ne_zero _ (by norm_num)
    have hint : x / 2 ^ fmt.exponent x = (n * 2 ^ (e - fmt.exponent x).toNat : ℤ) := by
      rw [div_eq_iff htwo, Int.cast_mul, Int.cast_pow, Int.cast_ofNat, ← zpow_natCast,
        Int.toNat_of_nonneg (by omega), mul_assoc, ← zpow_add₀ (by norm_num), sub_add_cancel]
      exact hx
    rw [nearest, hint, roundHalfEven_intCast, ← hint, div_mul_cancel₀ x htwo]

theorem representable_nearest (x : ℚ) : fmt.Representable (fmt.nearest x) := by
  have htwo : (0 : ℚ) < 2 ^ fmt.exponent x := zpow_pos (by norm_num) _
  have hbound : |x / 2 ^ fmt.exponent x| ≤ ((2 ^ fmt.precision : ℤ) : ℚ) := by
    rw [abs_div, abs_of_pos htwo, div_le_iff₀ htwo, mul_comm, Int.cast_pow, Int.cast_ofNat,
      ← zpow_natCast, ← zpow_add₀ (by norm_num)]
    exact (abs_lt_zpow_exponent x).le
  obtain ⟨hlow, hhigh⟩ := abs_le.mp hbound
  have hrounded : |roundHalfEven (x / 2 ^ fmt.exponent x)| ≤ 2 ^ fmt.precision :=
    abs_le.mpr ⟨le_roundHalfEven (by exact_mod_cast hlow), roundHalfEven_le hhigh⟩
  rcases hrounded.lt_or_eq with hlt | heq
  · exact ⟨_, _, rfl, hlt, minExp_le_exponent⟩
  · -- it has been rounded to a power of two
    obtain ⟨k, hk⟩ := Nat.exists_eq_add_of_lt fmt.precision_pos
    have hpow : (2 : ℤ) ^ fmt.precision = 2 ^ k * 2 := by
      rw [hk, Nat.zero_add, pow_succ]
    have hsmall : (2 : ℤ) ^ k < 2 ^ fmt.precision := by
      rw [hpow]
      linarith [pow_pos (by norm_num : (0 : ℤ) < 2) k]
    rw [hpow] at heq
    rcases eq_or_eq_neg_of_abs_eq heq with hn | hn
    · refine ⟨2 ^ k, fmt.exponent x + 1, ?_, by rwa [abs_of_pos (by positivity)], ?_⟩
      · rw [nearest, hn, zpow_add_one₀ (by norm_num)]
        push_cast
        ring
      · exact Int.le_add_one minExp_le_exponent
    · refine ⟨-2 ^ k, fmt.exponent x + 1, ?_, ?_, ?_⟩
      · rw [nearest, hn, zpow_add_one₀ (by norm_num)]
        push_cast
        ring
      · rwa [abs_neg, abs_of_pos (by positivity)]
      · exact Int.le_add_one minExp_le_exponent

theorem round_round (v : Value) : fmt.round (fmt.round v) = fmt.round v := by
  rcases v with _ | s | x
  · rfl
  · rfl
  · rw [round]
    split
    · rfl
    · rename_i hsmall
      rw [round, nearest_of_representable (representable_nearest x), if_neg hsmall]

theorem round_of_holds (h : fmt.Holds x) : fmt.round (.finite x) = .finite x := by
  rw [round, nearest_of_representable h.representable, if_neg h.lt_maxExp.not_ge]

@[simp]
theorem round_zero : fmt.round 0 = 0 :=
  round_of_holds ⟨⟨0, fmt.minExp, by simp, by simp, le_rfl⟩, by simp [zpow_pos]⟩

/-- A power of two of the format stays below what it was below. -/
theorem le_round {k : ℤ} (hk : fmt.minExp ≤ k) (hx : 2 ^ k ≤ x) :
    Value.finite (2 ^ k) ≤ fmt.round (.finite x) := by
  have hpos : 0 < x := (zpow_pos (by norm_num) k).trans_le hx
  have htwo : (0 : ℚ) < 2 ^ fmt.exponent x := zpow_pos (by norm_num) _
  have hnearest : 2 ^ k ≤ fmt.nearest x := by
    rcases le_or_gt (fmt.exponent x) k with hle | hlt
    · have hint : ((2 ^ (k - fmt.exponent x).toNat : ℤ) : ℚ) ≤ x / 2 ^ fmt.exponent x := by
        rw [le_div_iff₀ htwo, Int.cast_pow, Int.cast_ofNat, ← zpow_natCast,
          Int.toNat_of_nonneg (by omega), ← zpow_add₀ (by norm_num), sub_add_cancel]
        exact hx
      have hrounded : ((2 ^ (k - fmt.exponent x).toNat : ℤ) : ℚ) ≤
          roundHalfEven (x / 2 ^ fmt.exponent x) := by
        exact_mod_cast le_roundHalfEven hint
      refine le_trans (le_of_eq ?_) (mul_le_mul_of_nonneg_right hrounded htwo.le)
      rw [Int.cast_pow, Int.cast_ofNat, ← zpow_natCast, Int.toNat_of_nonneg (by omega),
        ← zpow_add₀ (by norm_num), sub_add_cancel]
    · -- the last place of a number is never above the number
      have hlarge : 2 ^ fmt.exponent x ≤ x := by
        obtain hmin | hlarge : fmt.exponent x = fmt.minExp ∨ _ := exponent_eq_or hpos.ne'
        · omega
        · rw [abs_of_pos hpos] at hlarge
          have hprecision := fmt.precision_pos
          exact (zpow_le_zpow_right₀ (by norm_num) (by omega)).trans hlarge
      have hone : ((1 : ℤ) : ℚ) ≤ roundHalfEven (x / 2 ^ fmt.exponent x) := by
        have hdiv : ((1 : ℤ) : ℚ) ≤ x / 2 ^ fmt.exponent x := by
          rw [Int.cast_one, le_div_iff₀ htwo, one_mul]
          exact hlarge
        exact_mod_cast le_roundHalfEven hdiv
      refine (zpow_le_zpow_right₀ (by norm_num) hlt.le).trans ?_
      rw [nearest]
      nlinarith
  rw [round, Value.finite_le_iff]
  split
  · rw [decide_eq_false hpos.not_gt]
    exact Or.inl rfl
  · exact Or.inr ⟨_, rfl, hnearest⟩

end Format

/-! ### Arithmetic -/

/-- What is done to the results of operations on `float64` and `float32`. -/
structure Arithmetic where
  double : Value → Value
  single : Value → Value

def Arithmetic.ieee : Arithmetic where
  double := float64.round
  single := float32.round

/-- Nothing is rounded. -/
def Arithmetic.unrounded : Arithmetic where
  double := id
  single := id

example : Arithmetic.ieee.single (.finite (803 / 10)) = .finite (5262541 / 65536) := by
  decide +kernel

/-! ### Sums -/

/-- Values added to a total one after another, each sum rounded. -/
def addUp (round : Value → Value) (total : Value) (values : List Value) : Value :=
  values.foldl (fun total v => round (total + v)) total

theorem sum_map_finite (values : List ℚ) :
    (values.map Value.finite).sum = .finite values.sum := by
  induction values with
  | nil => rfl
  | cons v values ih =>
      rw [List.map_cons, List.sum_cons, ih, Value.finite_add, List.sum_cons]

/-- A sum is exact where the format holds every sum on the way. -/
theorem addUp_eq_sum {fmt : Format} {total : ℚ} {values : List ℚ}
    (hsums : ∀ first, first <+: values → fmt.Holds (total + first.sum)) :
    addUp fmt.round (.finite total) (values.map .finite) = .finite (total + values.sum) := by
  induction values generalizing total with
  | nil => exact congrArg Value.finite (add_zero total).symm
  | cons v values ih =>
      have hfirst : fmt.round (.finite total + .finite v) = .finite (total + v) := by
        have hone := hsums [v] (by simp)
        rw [List.sum_singleton] at hone
        exact Format.round_of_holds hone
      rw [List.map_cons, addUp, List.foldl_cons, hfirst, List.sum_cons, ← add_assoc]
      refine ih fun first hfirst => ?_
      have hsum := hsums (v :: first) (List.cons_prefix_cons.mpr ⟨rfl, hfirst⟩)
      rwa [List.sum_cons, ← add_assoc] at hsum

def nonzero (values : List Value) : List Value :=
  values.filter (· ≠ 0)

@[simp]
theorem nonzero_append (values values' : List Value) :
    nonzero (values ++ values') = nonzero values ++ nonzero values' :=
  List.filter_append ..

theorem nonzero_flatMap {A : Type*} (f : A → List Value) (l : List A) :
    nonzero (l.flatMap f) = l.flatMap fun a => nonzero (f a) :=
  List.filter_flatMap ..

theorem nonzero_singleton_eq_nil_iff {v : Value} : nonzero [v] = [] ↔ v = 0 := by
  simp [nonzero]

/-- Zeros do not matter to a sum. -/
theorem addUp_nonzero {round : Value → Value} (hround : ∀ v, round (round v) = round v)
    {total : Value} (htotal : round total = total) (values : List Value) :
    addUp round total (nonzero values) = addUp round total values := by
  induction values generalizing total with
  | nil => rfl
  | cons v values ih =>
      by_cases hv : v = 0
      · rw [nonzero, List.filter_cons_of_neg (by simpa using hv), addUp, addUp, List.foldl_cons,
          hv, add_zero, htotal]
        exact ih htotal
      · rw [nonzero, List.filter_cons_of_pos (by simpa using hv)]
        exact ih (hround _)

end FloatingPoint
