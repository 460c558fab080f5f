import Mathlib.Algebra.Order.Field.Rat
import Mathlib.Tactic.Linarith
import Mathlib.Tactic.Positivity

/-!
# Rational numbers with infinities and NaN

The values of a floating-point type without its rounding: `ExtRat` has the rational numbers, two
infinities and NaN, with the operations and the comparisons of IEEE 754. There is one zero, which
counts as positive where a sign is needed.

Comparisons with NaN are false, so a value can pass a chain of comparisons because it is none of
them. `clamp_mem` and `clampEq_mem` say that every other value is clamped into its bounds.

* `lt` and `eq` are the comparisons, false for NaN.
* `mul_num`, `div_num` and `neg_num` say that nothing is new between numbers; `div_zero` and
  `mul_nan` say what is.
* `clamp_mem` is for a clamp by `<`, and `clampEq_mem` for one that compares with `==`, too.
-/

namespace OkularV3d

/-- A floating-point value, unrounded. -/
inductive ExtRat where
  | num (q : ℚ)
  | posInf
  | negInf
  | nan
  deriving DecidableEq, Repr

namespace ExtRat

/-- The infinity on the side of `q`; NaN for zero. -/
def infinity (q : ℚ) : ExtRat := if 0 < q then posInf else if q < 0 then negInf else nan

instance : Neg ExtRat where
  neg
    | num q => num (-q)
    | posInf => negInf
    | negInf => posInf
    | nan => nan

instance : Add ExtRat where
  add
    | num a, num b => num (a + b)
    | nan, _ | _, nan | posInf, negInf | negInf, posInf => nan
    | posInf, _ | _, posInf => posInf
    | negInf, _ | _, negInf => negInf

instance : Sub ExtRat where
  sub x y := x + -y

instance : Mul ExtRat where
  mul
    | num a, num b => num (a * b)
    | nan, _ | _, nan => nan
    | num q, posInf | posInf, num q => infinity q
    | num q, negInf | negInf, num q => infinity (-q)
    | posInf, posInf | negInf, negInf => posInf
    | posInf, negInf | negInf, posInf => negInf

instance : Div ExtRat where
  div
    | num a, num b => if b = 0 then infinity a else num (a / b)
    | nan, _ | _, nan => nan
    | num _, posInf | num _, negInf => num 0
    | posInf, num q => if q < 0 then negInf else posInf
    | negInf, num q => if q < 0 then posInf else negInf
    | posInf, posInf | negInf, negInf | posInf, negInf | negInf, posInf => nan

/-- `<`. -/
def lt : ExtRat → ExtRat → Bool
  | num a, num b => decide (a < b)
  | negInf, num _ | negInf, posInf | num _, posInf => true
  | _, _ => false

/-- `==`. -/
def eq : ExtRat → ExtRat → Bool
  | nan, _ | _, nan => false
  | x, y => decide (x = y)

/-- A value a division by which is defined. -/
def IsDivisor (x : ExtRat) : Prop := x ≠ nan ∧ x ≠ num 0

instance (x : ExtRat) : Decidable x.IsDivisor := inferInstanceAs (Decidable (_ ∧ _))

theorem num_ne_nan (q : ℚ) : num q ≠ nan := nofun

/-- A number divides unless it is zero. -/
@[simp] theorem isDivisor_num {q : ℚ} : (num q).IsDivisor ↔ q ≠ 0 := by simp [IsDivisor]

/-- Between numbers the comparisons are those of the rationals. -/
@[simp] theorem lt_num_iff (a b : ℚ) : lt (num a) (num b) = true ↔ a < b := decide_eq_true_iff

@[simp] theorem eq_num_iff (a b : ℚ) : eq (num a) (num b) = true ↔ a = b := by simp [eq]

/-! ### Arithmetic -/

section Arithmetic

variable (a b : ℚ)

/-- Between numbers the operations are those of the rationals. -/
theorem mul_num : num a * num b = num (a * b) := rfl

theorem neg_num : -num a = num (-a) := rfl

theorem div_num {b : ℚ} (h : b ≠ 0) : num a / num b = num (a / b) := if_neg h

/-- A quotient by zero is infinite, or no number if zero is divided. -/
theorem div_zero : num a / num 0 = infinity a := if_pos rfl

variable {a}

/-- The infinity of a number other than zero. -/
theorem infinity_ne_nan (h : a ≠ 0) : infinity a ≠ nan := by
  unfold infinity
  rcases lt_or_gt_of_ne h with hneg | hpos
  · rw [if_neg (not_lt.mpr hneg.le), if_pos hneg]
    nofun
  · rw [if_pos hpos]
    nofun

/-- A number other than zero times anything but NaN is not NaN. -/
theorem mul_ne_nan (h : a ≠ 0) {y : ExtRat} (hy : y ≠ nan) : num a * y ≠ nan := by
  cases y with
  | num b => nofun
  | posInf => exact infinity_ne_nan h
  | negInf => exact infinity_ne_nan (neg_ne_zero.mpr h)
  | nan => exact absurd rfl hy

/-- A number other than zero divided by anything but NaN is not NaN. -/
theorem div_ne_nan (h : a ≠ 0) {y : ExtRat} (hy : y ≠ nan) : num a / y ≠ nan := by
  cases y with
  | num b =>
    by_cases hb : b = 0
    · rw [hb, div_zero]
      exact infinity_ne_nan h
    · rw [div_num a hb]
      nofun
  | posInf => nofun
  | negInf => nofun
  | nan => exact absurd rfl hy

/-- What is computed from no number is none. -/
theorem mul_nan (x : ExtRat) : x * nan = nan := by cases x <;> rfl

theorem div_nan (x : ExtRat) : x / nan = nan := by cases x <;> rfl

end Arithmetic

/-! ### Clamping -/

section Clamp

variable {low high : ℚ}

/-- A value other than NaN, clamped by `<` and `>`. -/
theorem clamp_mem (h : low ≤ high) {z : ExtRat} (hz : z ≠ nan) :
    ∃ q, (if lt z (num low) then num low else if lt (num high) z then num high else z) = num q ∧
      low ≤ q ∧ q ≤ high := by
  cases z with
  | num q =>
    simp only [lt_num_iff]
    split_ifs with hlow hhigh
    · exact ⟨low, rfl, le_rfl, h⟩
    · exact ⟨high, rfl, h, le_rfl⟩
    · exact ⟨q, rfl, not_lt.mp hlow, not_lt.mp hhigh⟩
  | posInf => exact ⟨high, rfl, h, le_rfl⟩
  | negInf => exact ⟨low, rfl, le_rfl, h⟩
  | nan => exact absurd rfl hz

/-- A number, clamped by `<=` and `>=`. -/
theorem clampEq_mem (h : low ≤ high) (q : ℚ) :
    ∃ r, (if lt (num q) (num low) || eq (num q) (num low) then num low
      else if lt (num high) (num q) || eq (num high) (num q) then num high else num q) = num r ∧
        low ≤ r ∧ r ≤ high := by
  simp only [Bool.or_eq_true, lt_num_iff, eq_num_iff]
  split_ifs with hlow hhigh
  · exact ⟨low, rfl, le_rfl, h⟩
  · exact ⟨high, rfl, h, le_rfl⟩
  · exact ⟨q, rfl, not_lt.mp fun hlt => hlow (.inl hlt), not_lt.mp fun hlt => hhigh (.inl hlt)⟩

end Clamp

/-! ### Absolute values -/

/-- The absolute value, as a comparison with zero makes it. -/
def abs (x : ExtRat) : ExtRat := if lt x (num 0) then -x else x

/-- Absolute values are those of the rationals. -/
theorem abs_num (q : ℚ) : abs (num q) = num |q| := by
  simp only [abs, lt_num_iff]
  split_ifs with h
  · rw [neg_num, abs_of_neg h]
  · rw [abs_of_nonneg (not_lt.mp h)]

/-- No absolute value lies below a number that is not positive. -/
theorem abs_not_lt {limit : ℚ} (h : limit ≤ 0) (x : ExtRat) : lt (abs x) (num limit) = false := by
  cases x with
  | num q =>
    rw [abs_num, ← Bool.not_eq_true, lt_num_iff, not_lt]
    exact h.trans (abs_nonneg q)
  | posInf | negInf | nan => rfl

/-- An absolute value below a limit is that of a number. -/
theorem exists_num_of_abs_lt {x limit : ExtRat} (h : lt (abs x) limit = true) :
    ∃ p, x = num p := by
  cases x with
  | num p => exact ⟨p, rfl⟩
  | posInf | negInf | nan => exact absurd h (by cases limit <;> simp [abs, lt, Neg.neg])

end ExtRat

end OkularV3d
