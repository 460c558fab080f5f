import Mathlib.Algebra.Order.Floor.Ring
import Mathlib.Algebra.Order.Ring.Int
import Mathlib.Tactic.Linarith

/-!
# Rounding toward zero

`toInt` rounds a number of an ordered field toward zero. It commutes with the subtraction from an
integer only where the difference is a whole number or negative (`toInt_sub_eq_iff`): otherwise it
is rounded down where the number that is subtracted was rounded down as well.

* `toInt` is the conversion of a floating-point number to an integer, as far as the number is in
  range.
* `toInt_of_nonneg` and `toInt_of_neg` say which way it rounds.
-/

namespace OkularV3d.TowardZero

section Integer

variable {K : Type*} [Field K] [LinearOrder K] [FloorRing K]

/-- The integer next to `a`, on the side of zero. -/
def toInt (a : K) : ℤ := if 0 ≤ a then ⌊a⌋ else ⌈a⌉

theorem toInt_of_nonneg {a : K} (h : 0 ≤ a) : toInt a = ⌊a⌋ := if_pos h

theorem toInt_of_neg {a : K} (h : a < 0) : toInt a = ⌈a⌉ := if_neg h.not_ge

end Integer

variable {K : Type*} [Field K] [LinearOrder K] [IsStrictOrderedRing K] [FloorRing K]

private theorem floor_intCast_sub (m : ℤ) (a : K) : ⌊(m : K) - a⌋ = m - ⌈a⌉ := by
  rw [sub_eq_add_neg, Int.floor_intCast_add, Int.floor_neg, ← sub_eq_add_neg]

private theorem ceil_intCast_sub (m : ℤ) (a : K) : ⌈(m : K) - a⌉ = m - ⌊a⌋ := by
  rw [sub_eq_add_neg, add_comm, Int.ceil_add_intCast, Int.ceil_neg, neg_add_eq_sub]

/-- **Rounding before or after a subtraction** gives the same iff the difference is negative or what
is subtracted is a whole number. -/
theorem toInt_sub_eq_iff (m : ℤ) {a : K} (ha : 0 ≤ a) :
    toInt ((m : K) - a) = m - toInt a ↔ (m : K) < a ∨ (⌊a⌋ : K) = a := by
  have hfloor : (⌊a⌋ : K) ≤ a := Int.floor_le a
  rw [toInt_of_nonneg ha]
  obtain hneg | hpos := lt_or_ge (m : K) a
  · -- a negative difference is rounded up
    rw [toInt_of_neg (sub_neg.mpr hneg), ceil_intCast_sub]
    exact iff_of_true rfl (.inl hneg)
  · rw [toInt_of_nonneg (sub_nonneg.mpr hpos), floor_intCast_sub]
    have hceil : m - ⌈a⌉ = m - ⌊a⌋ ↔ ⌈a⌉ = ⌊a⌋ := by omega
    rw [hceil, or_iff_right hpos.not_gt]
    constructor
    · intro h
      have hle : a ≤ (⌈a⌉ : K) := Int.le_ceil a
      rw [h] at hle
      exact le_antisymm hfloor hle
    · intro h
      rw [← h, Int.floor_intCast, Int.ceil_intCast]

end OkularV3d.TowardZero
