import Mathlib.Analysis.InnerProductSpace.Projection.Reflection

/-!
# Frames carried by two reflections

A frame that follows a curve, a unit vector `r` across a unit tangent `t`, is carried along a chord
by two reflections: one across the chord, and one that takes the reflected tangent to the new one. A
reflection keeps lengths and angles, so the first always gives a frame. The second one reaches the
new tangent when that is a unit vector; for any other vector `a` that is not zero it gives a frame
only if the reflected `r` was perpendicular to `a` before (`IsFrame.mirror_sub_iff`).

* `mirror` is the reflection across a vector; `IsFrame.map_mirror` says that it takes frames to
  frames.
* `IsFrame` is a pair of unit vectors at a right angle, and `IsFrame.mirror_sub_iff` the exact
  condition for the second reflection.

A caller that brings its tangents to length one meets the condition; one that forgets to, meets it
by luck.
-/

namespace OkularV3d

open scoped RealInnerProductSpace

variable {E : Type*} [NormedAddCommGroup E] [InnerProductSpace ℝ E] {r t : E}

/-- The reflection across `w`: along `w` the sign changes. For the zero vector nothing does. -/
noncomputable def mirror (w : E) : E ≃ₗᵢ[ℝ] E := (Submodule.span ℝ {w})ᗮ.reflection

theorem mirror_apply (w v : E) : mirror w v = v - (2 * (⟪w, v⟫ / ‖w‖ ^ 2)) • w := by
  rw [mirror, Submodule.reflection_orthogonal_apply, Submodule.reflection_singleton_apply, neg_sub,
    two_mul, add_smul, two_nsmul]
  rfl

/-- The reflection as it is computed, with the unit vector along `w`. -/
theorem mirror_apply_unit (w v : E) :
    mirror w v = v - (2 * ⟪‖w‖⁻¹ • w, v⟫) • ‖w‖⁻¹ • w := by
  rw [mirror_apply, real_inner_smul_left, smul_smul]
  congr 2
  rw [div_eq_mul_inv, ← inv_pow]
  ring

/-- Two unit vectors at a right angle. -/
structure IsFrame (r t : E) : Prop where
  norm_normal : ‖r‖ = 1
  norm_tangent : ‖t‖ = 1
  inner_eq_zero : ⟪r, t⟫ = 0

/-- A reflection takes frames to frames. -/
theorem IsFrame.map_mirror (h : IsFrame r t) (w : E) : IsFrame (mirror w r) (mirror w t) where
  norm_normal := by rw [LinearIsometryEquiv.norm_map, h.norm_normal]
  norm_tangent := by rw [LinearIsometryEquiv.norm_map, h.norm_tangent]
  inner_eq_zero := by rw [LinearIsometryEquiv.inner_map_map, h.inner_eq_zero]

/-- What the second reflection leaves of the normal along the new tangent. -/
theorem IsFrame.inner_mirror_sub (h : IsFrame r t) {a : E} (ha : a ≠ t) :
    ⟪mirror (a - t) r, a⟫ = ⟪r, a⟫ * ((1 - ‖a‖ ^ 2) / ‖a - t‖ ^ 2) := by
  have hlength : ‖a - t‖ ^ 2 = ‖a‖ ^ 2 - 2 * ⟪a, t⟫ + 1 := by
    rw [norm_sub_sq_real, h.norm_tangent, one_pow]
  have hpos : ‖a - t‖ ^ 2 ≠ 0 := pow_ne_zero 2 (norm_ne_zero_iff.mpr (sub_ne_zero.mpr ha))
  have hnormal : ⟪a - t, r⟫ = ⟪r, a⟫ := by
    rw [inner_sub_left, real_inner_comm r t, h.inner_eq_zero, sub_zero, real_inner_comm]
  have halong : ⟪a - t, a⟫ = ‖a‖ ^ 2 - ⟪a, t⟫ := by
    rw [inner_sub_left, real_inner_self_eq_norm_sq, real_inner_comm]
  have hleft : 1 - ‖a‖ ^ 2 = ‖a - t‖ ^ 2 - 2 * (‖a‖ ^ 2 - ⟪a, t⟫) := by
    rw [hlength]
    ring
  rw [mirror_apply, inner_sub_left, real_inner_smul_left, hnormal, halong, hleft, sub_div,
    div_self hpos]
  ring

/-- **The second reflection gives a frame** with the direction of `a` iff `a` has a direction, and
is a unit vector or was perpendicular to the normal before. -/
theorem IsFrame.mirror_sub_iff (h : IsFrame r t) (a : E) :
    IsFrame (mirror (a - t) r) (‖a‖⁻¹ • a) ↔ a ≠ 0 ∧ (‖a‖ = 1 ∨ ⟪r, a⟫ = 0) := by
  have hr : ‖mirror (a - t) r‖ = 1 := by
    rw [LinearIsometryEquiv.norm_map, h.norm_normal]
  have hinner : ⟪mirror (a - t) r, a⟫ = 0 ↔ ‖a‖ = 1 ∨ ⟪r, a⟫ = 0 := by
    by_cases hat : a = t
    · -- the tangent is reached already, and the mirror of the zero vector changes nothing
      rw [hat, sub_self, mirror_apply, smul_zero, sub_zero, h.inner_eq_zero, h.norm_tangent]
      simp
    · have hpos : ‖a - t‖ ^ 2 ≠ 0 := pow_ne_zero 2 (norm_ne_zero_iff.mpr (sub_ne_zero.mpr hat))
      have hunit : 1 - ‖a‖ ^ 2 = 0 ↔ ‖a‖ = 1 := by
        rw [sub_eq_zero, eq_comm, pow_eq_one_iff_of_nonneg (norm_nonneg a) two_ne_zero]
      rw [h.inner_mirror_sub hat, mul_eq_zero, div_eq_zero_iff, or_iff_left hpos, hunit, or_comm]
  constructor
  · intro hframe
    have ha : a ≠ 0 := by
      rintro rfl
      simpa using hframe.norm_tangent
    have hzero := hframe.inner_eq_zero
    rw [real_inner_smul_right, mul_eq_zero, inv_eq_zero, norm_eq_zero, or_iff_right ha] at hzero
    exact ⟨ha, hinner.mp hzero⟩
  · rintro ⟨ha, hfits⟩
    refine ⟨hr, norm_smul_inv_norm ha, ?_⟩
    rw [real_inner_smul_right, hinner.mpr hfits, mul_zero]

end OkularV3d
