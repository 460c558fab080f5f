import OkularV3d.Lib.DoubleReflection
import OkularV3d.Lib.Runs
import OkularV3d.Scene.RealScalar
import OkularV3d.Scene.Solids

/-!
# The frames of a tube

`rmf` puts a frame at each parameter of a cubic: a unit tangent `t`, a unit vector `r` across it,
and their product `s`. The first frame stands on its own, the others are carried from point to point
by two reflections. Here it is read for any list of parameters and any `epsilon` (`Rmf.frames`).

Whether the frames are orthonormal is decided by the tangents alone. A difference of control points
is taken for one only if it is not below a threshold, and that is `epsilon` times the distance of
the control points from the origin: a curve far away loses every tangent that its third difference
does not give. At the end of the curve this difference is not brought to length one before it is
used. `Rmf.orthonormal_frames_iff` says what the tangents have to be.

* `Rmf.startTangent` and `Rmf.direction` choose a difference of control points by the threshold.
* `StartFits` and `DirectionFits` are the conditions on the first frame and on a step.
* `orthonormal_start_iff` and `orthonormal_next_iff` are the equivalences for them; the two
  reflections of a step are those of `OkularV3d.Lib.DoubleReflection`.
* `orthonormal_frames_line` and `not_orthonormal_frames_far` are about one straight curve, at the
  origin and far from it.
-/

namespace OkularV3d

open scoped RealInnerProductSpace
open Runs

namespace Rmf

section Program

variable {D : Type} [Scalar D]

/-- `perp`, for any `epsilon`. -/
def perpOf (epsilon : D) (v : Vec3 D) : Vec3 D :=
  let z : D := Scalar.lit 0
  let i : D := Scalar.lit 1
  let norm := epsilon * Vec3.abs2 v
  let u := Vec3.cross v ⟨z, i, z⟩
  if Scalar.lt norm (Vec3.abs2 u) then Vec3.unit u
  else
    let u := Vec3.cross v ⟨z, z, i⟩
    if Scalar.lt norm (Vec3.abs2 u) then Vec3.unit u else ⟨i, z, z⟩

/-- `norm`: what a difference of control points has to reach to be a tangent. -/
def threshold (epsilon : D) (z0 c0 c1 z1 : Vec3 D) : D :=
  let glmMax (a b : D) : D := if Scalar.lt a b then b else a
  epsilon *
    glmMax (glmMax (glmMax (Vec3.abs2 z0) (Vec3.abs2 c0)) (Vec3.abs2 c1)) (Vec3.abs2 z1)

/-- `T`, before it is brought to length one. -/
def startTangent (norm : D) (z0 c0 c1 z1 : Vec3 D) : Vec3 D :=
  let T := c0 - z0
  if Scalar.lt (Vec3.abs2 T) norm then
    let T := z0 - Vec3.smul (Scalar.lit 2) c0 + c1
    if Scalar.lt (Vec3.abs2 T) norm then cubicCoefficient z0 c0 c1 z1 else T
  else T

/-- `R[0]`. -/
def start (epsilon : D) (z0 c0 c1 z1 : Vec3 D) : Rmf D :=
  let T := Vec3.unit (startTangent (threshold epsilon z0 c0 c1 z1) z0 c0 c1 z1)
  mk' z0 (perpOf epsilon T) T

/-- `rmf` at any list of parameters. The first one is not read. -/
def frames (epsilon : D) (z0 c0 c1 z1 : Vec3 D) : List D → List (Rmf D)
  -- the source writes `R[0]` even then; no caller passes an empty list
  | [] => []
  | _ :: ts =>
    ts.scanl (next (threshold epsilon z0 c0 c1 z1) z0 c0 c1 z1) (start epsilon z0 c0 c1 z1)

/-- A tube has its frames at thirds. -/
theorem rmf_toList (z0 c0 c1 z1 : Vec3 D) :
    (rmf z0 c0 c1 z1).toList =
      frames dblEpsilon z0 c0 c1 z1
        [Scalar.lit 0, Scalar.lit 1 / Scalar.lit 3, Scalar.lit 2 / Scalar.lit 3, Scalar.lit 1] :=
  rfl

/-- `p`: the point of the curve at `s`. -/
def point (z0 c0 c1 z1 : Vec3 D) (s : D) : Vec3 D :=
  let onemt := Scalar.lit 1 - s
  let onemt2 := onemt * onemt
  let onemt3 := onemt2 * onemt
  let s3 := Scalar.lit 3 * s
  Vec3.smul onemt3 z0 + Vec3.smul (onemt2 * s3) c0 + Vec3.smul (onemt * (s3 * s)) c1 +
    Vec3.smul (s * s * s) z1

/-- A vector reflected across the unit vector `u`. -/
def reflected (u v : Vec3 D) : Vec3 D := v - Vec3.smul (Scalar.lit 2 * Vec3.dot u v) u

end Program

/-! ### Orthonormal frames -/

/-- A frame is **orthonormal**: a unit tangent, a unit vector across it, and their product. -/
structure Orthonormal (R : Rmf ℝ) : Prop where
  unit_r : Vec3.abs2 R.r = 1
  unit_t : Vec3.abs2 R.t = 1
  perp : Vec3.dot R.r R.t = 0
  s_eq : R.s = Vec3.cross R.t R.r

/-- A frame of the code is orthonormal if it is one of the library, with the product as its third
vector. -/
theorem orthonormal_iff (R : Rmf ℝ) :
    R.Orthonormal ↔ IsFrame R.r.toEuclidean R.t.toEuclidean ∧ R.s = Vec3.cross R.t R.r := by
  constructor
  · rintro ⟨hr, ht, hperp, hs⟩
    refine ⟨⟨Vec3.norm_toEuclidean_eq_one_iff.mpr hr,
      Vec3.norm_toEuclidean_eq_one_iff.mpr ht, ?_⟩, hs⟩
    rw [Vec3.inner_toEuclidean, hperp]
  · rintro ⟨⟨hr, ht, hperp⟩, hs⟩
    rw [Vec3.inner_toEuclidean] at hperp
    exact ⟨Vec3.norm_toEuclidean_eq_one_iff.mp hr,
      Vec3.norm_toEuclidean_eq_one_iff.mp ht, hperp, hs⟩

/-- The third vector of a new frame is a product by construction. -/
theorem orthonormal_mk'_iff (p r t : Vec3 ℝ) :
    (mk' p r t).Orthonormal ↔ IsFrame r.toEuclidean t.toEuclidean := by
  rw [orthonormal_iff]
  exact and_iff_left rfl

/-- A vector has a length if it is not zero. -/
theorem abs2_pos_iff {v : Vec3 ℝ} : 0 < Vec3.abs2 v ↔ v.toEuclidean ≠ 0 := by
  rw [Vec3.abs2, ← Vec3.sq_norm_toEuclidean, sq_pos_iff, norm_ne_zero_iff]

/-- Brought to length one, it has length one. -/
theorem norm_toEuclidean_unit {v : Vec3 ℝ} (h : 0 < Vec3.abs2 v) :
    ‖(Vec3.unit v).toEuclidean‖ = 1 := by
  rw [Vec3.toEuclidean_unit]
  exact norm_smul_inv_norm (abs2_pos_iff.mp h)

/-- The reflection of the code is the mirror image across the vector. -/
theorem toEuclidean_reflected (w v : Vec3 ℝ) :
    (reflected (Vec3.unit w) v).toEuclidean = mirror w.toEuclidean v.toEuclidean := by
  rw [mirror_apply_unit, reflected, Vec3.toEuclidean_sub, Vec3.toEuclidean_smul,
    ← Vec3.inner_toEuclidean, Vec3.toEuclidean_unit, lit_real, Rat.cast_ofNat]

/-! ### The first frame -/

section Start

variable {ε : ℝ}

/-- A product is perpendicular to its factors. -/
theorem dot_cross_left (v w : Vec3 ℝ) : Vec3.dot (Vec3.cross v w) v = 0 := by
  rw [Vec3.dot_eq, Vec3.cross_eq]
  ring

/-- A product with a unit vector that is not zero gives a unit vector across it. -/
theorem isFrame_unit_cross {v w : Vec3 ℝ} (hv : ‖v.toEuclidean‖ = 1)
    (h : 0 < Vec3.abs2 (Vec3.cross v w)) :
    IsFrame (Vec3.unit (Vec3.cross v w)).toEuclidean v.toEuclidean where
  norm_normal := norm_toEuclidean_unit h
  norm_tangent := hv
  inner_eq_zero := by
    rw [Vec3.toEuclidean_unit, real_inner_smul_left, Vec3.inner_toEuclidean,
      dot_cross_left, mul_zero]

/-- **What `perp` is for**: a small `epsilon` leaves one of its two products. -/
theorem isFrame_perpOf (hε : 0 < ε) (hsmall : ε < 1 / 2) {v : Vec3 ℝ} (hv : ‖v.toEuclidean‖ = 1) :
    IsFrame (perpOf ε v).toEuclidean v.toEuclidean := by
  have hunit : Vec3.abs2 v = 1 := Vec3.norm_toEuclidean_eq_one_iff.mp hv
  have hcoord : v.x * v.x + v.y * v.y + v.z * v.z = 1 := hunit
  have hy : Vec3.abs2 (Vec3.cross v ⟨Scalar.lit 0, Scalar.lit 1, Scalar.lit 0⟩) =
      v.x * v.x + v.z * v.z := by
    simp [Vec3.abs2, Vec3.dot_eq, Vec3.cross_eq]
    ring
  have hz : Vec3.abs2 (Vec3.cross v ⟨Scalar.lit 0, Scalar.lit 0, Scalar.lit 1⟩) =
      v.x * v.x + v.y * v.y := by
    simp [Vec3.abs2, Vec3.dot_eq, Vec3.cross_eq]
    ring
  simp only [perpOf, scalarLt_iff, hunit, mul_one]
  by_cases hfirst : ε < Vec3.abs2 (Vec3.cross v ⟨Scalar.lit 0, Scalar.lit 1, Scalar.lit 0⟩)
  · rw [if_pos hfirst]
    exact isFrame_unit_cross hv (hε.trans hfirst)
  · -- the unit vector is then nearly on the second axis, and far from the third
    have hsecond :
        ε < Vec3.abs2 (Vec3.cross v ⟨Scalar.lit 0, Scalar.lit 0, Scalar.lit 1⟩) := by
      rw [hy] at hfirst
      rw [hz]
      linarith [mul_self_nonneg v.x, mul_self_nonneg v.z]
    rw [if_neg hfirst, if_pos hsecond]
    exact isFrame_unit_cross hv (hε.trans hsecond)

variable {z0 c0 c1 z1 : Vec3 ℝ}

/-- The threshold is `epsilon` times the greatest of the four squared distances from the origin. -/
theorem threshold_eq (ε : ℝ) (z0 c0 c1 z1 : Vec3 ℝ) :
    threshold ε z0 c0 c1 z1 =
      ε * max (max (max (Vec3.abs2 z0) (Vec3.abs2 c0)) (Vec3.abs2 c1)) (Vec3.abs2 z1) := by
  have hmax : ∀ a b : ℝ, (if Scalar.lt a b then b else a) = max a b := scalarMax_eq
  simp only [threshold, hmax]

/-- Control points that are not all equal are not all at the origin. -/
theorem threshold_pos (hε : 0 < ε) (hne : ¬ (z0 = c0 ∧ z0 = c1 ∧ z0 = z1)) :
    0 < threshold ε z0 c0 c1 z1 := by
  rw [threshold_eq]
  refine mul_pos hε ?_
  by_contra hnot
  have hzero : ∀ v : Vec3 ℝ, ¬ 0 < Vec3.abs2 v → v.toEuclidean = 0 := fun v hv =>
    not_not.mp (mt abs2_pos_iff.mpr hv)
  simp only [lt_max_iff, not_or] at hnot
  obtain ⟨⟨⟨h0, h1⟩, h2⟩, h3⟩ := hnot
  refine hne ⟨?_, ?_, ?_⟩
  all_goals
    refine Vec3.toEuclidean_injective ?_
    rw [hzero z0 h0, hzero _ ‹_›]

/-- The first tangent has a direction: a difference reaches the threshold, or the third one is not
zero. -/
def StartFits (norm : ℝ) (z0 c0 c1 z1 : Vec3 ℝ) : Prop :=
  norm ≤ Vec3.abs2 (c0 - z0) ∨ norm ≤ Vec3.abs2 (z0 - Vec3.smul (Scalar.lit 2) c0 + c1) ∨
    0 < Vec3.abs2 (cubicCoefficient z0 c0 c1 z1)

/-- **There is a tangent to start with** exactly when some difference is above the threshold, or the
third one is not zero. -/
theorem abs2_startTangent_pos_iff {norm : ℝ} (hnorm : 0 < norm) :
    0 < Vec3.abs2 (startTangent norm z0 c0 c1 z1) ↔ StartFits norm z0 c0 c1 z1 := by
  simp only [startTangent, scalarLt_iff, StartFits]
  by_cases hfirst : norm ≤ Vec3.abs2 (c0 - z0)
  · rw [if_neg hfirst.not_gt]
    exact iff_of_true (hnorm.trans_le hfirst) (.inl hfirst)
  · rw [if_pos (not_le.mp hfirst)]
    by_cases hsecond : norm ≤ Vec3.abs2 (z0 - Vec3.smul (Scalar.lit 2) c0 + c1)
    · rw [if_neg hsecond.not_gt]
      exact iff_of_true (hnorm.trans_le hsecond) (.inr (.inl hsecond))
    · rw [if_pos (not_le.mp hsecond)]
      rw [or_iff_right hfirst, or_iff_right hsecond]

/-- **The first frame** is orthonormal iff its tangent has a direction. -/
theorem orthonormal_start_iff (hε : 0 < ε) (hsmall : ε < 1 / 2)
    (hne : ¬ (z0 = c0 ∧ z0 = c1 ∧ z0 = z1)) :
    (start ε z0 c0 c1 z1).Orthonormal ↔ StartFits (threshold ε z0 c0 c1 z1) z0 c0 c1 z1 := by
  rw [start, orthonormal_mk'_iff, ← abs2_startTangent_pos_iff (threshold_pos hε hne)]
  constructor
  · intro hframe
    rw [abs2_pos_iff]
    intro hzero
    have hlength := hframe.norm_tangent
    rw [Vec3.toEuclidean_unit, hzero, smul_zero, norm_zero] at hlength
    exact zero_ne_one hlength
  · intro hpos
    exact isFrame_perpOf hε hsmall (norm_toEuclidean_unit hpos)

end Start

/-! ### Carrying a frame -/

variable {norm : ℝ} {z0 c0 c1 z1 : Vec3 ℝ} {R : Rmf ℝ} {s : ℝ}

/-- One of the two differences that `d` tries first at `s` is above the threshold. -/
def HasTangent (norm : ℝ) (z0 c0 c1 z1 : Vec3 ℝ) (s : ℝ) : Prop :=
  let a := cubicCoefficient z0 c0 c1 z1
  let b := Vec3.smul (Scalar.lit 2) (z0 + c1) - Vec3.smul (Scalar.lit 4) c0
  s = 1 ∧ (norm < Vec3.abs2 (z1 - c1) ∨
      norm < Vec3.abs2 (Vec3.smul (Scalar.lit 2) c1 - c0 - z1)) ∨
    s ≠ 1 ∧ (norm < Vec3.abs2 (Vec3.smul (s * s) a + Vec3.smul s b + (c0 - z0)) ∨
      norm < Vec3.abs2 (Vec3.smul (Scalar.lit 2 * s) a + b))

/-- The curve has not moved on from the frame `R`, or there is a tangent at `s`: by the threshold,
or by a third difference that is not zero. At the end of the curve this one has to be a unit vector,
or perpendicular to the reflected normal of `R`. -/
def DirectionFits (norm : ℝ) (z0 c0 c1 z1 : Vec3 ℝ) (R : Rmf ℝ) (s : ℝ) : Prop :=
  let a := cubicCoefficient z0 c0 c1 z1
  let p := point z0 c0 c1 z1 s
  p = R.p ∨ HasTangent norm z0 c0 c1 z1 s ∨
    0 < Vec3.abs2 a ∧
      (s = 1 → Vec3.abs2 a = 1 ∨ Vec3.dot (reflected (Vec3.unit (p - R.p)) R.r) a = 0)

/-- The derivative of the cubic, by its coefficients. -/
theorem direction_eq (norm : ℝ) (z0 c0 c1 z1 : Vec3 ℝ) (s : ℝ) :
    direction norm z0 c0 c1 z1 s =
      let a := cubicCoefficient z0 c0 c1 z1
      let b := Vec3.smul (Scalar.lit 2) (z0 + c1) - Vec3.smul (Scalar.lit 4) c0
      if s = 1 then
        if norm < Vec3.abs2 (z1 - c1) then Vec3.unit (z1 - c1)
        else if norm < Vec3.abs2 (Vec3.smul (Scalar.lit 2) c1 - c0 - z1) then
          Vec3.unit (Vec3.smul (Scalar.lit 2) c1 - c0 - z1)
        else a
      else if norm < Vec3.abs2 (Vec3.smul (s * s) a + Vec3.smul s b + (c0 - z0)) then
        Vec3.unit (Vec3.smul (s * s) a + Vec3.smul s b + (c0 - z0))
      else if norm < Vec3.abs2 (Vec3.smul (Scalar.lit 2 * s) a + b) then
        Vec3.unit (Vec3.smul (Scalar.lit 2 * s) a + b)
      else Vec3.unit a := by
  have hone : (Scalar.lit 1 : ℝ) = 1 := Rat.cast_one
  simp only [direction, scalarLt_iff, scalarEq_iff, hone]

/-- A tangent has length one. -/
theorem norm_direction (hnorm : 0 < norm) (h : HasTangent norm z0 c0 c1 z1 s) :
    ‖(direction norm z0 c0 c1 z1 s).toEuclidean‖ = 1 := by
  have hunit : ∀ v : Vec3 ℝ, norm < Vec3.abs2 v → ‖(Vec3.unit v).toEuclidean‖ = 1 :=
    fun v hv => norm_toEuclidean_unit (hnorm.trans hv)
  rw [direction_eq]
  dsimp only
  obtain ⟨hs, hlt⟩ | ⟨hs, hlt⟩ := h
  · rw [if_pos hs]
    split
    case isTrue hfirst => exact hunit _ hfirst
    case isFalse hfirst =>
      have hsecond := hlt.resolve_left hfirst
      rw [if_pos hsecond]
      exact hunit _ hsecond
  · rw [if_neg hs]
    split
    case isTrue hfirst => exact hunit _ hfirst
    case isFalse hfirst =>
      have hsecond := hlt.resolve_left hfirst
      rw [if_pos hsecond]
      exact hunit _ hsecond

/-- Where neither difference is, the third one is taken, and at the end of the curve as it is. -/
theorem direction_of_not_hasTangent (h : ¬ HasTangent norm z0 c0 c1 z1 s) :
    direction norm z0 c0 c1 z1 s =
      if s = 1 then cubicCoefficient z0 c0 c1 z1
      else Vec3.unit (cubicCoefficient z0 c0 c1 z1) := by
  rw [direction_eq]
  simp only [HasTangent, not_or, not_and_or, not_ne_iff] at h
  obtain ⟨hend, hinner⟩ := h
  dsimp only
  by_cases hs : s = 1
  · obtain ⟨hfirst, hsecond⟩ := hend.resolve_left (not_not.mpr hs)
    rw [if_pos hs, if_pos hs, if_neg hfirst, if_neg hsecond]
  · obtain ⟨hfirst, hsecond⟩ := hinner.resolve_left hs
    rw [if_neg hs, if_neg hs, if_neg hfirst, if_neg hsecond]

/-- What the new tangent has to be, in terms of the control points: `n` is the normal before. -/
theorem direction_fits_iff (hnorm : 0 < norm) (n : EuclideanSpace ℝ (Fin 3)) :
    ((direction norm z0 c0 c1 z1 s).toEuclidean ≠ 0 ∧
        (‖(direction norm z0 c0 c1 z1 s).toEuclidean‖ = 1 ∨
          ⟪n, (direction norm z0 c0 c1 z1 s).toEuclidean⟫ = 0)) ↔
      HasTangent norm z0 c0 c1 z1 s ∨
        0 < Vec3.abs2 (cubicCoefficient z0 c0 c1 z1) ∧
          (s = 1 → ‖(cubicCoefficient z0 c0 c1 z1).toEuclidean‖ = 1 ∨
            ⟪n, (cubicCoefficient z0 c0 c1 z1).toEuclidean⟫ = 0) := by
  have hne : ∀ v : EuclideanSpace ℝ (Fin 3), ‖v‖ = 1 → v ≠ 0 := fun v hv =>
    norm_ne_zero_iff.mp (hv ▸ one_ne_zero)
  by_cases htangent : HasTangent norm z0 c0 c1 z1 s
  · have hunit := norm_direction hnorm htangent
    exact iff_of_true ⟨hne _ hunit, .inl hunit⟩ (.inl htangent)
  · rw [or_iff_right htangent, direction_of_not_hasTangent htangent]
    by_cases hs : s = 1
    · rw [if_pos hs, abs2_pos_iff, forall_prop_of_true hs]
    · rw [if_neg hs, forall_prop_of_false hs, and_true]
      constructor
      · rintro ⟨hdirection, _⟩
        rw [abs2_pos_iff]
        intro hzero
        rw [Vec3.toEuclidean_unit, hzero, smul_zero] at hdirection
        exact hdirection rfl
      · intro hpos
        have hunit := norm_toEuclidean_unit hpos
        exact ⟨hne _ hunit, .inl hunit⟩

/-- The test for a curve that has not moved. -/
theorem not_moved_iff (p q : Vec3 ℝ) :
    (Scalar.eq (p - q).x (Scalar.lit 0) && Scalar.eq (p - q).y (Scalar.lit 0) &&
      Scalar.eq (p - q).z (Scalar.lit 0)) = true ↔ p = q := by
  rw [Bool.and_eq_true, Bool.and_eq_true, scalarEq_iff, scalarEq_iff, scalarEq_iff, lit_real,
    Rat.cast_zero, Vec3.sub_eq, sub_eq_zero, sub_eq_zero, sub_eq_zero]
  constructor
  · rintro ⟨⟨hx, hy⟩, hz⟩
    cases p
    cases q
    congr
  · rintro rfl
    exact ⟨⟨rfl, rfl⟩, rfl⟩

/-- Where the curve has not moved, the frame stays. -/
theorem next_of_eq (h : point z0 c0 c1 z1 s = R.p) : next norm z0 c0 c1 z1 R s = R :=
  if_pos ((not_moved_iff _ _).mpr h)

/-- **One step**: the frame reflected across the chord, then on to the new tangent. -/
theorem next_of_ne (h : point z0 c0 c1 z1 s ≠ R.p) :
    next norm z0 c0 c1 z1 R s =
      let u1 := Vec3.unit (point z0 c0 c1 z1 s - R.p)
      let ti := direction norm z0 c0 c1 z1 s
      mk' (point z0 c0 c1 z1 s)
        (Vec3.unit (reflected (Vec3.unit (ti - reflected u1 R.t)) (reflected u1 R.r)))
        (Vec3.unit ti) :=
  if_neg (mt (not_moved_iff _ _).mp h)

/-- **One step keeps a frame orthonormal** iff its direction fits. -/
theorem orthonormal_next_iff (hnorm : 0 < norm) (hR : R.Orthonormal) :
    (next norm z0 c0 c1 z1 R s).Orthonormal ↔ DirectionFits norm z0 c0 c1 z1 R s := by
  by_cases hp : point z0 c0 c1 z1 s = R.p
  · rw [next_of_eq hp]
    exact iff_of_true hR (.inl hp)
  · have hframe := ((orthonormal_iff R).mp hR).1.map_mirror
      (point z0 c0 c1 z1 s - R.p).toEuclidean
    -- the second reflection keeps the length of the normal, so `unit` leaves it as it is
    have hunit : ∀ w v : Vec3 ℝ, ‖v.toEuclidean‖ = 1 →
        (Vec3.unit (reflected (Vec3.unit w) v)).toEuclidean =
          mirror w.toEuclidean v.toEuclidean := by
      intro w v hv
      rw [Vec3.toEuclidean_unit, toEuclidean_reflected, LinearIsometryEquiv.norm_map, hv, inv_one,
        one_smul]
    have hnormal : ‖(reflected (Vec3.unit (point z0 c0 c1 z1 s - R.p)) R.r).toEuclidean‖ = 1 := by
      rw [toEuclidean_reflected, hframe.norm_normal]
    rw [next_of_ne hp, DirectionFits, or_iff_right hp, orthonormal_mk'_iff, hunit _ _ hnormal,
      Vec3.toEuclidean_unit, Vec3.toEuclidean_sub, toEuclidean_reflected, toEuclidean_reflected,
      hframe.mirror_sub_iff, direction_fits_iff hnorm, ← toEuclidean_reflected,
      Vec3.inner_toEuclidean, Vec3.norm_toEuclidean_eq_one_iff]
    rfl

/-- **The frames of a curve are orthonormal** iff the first tangent has a direction, and each
direction after it fits the frame before. -/
theorem orthonormal_frames_iff {ε : ℝ} (hε : 0 < ε) (hsmall : ε < 1 / 2)
    (hne : ¬ (z0 = c0 ∧ z0 = c1 ∧ z0 = z1)) (ts : List ℝ) :
    (∀ R ∈ frames ε z0 c0 c1 z1 (0 :: ts), R.Orthonormal) ↔
      StartFits (threshold ε z0 c0 c1 z1) z0 c0 c1 z1 ∧
        Along (next (threshold ε z0 c0 c1 z1) z0 c0 c1 z1)
          (DirectionFits (threshold ε z0 c0 c1 z1) z0 c0 c1 z1) (start ε z0 c0 c1 z1) ts := by
  have hstep : ∀ (R : Rmf ℝ) (s : ℝ), R.Orthonormal →
      ((next (threshold ε z0 c0 c1 z1) z0 c0 c1 z1 R s).Orthonormal ↔
        DirectionFits (threshold ε z0 c0 c1 z1) z0 c0 c1 z1 R s) :=
    fun _ _ hR => orthonormal_next_iff (threshold_pos hε hne) hR
  rw [frames, forall_mem_scanl_iff, ← orthonormal_start_iff hε hsmall hne]
  refine and_congr_right fun hstart => ?_
  exact along_iff_of_invariant hstep (fun R s hR hfits => (hstep R s hR).mpr hfits) hstart ts

/-- At the origin, a straight curve has its four frames. -/
theorem orthonormal_frames_line :
    (frames (1 / 2 ^ 52) ⟨0, 0, 0⟩ ⟨0, 1, 0⟩ ⟨0, 2, 0⟩ ⟨0, 3, 0⟩
        (0 :: [1 / 3, 2 / 3, (1 : ℝ)])).length = 4 ∧
      ∀ R ∈ frames (1 / 2 ^ 52) ⟨0, 0, 0⟩ ⟨0, 1, 0⟩ ⟨0, 2, 0⟩ ⟨0, 3, 0⟩
        (0 :: [1 / 3, 2 / 3, (1 : ℝ)]), R.Orthonormal := by
  have hthreshold :
      threshold (1 / 2 ^ 52) ⟨0, 0, 0⟩ ⟨0, 1, 0⟩ ⟨0, 2, 0⟩ ⟨(0 : ℝ), 3, 0⟩ < 1 := by
    rw [threshold_eq]
    norm_num [Vec3.abs2, Vec3.dot_eq]
  have htangent : ∀ s : ℝ,
      HasTangent (threshold (1 / 2 ^ 52) ⟨0, 0, 0⟩ ⟨0, 1, 0⟩ ⟨0, 2, 0⟩ ⟨(0 : ℝ), 3, 0⟩)
        ⟨0, 0, 0⟩ ⟨0, 1, 0⟩ ⟨0, 2, 0⟩ ⟨0, 3, 0⟩ s := by
    intro s
    have hend : Vec3.abs2 ((⟨0, 3, 0⟩ : Vec3 ℝ) - ⟨0, 2, 0⟩) = 1 := by
      norm_num [Vec3.abs2, Vec3.dot_eq, Vec3.sub_eq]
    by_cases hs : s = 1
    · exact .inl ⟨hs, .inl (hend.symm ▸ hthreshold)⟩
    · refine .inr ⟨hs, .inl (hthreshold.trans_eq ?_)⟩
      norm_num [Vec3.abs2, Vec3.dot_eq, Vec3.sub_eq, Vec3.add_eq, Vec3.smul_eq, cubicCoefficient]
  refine ⟨rfl, ?_⟩
  refine (orthonormal_frames_iff (by norm_num) (by norm_num) (by norm_num) _).mpr
    ⟨.inl (hthreshold.le.trans_eq ?_), .inr (.inl (htangent _)), .inr (.inl (htangent _)),
      .inr (.inl (htangent _)), trivial⟩
  norm_num [Vec3.abs2, Vec3.dot_eq, Vec3.sub_eq]

/-- **Far from the origin** the same curve has no tangent to start with, however small `epsilon`
is. -/
theorem not_orthonormal_start_of_far {ε d : ℝ} (hε : 0 < ε) (hsmall : ε < 1 / 2)
    (hfar : 1 < ε * d ^ 2) :
    ¬ (start ε ⟨d, 0, 0⟩ ⟨d, 1, 0⟩ ⟨d, 2, 0⟩ ⟨d, 3, 0⟩).Orthonormal := by
  have hthreshold : 1 < threshold ε ⟨d, 0, 0⟩ ⟨d, 1, 0⟩ ⟨d, 2, 0⟩ ⟨d, 3, 0⟩ := by
    rw [threshold_eq]
    refine hfar.trans_le (mul_le_mul_of_nonneg_left ?_ hε.le)
    refine le_max_of_le_left (le_max_of_le_left (le_max_of_le_left ?_))
    rw [Vec3.abs2, Vec3.dot_eq]
    exact le_of_eq (by ring)
  rw [orthonormal_start_iff hε hsmall (by norm_num), StartFits, not_or, not_or]
  refine ⟨fun h => ?_, fun h => ?_, fun h => ?_⟩
  · have hfirst : Vec3.abs2 ((⟨d, 1, 0⟩ : Vec3 ℝ) - ⟨d, 0, 0⟩) = 1 := by
      norm_num [Vec3.abs2, Vec3.dot_eq, Vec3.sub_eq]
    linarith
  · have hsecond : Vec3.abs2 ((⟨d, 0, 0⟩ : Vec3 ℝ) - Vec3.smul (Scalar.lit 2) ⟨d, 1, 0⟩ +
        ⟨d, 2, 0⟩) = 0 := by
      norm_num [Vec3.abs2, Vec3.dot_eq, Vec3.sub_eq, Vec3.add_eq, Vec3.smul_eq]
      ring
    linarith
  · have hthird : Vec3.abs2 (cubicCoefficient ⟨d, 0, 0⟩ ⟨d, 1, 0⟩ ⟨d, 2, 0⟩ ⟨d, 3, 0⟩) = 0 := by
      norm_num [Vec3.abs2, Vec3.dot_eq, Vec3.sub_eq, Vec3.add_eq, Vec3.smul_eq, cubicCoefficient]
    exact h.ne' hthird

/-- With the `epsilon` of `double`, that far is `2 ^ 30`. -/
theorem not_orthonormal_frames_far :
    ¬ ∀ R ∈ frames (1 / 2 ^ 52) ⟨2 ^ 30, 0, 0⟩ ⟨2 ^ 30, 1, 0⟩ ⟨2 ^ 30, 2, 0⟩ ⟨2 ^ 30, 3, 0⟩
      (0 :: [1 / 3, 2 / 3, (1 : ℝ)]), R.Orthonormal := by
  have hstart :
      ¬ (start (1 / 2 ^ 52) ⟨2 ^ 30, 0, 0⟩ ⟨2 ^ 30, 1, 0⟩ ⟨2 ^ 30, 2, 0⟩
        ⟨2 ^ 30, 3, 0⟩).Orthonormal :=
    not_orthonormal_start_of_far (by norm_num) (by norm_num) (by norm_num)
  intro hall
  exact hstart (hall _ (List.mem_cons_self ..))

end Rmf

end OkularV3d
