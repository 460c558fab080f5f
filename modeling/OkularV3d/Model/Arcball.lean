import OkularV3d.Lib.Rodrigues
import OkularV3d.Lib.Runs
import OkularV3d.Scene.RealScalar
import Mathlib.Analysis.SpecialFunctions.Trigonometric.Inverse

/-!
# The arcball and the view rotation

A drag in rotate mode turns the model about the axis across which the arcball is rolled
(`Arcball::Arcball`), and `rotateMat` accumulates the turns (`V3dModel::dragModeRotate`). Everything
is read over the real numbers, where normalising the zero vector is an error: the code divides by
its length.

`rotationSound_along_iff` says when a run is free of that error and keeps `rotateMat` a rotation:
iff no drag of a noticeable length goes between two points on or outside the rim of the arcball that
are in line with its centre.

* `Arcball.mk?` and `dragModeRotate` fail where the code normalises a zero vector; `RotationStep` is
  what the user does in between.
* `norm_cases` places the point of the ball over the mouse, and `cross_norm_eq_zero_iff` says where
  two such points have no axis.
* `dragModeRotate_iff` is the step lemma: the drag succeeds iff it is `OffLine`, and then a rotation
  stays one (`IsRotation`). The rotation itself comes from `OkularV3d.Lib.Rodrigues`.
* `not_rotationSound_horizontal` is a family of failing drags: along the horizontal through the
  centre, between points on or outside the rim.
-/

namespace OkularV3d

open Runs

/-- `glm::length` of a plane vector, and `std::hypot`. -/
noncomputable def Vec2.length (v : Vec2 ℝ) : ℝ := Real.sqrt (v.x ^ 2 + v.y ^ 2)

/-- `glm::length`. -/
noncomputable def Vec3.length (v : Vec3 ℝ) : ℝ := Real.sqrt (v.dot v)

open scoped Classical in
/-- `glm::normalize`, an error for the zero vector. -/
noncomputable def Vec3.normalize? (v : Vec3 ℝ) : Option (Vec3 ℝ) :=
  if v.length = 0 then none else some ⟨v.x / v.length, v.y / v.length, v.z / v.length⟩

/-- `Arcball`. -/
structure Arcball where
  angle : ℝ
  axis : Vec3 ℝ

namespace Arcball

open scoped Classical in
/-- `Arcball::norm`: the point of the unit ball above a point of the disc, or on the rim below a
point outside. -/
noncomputable def norm (v : Vec2 ℝ) : Vec3 ℝ :=
  let v := if v.length > 1 then ⟨v.x * (1 / v.length), v.y * (1 / v.length)⟩ else v
  ⟨v.x, v.y, Real.sqrt (max (1 - v.x * v.x - v.y * v.y) 0)⟩

open scoped Classical in
/-- `Arcball::Arcball`. -/
noncomputable def mk? (lastMousePosition mousePosition : Vec2 ℝ) : Option Arcball :=
  let v0 := norm lastMousePosition
  let v1 := norm mousePosition
  let Dot := v0.dot v1
  let angle := if Dot > 1 then 0 else if Dot < -1 then Real.pi else Real.arccos Dot
  (Vec3.cross v0 v1).normalize?.map fun axis => ⟨angle, axis⟩

end Arcball

/-- What a `V3dModel` knows of its rotation. -/
structure RotationState where
  rotateMat : Matrix (Fin 4) (Fin 4) ℝ
  Zoom : {z : ℝ // 0 < z}
  Zoom0 : {z : ℝ // 0 < z}

/-- A step of the user: a drag between two positions on the model, both in `[0, 1]` over it;
the home key; a change of the draw mode; or a change of the zoom. -/
inductive RotationStep where
  | dragRotate (normalizedMousePosition lastNormalizedMousePosition : Vec2 ℝ)
  | home
  | cycleMode
  | zoom (Zoom : {z : ℝ // 0 < z})

namespace RotationState

/-- A model as it is loaded. -/
def init (initialZoom : {z : ℝ // 0 < z}) : RotationState := ⟨1, initialZoom, initialZoom⟩

/-- A position over the model, in normalised device coordinates. -/
def ndc (p : Vec2 ℝ) : Vec2 ℝ := ⟨p.x * 2 - 1, 1 - p.y * 2⟩

/-- `glm::rotate` of the identity, which normalises the axis once more. -/
noncomputable def rotate (angle : ℝ) (axis : Vec3 ℝ) : Option (Matrix (Fin 4) (Fin 4) ℝ) :=
  axis.normalize?.map fun axis => rotation angle axis.x axis.y axis.z

open scoped Classical in
/-- `V3dModel::dragModeRotate`; `none` where it normalises the zero vector. -/
noncomputable def dragModeRotate (s : RotationState) (curr last : Vec2 ℝ) : Option RotationState :=
  if curr = last then some s
  else if Vec2.length ⟨curr.x - last.x, curr.y - last.y⟩ < 0.001 then some s
  else
    (Arcball.mk? (ndc last) (ndc curr)).bind fun arcball =>
      if arcball.axis.length < 0.001 then some s
      else
        (rotate (2 * arcball.angle / s.Zoom * 1) arcball.axis).map fun temp =>
          { s with rotateMat := temp * s.rotateMat }

/-- `V3dModel::home`, as far as the rotation goes. -/
def home (s : RotationState) : RotationState := { s with rotateMat := 1, Zoom := s.Zoom0 }

/-- One step; `none` where it normalises the zero vector. -/
noncomputable def step (s : RotationState) : RotationStep → Option RotationState
  | .dragRotate curr last => s.dragModeRotate curr last
  | .home => some s.home
  | .cycleMode => some s
  | .zoom Zoom => some { s with Zoom }

/-- The state after a step. -/
noncomputable def next (s : RotationState) (a : RotationStep) : RotationState := (s.step a).getD s

/-- `rotateMat` is **a rotation**. -/
def IsRotation (s : RotationState) : Prop :=
  s.rotateMat ∈ Matrix.specialOrthogonalGroup (Fin 4) ℝ

/-- A step normalises no zero vector and leaves `rotateMat` a rotation. -/
def RotationSound (s : RotationState) (a : RotationStep) : Prop :=
  ∃ s', s.step a = some s' ∧ s'.IsRotation

/-- The condition on a step: a drag that is not too short to be noticed does not go between two
points on or outside the rim that are in line with the centre. -/
def OffLine (_ : RotationState) : RotationStep → Prop
  | .dragRotate curr last =>
    0.001 ≤ Vec2.length ⟨curr.x - last.x, curr.y - last.y⟩ →
      1 ≤ (ndc last).length → 1 ≤ (ndc curr).length →
        (ndc last).x * (ndc curr).y ≠ (ndc last).y * (ndc curr).x
  | _ => True

end RotationState

/-! ### Vectors -/

theorem Vec2.eq_of_coordinates {u v : Vec2 ℝ} (hx : u.x = v.x) (hy : u.y = v.y) : u = v := by
  obtain ⟨x, y⟩ := u
  obtain ⟨x', y'⟩ := v
  obtain rfl : x = x' := hx
  obtain rfl : y = y' := hy
  rfl

theorem Vec2.length_nonneg (v : Vec2 ℝ) : 0 ≤ v.length := Real.sqrt_nonneg _

theorem Vec2.length_sq (v : Vec2 ℝ) : v.length ^ 2 = v.x ^ 2 + v.y ^ 2 := by
  have hnonneg : 0 ≤ v.x ^ 2 + v.y ^ 2 := by positivity
  exact Real.sq_sqrt hnonneg

theorem Vec3.dot_self (v : Vec3 ℝ) : v.dot v = v.x ^ 2 + v.y ^ 2 + v.z ^ 2 := by
  have hdot : v.dot v = v.x * v.x + v.y * v.y + v.z * v.z := rfl
  rw [hdot]
  ring

theorem Vec3.length_sq (v : Vec3 ℝ) : v.length ^ 2 = v.x ^ 2 + v.y ^ 2 + v.z ^ 2 := by
  have hnonneg : 0 ≤ v.dot v := by
    rw [Vec3.dot_self]
    positivity
  rw [Vec3.length, Real.sq_sqrt hnonneg, Vec3.dot_self]

theorem Vec3.length_eq_zero_iff (v : Vec3 ℝ) : v.length = 0 ↔ v.x = 0 ∧ v.y = 0 ∧ v.z = 0 := by
  rw [← sq_eq_zero_iff, Vec3.length_sq]
  constructor
  · intro h
    have hx : v.x ^ 2 = 0 := by nlinarith [sq_nonneg v.x, sq_nonneg v.y, sq_nonneg v.z]
    have hy : v.y ^ 2 = 0 := by nlinarith [sq_nonneg v.x, sq_nonneg v.y, sq_nonneg v.z]
    have hz : v.z ^ 2 = 0 := by nlinarith [sq_nonneg v.x, sq_nonneg v.y, sq_nonneg v.z]
    exact ⟨sq_eq_zero_iff.mp hx, sq_eq_zero_iff.mp hy, sq_eq_zero_iff.mp hz⟩
  · rintro ⟨hx, hy, hz⟩
    rw [hx, hy, hz]
    ring

/-- A vector is normalised to length one, unless it is zero. -/
theorem Vec3.normalize?_cases (v : Vec3 ℝ) :
    (v.length = 0 ∧ v.normalize? = none) ∨
      v.length ≠ 0 ∧ ∃ u : Vec3 ℝ, v.normalize? = some u ∧ u.x ^ 2 + u.y ^ 2 + u.z ^ 2 = 1 := by
  by_cases h : v.length = 0
  · exact .inl ⟨h, if_pos h⟩
  · refine .inr ⟨h, _, if_neg h, ?_⟩
    have hsq := v.length_sq
    field_simp
    exact hsq.symm

theorem Vec3.length_of_unit {u : Vec3 ℝ} (h : u.x ^ 2 + u.y ^ 2 + u.z ^ 2 = 1) : u.length = 1 := by
  rw [Vec3.length, Vec3.dot_self, h, Real.sqrt_one]

/-! ### Points of the ball -/

namespace Arcball

/-- **The point above or below `p`** on the unit ball: strictly inside the disc it stands above
`p`, else it lies on the rim in the direction of `p`. -/
theorem norm_cases (p : Vec2 ℝ) :
    (norm p).x ^ 2 + (norm p).y ^ 2 + (norm p).z ^ 2 = 1 ∧
      ((p.length < 1 ∧ 0 < (norm p).z ∧ (norm p).x = p.x ∧ (norm p).y = p.y) ∨
        (1 ≤ p.length ∧ (norm p).z = 0 ∧
          ∃ k, 0 < k ∧ (norm p).x = k * p.x ∧ (norm p).y = k * p.y)) := by
  have hsq := p.length_sq
  have hnonneg := p.length_nonneg
  by_cases hout : p.length > 1
  · -- outside, the code divides by the length and is left with no height
    have hpos : p.length ≠ 0 := by linarith
    have hrim : (p.x * (1 / p.length)) ^ 2 + (p.y * (1 / p.length)) ^ 2 = 1 := by
      field_simp
      exact hsq.symm
    have hz : (norm p).z = 0 := by
      have hmax : max (1 - p.x * (1 / p.length) * (p.x * (1 / p.length)) -
          p.y * (1 / p.length) * (p.y * (1 / p.length))) 0 = 0 := max_eq_right (by nlinarith)
      simp only [norm, if_pos hout, hmax, Real.sqrt_zero]
    have hx : (norm p).x = 1 / p.length * p.x := by simp only [norm, if_pos hout, mul_comm]
    have hy : (norm p).y = 1 / p.length * p.y := by simp only [norm, if_pos hout, mul_comm]
    refine ⟨?_, .inr ⟨hout.le, hz, 1 / p.length, by positivity, hx, hy⟩⟩
    rw [hx, hy, hz]
    linarith
  · -- inside and on the rim, the point keeps its place
    have hx : (norm p).x = p.x := by simp only [norm, if_neg hout]
    have hy : (norm p).y = p.y := by simp only [norm, if_neg hout]
    have hle : p.x ^ 2 + p.y ^ 2 ≤ 1 := by nlinarith
    have hz : (norm p).z = Real.sqrt (1 - p.x ^ 2 - p.y ^ 2) := by
      have hmax : max (1 - p.x * p.x - p.y * p.y) 0 = 1 - p.x ^ 2 - p.y ^ 2 := by
        rw [max_eq_left (by nlinarith)]
        ring
      simp only [norm, if_neg hout, hmax]
    have hz2 : (norm p).z ^ 2 = 1 - p.x ^ 2 - p.y ^ 2 := by
      rw [hz, Real.sq_sqrt (by linarith)]
    refine ⟨by rw [hx, hy, hz2]; ring, ?_⟩
    rcases lt_or_ge p.length 1 with hin | hrim
    · refine .inl ⟨hin, ?_, hx, hy⟩
      rw [hz]
      exact Real.sqrt_pos.mpr (by nlinarith)
    · -- on the rim, where the point is kept and has no height
      have hone : p.length = 1 := by linarith
      rw [hone] at hsq
      refine .inr ⟨hrim, ?_, 1, one_pos, by rw [hx, one_mul], by rw [hy, one_mul]⟩
      rw [hz, show 1 - p.x ^ 2 - p.y ^ 2 = 0 by linarith, Real.sqrt_zero]

/-- A point above the disc and a point of the rim are never in line with the centre of the ball. -/
theorem not_parallel_rim {z x' y' : ℝ} (hz : 0 < z) (hunit : x' ^ 2 + y' ^ 2 = 1)
    (hy : z * y' = 0) (hx : z * x' = 0) : False := by
  have hy' : y' = 0 := (mul_eq_zero.mp hy).resolve_left hz.ne'
  have hx' : x' = 0 := (mul_eq_zero.mp hx).resolve_left hz.ne'
  rw [hx', hy'] at hunit
  norm_num at hunit

/-- Two points above the disc that are in line with the centre of the ball are the same. -/
theorem eq_of_parallel {x y z x' y' z' : ℝ} (hz : 0 < z) (hz' : 0 < z')
    (hunit : x ^ 2 + y ^ 2 + z ^ 2 = 1) (hunit' : x' ^ 2 + y' ^ 2 + z' ^ 2 = 1)
    (hy : y * z' = z * y') (hx : x * z' = z * x') : x = x' ∧ y = y' := by
  have hsq : z ^ 2 = z' ^ 2 := by
    calc z ^ 2 = (z * x') ^ 2 + (z * y') ^ 2 + z ^ 2 * z' ^ 2 := by
          linear_combination -z ^ 2 * hunit'
      _ = (x * z') ^ 2 + (y * z') ^ 2 + z ^ 2 * z' ^ 2 := by rw [hx, hy]
      _ = z' ^ 2 := by linear_combination z' ^ 2 * hunit
  have heq : z = z' := (pow_left_inj₀ hz.le hz'.le two_ne_zero).mp hsq
  subst heq
  rw [mul_comm z] at hx hy
  exact ⟨mul_right_cancel₀ hz.ne' hx, mul_right_cancel₀ hz.ne' hy⟩

/-- **The axis is zero** iff the points are the same, or both lie on or outside the rim in line with
the centre. -/
theorem cross_norm_eq_zero_iff (a b : Vec2 ℝ) :
    (Vec3.cross (norm a) (norm b)).length = 0 ↔
      a = b ∨ 1 ≤ a.length ∧ 1 ≤ b.length ∧ a.x * b.y = a.y * b.x := by
  obtain ⟨hunit, ha⟩ := norm_cases a
  obtain ⟨hunit', hb⟩ := norm_cases b
  have hcross : (Vec3.cross (norm a) (norm b)).length = 0 ↔
      (norm a).y * (norm b).z - (norm a).z * (norm b).y = 0 ∧
        (norm a).z * (norm b).x - (norm a).x * (norm b).z = 0 ∧
          (norm a).x * (norm b).y - (norm a).y * (norm b).x = 0 :=
    Vec3.length_eq_zero_iff _
  rw [hcross]
  constructor
  · rintro ⟨hyz, hzx, hxy⟩
    -- above the disc parallel points are equal, and no point there is parallel to one of the rim
    rcases ha with ⟨-, hza, hxa, hya⟩ | ⟨houta, hza, k, hk, hxa, hya⟩
    · rcases hb with ⟨-, hzb, hxb, hyb⟩ | ⟨-, hzb, -⟩
      · obtain ⟨hx, hy⟩ := eq_of_parallel hza hzb hunit hunit' (by linarith) (by linarith)
        rw [hxa, hxb] at hx
        rw [hya, hyb] at hy
        exact .inl (Vec2.eq_of_coordinates hx hy)
      · have hrim : (norm b).x ^ 2 + (norm b).y ^ 2 = 1 := by simpa [hzb] using hunit'
        have hy : (norm a).z * (norm b).y = 0 := by simpa [hzb] using hyz
        have hx : (norm a).z * (norm b).x = 0 := by simpa [hzb] using hzx
        exact (not_parallel_rim hza hrim hy hx).elim
    · rcases hb with ⟨-, hzb, -, -⟩ | ⟨houtb, hzb, k', hk', hxb, hyb⟩
      · have hrim : (norm a).x ^ 2 + (norm a).y ^ 2 = 1 := by simpa [hza] using hunit
        have hy : (norm b).z * (norm a).y = 0 := by rw [hza] at hyz; linarith
        have hx : (norm b).z * (norm a).x = 0 := by rw [hza] at hzx; linarith
        exact (not_parallel_rim hzb hrim hy hx).elim
      · rw [hxa, hya, hxb, hyb] at hxy
        have hline : k * k' * (a.x * b.y - a.y * b.x) = 0 := by linear_combination hxy
        have hline' := (mul_eq_zero.mp hline).resolve_left (mul_pos hk hk').ne'
        exact .inr ⟨houta, houtb, by linarith⟩
  · rintro (rfl | ⟨houta, houtb, hline⟩)
    · refine ⟨?_, ?_, ?_⟩ <;> ring
    · rcases ha with ⟨hin, -⟩ | ⟨-, hza, k, -, hxa, hya⟩
      · linarith
      rcases hb with ⟨hin, -⟩ | ⟨-, hzb, k', -, hxb, hyb⟩
      · linarith
      rw [hza, hzb, hxa, hya, hxb, hyb]
      refine ⟨by ring, by ring, ?_⟩
      linear_combination k * k' * hline

/-- The arcball of two positions fails iff its axis would be zero, and has an axis of length one
otherwise. -/
theorem mk?_cases (last curr : Vec2 ℝ) :
    ((Vec3.cross (norm last) (norm curr)).length = 0 ∧ mk? last curr = none) ∨
      (Vec3.cross (norm last) (norm curr)).length ≠ 0 ∧ ∃ arcball, mk? last curr = some arcball ∧
        arcball.axis.x ^ 2 + arcball.axis.y ^ 2 + arcball.axis.z ^ 2 = 1 := by
  rcases Vec3.normalize?_cases (Vec3.cross (norm last) (norm curr)) with
    ⟨hzero, hnone⟩ | ⟨hne, axis, hsome, hunit⟩
  · exact .inl ⟨hzero, by simp only [mk?, hnone, Option.map_none]⟩
  · exact .inr ⟨hne, _, by simp only [mk?, hsome, Option.map_some]; rfl, hunit⟩

end Arcball

/-! ### Steps and runs -/

namespace RotationState

variable {s : RotationState}

/-- About an axis of length one `glm::rotate` is a rotation. -/
theorem rotate_of_unit (angle : ℝ) {axis : Vec3 ℝ}
    (hunit : axis.x ^ 2 + axis.y ^ 2 + axis.z ^ 2 = 1) :
    ∃ temp ∈ Matrix.specialOrthogonalGroup (Fin 4) ℝ, rotate angle axis = some temp := by
  have hlength := Vec3.length_of_unit hunit
  rcases Vec3.normalize?_cases axis with ⟨hzero, -⟩ | ⟨-, u, hu, hunit'⟩
  · rw [hlength] at hzero
    exact absurd hzero one_ne_zero
  · exact ⟨_, rotation_mem angle hunit', by rw [rotate, hu, Option.map_some]⟩

/-- Positions that differ do so in device coordinates. -/
theorem ndc_ne {p q : Vec2 ℝ} (h : p ≠ q) : ndc p ≠ ndc q := by
  intro heq
  have hx : p.x * 2 - 1 = q.x * 2 - 1 := congrArg Vec2.x heq
  have hy : 1 - p.y * 2 = 1 - q.y * 2 := congrArg Vec2.y heq
  exact h (Vec2.eq_of_coordinates (by linarith) (by linarith))

/-- A drag that is not noticed meets the condition. -/
theorem offLine_of_short {curr last : Vec2 ℝ}
    (h : Vec2.length ⟨curr.x - last.x, curr.y - last.y⟩ < 0.001) :
    OffLine s (.dragRotate curr last) := fun hlong => absurd hlong (not_le.mpr h)

/-- **Step lemma**: a drag normalises no zero vector iff it meets the condition, and then keeps a
rotation. -/
theorem dragModeRotate_iff (hs : s.IsRotation) (curr last : Vec2 ℝ) :
    RotationSound s (.dragRotate curr last) ↔ OffLine s (.dragRotate curr last) := by
  have hsame : s.dragModeRotate curr last = some s → RotationSound s (.dragRotate curr last) :=
    fun h => ⟨s, h, hs⟩
  by_cases heq : curr = last
  · have hzero : Vec2.length ⟨curr.x - last.x, curr.y - last.y⟩ = 0 := by simp [heq, Vec2.length]
    exact iff_of_true (hsame (if_pos heq)) (offLine_of_short (by rw [hzero]; norm_num))
  by_cases hshort : Vec2.length ⟨curr.x - last.x, curr.y - last.y⟩ < 0.001
  · refine iff_of_true (hsame ?_) (offLine_of_short hshort)
    rw [dragModeRotate, if_neg heq, if_pos hshort]
  have haxis := Arcball.cross_norm_eq_zero_iff (ndc last) (ndc curr)
  have hne : ndc last ≠ ndc curr := ndc_ne (Ne.symm heq)
  rcases Arcball.mk?_cases (ndc last) (ndc curr) with
    ⟨hzero, hnone⟩ | ⟨hnonzero, arcball, hsome, hunit⟩
  · -- the axis is the zero vector
    obtain ⟨hlast, hcurr, hline⟩ := (haxis.mp hzero).resolve_left hne
    refine iff_of_false ?_ fun h => h (not_lt.mp hshort) hlast hcurr hline
    rintro ⟨s', hs', -⟩
    rw [step, dragModeRotate, if_neg heq, if_neg hshort, hnone] at hs'
    cases hs'
  · have hlong : ¬ arcball.axis.length < 0.001 := by
      rw [Vec3.length_of_unit hunit]
      norm_num
    obtain ⟨temp, htemp, hrotate⟩ := rotate_of_unit (2 * arcball.angle / s.Zoom * 1) hunit
    refine iff_of_true ⟨{ s with rotateMat := temp * s.rotateMat }, ?_, mul_mem htemp hs⟩ ?_
    · rw [step, dragModeRotate, if_neg heq, if_neg hshort, hsome, Option.bind_some, if_neg hlong,
        hrotate, Option.map_some]
    · exact fun _ hlast hcurr hline => hnonzero (haxis.mpr (.inr ⟨hlast, hcurr, hline⟩))

/-- The other steps leave `rotateMat` alone or reset it. -/
theorem rotationSound_iff (hs : s.IsRotation) (a : RotationStep) :
    RotationSound s a ↔ OffLine s a := by
  cases a with
  | dragRotate curr last => exact dragModeRotate_iff hs curr last
  | home => exact iff_of_true ⟨s.home, rfl, one_mem _⟩ trivial
  | cycleMode => exact iff_of_true ⟨s, rfl, hs⟩ trivial
  | zoom Zoom => exact iff_of_true ⟨{ s with Zoom }, rfl, hs⟩ trivial

/-- A sound step keeps the invariant. -/
theorem RotationSound.isRotation {a : RotationStep} (h : RotationSound s a) :
    (s.next a).IsRotation := by
  obtain ⟨s', hs', hrotation⟩ := h
  rw [next, hs', Option.getD_some]
  exact hrotation

/-- **The view rotation stays a rotation** and no zero vector is normalised, along a run from a
loaded model, iff no drag of a noticeable length goes between two points on or outside the rim that
are in line with the centre. -/
theorem rotationSound_along_iff (initialZoom : {z : ℝ // 0 < z}) (as : List RotationStep) :
    Along next RotationSound (init initialZoom) as ↔
      Along next OffLine (init initialZoom) as := by
  have hiff : ∀ (s : RotationState) (a : RotationStep), s.IsRotation →
      (RotationSound s a ↔ OffLine s a) := fun _ a hs => rotationSound_iff hs a
  have hstep : ∀ (s : RotationState) (a : RotationStep), s.IsRotation → OffLine s a →
      (s.next a).IsRotation := fun s a hs ha => ((hiff s a hs).mpr ha).isRotation
  have hinit : (init initialZoom).IsRotation := one_mem _
  exact along_iff_of_invariant hiff hstep hinit as

/-- Two positions on the horizontal through the centre. -/
theorem not_rotationSound_horizontal {x x' : ℝ} (hfar : 0.001 ≤ |x' - x|)
    (hout : 1 ≤ |x * 2 - 1|) (hout' : 1 ≤ |x' * 2 - 1|) :
    ¬ Along next RotationSound (init ⟨1, one_pos⟩) [.dragRotate ⟨x', 1 / 2⟩ ⟨x, 1 / 2⟩] := by
  have hlength : ∀ d y : ℝ, y = 0 → Vec2.length ⟨d, y⟩ = |d| := by
    rintro d _ rfl
    rw [Vec2.length, zero_pow two_ne_zero, add_zero, Real.sqrt_sq_eq_abs]
  rintro ⟨hsound, -⟩
  refine (rotationSound_iff (one_mem _) _).mp hsound ?_ ?_ ?_ ?_
  · rwa [hlength _ _ (by ring)]
  · rwa [ndc, hlength _ _ (by norm_num)]
  · rwa [ndc, hlength _ _ (by norm_num)]
  · norm_num [ndc]

/-- From the middle of the left edge of the model to the middle of the right one, and from there
outwards. -/
theorem not_rotationSound_edges :
    ¬ Along next RotationSound (init ⟨1, one_pos⟩) [.dragRotate ⟨1, 1 / 2⟩ ⟨0, 1 / 2⟩] ∧
      ¬ Along next RotationSound (init ⟨1, one_pos⟩) [.dragRotate ⟨2, 1 / 2⟩ ⟨1, 1 / 2⟩] :=
  ⟨not_rotationSound_horizontal (by norm_num) (by norm_num) (by norm_num),
    not_rotationSound_horizontal (by norm_num) (by norm_num) (by norm_num)⟩

end RotationState

end OkularV3d
