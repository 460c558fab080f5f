import OkularV3d.Lib.Bezier
import OkularV3d.Scene.Conservative
import OkularV3d.Scene.RealScalar

/-!
# The side of a cylinder

`cylinder` queues one bicubic patch for each quadrant. Its control points are sums of a place in the
cross-section, which depends on the row, and a height, which depends on the column, so the patch is
an arc swept along the axis (`toEuclidean_patchPoint_quadrant`). The heights of the inner columns
are written `1/3` and `2/3`, which is zero between integers: along a ruling the height runs with
`v ^ 3` and not with `v`, and only a flat cylinder is ruled linearly (`ruledLinearly_iff`).

* `toEuclidean_patchPoint_quadrant` computes a point of a quadrant, and `heightOf_quadrant` and
  `crossSection_quadrant` its two components.
* `patchPoint_quadrant_at_zero` and `patchPoint_quadrant_at_one` say that neighbouring quadrants
  join, for every cylinder.
* `upright` is a cylinder of height one (`not_ruledLinearly_upright`).
-/

namespace OkularV3d

open scoped RealInnerProductSpace

/-! ### Patches as combinations -/

theorem toEuclidean_curvePoint (p : Vector (Vec3 ℝ) 4) (t : ℝ) :
    (curvePoint p t).toEuclidean = Bezier.curve (fun i => (p.get i).toEuclidean) t := by
  rw [Bezier.curve_eq]
  ext i
  fin_cases i <;> simp [curvePoint, cubic, Vec3.toEuclidean]

/-- The control points of a patch stand in four rows of four. -/
theorem toEuclidean_patchPoint (p : Vector (Vec3 ℝ) 16) (u v : ℝ) :
    (patchPoint p u v).toEuclidean =
      Bezier.patch (fun i j => (p.get (finProdFinEquiv (i, j))).toEuclidean) u v := by
  rw [patchPoint, toEuclidean_curvePoint, Bezier.patch]
  congr 1
  funext i
  fin_cases i <;> exact toEuclidean_curvePoint _ v

/-! ### The four quadrants -/

namespace V3dCylinder

variable (o : V3dCylinder ℝ)

/-- The axis of a cylinder: the unit vector of its polar and azimuthal angles. -/
noncomputable def axis : Vec3 ℝ :=
  ⟨Real.sin o.polarAngle * Real.cos o.azimuthalAngle,
    Real.sin o.polarAngle * Real.sin o.azimuthalAngle, Real.cos o.polarAngle⟩

/-- The two directions across the axis in which `Align` puts the first two coordinates. -/
noncomputable def across : Vec3 ℝ × Vec3 ℝ :=
  (⟨Real.cos o.polarAngle * Real.cos o.azimuthalAngle,
      Real.cos o.polarAngle * Real.sin o.azimuthalAngle, -Real.sin o.polarAngle⟩,
    ⟨-Real.sin o.azimuthalAngle, Real.cos o.azimuthalAngle, 0⟩)

/-- The height of a point along the axis, from the bottom. -/
noncomputable def heightOf (q : Vec3 ℝ) : ℝ := Vec3.dot (q - o.center) o.axis

/-- The place of a point in the cross-section, as a vector from the axis. -/
noncomputable def crossSection (q : Vec3 ℝ) : Vec3 ℝ :=
  q - o.center - Vec3.smul (o.heightOf q) o.axis

/-- `unitcylinder`. -/
noncomputable def unitcylinder : Vector (Vec3 ℝ) 16 :=
  let a : ℝ := quarterArc
  let i : ℝ := Scalar.lit 1
  let z : ℝ := Scalar.lit 0
  let column (x y : ℝ) : List (Vec3 ℝ) := [⟨x, y, z⟩, ⟨x, y, z⟩, ⟨x, y, z⟩, ⟨x, y, i⟩]
  ⟨(column i z ++ column i a ++ column a i ++ column z i).toArray, rfl⟩

/-- The patch of the quadrant that is scaled by `rx` and `ry`. -/
noncomputable def quadrant (rx ry : ℝ) : Vector (Vec3 ℝ) 16 :=
  unitcylinder.map fun v =>
    (Align.ofDir o.center o.polarAngle o.azimuthalAngle).T ⟨rx * v.x, ry * v.y, o.height * v.z⟩

theorem patches_eq :
    o.patches =
      [o.quadrant (-Scalar.lit 1 * o.radius) (-Scalar.lit 1 * o.radius),
        o.quadrant (-Scalar.lit 1 * o.radius) (Scalar.lit 1 * o.radius),
        o.quadrant (Scalar.lit 1 * o.radius) (-Scalar.lit 1 * o.radius),
        o.quadrant (Scalar.lit 1 * o.radius) (Scalar.lit 1 * o.radius)] := rfl

variable (rx ry : ℝ)

/-- The curve of a quadrant in its cross-section. -/
noncomputable def arc (u : ℝ) : EuclideanSpace ℝ (Fin 3) :=
  Bezier.curve (fun i => rx * (![1, 1, quarterArc, 0] : Fin 4 → ℝ) i) u • o.across.1.toEuclidean +
    Bezier.curve (fun i => ry * (![0, quarterArc, 1, 1] : Fin 4 → ℝ) i) u • o.across.2.toEuclidean

/-- `Align::T` takes the coordinate axes to the two directions across the axis and to the axis. -/
theorem toEuclidean_T (w : Vec3 ℝ) :
    ((Align.ofDir o.center o.polarAngle o.azimuthalAngle).T w).toEuclidean =
      o.center.toEuclidean + w.x • o.across.1.toEuclidean + w.y • o.across.2.toEuclidean +
        w.z • o.axis.toEuclidean := by
  ext i
  fin_cases i
  all_goals
    simp [Vec3.toEuclidean, Align.T, Align.ofDir, across, axis]
    ring

theorem get_unitcylinder (i j : Fin 4) :
    unitcylinder.get (finProdFinEquiv (i, j)) =
      ⟨(![1, 1, quarterArc, 0] : Fin 4 → ℝ) i, (![0, quarterArc, 1, 1] : Fin 4 → ℝ) i,
        (![0, 0, 0, 1] : Fin 4 → ℝ) j⟩ := by
  have hone : (1 : ℝ) = Scalar.lit 1 := Rat.cast_one.symm
  have hzero : (0 : ℝ) = Scalar.lit 0 := Rat.cast_zero.symm
  rw [hone, hzero]
  fin_cases i <;> fin_cases j <;> rfl

/-- The control points are sums: the place in the cross-section depends on the row, the height on
the column, and the heights of the inner columns are zero. -/
theorem toEuclidean_get_quadrant (i j : Fin 4) :
    ((o.quadrant rx ry).get (finProdFinEquiv (i, j))).toEuclidean =
      (o.center.toEuclidean +
        (rx * (![1, 1, quarterArc, 0] : Fin 4 → ℝ) i) • o.across.1.toEuclidean +
        (ry * (![0, quarterArc, 1, 1] : Fin 4 → ℝ) i) • o.across.2.toEuclidean) +
      (o.height * (![0, 0, 0, 1] : Fin 4 → ℝ) j) • o.axis.toEuclidean := by
  have hget : (o.quadrant rx ry).get (finProdFinEquiv (i, j)) =
      (Align.ofDir o.center o.polarAngle o.azimuthalAngle).T
        ⟨rx * (unitcylinder.get (finProdFinEquiv (i, j))).x,
          ry * (unitcylinder.get (finProdFinEquiv (i, j))).y,
          o.height * (unitcylinder.get (finProdFinEquiv (i, j))).z⟩ :=
    Vector.getElem_map _ _
  rw [hget, toEuclidean_T, get_unitcylinder]

/-- **A point of a quadrant**: the heights along a ruling run with the cube of the parameter. -/
theorem toEuclidean_patchPoint_quadrant (u v : ℝ) :
    (patchPoint (o.quadrant rx ry) u v).toEuclidean =
      o.center.toEuclidean + o.arc rx ry u + (o.height * v ^ 3) • o.axis.toEuclidean := by
  have harc : Bezier.curve (fun i => o.center.toEuclidean +
        (rx * (![1, 1, quarterArc, 0] : Fin 4 → ℝ) i) • o.across.1.toEuclidean +
        (ry * (![0, quarterArc, 1, 1] : Fin 4 → ℝ) i) • o.across.2.toEuclidean) u =
      o.center.toEuclidean + o.arc rx ry u := by
    rw [Bezier.curve_add, Bezier.curve_add, Bezier.curve_const, Bezier.curve_smul,
      Bezier.curve_smul, arc, add_assoc]
  have hheight : Bezier.curve (fun j => o.height * (![0, 0, 0, 1] : Fin 4 → ℝ) j) v =
      o.height * v ^ 3 := by
    simp [Bezier.curve_eq, mul_comm]
  rw [toEuclidean_patchPoint]
  simp only [toEuclidean_get_quadrant]
  rw [Bezier.patch_add, harc, Bezier.curve_smul, hheight]

/-! ### Heights and cross-sections -/

theorem inner_axis_axis : ⟪o.axis.toEuclidean, o.axis.toEuclidean⟫ = 1 := by
  have htheta := Real.sin_sq_add_cos_sq o.polarAngle
  have hphi := Real.sin_sq_add_cos_sq o.azimuthalAngle
  rw [Vec3.inner_toEuclidean, Vec3.dot_eq, axis]
  linear_combination Real.sin o.polarAngle ^ 2 * hphi + htheta

theorem inner_across_axis :
    ⟪o.across.1.toEuclidean, o.axis.toEuclidean⟫ = 0 ∧
      ⟪o.across.2.toEuclidean, o.axis.toEuclidean⟫ = 0 := by
  have hphi := Real.sin_sq_add_cos_sq o.azimuthalAngle
  simp only [Vec3.inner_toEuclidean, Vec3.dot_eq, axis, across]
  constructor
  · linear_combination Real.sin o.polarAngle * Real.cos o.polarAngle * hphi
  · ring

theorem inner_arc_axis (u : ℝ) : ⟪o.arc rx ry u, o.axis.toEuclidean⟫ = 0 := by
  rw [arc, inner_add_left, real_inner_smul_left, real_inner_smul_left, o.inner_across_axis.1,
    o.inner_across_axis.2, mul_zero, mul_zero, add_zero]

/-- **The height** of a point of a quadrant is that of the end circle times the cube of `v`. -/
theorem heightOf_quadrant (u v : ℝ) :
    o.heightOf (patchPoint (o.quadrant rx ry) u v) = v ^ 3 * o.height := by
  rw [heightOf, ← Vec3.inner_toEuclidean, Vec3.toEuclidean_sub, toEuclidean_patchPoint_quadrant,
    add_assoc, add_sub_cancel_left, inner_add_left, inner_arc_axis, real_inner_smul_left,
    inner_axis_axis]
  ring

/-- The cross-section of a quadrant is its arc, at every height. -/
theorem crossSection_quadrant (u v : ℝ) :
    (o.crossSection (patchPoint (o.quadrant rx ry) u v)).toEuclidean = o.arc rx ry u := by
  rw [crossSection, heightOf_quadrant, Vec3.toEuclidean_sub, Vec3.toEuclidean_sub,
    Vec3.toEuclidean_smul, toEuclidean_patchPoint_quadrant, mul_comm o.height]
  abel

/-- Quadrants beside each other join: where they scale `x` alike, at `u = 0`. -/
theorem patchPoint_quadrant_at_zero (ry' v : ℝ) :
    patchPoint (o.quadrant rx ry) 0 v = patchPoint (o.quadrant rx ry') 0 v := by
  refine Vec3.toEuclidean_injective ?_
  rw [toEuclidean_patchPoint_quadrant, toEuclidean_patchPoint_quadrant, arc, arc]
  simp

/-- And where they scale `y` alike, at `u = 1`. -/
theorem patchPoint_quadrant_at_one (rx' v : ℝ) :
    patchPoint (o.quadrant rx ry) 1 v = patchPoint (o.quadrant rx' ry) 1 v := by
  refine Vec3.toEuclidean_injective ?_
  rw [toEuclidean_patchPoint_quadrant, toEuclidean_patchPoint_quadrant, arc, arc]
  simp

/-! ### Ruled linearly -/

/-- The side is **ruled linearly**: the height of a point is `v` times that of the cylinder, its
place in the cross-section depends on `u` only, neighbours among the four patches join along a
ruling, and the arcs at the ends lie in the planes of the two end circles. -/
structure RuledLinearly : Prop where
  height : ∀ p ∈ o.patches, ∀ u ∈ Set.Icc (0 : ℝ) 1, ∀ v ∈ Set.Icc (0 : ℝ) 1,
    o.heightOf (patchPoint p u v) = v * o.height
  crossSection : ∀ p ∈ o.patches, ∀ u ∈ Set.Icc (0 : ℝ) 1, ∀ v ∈ Set.Icc (0 : ℝ) 1,
    ∀ w ∈ Set.Icc (0 : ℝ) 1,
      o.crossSection (patchPoint p u v) = o.crossSection (patchPoint p u w)
  joins : ∃ a b c d, o.patches = [a, b, c, d] ∧ ∀ v ∈ Set.Icc (0 : ℝ) 1,
    patchPoint a 0 v = patchPoint b 0 v ∧ patchPoint b 1 v = patchPoint d 1 v ∧
      patchPoint d 0 v = patchPoint c 0 v ∧ patchPoint c 1 v = patchPoint a 1 v
  arcs : ∀ p ∈ o.patches, ∀ u ∈ Set.Icc (0 : ℝ) 1,
    o.heightOf (patchPoint p u 0) = 0 ∧ o.heightOf (patchPoint p u 1) = o.height

theorem exists_quadrant {p : Vector (Vec3 ℝ) 16} (h : p ∈ o.patches) :
    ∃ rx ry, p = o.quadrant rx ry := by
  simp only [patches_eq, List.mem_cons, List.not_mem_nil, or_false] at h
  obtain rfl | rfl | rfl | rfl := h
  all_goals exact ⟨_, _, rfl⟩

/-- **The side of a cylinder is ruled linearly** iff the cylinder is flat. All but the heights
between the ends is as it should be for every cylinder. -/
theorem ruledLinearly_iff : o.RuledLinearly ↔ o.height = 0 := by
  constructor
  · intro h
    have hmem : o.quadrant (-Scalar.lit 1 * o.radius) (-Scalar.lit 1 * o.radius) ∈ o.patches := by
      rw [patches_eq]
      exact List.mem_cons_self ..
    -- at the middle parameter the side stands at an eighth of the height, and not at the half
    have hhalf := h.height _ hmem 0 ⟨le_rfl, zero_le_one⟩ (1 / 2) ⟨by norm_num, by norm_num⟩
    rw [heightOf_quadrant] at hhalf
    linarith
  · intro hflat
    constructor
    case height =>
      intro p hp u _ v _
      obtain ⟨rx, ry, rfl⟩ := o.exists_quadrant hp
      rw [heightOf_quadrant, hflat, mul_zero, mul_zero]
    case crossSection =>
      intro p hp u _ v _ w _
      obtain ⟨rx, ry, rfl⟩ := o.exists_quadrant hp
      refine Vec3.toEuclidean_injective ?_
      rw [crossSection_quadrant, crossSection_quadrant]
    case joins =>
      refine ⟨_, _, _, _, o.patches_eq, fun v _ => ⟨?_, ?_, ?_, ?_⟩⟩
      · exact o.patchPoint_quadrant_at_zero _ _ _ v
      · exact o.patchPoint_quadrant_at_one _ _ _ v
      · exact o.patchPoint_quadrant_at_zero _ _ _ v
      · exact o.patchPoint_quadrant_at_one _ _ _ v
    case arcs =>
      intro p hp u _
      obtain ⟨rx, ry, rfl⟩ := o.exists_quadrant hp
      simp [heightOf_quadrant]

/-- A cylinder of radius and height one, on the `z` axis. -/
def upright : V3dCylinder ℝ where
  center := ⟨0, 0, 0⟩
  radius := 1
  height := 1
  centerIndex := 0
  materialIndex := 0
  polarAngle := 0
  azimuthalAngle := 0
  core := false

/-- Half way up its patches are at an eighth of the height. -/
theorem not_ruledLinearly_upright : ¬ upright.RuledLinearly := by
  intro h
  have hmem : upright.quadrant (-Scalar.lit 1 * upright.radius) (-Scalar.lit 1 * upright.radius) ∈
      upright.patches := List.mem_cons_self ..
  have hhalf := h.height _ hmem 0 ⟨le_rfl, zero_le_one⟩ (1 / 2) ⟨by norm_num, by norm_num⟩
  rw [heightOf_quadrant] at hhalf
  norm_num [upright] at hhalf

end V3dCylinder

end OkularV3d
