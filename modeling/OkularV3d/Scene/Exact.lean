import OkularV3d.Lib.Clip
import OkularV3d.Scene.Culling
import Mathlib.Algebra.Order.Field.Rat
import Mathlib.GroupTheory.GroupAction.Ring
import Mathlib.Tactic.Ring

/-!
# Exact arithmetic

What `bbox2::offscreen` decides, in an ordered field: the projections of the points it was given all
lie beyond one edge of the screen, by a margin of one hundredth (`BBox2.offscreen_ofPoints_iff`).
With `OkularV3d.Lib.Clip` this is the case in which a culling test is right.

`ExactScalar` is an ordered field with the three functions of `Scalar` that need not be field
operations. Every finite `double` is a rational number, so the results are about all values the
code computes with, up to the rounding of its operations.

* `projection` has the homogeneous coordinates of the vertex shader as linear maps, and `clipVolume`
  is what of space is drawn.
* `bounds_eq` and `foldl_bounds` compute the rectangle of some points.
* `OneSide` says of the points of a test that all are in front of the eye, or all behind it.
* `InBox.mem_hull`: a point in a box is between the corners of the box.
-/

namespace OkularV3d

/-- An ordered field whose operations stand for those of a floating-point type. -/
class ExactScalar (K : Type) extends Field K, LinearOrder K, IsStrictOrderedRing K where
  sqrt : K → K
  cos : K → K
  sin : K → K

instance : ExactScalar ℚ where
  sqrt := Scalar.sqrt
  cos := Scalar.cos
  sin := Scalar.sin

variable {K : Type} [ExactScalar K]

instance (priority := low) ExactScalar.toScalar : Scalar K where
  lit q := q
  lt a b := decide (a < b)
  eq a b := decide (a = b)
  isNormal a := decide (a ≠ 0)
  sqrt := ExactScalar.sqrt
  cos := ExactScalar.cos
  sin := ExactScalar.sin

/-- Nothing is rounded. -/
instance (priority := low) ExactScalar.toRounding : Rounding K K where
  narrow a := a
  widen a := a

/-- `std::min` and `std::max` are those of the order. -/
theorem scalarMin_eq (a b : K) : Scalar.min a b = min a b := by
  have hlt : (Scalar.lt b a : Bool) = decide (b < a) := rfl
  rw [Scalar.min, hlt]
  by_cases h : b < a
  · rw [decide_eq_true h, if_pos rfl, min_eq_right h.le]
  · rw [decide_eq_false h, if_neg Bool.false_ne_true, min_eq_left (not_lt.mp h)]

theorem scalarMax_eq (a b : K) : Scalar.max a b = max a b := by
  have hlt : (Scalar.lt a b : Bool) = decide (a < b) := rfl
  rw [Scalar.max, hlt]
  by_cases h : a < b
  · rw [decide_eq_true h, if_pos rfl, max_eq_right h.le]
  · rw [decide_eq_false h, if_neg Bool.false_ne_true, max_eq_left (not_lt.mp h)]

namespace Vec3

/-- A vector as a point of Mathlib's product space. -/
def toProd {R : Type} (v : Vec3 R) : R × R × R := (v.x, v.y, v.z)

@[simp] theorem toProd_mk {R : Type} (x y z : R) : (Vec3.mk x y z).toProd = (x, y, z) := rfl

/-- The convex hull of finitely many points. -/
def hull (vs : List (Vec3 K)) : Set (Vec3 K) :=
  Set.preimage toProd (convexHull K (toProd '' {v | v ∈ vs}))

theorem mem_hull {vs : List (Vec3 K)} {v : Vec3 K} (h : v ∈ vs) : v ∈ hull vs :=
  subset_convexHull K _ ⟨v, h, rfl⟩

/-- A hull lies in another as soon as its points do. -/
theorem hull_subset {vs ws : List (Vec3 K)} (h : ∀ v ∈ vs, v ∈ hull ws) : hull vs ⊆ hull ws := by
  intro p hp
  refine convexHull_min ?_ (convex_convexHull K _) hp
  rintro _ ⟨v, hv, rfl⟩
  exact h v hv

end Vec3

/-! ### The projection -/

/-- One homogeneous coordinate of `projViewMat*(v, 1)`. -/
def clipRow (projViewMat : Mat4 K) (i : Fin 16) : K × K × K →ᵃ[K] K where
  toFun p := projViewMat i * p.1 + projViewMat (i + 4) * p.2.1 + projViewMat (i + 8) * p.2.2 +
    projViewMat (i + 12)
  linear := projViewMat i • LinearMap.fst K K (K × K) +
    projViewMat (i + 4) • (LinearMap.fst K K K).comp (LinearMap.snd K K (K × K)) +
    projViewMat (i + 8) • (LinearMap.snd K K K).comp (LinearMap.snd K K (K × K))
  map_vadd' p v := by
    simp only [vadd_eq_add, Prod.fst_add, Prod.snd_add, LinearMap.add_apply, LinearMap.smul_apply,
      LinearMap.comp_apply, LinearMap.fst_apply, LinearMap.snd_apply, smul_eq_mul]
    ring

/-- The homogeneous coordinates the vertex shader computes: `projViewMat * vec4(position, 1)`. -/
def projection (projViewMat : Mat4 K) : Projection K (K × K × K) where
  x := clipRow projViewMat 0
  y := clipRow projViewMat 1
  z := clipRow projViewMat 2
  w := clipRow projViewMat 3

/-- `Transform2T` divides the first two by the last. -/
theorem transform2T_eq (projViewMat : Mat4 K) (v : Vec3 K) :
    transform2T projViewMat v =
      ⟨(projection projViewMat).x v.toProd / (projection projViewMat).w v.toProd,
        (projection projViewMat).y v.toProd / (projection projViewMat).w v.toProd⟩ := by
  have hone : (Scalar.lit 1 : K) = 1 := Rat.cast_one
  have hdiv : ∀ a b : K, a * (Scalar.lit 1 / b) = a / b := fun a b => by
    rw [hone]
    exact mul_one_div a b
  simp only [transform2T, hdiv]
  rfl

/-- The points that are drawn under a projection. -/
def clipVolume (projViewMat : Mat4 K) : Set (Vec3 K) :=
  Set.preimage Vec3.toProd (projection projViewMat).clipVolume

instance (projViewMat : Mat4 K) (p : Vec3 K) : Decidable (p ∈ clipVolume projViewMat) :=
  inferInstanceAs (Decidable (_ ∧ _ ∧ _ ∧ _ ∧ _ ∧ _))

/-! ### The bounding rectangle -/

namespace BBox2

/-- The half width of the screen `offscreen` tests against. -/
def margin : K := 1 + 1 / 100

theorem one_le_margin : (1 : K) ≤ margin := by
  have : (0 : K) ≤ 1 / 100 := by positivity
  rw [margin]
  linarith

/-- The rectangle is not inside out. -/
def Proper (box : BBox2 K) : Prop := box.x ≤ box.X ∧ box.y ≤ box.Y

/-- `bounds` in the terms of the order: the smallest rectangle around both. -/
theorem bounds_eq {box : BBox2 K} (h : box.Proper) (V : Vec2 K) :
    box.bounds V = ⟨min V.x box.x, min V.y box.y, max V.x box.X, max V.y box.Y⟩ := by
  obtain ⟨hx, hy⟩ := h
  -- the code skips the second comparison when the first holds
  have hmin : ∀ a b : K, (if Scalar.lt a b then a else b) = min a b := by
    intro a b
    have hlt : (Scalar.lt a b : Bool) = decide (a < b) := rfl
    by_cases hab : a < b
    · rw [hlt, decide_eq_true hab, if_pos rfl, min_eq_left hab.le]
    · rw [hlt, decide_eq_false hab, if_neg Bool.false_ne_true, min_eq_right (not_lt.mp hab)]
  have hmax : ∀ a b B : K, b ≤ B →
      (if Scalar.lt a b then B else if Scalar.lt B a then a else B) = max a B := by
    intro a b B hbB
    have hlt : ∀ c d : K, (Scalar.lt c d : Bool) = decide (c < d) := fun _ _ => rfl
    simp only [hlt, decide_eq_true_eq]
    by_cases hab : a < b
    · rw [if_pos hab, max_eq_right (hab.le.trans hbB)]
    · rw [if_neg hab]
      by_cases hBa : B < a
      · rw [if_pos hBa, max_eq_left hBa.le]
      · rw [if_neg hBa, max_eq_right (not_lt.mp hBa)]
  rw [bounds, hmin, hmin, hmax _ _ _ hx, hmax _ _ _ hy]

theorem Proper.bounds {box : BBox2 K} (h : box.Proper) (V : Vec2 K) : (box.bounds V).Proper := by
  rw [bounds_eq h]
  exact ⟨(min_le_left _ _).trans (le_max_left _ _), (min_le_left _ _).trans (le_max_left _ _)⟩

/-- A rectangle lies beyond an edge iff the points it was extended by do. -/
theorem foldl_bounds (projViewMat : Mat4 K) (vs : List (Vec3 K)) {box : BBox2 K} (h : box.Proper)
    (m : K) :
    let project := transform2T projViewMat
    let all := vs.foldl (fun box p => box.bounds (project p)) box
    (all.X < m ↔ box.X < m ∧ ∀ v ∈ vs, (project v).x < m) ∧
      (m < all.x ↔ m < box.x ∧ ∀ v ∈ vs, m < (project v).x) ∧
      (all.Y < m ↔ box.Y < m ∧ ∀ v ∈ vs, (project v).y < m) ∧
      (m < all.y ↔ m < box.y ∧ ∀ v ∈ vs, m < (project v).y) := by
  induction vs generalizing box with
  | nil => simp
  | cons v vs ih =>
    simp only [List.foldl_cons, List.forall_mem_cons]
    have hbox := bounds_eq h (transform2T projViewMat v)
    obtain ⟨hX, hx, hY, hy⟩ := ih (h.bounds (transform2T projViewMat v))
    rw [hX, hx, hY, hy, hbox]
    simp only [max_lt_iff, lt_min_iff, and_assoc, and_left_comm, and_self]

theorem offscreen_eq (box : BBox2 K) :
    box.offscreen = true ↔
      box.X < -margin ∨ margin < box.x ∨ box.Y < -margin ∨ margin < box.y := by
  have hlt : ∀ a b : K, (Scalar.lt a b : Bool) = decide (a < b) := fun _ _ => rfl
  have hmargin : (Scalar.lit 1 + Scalar.lit (1 / 100) : K) = margin := by
    change ((1 : ℚ) : K) + ((1 / 100 : ℚ) : K) = 1 + 1 / 100
    push_cast
    rfl
  have hneg : (-Scalar.lit 1 - Scalar.lit (1 / 100) : K) = -margin := by
    change -((1 : ℚ) : K) - ((1 / 100 : ℚ) : K) = -(1 + 1 / 100)
    push_cast
    ring
  simp only [offscreen, hlt, Bool.or_eq_true, decide_eq_true_eq, hmargin, hneg, or_assoc]

/-- **What the test decides.** The rectangle of projected points is offscreen iff the points are
all beyond one edge of the screen. -/
theorem offscreen_ofPoints_iff (projViewMat : Mat4 K) (v : Vec3 K) (vs : List (Vec3 K)) :
    (ofPoints projViewMat v vs).offscreen = true ↔
      (projection projViewMat).Beyond margin (Vec3.toProd '' {p | p ∈ v :: vs}) := by
  have hproper : (ofPoint (transform2T projViewMat v)).Proper := ⟨le_rfl, le_rfl⟩
  have hfold := foldl_bounds projViewMat vs hproper
  rw [offscreen_eq, ofPoints, (hfold (-margin)).1, (hfold margin).2.1, (hfold (-margin)).2.2.1,
    (hfold margin).2.2.2]
  simp only [Projection.Beyond, Set.forall_mem_image, Set.mem_ofPred_eq, List.forall_mem_cons,
    ofPoint, transform2T_eq]

end BBox2

/-- The points of a test are all in front of the eye, or all behind it. -/
def OneSide (projViewMat : Mat4 K) (vs : List (Vec3 K)) : Prop :=
  (projection projViewMat).OneSide (Vec3.toProd '' {v | v ∈ vs})

/-- **A test that is right.** Points on one side of the eye that come out offscreen have nothing
drawn between them. -/
theorem notMem_clipVolume_of_offscreen {projViewMat : Mat4 K} {v : Vec3 K} {vs : List (Vec3 K)}
    (hside : OneSide projViewMat (v :: vs))
    (h : (BBox2.ofPoints projViewMat v vs).offscreen = true) {p : Vec3 K}
    (hp : p ∈ Vec3.hull (v :: vs)) : p ∉ clipVolume projViewMat :=
  Projection.notMem_clipVolume_of_beyond BBox2.one_le_margin hside
    ((BBox2.offscreen_ofPoints_iff ..).mp h) hp

/-! ### Boxes -/

/-- The corners of a box, in the order `bbox2(m, M)` projects them. -/
def boxCorners {R : Type} (box : Vec3 R × Vec3 R) : List (Vec3 R) :=
  let (m, M) := box
  [m, ⟨m.x, m.y, M.z⟩, ⟨m.x, M.y, m.z⟩, ⟨m.x, M.y, M.z⟩, ⟨M.x, m.y, m.z⟩, ⟨M.x, m.y, M.z⟩,
    ⟨M.x, M.y, m.z⟩, M]

/-- A point lies in a box. -/
def InBox (box : Vec3 K × Vec3 K) (p : Vec3 K) : Prop :=
  p.x ∈ Set.uIcc box.1.x box.2.x ∧ p.y ∈ Set.uIcc box.1.y box.2.y ∧ p.z ∈ Set.uIcc box.1.z box.2.z

/-- A box is the hull of its corners. -/
theorem InBox.mem_hull {box : Vec3 K × Vec3 K} {p : Vec3 K} (h : InBox box p) :
    p ∈ Vec3.hull (boxCorners box) := by
  obtain ⟨hx, hy, hz⟩ := h
  have hp : p.toProd ∈ convexHull K _ :=
    mem_convexHull_box (a := box.1.toProd) (b := box.2.toProd) hx hy hz
  refine convexHull_mono ?_ hp
  rintro ⟨x, y, z⟩ ⟨hx, hy, hz⟩
  simp only [Set.mem_insert_iff, Set.mem_singleton_iff] at hx hy hz
  refine ⟨⟨x, y, z⟩, ?_, rfl⟩
  obtain rfl | rfl := hx <;> obtain rfl | rfl := hy <;> obtain rfl | rfl := hz <;>
    simp [boxCorners, Vec3.toProd]

end OkularV3d
