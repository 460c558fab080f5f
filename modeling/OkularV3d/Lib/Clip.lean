import Mathlib.Analysis.Convex.Combination
import Mathlib.Analysis.Convex.Hull
import Mathlib.Algebra.Order.Field.Basic
import Mathlib.Tactic.Linarith

/-!
# Homogeneous clipping

A projection sends a point to homogeneous coordinates `(x, y, z, w)`, four affine functions of it,
and draws it at `(x / w, y / w)`. What is drawn is what lies in the **clip volume**, where
`-w ≤ x ≤ w`, `-w ≤ y ≤ w` and `0 ≤ z ≤ w`.

A culling test looks at finitely many points only, and at their projections: it says that they all
lie beyond one edge of the screen. Dividing by `w` loses its sign, so this says nothing about the
points between them unless `w` has one sign: `notMem_clipVolume_of_beyond` is the conclusion one
wants, under that condition.

* `clipVolume` is what a `Projection` draws of the space, and `Beyond` what a test finds out about
  finitely many points.
* `notMem_clipVolume_of_edge` is the argument for one edge; `notMem_clipVolume_of_beyond` is that
  for all four.
* `OneSide` is the condition: the points are all in front of the eye, or all behind it.
-/

namespace OkularV3d

variable {K E : Type*} [Field K] [LinearOrder K] [IsStrictOrderedRing K] [AddCommGroup E]
  [Module K E]

/-- An affine function that is negative on a set is negative on its convex hull. -/
theorem neg_of_mem_convexHull {s : Set E} (f : E →ᵃ[K] K) (h : ∀ p ∈ s, f p < 0) {p : E}
    (hp : p ∈ convexHull K s) : f p < 0 := by
  have hconvex : Convex K (Set.preimage f (Set.Iio 0)) := (convex_Iio (0 : K)).affine_preimage f
  exact convexHull_min h hconvex hp

/-- Homogeneous coordinates on a space of points. -/
structure Projection (K E : Type*) [Field K] [AddCommGroup E] [Module K E] where
  x : E →ᵃ[K] K
  y : E →ᵃ[K] K
  z : E →ᵃ[K] K
  w : E →ᵃ[K] K

namespace Projection

variable (P : Projection K E)

/-- The points that are drawn. -/
def clipVolume : Set E :=
  {p | -P.w p ≤ P.x p ∧ P.x p ≤ P.w p ∧ -P.w p ≤ P.y p ∧ P.y p ≤ P.w p ∧ 0 ≤ P.z p ∧ P.z p ≤ P.w p}

/-- The points of `s` are all in front of the eye, or all behind it. -/
def OneSide (s : Set E) : Prop := (∀ p ∈ s, 0 < P.w p) ∨ ∀ p ∈ s, P.w p < 0

/-- The projections of the points of `s` all lie beyond one edge of a screen of half width `m`. -/
def Beyond (m : K) (s : Set E) : Prop :=
  (∀ p ∈ s, P.x p / P.w p < -m) ∨ (∀ p ∈ s, m < P.x p / P.w p) ∨
    (∀ p ∈ s, P.y p / P.w p < -m) ∨ ∀ p ∈ s, m < P.y p / P.w p

variable {P}

omit [IsStrictOrderedRing K] in
theorem w_nonneg {p : E} (h : p ∈ P.clipVolume) : 0 ≤ P.w p := h.2.2.2.2.1.trans h.2.2.2.2.2

/-- Nothing between points behind the eye is drawn. -/
theorem notMem_clipVolume_of_behind {s : Set E} (h : ∀ p ∈ s, P.w p < 0) {p : E}
    (hp : p ∈ convexHull K s) : p ∉ P.clipVolume := fun hclip =>
  absurd (neg_of_mem_convexHull P.w h hp) (w_nonneg hclip).not_gt

/-- **One edge.** Points in front of the eye whose coordinate `g` is beyond the edge `m ≥ 1` have
nothing drawn between them. -/
theorem notMem_clipVolume_of_edge {s : Set E} {m : K} (hm : 1 ≤ m) (g : E →ᵃ[K] K)
    (hg : ∀ p ∈ P.clipVolume, g p ≤ P.w p) (hw : ∀ p ∈ s, 0 < P.w p)
    (h : ∀ p ∈ s, m < g p / P.w p) {p : E} (hp : p ∈ convexHull K s) : p ∉ P.clipVolume := by
  intro hclip
  -- `m * w - g` is affine, and negative at the points
  have hneg : (m • P.w - g) p < 0 := by
    refine neg_of_mem_convexHull _ (fun q hq => ?_) hp
    have hq' := (lt_div_iff₀ (hw q hq)).mp (h q hq)
    simpa using hq'
  have hle : m * P.w p < P.w p := by
    have := hg p hclip
    simp only [AffineMap.coe_sub, AffineMap.coe_smul, Pi.sub_apply, Pi.smul_apply,
      smul_eq_mul] at hneg
    linarith
  have := mul_le_mul_of_nonneg_right hm (w_nonneg hclip)
  linarith

/-- Points on one side of the eye whose projections are beyond one edge of the screen have nothing
drawn between them. -/
theorem notMem_clipVolume_of_beyond {s : Set E} {m : K} (hm : 1 ≤ m) (hside : P.OneSide s)
    (h : P.Beyond m s) {p : E} (hp : p ∈ convexHull K s) : p ∉ P.clipVolume := by
  obtain hfront | hbehind := hside
  · obtain h | h | h | h := h
    · refine notMem_clipVolume_of_edge hm (-P.x) (fun q hq => ?_) hfront (fun q hq => ?_) hp
      · have := hq.1
        simp only [AffineMap.coe_neg, Pi.neg_apply]
        linarith
      · have := h q hq
        simp only [AffineMap.coe_neg, Pi.neg_apply, neg_div]
        linarith
    · exact notMem_clipVolume_of_edge hm P.x (fun q hq => hq.2.1) hfront h hp
    · refine notMem_clipVolume_of_edge hm (-P.y) (fun q hq => ?_) hfront (fun q hq => ?_) hp
      · have := hq.2.2.1
        simp only [AffineMap.coe_neg, Pi.neg_apply]
        linarith
      · have := h q hq
        simp only [AffineMap.coe_neg, Pi.neg_apply, neg_div]
        linarith
    · exact notMem_clipVolume_of_edge hm P.y (fun q hq => hq.2.2.2.1) hfront h hp
  · exact notMem_clipVolume_of_behind hbehind hp

end Projection

/-! ### Boxes -/

/-- A point between two corners lies in the hull of the eight corners of their box. -/
theorem mem_convexHull_box {a b : K × K × K} {p : K × K × K} (hx : p.1 ∈ Set.uIcc a.1 b.1)
    (hy : p.2.1 ∈ Set.uIcc a.2.1 b.2.1) (hz : p.2.2 ∈ Set.uIcc a.2.2 b.2.2) :
    p ∈ convexHull K (({a.1, b.1} : Set K) ×ˢ ({a.2.1, b.2.1} : Set K) ×ˢ
      ({a.2.2, b.2.2} : Set K)) := by
  rw [convexHull_prod, convexHull_prod, convexHull_pair, convexHull_pair, convexHull_pair,
    segment_eq_uIcc, segment_eq_uIcc, segment_eq_uIcc]
  exact ⟨hx, hy, hz⟩

end OkularV3d
