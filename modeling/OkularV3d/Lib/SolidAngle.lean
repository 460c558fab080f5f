import Mathlib.LinearAlgebra.CrossProduct
import Mathlib.LinearAlgebra.Matrix.DotProduct
import Mathlib.Tactic.FinCases
import Mathlib.Tactic.LinearCombination
import Mathlib.Tactic.Positivity
import OkularV3d.Lib.Subdivision

/-!
# Subdivision of a solid angle

Three vectors of three-space that are not coplanar span a cone. Where each midpoint is a positive
multiple of the sum of its ends, the four parts of a triangle span cones that turn the same way
round and have no inner point in common: the plane through the two midpoints next to a corner has
the part at that corner on one side and the other three on the other. Two triangles that turn the
same way and lie on different sides of a plane cannot run along a side in the same direction
(`Within.disjoint_sides`), so no two leaves of the subdivision do (`pairwise_disjoint_sides`).

The vectors may belong to any space with a linear map `coord` to the three coordinates.

* `vol` is the volume three vectors span, and `volume` that of the corners of a triangle.
* `Bisects` is what is asked of a midpoint; nothing is asked of its length.
* `exists_cornerPlane` is the plane through two midpoints, and `volume_pos_of_mem_quarters` says
  that the parts turn the same way round.
-/

namespace OkularV3d

namespace SolidAngle

open Matrix
open Subdivision

variable {K V : Type*} [Field K]

/-- The volume spanned by three vectors, with its sign. -/
def vol (p q r : Fin 3 → K) : K := p ⬝ᵥ crossProduct q r

/-- The volume does not depend on which corner comes first. -/
theorem vol_rotate (p q r : Fin 3 → K) : vol q r p = vol p q r :=
  (triple_product_permutation p q r).symm

/-- Four vectors of three-space are dependent. -/
theorem dependent (p q x y : Fin 3 → K) :
    vol q x y • p - vol p x y • q + vol p q y • x - vol p q x • y = 0 := by
  funext i
  simp only [vol, cross_apply, vec3_dotProduct, Pi.add_apply, Pi.sub_apply, Pi.smul_apply,
    smul_eq_mul, Pi.zero_apply]
  fin_cases i
  all_goals
    simp
    ring

/-- Across a side in the plane of normal `w`, heights are in the ratio of the volumes. -/
theorem dotProduct_mul_vol {w p q : Fin 3 → K} (hp : w ⬝ᵥ p = 0) (hq : w ⬝ᵥ q = 0)
    (x y : Fin 3 → K) : w ⬝ᵥ x * vol p q y = w ⬝ᵥ y * vol p q x := by
  have hsum := congrArg (w ⬝ᵥ ·) (dependent p q x y)
  simp only [dotProduct_sub, dotProduct_add, dotProduct_smul, dotProduct_zero, hp, hq,
    smul_eq_mul] at hsum
  linear_combination hsum

/-- The normal of the plane through the midpoints next to the first corner. -/
def cornerNormal (a b c : Fin 3 → K) : Fin 3 → K :=
  crossProduct b c - crossProduct c a - crossProduct a b

/-- The plane through the two midpoints next to a corner has that corner on one side and the others
on the other. -/
theorem cornerNormal_dotProduct (a b c : Fin 3 → K) :
    cornerNormal a b c ⬝ᵥ a = vol a b c ∧ cornerNormal a b c ⬝ᵥ b = -vol a b c ∧
      cornerNormal a b c ⬝ᵥ c = -vol a b c := by
  have hbc : crossProduct b c ⬝ᵥ a = vol a b c := dotProduct_comm _ _
  have hca : crossProduct c a ⬝ᵥ b = vol a b c :=
    (dotProduct_comm _ _).trans (vol_rotate a b c)
  have hab : crossProduct a b ⬝ᵥ c = vol a b c :=
    (dotProduct_comm _ _).trans ((vol_rotate b c a).trans (vol_rotate a b c))
  simp [cornerNormal, hbc, hca, hab, dotProduct_comm (crossProduct _ _)]

variable [AddCommGroup V] [Module K V] (coord : V →ₗ[K] Fin 3 → K)

/-- The volume spanned by the corners of a triangle. -/
def volume (T : Trigon V) : K := vol (coord T.a) (coord T.b) (coord T.c)

theorem volume_rotate (a b c : V) : volume coord ⟨b, c, a⟩ = volume coord ⟨a, b, c⟩ :=
  vol_rotate ..

variable [LinearOrder K]

/-- A triangle that turns the way of the sign `s`, with its corners on one side of the plane of
normal `w`. -/
structure Within (s : K) (w : Fin 3 → K) (T : Trigon V) : Prop where
  volume_pos : 0 < s * volume coord T
  nonneg_a : 0 ≤ w ⬝ᵥ coord T.a
  nonneg_b : 0 ≤ w ⬝ᵥ coord T.b
  nonneg_c : 0 ≤ w ⬝ᵥ coord T.c

variable {coord} {s : K} {w : Fin 3 → K} {T U W : Trigon V} {mid : V → V → V} {p q : V}

/-- Being within a half-space does not depend on which corner comes first. -/
theorem Within.rotate (h : Within coord s w T) : Within coord s w ⟨T.b, T.c, T.a⟩ where
  volume_pos := by
    rw [volume_rotate]
    exact h.volume_pos
  nonneg_a := h.nonneg_b
  nonneg_b := h.nonneg_c
  nonneg_c := h.nonneg_a

/-- So it holds of every rotation. -/
theorem Within.of_mem_rotations (h : Within coord s w T) :
    ∀ U ∈ T.rotations, Within coord s w U := by
  simp only [Trigon.rotations, List.forall_mem_cons]
  exact ⟨h, h.rotate, h.rotate.rotate, List.forall_mem_nil _⟩

/-- A midpoint that is a positive multiple of the sum of the ends. -/
def Bisects (K : Type*) {V : Type*} [Field K] [LinearOrder K] [AddCommGroup V] [Module K V]
    (mid : V → V → V) (p q : V) : Prop :=
  ∃ k : K, 0 < k ∧ mid p q = k • (p + q)

/-- A plane that the ends are on two sides of, at the same distance, passes through the midpoint. -/
theorem Bisects.dotProduct_eq_zero (h : Bisects K mid p q)
    (hsum : w ⬝ᵥ coord p + w ⬝ᵥ coord q = 0) :
    w ⬝ᵥ coord (mid p q) = 0 := by
  obtain ⟨k, _, hmid⟩ := h
  rw [hmid, map_smul, map_add, dotProduct_smul, dotProduct_add, hsum, smul_zero]

/-- The midpoints of all three sides are. -/
structure Bisected (K : Type*) {V : Type*} [Field K] [LinearOrder K] [AddCommGroup V] [Module K V]
    (mid : V → V → V) (T : Trigon V) : Prop where
  ab : Bisects K mid T.a T.b
  bc : Bisects K mid T.b T.c
  ca : Bisects K mid T.c T.a

theorem Bisected.rotate (h : Bisected K mid T) :
    Bisected K mid ⟨T.b, T.c, T.a⟩ := ⟨h.bc, h.ca, h.ab⟩

variable [IsStrictOrderedRing K]

/-- Triangles on two sides of a plane that turn the same way do not share their first side: the
third corners would have to lie on the same side of it. -/
theorem Within.first_side_ne (hU : Within coord s w U) (hW : Within coord s (-w) W) (hw : w ≠ 0) :
    (U.a, U.b) ≠ (W.a, W.b) := by
  intro hside
  obtain ⟨ha, hb⟩ := Prod.mk.inj hside
  have hWa := hW.nonneg_a
  have hWb := hW.nonneg_b
  have hWc := hW.nonneg_c
  rw [neg_dotProduct, neg_nonneg] at hWa hWb hWc
  have hpa : w ⬝ᵥ coord U.a = 0 := le_antisymm (ha ▸ hWa) hU.nonneg_a
  have hpb : w ⬝ᵥ coord U.b = 0 := le_antisymm (hb ▸ hWb) hU.nonneg_b
  have hratio := dotProduct_mul_vol hpa hpb (coord U.c) (coord W.c)
  have hvolU := hU.volume_pos
  have hvolW := hW.volume_pos
  rw [volume] at hvolU
  rw [volume, ← ha, ← hb] at hvolW
  -- the heights of the third corners have one sign, and opposite signs
  have hzero : w ⬝ᵥ coord U.c = 0 := by
    refine le_antisymm ?_ hU.nonneg_c
    refine nonpos_of_mul_nonpos_left ?_ hvolW
    calc w ⬝ᵥ coord U.c * (s * vol (coord U.a) (coord U.b) (coord W.c))
        = w ⬝ᵥ coord W.c * (s * vol (coord U.a) (coord U.b) (coord U.c)) := by
          linear_combination s * hratio
      _ ≤ 0 := mul_nonpos_of_nonpos_of_nonneg hWc hvolU.le
  -- then the plane holds three independent vectors
  refine hw (dotProduct_eq_zero _ fun y => ?_)
  have hheight := dotProduct_mul_vol hpa hpb (coord U.c) y
  rw [hzero, zero_mul, zero_eq_mul] at hheight
  exact hheight.resolve_right (right_ne_zero_of_mul hvolU.ne')

/-- **Two triangles on two sides of a plane** that turn the same way run along no side in the same
direction. -/
theorem Within.disjoint_sides (hU : Within coord s w U) (hW : Within coord s (-w) W) (hw : w ≠ 0) :
    U.sides.Disjoint W.sides := by
  intro e hUe hWe
  obtain ⟨U', hU', rfl⟩ := List.mem_map.mp hUe
  obtain ⟨W', hW', hside⟩ := List.mem_map.mp hWe
  exact (hU.of_mem_rotations U' hU').first_side_ne (hW.of_mem_rotations W' hW') hw hside.symm

/-! ### The four parts -/

/-- A midpoint lies in every half-space that both ends lie in. -/
theorem Bisects.dotProduct_nonneg (h : Bisects K mid p q) (hp : 0 ≤ w ⬝ᵥ coord p)
    (hq : 0 ≤ w ⬝ᵥ coord q) : 0 ≤ w ⬝ᵥ coord (mid p q) := by
  obtain ⟨k, hk, hmid⟩ := h
  rw [hmid, map_smul, map_add, dotProduct_smul, dotProduct_add, smul_eq_mul]
  exact mul_nonneg hk.le (add_nonneg hp hq)

/-- The part at a corner turns the way of the whole. -/
theorem volume_pos_corner (hT : 0 < s * volume coord T) (hmid : Bisected K mid T) :
    0 < s * volume coord ⟨T.a, mid T.a T.b, mid T.c T.a⟩ := by
  obtain ⟨⟨k, hk, hab⟩, _, ⟨l, hl, hca⟩⟩ := hmid
  have hvolume : volume coord ⟨T.a, mid T.a T.b, mid T.c T.a⟩ = k * l * volume coord T := by
    simp only [volume, vol, hab, hca, map_smul, map_add, LinearMap.smul_apply, LinearMap.add_apply,
      dotProduct_smul, dotProduct_add, cross_self, dot_self_cross, dot_cross_self,
      dotProduct_zero, smul_eq_mul]
    ring
  rw [hvolume, mul_left_comm]
  positivity

/-- And so does the part between. -/
theorem volume_pos_inner (hT : 0 < s * volume coord T) (hmid : Bisected K mid T) :
    0 < s * volume coord ⟨mid T.a T.b, mid T.b T.c, mid T.c T.a⟩ := by
  obtain ⟨⟨k, hk, hab⟩, ⟨l, hl, hbc⟩, ⟨m, hm, hca⟩⟩ := hmid
  have hrotate := vol_rotate (coord T.a) (coord T.b) (coord T.c)
  have hvolume : volume coord ⟨mid T.a T.b, mid T.b T.c, mid T.c T.a⟩ =
      2 * (k * l * m) * volume coord T := by
    simp only [volume, vol, hab, hbc, hca, map_smul, map_add, LinearMap.smul_apply,
      LinearMap.add_apply, dotProduct_smul, dotProduct_add, smul_dotProduct, add_dotProduct,
      cross_self, dot_self_cross, dot_cross_self, dotProduct_zero, smul_eq_mul] at hrotate ⊢
    linear_combination k * l * m * hrotate
  rw [hvolume, mul_left_comm]
  positivity

/-- **The four parts turn the way of the whole.** -/
theorem volume_pos_of_mem_quarters (hT : 0 < s * volume coord T) (hmid : Bisected K mid T) :
    ∀ U ∈ T.quarters mid, 0 < s * volume coord U := by
  have hT' : 0 < s * volume coord ⟨T.b, T.c, T.a⟩ := by
    rw [volume_rotate]
    exact hT
  have hT'' : 0 < s * volume coord ⟨T.c, T.a, T.b⟩ := by
    rw [volume_rotate, volume_rotate]
    exact hT
  exact (T.forall_mem_quarters mid).mpr
    ⟨volume_pos_corner hT hmid, volume_pos_corner hT' hmid.rotate,
      volume_pos_corner hT'' hmid.rotate.rotate, volume_pos_inner hT hmid⟩

/-- A part at a corner lies in every half-space the whole lies in. -/
theorem Within.corner (h : Within coord s w T) (hmid : Bisected K mid T) :
    Within coord s w ⟨T.a, mid T.a T.b, mid T.c T.a⟩ where
  volume_pos := volume_pos_corner h.volume_pos hmid
  nonneg_a := h.nonneg_a
  nonneg_b := hmid.ab.dotProduct_nonneg h.nonneg_a h.nonneg_b
  nonneg_c := hmid.ca.dotProduct_nonneg h.nonneg_c h.nonneg_a

/-- The parts of a triangle stay on its side of a plane. -/
theorem Within.of_mem_quarters (h : Within coord s w T) (hmid : Bisected K mid T) :
    ∀ U ∈ T.quarters mid, Within coord s w U :=
  (T.forall_mem_quarters mid).mpr
    ⟨h.corner hmid, h.rotate.corner hmid.rotate, h.rotate.rotate.corner hmid.rotate.rotate,
      volume_pos_inner h.volume_pos hmid, hmid.ab.dotProduct_nonneg h.nonneg_a h.nonneg_b,
      hmid.bc.dotProduct_nonneg h.nonneg_b h.nonneg_c,
      hmid.ca.dotProduct_nonneg h.nonneg_c h.nonneg_a⟩

/-- **The plane through two midpoints** has the part at the corner on one side, and the parts at the
other corners and the one between on the other. -/
theorem exists_cornerPlane (hT : 0 < s * volume coord T) (hmid : Bisected K mid T) :
    ∃ w, w ≠ 0 ∧ Within coord s w ⟨T.a, mid T.a T.b, mid T.c T.a⟩ ∧
      Within coord s (-w) ⟨T.b, mid T.b T.c, mid T.a T.b⟩ ∧
      Within coord s (-w) ⟨T.c, mid T.c T.a, mid T.b T.c⟩ ∧
      Within coord s (-w) ⟨mid T.a T.b, mid T.b T.c, mid T.c T.a⟩ := by
  set w := s • cornerNormal (coord T.a) (coord T.b) (coord T.c) with hw
  obtain ⟨ha, hb, hc⟩ := cornerNormal_dotProduct (coord T.a) (coord T.b) (coord T.c)
  have hwa : w ⬝ᵥ coord T.a = s * volume coord T := by rw [hw, smul_dotProduct, ha]; rfl
  have hwb : w ⬝ᵥ coord T.b = -(s * volume coord T) := by
    rw [hw, smul_dotProduct, hb, smul_neg]
    rfl
  have hwc : w ⬝ᵥ coord T.c = -(s * volume coord T) := by
    rw [hw, smul_dotProduct, hc, smul_neg]
    rfl
  -- the midpoints next to the corner lie in the plane
  have hab : w ⬝ᵥ coord (mid T.a T.b) = 0 := hmid.ab.dotProduct_eq_zero (by rw [hwa, hwb]; ring)
  have hca : w ⬝ᵥ coord (mid T.c T.a) = 0 := hmid.ca.dotProduct_eq_zero (by rw [hwc, hwa]; ring)
  have hnegb : 0 ≤ -w ⬝ᵥ coord T.b := by
    rw [neg_dotProduct, hwb, neg_neg]
    exact hT.le
  have hnegc : 0 ≤ -w ⬝ᵥ coord T.c := by
    rw [neg_dotProduct, hwc, neg_neg]
    exact hT.le
  have hnegbc : 0 ≤ -w ⬝ᵥ coord (mid T.b T.c) := hmid.bc.dotProduct_nonneg hnegb hnegc
  have hnegab : 0 ≤ -w ⬝ᵥ coord (mid T.a T.b) := by rw [neg_dotProduct, hab, neg_zero]
  have hnegca : 0 ≤ -w ⬝ᵥ coord (mid T.c T.a) := by rw [neg_dotProduct, hca, neg_zero]
  obtain ⟨hvolA, hvolB, hvolC, hvolI⟩ :=
    (T.forall_mem_quarters mid).mp (volume_pos_of_mem_quarters hT hmid)
  refine ⟨w, ?_, ⟨hvolA, ?_, hab.ge, hca.ge⟩, ⟨hvolB, hnegb, hnegbc, hnegab⟩,
    ⟨hvolC, hnegc, hnegca, hnegbc⟩, ⟨hvolI, hnegab, hnegbc, hnegca⟩⟩
  · rintro hzero
    rw [hzero, zero_dotProduct] at hwa
    exact hT.ne hwa
  · exact hwa ▸ hT.le

/-! ### The leaves -/

section Leaves

variable {Good : Trigon V → Prop} (hbisected : ∀ T, Good T → Bisected K mid T)
  (hgood : ∀ T, Good T → ∀ U ∈ T.quarters mid, Good U)

include hbisected hgood

/-- The leaves below two triangles on two sides of a plane have no directed side in common. -/
theorem disjoint_sides_of_leaves (hU : Good U ∧ Within coord s w U)
    (hW : Good W ∧ Within coord s (-w) W) (hw : w ≠ 0) (d : ℕ) :
    ∀ x ∈ leaves (Trigon.quarters mid) d U, ∀ y ∈ leaves (Trigon.quarters mid) d W,
      x.sides.Disjoint y.sides := by
  have hinv : ∀ w' : Fin 3 → K, ∀ T, Good T ∧ Within coord s w' T →
      ∀ U ∈ T.quarters mid, Good U ∧ Within coord s w' U := fun _ T hT U hU =>
    ⟨hgood T hT.1 U hU, hT.2.of_mem_quarters (hbisected T hT.1) U hU⟩
  intro x hx y hy
  exact (of_mem_leaves (hinv w) hU x hx).2.disjoint_sides (of_mem_leaves (hinv (-w)) hW y hy).2 hw

/-- **No two leaves run along a side in the same direction**, where the corners are not coplanar. -/
theorem pairwise_disjoint_sides (hT : Good T) (hvolume : volume coord T ≠ 0) (d : ℕ) :
    (leaves (Trigon.quarters mid) d T).Pairwise fun U W => U.sides.Disjoint W.sides := by
  have hpos : 0 < volume coord T * volume coord T := mul_self_pos.mpr hvolume
  set s := volume coord T
  have hinv : ∀ T, Good T ∧ 0 < s * volume coord T →
      ∀ U ∈ T.quarters mid, Good U ∧ 0 < s * volume coord U := fun T hT U hU =>
    ⟨hgood T hT.1 U hU, volume_pos_of_mem_quarters hT.2 (hbisected T hT.1) U hU⟩
  refine pairwise_leaves hinv ?_ d ⟨hT, hpos⟩
  rintro T ⟨hT, hpos⟩
  have hmid := hbisected T hT
  have hpos' : 0 < s * volume coord ⟨T.b, T.c, T.a⟩ := by
    rw [volume_rotate]
    exact hpos
  have hpos'' : 0 < s * volume coord ⟨T.c, T.a, T.b⟩ := by
    rw [volume_rotate, volume_rotate]
    exact hpos
  obtain ⟨wa, hwa, haa, hab, hac, hai⟩ := exists_cornerPlane hpos hmid
  obtain ⟨wb, hwb, hbb, hbc, _, hbi⟩ := exists_cornerPlane hpos' hmid.rotate
  obtain ⟨wc, hwc, hcc, _, _, hci⟩ := exists_cornerPlane hpos'' hmid.rotate.rotate
  obtain ⟨ha, hb, hc, hi⟩ := (T.forall_mem_quarters mid).mp (hgood T hT)
  -- the plane at a corner parts its triangle from every later one in the list
  simp only [Trigon.quarters, List.pairwise_cons, List.forall_mem_cons]
  refine ⟨⟨?_, ?_, ?_, List.forall_mem_nil _⟩, ⟨?_, ?_, List.forall_mem_nil _⟩,
    ⟨?_, List.forall_mem_nil _⟩, List.forall_mem_nil _, List.Pairwise.nil⟩
  · exact disjoint_sides_of_leaves hbisected hgood ⟨ha, haa⟩ ⟨hb, hab⟩ hwa
  · exact disjoint_sides_of_leaves hbisected hgood ⟨ha, haa⟩ ⟨hc, hac⟩ hwa
  · exact disjoint_sides_of_leaves hbisected hgood ⟨ha, haa⟩ ⟨hi, hai⟩ hwa
  · exact disjoint_sides_of_leaves hbisected hgood ⟨hb, hbb⟩ ⟨hc, hbc⟩ hwb
  · exact disjoint_sides_of_leaves hbisected hgood ⟨hb, hbb⟩ ⟨hi, hbi.rotate.rotate⟩ hwb
  · exact disjoint_sides_of_leaves hbisected hgood ⟨hc, hcc⟩ ⟨hi, hci.rotate⟩ hwc

end Leaves

end SolidAngle

end OkularV3d
