import Mathlib.Algebra.CharP.Invertible
import Mathlib.Analysis.Convex.Basic
import Mathlib.Analysis.Convex.Combination
import Mathlib.LinearAlgebra.AffineSpace.Midpoint
import Mathlib.Tactic.FinCases
import Mathlib.Tactic.Linarith
import Mathlib.Tactic.Module
import OkularV3d.Lib.Bezier

/-!
# Halving a cubic

De Casteljau's construction takes the control points of a cubic curve to those of its two halves.
The control points of a half lie among those of the whole, its first differences are at most half as
large, and its second differences at most a quarter. `lower` and `upper` are linear, so the same
holds of a net of control points, which is a curve whose control points are curves.

Sizes are measured by a convex set: a difference is small if it lies in the set.

* `two_smul_diff_lower` and `four_smul_diff_diff_lower` are the differences of a half; the second
  half is the first one backwards.
* `curve_lower` and `curve_upper` say which points of the curve a half has.
* `Bent` bounds the differences of a net in both directions and across; `Bent.half_across` and
  `Bent.half_along` say how halving the net lowers the bounds.
-/

namespace OkularV3d.Casteljau

variable {K V : Type*} [Field K] [LinearOrder K] [AddCommGroup V] [Module K V]

/-! ### Differences -/

/-- The differences of consecutive points. -/
def diff {n : ℕ} (z : Fin (n + 1) → V) (i : Fin n) : V := z i.succ - z i.castSucc

omit [LinearOrder K] in
/-- Differences go through linear maps. -/
theorem diff_map {W : Type*} [AddCommGroup W] [Module K W] {n : ℕ} (f : V →ₗ[K] W)
    (z : Fin (n + 1) → V) : diff (fun i => f (z i)) = fun i => f (diff z i) :=
  funext fun _ => (map_sub f _ _).symm

omit [LinearOrder K] in
theorem diff_smul {n : ℕ} (c : K) (z : Fin (n + 1) → V) : diff (c • z) = c • diff z :=
  funext fun _ => (smul_sub c _ _).symm

/-- Differences are linear. -/
theorem diff_add {n : ℕ} (z w : Fin (n + 1) → V) : diff (z + w) = diff z + diff w :=
  funext fun _ => add_sub_add_comm ..

variable {s : Set V}

/-- A condition on each point of a list is convex if it is so on a point. -/
theorem convex_points {ι : Type*} (hs : Convex K s) : Convex K {z : ι → V | ∀ i, z i ∈ s} :=
  fun _ hz _ hw _ _ ha hb hab i => hs (hz i) (hw i) ha hb hab

/-- So is one on each difference. -/
theorem convex_diff {n : ℕ} (hs : Convex K s) :
    Convex K {z : Fin (n + 1) → V | ∀ i, diff z i ∈ s} := by
  intro z hz w hw a b ha hb hab i
  rw [diff_add, diff_smul, diff_smul]
  exact hs (hz i) (hw i) ha hb hab

/-- And one on each second difference. -/
theorem convex_diff_diff {n : ℕ} (hs : Convex K s) :
    Convex K {z : Fin (n + 2) → V | ∀ i, diff (diff z) i ∈ s} := by
  intro z hz w hw a b ha hb hab i
  rw [diff_add, diff_smul, diff_smul, diff_add, diff_smul, diff_smul]
  exact hs (hz i) (hw i) ha hb hab

section Map

variable {W : Type*} [AddCommGroup W] [Module K W] (f : V →ₗ[K] W)

omit [LinearOrder K] in
/-- Linear maps go through the points of a curve. -/
theorem map_curve (z : Fin 4 → V) (t : K) :
    f (Bezier.curve z t) = Bezier.curve (fun i => f (z i)) t := by
  simp only [Bezier.curve, map_sum, map_smul]

omit [LinearOrder K] in
/-- And through those of a patch. -/
theorem map_patch (p : Fin 4 → Fin 4 → V) (u v : K) :
    f (Bezier.patch p u v) = Bezier.patch (fun i j => f (p i j)) u v := by
  simp only [Bezier.patch, map_curve]

end Map

/-! ### The halves of a curve -/

variable [IsStrictOrderedRing K]

section Halves

variable (K)

/-- The control points of the half that begins where the curve does. -/
def lower : (Fin 4 → V) →ₗ[K] (Fin 4 → V) where
  toFun z :=
    let m0 := midpoint K (z 0) (z 1)
    let m1 := midpoint K (z 1) (z 2)
    let m2 := midpoint K (z 2) (z 3)
    let m3 := midpoint K m0 m1
    ![z 0, m0, m3, midpoint K m3 (midpoint K m1 m2)]
  map_add' z w := by
    funext i
    fin_cases i <;> simp [midpoint_eq_smul_add, invOf_eq_inv] <;> module
  map_smul' c z := by
    funext i
    fin_cases i <;> simp [midpoint_eq_smul_add, invOf_eq_inv] <;> module

/-- The control points of the half that ends where the curve does. -/
def upper : (Fin 4 → V) →ₗ[K] (Fin 4 → V) where
  toFun z :=
    let m0 := midpoint K (z 0) (z 1)
    let m1 := midpoint K (z 1) (z 2)
    let m2 := midpoint K (z 2) (z 3)
    let m4 := midpoint K m1 m2
    ![midpoint K (midpoint K m0 m1) m4, m4, m2, z 3]
  map_add' z w := by
    funext i
    fin_cases i <;> simp [midpoint_eq_smul_add, invOf_eq_inv] <;> module
  map_smul' c z := by
    funext i
    fin_cases i <;> simp [midpoint_eq_smul_add, invOf_eq_inv] <;> module

section Map

variable {W : Type*} [AddCommGroup W] [Module K W] (f : V →ₗ[K] W) (z : Fin 4 → V)

/-- The first half of an image is the image of the first half. -/
theorem lower_map : (fun i => f (lower K z i)) = lower K fun i => f (z i) := by
  funext i
  fin_cases i <;> simp [lower, midpoint_eq_smul_add]

/-- So is the second half. -/
theorem upper_map : (fun i => f (upper K z i)) = upper K fun i => f (z i) := by
  funext i
  fin_cases i <;> simp [upper, midpoint_eq_smul_add]

end Map

/-- The halves of a curve of curves, point by point. -/
theorem lower_apply {ι : Type*} (p : Fin 4 → ι → V) (i : Fin 4) (j : ι) :
    lower K p i j = lower K (fun k => p k j) i :=
  congrFun (lower_map K (LinearMap.proj (R := K) (φ := fun _ : ι => V) j) p) i

/-- The halves of a net are those of its columns. -/
theorem upper_apply {ι : Type*} (p : Fin 4 → ι → V) (i : Fin 4) (j : ι) :
    upper K p i j = upper K (fun k => p k j) i :=
  congrFun (upper_map K (LinearMap.proj (R := K) (φ := fun _ : ι => V) j) p) i

/-- A half of a curve. -/
def IsHalf (f : (Fin 4 → V) →ₗ[K] (Fin 4 → V)) : Prop := f = lower K ∨ f = upper K

end Halves

variable {f : (Fin 4 → V) →ₗ[K] (Fin 4 → V)} {z : Fin 4 → V}

/-- The control points of a half lie among those of the whole. -/
theorem IsHalf.points (hf : IsHalf K f) (hs : Convex K s) (hz : ∀ i, z i ∈ s) (i : Fin 4) :
    f z i ∈ s := by
  have h0 := hs.midpoint_mem (hz 0) (hz 1)
  have h1 := hs.midpoint_mem (hz 1) (hz 2)
  have h2 := hs.midpoint_mem (hz 2) (hz 3)
  have h3 := hs.midpoint_mem h0 h1
  have h4 := hs.midpoint_mem h1 h2
  have h5 := hs.midpoint_mem h3 h4
  obtain rfl | rfl := hf
  · fin_cases i
    exacts [hz 0, h0, h3, h5]
  · fin_cases i
    exacts [h5, h4, h2, hz 3]

/-- **First differences are halved**: those of a half are means of those of the whole. -/
theorem two_smul_diff_lower (z : Fin 4 → V) (i : Fin 3) :
    (2 : K) • diff (lower K z) i =
      ![diff z 0, midpoint K (diff z 0) (diff z 1),
        midpoint K (midpoint K (diff z 0) (diff z 1)) (midpoint K (diff z 1) (diff z 2))] i := by
  fin_cases i <;> simp [diff, lower, midpoint_eq_smul_add, invOf_eq_inv] <;> module

theorem two_smul_diff_upper (z : Fin 4 → V) (i : Fin 3) :
    (2 : K) • diff (upper K z) i =
      ![midpoint K (midpoint K (diff z 0) (diff z 1)) (midpoint K (diff z 1) (diff z 2)),
        midpoint K (diff z 1) (diff z 2), diff z 2] i := by
  fin_cases i <;> simp [diff, upper, midpoint_eq_smul_add, invOf_eq_inv] <;> module

/-- The first differences of a half are half as large. -/
theorem IsHalf.diff (hf : IsHalf K f) (hs : Convex K s) (hz : ∀ i, diff z i ∈ s) (i : Fin 3) :
    (2 : K) • Casteljau.diff (f z) i ∈ s := by
  have h0 := hs.midpoint_mem (hz 0) (hz 1)
  have h1 := hs.midpoint_mem (hz 1) (hz 2)
  have h2 := hs.midpoint_mem h0 h1
  obtain rfl | rfl := hf
  · rw [two_smul_diff_lower]
    fin_cases i
    exacts [hz 0, h0, h2]
  · rw [two_smul_diff_upper]
    fin_cases i
    exacts [h2, h1, hz 2]

/-- **Second differences are quartered.** -/
theorem four_smul_diff_diff_lower (z : Fin 4 → V) (i : Fin 2) :
    (4 : K) • diff (diff (lower K z)) i =
      ![diff (diff z) 0, midpoint K (diff (diff z) 0) (diff (diff z) 1)] i := by
  fin_cases i <;> simp [diff, lower, midpoint_eq_smul_add, invOf_eq_inv] <;> module

theorem four_smul_diff_diff_upper (z : Fin 4 → V) (i : Fin 2) :
    (4 : K) • diff (diff (upper K z)) i =
      ![midpoint K (diff (diff z) 0) (diff (diff z) 1), diff (diff z) 1] i := by
  fin_cases i <;> simp [diff, upper, midpoint_eq_smul_add, invOf_eq_inv] <;> module

/-- The second differences of a half are a quarter as large. -/
theorem IsHalf.diff_diff (hf : IsHalf K f) (hs : Convex K s)
    (hz : ∀ i, Casteljau.diff (Casteljau.diff z) i ∈ s) (i : Fin 2) :
    (4 : K) • Casteljau.diff (Casteljau.diff (f z)) i ∈ s := by
  have h := hs.midpoint_mem (hz 0) (hz 1)
  obtain rfl | rfl := hf
  · rw [four_smul_diff_diff_lower]
    fin_cases i
    exacts [hz 0, h]
  · rw [four_smul_diff_diff_upper]
    fin_cases i
    exacts [h, hz 1]

/-! ### The points of a half -/

section Points

variable (z : Fin 4 → V) (t : K)

/-- The first half runs through the first half of the curve. -/
theorem curve_lower : Bezier.curve (lower K z) t = Bezier.curve z (t / 2) := by
  simp only [Bezier.curve_eq, lower, midpoint_eq_smul_add, invOf_eq_inv]
  simp
  match_scalars <;> ring

/-- The second half runs through the second. -/
theorem curve_upper : Bezier.curve (upper K z) t = Bezier.curve z ((1 + t) / 2) := by
  simp only [Bezier.curve_eq, upper, midpoint_eq_smul_add, invOf_eq_inv]
  simp
  match_scalars <;> ring

/-- The points of a half are points of the whole. -/
theorem IsHalf.curve (hf : IsHalf K f) (h0 : 0 ≤ t) (h1 : t ≤ 1) :
    ∃ t' : K, 0 ≤ t' ∧ t' ≤ 1 ∧ ∀ z, Bezier.curve (f z) t = Bezier.curve z t' := by
  obtain rfl | rfl := hf
  · exact ⟨t / 2, by linarith, by linarith, fun z => curve_lower z t⟩
  · exact ⟨(1 + t) / 2, by linarith, by linarith, fun z => curve_upper z t⟩

/-- The points of the whole are points of one of the halves. -/
theorem exists_half (h0 : 0 ≤ t) (h1 : t ≤ 1) :
    ∃ f, IsHalf K f ∧ ∃ t' : K, 0 ≤ t' ∧ t' ≤ 1 ∧
      ∀ z : Fin 4 → V, Bezier.curve (f z) t' = Bezier.curve z t := by
  obtain h | h := le_total (2 * t) 1
  · refine ⟨lower K, .inl rfl, 2 * t, by linarith, h, fun z => ?_⟩
    rw [curve_lower, mul_div_cancel_left₀ t two_ne_zero]
  · refine ⟨upper K, .inr rfl, 2 * t - 1, by linarith, by linarith, fun z => ?_⟩
    rw [curve_upper, add_sub_cancel, mul_div_cancel_left₀ t two_ne_zero]

/-- A curve lies in the hull of its control points. -/
theorem curve_mem {z : Fin 4 → V} {t : K} (hs : Convex K s) (hz : ∀ i, z i ∈ s) (h0 : 0 ≤ t)
    (h1 : t ≤ 1) : Bezier.curve z t ∈ s := by
  refine hs.sum_mem (fun i _ => ?_) (Bezier.sum_weight t) fun i _ => hz i
  have hsub : 0 ≤ 1 - t := sub_nonneg.mpr h1
  rw [Bezier.weight]
  positivity

end Points

/-! ### Nets -/

section Patch

variable {g : (Fin 4 → Fin 4 → V) →ₗ[K] (Fin 4 → Fin 4 → V)} (u v : K)

/-- A half across the rows of a net has points of the patch. -/
theorem IsHalf.patch_across (hg : IsHalf K g) (h0 : 0 ≤ u) (h1 : u ≤ 1) :
    ∃ u' : K, 0 ≤ u' ∧ u' ≤ 1 ∧ ∀ p, Bezier.patch (g p) u v = Bezier.patch p u' v := by
  obtain ⟨u', h0, h1, hcurve⟩ := hg.curve u h0 h1
  exact ⟨u', h0, h1, fun p => by rw [Bezier.patch_eq, hcurve, ← Bezier.patch_eq]⟩

/-- So has a half along them. -/
theorem IsHalf.patch_along (hf : IsHalf K f) (h0 : 0 ≤ v) (h1 : v ≤ 1) :
    ∃ v' : K, 0 ≤ v' ∧ v' ≤ 1 ∧ ∀ p, Bezier.patch (fun i => f (p i)) u v = Bezier.patch p u v' := by
  obtain ⟨v', h0, h1, hcurve⟩ := hf.curve v h0 h1
  exact ⟨v', h0, h1, fun p => by simp only [Bezier.patch, hcurve]⟩

/-- Every point of a patch is one of a half across its rows. -/
theorem exists_half_across (h0 : 0 ≤ u) (h1 : u ≤ 1) :
    ∃ f, IsHalf K f ∧ ∃ u' : K, 0 ≤ u' ∧ u' ≤ 1 ∧
      ∀ p : Fin 4 → Fin 4 → V, Bezier.patch (f p) u' v = Bezier.patch p u v := by
  obtain ⟨f, hf, u', h0, h1, hcurve⟩ := exists_half (V := Fin 4 → V) u h0 h1
  exact ⟨f, hf, u', h0, h1, fun p => by rw [Bezier.patch_eq, hcurve, ← Bezier.patch_eq]⟩

/-- And one of a half along them. -/
theorem exists_half_along (h0 : 0 ≤ v) (h1 : v ≤ 1) :
    ∃ f, IsHalf K f ∧ ∃ v' : K, 0 ≤ v' ∧ v' ≤ 1 ∧
      ∀ p : Fin 4 → Fin 4 → V, Bezier.patch (fun i => f (p i)) u v' = Bezier.patch p u v := by
  obtain ⟨f, hf, v', h0, h1, hcurve⟩ := exists_half (V := V) v h0 h1
  exact ⟨f, hf, v', h0, h1, fun p => by simp only [Bezier.patch, hcurve]⟩

/-- A patch lies in the hull of its control points. -/
theorem patch_mem {p : Fin 4 → Fin 4 → V} {u v : K} (hs : Convex K s) (hp : ∀ i j, p i j ∈ s)
    (hu0 : 0 ≤ u) (hu1 : u ≤ 1) (hv0 : 0 ≤ v) (hv1 : v ≤ 1) : Bezier.patch p u v ∈ s :=
  curve_mem hs (fun i => curve_mem hs (hp i) hv0 hv1) hu0 hu1

end Patch

/-- The size of the differences of a net: the mixed ones, and the second ones in its two
directions. -/
structure Bent (twist across along : Set V) (p : Fin 4 → Fin 4 → V) : Prop where
  twist : ∀ i j, Casteljau.diff (Casteljau.diff p i) j ∈ twist
  across : ∀ i j, Casteljau.diff (Casteljau.diff p) i j ∈ across
  along : ∀ i j, Casteljau.diff (Casteljau.diff (p i)) j ∈ along

variable {s' t t' u u' : Set V} {p : Fin 4 → Fin 4 → V}

omit [Field K] [LinearOrder K] [Module K V] [IsStrictOrderedRing K] in
/-- Bounds on the differences may be raised. -/
theorem Bent.mono (h : Bent s t u p) (hs : s ⊆ s') (ht : t ⊆ t') (hu : u ⊆ u') :
    Bent s' t' u' p where
  twist i j := hs (h.twist i j)
  across i j := ht (h.across i j)
  along i j := hu (h.along i j)

/-- **The halves of a net across its rows.** -/
theorem Bent.half_across {f : (Fin 4 → Fin 4 → V) →ₗ[K] (Fin 4 → Fin 4 → V)} (h : Bent s t u p)
    (hf : IsHalf K f) (hs : Convex K s) (ht : Convex K t) (hu : Convex K u) :
    Bent {v | (2 : K) • v ∈ s} {v | (4 : K) • v ∈ t} u (f p) where
  twist i j := by
    have hrow := hf.diff (convex_diff hs) h.twist i j
    rwa [diff_smul] at hrow
  across := hf.diff_diff (convex_points ht) h.across
  along := hf.points (convex_diff_diff hu) h.along

/-- **The halves of a net along its rows.** -/
theorem Bent.half_along (h : Bent s t u p) (hf : IsHalf K f) (hs : Convex K s) (ht : Convex K t)
    (hu : Convex K u) :
    Bent {v | (2 : K) • v ∈ s} t {v | (4 : K) • v ∈ u} fun i => f (p i) where
  twist i := by
    rw [diff_map]
    exact hf.diff hs (h.twist i)
  across i := by
    rw [diff_map, diff_map]
    exact hf.points ht (h.across i)
  along i := hf.diff_diff hu (h.along i)

end OkularV3d.Casteljau
