import OkularV3d.Lib.BranchAndBound
import OkularV3d.Scene.Bound
import OkularV3d.Scene.Conservative
import OkularV3d.Scene.Termination

/-!
# How good the bounds are

`bound` in exact arithmetic is a branch and bound search (`OkularV3d.Lib.BranchAndBound`): the
corners of a piece are values, its control points bound all its values, and the gap between them is
at most the second differences, which shrink to a quarter. With the tolerance the objects use, the
box of a patch or a triangle lies in its true bounds and leaves out at most `2^-13` of the greatest
coordinate.

`ratiobound` is made for the ratios of a perspective view: for `max` it returns the least `x` of the
control points. So `computeBezierCurveBounds`, which calls it for a coordinate, gets the box of the
two ends of the curve in `x` and `y`, however far the curve goes.

* `Searchable` is what the search needs of a kind of piece; `searchable_patch`,
  `searchable_triangle` and `searchable_curve` provide it.
* `Gap` and `TriangleGap` bound the second differences of a piece, and `Gap.control_le` the distance
  of corners and control points by them.
* `Searchable.finds` is the accuracy of one search, `Finds.tight` that of a pair of them, and
  `TightBox` what the box of an object is then.
* `patchBounds_tight`, `triangleBounds_tight` and `curveBounds_ends` are the results.
-/

namespace OkularV3d

open BranchAndBound Casteljau

variable {K : Type} [ExactScalar K] {m : Extremum}

theorem le_exact {a b : K} : Scalar.le a b = true ↔ a ≤ b := by
  rw [Scalar.le, Bool.or_eq_true, lt_exact, le_iff_lt_or_eq]
  exact or_congr_right decide_eq_true_iff

/-! ### The least value as a greatest one -/

namespace Extremum

/-- `m(-1.0,1.0)`: the search for the least value is that for the greatest one of the opposites. -/
def sign : Extremum → K
  | min => -1
  | max => 1

/-- Under the sign, the better of two values is the greater one, for `min` as for `max`. -/
theorem sign_mul_of (a b : K) : m.sign * m.of a b = Max.max (m.sign * a) (m.sign * b) := by
  obtain _ | _ := m
  · have hof : Extremum.min.of a b = Min.min a b := by
      simp only [of, lt_exact]
      split_ifs with h
      · exact (min_eq_left h.le).symm
      · exact (min_eq_right (not_lt.mp h)).symm
    rw [hof, sign, neg_one_mul, neg_one_mul, neg_one_mul, max_neg_neg]
  · have hof : Extremum.max.of a b = Max.max a b := by
      simp only [of, lt_exact]
      split_ifs with h
      · exact (max_eq_left h.le).symm
      · exact (max_eq_right (not_lt.mp h)).symm
    rw [hof, sign, one_mul, one_mul, one_mul]

/-- The better of two values is one of them. -/
theorem of_mem {s : Set K} {a b : K} (ha : a ∈ s) (hb : b ∈ s) : m.of a b ∈ s := by
  obtain _ | _ := m
  · rw [of]
    split_ifs <;> assumption
  · rw [of]
    split_ifs <;> assumption

theorem sign_mul_sign (m : Extremum) : (m.sign * m.sign : K) = 1 := by
  obtain _ | _ := m <;> simp [sign]

/-- The sign is undone by itself. -/
theorem sign_mul_sign_mul (m : Extremum) (a : K) : m.sign * (m.sign * a) = a := by
  rw [← mul_assoc, sign_mul_sign, one_mul]

theorem abs_sign_mul (a : K) : |m.sign * a| = |a| := by obtain _ | _ := m <;> simp [sign]

/-- `m(-1.0,1.0)`, as the code finds out which of the two it was called for. -/
theorem of_one (m : Extremum) : m.of (-Scalar.lit 1) (Scalar.lit 1) = (m.sign : K) := by
  obtain _ | _ := m <;> simp [of, sign, lt_exact, lit_exact]

end Extremum

namespace Bound

/-- The test of the code, by the sign: no control value exceeds the best one by more than the
tolerance. -/
theorem settled_iff {b control fuzz : K} :
    settled m b control fuzz = true ↔ m.sign * control ≤ m.sign * b + fuzz := by
  rw [settled, m.of_one, le_exact, mul_sub]
  constructor <;> intro h <;> linarith

/-- A search that goes through the parts, with all values multiplied. -/
theorem mul_foldl {P : Type} {f g : K → P → K} {c : K}
    (h : ∀ b q, c * f b q = g (c * b) q) (ps : List P)
    (b : K) : c * ps.foldl f b = ps.foldl g (c * b) := by
  induction ps generalizing b with
  | nil => rfl
  | cons q ps ih => rw [List.foldl_cons, List.foldl_cons, ih, h]

/-! ### The search -/

section Search

variable {P : Type} {values : P → Set K} {corner control : P → K} {parts : P → List P}
  {Gap : K → P → Prop}

/-- What the search relies on: `corner` is a value of a piece, `control` bounds its values, the
parts of a piece have the same values, and the gap between the bounds shrinks to a quarter. -/
structure Searchable (m : Extremum) (values : P → Set K)
    (corner control : P → K) (parts : P → List P)
    (Gap : K → P → Prop) : Prop where
  corner_mem : ∀ p, corner p ∈ values p
  le_control : ∀ p, ∀ y ∈ values p, m.sign * y ≤ max (m.sign * corner p) (m.sign * control p)
  subset : ∀ p, ∀ q ∈ parts p, values q ⊆ values p
  cover : ∀ p, ∀ y ∈ values p, ∃ q ∈ parts p, y ∈ values q
  control_le : ∀ g p, Gap g p → m.sign * control p ≤ m.sign * corner p + g
  shrink : ∀ g p, Gap g p → ∀ q ∈ parts p, Gap (g / 4) q

/-- The extremum of the values, up to `slack`: a value that none of the others is beyond by more. -/
def Finds (m : Extremum) (values : Set K) (slack b : K) : Prop :=
  b ∈ values ∧ ∀ y ∈ values, m.sign * y ≤ m.sign * b + slack

variable {bound : ℕ → P → K → K → K} {depth k : ℕ} {p : P} {b g fuzz : K}
  (hzero : ∀ p b fuzz, bound 0 p b fuzz = m.of b (corner p))
  (hsucc : ∀ depth p b fuzz, bound (depth + 1) p b fuzz =
    if settled m (m.of b (corner p)) (control p) fuzz then m.of b (corner p)
    else (parts p).foldl (fun b q => bound depth q b (fuzz * Scalar.lit 2)) (m.of b (corner p)))
include hzero hsucc

/-- The functions of the code are branch and bound searches. -/
theorem eq_search :
    m.sign * bound depth p b fuzz =
      search (fun p => m.sign * corner p) (fun p => m.sign * control p) parts depth
        fuzz (m.sign * b) p := by
  induction depth generalizing p b fuzz with
  | zero =>
    rw [hzero]
    exact Extremum.sign_mul_of ..
  | succ depth ih =>
    have htwo : fuzz * Scalar.lit 2 = fuzz + fuzz := by
      rw [lit_exact, ← mul_two]
      norm_num
    simp only [hsucc, search, settled_iff, htwo, Extremum.sign_mul_of]
    split_ifs
    · exact Extremum.sign_mul_of ..
    · rw [mul_foldl (c := m.sign) fun _ _ => ih, Extremum.sign_mul_of]

/-- **What the search finds.** -/
theorem Searchable.finds (h : Searchable m values corner control parts Gap) (hk : k ≤ depth)
    (hfuzz : 0 ≤ fuzz) (hg : 0 ≤ g) (hgap : Gap g p) (hb : b ∈ values p) :
    Finds m (values p) (max (2 ^ k * fuzz) (g / 4 ^ k)) (bound depth p b fuzz) := by
  have heq := @eq_search K _ m P corner control parts bound depth p b fuzz hzero hsucc
  constructor
  · have hvalue : m.sign * (m.sign * bound depth p b fuzz) ∈ values p := by
      rw [heq]
      refine search_induct (fun y => m.sign * y ∈ values p) (fun q => values q ⊆ values p)
        (fun q hq => ?_) (fun q hq r hr => (h.subset q r hr).trans hq) ?_ subset_rfl
      · rw [Extremum.sign_mul_sign_mul]
        exact hq (h.corner_mem q)
      · rwa [Extremum.sign_mul_sign_mul]
    rwa [Extremum.sign_mul_sign_mul] at hvalue
  · intro y hy
    rw [heq]
    refine le_search_add (fun q y => m.sign * y ∈ values q) (fun q y hy => ?_)
      (fun q y hy => h.cover q _ hy) h.control_le h.shrink hk hfuzz hg hgap ?_
    · have hle := h.le_control q _ hy
      rwa [Extremum.sign_mul_sign_mul] at hle
    · rwa [Extremum.sign_mul_sign_mul]

end Search

/-! ### The tolerance -/

/-- The `norm` of the code is the greatest absolute value. -/
theorem norm_eq (a : List K) : norm a = a.foldl (fun result v => Max.max result |v|) 0 := by
  have hstep : ∀ result v : K,
    (if Scalar.lt result (if Scalar.lt v (Scalar.lit 0) then -v else v) then
      (if Scalar.lt v (Scalar.lit 0) then -v else v) else result) = Max.max result |v| := by
    intro result v
    have habs : (if Scalar.lt v (Scalar.lit 0) then -v else v) = |v| := by
      simp only [lt_exact, lit_exact, Rat.cast_zero]
      split_ifs with h
      · exact (abs_of_neg h).symm
      · exact (abs_of_nonneg (not_lt.mp h)).symm
    rw [habs]
    simp only [lt_exact]
    split_ifs with h
    · exact (max_eq_right h.le).symm
    · exact (max_eq_left (not_lt.mp h)).symm
  simp only [norm, hstep]
  rw [lit_exact, Rat.cast_zero]

theorem norm_nonneg (a : List K) : 0 ≤ norm a := by
  rw [norm_eq]
  exact le_foldl (fun b _ => le_max_left b _) a 0

/-- Every value is within the `norm`. -/
theorem abs_le_norm {a : List K} {v : K} (hv : v ∈ a) : |v| ≤ norm a := by
  rw [norm_eq]
  obtain ⟨c, hc⟩ := exists_le_foldl (f := fun result v : K => Max.max result |v|)
    (fun b _ => le_max_left b _) hv 0
  exact (le_max_right c _).trans hc

/-! ### Patches -/

theorem half_eq (a b : K) : half a b = midpoint K a b := by
  have h := Vec3.half_exact (K := K)
  rw [half, h, midpoint_eq_smul_add, invOf_eq_inv, smul_eq_mul]
  ring

/-- Halving does not depend on the order, so a cubic that is read backwards is halved alike. -/
theorem half_comm (a b : K) : half a b = half b a := by rw [half, half, add_comm]

/-- The construction of de Casteljau, from the other end. -/
theorem split_backwards (z0 c0 c1 z1 : K) :
    Split.of half z1 c1 c0 z0 =
      { m0 := (Split.of half z0 c0 c1 z1).m2, m2 := (Split.of half z0 c0 c1 z1).m0,
        m3 := (Split.of half z0 c0 c1 z1).m4, m4 := (Split.of half z0 c0 c1 z1).m3,
        m5 := (Split.of half z0 c0 c1 z1).m5 } := by
  simp only [Split.of]
  rw [half_comm z1 c1, half_comm c1 c0, half_comm c0 z0, half_comm (half c1 z1),
    half_comm (half c0 c1) (half z0 c0), half_comm (half (half c0 c1) (half c1 z1))]

/-- `bound` looks at the quarters of a net. -/
theorem net_quarters (P : Vector K 16) :
    (quarters P).map BezierPatch.net =
      [upper K fun i => lower K (BezierPatch.net P i),
        lower K fun i => lower K (BezierPatch.net P i),
        lower K fun i => upper K (BezierPatch.net P i),
          upper K fun i => upper K (BezierPatch.net P i)] := by
  -- `bound` splits across the rows from the far end, which gives the same points in the opposite
  -- order
  have h0 := split_backwards (P.get 0) (P.get 4) (P.get 8) (P.get 12)
  have h3 := split_backwards (P.get 3) (P.get 7) (P.get 11) (P.get 15)
  have h (f : Split K → K) := split_backwards
    (f (Split.of half (P.get 0) (P.get 1) (P.get 2) (P.get 3)))
    (f (Split.of half (P.get 4) (P.get 5) (P.get 6) (P.get 7)))
    (f (Split.of half (P.get 8) (P.get 9) (P.get 10) (P.get 11)))
    (f (Split.of half (P.get 12) (P.get 13) (P.get 14) (P.get 15)))
  simp only [quarters, h0, h3, h Split.m0, h Split.m2, h Split.m3, h Split.m4,
    h Split.m5, List.map_cons,
    List.map_nil, List.cons.injEq, and_true]
  refine ⟨?_, ?_, ?_, ?_⟩
  · funext i j
    rw [upper_apply]
    simp only [upper, lower, ← half_eq]
    fin_cases i <;> fin_cases j <;> rfl
  · funext i j
    rw [lower_apply]
    simp only [lower, ← half_eq]
    fin_cases i <;> fin_cases j <;> rfl
  · funext i j
    rw [lower_apply]
    simp only [upper, lower, ← half_eq]
    fin_cases i <;> fin_cases j <;> rfl
  · funext i j
    rw [upper_apply]
    simp only [upper, ← half_eq]
    fin_cases i <;> fin_cases j <;> rfl

/-- The control points of a patch, for the search of the greatest value. -/
def signed (m : Extremum) (P : Vector K 16) : Fin 4 → Fin 4 → K := (m.sign : K) • BezierPatch.net P

/-- `cornerbound`, by the sign: the greatest of the four corners. -/
theorem corner_eq (P : Vector K 16) :
    m.sign * cornerbound P m =
      max (max (max (signed m P 0 0) (signed m P 0 3)) (signed m P 3 0)) (signed m P 3 3) := by
  simp only [cornerbound, Extremum.sign_mul_of]
  rfl

/-- Every control value is within the bounds that the code takes of it. -/
theorem signed_le (P : Vector K 16) (i j : Fin 4) :
    signed m P i j ≤ max (m.sign * cornerbound P m) (m.sign * controlbound P m) := by
  have hcorner := le_max_left (m.sign * cornerbound P m) (m.sign * controlbound P m)
  have hcontrol := le_max_right (m.sign * cornerbound P m) (m.sign * controlbound P m)
  generalize max (m.sign * cornerbound P m) (m.sign * controlbound P m) = b at hcorner hcontrol ⊢
  simp only [cornerbound, controlbound, Extremum.sign_mul_of, max_le_iff] at hcorner hcontrol
  obtain ⟨⟨⟨h0, h3⟩, h12⟩, h15⟩ := hcorner
  obtain ⟨⟨⟨⟨⟨⟨⟨⟨⟨⟨⟨h1, h2⟩, h4⟩, h5⟩, h6⟩, h7⟩, h8⟩, h9⟩, h10⟩, h11⟩, h13⟩, h14⟩ := hcontrol
  fin_cases i <;> fin_cases j
  exacts [h0, h1, h2, h3, h4, h5, h6, h7, h8, h9, h10, h11, h12, h13, h14, h15]

/-- The control points of a row are not far above its ends. -/
theorem le_ends_add {z : Fin 4 → K} {e : K}
    (hz : ∀ i, diff (diff z) i ∈ Set.Icc (-e) e) (i : Fin 4) :
    z i ≤ max (z 0) (z 3) + e := by
  have h0 : -e ≤ z 2 - z 1 - (z 1 - z 0) ∧ z 2 - z 1 - (z 1 - z 0) ≤ e := hz 0
  have h1 : -e ≤ z 3 - z 2 - (z 2 - z 1) ∧ z 3 - z 2 - (z 2 - z 1) ≤ e := hz 1
  have hleft := le_max_left (z 0) (z 3)
  have hright := le_max_right (z 0) (z 3)
  fin_cases i
  · change z 0 ≤ _
    linarith
  · change z 1 ≤ _
    linarith
  · change z 2 ≤ _
    linarith
  · change z 3 ≤ _
    linarith

/-- The second differences of the control points are at most `h` across the rows and `v` along
them. -/
def Gap (m : Extremum) (g : K) (P : Vector K 16) : Prop :=
  ∃ h v, g = h + v ∧ Bent Set.univ (Set.Icc (-h) h) (Set.Icc (-v) v) (signed m P)

/-- Where the second differences are small, so is what the control values exceed the corners by. -/
theorem Gap.control_le {g : K} {P : Vector K 16} (hgap : Gap m g P) :
    m.sign * controlbound P m ≤ m.sign * cornerbound P m + g := by
  obtain ⟨h, v, rfl, hbent⟩ := hgap
  have hle : ∀ i j, signed m P i j ≤ m.sign * cornerbound P m + (h + v) := by
    intro i j
    have hcolumn : signed m P i j ≤ max (signed m P 0 j) (signed m P 3 j) + h :=
      le_ends_add (z := fun i => signed m P i j) (fun k => hbent.across k j) i
    have hends : max (signed m P 0 j) (signed m P 3 j) ≤ m.sign * cornerbound P m + v := by
      have hfirst := le_ends_add (hbent.along 0) j
      have hlast := le_ends_add (hbent.along 3) j
      have h0 : max (signed m P 0 0) (signed m P 0 3) ≤ m.sign * cornerbound P m := by
        rw [corner_eq, max_assoc _ _ (signed m P 3 3)]
        exact le_max_left _ _
      have h3 : max (signed m P 3 0) (signed m P 3 3) ≤ m.sign * cornerbound P m := by
        rw [corner_eq, max_assoc _ _ (signed m P 3 3)]
        exact le_max_right _ _
      exact max_le (by linarith) (by linarith)
    linarith
  simp only [controlbound, Extremum.sign_mul_of, max_le_iff]
  exact ⟨⟨⟨⟨⟨⟨⟨⟨⟨⟨⟨hle 0 1, hle 0 2⟩, hle 1 0⟩, hle 1 1⟩, hle 1 2⟩, hle 1 3⟩, hle 2 0⟩,
    hle 2 1⟩, hle 2 2⟩,
    hle 2 3⟩, hle 3 1⟩, hle 3 2⟩

/-- The values of a patch of numbers. -/
def patchValues (P : Vector K 16) : Set K :=
  {y | ∃ u v : K, 0 ≤ u ∧ u ≤ 1 ∧ 0 ≤ v ∧ v ≤ 1 ∧ y = Bezier.patch (BezierPatch.net P) u v}

/-- The sign goes through the surface. -/
theorem sign_mul_patch (P : Vector K 16) (u v : K) :
    m.sign * Bezier.patch (BezierPatch.net P) u v = Bezier.patch (signed m P) u v := by
  simp only [signed, Bezier.patch, Bezier.curve, Pi.smul_apply, smul_eq_mul, Finset.mul_sum]
  exact Finset.sum_congr rfl fun i _ => Finset.sum_congr rfl fun j _ => by ring

/-- A quarter is a half of a half, in the two directions. -/
theorem exists_halves {P Q : Vector K 16} (hQ : Q ∈ quarters P) :
    ∃ (f : (Fin 4 → Fin 4 → K) →ₗ[K] (Fin 4 → Fin 4 → K)) (g : (Fin 4 → K) →ₗ[K] (Fin 4 → K)),
      IsHalf K f ∧ IsHalf K g ∧ BezierPatch.net Q = f fun i => g (BezierPatch.net P i) := by
  have hnet := List.mem_map_of_mem (f := BezierPatch.net) hQ
  rw [net_quarters] at hnet
  simp only [List.mem_cons, List.not_mem_nil, or_false] at hnet
  obtain h | h | h | h := hnet
  exacts [⟨_, _, .inr rfl, .inl rfl, h⟩, ⟨_, _, .inl rfl, .inl rfl, h⟩,
    ⟨_, _, .inl rfl, .inr rfl, h⟩,
    ⟨_, _, .inr rfl, .inr rfl, h⟩]

/-- Every half of a half is a quarter the code looks at. -/
theorem exists_quarter (P : Vector K 16) {f : (Fin 4 → Fin 4 → K) →ₗ[K] (Fin 4 → Fin 4 → K)}
    {g : (Fin 4 → K) →ₗ[K] (Fin 4 → K)} (hf : IsHalf K f) (hg : IsHalf K g) :
    ∃ Q ∈ quarters P, BezierPatch.net Q = f fun i => g (BezierPatch.net P i) := by
  rw [← List.mem_map, net_quarters]
  obtain rfl | rfl := hf <;> obtain rfl | rfl := hg <;> simp

theorem quarter_subset_Icc (e : K) :
    {y : K | (4 : K) • y ∈ Set.Icc (-e) e} ⊆ Set.Icc (-(e / 4)) (e / 4) := by
  intro y hy
  obtain ⟨hlo, hhi⟩ : -e ≤ 4 * y ∧ 4 * y ≤ e := hy
  exact ⟨by linarith, by linarith⟩

/-- **What `bound` relies on for patches.** With each level the gap falls to a quarter. -/
theorem searchable_patch :
    Searchable (K := K) m patchValues (cornerbound · m) (controlbound · m) quarters (Gap m) where
  corner_mem P := by
    have h0 : P.get 0 ∈ patchValues P := ⟨0, 0, by simp [Bezier.patch, BezierPatch.net]⟩
    have h3 : P.get 3 ∈ patchValues P := ⟨0, 1, by simp [Bezier.patch, BezierPatch.net]⟩
    have h12 : P.get 12 ∈ patchValues P := ⟨1, 0, by simp [Bezier.patch, BezierPatch.net]⟩
    have h15 : P.get 15 ∈ patchValues P := ⟨1, 1, by simp [Bezier.patch, BezierPatch.net]⟩
    exact Extremum.of_mem (Extremum.of_mem (Extremum.of_mem h0 h3) h12) h15
  le_control P y hy := by
    obtain ⟨u, v, hu0, hu1, hv0, hv1, rfl⟩ := hy
    rw [sign_mul_patch]
    exact patch_mem (convex_Iic _) (signed_le P) hu0 hu1 hv0 hv1
  subset P Q hQ y hy := by
    obtain ⟨f, g, hf, hg, hnet⟩ := exists_halves hQ
    obtain ⟨u, v, hu0, hu1, hv0, hv1, rfl⟩ := hy
    obtain ⟨u', hu0, hu1, hu⟩ := hf.patch_across (V := K) u v hu0 hu1
    obtain ⟨v', hv0, hv1, hv⟩ := hg.patch_along u' v hv0 hv1
    exact ⟨u', v', hu0, hu1, hv0, hv1, by rw [hnet, hu, hv]⟩
  cover P y hy := by
    obtain ⟨u, v, hu0, hu1, hv0, hv1, rfl⟩ := hy
    obtain ⟨g, hg, v', hv0, hv1, hv⟩ := exists_half_along (V := K) u v hv0 hv1
    obtain ⟨f, hf, u', hu0, hu1, hu⟩ := exists_half_across (V := K) u v' hu0 hu1
    obtain ⟨Q, hQ, hnet⟩ := exists_quarter P hf hg
    exact ⟨Q, hQ, u', v', hu0, hu1, hv0, hv1, by rw [hnet, hu, hv]⟩
  control_le g P h := h.control_le
  shrink g P hgap Q hQ := by
    obtain ⟨h, v, rfl, hbent⟩ := hgap
    obtain ⟨f, g, hf, hg, hnet⟩ := exists_halves hQ
    have hsigned : signed m Q = f fun i => g (signed m P i) := by
      rw [signed, hnet, ← map_smul]
      exact congrArg f (funext fun i => (map_smul g _ _).symm)
    refine ⟨h / 4, v / 4, add_div h v 4, ?_⟩
    rw [hsigned]
    -- halved along the rows, and what comes of it across them
    have hrow := (hbent.half_along hg convex_univ (convex_Icc _ _) (convex_Icc _ _)).mono
      (Set.subset_univ _) subset_rfl (quarter_subset_Icc v)
    exact (hrow.half_across hf convex_univ (convex_Icc _ _) (convex_Icc _ _)).mono
      (Set.subset_univ _) (quarter_subset_Icc h) subset_rfl

/-! ### Triangles -/

open BezierTriangle

/-- `Splittri` is De Casteljau's construction of a Bezier triangle. -/
theorem splittri_eq (P : Vector K 10) : splittri P = splitNet K P := by
  have hhalf : half = midpoint K (P := K) := by
    funext a b
    exact half_eq a b
  have htwo : (Scalar.lit (1 / 2) : K) = 1 / 2 := by rw [lit_exact]; norm_num
  have hfour : (Scalar.lit (1 / 4) : K) = 1 / 4 := by rw [lit_exact]; norm_num
  rw [splittri, splitNet, hhalf, htwo, hfour]
  rfl

section Parts

variable (P : Vector K 10) (u v w : K)

/-- The part at the first corner, in the coordinates of the whole. -/
theorem triangleCubic_l :
    triangleCubic (splitNet K P).l.get u v w =
      triangleCubic P.get (u + v / 2 + w / 2) (v / 2) (w / 2) := by
  simp only [triangleCubic, splitNet, SplitTriangle.of, ↓get_ten,
    ↓Matrix.cons_val, midpoint_eq_smul_add,
    invOf_eq_inv, smul_eq_mul]
  ring

/-- The part at the second corner. -/
theorem triangleCubic_r :
    triangleCubic (splitNet K P).r.get u v w =
      triangleCubic P.get (u / 2) (u / 2 + v + w / 2) (w / 2) := by
  simp only [triangleCubic, splitNet, SplitTriangle.of, ↓get_ten,
    ↓Matrix.cons_val, midpoint_eq_smul_add,
    invOf_eq_inv, smul_eq_mul]
  ring

/-- The part at the third corner. -/
theorem triangleCubic_u :
    triangleCubic (splitNet K P).u.get u v w =
      triangleCubic P.get (u / 2) (v / 2) (u / 2 + v / 2 + w) := by
  simp only [triangleCubic, splitNet, SplitTriangle.of, ↓get_ten,
    ↓Matrix.cons_val, midpoint_eq_smul_add,
    invOf_eq_inv, smul_eq_mul]
  ring

/-- The part in the middle, which is turned around. -/
theorem triangleCubic_c :
    triangleCubic (splitNet K P).c.get u v w =
      triangleCubic P.get ((v + w) / 2) ((u + w) / 2) ((u + v) / 2) := by
  simp only [triangleCubic, splitNet, SplitTriangle.of, ↓get_ten,
    ↓Matrix.cons_val, midpoint_eq_smul_add,
    invOf_eq_inv, smul_eq_mul]
  ring

end Parts

/-- The values of a triangle of numbers. -/
def triangleValues (P : Vector K 10) : Set K :=
  {y | ∃ u v w : K, 0 ≤ u ∧ 0 ≤ v ∧ 0 ≤ w ∧ u + v + w = 1 ∧ y = triangleCubic P.get u v w}

/-- The second differences of the control points are small. -/
def TriangleGap (g : K) (P : Vector K 10) : Prop :=
  ∀ i, |bend P i| + |bend P i| + |bend P i| ≤ g + g

/-- `cornerboundtri`, by the sign: the greatest of the three corners. -/
theorem corner_eq_triangle (P : Vector K 10) :
    m.sign * cornerboundtri P m =
      max (max (m.sign * P.get 0) (m.sign * P.get 6)) (m.sign * P.get 9) := by
  simp only [cornerboundtri, Extremum.sign_mul_of]

/-- Every control value of a triangle is within the bounds that the code takes of it. -/
theorem sign_mul_le_triangle (P : Vector K 10) (i : Fin 10) :
    m.sign * P.get i ≤ max (m.sign * cornerboundtri P m) (m.sign * controlboundtri P m) := by
  have hcorner := le_max_left (m.sign * cornerboundtri P m) (m.sign * controlboundtri P m)
  have hcontrol := le_max_right (m.sign * cornerboundtri P m) (m.sign * controlboundtri P m)
  generalize max (m.sign * cornerboundtri P m) (m.sign * controlboundtri P m) =
    b at hcorner hcontrol ⊢
  simp only [cornerboundtri, controlboundtri, Extremum.sign_mul_of, max_le_iff] at hcorner hcontrol
  obtain ⟨⟨h0, h6⟩, h9⟩ := hcorner
  obtain ⟨⟨⟨⟨⟨⟨h1, h2⟩, h3⟩, h4⟩, h5⟩, h7⟩, h8⟩ := hcontrol
  fin_cases i
  exacts [h0, h1, h2, h3, h4, h5, h6, h7, h8, h9]

/-- The gap of a triangle: its control values exceed the corners by no more than the second
differences. -/
theorem TriangleGap.control_le {g : K} {P : Vector K 10} (hgap : TriangleGap g P) :
    m.sign * controlboundtri P m ≤ m.sign * cornerboundtri P m + g := by
  have hbend : ∀ i, -(2 / 3 * g) ≤ m.sign * bend P i := fun i => by
    have hi := hgap i
    have hle : |bend P i| ≤ 2 / 3 * g := by linarith
    exact neg_le_of_abs_le ((Extremum.abs_sign_mul _).trans_le hle)
  have hg : 0 ≤ g := by linarith [hgap 0, abs_nonneg (bend P 0)]
  -- along the three edges
  have h0 : -(2 / 3 * g) ≤ m.sign * (P.get 3 - P.get 1 - (P.get 1 - P.get 0)) := hbend 0
  have h1 : -(2 / 3 * g) ≤ m.sign * (P.get 6 - P.get 3 - (P.get 3 - P.get 1)) := hbend 1
  have h3 : -(2 / 3 * g) ≤ m.sign * (P.get 5 - P.get 2 - (P.get 2 - P.get 0)) := hbend 3
  have h5 : -(2 / 3 * g) ≤ m.sign * (P.get 9 - P.get 5 - (P.get 5 - P.get 2)) := hbend 5
  have h7 : -(2 / 3 * g) ≤ m.sign * (P.get 8 - P.get 7 - (P.get 7 - P.get 6)) := hbend 7
  have h8 : -(2 / 3 * g) ≤ m.sign * (P.get 9 - P.get 8 - (P.get 8 - P.get 7)) := hbend 8
  -- through the middle
  have h4 : -(2 / 3 * g) ≤ m.sign * (P.get 8 - P.get 4 - (P.get 4 - P.get 1)) := hbend 4
  have hcorner := (corner_eq_triangle (m := m) P).ge
  rw [max_le_iff, max_le_iff] at hcorner
  obtain ⟨⟨hc0, hc6⟩, hc9⟩ := hcorner
  simp only [controlboundtri, Extremum.sign_mul_of, max_le_iff]
  refine ⟨⟨⟨⟨⟨⟨?_, ?_⟩, ?_⟩, ?_⟩, ?_⟩, ?_⟩, ?_⟩ <;> linarith

/-- Second differences of a part are means of those of the whole, at a quarter of the size. -/
theorem TriangleGap.part {g : K} {P Q : Vector K 10} (h : TriangleGap g P) (a b : Fin 9 → Fin 9)
    (hQ : ∀ i, (4 : K) • bend Q i = midpoint K (bend P (a i)) (bend P (b i))) :
    TriangleGap (g / 4) Q := by
  intro i
  have hle : ∀ j, |bend P j| ≤ 2 / 3 * g := fun j => by linarith [h j]
  have hmid : bend Q i ∈ Set.Icc (-(2 / 3 * g / 4)) (2 / 3 * g / 4) := by
    have hconvex : Convex K (Set.Icc (-(2 / 3 * g)) (2 / 3 * g)) := convex_Icc _ _
    have hi := hconvex.midpoint_mem (abs_le.mp (hle (a i))) (abs_le.mp (hle (b i)))
    rw [← hQ i] at hi
    exact quarter_subset_Icc _ hi
  linarith [abs_le.mpr hmid]

/-- **What `boundtri` relies on for triangles.** -/
theorem searchable_triangle :
    Searchable (K := K) m triangleValues (cornerboundtri · m) (controlboundtri · m)
      (fun P => [(splittri P).l, (splittri P).r, (splittri P).u, (splittri P).c]) TriangleGap where
  corner_mem P := by
    have h0 : P.get 0 ∈ triangleValues P := ⟨1, 0, 0, by simp [triangleCubic]⟩
    have h6 : P.get 6 ∈ triangleValues P := ⟨0, 1, 0, by simp [triangleCubic]⟩
    have h9 : P.get 9 ∈ triangleValues P := ⟨0, 0, 1, by simp [triangleCubic]⟩
    exact Extremum.of_mem (Extremum.of_mem h0 h6) h9
  le_control P y hy := by
    obtain ⟨u, v, w, hu, hv, hw, hone, rfl⟩ := hy
    have hsign : m.sign * triangleCubic P.get u v w =
      triangleCubic (fun i => m.sign * P.get i) u v w := by
      simp only [triangleCubic]
      ring
    rw [hsign]
    exact triangleCubic_le hu hv hw hone (sign_mul_le_triangle P)
  subset P Q hQ y hy := by
    obtain ⟨u, v, w, hu, hv, hw, hone, rfl⟩ := hy
    rw [splittri_eq] at hQ
    simp only [List.mem_cons, List.not_mem_nil, or_false] at hQ
    obtain rfl | rfl | rfl | rfl := hQ
    · exact ⟨_, _, _, by linarith, by linarith, by linarith, by linarith, triangleCubic_l P u v w⟩
    · exact ⟨_, _, _, by linarith, by linarith, by linarith, by linarith, triangleCubic_r P u v w⟩
    · exact ⟨_, _, _, by linarith, by linarith, by linarith, by linarith, triangleCubic_u P u v w⟩
    · exact ⟨_, _, _, by linarith, by linarith, by linarith, by linarith, triangleCubic_c P u v w⟩
  cover P y hy := by
    obtain ⟨u, v, w, hu, hv, hw, hone, rfl⟩ := hy
    have hat : ∀ {a b c : K}, a = u → b = v → c = w →
        triangleCubic P.get u v w = triangleCubic P.get a b c := by
      rintro a b c rfl rfl rfl
      rfl
    simp only [splittri_eq, List.exists_mem_cons_iff, List.not_mem_nil,
      false_and, exists_false, or_false]
    -- one coordinate is at least a half, and its corner has the point; or none is, and the part in
    -- the middle has it
    obtain hu' | hu' := le_total 1 (2 * u)
    · refine .inl ⟨2 * u - 1, 2 * v, 2 * w, by linarith, by linarith, by linarith, by linarith, ?_⟩
      rw [triangleCubic_l]
      exact hat (by linarith) (by linarith) (by linarith)
    obtain hv' | hv' := le_total 1 (2 * v)
    · refine .inr (.inl ⟨2 * u, 2 * v - 1, 2 * w,
        by linarith, by linarith, by linarith, by linarith, ?_⟩)
      rw [triangleCubic_r]
      exact hat (by linarith) (by linarith) (by linarith)
    obtain hw' | hw' := le_total 1 (2 * w)
    · refine .inr (.inr (.inl ⟨2 * u, 2 * v, 2 * w - 1, by linarith, by linarith, by linarith,
        by linarith, ?_⟩))
      rw [triangleCubic_u]
      exact hat (by linarith) (by linarith) (by linarith)
    · refine .inr (.inr (.inr
        ⟨1 - 2 * u, 1 - 2 * v, 1 - 2 * w, by linarith, by linarith, by linarith,
        by linarith, ?_⟩))
      rw [triangleCubic_c]
      exact hat (by linarith) (by linarith) (by linarith)
  control_le g P h := h.control_le
  shrink g P h Q hQ := by
    rw [splittri_eq] at hQ
    simp only [List.mem_cons, List.not_mem_nil, or_false] at hQ
    obtain rfl | rfl | rfl | rfl := hQ
    exacts [h.part _ _ (four_smul_bend_l K P), h.part _ _ (four_smul_bend_r K P),
      h.part _ _ (four_smul_bend_u K P), h.part _ _ (four_smul_bend_c K P)]

/-! ### Curves -/

open scoped Vec3

/-- The points of a curve, as Bernstein's polynomials give them. -/
theorem curvePoint_eq (p : Vector (Vec3 K) 4) (t : K) : curvePoint p t = Bezier.curve p.get t := by
  rw [Bezier.curve_eq]
  rfl

/-- `z`, for the search of the greatest value. -/
def signedZ (m : Extremum) : Vec3 K →ₗ[K] K where
  toFun v := m.sign * v.z
  map_add' _ _ := mul_add _ _ _
  map_smul' _ _ := mul_left_comm _ _ _

theorem signedZ_apply (v : Vec3 K) : signedZ m v = m.sign * v.z := rfl

/-- The second differences of the control points are small. -/
def CurveGap (m : Extremum) (g : K) (p : Vector (Vec3 K) 4) : Prop :=
  ∀ i, diff (diff p.get) i ∈ {v | signedZ m v ∈ Set.Icc (-g) g}

/-- The parts of a curve are its halves. -/
theorem exists_half_of_mem {p q : Vector (Vec3 K) 4} (hq : q ∈ [firstHalf p, secondHalf p]) :
    ∃ f, IsHalf K f ∧ q.get = f p.get := by
  simp only [List.mem_cons, List.not_mem_nil, or_false] at hq
  obtain rfl | rfl := hq
  exacts [⟨_, .inl rfl, get_firstHalf p⟩, ⟨_, .inr rfl, get_secondHalf p⟩]

/-- The opposite of the extremum of the opposites is on the other side. -/
theorem neg_max_neg_le (a b c d : K) : -max (max (max (-a) (-b)) (-c)) (-d) ≤ a :=
  neg_le.mp (le_max_of_le_left (le_max_of_le_left (le_max_left _ _)))

/-- In `z`, `ratiobound` has all four control points. -/
theorem ratiobound_z (p : Vector (Vec3 K) 4) :
    m.sign * ratiobound p m Vec3.z =
      max (max (max (signedZ m (p.get 0)) (signedZ m (p.get 1))) (signedZ m (p.get 2)))
        (signedZ m (p.get 3)) := by
  simp only [ratiobound, Extremum.sign_mul_of, mul_neg, signedZ_apply]
  refine max_eq_left ((neg_max_neg_le _ _ _ _).trans ?_)
  exact le_max_of_le_left (le_max_of_le_left (le_max_left _ _))

/-- **What the search in `z` relies on for curves.** -/
theorem searchable_curve :
    Searchable (K := K) m (fun p => Vec3.z '' curveSet p)
      (fun p => m.of (p.get 0).z (p.get 3).z) (fun p => ratiobound p m Vec3.z)
      (fun p => [firstHalf p, secondHalf p]) (CurveGap m) where
  corner_mem p := by
    have h0 : (p.get 0).z ∈ Vec3.z '' curveSet p :=
      ⟨p.get 0, ⟨0, le_rfl, zero_le_one, by simp [curvePoint_eq]⟩, rfl⟩
    have h3 : (p.get 3).z ∈ Vec3.z '' curveSet p :=
      ⟨p.get 3, ⟨1, zero_le_one, le_rfl, by simp [curvePoint_eq]⟩, rfl⟩
    exact Extremum.of_mem h0 h3
  le_control p y hy := by
    obtain ⟨q, ⟨t, h0, h1, rfl⟩, rfl⟩ := hy
    rw [curvePoint_eq, ← signedZ_apply, map_curve]
    refine (curve_mem (convex_Iic _) (fun i => ?_) h0 h1).trans (le_max_right _ _)
    rw [ratiobound_z]
    fin_cases i <;> simp
  subset p q hq := by
    refine Set.image_mono ?_
    rintro _ ⟨t, h0, h1, rfl⟩
    obtain ⟨f, hf, hget⟩ := exists_half_of_mem hq
    obtain ⟨t', h0, h1, hcurve⟩ := hf.curve (V := Vec3 K) t h0 h1
    exact ⟨t', h0, h1, by rw [curvePoint_eq, curvePoint_eq, hget, hcurve]⟩
  cover p y hy := by
    obtain ⟨_, ⟨t, h0, h1, rfl⟩, rfl⟩ := hy
    obtain ⟨f, hf, t', h0, h1, hcurve⟩ := exists_half (V := Vec3 K) t h0 h1
    have hpart : ∃ q ∈ [firstHalf p, secondHalf p], q.get = f p.get := by
      obtain rfl | rfl := hf
      · exact ⟨_, by simp, get_firstHalf p⟩
      · exact ⟨_, by simp, get_secondHalf p⟩
    obtain ⟨q, hq, hget⟩ := hpart
    refine ⟨q, hq, _, ⟨t', h0, h1, ?_⟩, rfl⟩
    rw [curvePoint_eq, curvePoint_eq, hget, hcurve]
  control_le g p h := by
    have hle := le_ends_add (z := fun i => signedZ m (p.get i)) (e := g) fun i => by
      rw [diff_map, diff_map]
      exact h i
    simp only [ratiobound_z, Extremum.sign_mul_of, max_le_iff]
    exact ⟨⟨⟨hle 0, hle 1⟩, hle 2⟩, hle 3⟩
  shrink g p h q hq i := by
    obtain ⟨f, hf, hget⟩ := exists_half_of_mem hq
    -- a part has convex combinations of the second differences, a quarter as long
    have hconvex : Convex K {v | signedZ m v ∈ Set.Icc (-g) g} :=
      (convex_Icc (-g) g).linear_preimage (signedZ m)
    have hi := hf.diff_diff hconvex h i
    rw [← hget] at hi
    refine quarter_subset_Icc g ?_
    change (4 : K) • signedZ m _ ∈ Set.Icc (-g) g
    rw [← map_smul]
    exact hi

/-! ### The first gap -/

/-- Second differences are at most four times the values. -/
theorem diff_diff_mem {n : ℕ} {z : Fin (n + 2) → K} {r : K} (h : ∀ i, |z i| ≤ r) (i : Fin n) :
    diff (diff z) i ∈ Set.Icc (-(4 * r)) (4 * r) := by
  have h0 := abs_le.mp (h i.castSucc.castSucc)
  have h1 := abs_le.mp (h i.castSucc.succ)
  have h1' := abs_le.mp (h i.succ.castSucc)
  have h2 := abs_le.mp (h i.succ.succ)
  simp only [diff, Set.mem_Icc]
  constructor <;> linarith

theorem abs_get_le {n : ℕ} (P : Vector K n) (i : Fin n) : |P.get i| ≤ norm P.toList :=
  abs_le_norm (Vector.mem_toList_iff.mpr (Vector.getElem_mem i.isLt))

/-- The gap to start with, for a patch: eight times the greatest coordinate. -/
theorem gap_norm (P : Vector K 16) : Gap m (8 * norm P.toList) P := by
  have hle : ∀ i j, |signed m P i j| ≤ norm P.toList := by
    intro i j
    change |m.sign * BezierPatch.net P i j| ≤ _
    rw [Extremum.abs_sign_mul]
    fin_cases i <;> fin_cases j <;> exact abs_get_le P _
  refine ⟨4 * norm P.toList, 4 * norm P.toList, by ring, fun _ _ => trivial,
    fun i j => ?_, fun i => ?_⟩
  · exact diff_diff_mem (z := fun k => signed m P k j) (fun k => hle k j) i
  · exact diff_diff_mem (hle i)

/-- The gap to start with, for a triangle. -/
theorem triangleGap_norm (P : Vector K 10) : TriangleGap (8 * norm P.toList) P := by
  have hsecond : ∀ i j k : Fin 10,
      |P.get k - P.get j - (P.get j - P.get i)| ≤ 2 / 3 * (8 * norm P.toList) := by
    intro i j k
    have hi := abs_le.mp (abs_get_le P i)
    have hj := abs_le.mp (abs_get_le P j)
    have hk := abs_le.mp (abs_get_le P k)
    rw [abs_le]
    constructor <;> linarith
  have hle : ∀ i, |bend P i| ≤ 2 / 3 * (8 * norm P.toList) := by
    intro i
    fin_cases i <;> exact hsecond _ _ _
  exact fun i => by linarith [hle i]

/-- The gap to start with, for a curve. -/
theorem curveGap_norm (p : Vector (Vec3 K) 4) : CurveGap m (8 * norm (p.toList.map Vec3.z)) p := by
  have hle : ∀ i, |signedZ m (p.get i)| ≤ norm (p.toList.map Vec3.z) := by
    intro i
    rw [signedZ_apply, Extremum.abs_sign_mul]
    exact abs_le_norm (List.mem_map_of_mem (Vector.mem_toList_iff.mpr (Vector.getElem_mem i.isLt)))
  intro i
  have hi := diff_diff_mem hle i
  rw [diff_map, diff_map] at hi
  have hpos := norm_nonneg (p.toList.map Vec3.z)
  exact Set.Icc_subset_Icc (by linarith) (by linarith) hi

/-! ### The boxes -/

/-- The extent of some values, up to `slack`; both ends are values. -/
structure Tight (values : Set K) (lo hi slack : K) : Prop where
  least : lo ∈ values
  greatest : hi ∈ values
  near : ∀ y ∈ values, lo - slack ≤ y ∧ y ≤ hi + slack

/-- A search for the least value and one for the greatest give tight bounds. -/
theorem Finds.tight {values : Set K} {lo hi slack : K} (hmin : Finds .min values slack lo)
    (hmax : Finds .max values slack hi) : Tight values lo hi slack where
  least := hmin.1
  greatest := hmax.1
  near y hy := by
    have hlo := hmin.2 y hy
    have hhi := hmax.2 y hy
    simp only [Extremum.sign] at hlo hhi
    constructor <;> linarith

theorem Finds.mono {values : Set K} {slack slack' b : K} (h : Finds m values slack b)
    (hle : slack ≤ slack') : Finds m values slack' b :=
  ⟨h.1, fun y hy => (h.2 y hy).trans (add_le_add_right hle _)⟩

/-- A box that lies in the bounds of a set and leaves out little of it, relative to its control
points. -/
structure TightBox (S : Set (Vec3 K)) (controls : List (Vec3 K))
    (box : Vec3 K × Vec3 K) : Prop where
  x : Tight (Vec3.x '' S) box.1.x box.2.x (norm (controls.map Vec3.x) / 2 ^ 13)
  y : Tight (Vec3.y '' S) box.1.y box.2.y (norm (controls.map Vec3.y) / 2 ^ 13)
  z : Tight (Vec3.z '' S) box.1.z box.2.z (norm (controls.map Vec3.z) / 2 ^ 13)

theorem patchPoint_eq (p : Vector (Vec3 K) 16) (u v : K) :
    patchPoint p u v = Bezier.patch (BezierPatch.net p) u v := by
  simp only [patchPoint, curvePoint_eq, Bezier.patch]
  refine congrArg (Bezier.curve · u) (funext fun i => ?_)
  fin_cases i <;> refine congrArg (Bezier.curve · v) (funext fun j => ?_) <;> fin_cases j <;> rfl

omit [ExactScalar K] in
theorem get_map {V : Type} {n : ℕ} (g : V → K) (p : Vector V n) (i : Fin n) :
    (p.map g).get i = g (p.get i) := Vector.getElem_map g i.isLt

/-- A coordinate of the points of a patch takes the values of its control coordinates. -/
theorem image_patchSet (l : Vec3 K →ₗ[K] K) (p : Vector (Vec3 K) 16) :
    l '' patchSet p = patchValues (p.map l) := by
  have hnet : (fun i j => l (BezierPatch.net p i j)) = BezierPatch.net (p.map l) := by
    funext i j
    fin_cases i <;> fin_cases j <;> exact (get_map ..).symm
  have hpoint : ∀ u v, l (patchPoint p u v) = Bezier.patch (BezierPatch.net (p.map l)) u v :=
    fun u v => by
    rw [patchPoint_eq, map_patch, hnet]
  refine subset_antisymm ?_ ?_
  · rintro _ ⟨_, ⟨u, v, hu0, hu1, hv0, hv1, rfl⟩, rfl⟩
    exact ⟨u, v, hu0, hu1, hv0, hv1, hpoint u v⟩
  · rintro _ ⟨u, v, hu0, hu1, hv0, hv1, rfl⟩
    exact ⟨_, ⟨u, v, hu0, hu1, hv0, hv1, rfl⟩, hpoint u v⟩

/-- The same for a triangle. -/
theorem image_triangleSet {f : Vec3 K → K} (p : Vector (Vec3 K) 10)
    (hf : ∀ u v w, f (trianglePoint p u v w) = triangleCubic (fun i => f (p.get i)) u v w) :
    f '' triangleSet p = triangleValues (p.map f) := by
  have hpoint : ∀ u v w, f (trianglePoint p u v w) = triangleCubic (p.map f).get u v w :=
    fun u v w => by
    rw [hf]
    exact congrArg (triangleCubic · u v w) (funext fun i => (get_map f p i).symm)
  refine subset_antisymm ?_ ?_
  · rintro _ ⟨_, ⟨u, v, w, hu, hv, hw, hone, rfl⟩, rfl⟩
    exact ⟨u, v, w, hu, hv, hw, hone, hpoint u v w⟩
  · rintro _ ⟨u, v, w, hu, hv, hw, hone, rfl⟩
    exact ⟨_, ⟨u, v, w, hu, hv, hw, hone, rfl⟩, hpoint u v w⟩

section Real

theorem fuzz_nonneg : (0 : ℝ) ≤ fuzz := Real.sqrt_nonneg _

/-- `Fuzz`, the tolerance of the objects, is small beside the boxes. -/
theorem fuzz_le : (fuzz : ℝ) ≤ 1 / 2 ^ 21 := by
  rw [fuzz, sqrt_real, Real.sqrt_le_iff]
  refine ⟨by positivity, ?_⟩
  simp only [fuzz2, BezierPatch.dblEpsilon, lit_real]
  norm_num

/-- The tolerance and the gap of the eighth level. -/
theorem slack_le {r : ℝ} (hr : 0 ≤ r) : max (2 ^ 8 * (fuzz * r)) (8 * r / 4 ^ 8) ≤ r / 2 ^ 13 := by
  have hfuzz := mul_le_mul_of_nonneg_right fuzz_le hr
  refine max_le ?_ ?_ <;> linarith

/-- **A coordinate of a patch**: the search ends within its depth, and misses the best value by at
most `2^-13` of the greatest coordinate. -/
theorem patch_finds (l : Vec3 ℝ →ₗ[ℝ] ℝ) (p : Vector (Vec3 ℝ) 16) :
    Finds m (l '' patchSet p) (norm (p.toList.map l) / 2 ^ 13)
      (patch m maxdepth (p.map l) (l (p.get 0)) (fuzz * norm (p.toList.map l))) := by
  have hlist : (p.map l).toList = p.toList.map l := Vector.toList_map ..
  have hnorm : 0 ≤ norm (p.toList.map l) := norm_nonneg _
  have hfirst : l (p.get 0) ∈ patchValues (p.map l) := by
    rw [← image_patchSet]
    refine ⟨p.get 0, ⟨0, 0, le_rfl, zero_le_one, le_rfl, zero_le_one, ?_⟩, rfl⟩
    simp [patchPoint_eq, Bezier.patch, BezierPatch.net]
  have hgap : Gap m (8 * norm (p.toList.map l)) (p.map l) := hlist ▸ gap_norm (p.map l)
  rw [image_patchSet]
  exact (searchable_patch.finds (fun _ _ _ => rfl) (fun _ _ _ _ => rfl) (k := 8) (by decide)
    (mul_nonneg fuzz_nonneg hnorm) (by positivity) hgap hfirst).mono (slack_le hnorm)

/-- A coordinate of a Bezier triangle. -/
theorem triangle_finds {f : Vec3 ℝ → ℝ} (p : Vector (Vec3 ℝ) 10)
    (hf : ∀ u v w, f (trianglePoint p u v w) = triangleCubic (fun i => f (p.get i)) u v w) :
    Finds m (f '' triangleSet p) (norm (p.toList.map f) / 2 ^ 13)
      (triangle m maxdepth (p.map f) (f (p.get 0)) (fuzz * norm (p.toList.map f))) := by
  have hlist : (p.map f).toList = p.toList.map f := Vector.toList_map ..
  have hnorm : 0 ≤ norm (p.toList.map f) := norm_nonneg _
  have hfirst : f (p.get 0) ∈ triangleValues (p.map f) :=
    ⟨1, 0, 0, zero_le_one, le_rfl, le_rfl, by norm_num, by rw [← get_map f]; simp [triangleCubic]⟩
  have hgap : TriangleGap (8 * norm (p.toList.map f)) (p.map f) :=
    hlist ▸ triangleGap_norm (p.map f)
  rw [image_triangleSet p hf]
  exact (searchable_triangle.finds (fun _ _ _ => rfl) (fun _ _ _ _ => rfl) (k := 8) (by decide)
    (mul_nonneg fuzz_nonneg hnorm) (by positivity) hgap hfirst).mono (slack_le hnorm)

/-- The `z` coordinate of a curve. -/
theorem curve_finds (p : Vector (Vec3 ℝ) 4) :
    Finds m (Vec3.z '' curveSet p) (norm (p.toList.map Vec3.z) / 2 ^ 13)
      (curve m Vec3.z maxdepth p (p.get 0).z (fuzz * norm (p.toList.map Vec3.z))) := by
  have hnorm : 0 ≤ norm (p.toList.map Vec3.z) := norm_nonneg _
  have hfirst : (p.get 0).z ∈ Vec3.z '' curveSet p :=
    ⟨p.get 0, ⟨0, le_rfl, zero_le_one, by simp [curvePoint_eq]⟩, rfl⟩
  exact (searchable_curve.finds (fun _ _ _ => rfl) (fun _ _ _ _ => rfl) (k := 8) (by decide)
    (mul_nonneg fuzz_nonneg hnorm) (by positivity) (curveGap_norm p) hfirst).mono (slack_le hnorm)

/-- **The box of a patch**: it touches the surface on all six sides, and little of the surface is
outside. -/
theorem patchBounds_tight (p : Vector (Vec3 ℝ) 16) :
    TightBox (patchSet p) p.toList (patchBounds p) where
  x := (patch_finds Vec3.xLinear p).tight (patch_finds Vec3.xLinear p)
  y := (patch_finds Vec3.yLinear p).tight (patch_finds Vec3.yLinear p)
  z := (patch_finds Vec3.zLinear p).tight (patch_finds Vec3.zLinear p)

/-- **The box of a triangle.** -/
theorem triangleBounds_tight (p : Vector (Vec3 ℝ) 10) :
    TightBox (triangleSet p) p.toList (triangleBounds p) where
  x := (triangle_finds p fun _ _ _ => rfl).tight (triangle_finds p fun _ _ _ => rfl)
  y := (triangle_finds p fun _ _ _ => rfl).tight (triangle_finds p fun _ _ _ => rfl)
  z := (triangle_finds p fun _ _ _ => rfl).tight (triangle_finds p fun _ _ _ => rfl)

/-- `ratiobound` of a coordinate other than `z` is on the wrong side of the first end. -/
theorem ratiobound_x_le (p : Vector (Vec3 K) 4) :
    m.sign * ratiobound p m Vec3.x ≤ m.sign * (p.get 0).x := by
  simp only [ratiobound, Extremum.sign_mul_of, mul_neg, max_self]
  exact neg_max_neg_le ..

/-- In `y`, the ratios of a curve have only its first control point. -/
theorem ratiobound_y_le (p : Vector (Vec3 K) 4) :
    m.sign * ratiobound p m Vec3.y ≤ m.sign * (p.get 0).y := by
  simp only [ratiobound, Extremum.sign_mul_of, mul_neg, max_self]
  exact neg_max_neg_le ..

/-- There the search stops at once. -/
theorem sign_mul_curve {f : Vec3 K → K} {p : Vector (Vec3 K) 4}
    (hf : m.sign * ratiobound p m f ≤ m.sign * f (p.get 0)) {fuzz : K}
    (hfuzz : 0 ≤ fuzz) (depth : ℕ) :
    m.sign * curve m f depth p (f (p.get 0)) fuzz =
      max (m.sign * f (p.get 0)) (m.sign * f (p.get 3)) := by
  have hends : m.sign * m.of (f (p.get 0)) (m.of (f (p.get 0)) (f (p.get 3))) =
      max (m.sign * f (p.get 0)) (m.sign * f (p.get 3)) := by
    rw [Extremum.sign_mul_of, Extremum.sign_mul_of, ← max_assoc, max_self]
  obtain _ | depth := depth
  · exact hends
  · have hsettled : settled m (m.of (f (p.get 0)) (m.of (f (p.get 0)) (f (p.get 3))))
        (ratiobound p m f) fuzz = true := by
      rw [settled_iff, hends]
      exact (hf.trans (le_max_left _ _)).trans (le_add_of_nonneg_right hfuzz)
    rw [curve, if_pos hsettled, hends]

/-- A box with the ends of a curve at its corners in `x` and `y`. -/
structure EndBox (p : Vector (Vec3 K) 4) (box : Vec3 K × Vec3 K) : Prop where
  x : box.1.x = min (p.get 0).x (p.get 3).x ∧ box.2.x = max (p.get 0).x (p.get 3).x
  y : box.1.y = min (p.get 0).y (p.get 3).y ∧ box.2.y = max (p.get 0).y (p.get 3).y
  z : Tight (Vec3.z '' curveSet p) box.1.z box.2.z (norm (p.toList.map Vec3.z) / 2 ^ 13)

/-- In such a coordinate the box is that of the two ends. -/
theorem ends_of_ratiobound_le {f : Vec3 ℝ → ℝ} {p : Vector (Vec3 ℝ) 4}
    (hf : ∀ m : Extremum, m.sign * ratiobound p m f ≤ m.sign * f (p.get 0)) :
    curve .min f maxdepth p (f (p.get 0)) (fuzz * norm (p.toList.map f)) =
      min (f (p.get 0)) (f (p.get 3)) ∧
      curve .max f maxdepth p (f (p.get 0)) (fuzz * norm (p.toList.map f)) =
        max (f (p.get 0)) (f (p.get 3)) := by
  have hfuzz := mul_nonneg fuzz_nonneg (norm_nonneg (p.toList.map f))
  have hmin := sign_mul_curve (hf .min) hfuzz maxdepth
  have hmax := sign_mul_curve (hf .max) hfuzz maxdepth
  simp only [Extremum.sign, neg_one_mul, one_mul, max_neg_neg, neg_inj] at hmin hmax
  exact ⟨hmin, hmax⟩

/-- **The box of a curve**: in `x` and `y` it is the box of the two ends, wherever the curve
goes. -/
theorem curveBounds_ends (p : Vector (Vec3 ℝ) 4) : EndBox p (curveBounds p) where
  x := ends_of_ratiobound_le fun _ => ratiobound_x_le p
  y := ends_of_ratiobound_le fun _ => ratiobound_y_le p
  z := (curve_finds p).tight (curve_finds p)

end Real

end Bound

end OkularV3d
