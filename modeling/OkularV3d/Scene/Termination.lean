import OkularV3d.Scene.MeshBoundary
import OkularV3d.Scene.RealScalar
import OkularV3d.Scene.Space

/-!
# Subdivision ends

How deep the subdivision of a curve or a surface goes, in exact arithmetic. What `Straightness` and
`Flatness` measure is bounded by the second differences of the control points, and by the mixed ones
of a patch. Each halving makes these smaller by a factor that does not depend on the piece, so the
depth is bounded by a logarithm of their size over the resolution, whatever is culled.

* `Level` says of a curve, a triangle or a patch that so many splits are enough; `Level.half` and
  `Level.part` count down.
* `straightness_lt`, `flatness_le` and `abs2_chords_lt` bound what the code measures.
* `exists_run_of_level` is the induction, once for each kind of piece.
* `curve_finishes`, `triangle_finishes` and `patch_finishes` are the results over the reals, where
  every size is below some level.
-/

namespace OkularV3d

open Adaptive Casteljau
open scoped Vec3

variable {K : Type} [ExactScalar K] {m res2 : K}

/-- A factor that is taken out of a power. -/
theorem pow_mul_div_le {b c : K} (hb : 1 ≤ b) (hc : 0 ≤ c) (n : ℕ) :
    b ^ n * c / b ≤ b ^ (n - 1) * c := by
  have hpos : 0 < b := zero_lt_one.trans_le hb
  obtain _ | n := n
  · rw [pow_zero, one_mul]
    exact div_le_self hc hb
  · rw [pow_succ', mul_assoc, mul_div_cancel_left₀ _ hpos.ne', Nat.add_sub_cancel]

/-! ### Curves -/

/-- The straightness of a curve is at most the size of its second differences. -/
theorem straightness_lt {z : Fin 4 → Vec3 K} (h : ∀ i, diff (diff z) i ∈ Vec3.ball m) :
    straightness (z 0) (z 1) (z 2) (z 3) < m := by
  have hthird : (third : K) = 1 / 3 := by simp [third, lit_exact]
  have hleft : z 1 - Vec3.smul third (z 3 - z 0) - z 0 =
      (-1 : K) • ((2 / 3 : K) • diff (diff z) 0 + (1 / 3 : K) • diff (diff z) 1) := by
    rw [← Vec3.smul_eq_smul, hthird]
    simp [diff]
    module
  have hright : z 3 - Vec3.smul third (z 3 - z 0) - z 2 =
      (1 / 3 : K) • diff (diff z) 0 + (2 / 3 : K) • diff (diff z) 1 := by
    rw [← Vec3.smul_eq_smul, hthird]
    simp [diff]
    module
  rw [straightness, scalarMax_eq, max_lt_iff, hleft, hright, Vec3.abs2_smul]
  have hconvex := Vec3.convex_ball m
  constructor
  · rw [neg_one_sq, one_mul]
    exact hconvex (h 0) (h 1) (by positivity) (by positivity) (by norm_num)
  · exact hconvex (h 0) (h 1) (by positivity) (by positivity) (by norm_num)

/-- The first half of a curve is De Casteljau's. -/
theorem get_firstHalf (z : Vector (Vec3 K) 4) : (firstHalf z).get = lower K z.get := by
  funext i
  simp only [lower, Vec3.midpoint_eq_mid]
  fin_cases i <;> rfl

/-- So is the second. -/
theorem get_secondHalf (z : Vector (Vec3 K) 4) : (secondHalf z).get = upper K z.get := by
  funext i
  simp only [upper, Vec3.midpoint_eq_mid]
  fin_cases i <;> rfl

namespace BezierCurve

/-- `n` halvings are enough for the second differences of a curve. -/
def Level (res2 : K) (n : ℕ) (z : Vector (Vec3 K) 4) : Prop :=
  ∀ i, diff (diff z.get) i ∈ Vec3.ball (16 ^ n * res2)

/-- A half of a curve needs one halving less. -/
theorem Level.half {n : ℕ} {z w : Vector (Vec3 K) 4} {f : (Fin 4 → Vec3 K) →ₗ[K] (Fin 4 → Vec3 K)}
    (h : Level res2 (n + 1) z) (hf : IsHalf K f) (hw : w.get = f z.get) : Level res2 n w := by
  intro i
  have hi := hf.diff_diff (Vec3.convex_ball _) h i
  rw [Vec3.smul_mem_ball (by norm_num), ← hw] at hi
  have hpow : (16 : K) ^ (n + 1) * res2 / 4 ^ 2 = 16 ^ n * res2 := by ring
  rwa [hpow] at hi

/-- A curve that needs no more halvings passes for straight. -/
theorem Level.straight {z : Vector (Vec3 K) 4} (h : Level res2 0 z) :
    straightness (z.get 0) (z.get 1) (z.get 2) (z.get 3) < res2 := by
  refine straightness_lt (z := z.get) fun i => ?_
  have hi := h i
  rwa [pow_zero, one_mul] at hi

variable {F : Type} [Rounding K F]

/-- **A curve that needs `n` halvings is rendered** by a recursion deeper than that. -/
theorem exists_run_of_level {R : CurveSetting K} {n depth : ℕ} {c : CurvePiece K}
    (h : Level R.res2 n c.p) (hdepth : n < depth) (M : Mesh F) :
    ∃ N, run (step R) depth c M = some N := by
  refine Adaptive.exists_run (P := CurvePiece K) (fun n c => Level R.res2 n c.p) ?_ h hdepth M
  intro n c M hc q hq
  rw [step] at hq
  split_ifs at hq with hstraight hoff
  · cases hq
  · cases hq
  · -- a piece that is not straight has been halved less often than it takes
    obtain _ | n := n
    · exact absurd (lt_exact.mpr hc.straight) hstraight
    · have hfirst : Level R.res2 n (firstHalf c.p) := hc.half (.inl rfl) (get_firstHalf c.p)
      have hsecond : Level R.res2 n (secondHalf c.p) := hc.half (.inr rfl) (get_secondHalf c.p)
      simp only [List.mem_cons, List.not_mem_nil, or_false] at hq
      obtain rfl | rfl := hq
      exacts [⟨n, n.lt_succ_self, hfirst⟩, ⟨n, n.lt_succ_self, hsecond⟩]

end BezierCurve

/-! ### Triangles -/

namespace BezierTriangle

section Net

variable {V : Type} [AddCommGroup V]

/-- The second differences of a triangular net: along each of its edges, and there at each of its
corners. -/
def bend (p : Vector V 10) : Fin 9 → V :=
  let second (i j k : Fin 10) : V := p.get k - p.get j - (p.get j - p.get i)
  ![second 0 1 3, second 1 3 6, second 2 4 7,
    second 0 2 5, second 1 4 8, second 2 5 9,
    second 3 4 5, second 6 7 8, second 7 8 9]

variable (K) [Module K V]

/-- The subdivision of a triangular net. -/
def splitNet (p : Vector V 10) : SplitTriangle V :=
  .of (midpoint K) (fun a b c => (1 / 2 : K) • a + (1 / 4 : K) • (b + c))
    (fun a b c d => (1 / 4 : K) • (a + b + c + d)) p

omit [AddCommGroup V] in
theorem get_ten (p0 p1 p2 p3 p4 p5 p6 p7 p8 p9 : V) (i : Fin 10) :
    (#v[p0, p1, p2, p3, p4, p5, p6, p7, p8, p9] : Vector V 10).get i =
      ![p0, p1, p2, p3, p4, p5, p6, p7, p8, p9] i := by
  fin_cases i <;> rfl

variable (p : Vector V 10) (i : Fin 9)

/-- The second differences of the four parts are means of those of the whole, at a quarter of the
size. -/
theorem four_smul_bend_l :
    (4 : K) • bend (splitNet K p).l i =
      midpoint K (bend p (![0, 0, 0, 3, 3, 3, 6, 6, 6] i)) (bend p i) := by
  fin_cases i <;> simp only [Fin.zero_eta, Fin.mk_one, Fin.reduceFinMk, ↓bend, Matrix.cons_val] <;>
    simp only [splitNet, SplitTriangle.of, ↓get_ten, ↓Matrix.cons_val,
      midpoint_eq_smul_add, invOf_eq_inv] <;>
    module

theorem four_smul_bend_r :
    (4 : K) • bend (splitNet K p).r i =
      midpoint K (bend p (![1, 1, 1, 4, 4, 4, 7, 7, 7] i)) (bend p i) := by
  fin_cases i <;> simp only [Fin.zero_eta, Fin.mk_one, Fin.reduceFinMk, ↓bend, Matrix.cons_val] <;>
    simp only [splitNet, SplitTriangle.of, ↓get_ten, ↓Matrix.cons_val,
      midpoint_eq_smul_add, invOf_eq_inv] <;>
    module

theorem four_smul_bend_u :
    (4 : K) • bend (splitNet K p).u i =
      midpoint K (bend p (![2, 2, 2, 5, 5, 5, 8, 8, 8] i)) (bend p i) := by
  fin_cases i <;> simp only [Fin.zero_eta, Fin.mk_one, Fin.reduceFinMk, ↓bend, Matrix.cons_val] <;>
    simp only [splitNet, SplitTriangle.of, ↓get_ten, ↓Matrix.cons_val,
      midpoint_eq_smul_add, invOf_eq_inv] <;>
    module

theorem four_smul_bend_c :
    (4 : K) • bend (splitNet K p).c i =
      midpoint K (bend p (![1, 0, 0, 4, 3, 3, 7, 6, 6] i))
        (bend p (![2, 2, 1, 5, 5, 4, 8, 8, 7] i)) := by
  fin_cases i <;> simp only [Fin.zero_eta, Fin.mk_one, Fin.reduceFinMk, ↓bend, Matrix.cons_val] <;>
    simp only [splitNet, SplitTriangle.of, ↓get_ten, ↓Matrix.cons_val,
      midpoint_eq_smul_add, invOf_eq_inv] <;>
    module

end Net

open BezierPatch

/-- `SplitTriangle` is De Casteljau's construction. -/
theorem split_eq (p : Vector (Vec3 K) 10) : split p = splitNet K p := by
  have hmid : Vec3.mid = midpoint K (P := Vec3 K) := by
    funext a b
    exact (Vec3.midpoint_eq_mid a b).symm
  have hlit : (Scalar.lit (1 / 4) : K) = 1 / 4 := by rw [lit_exact]; norm_num
  have hmid3 : mid3 = fun a b c : Vec3 K => (1 / 2 : K) • a + (1 / 4 : K) • (b + c) := by
    funext a b c
    rw [mid3, Vec3.half_exact, hlit]
    rfl
  have hmid4 : mid4 = fun a b c d : Vec3 K => (1 / 4 : K) • (a + b + c + d) := by
    funext a b c d
    rw [mid4, hlit]
    rfl
  rw [split, splitNet, hmid, hmid3, hmid4]

/-- `n` splits are enough for the second differences of a Bezier triangle. -/
def Level (res2 : K) (n : ℕ) (p : Vector (Vec3 K) 10) : Prop :=
  ∀ i, bend p i ∈ Vec3.ball (16 ^ n * (res2 / 9))

/-- A part needs one split less. -/
theorem Level.part {n : ℕ} {p q : Vector (Vec3 K) 10}
    (h : Level res2 (n + 1) p) (f g : Fin 9 → Fin 9)
    (hq : ∀ i, (4 : K) • bend q i = midpoint K (bend p (f i)) (bend p (g i))) : Level res2 n q := by
  intro i
  have hi : (4 : K) • bend q i ∈ Vec3.ball (16 ^ (n + 1) * (res2 / 9)) := by
    rw [hq]
    exact (Vec3.convex_ball _).midpoint_mem (h (f i)) (h (g i))
  rw [Vec3.smul_mem_ball (by norm_num)] at hi
  have hpow : (16 : K) ^ (n + 1) * (res2 / 9) / 4 ^ 2 = 16 ^ n * (res2 / 9) := by ring
  rwa [hpow] at hi

/-- The distance of the middle control point from the middle of the corners, by second
differences. -/
theorem middle_eq (p : Vector (Vec3 K) 10) :
    Vec3.smul third (p.get 0 + p.get 6 + p.get 9) - p.get 4 =
      (3 / 2 : K) • ∑ i, (1 / 9 : K) • bend p i := by
  have hthird : (third : K) = 1 / 3 := by simp [third, lit_exact]
  rw [← Vec3.smul_eq_smul, hthird]
  simp [Fin.sum_univ_succ, bend]
  module

/-- A triangle that needs no more splits passes for flat. -/
theorem Level.flat {p : Vector (Vec3 K) 10} (h : Level res2 0 p) : distance p < res2 := by
  have hball : ∀ i, bend p i ∈ Vec3.ball (res2 / 9) := fun i => by
    have hi := h i
    rwa [pow_zero, one_mul] at hi
  have hpos : 0 < res2 := by
    have hpos := Vec3.pos_of_mem_ball (hball 0)
    linarith
  have hle : res2 / 9 ≤ res2 := by linarith
  have hedge : ∀ z : Fin 4 → Vec3 K, (∀ i, diff (diff z) i ∈ Vec3.ball (res2 / 9)) →
      straightness (z 0) (z 1) (z 2) (z 3) < res2 := fun z hz => (straightness_lt hz).trans_le hle
  simp only [distance, scalarMax_eq, max_lt_iff]
  refine ⟨⟨⟨?_, ?_⟩, ?_⟩, ?_⟩
  · rw [middle_eq, Vec3.abs2_smul]
    have havg : ∑ i, (1 / 9 : K) • bend p i ∈ Vec3.ball (res2 / 9) :=
      (Vec3.convex_ball _).sum_mem (fun _ _ => by positivity) (by simp) fun i _ => hball i
    rw [Vec3.mem_ball] at havg
    linarith
  · exact hedge ![p.get 0, p.get 1, p.get 3, p.get 6] (Fin.forall_fin_two.mpr ⟨hball 0, hball 1⟩)
  · exact hedge ![p.get 0, p.get 2, p.get 5, p.get 9] (Fin.forall_fin_two.mpr ⟨hball 3, hball 5⟩)
  · exact hedge ![p.get 6, p.get 7, p.get 8, p.get 9] (Fin.forall_fin_two.mpr ⟨hball 7, hball 8⟩)

variable {F : Type} [Scalar F] [Rounding K F]

/-- **A Bezier triangle that needs `n` splits is rendered** by a recursion deeper than that. -/
theorem exists_run_of_level {R : SurfaceSetting K} {n depth : ℕ} {s : TrianglePiece UInt32 K F}
    (h : Level R.res2 n s.p) (hdepth : n < depth) (M : Mesh F) :
    ∃ N, run (step R) depth s M = some N := by
  refine Adaptive.exists_run (P := TrianglePiece UInt32 K F)
    (fun n s => Level R.res2 n s.p) ?_ h hdepth M
  intro n s M hs q hq
  rw [step] at hq
  split_ifs at hq with hflat hoff
  · cases hq
  · cases hq
  · obtain _ | n := n
    · exact absurd (lt_exact.mpr hs.flat) hflat
    · have hl : Level R.res2 n (split s.p).l := by
        rw [split_eq]
        exact hs.part _ _ (four_smul_bend_l K s.p)
      have hr : Level R.res2 n (split s.p).r := by
        rw [split_eq]
        exact hs.part _ _ (four_smul_bend_r K s.p)
      have hu : Level R.res2 n (split s.p).u := by
        rw [split_eq]
        exact hs.part _ _ (four_smul_bend_u K s.p)
      have hc : Level R.res2 n (split s.p).c := by
        rw [split_eq]
        exact hs.part _ _ (four_smul_bend_c K s.p)
      simp only [stepQuarters, List.mem_cons, List.not_mem_nil, or_false] at hq
      obtain rfl | rfl | rfl | rfl := hq
      exacts [⟨n, n.lt_succ_self, hl⟩, ⟨n, n.lt_succ_self, hr⟩, ⟨n, n.lt_succ_self, hu⟩,
        ⟨n, n.lt_succ_self, hc⟩]

end BezierTriangle

/-! ### Patches -/

namespace Vec3

/-- `u × unit v` does not see what `u` and `v` have in common. -/
theorem abs2_cross_unit_le (u v : Vec3 ℝ) : abs2 (cross u (unit v)) ≤ abs2 (u - v) := by
  by_cases hv : √(abs2 v) = 0
  · have hunit : unit v = ⟨0, 0, 0⟩ := by simp [unit, hv]
    rw [hunit]
    simpa [cross, abs2_eq] using abs2_nonneg (u - v)
  · have hunit : unit v = (√(abs2 v))⁻¹ • v := by simp [unit, hv, smul_eq_smul]
    have hone : abs2 (unit v) = 1 := by
      rw [hunit, abs2_smul, inv_pow, Real.sq_sqrt (abs2_nonneg v)]
      exact inv_mul_cancel₀ fun h => hv (by rw [h, Real.sqrt_zero])
    have hcross : cross u (unit v) = cross (u - v) (unit v) := by
      rw [hunit]
      apply ext_coordinates <;> simp [cross, smul_eq_smul] <;> ring
    have hlagrange : ∀ a b : Vec3 ℝ, abs2 (cross a b) = abs2 a * abs2 b - dot a b ^ 2 :=
      fun a b => by
      simp only [abs2_eq, cross, dot]
      ring
    rw [hcross, hlagrange, hone, mul_one]
    exact sub_le_self _ (sq_nonneg _)

/-- The relative flatness of two chords is at most a ninth of their difference. -/
theorem flatness_le (a b c d : Vec3 ℝ) : flatness a b c d ≤ 1 / 9 * abs2 (b - a - (d - c)) := by
  have hsymm : abs2 (b - a - (d - c)) = abs2 (d - c - (b - a)) := by
    simp only [abs2_eq, x_sub, y_sub, z_sub]
    ring
  have hlit : (Scalar.lit 1 / Scalar.lit 9 : ℝ) = 1 / 9 := by simp
  rw [flatness, hlit, scalarMax_eq]
  refine mul_le_mul_of_nonneg_left (max_le (abs2_cross_unit_le _ _) ?_) (by norm_num)
  rw [hsymm]
  exact abs2_cross_unit_le _ _

end Vec3

namespace BezierPatch

/-- The control points of a patch, row by row. -/
def net {V : Type} (p : Vector V 16) : Fin 4 → Fin 4 → V :=
  ![![p.get 0, p.get 1, p.get 2, p.get 3],
    ![p.get 4, p.get 5, p.get 6, p.get 7],
    ![p.get 8, p.get 9, p.get 10, p.get 11],
    ![p.get 12, p.get 13, p.get 14, p.get 15]]

/-- A patch is split horizontally row by row: the net is halved. -/
theorem net_splitHorizontally_lower (p : Vector (Vec3 K) 16) :
    net (splitHorizontally p).1 = lower K (net p) := by
  funext i j
  rw [lower_apply]
  simp only [lower, Vec3.midpoint_eq_mid]
  fin_cases i <;> fin_cases j <;> rfl

theorem net_splitHorizontally_upper (p : Vector (Vec3 K) 16) :
    net (splitHorizontally p).2 = upper K (net p) := by
  funext i j
  rw [upper_apply]
  simp only [upper, Vec3.midpoint_eq_mid]
  fin_cases i <;> fin_cases j <;> rfl

/-- It is split vertically in every row. -/
theorem net_splitVertically_lower (p : Vector (Vec3 K) 16) :
    net (splitVertically p).1 = fun i => lower K (net p i) := by
  funext i j
  simp only [lower, Vec3.midpoint_eq_mid]
  fin_cases i <;> fin_cases j <;> rfl

theorem net_splitVertically_upper (p : Vector (Vec3 K) 16) :
    net (splitVertically p).2 = fun i => upper K (net p i) := by
  funext i j
  simp only [upper, Vec3.midpoint_eq_mid]
  fin_cases i <;> fin_cases j <;> rfl

/-- The quarters are the halves of the halves. -/
theorem quarters_eq (p : Vector (Vec3 K) 16) :
    quarters p =
      { s0 := (splitHorizontally (splitVertically p).1).1
        s1 := (splitHorizontally (splitVertically p).1).2
        s2 := (splitHorizontally (splitVertically p).2).2
        s3 := (splitHorizontally (splitVertically p).2).1 } := rfl

/-- `a` halvings are enough for the mixed differences of a net, `b` and `c` in the two directions
for the second differences. -/
def Level (res2 : K) (a b c : ℕ) (q : Fin 4 → Fin 4 → Vec3 K) : Prop :=
  Bent (Vec3.ball (4 ^ a * (res2 / 9))) (Vec3.ball (16 ^ b * res2)) (Vec3.ball (16 ^ c * res2)) q

theorem ball_subset {k l : K} (h : k ≤ l) : Vec3.ball k ⊆ Vec3.ball l := fun _ hv => hv.trans_le h

/-- A vector whose double lies in the ball of a level lies in that of the level below. -/
theorem half_subset_ball (hres : 0 ≤ res2) (n : ℕ) :
    {v : Vec3 K | (2 : K) • v ∈ Vec3.ball (4 ^ n * res2)} ⊆ Vec3.ball (4 ^ (n - 1) * res2) := by
  intro v hv
  change (2 : K) • v ∈ Vec3.ball _ at hv
  rw [Vec3.smul_mem_ball (by norm_num)] at hv
  have hfour : (2 : K) ^ 2 = 4 := by norm_num
  rw [hfour] at hv
  exact ball_subset (pow_mul_div_le (by norm_num) hres n) hv

/-- So does one of which four times as much does, for balls that grow faster. -/
theorem quarter_subset_ball (hres : 0 ≤ res2) (n : ℕ) :
    {v : Vec3 K | (4 : K) • v ∈ Vec3.ball (16 ^ n * res2)} ⊆ Vec3.ball (16 ^ (n - 1) * res2) := by
  intro v hv
  change (4 : K) • v ∈ Vec3.ball _ at hv
  rw [Vec3.smul_mem_ball (by norm_num)] at hv
  have hsixteen : (4 : K) ^ 2 = 16 := by norm_num
  rw [hsixteen] at hv
  exact ball_subset (pow_mul_div_le (by norm_num) hres n) hv

variable {a b c : ℕ} {q : Fin 4 → Fin 4 → Vec3 K}

/-- Halving across the rows lowers the level of the mixed differences and that of those across. -/
theorem Level.half_across {f : (Fin 4 → Fin 4 → Vec3 K) →ₗ[K] (Fin 4 → Fin 4 → Vec3 K)}
    (h : Level res2 a b c q) (hres : 0 ≤ res2) (hf : IsHalf K f) :
    Level res2 (a - 1) (b - 1) c (f q) := by
  have hhalf := Bent.half_across h hf (Vec3.convex_ball _) (Vec3.convex_ball _) (Vec3.convex_ball _)
  exact hhalf.mono (half_subset_ball (by positivity) a) (quarter_subset_ball hres b) subset_rfl

/-- Halving along the rows lowers that of the mixed differences and that of those along. -/
theorem Level.half_along {f : (Fin 4 → Vec3 K) →ₗ[K] (Fin 4 → Vec3 K)}
    (h : Level res2 a b c q) (hres : 0 ≤ res2) (hf : IsHalf K f) :
    Level res2 (a - 1) b (c - 1) fun i => f (q i) := by
  have hhalf := Bent.half_along h hf (Vec3.convex_ball _) (Vec3.convex_ball _) (Vec3.convex_ball _)
  exact hhalf.mono (half_subset_ball (by positivity) a) subset_rfl (quarter_subset_ball hres c)

/-- The chords of a patch differ by the sum of its mixed differences. -/
theorem abs2_chords_lt (h : ∀ i j, diff (diff q i) j ∈ Vec3.ball (m / 9)) :
    1 / 9 * Vec3.abs2 (q 3 3 - q 3 0 - (q 0 3 - q 0 0)) < m := by
  have havg : ∑ i, (1 / 3 : K) • ∑ j, (1 / 3 : K) • diff (diff q i) j ∈ Vec3.ball (m / 9) := by
    have hconvex := Vec3.convex_ball (K := K) (m / 9)
    refine hconvex.sum_mem (fun _ _ => by positivity) (by simp) fun i _ => ?_
    exact hconvex.sum_mem (fun _ _ => by positivity) (by simp) fun j _ => h i j
  have hsum : q 3 3 - q 3 0 - (q 0 3 - q 0 0) =
      (9 : K) • ∑ i, (1 / 3 : K) • ∑ j, (1 / 3 : K) • diff (diff q i) j := by
    simp [Fin.sum_univ_three, diff]
    module
  rw [hsum, Vec3.abs2_smul]
  rw [Vec3.mem_ball] at havg
  linarith

section Real

variable {r : ℝ} {p : Vector (Vec3 ℝ) 16} {a b c : ℕ}

/-- A patch that has been halved often enough across its rows is flat in the horizontal
direction. -/
theorem Level.flat_across (h : Level r 0 0 c (net p)) : (distance p).1 < r := by
  have htwist : ∀ i j, diff (diff (net p) i) j ∈ Vec3.ball (r / 9) := fun i j => by
    have hij := h.twist i j
    rwa [pow_zero, one_mul] at hij
  have hacross : ∀ i j, diff (diff (net p)) i j ∈ Vec3.ball r := fun i j => by
    have hij := h.across i j
    rwa [pow_zero, one_mul] at hij
  have hcolumn : ∀ j, straightness (net p 0 j) (net p 1 j) (net p 2 j) (net p 3 j) < r := fun j =>
    straightness_lt (z := fun i => net p i j) fun i => hacross i j
  have hsymm : Vec3.abs2 (p.get 12 - p.get 0 - (p.get 15 - p.get 3)) =
      Vec3.abs2 (net p 3 3 - net p 3 0 - (net p 0 3 - net p 0 0)) := by
    change _ = Vec3.abs2 (p.get 15 - p.get 12 - (p.get 3 - p.get 0))
    simp only [Vec3.abs2_eq, Vec3.x_sub, Vec3.y_sub, Vec3.z_sub]
    ring
  simp only [distance, scalarMax_eq, max_lt_iff]
  refine ⟨⟨⟨⟨?_, hcolumn 0⟩, hcolumn 1⟩, hcolumn 2⟩, hcolumn 3⟩
  refine (Vec3.flatness_le _ _ _ _).trans_lt ?_
  rw [hsymm]
  exact abs2_chords_lt htwist

/-- A patch that has been halved often enough along its rows is flat in the vertical direction. -/
theorem Level.flat_along (h : Level r 0 b 0 (net p)) : (distance p).2 < r := by
  have htwist : ∀ i j, diff (diff (net p) i) j ∈ Vec3.ball (r / 9) := fun i j => by
    have hij := h.twist i j
    rwa [pow_zero, one_mul] at hij
  have hrow : ∀ i, straightness (net p i 0) (net p i 1) (net p i 2) (net p i 3) < r := fun i =>
    straightness_lt (z := net p i) fun j => by
      have hij := h.along i j
      rwa [pow_zero, one_mul] at hij
  have hsymm : Vec3.abs2 (p.get 3 - p.get 0 - (p.get 15 - p.get 12)) =
      Vec3.abs2 (net p 3 3 - net p 3 0 - (net p 0 3 - net p 0 0)) := by
    change _ = Vec3.abs2 (p.get 15 - p.get 12 - (p.get 3 - p.get 0))
    simp only [Vec3.abs2_eq, Vec3.x_sub, Vec3.y_sub, Vec3.z_sub]
    ring
  simp only [distance, scalarMax_eq, max_lt_iff]
  refine ⟨⟨⟨⟨?_, hrow 0⟩, hrow 1⟩, hrow 2⟩, hrow 3⟩
  refine (Vec3.flatness_le _ _ _ _).trans_lt ?_
  rw [hsymm]
  exact abs2_chords_lt htwist

variable {F : Type} [Scalar F] [Rounding ℝ F] {R : SurfaceSetting ℝ}
    {s : PatchPiece UInt32 ℝ F} {M : Mesh F}

/-- The parts of a piece that is split in one direction need less of it, and those of one that is
split in both need less of both. -/
theorem exists_level_of_mem_step (hres : 0 ≤ R.res2) (h : Level R.res2 a b c (net s.p))
    {t : PatchPiece UInt32 ℝ F} (ht : t ∈ (step R s M).2) :
    ∃ a' b' c', a' + b' + c' < a + b + c ∧ Level R.res2 a' b' c' (net t.p) := by
  -- a direction that is not flat has a halving left
  have hacross : ¬ (distance s.p).1 < R.res2 → a ≠ 0 ∨ b ≠ 0 := fun hnot => by
    by_contra! hzero
    obtain ⟨rfl, rfl⟩ := hzero
    exact hnot h.flat_across
  have halong : ¬ (distance s.p).2 < R.res2 → a ≠ 0 ∨ c ≠ 0 := fun hnot => by
    by_contra! hzero
    obtain ⟨rfl, rfl⟩ := hzero
    exact hnot h.flat_along
  have hlower := h.half_along hres (.inl rfl)
  have hupper := h.half_along hres (.inr rfl)
  rw [← net_splitVertically_lower] at hlower
  rw [← net_splitVertically_upper] at hupper
  rw [step] at ht
  simp only [lt_exact, Bool.and_eq_true] at ht
  split_ifs at ht with hflat hoff hh hv
  · cases ht
  · cases ht
  · have hdepth := halong fun hv => hflat ⟨hh, hv⟩
    simp only [stepVertically, List.mem_cons, List.not_mem_nil, or_false] at ht
    obtain rfl | rfl := ht
    exacts [⟨_, _, _, by omega, hlower⟩, ⟨_, _, _, by omega, hupper⟩]
  · have hleft := h.half_across hres (.inl rfl)
    have hright := h.half_across hres (.inr rfl)
    rw [← net_splitHorizontally_lower] at hleft
    rw [← net_splitHorizontally_upper] at hright
    have hdepth := hacross hh
    simp only [stepHorizontally, List.mem_cons, List.not_mem_nil, or_false] at ht
    obtain rfl | rfl := ht
    exacts [⟨_, _, _, by omega, hleft⟩, ⟨_, _, _, by omega, hright⟩]
  · have hdepth := hacross hh
    have h0 := hlower.half_across hres (.inl rfl)
    have h1 := hlower.half_across hres (.inr rfl)
    have h2 := hupper.half_across hres (.inr rfl)
    have h3 := hupper.half_across hres (.inl rfl)
    rw [← net_splitHorizontally_lower] at h0 h3
    rw [← net_splitHorizontally_upper] at h1 h2
    simp only [stepQuarters, quarters_eq, List.mem_cons, List.not_mem_nil, or_false] at ht
    obtain rfl | rfl | rfl | rfl := ht
    exacts [⟨_, _, _, by omega, h0⟩, ⟨_, _, _, by omega, h1⟩, ⟨_, _, _, by omega, h2⟩,
      ⟨_, _, _, by omega, h3⟩]

/-- **A patch is rendered** by a recursion deeper than the halvings its mixed differences need
(`a`), those across its rows (`b`) and those along them (`c`), in whatever order the code splits
it. -/
theorem exists_run_of_level (hres : 0 ≤ R.res2) (h : Level R.res2 a b c (net s.p)) {depth : ℕ}
    (hdepth : a + b + c < depth) (M : Mesh F) : ∃ N, run (step R) depth s M = some N := by
  refine Adaptive.exists_run (P := PatchPiece UInt32 ℝ F)
    (fun n s => ∃ a b c, a + b + c ≤ n ∧ Level R.res2 a b c (net s.p)) ?_
      ⟨a, b, c, le_rfl, h⟩ hdepth M
  rintro n s M ⟨a, b, c, hn, hs⟩ t ht
  obtain ⟨a', b', c', hlt, ht⟩ := exists_level_of_mem_step hres hs ht
  exact ⟨a' + b' + c', hlt.trans_le hn, a', b', c', le_rfl, ht⟩

end Real

end BezierPatch

/-! ### Renderings -/

/-- Finitely many vectors are short, measured by a high power. -/
theorem exists_pow_ball {ι : Type*} [Finite ι] (v : ι → Vec3 ℝ) {b c : ℝ}
    (hb : 1 < b) (hc : 0 < c) :
    ∃ n : ℕ, ∀ i, v i ∈ Vec3.ball (b ^ n * c) := by
  obtain ⟨bound, hbound⟩ := (Set.finite_range fun i => (v i).abs2).bddAbove
  obtain ⟨n, hn⟩ := pow_unbounded_of_one_lt (bound / c) hb
  exact ⟨n, fun i => (hbound ⟨i, rfl⟩).trans_lt ((div_lt_iff₀ hc).mp hn)⟩

theorem exists_map {α β : Type*} {o : Option α} (h : ∃ a, o = some a) (f : α → β) :
    ∃ b, o.map f = some b := by
  obtain ⟨a, rfl⟩ := h
  exact ⟨f a, rfl⟩

section Render

variable {F : Type} [Scalar F] [Rounding ℝ F] {res : ℝ}

omit [Scalar F] in
/-- **The subdivision of a curve ends**: some depth is enough, whatever the view. -/
theorem curve_finishes (p : Vector (Vec3 ℝ) 4) (hres : res ≠ 0) :
    ∃ n, ∀ depth, n < depth → ∀ projViewMat word, ∃ rendering : VertexData F × Bool,
      BezierCurve.render depth projViewMat res word p = some rendering := by
  obtain ⟨n, hn⟩ := exists_pow_ball (diff (diff p.get)) (b := 16)
    (by norm_num) (mul_self_pos.mpr hres)
  refine ⟨n, fun depth hdepth projViewMat word => ?_⟩
  refine exists_map (BezierCurve.exists_run_of_level ?_ hdepth _) _
  exact hn

/-- **The subdivision of a Bezier triangle ends.** -/
theorem triangle_finishes (p : Vector (Vec3 ℝ) 10) (hres : res ≠ 0) :
    ∃ n, ∀ depth, n < depth → ∀ projViewMat transparent (colors : Option (Vector (Vec4 F) 3)) word,
      ∃ rendering, BezierTriangle.render depth projViewMat res transparent colors word p =
        some rendering := by
  have hpos : 0 < res * res / 9 := div_pos (mul_self_pos.mpr hres) (by norm_num)
  obtain ⟨n, hn⟩ := exists_pow_ball (BezierTriangle.bend p) (b := 16) (by norm_num) hpos
  refine ⟨n, fun depth hdepth projViewMat transparent colors word => ?_⟩
  refine exists_map (BezierTriangle.exists_run_of_level ?_ hdepth _) _
  exact hn

/-- **The subdivision of a patch ends.** -/
theorem patch_finishes (p : Vector (Vec3 ℝ) 16) (hres : res ≠ 0) :
    ∃ n, ∀ depth, n < depth → ∀ projViewMat transparent (colors : Option (Vector (Vec4 F) 4)) word,
      ∃ rendering, BezierPatch.render depth projViewMat res transparent colors word p =
        some rendering := by
  have hpos : 0 < res * res := mul_self_pos.mpr hres
  obtain ⟨a, ha⟩ := exists_pow_ball
    (fun ij : Fin 3 × Fin 3 => diff (diff (BezierPatch.net p) ij.1) ij.2)
    (b := 4) (by norm_num) (div_pos hpos (by norm_num : (0 : ℝ) < 9))
  obtain ⟨b, hb⟩ := exists_pow_ball
    (fun ij : Fin 2 × Fin 4 => diff (diff (BezierPatch.net p)) ij.1 ij.2)
    (b := 16) (by norm_num) hpos
  obtain ⟨c, hc⟩ := exists_pow_ball
    (fun ij : Fin 4 × Fin 2 => diff (diff (BezierPatch.net p ij.1)) ij.2)
    (b := 16) (by norm_num) hpos
  refine ⟨a + b + c, fun depth hdepth projViewMat transparent colors word => ?_⟩
  have hlevel : BezierPatch.Level (res * res) a b c (BezierPatch.net p) :=
    ⟨fun i j => ha (i, j), fun i j => hb (i, j), fun i j => hc (i, j)⟩
  refine exists_map (BezierPatch.exists_run_of_level hpos.le ?_ hdepth _) _
  exact hlevel

end Render

/-- A point with rational coordinates, as a point of space. -/
def Vec3.toReal (v : Vec3 ℚ) : Vec3 ℝ := ⟨v.x, v.y, v.z⟩

theorem curve_finishes_raised :
    ∃ n, ∀ depth, n < depth → ∀ projViewMat word, ∃ rendering : VertexData ℝ × Bool,
      BezierCurve.render depth projViewMat (1 / 4) word
        ((BezierPatch.side3 raisedPatch).map Vec3.toReal) = some rendering :=
  curve_finishes _ (by norm_num)

theorem triangle_finishes_raised :
    ∃ n, ∀ depth, n < depth → ∀ projViewMat transparent (colors : Option (Vector (Vec4 ℝ) 3)) word,
      ∃ rendering, BezierTriangle.render depth projViewMat (1 / 4) transparent colors word
        (raisedTriangle.map Vec3.toReal) = some rendering :=
  triangle_finishes _ (by norm_num)

theorem patch_finishes_raised :
    ∃ n, ∀ depth, n < depth → ∀ projViewMat transparent (colors : Option (Vector (Vec4 ℝ) 4)) word,
      ∃ rendering, BezierPatch.render depth projViewMat (1 / 4) transparent colors word
        (raisedPatch.map Vec3.toReal) = some rendering :=
  patch_finishes _ (by norm_num)

end OkularV3d
