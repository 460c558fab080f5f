import Mathlib.Analysis.Real.Sqrt
import OkularV3d.Lib.GreatCircle
import OkularV3d.Lib.SolidAngle
import OkularV3d.Scene.RealScalar
import OkularV3d.Scene.Solids

/-!
# The mesh of a sphere

`subdivideTriangle` splits a spherical triangle again and again at the midpoints of its sides and
turns each part into a Bezier triangle. The boundary of a Bezier triangle depends on its corners
only, one side at a time, and on the two ends of a side alike (`arc_reverse`). So triangles that
share two corners meet along the whole of their common boundary curve (`Coincide`), however they
came to share them.

`sphere` reflects the triangles of one octant into the others and puts them into place; a side goes
to the side between the reflected corners, so the octants meet in the same way.

* `arc` is the side between two corners as a function of them, and `Spans` a triangle whose sides
  are such arcs; `Spans.coincide` is the reason why meshes fit together.
* `exists_leaf` and `norm_of_mem_corners` are about the parts of a `SphericalTriangle`, from
  `OkularV3d.Lib.GreatCircle` and `OkularV3d.Lib.SolidAngle`.
* `coincide_subdivideTriangle` treats one octant and `coincide_sphereTriangles` all.
* `watertight` is the result for the meshes as they are stored.
-/

namespace OkularV3d

open Subdivision

/-! ### The boundary of a Bezier triangle -/

section Program

variable {D : Type} [Scalar D]

/-- The corner control points. -/
def corners (p : Vector (Vec3 D) 10) : List (Vec3 D) := [p.get 0, p.get 6, p.get 9]

/-- The control points along each side, in the order of `makeBezierTriangle`. -/
def boundary (p : Vector (Vec3 D) 10) : List (Vector (Vec3 D) 4) :=
  [#v[p.get 0, p.get 1, p.get 3, p.get 6], #v[p.get 6, p.get 7, p.get 8, p.get 9],
    #v[p.get 9, p.get 5, p.get 2, p.get 0]]

/-- The sides read both ways. -/
def edges (p : Vector (Vec3 D) 10) : List (Vector (Vec3 D) 4) :=
  boundary p ++ (boundary p).map Vector.reverse

/-- The ends of a side. -/
def ends (e : Vector (Vec3 D) 4) : Vec3 D × Vec3 D := (e.get 0, e.get 3)

/-- The control points of a great-circle arc. -/
def arc (P Q : Vec3 D) : Vector (Vec3 D) 4 := #v[P, (bezierEdge P Q).1, (bezierEdge P Q).2, Q]

/-- The corners of the Bezier triangle are those of the spherical one. -/
theorem corners_makeBezierTriangle (A B C : Vec3 D) :
    corners (makeBezierTriangle A B C) = [A, B, C] :=
  rfl

/-- Each of its sides is made from two corners. -/
theorem boundary_makeBezierTriangle (A B C : Vec3 D) :
    boundary (makeBezierTriangle A B C) = [arc A B, arc B C, arc C A] :=
  rfl

/-- `subdivideTriangle` makes a Bezier triangle of each leaf of the subdivision. -/
theorem subdivideTriangle_eq (A B C : Vec3 D) (d : ℕ) :
    subdivideTriangle A B C d =
      (leaves (Trigon.quarters gcMidPoint) d ⟨A, B, C⟩).map fun T =>
        makeBezierTriangle T.a T.b T.c := by
  induction d generalizing A B C with
  | zero => rfl
  | succ d ih =>
    rw [subdivideTriangle, leaves_succ]
    simp [Trigon.quarters, ih, List.append_assoc]

end Program

/-- Two triangles that share two corners have the **same four control points** along the side
between them, in opposite order when both are read from their own first end. -/
def Coincide (p q : Vector (Vec3 ℝ) 10) : Prop :=
  ∀ P Q, P ≠ Q → P ∈ corners p → Q ∈ corners p → P ∈ corners q → Q ∈ corners q →
    ∃ e ∈ edges p, ∃ f ∈ edges q, ends e = (P, Q) ∧ ends f = (Q, P) ∧ e = f.reverse

/-- The product of `triple.h` is symmetric over the reals. -/
theorem Vec3.dot_comm (u v : Vec3 ℝ) : Vec3.dot u v = Vec3.dot v u := by
  rw [Vec3.dot_eq, Vec3.dot_eq]
  ring

/-- The ends of an arc enter alike. -/
theorem bezierEdge_swap (P Q : Vec3 ℝ) : bezierEdge Q P = (bezierEdge P Q).swap := by
  rw [bezierEdge, bezierEdge, Vec3.dot_comm Q P]
  rfl

/-- **The same arc read from its other end.** -/
theorem arc_reverse (P Q : Vec3 ℝ) : (arc P Q).reverse = arc Q P := by
  rw [arc, arc, bezierEdge_swap P Q]
  simp [Vector.reverse]

/-- An image of a side ends in the images of its ends. -/
theorem ends_map_arc (g : Vec3 ℝ → Vec3 ℝ) (P Q : Vec3 ℝ) : ends ((arc P Q).map g) = (g P, g Q) :=
  Prod.ext (Vector.getElem_map _ _) (Vector.getElem_map _ _)

/-- A Bezier triangle on arcs between given points, put into place by `g`. -/
structure Spans (g : Vec3 ℝ → Vec3 ℝ) (T : Trigon (Vec3 ℝ)) (p : Vector (Vec3 ℝ) 10) : Prop where
  corners_eq : corners p = T.corners.map g
  boundary_eq : boundary p = T.sides.map fun e => (arc e.1 e.2).map g

/-- Two corners are the ends of a side. -/
theorem Spans.arc_mem_edges {g : Vec3 ℝ → Vec3 ℝ} {T : Trigon (Vec3 ℝ)} {p : Vector (Vec3 ℝ) 10}
    (h : Spans g T p) {P Q : Vec3 ℝ} (hne : P ≠ Q) (hP : P ∈ T.corners) (hQ : Q ∈ T.corners) :
    (arc P Q).map g ∈ edges p := by
  have hboundary : ∀ e ∈ T.sides, (arc e.1 e.2).map g ∈ boundary p := fun e he => by
    rw [h.boundary_eq]
    exact List.mem_map.mpr ⟨e, he, rfl⟩
  have hside : (P, Q) ∈ T.sides ∨ (Q, P) ∈ T.sides := by
    simp only [Trigon.corners, List.mem_cons, List.not_mem_nil, or_false] at hP hQ
    simp only [Trigon.sides, Trigon.rotations, List.map_cons, List.map_nil, List.mem_cons,
      List.not_mem_nil, or_false, Prod.mk.injEq]
    grind
  rw [edges, List.mem_append]
  obtain hside | hside := hside
  · exact .inl (hboundary _ hside)
  · refine .inr (List.mem_map.mpr ⟨_, hboundary _ hside, ?_⟩)
    rw [← Vector.map_reverse, arc_reverse]

/-- **Triangles that span arcs coincide** where they share corners, if their place keeps points
apart. -/
theorem Spans.coincide {g : Vec3 ℝ → Vec3 ℝ} (hg : Function.Injective g ∨ ∀ v w, g v = g w)
    {T U : Trigon (Vec3 ℝ)} {p q : Vector (Vec3 ℝ) 10} (hp : Spans g T p) (hq : Spans g U q) :
    Coincide p q := by
  intro P Q hne hPp hQp hPq hQq
  rw [hp.corners_eq, List.mem_map] at hPp hQp
  rw [hq.corners_eq, List.mem_map] at hPq hQq
  obtain ⟨P', hP', rfl⟩ := hPp
  obtain ⟨Q', hQ', rfl⟩ := hQp
  obtain ⟨P'', hP'', hPeq⟩ := hPq
  obtain ⟨Q'', hQ'', hQeq⟩ := hQq
  -- corners that are apart have not all been put into one place
  have hinjective : Function.Injective g := hg.resolve_right fun hconst => hne (hconst P' Q')
  obtain rfl := hinjective hPeq
  obtain rfl := hinjective hQeq
  have hne' : P'' ≠ Q'' := fun heq => hne (congrArg g heq)
  refine ⟨_, hp.arc_mem_edges hne' hP' hQ', _, hq.arc_mem_edges hne'.symm hQ'' hP'',
    ends_map_arc .., ends_map_arc .., ?_⟩
  rw [← Vector.map_reverse, arc_reverse]

/-! ### A spherical triangle -/

/-- `gcMidPoint` is the midpoint on the great circle. -/
theorem toEuclidean_gcMidPoint (P Q : Vec3 ℝ) :
    (gcMidPoint P Q).toEuclidean = GreatCircle.mid P.toEuclidean Q.toEuclidean := by
  rw [GreatCircle.mid, Vec3.inner_toEuclidean]
  ext i
  fin_cases i
  all_goals
    simp [gcMidPoint, Vec3.toEuclidean]
    ring

theorem norm_eq (v : Vec3 ℝ) : v.norm = ‖v.toEuclidean‖ := (Vec3.norm_toEuclidean v).symm

/-- The corners are unit vectors, pairwise neither parallel nor antipodal. -/
structure SphericalTriangle (A B C : Vec3 ℝ) : Prop where
  norm_eq_one : A.norm = 1 ∧ B.norm = 1 ∧ C.norm = 1
  not_parallel : A ≠ B ∧ B ≠ C ∧ C ≠ A
  not_antipodal : A ≠ Vec3.smul (-1) B ∧ B ≠ Vec3.smul (-1) C ∧ C ≠ Vec3.smul (-1) A

variable {A B C : Vec3 ℝ}

/-- The conditions on a triangle, as those of `OkularV3d.Lib.GreatCircle`. -/
theorem SphericalTriangle.isSpherical (h : SphericalTriangle A B C) :
    Trigon.IsSpherical ((Trigon.mk A B C).map Vec3.toEuclidean) := by
  obtain ⟨hA, hB, hC⟩ := h.norm_eq_one
  rw [norm_eq] at hA hB hC
  have hapart : ∀ P Q : Vec3 ℝ, ‖P.toEuclidean‖ = 1 → ‖Q.toEuclidean‖ = 1 → P ≠ Q →
      P ≠ Vec3.smul (-1) Q → GreatCircle.Apart P.toEuclidean Q.toEuclidean := by
    intro P Q hP hQ hne hneg
    rw [GreatCircle.apart_iff hP hQ]
    refine ⟨Vec3.toEuclidean_injective.ne hne, fun heq => hneg (Vec3.toEuclidean_injective ?_)⟩
    rw [heq, Vec3.toEuclidean_smul, neg_one_smul]
  exact
    { norm_a := hA
      norm_b := hB
      norm_c := hC
      apart_ab := hapart A B hA hB h.not_parallel.1 h.not_antipodal.1
      apart_bc := hapart B C hB hC h.not_parallel.2.1 h.not_antipodal.2.1
      apart_ca := hapart C A hC hA h.not_parallel.2.2 h.not_antipodal.2.2 }

/-- The subdivision of the code is that of the library. -/
theorem map_leaves_gcMidPoint (d : ℕ) (T : Trigon (Vec3 ℝ)) :
    (leaves (Trigon.quarters gcMidPoint) d T).map (fun U => U.map Vec3.toEuclidean) =
      leaves (Trigon.quarters GreatCircle.mid) d (T.map Vec3.toEuclidean) :=
  map_leaves (fun U => U.map_quarters gcMidPoint toEuclidean_gcMidPoint) d T

/-- A triangle of the mesh comes from a leaf, and spans its arcs. -/
theorem exists_leaf {p : Vector (Vec3 ℝ) 10} {d : ℕ} (hp : p ∈ subdivideTriangle A B C d) :
    ∃ T ∈ leaves (Trigon.quarters gcMidPoint) d ⟨A, B, C⟩, p = makeBezierTriangle T.a T.b T.c := by
  rw [subdivideTriangle_eq, List.mem_map] at hp
  obtain ⟨T, hT, hp⟩ := hp
  exact ⟨T, hT, hp.symm⟩

/-- There are four times as many triangles with each level. -/
theorem length_subdivideTriangle (A B C : Vec3 ℝ) (d : ℕ) :
    (subdivideTriangle A B C d).length = 4 ^ d := by
  rw [subdivideTriangle_eq, List.length_map, length_leaves fun T => T.length_quarters gcMidPoint]

/-- **Every corner lies on the sphere.** -/
theorem norm_of_mem_corners (h : SphericalTriangle A B C) {d : ℕ} {p : Vector (Vec3 ℝ) 10}
    (hp : p ∈ subdivideTriangle A B C d) : ∀ v ∈ corners p, v.norm = 1 := by
  obtain ⟨T, hT, rfl⟩ := exists_leaf hp
  have hleaf : T.map Vec3.toEuclidean ∈
      leaves (Trigon.quarters GreatCircle.mid) d ((Trigon.mk A B C).map Vec3.toEuclidean) := by
    rw [← map_leaves_gcMidPoint]
    exact List.mem_map.mpr ⟨T, hT, rfl⟩
  have hspherical := of_mem_leaves (fun _ hU => hU.of_mem_quarters) h.isSpherical _ hleaf
  simp only [corners_makeBezierTriangle, List.forall_mem_cons, norm_eq]
  exact ⟨hspherical.norm_a, hspherical.norm_b, hspherical.norm_c, List.forall_mem_nil _⟩

/-- A leaf spans the Bezier triangle that is made from it. -/
theorem spans_of_leaf (T : Trigon (Vec3 ℝ)) : Spans id T (makeBezierTriangle T.a T.b T.c) where
  corners_eq := rfl
  boundary_eq := by
    rw [boundary_makeBezierTriangle]
    simp [Trigon.sides, Trigon.rotations]

/-- The triangles of a mesh coincide where they share corners. -/
theorem coincide_subdivideTriangle {d : ℕ} {p q : Vector (Vec3 ℝ) 10}
    (hp : p ∈ subdivideTriangle A B C d) (hq : q ∈ subdivideTriangle A B C d) : Coincide p q := by
  obtain ⟨T, _, rfl⟩ := exists_leaf hp
  obtain ⟨U, _, rfl⟩ := exists_leaf hq
  exact (spans_of_leaf T).coincide (.inl Function.injective_id) (spans_of_leaf U)

/-- Two triangles that **meet as they are stored**: sides between the same two corners hold the same
four control points, in opposite order. -/
def MeetOpposite (p q : Vector (Vec3 ℝ) 10) : Prop :=
  ∀ e ∈ boundary p, ∀ f ∈ boundary q, ends f = ends e ∨ ends f = (ends e).swap → f = e.reverse

/-- The volume is the triple product, which is zero for corners on one great circle. -/
theorem volume_eq (A B C : Vec3 ℝ) :
    SolidAngle.volume (WithLp.linearEquiv 2 ℝ (Fin 3 → ℝ)).toLinearMap
      ((Trigon.mk A B C).map Vec3.toEuclidean) = Vec3.dot (Vec3.cross A B) C := by
  simp [SolidAngle.volume, SolidAngle.vol, Trigon.map, Vec3.toEuclidean, cross_apply,
    Vec3.dot_eq, Vec3.cross_eq]
  ring

/-- No two triangles run along a side in the same direction, so where they meet the order is
opposite. -/
theorem pairwise_meetOpposite (h : SphericalTriangle A B C)
    (hvolume : Vec3.dot (Vec3.cross A B) C ≠ 0) (d : ℕ) :
    (subdivideTriangle A B C d).Pairwise MeetOpposite := by
  have hbisected : ∀ T : Trigon (EuclideanSpace ℝ (Fin 3)), T.IsSpherical →
      SolidAngle.Bisected ℝ GreatCircle.mid T := fun T hT =>
    ⟨⟨_, hT.apart_ab.scale_pos, rfl⟩, ⟨_, hT.apart_bc.scale_pos, rfl⟩,
      ⟨_, hT.apart_ca.scale_pos, rfl⟩⟩
  have hleaves := SolidAngle.pairwise_disjoint_sides hbisected (fun T hT => hT.of_mem_quarters)
    h.isSpherical (volume_eq A B C ▸ hvolume) d
  rw [← map_leaves_gcMidPoint, List.pairwise_map] at hleaves
  rw [subdivideTriangle_eq, List.pairwise_map]
  refine hleaves.imp fun {T U} hdisjoint => ?_
  rw [Trigon.sides_map, Trigon.sides_map] at hdisjoint
  intro e he f hf hends
  rw [(spans_of_leaf T).boundary_eq, List.mem_map] at he
  rw [(spans_of_leaf U).boundary_eq, List.mem_map] at hf
  obtain ⟨e, he, rfl⟩ := he
  obtain ⟨f, hf, rfl⟩ := hf
  rw [ends_map_arc, ends_map_arc] at hends
  obtain hsame | hopposite := hends
  · -- both would run the same way, which two leaves never do
    obtain rfl : f = e := hsame
    exact absurd (List.mem_map_of_mem hf) (hdisjoint (List.mem_map_of_mem he))
  · obtain rfl : f = (e.2, e.1) := hopposite
    rw [← Vector.map_reverse, arc_reverse]

/-! ### The octants -/

/-- A reflection at coordinate planes, by the signs of the coordinates. -/
def reflect (s v : Vec3 ℝ) : Vec3 ℝ := ⟨s.x * v.x, s.y * v.y, s.z * v.z⟩

/-- The signs of the octants that are drawn. -/
def octants (lower : Bool) : List (Vec3 ℝ) :=
  [-1, 1].flatMap fun x => [-1, 1].flatMap fun y =>
    (if lower then [-1, 1] else [1]).map fun z => ⟨x, y, z⟩

/-- A sphere has eight different octants. -/
theorem octants_eight : (octants true).length = 8 ∧ (octants true).Nodup := by
  refine ⟨rfl, ?_⟩
  norm_num [octants]

/-- A hemisphere has four. -/
theorem octants_four : (octants false).length = 4 ∧ (octants false).Nodup := by
  refine ⟨rfl, ?_⟩
  norm_num [octants]

/-- Each coordinate of a sign is its own inverse. -/
structure IsSigns (s : Vec3 ℝ) : Prop where
  x : s.x * s.x = 1
  y : s.y * s.y = 1
  z : s.z * s.z = 1

/-- Octants are given by signs of the coordinates. -/
theorem isSigns_of_mem_octants {lower : Bool} {s : Vec3 ℝ} (hs : s ∈ octants lower) :
    IsSigns s := by
  have hmem : ∀ a ∈ [-1, (1 : ℝ)], a * a = 1 := by norm_num
  simp only [octants, List.mem_flatMap, List.mem_map] at hs
  obtain ⟨x, hx, y, hy, z, hz, rfl⟩ := hs
  refine ⟨hmem x hx, hmem y hy, hmem z ?_⟩
  split at hz
  · exact hz
  · exact List.mem_cons_of_mem _ hz

section Reflect

variable {s : Vec3 ℝ}

/-- A reflection is linear. -/
theorem reflect_add (s u v : Vec3 ℝ) : reflect s (u + v) = reflect s u + reflect s v := by
  simp only [reflect, Vec3.add_eq, mul_add]

theorem reflect_sub (s u v : Vec3 ℝ) : reflect s (u - v) = reflect s u - reflect s v := by
  simp only [reflect, Vec3.sub_eq, mul_sub]

theorem reflect_smul (s : Vec3 ℝ) (k : ℝ) (v : Vec3 ℝ) :
    reflect s (Vec3.smul k v) = Vec3.smul k (reflect s v) := by
  simp only [reflect, Vec3.smul_eq, mul_left_comm]

/-- It keeps products. -/
theorem IsSigns.dot_reflect (hs : IsSigns s) (u v : Vec3 ℝ) :
    Vec3.dot (reflect s u) (reflect s v) = Vec3.dot u v := by
  rw [Vec3.dot_eq, Vec3.dot_eq, reflect, reflect]
  linear_combination u.x * v.x * hs.x + u.y * v.y * hs.y + u.z * v.z * hs.z

/-- And so it keeps the unit vectors of the code. -/
theorem IsSigns.reflect_unit3 (hs : IsSigns s) (v : Vec3 ℝ) :
    reflect s v.unit3 = (reflect s v).unit3 := by
  have hnorm : (reflect s v).norm = v.norm := by rw [Vec3.norm, Vec3.norm, hs.dot_reflect]
  rw [Vec3.unit3, Vec3.unit3, hnorm]
  simp only [reflect, mul_div_assoc]

/-- **A reflected arc** is the arc between the reflected ends. -/
theorem IsSigns.map_reflect_arc (hs : IsSigns s) (P Q : Vec3 ℝ) :
    (arc P Q).map (reflect s) = arc (reflect s P) (reflect s Q) := by
  have hedge : bezierEdge (reflect s P) (reflect s Q) =
      (reflect s (bezierEdge P Q).1, reflect s (bezierEdge P Q).2) := by
    simp only [bezierEdge, hs.dot_reflect, reflect_add, reflect_smul, hs.reflect_unit3, reflect_sub]
  rw [arc, arc, hedge]
  simp

end Reflect

/-- An image of a Bezier triangle has the images of the corners. -/
theorem corners_map (f : Vec3 ℝ → Vec3 ℝ) (p : Vector (Vec3 ℝ) 10) :
    corners (p.map f) = (corners p).map f := by
  have hget : ∀ i, (p.map f).get i = f (p.get i) := fun i => Vector.getElem_map _ _
  simp only [corners, hget, List.map_cons, List.map_nil]

/-- And those of the sides. -/
theorem boundary_map (f : Vec3 ℝ → Vec3 ℝ) (p : Vector (Vec3 ℝ) 10) :
    boundary (p.map f) = (boundary p).map (Vector.map f) := by
  have hget : ∀ i, (p.map f).get i = f (p.get i) := fun i => Vector.getElem_map _ _
  simp [boundary, hget]

/-- A reflected Bezier triangle spans the arcs between the reflected corners. -/
theorem IsSigns.spans {s : Vec3 ℝ} (hs : IsSigns s) (g : Vec3 ℝ → Vec3 ℝ) (T : Trigon (Vec3 ℝ)) :
    Spans g (T.map (reflect s))
      ((makeBezierTriangle T.a T.b T.c).map fun v => g (reflect s v)) where
  corners_eq := by
    rw [corners_map, corners_makeBezierTriangle]
    rfl
  boundary_eq := by
    have harc : ∀ P Q, (arc P Q).map (fun v => g (reflect s v)) =
        (arc (reflect s P) (reflect s Q)).map g := fun P Q => by
      rw [← hs.map_reflect_arc, Vector.map_map]
      rfl
    rw [boundary_map, boundary_makeBezierTriangle]
    simp only [List.map_cons, List.map_nil, harc]
    rfl

/-- `sphere` puts a reflected copy of the octant into each octant. -/
theorem sphereTriangles_eq (r : ℝ) (lower : Bool) (t : Vec3 ℝ → Vec3 ℝ) :
    sphereTriangles r lower t =
      (octants lower).flatMap fun s => sphereOctant.map fun tri =>
        tri.map fun v => t (Vec3.smul r (reflect s v)) := by
  have hone : (Scalar.lit 1 : ℝ) = 1 := Rat.cast_one
  cases lower
  all_goals simp [sphereTriangles, octants, hone, Vec3.smul_eq, reflect]

/-- A triangle of a sphere spans the arcs between reflected corners of the first octant. -/
theorem exists_spans {r : ℝ} {lower : Bool} {t : Vec3 ℝ → Vec3 ℝ} {p : Vector (Vec3 ℝ) 10}
    (hp : p ∈ sphereTriangles r lower t) : ∃ T, Spans (fun v => t (Vec3.smul r v)) T p := by
  rw [sphereTriangles_eq, List.mem_flatMap] at hp
  obtain ⟨s, hs, hp⟩ := hp
  obtain ⟨tri, htri, rfl⟩ := List.mem_map.mp hp
  obtain ⟨T, _, rfl⟩ := exists_leaf htri
  exact ⟨_, (isSigns_of_mem_octants hs).spans (fun v => t (Vec3.smul r v)) T⟩

/-- **The octants meet**: where the triangles of a sphere share corners, they coincide. A radius of
zero leaves no two corners apart. -/
theorem coincide_sphereTriangles {r : ℝ} {lower : Bool} {t : Vec3 ℝ → Vec3 ℝ}
    (ht : Function.Injective t) {p q : Vector (Vec3 ℝ) 10} (hp : p ∈ sphereTriangles r lower t)
    (hq : q ∈ sphereTriangles r lower t) : Coincide p q := by
  obtain ⟨T, hp⟩ := exists_spans hp
  obtain ⟨U, hq⟩ := exists_spans hq
  refine hp.coincide ?_ hq
  by_cases hr : r = 0
  · -- the whole sphere is its centre
    right
    intro v w
    simp [hr, Vec3.smul_eq]
  · left
    refine ht.comp fun v w hvw => ?_
    have hvw := congrArg Vec3.toEuclidean hvw
    rw [Vec3.toEuclidean_smul, Vec3.toEuclidean_smul] at hvw
    exact Vec3.toEuclidean_injective (smul_right_injective _ hr hvw)

/-- `Align::T` turns and moves, and keeps points apart. -/
theorem Align.T_injective (center : Vec3 ℝ) (theta phi : ℝ) :
    Function.Injective (Align.ofDir center theta phi).T := by
  rintro ⟨x, y, z⟩ ⟨x', y', z'⟩ h
  have htheta := Real.sin_sq_add_cos_sq theta
  have hphi := Real.sin_sq_add_cos_sq phi
  obtain ⟨hx, hy, hz⟩ := Vec3.mk.inj h
  simp only [Align.ofDir, cos_real, sin_real] at hx hy hz
  -- back through the turn about the axis first, then through the one that tilts it
  have hX : x * Real.cos theta + z * Real.sin theta = x' * Real.cos theta +
    z' * Real.sin theta := by
    linear_combination Real.cos phi * hx + Real.sin phi * hy -
      (x * Real.cos theta + z * Real.sin theta - x' * Real.cos theta - z' * Real.sin theta) * hphi
  have hxx : x = x' := by
    linear_combination Real.cos theta * hX - Real.sin theta * hz - (x - x') * htheta
  have hyy : y = y' := by
    linear_combination -Real.sin phi * hx + Real.cos phi * hy - (y - y') * hphi
  have hzz : z = z' := by
    linear_combination Real.sin theta * hX + Real.cos theta * hz - (z - z') * htheta
  rw [hxx, hyy, hzz]

/-- Where a `V3dSphere` puts a point of the unit sphere. -/
noncomputable def V3dSphere.place (o : V3dSphere ℝ) (v : Vec3 ℝ) : Vec3 ℝ :=
  Vec3.smul o.radius v + o.center

/-- Where a `V3dHemiSphere` does. -/
noncomputable def V3dHemiSphere.place (o : V3dHemiSphere ℝ) (v : Vec3 ℝ) : Vec3 ℝ :=
  (Align.ofDir o.center o.polarAngle o.azimuthalAngle).T (Vec3.smul o.radius v)

/-- **The meshes are watertight.** The subdivision of a spherical triangle has `4 ^ d` triangles
with their corners on the sphere; any two coincide where they share corners, and unless the whole
lies on one great circle, they do so in opposite order as they are stored. A sphere is made of eight
reflected octants, a hemisphere of four, and any two of their triangles coincide where they share
corners. -/
theorem watertight (h : SphericalTriangle A B C) (d : ℕ) :
    (subdivideTriangle A B C d).length = 4 ^ d ∧
      (∀ p ∈ subdivideTriangle A B C d, ∀ v ∈ corners p, v.norm = 1) ∧
      (∀ p ∈ subdivideTriangle A B C d, ∀ q ∈ subdivideTriangle A B C d, Coincide p q) ∧
      (Vec3.dot (Vec3.cross A B) C ≠ 0 → (subdivideTriangle A B C d).Pairwise MeetOpposite) ∧
      (∀ o : V3dSphere ℝ,
        o.triangles = (octants true).flatMap (fun s => sphereOctant.map fun tri =>
          tri.map fun v => o.place (reflect s v)) ∧
        (octants true).length = 8 ∧ (octants true).Nodup ∧
        ∀ p ∈ o.triangles, ∀ q ∈ o.triangles, Coincide p q) ∧
      (∀ o : V3dHemiSphere ℝ,
        o.triangles = (octants false).flatMap (fun s => sphereOctant.map fun tri =>
          tri.map fun v => o.place (reflect s v)) ∧
        (octants false).length = 4 ∧ (octants false).Nodup ∧
        ∀ p ∈ o.triangles, ∀ q ∈ o.triangles, Coincide p q) := by
  refine ⟨length_subdivideTriangle A B C d, fun p hp => norm_of_mem_corners h hp,
    fun p hp q hq => coincide_subdivideTriangle hp hq,
    fun hvolume => pairwise_meetOpposite h hvolume d, fun o => ?_, fun o => ?_⟩
  · refine ⟨sphereTriangles_eq .., octants_eight.1, octants_eight.2, fun p hp q hq => ?_⟩
    have hadd : Function.Injective fun v : Vec3 ℝ => v + o.center := fun v w hvw => by
      have hvw := congrArg Vec3.toEuclidean hvw
      rw [Vec3.toEuclidean_add, Vec3.toEuclidean_add] at hvw
      exact Vec3.toEuclidean_injective (add_right_cancel hvw)
    exact coincide_sphereTriangles hadd hp hq
  · exact ⟨sphereTriangles_eq .., octants_four.1, octants_four.2, fun p hp q hq =>
      coincide_sphereTriangles (Align.T_injective ..) hp hq⟩

/-- The octant `sphere` starts from. -/
theorem sphericalTriangle_octant :
    SphericalTriangle ⟨Scalar.lit 1, Scalar.lit 0, Scalar.lit 0⟩
      ⟨Scalar.lit 0, Scalar.lit 1, Scalar.lit 0⟩ ⟨Scalar.lit 0, Scalar.lit 0, Scalar.lit 1⟩ where
  norm_eq_one := by simp [Vec3.norm, Vec3.dot_eq]
  not_parallel := by simp
  not_antipodal := by simp [Vec3.smul_eq]

/-- Its sixteen triangles meet as they are stored. -/
theorem watertight_octant :
    (sphereOctant : List (Vector (Vec3 ℝ) 10)).length = 4 ^ 2 ∧
      (sphereOctant : List (Vector (Vec3 ℝ) 10)).Pairwise MeetOpposite :=
  ⟨(watertight sphericalTriangle_octant 2).1,
    (watertight sphericalTriangle_octant 2).2.2.2.1 (by simp [Vec3.dot_eq, Vec3.cross_eq])⟩

end OkularV3d
