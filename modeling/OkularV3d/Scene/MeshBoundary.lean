import Mathlib.Tactic.Abel
import OkularV3d.Lib.Polyline
import OkularV3d.Scene.Drawing
import OkularV3d.Scene.Flatness

/-!
# The boundary of a mesh

Where `BezierPatch::render` leaves nothing out and moves no vertex (a transparent patch), the
triangles it draws are bounded by four polylines, and each of them depends on nothing but the four
control points of its edge: it is the polyline `BezierCurve::render` draws of that edge. So two
patches that share an edge meet along the whole of it, and so do the parts of one patch, however
differently they are subdivided.

The vertices that are put on an edge are those of its curve (`interior`) until the edge is found to
be flat, and from then on points of the chord, which are no new corners of the polyline
(`side_split`).

* `SegmentSum` (`OkularV3d.Lib.Polyline`) is a sum of directed segments, so that what is drawn in
  both directions cancels.
* `join_quarters` and `bounds_quarters` say that the parts of a piece bound what the piece bounds,
  for patches and for triangles.
* `BezierPatch.reads_render`, `BezierTriangle.reads_render` and `BezierCurve.reads_render` read the
  boundary off a rendering.
* `Outlines` are the curves that `OUTLINE` mode draws; the two results compare them with the
  boundary.
-/

namespace OkularV3d

open Adaptive

variable {K : Type} [ExactScalar K]

/-! ### Edges -/

section Edge

variable {D : Type}

/-- The control points of an edge. -/
def edge (a b c d : Vec3 D) : Vector (Vec3 D) 4 := #v[a, b, c, d]

/-- The control points of an edge, from its other end. -/
def backwards (z : Vector (Vec3 D) 4) : Vector (Vec3 D) 4 :=
  #v[z.get 3, z.get 2, z.get 1, z.get 0]

variable [Scalar D] (z : Vector (Vec3 D) 4)

/-- The construction of de Casteljau on an edge. -/
def splitEdge : Split (Vec3 D) := split3 (z.get 0) (z.get 1) (z.get 2) (z.get 3)

def firstHalf : Vector (Vec3 D) 4 :=
  #v[z.get 0, (splitEdge z).m0, (splitEdge z).m3, (splitEdge z).m5]

def secondHalf : Vector (Vec3 D) 4 :=
  #v[(splitEdge z).m5, (splitEdge z).m4, (splitEdge z).m2, z.get 3]

/-- How straight an edge is. -/
def edgeStraightness : D := straightness (z.get 0) (z.get 1) (z.get 2) (z.get 3)

/-- The vertices the subdivision of a curve puts between its ends. -/
def interior (res2 : D) : ℕ → Vector (Vec3 D) 4 → List (Vec3 D)
  | 0, _ => []
  | n + 1, z =>
    if Scalar.lt (edgeStraightness z) res2 then []
    else interior res2 n (firstHalf z) ++ (splitEdge z).m5 :: interior res2 n (secondHalf z)

end Edge

section Backwards

variable (z : Vector (Vec3 K) 4)

/-- An edge is split alike from both of its ends. -/
theorem splitEdge_backwards :
    splitEdge (backwards z) =
      { m0 := (splitEdge z).m2, m2 := (splitEdge z).m0, m3 := (splitEdge z).m4,
        m4 := (splitEdge z).m3, m5 := (splitEdge z).m5 } :=
  split3_backwards (z.get 0) (z.get 1) (z.get 2) (z.get 3)

theorem m5_backwards :
    (splitEdge (backwards z)).m5 = (splitEdge z).m5 := by rw [splitEdge_backwards]

/-- And it is found flat alike. -/
theorem edgeStraightness_backwards : edgeStraightness (backwards z) = edgeStraightness z :=
  straightness_backwards (z.get 0) (z.get 1) (z.get 2) (z.get 3)

/-- The first half from the other end is the second, backwards. -/
theorem firstHalf_backwards : firstHalf (backwards z) = backwards (secondHalf z) := by
  rw [firstHalf, splitEdge_backwards]
  rfl

theorem secondHalf_backwards : secondHalf (backwards z) = backwards (firstHalf z) := by
  rw [secondHalf, splitEdge_backwards]
  rfl

/-- **The points put on an edge** are the same from both ends, in the other order. -/
theorem interior_backwards (res2 : K) (n : ℕ) :
    interior res2 n (backwards z) = (interior res2 n z).reverse := by
  induction n generalizing z with
  | zero => rfl
  | succ n ih =>
    rw [interior, interior, edgeStraightness_backwards, firstHalf_backwards,
      secondHalf_backwards, ih, ih,
      splitEdge_backwards]
    split_ifs
    · rfl
    · simp

end Backwards

/-! ### Sides -/

section Side

variable {G : Type} [AddCommGroup G] (φ : SegmentSum (V := Vec3 K) Vec3.mid G)
    {res2 : K} {n : ℕ} {flat : Bool}
  {z : Vector (Vec3 K) 4} {P Q : Vec3 K}

/-- The sum along a side of a piece: a chord if the side has been found to be flat, and else the
polyline of its curve. -/
def SegmentSum.side (res2 : K) (n : ℕ) (flat : Bool) (z : Vector (Vec3 K) 4) (P Q : Vec3 K) : G :=
  if flat then φ.toFun P Q else φ.path (P :: (interior res2 n z ++ [Q]))

/-- A side that is straight is a chord. -/
theorem SegmentSum.side_of_straight (h : flat = true ∨ edgeStraightness z < res2) (n : ℕ) :
    φ.side res2 n flat z P Q = φ.toFun P Q := by
  rw [side]
  split_ifs with hflat
  · rfl
  · have hlt := lt_exact.mpr (h.resolve_left hflat)
    cases n with
    | zero => simp [interior]
    | succ n => simp [interior, hlt]

/-- **The polyline of a side** is the same from both ends, in the other direction. -/
theorem SegmentSum.side_backwards :
    φ.side res2 n false (backwards z) Q P = -φ.side res2 n false z P Q := by
  rw [side, side, if_neg Bool.false_ne_true, if_neg Bool.false_ne_true, interior_backwards,
    ← φ.path_reverse]
  simp

/-- **Splitting a side.** The vertex that is put on it where nothing is moved out cuts it into the
sides of the two halves. -/
theorem SegmentSum.side_split {R : SurfaceSetting K} (hEpsilon : R.Epsilon = 0) {straight : K}
    (hstraight : straight = edgeStraightness z) {outward m : Vec3 K} (hm : m = (splitEdge z).m5) :
    let e := BezierPatch.edgePoint R flat P Q straight outward m
    φ.side R.res2 (n + 1) flat z P Q =
      φ.side R.res2 n e.flat (firstHalf z) P e.m + φ.side R.res2 n e.flat (secondHalf z) e.m Q := by
  subst hstraight hm
  have hzero : Scalar.eq R.Epsilon (Scalar.lit 0) = true :=
    decide_eq_true (hEpsilon.trans Rat.cast_zero.symm)
  simp only [BezierPatch.edgePoint, hzero, if_true]
  split_ifs with hflat hlt
  · -- the chord is cut in the middle
    exact (φ.side_of_straight (.inl hflat) _).trans (φ.split P Q)
  · exact (φ.side_of_straight (.inr (lt_exact.mp hlt)) _).trans (φ.split P Q)
  · rw [side, side, side, if_neg hflat, if_neg Bool.false_ne_true,
      if_neg Bool.false_ne_true, interior,
      if_neg hlt, List.append_assoc, List.cons_append, ← List.cons_append, φ.path_append]
    rfl

end Side

/-! ### Patches -/

namespace BezierPatch

section Sides

variable {D : Type} (p : Vector (Vec3 D) 16)

/-- The edges of a patch, counterclockwise, each from its first corner to its second. -/
def side0 : Vector (Vec3 D) 4 := edge (p.get 0) (p.get 4) (p.get 8) (p.get 12)

def side1 : Vector (Vec3 D) 4 := edge (p.get 12) (p.get 13) (p.get 14) (p.get 15)

def side2 : Vector (Vec3 D) 4 := edge (p.get 15) (p.get 11) (p.get 7) (p.get 3)

def side3 : Vector (Vec3 D) 4 := edge (p.get 3) (p.get 2) (p.get 1) (p.get 0)

end Sides

/-- The sides of the two halves of a patch. -/
theorem sides_splitVertically (p : Vector (Vec3 K) 16) :
    side3 (splitVertically p).1 = secondHalf (side3 p) ∧
      side3 (splitVertically p).2 = firstHalf (side3 p) :=
  ⟨(secondHalf_backwards #v[p.get 0, p.get 1, p.get 2, p.get 3]).symm,
    (firstHalf_backwards #v[p.get 0, p.get 1, p.get 2, p.get 3]).symm⟩

/-- A patch that is split horizontally has two of its sides split. -/
theorem sides_splitHorizontally (p : Vector (Vec3 K) 16) :
    side2 (splitHorizontally p).1 = secondHalf (side2 p) ∧
      side2 (splitHorizontally p).2 = firstHalf (side2 p) :=
  ⟨(secondHalf_backwards #v[p.get 3, p.get 7, p.get 11, p.get 15]).symm,
    (firstHalf_backwards #v[p.get 3, p.get 7, p.get 11, p.get 15]).symm⟩

/-- A quarter has the halves of two sides. -/
theorem sides_quarters (p : Vector (Vec3 K) 16) :
    side3 (quarters p).s0 = secondHalf (side3 p) ∧ side3 (quarters p).s3 = firstHalf (side3 p) ∧
      side2 (quarters p).s3 = secondHalf (side2 p) ∧ side2 (quarters p).s2 = firstHalf (side2 p) :=
  ⟨(secondHalf_backwards #v[p.get 0, p.get 1, p.get 2, p.get 3]).symm,
    (firstHalf_backwards #v[p.get 0, p.get 1, p.get 2, p.get 3]).symm,
    (secondHalf_backwards #v[p.get 3, p.get 7, p.get 11, p.get 15]).symm,
    (firstHalf_backwards #v[p.get 3, p.get 7, p.get 11, p.get 15]).symm⟩

end BezierPatch

namespace PatchPiece

open BezierPatch in
/-- Some triangles are bounded by the sides of a piece. -/
def Bounds (res2 : K) (n : ℕ) (q : PatchPiece UInt32 K K) (ts : List (Trigon (Vec3 K))) : Prop :=
  ∀ {G : Type} [AddCommGroup G] (φ : SegmentSum (V := Vec3 K) Vec3.mid G) (n0 n1 n2 n3 : ℕ),
    n ≤ n0 → n ≤ n1 → n ≤ n2 → n ≤ n3 →
      φ.boundary ts =
        φ.side res2 n0 q.flat0 (side0 q.p) q.c0.P q.c1.P +
          φ.side res2 n1 q.flat1 (side1 q.p) q.c1.P q.c2.P +
          φ.side res2 n2 q.flat2 (side2 q.p) q.c2.P q.c3.P +
          φ.side res2 n3 q.flat3 (side3 q.p) q.c3.P q.c0.P

end PatchPiece

namespace BezierPatch

variable {R : SurfaceSetting K} {s : PatchPiece UInt32 K K} {M : Mesh K} {n : ℕ}

section Join

variable {G : Type} [AddCommGroup G]
    {a0 a1 a2 a3 b0 b1 b2 b3 c0 c1 c2 c3 d0 d1 d2 d3 s0 s1 s2 s3 : G}

/-- The lower and the upper half of a quadrilateral. -/
theorem join_vertically (h1 : s1 = a1 + b1) (h3 : s3 = b3 + a3) (hmeet : b0 = -a2) :
    a0 + a1 + a2 + a3 + (b0 + b1 + b2 + b3) = a0 + s1 + b2 + s3 := by
  rw [h1, h3, hmeet]
  abel

/-- The left and the right half of a quadrilateral. -/
theorem join_horizontally (h0 : s0 = a0 + b0) (h2 : s2 = b2 + a2) (hmeet : b3 = -a1) :
    a0 + a1 + a2 + a3 + (b0 + b1 + b2 + b3) = s0 + b1 + s2 + a3 := by
  rw [h0, h2, hmeet]
  abel

/-- The quarters of a quadrilateral. -/
theorem join_quarters (h0 : s0 = a0 + b0) (h1 : s1 = b1 + c1)
    (h2 : s2 = c2 + d2) (h3 : s3 = d3 + a3)
    (hab : b3 = -a1) (hbc : c0 = -b2) (hcd : d1 = -c3) (had : d0 = -a2) :
    a0 + a1 + a2 + a3 + ((b0 + b1 + b2 + b3) + ((c0 + c1 + c2 + c3) + (d0 + d1 + d2 + d3))) =
      s0 + s1 + s2 + s3 := by
  rw [h0, h1, h2, h3, hab, hbc, hcd, had]
  abel

end Join

/-- The halves of a patch that is split vertically meet along the line between them. -/
theorem bounds_vertically (hEpsilon : R.Epsilon = 0) {tss : List (List (Trigon (Vec3 K)))}
    (h : List.Forall₂ (fun q ts => q.Bounds R.res2 n ts)
      (stepVertically (addVertex R) R s M).2 tss) :
    s.Bounds R.res2 (n + 1) tss.flatten := by
  change List.Forall₂ _ [_, _] tss at h
  obtain _ | ⟨h0, _ | ⟨h1, _ | _⟩⟩ := h
  intro G _ φ n0 n1 n2 n3 hn0 hn1 hn2 hn3
  obtain ⟨k1, rfl⟩ := Nat.exists_eq_add_of_le' (le_of_add_le_right hn1)
  obtain ⟨k3, rfl⟩ := Nat.exists_eq_add_of_le' (le_of_add_le_right hn3)
  obtain ⟨h3, h3'⟩ := sides_splitVertically s.p
  have hb0 := h0 φ n0 k1 n k3 (by omega) (by omega) le_rfl (by omega)
  have hb1 := h1 φ n k1 n2 k3 le_rfl (by omega) (by omega) (by omega)
  simp only [List.flatten_cons, List.flatten_nil, List.append_nil]
  rw [φ.boundary_append, hb0, hb1, h3, h3']
  refine join_vertically ?_ ?_ ?_
  · exact φ.side_split hEpsilon rfl rfl
  · refine φ.side_split hEpsilon (straightness_backwards ..) ?_
    exact (m5_backwards #v[s.p.get 0, s.p.get 1, s.p.get 2, s.p.get 3]).symm
  · exact φ.side_backwards (z := side2 (splitVertically s.p).1)

/-- The halves of a patch that is split horizontally meet along the line between them. -/
theorem bounds_horizontally (hEpsilon : R.Epsilon = 0) {tss : List (List (Trigon (Vec3 K)))}
    (h : List.Forall₂ (fun q ts => q.Bounds R.res2 n ts)
      (stepHorizontally (addVertex R) R s M).2 tss) :
    s.Bounds R.res2 (n + 1) tss.flatten := by
  change List.Forall₂ _ [_, _] tss at h
  obtain _ | ⟨h0, _ | ⟨h1, _ | _⟩⟩ := h
  intro G _ φ n0 n1 n2 n3 hn0 hn1 hn2 hn3
  obtain ⟨k0, rfl⟩ := Nat.exists_eq_add_of_le' (le_of_add_le_right hn0)
  obtain ⟨k2, rfl⟩ := Nat.exists_eq_add_of_le' (le_of_add_le_right hn2)
  obtain ⟨h2, h2'⟩ := sides_splitHorizontally s.p
  have hb0 := h0 φ k0 n k2 n3 (by omega) le_rfl (by omega) (by omega)
  have hb1 := h1 φ k0 n1 k2 n (by omega) (by omega) (by omega) le_rfl
  simp only [List.flatten_cons, List.flatten_nil, List.append_nil]
  rw [φ.boundary_append, hb0, hb1, h2, h2']
  refine join_horizontally ?_ ?_ ?_
  · exact φ.side_split hEpsilon rfl rfl
  · refine φ.side_split hEpsilon rfl ?_
    exact (m5_backwards #v[s.p.get 3, s.p.get 7, s.p.get 11, s.p.get 15]).symm
  · exact φ.side_backwards (z := side1 (splitHorizontally s.p).1)

/-- The quarters of a patch meet along the four lines from its middle. -/
theorem bounds_quarters (hEpsilon : R.Epsilon = 0) {tss : List (List (Trigon (Vec3 K)))}
    (h : List.Forall₂ (fun q ts => q.Bounds R.res2 n ts) (stepQuarters (addVertex R) R s M).2 tss) :
    s.Bounds R.res2 (n + 1) tss.flatten := by
  change List.Forall₂ _ [_, _, _, _] tss at h
  obtain _ | ⟨h0, _ | ⟨h1, _ | ⟨h2, _ | ⟨h3, _ | _⟩⟩⟩⟩ := h
  intro G _ φ n0 n1 n2 n3 hn0 hn1 hn2 hn3
  obtain ⟨k0, rfl⟩ := Nat.exists_eq_add_of_le' (le_of_add_le_right hn0)
  obtain ⟨k1, rfl⟩ := Nat.exists_eq_add_of_le' (le_of_add_le_right hn1)
  obtain ⟨k2, rfl⟩ := Nat.exists_eq_add_of_le' (le_of_add_le_right hn2)
  obtain ⟨k3, rfl⟩ := Nat.exists_eq_add_of_le' (le_of_add_le_right hn3)
  obtain ⟨hs0, hs3, hs3', hs2⟩ := sides_quarters s.p
  have hb0 := h0 φ k0 n n k3 (by omega) le_rfl le_rfl (by omega)
  have hb1 := h1 φ k0 k1 n n (by omega) (by omega) le_rfl le_rfl
  have hb2 := h2 φ n k1 k2 n le_rfl (by omega) (by omega) le_rfl
  have hb3 := h3 φ n n k2 k3 le_rfl le_rfl (by omega) (by omega)
  simp only [List.flatten_cons, List.flatten_nil, List.append_nil]
  rw [φ.boundary_append, φ.boundary_append, φ.boundary_append, hb0, hb1, hb2,
    hb3, hs0, hs3, hs3', hs2]
  refine join_quarters ?_ ?_ ?_ ?_ ?_ ?_ ?_ ?_
  · exact φ.side_split hEpsilon rfl rfl
  · exact φ.side_split hEpsilon rfl rfl
  · refine φ.side_split hEpsilon rfl ?_
    exact (m5_backwards #v[s.p.get 3, s.p.get 7, s.p.get 11, s.p.get 15]).symm
  · refine φ.side_split hEpsilon (straightness_backwards ..) ?_
    exact (m5_backwards #v[s.p.get 0, s.p.get 1, s.p.get 2, s.p.get 3]).symm
  · exact φ.side_backwards (z := side1 (quarters s.p).s0)
  · exact φ.side_backwards (z := side2 (quarters s.p).s1)
  · exact φ.side_backwards (z := side3 (quarters s.p).s2)
  · exact φ.side_backwards (z := side2 (quarters s.p).s0)

/-- A flat piece is bounded by four chords. -/
theorem bounds_flat (hh : (distance s.p).1 < R.res2) (hv : (distance s.p).2 < R.res2) :
    s.Bounds R.res2 n [s.c0.trigon s.c1 s.c2, s.c0.trigon s.c2 s.c3] := by
  simp only [distance, scalarMax_eq, max_lt_iff] at hh hv
  have h0 : edgeStraightness (side0 s.p) < R.res2 := hh.1.1.1.2
  have h1 : edgeStraightness (side1 s.p) < R.res2 := hv.2
  have h2 : edgeStraightness (side2 s.p) < R.res2 :=
    (edgeStraightness_backwards #v[s.p.get 3, s.p.get 7, s.p.get 11, s.p.get 15]).trans_lt hh.2
  have h3 : edgeStraightness (side3 s.p) < R.res2 :=
    (edgeStraightness_backwards #v[s.p.get 0, s.p.get 1, s.p.get 2, s.p.get 3]).trans_lt hv.1.1.1.2
  intro G _ φ n0 n1 n2 n3 _ _ _ _
  rw [φ.side_of_straight (.inr h0), φ.side_of_straight (.inr h1), φ.side_of_straight (.inr h2),
    φ.side_of_straight (.inr h3)]
  exact φ.boundary_quadrilateral ..

/-- The triangles of a piece are bounded by its sides. -/
theorem makes_bounds (hEpsilon : R.Epsilon = 0) (color : Bool) {N : Mesh K}
    (h : run (step R) n s M = some N) :
    Mesh.Makes (R.colored color) Trigon.corners (s.Valid R color M) (s.Bounds R.res2 n) M N :=
  makes_run (fun n q ts => q.Bounds R.res2 n ts)
    (fun _ _ hh hv => bounds_flat (lt_exact.mp hh) (lt_exact.mp hv))
    (fun _ _ _ _ => bounds_vertically hEpsilon) (fun _ _ _ _ => bounds_horizontally hEpsilon)
    (fun _ _ _ _ => bounds_quarters hEpsilon) h

end BezierPatch

/-! ### Triangles -/

namespace BezierTriangle

section Sides

variable {D : Type} (p : Vector (Vec3 D) 10)

/-- The edges of a Bezier triangle, each opposite to a corner. -/
def side0 : Vector (Vec3 D) 4 := edge (p.get 6) (p.get 7) (p.get 8) (p.get 9)

def side1 : Vector (Vec3 D) 4 := edge (p.get 9) (p.get 5) (p.get 2) (p.get 0)

def side2 : Vector (Vec3 D) 4 := edge (p.get 0) (p.get 1) (p.get 3) (p.get 6)

end Sides

end BezierTriangle

open BezierTriangle in
/-- Some triangles are bounded by the sides of a piece. -/
def TrianglePiece.Bounds (res2 : K) (n : ℕ) (q : TrianglePiece UInt32 K K)
    (ts : List (Trigon (Vec3 K))) : Prop :=
  ∀ {G : Type} [AddCommGroup G] (φ : SegmentSum (V := Vec3 K) Vec3.mid G) (n0 n1 n2 : ℕ),
    n ≤ n0 → n ≤ n1 → n ≤ n2 →
      φ.boundary ts =
        φ.side res2 n0 q.flat0 (side0 q.p) q.c1.P q.c2.P +
          φ.side res2 n1 q.flat1 (side1 q.p) q.c2.P q.c0.P +
          φ.side res2 n2 q.flat2 (side2 q.p) q.c0.P q.c1.P

namespace BezierTriangle

open BezierPatch

variable {R : SurfaceSetting K} {s : TrianglePiece UInt32 K K} {M : Mesh K} {n : ℕ}

/-- The sides of the quarters on the edge that the subdivision reads from its other end. -/
theorem sides_split (p : Vector (Vec3 K) 10) :
    side0 (split p).r = firstHalf (side0 p) ∧ side0 (split p).u = secondHalf (side0 p) :=
  ⟨(firstHalf_backwards #v[p.get 9, p.get 8, p.get 7, p.get 6]).symm,
    (secondHalf_backwards #v[p.get 9, p.get 8, p.get 7, p.get 6]).symm⟩

/-- The quarters of a triangle: three that share its corners, and the one between them. -/
theorem join_quarters {G : Type} [AddCommGroup G] {l0 l1 l2 r0 r1 r2 u0 u1 u2 c0 c1 c2 s0 s1 s2 : G}
    (h0 : s0 = r0 + u0) (h1 : s1 = u1 + l1) (h2 : s2 = l2 + r2) (hl : c0 = -l0) (hr : c1 = -r1)
    (hu : c2 = -u2) :
    l0 + l1 + l2 + ((r0 + r1 + r2) + ((u0 + u1 + u2) + (c0 + c1 + c2))) = s0 + s1 + s2 := by
  rw [h0, h1, h2, hl, hr, hu]
  abel

/-- **The parts of a triangle bound what the whole bounds**: what runs along the inner edges
cancels. -/
theorem bounds_quarters (hEpsilon : R.Epsilon = 0) {tss : List (List (Trigon (Vec3 K)))}
    (h : List.Forall₂ (fun q ts => q.Bounds R.res2 n ts) (stepQuarters (addVertex R) R s M).2 tss) :
    s.Bounds R.res2 (n + 1) tss.flatten := by
  change List.Forall₂ _ [_, _, _, _] tss at h
  obtain _ | ⟨hl, _ | ⟨hr, _ | ⟨hu, _ | ⟨hc, _ | _⟩⟩⟩⟩ := h
  intro G _ φ n0 n1 n2 hn0 hn1 hn2
  obtain ⟨k0, rfl⟩ := Nat.exists_eq_add_of_le' (le_of_add_le_right hn0)
  obtain ⟨k1, rfl⟩ := Nat.exists_eq_add_of_le' (le_of_add_le_right hn1)
  obtain ⟨k2, rfl⟩ := Nat.exists_eq_add_of_le' (le_of_add_le_right hn2)
  obtain ⟨hs0, hs0'⟩ := sides_split s.p
  have hbl := hl φ n k1 k2 le_rfl (by omega) (by omega)
  have hbr := hr φ k0 n k2 (by omega) le_rfl (by omega)
  have hbu := hu φ k0 k1 n (by omega) (by omega) le_rfl
  have hbc := hc φ n n n le_rfl le_rfl le_rfl
  simp only [List.flatten_cons, List.flatten_nil, List.append_nil]
  rw [φ.boundary_append, φ.boundary_append, φ.boundary_append, hbl, hbr, hbu, hbc, hs0, hs0']
  refine join_quarters ?_ ?_ ?_ ?_ ?_ ?_
  · refine φ.side_split hEpsilon rfl ?_
    exact (m5_backwards #v[s.p.get 9, s.p.get 8, s.p.get 7, s.p.get 6]).symm
  · exact φ.side_split hEpsilon (straightness_backwards ..) rfl
  · exact φ.side_split hEpsilon rfl rfl
  · exact φ.side_backwards (z := side0 (split s.p).l)
  · exact φ.side_backwards (z := side1 (split s.p).r)
  · exact φ.side_backwards (z := side2 (split s.p).u)

/-- A flat piece is bounded by three chords. -/
theorem bounds_flat (h : distance s.p < R.res2) : s.Bounds R.res2 n [s.c0.trigon s.c1 s.c2] := by
  simp only [distance, scalarMax_eq, max_lt_iff] at h
  have h0 : edgeStraightness (side0 s.p) < R.res2 := h.2
  have h1 : edgeStraightness (side1 s.p) < R.res2 :=
    (edgeStraightness_backwards #v[s.p.get 0, s.p.get 2, s.p.get 5, s.p.get 9]).trans_lt h.1.2
  have h2 : edgeStraightness (side2 s.p) < R.res2 := h.1.1.2
  intro G _ φ n0 n1 n2 _ _ _
  rw [φ.side_of_straight (.inr h0), φ.side_of_straight (.inr h1), φ.side_of_straight (.inr h2)]
  simp only [SegmentSum.boundary, List.map_cons, List.map_nil, List.sum_cons, List.sum_nil,
    SegmentSum.perimeter, SurfaceCorner.trigon]
  change φ.toFun s.c0.P s.c1.P + φ.toFun s.c1.P s.c2.P + φ.toFun s.c2.P s.c0.P + 0 = _
  abel

/-- The triangles of a piece are bounded by its sides. -/
theorem makes_bounds (hEpsilon : R.Epsilon = 0) (color : Bool) {N : Mesh K}
    (h : run (step R) n s M = some N) :
    Mesh.Makes (R.colored color) Trigon.corners (s.Valid R color M) (s.Bounds R.res2 n) M N :=
  makes_run (fun n q ts => q.Bounds R.res2 n ts)
    (fun _ _ hflat => bounds_flat (lt_exact.mp hflat)) (fun _ _ _ _ => bounds_quarters hEpsilon) h

end BezierTriangle

/-! ### Curves -/

namespace BezierCurve

variable {R : CurveSetting K} {M N : Mesh K} {c : CurvePiece K} {n : ℕ}

/-- The polyline of a curve. -/
def polyline (res2 : K) (n : ℕ) (z : Vector (Vec3 K) 4) : List (Vec3 K) :=
  z.get 0 :: (interior res2 n z ++ [z.get 3])

/-- A flat edge is drawn as its chord. -/
theorem polyline_of_straight {res2 : K} {z : Vector (Vec3 K) 4}
    (h : Scalar.lt (edgeStraightness z) res2 = true)
    (n : ℕ) : polyline res2 (n + 1) z = [z.get 0, z.get 3] := by
  rw [polyline, interior, if_pos h]
  rfl

/-- Any other is drawn half by half. -/
theorem polyline_of_split {res2 : K} {z : Vector (Vec3 K) 4}
    (h : ¬ Scalar.lt (edgeStraightness z) res2 = true)
    (n : ℕ) :
    SegmentSum.segments (polyline res2 (n + 1) z) =
      SegmentSum.segments (polyline res2 n (firstHalf z)) ++
        SegmentSum.segments (polyline res2 n (secondHalf z)) := by
  rw [polyline, interior, if_neg h, List.append_assoc, List.cons_append, ← List.cons_append,
    SegmentSum.segments_append_cons]
  rfl

/-- A curve is drawn as the polyline of its vertices. -/
theorem makes_polyline (h : run (step R) n c M = some N) :
    Mesh.Makes false ends (Valid M c)
      (fun ss => ∀ k, n ≤ k → ss = SegmentSum.segments (polyline R.res2 k c.p)) M N := by
  refine makes_run (fun n p ss => ∀ k, n ≤ k →
    ss = SegmentSum.segments (polyline R.res2 k p)) ?_ ?_ h
  · intro n p hstraight k hk
    obtain ⟨k, rfl⟩ := Nat.exists_eq_add_of_le' (le_of_add_le_right hk)
    rw [polyline_of_straight hstraight]
    rfl
  · intro n p ss ss' hstraight s hss hss' k hk
    obtain ⟨k, rfl⟩ := Nat.exists_eq_add_of_le' (le_of_add_le_right hk)
    rw [polyline_of_split hstraight, hss k (by omega), hss' k (by omega)]
    rfl

end BezierCurve

/-! ### Whole renderings -/

section Render

variable {depth : ℕ} {projViewMat : Mat4 K} {res : K} {word : Int32} {data : VertexData K}

namespace BezierCurve

/-- **A curve is drawn as a polyline** from its first end to its last. -/
theorem reads_render {p : Vector (Vec3 K) 4}
    (h : render depth projViewMat res word p = some (data, true))
    (hsize : data.materialVertices.length ≤ 2 ^ 32) {n : ℕ} (hn : depth ≤ n) :
    data.Reads false ((SegmentSum.segments (polyline (res * res) n p)).flatMap ends) := by
  obtain ⟨q, M, hq, hrun⟩ := exists_run h
  have hmakes := makes_polyline hrun
  have hfinal : ((⟨data, true⟩ : Mesh K).positions false).length ≤ 2 ^ 32 := by
    simpa [Mesh.positions] using hsize
  obtain ⟨ss, hdraws, hss⟩ := hmakes.draws rfl hfinal
    (hq.valid ((hmakes.extends_mesh.positions false).length_le.trans hfinal))
  obtain rfl := hss n hn
  rw [hq.p_eq] at hdraws
  exact hdraws.reads hq.indices_eq

end BezierCurve

/-- A whole side, from one end of its curve to the other. -/
theorem SegmentSum.side_whole {G : Type} [AddCommGroup G] (φ : SegmentSum (V := Vec3 K) Vec3.mid G)
    (res2 : K) (n : ℕ) (z : Vector (Vec3 K) 4) :
    φ.side res2 n false z (z.get 0) (z.get 3) = φ.path (BezierCurve.polyline res2 n z) :=
  if_neg Bool.false_ne_true

namespace BezierPatch

/-- The edges of a patch, in the order in which `OUTLINE` mode draws them. -/
def edges (p : Vector (Vec3 K) 16) : List (Vector (Vec3 K) 4) :=
  [side0 p, side1 p, side2 p, side3 p]

/-- **The boundary of a patch.** Where nothing of a transparent patch is culled, its triangles are
bounded by the polylines of its edges. -/
theorem reads_render {colors : Option (Vector (Vec4 K) 4)} {p : Vector (Vec3 K) 16}
    (h : render depth projViewMat res true colors word p = some (data, true))
    (hsize : data.colorVertices.length ≤ 2 ^ 32) {n : ℕ} (hn : depth ≤ n) :
    ∃ ts, data.Reads true (ts.flatMap Trigon.corners) ∧
      ∀ {G : Type} [AddCommGroup G] (φ : SegmentSum (V := Vec3 K) Vec3.mid G),
        φ.boundary ts =
          ((edges p).map fun e => φ.path (BezierCurve.polyline (res * res) n e)).sum := by
  obtain ⟨q, M, hq, hrun⟩ := exists_run h
  have hmakes := makes_bounds Rat.cast_zero colors.isSome hrun
  have hfinal : ((⟨data, true⟩ : Mesh K).positions true).length ≤ 2 ^ 32 := by
    simpa [Mesh.positions] using hsize
  obtain ⟨ts, hdraws, hbounds⟩ := hmakes.draws rfl hfinal
    (hq.valid ((hmakes.extends_mesh.positions _).length_le.trans hfinal))
  refine ⟨ts, hdraws.reads hq.indices_eq, fun φ => ?_⟩
  obtain ⟨hc0, hc1, hc2, hc3⟩ := hq.corners_eq
  obtain ⟨hf0, hf1, hf2, hf3⟩ := hq.flat_eq
  rw [hbounds φ n n n n hn hn hn hn, hq.p_eq, hc0, hc1, hc2, hc3, hf0, hf1, hf2, hf3]
  simp only [edges, List.map_cons, List.map_nil, List.sum_cons, List.sum_nil, add_zero, ← add_assoc,
    ← φ.side_whole]
  rfl

end BezierPatch

namespace BezierTriangle

/-- The edges of a Bezier triangle, in the order in which `OUTLINE` mode draws them. -/
def edges (p : Vector (Vec3 K) 10) : List (Vector (Vec3 K) 4) := [side2 p, side0 p, side1 p]

/-- **The boundary of a Bezier triangle.** -/
theorem reads_render {colors : Option (Vector (Vec4 K) 3)} {p : Vector (Vec3 K) 10}
    (h : render depth projViewMat res true colors word p = some (data, true))
    (hsize : data.colorVertices.length ≤ 2 ^ 32) {n : ℕ} (hn : depth ≤ n) :
    ∃ ts, data.Reads true (ts.flatMap Trigon.corners) ∧
      ∀ {G : Type} [AddCommGroup G] (φ : SegmentSum (V := Vec3 K) Vec3.mid G),
        φ.boundary ts =
          ((edges p).map fun e => φ.path (BezierCurve.polyline (res * res) n e)).sum := by
  obtain ⟨q, M, hq, hrun⟩ := exists_run h
  have hmakes := makes_bounds Rat.cast_zero colors.isSome hrun
  have hfinal : ((⟨data, true⟩ : Mesh K).positions true).length ≤ 2 ^ 32 := by
    simpa [Mesh.positions] using hsize
  obtain ⟨ts, hdraws, hbounds⟩ := hmakes.draws rfl hfinal
    (hq.valid ((hmakes.extends_mesh.positions _).length_le.trans hfinal))
  refine ⟨ts, hdraws.reads hq.indices_eq, fun φ => ?_⟩
  obtain ⟨hc0, hc1, hc2⟩ := hq.corners_eq
  obtain ⟨hf0, hf1, hf2⟩ := hq.flat_eq
  rw [hbounds φ n n n hn hn hn, hq.p_eq, hc0, hc1, hc2, hf0, hf1, hf2]
  simp only [edges, List.map_cons, List.map_nil, List.sum_cons, List.sum_nil, add_zero, ← add_assoc,
    ← φ.side_whole]
  rw [AddCommMagma.add_comm, ← add_assoc]
  rfl

end BezierTriangle

/-! ### Surfaces and their outlines -/

/-- Curves that are drawn of some edges, with nothing culled. -/
def Outlines (res : K) (edges : List (Vector (Vec3 K) 4)) (outline : List (VertexData K)) : Prop :=
  List.Forall₂ (fun e curve =>
    ∃ depth projViewMat word, BezierCurve.render depth projViewMat res word e = some (curve, true) ∧
      curve.materialVertices.length ≤ 2 ^ 32) edges outline

/-- The curves of an outline are read as polylines of one depth. -/
theorem Outlines.reads {edges : List (Vector (Vec3 K) 4)} {outline : List (VertexData K)}
    (h : Outlines res edges outline) :
    ∃ m, ∀ n, m ≤ n → List.Forall₂
      (fun curve ss => curve.Reads false (ss.flatMap BezierCurve.ends)) outline
      (edges.map fun e => SegmentSum.segments (BezierCurve.polyline (res * res) n e)) := by
  induction h with
  | nil => exact ⟨0, fun _ _ => .nil⟩
  | cons hcurve _ ih =>
    obtain ⟨depth, projViewMat, word, hrender, hsize⟩ := hcurve
    obtain ⟨m, hm⟩ := ih
    exact ⟨max depth m, fun n hn => .cons
      (BezierCurve.reads_render hrender hsize ((le_max_left _ _).trans hn))
      (hm n ((le_max_right _ _).trans hn))⟩

/-- Triangles that are bounded by the polylines of some edges are bounded by the curves drawn of
them. -/
theorem Outlines.bound {edges : List (Vector (Vec3 K) 4)} {outline : List (VertexData K)}
    (h : Outlines res edges outline)
    (hmesh : ∀ n, depth ≤ n → ∃ ts, data.Reads true (ts.flatMap Trigon.corners) ∧
      ∀ {G : Type} [AddCommGroup G] (φ : SegmentSum (V := Vec3 K) Vec3.mid G),
        φ.boundary ts = (edges.map fun e => φ.path (BezierCurve.polyline (res * res) n e)).sum) :
    ∃ ts sss, data.Reads true (ts.flatMap Trigon.corners) ∧
      List.Forall₂ (fun curve ss => curve.Reads false (ss.flatMap BezierCurve.ends)) outline sss ∧
        ∀ {G : Type} [AddCommGroup G] (φ : SegmentSum (V := Vec3 K) Vec3.mid G),
          φ.boundary ts = (sss.map φ.sum).sum := by
  obtain ⟨m, hm⟩ := h.reads
  obtain ⟨ts, hts, hbounds⟩ := hmesh (max depth m) (le_max_left depth m)
  refine ⟨ts, _, hts, hm (max depth m) (le_max_right depth m), fun φ => ?_⟩
  rw [hbounds φ, List.map_map]
  rfl

/-! A patch and a triangle with one raised edge. -/

/-- The identity matrix. -/
def identityView : Mat4 ℚ := fun i => if i.val % 5 = 0 then 1 else 0

def raisedPatch : Vector (Vec3 ℚ) 16 :=
  #v[⟨0, 0, 0⟩, ⟨0, 1/4, 1/2⟩, ⟨0, 1/2, 0⟩, ⟨0, 3/4, 0⟩,
    ⟨1/4, 0, 0⟩, ⟨1/4, 1/4, 0⟩, ⟨1/4, 1/2, 0⟩, ⟨1/4, 3/4, 0⟩,
    ⟨1/2, 0, 0⟩, ⟨1/2, 1/4, 0⟩, ⟨1/2, 1/2, 0⟩, ⟨1/2, 3/4, 0⟩,
    ⟨3/4, 0, 0⟩, ⟨3/4, 1/4, 0⟩, ⟨3/4, 1/2, 0⟩, ⟨3/4, 3/4, 0⟩]

def raisedTriangle : Vector (Vec3 ℚ) 10 :=
  #v[⟨0, 0, 0⟩, ⟨1/4, 0, 1/2⟩, ⟨0, 1/4, 0⟩, ⟨1/2, 0, 0⟩, ⟨1/4, 1/4, 0⟩, ⟨0, 1/2, 0⟩, ⟨3/4, 0, 0⟩,
    ⟨1/2, 1/4, 0⟩, ⟨1/4, 1/2, 0⟩, ⟨0, 3/4, 0⟩]

/-- A rendering that finished with nothing culled and with few vertices, as a check that can be
run. -/
theorem exists_rendering (size : VertexData ℚ → ℕ) {rendering : Option (VertexData ℚ × Bool)}
    (h : rendering.any (fun r => r.2 && decide (size r.1 ≤ 2 ^ 32)) = true) :
    ∃ data, rendering = some (data, true) ∧ size data ≤ 2 ^ 32 := by
  obtain ⟨⟨data, on⟩, rfl, hdata⟩ := (Option.any_eq_true _ _).mp h
  obtain ⟨rfl, hsize⟩ : on = true ∧ decide (size data ≤ 2 ^ 32) = true :=
    Bool.and_eq_true_iff.mp hdata
  exact ⟨data, rfl, of_decide_eq_true hsize⟩

/-- Whether the curves of an outline end can be evaluated. -/
theorem Outlines.of_all {res : ℚ} {edges : List (Vector (Vec3 ℚ) 4)} (depth : ℕ) (h : ∀ e ∈ edges,
    (BezierCurve.render depth identityView res 0 e : Option (VertexData ℚ × Bool)).any
      (fun r => r.2 && decide (r.1.materialVertices.length ≤ 2 ^ 32)) = true) :
    ∃ outline, Outlines res edges outline := by
  induction edges with
  | nil => exact ⟨[], .nil⟩
  | cons e edges ih =>
    obtain ⟨outline, houtline⟩ := ih fun e he => h e (List.mem_cons_of_mem _ he)
    obtain ⟨curve, hcurve, hsize⟩ :=
      exists_rendering (fun data => data.materialVertices.length) (h e List.mem_cons_self)
    exact ⟨curve :: outline, .cons ⟨depth, identityView, 0, hcurve, hsize⟩ houtline⟩

open BezierPatch in
/-- **What `OUTLINE` mode draws of a patch is the boundary of what `NORMAL` mode draws.** A
transparent patch and its edges, drawn at one resolution with nothing culled: every index refers to
a vertex, and the triangles of the patch are bounded by the segments of the curves. -/
theorem patch_bounded_by_outline {colors : Option (Vector (Vec4 K) 4)} {p : Vector (Vec3 K) 16}
    (h : render depth projViewMat res true colors word p = some (data, true))
    (hsize : data.colorVertices.length ≤ 2 ^ 32) {outline : List (VertexData K)}
    (houtline : Outlines res (BezierPatch.edges p) outline) :
    ∃ ts sss, data.Reads true (ts.flatMap Trigon.corners) ∧
      List.Forall₂ (fun curve ss => curve.Reads false (ss.flatMap BezierCurve.ends)) outline sss ∧
        ∀ {G : Type} [AddCommGroup G] (φ : SegmentSum (V := Vec3 K) Vec3.mid G),
          φ.boundary ts = (sss.map φ.sum).sum :=
  houtline.bound fun _ hn => reads_render h hsize hn

open BezierPatch in
theorem patch_bounded_by_outline_raised :
    ∃ (data : VertexData ℚ) (outline : List (VertexData ℚ)),
      render 8 identityView (1 / 4) true none 0 raisedPatch = some (data, true) ∧
      Outlines (1 / 4) (BezierPatch.edges raisedPatch) outline ∧
        ∃ ts sss, data.Reads true (ts.flatMap Trigon.corners) ∧
          List.Forall₂ (fun curve ss => curve.Reads false (ss.flatMap BezierCurve.ends))
            outline sss ∧
            ∀ {G : Type} [AddCommGroup G] (φ : SegmentSum (V := Vec3 ℚ) Vec3.mid G),
              φ.boundary ts = (sss.map φ.sum).sum := by
  obtain ⟨data, hdata, hsize⟩ := exists_rendering (fun data => data.colorVertices.length)
    (show (render 8 identityView (1 / 4) true none 0 raisedPatch).any _ = true by decide +kernel)
  obtain ⟨outline, houtline⟩ : ∃ outline,
    Outlines (1 / 4) (BezierPatch.edges raisedPatch) outline :=
    Outlines.of_all 8 (by decide +kernel)
  exact ⟨data, outline, hdata, houtline, patch_bounded_by_outline hdata hsize houtline⟩

open BezierTriangle in
/-- **What `OUTLINE` mode draws of a Bezier triangle** is the boundary of what `NORMAL` mode
draws. -/
theorem triangle_bounded_by_outline {colors : Option (Vector (Vec4 K) 3)} {p : Vector (Vec3 K) 10}
    (h : render depth projViewMat res true colors word p = some (data, true))
    (hsize : data.colorVertices.length ≤ 2 ^ 32) {outline : List (VertexData K)}
    (houtline : Outlines res (BezierTriangle.edges p) outline) :
    ∃ ts sss, data.Reads true (ts.flatMap Trigon.corners) ∧
      List.Forall₂ (fun curve ss => curve.Reads false (ss.flatMap BezierCurve.ends)) outline sss ∧
        ∀ {G : Type} [AddCommGroup G] (φ : SegmentSum (V := Vec3 K) Vec3.mid G),
          φ.boundary ts = (sss.map φ.sum).sum :=
  houtline.bound fun _ hn => reads_render h hsize hn

open BezierTriangle in
theorem triangle_bounded_by_outline_raised :
    ∃ (data : VertexData ℚ) (outline : List (VertexData ℚ)),
      render 8 identityView (1 / 4) true none 0 raisedTriangle = some (data, true) ∧
      Outlines (1 / 4) (BezierTriangle.edges raisedTriangle) outline ∧
        ∃ ts sss, data.Reads true (ts.flatMap Trigon.corners) ∧
          List.Forall₂ (fun curve ss => curve.Reads false (ss.flatMap BezierCurve.ends))
            outline sss ∧
            ∀ {G : Type} [AddCommGroup G] (φ : SegmentSum (V := Vec3 ℚ) Vec3.mid G),
              φ.boundary ts = (sss.map φ.sum).sum := by
  obtain ⟨data, hdata, hsize⟩ := exists_rendering (fun data => data.colorVertices.length)
    (show (render 8 identityView (1 / 4) true none 0 raisedTriangle).any _ = true by decide +kernel)
  obtain ⟨outline, houtline⟩ : ∃ outline,
    Outlines (1 / 4) (BezierTriangle.edges raisedTriangle) outline :=
    Outlines.of_all 8 (by decide +kernel)
  exact ⟨data, outline, hdata, houtline, triangle_bounded_by_outline hdata hsize houtline⟩

end Render

end OkularV3d
