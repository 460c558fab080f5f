import OkularV3d.Lib.Adaptive
import OkularV3d.Scene.Bezier

/-!
# Subdivision into triangles and segments

`BezierCurve::render`, `BezierPatch::render` and `BezierTriangle::render`: a piece that is flat
enough is drawn, one that is fully offscreen is left out, and any other one is split at its midpoint
and its parts are rendered in turn. The recursion is `Adaptive.run` of what the code does at one
piece, so a rendering is `none` exactly when it goes deeper than it is allowed to.

A piece carries the indices and the positions of its corners beside its control points: where an
edge of a surface is found to be flat, the corner put on it lies on the chord and no longer on the
surface.

* `straightness` and `flatness` are the tests for curves and surfaces, and `edgePoint` that of an
  edge.
* `CurvePiece`, `PatchPiece` and `TrianglePiece` are the parts that are rendered. `step` is what the
  code does at one of them, `start` the whole and `render` the recursion.
* `stepVertically`, `stepHorizontally` and `stepQuarters` are the splits of a patch.
* `mixColor` and `addVertex` make the vertices, with or without colours.
-/

namespace OkularV3d

variable {D F : Type} [Scalar D]

/-! ### `triple.h` -/

/-- `a <= b` of two floating-point numbers. -/
def Scalar.le (a b : D) : Bool := Scalar.lt a b || Scalar.eq a b

/-- `0.5*(a+b)`. -/
def Vec3.mid (a b : Vec3 D) : Vec3 D := Vec3.smul (Scalar.lit (1 / 2)) (a + b)

/-- `third`. -/
def third : D := Scalar.lit 1 / Scalar.lit 3

/-- `Straightness`: the distance squared of `c0` and `c1` from the control points of the segment. -/
def straightness (z0 c0 c1 z1 : Vec3 D) : D :=
  let v := Vec3.smul third (z1 - z0)
  Scalar.max (Vec3.abs2 (c0 - v - z0)) (Vec3.abs2 (z1 - v - c1))

/-- `Flatness`: one ninth of the relative flatness squared of `a--b` and `c--d`. -/
def flatness (a b c d : Vec3 D) : D :=
  let u := b - a
  let v := d - c
  Scalar.lit 1 / Scalar.lit 9 *
    Scalar.max (Vec3.abs2 (Vec3.cross u (Vec3.unit v))) (Vec3.abs2 (Vec3.cross v (Vec3.unit u)))

/-- `bezierPP`: half of the second derivative at 0. -/
def bezierPP (a b c : Vec3 D) : Vec3 D :=
  Vec3.smul (Scalar.lit 3) (a + c) - Vec3.smul (Scalar.lit 6) b

/-- `bezierPPP`: one sixth of the third derivative at 0. -/
def bezierPPP (a b c d : Vec3 D) : Vec3 D := d - a + Vec3.smul (Scalar.lit 3) (b - c)

/-- `bezierPh`: four thirds of the first derivative at one half. -/
def bezierPh (a b c d : Vec3 D) : Vec3 D := c + d - a - b

/-- `bezierPPh`: two thirds of the second derivative at one half. -/
def bezierPPh (a b c d : Vec3 D) : Vec3 D :=
  Vec3.smul (Scalar.lit 3) a - Vec3.smul (Scalar.lit 5) b + c + d

/-- `Split3`, and `Split` of `bound.h`: the points of de Casteljau's construction. -/
structure Split (T : Type) where
  m0 : T
  m2 : T
  m3 : T
  m4 : T
  m5 : T

/-- The constructor of `Split3` and `Split`, for a midpoint `0.5*(a+b)` of its own. -/
def Split.of {T : Type} (mid : T → T → T) (z0 c0 c1 z1 : T) : Split T :=
  let m0 := mid z0 c0
  let m1 := mid c0 c1
  let m2 := mid c1 z1
  let m3 := mid m0 m1
  let m4 := mid m1 m2
  ⟨m0, m2, m3, m4, mid m3 m4⟩

/-- `Split3`. -/
def split3 (z0 c0 c1 z1 : Vec3 D) : Split (Vec3 D) := Split.of Vec3.mid z0 c0 c1 z1

/-! ### What a rendering has made -/

/-- The geometry of a rendering so far, and whether nothing of it was offscreen (`Onscreen`). -/
structure Mesh (F : Type) where
  data : VertexData F
  onscreen : Bool

namespace Mesh

/-- A rendering that has not begun. -/
def init : Mesh F := ⟨.empty, true⟩

/-- `offscreen` found something to leave out. -/
def cull (M : Mesh F) : Mesh F := { M with onscreen := false }

/-- A segment or a triangle between the points `v :: vs`, unless it is offscreen. -/
def emit (projViewMat : Mat4 D) (v : Vec3 D) (vs : List (Vec3 D)) (indices : List UInt32)
    (M : Mesh F) : Mesh F :=
  if (BBox2.ofPoints projViewMat v vs).offscreen then M.cull
  else { M with data := { M.data with indices := M.data.indices ++ indices } }

variable [Scalar F] [Rounding D F]

/-- `addVertex` of a `MaterialVertex`. -/
def addMaterialVertex (pos norm : Vec3 D) (word : Int32) (M : Mesh F) : Mesh F × UInt32 :=
  ({ M with data :=
      { M.data with
        materialVertices := M.data.materialVertices ++ [⟨pos.narrow, norm.narrow, word⟩] } },
    UInt32.ofNat M.data.materialVertices.length)

/-- `addVertex` of a `ColorVertex`. -/
def addColorVertex (pos norm : Vec3 D) (word : Int32) (color : Vec4 F) (M : Mesh F) :
    Mesh F × UInt32 :=
  ({ M with data :=
      { M.data with
        colorVertices := M.data.colorVertices ++ [⟨pos.narrow, norm.narrow, word, color⟩] } },
    UInt32.ofNat M.data.colorVertices.length)

end Mesh

/-! ### `BezierCurve` -/

/-- A part of a curve, with the indices of its ends. -/
structure CurvePiece (D : Type) where
  p : Vector (Vec3 D) 4
  I0 : UInt32
  I1 : UInt32

/-- The members of `BezierCurve` its rendering reads, with the projection. -/
structure CurveSetting (D : Type) where
  projViewMat : Mat4 D
  res2 : D
  word : Int32

namespace BezierCurve

/-- `normal` of `beziercurve.cc`. -/
def normal (bP bPP : Vec3 D) : Vec3 D :=
  Vec3.smul (Vec3.dot bP bP) bPP - Vec3.smul (Vec3.dot bP bPP) bP

variable [Scalar F] [Rounding D F]

/-- `BezierCurve::render` at one piece. -/
def step (R : CurveSetting D) (c : CurvePiece D) (M : Mesh F) : Mesh F × List (CurvePiece D) :=
  let p0 := c.p.get 0
  let p1 := c.p.get 1
  let p2 := c.p.get 2
  let p3 := c.p.get 3
  if Scalar.lt (straightness p0 p1 p2 p3) R.res2 then
    (M.emit R.projViewMat p0 [p3] [c.I0, c.I1], [])
  else if (BBox2.ofPoints R.projViewMat p0 [p1, p2, p3]).offscreen then (M.cull, [])
  else
    let s := split3 p0 p1 p2 p3
    let n0 := normal (bezierPh p0 p1 p2 p3) (bezierPPh p0 p1 p2 p3)
    let added := M.addMaterialVertex s.m5 n0 R.word
    (added.1, [⟨#v[p0, s.m0, s.m3, s.m5], c.I0, added.2⟩,
      ⟨#v[s.m5, s.m4, s.m2, p3], added.2, c.I1⟩])

/-- `BezierCurve::init` and `BezierCurve::render`, for a curve that is not straight. -/
def render (depth : ℕ) (projViewMat : Mat4 D) (res : D) (word : Int32) (p : Vector (Vec3 D) 4) :
    Option (VertexData F × Bool) :=
  let p0 := p.get 0
  let p1 := p.get 1
  let p2 := p.get 2
  let p3 := p.get 3
  let n0 := normal (p1 - p0) (p0 + p2 - Vec3.smul (Scalar.lit 2) p1)
  let n1 := normal (p3 - p2) (p3 + p1 - Vec3.smul (Scalar.lit 2) p2)
  let first := Mesh.init.addMaterialVertex p0 n0 word
  let last := first.1.addMaterialVertex p3 n1 word
  (Adaptive.run (step ⟨projViewMat, res * res, word⟩) depth
    ⟨p, first.2, last.2⟩ last.1).map fun M =>
    (M.data, M.onscreen)

end BezierCurve

/-! ### Surfaces -/

/-- A corner of a part of a surface: its index, its (possibly adjusted) position and its colour. An
index is a `UInt32`, but what a surface is split into does not depend on what vertices are named
by. -/
structure SurfaceCorner (ι D F : Type) where
  I : ι
  P : Vec3 D
  C : Option (Vec4 F)

/-- The members of `BezierPatch` its rendering reads, with the projection. -/
structure SurfaceSetting (D : Type) where
  projViewMat : Mat4 D
  transparent : Bool
  word : Int32
  epsilon : D
  Epsilon : D
  res2 : D

/-- A midpoint of an edge, and whether the edge is flat. -/
structure EdgePoint (D : Type) where
  m : Vec3 D
  flat : Bool

namespace BezierPatch

/-- `FillFactor`. -/
def fillFactor : D := Scalar.lit (1 / 10)

/-- `BezierPatch::normal`. -/
def normal (epsilon : D) (left3 left2 left1 middle right1 right2 right3 : Vec3 D) : Vec3 D :=
  let lp := Vec3.smul (Scalar.lit 3) (left1 - middle)
  let rp := Vec3.smul (Scalar.lit 3) (right1 - middle)
  let n := Vec3.cross rp lp
  if Scalar.lt epsilon n.abs2 then n
  else
    let lpp := bezierPP middle left1 left2
    let rpp := bezierPP middle right1 right2
    let n := Vec3.cross rpp lp + Vec3.cross rp lpp
    if Scalar.lt epsilon n.abs2 then n
    else
      let lppp := bezierPPP middle left1 left2 left3
      let rppp := bezierPPP middle right1 right2 right3
      let n := Vec3.cross rpp lpp + Vec3.cross rppp lp + Vec3.cross rp lppp
      if Scalar.lt epsilon n.abs2 then n
      else
        let n := Vec3.cross rppp lpp + Vec3.cross rpp lppp
        if Scalar.lt epsilon n.abs2 then n else Vec3.cross rppp lppp

/-- The normal of a corner: the second and the third choice are taken where the one before them
vanishes. -/
def cornerNormal (epsilon : D) (n n' n'' : Vec3 D) : Vec3 D :=
  if Scalar.le n.abs2 epsilon then (if Scalar.le n'.abs2 epsilon then n'' else n') else n

/-- `BezierPatch::differential`: of the curve `p0`, `p1`, `p2`, `p3` at 0. -/
def differential (epsilon : D) (p0 p1 p2 p3 : Vec3 D) : Vec3 D :=
  let p := p1 - p0
  if Scalar.lt epsilon p.abs2 then p
  else
    let p := bezierPP p0 p1 p2
    if Scalar.lt epsilon p.abs2 then p else bezierPPP p0 p1 p2 p3

/-- `BezierPatch::Distance`: the horizontal and the vertical flatness. -/
def distance (p : Vector (Vec3 D) 16) : D × D :=
  let h := flatness (p.get 0) (p.get 12) (p.get 3) (p.get 15)
  let h := Scalar.max h (straightness (p.get 0) (p.get 4) (p.get 8) (p.get 12))
  let h := Scalar.max h (straightness (p.get 1) (p.get 5) (p.get 9) (p.get 13))
  let h := Scalar.max h (straightness (p.get 2) (p.get 6) (p.get 10) (p.get 14))
  let h := Scalar.max h (straightness (p.get 3) (p.get 7) (p.get 11) (p.get 15))
  let v := flatness (p.get 0) (p.get 3) (p.get 12) (p.get 15)
  let v := Scalar.max v (straightness (p.get 0) (p.get 1) (p.get 2) (p.get 3))
  let v := Scalar.max v (straightness (p.get 4) (p.get 5) (p.get 6) (p.get 7))
  let v := Scalar.max v (straightness (p.get 8) (p.get 9) (p.get 10) (p.get 11))
  let v := Scalar.max v (straightness (p.get 12) (p.get 13) (p.get 14) (p.get 15))
  (h, v)

/-- The point put on the edge between `P` and `Q`, "a kludge to remove subdivision cracks": the
point `m` of the edge, or that of the chord once the edge has been found to be flat. When it is
found to be, the point of an opaque surface is moved out, against the `outward` direction. -/
def edgePoint (R : SurfaceSetting D) (flat : Bool) (P Q : Vec3 D)
    (straight : D) (outward m : Vec3 D) :
    EdgePoint D :=
  if flat then ⟨Vec3.mid P Q, true⟩
  else if Scalar.lt straight R.res2 then
    ⟨if Scalar.eq R.Epsilon (Scalar.lit 0) then Vec3.mid P Q
      else Vec3.mid P Q - Vec3.smul R.Epsilon (Vec3.unit outward), true⟩
  else ⟨m, false⟩

variable [Scalar F] [Rounding D F]

/-- `0.5*(C[i]+C'[i])`, in `double` and back. -/
def mixColor (D : Type) [Scalar D] {F : Type} [Scalar F] [Rounding D F] (C C' : Vec4 F) : Vec4 F :=
  let half (a b : F) : F := Rounding.narrow (Scalar.lit (1 / 2) * Rounding.widen (a + b) : D)
  ⟨half C.r C'.r, half C.g C'.g, half C.b C'.b, half C.a C'.a⟩

/-- The colour halfway between two corners, if they have one. -/
def mixColors (D : Type) [Scalar D] {F : Type} [Scalar F] [Rounding D F] (C C' : Option (Vec4 F)) :
    Option (Vec4 F) :=
  C.bind fun c => C'.map (mixColor D c)

/-- `BezierPatch::addVertex<T, C>`: the corner with its index. -/
def addVertex (R : SurfaceSetting D) (pos norm : Vec3 D) (color : Option (Vec4 F)) (M : Mesh F) :
    Mesh F × SurfaceCorner UInt32 D F :=
  let added :=
    match color with
    | some c => M.addColorVertex pos norm R.word c
    | none =>
      if R.transparent then
        M.addColorVertex pos norm R.word ⟨Scalar.lit 0, Scalar.lit 0, Scalar.lit 0, Scalar.lit 0⟩
      else M.addMaterialVertex pos norm R.word
  (added.1, ⟨added.2, pos, color⟩)

/-- A triangle between three corners, unless it is offscreen. -/
def emitTriangle (R : SurfaceSetting D) (a b c : SurfaceCorner UInt32 D F) (M : Mesh F) : Mesh F :=
  M.emit R.projViewMat a.P [b.P, c.P] [a.I, b.I, c.I]

end BezierPatch

/-- A part of a patch: its control points, its corners counterclockwise from `p[0]`, and the
flatness flags of its edges, from corner to corner. -/
structure PatchPiece (ι D F : Type) where
  p : Vector (Vec3 D) 16
  c0 : SurfaceCorner ι D F
  c1 : SurfaceCorner ι D F
  c2 : SurfaceCorner ι D F
  c3 : SurfaceCorner ι D F
  flat0 : Bool
  flat1 : Bool
  flat2 : Bool
  flat3 : Bool

namespace BezierPatch

/-- The lower and the upper half of a patch. -/
def splitVertically (p : Vector (Vec3 D) 16) : Vector (Vec3 D) 16 × Vector (Vec3 D) 16 :=
  let c0 := split3 (p.get 0) (p.get 1) (p.get 2) (p.get 3)
  let c1 := split3 (p.get 4) (p.get 5) (p.get 6) (p.get 7)
  let c2 := split3 (p.get 8) (p.get 9) (p.get 10) (p.get 11)
  let c3 := split3 (p.get 12) (p.get 13) (p.get 14) (p.get 15)
  (#v[p.get 0, c0.m0, c0.m3, c0.m5,
      p.get 4, c1.m0, c1.m3, c1.m5,
      p.get 8, c2.m0, c2.m3, c2.m5,
      p.get 12, c3.m0, c3.m3, c3.m5],
    #v[c0.m5, c0.m4, c0.m2, p.get 3,
      c1.m5, c1.m4, c1.m2, p.get 7,
      c2.m5, c2.m4, c2.m2, p.get 11,
      c3.m5, c3.m4, c3.m2, p.get 15])

/-- The left and the right half of a patch. -/
def splitHorizontally (p : Vector (Vec3 D) 16) : Vector (Vec3 D) 16 × Vector (Vec3 D) 16 :=
  let c0 := split3 (p.get 0) (p.get 4) (p.get 8) (p.get 12)
  let c1 := split3 (p.get 1) (p.get 5) (p.get 9) (p.get 13)
  let c2 := split3 (p.get 2) (p.get 6) (p.get 10) (p.get 14)
  let c3 := split3 (p.get 3) (p.get 7) (p.get 11) (p.get 15)
  (#v[p.get 0, p.get 1, p.get 2, p.get 3,
      c0.m0, c1.m0, c2.m0, c3.m0,
      c0.m3, c1.m3, c2.m3, c3.m3,
      c0.m5, c1.m5, c2.m5, c3.m5],
    #v[c0.m5, c1.m5, c2.m5, c3.m5,
      c0.m4, c1.m4, c2.m4, c3.m4,
      c0.m2, c1.m2, c2.m2, c3.m2,
      p.get 12, p.get 13, p.get 14, p.get 15])

/-- The quarters of a patch, counterclockwise from the corner `p[0]`. -/
structure Quarters (D : Type) where
  s0 : Vector (Vec3 D) 16
  s1 : Vector (Vec3 D) 16
  s2 : Vector (Vec3 D) 16
  s3 : Vector (Vec3 D) 16

/-- The horizontal and vertical subdivision. -/
def quarters (p : Vector (Vec3 D) 16) : Quarters D :=
  let c0 := split3 (p.get 0) (p.get 1) (p.get 2) (p.get 3)
  let c1 := split3 (p.get 4) (p.get 5) (p.get 6) (p.get 7)
  let c2 := split3 (p.get 8) (p.get 9) (p.get 10) (p.get 11)
  let c3 := split3 (p.get 12) (p.get 13) (p.get 14) (p.get 15)
  let c4 := split3 (p.get 0) (p.get 4) (p.get 8) (p.get 12)
  let c5 := split3 c0.m0 c1.m0 c2.m0 c3.m0
  let c6 := split3 c0.m3 c1.m3 c2.m3 c3.m3
  let c7 := split3 c0.m5 c1.m5 c2.m5 c3.m5
  let c8 := split3 c0.m4 c1.m4 c2.m4 c3.m4
  let c9 := split3 c0.m2 c1.m2 c2.m2 c3.m2
  let c10 := split3 (p.get 3) (p.get 7) (p.get 11) (p.get 15)
  { s0 := #v[p.get 0, c0.m0, c0.m3, c0.m5, c4.m0, c5.m0, c6.m0, c7.m0,
      c4.m3, c5.m3, c6.m3, c7.m3, c4.m5, c5.m5, c6.m5, c7.m5]
    s1 := #v[c4.m5, c5.m5, c6.m5, c7.m5, c4.m4, c5.m4, c6.m4, c7.m4,
      c4.m2, c5.m2, c6.m2, c7.m2, p.get 12, c3.m0, c3.m3, c3.m5]
    s2 := #v[c7.m5, c8.m5, c9.m5, c10.m5, c7.m4, c8.m4, c9.m4, c10.m4,
      c7.m2, c8.m2, c9.m2, c10.m2, c3.m5, c3.m4, c3.m2, p.get 15]
    s3 := #v[c0.m5, c0.m4, c0.m2, p.get 3, c7.m0, c8.m0, c9.m0, c10.m0,
      c7.m3, c8.m3, c9.m3, c10.m3, c7.m5, c8.m5, c9.m5, c10.m5] }

variable [Scalar F] [Rounding D F]

/-- The straightness of the edge of a piece from `c0` to `c1`, and so on around it. -/
def edge0 (p : Vector (Vec3 D) 16) : D := straightness (p.get 0) (p.get 4) (p.get 8) (p.get 12)

def edge1 (p : Vector (Vec3 D) 16) : D := straightness (p.get 12) (p.get 13) (p.get 14) (p.get 15)

def edge2 (p : Vector (Vec3 D) 16) : D := straightness (p.get 15) (p.get 11) (p.get 7) (p.get 3)

def edge3 (p : Vector (Vec3 D) 16) : D := straightness (p.get 0) (p.get 1) (p.get 2) (p.get 3)

/-- A patch that is flat in the horizontal direction only is split vertically. -/
def stepVertically {ι S : Type}
    (add : Vec3 D → Vec3 D → Option (Vec4 F) → S → S × SurfaceCorner ι D F)
    (R : SurfaceSetting D) (s : PatchPiece ι D F) (M : S) : S × List (PatchPiece ι D F) :=
  let s0 := (splitVertically s.p).1
  let s1 := (splitVertically s.p).2
  let n0 := cornerNormal R.epsilon
    (normal R.epsilon (s0.get 12) (s0.get 13) (s0.get 14) (s0.get 15)
      (s0.get 11) (s0.get 7) (s0.get 3))
    (normal R.epsilon (s0.get 12) (s0.get 13) (s0.get 14) (s0.get 15)
      (s0.get 2) (s0.get 1) (s0.get 0))
    (normal R.epsilon (s0.get 0) (s0.get 4) (s0.get 8) (s0.get 12)
      (s0.get 11) (s0.get 7) (s0.get 3))
  let n1 := cornerNormal R.epsilon
    (normal R.epsilon (s1.get 3) (s1.get 2) (s1.get 1) (s1.get 0) (s1.get 4) (s1.get 8) (s1.get 12))
    (normal R.epsilon (s1.get 3) (s1.get 2) (s1.get 1) (s1.get 0) (s1.get 13)
      (s1.get 14) (s1.get 15))
    (normal R.epsilon (s1.get 15) (s1.get 11) (s1.get 7) (s1.get 3)
      (s1.get 4) (s1.get 8) (s1.get 12))
  let m0 := edgePoint R s.flat1 s.c1.P s.c2.P (edge1 s.p)
    (differential R.epsilon (s1.get 12) (s1.get 8) (s1.get 4) (s1.get 0)) (s0.get 15)
  let m1 := edgePoint R s.flat3 s.c3.P s.c0.P (edge3 s.p)
    (differential R.epsilon (s0.get 3) (s0.get 7) (s0.get 11) (s0.get 15)) (s1.get 0)
  let i0 := add m0.m n0 (mixColors D s.c1.C s.c2.C) M
  let i1 := add m1.m n1 (mixColors D s.c3.C s.c0.C) i0.1
  (i1.1, [⟨s0, s.c0, s.c1, i0.2, i1.2, s.flat0, m0.flat, false, m1.flat⟩,
    ⟨s1, i1.2, i0.2, s.c2, s.c3, false, m0.flat, s.flat2, m1.flat⟩])

/-- A patch that is flat in the vertical direction only is split horizontally. -/
def stepHorizontally {ι S : Type}
    (add : Vec3 D → Vec3 D → Option (Vec4 F) → S → S × SurfaceCorner ι D F)
    (R : SurfaceSetting D) (s : PatchPiece ι D F) (M : S) : S × List (PatchPiece ι D F) :=
  let s0 := (splitHorizontally s.p).1
  let s1 := (splitHorizontally s.p).2
  let n0 := cornerNormal R.epsilon
    (normal R.epsilon (s0.get 0) (s0.get 4) (s0.get 8) (s0.get 12) (s0.get 13)
      (s0.get 14) (s0.get 15))
    (normal R.epsilon (s0.get 0) (s0.get 4) (s0.get 8) (s0.get 12)
      (s0.get 11) (s0.get 7) (s0.get 3))
    (normal R.epsilon (s0.get 3) (s0.get 2) (s0.get 1) (s0.get 0) (s0.get 13)
      (s0.get 14) (s0.get 15))
  let n1 := cornerNormal R.epsilon
    (normal R.epsilon (s1.get 15) (s1.get 11) (s1.get 7) (s1.get 3)
      (s1.get 2) (s1.get 1) (s1.get 0))
    (normal R.epsilon (s1.get 15) (s1.get 11) (s1.get 7) (s1.get 3)
      (s1.get 4) (s1.get 8) (s1.get 12))
    (normal R.epsilon (s1.get 12) (s1.get 13) (s1.get 14) (s1.get 15)
      (s1.get 2) (s1.get 1) (s1.get 0))
  let m0 := edgePoint R s.flat0 s.c0.P s.c1.P (edge0 s.p)
    (differential R.epsilon (s1.get 0) (s1.get 1) (s1.get 2) (s1.get 3)) (s0.get 12)
  let m1 := edgePoint R s.flat2 s.c2.P s.c3.P (edge2 s.p)
    (differential R.epsilon (s0.get 15) (s0.get 14) (s0.get 13) (s0.get 12)) (s1.get 3)
  let i0 := add m0.m n0 (mixColors D s.c0.C s.c1.C) M
  let i1 := add m1.m n1 (mixColors D s.c2.C s.c3.C) i0.1
  (i1.1, [⟨s0, s.c0, i0.2, i1.2, s.c3, m0.flat, false, m1.flat, s.flat3⟩,
    ⟨s1, i0.2, s.c1, s.c2, i1.2, m0.flat, s.flat1, m1.flat, false⟩])

/-- Any other patch is split in both directions. -/
def stepQuarters {ι S : Type}
    (add : Vec3 D → Vec3 D → Option (Vec4 F) → S → S × SurfaceCorner ι D F)
    (R : SurfaceSetting D) (s : PatchPiece ι D F) (M : S) : S × List (PatchPiece ι D F) :=
  let s0 := (quarters s.p).s0
  let s1 := (quarters s.p).s1
  let s2 := (quarters s.p).s2
  let s3 := (quarters s.p).s3
  let m4 := s0.get 15
  let n0 := cornerNormal R.epsilon
    (normal R.epsilon (s0.get 0) (s0.get 4) (s0.get 8) (s0.get 12) (s0.get 13)
      (s0.get 14) (s0.get 15))
    (normal R.epsilon (s0.get 0) (s0.get 4) (s0.get 8) (s0.get 12)
      (s0.get 11) (s0.get 7) (s0.get 3))
    (normal R.epsilon (s0.get 3) (s0.get 2) (s0.get 1) (s0.get 0) (s0.get 13)
      (s0.get 14) (s0.get 15))
  let n1 := cornerNormal R.epsilon
    (normal R.epsilon (s1.get 12) (s1.get 13) (s1.get 14) (s1.get 15)
      (s1.get 11) (s1.get 7) (s1.get 3))
    (normal R.epsilon (s1.get 12) (s1.get 13) (s1.get 14) (s1.get 15)
      (s1.get 2) (s1.get 1) (s1.get 0))
    (normal R.epsilon (s1.get 0) (s1.get 4) (s1.get 8) (s1.get 12)
      (s1.get 11) (s1.get 7) (s1.get 3))
  let n2 := cornerNormal R.epsilon
    (normal R.epsilon (s2.get 15) (s2.get 11) (s2.get 7) (s2.get 3)
      (s2.get 2) (s2.get 1) (s2.get 0))
    (normal R.epsilon (s2.get 15) (s2.get 11) (s2.get 7) (s2.get 3)
      (s2.get 4) (s2.get 8) (s2.get 12))
    (normal R.epsilon (s2.get 12) (s2.get 13) (s2.get 14) (s2.get 15)
      (s2.get 2) (s2.get 1) (s2.get 0))
  let n3 := cornerNormal R.epsilon
    (normal R.epsilon (s3.get 3) (s3.get 2) (s3.get 1) (s3.get 0) (s3.get 4) (s3.get 8) (s3.get 12))
    (normal R.epsilon (s3.get 3) (s3.get 2) (s3.get 1) (s3.get 0) (s3.get 13)
      (s3.get 14) (s3.get 15))
    (normal R.epsilon (s3.get 15) (s3.get 11) (s3.get 7) (s3.get 3)
      (s3.get 4) (s3.get 8) (s3.get 12))
  let n4 := normal R.epsilon (s2.get 3) (s2.get 2) (s2.get 1) m4 (s2.get 4) (s2.get 8) (s2.get 12)
  let m0 := edgePoint R s.flat0 s.c0.P s.c1.P (edge0 s.p)
    (differential R.epsilon (s1.get 0) (s1.get 1) (s1.get 2) (s1.get 3)) (s0.get 12)
  let m1 := edgePoint R s.flat1 s.c1.P s.c2.P (edge1 s.p)
    (differential R.epsilon (s2.get 12) (s2.get 8) (s2.get 4) (s2.get 0)) (s1.get 15)
  let m2 := edgePoint R s.flat2 s.c2.P s.c3.P (edge2 s.p)
    (differential R.epsilon (s3.get 15) (s3.get 14) (s3.get 13) (s3.get 12)) (s2.get 3)
  let m3 := edgePoint R s.flat3 s.c3.P s.c0.P (edge3 s.p)
    (differential R.epsilon (s0.get 3) (s0.get 7) (s0.get 11) (s0.get 15)) (s3.get 0)
  let c0 := mixColors D s.c0.C s.c1.C
  let c2 := mixColors D s.c2.C s.c3.C
  let i0 := add m0.m n0 c0 M
  let i1 := add m1.m n1 (mixColors D s.c1.C s.c2.C) i0.1
  let i2 := add m2.m n2 c2 i1.1
  let i3 := add m3.m n3 (mixColors D s.c3.C s.c0.C) i2.1
  let i4 := add m4 n4 (mixColors D c0 c2) i3.1
  (i4.1, [⟨s0, s.c0, i0.2, i4.2, i3.2, m0.flat, false, false, m3.flat⟩,
    ⟨s1, i0.2, s.c1, i1.2, i4.2, m0.flat, m1.flat, false, false⟩,
    ⟨s2, i4.2, i1.2, s.c2, i2.2, false, m1.flat, m2.flat, false⟩,
    ⟨s3, i3.2, i4.2, i2.2, s.c3, false, false, m2.flat, m3.flat⟩])

/-- `BezierPatch::render<T, C>` at one piece. -/
def step (R : SurfaceSetting D) (s : PatchPiece UInt32 D F) (M : Mesh F) :
    Mesh F × List (PatchPiece UInt32 D F) :=
  let d := distance s.p
  if Scalar.lt d.1 R.res2 && Scalar.lt d.2 R.res2 then
    (emitTriangle R s.c0 s.c2 s.c3 (emitTriangle R s.c0 s.c1 s.c2 M), [])
  else if (BBox2.ofPoints R.projViewMat (s.p.get 0) s.p.toList.tail).offscreen then (M.cull, [])
  else if Scalar.lt d.1 R.res2 then stepVertically (addVertex R) R s M
  else if Scalar.lt d.2 R.res2 then stepHorizontally (addVertex R) R s M
  else stepQuarters (addVertex R) R s M

/-- `DBL_EPSILON`. -/
def dblEpsilon : D := Scalar.lit (1 / 2 ^ 52)

/-- The members a rendering sets: those of `init`, and the `epsilon` of the control points
`p0 :: ps`. -/
def setting (projViewMat : Mat4 D) (res : D) (transparent : Bool) (word : Int32) (p0 : Vec3 D)
    (ps : List (Vec3 D)) : SurfaceSetting D where
  projViewMat := projViewMat
  transparent := transparent
  word := word
  epsilon :=
    ps.foldl (fun epsilon q => Scalar.max epsilon (Vec3.abs2 (q - p0))) (Scalar.lit 0) * dblEpsilon
  Epsilon := if transparent then Scalar.lit 0 else fillFactor * res
  res2 := res * res

/-- The corners of the whole patch. -/
def start {ι S : Type} (add : Vec3 D → Vec3 D → Option (Vec4 F) → S → S × SurfaceCorner ι D F)
    (R : SurfaceSetting D) (colors : Option (Vector (Vec4 F) 4)) (p : Vector (Vec3 D) 16) (M : S) :
    S × PatchPiece ι D F :=
  let p0 := p.get 0
  let p3 := p.get 3
  let p12 := p.get 12
  let p15 := p.get 15
  let n0 := cornerNormal R.epsilon
    (normal R.epsilon p3 (p.get 2) (p.get 1) p0 (p.get 4) (p.get 8) p12)
    (normal R.epsilon p3 (p.get 2) (p.get 1) p0 (p.get 13) (p.get 14) p15)
    (normal R.epsilon p15 (p.get 11) (p.get 7) p3 (p.get 4) (p.get 8) p12)
  let n1 := cornerNormal R.epsilon
    (normal R.epsilon p0 (p.get 4) (p.get 8) p12 (p.get 13) (p.get 14) p15)
    (normal R.epsilon p0 (p.get 4) (p.get 8) p12 (p.get 11) (p.get 7) p3)
    (normal R.epsilon p3 (p.get 2) (p.get 1) p0 (p.get 13) (p.get 14) p15)
  let n2 := cornerNormal R.epsilon
    (normal R.epsilon p12 (p.get 13) (p.get 14) p15 (p.get 11) (p.get 7) p3)
    (normal R.epsilon p12 (p.get 13) (p.get 14) p15 (p.get 2) (p.get 1) p0)
    (normal R.epsilon p0 (p.get 4) (p.get 8) p12 (p.get 11) (p.get 7) p3)
  let n3 := cornerNormal R.epsilon
    (normal R.epsilon p15 (p.get 11) (p.get 7) p3 (p.get 2) (p.get 1) p0)
    (normal R.epsilon p15 (p.get 11) (p.get 7) p3 (p.get 4) (p.get 8) p12)
    (normal R.epsilon p12 (p.get 13) (p.get 14) p15 (p.get 2) (p.get 1) p0)
  let i0 := add p0 n0 (colors.map fun c => c.get 0) M
  let i1 := add p12 n1 (colors.map fun c => c.get 1) i0.1
  let i2 := add p15 n2 (colors.map fun c => c.get 2) i1.1
  let i3 := add p3 n3 (colors.map fun c => c.get 3) i2.1
  (i3.1, ⟨p, i0.2, i1.2, i2.2, i3.2, false, false, false, false⟩)

/-- `BezierPatch::render`, of a patch that is not straight. -/
def render (depth : ℕ) (projViewMat : Mat4 D) (res : D) (transparent : Bool)
    (colors : Option (Vector (Vec4 F) 4)) (word : Int32) (p : Vector (Vec3 D) 16) :
    Option (VertexData F × Bool) :=
  let R := setting projViewMat res transparent word (p.get 0) p.toList.tail
  let started := start (addVertex R) R colors p Mesh.init
  (Adaptive.run (step R) depth started.2 started.1).map fun M => (M.data, M.onscreen)

end BezierPatch

/-- A part of a Bezier triangle: its control points, its corners `p[0]`, `p[6]`, `p[9]`, and the
flatness flags of the edges opposite to them. -/
structure TrianglePiece (ι D F : Type) where
  p : Vector (Vec3 D) 10
  c0 : SurfaceCorner ι D F
  c1 : SurfaceCorner ι D F
  c2 : SurfaceCorner ι D F
  flat0 : Bool
  flat1 : Bool
  flat2 : Bool

/-- The parts of a Bezier triangle. -/
structure SplitTriangle (T : Type) where
  l : Vector T 10
  r : Vector T 10
  u : Vector T 10
  c : Vector T 10

/-- `Splittri` of `bound.h`, and the subdivision of `BezierTriangle::render`, for the operations
`0.5*(a+b)`, `0.5*a+0.25*(b+c)` and `0.25*(a+b+c+d)` of the type of points. -/
def SplitTriangle.of {T : Type} (mid : T → T → T) (mid3 : T → T → T → T) (mid4 : T → T → T → T → T)
    (p : Vector T 10) : SplitTriangle T :=
  let l003 := p.get 0
  let p102 := p.get 1
  let p012 := p.get 2
  let p201 := p.get 3
  let p111 := p.get 4
  let p021 := p.get 5
  let r300 := p.get 6
  let p210 := p.get 7
  let p120 := p.get 8
  let u030 := p.get 9
  let u021 := mid u030 p021
  let u120 := mid u030 p120
  let p033 := mid p021 p012
  let p231 := mid p120 p111
  let p330 := mid p120 p210
  let p123 := mid p012 p111
  let l012 := mid p012 l003
  let p312 := mid p111 p201
  let r210 := mid p210 r300
  let l102 := mid l003 p102
  let p303 := mid p102 p201
  let r201 := mid p201 r300
  let u012 := mid u021 p033
  let u210 := mid u120 p330
  let l021 := mid p033 l012
  let p4xx := mid3 p231 p111 p102
  let r120 := mid p330 r210
  let px4x := mid3 p123 p111 p210
  let pxx4 := mid3 p312 p021 p111
  let l201 := mid l102 p303
  let r102 := mid p303 r201
  let l210 := mid px4x l201
  let r012 := mid px4x r102
  let l300 := mid l201 r102
  let r021 := mid pxx4 r120
  let u201 := mid u210 pxx4
  let r030 := mid u210 r120
  let u102 := mid u012 p4xx
  let l120 := mid l021 p4xx
  let l030 := mid u012 l021
  let l111 := mid p123 l102
  let r111 := mid p312 r210
  let u111 := mid u021 p231
  let c111 := mid4 p033 p330 p303 p111
  { l := #v[l003, l102, l012, l201, l111, l021, l300, l210, l120, l030]
    r := #v[l300, r102, r012, r201, r111, r021, r300, r210, r120, r030]
    u := #v[l030, u102, u012, u201, u111, u021, r030, u210, u120, u030]
    c := #v[r030, u201, r021, u102, c111, r012, l030, l120, l210, l300] }

namespace BezierTriangle

open BezierPatch

/-- `0.5*a+0.25*(b+c)`. -/
def mid3 (a b c : Vec3 D) : Vec3 D :=
  Vec3.smul (Scalar.lit (1 / 2)) a + Vec3.smul (Scalar.lit (1 / 4)) (b + c)

/-- `0.25*(a+b+c+d)`. -/
def mid4 (a b c d : Vec3 D) : Vec3 D := Vec3.smul (Scalar.lit (1 / 4)) (a + b + c + d)

/-- The subdivision of a Bezier triangle. -/
def split (p : Vector (Vec3 D) 10) : SplitTriangle (Vec3 D) := .of Vec3.mid mid3 mid4 p

/-- `BezierTriangle::Distance`. -/
def distance (p : Vector (Vec3 D) 10) : D :=
  let d := Vec3.abs2 (Vec3.smul third (p.get 0 + p.get 6 + p.get 9) - p.get 4)
  let d := Scalar.max d (straightness (p.get 0) (p.get 1) (p.get 3) (p.get 6))
  let d := Scalar.max d (straightness (p.get 0) (p.get 2) (p.get 5) (p.get 9))
  Scalar.max d (straightness (p.get 6) (p.get 7) (p.get 8) (p.get 9))

variable [Scalar F] [Rounding D F]

/-- A Bezier triangle is split at the midpoints of its edges. -/
def stepQuarters {ι S : Type}
    (add : Vec3 D → Vec3 D → Option (Vec4 F) → S → S × SurfaceCorner ι D F)
    (R : SurfaceSetting D) (s : TrianglePiece ι D F) (M : S) : S × List (TrianglePiece ι D F) :=
  let p := s.p
  let l := (split p).l
  let r := (split p).r
  let u := (split p).u
  let c := (split p).c
  let n0 := normal R.epsilon (l.get 6) (r.get 2) (r.get 5) (r.get 9) (u.get 3) (u.get 1) (l.get 9)
  let n1 := normal R.epsilon (r.get 9) (u.get 3) (u.get 1) (l.get 9) (l.get 8) (l.get 7) (l.get 6)
  let n2 := normal R.epsilon (l.get 9) (l.get 8) (l.get 7) (l.get 6) (r.get 2) (r.get 5) (r.get 9)
  let m0 := edgePoint R s.flat0 s.c1.P s.c2.P
    (straightness (p.get 6) (p.get 7) (p.get 8) (p.get 9))
    (differential R.epsilon (c.get 0) (c.get 2) (c.get 5) (c.get 9) +
      differential R.epsilon (c.get 0) (c.get 1) (c.get 3) (c.get 6)) (r.get 9)
  let m1 := edgePoint R s.flat1 s.c2.P s.c0.P
    (straightness (p.get 0) (p.get 2) (p.get 5) (p.get 9))
    (differential R.epsilon (c.get 6) (c.get 3) (c.get 1) (c.get 0) +
      differential R.epsilon (c.get 6) (c.get 7) (c.get 8) (c.get 9)) (l.get 9)
  let m2 := edgePoint R s.flat2 s.c0.P s.c1.P
    (straightness (p.get 0) (p.get 1) (p.get 3) (p.get 6))
    (differential R.epsilon (c.get 9) (c.get 8) (c.get 7) (c.get 6) +
      differential R.epsilon (c.get 9) (c.get 5) (c.get 2) (c.get 0)) (l.get 6)
  let i0 := add m0.m n0 (mixColors D s.c1.C s.c2.C) M
  let i1 := add m1.m n1 (mixColors D s.c2.C s.c0.C) i0.1
  let i2 := add m2.m n2 (mixColors D s.c0.C s.c1.C) i1.1
  (i2.1, [⟨l, s.c0, i2.2, i1.2, false, m1.flat, m2.flat⟩,
    ⟨r, i2.2, s.c1, i0.2, m0.flat, false, m2.flat⟩,
    ⟨u, i1.2, i0.2, s.c2, m0.flat, m1.flat, false⟩,
    ⟨c, i0.2, i1.2, i2.2, false, false, false⟩])

/-- `BezierTriangle::render<T, C>` at one piece. -/
def step (R : SurfaceSetting D) (s : TrianglePiece UInt32 D F) (M : Mesh F) :
    Mesh F × List (TrianglePiece UInt32 D F) :=
  if Scalar.lt (distance s.p) R.res2 then (emitTriangle R s.c0 s.c1 s.c2 M, [])
  else if (BBox2.ofPoints R.projViewMat (s.p.get 0) s.p.toList.tail).offscreen then (M.cull, [])
  else stepQuarters (addVertex R) R s M

/-- The corners of the whole triangle. -/
def start {ι S : Type} (add : Vec3 D → Vec3 D → Option (Vec4 F) → S → S × SurfaceCorner ι D F)
    (R : SurfaceSetting D) (colors : Option (Vector (Vec4 F) 3)) (p : Vector (Vec3 D) 10) (M : S) :
    S × TrianglePiece ι D F :=
  let p0 := p.get 0
  let p6 := p.get 6
  let p9 := p.get 9
  let n0 := normal R.epsilon p9 (p.get 5) (p.get 2) p0 (p.get 1) (p.get 3) p6
  let n1 := normal R.epsilon p0 (p.get 1) (p.get 3) p6 (p.get 7) (p.get 8) p9
  let n2 := normal R.epsilon p6 (p.get 7) (p.get 8) p9 (p.get 5) (p.get 2) p0
  let i0 := add p0 n0 (colors.map fun c => c.get 0) M
  let i1 := add p6 n1 (colors.map fun c => c.get 1) i0.1
  let i2 := add p9 n2 (colors.map fun c => c.get 2) i1.1
  (i2.1, ⟨p, i0.2, i1.2, i2.2, false, false, false⟩)

/-- `BezierTriangle::render`, of a triangle that is not straight. -/
def render (depth : ℕ) (projViewMat : Mat4 D) (res : D) (transparent : Bool)
    (colors : Option (Vector (Vec4 F) 3)) (word : Int32) (p : Vector (Vec3 D) 10) :
    Option (VertexData F × Bool) :=
  let R := setting projViewMat res transparent word (p.get 0) p.toList.tail
  let started := start (addVertex R) R colors p Mesh.init
  (Adaptive.run (step R) depth started.2 started.1).map fun M => (M.data, M.onscreen)

end BezierTriangle

end OkularV3d
