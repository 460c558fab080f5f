import OkularV3d.Scene.Tessellate

/-!
# The bounds of curves and surfaces

`bound.cc`: the least and the greatest value of one coordinate, found by subdivision. A piece whose
control points exceed the best value found so far by no more than a tolerance is not looked at
further; the tolerance (`fuzz`) doubles from a piece to its parts. `V3dObjects.cpp` calls it once
for each coordinate and for each of `min` and `max`, and culls an object whose box is offscreen.

The recursion is on `depth`, as in the code.

* `bound` and `boundtri` are the searches for patches and Bezier triangles; `settled` is the test by
  which a piece is given up, and `cornerbound` and `controlbound` are the two bounds it compares.
* `ratiobound` is the search for curves.
* `patchBounds`, `triangleBounds` and `curveBounds` are the boxes that the objects ask for.

What the boxes are good for is proved in `OkularV3d.Scene.BoundAccuracy`.
-/

namespace OkularV3d

variable {D : Type} [Scalar D]

/-- The functions `bound` is called with. -/
inductive Extremum where
  | min
  | max
  deriving DecidableEq, Repr

/-- `min` and `max` of `bbox.h`. -/
def Extremum.of : Extremum → D → D → D
  | min, a, b => if Scalar.lt a b then a else b
  | max, a, b => if Scalar.lt b a then a else b

namespace Bound

/-- `Fuzz2`. -/
def fuzz2 : D := Scalar.lit 1000 * BezierPatch.dblEpsilon

/-- `Fuzz`. -/
def fuzz : D := Scalar.sqrt fuzz2

/-- `maxdepth`: the digits of a `double`. -/
def maxdepth : ℕ := 53

/-- `run::norm`. -/
def norm (a : List D) : D :=
  a.foldl (fun result v =>
    let v := if Scalar.lt v (Scalar.lit 0) then -v else v
    if Scalar.lt result v then v else result) (Scalar.lit 0)

/-- Whether the search goes no further, with the best value `b`:
`m(-1.0,1.0)*(b-control) >= -fuzz`. -/
def settled (m : Extremum) (b control fuzz : D) : Bool :=
  Scalar.le (-fuzz) (m.of (-Scalar.lit 1) (Scalar.lit 1) * (b - control))

/-- `0.5*(a+b)`. -/
def half (a b : D) : D := Scalar.lit (1 / 2) * (a + b)

/-! ### Patches -/

/-- `cornerbound`. -/
def cornerbound (P : Vector D 16) (m : Extremum) : D :=
  let b := m.of (P.get 0) (P.get 3)
  let b := m.of b (P.get 12)
  m.of b (P.get 15)

/-- `controlbound`. -/
def controlbound (P : Vector D 16) (m : Extremum) : D :=
  let b := m.of (P.get 1) (P.get 2)
  let b := m.of b (P.get 4)
  let b := m.of b (P.get 5)
  let b := m.of b (P.get 6)
  let b := m.of b (P.get 7)
  let b := m.of b (P.get 8)
  let b := m.of b (P.get 9)
  let b := m.of b (P.get 10)
  let b := m.of b (P.get 11)
  let b := m.of b (P.get 13)
  m.of b (P.get 14)

/-- The quarters of a patch, in the order in which `bound` looks at them. -/
def quarters (P : Vector D 16) : List (Vector D 16) :=
  let c0 := Split.of half (P.get 0) (P.get 1) (P.get 2) (P.get 3)
  let c1 := Split.of half (P.get 4) (P.get 5) (P.get 6) (P.get 7)
  let c2 := Split.of half (P.get 8) (P.get 9) (P.get 10) (P.get 11)
  let c3 := Split.of half (P.get 12) (P.get 13) (P.get 14) (P.get 15)
  let c4 := Split.of half (P.get 12) (P.get 8) (P.get 4) (P.get 0)
  let c5 := Split.of half c3.m0 c2.m0 c1.m0 c0.m0
  let c6 := Split.of half c3.m3 c2.m3 c1.m3 c0.m3
  let c7 := Split.of half c3.m5 c2.m5 c1.m5 c0.m5
  let c8 := Split.of half c3.m4 c2.m4 c1.m4 c0.m4
  let c9 := Split.of half c3.m2 c2.m2 c1.m2 c0.m2
  let c10 := Split.of half (P.get 15) (P.get 11) (P.get 7) (P.get 3)
  [#v[c4.m5, c5.m5, c6.m5, c7.m5, c4.m3, c5.m3, c6.m3, c7.m3,
      c4.m0, c5.m0, c6.m0, c7.m0, P.get 12, c3.m0, c3.m3, c3.m5],
    #v[P.get 0, c0.m0, c0.m3, c0.m5, c4.m2, c5.m2, c6.m2, c7.m2,
      c4.m4, c5.m4, c6.m4, c7.m4, c4.m5, c5.m5, c6.m5, c7.m5],
    #v[c0.m5, c0.m4, c0.m2, P.get 3, c7.m2, c8.m2, c9.m2, c10.m2,
      c7.m4, c8.m4, c9.m4, c10.m4, c7.m5, c8.m5, c9.m5, c10.m5],
    #v[c7.m5, c8.m5, c9.m5, c10.m5, c7.m3, c8.m3, c9.m3, c10.m3,
      c7.m0, c8.m0, c9.m0, c10.m0, c3.m5, c3.m4, c3.m2, P.get 15]]

/-- `bound`, of a patch. -/
def patch (m : Extremum) : ℕ → Vector D 16 → D → D → D
  | 0, P, b, _ => m.of b (cornerbound P m)
  | depth + 1, P, b, fuzz =>
    let b := m.of b (cornerbound P m)
    if settled m b (controlbound P m) fuzz then b
    else (quarters P).foldl (fun b Q => patch m depth Q b (fuzz * Scalar.lit 2)) b

/-! ### Triangles -/

/-- `cornerboundtri`. -/
def cornerboundtri (P : Vector D 10) (m : Extremum) : D :=
  let b := m.of (P.get 0) (P.get 6)
  m.of b (P.get 9)

/-- `controlboundtri`. -/
def controlboundtri (P : Vector D 10) (m : Extremum) : D :=
  let b := m.of (P.get 1) (P.get 2)
  let b := m.of b (P.get 3)
  let b := m.of b (P.get 4)
  let b := m.of b (P.get 5)
  let b := m.of b (P.get 7)
  m.of b (P.get 8)

/-- `Splittri`. -/
def splittri (P : Vector D 10) : SplitTriangle D :=
  .of half (fun a b c => Scalar.lit (1 / 2) * a + Scalar.lit (1 / 4) * (b + c))
    (fun a b c d => Scalar.lit (1 / 4) * (a + b + c + d)) P

/-- `boundtri`. -/
def triangle (m : Extremum) : ℕ → Vector D 10 → D → D → D
  | 0, P, b, _ => m.of b (cornerboundtri P m)
  | depth + 1, P, b, fuzz =>
    let b := m.of b (cornerboundtri P m)
    if settled m b (controlboundtri P m) fuzz then b
    else
      let s := splittri P
      [s.l, s.r, s.u, s.c].foldl (fun b Q => triangle m depth Q b (fuzz * Scalar.lit 2)) b

/-! ### Curves -/

/-- `ratiobound`. -/
def ratiobound (z : Vector (Vec3 D) 4) (m : Extremum) (f : Vec3 D → D) : D :=
  let extremum (a b c d : D) : D := m.of (m.of (m.of a b) c) d
  let MX := extremum (-(z.get 0).x) (-(z.get 1).x) (-(z.get 2).x) (-(z.get 3).x)
  let MY := extremum (-(z.get 0).y) (-(z.get 1).y) (-(z.get 2).y) (-(z.get 3).y)
  let Z := extremum (z.get 0).z (z.get 1).z (z.get 2).z (z.get 3).z
  let MZ := extremum (-(z.get 0).z) (-(z.get 1).z) (-(z.get 2).z) (-(z.get 3).z)
  m.of (f ⟨-MX, -MY, Z⟩) (f ⟨-MX, -MY, -MZ⟩)

/-- `bound`, of a curve, for the ratio (or the coordinate) `f`. -/
def curve (m : Extremum) (f : Vec3 D → D) : ℕ → Vector (Vec3 D) 4 → D → D → D
  | 0, z, b, _ => m.of b (m.of (f (z.get 0)) (f (z.get 3)))
  | depth + 1, z, b, fuzz =>
    let b := m.of b (m.of (f (z.get 0)) (f (z.get 3)))
    if settled m b (ratiobound z m f) fuzz then b
    else
      let s := split3 (z.get 0) (z.get 1) (z.get 2) (z.get 3)
      [#v[z.get 0, s.m0, s.m3, s.m5], #v[s.m5, s.m4, s.m2, z.get 3]].foldl
        (fun b w => curve m f depth w b (fuzz * Scalar.lit 2)) b

/-! ### The boxes of the objects -/

/-- The box of three coordinates, for a search of one of them. -/
def box {n : ℕ} [NeZero n] (controls : Vector (Vec3 D) n)
    (search : Extremum → (Vec3 D → D) → D → D → D) : Vec3 D × Vec3 D :=
  let corner (m : Extremum) (f : Vec3 D → D) : D :=
    search m f (f (controls.get 0)) (fuzz * norm (controls.toList.map f))
  (⟨corner .min Vec3.x, corner .min Vec3.y, corner .min Vec3.z⟩,
    ⟨corner .max Vec3.x, corner .max Vec3.y, corner .max Vec3.z⟩)

/-- `computeBezierPatchBounds`. -/
def patchBounds (controls : Vector (Vec3 D) 16) : Vec3 D × Vec3 D :=
  box controls fun m f b fuzz => patch m maxdepth (controls.map f) b fuzz

/-- `computeBezierTriangleBounds`. -/
def triangleBounds (controls : Vector (Vec3 D) 10) : Vec3 D × Vec3 D :=
  box controls fun m f b fuzz => triangle m maxdepth (controls.map f) b fuzz

/-- `computeBezierCurveBounds`. -/
def curveBounds (controls : Vector (Vec3 D) 4) : Vec3 D × Vec3 D :=
  box controls fun m f b fuzz => curve m f maxdepth controls b fuzz

end Bound

end OkularV3d
