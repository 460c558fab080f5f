import OkularV3d.Scene.Scalar

/-!
# Culling and billboards

`bbox2` projects the corners of an object's bounds with the current projection and asks whether the
rectangle they span lies off the screen; `billboardTransform` turns a vertex around the centre of
its object so that it faces the camera.

* `BBox2.ofPoints` is the rectangle of some projected points, and `BBox2.ofBox` that of the corners
  of a box.
* `BBox2.offscreen` is the test, with the margin of the code.

No property is stated here: `OkularV3d.Scene.Exact` says what the test decides.
-/

namespace OkularV3d

variable {D F : Type} [Scalar D]

/-- `Transform2T`: the `x` and `y` components of `v*t`. -/
def transform2T (t : Mat4 D) (v : Vec3 D) : Vec2 D :=
  let f := t 3 * v.x + t 7 * v.y + t 11 * v.z + t 15
  let f := Scalar.lit 1 / f
  ⟨(t 0 * v.x + t 4 * v.y + t 8 * v.z + t 12) * f, (t 1 * v.x + t 5 * v.y + t 9 * v.z + t 13) * f⟩

/-- `bbox2`: a rectangle `[x, X] × [y, Y]`. -/
structure BBox2 (D : Type) where
  x : D
  y : D
  X : D
  Y : D

namespace BBox2

/-- `bbox2::Bounds`: the rectangle of one point. -/
def ofPoint (V : Vec2 D) : BBox2 D := ⟨V.x, V.y, V.x, V.y⟩

/-- `bbox2::bounds`: the rectangle extended by a point. -/
def bounds (box : BBox2 D) (V : Vec2 D) : BBox2 D :=
  { x := if Scalar.lt V.x box.x then V.x else box.x
    X := if Scalar.lt V.x box.x then box.X else if Scalar.lt box.X V.x then V.x else box.X
    y := if Scalar.lt V.y box.y then V.y else box.y
    Y := if Scalar.lt V.y box.y then box.Y else if Scalar.lt box.Y V.y then V.y else box.Y }

/-- `bbox2(n, v)`: the rectangle of projected points. -/
def ofPoints (projViewMat : Mat4 D) (v : Vec3 D) (vs : List (Vec3 D)) : BBox2 D :=
  vs.foldl (fun box p => box.bounds (transform2T projViewMat p))
    (ofPoint (transform2T projViewMat v))

/-- `bbox2(m, M)`: the rectangle of the eight projected corners of a box. -/
def ofBox (projViewMat : Mat4 D) (m M : Vec3 D) : BBox2 D :=
  ofPoints projViewMat m
    [⟨m.x, m.y, M.z⟩, ⟨m.x, M.y, m.z⟩, ⟨m.x, M.y, M.z⟩, ⟨M.x, m.y, m.z⟩, ⟨M.x, m.y, M.z⟩,
      ⟨M.x, M.y, m.z⟩, M]

/-- `bbox2::offscreen`. -/
def offscreen (box : BBox2 D) : Bool :=
  let eps : D := Scalar.lit (1 / 100)
  let min : D := -Scalar.lit 1 - eps
  let max : D := Scalar.lit 1 + eps
  Scalar.lt box.X min || Scalar.lt max box.x || Scalar.lt box.Y min || Scalar.lt max box.y

end BBox2

variable [Rounding D F]

/-- `billboardTransform` of `V3dFile.cpp`: computed in `double`, from and to `float`. -/
def billboardTransform (normMat : Mat3 D) (center v : Vec3 F) : Vec3 F :=
  let c : Vec3 D := center.widen
  -- the difference is taken in double: a float minus a double
  let d : Vec3 D := (v.widen : Vec3 D) - c
  Vec3.narrow
    ⟨d.x * normMat 0 + d.y * normMat 3 + d.z * normMat 6 + c.x,
      d.x * normMat 1 + d.y * normMat 4 + d.z * normMat 7 + c.y,
      d.x * normMat 2 + d.y * normMat 5 + d.z * normMat 8 + c.z⟩

end OkularV3d
