import OkularV3d.Scene.Objects

/-!
# Spheres, disks, cylinders and tubes

These objects keep nothing between frames: in every frame they build Bezier patches or triangles
anew and queue those. Here are the control points they build.

* `subdivideTriangle` and `sphereTriangles` make the Bezier triangles of spheres; `V3dDisk.patch`,
  `V3dCylinder.patches` and `V3dTube.patches` make patches.
* `Rmf.next` carries a frame along a curve, and `rmf` is the row of them.
* `Align.T` puts a solid into place.

The geometry they make is studied in `OkularV3d.Scene.SphereMesh`, `OkularV3d.Scene.CylinderPatches`
and `OkularV3d.Scene.TubeFrames`.
-/

namespace OkularV3d

namespace Vec3

variable {D : Type} [Scalar D]

/-- `dot3(v, v)` under a square root. -/
def norm (v : Vec3 D) : D := Scalar.sqrt (dot v v)

/-- `unit3`. -/
def unit3 (v : Vec3 D) : Vec3 D := ⟨v.x / v.norm, v.y / v.norm, v.z / v.norm⟩

end Vec3

variable {D : Type} [Scalar D]

/-- `Align`: a direction given by its polar and azimuthal angles is turned into place, then the
centre is added. -/
structure Align (D : Type) where
  center : Vec3 D
  ct : D
  st : D
  cp : D
  sp : D

namespace Align

/-- `Align(center, dir)`. -/
def ofDir (center : Vec3 D) (theta phi : D) : Align D :=
  ⟨center, Scalar.cos theta, Scalar.sin theta, Scalar.cos phi, Scalar.sin phi⟩

/-- `Align::T`. -/
def T (A : Align D) (v : Vec3 D) : Vec3 D :=
  let X := v.x * A.ct + v.z * A.st
  ⟨X * A.cp - v.y * A.sp + A.center.x, X * A.sp + v.y * A.cp + A.center.y,
    -v.x * A.st + v.z * A.ct + A.center.z⟩

end Align

/-! ### The octants of a sphere -/

/-- `gcMidPoint`: the midpoint of a great-circle arc. -/
def gcMidPoint (P Q : Vec3 D) : Vec3 D :=
  let one : D := Scalar.lit 1
  let scale := one / (Scalar.sqrt (Scalar.lit 2) * Scalar.sqrt (one + Vec3.dot P Q))
  ⟨(P.x + Q.x) * scale, (P.y + Q.y) * scale, (P.z + Q.z) * scale⟩

/-- `bezierEdge`: the inner control points of a great-circle arc. -/
def bezierEdge (P Q : Vec3 D) : Vec3 D × Vec3 D :=
  let one : D := Scalar.lit 1
  let x := Vec3.dot P Q
  let k := Scalar.lit (4 / 3) * Scalar.sqrt (one - x) /
    (Scalar.sqrt (Scalar.lit 2) + Scalar.sqrt (one + x))
  let u := (Q - Vec3.smul x P).unit3
  let v := (P - Vec3.smul x Q).unit3
  (P + Vec3.smul k u, Q + Vec3.smul k v)

/-- `makeBezierTriangle`: the control points of a spherical triangle. -/
def makeBezierTriangle (A B C : Vec3 D) : Vector (Vec3 D) 10 :=
  let ab := bezierEdge A B
  let bc := bezierEdge B C
  let ca := bezierEdge C A
  let edges := ab.1 + ab.2 + bc.1 + bc.2 + ca.1 + ca.2
  let S9 := A + B + C + Vec3.smul (Scalar.lit 3) edges
  let dir := (A + B + C).unit3
  let dotSD := Vec3.dot S9 dir
  let disc := Scalar.lit 144 * dotSD * dotSD - Scalar.lit 144 * (Vec3.dot S9 S9 - Scalar.lit 729)
  let disc := if Scalar.lt disc (Scalar.lit 0) then Scalar.lit 0 else disc
  let R := (-Scalar.lit 12 * dotSD + Scalar.sqrt disc) / Scalar.lit 72
  #v[A, ab.1, ca.2, ab.2, Vec3.smul R dir, ca.1, B, bc.1, bc.2, C]

/-- `subdivideTriangle`: `4^depth` Bezier triangles for a spherical triangle. -/
def subdivideTriangle (A B C : Vec3 D) : Nat → List (Vector (Vec3 D) 10)
  | 0 => [makeBezierTriangle A B C]
  | depth + 1 =>
    let midAB := gcMidPoint A B
    let midBC := gcMidPoint B C
    let midCA := gcMidPoint C A
    subdivideTriangle A midAB midCA depth ++ subdivideTriangle B midBC midAB depth ++
      subdivideTriangle C midCA midBC depth ++ subdivideTriangle midAB midBC midCA depth

/-- `getSphereOctant`: the first octant of the unit sphere. -/
def sphereOctant : List (Vector (Vec3 D) 10) :=
  let zero : D := Scalar.lit 0
  let one : D := Scalar.lit 1
  subdivideTriangle ⟨one, zero, zero⟩ ⟨zero, one, zero⟩ ⟨zero, zero, one⟩ 2

/-- `sphere`: the octants reflected at the coordinate planes, those below the equator only for a
full sphere (`lower`), and put into place by `t`. -/
def sphereTriangles (r : D) (lower : Bool) (t : Vec3 D → Vec3 D) : List (Vector (Vec3 D) 10) :=
  let minus : D := -Scalar.lit 1 * r
  let plus : D := Scalar.lit 1 * r
  [minus, plus].flatMap fun rx =>
    [minus, plus].flatMap fun ry =>
      (if lower then [minus, plus] else [plus]).flatMap fun rz =>
        sphereOctant.map fun tri => tri.map fun v => t ⟨rx * v.x, ry * v.y, rz * v.z⟩

/-- The triangles of a `V3dSphere`. -/
def V3dSphere.triangles (o : V3dSphere D) : List (Vector (Vec3 D) 10) :=
  sphereTriangles o.radius true fun v => v + o.center

/-- The triangles of a `V3dHemiSphere`. -/
def V3dHemiSphere.triangles (o : V3dHemiSphere D) : List (Vector (Vec3 D) 10) :=
  sphereTriangles o.radius false (Align.ofDir o.center o.polarAngle o.azimuthalAngle).T

/-! ### Disks and cylinders -/

/-- `4/3*(sqrt(2)-1)`: the control points of a quarter circle. -/
def quarterArc : D := Scalar.lit (4 / 3) * (Scalar.sqrt (Scalar.lit 2) - Scalar.lit 1)

/-- `disk`: the patch of a `V3dDisk`. -/
def V3dDisk.patch (o : V3dDisk D) : Vector (Vec3 D) 16 :=
  let a : D := quarterArc
  let i : D := Scalar.lit 1
  let z : D := Scalar.lit 0
  let b : D := i - Scalar.lit 2 * a / Scalar.lit 3
  let unitdisk : Vector (D × D) 16 :=
    #v[(i, z), (i, -a), (a, -i), (z, -i), (i, a), (b, z), (z, -b), (-a, -i),
      (a, i), (z, b), (-b, z), (-i, -a), (z, i), (-a, i), (-i, a), (-i, z)]
  let A := Align.ofDir o.center o.polarAngle o.azimuthalAngle
  unitdisk.map fun v => A.T ⟨o.radius * v.1, o.radius * v.2, z⟩

/-- `cylinder`: the four patches of a `V3dCylinder`. The heights of the inner control points are
`1/3` and `2/3` in integer arithmetic, that is 0. -/
def V3dCylinder.patches (o : V3dCylinder D) : List (Vector (Vec3 D) 16) :=
  let a : D := quarterArc
  let i : D := Scalar.lit 1
  let z : D := Scalar.lit 0
  let column (x y : D) : List (Vec3 D) := [⟨x, y, z⟩, ⟨x, y, z⟩, ⟨x, y, z⟩, ⟨x, y, i⟩]
  let unitcylinder : Vector (Vec3 D) 16 :=
    ⟨(column i z ++ column i a ++ column a i ++ column z i).toArray, rfl⟩
  let A := Align.ofDir o.center o.polarAngle o.azimuthalAngle
  let signs : List D := [-Scalar.lit 1 * o.radius, Scalar.lit 1 * o.radius]
  signs.flatMap fun rx =>
    signs.map fun ry => unitcylinder.map fun v => A.T ⟨rx * v.x, ry * v.y, o.height * v.z⟩

/-- The core line of a `V3dCylinder`. -/
def V3dCylinder.coreEnds (o : V3dCylinder D) : Vec3 D × Vec3 D :=
  let z : D := Scalar.lit 0
  (o.center, (Align.ofDir o.center o.polarAngle o.azimuthalAngle).T ⟨z, z, o.height⟩)

/-! ### Tubes -/

/-- `Rmf`: a frame along a curve. -/
structure Rmf (D : Type) where
  p : Vec3 D
  r : Vec3 D
  t : Vec3 D
  s : Vec3 D

/-- `Rmf(p, r, t)`. -/
def Rmf.mk' (p r t : Vec3 D) : Rmf D := ⟨p, r, t, Vec3.cross t r⟩

/-- `numeric_limits<double>::epsilon()`. -/
def dblEpsilon : D := Scalar.lit (1 / 2 ^ 52)

/-- `perp` of `rmf`: a unit vector perpendicular to a unit vector. -/
def Rmf.perp (v : Vec3 D) : Vec3 D :=
  let z : D := Scalar.lit 0
  let i : D := Scalar.lit 1
  let norm := dblEpsilon * Vec3.abs2 v
  let u := Vec3.cross v ⟨z, i, z⟩
  if Scalar.lt norm (Vec3.abs2 u) then Vec3.unit u
  else
    let u := Vec3.cross v ⟨z, z, i⟩
    if Scalar.lt norm (Vec3.abs2 u) then Vec3.unit u else ⟨i, z, z⟩

/-- `z1-z0+3*(c0-c1)`. -/
def cubicCoefficient (z0 c0 c1 z1 : Vec3 D) : Vec3 D :=
  z1 - z0 + Vec3.smul (Scalar.lit 3) (c0 - c1)

/-- `d` of `rmf`: the direction of the curve at `t` in `(0, 1]`. -/
def Rmf.direction (norm : D) (z0 c0 c1 z1 : Vec3 D) (t : D) : Vec3 D :=
  let two : D := Scalar.lit 2
  if Scalar.eq t (Scalar.lit 1) then
    let dir := z1 - c1
    if Scalar.lt norm (Vec3.abs2 dir) then Vec3.unit dir
    else
      let dir := Vec3.smul two c1 - c0 - z1
      if Scalar.lt norm (Vec3.abs2 dir) then Vec3.unit dir else cubicCoefficient z0 c0 c1 z1
  else
    let a := cubicCoefficient z0 c0 c1 z1
    let b := Vec3.smul two (z0 + c1) - Vec3.smul (Scalar.lit 4) c0
    let dir := Vec3.smul (t * t) a + Vec3.smul t b + (c0 - z0)
    if Scalar.lt norm (Vec3.abs2 dir) then Vec3.unit dir
    else
      let dir := Vec3.smul (two * t) a + b
      if Scalar.lt norm (Vec3.abs2 dir) then Vec3.unit dir else Vec3.unit a

/-- One step of `rmf`: the frame at the parameter `s` from the one before (double reflection). -/
def Rmf.next (norm : D) (z0 c0 c1 z1 : Vec3 D) (R : Rmf D) (s : D) : Rmf D :=
  let onemt := Scalar.lit 1 - s
  let onemt2 := onemt * onemt
  let onemt3 := onemt2 * onemt
  let s3 := Scalar.lit 3 * s
  let p := Vec3.smul onemt3 z0 + Vec3.smul (onemt2 * s3) c0 + Vec3.smul (onemt * (s3 * s)) c1 +
    Vec3.smul (s * s * s) z1
  let v1 := p - R.p
  let zero : D := Scalar.lit 0
  if Scalar.eq v1.x zero && Scalar.eq v1.y zero && Scalar.eq v1.z zero then R
  else
    let two : D := Scalar.lit 2
    let u1 := Vec3.unit v1
    let tp := R.t - Vec3.smul (two * Vec3.dot u1 R.t) u1
    let ti := Rmf.direction norm z0 c0 c1 z1 s
    let rp := R.r - Vec3.smul (two * Vec3.dot u1 R.r) u1
    let u2 := Vec3.unit (ti - tp)
    let rp := rp - Vec3.smul (two * Vec3.dot u2 rp) u2
    Rmf.mk' p (Vec3.unit rp) (Vec3.unit ti)

/-- `rmf` at the parameters 0, 1/3, 2/3 and 1. -/
def rmf (z0 c0 c1 z1 : Vec3 D) : Vector (Rmf D) 4 :=
  let glmMax (a b : D) : D := if Scalar.lt a b then b else a
  let norm := dblEpsilon *
    glmMax (glmMax (glmMax (Vec3.abs2 z0) (Vec3.abs2 c0)) (Vec3.abs2 c1)) (Vec3.abs2 z1)
  let T := c0 - z0
  let T :=
    if Scalar.lt (Vec3.abs2 T) norm then
      let T := z0 - Vec3.smul (Scalar.lit 2) c0 + c1
      if Scalar.lt (Vec3.abs2 T) norm then cubicCoefficient z0 c0 c1 z1 else T
    else T
  let T := Vec3.unit T
  let R0 := Rmf.mk' z0 (Rmf.perp T) T
  let R1 := R0.next norm z0 c0 c1 z1 (Scalar.lit 1 / Scalar.lit 3)
  let R2 := R1.next norm z0 c0 c1 z1 (Scalar.lit 2 / Scalar.lit 3)
  #v[R0, R1, R2, R2.next norm z0 c0 c1 z1 (Scalar.lit 1)]

/-- `f` of `tube`: the patch of one quarter, its cross section turned by `(a, b; c, d)`. -/
def V3dTube.quarter (o : V3dTube D) (a b c d : D) : Vector (Vec3 D) 16 :=
  let v := o.controlPoints
  let frames := rmf (v.get 0) (v.get 1) (v.get 2) (v.get 3)
  let w := o.width
  let aw := quarterArc * w
  let zero : D := Scalar.lit 0
  let arc : List (D × D) := [(w, zero), (w, aw), (aw, w), (zero, w)]
  let row (R : Rmf D) (u : Vec3 D) : List (Vec3 D) :=
    arc.map fun (x, y) =>
      ⟨(R.r.x * a + R.s.x * b) * x + (R.r.x * c + R.s.x * d) * y + u.x,
        (R.r.y * a + R.s.y * b) * x + (R.r.y * c + R.s.y * d) * y + u.y,
        (R.r.z * a + R.s.z * b) * x + (R.r.z * c + R.s.z * d) * y + u.z⟩
  ⟨(row (frames.get 0) (v.get 0) ++ row (frames.get 1) (v.get 1) ++ row (frames.get 2) (v.get 2) ++
      row (frames.get 3) (v.get 3)).toArray,
    by simp [row, arc]⟩

/-- `tube`: the four patches of a `V3dTube`. -/
def V3dTube.patches (o : V3dTube D) : List (Vector (Vec3 D) 16) :=
  let i : D := Scalar.lit 1
  let z : D := Scalar.lit 0
  [o.quarter i z z i, o.quarter z (-i) i z, o.quarter (-i) z z (-i), o.quarter z i (-i) z]

end OkularV3d
