import OkularV3d.Lib.Wire
import OkularV3d.Scene.Objects

/-!
# The records of a V3D file

The constructors of the object classes read their fields from an XDR stream. Reals are double words
in a double-precision file and words in a single-precision one, colours are always words. A record
is a `Parser`: where one of its reads fails there is no record, because some of its fields are then
never assigned.

A triangle group that announces more than ten million indices or positions is given up before its
other fields are read: its parser returns `none`, and the bytes behind the two counts are not
consumed.

* `ObjectTypes` are the words that announce a record.
* `readReal` and `readTriple` read in the precision of the file; `readRGBA` does not.
* `V3dTriangleGroup.read` is the constructor with the two caps; `capped` is what becomes of a count
  of normals or colours beyond them.
* `V3dObject.read` is the `switch` of `V3dFile::load`.
-/

namespace OkularV3d

open Wire Wire.Parser

/-- The representation of `double` in a double word. -/
class Xdr64 (R : Type) where
  bits : R → UInt64
  ofBits : UInt64 → R
  ofBits_bits (x : R) : ofBits (bits x) = x

/-- The representation of `float` in a word. -/
class Xdr32 (R : Type) where
  bits : R → UInt32
  ofBits : UInt32 → R
  ofBits_bits (x : R) : ofBits (bits x) = x

/-- Whole numbers in place of `double`: no operation on small whole numbers rounds. -/
instance : Scalar Int64 where
  lit q := Int64.ofInt q.floor
  lt a b := decide (a < b)
  eq a b := a == b
  isNormal a := a != 0
  sqrt a := Int64.ofNat (Nat.sqrt a.toNatClampNeg)
  cos a := 1 - a * a / 2
  sin a := a

/-- Whole numbers in place of `float`. -/
instance : Scalar Int32 where
  lit q := Int32.ofInt q.floor
  lt a b := decide (a < b)
  eq a b := a == b
  isNormal a := a != 0
  sqrt a := Int32.ofNat (Nat.sqrt a.toNatClampNeg)
  cos a := 1 - a * a / 2
  sin a := a

instance : Rounding Int64 Int32 where
  narrow a := a.toInt32
  widen a := a.toInt64

instance : Xdr64 Int64 := ⟨Int64.toUInt64, UInt64.toInt64, fun _ => rfl⟩

instance : Xdr32 Int32 := ⟨Int32.toUInt32, UInt32.toInt32, fun _ => rfl⟩

/-- `ObjectTypes`, `v3dtypes`. -/
inductive ObjectTypes where
  | material | transform | element | centers | header
  | line | triangle | quad
  | curve | bezierTriangle | bezierPatch
  | lineColor | triangleColor | quadColor
  | curveColor | bezierTriangleColor | bezierPatchColor
  | triangles
  | disk | cylinder | tube | sphere | halfSphere
  | animation
  | pixel
  deriving DecidableEq

namespace ObjectTypes

/-- The word that announces a record. -/
def code : ObjectTypes → UInt32
  | material => 1
  | transform => 2
  | element => 3
  | centers => 4
  | header => 5
  | line => 64
  | triangle => 65
  | quad => 66
  | curve => 128
  | bezierTriangle => 129
  | bezierPatch => 130
  | lineColor => 192
  | triangleColor => 193
  | quadColor => 194
  | curveColor => 256
  | bezierTriangleColor => 257
  | bezierPatchColor => 258
  | triangles => 512
  | disk => 1024
  | cylinder => 1025
  | tube => 1026
  | sphere => 1027
  | halfSphere => 1028
  | animation => 2048
  | pixel => 4096

/-- All of them. -/
def all : List ObjectTypes :=
  [material, transform, element, centers, header, line, triangle, quad, curve, bezierTriangle,
    bezierPatch, lineColor, triangleColor, quadColor, curveColor, bezierTriangleColor,
    bezierPatchColor, triangles, disk, cylinder, tube, sphere, halfSphere, animation, pixel]

/-- The type a word announces; `none` is the `default` of the `switch`. -/
def ofCode (w : UInt32) : Option ObjectTypes := all.find? fun t => t.code == w

@[simp] theorem ofCode_code (t : ObjectTypes) : ofCode t.code = some t := by cases t <;> rfl

end ObjectTypes

/-! ### Fields -/

section Fields

variable {D : Type} (F : Type) [Xdr64 D] [Xdr32 F] [Rounding D F]

/-- `readReal`. -/
def readReal (doublePrecision : UInt32) : Parser D :=
  if doublePrecision ≠ 0 then do
    let val ← doubleWord
    return Xdr64.ofBits val
  else do
    let val ← word
    return Rounding.widen (Xdr32.ofBits val : F)

/-- Three reals. -/
def readTriple (doublePrecision : UInt32) : Parser (Vec3 D) := do
  let x ← readReal F doublePrecision
  let y ← readReal F doublePrecision
  let z ← readReal F doublePrecision
  return ⟨x, y, z⟩

variable {F}

omit [Xdr64 D] [Rounding D F] in
/-- `xdrFile >> x` for a `float`. -/
def readFloat : Parser F := do
  let val ← word
  return Xdr32.ofBits val

/-- Four floats. -/
def readRGBA : Parser (Vec4 F) := do
  let r ← readFloat
  let g ← readFloat
  let b ← readFloat
  let a ← readFloat
  return ⟨r, g, b, a⟩

end Fields

/-! ### Materials and objects -/

section Records

variable {D F : Type} [Xdr64 D] [Xdr32 F] [Rounding D F]

/-- The `MATERIAL` record. `lightOn` came with version 2 of the format. -/
def V3dMaterial.read [Scalar F] (versionNumber : UInt32) : Parser (V3dMaterial F) := do
  let diffuse ← readRGBA
  let emissive ← readRGBA
  let specular ← readRGBA
  let shininess ← readFloat
  let metallic ← readFloat
  let fresnel0 ← readFloat
  let lightOn ← (if 2 ≤ versionNumber then readFloat else pure (Scalar.lit 1))
  return { diffuse, emissive, specular, shininess, metallic, fresnel0, lightOn }

variable (F) in
/-- `V3dBezierPatch::V3dBezierPatch`. -/
def V3dBezierPatch.read (doublePrecision : UInt32) : Parser (V3dBezierPatch D) := do
  let controlPoints ← vector (readTriple F doublePrecision) 16
  let centerIndex ← word
  let materialIndex ← word
  return { controlPoints, centerIndex, materialIndex }

variable (F) in
/-- `V3dBezierTriangle::V3dBezierTriangle`. -/
def V3dBezierTriangle.read (doublePrecision : UInt32) : Parser (V3dBezierTriangle D) := do
  let controlPoints ← vector (readTriple F doublePrecision) 10
  let centerIndex ← word
  let materialIndex ← word
  return { controlPoints, centerIndex, materialIndex }

/-- `V3dBezierPatchWithCornerColors::V3dBezierPatchWithCornerColors`. -/
def V3dBezierPatchWithCornerColors.read (doublePrecision : UInt32) :
    Parser (V3dBezierPatchWithCornerColors D F) := do
  let controlPoints ← vector (readTriple F doublePrecision) 16
  let centerIndex ← word
  let materialIndex ← word
  let cornerColors ← vector readRGBA 4
  return { controlPoints, centerIndex, materialIndex, cornerColors }

/-- `V3dBezierTriangleWithCornerColors::V3dBezierTriangleWithCornerColors`. -/
def V3dBezierTriangleWithCornerColors.read (doublePrecision : UInt32) :
    Parser (V3dBezierTriangleWithCornerColors D F) := do
  let controlPoints ← vector (readTriple F doublePrecision) 10
  let centerIndex ← word
  let materialIndex ← word
  let cornerColors ← vector readRGBA 3
  return { controlPoints, centerIndex, materialIndex, cornerColors }

variable (F) in
/-- `V3dStraightPlanarQuad::V3dStraightPlanarQuad`. -/
def V3dStraightPlanarQuad.read (doublePrecision : UInt32) : Parser (V3dStraightPlanarQuad D) := do
  let vertices ← vector (readTriple F doublePrecision) 4
  let centerIndex ← word
  let materialIndex ← word
  return { vertices, centerIndex, materialIndex }

variable (F) in
/-- `V3dStraightTriangle::V3dStraightTriangle`. -/
def V3dStraightTriangle.read (doublePrecision : UInt32) : Parser (V3dStraightTriangle D) := do
  let vertices ← vector (readTriple F doublePrecision) 3
  let centerIndex ← word
  let materialIndex ← word
  return { vertices, centerIndex, materialIndex }

/-- `V3dStraightPlanarQuadWithCornerColors::V3dStraightPlanarQuadWithCornerColors`. -/
def V3dStraightPlanarQuadWithCornerColors.read (doublePrecision : UInt32) :
    Parser (V3dStraightPlanarQuadWithCornerColors D F) := do
  let vertices ← vector (readTriple F doublePrecision) 4
  let centerIndex ← word
  let materialIndex ← word
  let cornerColors ← vector readRGBA 4
  return { vertices, centerIndex, materialIndex, cornerColors }

/-- `V3dStraightTriangleWithCornerColors::V3dStraightTriangleWithCornerColors`. -/
def V3dStraightTriangleWithCornerColors.read (doublePrecision : UInt32) :
    Parser (V3dStraightTriangleWithCornerColors D F) := do
  let vertices ← vector (readTriple F doublePrecision) 3
  let centerIndex ← word
  let materialIndex ← word
  let cornerColors ← vector readRGBA 3
  return { vertices, centerIndex, materialIndex, cornerColors }

variable (F) in
/-- `V3dSphere::V3dSphere`. -/
def V3dSphere.read (doublePrecision : UInt32) : Parser (V3dSphere D) := do
  let center ← readTriple F doublePrecision
  let radius ← readReal F doublePrecision
  let centerIndex ← word
  let materialIndex ← word
  return { center, radius, centerIndex, materialIndex }

variable (F) in
/-- `V3dHemiSphere::V3dHemiSphere`. -/
def V3dHemiSphere.read (doublePrecision : UInt32) : Parser (V3dHemiSphere D) := do
  let center ← readTriple F doublePrecision
  let radius ← readReal F doublePrecision
  let centerIndex ← word
  let materialIndex ← word
  let polarAngle ← readReal F doublePrecision
  let azimuthalAngle ← readReal F doublePrecision
  return { center, radius, centerIndex, materialIndex, polarAngle, azimuthalAngle }

variable (F) in
/-- `V3dDisk::V3dDisk`. -/
def V3dDisk.read (doublePrecision : UInt32) : Parser (V3dDisk D) := do
  let center ← readTriple F doublePrecision
  let radius ← readReal F doublePrecision
  let centerIndex ← word
  let materialIndex ← word
  let polarAngle ← readReal F doublePrecision
  let azimuthalAngle ← readReal F doublePrecision
  return { center, radius, centerIndex, materialIndex, polarAngle, azimuthalAngle }

variable (F) in
/-- `V3dCylinder::V3dCylinder`. -/
def V3dCylinder.read (doublePrecision : UInt32) : Parser (V3dCylinder D) := do
  let center ← readTriple F doublePrecision
  let radius ← readReal F doublePrecision
  let height ← readReal F doublePrecision
  let centerIndex ← word
  let materialIndex ← word
  let polarAngle ← readReal F doublePrecision
  let azimuthalAngle ← readReal F doublePrecision
  let core ← word
  return { center, radius, height, centerIndex, materialIndex, polarAngle, azimuthalAngle,
           core := core != 0 }

variable (F) in
/-- `V3dTube::V3dTube`. -/
def V3dTube.read (doublePrecision : UInt32) : Parser (V3dTube D) := do
  let controlPoints ← vector (readTriple F doublePrecision) 4
  let width ← readReal F doublePrecision
  let centerIndex ← word
  let materialIndex ← word
  let core ← word
  return { controlPoints, width, centerIndex, materialIndex, core := core != 0 }

variable (F) in
/-- `V3dBezierCurve::V3dBezierCurve`. -/
def V3dBezierCurve.read (doublePrecision : UInt32) : Parser (V3dBezierCurve D) := do
  let controlPoints ← vector (readTriple F doublePrecision) 4
  let centerIndex ← word
  let materialIndex ← word
  return { controlPoints, centerIndex, materialIndex }

variable (F) in
/-- `V3dLineSegment::V3dLineSegment`. -/
def V3dLineSegment.read (doublePrecision : UInt32) : Parser (V3dLineSegment D) := do
  let endpoints ← vector (readTriple F doublePrecision) 2
  let centerIndex ← word
  let materialIndex ← word
  return { endpoints, centerIndex, materialIndex }

variable (F) in
/-- `V3dPixel::V3dPixel`. -/
def V3dPixel.read (doublePrecision : UInt32) : Parser (V3dPixel D) := do
  let position ← readTriple F doublePrecision
  let width ← readReal F doublePrecision
  let materialIndex ← word
  return { position, width, materialIndex }

/-! ### Triangle groups -/

namespace V3dTriangleGroup

/-- `maxCount` of the group's constructor. -/
def maxCount : ℕ := 10000000

/-- A count of normals or colours: an excessive one is taken as 0. -/
def capped (n : UInt32) : ℕ := if maxCount < n.toNat then 0 else n.toNat

/-- Three indices. -/
def readIndices : Parser IndexTriple := do
  let i ← word
  let j ← word
  let k ← word
  return (i, j, k)

/-- The indices of one triangle. Where normal or colour indices are not explicit they are the
position indices. -/
def readTriangle (explicitNI explicitCI : Bool) : Parser GroupTriangle := do
  let positions ← readIndices
  let normals ← (if explicitNI then readIndices else pure positions)
  let colors ← (if explicitCI then readIndices else pure positions)
  return { positions, normals, colors }

omit [Xdr64 D] [Rounding D F] in
/-- The colours, and `nC > 0 && explicitCI`. -/
def readColors : Parser (List (Vec4 F) × Bool) := do
  let nC ← word
  if 0 < capped nC then
    let colors ← list readRGBA (capped nC)
    let explicitCI ← word
    return (colors, explicitCI != 0)
  else
    return ([], false)

/-- What follows the two counts of a group that is not given up. -/
def readBody (doublePrecision nI nP : UInt32) : Parser (V3dTriangleGroup D F) := do
  let vertexPositions ← list (readTriple F doublePrecision) nP.toNat
  let nN ← word
  let vertexNormalArray ← list (readTriple F doublePrecision) (capped nN)
  let explicitNI ← word
  let colors ← readColors
  let triangles ← list (readTriangle (explicitNI != 0) colors.2) nI.toNat
  let centerIndex ← word
  let materialIndex ← word
  return { vertexPositions, vertexNormalArray, vertexColorArray := colors.1, triangles,
           centerIndex, materialIndex }

/-- `V3dTriangleGroup::V3dTriangleGroup`. -/
def read (doublePrecision : UInt32) : Parser (Option (V3dTriangleGroup D F)) := do
  let nI ← word
  let nP ← word
  if maxCount < nI.toNat ∨ maxCount < nP.toNat then
    return none
  else
    let group ← readBody doublePrecision nI nP
    return some group

end V3dTriangleGroup

/-! ### Dispatch -/

/-- A record of a class all of whose fields are read. -/
def V3dObject.whole {α : Type} (mk : α → V3dObject D F) (p : Parser α) :
    Parser (Option (V3dObject D F)) := do
  let o ← p
  return some (mk o)

/-- The constructor that the `switch` of `V3dFile::load` calls for a type; `none` where it creates
no object. -/
def V3dObject.read (doublePrecision : UInt32) :
    ObjectTypes → Option (Parser (Option (V3dObject D F)))
  | .line => some (whole .line (V3dLineSegment.read F doublePrecision))
  | .triangle => some (whole .triangle (V3dStraightTriangle.read F doublePrecision))
  | .quad => some (whole .quad (V3dStraightPlanarQuad.read F doublePrecision))
  | .curve => some (whole .curve (V3dBezierCurve.read F doublePrecision))
  | .bezierTriangle => some (whole .bezierTriangle (V3dBezierTriangle.read F doublePrecision))
  | .bezierPatch => some (whole .bezierPatch (V3dBezierPatch.read F doublePrecision))
  | .triangleColor =>
    some (whole .triangleColor (V3dStraightTriangleWithCornerColors.read doublePrecision))
  | .quadColor =>
    some (whole .quadColor (V3dStraightPlanarQuadWithCornerColors.read doublePrecision))
  | .bezierTriangleColor =>
    some (whole .bezierTriangleColor (V3dBezierTriangleWithCornerColors.read doublePrecision))
  | .bezierPatchColor =>
    some (whole .bezierPatchColor (V3dBezierPatchWithCornerColors.read doublePrecision))
  | .triangles => some do
    let group ← V3dTriangleGroup.read doublePrecision
    return group.map .triangles
  | .disk => some (whole .disk (V3dDisk.read F doublePrecision))
  | .cylinder => some (whole .cylinder (V3dCylinder.read F doublePrecision))
  | .tube => some (whole .tube (V3dTube.read F doublePrecision))
  | .sphere => some (whole .sphere (V3dSphere.read F doublePrecision))
  | .halfSphere => some (whole .halfSphere (V3dHemiSphere.read F doublePrecision))
  | .pixel => some (whole .pixel (V3dPixel.read F doublePrecision))
  | .material | .transform | .element | .centers | .header | .lineColor | .curveColor
  | .animation => none

end Records

end OkularV3d
