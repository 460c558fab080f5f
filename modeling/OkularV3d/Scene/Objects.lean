import OkularV3d.Scene.Scalar

/-!
# The objects of a V3D scene

The materials and lights of a scene, one structure for each object class of the file format, with
the fields its constructor reads, and `V3dObject` for any of them. Positions, lengths and angles are
`double`s (`D`), colours `float`s (`F`). What a class keeps between frames besides these fields is
in `OkularV3d.Scene.QueueMesh`.

* `V3dTriangleGroup` has the three arrays of vertices, and its triangles as triples of indices into
  them (`GroupTriangle`).
* `V3dObject.centerIndex` is the billboard an object belongs to, if any.

The constructors that read them from a stream are in `OkularV3d.File.Records`.
-/

namespace OkularV3d

/-- `V3dMaterial`. -/
structure V3dMaterial (F : Type) where
  diffuse : Vec4 F
  emissive : Vec4 F
  specular : Vec4 F
  shininess : F
  metallic : F
  fresnel0 : F
  lightOn : F
  deriving DecidableEq

/-- `V3dHeaderInfo::Light`: a direction in double precision and a colour in single. -/
structure Light (D F : Type) where
  direction : Vec3 D
  color : Vec3 F
  deriving DecidableEq

/-- `V3dBezierPatch`: 16 control points. -/
structure V3dBezierPatch (D : Type) where
  controlPoints : Vector (Vec3 D) 16
  centerIndex : UInt32
  materialIndex : UInt32
  deriving DecidableEq

/-- `V3dBezierTriangle`: 10 control points. -/
structure V3dBezierTriangle (D : Type) where
  controlPoints : Vector (Vec3 D) 10
  centerIndex : UInt32
  materialIndex : UInt32
  deriving DecidableEq

/-- `V3dBezierPatchWithCornerColors`. -/
structure V3dBezierPatchWithCornerColors (D F : Type) where
  controlPoints : Vector (Vec3 D) 16
  centerIndex : UInt32
  materialIndex : UInt32
  cornerColors : Vector (Vec4 F) 4
  deriving DecidableEq

/-- `V3dBezierTriangleWithCornerColors`. -/
structure V3dBezierTriangleWithCornerColors (D F : Type) where
  controlPoints : Vector (Vec3 D) 10
  centerIndex : UInt32
  materialIndex : UInt32
  cornerColors : Vector (Vec4 F) 3
  deriving DecidableEq

/-- `V3dStraightPlanarQuad`. -/
structure V3dStraightPlanarQuad (D : Type) where
  vertices : Vector (Vec3 D) 4
  centerIndex : UInt32
  materialIndex : UInt32
  deriving DecidableEq

/-- `V3dStraightTriangle`. -/
structure V3dStraightTriangle (D : Type) where
  vertices : Vector (Vec3 D) 3
  centerIndex : UInt32
  materialIndex : UInt32
  deriving DecidableEq

/-- `V3dStraightPlanarQuadWithCornerColors`. -/
structure V3dStraightPlanarQuadWithCornerColors (D F : Type) where
  vertices : Vector (Vec3 D) 4
  centerIndex : UInt32
  materialIndex : UInt32
  cornerColors : Vector (Vec4 F) 4
  deriving DecidableEq

/-- `V3dStraightTriangleWithCornerColors`. -/
structure V3dStraightTriangleWithCornerColors (D F : Type) where
  vertices : Vector (Vec3 D) 3
  centerIndex : UInt32
  materialIndex : UInt32
  cornerColors : Vector (Vec4 F) 3
  deriving DecidableEq

/-- Three indices of a triangle of a group. -/
abbrev IndexTriple := UInt32 × UInt32 × UInt32

/-- One triangle of a `V3dTriangleGroup`: `positionIndices[i]`, `normalIndices[i]` and
`colorIndices[i]`. -/
structure GroupTriangle where
  positions : IndexTriple
  normals : IndexTriple
  colors : IndexTriple
  deriving DecidableEq, Repr

/-- `V3dTriangleGroup`. The counts `nI`, `nP`, `nN` and `nC` are the lengths of the lists. -/
structure V3dTriangleGroup (D F : Type) where
  vertexPositions : List (Vec3 D)
  vertexNormalArray : List (Vec3 D)
  vertexColorArray : List (Vec4 F)
  triangles : List GroupTriangle
  centerIndex : UInt32
  materialIndex : UInt32
  deriving DecidableEq

/-- `V3dSphere`. -/
structure V3dSphere (D : Type) where
  center : Vec3 D
  radius : D
  centerIndex : UInt32
  materialIndex : UInt32
  deriving DecidableEq

/-- `V3dHemiSphere`. -/
structure V3dHemiSphere (D : Type) where
  center : Vec3 D
  radius : D
  centerIndex : UInt32
  materialIndex : UInt32
  polarAngle : D
  azimuthalAngle : D
  deriving DecidableEq

/-- `V3dDisk`. -/
structure V3dDisk (D : Type) where
  center : Vec3 D
  radius : D
  centerIndex : UInt32
  materialIndex : UInt32
  polarAngle : D
  azimuthalAngle : D
  deriving DecidableEq

/-- `V3dCylinder`. -/
structure V3dCylinder (D : Type) where
  center : Vec3 D
  radius : D
  height : D
  centerIndex : UInt32
  materialIndex : UInt32
  polarAngle : D
  azimuthalAngle : D
  core : Bool
  deriving DecidableEq

/-- `V3dTube`. -/
structure V3dTube (D : Type) where
  controlPoints : Vector (Vec3 D) 4
  width : D
  centerIndex : UInt32
  materialIndex : UInt32
  core : Bool
  deriving DecidableEq

/-- `V3dBezierCurve`. -/
structure V3dBezierCurve (D : Type) where
  controlPoints : Vector (Vec3 D) 4
  centerIndex : UInt32
  materialIndex : UInt32
  deriving DecidableEq

/-- `V3dLineSegment`. -/
structure V3dLineSegment (D : Type) where
  endpoints : Vector (Vec3 D) 2
  centerIndex : UInt32
  materialIndex : UInt32
  deriving DecidableEq

/-- `V3dPixel`, the one object without a centre. -/
structure V3dPixel (D : Type) where
  position : Vec3 D
  width : D
  materialIndex : UInt32
  deriving DecidableEq

/-- An object of a V3D file. -/
inductive V3dObject (D F : Type) where
  | bezierPatch (o : V3dBezierPatch D)
  | bezierTriangle (o : V3dBezierTriangle D)
  | bezierPatchColor (o : V3dBezierPatchWithCornerColors D F)
  | bezierTriangleColor (o : V3dBezierTriangleWithCornerColors D F)
  | quad (o : V3dStraightPlanarQuad D)
  | triangle (o : V3dStraightTriangle D)
  | quadColor (o : V3dStraightPlanarQuadWithCornerColors D F)
  | triangleColor (o : V3dStraightTriangleWithCornerColors D F)
  | triangles (o : V3dTriangleGroup D F)
  | sphere (o : V3dSphere D)
  | halfSphere (o : V3dHemiSphere D)
  | disk (o : V3dDisk D)
  | cylinder (o : V3dCylinder D)
  | tube (o : V3dTube D)
  | curve (o : V3dBezierCurve D)
  | line (o : V3dLineSegment D)
  | pixel (o : V3dPixel D)
  deriving DecidableEq

namespace V3dObject

variable {D F : Type}

/-- `V3dObject::centerIndex`: what `V3dFile::QueueMesh` reads. A pixel has none (0). -/
def centerIndex : V3dObject D F → UInt32
  | bezierPatch o => o.centerIndex
  | bezierTriangle o => o.centerIndex
  | bezierPatchColor o => o.centerIndex
  | bezierTriangleColor o => o.centerIndex
  | quad o => o.centerIndex
  | triangle o => o.centerIndex
  | quadColor o => o.centerIndex
  | triangleColor o => o.centerIndex
  | triangles o => o.centerIndex
  | sphere o => o.centerIndex
  | halfSphere o => o.centerIndex
  | disk o => o.centerIndex
  | cylinder o => o.centerIndex
  | tube o => o.centerIndex
  | curve o => o.centerIndex
  | line o => o.centerIndex
  | pixel _ => 0

end V3dObject

end OkularV3d
