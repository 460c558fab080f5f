import OkularV3d.Scene.QueueMesh

/-!
# The scene of a file

`SceneObject` is an object with what it keeps between frames, `V3dFile` the scene of one file.
`V3dFile.QueueMesh` asks every object in turn, turns what a billboard has appended, and returns the
effects of each object; `Buffers.apply` is what these do to the global vertex buffers.

* `SceneObject.QueueMesh` dispatches on the class and `V3dFile.turn` is what happens to a
  billboard's vertices after it.
* `V3dFile.center?` is the centre an object turns around.
* `Buffers.effect` is one effect on the global buffers, `Buffers.apply` a list of them and
  `Buffers.clear` what precedes a frame.
-/

namespace OkularV3d

open Gate

/-- An object of a scene and what its class keeps between frames. -/
inductive SceneObject (D F : Type) where
  | bezierPatch (o : V3dBezierPatch D) (S : BezierPatch F)
  | bezierTriangle (o : V3dBezierTriangle D) (S : BezierPatch F)
  | bezierPatchColor (o : V3dBezierPatchWithCornerColors D F) (S : BezierPatch F)
  | bezierTriangleColor (o : V3dBezierTriangleWithCornerColors D F) (S : BezierPatch F)
  | quad (o : V3dStraightPlanarQuad D) (st : FlatState F)
  | triangle (o : V3dStraightTriangle D) (st : FlatState F)
  | quadColor (o : V3dStraightPlanarQuadWithCornerColors D F) (st : FlatState F)
  | triangleColor (o : V3dStraightTriangleWithCornerColors D F) (st : FlatState F)
  | triangles (o : V3dTriangleGroup D F) (st : KeptMesh F)
  | sphere (o : V3dSphere D)
  | halfSphere (o : V3dHemiSphere D)
  | disk (o : V3dDisk D)
  | cylinder (o : V3dCylinder D)
  | tube (o : V3dTube D)
  | curve (o : V3dBezierCurve D) (st : KeptMesh F)
  | line (o : V3dLineSegment D) (st : KeptMesh F)
  | pixel (o : V3dPixel D)

namespace SceneObject

variable {D F : Type}

/-- An object as its constructor leaves it. -/
def ofObject : V3dObject D F → SceneObject D F
  | .bezierPatch o => .bezierPatch o .init
  | .bezierTriangle o => .bezierTriangle o .init
  | .bezierPatchColor o => .bezierPatchColor o .init
  | .bezierTriangleColor o => .bezierTriangleColor o .init
  | .quad o => .quad o .init
  | .triangle o => .triangle o .init
  | .quadColor o => .quadColor o .init
  | .triangleColor o => .triangleColor o .init
  | .triangles o => .triangles o .init
  | .sphere o => .sphere o
  | .halfSphere o => .halfSphere o
  | .disk o => .disk o
  | .cylinder o => .cylinder o
  | .tube o => .tube o
  | .curve o => .curve o .init
  | .line o => .line o .init
  | .pixel o => .pixel o

/-- The object without what it keeps. -/
def object : SceneObject D F → V3dObject D F
  | bezierPatch o _ => .bezierPatch o
  | bezierTriangle o _ => .bezierTriangle o
  | bezierPatchColor o _ => .bezierPatchColor o
  | bezierTriangleColor o _ => .bezierTriangleColor o
  | quad o _ => .quad o
  | triangle o _ => .triangle o
  | quadColor o _ => .quadColor o
  | triangleColor o _ => .triangleColor o
  | triangles o _ => .triangles o
  | sphere o => .sphere o
  | halfSphere o => .halfSphere o
  | disk o => .disk o
  | cylinder o => .cylinder o
  | tube o => .tube o
  | curve o _ => .curve o
  | line o _ => .line o
  | pixel o => .pixel o

variable [Scalar D] [Scalar F] [Rounding D F]

/-- The virtual `V3dObject::QueueMesh`. -/
def QueueMesh (T : Tessellation D F) (ctx : QueueContext D F) :
    SceneObject D F → SceneObject D F × Effects F
  | bezierPatch o S => (o.QueueMesh T ctx S).map (bezierPatch o) id
  | bezierTriangle o S => (o.QueueMesh T ctx S).map (bezierTriangle o) id
  | bezierPatchColor o S => (o.QueueMesh T ctx S).map (bezierPatchColor o) id
  | bezierTriangleColor o S => (o.QueueMesh T ctx S).map (bezierTriangleColor o) id
  | quad o st => (o.QueueMesh ctx st).map (quad o) id
  | triangle o st => (o.QueueMesh ctx st).map (triangle o) id
  | quadColor o st => (o.QueueMesh ctx st).map (quadColor o) id
  | triangleColor o st => (o.QueueMesh ctx st).map (triangleColor o) id
  | triangles o st => (o.QueueMesh ctx st).map (triangles o) id
  | sphere o => (sphere o, o.QueueMesh T ctx)
  | halfSphere o => (halfSphere o, o.QueueMesh T ctx)
  | disk o => (disk o, o.QueueMesh T ctx)
  | cylinder o => (cylinder o, o.QueueMesh T ctx)
  | tube o => (tube o, o.QueueMesh T ctx)
  | curve o st => (o.QueueMesh T ctx st).map (curve o) id
  | line o st => (o.QueueMesh ctx st).map (line o) id
  | pixel o => (pixel o, o.QueueMesh ctx)

end SceneObject

/-! ### Files -/

/-- What `RenderModel` uses of a `V3dFile`. -/
structure V3dFile (D F : Type) where
  objects : List (SceneObject D F)
  centers : List (Vec3 D)
  materials : List (V3dMaterial F)
  lights : List (Light D F)
  canvasWidth : UInt32
  orthographic : Bool

/-- The centre a billboard turns around: `centerIndex` counts from 1. -/
def V3dFile.center? {D F : Type} (file : V3dFile D F) (o : SceneObject D F) : Option (Vec3 D) :=
  let ci := o.object.centerIndex
  if 0 < ci ∧ ci.toNat ≤ file.centers.length then file.centers[ci.toNat - 1]? else none

/-- The vertices of an appended piece after `f` has moved them. The transparent and the point
vertices of a billboard stay where they are. -/
def VertexData.mapPositions {F : Type} (f : Vec3 F → Vec3 F) (kind : BufferKind)
    (data : VertexData F) : VertexData F :=
  match kind with
  | .material | .line =>
    { data with
      materialVertices := data.materialVertices.map fun v => { v with position := f v.position } }
  | .color =>
    { data with
      colorVertices := data.colorVertices.map fun v => { v with position := f v.position } }
  | .transparent | .triangle | .point => data

variable {D F : Type} [Scalar D] [Scalar F] [Rounding D F]

/-- The effects of an object once its billboard is turned. -/
def V3dFile.turn (file : V3dFile D F) (normMat : Mat3 D) (o : SceneObject D F) (es : Effects F) :
    Effects F :=
  match file.center? o with
  | none => es
  | some center =>
    es.map (Effect.map fun kind data =>
      data.mapPositions (billboardTransform normMat center.narrow) kind)

/-- `V3dFile::QueueMesh`: the file after it, and the effects of each object. -/
def V3dFile.QueueMesh (T : Tessellation D F) (ctx : QueueContext D F) (file : V3dFile D F) :
    V3dFile D F × List (Effects F) :=
  let queued := file.objects.map fun o => o.QueueMesh T ctx
  ({ file with objects := queued.map Prod.fst },
    List.zipWith (file.turn ctx.normMat) file.objects (queued.map Prod.snd))

/-! ### The global buffers -/

/-- What an effect does to the global vertex buffers. -/
def Buffers.effect {F : Type} (buffers : Buffers F) :
    Effect BufferKind (VertexData F) → Buffers F
  | .mark kind => fun k =>
    if k = kind then { buffers kind with renderCount := 0 } else buffers k
  | .put kind data => fun k =>
    if k = kind then { buffers kind with data := .extend kind (buffers kind).data data }
    else buffers k

/-- What a list of effects does to them. -/
def Buffers.apply {F : Type} (buffers : Buffers F) (es : Effects F) : Buffers F :=
  es.foldl Buffers.effect buffers

/-- `clearData()`: all but `triangleData`. -/
def Buffers.clear {F : Type} (buffers : Buffers F) : Buffers F := fun k =>
  if k = .triangle then buffers k else { buffers k with data := .empty }

end OkularV3d
