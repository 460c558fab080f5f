import OkularV3d.Lib.Gate
import OkularV3d.Scene.Culling
import OkularV3d.Scene.Objects
import OkularV3d.Scene.VertexBuffer

/-!
# Bezier surfaces and curves in the vertex buffers

What an object does to the global vertex buffers while it queues its mesh is a list of effects:
`mark k` sets the `renderCount` of buffer `k` to zero (`notRendered`), `put k data` appends `data`
with the buffer's `extend` function (`append`). `BezierPatch` is the tessellator an object keeps
from frame to frame; `BezierCurve` is one of a single frame.

The subdivision itself (`BezierPatch::render`, `BezierTriangle::render`, `BezierCurve::render`) and
the tight bounds (`bound`, `boundtri`) are parameters, collected in `Tessellation`: the results
below hold whatever geometry they produce.

* `BezierPatch.queue` is the slow path of a surface and `BezierPatch.append` the fast one;
  `BezierPatch.leave` is an object that is left out.
* `flatKind`, `colorKind` and `surfaceKind` choose the buffer, by the alphas of the material or of
  the corners.
* `materialWord` is the word of a vertex, with the sign that says whether its colour counts.
* `BezierCurve.queue` draws a curve, or the segment between its ends where it is straight
  (`straightSegment`).
-/

namespace OkularV3d

open Gate

/-- What queueing a mesh does to the global vertex buffers. -/
abbrev Effects (F : Type) := List (Effect BufferKind (VertexData F))

/-- The subdivision algorithms. A surface is given the projection, the ratio of the resolution,
whether it is transparent, its corner colours if it has any, and the index its vertices carry; the
result is the geometry and whether nothing of it was culled (`Onscreen`). A curve always has the
vertices of its two ends. -/
structure Tessellation (D F : Type) where
  patchBounds : Vector (Vec3 D) 16 → Vec3 D × Vec3 D
  triangleBounds : Vector (Vec3 D) 10 → Vec3 D × Vec3 D
  curveBounds : Vector (Vec3 D) 4 → Vec3 D × Vec3 D
  patch : Mat4 D → D → Bool → Option (List (Vec4 F)) → Int32 → Vector (Vec3 D) 16 →
    VertexData F × Bool
  triangle : Mat4 D → D → Bool → Option (List (Vec4 F)) → Int32 → Vector (Vec3 D) 10 →
    VertexData F × Bool
  curve : Mat4 D → D → Int32 → Vector (Vec3 D) 4 → VertexData F × Bool
  curve_vertices : ∀ projViewMat ratio word p,
    (curve projViewMat ratio word p).1.materialVertices ≠ []

/-- The arguments of `QueueMesh`, with the globals it reads: the projection, the normal matrix, the
materials of the file and the pixels per big point. -/
structure QueueContext (D F : Type) where
  imageWidth : Int
  imageHeight : Int
  sceneMinBound : Vec3 D
  sceneMaxBound : Vec3 D
  remesh : Bool
  orthographic : Bool
  drawMode : DrawMode
  projViewMat : Mat4 D
  normMat : Mat3 D
  materials : List (V3dMaterial F)
  pixelsPerBp : D

namespace QueueContext

variable {D F : Type} [Scalar D] (ctx : QueueContext D F)

/-- Whether a box is fully offscreen. -/
def offscreen (box : Vec3 D × Vec3 D) : Bool := (BBox2.ofBox ctx.projViewMat box.1 box.2).offscreen

/-- `size3.length()/size2`: the size of the view at the front of the scene, per pixel. -/
def ratio : D :=
  let perspective : D :=
    if ctx.orthographic then Scalar.lit 0 else Scalar.lit 1 / ctx.sceneMaxBound.z
  let s : D :=
    if Scalar.eq perspective (Scalar.lit 0) then Scalar.lit 1
    else ctx.sceneMinBound.z * perspective
  let x := s * (ctx.sceneMaxBound.x - ctx.sceneMinBound.x)
  let y := s * (ctx.sceneMaxBound.y - ctx.sceneMinBound.y)
  Scalar.sqrt (x * x + y * y) / Scalar.hypotInt ctx.imageWidth ctx.imageHeight

end QueueContext

section Transparency

variable {F : Type} [Scalar F]

/-- Whether a material makes its object transparent: in `NORMAL` mode, by its diffuse alpha. -/
def materialTransparent (drawMode : DrawMode) (materials : List (V3dMaterial F))
    (materialIndex : UInt32) : Bool :=
  drawMode = .normal &&
    match materials[materialIndex.toNat]? with
    | some material => Scalar.lt material.diffuse.a (Scalar.lit 1)
    | none => false

/-- Whether corner colours make their object transparent: in `NORMAL` mode, by their alphas. -/
def cornersTransparent (drawMode : DrawMode) (colors : List (Vec4 F)) : Bool :=
  drawMode = .normal &&
    match colors with
    | [] => false
    | c :: cs =>
      Scalar.lt (cs.foldl (fun sum color => sum + color.a) c.a) (Scalar.lit colors.length)

/-- The buffer of an object whose colour is its material's. -/
def flatKind (transparent : Bool) : BufferKind := if transparent then .transparent else .material

/-- The buffer of an object with colours of its own. -/
def colorKind (transparent : Bool) : BufferKind := if transparent then .transparent else .color

/-- The buffer a surface goes to, as `BezierPatch::append` chooses it. -/
def surfaceKind (transparent color : Bool) : BufferKind :=
  if color then colorKind transparent else flatKind transparent

end Transparency

/-! ### Surfaces -/

/-- `BezierPatch` (and `BezierTriangle`): the geometry queued last, where it belongs, and whether
all of it was onscreen. -/
structure BezierPatch (F : Type) where
  data : VertexData F
  transparent : Bool
  color : Bool
  onscreen : Bool
  deriving DecidableEq

namespace BezierPatch

variable {D F : Type}

/-- A tessellator that has queued nothing yet. -/
def init : BezierPatch F := ⟨.empty, false, false, true⟩

/-- The global buffer `append` and `notRendered` choose. -/
def kind (S : BezierPatch F) : BufferKind :=
  if S.color then colorKind S.transparent else flatKind S.transparent

/-- `BezierPatch::append`. -/
def append (S : BezierPatch F) : Effects F := [.put S.kind S.data]

/-- `BezierPatch::notRendered`. -/
def notRendered (S : BezierPatch F) : Effects F := [.mark S.kind]

/-- `BezierPatch::init`: the index the vertices carry. -/
def materialWord (transparent color : Bool) (materialIndex : UInt32) : Int32 :=
  if transparent then
    if color then -1 - materialIndex.toInt32 else 1 + materialIndex.toInt32
  else materialIndex.toInt32

/-- `BezierPatch::queue`: `notRendered`, then the new geometry, which `render` appends at its
end. -/
def queue (built : VertexData F × Bool) (transparent color : Bool) : BezierPatch F × Effects F :=
  let S : BezierPatch F := ⟨built.1, transparent, color, built.2⟩
  (S, S.notRendered ++ S.append)

/-- What an object does with its tessellator when it is fully offscreen: `color` is taken to be
`NULL` before `notRendered` is asked. -/
def leave (transparent : Bool) : BezierPatch F × Effects F :=
  let S : BezierPatch F := ⟨.empty, transparent, false, false⟩
  (S, S.notRendered)

end BezierPatch

/-! ### Curves -/

/-- `BezierCurve::render` of a straight segment. -/
def straightSegment {D F : Type} [Scalar F] [Rounding D F] (materialIndex : UInt32)
    (p q : Vec3 D) : VertexData F :=
  let normal : Vec3 F := ⟨Scalar.lit 0, Scalar.lit 0, Scalar.lit 1⟩
  { VertexData.empty with
    materialVertices :=
      [⟨p.narrow, normal, materialIndex.toInt32⟩, ⟨q.narrow, normal, materialIndex.toInt32⟩]
    indices := [0, 1] }

/-- A tessellation may draw the ends of a curve and nothing else of it. -/
theorem straightSegment_vertices {D F : Type} [Scalar F] [Rounding D F] (_ : Mat4 D) (_ : D)
    (_ : Int32) (p : Vector (Vec3 D) 4) :
    (straightSegment 0 (p.get 0) (p.get 3) : VertexData F).materialVertices ≠ [] :=
  List.cons_ne_nil _ _

/-- `BezierCurve::queue`: `notRendered`, then the geometry, appended to the lines. -/
def BezierCurve.queue {F : Type} (data : VertexData F) : Effects F :=
  [.mark .line, .put .line data]

end OkularV3d
