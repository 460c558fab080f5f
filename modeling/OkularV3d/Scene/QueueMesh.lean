import OkularV3d.Scene.Bezier
import OkularV3d.Scene.Solids

/-!
# Queueing a scene

`QueueMesh` of every object class, and of a whole file. An object is asked in every frame; it
leaves its global buffers alone and returns early (offscreen), appends what it kept from an earlier
frame (the fast path, without `remesh`), or builds its geometry anew (the slow path). The file turns
the vertices a billboard has appended before it goes on.

* `queueSurface`, `queueColoredSurface`, `queueFlat` and `queueColoredFlat` are the code that
  several classes share, `queueTriangles` and `queuePatches` that of the solids. Each class has its
  own `QueueMesh` under them.
* `verticesBox`, `quadBox`, `triangleBox` and `lineBox` are the bounds of the classes that do not
  ask the library for them.
* `V3dTriangleGroup.mesh` builds the vertices of a group.

Which path is taken when, and what it leaves, is in `OkularV3d.Scene.QueuePath`.
-/

namespace OkularV3d

open Gate

variable {D F : Type} [Scalar D] [Scalar F] [Rounding D F]

/-! ### Bezier surfaces -/

/-- `QueueMesh` of a Bezier surface with a material: fully offscreen, as its boundary curves in
`OUTLINE` mode, as kept, or tessellated anew. -/
def queueSurface (T : Tessellation D F) (ctx : QueueContext D F) (box : Vec3 D × Vec3 D)
    (edges : List (Vector (Vec3 D) 4)) (materialIndex : UInt32)
    (tessellate : Bool → Int32 → VertexData F × Bool) (S : BezierPatch F) :
    BezierPatch F × Effects F :=
  let transparent := materialTransparent ctx.drawMode ctx.materials materialIndex
  if ctx.offscreen box then BezierPatch.leave transparent
  else if ctx.drawMode = .outline then
    (S, edges.flatMap fun edge =>
      BezierCurve.queue (T.curve ctx.projViewMat ctx.ratio materialIndex.toInt32 edge).1)
  else if !ctx.remesh && S.onscreen then (S, S.append)
  else
    BezierPatch.queue
      (tessellate transparent (BezierPatch.materialWord transparent false materialIndex))
      transparent false

/-- `V3dBezierPatch::QueueMesh`. -/
def V3dBezierPatch.QueueMesh (T : Tessellation D F) (ctx : QueueContext D F) (o : V3dBezierPatch D)
    (S : BezierPatch F) : BezierPatch F × Effects F :=
  let p := o.controlPoints
  queueSurface T ctx (T.patchBounds p)
    [#v[p[0], p[4], p[8], p[12]], #v[p[12], p[13], p[14], p[15]], #v[p[15], p[11], p[7], p[3]],
      #v[p[3], p[2], p[1], p[0]]]
    o.materialIndex (fun transparent word => T.patch ctx.projViewMat ctx.ratio
      transparent none word p)
    S

/-- `V3dBezierTriangle::QueueMesh`. -/
def V3dBezierTriangle.QueueMesh (T : Tessellation D F) (ctx : QueueContext D F)
    (o : V3dBezierTriangle D) (S : BezierPatch F) : BezierPatch F × Effects F :=
  let p := o.controlPoints
  queueSurface T ctx (T.triangleBounds p)
    [#v[p[0], p[1], p[3], p[6]], #v[p[6], p[7], p[8], p[9]], #v[p[9], p[5], p[2], p[0]]]
    o.materialIndex
    (fun transparent word => T.triangle ctx.projViewMat ctx.ratio transparent none word p) S

/-- `QueueMesh` of a Bezier surface with corner colours. In `OUTLINE` mode a surface without them,
built for the frame, is queued in its place. -/
def queueColoredSurface (ctx : QueueContext D F) (box : Vec3 D × Vec3 D) (outline : Effects F)
    (cornerColors : List (Vec4 F)) (materialIndex : UInt32)
    (tessellate : Bool → Int32 → VertexData F × Bool) (S : BezierPatch F) :
    BezierPatch F × Effects F :=
  if ctx.drawMode = .outline then (S, outline)
  else
    let transparent := cornersTransparent ctx.drawMode cornerColors
    if ctx.offscreen box then BezierPatch.leave transparent
    else if !ctx.remesh && S.onscreen then (S, S.append)
    else
      BezierPatch.queue
        (tessellate transparent (BezierPatch.materialWord transparent true materialIndex))
        transparent true

/-- `V3dBezierPatchWithCornerColors::QueueMesh`. -/
def V3dBezierPatchWithCornerColors.QueueMesh (T : Tessellation D F) (ctx : QueueContext D F)
    (o : V3dBezierPatchWithCornerColors D F) (S : BezierPatch F) : BezierPatch F × Effects F :=
  let plain : V3dBezierPatch D := ⟨o.controlPoints, o.centerIndex, o.materialIndex⟩
  let corners := o.cornerColors.toList
  queueColoredSurface ctx (T.patchBounds o.controlPoints)
    (plain.QueueMesh T { ctx with remesh := true } .init).2 corners o.materialIndex
    (fun transparent word =>
      T.patch ctx.projViewMat ctx.ratio transparent (some corners) word o.controlPoints)
    S

/-- `V3dBezierTriangleWithCornerColors::QueueMesh`. -/
def V3dBezierTriangleWithCornerColors.QueueMesh (T : Tessellation D F) (ctx : QueueContext D F)
    (o : V3dBezierTriangleWithCornerColors D F) (S : BezierPatch F) :
    BezierPatch F × Effects F :=
  let plain : V3dBezierTriangle D := ⟨o.controlPoints, o.centerIndex, o.materialIndex⟩
  let corners := o.cornerColors.toList
  queueColoredSurface ctx (T.triangleBounds o.controlPoints)
    (plain.QueueMesh T ctx .init).2 corners o.materialIndex
    (fun transparent word =>
      T.triangle ctx.projViewMat ctx.ratio transparent (some corners) word o.controlPoints)
    S

/-! ### Straight polygons -/

/-- What a straight polygon keeps: `S`, `quadOnscreen` or `triOnscreen`, and `S_color`. -/
structure FlatState (F : Type) where
  S : VertexData F
  onscreen : Bool
  S_color : Bool
  deriving DecidableEq

/-- A polygon that has queued nothing yet. -/
def FlatState.init : FlatState F := ⟨.empty, true, false⟩

/-- The bounds of the vertices of a polygon. -/
def verticesBox (v : Vec3 D) (vs : List (Vec3 D)) : Vec3 D × Vec3 D :=
  vs.foldl (fun (m, M) p =>
      (⟨Scalar.min m.x p.x, Scalar.min m.y p.y, Scalar.min m.z p.z⟩,
        ⟨Scalar.max M.x p.x, Scalar.max M.y p.y, Scalar.max M.z p.z⟩))
    (v, v)

/-- A triangle of a polygon: its corners, with the numbers their vertices have in `S`. -/
structure Corners (D : Type) where
  points : Vec3 D × Vec3 D × Vec3 D
  indices : List UInt32

/-- Whether a triangle is offscreen by itself. -/
def Corners.offscreen (ctx : QueueContext D F) (t : Corners D) : Bool :=
  let (p, q, r) := t.points
  (BBox2.ofPoints ctx.projViewMat p [q, r]).offscreen

/-- The indices of the triangles that are not offscreen. -/
def cornerIndices (ctx : QueueContext D F) (ts : List (Corners D)) : List UInt32 :=
  (ts.filter fun t => !t.offscreen ctx).flatMap Corners.indices

/-- The boundary of a polygon in `OUTLINE` mode. -/
def queueBoundary (materialIndex : UInt32) (edges : List (Vec3 D × Vec3 D)) : Effects F :=
  edges.flatMap fun (p, q) => BezierCurve.queue (straightSegment materialIndex p q)

/-- `QueueMesh` of a straight polygon with a material. -/
def queueFlat (ctx : QueueContext D F) (box : Vec3 D × Vec3 D) (points : List (Vec3 D))
    (edges : List (Vec3 D × Vec3 D)) (ts : List (Corners D)) (normal : Vec3 D)
    (centerIndex materialIndex : UInt32) (st : FlatState F) : FlatState F × Effects F :=
  let transparent := materialTransparent ctx.drawMode ctx.materials materialIndex
  if ctx.offscreen box then
    ({ st with S := .empty, onscreen := false }, [.mark (flatKind transparent)])
  else if ctx.drawMode = .outline then (st, queueBoundary materialIndex edges)
  else if !ctx.remesh && st.onscreen && centerIndex == 0 then
    (st, [.put (flatKind st.S_color) st.S])
  else
    let indices := cornerIndices ctx ts
    let S : VertexData F :=
      if transparent then
        let zero : F := Scalar.lit 0
        let word := (1 + materialIndex).toInt32
        { VertexData.empty with
          colorVertices :=
            points.map fun p => ⟨p.narrow, normal.narrow, word, ⟨zero, zero, zero, zero⟩⟩
          indices }
      else
        { VertexData.empty with
          materialVertices := points.map fun p => ⟨p.narrow, normal.narrow, materialIndex.toInt32⟩
          indices }
    (⟨S, ts.all fun t => !t.offscreen ctx, transparent⟩,
      [.mark (flatKind transparent), .put (flatKind transparent) S])

/-- `QueueMesh` of a straight polygon with corner colours. -/
def queueColoredFlat (ctx : QueueContext D F) (box : Vec3 D × Vec3 D)
    (points : List (Vec3 D × Vec4 F)) (edges : List (Vec3 D × Vec3 D)) (ts : List (Corners D))
    (normal : Vec3 D) (centerIndex materialIndex : UInt32) (st : FlatState F) :
    FlatState F × Effects F :=
  if ctx.offscreen box then
    -- the buffer is chosen by `S_color` here, not by transparency
    ({ st with S := .empty, onscreen := false }, [.mark (colorKind st.S_color)])
  else if ctx.drawMode = .outline then (st, queueBoundary materialIndex edges)
  else
    let transparent := cornersTransparent ctx.drawMode (points.map Prod.snd)
    if !ctx.remesh && st.onscreen && centerIndex == 0 then
      (st, [.put (colorKind transparent) st.S])
    else
      let S : VertexData F :=
        { VertexData.empty with
          colorVertices :=
            points.map fun (p, color) =>
              ⟨p.narrow, normal.narrow, -1 - materialIndex.toInt32, color⟩
          indices := cornerIndices ctx ts }
      (⟨S, ts.all fun t => !t.offscreen ctx, true⟩,
        [.mark (colorKind transparent), .put (colorKind transparent) S])

/-- The edges of a quadrilateral. -/
def quadEdges (p : Vector (Vec3 D) 4) : List (Vec3 D × Vec3 D) :=
  [(p[0], p[1]), (p[1], p[2]), (p[2], p[3]), (p[3], p[0])]

/-- The two triangles of a quadrilateral. -/
def quadCorners (p : Vector (Vec3 D) 4) : List (Corners D) :=
  [⟨(p[0], p[1], p[2]), [0, 1, 2]⟩, ⟨(p[0], p[2], p[3]), [0, 2, 3]⟩]

/-- The edges of a triangle. -/
def triangleEdges (p : Vector (Vec3 D) 3) : List (Vec3 D × Vec3 D) :=
  [(p[0], p[1]), (p[1], p[2]), (p[2], p[0])]

/-- The normal of a polygon, from its first three vertices. -/
def polygonNormal (p q r : Vec3 D) : Vec3 D := Vec3.normalize (Vec3.cross (q - p) (r - p))

/-! The bounds, the corners, the ends and the normal of an object, from its vertices. -/

abbrev quadBox (p : Vector (Vec3 D) 4) : Vec3 D × Vec3 D := verticesBox p[0] [p[1], p[2], p[3]]

abbrev triangleBox (p : Vector (Vec3 D) 3) : Vec3 D × Vec3 D := verticesBox p[0] [p[1], p[2]]

abbrev lineBox (p : Vector (Vec3 D) 2) : Vec3 D × Vec3 D := verticesBox p[0] [p[1]]

abbrev triangleCorners (p : Vector (Vec3 D) 3) : List (Corners D) :=
  [⟨(p[0], p[1], p[2]), [0, 1, 2]⟩]

abbrev lineEnds (p : Vector (Vec3 D) 2) : List (Vec3 D) := [p[0], p[1]]

abbrev quadNormal (p : Vector (Vec3 D) 4) : Vec3 D := polygonNormal p[0] p[1] p[2]

abbrev triangleNormal (p : Vector (Vec3 D) 3) : Vec3 D := polygonNormal p[0] p[1] p[2]

/-- `V3dStraightPlanarQuad::QueueMesh`. -/
def V3dStraightPlanarQuad.QueueMesh (ctx : QueueContext D F) (o : V3dStraightPlanarQuad D) :
    FlatState F → FlatState F × Effects F :=
  let p := o.vertices
  queueFlat ctx (verticesBox p[0] [p[1], p[2], p[3]]) p.toList (quadEdges p) (quadCorners p)
    (polygonNormal p[0] p[1] p[2]) o.centerIndex o.materialIndex

/-- `V3dStraightTriangle::QueueMesh`. -/
def V3dStraightTriangle.QueueMesh (ctx : QueueContext D F) (o : V3dStraightTriangle D) :
    FlatState F → FlatState F × Effects F :=
  let p := o.vertices
  queueFlat ctx (verticesBox p[0] [p[1], p[2]]) p.toList (triangleEdges p)
    [⟨(p[0], p[1], p[2]), [0, 1, 2]⟩] (polygonNormal p[0] p[1] p[2]) o.centerIndex o.materialIndex

/-- `V3dStraightPlanarQuadWithCornerColors::QueueMesh`. -/
def V3dStraightPlanarQuadWithCornerColors.QueueMesh (ctx : QueueContext D F)
    (o : V3dStraightPlanarQuadWithCornerColors D F) : FlatState F → FlatState F × Effects F :=
  let p := o.vertices
  queueColoredFlat ctx (verticesBox p[0] [p[1], p[2], p[3]])
    (p.toList.zip o.cornerColors.toList) (quadEdges p) (quadCorners p)
    (polygonNormal p[0] p[1] p[2]) o.centerIndex o.materialIndex

/-- `V3dStraightTriangleWithCornerColors::QueueMesh`. -/
def V3dStraightTriangleWithCornerColors.QueueMesh (ctx : QueueContext D F)
    (o : V3dStraightTriangleWithCornerColors D F) : FlatState F → FlatState F × Effects F :=
  let p := o.vertices
  queueColoredFlat ctx (verticesBox p[0] [p[1], p[2]]) (p.toList.zip o.cornerColors.toList)
    (triangleEdges p) [⟨(p[0], p[1], p[2]), [0, 1, 2]⟩] (polygonNormal p[0] p[1] p[2])
    o.centerIndex o.materialIndex

/-! ### Objects that keep `vertexData` -/

/-- What a triangle group, a curve and a line keep: `vertexData` and `fullyOnscreen`. -/
structure KeptMesh (F : Type) where
  vertexData : VertexData F
  fullyOnscreen : Bool
  deriving DecidableEq

/-- An object that has queued nothing yet. -/
def KeptMesh.init : KeptMesh F := ⟨.empty, false⟩

/-- Whether some triangle of a group has corner alphas that add up to less than 3. -/
def V3dTriangleGroup.cornersTransparent (o : V3dTriangleGroup D F) : Bool :=
  o.triangles.any fun t =>
    let (i, j, k) := t.colors
    match o.vertexColorArray[i.toNat]?, o.vertexColorArray[j.toNat]?,
      o.vertexColorArray[k.toNat]? with
    | some c, some c', some c'' => Scalar.lt (c.a + c'.a + c''.a) (Scalar.lit 3)
    | _, _, _ => false

/-- The mesh of a group: one vertex for each position, with the normal and the colour of the same
number, and the triangles whose positions exist. -/
def V3dTriangleGroup.mesh (o : V3dTriangleGroup D F) : VertexData F :=
  let zero : F := Scalar.lit 0
  let black : Vec4 F := ⟨zero, zero, zero, zero⟩
  let colored := !o.vertexColorArray.isEmpty
  let word : Int32 :=
    if colored then -1 - o.materialIndex.toInt32 else 1 + o.materialIndex.toInt32
  { VertexData.empty with
    colorVertices := o.vertexPositions.mapIdx fun i position =>
      let normal := o.vertexNormalArray.getD i ⟨Scalar.lit 0, Scalar.lit 0, Scalar.lit 1⟩
      ⟨position.narrow, normal.narrow, word, o.vertexColorArray.getD i black⟩
    indices := o.triangles.flatMap fun t =>
      let (i, j, k) := t.positions
      let nP := o.vertexPositions.length
      if i.toNat < nP ∧ j.toNat < nP ∧ k.toNat < nP then [i, j, k] else [] }

/-- `V3dTriangleGroup::QueueMesh`. The buffer whose counter is reset, and the one the fast path
appends to, are chosen by the material; the slow path appends by the corner alphas as well. -/
def V3dTriangleGroup.QueueMesh (ctx : QueueContext D F) (o : V3dTriangleGroup D F)
    (st : KeptMesh F) : KeptMesh F × Effects F :=
  if o.triangles.isEmpty || o.vertexPositions.isEmpty then (st, [])
  else if ctx.drawMode = .outline then (st, [])
  else if ctx.offscreen (ctx.sceneMinBound, ctx.sceneMaxBound) then
    (⟨.empty, false⟩, [.mark .transparent, .mark .color])
  else
    let byMaterial := materialTransparent ctx.drawMode ctx.materials o.materialIndex
    if !ctx.remesh && st.fullyOnscreen && o.centerIndex == 0 then
      (st, [.put (colorKind byMaterial) st.vertexData])
    else
      let transparent :=
        byMaterial || (!o.vertexColorArray.isEmpty && o.cornersTransparent)
      (⟨o.mesh, true⟩, [.mark (colorKind byMaterial), .put (colorKind transparent) o.mesh])

/-- `V3dBezierCurve::QueueMesh`. Its fast path appends to the materials. -/
def V3dBezierCurve.QueueMesh (T : Tessellation D F) (ctx : QueueContext D F) (o : V3dBezierCurve D)
    (st : KeptMesh F) : KeptMesh F × Effects F :=
  if ctx.offscreen (T.curveBounds o.controlPoints) then
    (⟨.empty, false⟩, [.mark .transparent, .mark .material])
  else if !ctx.remesh && st.fullyOnscreen && o.centerIndex == 0 then
    (st, [.put .material st.vertexData])
  else
    let (data, onscreen) :=
      T.curve ctx.projViewMat ctx.ratio o.materialIndex.toInt32 o.controlPoints
    (⟨data, onscreen⟩, BezierCurve.queue data)

/-- `V3dLineSegment::QueueMesh`. -/
def V3dLineSegment.QueueMesh (ctx : QueueContext D F) (o : V3dLineSegment D) (_ : KeptMesh F) :
    KeptMesh F × Effects F :=
  if ctx.offscreen (verticesBox o.endpoints[0] [o.endpoints[1]]) then
    (⟨.empty, false⟩, [.mark .transparent, .mark .material])
  else
    let data := straightSegment o.materialIndex o.endpoints[0] o.endpoints[1]
    (⟨data, true⟩, BezierCurve.queue data)

/-! ### Objects that keep nothing -/

/-- `V3dPixel::QueueMesh`. -/
def V3dPixel.QueueMesh (ctx : QueueContext D F) (o : V3dPixel D) : Effects F :=
  let h := Scalar.lit (1 / 2) * o.width / ctx.pixelsPerBp
  let H : Vec3 D := ⟨h, h, h⟩
  if ctx.offscreen (o.position - H, o.position + H) then [.mark .point]
  else
    let data : VertexData F :=
      { VertexData.empty with
        pointVertices := [⟨o.position.narrow, Rounding.narrow o.width, o.materialIndex.toInt32⟩]
        indices := [0] }
    [.mark .point, .put .point data]

/-- The Bezier triangles of a sphere or hemisphere, built and queued. -/
def queueTriangles (T : Tessellation D F) (ctx : QueueContext D F)
    (triangles : List (Vector (Vec3 D) 10)) (centerIndex materialIndex : UInt32) : Effects F :=
  triangles.flatMap fun p =>
    (V3dBezierTriangle.QueueMesh T { ctx with remesh := true } ⟨p, centerIndex, materialIndex⟩
      .init).2

/-- The Bezier patches of a disk, cylinder or tube, built and queued. -/
def queuePatches (T : Tessellation D F) (ctx : QueueContext D F)
    (patches : List (Vector (Vec3 D) 16)) (centerIndex materialIndex : UInt32) : Effects F :=
  patches.flatMap fun p =>
    (V3dBezierPatch.QueueMesh T { ctx with remesh := true } ⟨p, centerIndex, materialIndex⟩ .init).2

/-- `V3dSphere::QueueMesh`. -/
def V3dSphere.QueueMesh (T : Tessellation D F) (ctx : QueueContext D F) (o : V3dSphere D) :
    Effects F :=
  queueTriangles T ctx o.triangles o.centerIndex o.materialIndex

/-- `V3dHemiSphere::QueueMesh`. -/
def V3dHemiSphere.QueueMesh (T : Tessellation D F) (ctx : QueueContext D F)
    (o : V3dHemiSphere D) : Effects F :=
  queueTriangles T ctx o.triangles o.centerIndex o.materialIndex

/-- `V3dDisk::QueueMesh`. -/
def V3dDisk.QueueMesh (T : Tessellation D F) (ctx : QueueContext D F) (o : V3dDisk D) :
    Effects F :=
  queuePatches T ctx [o.patch] o.centerIndex o.materialIndex

/-- The core line of a cylinder, built and queued. -/
def V3dCylinder.coreLine (o : V3dCylinder D) : V3dLineSegment D :=
  ⟨#v[o.coreEnds.1, o.coreEnds.2], o.centerIndex, o.materialIndex⟩

/-- `V3dCylinder::QueueMesh`. -/
def V3dCylinder.QueueMesh (T : Tessellation D F) (ctx : QueueContext D F) (o : V3dCylinder D) :
    Effects F :=
  queuePatches T ctx o.patches o.centerIndex o.materialIndex ++
    if o.core then (o.coreLine.QueueMesh { ctx with remesh := true } .init).2 else []

/-- The core curve of a tube. -/
def V3dTube.coreCurve (o : V3dTube D) : V3dBezierCurve D :=
  ⟨o.controlPoints, o.centerIndex, o.materialIndex⟩

/-- `V3dTube::QueueMesh`. -/
def V3dTube.QueueMesh (T : Tessellation D F) (ctx : QueueContext D F) (o : V3dTube D) :
    Effects F :=
  queuePatches T ctx o.patches o.centerIndex o.materialIndex ++
    if o.core then (o.coreCurve.QueueMesh T { ctx with remesh := true } .init).2 else []

end OkularV3d
