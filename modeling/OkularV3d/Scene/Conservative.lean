import OkularV3d.Scene.Exact
import OkularV3d.Scene.Billboards

/-!
# Conservative culling

What the objects of a scene leave out of a frame: the whole geometry of an object whose bounds come
out offscreen, and single triangles of a polygon. `V3dFile.CullsConservatively` asks that nothing of
it would have been drawn.

The test is made on the eight corners of the bounds (or on the corners of the triangle), as they are
before the billboard is turned, and each corner is divided by its own `w`.
`V3dFile.cullsConservatively` proves the test right where these two things do no harm: the corners
are on one side of the eye, and what is drawn lies between them.

* `Cull` is geometry left out after a test. `SceneObject.leftOut` lists what an object leaves out in
  a frame, for all classes; `SceneObject.exists_leftOut_of_returns` says that an object which
  returns early has left out the whole of its geometry.
* `SceneObject.guarded_of_mem_leftOut` says that what is left out lies between the points of its
  test, where the boxes tested in the frame are true bounds (`SceneObject.TrueBounds`).
* `TestsWhatIsDrawn` is the condition. `farLabel` is a turned billboard that breaks it, `astride` a
  triangle on both sides of the eye.
* `Tessellation.withControlBounds` has the boxes of the control points, which are true bounds of
  everything (`Tessellation.trueBounds_withControlBounds`).
-/

namespace OkularV3d

variable {K : Type} [ExactScalar K]

/-! ### Curves and surfaces -/

/-- One coordinate of a cubic Bezier curve. -/
def cubic (a b c d t : K) : K :=
  (1 - t) ^ 3 * a + 3 * (1 - t) ^ 2 * t * b + 3 * (1 - t) * t ^ 2 * c + t ^ 3 * d

/-- A point of a cubic Bezier curve. -/
def curvePoint (p : Vector (Vec3 K) 4) (t : K) : Vec3 K :=
  ⟨cubic (p.get 0).x (p.get 1).x (p.get 2).x (p.get 3).x t,
    cubic (p.get 0).y (p.get 1).y (p.get 2).y (p.get 3).y t,
    cubic (p.get 0).z (p.get 1).z (p.get 2).z (p.get 3).z t⟩

/-- A point of a bicubic Bezier patch. -/
def patchPoint (p : Vector (Vec3 K) 16) (u v : K) : Vec3 K :=
  curvePoint
    #v[curvePoint #v[p.get 0, p.get 1, p.get 2, p.get 3] v,
      curvePoint #v[p.get 4, p.get 5, p.get 6, p.get 7] v,
      curvePoint #v[p.get 8, p.get 9, p.get 10, p.get 11] v,
      curvePoint #v[p.get 12, p.get 13, p.get 14, p.get 15] v]
    u

/-- One coordinate of a cubic Bezier triangle, in barycentric coordinates. -/
def triangleCubic (a : Fin 10 → K) (u v w : K) : K :=
  u ^ 3 * a 0 + 3 * u ^ 2 * v * a 1 + 3 * u ^ 2 * w * a 2 + 3 * u * v ^ 2 * a 3 +
    6 * u * v * w * a 4 + 3 * u * w ^ 2 * a 5 + v ^ 3 * a 6 + 3 * v ^ 2 * w * a 7 +
    3 * v * w ^ 2 * a 8 + w ^ 3 * a 9

/-- A point of a cubic Bezier triangle. -/
def trianglePoint (p : Vector (Vec3 K) 10) (u v w : K) : Vec3 K :=
  ⟨triangleCubic (fun i => p[i].x) u v w, triangleCubic (fun i => p[i].y) u v w,
    triangleCubic (fun i => p[i].z) u v w⟩

/-- A Bezier curve. -/
def curveSet (p : Vector (Vec3 K) 4) : Set (Vec3 K) := {q | ∃ t, 0 ≤ t ∧ t ≤ 1 ∧ q = curvePoint p t}

/-- A Bezier patch. -/
def patchSet (p : Vector (Vec3 K) 16) : Set (Vec3 K) :=
  {q | ∃ u v, 0 ≤ u ∧ u ≤ 1 ∧ 0 ≤ v ∧ v ≤ 1 ∧ q = patchPoint p u v}

/-- A Bezier triangle. -/
def triangleSet (p : Vector (Vec3 K) 10) : Set (Vec3 K) :=
  {q | ∃ u v w, 0 ≤ u ∧ 0 ≤ v ∧ 0 ≤ w ∧ u + v + w = 1 ∧ q = trianglePoint p u v w}

/-- All bounds of the library are bounds of what they are computed for. -/
structure Tessellation.TrueBounds (T : Tessellation K K) : Prop where
  patch : ∀ p, ∀ q ∈ patchSet p, InBox (T.patchBounds p) q
  triangle : ∀ p, ∀ q ∈ triangleSet p, InBox (T.triangleBounds p) q
  curve : ∀ p, ∀ q ∈ curveSet p, InBox (T.curveBounds p) q

/-! ### What is left out -/

/-- Geometry left out after a test: the points whose projections were bounded, the points that are
missing from the frame, and the buffer they would have gone to. -/
structure Cull (K : Type) where
  first : Vec3 K
  others : List (Vec3 K)
  geometry : Set (Vec3 K)
  kind : BufferKind

namespace Cull

/-- The points of the test. -/
def tested (c : Cull K) : List (Vec3 K) := c.first :: c.others

/-- Geometry left out because its bounds are offscreen. -/
def ofBox (box : Vec3 K × Vec3 K) (geometry : Set (Vec3 K)) (kind : BufferKind) : Cull K :=
  ⟨box.1, (boxCorners box).tail, geometry, kind⟩

/-- A single triangle left out. -/
def ofCorners (kind : BufferKind) (t : Corners K) : Cull K :=
  let (p, q, r) := t.points
  ⟨p, [q, r], Vec3.hull [p, q, r], kind⟩

/-- The verdict of the test. -/
def offscreen (projViewMat : Mat4 K) (c : Cull K) : Bool :=
  (BBox2.ofPoints projViewMat c.first c.others).offscreen

end Cull

variable (T : Tessellation K K) (ctx : QueueContext K K)

/-- The buffer of a surface: in `OUTLINE` mode its boundary goes to the lines. -/
def QueueContext.meshKind (kind : BufferKind) : BufferKind :=
  if ctx.drawMode = .outline then .line else kind

/-- What an object leaves out that is only tested as a whole. -/
def boxLeftOut (box : Vec3 K × Vec3 K) (geometry : Set (Vec3 K)) (kind : BufferKind) :
    List (Cull K) :=
  if ctx.offscreen box then [.ofBox box geometry kind] else []

/-- What a straight polygon leaves out: in the slow path it tests its triangles one by one. -/
def polygonLeftOut (box : Vec3 K × Vec3 K) (ts : List (Corners K)) (kind : BufferKind)
    (fast : Bool) : List (Cull K) :=
  if ctx.offscreen box then
    [.ofBox box {p | ∃ t ∈ ts, p ∈ (Cull.ofCorners kind t).geometry} kind]
  else if ctx.drawMode = .outline then []
  else if fast then []
  else (ts.filter fun t => t.offscreen ctx).map (.ofCorners kind)

/-- What a Bezier patch with a material leaves out. -/
def patchLeftOut (materialIndex : UInt32) (p : Vector (Vec3 K) 16) : List (Cull K) :=
  boxLeftOut ctx (T.patchBounds p) (patchSet p)
    (ctx.meshKind (flatKind (materialTransparent ctx.drawMode ctx.materials materialIndex)))

/-- What a Bezier triangle with a material leaves out. -/
def triangleLeftOut (materialIndex : UInt32) (p : Vector (Vec3 K) 10) : List (Cull K) :=
  boxLeftOut ctx (T.triangleBounds p) (triangleSet p)
    (ctx.meshKind (flatKind (materialTransparent ctx.drawMode ctx.materials materialIndex)))

/-- What a line segment leaves out. -/
def lineLeftOut (o : V3dLineSegment K) : List (Cull K) :=
  boxLeftOut ctx (lineBox o.endpoints) (Vec3.hull (lineEnds o.endpoints)) .line

/-- What a Bezier curve leaves out. -/
def curveLeftOut (o : V3dBezierCurve K) : List (Cull K) :=
  boxLeftOut ctx (T.curveBounds o.controlPoints) (curveSet o.controlPoints) .line

/-- The triangles of a group: those whose three positions exist. -/
def V3dTriangleGroup.geometry (o : V3dTriangleGroup K K) : Set (Vec3 K) :=
  {q | ∃ t ∈ o.triangles, ∃ a ∈ o.vertexPositions[t.positions.1.toNat]?,
    ∃ b ∈ o.vertexPositions[t.positions.2.1.toNat]?,
    ∃ c ∈ o.vertexPositions[t.positions.2.2.toNat]?, q ∈ Vec3.hull [a, b, c]}

/-- What a triangle group leaves out: the box of its test is the view window. -/
def groupLeftOut (o : V3dTriangleGroup K K) : List (Cull K) :=
  if o.triangles.isEmpty || o.vertexPositions.isEmpty then []
  else if ctx.drawMode = .outline then []
  else
    boxLeftOut ctx (ctx.sceneMinBound, ctx.sceneMaxBound) o.geometry
      (colorKind (materialTransparent ctx.drawMode ctx.materials o.materialIndex ||
        (!o.vertexColorArray.isEmpty && o.cornersTransparent)))

/-- What a pixel leaves out: a point sprite is drawn if its centre is. -/
def pixelLeftOut (o : V3dPixel K) : List (Cull K) :=
  let h := Scalar.lit (1 / 2) * o.width / ctx.pixelsPerBp
  let H : Vec3 K := ⟨h, h, h⟩
  boxLeftOut ctx (o.position - H, o.position + H) {o.position} .point

/-- What `V3dObject::QueueMesh` leaves out of a frame. -/
def SceneObject.leftOut : SceneObject K K → List (Cull K)
  | bezierPatch o _ => patchLeftOut T ctx o.materialIndex o.controlPoints
  | bezierTriangle o _ => triangleLeftOut T ctx o.materialIndex o.controlPoints
  | bezierPatchColor o _ =>
    boxLeftOut ctx (T.patchBounds o.controlPoints) (patchSet o.controlPoints)
      (ctx.meshKind (colorKind (OkularV3d.cornersTransparent ctx.drawMode o.cornerColors.toList)))
  | bezierTriangleColor o _ =>
    boxLeftOut ctx (T.triangleBounds o.controlPoints) (triangleSet o.controlPoints)
      (ctx.meshKind (colorKind (OkularV3d.cornersTransparent ctx.drawMode o.cornerColors.toList)))
  | quad o st =>
    let p := o.vertices
    polygonLeftOut ctx (quadBox p) (quadCorners p)
      (ctx.meshKind (flatKind (materialTransparent ctx.drawMode ctx.materials o.materialIndex)))
      (!ctx.remesh && st.onscreen && o.centerIndex == 0)
  | triangle o st =>
    let p := o.vertices
    polygonLeftOut ctx (triangleBox p) (triangleCorners p)
      (ctx.meshKind (flatKind (materialTransparent ctx.drawMode ctx.materials o.materialIndex)))
      (!ctx.remesh && st.onscreen && o.centerIndex == 0)
  | quadColor o st =>
    let p := o.vertices
    polygonLeftOut ctx (quadBox p) (quadCorners p)
      (ctx.meshKind (colorKind (OkularV3d.cornersTransparent ctx.drawMode o.cornerColors.toList)))
      (!ctx.remesh && st.onscreen && o.centerIndex == 0)
  | triangleColor o st =>
    let p := o.vertices
    polygonLeftOut ctx (triangleBox p) (triangleCorners p)
      (ctx.meshKind (colorKind (OkularV3d.cornersTransparent ctx.drawMode o.cornerColors.toList)))
      (!ctx.remesh && st.onscreen && o.centerIndex == 0)
  | triangles o _ => groupLeftOut ctx o
  | sphere o => o.triangles.flatMap (triangleLeftOut T ctx o.materialIndex)
  | halfSphere o => o.triangles.flatMap (triangleLeftOut T ctx o.materialIndex)
  | disk o => patchLeftOut T ctx o.materialIndex o.patch
  | cylinder o =>
    o.patches.flatMap (patchLeftOut T ctx o.materialIndex) ++
      if o.core then lineLeftOut ctx o.coreLine else []
  | tube o =>
    o.patches.flatMap (patchLeftOut T ctx o.materialIndex) ++
      if o.core then curveLeftOut T ctx o.coreCurve else []
  | curve o _ => curveLeftOut T ctx o
  | line o _ => lineLeftOut ctx o
  | pixel o => pixelLeftOut ctx o

/-! ### Returning early -/

/-- An object returns early: it has put nothing into any buffer. -/
def Returns (es : Effects K) : Prop := ∀ e ∈ es, ∃ k, e = .mark k

omit [ExactScalar K] in
/-- What puts a piece into a buffer has not returned early. -/
theorem not_returns {es : Effects K} {k : BufferKind} {data : VertexData K}
    (h : .put k data ∈ es) : ¬ Returns es := by
  intro hreturns
  obtain ⟨k', hk⟩ := hreturns _ h
  cases hk

variable {T ctx}

omit [ExactScalar K] in
/-- Nor has what queues the curves of an outline. -/
theorem not_returns_curves {ι : Type} {xs : List ι} (hxs : xs ≠ []) (f : ι → VertexData K) :
    ¬ Returns (xs.flatMap fun x => BezierCurve.queue (f x)) := by
  obtain ⟨x, hx⟩ := List.exists_mem_of_ne_nil xs hxs
  have hput : .put .line (f x) ∈ BezierCurve.queue (f x) :=
    List.mem_cons_of_mem _ (List.mem_singleton_self _)
  exact not_returns (List.mem_flatMap.mpr ⟨x, hx, hput⟩)

/-- A surface without corner colours returns early only where its box is offscreen. -/
theorem offscreen_of_returns_queueSurface {box : Vec3 K × Vec3 K}
    {edges : List (Vector (Vec3 K) 4)} (hedges : edges ≠ []) {materialIndex : UInt32}
    {tessellate : Bool → Int32 → VertexData K × Bool} {S : BezierPatch K}
    (h : Returns (queueSurface T ctx box edges materialIndex tessellate S).2) :
    ctx.offscreen box = true := by
  rw [queueSurface] at h
  split_ifs at h with hoff
  · exact hoff
  · exact absurd h (not_returns_curves hedges _)
  · exact absurd h (not_returns (List.mem_singleton_self _))
  · exact absurd h (not_returns (List.mem_cons_of_mem _ (List.mem_singleton_self _)))

/-- So does one with them. -/
theorem offscreen_of_returns_queueColoredSurface {box : Vec3 K × Vec3 K} {outline : Effects K}
    (houtline : ctx.drawMode = .outline → Returns outline → ctx.offscreen box = true)
    {cornerColors : List (Vec4 K)} {materialIndex : UInt32}
    {tessellate : Bool → Int32 → VertexData K × Bool} {S : BezierPatch K}
    (h : Returns
      (queueColoredSurface ctx box outline cornerColors materialIndex tessellate S).2) :
    ctx.offscreen box = true := by
  rw [queueColoredSurface] at h
  split_ifs at h with hmode hoff
  · exact houtline hmode h
  · exact hoff
  · exact absurd h (not_returns (List.mem_singleton_self _))
  · exact absurd h (not_returns (List.mem_cons_of_mem _ (List.mem_singleton_self _)))

/-- So does a quadrilateral or triangle of one material. -/
theorem offscreen_of_returns_queueFlat {box : Vec3 K × Vec3 K} {points : List (Vec3 K)}
    {edges : List (Vec3 K × Vec3 K)} (hedges : edges ≠ []) {ts : List (Corners K)}
    {normal : Vec3 K} {centerIndex materialIndex : UInt32} {st : FlatState K}
    (h : Returns (queueFlat ctx box points edges ts normal centerIndex materialIndex st).2) :
    ctx.offscreen box = true := by
  rw [queueFlat] at h
  split_ifs at h with hoff
  · exact hoff
  · exact absurd h (not_returns_curves hedges _)
  · exact absurd h (not_returns (List.mem_singleton_self _))
  -- transparent or not
  · exact absurd h (not_returns (List.mem_cons_of_mem _ (List.mem_singleton_self _)))
  · exact absurd h (not_returns (List.mem_cons_of_mem _ (List.mem_singleton_self _)))

/-- So does one with corner colours. -/
theorem offscreen_of_returns_queueColoredFlat {box : Vec3 K × Vec3 K}
    {points : List (Vec3 K × Vec4 K)} {edges : List (Vec3 K × Vec3 K)} (hedges : edges ≠ [])
    {ts : List (Corners K)} {normal : Vec3 K} {centerIndex materialIndex : UInt32}
    {st : FlatState K}
    (h : Returns
      (queueColoredFlat ctx box points edges ts normal centerIndex materialIndex st).2) :
    ctx.offscreen box = true := by
  rw [queueColoredFlat] at h
  split_ifs at h with hoff
  · exact hoff
  · exact absurd h (not_returns_curves hedges _)
  · exact absurd h (not_returns (List.mem_singleton_self _))
  · exact absurd h (not_returns (List.mem_cons_of_mem _ (List.mem_singleton_self _)))

/-- The bounds of an object that is tested as a whole. The solids test the surfaces they are made
of, each by itself. -/
def SceneObject.bounds? (T : Tessellation K K) (ctx : QueueContext K K) :
    SceneObject K K → Option (Vec3 K × Vec3 K)
  | bezierPatch o _ => some (T.patchBounds o.controlPoints)
  | bezierTriangle o _ => some (T.triangleBounds o.controlPoints)
  | bezierPatchColor o _ => some (T.patchBounds o.controlPoints)
  | bezierTriangleColor o _ => some (T.triangleBounds o.controlPoints)
  | quad o _ => some (quadBox o.vertices)
  | triangle o _ => some (triangleBox o.vertices)
  | quadColor o _ => some (quadBox o.vertices)
  | triangleColor o _ => some (triangleBox o.vertices)
  | triangles o _ =>
    if o.triangles.isEmpty || o.vertexPositions.isEmpty || ctx.drawMode = .outline then none
    else some (ctx.sceneMinBound, ctx.sceneMaxBound)
  | sphere _ => none
  | halfSphere _ => none
  | disk o => some (T.patchBounds o.patch)
  | cylinder _ => none
  | tube _ => none
  | curve o _ => some (T.curveBounds o.controlPoints)
  | line o _ => some (lineBox o.endpoints)
  | pixel o =>
    let h := Scalar.lit (1 / 2) * o.width / ctx.pixelsPerBp
    let H : Vec3 K := ⟨h, h, h⟩
    some (o.position - H, o.position + H)

/-- The bounds the library is asked for, each with what it should bound. Straight polygons, groups,
lines and pixels have bounds of their own. -/
def SceneObject.libraryBounds (T : Tessellation K K) :
    SceneObject K K → List ((Vec3 K × Vec3 K) × Set (Vec3 K))
  | bezierPatch o _ => [(T.patchBounds o.controlPoints, patchSet o.controlPoints)]
  | bezierTriangle o _ => [(T.triangleBounds o.controlPoints, triangleSet o.controlPoints)]
  | bezierPatchColor o _ => [(T.patchBounds o.controlPoints, patchSet o.controlPoints)]
  | bezierTriangleColor o _ => [(T.triangleBounds o.controlPoints, triangleSet o.controlPoints)]
  | sphere o => o.triangles.map fun p => (T.triangleBounds p, triangleSet p)
  | halfSphere o => o.triangles.map fun p => (T.triangleBounds p, triangleSet p)
  | disk o => [(T.patchBounds o.patch, patchSet o.patch)]
  | cylinder o => o.patches.map fun p => (T.patchBounds p, patchSet p)
  | tube o =>
    o.patches.map (fun p => (T.patchBounds p, patchSet p)) ++
      if o.core then
        [(T.curveBounds o.coreCurve.controlPoints, curveSet o.coreCurve.controlPoints)]
      else []
  | curve o _ => [(T.curveBounds o.controlPoints, curveSet o.controlPoints)]
  | quad .. | triangle .. | quadColor .. | triangleColor .. | triangles .. | line ..
  | pixel .. => []

theorem V3dBezierPatch.offscreen_of_returns (o : V3dBezierPatch K) {S : BezierPatch K}
    (h : Returns (o.QueueMesh T ctx S).2) :
    ctx.offscreen (T.patchBounds o.controlPoints) = true := by
  rw [QueueMesh] at h
  exact offscreen_of_returns_queueSurface (List.cons_ne_nil _ _) h

theorem V3dBezierTriangle.offscreen_of_returns (o : V3dBezierTriangle K) {S : BezierPatch K}
    (h : Returns (o.QueueMesh T ctx S).2) :
    ctx.offscreen (T.triangleBounds o.controlPoints) = true := by
  rw [QueueMesh] at h
  exact offscreen_of_returns_queueSurface (List.cons_ne_nil _ _) h

/-- An object returns early only where its bounds came out offscreen. -/
theorem SceneObject.offscreen_of_returns {o : SceneObject K K} {box : Vec3 K × Vec3 K}
    (hbox : o.bounds? T ctx = some box) (h : Returns (o.QueueMesh T ctx).2) :
    ctx.offscreen box = true := by
  have hput : ∀ {k : BufferKind} {k' : BufferKind} {data : VertexData K},
      ¬ Returns [.mark k, .put k' data] :=
    not_returns (List.mem_cons_of_mem _ (List.mem_singleton_self _))
  cases o with
  | bezierPatch o S =>
    cases hbox
    change Returns (o.QueueMesh T ctx S).2 at h
    exact o.offscreen_of_returns h
  | bezierTriangle o S =>
    cases hbox
    change Returns (o.QueueMesh T ctx S).2 at h
    exact o.offscreen_of_returns h
  | bezierPatchColor o S =>
    cases hbox
    change Returns (o.QueueMesh T ctx S).2 at h
    rw [V3dBezierPatchWithCornerColors.QueueMesh] at h
    -- an outline is drawn as that of the surface without its colors
    refine offscreen_of_returns_queueColoredSurface (fun _ houtline => ?_) h
    have hoff := V3dBezierPatch.offscreen_of_returns _ houtline
    exact hoff
  | bezierTriangleColor o S =>
    cases hbox
    change Returns (o.QueueMesh T ctx S).2 at h
    rw [V3dBezierTriangleWithCornerColors.QueueMesh] at h
    -- an outline is drawn as that of the surface without its colors
    refine offscreen_of_returns_queueColoredSurface (fun _ houtline => ?_) h
    have hoff := V3dBezierTriangle.offscreen_of_returns _ houtline
    exact hoff
  | quad o st =>
    cases hbox
    exact offscreen_of_returns_queueFlat (List.cons_ne_nil _ _) h
  | triangle o st =>
    cases hbox
    exact offscreen_of_returns_queueFlat (List.cons_ne_nil _ _) h
  | quadColor o st =>
    cases hbox
    exact offscreen_of_returns_queueColoredFlat (List.cons_ne_nil _ _) h
  | triangleColor o st =>
    cases hbox
    exact offscreen_of_returns_queueColoredFlat (List.cons_ne_nil _ _) h
  | triangles o st =>
    rw [bounds?] at hbox
    split_ifs at hbox with hnone
    cases hbox
    simp only [Bool.or_eq_true, decide_eq_true_eq, not_or] at hnone
    change Returns (o.QueueMesh ctx st).2 at h
    rw [V3dTriangleGroup.QueueMesh, if_neg (by simp [hnone]), if_neg hnone.2] at h
    split_ifs at h with hoff
    · exact hoff
    · exact absurd h (not_returns (List.mem_singleton_self _))
    · exact absurd h hput
  -- the solids are tested patch by patch and have no bounds of their own
  | sphere o => cases hbox
  | halfSphere o => cases hbox
  | disk o =>
    cases hbox
    change Returns (o.QueueMesh T ctx) at h
    rw [V3dDisk.QueueMesh, queuePatches, List.flatMap_singleton] at h
    have hoff := V3dBezierPatch.offscreen_of_returns _ h
    exact hoff
  | cylinder o => cases hbox
  | tube o => cases hbox
  | curve o st =>
    cases hbox
    change Returns (o.QueueMesh T ctx st).2 at h
    rw [V3dBezierCurve.QueueMesh] at h
    split_ifs at h with hoff
    · exact hoff
    · exact absurd h (not_returns (List.mem_singleton_self _))
    · exact absurd h hput
  | line o st =>
    cases hbox
    change Returns (o.QueueMesh ctx st).2 at h
    rw [V3dLineSegment.QueueMesh] at h
    split_ifs at h with hoff
    · exact hoff
    · exact absurd h hput
  | pixel o =>
    cases hbox
    change Returns (o.QueueMesh ctx) at h
    rw [V3dPixel.QueueMesh] at h
    split_ifs at h with hoff
    · exact hoff
    · exact absurd h hput

/-- What an object that returns early leaves out is in `leftOut`, with the test of its bounds. -/
theorem SceneObject.exists_leftOut_of_returns {o : SceneObject K K} {box : Vec3 K × Vec3 K}
    (hbox : o.bounds? T ctx = some box) (h : Returns (o.QueueMesh T ctx).2) :
    ∃ c ∈ o.leftOut T ctx, c.tested = boxCorners box := by
  have hoff := offscreen_of_returns hbox h
  -- offscreen bounds leave out the whole geometry, in the form `leftOut` has for the class
  have hwhole : ∀ geometry kind, ∃ c ∈ boxLeftOut ctx box geometry kind,
      c.tested = boxCorners box := fun geometry kind =>
    ⟨.ofBox box geometry kind, by
      rw [boxLeftOut, if_pos hoff]
      exact List.mem_singleton_self _, rfl⟩
  have hpolygon : ∀ ts kind fast, ∃ c ∈ polygonLeftOut ctx box ts kind fast,
      c.tested = boxCorners box := fun ts kind fast =>
    ⟨.ofBox box {p | ∃ t ∈ ts, p ∈ (Cull.ofCorners kind t).geometry} kind, by
      rw [polygonLeftOut, if_pos hoff]
      exact List.mem_singleton_self _, rfl⟩
  cases o with
  | bezierPatch o S =>
    cases hbox
    exact hwhole _ _
  | bezierTriangle o S =>
    cases hbox
    exact hwhole _ _
  | bezierPatchColor o S =>
    cases hbox
    exact hwhole _ _
  | bezierTriangleColor o S =>
    cases hbox
    exact hwhole _ _
  | quad o st =>
    cases hbox
    exact hpolygon _ _ _
  | triangle o st =>
    cases hbox
    exact hpolygon _ _ _
  | quadColor o st =>
    cases hbox
    exact hpolygon _ _ _
  | triangleColor o st =>
    cases hbox
    exact hpolygon _ _ _
  | triangles o st =>
    rw [bounds?] at hbox
    split_ifs at hbox with hnone
    cases hbox
    simp only [Bool.or_eq_true, decide_eq_true_eq, not_or] at hnone
    rw [leftOut, groupLeftOut, if_neg (by simp [hnone]), if_neg hnone.2]
    exact hwhole _ _
  | sphere o => cases hbox
  | halfSphere o => cases hbox
  | disk o =>
    cases hbox
    exact hwhole _ _
  | cylinder o => cases hbox
  | tube o => cases hbox
  | curve o st =>
    cases hbox
    exact hwhole _ _
  | line o st =>
    cases hbox
    exact hwhole _ _
  | pixel o =>
    cases hbox
    exact hwhole _ _

/-! ### What the tests know -/

section Tests

omit T in
/-- A property of what a box leaves out may assume that the box is offscreen. -/
theorem forall_boxLeftOut {P : Cull K → Prop} {box : Vec3 K × Vec3 K} {geometry : Set (Vec3 K)}
    {kind : BufferKind} (h : ctx.offscreen box = true → P (.ofBox box geometry kind)) :
    ∀ c ∈ boxLeftOut ctx box geometry kind, P c := by
  intro c hc
  by_cases hoff : ctx.offscreen box = true
  · rw [boxLeftOut, if_pos hoff, List.mem_singleton] at hc
    exact hc ▸ h hoff
  · rw [boxLeftOut, if_neg hoff] at hc
    exact absurd hc List.not_mem_nil

omit T in
/-- What a polygon leaves out is all of it, by its box, or a triangle, by its corners. -/
theorem forall_polygonLeftOut {P : Cull K → Prop} {box : Vec3 K × Vec3 K} {ts : List (Corners K)}
    {kind : BufferKind} {fast : Bool}
    (hbox : ctx.offscreen box = true →
      P (.ofBox box {p | ∃ t ∈ ts, p ∈ (Cull.ofCorners kind t).geometry} kind))
    (hcorners : ∀ t ∈ ts, t.offscreen ctx = true → P (.ofCorners kind t)) :
    ∀ c ∈ polygonLeftOut ctx box ts kind fast, P c := by
  intro c hc
  rw [polygonLeftOut] at hc
  split_ifs at hc with hoff
  · rw [List.mem_singleton] at hc
    exact hc ▸ hbox hoff
  · exact absurd hc List.not_mem_nil
  · exact absurd hc List.not_mem_nil
  · obtain ⟨t, ht, rfl⟩ := List.mem_map.mp hc
    rw [List.mem_filter] at ht
    exact hcorners t ht.1 ht.2

omit T in
/-- A polygon with offscreen bounds leaves out every point of its triangles. -/
theorem exists_polygonLeftOut {box : Vec3 K × Vec3 K} {ts : List (Corners K)} {kind : BufferKind}
    {fast : Bool} (hoff : ctx.offscreen box = true) {t : Corners K} (ht : t ∈ ts) {p : Vec3 K}
    (hp : p ∈ (Cull.ofCorners kind t).geometry) :
    ∃ c ∈ polygonLeftOut ctx box ts kind fast, p ∈ c.geometry ∧ c.kind = kind := by
  refine ⟨.ofBox box {p | ∃ t ∈ ts, p ∈ (Cull.ofCorners kind t).geometry} kind, ?_,
    ⟨t, ht, hp⟩, rfl⟩
  rw [polygonLeftOut, if_pos hoff]
  exact List.mem_singleton_self _

/-- A test came out offscreen, and what was left out lies between its points. -/
structure Cull.Guarded (projViewMat : Mat4 K) (c : Cull K) : Prop where
  offscreen : c.offscreen projViewMat = true
  inside : c.geometry ⊆ Vec3.hull c.tested

omit T in
/-- What a box leaves out is guarded by it, if the box is right. -/
theorem guarded_boxLeftOut {box : Vec3 K × Vec3 K} {geometry : Set (Vec3 K)} {kind : BufferKind}
    (h : ctx.offscreen box = true → ∀ p ∈ geometry, InBox box p) :
    ∀ c ∈ boxLeftOut ctx box geometry kind, c.Guarded ctx.projViewMat :=
  forall_boxLeftOut fun hoff => ⟨hoff, fun p hp => (h hoff p hp).mem_hull⟩

/-- `m ≤ p ≤ M` in every coordinate. -/
def Between (box : Vec3 K × Vec3 K) (p : Vec3 K) : Prop :=
  (box.1.x ≤ p.x ∧ box.1.y ≤ p.y ∧ box.1.z ≤ p.z) ∧ p.x ≤ box.2.x ∧ p.y ≤ box.2.y ∧ p.z ≤ box.2.z

/-- A point whose coordinates lie between the bounds lies in the box. -/
theorem Between.inBox {box : Vec3 K × Vec3 K} {p : Vec3 K} (h : Between box p) : InBox box p :=
  ⟨Set.Icc_subset_uIcc ⟨h.1.1, h.2.1⟩, Set.Icc_subset_uIcc ⟨h.1.2.1, h.2.2.1⟩,
    Set.Icc_subset_uIcc ⟨h.1.2.2, h.2.2.2⟩⟩

/-- One more vertex makes the bounds no smaller, and they contain it. -/
theorem between_extend (m M q : Vec3 K) :
    let box : Vec3 K × Vec3 K :=
      (⟨Scalar.min m.x q.x, Scalar.min m.y q.y, Scalar.min m.z q.z⟩,
        ⟨Scalar.max M.x q.x, Scalar.max M.y q.y, Scalar.max M.z q.z⟩)
    Between box q ∧ ∀ p, Between (m, M) p → Between box p := by
  simp only [Between, scalarMin_eq, scalarMax_eq]
  refine ⟨by simp, ?_⟩
  rintro p ⟨⟨hx, hy, hz⟩, hX, hY, hZ⟩
  exact ⟨⟨(min_le_left _ _).trans hx, (min_le_left _ _).trans hy, (min_le_left _ _).trans hz⟩,
    hX.trans (le_max_left _ _), hY.trans (le_max_left _ _), hZ.trans (le_max_left _ _)⟩

/-- `std::min` and `std::max` over the vertices give bounds of each of them. -/
theorem between_verticesBox (v : Vec3 K) (vs : List (Vec3 K)) :
    ∀ p ∈ v :: vs, Between (verticesBox v vs) p := by
  -- by induction on the vertices still to come, whatever bounds they extend
  have hfold : ∀ (vs : List (Vec3 K)) (box : Vec3 K × Vec3 K) (p : Vec3 K),
      p ∈ vs ∨ Between box p →
      Between (vs.foldl (fun box q =>
        (⟨Scalar.min box.1.x q.x, Scalar.min box.1.y q.y, Scalar.min box.1.z q.z⟩,
          ⟨Scalar.max box.2.x q.x, Scalar.max box.2.y q.y, Scalar.max box.2.z q.z⟩)) box) p := by
    intro vs
    induction vs with
    | nil =>
      intro box p hp
      exact hp.resolve_left List.not_mem_nil
    | cons q vs ih =>
      intro box p hp
      obtain ⟨hq, hkeep⟩ := between_extend box.1 box.2 q
      refine ih _ p ?_
      obtain hp | hp := hp
      · obtain rfl | hp := List.mem_cons.mp hp
        · exact Or.inr hq
        · exact Or.inl hp
      · exact Or.inr (hkeep p hp)
  intro p hp
  refine hfold vs (v, v) p ?_
  obtain rfl | hp := List.mem_cons.mp hp
  · exact Or.inr ⟨⟨le_rfl, le_rfl, le_rfl⟩, le_rfl, le_rfl, le_rfl⟩
  · exact Or.inl hp

omit T in
/-- The bounds of a polygon are those of its vertices, which its triangles lie between. -/
theorem guarded_polygonLeftOut {v : Vec3 K} {vs : List (Vec3 K)} {ts : List (Corners K)}
    {kind : BufferKind} {fast : Bool}
    (h : ∀ t ∈ ts, ∀ p ∈ [t.points.1, t.points.2.1, t.points.2.2], p ∈ v :: vs) :
    ∀ c ∈ polygonLeftOut ctx (verticesBox v vs) ts kind fast, c.Guarded ctx.projViewMat := by
  refine forall_polygonLeftOut (fun hoff => ⟨hoff, ?_⟩) fun t _ hoff => ⟨hoff, subset_rfl⟩
  rintro p ⟨t, ht, hp⟩
  refine Vec3.hull_subset (fun q hq => ?_) hp
  exact (between_verticesBox v vs q (h t ht q hq)).inBox.mem_hull

omit T in
theorem guarded_flatMap {α : Type} {xs : List α} {f : α → List (Cull K)}
    (h : ∀ x ∈ xs, ∀ c ∈ f x, c.Guarded ctx.projViewMat) :
    ∀ c ∈ xs.flatMap f, c.Guarded ctx.projViewMat := by
  intro c hc
  obtain ⟨x, hx, hc⟩ := List.mem_flatMap.mp hc
  exact h x hx c hc

/-- The bounds of an object that the library has computed, and that come out offscreen, are bounds
of what they were computed for. -/
def SceneObject.TrueBounds (T : Tessellation K K) (ctx : QueueContext K K) (o : SceneObject K K) :
    Prop :=
  ∀ b ∈ o.libraryBounds T, ctx.offscreen b.1 = true → ∀ q ∈ b.2, InBox b.1 q

/-- They are if the library is right about all surfaces and curves. -/
theorem Tessellation.TrueBounds.trueBounds (hT : T.TrueBounds) (o : SceneObject K K) :
    o.TrueBounds T ctx := by
  intro b hb _
  cases o with
  | bezierPatch o | bezierPatchColor o | disk o =>
    obtain rfl := List.mem_singleton.mp hb
    exact hT.patch _
  | bezierTriangle o | bezierTriangleColor o =>
    obtain rfl := List.mem_singleton.mp hb
    exact hT.triangle _
  | sphere o | halfSphere o =>
    obtain ⟨p, -, rfl⟩ := List.mem_map.mp hb
    exact hT.triangle p
  | cylinder o =>
    obtain ⟨p, -, rfl⟩ := List.mem_map.mp hb
    exact hT.patch p
  | tube o =>
    obtain hb | hb := List.mem_append.mp hb
    · obtain ⟨p, -, rfl⟩ := List.mem_map.mp hb
      exact hT.patch p
    · obtain ⟨-, hb⟩ := List.mem_ite_nil_right.mp hb
      obtain rfl := List.mem_singleton.mp hb
      exact hT.curve _
  | curve o =>
    obtain rfl := List.mem_singleton.mp hb
    exact hT.curve _
  | quad | triangle | quadColor | triangleColor | triangles | line | pixel =>
    exact absurd hb List.not_mem_nil

omit T in
/-- A line is guarded by the box of its ends. -/
theorem guarded_lineLeftOut (o : V3dLineSegment K) :
    ∀ c ∈ lineLeftOut ctx o, c.Guarded ctx.projViewMat := by
  refine forall_boxLeftOut fun hoff => ⟨hoff, Vec3.hull_subset fun q hq => ?_⟩
  exact (between_verticesBox _ _ q hq).inBox.mem_hull

omit T in
/-- A pixel is guarded by the box around it. -/
theorem guarded_pixelLeftOut (o : V3dPixel K) :
    ∀ c ∈ pixelLeftOut ctx o, c.Guarded ctx.projViewMat := by
  refine guarded_boxLeftOut fun _ p hp => ?_
  obtain rfl := Set.mem_singleton_iff.mp hp
  -- whatever the sign of the half width
  have hmid : ∀ a h : K, a ∈ Set.uIcc (a - h) (a + h) := by
    intro a h
    rw [Set.mem_uIcc]
    rcases le_total 0 h with hh | hh
    · exact Or.inl ⟨by linarith, by linarith⟩
    · exact Or.inr ⟨by linarith, by linarith⟩
  exact ⟨hmid _ _, hmid _ _, hmid _ _⟩

omit T in
/-- A group is left out when the view window comes out offscreen. -/
theorem offscreen_of_mem_groupLeftOut (o : V3dTriangleGroup K K) :
    ∀ c ∈ groupLeftOut ctx o, c.offscreen ctx.projViewMat = true := by
  rw [groupLeftOut]
  split_ifs
  · exact List.forall_mem_nil _
  · exact List.forall_mem_nil _
  · exact forall_boxLeftOut fun hoff => hoff

/-- Whatever an object leaves out lies between the points of a test that came out offscreen, unless
the object is a triangle group. -/
theorem SceneObject.guarded_of_mem_leftOut {o : SceneObject K K} (hT : o.TrueBounds T ctx)
    (ho : ∀ group st, o ≠ .triangles group st) :
    ∀ c ∈ o.leftOut T ctx, c.Guarded ctx.projViewMat := by
  cases o with
  | bezierPatch | bezierTriangle | bezierPatchColor | bezierTriangleColor | disk | curve =>
    rw [TrueBounds, libraryBounds, List.forall_mem_singleton] at hT
    exact guarded_boxLeftOut hT
  | quad o st => exact guarded_polygonLeftOut (by simp [quadCorners])
  | triangle o st => exact guarded_polygonLeftOut (by simp)
  | quadColor o st => exact guarded_polygonLeftOut (by simp [quadCorners])
  | triangleColor o st => exact guarded_polygonLeftOut (by simp)
  | triangles o st => exact absurd rfl (ho o st)
  | sphere | halfSphere =>
    rw [TrueBounds, libraryBounds, List.forall_mem_map] at hT
    exact guarded_flatMap fun p hp => guarded_boxLeftOut (hT p hp)
  | cylinder o =>
    rw [TrueBounds, libraryBounds, List.forall_mem_map] at hT
    refine List.forall_mem_append.mpr
      ⟨guarded_flatMap fun p hp => guarded_boxLeftOut (hT p hp), ?_⟩
    split_ifs
    · exact guarded_lineLeftOut _
    · exact List.forall_mem_nil _
  | tube o =>
    rw [TrueBounds, libraryBounds, List.forall_mem_append, List.forall_mem_map] at hT
    refine List.forall_mem_append.mpr
      ⟨guarded_flatMap fun p hp => guarded_boxLeftOut (hT.1 p hp), ?_⟩
    split_ifs with hcore
    · rw [if_pos hcore, List.forall_mem_singleton] at hT
      exact guarded_boxLeftOut hT.2
    · exact List.forall_mem_nil _
  | line o st => exact guarded_lineLeftOut _
  | pixel o => exact guarded_pixelLeftOut _

end Tests

/-! ### What is drawn -/

namespace V3dFile

/-- Whether what an object has in a buffer is turned with its billboard. -/
def Turned (file : V3dFile K K) (o : SceneObject K K) (kind : BufferKind) : Prop :=
  (file.center? o).isSome ∧ (kind = .material ∨ kind = .line ∨ kind = .color)

instance (file : V3dFile K K) (o : SceneObject K K) (kind : BufferKind) :
    Decidable (file.Turned o kind) := inferInstanceAs (Decidable (_ ∧ _))

/-- Where a point of an object is drawn: `V3dFile::QueueMesh` turns what the object has appended to
the materials, the lines and the colours around its centre. -/
def drawn (file : V3dFile K K) (normMat : Mat3 K) (o : SceneObject K K) (kind : BufferKind)
    (p : Vec3 K) : Vec3 K :=
  match file.center? o with
  | none => p.narrow
  | some center =>
    if kind = .material ∨ kind = .line ∨ kind = .color then
      billboardTransform normMat center.narrow p.narrow
    else p.narrow

/-- What no billboard turns is drawn where it is. -/
theorem drawn_eq_self {file : V3dFile K K} {o : SceneObject K K} {kind : BufferKind}
    (h : ¬ file.Turned o kind) (normMat : Mat3 K) (p : Vec3 K) :
    file.drawn normMat o kind p = p := by
  rw [drawn]
  split
  · rfl
  · rename_i center hcenter
    rw [if_neg fun hkind => h ⟨by rw [hcenter]; rfl, hkind⟩]
    rfl

/-- **Culling is conservative**: no point an object leaves out of the frame would have been drawn in
the clip volume. -/
def CullsConservatively (T : Tessellation K K) (ctx : QueueContext K K) (file : V3dFile K K) :
    Prop :=
  ∀ o ∈ file.objects, ∀ c ∈ o.leftOut T ctx, ∀ p ∈ c.geometry,
    file.drawn ctx.normMat o c.kind p ∉ clipVolume ctx.projViewMat

/-- A test is made on what is drawn: the points it projects are on one side of the eye; what a
billboard shows once it is turned, and the triangles of a group, lie between them. -/
structure TestsWhatIsDrawn (ctx : QueueContext K K) (file : V3dFile K K) (o : SceneObject K K)
    (c : Cull K) : Prop where
  oneSide : OneSide ctx.projViewMat c.tested
  between : (file.Turned o c.kind ∨ ∃ group st, o = .triangles group st) →
    ∀ p ∈ c.geometry, file.drawn ctx.normMat o c.kind p ∈ Vec3.hull c.tested

/-- Culling is conservative wherever the tests that came out offscreen were made on what is
drawn, and the bounds of Bezier surfaces and curves among them are true. -/
theorem cullsConservatively {T : Tessellation K K} {ctx : QueueContext K K} {file : V3dFile K K}
    (hT : ∀ o ∈ file.objects, o.TrueBounds T ctx)
    (h : ∀ o ∈ file.objects, ∀ c ∈ o.leftOut T ctx, file.TestsWhatIsDrawn ctx o c) :
    file.CullsConservatively T ctx := by
  intro o ho c hc p hp
  have htest := h o ho c hc
  have hoff : c.offscreen ctx.projViewMat = true := by
    by_cases hgroup : ∃ group st, o = .triangles group st
    · obtain ⟨group, st, rfl⟩ := hgroup
      exact offscreen_of_mem_groupLeftOut group c hc
    · refine (SceneObject.guarded_of_mem_leftOut (hT o ho) ?_ c hc).offscreen
      exact fun group st heq => hgroup ⟨group, st, heq⟩
  refine notMem_clipVolume_of_offscreen htest.oneSide hoff ?_
  by_cases hmoved : file.Turned o c.kind ∨ ∃ group st, o = .triangles group st
  · exact htest.between hmoved p hp
  · rw [drawn_eq_self fun hturned => hmoved (Or.inl hturned)]
    refine (SceneObject.guarded_of_mem_leftOut (hT o ho) ?_ c hc).inside hp
    exact fun group st hgroup => hmoved (Or.inr ⟨group, st, hgroup⟩)

end V3dFile

/-! ### Bounds by control points -/

/-- A cubic Bernstein mean is at least the least of its values. -/
theorem le_cubic {lo a b c d t : K} (h0 : 0 ≤ t) (h1 : t ≤ 1) (ha : lo ≤ a) (hb : lo ≤ b)
    (hc : lo ≤ c) (hd : lo ≤ d) : lo ≤ cubic a b c d t := by
  have hs : 0 ≤ 1 - t := sub_nonneg.mpr h1
  -- the weights add up to 1
  have hsum : cubic a b c d t - lo = (1 - t) ^ 3 * (a - lo) + 3 * (1 - t) ^ 2 * t * (b - lo) +
      3 * (1 - t) * t ^ 2 * (c - lo) + t ^ 3 * (d - lo) := by
    rw [cubic]
    ring
  have := sub_nonneg.mpr ha
  have := sub_nonneg.mpr hb
  have := sub_nonneg.mpr hc
  have := sub_nonneg.mpr hd
  rw [← sub_nonneg, hsum]
  positivity

/-- And at most the greatest. -/
theorem cubic_le {hi a b c d t : K} (h0 : 0 ≤ t) (h1 : t ≤ 1) (ha : a ≤ hi) (hb : b ≤ hi)
    (hc : c ≤ hi) (hd : d ≤ hi) : cubic a b c d t ≤ hi := by
  have hneg : cubic (-a) (-b) (-c) (-d) t = -cubic a b c d t := by
    simp only [cubic]
    ring
  have h := le_cubic h0 h1 (neg_le_neg ha) (neg_le_neg hb) (neg_le_neg hc) (neg_le_neg hd)
  rw [hneg] at h
  exact neg_le_neg_iff.mp h

/-- A triangular one is at least the least of its values. -/
theorem le_triangleCubic {lo u v w : K} {a : Fin 10 → K} (hu : 0 ≤ u) (hv : 0 ≤ v) (hw : 0 ≤ w)
    (hone : u + v + w = 1) (h : ∀ i, lo ≤ a i) : lo ≤ triangleCubic a u v w := by
  have hsum : triangleCubic a u v w - lo = triangleCubic (fun i => a i - lo) u v w := by
    have hw' : w = 1 - u - v := by linarith
    rw [hw']
    simp only [triangleCubic]
    ring
  have ha : ∀ i, 0 ≤ a i - lo := fun i => sub_nonneg.mpr (h i)
  rw [← sub_nonneg, hsum, triangleCubic]
  have := ha 0
  have := ha 1
  have := ha 2
  have := ha 3
  have := ha 4
  have := ha 5
  have := ha 6
  have := ha 7
  have := ha 8
  have := ha 9
  positivity

/-- And at most the greatest. -/
theorem triangleCubic_le {hi u v w : K} {a : Fin 10 → K} (hu : 0 ≤ u) (hv : 0 ≤ v) (hw : 0 ≤ w)
    (hone : u + v + w = 1) (h : ∀ i, a i ≤ hi) : triangleCubic a u v w ≤ hi := by
  have hneg : triangleCubic (fun i => -a i) u v w = -triangleCubic a u v w := by
    simp only [triangleCubic]
    ring
  have h := le_triangleCubic hu hv hw hone fun i => neg_le_neg (h i)
  rw [hneg] at h
  exact neg_le_neg_iff.mp h

/-- A curve stays between its control points. -/
theorem Between.curvePoint {box : Vec3 K × Vec3 K} {a b c d : Vec3 K} (ha : Between box a)
    (hb : Between box b) (hc : Between box c) (hd : Between box d) {t : K} (h0 : 0 ≤ t)
    (h1 : t ≤ 1) : Between box (curvePoint #v[a, b, c, d] t) :=
  ⟨⟨le_cubic h0 h1 ha.1.1 hb.1.1 hc.1.1 hd.1.1, le_cubic h0 h1 ha.1.2.1 hb.1.2.1 hc.1.2.1 hd.1.2.1,
      le_cubic h0 h1 ha.1.2.2 hb.1.2.2 hc.1.2.2 hd.1.2.2⟩,
    cubic_le h0 h1 ha.2.1 hb.2.1 hc.2.1 hd.2.1, cubic_le h0 h1 ha.2.2.1 hb.2.2.1 hc.2.2.1 hd.2.2.1,
    cubic_le h0 h1 ha.2.2.2 hb.2.2.2 hc.2.2.2 hd.2.2.2⟩

/-- Bounds of control points. -/
def controlBounds {n : Nat} (p : Vector (Vec3 K) (n + 1)) : Vec3 K × Vec3 K :=
  verticesBox p[0] p.toList

/-- Every control point lies between the bounds of all. -/
theorem between_controlBounds {n : Nat} (p : Vector (Vec3 K) (n + 1)) (i : Nat) (hi : i < n + 1) :
    Between (controlBounds p) p[i] := by
  refine between_verticesBox _ _ _ (List.mem_cons_of_mem _ ?_)
  exact Vector.mem_toList_iff.mpr (Vector.getElem_mem hi)

/-- **Convex hull, for patches**: so does every point of the surface. -/
theorem between_patchPoint (p : Vector (Vec3 K) 16) {u v : K} (hu0 : 0 ≤ u) (hu1 : u ≤ 1)
    (hv0 : 0 ≤ v) (hv1 : v ≤ 1) : Between (controlBounds p) (patchPoint p u v) := by
  have h := between_controlBounds p
  have hrow : ∀ {a b c d : Vec3 K}, Between (controlBounds p) a → Between (controlBounds p) b →
      Between (controlBounds p) c → Between (controlBounds p) d →
      Between (controlBounds p) (curvePoint #v[a, b, c, d] v) :=
    fun ha hb hc hd => ha.curvePoint hb hc hd hv0 hv1
  rw [patchPoint]
  exact (hrow (h 0 _) (h 1 _) (h 2 _) (h 3 _)).curvePoint
    (hrow (h 4 _) (h 5 _) (h 6 _) (h 7 _)) (hrow (h 8 _) (h 9 _) (h 10 _) (h 11 _))
    (hrow (h 12 _) (h 13 _) (h 14 _) (h 15 _)) hu0 hu1

/-- For Bezier triangles. -/
theorem between_trianglePoint (p : Vector (Vec3 K) 10) {u v w : K} (hu : 0 ≤ u) (hv : 0 ≤ v)
    (hw : 0 ≤ w) (hone : u + v + w = 1) : Between (controlBounds p) (trianglePoint p u v w) := by
  have h : ∀ i : Fin 10, Between (controlBounds p) p[i] := fun i =>
    between_controlBounds p i i.isLt
  simp only [Between, trianglePoint]
  exact ⟨⟨le_triangleCubic hu hv hw hone fun i => (h i).1.1,
      le_triangleCubic hu hv hw hone fun i => (h i).1.2.1,
      le_triangleCubic hu hv hw hone fun i => (h i).1.2.2⟩,
    triangleCubic_le hu hv hw hone fun i => (h i).2.1,
    triangleCubic_le hu hv hw hone fun i => (h i).2.2.1,
    triangleCubic_le hu hv hw hone fun i => (h i).2.2.2⟩

/-- For curves. -/
theorem between_curvePoint (p : Vector (Vec3 K) 4) {t : K} (h0 : 0 ≤ t) (h1 : t ≤ 1) :
    Between (controlBounds p) (curvePoint p t) := by
  have h := between_controlBounds p
  exact Between.curvePoint (h 0 (by decide)) (h 1 (by decide)) (h 2 (by decide)) (h 3 (by decide))
    h0 h1

/-- The tessellation with the bounds of control points in place of its own. -/
def Tessellation.withControlBounds (T : Tessellation K K) : Tessellation K K :=
  { T with patchBounds := controlBounds, triangleBounds := controlBounds,
           curveBounds := controlBounds }

/-- Bounds of the control points are true bounds. -/
theorem Tessellation.trueBounds_withControlBounds (T : Tessellation K K) :
    T.withControlBounds.TrueBounds where
  patch p q hq := by
    obtain ⟨u, v, hu0, hu1, hv0, hv1, rfl⟩ := hq
    exact (between_patchPoint p hu0 hu1 hv0 hv1).inBox
  triangle p q hq := by
    obtain ⟨u, v, w, hu, hv, hw, hone, rfl⟩ := hq
    exact (between_trianglePoint p hu hv hw hone).inBox
  curve p q hq := by
    obtain ⟨t, h0, h1, rfl⟩ := hq
    exact (between_curvePoint p h0 h1).inBox

/-! ### A label and a triangle that are missing -/

namespace V3dFile

/-- A label to the right of the screen. -/
def farQuad : SceneObject ℚ ℚ :=
  .quad ⟨#v[⟨2, 0, 0⟩, ⟨3, 0, 0⟩, ⟨3, 1, 0⟩, ⟨2, 1, 0⟩], 1, 0⟩ .init

/-- A scene of it, with the centre it turns around. -/
def farLabel : V3dFile ℚ ℚ := { label 1 with objects := [farQuad], centers := [⟨3 / 2, 0, 0⟩] }

/-- A frame seen after half a turn around the `z` axis, which is its own inverse. -/
def halfTurned : QueueContext ℚ ℚ :=
  { quarterTurned 1 with
    projViewMat := fun i => if i = 0 ∨ i = 5 then -1 else if i = 10 ∨ i = 15 then 1 else 0
    normMat := fun i => if i = 0 ∨ i = 4 then -1 else if i = 8 then 1 else 0 }

/-- The label is left out, and would have been turned onto the screen. -/
theorem not_cullsConservatively_farLabel :
    ¬ (endsOnly.withControlBounds.TrueBounds →
      farLabel.CullsConservatively endsOnly.withControlBounds halfTurned) := by
  intro himp
  have h := himp endsOnly.trueBounds_withControlBounds
  have hoff : halfTurned.offscreen (verticesBox (⟨2, 0, 0⟩ : Vec3 ℚ)
      [⟨3, 0, 0⟩, ⟨3, 1, 0⟩, ⟨2, 1, 0⟩]) = true := by decide +kernel
  have hcorner : (⟨2, 0, 0⟩ : Vec3 ℚ) ∈ Vec3.hull [⟨2, 0, 0⟩, ⟨3, 0, 0⟩, ⟨3, 1, 0⟩] :=
    Vec3.mem_hull List.mem_cons_self
  obtain ⟨c, hc, hp, hkind⟩ : ∃ c ∈ farQuad.leftOut endsOnly.withControlBounds halfTurned,
      (⟨2, 0, 0⟩ : Vec3 ℚ) ∈ c.geometry ∧ c.kind = .material :=
    exists_polygonLeftOut hoff List.mem_cons_self hcorner
  refine h farQuad (List.mem_singleton_self _) c hc ⟨2, 0, 0⟩ hp ?_
  rw [hkind]
  decide +kernel

/-- A triangle on both sides of the eye. -/
def astride : SceneObject ℚ ℚ := .triangle ⟨#v[⟨-3, 0, 1⟩, ⟨5, 0, -1⟩, ⟨-3, 1, 1⟩], 0, 0⟩ .init

/-- A perspective view of it, from the origin along the `z` axis. -/
def fromOrigin : QueueContext ℚ ℚ :=
  { quarterTurned 1 with
    projViewMat := fun i =>
      if i = 0 ∨ i = 5 ∨ i = 11 then 1 else if i = 10 then 1 / 2 else 0 }

/-- A point of its first edge. -/
theorem mem_astride :
    (⟨1 / 5, 0, 1 / 5⟩ : Vec3 ℚ) ∈ Vec3.hull [⟨-3, 0, 1⟩, ⟨5, 0, -1⟩, ⟨-3, 1, 1⟩] := by
  have hp : (⟨-3, 0, 1⟩ : Vec3 ℚ) ∈ Vec3.hull [⟨-3, 0, 1⟩, ⟨5, 0, -1⟩, ⟨-3, 1, 1⟩] :=
    Vec3.mem_hull List.mem_cons_self
  have hq : (⟨5, 0, -1⟩ : Vec3 ℚ) ∈ Vec3.hull [⟨-3, 0, 1⟩, ⟨5, 0, -1⟩, ⟨-3, 1, 1⟩] :=
    Vec3.mem_hull (List.mem_cons_of_mem _ List.mem_cons_self)
  have h := (convex_convexHull ℚ _) hp hq (a := 3 / 5) (b := 2 / 5) (by norm_num) (by norm_num)
    (by norm_num)
  have hpoint : (3 / 5 : ℚ) • (⟨-3, 0, 1⟩ : Vec3 ℚ).toProd +
      (2 / 5 : ℚ) • (⟨5, 0, -1⟩ : Vec3 ℚ).toProd = (⟨1 / 5, 0, 1 / 5⟩ : Vec3 ℚ).toProd := by
    norm_num [Vec3.toProd]
  rw [hpoint] at h
  exact h

/-- The triangle is left out, although it passes through the middle of the screen. -/
theorem not_cullsConservatively_astride :
    ¬ (endsOnly.withControlBounds.TrueBounds →
      ({ label 1 with objects := [astride] } : V3dFile ℚ ℚ).CullsConservatively
        endsOnly.withControlBounds fromOrigin) := by
  intro himp
  have h := himp endsOnly.trueBounds_withControlBounds
  obtain ⟨c, hc, hp, hkind⟩ : ∃ c ∈ astride.leftOut endsOnly.withControlBounds fromOrigin,
      (⟨1 / 5, 0, 1 / 5⟩ : Vec3 ℚ) ∈ c.geometry ∧ c.kind = .material := by
    refine ⟨.ofCorners .material ⟨(⟨-3, 0, 1⟩, ⟨5, 0, -1⟩, ⟨-3, 1, 1⟩), [0, 1, 2]⟩, ?_, mem_astride,
      rfl⟩
    have hon : ¬ fromOrigin.offscreen (verticesBox (⟨-3, 0, 1⟩ : Vec3 ℚ)
        [⟨5, 0, -1⟩, ⟨-3, 1, 1⟩]) = true := by decide +kernel
    refine (congrArg (_ ∈ ·) ((if_neg hon).trans rfl)).mpr ?_
    exact List.mem_map_of_mem (List.mem_filter.mpr ⟨List.mem_singleton_self _, by decide +kernel⟩)
  refine h astride (List.mem_singleton_self _) c hc _ hp ?_
  rw [hkind]
  decide +kernel

end V3dFile

end OkularV3d
