import OkularV3d.Scene.V3dFile

/-!
# The paths through `QueueMesh`

An object that is asked for its mesh is offscreen and forgets what it keeps, or is skipped, or
appends what it keeps (the fast path), or builds its mesh anew and keeps that (the slow path).
`SceneObject.path` is the path an object takes, `SceneObject.pathCases` what `QueueMesh` does on it,
and `path_of_keeps` how an object comes to keep a mesh the fast path may append.

* `QueuePath` has the four paths and `PathCases` what is left on each of them.
* `surfacePath`, `coloredSurfacePath` and `onscreenPath` are the choices that several classes share,
  with `pathCases_surfacePath` and so on.
* `keeps_of_path_eq_again` and `path_of_keeps` relate the path to what is kept.

Results about all classes go by cases on the path instead of the class where they can.
-/

namespace OkularV3d

/-- A path through `QueueMesh`.

* `offscreen`: nothing is appended, and nothing is kept.
* `skipped`: what is kept is not looked at, as in `OUTLINE` mode.
* `again`: the fast path, which appends what is kept.
* `anew`: the slow path, which builds the mesh. -/
inductive QueuePath where
  | offscreen
  | skipped
  | again
  | anew
  deriving DecidableEq, Repr

variable {D F : Type} [Scalar D] [Scalar F] [Rounding D F]

/-- The path of an object that is neither offscreen nor skipped; `keeps` is whether it keeps a mesh
for the fast path. -/
def onscreenPath (ctx : QueueContext D F) (keeps : Bool) : QueuePath :=
  if !ctx.remesh && keeps then .again else .anew

/-- The path of a surface or polygon that looks at its bounds first. -/
def surfacePath (ctx : QueueContext D F) (box : Vec3 D × Vec3 D) (keeps : Bool) : QueuePath :=
  if ctx.offscreen box then .offscreen
  else if ctx.drawMode = .outline then .skipped
  else onscreenPath ctx keeps

/-- The path of a surface that looks at the draw mode first. -/
def coloredSurfacePath (ctx : QueueContext D F) (box : Vec3 D × Vec3 D) (keeps : Bool) :
    QueuePath :=
  if ctx.drawMode = .outline then .skipped
  else if ctx.offscreen box then .offscreen
  else onscreenPath ctx keeps

namespace SceneObject

/-- Whether an object keeps a mesh that the fast path may append. -/
def keeps : SceneObject D F → Bool
  | bezierPatch _ S | bezierTriangle _ S | bezierPatchColor _ S | bezierTriangleColor _ S =>
    S.onscreen
  | quad o st => st.onscreen && o.centerIndex == 0
  | triangle o st => st.onscreen && o.centerIndex == 0
  | quadColor o st => st.onscreen && o.centerIndex == 0
  | triangleColor o st => st.onscreen && o.centerIndex == 0
  | triangles o st =>
    !(o.triangles.isEmpty || o.vertexPositions.isEmpty) && st.fullyOnscreen && o.centerIndex == 0
  | curve o st => st.fullyOnscreen && o.centerIndex == 0
  | line _ _ | sphere _ | halfSphere _ | disk _ | cylinder _ | tube _ | pixel _ => false

/-- The mesh an object keeps. -/
def keptData : SceneObject D F → VertexData F
  | bezierPatch _ S | bezierTriangle _ S | bezierPatchColor _ S | bezierTriangleColor _ S => S.data
  | quad _ st | triangle _ st | quadColor _ st | triangleColor _ st => st.S
  | triangles _ st | curve _ st | line _ st => st.vertexData
  | sphere _ | halfSphere _ | disk _ | cylinder _ | tube _ | pixel _ => .empty

/-- The path an object takes through `QueueMesh`. -/
def path (T : Tessellation D F) (ctx : QueueContext D F) (object : SceneObject D F) : QueuePath :=
  match object with
  | bezierPatch o _ => surfacePath ctx (T.patchBounds o.controlPoints) object.keeps
  | bezierTriangle o _ => surfacePath ctx (T.triangleBounds o.controlPoints) object.keeps
  | bezierPatchColor o _ => coloredSurfacePath ctx (T.patchBounds o.controlPoints) object.keeps
  | bezierTriangleColor o _ =>
    coloredSurfacePath ctx (T.triangleBounds o.controlPoints) object.keeps
  | quad o _ =>
    surfacePath ctx (quadBox o.vertices) object.keeps
  | triangle o _ =>
    surfacePath ctx (triangleBox o.vertices) object.keeps
  | quadColor o _ =>
    surfacePath ctx (quadBox o.vertices) object.keeps
  | triangleColor o _ =>
    surfacePath ctx (triangleBox o.vertices) object.keeps
  | triangles o _ =>
    if o.triangles.isEmpty || o.vertexPositions.isEmpty then .skipped
    else coloredSurfacePath ctx (ctx.sceneMinBound, ctx.sceneMaxBound) object.keeps
  | curve o _ =>
    if ctx.offscreen (T.curveBounds o.controlPoints) then .offscreen
    else onscreenPath ctx object.keeps
  | line o _ =>
    if ctx.offscreen (lineBox o.endpoints) then .offscreen else .anew
  | sphere _ | halfSphere _ | disk _ | cylinder _ | tube _ | pixel _ => .anew

end SceneObject

/-! ### The families -/

/-- What `QueueMesh` leaves, by the path taken, from a state `st` that keeps the mesh `kept`: it is
forgotten, left alone, appended, or replaced as by a new object, which leaves `new`. -/
inductive PathCases {α : Type} (keeps : α → Bool) (kept : VertexData F) (st : α)
    (new : α × Effects F) : QueuePath → α × Effects F → Prop
  | offscreen {out : α × Effects F} (h : keeps out.1 = false) :
    PathCases keeps kept st new .offscreen out
  | skipped (es : Effects F) : PathCases keeps kept st new .skipped (st, es)
  | again (kind : BufferKind) : PathCases keeps kept st new .again (st, [.put kind kept])
  | anew : PathCases keeps kept st new .anew new

omit [Scalar F] in
/-- The state is a part of the object. -/
theorem PathCases.map {α β : Type} {keeps : α → Bool} {keeps' : β → Bool}
    {kept : VertexData F} {st : α} {new out : α × Effects F} {path : QueuePath}
    (h : PathCases keeps kept st new path out) (f : α → β)
    (hkeeps : ∀ a, keeps' (f a) = keeps a) :
    PathCases keeps' kept (f st) (new.map f id) path (out.map f id) := by
  cases h with
  | offscreen h => exact .offscreen ((hkeeps _).trans h)
  | skipped es => exact .skipped es
  | again kind => exact .again kind
  | anew => exact .anew

section Families

variable {α : Type} {keeps : α → Bool} {kept : VertexData F} {st : α}
  {left new anew : α × Effects F} {skipped : Effects F} {kind : BufferKind}
  {ctx : QueueContext D F} {box : Vec3 D × Vec3 D} {keepsMesh : Bool}

omit [Scalar D] [Scalar F] [Rounding D F] in
/-- A queue that only asks whether it has kept a mesh. -/
theorem pathCases_onscreenPath (hnew : new = anew) :
    PathCases keeps kept st new (onscreenPath ctx keepsMesh)
      (if !ctx.remesh && keepsMesh then (st, [.put kind kept]) else anew) := by
  rw [onscreenPath]
  split_ifs
  · exact .again kind
  · exact hnew ▸ .anew

omit [Scalar F] [Rounding D F] in
/-- A surface first asks whether its box is offscreen. -/
theorem pathCases_surfacePath (hleft : keeps left.1 = false)
    (hnew : ¬ ctx.offscreen box = true → ctx.drawMode ≠ .outline → new = anew) :
    PathCases keeps kept st new (surfacePath ctx box keepsMesh)
      (if ctx.offscreen box then left
      else if ctx.drawMode = .outline then (st, skipped)
      else if !ctx.remesh && keepsMesh then (st, [.put kind kept]) else anew) := by
  by_cases hoff : ctx.offscreen box = true
  · rw [surfacePath, if_pos hoff, if_pos hoff]
    exact .offscreen hleft
  by_cases hmode : ctx.drawMode = .outline
  · rw [surfacePath, if_neg hoff, if_pos hmode, if_neg hoff, if_pos hmode]
    exact .skipped skipped
  · rw [surfacePath, if_neg hoff, if_neg hmode, if_neg hoff, if_neg hmode]
    exact pathCases_onscreenPath (hnew hoff hmode)

omit [Scalar F] [Rounding D F] in
/-- One with corner colours has its own outline. -/
theorem pathCases_coloredSurfacePath (hleft : keeps left.1 = false)
    (hnew : ¬ ctx.offscreen box = true → ctx.drawMode ≠ .outline → new = anew) :
    PathCases keeps kept st new (coloredSurfacePath ctx box keepsMesh)
      (if ctx.drawMode = .outline then (st, skipped)
      else if ctx.offscreen box then left
      else if !ctx.remesh && keepsMesh then (st, [.put kind kept]) else anew) := by
  by_cases hmode : ctx.drawMode = .outline
  · rw [coloredSurfacePath, if_pos hmode, if_pos hmode]
    exact .skipped skipped
  by_cases hoff : ctx.offscreen box = true
  · rw [coloredSurfacePath, if_neg hmode, if_pos hoff, if_neg hmode, if_pos hoff]
    exact .offscreen hleft
  · rw [coloredSurfacePath, if_neg hmode, if_neg hoff, if_neg hmode, if_neg hoff]
    exact pathCases_onscreenPath (hnew hoff hmode)

variable (T : Tessellation D F) (ctx : QueueContext D F) (box : Vec3 D × Vec3 D)
  (materialIndex : UInt32)

omit [Rounding D F] in
/-- **The paths of a surface without corner colours.** -/
theorem pathCases_queueSurface (edges : List (Vector (Vec3 D) 4))
    (tessellate : Bool → Int32 → VertexData F × Bool) (S : BezierPatch F) :
    PathCases BezierPatch.onscreen S.data S
      (queueSurface T { ctx with remesh := true } box edges materialIndex tessellate .init)
      (surfacePath ctx box S.onscreen)
      (queueSurface T ctx box edges materialIndex tessellate S) := by
  refine pathCases_surfacePath rfl fun hoff hmode => ?_
  exact (if_neg hoff).trans (if_neg hmode)

omit [Rounding D F] in
/-- **Of one with corner colours.** -/
theorem pathCases_queueColoredSurface (outline outline' : Effects F) (cornerColors : List (Vec4 F))
    (tessellate : Bool → Int32 → VertexData F × Bool) (S : BezierPatch F) :
    PathCases BezierPatch.onscreen S.data S
      (queueColoredSurface { ctx with remesh := true } box outline' cornerColors materialIndex
        tessellate .init)
      (coloredSurfacePath ctx box S.onscreen)
      (queueColoredSurface ctx box outline cornerColors materialIndex tessellate S) := by
  refine pathCases_coloredSurfacePath rfl fun hoff hmode => ?_
  exact (if_neg hmode).trans (if_neg hoff)

/-- **Of a quadrilateral or triangle of one material.** -/
theorem pathCases_queueFlat (points : List (Vec3 D)) (edges : List (Vec3 D × Vec3 D))
    (ts : List (Corners D)) (normal : Vec3 D) (centerIndex : UInt32) (st : FlatState F) :
    PathCases (fun st : FlatState F => st.onscreen && centerIndex == 0) st.S st
      (queueFlat { ctx with remesh := true } box points edges ts normal centerIndex materialIndex
        .init)
      (surfacePath ctx box (st.onscreen && centerIndex == 0))
      (queueFlat ctx box points edges ts normal centerIndex materialIndex st) := by
  rw [queueFlat.eq_1 ctx, Bool.and_assoc]
  refine pathCases_surfacePath rfl fun hoff hmode => ?_
  exact (if_neg hoff).trans (if_neg hmode)

/-- **Of one with corner colours.** -/
theorem pathCases_queueColoredFlat (points : List (Vec3 D × Vec4 F))
    (edges : List (Vec3 D × Vec3 D)) (ts : List (Corners D)) (normal : Vec3 D)
    (centerIndex : UInt32) (st : FlatState F) :
    PathCases (fun st : FlatState F => st.onscreen && centerIndex == 0) st.S st
      (queueColoredFlat { ctx with remesh := true } box points edges ts normal centerIndex
        materialIndex .init)
      (surfacePath ctx box (st.onscreen && centerIndex == 0))
      (queueColoredFlat ctx box points edges ts normal centerIndex materialIndex st) := by
  rw [queueColoredFlat.eq_1 ctx, Bool.and_assoc]
  refine pathCases_surfacePath rfl fun hoff hmode => ?_
  exact (if_neg hoff).trans (if_neg hmode)

/-- **Of a triangle group.** -/
theorem V3dTriangleGroup.pathCases_queueMesh (o : V3dTriangleGroup D F) (st : KeptMesh F) :
    PathCases (fun st => (SceneObject.triangles o st : SceneObject D F).keeps) st.vertexData st
      (o.QueueMesh { ctx with remesh := true } .init)
      ((SceneObject.triangles o st).path T ctx) (o.QueueMesh ctx st) := by
  rw [V3dTriangleGroup.QueueMesh.eq_1 ctx, SceneObject.path]
  by_cases hempty : (o.triangles.isEmpty || o.vertexPositions.isEmpty) = true
  · rw [if_pos hempty, if_pos hempty]
    exact .skipped []
  · have hkeeps : (SceneObject.triangles o st : SceneObject D F).keeps =
        (st.fullyOnscreen && o.centerIndex == 0) := by
      simp [SceneObject.keeps, Bool.eq_false_iff.mpr hempty]
    rw [if_neg hempty, if_neg hempty, hkeeps, Bool.and_assoc]
    refine pathCases_coloredSurfacePath (by simp [SceneObject.keeps]) fun hoff hmode => ?_
    exact (if_neg hempty).trans ((if_neg hmode).trans (if_neg hoff))

omit [Scalar F] [Rounding D F] in
/-- **Of a curve.** -/
theorem V3dBezierCurve.pathCases_queueMesh (o : V3dBezierCurve D) (st : KeptMesh F) :
    PathCases (fun st => (SceneObject.curve o st : SceneObject D F).keeps) st.vertexData st
      (o.QueueMesh T { ctx with remesh := true } .init)
      ((SceneObject.curve o st).path T ctx) (o.QueueMesh T ctx st) := by
  rw [V3dBezierCurve.QueueMesh.eq_1 T ctx, SceneObject.path]
  by_cases hoff : ctx.offscreen (T.curveBounds o.controlPoints) = true
  · rw [if_pos hoff, if_pos hoff]
    exact .offscreen rfl
  · rw [if_neg hoff, if_neg hoff, Bool.and_assoc]
    exact pathCases_onscreenPath (if_neg hoff)

/-- **Of a line.** -/
theorem V3dLineSegment.pathCases_queueMesh (o : V3dLineSegment D) (st : KeptMesh F) :
    PathCases (fun st => (SceneObject.line o st : SceneObject D F).keeps) st.vertexData st
      (o.QueueMesh { ctx with remesh := true } .init)
      ((SceneObject.line o st).path T ctx) (o.QueueMesh ctx st) := by
  rw [V3dLineSegment.QueueMesh.eq_1 ctx, SceneObject.path]
  by_cases hoff : ctx.offscreen (verticesBox o.endpoints[0] [o.endpoints[1]]) = true
  · rw [if_pos hoff, if_pos hoff]
    exact .offscreen rfl
  · have hnew : o.QueueMesh { ctx with remesh := true } KeptMesh.init =
        (⟨straightSegment o.materialIndex o.endpoints[0] o.endpoints[1], true⟩,
          BezierCurve.queue (straightSegment o.materialIndex o.endpoints[0] o.endpoints[1])) :=
      if_neg hoff
    rw [if_neg hoff, if_neg hoff, hnew]
    exact .anew

end Families

/-! ### The objects -/

namespace SceneObject

/-- **What `QueueMesh` of an object does**, on the path it takes. -/
theorem pathCases (T : Tessellation D F) (ctx : QueueContext D F) (object : SceneObject D F) :
    PathCases keeps object.keptData object
      ((ofObject object.object).QueueMesh T { ctx with remesh := true }) (object.path T ctx)
      (object.QueueMesh T ctx) := by
  cases object with
  | bezierPatch o S =>
    exact (pathCases_queueSurface T ctx _ _ _ (fun transparent word => T.patch ctx.projViewMat
      ctx.ratio transparent none word o.controlPoints) S).map (bezierPatch o) fun _ => by rfl
  | bezierTriangle o S =>
    exact (pathCases_queueSurface T ctx _ _ _ (fun transparent word => T.triangle ctx.projViewMat
      ctx.ratio transparent none word o.controlPoints) S).map (bezierTriangle o) fun _ => by rfl
  | bezierPatchColor o S =>
    exact (pathCases_queueColoredSurface ctx _ _ _ _ _ (fun transparent word =>
      T.patch ctx.projViewMat ctx.ratio transparent (some o.cornerColors.toList) word
        o.controlPoints) S).map (bezierPatchColor o) fun _ => by rfl
  | bezierTriangleColor o S =>
    exact (pathCases_queueColoredSurface ctx _ _ _ _ _ (fun transparent word =>
      T.triangle ctx.projViewMat ctx.ratio transparent (some o.cornerColors.toList) word
        o.controlPoints) S).map (bezierTriangleColor o) fun _ => by rfl
  | quad o st => exact (pathCases_queueFlat ctx _ _ _ _ _ _ _ st).map (quad o) fun _ => rfl
  | triangle o st => exact (pathCases_queueFlat ctx _ _ _ _ _ _ _ st).map (triangle o) fun _ => rfl
  | quadColor o st =>
    exact (pathCases_queueColoredFlat ctx _ _ _ _ _ _ _ st).map (quadColor o) fun _ => rfl
  | triangleColor o st =>
    exact (pathCases_queueColoredFlat ctx _ _ _ _ _ _ _ st).map (triangleColor o) fun _ => rfl
  | triangles o st => exact (o.pathCases_queueMesh T ctx st).map (triangles o) fun _ => rfl
  | curve o st => exact (o.pathCases_queueMesh T ctx st).map (curve o) fun _ => rfl
  | line o st => exact (o.pathCases_queueMesh T ctx st).map (line o) fun _ => rfl
  | sphere o => exact .anew
  | halfSphere o => exact .anew
  | disk o => exact .anew
  | cylinder o => exact .anew
  | tube o => exact .anew
  | pixel o => exact .anew

omit [Scalar F] [Rounding D F] in
/-- The fast path is taken without `remesh` only, by an object that keeps a mesh for it. -/
theorem keeps_of_path_eq_again {T : Tessellation D F} {ctx : QueueContext D F}
    {object : SceneObject D F} (h : object.path T ctx = .again) :
    ctx.remesh = false ∧ object.keeps = true := by
  have honscreen : ∀ keeps, onscreenPath ctx keeps = .again →
      ctx.remesh = false ∧ keeps = true := by
    intro keeps h
    rw [onscreenPath] at h
    split_ifs at h with hfast
    simpa using hfast
  cases object
  all_goals simp only [path, surfacePath, coloredSurfacePath] at h
  all_goals try split_ifs at h
  all_goals first
    | exact honscreen _ h
    | cases h

omit [Scalar F] [Rounding D F] in
/-- An object that is skipped keeps no mesh for the fast path, outside `OUTLINE` mode. -/
theorem of_path_eq_skipped {T : Tessellation D F} {ctx : QueueContext D F}
    {object : SceneObject D F} (h : object.path T ctx = .skipped) :
    object.keeps = false ∨ ctx.drawMode = .outline := by
  have honscreen : ∀ keeps, onscreenPath ctx keeps ≠ .skipped := by
    intro keeps h
    rw [onscreenPath] at h
    split_ifs at h
  cases object with
  | triangles o st =>
    simp only [path, coloredSurfacePath] at h
    split_ifs at h with hempty hmode
    · exact .inl (by simp [keeps, hempty])
    · exact .inr hmode
    · exact absurd h (honscreen _)
  | _ =>
    simp only [path, surfacePath, coloredSurfacePath] at h
    try split_ifs at h
    all_goals first
      | exact .inr ‹ctx.drawMode = .outline›
      | exact absurd h (honscreen _)
      | cases h

/-- An object that keeps a mesh for the fast path after a frame has built it in that frame, or has
kept it and, outside `OUTLINE` mode, appended it. -/
theorem path_of_keeps {T : Tessellation D F} {ctx : QueueContext D F} {object : SceneObject D F}
    (h : (object.QueueMesh T ctx).1.keeps = true) :
    object.path T ctx = .anew ∨
      object.keeps = true ∧ (object.path T ctx = .again ∨ ctx.drawMode = .outline) := by
  have hcases := object.pathCases T ctx
  have hskipped : object.path T ctx = .skipped → _ := of_path_eq_skipped
  generalize object.QueueMesh T ctx = out at h hcases
  generalize object.path T ctx = taken at hcases hskipped ⊢
  cases hcases with
  | offscreen hleft => exact absurd h (by simp [hleft])
  | skipped es => exact .inr ⟨h, .inr ((hskipped rfl).resolve_left (by simpa using h))⟩
  | again kind => exact .inr ⟨h, .inl rfl⟩
  | anew => exact .inl rfl

end SceneObject

end OkularV3d
