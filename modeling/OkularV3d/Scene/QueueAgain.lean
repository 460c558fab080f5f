import OkularV3d.Scene.Rounds

/-!
# Queueing the same frame twice

The mesh of a frame depends on the camera and on what the objects keep from the frames before. Here
is the frame that follows a frame with everything else as it was: the same camera, size, draw mode
and materials. Whatever it appends to a global vertex buffer is what the frame before has appended.

* `SceneObject.contrib_remesh`: with `remesh`, what an object appends does not depend on what it
  keeps.
* `SceneObject.contrib_again`: without, an object appends again what it has just appended. A curve
  on its fast path appends to the materials what it has appended to the lines, and a group with
  transparent corners of an opaque material appends to the coloured triangles what it has appended
  to the transparent ones; the hypothesis leaves them out.
* `V3dFile.content_again`: the two for the whole file, whose billboards are turned on the way.
-/

namespace OkularV3d

open Gate

variable {D F : Type} [Scalar D] [Scalar F]

/-! ### With a new mesh -/

section Remesh

variable {ctx : QueueContext D F} (hremesh : ctx.remesh = true)

include hremesh

/-- With a new mesh, what a surface appends does not depend on what it has kept. -/
theorem queueSurface_remesh_snd (T : Tessellation D F) (box : Vec3 D × Vec3 D)
    (edges : List (Vector (Vec3 D) 4)) (materialIndex : UInt32)
    (tessellate : Bool → Int32 → VertexData F × Bool) (S S' : BezierPatch F) :
    (queueSurface T ctx box edges materialIndex tessellate S).2 =
      (queueSurface T ctx box edges materialIndex tessellate S').2 := by
  simp only [queueSurface, hremesh, Bool.not_true, Bool.false_and, Bool.false_eq_true, if_false]
  split_ifs <;> rfl

/-- Nor does it with corner colours. -/
theorem queueColoredSurface_remesh_snd (box : Vec3 D × Vec3 D) (outline : Effects F)
    (cornerColors : List (Vec4 F)) (materialIndex : UInt32)
    (tessellate : Bool → Int32 → VertexData F × Bool) (S S' : BezierPatch F) :
    (queueColoredSurface ctx box outline cornerColors materialIndex tessellate S).2 =
      (queueColoredSurface ctx box outline cornerColors materialIndex tessellate S').2 := by
  simp only [queueColoredSurface, hremesh, Bool.not_true, Bool.false_and, Bool.false_eq_true,
    if_false]
  split_ifs <;> rfl

omit [Scalar F] in
/-- Nor for a curve. -/
theorem V3dBezierCurve.queueMesh_remesh_snd (T : Tessellation D F) (o : V3dBezierCurve D)
    (st st' : KeptMesh F) : (o.QueueMesh T ctx st).2 = (o.QueueMesh T ctx st').2 := by
  simp only [QueueMesh, hremesh, Bool.not_true, Bool.false_and, Bool.false_eq_true, if_false]

/-- Nor for a triangle group. -/
theorem V3dTriangleGroup.queueMesh_remesh_snd [Rounding D F] (o : V3dTriangleGroup D F)
    (st st' : KeptMesh F) : (o.QueueMesh ctx st).2 = (o.QueueMesh ctx st').2 := by
  simp only [QueueMesh, hremesh, Bool.not_true, Bool.false_and, Bool.false_eq_true, if_false]
  split_ifs <;> rfl

variable [Rounding D F]

/-- Nor for a quadrilateral or triangle. -/
theorem queueFlat_remesh_snd (box : Vec3 D × Vec3 D) (points : List (Vec3 D))
    (edges : List (Vec3 D × Vec3 D)) (ts : List (Corners D)) (normal : Vec3 D)
    (centerIndex materialIndex : UInt32) (st st' : FlatState F) :
    (queueFlat ctx box points edges ts normal centerIndex materialIndex st).2 =
      (queueFlat ctx box points edges ts normal centerIndex materialIndex st').2 := by
  simp only [queueFlat, hremesh, Bool.not_true, Bool.false_and, Bool.false_eq_true, if_false]
  split_ifs <;> rfl

/-- (Offscreen, a coloured polygon marks a buffer chosen by what it keeps.) -/
theorem contrib_queueColoredFlat_remesh (box : Vec3 D × Vec3 D) (points : List (Vec3 D × Vec4 F))
    (edges : List (Vec3 D × Vec3 D)) (ts : List (Corners D)) (normal : Vec3 D)
    (centerIndex materialIndex : UInt32) (st st' : FlatState F) (k : BufferKind) :
    contrib k (queueColoredFlat ctx box points edges ts normal centerIndex materialIndex st).2 =
      contrib k
        (queueColoredFlat ctx box points edges ts normal centerIndex materialIndex st').2 := by
  simp only [queueColoredFlat, hremesh, Bool.not_true, Bool.false_and, Bool.false_eq_true, if_false]
  split_ifs <;> rfl

/-- **A new mesh** does not depend on what the object keeps. -/
theorem SceneObject.contrib_remesh (T : Tessellation D F) (o : SceneObject D F) (k : BufferKind) :
    contrib k (o.QueueMesh T ctx).2 = contrib k ((ofObject o.object).QueueMesh T ctx).2 := by
  cases o with
  | bezierPatch o S =>
    simp only [QueueMesh, ofObject, object, Prod.map_snd, id, V3dBezierPatch.QueueMesh,
      queueSurface_remesh_snd hremesh T _ _ _ _ S .init]
  | bezierTriangle o S =>
    simp only [QueueMesh, ofObject, object, Prod.map_snd, id, V3dBezierTriangle.QueueMesh,
      queueSurface_remesh_snd hremesh T _ _ _ _ S .init]
  | bezierPatchColor o S =>
    simp only [QueueMesh, ofObject, object, Prod.map_snd, id,
      V3dBezierPatchWithCornerColors.QueueMesh,
      queueColoredSurface_remesh_snd hremesh _ _ _ _ _ S .init]
  | bezierTriangleColor o S =>
    simp only [QueueMesh, ofObject, object, Prod.map_snd, id,
      V3dBezierTriangleWithCornerColors.QueueMesh,
      queueColoredSurface_remesh_snd hremesh _ _ _ _ _ S .init]
  | quad o st => exact congrArg (contrib k) (queueFlat_remesh_snd hremesh ..)
  | triangle o st => exact congrArg (contrib k) (queueFlat_remesh_snd hremesh ..)
  | quadColor o st => exact contrib_queueColoredFlat_remesh hremesh ..
  | triangleColor o st => exact contrib_queueColoredFlat_remesh hremesh ..
  | triangles o st => exact congrArg (contrib k) (o.queueMesh_remesh_snd hremesh st .init)
  | curve o st => exact congrArg (contrib k) (o.queueMesh_remesh_snd hremesh T st .init)
  | line o st => rfl
  | sphere o => rfl
  | halfSphere o => rfl
  | disk o => rfl
  | cylinder o => rfl
  | tube o => rfl
  | pixel o => rfl

end Remesh

/-! ### Without a new mesh -/

section Again

/-- The frame after a frame, with everything as it was and no new mesh. -/
abbrev QueueContext.again (ctx : QueueContext D F) : QueueContext D F :=
  { ctx with remesh := false }

omit [Scalar F] in
/-- **Both paths of an object that is onscreen**: it appends what it keeps, or builds its mesh. It
appends the same the next time, if what it keeps goes where its new mesh went. -/
theorem contrib_onscreen_again {σ : Type} (keeps : σ → Bool) (append : σ → Effects F)
    {new : σ × Effects F} {k : BufferKind}
    (hnew : keeps new.1 = true → contrib k (append new.1) = contrib k new.2) (remesh : Bool)
    (st : σ) :
    let queue := fun remesh st => if !remesh && keeps st then (st, append st) else new
    contrib k (queue false (queue remesh st).1).2 = contrib k (queue remesh st).2 := by
  intro queue
  by_cases hfast : (!remesh && keeps st) = true
  · have hkeeps : keeps st = true := (Bool.and_eq_true_iff.mp hfast).2
    simp only [queue, if_pos hfast, hkeeps, Bool.not_false, Bool.and_self, if_true]
  · simp only [queue, if_neg hfast, Bool.not_false, Bool.true_and]
    by_cases hkeeps : keeps new.1 = true
    · rw [if_pos hkeeps]
      exact hnew hkeeps
    · rw [if_neg hkeeps]

variable (ctx : QueueContext D F)

/-- **Without a new mesh** a surface appends what it has just appended. -/
theorem contrib_queueSurface_again (T : Tessellation D F) (box : Vec3 D × Vec3 D)
    (edges : List (Vector (Vec3 D) 4)) (materialIndex : UInt32)
    (tessellate : Bool → Int32 → VertexData F × Bool) (S : BezierPatch F) (k : BufferKind) :
    contrib k (queueSurface T ctx.again box edges materialIndex tessellate
        (queueSurface T ctx box edges materialIndex tessellate S).1).2 =
      contrib k (queueSurface T ctx box edges materialIndex tessellate S).2 := by
  have hbox : ctx.again.offscreen box = ctx.offscreen box := rfl
  by_cases hoff : ctx.offscreen box = true
  · simp only [queueSurface, hbox, hoff, if_true]
  by_cases hmode : ctx.drawMode = .outline
  · simp only [queueSurface, hbox, hoff, hmode, if_true]
    rfl
  · simp only [queueSurface, hbox, hoff, hmode, if_false]
    exact contrib_onscreen_again BezierPatch.onscreen BezierPatch.append (fun _ => rfl) ctx.remesh S

/-- So does one with corner colours, unless its marks go astray. -/
theorem contrib_queueColoredSurface_again (box : Vec3 D × Vec3 D)
    {outline outline' : Effects F} (houtline : ctx.drawMode = .outline → outline' = outline)
    (cornerColors : List (Vec4 F)) (materialIndex : UInt32)
    (tessellate : Bool → Int32 → VertexData F × Bool) (S : BezierPatch F) (k : BufferKind) :
    contrib k (queueColoredSurface ctx.again box outline' cornerColors materialIndex tessellate
        (queueColoredSurface ctx box outline cornerColors materialIndex tessellate S).1).2 =
      contrib k
        (queueColoredSurface ctx box outline cornerColors materialIndex tessellate S).2 := by
  have hbox : ctx.again.offscreen box = ctx.offscreen box := rfl
  by_cases hmode : ctx.drawMode = .outline
  · simp only [queueColoredSurface, hmode, if_true, houtline hmode]
  by_cases hoff : ctx.offscreen box = true
  · simp only [queueColoredSurface, hbox, hoff, hmode, if_true, if_false]
  · simp only [queueColoredSurface, hbox, hoff, hmode, if_false]
    exact contrib_onscreen_again BezierPatch.onscreen BezierPatch.append (fun _ => rfl) ctx.remesh S

omit [Scalar F] in
/-- So does a curve. -/
theorem V3dBezierCurve.contrib_again {T : Tessellation D F} (o : V3dBezierCurve D)
    (st : KeptMesh F) (h : o.mismarks T ctx.again (o.QueueMesh T ctx st).1 = false)
    (k : BufferKind) :
    contrib k (o.QueueMesh T ctx.again (o.QueueMesh T ctx st).1).2 =
      contrib k (o.QueueMesh T ctx st).2 := by
  have hbox : ctx.again.offscreen (T.curveBounds o.controlPoints) =
      ctx.offscreen (T.curveBounds o.controlPoints) := rfl
  by_cases hoff : ctx.offscreen (T.curveBounds o.controlPoints) = true
  · simp only [QueueMesh, hbox, hoff, if_true]
  -- what a frame leaves is not appended by the next one, so the mesh is built twice
  have hbuilds : ((o.QueueMesh T ctx st).1.fullyOnscreen && o.centerIndex == 0) = false := by
    simpa [mismarks, hbox, hoff] using h
  have hout : o.QueueMesh T ctx st =
      let built := T.curve ctx.projViewMat ctx.ratio o.materialIndex.toInt32 o.controlPoints
      (⟨built.1, built.2⟩, BezierCurve.queue built.1) := by
    refine (if_neg hoff).trans (if_neg fun hfast => ?_)
    have happends : o.QueueMesh T ctx st = (st, [.put .material st.vertexData]) :=
      (if_neg hoff).trans (if_pos hfast)
    rw [happends] at hbuilds
    rw [Bool.and_assoc, hbuilds, Bool.and_false] at hfast
    exact absurd hfast (by simp)
  rw [QueueMesh, hbox, if_neg hoff, Bool.and_assoc, hbuilds, Bool.and_false, if_neg (by simp), hout]
  rfl

variable [Rounding D F]

/-- So does a quadrilateral or triangle of one material. -/
theorem contrib_queueFlat_again (box : Vec3 D × Vec3 D) (points : List (Vec3 D))
    (edges : List (Vec3 D × Vec3 D)) (ts : List (Corners D)) (normal : Vec3 D)
    (centerIndex materialIndex : UInt32) (st : FlatState F) (k : BufferKind) :
    contrib k (queueFlat ctx.again box points edges ts normal centerIndex materialIndex
        (queueFlat ctx box points edges ts normal centerIndex materialIndex st).1).2 =
      contrib k (queueFlat ctx box points edges ts normal centerIndex materialIndex st).2 := by
  have hbox : ctx.again.offscreen box = ctx.offscreen box := rfl
  by_cases hoff : ctx.offscreen box = true
  · simp only [queueFlat, hbox, hoff, if_true]
  by_cases hmode : ctx.drawMode = .outline
  · simp only [queueFlat, hbox, hoff, hmode, if_true]
    rfl
  · simp only [queueFlat, hbox, hoff, hmode, if_false, Bool.and_assoc]
    exact contrib_onscreen_again (fun st : FlatState F => st.onscreen && centerIndex == 0)
      (fun st => [.put (flatKind st.S_color) st.S]) (fun _ => rfl) ctx.remesh st

/-- So does one with corner colours. -/
theorem contrib_queueColoredFlat_again (box : Vec3 D × Vec3 D) (points : List (Vec3 D × Vec4 F))
    (edges : List (Vec3 D × Vec3 D)) (ts : List (Corners D)) (normal : Vec3 D)
    (centerIndex materialIndex : UInt32) (st : FlatState F) (k : BufferKind) :
    contrib k (queueColoredFlat ctx.again box points edges ts normal centerIndex materialIndex
        (queueColoredFlat ctx box points edges ts normal centerIndex materialIndex st).1).2 =
      contrib k
        (queueColoredFlat ctx box points edges ts normal centerIndex materialIndex st).2 := by
  have hbox : ctx.again.offscreen box = ctx.offscreen box := rfl
  by_cases hoff : ctx.offscreen box = true
  · simp only [queueColoredFlat, hbox, hoff, if_true]
  by_cases hmode : ctx.drawMode = .outline
  · simp only [queueColoredFlat, hbox, hoff, hmode, if_true]
    rfl
  · simp only [queueColoredFlat, hbox, hoff, hmode, if_false, Bool.and_assoc]
    exact contrib_onscreen_again (fun st : FlatState F => st.onscreen && centerIndex == 0)
      (fun st => [.put (colorKind (cornersTransparent ctx.drawMode (points.map Prod.snd))) st.S])
      (fun _ => rfl) ctx.remesh st

/-- So does a triangle group. -/
theorem V3dTriangleGroup.contrib_again (o : V3dTriangleGroup D F) (st : KeptMesh F)
    (h : o.mismarks ctx = false) (k : BufferKind) :
    contrib k (o.QueueMesh ctx.again (o.QueueMesh ctx st).1).2 =
      contrib k (o.QueueMesh ctx st).2 := by
  have hbox : ctx.again.offscreen (ctx.sceneMinBound, ctx.sceneMaxBound) =
      ctx.offscreen (ctx.sceneMinBound, ctx.sceneMaxBound) := rfl
  by_cases hempty : (o.triangles.isEmpty || o.vertexPositions.isEmpty) = true
  · simp only [QueueMesh, hempty, if_true]
  by_cases hmode : ctx.drawMode = .outline
  · simp only [QueueMesh, hempty, hmode, if_true]
    rfl
  by_cases hoff : ctx.offscreen (ctx.sceneMinBound, ctx.sceneMaxBound) = true
  · simp only [QueueMesh, hempty, hmode, hbox, hoff, if_true, if_false]
    rfl
  -- the corner colours put the group nowhere else
  have htransparent : (materialTransparent ctx.drawMode ctx.materials o.materialIndex ||
      (!o.vertexColorArray.isEmpty && o.cornersTransparent)) =
      materialTransparent ctx.drawMode ctx.materials o.materialIndex := by
    cases ht : materialTransparent ctx.drawMode ctx.materials o.materialIndex with
    | true => rfl
    | false => simpa [mismarks, isEmpty, hempty, hoff, ht] using h
  simp only [QueueMesh, hempty, hmode, hbox, hoff, if_false, htransparent, Bool.and_assoc]
  exact contrib_onscreen_again (fun st : KeptMesh F => st.fullyOnscreen && o.centerIndex == 0)
    (fun st => [.put (colorKind (materialTransparent ctx.drawMode ctx.materials o.materialIndex))
      st.vertexData]) (fun _ => rfl) ctx.remesh st

/-- **No new mesh**: an object appends what it has appended, unless it is a curve or a group that
would append it to another buffer. -/
theorem SceneObject.contrib_again (T : Tessellation D F) (o : SceneObject D F) {last : Mat4 D}
    (h : (o.QueueMesh T ctx).1.mismarks T last ctx.again = false) (k : BufferKind) :
    contrib k ((o.QueueMesh T ctx).1.QueueMesh T ctx.again).2 =
      contrib k (o.QueueMesh T ctx).2 := by
  cases o with
  | bezierPatch o S =>
    simp only [QueueMesh, Prod.map_fst, Prod.map_snd, id, V3dBezierPatch.QueueMesh]
    exact contrib_queueSurface_again ctx T _ _ _ _ S k
  | bezierTriangle o S =>
    simp only [QueueMesh, Prod.map_fst, Prod.map_snd, id, V3dBezierTriangle.QueueMesh]
    exact contrib_queueSurface_again ctx T _ _ _ _ S k
  | bezierPatchColor o S =>
    simp only [QueueMesh, Prod.map_fst, Prod.map_snd, id, V3dBezierPatchWithCornerColors.QueueMesh]
    exact contrib_queueColoredSurface_again ctx _ (fun _ => rfl) _ _ _ S k
  | bezierTriangleColor o S =>
    simp only [QueueMesh, Prod.map_fst, Prod.map_snd, id,
      V3dBezierTriangleWithCornerColors.QueueMesh]
    refine contrib_queueColoredSurface_again ctx _ (fun hmode => ?_) _ _ _ S k
    -- its outline is a surface without colours, whose `remesh` is not asked for in this mode
    simp only [V3dBezierTriangle.QueueMesh, queueSurface, hmode, if_true]
    rfl
  | quad o st => exact contrib_queueFlat_again ctx _ _ _ _ _ _ _ st k
  | triangle o st => exact contrib_queueFlat_again ctx _ _ _ _ _ _ _ st k
  | quadColor o st => exact contrib_queueColoredFlat_again ctx _ _ _ _ _ _ _ st k
  | triangleColor o st => exact contrib_queueColoredFlat_again ctx _ _ _ _ _ _ _ st k
  | triangles o st => exact o.contrib_again ctx st h k
  | curve o st => exact o.contrib_again ctx st h k
  | line o st => rfl
  | sphere o => rfl
  | halfSphere o => rfl
  | disk o => rfl
  | cylinder o => rfl
  | tube o => rfl
  | pixel o => rfl

end Again

/-! ### The whole file -/

namespace V3dFile

variable [Rounding D F]

/-- What a frame appends to a buffer, object by object. -/
theorem contrib_queueMesh (T : Tessellation D F) (ctx : QueueContext D F) (file : V3dFile D F)
    (k : BufferKind) :
    contrib k (file.QueueMesh T ctx).2.flatten = file.objects.flatMap fun o =>
      (contrib k (o.QueueMesh T ctx).2).map (file.turnData ctx.normMat o k) := by
  rw [queueMesh_snd, turned, rawEffects, List.zipWith_map_right, List.zipWith_self]
  induction file.objects with
  | nil => rfl
  | cons o os ih =>
    rw [List.map_cons, List.flatten_cons, contrib_append, List.flatMap_cons, contrib_turn, ih]

/-- And the billboards are turned about the same centers. -/
theorem turnData_queueMesh (T : Tessellation D F) (ctx : QueueContext D F) (file : V3dFile D F)
    (normMat : Mat3 D) (o : SceneObject D F) (k : BufferKind) :
    (file.QueueMesh T ctx).1.turnData normMat (o.QueueMesh T ctx).1 k =
      file.turnData normMat o k := by
  simp only [turnData, center?, object_queueMesh]
  rfl

/-- **The next frame of a file** with everything as it was appends the same to every buffer, if it
has no new mesh, or had one before. -/
theorem content_again (T : Tessellation D F) {ctx : QueueContext D F} {file : V3dFile D F}
    {remesh : Bool} {last : Mat4 D} (hremesh : remesh = true → ctx.remesh = true)
    (hmarks : remesh = false → ∀ o ∈ (file.QueueMesh T ctx).1.objects,
      o.mismarks T last ctx.again = false) (k : BufferKind) :
    content k ((file.QueueMesh T ctx).1.QueueMesh T { ctx with remesh }).2.flatten =
      content k (file.QueueMesh T ctx).2.flatten := by
  have hobject : ∀ o ∈ file.objects,
      contrib k ((o.QueueMesh T ctx).1.QueueMesh T { ctx with remesh }).2 =
        contrib k (o.QueueMesh T ctx).2 := by
    intro o ho
    cases remesh with
    | true =>
      have hsame : { ctx with remesh := true } = ctx := by rw [← hremesh rfl]
      rw [hsame, SceneObject.contrib_remesh (hremesh rfl), object_queueMesh,
        ← SceneObject.contrib_remesh (hremesh rfl)]
    | false =>
      refine o.contrib_again ctx T (hmarks rfl _ ?_) k
      simp only [QueueMesh, List.map_map]
      exact List.mem_map_of_mem ho
  have hcontrib : contrib k ((file.QueueMesh T ctx).1.QueueMesh T { ctx with remesh }).2.flatten =
      contrib k (file.QueueMesh T ctx).2.flatten := by
    have hobjects : (file.QueueMesh T ctx).1.objects =
        file.objects.map fun o => (o.QueueMesh T ctx).1 := by
      simp [QueueMesh, List.map_map]
    rw [contrib_queueMesh, contrib_queueMesh, hobjects, List.flatMap_map]
    refine List.flatMap_congr fun o ho => ?_
    rw [hobject o ho, turnData_queueMesh]
  rw [content, content, hcontrib]

end V3dFile

end OkularV3d
