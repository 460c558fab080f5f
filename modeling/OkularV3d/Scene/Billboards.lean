import OkularV3d.Scene.Rounds

/-!
# Billboards

`V3dFile::QueueMesh` turns the vertices of a billboard after the object has appended them: it
records the sizes of three global buffers before it asks the object, and moves what lies past them
afterwards. `V3dFile.queueInto` is that loop over the global buffers themselves;
`V3dFile.queueInto_eq` says that it does what the turned effects of `V3dFile.QueueMesh` do.

`V3dFile.billboardsTurned_iff` is the result: a call turns every vertex of every billboard, and
nothing else, exactly when no billboard has transparent vertices that its rotation would move.

* `turnFrom` is the loop over the vertices past a recorded size, and `queueObject` one object with
  it.
* `transparentPositions` says of an object, from its geometry and what it keeps, which of its
  vertices lie in the transparent buffer. That is the one buffer whose size is not recorded.
* `transparentPut_queueMesh` proves it right for every class and every path.
* `label` is a scene of one billboard, which is not turned if it is translucent
  (`not_billboardsTurned_label`).
-/

namespace OkularV3d

open Gate

variable {D F : Type}

/-! ### The loop over the buffers -/

/-- The vertices from number `before` on are passed through `f`. -/
def turnFrom {α : Type} (before : Nat) (f : α → α) (vertices : List α) : List α :=
  vertices.mapIdx fun i vertex => if before ≤ i then f vertex else vertex

/-- With nothing but earlier vertices, nothing is changed. -/
theorem turnFrom_length {α : Type} (f : α → α) (xs : List α) : turnFrom xs.length f xs = xs := by
  refine List.ext_getElem (by simp [turnFrom]) fun i hi hi' => ?_
  simp [turnFrom, Nat.not_le.mpr hi']

/-- What is turned from a place on, of two lists, is the rest of the first and all of the second. -/
theorem turnFrom_append {α : Type} {before : Nat} (f : α → α) {xs : List α}
    (h : before ≤ xs.length) (ys : List α) :
    turnFrom before f (xs ++ ys) = turnFrom before f xs ++ ys.map f := by
  have hlate : ∀ i, before ≤ i + xs.length := fun i => by omega
  simp only [turnFrom, List.mapIdx_append, hlate, if_true]
  congr 1
  exact List.mapIdx_eq_iff.mpr fun i => List.getElem?_map

namespace VertexData

/-- The number of vertices of the format of a buffer. -/
def count (k : BufferKind) (data : VertexData F) : Nat :=
  match k with
  | .material | .line => data.materialVertices.length
  | .color | .transparent | .triangle => data.colorVertices.length
  | .point => data.pointVertices.length

/-- The three loops after an object: the vertices of the materials, the colours and the lines past
the recorded size. -/
def turnFrom (before : Nat) (f : Vec3 F → Vec3 F) (k : BufferKind) (data : VertexData F) :
    VertexData F :=
  match k with
  | .material | .line =>
    { data with
      materialVertices := OkularV3d.turnFrom before (fun v => { v with position := f v.position })
        data.materialVertices }
  | .color =>
    { data with
      colorVertices := OkularV3d.turnFrom before (fun v => { v with position := f v.position })
        data.colorVertices }
  | .transparent | .triangle | .point => data

/-- Nothing is behind the end of a buffer. -/
theorem turnFrom_count (f : Vec3 F → Vec3 F) (k : BufferKind) (data : VertexData F) :
    data.turnFrom (data.count k) f k = data := by
  cases k <;> simp [turnFrom, count, turnFrom_length]

/-- A buffer grows by what is put into it. -/
theorem count_extend (k : BufferKind) (data other : VertexData F) :
    (extend k data other).count k = data.count k + other.count k := by
  cases k <;> simp [extend, extendMaterial, extendColor, extendPoint, count]

/-- Vertices appended past the recorded size are turned, whatever happens to those before them. -/
theorem turnFrom_extend {before : Nat} (f : Vec3 F → Vec3 F) {k : BufferKind}
    {data : VertexData F} (h : before ≤ data.count k) (other : VertexData F) :
    (extend k data other).turnFrom before f k =
      extend k (data.turnFrom before f k) (other.mapPositions f k) := by
  have hlength : ∀ {α : Type} (g : α → α) (xs : List α),
      (OkularV3d.turnFrom before g xs).length = xs.length := by
    intro α g xs
    simp [OkularV3d.turnFrom]
  cases k <;>
    simp_all [extend, extendMaterial, extendColor, extendPoint, turnFrom, mapPositions, count,
      turnFrom_append]

end VertexData

namespace Buffers

/-- What `V3dFile::QueueMesh` does after an object: `before` are the buffers whose sizes it has
recorded. -/
def turnFrom (buffers before : Buffers F) (f : Vec3 F → Vec3 F) : Buffers F :=
  fun k =>
    { buffers k with data := (buffers k).data.turnFrom ((before k).data.count k) f k }

/-- **Step lemma**: an effect before the turn is the turned effect after it. -/
theorem turnFrom_effect {before buffers : Buffers F} (f : Vec3 F → Vec3 F)
    (h : ∀ k, (before k).data.count k ≤ (buffers k).data.count k)
    (e : Effect BufferKind (VertexData F)) :
    (buffers.effect e).turnFrom before f =
      (buffers.turnFrom before f).effect (e.map fun k data => data.mapPositions f k) := by
  funext k
  cases e with
  | mark kind =>
    by_cases hk : k = kind
    · subst hk
      simp [turnFrom, effect, Effect.map]
    · simp [turnFrom, effect, Effect.map, hk]
  | put kind data =>
    by_cases hk : k = kind
    · subst hk
      simp [turnFrom, effect, Effect.map, VertexData.turnFrom_extend f (h k)]
    · simp [turnFrom, effect, Effect.map, hk]

/-- No effect makes a buffer smaller. -/
theorem count_effect (buffers : Buffers F) (e : Effect BufferKind (VertexData F))
    (k : BufferKind) : (buffers k).data.count k ≤ (buffers.effect e k).data.count k := by
  cases e with
  | mark kind =>
    by_cases hk : k = kind
    · subst hk
      simp [effect]
    · simp [effect, hk]
  | put kind data =>
    by_cases hk : k = kind
    · subst hk
      simp [effect, VertexData.count_extend]
    · simp [effect, hk]

/-- **Run lemma**: the loops after an object turn its effects. -/
theorem turnFrom_apply {before buffers : Buffers F} (f : Vec3 F → Vec3 F)
    (h : ∀ k, (before k).data.count k ≤ (buffers k).data.count k) (es : Effects F) :
    (buffers.apply es).turnFrom before f =
      (buffers.turnFrom before f).apply
        (es.map (Effect.map fun k data => data.mapPositions f k)) := by
  induction es generalizing buffers with
  | nil => rfl
  | cons e es ih =>
    refine (ih fun k => (h k).trans (count_effect ..)).trans ?_
    rw [turnFrom_effect f h]
    rfl

/-- An object that puts nothing turns nothing. -/
theorem turnFrom_self (buffers : Buffers F) (f : Vec3 F → Vec3 F) :
    buffers.turnFrom buffers f = buffers := by
  funext k
  rw [turnFrom, VertexData.turnFrom_count]

end Buffers

variable [Scalar D] [Scalar F] [Rounding D F]

namespace V3dFile

/-- One turn of the loop in `V3dFile::QueueMesh`: the object appends, then its billboard is
turned. -/
def queueObject (T : Tessellation D F) (ctx : QueueContext D F) (file : V3dFile D F)
    (buffers : Buffers F) (o : SceneObject D F) : Buffers F :=
  let queued := buffers.apply (o.QueueMesh T ctx).2
  match file.center? o with
  | none => queued
  | some center => queued.turnFrom buffers (billboardTransform ctx.normMat center.narrow)

/-- `V3dFile::QueueMesh`, on the global buffers. -/
def queueInto (T : Tessellation D F) (ctx : QueueContext D F) (file : V3dFile D F)
    (buffers : Buffers F) : Buffers F :=
  file.objects.foldl (file.queueObject T ctx) buffers

/-- **The loop over the buffers** that compares their sizes before and after an object turns exactly
what the object put there. -/
theorem queueObject_eq (T : Tessellation D F) (ctx : QueueContext D F) (file : V3dFile D F)
    (buffers : Buffers F) (o : SceneObject D F) :
    file.queueObject T ctx buffers o =
      buffers.apply (file.turn ctx.normMat o (o.QueueMesh T ctx).2) := by
  rw [queueObject, turn]
  cases file.center? o with
  | none => rfl
  | some center =>
    dsimp only
    rw [Buffers.turnFrom_apply _ fun _ => le_rfl, Buffers.turnFrom_self]

/-- The loop does to the buffers what the turned effects of the objects do. -/
theorem queueInto_eq (T : Tessellation D F) (ctx : QueueContext D F) (file : V3dFile D F)
    (buffers : Buffers F) :
    file.queueInto T ctx buffers = buffers.apply (file.QueueMesh T ctx).2.flatten := by
  rw [queueMesh_snd, turned, rawEffects, List.zipWith_map_right, List.zipWith_self, queueInto]
  generalize file.objects = objects
  induction objects generalizing buffers with
  | nil => rfl
  | cons o objects ih =>
    rw [List.foldl_cons, ih, queueObject_eq, List.map_cons, List.flatten_cons]
    exact (List.foldl_append ..).symm

end V3dFile

/-! ### What a billboard puts among the transparent vertices -/

section Transparent

omit [Scalar D] [Scalar F] [Rounding D F]

/-- The positions of the vertices with a colour. -/
def VertexData.colorPositions (data : VertexData F) : List (Vec3 F) :=
  data.colorVertices.map ColorVertex.position

end Transparent

omit [Scalar F] [Rounding D F] in
/-- Transparent vertices of a Bezier surface: none in `OUTLINE` mode or offscreen, else those it
keeps or those it builds. -/
def surfaceTransparent (ctx : QueueContext D F) (box : Vec3 D × Vec3 D) (transparent : Bool)
    (built : VertexData F) (S : BezierPatch F) : List (Vec3 F) :=
  if ctx.offscreen box ∨ ctx.drawMode = .outline then []
  else if !ctx.remesh && S.onscreen then if S.transparent then S.data.colorPositions else []
  else if transparent then built.colorPositions else []

omit [Scalar F] in
/-- Transparent vertices of a straight polygon of a billboard, which never takes its fast path. -/
def flatTransparent (ctx : QueueContext D F) (box : Vec3 D × Vec3 D) (transparent : Bool)
    (points : List (Vec3 D)) : List (Vec3 F) :=
  if ctx.offscreen box ∨ ctx.drawMode = .outline then []
  else if transparent then points.map Vec3.narrow else []

omit [Rounding D F] in
/-- Transparent vertices of a `V3dBezierPatch`. -/
def V3dBezierPatch.transparentPositions (T : Tessellation D F) (ctx : QueueContext D F)
    (o : V3dBezierPatch D) (S : BezierPatch F) : List (Vec3 F) :=
  let transparent := materialTransparent ctx.drawMode ctx.materials o.materialIndex
  surfaceTransparent ctx (T.patchBounds o.controlPoints) transparent
    (T.patch ctx.projViewMat ctx.ratio transparent none
      (BezierPatch.materialWord transparent false o.materialIndex) o.controlPoints).1 S

omit [Rounding D F] in
/-- Transparent vertices of a `V3dBezierTriangle`. -/
def V3dBezierTriangle.transparentPositions (T : Tessellation D F) (ctx : QueueContext D F)
    (o : V3dBezierTriangle D) (S : BezierPatch F) : List (Vec3 F) :=
  let transparent := materialTransparent ctx.drawMode ctx.materials o.materialIndex
  surfaceTransparent ctx (T.triangleBounds o.controlPoints) transparent
    (T.triangle ctx.projViewMat ctx.ratio transparent none
      (BezierPatch.materialWord transparent false o.materialIndex) o.controlPoints).1 S

/-- The positions of the vertices a billboard puts into `transparentData`: which objects are
transparent, and with what geometry. -/
def SceneObject.transparentPositions (T : Tessellation D F) (ctx : QueueContext D F) :
    SceneObject D F → List (Vec3 F)
  | bezierPatch o S => o.transparentPositions T ctx S
  | bezierTriangle o S => o.transparentPositions T ctx S
  | bezierPatchColor o S =>
    let corners := o.cornerColors.toList
    let transparent := OkularV3d.cornersTransparent ctx.drawMode corners
    surfaceTransparent ctx (T.patchBounds o.controlPoints) transparent
      (T.patch ctx.projViewMat ctx.ratio transparent (some corners)
        (BezierPatch.materialWord transparent true o.materialIndex) o.controlPoints).1 S
  | bezierTriangleColor o S =>
    let corners := o.cornerColors.toList
    let transparent := OkularV3d.cornersTransparent ctx.drawMode corners
    surfaceTransparent ctx (T.triangleBounds o.controlPoints) transparent
      (T.triangle ctx.projViewMat ctx.ratio transparent (some corners)
        (BezierPatch.materialWord transparent true o.materialIndex) o.controlPoints).1 S
  | quad o _ =>
    let p := o.vertices
    flatTransparent ctx (quadBox p)
      (materialTransparent ctx.drawMode ctx.materials o.materialIndex) p.toList
  | triangle o _ =>
    let p := o.vertices
    flatTransparent ctx (triangleBox p)
      (materialTransparent ctx.drawMode ctx.materials o.materialIndex) p.toList
  | quadColor o _ =>
    let p := o.vertices
    flatTransparent ctx (quadBox p)
      (OkularV3d.cornersTransparent ctx.drawMode o.cornerColors.toList) p.toList
  | triangleColor o _ =>
    let p := o.vertices
    flatTransparent ctx (triangleBox p)
      (OkularV3d.cornersTransparent ctx.drawMode o.cornerColors.toList) p.toList
  | triangles o _ =>
    if o.triangles.isEmpty then []
    else
      flatTransparent ctx (ctx.sceneMinBound, ctx.sceneMaxBound)
        (materialTransparent ctx.drawMode ctx.materials o.materialIndex ||
          (!o.vertexColorArray.isEmpty && o.cornersTransparent))
        o.vertexPositions
  | sphere o => o.triangles.flatMap fun p =>
      V3dBezierTriangle.transparentPositions T { ctx with remesh := true }
        ⟨p, o.centerIndex, o.materialIndex⟩ .init
  | halfSphere o => o.triangles.flatMap fun p =>
      V3dBezierTriangle.transparentPositions T { ctx with remesh := true }
        ⟨p, o.centerIndex, o.materialIndex⟩ .init
  | disk o =>
    V3dBezierPatch.transparentPositions T { ctx with remesh := true }
      ⟨o.patch, o.centerIndex, o.materialIndex⟩ .init
  | cylinder o => o.patches.flatMap fun p =>
      V3dBezierPatch.transparentPositions T { ctx with remesh := true }
        ⟨p, o.centerIndex, o.materialIndex⟩ .init
  | tube o => o.patches.flatMap fun p =>
      V3dBezierPatch.transparentPositions T { ctx with remesh := true }
        ⟨p, o.centerIndex, o.materialIndex⟩ .init
  | curve _ _ | line _ _ | pixel _ => []

/-! ### Where the transparent vertices come from -/

section Put

omit [Scalar D] [Scalar F] [Rounding D F]

/-- The positions of what some effects put into `transparentData`. -/
def transparentPut (es : Effects F) : List (Vec3 F) :=
  (contrib .transparent es).flatMap VertexData.colorPositions

/-- Effects one after the other put their transparent vertices one after the other. -/
theorem transparentPut_append (es fs : Effects F) :
    transparentPut (es ++ fs) = transparentPut es ++ transparentPut fs := by
  rw [transparentPut, contrib_append, List.flatMap_append]
  rfl

theorem transparentPut_flatMap {ι : Type} (xs : List ι) (f : ι → Effects F) :
    transparentPut (xs.flatMap f) = xs.flatMap fun x => transparentPut (f x) := by
  induction xs with
  | nil => rfl
  | cons x xs ih => rw [List.flatMap_cons, transparentPut_append, ih, List.flatMap_cons]

/-- Curves go to the lines. -/
theorem transparentPut_curves {ι : Type} (xs : List ι) (f : ι → VertexData F) :
    transparentPut (xs.flatMap fun x => BezierCurve.queue (f x)) = [] := by
  rw [transparentPut_flatMap]
  exact List.flatMap_eq_nil_iff.mpr fun _ _ => rfl

theorem transparentPut_mark (k : BufferKind) (es : Effects F) :
    transparentPut (.mark k :: es) = transparentPut es := by
  rw [transparentPut, contrib_mark]
  rfl

/-- A piece is put among the transparent vertices if that is its buffer. -/
theorem transparentPut_put (k : BufferKind) (data : VertexData F) :
    transparentPut [.put k data] = if k = .transparent then data.colorPositions else [] := by
  by_cases hk : k = .transparent
  · subst hk
    simp [transparentPut]
  · simp [transparentPut, contrib_put_of_ne hk, hk]

@[simp] theorem flatKind_eq_transparent (t : Bool) : flatKind t = .transparent ↔ t = true := by
  cases t <;> decide

@[simp] theorem colorKind_eq_transparent (t : Bool) : colorKind t = .transparent ↔ t = true := by
  cases t <;> decide

/-- A kept surface goes to the buffer of transparent vertices if it was transparent when it was
kept. -/
@[simp] theorem BezierPatch.kind_eq_transparent (S : BezierPatch F) :
    S.kind = .transparent ↔ S.transparent = true := by
  rw [kind]
  split_ifs
  · exact colorKind_eq_transparent _
  · exact flatKind_eq_transparent _

/-- A surface that appends what it keeps, or is built anew. -/
theorem transparentPut_keptOrBuilt (fast : Bool) (S : BezierPatch F) (built : VertexData F × Bool)
    (transparent color : Bool) :
    transparentPut (if fast then (S, S.append) else BezierPatch.queue built transparent color).2 =
      if fast then if S.transparent then S.data.colorPositions else []
      else if transparent then built.1.colorPositions else [] := by
  cases fast with
  | true =>
    simp only [if_true, BezierPatch.append, transparentPut_put, BezierPatch.kind_eq_transparent]
  | false =>
    simp only [Bool.false_eq_true, if_false, BezierPatch.queue, BezierPatch.notRendered,
      BezierPatch.append, List.cons_append, List.nil_append, transparentPut_mark,
      transparentPut_put, BezierPatch.kind_eq_transparent]

end Put

omit [Rounding D F] in
/-- **What a surface without corner colours puts among the transparent vertices**, kept or new. -/
theorem transparentPut_queueSurface (T : Tessellation D F) (ctx : QueueContext D F)
    (box : Vec3 D × Vec3 D) (edges : List (Vector (Vec3 D) 4)) (materialIndex : UInt32)
    (tessellate : Bool → Int32 → VertexData F × Bool) (S : BezierPatch F) :
    transparentPut (queueSurface T ctx box edges materialIndex tessellate S).2 =
      let transparent := materialTransparent ctx.drawMode ctx.materials materialIndex
      surfaceTransparent ctx box transparent
        (tessellate transparent
          (BezierPatch.materialWord transparent false materialIndex)).1 S := by
  simp only [queueSurface, surfaceTransparent]
  by_cases hoffscreen : ctx.offscreen box = true
  · rw [if_pos hoffscreen, if_pos (.inl hoffscreen)]
    rfl
  by_cases hmode : ctx.drawMode = .outline
  · rw [if_neg hoffscreen, if_pos hmode, if_pos (.inr hmode)]
    exact transparentPut_curves ..
  have hnot : ¬ (ctx.offscreen box = true ∨ ctx.drawMode = .outline) := by tauto
  rw [if_neg hoffscreen, if_neg hmode, if_neg hnot]
  exact transparentPut_keptOrBuilt ..

omit [Rounding D F] in
/-- A surface with corner colours. -/
theorem transparentPut_queueColoredSurface (ctx : QueueContext D F) (box : Vec3 D × Vec3 D)
    {outline : Effects F} (houtline : ctx.drawMode = .outline → transparentPut outline = [])
    (cornerColors : List (Vec4 F)) (materialIndex : UInt32)
    (tessellate : Bool → Int32 → VertexData F × Bool) (S : BezierPatch F) :
    transparentPut
      (queueColoredSurface ctx box outline cornerColors materialIndex tessellate S).2 =
      let transparent := cornersTransparent ctx.drawMode cornerColors
      surfaceTransparent ctx box transparent
        (tessellate transparent (BezierPatch.materialWord transparent true materialIndex)).1 S := by
  simp only [queueColoredSurface, surfaceTransparent]
  by_cases hmode : ctx.drawMode = .outline
  · rw [if_pos hmode, if_pos (.inr hmode)]
    exact houtline hmode
  by_cases hoffscreen : ctx.offscreen box = true
  · rw [if_neg hmode, if_pos hoffscreen, if_pos (.inl hoffscreen)]
    rfl
  have hnot : ¬ (ctx.offscreen box = true ∨ ctx.drawMode = .outline) := by tauto
  rw [if_neg hmode, if_neg hoffscreen, if_neg hnot]
  exact transparentPut_keptOrBuilt ..

omit [Scalar D] in
/-- The boundary of a polygon goes to the lines. -/
theorem transparentPut_queueBoundary (materialIndex : UInt32) (edges : List (Vec3 D × Vec3 D)) :
    transparentPut (queueBoundary (F := F) materialIndex edges) = [] :=
  transparentPut_curves ..

/-- A quadrilateral or triangle of one material. As a billboard it is never on its fast path. -/
theorem transparentPut_queueFlat (ctx : QueueContext D F) (box : Vec3 D × Vec3 D)
    (points : List (Vec3 D)) (edges : List (Vec3 D × Vec3 D)) (ts : List (Corners D))
    (normal : Vec3 D) {centerIndex : UInt32} (hcenter : centerIndex ≠ 0) (materialIndex : UInt32)
    (st : FlatState F) :
    transparentPut (queueFlat ctx box points edges ts normal centerIndex materialIndex st).2 =
      flatTransparent ctx box (materialTransparent ctx.drawMode ctx.materials materialIndex)
        points := by
  simp only [queueFlat, flatTransparent]
  by_cases hoffscreen : ctx.offscreen box = true
  · rw [if_pos hoffscreen, if_pos (.inl hoffscreen)]
    rfl
  by_cases hmode : ctx.drawMode = .outline
  · rw [if_neg hoffscreen, if_pos hmode, if_pos (.inr hmode)]
    exact transparentPut_queueBoundary ..
  have hnot : ¬ (ctx.offscreen box = true ∨ ctx.drawMode = .outline) := by tauto
  have hslow : ¬ (!ctx.remesh && st.onscreen && centerIndex == 0) = true := by simp [hcenter]
  rw [if_neg hoffscreen, if_neg hmode, if_neg hslow, if_neg hnot, transparentPut_mark,
    transparentPut_put]
  cases htransparent : materialTransparent ctx.drawMode ctx.materials materialIndex with
  | true => simp [VertexData.colorPositions]
  | false => simp

/-- One with corner colours. -/
theorem transparentPut_queueColoredFlat (ctx : QueueContext D F) (box : Vec3 D × Vec3 D)
    (points : List (Vec3 D)) (colors : List (Vec4 F)) (hlength : points.length = colors.length)
    (edges : List (Vec3 D × Vec3 D)) (ts : List (Corners D)) (normal : Vec3 D)
    {centerIndex : UInt32} (hcenter : centerIndex ≠ 0) (materialIndex : UInt32)
    (st : FlatState F) :
    transparentPut
      (queueColoredFlat ctx box (points.zip colors) edges ts normal centerIndex materialIndex
        st).2 =
      flatTransparent ctx box (cornersTransparent ctx.drawMode colors) points := by
  have hcolors : (points.zip colors).map Prod.snd = colors := List.map_snd_zip hlength.ge
  have hpoints : (points.zip colors).map Prod.fst = points := List.map_fst_zip hlength.le
  simp only [queueColoredFlat, flatTransparent, hcolors]
  by_cases hoffscreen : ctx.offscreen box = true
  · rw [if_pos hoffscreen, if_pos (.inl hoffscreen)]
    rfl
  by_cases hmode : ctx.drawMode = .outline
  · rw [if_neg hoffscreen, if_pos hmode, if_pos (.inr hmode)]
    exact transparentPut_queueBoundary ..
  have hnot : ¬ (ctx.offscreen box = true ∨ ctx.drawMode = .outline) := by tauto
  have hslow : ¬ (!ctx.remesh && st.onscreen && centerIndex == 0) = true := by simp [hcenter]
  rw [if_neg hoffscreen, if_neg hmode, if_neg hslow, if_neg hnot, transparentPut_mark,
    transparentPut_put]
  cases htransparent : cornersTransparent ctx.drawMode colors with
  | true =>
    have hmap : (points.zip colors).map (Vec3.narrow ∘ Prod.fst : _ → Vec3 F) =
        points.map Vec3.narrow := by
      rw [← List.map_map, hpoints]
    simp only [VertexData.colorPositions, colorKind, if_true]
    rw [List.map_map]
    exact hmap
  | false => simp

/-- A triangle group. -/
theorem transparentPut_triangles (ctx : QueueContext D F) (o : V3dTriangleGroup D F)
    (hcenter : o.centerIndex ≠ 0) (st : KeptMesh F) :
    transparentPut (o.QueueMesh ctx st).2 =
      if o.triangles.isEmpty then []
      else
        flatTransparent ctx (ctx.sceneMinBound, ctx.sceneMaxBound)
          (materialTransparent ctx.drawMode ctx.materials o.materialIndex ||
            (!o.vertexColorArray.isEmpty && o.cornersTransparent))
          o.vertexPositions := by
  simp only [V3dTriangleGroup.QueueMesh, flatTransparent]
  have hslow : ¬ (!ctx.remesh && st.fullyOnscreen && o.centerIndex == 0) = true := by
    simp [hcenter]
  cases hempty : o.triangles.isEmpty with
  | true => rfl
  | false =>
    by_cases hpositions : o.vertexPositions = []
    · simp [hpositions, transparentPut]
    by_cases hmode : ctx.drawMode = .outline
    · simp [hpositions, hmode, transparentPut]
    by_cases hoffscreen : ctx.offscreen (ctx.sceneMinBound, ctx.sceneMaxBound) = true
    · simp [hpositions, hmode, hoffscreen, transparentPut]
    have hmesh : (o.mesh : VertexData F).colorPositions = o.vertexPositions.map Vec3.narrow := by
      refine List.ext_getElem (by simp [V3dTriangleGroup.mesh, VertexData.colorPositions]) ?_
      intro i hi hi'
      simp [V3dTriangleGroup.mesh, VertexData.colorPositions]
    simp [hpositions, hmode, hoffscreen, hslow, hmesh, transparentPut_mark, transparentPut_put]

namespace SceneObject

/-- **Where the transparent vertices of a billboard come from**, whatever its class and its
branch. -/
theorem transparentPut_queueMesh (T : Tessellation D F) (ctx : QueueContext D F)
    (o : SceneObject D F) (hcenter : o.object.centerIndex ≠ 0) :
    transparentPut (o.QueueMesh T ctx).2 = o.transparentPositions T ctx := by
  have hpatch : ∀ (ctx : QueueContext D F) (o : V3dBezierPatch D) (S : BezierPatch F),
      transparentPut (o.QueueMesh T ctx S).2 = o.transparentPositions T ctx S := by
    intro ctx o S
    rw [V3dBezierPatch.QueueMesh, transparentPut_queueSurface]
    rfl
  have htriangle : ∀ (ctx : QueueContext D F) (o : V3dBezierTriangle D) (S : BezierPatch F),
      transparentPut (o.QueueMesh T ctx S).2 = o.transparentPositions T ctx S := by
    intro ctx o S
    rw [V3dBezierTriangle.QueueMesh, transparentPut_queueSurface]
    rfl
  have houtline : ∀ (ctx : QueueContext D F) box transparent (built : VertexData F) S,
      ctx.drawMode = .outline → surfaceTransparent ctx box transparent built S = [] :=
    fun _ _ _ _ _ hmode => if_pos (.inr hmode)
  have hpatches : ∀ ps centerIndex materialIndex,
      transparentPut (queuePatches T ctx ps centerIndex materialIndex) = ps.flatMap fun p =>
        V3dBezierPatch.transparentPositions T { ctx with remesh := true }
          ⟨p, centerIndex, materialIndex⟩ .init := by
    intro ps centerIndex materialIndex
    rw [queuePatches, transparentPut_flatMap]
    simp only [hpatch]
  have htriangles : ∀ ts centerIndex materialIndex,
      transparentPut (queueTriangles T ctx ts centerIndex materialIndex) = ts.flatMap fun p =>
        V3dBezierTriangle.transparentPositions T { ctx with remesh := true }
          ⟨p, centerIndex, materialIndex⟩ .init := by
    intro ts centerIndex materialIndex
    rw [queueTriangles, transparentPut_flatMap]
    simp only [htriangle]
  have hline : ∀ (ctx : QueueContext D F) (o : V3dLineSegment D) st,
      transparentPut (o.QueueMesh ctx st).2 = [] := by
    intro ctx o st
    rw [V3dLineSegment.QueueMesh]
    split_ifs <;> rfl
  have hcurve : ∀ (ctx : QueueContext D F) (o : V3dBezierCurve D) st,
      transparentPut (o.QueueMesh T ctx st).2 = [] := by
    intro ctx o st
    rw [V3dBezierCurve.QueueMesh]
    split_ifs <;> rfl
  cases o with
  | bezierPatch o S => exact hpatch ctx o S
  | bezierTriangle o S => exact htriangle ctx o S
  | bezierPatchColor o S =>
    rw [QueueMesh, Prod.map_snd, id, V3dBezierPatchWithCornerColors.QueueMesh]
    refine (transparentPut_queueColoredSurface ctx _ (fun hmode => ?_) _ _ _ S).trans rfl
    rw [hpatch]
    exact houtline _ _ _ _ _ hmode
  | bezierTriangleColor o S =>
    rw [QueueMesh, Prod.map_snd, id, V3dBezierTriangleWithCornerColors.QueueMesh]
    refine (transparentPut_queueColoredSurface ctx _ (fun hmode => ?_) _ _ _ S).trans rfl
    rw [htriangle]
    exact houtline _ _ _ _ _ hmode
  | quad o st => exact transparentPut_queueFlat ctx _ _ _ _ _ hcenter _ st
  | triangle o st => exact transparentPut_queueFlat ctx _ _ _ _ _ hcenter _ st
  | quadColor o st =>
    exact transparentPut_queueColoredFlat ctx _ _ _ (by simp) _ _ _ hcenter _ st
  | triangleColor o st =>
    exact transparentPut_queueColoredFlat ctx _ _ _ (by simp) _ _ _ hcenter _ st
  | triangles o st => exact transparentPut_triangles ctx o hcenter st
  | sphere o => exact htriangles ..
  | halfSphere o => exact htriangles ..
  | disk o =>
    refine (hpatches ..).trans ?_
    rw [List.flatMap_singleton]
    rfl
  -- the core is a line, which is never transparent
  | cylinder o =>
    rw [QueueMesh, V3dCylinder.QueueMesh, transparentPut_append, hpatches]
    split_ifs
    · rw [hline, List.append_nil]
      rfl
    · exact List.append_nil _
  | tube o =>
    rw [QueueMesh, V3dTube.QueueMesh, transparentPut_append, hpatches]
    split_ifs
    · rw [hcurve, List.append_nil]
      rfl
    · exact List.append_nil _
  | curve o st => exact hcurve ctx o st
  | line o st => exact hline ctx o st
  | pixel o => exact absurd rfl hcenter

end SceneObject

/-! ### Every vertex of every billboard -/

section Vertices

omit [Scalar D] [Scalar F] [Rounding D F]

/-- A vertex of any format with its position passed through `f`. -/
def Vertex.move (f : Vec3 F → Vec3 F) : Vertex F → Vertex F
  | .material vertex => .material { vertex with position := f vertex.position }
  | .color vertex => .color { vertex with position := f vertex.position }
  | .point vertex => .point { vertex with position := f vertex.position }

namespace VertexData

/-- A buffer that is extended has its new vertices at the end. -/
theorem vdata_extend (k : BufferKind) (data other : VertexData F) :
    (extend k data other).vdata k = data.vdata k ++ other.vdata k := by
  cases k <;> simp [extend, extendMaterial, extendColor, extendPoint, vdata]

/-- Pieces are appended in their order. -/
theorem vdata_foldl_extend (k : BufferKind) (pieces : List (VertexData F)) (data : VertexData F) :
    (pieces.foldl (extend k) data).vdata k = data.vdata k ++ pieces.flatMap (vdata · k) := by
  induction pieces generalizing data with
  | nil => simp
  | cons piece pieces ih =>
    rw [List.foldl_cons, ih, vdata_extend, List.append_assoc, List.flatMap_cons]

/-- Three of the buffers are turned; those of points, of triangles and of transparent vertices are
not. -/
theorem vdata_mapPositions (f : Vec3 F → Vec3 F) (k : BufferKind) (data : VertexData F) :
    (data.mapPositions f k).vdata k =
      if k = .material ∨ k = .line ∨ k = .color then (data.vdata k).map (.move f)
      else data.vdata k := by
  cases k <;> simp [mapPositions, vdata, Vertex.move]

end VertexData

/-- The vertices some effects put into a buffer. -/
theorem vdata_content (k : BufferKind) (es : Effects F) :
    (content k es).vdata k = (contrib k es).flatMap (VertexData.vdata · k) := by
  rw [content, VertexData.vdata_foldl_extend]
  cases k <;> rfl

/-- Blocks of the same lengths are the same one by one. -/
theorem flatMap_eq_flatMap_iff {α β : Type} {xs : List α} {f g : α → List β}
    (h : ∀ x, (f x).length = (g x).length) :
    xs.flatMap f = xs.flatMap g ↔ ∀ x ∈ xs, f x = g x := by
  induction xs with
  | nil => simp
  | cons x xs ih =>
    rw [List.flatMap_cons, List.flatMap_cons, List.forall_mem_cons, ← ih]
    refine ⟨fun heq => List.append_inj heq (h x), fun ⟨hx, hxs⟩ => ?_⟩
    rw [hx, hxs]

/-- A list is its own image if each element is. -/
theorem eq_map_iff {α : Type} {f : α → α} {xs : List α} : xs = xs.map f ↔ ∀ x ∈ xs, f x = x := by
  rw [eq_comm]
  nth_rewrite 2 [← List.map_id xs]
  exact List.map_inj_left

end Vertices

namespace V3dFile

omit [Scalar D] [Scalar F] [Rounding D F] in
/-- An object with a center is a billboard. -/
theorem centerIndex_ne_zero {file : V3dFile D F} {o : SceneObject D F} {center : Vec3 D}
    (h : file.center? o = some center) : o.object.centerIndex ≠ 0 := by
  intro h0
  simp [center?, h0] at h

omit [Scalar F] in
/-- What is to happen to a vertex an object appends: if its `centerIndex` is that of a centre, it is
turned around it; else it stays as it was queued. -/
def turnVertex (file : V3dFile D F) (normMat : Mat3 D) (o : SceneObject D F) :
    Vertex F → Vertex F :=
  match file.center? o with
  | none => id
  | some center => .move (billboardTransform normMat center.narrow)

/-- A call of `V3dFile::QueueMesh` **turns the billboards**: every global buffer has the vertices it
had before, and then for each object the vertices it queues there, turned once if the object is a
billboard. -/
def BillboardsTurned (T : Tessellation D F) (ctx : QueueContext D F) (file : V3dFile D F)
    (buffers : Buffers F) : Prop :=
  ∀ k, (file.queueInto T ctx buffers k).data.vdata k =
    (buffers k).data.vdata k ++ file.objects.flatMap fun o =>
      ((content k (o.QueueMesh T ctx).2).vdata k).map (file.turnVertex ctx.normMat o)

/-- The vertices of a buffer after a call, object by object. -/
theorem vdata_queueInto (T : Tessellation D F) (ctx : QueueContext D F) (file : V3dFile D F)
    (buffers : Buffers F) (k : BufferKind) :
    (file.queueInto T ctx buffers k).data.vdata k =
      (buffers k).data.vdata k ++ file.objects.flatMap fun o =>
        (content k (file.turn ctx.normMat o (o.QueueMesh T ctx).2)).vdata k := by
  rw [queueInto_eq, Buffers.apply_data, VertexData.vdata_foldl_extend, queueMesh_snd, turned,
    rawEffects, List.zipWith_map_right, List.zipWith_self]
  congr 1
  generalize file.objects = objects
  induction objects with
  | nil => rfl
  | cons o objects ih =>
    rw [List.map_cons, List.flatten_cons, contrib_append, List.flatMap_append, ih,
      List.flatMap_cons, vdata_content]

omit [Scalar F] in
/-- Only three buffers are turned; in the others a vertex stays as it was queued. -/
theorem vdata_turn (file : V3dFile D F) (normMat : Mat3 D) (o : SceneObject D F) (es : Effects F)
    (k : BufferKind) :
    (content k (file.turn normMat o es)).vdata k =
      if k = .material ∨ k = .line ∨ k = .color then
        ((content k es).vdata k).map (file.turnVertex normMat o)
      else (content k es).vdata k := by
  rw [vdata_content, contrib_turn, vdata_content, turnData, turnVertex]
  cases file.center? o with
  | none => simp
  | some center =>
    simp only [List.flatMap_map, VertexData.vdata_mapPositions]
    split_ifs
    · rw [List.map_flatMap]
    · rfl

/-- The billboards are turned iff no vertex in the buffers left alone should have moved. -/
theorem billboardsTurned_iff_fixed (T : Tessellation D F) (ctx : QueueContext D F)
    (file : V3dFile D F) (buffers : Buffers F) :
    file.BillboardsTurned T ctx buffers ↔
      ∀ k, k = .transparent ∨ k = .triangle ∨ k = .point → ∀ o ∈ file.objects,
        ∀ v ∈ (content k (o.QueueMesh T ctx).2).vdata k, file.turnVertex ctx.normMat o v = v := by
  refine forall_congr' fun k => ?_
  rw [vdata_queueInto, List.append_right_inj, flatMap_eq_flatMap_iff fun o => by
    rw [vdata_turn]
    split_ifs <;> simp]
  simp only [vdata_turn]
  cases k <;> simp [eq_map_iff]

/-- **Every vertex of every billboard**: a call of `V3dFile::QueueMesh` turns each vertex a
billboard appends exactly once and leaves every other vertex alone, iff the rotation of a billboard
moves none of the vertices that the billboard has among the transparent ones. -/
theorem billboardsTurned_iff (T : Tessellation D F) (ctx : QueueContext D F) (file : V3dFile D F)
    (buffers : Buffers F) :
    file.BillboardsTurned T ctx buffers ↔
      ∀ o ∈ file.objects, ∀ center, file.center? o = some center →
        ∀ position ∈ o.transparentPositions T ctx,
          billboardTransform ctx.normMat center.narrow position = position := by
  -- only the buffers whose size is not recorded are left: the transparent one, and two that no
  -- billboard fills
  rw [billboardsTurned_iff_fixed]
  constructor
  · intro h o ho center hcenter position hposition
    rw [← o.transparentPut_queueMesh T ctx (centerIndex_ne_zero hcenter),
      transparentPut] at hposition
    obtain ⟨piece, hpiece, hposition⟩ := List.mem_flatMap.mp hposition
    obtain ⟨v, hv, rfl⟩ := List.mem_map.mp hposition
    have hfixed := h .transparent (.inl rfl) o ho (.color v) (by
      rw [vdata_content]
      exact List.mem_flatMap.mpr ⟨piece, hpiece, List.mem_map_of_mem hv⟩)
    rw [turnVertex, hcenter] at hfixed
    exact congrArg ColorVertex.position (by simpa [Vertex.move] using hfixed)
  · intro h k hk o ho v hv
    cases hcenter : file.center? o with
    | none => simp [turnVertex, hcenter]
    | some center =>
      have hindex := centerIndex_ne_zero hcenter
      rw [vdata_content] at hv
      obtain ⟨piece, hpiece, hv⟩ := List.mem_flatMap.mp hv
      obtain rfl | hrest := hk
      · obtain ⟨v, hmem, rfl⟩ := List.mem_map.mp hv
        have hfixed := h o ho center hcenter v.position (by
          rw [← o.transparentPut_queueMesh T ctx hindex]
          exact List.mem_flatMap.mpr ⟨piece, hpiece, List.mem_map_of_mem hmem⟩)
        simp [turnVertex, hcenter, Vertex.move, hfixed]
      · -- no billboard puts anything into the other two
        have hpixel : k = .point → ∀ p, o ≠ .pixel p := by
          rintro - p rfl
          exact hindex rfl
        rw [o.contrib_rest hrest T ctx hpixel] at hpiece
        exact absurd hpiece List.not_mem_nil

/-! ### A label of glass -/

/-- A tessellation that draws nothing but the ends of curves. -/
def endsOnly : Tessellation ℚ ℚ where
  patchBounds p := (p.get 0, p.get 15)
  triangleBounds p := (p.get 0, p.get 9)
  curveBounds p := (p.get 0, p.get 3)
  patch _ _ _ _ _ _ := (.empty, true)
  triangle _ _ _ _ _ _ := (.empty, true)
  curve _ _ _ p := (straightSegment 0 (p.get 0) (p.get 3), true)
  curve_vertices := straightSegment_vertices

/-- A quadrilateral around the only centre of its scene, with an alpha of its material. -/
def label (alpha : ℚ) : V3dFile ℚ ℚ where
  objects := [.quad ⟨#v[⟨0, 0, 0⟩, ⟨1, 0, 0⟩, ⟨1, 1, 0⟩, ⟨0, 1, 0⟩], 1, 0⟩ .init]
  centers := [⟨0, 0, 0⟩]
  materials := [⟨⟨1, 0, 0, alpha⟩, ⟨0, 0, 0, 1⟩, ⟨0, 0, 0, 1⟩, 0, 0, 0, 1⟩]
  lights := []
  canvasWidth := 10
  orthographic := true

/-- A frame of it, seen after a quarter turn around the `z` axis. -/
def quarterTurned (alpha : ℚ) : QueueContext ℚ ℚ where
  imageWidth := 10
  imageHeight := 10
  sceneMinBound := ⟨-1, -1, -1⟩
  sceneMaxBound := ⟨1, 1, 1⟩
  remesh := true
  orthographic := true
  drawMode := .normal
  projViewMat i := if i = 0 ∨ i = 5 ∨ i = 10 ∨ i = 15 then 1 else 0
  normMat i := if i = 1 ∨ i = 8 then 1 else if i = 3 then -1 else 0
  materials := (label alpha).materials
  pixelsPerBp := 1

/-- Global buffers with nothing in them. -/
def noVertices : Buffers ℚ := fun _ => ⟨.empty, 0⟩

example : ∀ k ∈ [BufferKind.material, .color, .line, .transparent, .triangle, .point],
    ((label 1).queueInto endsOnly (quarterTurned 1) noVertices k).data.vdata k =
      (label 1).objects.flatMap fun o =>
        ((content k (o.QueueMesh endsOnly (quarterTurned 1)).2).vdata k).map
          ((label 1).turnVertex (quarterTurned 1).normMat o) := by
  decide +kernel

/-- With half its alpha the label goes to `transparentData` and is not turned. -/
theorem not_billboardsTurned_label :
    ¬ (label (1 / 2)).BillboardsTurned endsOnly (quarterTurned (1 / 2)) noVertices := by
  intro h
  exact absurd (h .transparent) (by decide +kernel)

end V3dFile

end OkularV3d
