import OkularV3d.Scene.Renewal

/-!
# From one frame of a file to the next

A frame of a file is a round of its objects. `V3dFile.Kept` ties what the objects keep to the
effects of the last round, `V3dFile.ResetsCounters` is the condition under which no object resets a
wrong counter and no billboard appends geometry it has turned differently before. Then
`V3dFile.repeats` says for every buffer that the round resets its counter or fills it as the round
before did, and `V3dFile.marks` that a round with a new mesh resets the counter of whatever it
fills.

* `turnData` is the turn of a billboard as it acts on one piece; `contrib_turn` and `marked_turn`
  read the turned effects by it.
* `repeats_object` is the step lemma for one object.
* `kept_queueMesh` says that a round ties what the objects keep to its own effects, so that rounds
  can follow each other.
* `Buffers.apply_data` and `Buffers.apply_renderCount` say what a buffer holds after a round.
-/

namespace OkularV3d

open Gate

variable {D F : Type} [Scalar D] [Scalar F]

namespace V3dFile

/-- What the objects of a file keep, against their effects `raw` of the last frame before any
billboard was turned; `projViewMat` is the projection of that frame. -/
def Kept (T : Tessellation D F) (drawMode : DrawMode) (projViewMat : Mat4 D) (file : V3dFile D F)
    (raw : List (Effects F)) : Prop :=
  List.Forall₂ (SceneObject.Kept T drawMode file.materials projViewMat) file.objects raw

/-- **No wrong counter** is reset in a frame, and no billboard appends what it keeps without a turn
that it needs: a Bezier surface around a centre does so on its fast path, and its vertices only stay
what they were while the rotation does. `projViewMat` and `normMat` are those of the last frame. -/
structure ResetsCounters (T : Tessellation D F) (projViewMat : Mat4 D) (normMat : Mat3 D)
    (ctx : QueueContext D F) (file : V3dFile D F) : Prop where
  marks : ∀ o ∈ file.objects, o.mismarks T projViewMat ctx = false
  billboards : ∀ o ∈ file.objects, (file.center? o).isSome →
    ∀ S ∈ o.appendedSurface T ctx, S.transparent = true ∨ ctx.normMat = normMat

/-- On a concrete frame the condition can be computed. -/
instance [DecidableEq D] (T : Tessellation D F) (projViewMat : Mat4 D) (normMat : Mat3 D)
    (ctx : QueueContext D F) (file : V3dFile D F) :
    Decidable (file.ResetsCounters T projViewMat normMat ctx) :=
  have : Decidable (ctx.normMat = normMat) := decidable_of_iff _ funext_iff.symm
  decidable_of_iff
    ((∀ o ∈ file.objects, o.mismarks T projViewMat ctx = false) ∧
      ∀ o ∈ file.objects, (file.center? o).isSome →
        ∀ S ∈ o.appendedSurface T ctx, S.transparent = true ∨ ctx.normMat = normMat)
    ⟨fun h => ⟨h.1, h.2⟩, fun h => ⟨h.marks, h.billboards⟩⟩

variable [Rounding D F]

/-- The effects of the objects with their billboards turned. -/
def turned (file : V3dFile D F) (normMat : Mat3 D) (raw : List (Effects F)) : List (Effects F) :=
  List.zipWith (file.turn normMat) file.objects raw

/-- The effects of the objects in a frame, before any billboard is turned. -/
def rawEffects (T : Tessellation D F) (ctx : QueueContext D F) (file : V3dFile D F) :
    List (Effects F) :=
  file.objects.map fun o => (o.QueueMesh T ctx).2

/-- What a frame appends are the effects of its objects, with the billboards turned. -/
theorem queueMesh_snd (T : Tessellation D F) (ctx : QueueContext D F) (file : V3dFile D F) :
    (file.QueueMesh T ctx).2 = file.turned ctx.normMat (file.rawEffects T ctx) := by
  simp only [QueueMesh, turned, rawEffects, List.map_map]
  rfl

/-- Queueing a mesh does not change what an object is. -/
theorem object_queueMesh (T : Tessellation D F) (ctx : QueueContext D F) (o : SceneObject D F) :
    (o.QueueMesh T ctx).1.object = o.object := by
  cases o <;> rfl

/-- Billboards are turned about centers that no frame changes. -/
theorem turned_queueMesh (T : Tessellation D F) (ctx : QueueContext D F) (file : V3dFile D F)
    (normMat : Mat3 D) (raw : List (Effects F)) :
    (file.QueueMesh T ctx).1.turned normMat raw = file.turned normMat raw := by
  simp only [turned, QueueMesh, List.map_map, List.zipWith_map_left]
  congr 1
  funext o es
  simp only [turn, center?, Function.comp_apply, object_queueMesh]

/-- What a billboard does to a piece on its way to a buffer. -/
def turnData (file : V3dFile D F) (normMat : Mat3 D) (o : SceneObject D F) (k : BufferKind) :
    VertexData F → VertexData F :=
  match file.center? o with
  | none => id
  | some center => VertexData.mapPositions (billboardTransform normMat center.narrow) k

omit [Scalar F] in
/-- Turning an object changes its pieces where they are. -/
theorem contrib_turn (file : V3dFile D F) (normMat : Mat3 D) (o : SceneObject D F) (k : BufferKind)
    (es : Effects F) :
    contrib k (file.turn normMat o es) = (contrib k es).map (file.turnData normMat o k) := by
  simp only [turn, turnData]
  cases file.center? o with
  | none => rw [List.map_id]
  | some center => exact contrib_map ..

omit [Scalar F] in
/-- It marks nothing more. -/
@[simp] theorem marked_turn (file : V3dFile D F) (normMat : Mat3 D) (o : SceneObject D F)
    (k : BufferKind) (es : Effects F) : Marked k (file.turn normMat o es) ↔ Marked k es := by
  rw [turn]
  cases file.center? o with
  | none => rfl
  | some center => exact marked_map ..

/-! ### One object -/

omit [Scalar F] in
/-- Turning the billboards of two rounds differently does not matter to what is renewed. -/
theorem repeats_turn_of_renews (file : V3dFile D F) {normMat normMat' : Mat3 D}
    {o : SceneObject D F} {k : BufferKind} {es es' : Effects F} (h : Renews k es es') :
    Repeats k (file.turn normMat o es) (file.turn normMat' o es') := by
  rcases h with hmarked | ⟨hnone', hnone⟩
  · exact .inl ((file.marked_turn ..).mpr hmarked)
  · exact .inr (by rw [contrib_turn, contrib_turn, hnone', hnone, List.map_nil, List.map_nil])

omit [Scalar F] in
/-- **The same pieces, turned the same way**, are the same in the buffer. -/
theorem repeats_turn_of_same (file : V3dFile D F) {normMat normMat' : Mat3 D}
    {o : SceneObject D F} {k : BufferKind} {es es' : Effects F} (h : contrib k es' = contrib k es)
    (hdata : contrib k es ≠ [] → file.turnData normMat' o k = file.turnData normMat o k) :
    Repeats k (file.turn normMat o es) (file.turn normMat' o es') := by
  refine .inr ?_
  rw [contrib_turn, contrib_turn, h]
  by_cases hnone : contrib k es = []
  · rw [hnone, List.map_nil, List.map_nil]
  · rw [hdata hnone]

omit [Scalar F] in
/-- The transparent vertices of a billboard stay where they are. -/
theorem turnData_transparent (file : V3dFile D F) (normMat : Mat3 D) (o : SceneObject D F) :
    file.turnData normMat o .transparent = id := by
  rw [turnData]
  cases file.center? o with
  | none => rfl
  | some center => rfl

omit [Rounding D F] in
/-- A transparent surface on its fast path has only written to the transparent buffer. -/
theorem only_of_appendedSurface {T : Tessellation D F}
    {ctx : QueueContext D F} {drawMode : DrawMode}
    {materials : List (V3dMaterial F)} {projViewMat : Mat4 D} {o : SceneObject D F}
    {S : BezierPatch F} {es : Effects F} (hS : o.appendedSurface T ctx = some S)
    (htransparent : S.transparent = true) (h : o.Kept T drawMode materials projViewMat es) :
    Only .transparent es := by
  have hkind : S.kind = .transparent := by
    simp [BezierPatch.kind, colorKind, flatKind, htransparent]
  have honly : ∀ {box : Vec3 D × Vec3 D} {S' : BezierPatch F} {k : BufferKind},
      (if surfaceFast ctx box S' then some S' else none) = some S → BezierPatch.Kept k S' es →
        Only .transparent es := by
    intro box S' k hfast hkept
    rw [Option.ite_none_right_eq_some] at hfast
    obtain ⟨hfast, heq⟩ := hfast
    obtain rfl := Option.some.inj heq
    rw [surfaceFast, Bool.and_eq_true] at hfast
    rw [← hkind, (hkept.2 hfast.2).1]
    exact hkept.1
  cases o with
  | bezierPatch o S' => exact honly hS h
  | bezierTriangle o S' => exact honly hS h
  | bezierPatchColor o S' => exact honly hS h.1
  | bezierTriangleColor o S' => exact honly hS h.1
  | _ => exact absurd hS (by simp [SceneObject.appendedSurface, SceneObject.surface?])

/-- **Step lemma**: one object, from one round to the next. -/
theorem repeats_object {T : Tessellation D F} {ctx : QueueContext D F} {file : V3dFile D F}
    {projViewMat : Mat4 D} {normMat : Mat3 D} (hmode : ctx.drawMode ≠ .outline)
    (hremesh : ctx.remesh = false) (h : file.ResetsCounters T projViewMat normMat ctx)
    {o : SceneObject D F} (ho : o ∈ file.objects) {es : Effects F}
    (hes : o.Kept T ctx.drawMode ctx.materials projViewMat es) (k : BufferKind) :
    Repeats k (file.turn normMat o es) (file.turn ctx.normMat o (o.QueueMesh T ctx).2) := by
  rcases (o.requeues T hmode projViewMat (h.marks o ho)).repeats hremesh es hes with
    hrenews | ⟨hfast, hsame⟩
  · exact file.repeats_turn_of_renews (hrenews k)
  refine file.repeats_turn_of_same (hsame k) fun hput => ?_
  cases hcenter : file.center? o with
  | none => simp only [turnData, hcenter]
  | some center =>
    -- a billboard: it is a Bezier surface on its fast path
    have hindex : o.object.centerIndex ≠ 0 := by
      intro h0
      simp [center?, h0] at hcenter
    obtain ⟨S, hS⟩ := Option.isSome_iff_exists.mp (hfast.resolve_left hindex)
    rcases h.billboards o ho (by simp [hcenter]) S hS with htransparent | hnormMat
    · have honly := only_of_appendedSurface hS htransparent hes
      have hk : k = .transparent := by
        by_contra hk
        exact hput (honly k hk)
      rw [hk, turnData_transparent, turnData_transparent]
    · rw [hnormMat]

/-! ### The whole file -/

omit [Rounding D F] in
/-- What each object of a file keeps is tied to some effects. -/
theorem Kept.exists_of_mem {T : Tessellation D F} {drawMode : DrawMode} {projViewMat : Mat4 D}
    {file : V3dFile D F} {raw : List (Effects F)} (h : file.Kept T drawMode projViewMat raw)
    {o : SceneObject D F} (ho : o ∈ file.objects) :
    ∃ es, o.Kept T drawMode file.materials projViewMat es := by
  obtain ⟨i, hi, rfl⟩ := List.getElem_of_mem ho
  exact ⟨_, (List.forall₂_iff_get.mp h).2 i hi (h.length_eq ▸ hi)⟩

/-- A frame keeps the tie, and one with a new mesh makes it. -/
theorem kept_queueMesh {T : Tessellation D F} {ctx : QueueContext D F} {file : V3dFile D F}
    {projViewMat : Mat4 D} (hmode : ctx.drawMode ≠ .outline)
    (hmaterials : ctx.materials = file.materials)
    (h : ∀ o ∈ file.objects, o.mismarks T projViewMat ctx = false)
    (hraw : ctx.remesh = true ∨ ∃ raw, file.Kept T ctx.drawMode projViewMat raw) :
    (file.QueueMesh T ctx).1.Kept T ctx.drawMode ctx.projViewMat (file.rawEffects T ctx) := by
  have hobject : ∀ o ∈ file.objects,
      (o.QueueMesh T ctx).1.Kept T ctx.drawMode file.materials ctx.projViewMat
        (o.QueueMesh T ctx).2 := by
    intro o ho
    rw [← hmaterials]
    have hkeeps := (o.requeues T hmode projViewMat (h o ho)).keeps
    rcases hraw with hremesh | ⟨raw, hraw⟩
    · exact hkeeps [] (.inl hremesh)
    · obtain ⟨es, hes⟩ := hraw.exists_of_mem ho
      rw [← hmaterials] at hes
      exact hkeeps es (.inr hes)
  simp only [Kept, QueueMesh, rawEffects, List.map_map, List.forall₂_map_left_iff,
    List.forall₂_map_right_iff, List.forall₂_same]
  exact hobject

/-- **A frame with a new mesh** resets the counter of whatever it fills. -/
theorem marks {T : Tessellation D F} {ctx : QueueContext D F} {file : V3dFile D F}
    (projViewMat : Mat4 D) (hmode : ctx.drawMode ≠ .outline)
    (h : ∀ o ∈ file.objects, o.mismarks T projViewMat ctx = false) (hremesh : ctx.remesh = true)
    (k : BufferKind) : Marks k (file.QueueMesh T ctx).2.flatten := by
  rw [queueMesh_snd, turned, rawEffects, List.zipWith_map_right, List.zipWith_self]
  refine marks_flatten fun es hes => ?_
  obtain ⟨o, ho, rfl⟩ := List.mem_map.mp hes
  intro hput
  rw [contrib_turn, ne_eq, List.map_eq_nil_iff] at hput
  rw [marked_turn]
  exact (o.requeues T hmode projViewMat (h o ho)).marks hremesh k hput

/-- **A frame without one** resets the counter of a buffer, or fills it as the frame before did. -/
theorem repeats {T : Tessellation D F} {ctx : QueueContext D F} {file : V3dFile D F}
    {projViewMat : Mat4 D} {normMat : Mat3 D} {raw : List (Effects F)}
    (hmode : ctx.drawMode ≠ .outline) (hmaterials : ctx.materials = file.materials)
    (hremesh : ctx.remesh = false) (h : file.ResetsCounters T projViewMat normMat ctx)
    (hraw : file.Kept T ctx.drawMode projViewMat raw) (k : BufferKind) :
    Repeats k (file.turned normMat raw).flatten (file.QueueMesh T ctx).2.flatten := by
  rw [queueMesh_snd]
  refine repeats_flatten (List.forall₂_iff_get.mpr ?_)
  have hlength : file.objects.length = raw.length := hraw.length_eq
  refine ⟨by simp [turned, rawEffects, hlength], fun i hi hi' => ?_⟩
  have hio : i < file.objects.length := by
    simp only [turned, List.length_zipWith] at hi
    omega
  have hes := (List.forall₂_iff_get.mp hraw).2 i hio (hlength ▸ hio)
  rw [← hmaterials] at hes
  have hrepeats := repeats_object hmode hremesh h (List.getElem_mem hio) hes k
  simpa [turned, rawEffects] using hrepeats

end V3dFile

/-! ### The buffers no surface goes to -/

section Rest

variable {b : BufferKind} (hb : b = .triangle ∨ b = .point)

include hb

theorem flatKind_ne (t : Bool) : flatKind t ≠ b := by
  rcases hb with rfl | rfl <;> cases t <;> decide

/-- No surface goes to the buffers of lines, points and triangles. -/
theorem colorKind_ne (t : Bool) : colorKind t ≠ b := by
  rcases hb with rfl | rfl <;> cases t <;> decide

omit [Scalar D] [Scalar F] in
theorem BezierPatch.kind_ne (S : BezierPatch F) : S.kind ≠ b := by
  rw [kind]
  split_ifs
  · exact colorKind_ne hb _
  · exact flatKind_ne hb _

omit [Scalar D] [Scalar F] hb in
/-- Who puts into one buffer puts nothing into the others. -/
theorem contrib_of_only {k : BufferKind} {es : Effects F} (hk : k ≠ b) (h : Only k es) :
    contrib b es = [] :=
  h b hk.symm

omit [Scalar D] [Scalar F] hb in
theorem contrib_flatMap_nil {ι : Type} {xs : List ι} {f : ι → Effects F}
    (h : ∀ x ∈ xs, contrib b (f x) = []) : contrib b (xs.flatMap f) = [] := by
  induction xs with
  | nil => rfl
  | cons x xs ih =>
    rw [List.flatMap_cons, contrib_append, h x List.mem_cons_self,
      ih fun y hy => h y (List.mem_cons_of_mem _ hy), List.append_nil]

omit [Scalar D] [Scalar F] in
/-- A curve goes to the lines. -/
theorem contrib_curve (data : VertexData F) : contrib b (BezierCurve.queue data) = [] := by
  rcases hb with rfl | rfl <;> rfl

/-- A surface without corner colours puts nothing there, on any of its paths. -/
theorem contrib_queueSurface (T : Tessellation D F) (ctx : QueueContext D F)
    (box : Vec3 D × Vec3 D) (edges : List (Vector (Vec3 D) 4)) (materialIndex : UInt32)
    (tessellate : Bool → Int32 → VertexData F × Bool) (S : BezierPatch F) :
    contrib b (queueSurface T ctx box edges materialIndex tessellate S).2 = [] := by
  simp only [queueSurface]
  split_ifs
  · rfl
  · exact contrib_flatMap_nil fun _ _ => contrib_curve hb _
  · exact contrib_of_only (S.kind_ne hb) (only_put _)
  · exact contrib_of_only (BezierPatch.kind_ne hb _) (only_mark_put _)

/-- Nor does one with them. -/
theorem contrib_queueColoredSurface (ctx : QueueContext D F) (box : Vec3 D × Vec3 D)
    {outline : Effects F} (houtline : contrib b outline = []) (cornerColors : List (Vec4 F))
    (materialIndex : UInt32) (tessellate : Bool → Int32 → VertexData F × Bool)
    (S : BezierPatch F) :
    contrib b
      (queueColoredSurface ctx box outline cornerColors materialIndex tessellate S).2 = [] := by
  simp only [queueColoredSurface]
  split_ifs
  · exact houtline
  · rfl
  · exact contrib_of_only (S.kind_ne hb) (only_put _)
  · exact contrib_of_only (BezierPatch.kind_ne hb _) (only_mark_put _)

variable [Rounding D F]

/-- Nor a quadrilateral or triangle of one material. -/
theorem contrib_queueFlat (ctx : QueueContext D F) (box : Vec3 D × Vec3 D)
    (points : List (Vec3 D)) (edges : List (Vec3 D × Vec3 D)) (ts : List (Corners D))
    (normal : Vec3 D) (centerIndex materialIndex : UInt32) (st : FlatState F) :
    contrib b (queueFlat ctx box points edges ts normal centerIndex materialIndex st).2 = [] := by
  simp only [queueFlat]
  split_ifs
  · rfl
  · exact contrib_flatMap_nil fun _ _ => contrib_curve hb _
  all_goals exact contrib_of_only (flatKind_ne hb _) (only_put _)

/-- Nor one with corner colours. -/
theorem contrib_queueColoredFlat (ctx : QueueContext D F) (box : Vec3 D × Vec3 D)
    (points : List (Vec3 D × Vec4 F)) (edges : List (Vec3 D × Vec3 D)) (ts : List (Corners D))
    (normal : Vec3 D) (centerIndex materialIndex : UInt32) (st : FlatState F) :
    contrib b
      (queueColoredFlat ctx box points edges ts normal centerIndex materialIndex st).2 = [] := by
  simp only [queueColoredFlat]
  split_ifs
  · rfl
  · exact contrib_flatMap_nil fun _ _ => contrib_curve hb _
  · exact contrib_of_only (colorKind_ne hb _) (only_put _)
  · exact contrib_of_only (colorKind_ne hb _) (only_mark_put _)

/-- No object class but the pixel puts anything into `triangleData` or `pointData`. -/
theorem SceneObject.contrib_rest (T : Tessellation D F) (ctx : QueueContext D F)
    (o : SceneObject D F) (hpixel : b = .point → ∀ p, o ≠ .pixel p) :
    contrib b (o.QueueMesh T ctx).2 = [] := by
  have htriangles : ∀ ts centerIndex materialIndex,
      contrib b (queueTriangles T ctx ts centerIndex materialIndex) = [] :=
    fun _ _ _ => contrib_flatMap_nil fun _ _ => contrib_queueSurface hb ..
  have hpatches : ∀ ps centerIndex materialIndex,
      contrib b (queuePatches T ctx ps centerIndex materialIndex) = [] :=
    fun _ _ _ => contrib_flatMap_nil fun _ _ => contrib_queueSurface hb ..
  have hpatch : ∀ (ctx : QueueContext D F) (o : V3dBezierPatch D) (S : BezierPatch F),
      contrib b (o.QueueMesh T ctx S).2 = [] := by
    intro ctx o S
    rw [V3dBezierPatch.QueueMesh]
    exact contrib_queueSurface hb T ctx _ _ _ _ S
  have htriangle : ∀ (ctx : QueueContext D F) (o : V3dBezierTriangle D) (S : BezierPatch F),
      contrib b (o.QueueMesh T ctx S).2 = [] := by
    intro ctx o S
    rw [V3dBezierTriangle.QueueMesh]
    exact contrib_queueSurface hb T ctx _ _ _ _ S
  have hline : ∀ (ctx : QueueContext D F) (o : V3dLineSegment D) st,
      contrib b (o.QueueMesh ctx st).2 = [] := by
    intro ctx o st
    rw [V3dLineSegment.QueueMesh]
    split_ifs
    · rfl
    · exact contrib_curve hb _
  have hcurve : ∀ (ctx : QueueContext D F) (o : V3dBezierCurve D) st,
      contrib b (o.QueueMesh T ctx st).2 = [] := by
    intro ctx o st
    rw [V3dBezierCurve.QueueMesh]
    split_ifs
    · rfl
    · exact contrib_of_only (flatKind_ne hb false) (only_put _)
    · exact contrib_curve hb _
  cases o with
  | bezierPatch o S => exact hpatch ..
  | bezierTriangle o S => exact htriangle ..
  | bezierPatchColor o S =>
    rw [QueueMesh, Prod.map_snd, id, V3dBezierPatchWithCornerColors.QueueMesh]
    exact contrib_queueColoredSurface hb ctx _ (hpatch ..) _ _ _ S
  | bezierTriangleColor o S =>
    rw [QueueMesh, Prod.map_snd, id, V3dBezierTriangleWithCornerColors.QueueMesh]
    exact contrib_queueColoredSurface hb ctx _ (htriangle ..) _ _ _ S
  | quad o st => exact contrib_queueFlat hb ..
  | triangle o st => exact contrib_queueFlat hb ..
  | quadColor o st => exact contrib_queueColoredFlat hb ..
  | triangleColor o st => exact contrib_queueColoredFlat hb ..
  | triangles o st =>
    simp only [QueueMesh, V3dTriangleGroup.QueueMesh]
    split_ifs
    · rfl
    · rfl
    · rfl
    · exact contrib_of_only (colorKind_ne hb _) (only_put _)
    · rw [Prod.map_snd, id, contrib_mark]
      exact contrib_of_only (colorKind_ne hb _) (only_put _)
  | sphere o => exact htriangles ..
  | halfSphere o => exact htriangles ..
  | disk o => exact hpatches ..
  | cylinder o =>
    rw [QueueMesh, V3dCylinder.QueueMesh, contrib_append, hpatches, List.nil_append]
    split_ifs
    · exact hline ..
    · rfl
  | tube o =>
    rw [QueueMesh, V3dTube.QueueMesh, contrib_append, hpatches, List.nil_append]
    split_ifs
    · exact hcurve ..
    · rfl
  | curve o st => exact hcurve ctx o st
  | line o st => exact hline ctx o st
  -- only `triangleData` is left: the pixel does put into `pointData`
  | pixel o =>
    obtain rfl := hb.resolve_right fun h => hpixel h o rfl
    rw [QueueMesh, V3dPixel.QueueMesh]
    dsimp only
    split_ifs <;> rfl

end Rest

/-- Nothing ever goes to `triangleData`. -/
theorem V3dFile.contrib_triangle [Rounding D F] (T : Tessellation D F) (ctx : QueueContext D F)
    (file : V3dFile D F) : contrib .triangle (file.QueueMesh T ctx).2.flatten = [] := by
  rw [queueMesh_snd, turned, rawEffects, List.zipWith_map_right, List.zipWith_self,
    ← List.flatMap_def]
  refine contrib_flatMap_nil fun o _ => ?_
  rw [contrib_turn, o.contrib_rest (.inl rfl) _ _ (fun h => absurd h (by decide)), List.map_nil]

/-! ### The global buffers -/

section Buffers

omit [Scalar D] [Scalar F]

/-- What a buffer of kind `k` holds after the effects of a frame. -/
def content (k : BufferKind) (es : Effects F) : VertexData F :=
  (contrib k es).foldl (VertexData.extend k) .empty

/-- Effects extend a buffer by the pieces put there, in their order. -/
theorem Buffers.apply_data (buffers : Buffers F) (es : Effects F) (k : BufferKind) :
    (buffers.apply es k).data = (contrib k es).foldl (VertexData.extend k) (buffers k).data := by
  induction es generalizing buffers with
  | nil => rfl
  | cons e es ih =>
    refine (ih _).trans ?_
    cases e with
    | mark kind =>
      by_cases hk : k = kind
      · subst hk
        simp [effect]
      · simp [effect, hk]
    | put kind data =>
      by_cases hk : k = kind
      · subst hk
        simp [effect]
      · simp [effect, hk, contrib_put_of_ne (Ne.symm hk)]

/-- A buffer that is marked counts as not rendered. -/
theorem Buffers.apply_renderCount {buffers : Buffers F} {es : Effects F} {k : BufferKind}
    (h : Marked k es ∨ (buffers k).renderCount = 0) : (buffers.apply es k).renderCount = 0 := by
  induction es generalizing buffers with
  | nil => exact h.resolve_left (not_marked_nil k)
  | cons e es ih =>
    refine ih ?_
    cases e with
    | mark kind =>
      by_cases hk : k = kind
      · exact .inr (by simp [effect, hk])
      · simpa [effect, hk] using h
    | put kind data =>
      by_cases hk : k = kind
      · subst hk
        simpa [effect] using h
      · simpa [effect, hk] using h

/-- A buffer after a frame: the frame's effects on it, whatever it held before. -/
theorem Buffers.clear_apply_data (buffers : Buffers F) (es : Effects F) {k : BufferKind}
    (hk : k ≠ .triangle) : (buffers.clear.apply es k).data = content k es := by
  rw [apply_data, clear, if_neg hk, content]

end Buffers

end OkularV3d
