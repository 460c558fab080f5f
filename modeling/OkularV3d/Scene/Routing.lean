import OkularV3d.File.QueuedIndices
import OkularV3d.Scene.QueuePath

/-!
# Which buffer an object's geometry goes to

Curves and lines belong to the lines; a triangle group belongs to the transparent vertices or to the
colours, by its alphas. Each class names the buffer in several places: where it is dropped as
offscreen, on the fast path, before the counter is reset, and where the new mesh is appended.

`LineObject.linesRouted_along_iff` and `V3dTriangleGroup.routed_along_iff` say on which frames these
places agree.

* `LineObject` is a curve or a line, with what the two share; `V3dTriangleGroup.drawn` and
  `V3dTriangleGroup.fast` are the choices of a group.
* `Routed` is the property of a frame, for each of the two, and `V3dTriangleGroup.MaterialDecides`
  the condition on a group.
* `queueMesh_of_drawn` says what a group appends.
* `unmovedFrame` and `glassTriangle` are the failing inputs: a frame in which a curve takes its fast
  path, and a triangle with transparent corners without a transparent material.
-/

namespace OkularV3d

open Gate Runs

variable {D F : Type} [Scalar D] [Scalar F] [Rounding D F]

/-! ### Curves and lines -/

/-- An object that is drawn as lines. -/
inductive LineObject (D : Type) where
  | curve (o : V3dBezierCurve D)
  | line (o : V3dLineSegment D)

namespace LineObject

/-- The object as a scene holds it, with what it keeps. -/
def keeping {F : Type} (o : LineObject D) (st : KeptMesh F) : SceneObject D F :=
  match o with
  | curve o => .curve o st
  | line o => .line o st

/-- `QueueMesh` of either class. -/
def QueueMesh (T : Tessellation D F) (ctx : QueueContext D F) (o : LineObject D)
    (st : KeptMesh F) : KeptMesh F × Effects F :=
  match o with
  | curve o => o.QueueMesh T ctx st
  | line o => o.QueueMesh ctx st

/-- What an object keeps after a frame. -/
def frame (T : Tessellation D F) (o : LineObject D) (st : KeptMesh F) (ctx : QueueContext D F) :
    KeptMesh F :=
  (o.QueueMesh T ctx st).1

/-- **Routed**: an object that is not dropped appends to the lines, and to nothing else; where it is
dropped as offscreen, the counter of the lines is reset. -/
structure Routed (T : Tessellation D F) (o : LineObject D) (st : KeptMesh F)
    (ctx : QueueContext D F) : Prop where
  appends : (o.keeping st).path T ctx ≠ .offscreen → ∃ data, .put .line data ∈
    (o.QueueMesh T ctx st).2
  puts : Puts (fun k _ => k = .line) (o.QueueMesh T ctx st).2
  marks : (o.keeping st).path T ctx = .offscreen → Marked .line (o.QueueMesh T ctx st).2

/-- **Step lemma**: an object is routed on the slow path, and there only. -/
theorem routed_iff (T : Tessellation D F) (o : LineObject D) (st : KeptMesh F)
    (ctx : QueueContext D F) :
    o.Routed T st ctx ↔ (o.keeping st).path T ctx = .anew := by
  cases o with
  | curve o =>
    by_cases hoff : ctx.offscreen (T.curveBounds o.controlPoints) = true
    · have hpath : (SceneObject.curve o st).path T ctx = .offscreen := if_pos hoff
      refine iff_of_false (fun h => ?_) (by simp [keeping, hpath])
      have hmarked := h.marks hpath
      simp [QueueMesh, V3dBezierCurve.QueueMesh, hoff] at hmarked
    -- the code's test for the fast path is that of `SceneObject.path`
    have hkeeps : (SceneObject.curve o st : SceneObject D F).keeps =
      (st.fullyOnscreen && o.centerIndex == 0) := rfl
    by_cases hfast : (!ctx.remesh && st.fullyOnscreen && o.centerIndex == 0) = true
    · -- the fast path appends the lines to the materials
      have hqueue : (o.QueueMesh T ctx st).2 = [.put .material st.vertexData] := by
        rw [V3dBezierCurve.QueueMesh, if_neg hoff, if_pos hfast]
      rw [Bool.and_assoc, ← hkeeps] at hfast
      have hpath : (SceneObject.curve o st).path T ctx = .again :=
        (if_neg hoff).trans (if_pos hfast)
      refine iff_of_false (fun h => ?_) (by simp [keeping, hpath])
      have hputs := h.puts
      simp [QueueMesh, hqueue] at hputs
    · have hqueue : (o.QueueMesh T ctx st).2 =
          BezierCurve.queue
            (T.curve ctx.projViewMat ctx.ratio o.materialIndex.toInt32 o.controlPoints).1 := by
        rw [V3dBezierCurve.QueueMesh, if_neg hoff, if_neg hfast]
      rw [Bool.and_assoc, ← hkeeps] at hfast
      have hpath : (SceneObject.curve o st).path T ctx = .anew := (if_neg hoff).trans (if_neg hfast)
      refine iff_of_true ⟨fun _ => ?_, ?_, fun h => ?_⟩ hpath
      · simp [QueueMesh, hqueue, BezierCurve.queue]
      · simp [QueueMesh, hqueue, BezierCurve.queue]
      · rw [keeping, hpath] at h
        cases h
  | line o =>
    by_cases hoff : ctx.offscreen (verticesBox o.endpoints[0] [o.endpoints[1]]) = true
    · have hpath : (SceneObject.line o st).path T ctx = .offscreen := if_pos hoff
      refine iff_of_false (fun h => ?_) (by simp [keeping, hpath])
      have hmarked := h.marks hpath
      simp [QueueMesh, V3dLineSegment.QueueMesh, hoff] at hmarked
    · have hpath : (SceneObject.line o st).path T ctx = .anew := if_neg hoff
      refine iff_of_true ⟨fun _ => ?_, ?_, fun h => ?_⟩ hpath
      · simp [QueueMesh, V3dLineSegment.QueueMesh, hoff, BezierCurve.queue]
      · simp [QueueMesh, V3dLineSegment.QueueMesh, hoff, BezierCurve.queue]
      · rw [keeping, hpath] at h
        cases h

/-- **Which sequences of frames route an object**: those that take the slow path every time. -/
theorem linesRouted_along_iff (T : Tessellation D F) (o : LineObject D)
    (ctxs : List (QueueContext D F)) :
    Along (o.frame T) (o.Routed T) .init ctxs ↔
      Along (o.frame T) (fun st ctx => (o.keeping st).path T ctx = .anew) .init ctxs := by
  have hiff : ∀ st ctx, True → (o.Routed T st ctx ↔ (o.keeping st).path T ctx = .anew) :=
    fun st ctx _ => o.routed_iff T st ctx
  exact along_iff_of_invariant hiff (fun _ _ _ _ => trivial) trivial ctxs

end LineObject

/-! ### Triangle groups -/

namespace V3dTriangleGroup

/-- Whether the group belongs to the transparent vertices: in `NORMAL` mode, by the alpha of its
material or of the corners of some triangle. -/
def translucent (o : V3dTriangleGroup D F) (ctx : QueueContext D F) : Bool :=
  ctx.drawMode = .normal &&
    (materialTransparent .normal ctx.materials o.materialIndex || o.cornersTransparent)

/-- Whether the group appends something: it is not empty, not in `OUTLINE` mode and not
offscreen. -/
def drawn (o : V3dTriangleGroup D F) (ctx : QueueContext D F) : Bool :=
  !(o.triangles.isEmpty || o.vertexPositions.isEmpty) && ctx.drawMode != .outline &&
    !ctx.offscreen (ctx.sceneMinBound, ctx.sceneMaxBound)

/-- Whether a group that is drawn takes the fast path. -/
def fast (o : V3dTriangleGroup D F) (st : KeptMesh F) (ctx : QueueContext D F) : Bool :=
  !ctx.remesh && st.fullyOnscreen && o.centerIndex == 0

/-- What a group keeps after a frame. -/
def frame (o : V3dTriangleGroup D F) (st : KeptMesh F) (ctx : QueueContext D F) : KeptMesh F :=
  (o.QueueMesh ctx st).1

/-- **Routed**: a group that is drawn appends its mesh, the kept one on the fast path, where its
alphas say and nowhere else, and the slow path resets the counter of the buffer it appends to. -/
structure Routed (o : V3dTriangleGroup D F) (st : KeptMesh F) (ctx : QueueContext D F) : Prop where
  appends : o.drawn ctx = true →
    .put (colorKind (o.translucent ctx)) (if o.fast st ctx then st.vertexData else o.mesh) ∈
      (o.QueueMesh ctx st).2
  puts : Puts (fun k _ => k = colorKind (o.translucent ctx)) (o.QueueMesh ctx st).2
  marks : o.drawn ctx = true → o.fast st ctx = false → ∀ k, Marks k (o.QueueMesh ctx st).2

/-- No corner decides: on the fast path, a group that is translucent by its corners is so by its
material as well; on the slow path, a group with translucent corners is also translucent by its
material, and drawn in `NORMAL` mode. -/
def MaterialDecides (o : V3dTriangleGroup D F) (st : KeptMesh F) (ctx : QueueContext D F) : Prop :=
  o.drawn ctx = true →
    if o.fast st ctx then
      ctx.drawMode = .normal → o.cornersTransparent = true →
        materialTransparent .normal ctx.materials o.materialIndex = true
    else
      o.cornersTransparent = true →
        ctx.drawMode = .normal ∧ materialTransparent .normal ctx.materials o.materialIndex = true

omit [Scalar D] [Rounding D F] in
/-- Without colours no corner is translucent. -/
theorem cornersTransparent_of_isEmpty {o : V3dTriangleGroup D F}
    (h : o.vertexColorArray.isEmpty = true) : o.cornersTransparent = false := by
  simp [cornersTransparent, List.isEmpty_iff.mp h]

/-- What a group that is drawn does. -/
theorem queueMesh_of_drawn {o : V3dTriangleGroup D F} {ctx : QueueContext D F}
    (h : o.drawn ctx = true) (st : KeptMesh F) :
    (o.QueueMesh ctx st).2 =
      if o.fast st ctx then
        [.put (colorKind (materialTransparent ctx.drawMode ctx.materials o.materialIndex))
          st.vertexData]
      else
        [.mark (colorKind (materialTransparent ctx.drawMode ctx.materials o.materialIndex)),
          .put (colorKind (materialTransparent ctx.drawMode ctx.materials o.materialIndex ||
            o.cornersTransparent)) o.mesh] := by
  simp only [drawn, Bool.and_eq_true, Bool.not_eq_true', bne_iff_ne] at h
  obtain ⟨⟨hempty, hmode⟩, hoff⟩ := h
  have hcorners : (!o.vertexColorArray.isEmpty && o.cornersTransparent) = o.cornersTransparent := by
    cases hcolors : o.vertexColorArray.isEmpty with
    | true => rw [cornersTransparent_of_isEmpty hcolors, Bool.and_false]
    | false => rfl
  simp only [QueueMesh, hempty, hmode, hoff, hcorners, fast, Bool.false_eq_true, if_false]
  exact apply_ite Prod.snd ..

theorem queueMesh_of_not_drawn {o : V3dTriangleGroup D F} {ctx : QueueContext D F}
    (h : o.drawn ctx = false) (st : KeptMesh F) (P : BufferKind → VertexData F → Prop) :
    Puts P (o.QueueMesh ctx st).2 := by
  simp only [drawn, Bool.and_eq_false_iff, Bool.not_eq_false', bne_eq_false_iff_eq] at h
  simp only [QueueMesh]
  split_ifs <;> simp_all

omit [Scalar D] [Scalar F] [Rounding D F] in
theorem colorKind_inj {a b : Bool} : colorKind a = colorKind b ↔ a = b := by
  cases a <;> cases b <;> decide

omit [Scalar D] [Rounding D F] in
/-- A material is transparent in `NORMAL` mode only. -/
theorem materialTransparent_eq (drawMode : DrawMode) (materials : List (V3dMaterial F))
    (materialIndex : UInt32) :
    materialTransparent drawMode materials materialIndex =
      (decide (drawMode = .normal) && materialTransparent .normal materials materialIndex) := by
  simp [materialTransparent]

/-- The fast path goes by the material alone. -/
theorem routed_iff_of_fast {o : V3dTriangleGroup D F} {st : KeptMesh F} {ctx : QueueContext D F}
    (hdrawn : o.drawn ctx = true) (hfast : o.fast st ctx = true) :
    o.Routed st ctx ↔
      materialTransparent ctx.drawMode ctx.materials o.materialIndex = o.translucent ctx := by
  have hqueue := queueMesh_of_drawn hdrawn st
  rw [hfast, if_pos rfl] at hqueue
  constructor
  · intro h
    simpa [hqueue, colorKind_inj] using h.puts
  · intro h
    refine ⟨fun _ => ?_, ?_, fun _ hslow => ?_⟩
    · simp [hqueue, hfast, h]
    · simpa [hqueue, colorKind_inj] using h
    · rw [hfast] at hslow
      cases hslow

/-- The slow path appends by material and corners, and resets by the material alone. -/
theorem routed_iff_of_slow {o : V3dTriangleGroup D F} {st : KeptMesh F} {ctx : QueueContext D F}
    (hdrawn : o.drawn ctx = true) (hfast : o.fast st ctx = false) :
    o.Routed st ctx ↔
      (materialTransparent ctx.drawMode ctx.materials o.materialIndex || o.cornersTransparent) =
          o.translucent ctx ∧
        (materialTransparent ctx.drawMode ctx.materials o.materialIndex || o.cornersTransparent) =
          materialTransparent ctx.drawMode ctx.materials o.materialIndex := by
  have hqueue := queueMesh_of_drawn hdrawn st
  rw [hfast, if_neg Bool.false_ne_true] at hqueue
  constructor
  · intro h
    refine ⟨?_, ?_⟩
    · simpa [hqueue, colorKind_inj] using h.puts
    · -- the buffer appended to is among those reset
      have hmarks := h.marks hdrawn hfast (colorKind
        (materialTransparent ctx.drawMode ctx.materials o.materialIndex || o.cornersTransparent))
      simpa [hqueue, Marks, colorKind_inj] using hmarks
  · rintro ⟨hputs, hreset⟩
    refine ⟨fun _ => ?_, ?_, fun _ _ k => ?_⟩
    · simp [hqueue, hfast, hputs]
    · simpa [hqueue, colorKind_inj] using hputs
    · rw [hqueue, hreset]
      intro hput
      by_contra hmark
      rw [marked_mark_cons, not_or] at hmark
      rw [contrib_mark, contrib_put_of_ne (Ne.symm hmark.1)] at hput
      exact hput rfl

/-- **Step lemma**: a group is routed exactly where its material decides. -/
theorem routed_iff (o : V3dTriangleGroup D F) (st : KeptMesh F) (ctx : QueueContext D F) :
    o.Routed st ctx ↔ o.MaterialDecides st ctx := by
  cases hdrawn : o.drawn ctx with
  | false =>
    refine iff_of_true ⟨fun h => ?_, queueMesh_of_not_drawn hdrawn st _, fun h => ?_⟩ fun h => ?_
    -- nothing is asked of a group that is not drawn
    all_goals simp [hdrawn] at h
  | true =>
    cases hfast : o.fast st ctx with
    | true =>
      rw [routed_iff_of_fast hdrawn hfast, materialTransparent_eq, MaterialDecides, hfast,
        translucent]
      by_cases hmode : ctx.drawMode = .normal
      · simp only [hmode, hdrawn, decide_true, Bool.true_and, if_true, true_imp_iff]
        cases materialTransparent .normal ctx.materials o.materialIndex <;>
          cases o.cornersTransparent <;> simp
      · simp [hmode]
    | false =>
      rw [routed_iff_of_slow hdrawn hfast, materialTransparent_eq, MaterialDecides, hfast,
        translucent]
      by_cases hmode : ctx.drawMode = .normal
      · simp only [hmode, hdrawn, decide_true, Bool.true_and, Bool.false_eq_true, if_false,
          true_imp_iff, true_and]
        cases materialTransparent .normal ctx.materials o.materialIndex <;>
          cases o.cornersTransparent <;> simp
      · simp [hmode, hdrawn]

/-- **Which sequences of frames route a group**: those on whose frames its material decides. -/
theorem routed_along_iff (o : V3dTriangleGroup D F) (ctxs : List (QueueContext D F)) :
    Along o.frame o.Routed .init ctxs ↔ Along o.frame o.MaterialDecides .init ctxs := by
  have hiff : ∀ st ctx, True → (o.Routed st ctx ↔ o.MaterialDecides st ctx) :=
    fun st ctx _ => o.routed_iff st ctx
  exact along_iff_of_invariant hiff (fun _ _ _ _ => trivial) trivial ctxs

end V3dTriangleGroup

/-! ### Two frames -/

section Frames

/-- The frame after `originFrame`, with nothing to mesh anew. -/
def unmovedFrame : QueueContext Int64 Int32 := { originFrame with remesh := false }

/-- A curve that does not move is appended to the materials in its second frame. -/
theorem LineObject.not_routed_unmoved :
    ¬ Along (LineObject.frame firstCorner (.curve ⟨.replicate 4 ⟨0, 0, 0⟩, 0, 0⟩))
      (LineObject.Routed firstCorner (.curve ⟨.replicate 4 ⟨0, 0, 0⟩, 0, 0⟩)) .init
      [originFrame, unmovedFrame] := by
  intro h
  have hputs := h.2.1.puts .material (oneVertex ⟨0, 0, 0⟩ 0) (by decide +kernel)
  exact absurd hputs (by decide)

/-- A triangle of three transparent corners, with a material that is not there. -/
def glassTriangle : V3dTriangleGroup Int64 Int32 where
  vertexPositions := [⟨0, 0, 0⟩, ⟨0, 0, 0⟩, ⟨0, 0, 0⟩]
  vertexNormalArray := [⟨0, 0, 1⟩]
  vertexColorArray := [⟨0, 0, 0, 0⟩]
  triangles := [⟨(0, 1, 2), (0, 0, 0), (0, 0, 0)⟩]
  centerIndex := 0
  materialIndex := 0

/-- A triangle with transparent corners, in a frame with a new mesh and in the next one: the counter
of the colours is reset for what is appended to the transparent vertices, and what is kept of it is
then appended to the colours. -/
theorem V3dTriangleGroup.not_routed_glassTriangle :
    ¬ Along glassTriangle.frame glassTriangle.Routed .init [originFrame] ∧
      ¬ glassTriangle.Routed (glassTriangle.frame .init originFrame) unmovedFrame := by
  refine ⟨fun h => ?_, fun h => ?_⟩
  · have hmarks := h.1.marks (by decide +kernel) (by decide +kernel) .transparent
    exact absurd (hmarks (by decide +kernel)) (by rw [Marked]; decide +kernel)
  · have hputs := h.puts .color glassTriangle.mesh (by decide +kernel)
    exact absurd hputs (by decide +kernel)

end Frames

end OkularV3d
