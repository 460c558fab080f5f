import OkularV3d.Scene.V3dFile

/-!
# Which counters a frame resets

The upload gate relies on `renderCount`: an object that changes what it has in a global buffer must
set the counter of that buffer to zero. `Requeues` says that an object does so in one frame, against
the effects `es` of the frame before, which `kept` ties to what the object keeps:

* with `remesh`, it marks every buffer it puts something into;
* without, it marks a buffer, or neither has nor had anything there, or (the fast path) appends
  exactly what it appended before.

`SceneObject.Kept` is that tie for every object class, and `SceneObject.requeues` proves that every
class requeues, except on the branches `SceneObject.mismarks` lists: there the counter of another
buffer is reset.

* `Requeues.leave`, `Requeues.build` and `Requeues.append` are the rules for the paths: nothing
  appended, a new mesh, and the kept one.
* `SceneObject.mismarks` is read off the frame, the object and what it keeps, before it is asked.
* `SolidKept` and `SolidQueued` treat the solids, which build their mesh in every frame.

What follows for a file is in `OkularV3d.Scene.Rounds`.
-/

namespace OkularV3d

open Gate

/-- One frame of an object with the state `st`: `out` is its state after the frame and its effects;
`kept` is what it keeps of the frame before, `kept'` of this one; `fast` holds where it may take its
fast path. -/
structure Requeues {σ F : Type} (remesh : Bool) (fast : Prop) (kept kept' : σ → Effects F → Prop)
    (st : σ) (out : σ × Effects F) : Prop where
  keeps : ∀ es, (remesh = true ∨ kept st es) → kept' out.1 out.2
  marks : remesh = true → ∀ b, Marks b out.2
  repeats : remesh = false → ∀ es, kept st es →
    (∀ b, Renews b es out.2) ∨ fast ∧ ∀ b, contrib b out.2 = contrib b es

section Shapes

variable {σ τ F : Type} {remesh : Bool} {fast : Prop} {kept kept' : σ → Effects F → Prop}
  {st st' : σ} {es' : Effects F} {k : BufferKind} {data : VertexData F}

/-- The slow path of an object: it marks its buffer and puts one piece. -/
theorem contrib_mark_put (data : VertexData F) :
    contrib k ([.mark k, .put k data] : Effects F) = [data] := by
  simp

theorem only_mark_put (data : VertexData F) :
    Only k ([.mark k, .put k data] : Effects F) :=
  ((only_nil k).put data).mark k

/-- The fast path puts what was kept, and marks nothing. -/
theorem only_put (data : VertexData F) : Only k ([.put k data] : Effects F) :=
  (only_nil k).put data

/-- An object that leaves: nothing is put anywhere, and its buffer is marked, unless it had nothing
there. -/
theorem Requeues.leave (hkept : kept' st' es') (honly : ∀ es, kept st es → Only k es)
    (hnone : ∀ b, contrib b es' = [])
    (hmark : remesh = false → ∀ es, kept st es → Renews k es es') :
    Requeues remesh fast kept kept' st (st', es') where
  keeps _ _ := hkept
  marks _ b hne := absurd (hnone b) hne
  repeats hremesh es hes :=
    .inl ((honly es hes).renews (fun b _ => hnone b) (hmark hremesh es hes))

/-- An object that builds its geometry anew: it marks its buffer and appends to it. -/
theorem Requeues.build (hkept : kept' st' [.mark k, .put k data])
    (honly : ∀ es, kept st es → Only k es) :
    Requeues remesh fast kept kept' st (st', [.mark k, .put k data]) where
  keeps _ _ := hkept
  marks _ := (only_mark_put data).marks fun _ => by simp
  repeats _ es hes := .inl ((honly es hes).renews (only_mark_put data) (.inl (by simp)))

/-- An object on its fast path: it appends what it keeps, which is what it appended before. -/
theorem Requeues.append (hremesh : remesh = false) (hfast : fast)
    (h : ∀ es, kept st es →
      kept' st [.put k data] ∧ Only k es ∧ contrib k es = [data]) :
    Requeues remesh fast kept kept' st (st, [.put k data]) where
  keeps es hes := (h es (hes.resolve_left (by simp [hremesh]))).1
  marks htrue := absurd htrue (by simp [hremesh])
  repeats _ es hes := by
    obtain ⟨-, honly, hcontrib⟩ := h es hes
    refine .inr ⟨hfast, fun b => ?_⟩
    by_cases hb : b = k
    · rw [hb, hcontrib, contrib_put_self, contrib_nil]
    · rw [honly b hb, only_put data b hb]

/-- The state of a class as a part of a larger one. -/
theorem Requeues.lift (f : σ → τ) {fast' : Prop} {K K' : τ → Effects F → Prop}
    {out : σ × Effects F} (h : Requeues remesh fast kept kept' st out) (hfast : fast → fast')
    (hK : ∀ es, K (f st) es → kept st es) (hK' : ∀ st' es, kept' st' es → K' (f st') es) :
    Requeues remesh fast' K K' (f st) (out.map f id) where
  keeps es hes := hK' _ _ (h.keeps es (hes.imp id (hK es)))
  marks := h.marks
  repeats hremesh es hes := (h.repeats hremesh es (hK es hes)).imp id (And.imp hfast id)

end Shapes

section Families

variable {D F : Type}

/-! ### Bezier surfaces -/

namespace BezierPatch

/-- A surface with a material: it only writes to its own buffer, and while all of it was onscreen it
put there what it keeps. -/
def Kept (k : BufferKind) (S : BezierPatch F) (es : Effects F) : Prop :=
  Only k es ∧ (S.onscreen = true → S.kind = k ∧ contrib k es = [S.data])

/-- A surface with corner colours: as above, and unless it left the screen it put there what it
keeps. (Where it leaves, it forgets that it has colours.) -/
def KeptColored (k : BufferKind) (S : BezierPatch F) (es : Effects F) : Prop :=
  Kept k S es ∧ (S.color = false → contrib k es = [])

end BezierPatch

variable [Scalar D]

/-- Whether a surface appends what it keeps. -/
def surfaceFast (ctx : QueueContext D F) (box : Vec3 D × Vec3 D) (S : BezierPatch F) : Bool :=
  !ctx.offscreen box && !ctx.remesh && S.onscreen

variable [Scalar F] {ctx : QueueContext D F}

/-- **A surface without corner colours** follows its own last frame. -/
theorem requeues_queueSurface (T : Tessellation D F) (hmode : ctx.drawMode ≠ .outline)
    (box : Vec3 D × Vec3 D) (edges : List (Vector (Vec3 D) 4)) (materialIndex : UInt32)
    (tessellate : Bool → Int32 → VertexData F × Bool) (S : BezierPatch F) :
    let k := flatKind (materialTransparent ctx.drawMode ctx.materials materialIndex)
    Requeues ctx.remesh (surfaceFast ctx box S = true) (BezierPatch.Kept k) (BezierPatch.Kept k) S
      (queueSurface T ctx box edges materialIndex tessellate S) := by
  intro k
  simp only [queueSurface, hmode, if_false]
  split_ifs with hoff hfast
  · -- offscreen: the buffer of the material is marked
    exact .leave ⟨(only_nil k).mark k, fun honscreen => absurd honscreen (by simp)⟩
      (fun _ hes => hes.1) (fun _ => rfl) fun _ _ _ =>
        .inl ((marked_mark_cons ..).mpr (.inl rfl))
  · rw [Bool.and_eq_true, Bool.not_eq_true'] at hfast
    refine .append hfast.1 (by simp [surfaceFast, hoff, hfast]) fun es hes => ?_
    obtain ⟨hkind, hcontrib⟩ := hes.2 hfast.2
    rw [hkind]
    exact ⟨⟨only_put S.data, fun _ => ⟨hkind, by simp⟩⟩, hes.1, hcontrib⟩
  · exact .build ⟨only_mark_put _, fun _ => ⟨rfl, contrib_mark_put _⟩⟩ fun _ hes => hes.1

/-- Where a surface with corner colours resets the wrong counter: it leaves the screen with opaque
colours it has in a buffer, and `notRendered` takes it for one without colours. -/
def coloredSurfaceMismarks (ctx : QueueContext D F) (box : Vec3 D × Vec3 D)
    (cornerColors : List (Vec4 F)) (S : BezierPatch F) : Bool :=
  !ctx.remesh && ctx.offscreen box && !cornersTransparent ctx.drawMode cornerColors && S.color

/-- **A surface with corner colours** does so unless its marks go astray. -/
theorem requeues_queueColoredSurface (hmode : ctx.drawMode ≠ .outline) (box : Vec3 D × Vec3 D)
    (outline : Effects F) (cornerColors : List (Vec4 F)) (materialIndex : UInt32)
    (tessellate : Bool → Int32 → VertexData F × Bool) (S : BezierPatch F)
    (hmarks : coloredSurfaceMismarks ctx box cornerColors S = false) :
    let k := colorKind (cornersTransparent ctx.drawMode cornerColors)
    Requeues ctx.remesh (surfaceFast ctx box S = true) (BezierPatch.KeptColored k)
      (BezierPatch.KeptColored k) S
      (queueColoredSurface ctx box outline cornerColors materialIndex tessellate S) := by
  intro k
  simp only [queueColoredSurface, hmode, if_false]
  split_ifs with hoff hfast
  · -- offscreen: the buffer of the *material* is marked, which is the right one where both are the
    -- transparent one
    refine .leave ⟨⟨(only_nil k).mark _, fun honscreen => absurd honscreen (by simp)⟩, fun _ => rfl⟩
      (fun _ hes => hes.1.1) (fun _ => rfl) fun hremesh es hes => ?_
    cases ht : cornersTransparent ctx.drawMode cornerColors with
    | true =>
      have hk : k = .transparent := by simp [k, ht, colorKind]
      exact .inl (by simp [BezierPatch.notRendered, BezierPatch.kind, flatKind, hk])
    | false =>
      have hcolor : S.color = false := by
        simpa [coloredSurfaceMismarks, hremesh, hoff, ht] using hmarks
      exact .inr ⟨rfl, hes.2 hcolor⟩
  · rw [Bool.and_eq_true, Bool.not_eq_true'] at hfast
    refine .append hfast.1 (by simp [surfaceFast, hoff, hfast]) fun es hes => ?_
    obtain ⟨hkind, hcontrib⟩ := hes.1.2 hfast.2
    rw [hkind]
    refine ⟨⟨⟨only_put S.data, fun _ => ⟨hkind, by simp⟩⟩, fun hcolor => ?_⟩, hes.1.1, hcontrib⟩
    -- it does have colours: otherwise nothing would have been appended
    rw [hes.2 hcolor] at hcontrib
    exact absurd hcontrib (by simp)
  · exact .build
      ⟨⟨only_mark_put _, fun _ => ⟨rfl, contrib_mark_put _⟩⟩, fun hcolor => absurd hcolor (by simp)⟩
      fun _ hes => hes.1.1

theorem V3dBezierPatch.requeues (T : Tessellation D F) (hmode : ctx.drawMode ≠ .outline)
    (o : V3dBezierPatch D) (S : BezierPatch F) :
    let k := flatKind (materialTransparent ctx.drawMode ctx.materials o.materialIndex)
    Requeues ctx.remesh (surfaceFast ctx (T.patchBounds o.controlPoints) S = true)
      (BezierPatch.Kept k) (BezierPatch.Kept k) S (o.QueueMesh T ctx S) := by
  rw [QueueMesh]
  exact requeues_queueSurface T hmode _ _ _ _ S

theorem V3dBezierTriangle.requeues (T : Tessellation D F) (hmode : ctx.drawMode ≠ .outline)
    (o : V3dBezierTriangle D) (S : BezierPatch F) :
    let k := flatKind (materialTransparent ctx.drawMode ctx.materials o.materialIndex)
    Requeues ctx.remesh (surfaceFast ctx (T.triangleBounds o.controlPoints) S = true)
      (BezierPatch.Kept k) (BezierPatch.Kept k) S (o.QueueMesh T ctx S) := by
  rw [QueueMesh]
  exact requeues_queueSurface T hmode _ _ _ _ S

theorem V3dBezierPatchWithCornerColors.requeues (T : Tessellation D F)
    (hmode : ctx.drawMode ≠ .outline) (o : V3dBezierPatchWithCornerColors D F) (S : BezierPatch F)
    (hmarks : coloredSurfaceMismarks ctx (T.patchBounds o.controlPoints) o.cornerColors.toList S =
      false) :
    let k := colorKind (cornersTransparent ctx.drawMode o.cornerColors.toList)
    Requeues ctx.remesh (surfaceFast ctx (T.patchBounds o.controlPoints) S = true)
      (BezierPatch.KeptColored k) (BezierPatch.KeptColored k) S (o.QueueMesh T ctx S) := by
  rw [QueueMesh]
  exact requeues_queueColoredSurface hmode _ _ _ _ _ S hmarks

theorem V3dBezierTriangleWithCornerColors.requeues (T : Tessellation D F)
    (hmode : ctx.drawMode ≠ .outline)
    (o : V3dBezierTriangleWithCornerColors D F) (S : BezierPatch F)
    (hmarks : coloredSurfaceMismarks ctx (T.triangleBounds o.controlPoints)
      o.cornerColors.toList S =
      false) :
    let k := colorKind (cornersTransparent ctx.drawMode o.cornerColors.toList)
    Requeues ctx.remesh (surfaceFast ctx (T.triangleBounds o.controlPoints) S = true)
      (BezierPatch.KeptColored k) (BezierPatch.KeptColored k) S (o.QueueMesh T ctx S) := by
  rw [QueueMesh]
  exact requeues_queueColoredSurface hmode _ _ _ _ _ S hmarks

/-! ### Straight polygons -/

namespace FlatState

/-- A polygon with a material: it only writes to its own buffer, and while all of it was onscreen it
put there what it keeps. -/
def Kept (k : BufferKind) (st : FlatState F) (es : Effects F) : Prop :=
  Only k es ∧ (st.onscreen = true → flatKind st.S_color = k ∧ contrib k es = [st.S])

/-- A polygon with corner colours: as above, and it has put something there only if it keeps
vertices and knows that it has colours. -/
def KeptColored (k : BufferKind) (st : FlatState F) (es : Effects F) : Prop :=
  Only k es ∧ (st.onscreen = true → contrib k es = [st.S]) ∧
    (contrib k es ≠ [] → st.S.colorVertices ≠ [] ∧ st.S_color = true)

end FlatState

/-- **A quadrilateral or triangle of one material** follows its own last frame. -/
theorem requeues_queueFlat [Rounding D F] (hmode : ctx.drawMode ≠ .outline)
    (box : Vec3 D × Vec3 D) (points : List (Vec3 D)) (edges : List (Vec3 D × Vec3 D))
    (ts : List (Corners D)) (normal : Vec3 D) (centerIndex materialIndex : UInt32)
    (st : FlatState F) :
    let k := flatKind (materialTransparent ctx.drawMode ctx.materials materialIndex)
    Requeues ctx.remesh (centerIndex = 0) (FlatState.Kept k) (FlatState.Kept k) st
      (queueFlat ctx box points edges ts normal centerIndex materialIndex st) := by
  intro k
  simp only [queueFlat, hmode, if_false]
  split_ifs with hoff hfast
  · exact .leave ⟨(only_nil k).mark k, fun honscreen => absurd honscreen (by simp)⟩
      (fun _ hes => hes.1) (fun _ => rfl) fun _ _ _ =>
        .inl ((marked_mark_cons ..).mpr (.inl rfl))
  · simp only [Bool.and_eq_true, Bool.not_eq_true', beq_iff_eq] at hfast
    refine .append hfast.1.1 hfast.2 fun es hes => ?_
    obtain ⟨hkind, hcontrib⟩ := hes.2 hfast.1.2
    rw [hkind]
    exact ⟨⟨only_put st.S, fun _ => ⟨hkind, by simp⟩⟩, hes.1, hcontrib⟩
  · exact .build ⟨only_mark_put _, fun _ => ⟨rfl, contrib_mark_put _⟩⟩ fun _ hes => hes.1
  · exact .build ⟨only_mark_put _, fun _ => ⟨rfl, contrib_mark_put _⟩⟩ fun _ hes => hes.1

/-- Where a polygon with corner colours resets the wrong counter: it leaves the screen with opaque
colours it has in a buffer, and `S_color` sends it to the transparent one. -/
def coloredFlatMismarks (ctx : QueueContext D F) (box : Vec3 D × Vec3 D) (colors : List (Vec4 F))
    (st : FlatState F) : Bool :=
  !ctx.remesh && ctx.offscreen box && !cornersTransparent ctx.drawMode colors &&
    !st.S.colorVertices.isEmpty

/-- **One with corner colours** does so unless its marks go astray. -/
theorem requeues_queueColoredFlat [Rounding D F] (hmode : ctx.drawMode ≠ .outline)
    (box : Vec3 D × Vec3 D) {points : List (Vec3 D × Vec4 F)} (hpoints : points ≠ [])
    (edges : List (Vec3 D × Vec3 D)) (ts : List (Corners D)) (normal : Vec3 D)
    (centerIndex materialIndex : UInt32) (st : FlatState F)
    (hmarks : coloredFlatMismarks ctx box (points.map Prod.snd) st = false) :
    let k := colorKind (cornersTransparent ctx.drawMode (points.map Prod.snd))
    Requeues ctx.remesh (centerIndex = 0) (FlatState.KeptColored k) (FlatState.KeptColored k) st
      (queueColoredFlat ctx box points edges ts normal centerIndex materialIndex st) := by
  intro k
  simp only [queueColoredFlat, hmode, if_false]
  split_ifs with hoff hfast
  · refine .leave
      ⟨(only_nil k).mark _, fun honscreen => absurd honscreen (by simp), fun hne => absurd rfl hne⟩
      (fun _ hes => hes.1) (fun _ => rfl) fun hremesh es hes => ?_
    by_cases hput : contrib k es = []
    · exact .inr ⟨rfl, hput⟩
    · -- it has vertices in its buffer, so `S_color` is set and the transparent buffer is marked
      obtain ⟨hS, hcolor⟩ := hes.2.2 hput
      have ht : cornersTransparent ctx.drawMode (points.map Prod.snd) = true := by
        simpa [coloredFlatMismarks, hremesh, hoff, hS] using hmarks
      have hk : k = .transparent := by simp [k, ht, colorKind]
      exact .inl (by simp [hcolor, colorKind, hk])
  · simp only [Bool.and_eq_true, Bool.not_eq_true', beq_iff_eq] at hfast
    refine .append hfast.1.1 hfast.2 fun es hes => ?_
    have hcontrib := hes.2.1 hfast.1.2
    exact ⟨⟨only_put st.S, fun _ => contrib_put_self .., fun _ => hes.2.2 (by simp [hcontrib])⟩,
      hes.1, hcontrib⟩
  · exact .build
      ⟨only_mark_put _, fun _ => contrib_mark_put _, fun _ => ⟨by simpa using hpoints, rfl⟩⟩
      fun _ hes => hes.1

/-- The same for corners and colors that are kept apart. -/
theorem requeues_cornerColors [Rounding D F] (hmode : ctx.drawMode ≠ .outline)
    (box : Vec3 D × Vec3 D) {n : Nat} (p : Vector (Vec3 D) (n + 1))
    (colors : Vector (Vec4 F) (n + 1)) (edges : List (Vec3 D × Vec3 D)) (ts : List (Corners D))
    (normal : Vec3 D) (centerIndex materialIndex : UInt32) (st : FlatState F)
    (hmarks : coloredFlatMismarks ctx box colors.toList st = false) :
    let k := colorKind (cornersTransparent ctx.drawMode colors.toList)
    Requeues ctx.remesh (centerIndex = 0) (FlatState.KeptColored k) (FlatState.KeptColored k) st
      (queueColoredFlat ctx box (p.toList.zip colors.toList) edges ts normal centerIndex
        materialIndex st) := by
  have hcolors : (p.toList.zip colors.toList).map Prod.snd = colors.toList :=
    List.map_snd_zip (by simp)
  have hpoints : p.toList.zip colors.toList ≠ [] := List.ne_nil_of_length_pos (by simp)
  have h := requeues_queueColoredFlat hmode box hpoints edges ts normal centerIndex materialIndex st
  rw [hcolors] at h
  exact h hmarks

/-! ### Triangle groups, curves and lines -/

/-- Whether a group has nothing to draw. -/
def V3dTriangleGroup.isEmpty (o : V3dTriangleGroup D F) : Bool :=
  o.triangles.isEmpty || o.vertexPositions.isEmpty

/-- A group: it only writes to its own buffer, nothing where it is empty, and what it keeps while it
is on the screen. -/
def V3dTriangleGroup.Kept (o : V3dTriangleGroup D F) (k : BufferKind) (st : KeptMesh F)
    (es : Effects F) : Prop :=
  Only k es ∧
    if o.isEmpty then contrib k es = []
    else st.fullyOnscreen = true → contrib k es = [st.vertexData]

/-- Where a group resets the wrong counter: its material is opaque, so the counter of the coloured
triangles is reset, but its corner colours put it among the transparent ones. -/
def V3dTriangleGroup.mismarks (o : V3dTriangleGroup D F) (ctx : QueueContext D F) : Bool :=
  !o.isEmpty && !ctx.offscreen (ctx.sceneMinBound, ctx.sceneMaxBound) &&
    !materialTransparent ctx.drawMode ctx.materials o.materialIndex &&
    !o.vertexColorArray.isEmpty && o.cornersTransparent

/-- A group is put into one of two buffers. -/
theorem colorKind_eq (t : Bool) : colorKind t = .transparent ∨ colorKind t = .color := by
  cases t
  · exact .inr rfl
  · exact .inl rfl

/-- **A triangle group** does so unless its marks go astray. -/
theorem V3dTriangleGroup.requeues [Rounding D F] (hmode : ctx.drawMode ≠ .outline)
    (o : V3dTriangleGroup D F) (st : KeptMesh F) (hmarks : o.mismarks ctx = false) :
    let k := colorKind (materialTransparent ctx.drawMode ctx.materials o.materialIndex)
    Requeues ctx.remesh (o.centerIndex = 0) (o.Kept k) (o.Kept k) st (o.QueueMesh ctx st) := by
  intro k
  cases hempty : o.isEmpty with
  | true =>
    have hout : o.QueueMesh ctx st = (st, []) := by
      rw [isEmpty] at hempty
      rw [QueueMesh, if_pos hempty]
    rw [hout]
    refine .leave ⟨only_nil k, by simp [hempty]⟩ (fun _ hes => hes.1) (fun _ => rfl)
      fun _ es hes => .inr ⟨rfl, ?_⟩
    simpa [hempty] using hes.2
  | false =>
    have hKept : ∀ st es, o.Kept k st es ↔
        Only k es ∧ (st.fullyOnscreen = true → contrib k es = [st.vertexData]) := by
      simp [Kept, hempty]
    rw [QueueMesh, if_neg (by simpa [isEmpty] using hempty), if_neg hmode]
    by_cases hoff : ctx.offscreen (ctx.sceneMinBound, ctx.sceneMaxBound) = true
    · rw [if_pos hoff]
      -- offscreen: both buffers are marked
      refine .leave ((hKept ..).mpr ⟨((only_nil k).mark _).mark _, fun h => absurd h (by simp)⟩)
        (fun _ hes => hes.1) (fun _ => rfl) fun _ _ _ => .inl ?_
      rcases colorKind_eq (materialTransparent ctx.drawMode ctx.materials o.materialIndex)
        with hk | hk
      · simp [k, hk]
      · simp [k, hk]
    · rw [if_neg hoff]
      have htransparent : (materialTransparent ctx.drawMode ctx.materials o.materialIndex ||
          (!o.vertexColorArray.isEmpty && o.cornersTransparent)) =
          materialTransparent ctx.drawMode ctx.materials o.materialIndex := by
        cases ht : materialTransparent ctx.drawMode ctx.materials o.materialIndex with
        | true => rfl
        | false => simpa [mismarks, hempty, hoff, ht] using hmarks
      dsimp only
      rw [htransparent]
      split_ifs with hfast
      · simp only [Bool.and_eq_true, Bool.not_eq_true', beq_iff_eq] at hfast
        refine .append hfast.1.1 hfast.2 fun es hes => ?_
        have hcontrib := ((hKept ..).mp hes).2 hfast.1.2
        exact ⟨(hKept ..).mpr ⟨only_put st.vertexData, fun _ => contrib_put_self ..⟩, hes.1,
          hcontrib⟩
      · exact .build ((hKept ..).mpr ⟨only_mark_put _, fun _ => contrib_mark_put _⟩)
          fun _ hes => hes.1

/-- A curve or a line: it only writes to the lines, and only if it keeps vertices. -/
def KeptMesh.KeptLine (st : KeptMesh F) (es : Effects F) : Prop :=
  Only .line es ∧ (contrib .line es ≠ [] → st.vertexData.materialVertices ≠ [])

/-- Where a curve resets the wrong counter: it leaves the screen, which resets two other counters,
or its fast path appends it to the materials. -/
def V3dBezierCurve.mismarks (T : Tessellation D F) (ctx : QueueContext D F) (o : V3dBezierCurve D)
    (st : KeptMesh F) : Bool :=
  !ctx.remesh &&
    if ctx.offscreen (T.curveBounds o.controlPoints) then
      !st.vertexData.materialVertices.isEmpty
    else st.fullyOnscreen && o.centerIndex == 0

/-- Where a line resets the wrong counters: it leaves the screen. -/
def V3dLineSegment.mismarks (ctx : QueueContext D F) (o : V3dLineSegment D) (st : KeptMesh F) :
    Bool :=
  !ctx.remesh && ctx.offscreen (lineBox o.endpoints) &&
    !st.vertexData.materialVertices.isEmpty

omit [Scalar F] in
/-- Leaving the screen is sound for a curve or a line that keeps no vertices. -/
theorem requeues_leaveLine {remesh : Bool} {fast : Prop} {st : KeptMesh F}
    (h : remesh = false → st.vertexData.materialVertices = []) :
    Requeues remesh fast KeptMesh.KeptLine KeptMesh.KeptLine st
      (⟨.empty, false⟩, [.mark .transparent, .mark .material]) := by
  refine .leave (k := .line) ⟨((only_nil _).mark _).mark _, fun hne => absurd rfl hne⟩
    (fun _ hes => hes.1) (fun _ => rfl) fun hremesh es hes => .inr ⟨rfl, ?_⟩
  by_contra hne
  exact hes.2 hne (h hremesh)

omit [Scalar F] in
/-- **A curve** does so unless its marks go astray. -/
theorem V3dBezierCurve.requeues (T : Tessellation D F) (o : V3dBezierCurve D) (st : KeptMesh F)
    (hmarks : o.mismarks T ctx st = false) :
    Requeues ctx.remesh (o.centerIndex = 0) KeptMesh.KeptLine KeptMesh.KeptLine st
      (o.QueueMesh T ctx st) := by
  rw [QueueMesh]
  split_ifs with hoff hfast
  · refine requeues_leaveLine fun hremesh => ?_
    simpa [mismarks, hremesh, hoff] using hmarks
  · rw [mismarks, if_neg hoff] at hmarks
    rw [Bool.and_assoc, hmarks] at hfast
    exact absurd hfast (by simp)
  · exact .build ⟨only_mark_put _, fun _ => T.curve_vertices _ _ _ _⟩ fun _ hes => hes.1

/-- **A line** does so unless its marks go astray. -/
theorem V3dLineSegment.requeues [Rounding D F] (o : V3dLineSegment D) (st : KeptMesh F)
    (hmarks : o.mismarks ctx st = false) :
    Requeues ctx.remesh (o.centerIndex = 0) KeptMesh.KeptLine KeptMesh.KeptLine st
      (o.QueueMesh ctx st) := by
  rw [QueueMesh]
  split_ifs with hoff
  · refine requeues_leaveLine fun hremesh => ?_
    simpa [mismarks, hremesh, hoff] using hmarks
  · exact .build ⟨only_mark_put _, fun _ => by simp [straightSegment]⟩ fun _ hes => hes.1

/-! ### Objects that keep nothing -/

/-- What a solid has put into the buffers: its patches into `k`, if it has any, its core into the
lines, if it has one on the screen, and nothing else. -/
structure SolidKept (k : BufferKind) (patches core : Bool) (es : Effects F) : Prop where
  other : ∀ b, b ≠ k → b ≠ .line → contrib b es = []
  noPatches : patches = false → contrib k es = []
  noCore : core = false → contrib .line es = []

/-- A frame of a solid: whatever it puts into the buffers is built anew, and marked. -/
structure SolidQueued (k : BufferKind) (patches core : Bool) (es : Effects F) : Prop
    extends SolidKept k patches core es where
  marked : patches = true → Marked k es
  markedCore : core = true → Marked .line es

theorem flatKind_ne_line (t : Bool) : flatKind t ≠ .line := by
  cases t <;> decide

section Solid

variable {k : BufferKind} {patches core core' : Bool} {es es' fs : Effects F}

omit [Scalar D] [Scalar F]

/-- A solid marks whatever it puts something into. -/
theorem SolidQueued.marks (h : SolidQueued k patches core es) (b : BufferKind) : Marks b es := by
  intro hne
  by_cases hk : b = k
  · subst hk
    cases hpatches : patches with
    | true => exact h.marked hpatches
    | false => exact absurd (h.noPatches hpatches) hne
  · by_cases hline : b = .line
    · subst hline
      cases hcore : core with
      | true => exact h.markedCore hcore
      | false => exact absurd (h.noCore hcore) hne
    · exact absurd (h.other b hk hline) hne

/-- A solid renews its buffers, unless its core has just left the screen. -/
theorem SolidQueued.renews (h : SolidKept k patches core es)
    (h' : SolidQueued k patches core' es') (hcore : core' = false → core = false)
    (b : BufferKind) : Renews b es es' := by
  by_cases hk : b = k
  · subst hk
    cases hpatches : patches with
    | true => exact .inl (h'.marked hpatches)
    | false => exact .inr ⟨h'.noPatches hpatches, h.noPatches hpatches⟩
  · by_cases hline : b = .line
    · subst hline
      cases hcore' : core' with
      | true => exact .inl (h'.markedCore hcore')
      | false => exact .inr ⟨h'.noCore hcore', h.noCore (hcore hcore')⟩
    · exact .inr ⟨h'.other b hk hline, h.other b hk hline⟩

/-- The patches of a solid, each of which marks its buffer. -/
theorem SolidQueued.flatMap {ι : Type} {xs : List ι} {f : ι → Effects F} (hk : k ≠ .line)
    (h : ∀ x ∈ xs, Only k (f x) ∧ Marked k (f x)) :
    SolidQueued k (!xs.isEmpty) false (xs.flatMap f) := by
  have honly : Only k (xs.flatMap f) := .flatMap fun x hx => (h x hx).1
  refine ⟨⟨fun b hb _ => honly b hb, fun hempty => ?_, fun _ => honly _ hk.symm⟩, fun hne => ?_,
    fun hcore => absurd hcore (by simp)⟩
  · rw [Bool.not_eq_false', List.isEmpty_iff] at hempty
    rw [hempty]
    rfl
  · cases xs with
    | nil => exact absurd hne (by simp)
    | cons x xs =>
      rw [List.flatMap_cons, marked_append]
      exact .inl (h x List.mem_cons_self).2

/-- The patches of a solid with its core behind them. -/
theorem SolidQueued.append (hk : k ≠ .line) (h : SolidQueued k patches false es)
    (honly : Only .line fs) (hmarked : core = true → Marked .line fs)
    (hnone : core = false → contrib .line fs = []) :
    SolidQueued k patches core (es ++ fs) where
  other b hb hline := by rw [contrib_append, h.other b hb hline, honly b hline, List.append_nil]
  noPatches hpatches := by rw [contrib_append, h.noPatches hpatches, honly k hk, List.append_nil]
  noCore hcore := by rw [contrib_append, h.noCore rfl, hnone hcore, List.append_nil]
  marked hpatches := (marked_append ..).mpr (.inl (h.marked hpatches))
  markedCore hcore := (marked_append ..).mpr (.inr (hmarked hcore))

/-- A solid keeps no mesh: it follows its last frame if that marked what it is made of. -/
theorem SolidQueued.requeues {σ : Type} {remesh : Bool} {kept kept' : σ → Effects F → Prop}
    {st : σ} (core : Bool) (h : SolidQueued k patches core' es')
    (hkept : ∀ es, kept st es → SolidKept k patches core es)
    (hkept' : SolidKept k patches core' es' → kept' st es')
    (hcore : remesh = false → core' = false → core = false) (fast : Prop) :
    Requeues remesh fast kept kept' st (st, es') where
  keeps _ _ := hkept' h.toSolidKept
  marks _ := h.marks
  repeats hremesh es hes :=
    .inl (SolidQueued.renews (hkept es hes) h (hcore hremesh))

end Solid

/-- A surface with a material that is asked for a new mesh: it marks its buffer. -/
theorem queueSurface_remesh (T : Tessellation D F) (hmode : ctx.drawMode ≠ .outline)
    (box : Vec3 D × Vec3 D) (edges : List (Vector (Vec3 D) 4)) (materialIndex : UInt32)
    (tessellate : Bool → Int32 → VertexData F × Bool) (S : BezierPatch F) :
    let k := flatKind (materialTransparent ctx.drawMode ctx.materials materialIndex)
    let es :=
      (queueSurface T { ctx with remesh := true } box edges materialIndex tessellate S).2
    Only k es ∧ Marked k es := by
  intro k es
  have hmode' : ({ ctx with remesh := true } : QueueContext D F).drawMode ≠ .outline := hmode
  have hqueue := requeues_queueSurface T hmode' box edges materialIndex tessellate S
  refine ⟨(hqueue.keeps [] (.inl rfl)).1, ?_⟩
  simp only [es, queueSurface, hmode, if_false]
  split_ifs
  · exact (marked_mark_cons ..).mpr (.inl rfl)
  · -- there is no fast path with `remesh`
    simp_all
  · exact (marked_mark_cons ..).mpr (.inl rfl)

/-- A sphere or a disk queues Bezier triangles in one loop. -/
theorem solidQueued_queueTriangles (T : Tessellation D F) (hmode : ctx.drawMode ≠ .outline)
    (triangles : List (Vector (Vec3 D) 10)) (centerIndex materialIndex : UInt32) :
    SolidQueued (flatKind (materialTransparent ctx.drawMode ctx.materials materialIndex))
      (!triangles.isEmpty) false (queueTriangles T ctx triangles centerIndex materialIndex) :=
  .flatMap (flatKind_ne_line _) fun _ _ => queueSurface_remesh T hmode ..

/-- The side of a cylinder or a tube queues patches in one. -/
theorem solidQueued_queuePatches (T : Tessellation D F) (hmode : ctx.drawMode ≠ .outline)
    (patches : List (Vector (Vec3 D) 16)) (centerIndex materialIndex : UInt32) :
    SolidQueued (flatKind (materialTransparent ctx.drawMode ctx.materials materialIndex))
      (!patches.isEmpty) false (queuePatches T ctx patches centerIndex materialIndex) :=
  .flatMap (flatKind_ne_line _) fun _ _ => queueSurface_remesh T hmode ..

/-- Whether the core line of a cylinder is there and on the screen. -/
def V3dCylinder.coreDrawn (projViewMat : Mat4 D) (o : V3dCylinder D) : Bool :=
  let box := verticesBox o.coreEnds.1 [o.coreEnds.2]
  o.core && !(BBox2.ofBox projViewMat box.1 box.2).offscreen

/-- Whether the core curve of a tube is there and on the screen. -/
def V3dTube.coreDrawn (T : Tessellation D F) (projViewMat : Mat4 D) (o : V3dTube D) : Bool :=
  let box := T.curveBounds o.controlPoints
  o.core && !(BBox2.ofBox projViewMat box.1 box.2).offscreen

/-- What a core does with the lines: it marks them, unless it is not drawn. -/
def CoreQueued (drawn : Bool) (es : Effects F) : Prop :=
  Only .line es ∧ if drawn then Marked .line es else contrib .line es = []

omit [Scalar D] [Scalar F] in
/-- The core of a solid comes after its surface, in a buffer of lines. -/
theorem SolidQueued.core {k : BufferKind} {patches drawn : Bool} {es fs : Effects F}
    (hk : k ≠ .line) (h : SolidQueued k patches false es) (hcore : CoreQueued drawn fs) :
    SolidQueued k patches drawn (es ++ fs) := by
  refine h.append hk hcore.1 (fun hdrawn => ?_) fun hdrawn => ?_
  · simpa [hdrawn] using hcore.2
  · simpa [hdrawn] using hcore.2

omit [Scalar D] [Scalar F] in
theorem coreQueued_leave : CoreQueued false ([.mark .transparent, .mark .material] : Effects F) :=
  ⟨((only_nil _).mark _).mark _, rfl⟩

omit [Scalar D] [Scalar F] in
theorem coreQueued_build (data : VertexData F) : CoreQueued true (BezierCurve.queue data) :=
  ⟨only_mark_put data, (marked_mark_cons ..).mpr (.inl rfl)⟩

/-- The core of a cylinder is a line. -/
theorem V3dLineSegment.coreQueued [Rounding D F] (o : V3dLineSegment D) (st : KeptMesh F) :
    CoreQueued (!ctx.offscreen (lineBox o.endpoints))
      (o.QueueMesh ctx st).2 := by
  rw [QueueMesh]
  split_ifs with hoff
  · rw [hoff]
    exact coreQueued_leave
  · rw [Bool.not_eq_true] at hoff
    rw [hoff]
    exact coreQueued_build _

omit [Scalar F] in
/-- The core of a tube is a curve. -/
theorem V3dBezierCurve.coreQueued (T : Tessellation D F) (hremesh : ctx.remesh = true)
    (o : V3dBezierCurve D) (st : KeptMesh F) :
    CoreQueued (!ctx.offscreen (T.curveBounds o.controlPoints)) (o.QueueMesh T ctx st).2 := by
  rw [QueueMesh]
  split_ifs with hoff hfast
  · rw [hoff]
    exact coreQueued_leave
  · exact absurd hfast (by simp [hremesh])
  · rw [Bool.not_eq_true] at hoff
    rw [hoff]
    exact coreQueued_build _

/-- A cylinder queues its side, and its core if that is on the screen. -/
theorem V3dCylinder.solidQueued [Rounding D F] (T : Tessellation D F)
    (hmode : ctx.drawMode ≠ .outline) (o : V3dCylinder D) :
    SolidQueued (flatKind (materialTransparent ctx.drawMode ctx.materials o.materialIndex))
      (!o.patches.isEmpty) (o.coreDrawn ctx.projViewMat) (o.QueueMesh T ctx) := by
  refine (solidQueued_queuePatches T hmode o.patches o.centerIndex o.materialIndex).core
    (flatKind_ne_line _) ?_
  cases hcore : o.core with
  | false => exact ⟨only_nil _, by simp [coreDrawn, hcore]⟩
  | true =>
    rw [coreDrawn, hcore, Bool.true_and]
    exact o.coreLine.coreQueued .init

/-- So does a tube. -/
theorem V3dTube.solidQueued (T : Tessellation D F) (hmode : ctx.drawMode ≠ .outline)
    (o : V3dTube D) :
    SolidQueued (flatKind (materialTransparent ctx.drawMode ctx.materials o.materialIndex))
      (!o.patches.isEmpty) (o.coreDrawn T ctx.projViewMat) (o.QueueMesh T ctx) := by
  refine (solidQueued_queuePatches T hmode o.patches o.centerIndex o.materialIndex).core
    (flatKind_ne_line _) ?_
  cases hcore : o.core with
  | false => exact ⟨only_nil _, by simp [coreDrawn, hcore]⟩
  | true =>
    rw [coreDrawn, hcore, Bool.true_and]
    exact o.coreCurve.coreQueued T rfl .init

end Families

/-! ### Any object -/

namespace SceneObject

variable {D F : Type} [Scalar D] [Scalar F]

/-- What an object keeps, against the effects `es` of its last frame under the same draw mode and
with the same materials; `projViewMat` is the projection of that frame. -/
def Kept (T : Tessellation D F) (drawMode : DrawMode) (materials : List (V3dMaterial F))
    (projViewMat : Mat4 D) : SceneObject D F → Effects F → Prop
  | bezierPatch o S => BezierPatch.Kept (flatKind (byMaterial o.materialIndex)) S
  | bezierTriangle o S => BezierPatch.Kept (flatKind (byMaterial o.materialIndex)) S
  | bezierPatchColor o S => BezierPatch.KeptColored (colorKind (byColors o.cornerColors.toList)) S
  | bezierTriangleColor o S => BezierPatch.KeptColored
      (colorKind (byColors o.cornerColors.toList)) S
  | quad o st => FlatState.Kept (flatKind (byMaterial o.materialIndex)) st
  | triangle o st => FlatState.Kept (flatKind (byMaterial o.materialIndex)) st
  | quadColor o st => FlatState.KeptColored (colorKind (byColors o.cornerColors.toList)) st
  | triangleColor o st => FlatState.KeptColored (colorKind (byColors o.cornerColors.toList)) st
  | triangles o st => o.Kept (colorKind (byMaterial o.materialIndex)) st
  | sphere o => solid o.materialIndex o.triangles.isEmpty false
  | halfSphere o => solid o.materialIndex o.triangles.isEmpty false
  | disk o => solid o.materialIndex false false
  | cylinder o => solid o.materialIndex o.patches.isEmpty (o.coreDrawn projViewMat)
  | tube o => solid o.materialIndex o.patches.isEmpty (o.coreDrawn T projViewMat)
  | curve _ st => st.KeptLine
  | line _ st => st.KeptLine
  | pixel _ => Only .point
where
  byMaterial := materialTransparent drawMode materials
  byColors := cornersTransparent drawMode
  solid (materialIndex : UInt32) (noPatches core : Bool) : Effects F → Prop :=
    SolidKept (flatKind (byMaterial materialIndex)) (!noPatches) core

/-- The bounds and the tessellator of a Bezier surface. -/
def surface? (T : Tessellation D F) : SceneObject D F → Option ((Vec3 D × Vec3 D) × BezierPatch F)
  | bezierPatch o S => some (T.patchBounds o.controlPoints, S)
  | bezierTriangle o S => some (T.triangleBounds o.controlPoints, S)
  | bezierPatchColor o S => some (T.patchBounds o.controlPoints, S)
  | bezierTriangleColor o S => some (T.triangleBounds o.controlPoints, S)
  | _ => none

/-- The tessellator of a Bezier surface that appends what it keeps, whatever its centre. -/
def appendedSurface (T : Tessellation D F) (ctx : QueueContext D F) (o : SceneObject D F) :
    Option (BezierPatch F) :=
  (o.surface? T).bind fun (box, S) => if surfaceFast ctx box S then some S else none

/-- Where an object resets the wrong counter; `last` is the projection of its last frame. -/
def mismarks (T : Tessellation D F) (last : Mat4 D) (ctx : QueueContext D F) :
    SceneObject D F → Bool
  | bezierPatchColor o S =>
    coloredSurfaceMismarks ctx (T.patchBounds o.controlPoints) o.cornerColors.toList S
  | bezierTriangleColor o S =>
    coloredSurfaceMismarks ctx (T.triangleBounds o.controlPoints) o.cornerColors.toList S
  | quadColor o st =>
    let p := o.vertices
    coloredFlatMismarks ctx (quadBox p) o.cornerColors.toList st
  | triangleColor o st =>
    let p := o.vertices
    coloredFlatMismarks ctx (triangleBox p) o.cornerColors.toList st
  | triangles o _ => o.mismarks ctx
  -- the core leaves the screen
  | cylinder o => !ctx.remesh && o.coreDrawn last && !o.coreDrawn ctx.projViewMat
  | tube o => !ctx.remesh && o.coreDrawn T last && !o.coreDrawn T ctx.projViewMat
  | curve o st => o.mismarks T ctx st
  | line o st => o.mismarks ctx st
  | _ => false

variable [Rounding D F] {ctx : QueueContext D F}

/-- **Every object class requeues**, except where it resets the wrong counter. -/
theorem requeues (T : Tessellation D F) (hmode : ctx.drawMode ≠ .outline) (last : Mat4 D)
    (o : SceneObject D F) (hmarks : o.mismarks T last ctx = false) :
    Requeues ctx.remesh (o.object.centerIndex = 0 ∨ (o.appendedSurface T ctx).isSome)
      (Kept T ctx.drawMode ctx.materials last)
      (Kept T ctx.drawMode ctx.materials ctx.projViewMat) o (o.QueueMesh T ctx) := by
  have hsurface : ∀ (o : SceneObject D F) {box : Vec3 D × Vec3 D} {S : BezierPatch F},
      o.surface? T = some (box, S) → surfaceFast ctx box S = true →
        o.object.centerIndex = 0 ∨ (o.appendedSurface T ctx).isSome := by
    intro o box S hS hfast
    exact .inr (by simp [appendedSurface, hS, hfast])
  cases o with
  | bezierPatch o S =>
    exact (o.requeues T hmode S).lift (bezierPatch o) (hsurface (bezierPatch o S) rfl)
      (fun _ hes => hes) fun _ _ hes => hes
  | bezierTriangle o S =>
    exact (o.requeues T hmode S).lift (bezierTriangle o) (hsurface (bezierTriangle o S) rfl)
      (fun _ hes => hes) fun _ _ hes => hes
  | bezierPatchColor o S =>
    exact (o.requeues T hmode S hmarks).lift (bezierPatchColor o)
      (hsurface (bezierPatchColor o S) rfl) (fun _ hes => hes) fun _ _ hes => hes
  | bezierTriangleColor o S =>
    exact (o.requeues T hmode S hmarks).lift (bezierTriangleColor o)
      (hsurface (bezierTriangleColor o S) rfl) (fun _ hes => hes) fun _ _ hes => hes
  | quad o st =>
    exact (requeues_queueFlat hmode ..).lift (quad o) .inl (fun _ hes => hes) fun _ _ hes => hes
  | triangle o st =>
    exact (requeues_queueFlat hmode ..).lift (triangle o) .inl (fun _ hes => hes)
      fun _ _ hes => hes
  | quadColor o st =>
    exact (requeues_cornerColors hmode _ o.vertices o.cornerColors _ _ _ _ _ st hmarks).lift
      (quadColor o) .inl (fun _ hes => hes) fun _ _ hes => hes
  | triangleColor o st =>
    exact (requeues_cornerColors hmode _ o.vertices o.cornerColors _ _ _ _ _ st hmarks).lift
      (triangleColor o) .inl (fun _ hes => hes) fun _ _ hes => hes
  | triangles o st =>
    exact (o.requeues hmode st hmarks).lift (triangles o) .inl (fun _ hes => hes)
      fun _ _ hes => hes
  | sphere o =>
    refine (solidQueued_queueTriangles T hmode o.triangles o.centerIndex o.materialIndex).requeues
      false ?_ ?_ (fun _ hcore => hcore) _
    · exact fun _ hes => hes
    · exact fun hes => hes
  | halfSphere o =>
    refine (solidQueued_queueTriangles T hmode o.triangles o.centerIndex o.materialIndex).requeues
      false ?_ ?_ (fun _ hcore => hcore) _
    · exact fun _ hes => hes
    · exact fun hes => hes
  | disk o =>
    refine (solidQueued_queuePatches T hmode [o.patch] o.centerIndex o.materialIndex).requeues
      false ?_ ?_ (fun _ hcore => hcore) _
    · exact fun _ hes => hes
    · exact fun hes => hes
  -- a core that has left the screen is not marked any more
  | cylinder o =>
    refine (o.solidQueued T hmode).requeues (o.coreDrawn last) ?_ ?_ ?_ _
    · exact fun _ hes => hes
    · exact fun hes => hes
    · intro hremesh hdrawn
      simpa [mismarks, hremesh, hdrawn] using hmarks
  | tube o =>
    refine (o.solidQueued T hmode).requeues (o.coreDrawn T last) ?_ ?_ ?_ _
    · exact fun _ hes => hes
    · exact fun hes => hes
    · intro hremesh hdrawn
      simpa [mismarks, hremesh, hdrawn] using hmarks
  | curve o st =>
    exact (o.requeues T st hmarks).lift (curve o) .inl (fun _ hes => hes) fun _ _ hes => hes
  | line o st =>
    exact (o.requeues st hmarks).lift (line o) .inl (fun _ hes => hes) fun _ _ hes => hes
  | pixel o =>
    rw [QueueMesh, V3dPixel.QueueMesh]
    dsimp only
    split_ifs
    · exact .leave (k := .point) ((only_nil _).mark _) (fun _ hes => hes) (fun _ => rfl)
        fun _ _ _ => .inl ((marked_mark_cons ..).mpr (.inl rfl))
    · exact .build (only_mark_put _) fun _ hes => hes

end SceneObject

end OkularV3d
