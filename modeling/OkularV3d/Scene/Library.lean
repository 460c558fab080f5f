import OkularV3d.File.QueuedIndices
import OkularV3d.File.Writer
import OkularV3d.Scene.Bound
import OkularV3d.Scene.Conservative
import OkularV3d.Scene.IndexBuffers
import OkularV3d.Scene.MaterialIndex
import OkularV3d.Scene.Pieces

/-!
# The library of the scene

`Tessellation` says what the objects of a scene call of the Asymptote sources. Here it is those
sources: the bounds of `bound.cc` and the subdivision of `bezierpatch.cc` and `beziercurve.cc`, as
far as it ends within a number of levels.

What the scene relies on is proved of it, in any arithmetic.

* `Tessellation.library` is the instance; what does not end within its levels gives no triangles.
* `Tessellation.library_carriesWord`: every vertex carries the word of its object, as
  `queuedIndex_along` assumes.
* `Tessellation.library_inBounds`: the indices of a rendering are those of its own vertices, as
  `inBounds_along` assumes.
* `severalFile` is a file to which both apply: a triangle group and a coloured patch in one buffer,
  a transparent patch and a pixel, in a frame that builds their meshes and one that appends them
  again.
* `farScene` is a scene whose culling is conservative with the bounds of the library.
-/

namespace OkularV3d

open Adaptive Runs Wire Wire.Parser

variable {D F : Type} [Scalar D] [Scalar F] [Rounding D F]

/-- `pixelResolution` of `render.h`. -/
def pixelResolution : D := Scalar.lit 1

/-- The colours of the corners, `c0`, `c0+4` and so on. -/
def cornerColor (cs : List (Vec4 F)) (i : ℕ) : Vec4 F :=
  cs.getD i ⟨Scalar.lit 0, Scalar.lit 0, Scalar.lit 0, Scalar.lit 0⟩

namespace BezierCurve

/-- A mesh with the first end of a curve. -/
def firstEnd (word : Int32) (p : Vector (Vec3 D) 4) : Mesh F :=
  (Mesh.init.addMaterialVertex (p.get 0) (p.get 0) word).1

omit [Scalar F] in
/-- A rendering of a curve adds to the mesh. -/
theorem extends_run {R : CurveSetting D} {n : ℕ} {c : CurvePiece D} {M N : Mesh F}
    (h : run (step R) n c M = some N) : M.Extends N :=
  Result.keeps Mesh.Extends .refl (fun _ _ _ => .trans) (extends_step R) ⟨n, h⟩

omit [Scalar F] in
/-- A curve has a vertex whatever the view. -/
theorem materialVertices_render {depth : ℕ} {projViewMat : Mat4 D} {res : D} {word : Int32}
    {p : Vector (Vec3 D) 4} {built : VertexData F × Bool}
    (h : render depth projViewMat res word p = some built) : built.1.materialVertices ≠ [] := by
  rw [render, Option.map_eq_some_iff] at h
  obtain ⟨N, hrun, rfl⟩ := h
  intro hnil
  have hprefix := (extends_run hrun).materialVertices
  rw [hnil, List.prefix_nil] at hprefix
  exact absurd hprefix (List.append_ne_nil_of_right_ne_nil _ (List.cons_ne_nil _ _))

end BezierCurve

/-- The colours of the corners of a patch. -/
def patchColors (cs : List (Vec4 F)) : Vector (Vec4 F) 4 :=
  #v[cornerColor cs 0, cornerColor cs 1, cornerColor cs 2, cornerColor cs 3]

/-- The colours of the corners of a Bezier triangle. -/
def triangleColors (cs : List (Vec4 F)) : Vector (Vec4 F) 3 :=
  #v[cornerColor cs 0, cornerColor cs 1, cornerColor cs 2]

namespace Tessellation

/-- The subdivision algorithms, at most `depth` deep. What takes more gives no triangles, and a
curve its first end. -/
def library (depth : ℕ) : Tessellation D F where
  patchBounds := Bound.patchBounds
  triangleBounds := Bound.triangleBounds
  curveBounds := Bound.curveBounds
  patch projViewMat ratio transparent colors word p :=
    (BezierPatch.render depth projViewMat (pixelResolution * ratio) transparent
      (colors.map patchColors) word p).getD (.empty, true)
  triangle projViewMat ratio transparent colors word p :=
    (BezierTriangle.render depth projViewMat (pixelResolution * ratio) transparent
      (colors.map triangleColors) word p).getD (.empty, true)
  curve projViewMat ratio word p :=
    (BezierCurve.render depth projViewMat (pixelResolution * ratio) word p).getD
      ((BezierCurve.firstEnd word p).data, true)
  curve_vertices projViewMat ratio word p := by
    obtain hnone | ⟨built, hbuilt⟩ :=
      (BezierCurve.render (F := F) depth projViewMat (pixelResolution * ratio)
        word p).eq_none_or_eq_some
    · rw [hnone]
      exact List.cons_ne_nil _ _
    · rw [hbuilt]
      exact BezierCurve.materialVertices_render hbuilt

end Tessellation

/-! ### Words -/

section Words

variable {word : Int32} {M N : Mesh F}

namespace Mesh

omit [Scalar D] [Scalar F] in
/-- A vertex that is added carries the word it is given. -/
theorem carries_addMaterialVertex {pos norm : Vec3 D} (h : M.data.Carries word) :
    (M.addMaterialVertex pos norm word).1.data.Carries word := by
  obtain ⟨hmaterial, hcolor, hpoint⟩ := h
  exact ⟨List.forall_mem_append.mpr ⟨hmaterial, List.forall_mem_singleton.mpr rfl⟩, hcolor, hpoint⟩

omit [Scalar D] [Scalar F] in
theorem carries_addColorVertex {pos norm : Vec3 D} {color : Vec4 F} (h : M.data.Carries word) :
    (M.addColorVertex pos norm word color).1.data.Carries word := by
  obtain ⟨hmaterial, hcolor, hpoint⟩ := h
  exact ⟨hmaterial, List.forall_mem_append.mpr ⟨hcolor, List.forall_mem_singleton.mpr rfl⟩, hpoint⟩

omit [Scalar F] [Rounding D F] in
/-- Triangles have no words. -/
theorem carries_emit {projViewMat : Mat4 D} {v : Vec3 D} {vs : List (Vec3 D)} {is : List UInt32}
    (h : M.data.Carries word) : (M.emit projViewMat v vs is).data.Carries word := by
  rw [emit]
  split_ifs
  exacts [h, h]

end Mesh

open BezierPatch

variable {R : SurfaceSetting D}

omit [Scalar D] in
/-- A corner of a surface is added with the word of its surface. -/
theorem carries_addVertex {pos norm : Vec3 D} {C : Option (Vec4 F)} (h : M.data.Carries R.word) :
    (addVertex R pos norm C M).1.data.Carries R.word := by
  obtain _ | c := C
  · rw [addVertex]
    split_ifs
    · exact Mesh.carries_addColorVertex h
    · exact Mesh.carries_addMaterialVertex h
  · exact Mesh.carries_addColorVertex h

omit [Scalar F] in
/-- What one step keeps, a rendering keeps. -/
theorem carries_run {P : Type} {step : P → Mesh F → Mesh F × List P} {n : ℕ} {q : P}
    (hstep : ∀ q M, M.data.Carries word → (step q M).1.data.Carries word)
    (h : run step n q M = some N) (hM : M.data.Carries word) : N.data.Carries word :=
  Result.keeps (fun M N : Mesh F => M.data.Carries word → N.data.Carries word) (fun _ => id)
    (fun _ _ _ h h' => h' ∘ h) hstep ⟨n, h⟩ hM

section Render

variable {depth : ℕ} {projViewMat : Mat4 D} {res : D} {transparent : Bool}
    {built : VertexData F × Bool}

/-- **Every vertex of a patch carries its word**: each step adds corners only. -/
theorem BezierPatch.carries_render {colors : Option (Vector (Vec4 F) 4)} {p : Vector (Vec3 D) 16}
    (h : render depth projViewMat res transparent colors word p = some built) :
    built.1.Carries word := by
  rw [render, Option.map_eq_some_iff] at h
  obtain ⟨N, hrun, rfl⟩ := h
  refine carries_run (fun q M (hM : M.data.Carries word) => ?_) hrun ?_
  · rw [step]
    split_ifs
    · exact Mesh.carries_emit (Mesh.carries_emit hM)
    · exact hM
    · exact carries_addVertex (carries_addVertex hM)
    · exact carries_addVertex (carries_addVertex hM)
    · exact carries_addVertex (carries_addVertex (carries_addVertex (carries_addVertex
        (carries_addVertex hM))))
  · exact carries_addVertex (carries_addVertex (carries_addVertex (carries_addVertex
      (VertexData.carries_empty _))))

/-- So does every vertex of a Bezier triangle. -/
theorem BezierTriangle.carries_render {colors : Option (Vector (Vec4 F) 3)} {p : Vector (Vec3 D) 10}
    (h : render depth projViewMat res transparent colors word p = some built) :
    built.1.Carries word := by
  rw [render, Option.map_eq_some_iff] at h
  obtain ⟨N, hrun, rfl⟩ := h
  refine carries_run (fun q M (hM : M.data.Carries word) => ?_) hrun ?_
  · rw [step]
    split_ifs
    · exact Mesh.carries_emit hM
    · exact hM
    · exact carries_addVertex (carries_addVertex (carries_addVertex hM))
  · exact carries_addVertex (carries_addVertex (carries_addVertex (VertexData.carries_empty _)))

omit [Scalar F] in
/-- And of a curve. -/
theorem BezierCurve.carries_render {p : Vector (Vec3 D) 4}
    (h : render depth projViewMat res word p = some built) : built.1.Carries word := by
  rw [render, Option.map_eq_some_iff] at h
  obtain ⟨N, hrun, rfl⟩ := h
  refine carries_run (fun c M hM => ?_) hrun ?_
  · rw [step]
    split_ifs
    · exact Mesh.carries_emit hM
    · exact hM
    · exact Mesh.carries_addMaterialVertex hM
  · exact Mesh.carries_addMaterialVertex
      (Mesh.carries_addMaterialVertex (VertexData.carries_empty _))

end Render

end Words

/-! ### Indices -/

namespace BezierCurve

/-- The ends of a piece are vertices of the mesh. -/
def Within (M : Mesh F) (c : CurvePiece D) : Prop :=
  c.I0.toNat < M.data.count .line ∧ c.I1.toNat < M.data.count .line

omit [Scalar D] [Scalar F] [Rounding D F] in
/-- An index within a mesh is within what it is extended to. -/
theorem Within.extend {M N : Mesh F} {c : CurvePiece D} (h : Within M c) (hext : M.Extends N) :
    Within N c := by
  have hle := hext.count_le (k := .line) (by decide)
  exact ⟨h.1.trans_le hle, h.2.trans_le hle⟩

omit [Scalar D] [Scalar F] in
/-- **The index of a new vertex lies within the mesh**, also where it wraps around. -/
theorem toNat_addMaterialVertex_lt {M : Mesh F} {pos norm : Vec3 D} {word : Int32} :
    (M.addMaterialVertex pos norm word).2.toNat <
      (M.addMaterialVertex pos norm word).1.data.count .line := by
  have hcount : (M.addMaterialVertex pos norm word).1.data.count .line =
    M.data.materialVertices.length + 1 :=
    List.length_append ..
  have hmod : (M.addMaterialVertex pos norm word).2.toNat =
    M.data.materialVertices.length % 2 ^ 32 :=
    UInt32.toNat_ofNat
  rw [hcount, hmod]
  exact (Nat.mod_le ..).trans_lt (Nat.lt_succ_self _)

variable {R : CurveSetting D} {c : CurvePiece D} {M N : Mesh F}

omit [Scalar F] in
/-- The parts of a curve have ends within the mesh. -/
theorem within_step (hc : Within M c) : ∀ q ∈ (step R c M).2, Within (step R c M).1 q := by
  have hext := extends_step R c M
  rw [step] at hext ⊢
  split_ifs at hext ⊢
  · exact List.forall_mem_nil _
  · exact List.forall_mem_nil _
  · obtain ⟨h0, h1⟩ := hc.extend hext
    simp only [List.forall_mem_cons, List.not_mem_nil, false_imp_iff, implies_true, and_true]
    exact ⟨⟨h0, toNat_addMaterialVertex_lt⟩, toNat_addMaterialVertex_lt, h1⟩

omit [Scalar F] in
/-- A step of a curve adds indices of its ends only. -/
theorem inBounds_step (hc : Within M c) (hM : M.data.InBounds .line) :
    (step R c M).1.data.InBounds .line := by
  have hext := extends_step R c M
  rw [step] at hext ⊢
  split_ifs at hext ⊢
  · obtain ⟨h0, h1⟩ := hc
    rw [Mesh.emit]
    split_ifs
    · exact hM
    · refine List.forall_mem_append.mpr ⟨hM, ?_⟩
      simp only [List.forall_mem_cons, List.not_mem_nil, false_imp_iff, implies_true, and_true]
      exact ⟨h0, h1⟩
  · exact hM
  · exact fun i hi => (hM i hi).trans_le (hext.count_le (by decide))

omit [Scalar F] in
/-- The indices of a curve are those of its own vertices. -/
theorem inBounds_render {depth : ℕ} {projViewMat : Mat4 D} {res : D} {word : Int32}
    {p : Vector (Vec3 D) 4} {built : VertexData F × Bool}
    (h : render depth projViewMat res word p = some built) : built.1.InBounds .line := by
  rw [render, Option.map_eq_some_iff] at h
  obtain ⟨N, hrun, rfl⟩ := h
  refine Result.invariant (fun c M => Within M c) (fun M : Mesh F => M.data.InBounds .line)
    Mesh.Extends .refl (fun _ _ _ => .trans) (extends_step _) (fun _ _ _ => Within.extend)
    (fun _ _ => within_step) (fun _ _ => inBounds_step) ⟨depth, hrun⟩
      ⟨?_, toNat_addMaterialVertex_lt⟩
    (fun i hi => absurd hi List.not_mem_nil)
  exact toNat_addMaterialVertex_lt.trans_le
    ((Mesh.extends_addMaterialVertex ..).count_le (by decide))

end BezierCurve

section Render

variable {depth : ℕ} {projViewMat : Mat4 D} {res : D} {transparent : Bool} {word : Int32}
  {built : VertexData F × Bool}

/-- The indices of a patch lie within its vertices. -/
theorem BezierPatch.inBounds_render {colors : Option (Vector (Vec4 F) 4)} {p : Vector (Vec3 D) 16}
    (h : render depth projViewMat res transparent colors word p = some built) :
    built.1.InBounds (surfaceKind transparent colors.isSome) :=
  (cuts_render h).inBounds (indices_start ..)

/-- Those of a Bezier triangle do. -/
theorem BezierTriangle.inBounds_render {colors : Option (Vector (Vec4 F) 3)}
    {p : Vector (Vec3 D) 10}
    (h : render depth projViewMat res transparent colors word p = some built) :
    built.1.InBounds (surfaceKind transparent colors.isSome) :=
  (cuts_render h).inBounds (indices_start ..)

end Render

/-! ### What the scene relies on -/

/-- What holds of a rendering that ends and of what stands for one that does not. -/
theorem getD_induct {α : Type} (P : α → Prop) {o : Option α} {d : α} (hd : P d)
    (ho : ∀ a, o = some a → P a) : P (o.getD d) := by
  obtain rfl | ⟨a, rfl⟩ := o.eq_none_or_eq_some
  · exact hd
  · exact ho a rfl

namespace Tessellation

/-- **Every vertex carries the word of its object**, whatever the arithmetic. -/
theorem library_carriesWord (depth : ℕ) : (library depth : Tessellation D F).CarriesWord where
  patch _ _ _ _ word _ := getD_induct (fun built : VertexData F × Bool => built.1.Carries word)
    (VertexData.carries_empty _) fun _ => BezierPatch.carries_render
  triangle _ _ _ _ word _ := getD_induct (fun built : VertexData F × Bool => built.1.Carries word)
    (VertexData.carries_empty _) fun _ => BezierTriangle.carries_render
  curve _ _ word _ := getD_induct (fun built : VertexData F × Bool => built.1.Carries word)
    (Mesh.carries_addMaterialVertex (VertexData.carries_empty _)) fun _ =>
      BezierCurve.carries_render

section InBounds

variable (depth : ℕ) (projViewMat : Mat4 D) (ratio : D)

/-- What the library appends for a patch that ends, or for one that does not. -/
theorem inBounds_patch (transparent : Bool) (corners : Option (List (Vec4 F))) (word : Int32)
    (p : Vector (Vec3 D) 16) :
    ((library depth).patch projViewMat ratio transparent corners word p).1.InBounds
      (surfaceKind transparent corners.isSome) :=
  getD_induct (fun built : VertexData F × Bool =>
      built.1.InBounds (surfaceKind transparent corners.isSome))
    (VertexData.inBounds_empty _) fun _ h => by
      rw [← Option.isSome_map]
      exact BezierPatch.inBounds_render h

/-- For a Bezier triangle. -/
theorem inBounds_triangle (transparent : Bool) (corners : Option (List (Vec4 F))) (word : Int32)
    (p : Vector (Vec3 D) 10) :
    ((library depth).triangle projViewMat ratio transparent corners word p).1.InBounds
      (surfaceKind transparent corners.isSome) :=
  getD_induct (fun built : VertexData F × Bool =>
      built.1.InBounds (surfaceKind transparent corners.isSome))
    (VertexData.inBounds_empty _) fun _ h => by
      rw [← Option.isSome_map]
      exact BezierTriangle.inBounds_render h

/-- For a curve. -/
theorem inBounds_curve (word : Int32) (p : Vector (Vec3 D) 4) :
    ((library depth).curve projViewMat ratio word p : VertexData F × Bool).1.InBounds .line :=
  getD_induct (fun built : VertexData F × Bool => built.1.InBounds .line)
    (fun _ hi => absurd hi List.not_mem_nil) fun _ => BezierCurve.inBounds_render

end InBounds

/-- **The indices of a rendering are those of its own vertices**, also where they wrap around. -/
theorem library_inBounds (depth : ℕ) : (library depth : Tessellation D F).InBounds where
  patch := inBounds_patch depth
  triangle := inBounds_triangle depth
  curve := inBounds_curve depth

end Tessellation

/-! ### A file of several objects -/

section Several

/-- A material that is as opaque as this. -/
def plainMaterial (alpha : Int32) : V3dMaterial Int32 :=
  ⟨⟨1, 0, 0, alpha⟩, ⟨0, 0, 0, 1⟩, ⟨0, 0, 0, 1⟩, 1, 0, 0, 1⟩

/-- A square patch in the plane of the first two coordinates. -/
def squarePatch (x : Int64) : Vector (Vec3 Int64) 16 :=
  .ofFn fun i => ⟨x + Int64.ofNat (i / 4), Int64.ofNat (i % 4), 0⟩

/-- An opaque and a transparent material; a triangle group and a patch with corner colours, which
share a buffer, a patch of the transparent material, and a pixel. -/
def severalItems : List (Item Int64 Int32) :=
  [.material (plainMaterial 1), .material (plainMaterial 0),
    .object (.triangles
      { vertexPositions := [⟨0, 0, 0⟩, ⟨3, 0, 0⟩, ⟨0, 3, 0⟩]
        vertexNormalArray := [⟨0, 0, 1⟩, ⟨0, 0, 1⟩, ⟨0, 0, 1⟩]
        vertexColorArray := []
        triangles := [⟨(0, 1, 2), (0, 1, 2), (0, 1, 2)⟩]
        centerIndex := 0
        materialIndex := 0 }),
    .object (.bezierPatchColor ⟨squarePatch 3, 0, 0, .replicate 4 ⟨0, 0, 1, 1⟩⟩),
    .object (.bezierPatch ⟨squarePatch 6, 0, 1⟩),
    .object (.pixel ⟨⟨1, 1, 0⟩, 2, 1⟩)]

/-- A file in single precision with these items and nothing else. -/
def severalFile : List UInt8 :=
  putWord v3dVersion ++ (putWord (precisionFlag true) ++ severalItems.flatMap (addItem Int32 true))

/-- The objects among them. -/
def severalObjects : List (V3dObject Int64 Int32) :=
  (severalItems.filterMap Item.object?).map fun o => o.rounded true

/-- Their scene. -/
def severalScene : V3dFile Int64 Int32 where
  objects := severalObjects.map .ofObject
  centers := []
  materials := severalItems.filterMap Item.material?
  lights := []
  canvasWidth := 500
  orthographic := false

/-- What is read of the file is a scene. -/
theorem scene_severalFile : (load true severalFile).1.Scene severalScene := by
  have hload : (load true severalFile).1 =
      { Loaded.withFlags 2 0 with
        objects := severalObjects.map some
        materials := (severalItems.filterMap Item.material?).map some } := by
    decide +kernel
  rw [hload]
  refine ⟨?_, ?_, .nil, ?_, .nil, rfl, rfl⟩ <;> simp [Loaded.Has, severalScene]

/-- A frame of a scene that is wide for its image, so that a patch is flat. -/
def wideFrame (remesh : Bool) : QueueContext Int64 Int32 :=
  { originFrame with
    sceneMaxBound := ⟨30, 40, 1⟩
    remesh
    materials := severalScene.materials }

/-- A frame that builds the meshes and one that appends them once more. -/
def severalFrames : List (QueueContext Int64 Int32) := [wideFrame true, wideFrame false]

/-- The second frame puts two objects among the colours: its indices go on where those of the first
object end. -/
example :
    ((severalScene.frame (.library 8) (wideFrame true)).queueInto (.library 8) (wideFrame false)
      (fun _ => ⟨.empty, 0⟩) .color).data.indices = [0, 1, 2, 3, 4, 5, 3, 5, 6] := by
  decide +kernel

/-- Both frames carry the indices of the file. -/
theorem queuedIndex_along_several :
    (Tessellation.library 8 : Tessellation Int64 Int32).CarriesWord ∧
      (load true severalFile).1.Scene severalScene ∧
      Along (V3dFile.frame (.library 8))
        (fun file ctx => (load true severalFile : Loaded Int64 Int32 × Stream).1.Has file ∧
          ∀ o ∈ file.objects, o.object.materialIndex.toNat + 1 < 2 ^ 31 →
            ∀ k, ∀ v ∈ file.appended (.library 8) ctx o k, v.word.toInt = o.object.queuedIndex k)
        severalScene severalFrames :=
  ⟨Tessellation.library_carriesWord 8, scene_severalFile,
    queuedIndex_along (Tessellation.library_carriesWord 8) true severalFile scene_severalFile
      severalFrames⟩

/-- Both frames name vertices that are there. -/
theorem inBounds_along_several :
    (Tessellation.library 8 : Tessellation Int64 Int32).InBounds ∧
      (load true severalFile).1.Scene severalScene ∧
      Along (V3dFile.frame (.library 8)) (V3dFile.IndicesInBounds (.library 8)) severalScene
        severalFrames := by
  have hlibrary : (Tessellation.library 8 : Tessellation Int64 Int32).InBounds :=
    ⟨Tessellation.inBounds_patch 8, Tessellation.inBounds_triangle 8, Tessellation.inBounds_curve 8⟩
  exact ⟨hlibrary, scene_severalFile,
    inBounds_along hlibrary true severalFile scene_severalFile severalFrames⟩

end Several

/-! ### A patch beyond the edge -/

section Far

open V3dFile

/-- A flat patch to the right of the screen. -/
def farPatch : V3dBezierPatch ℚ where
  controlPoints := .ofFn fun i => ⟨2 + (i / 4 : ℕ) / 3, (i % 4 : ℕ) / 3, 0⟩
  centerIndex := 0
  materialIndex := 0

/-- A scene of it and of a label without a centre. -/
def farScene : V3dFile ℚ ℚ :=
  { farLabel with objects := [.bezierPatch farPatch .init, farQuad], centers := [] }

/-- The library's bounds of the patch are those of its control points. -/
theorem trueBounds_farScene :
    ∀ o ∈ farScene.objects, o.TrueBounds (.library 8) halfTurned := by
  have hbox : (Tessellation.library 8 : Tessellation ℚ ℚ).patchBounds farPatch.controlPoints =
      controlBounds farPatch.controlPoints := by
    decide +kernel
  refine List.forall_mem_cons.mpr ⟨List.forall_mem_singleton.mpr fun _ q hq => ?_,
    List.forall_mem_singleton.mpr fun _ hb => absurd hb List.not_mem_nil⟩
  rw [hbox]
  exact endsOnly.trueBounds_withControlBounds.patch _ q hq

/-- Both objects are left out and neither would be on the screen, with the bounds of the library and
with those of the control points. -/
theorem cullsConservatively_farScene :
    farScene.CullsConservatively (.library 8) halfTurned ∧
      farScene.CullsConservatively endsOnly.withControlBounds halfTurned := by
  have htests : ∀ T : Tessellation ℚ ℚ, ∀ o ∈ farScene.objects, ∀ c ∈ o.leftOut T halfTurned,
      farScene.TestsWhatIsDrawn halfTurned o c := by
    refine fun T o ho c _ => ⟨Or.inl ?_, fun hmoved => ?_⟩
    · rintro _ ⟨v, -, rfl⟩
      change 0 < 0 * v.x + 0 * v.y + 0 * v.z + 1
      norm_num
    -- without centres nothing is turned, and there is no group
    · simp only [farScene, List.mem_cons, List.not_mem_nil, or_false] at ho
      obtain rfl | rfl := ho <;>
        exact absurd hmoved (by simp [Turned, center?, farScene, farQuad])
  exact ⟨cullsConservatively trueBounds_farScene (htests _),
    cullsConservatively (fun o _ => endsOnly.trueBounds_withControlBounds.trueBounds o) (htests _)⟩

end Far

end OkularV3d
