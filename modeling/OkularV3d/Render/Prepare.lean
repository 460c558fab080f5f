import OkularV3d.Render.Renderer

/-!
# What a render call does to the renderer

One inversion lemma for each stage of `render()`: `prepare_ok` and `prepare_error` for the
recreation of resources, `drawFrame_fst` for the recorded passes. Recording uploads geometry and
binds pipelines; it leaves everything but `gpu` as it was, and a failure on the way leaves `fail`.
The results about the mapped buffers, the pipelines and the upload gate all start from these lemmas.

* `prepared` is the state in which the per-frame copies start, whatever was recreated; `recreated`
  is that of a full recreation.
* `reachesFrame` is whether a call gets that far, and `Stopped` what is left of the renderer if not.
* `SameResources` relates the renderer before and after a recorded pass (`sameResources_drawBuffer`
  for one draw, `sameResources_foldl` for a pass).
* `render_of_reachesFrame` and `render_of_not_reachesFrame` put the stages together.
-/

namespace OkularV3d

/-- Whether a recreation stops at a fault point. -/
def Preparation.stops : Preparation → FaultPoint → Bool
  | .recreatePipelines, .recreatePipeline _ => true
  | .recreateAll, .attachmentsOOM | .recreateAll, .setup | .recreateAll, .shaders
  | .recreateAll, .opaquePipeline _ | .recreateAll, .materialBuffer | .recreateAll, .lightBuffer
  | .recreateAll, .descriptors | .recreateAll, .transparencyOOM | .recreateAll, .pipeline _ => true
  | _, _ => false

namespace Renderer

variable {D F : Type}

/-! ### Clean-up and failure -/

@[simp] theorem fail_initialized (r : Renderer F) : r.fail.initialized = false := rfl

@[simp] theorem fail_currentTargetSize (r : Renderer F) : r.fail.currentTargetSize = (0, 0) := rfl

@[simp] theorem fail_currentDrawMode (r : Renderer F) :
    r.fail.currentDrawMode = r.currentDrawMode := rfl

/-- A failure destroys the pipelines and the buffers of the vertices; the materials and lights
stay. -/
@[simp] theorem fail_materialBuffer (r : Renderer F) : r.fail.materialBuffer = r.materialBuffer :=
  rfl

@[simp] theorem fail_lightBuffer (r : Renderer F) : r.fail.lightBuffer = r.lightBuffer := rfl

@[simp] theorem fail_pipelines (r : Renderer F) (name : PipelineName) :
    r.fail.pipelines name = none := rfl

@[simp] theorem fail_gpu (r : Renderer F) (kind : BufferKind) : r.fail.gpu kind = ⟨none, none⟩ :=
  rfl

@[simp] theorem fail_device (r : Renderer F) : r.fail.device = r.device := rfl

/-- A clamped size with positive sides is positive, so it is never the size of an uninitialised
renderer. -/
theorem clampSize_ne_zero (r : Renderer F) {size : Int × Int} (h : 0 < size.1) :
    r.clampSize size ≠ (0, 0) := by
  intro h0
  have hfst := congrArg Prod.fst h0
  have hpos := r.device.maxFramebuffer_pos.1
  simp only [clampSize] at hfst
  omega

/-! ### The recreation of resources -/

/-- A full recreation creates every pipeline. -/
theorem mem_allPipelines (name : PipelineName) : name ∈ opaquePipelines ++ remainingPipelines := by
  cases name <;> decide

/-- Every pipeline is live after the light recreation, and was created for the new mode. -/
theorem recreateGraphicsPipelines_pipelines (r : Renderer F) (mode : DrawMode)
    (name : PipelineName) :
    (r.recreateGraphicsPipelines mode).pipelines name = some ⟨mode, name.polygonMode mode⟩ := by
  simp only [recreateGraphicsPipelines, createPipelines, mem_allPipelines, if_true]

section Prepare

variable [Scalar F] [Rounding D F]

/-- The state after a full recreation. -/
def recreated (r : Renderer F) (c : RenderCall D F) : Renderer F :=
  { r with
    initialized := true
    currentTargetSize := r.clampSize c.targetSize
    currentDrawMode := c.drawMode
    pipelines := fun name => some ⟨c.drawMode, name.polygonMode c.drawMode⟩
    materialBuffer := some (gpuMaterials c.materials)
    lightBuffer := some (gpuLights c.lights)
    gpu := fun kind => if r.initialized then ⟨none, none⟩ else r.gpu kind }

/-- The state in which a call starts its per-frame copies, if its recreation succeeds. -/
def prepared (r : Renderer F) (c : RenderCall D F) : Renderer F :=
  match r.preparation c with
  | .recreatePipelines => r.recreateGraphicsPipelines c.drawMode
  | .recreateAll => r.recreated c
  | .keep => r

/-- Whether a call gets to its per-frame copies. -/
def reachesFrame (r : Renderer F) (c : RenderCall D F) : Bool :=
  !r.initFailed && !c.fault.any (r.preparation c).stops && c.fault != some .updateIBL

/-- A state a failed recreation can leave: uninitialised, and nothing live that was not live
before. -/
structure Stopped (r r' : Renderer F) : Prop where
  device : r'.device = r.device
  initialized : r'.initialized = false
  currentTargetSize : r'.currentTargetSize = (0, 0)
  pipelines : (∀ name, r'.pipelines name = none) ∨
    r.initialized = false ∧ r'.pipelines = r.pipelines
  gpu : (∀ kind, r'.gpu kind = ⟨none, none⟩) ∨ r.initialized = false ∧ r'.gpu = r.gpu

omit [Scalar F] [Rounding D F] in
/-- A call that fails has stopped. -/
theorem Stopped.of_fail {r r' : Renderer F} (h : r'.device = r.device) : Stopped r r'.fail :=
  ⟨h, rfl, rfl, .inl fun _ => rfl, .inl fun _ => rfl⟩

omit [Scalar F] [Rounding D F] in
/-- No release changes the device. -/
theorem release_device (r : Renderer F) : r.release.device = r.device := by
  rw [release]
  split <;> rfl

/-- The stages of a full recreation build `recreated`. -/
theorem recreated_eq (r : Renderer F) (c : RenderCall D F) :
    r.recreated c =
      let released := { r.release with currentDrawMode := c.drawMode }
      let buffers := { released.createPipelines opaquePipelines with
        materialBuffer := some (gpuMaterials c.materials),
        lightBuffer := some (gpuLights c.lights) }
      { buffers.createPipelines remainingPipelines with
        initialized := true, currentTargetSize := r.release.clampSize c.targetSize } := by
  cases hinit : r.initialized
  all_goals
    refine Renderer.ext ?_ ?_ rfl ?_ rfl (funext fun name => by cases name <;> rfl) rfl rfl ?_
    all_goals simp [recreated, release, createPipelines, cleanup, clampSize, hinit]

/-- A full recreation that meets no failure. -/
theorem recreateAll_ok (r : Renderer F) (c : RenderCall D F)
    (h : c.fault.any Preparation.recreateAll.stops = false) :
    r.recreateAll c = .ok (r.recreated c) := by
  rw [recreated_eq]
  obtain ⟨size, materials, lights, mode, remesh, big, fault⟩ := c
  rcases fault with _ | point
  · rfl
  · cases point
    all_goals first
      | rfl
      | exact absurd h (by simp [Preparation.stops])

/-- A full recreation that fails. -/
theorem recreateAll_error (r : Renderer F) (c : RenderCall D F)
    (h : c.fault.any Preparation.recreateAll.stops) :
    ∃ r', r.recreateAll c = .error r' ∧ Stopped r r' := by
  obtain ⟨size, materials, lights, mode, remesh, big, fault⟩ := c
  obtain ⟨point, rfl, hpoint⟩ : ∃ point, fault = some point ∧
      Preparation.recreateAll.stops point := by
    simpa [Option.any_eq_true] using h
  cases point
  case attachmentsOOM =>
    refine ⟨_, rfl, release_device r, rfl, rfl, ?_, ?_⟩
    all_goals cases hinit : r.initialized
    all_goals simp [release, cleanup, hinit]
  all_goals first
    | exact ⟨_, rfl, .of_fail (release_device r)⟩
    | exact absurd hpoint (by simp [Preparation.stops])

/-- **Inversion lemma of the recreation stage**: a call that no fault stops continues from
`prepared`. -/
theorem prepare_ok (r : Renderer F) (c : RenderCall D F)
    (h : c.fault.any (r.preparation c).stops = false) : r.prepare c = .ok (r.prepared c) := by
  rw [prepare, prepared]
  cases hprep : r.preparation c with
  | recreatePipelines =>
    rw [hprep] at h
    rcases hfault : c.fault with _ | point
    · rfl
    · cases point
      case recreatePipeline => simp [hfault, Preparation.stops] at h
      all_goals rfl
  | recreateAll => exact recreateAll_ok r c (hprep ▸ h)
  | keep => rfl

/-- A call that a fault stops in its recreation stage leaves the renderer uninitialised. -/
theorem prepare_error (r : Renderer F) (c : RenderCall D F)
    (h : c.fault.any (r.preparation c).stops) :
    ∃ r', r.prepare c = .error r' ∧ Stopped r r' := by
  rw [prepare]
  cases hprep : r.preparation c with
  | recreatePipelines =>
    obtain ⟨point, hfault, hpoint⟩ : ∃ point, c.fault = some point ∧
        Preparation.recreatePipelines.stops point := by
      simpa [hprep, Option.any_eq_true] using h
    cases point
    case recreatePipeline k =>
      rw [hfault]
      exact ⟨_, rfl, .of_fail rfl⟩
    all_goals exact absurd hpoint (by simp [Preparation.stops])
  | recreateAll => exact recreateAll_error r c (hprep ▸ h)
  | keep =>
    obtain ⟨point, -, hpoint⟩ : ∃ point, c.fault = some point ∧
        Preparation.keep.stops point := by
      simpa [hprep, Option.any_eq_true] using h
    exact absurd hpoint (by simp [Preparation.stops])

/-- Nor does any preparation. -/
@[simp] theorem prepared_device (r : Renderer F) (c : RenderCall D F) :
    (r.prepared c).device = r.device := by
  rw [prepared]
  cases r.preparation c <;> rfl

/-- Whatever is recreated, a frame is drawn under the call's draw mode. -/
theorem prepared_currentDrawMode (r : Renderer F) (c : RenderCall D F) :
    (r.prepared c).currentDrawMode = c.drawMode := by
  rw [prepared]
  cases hprep : r.preparation c with
  | recreatePipelines => rfl
  | recreateAll => rfl
  | keep =>
    simp only [preparation] at hprep
    split_ifs at hprep with hlight hall
    push Not at hlight hall
    by_contra hmode
    exact hlight (Ne.symm hmode) hall.1

end Prepare

/-! ### Recording -/

/-- `s` is `r` up to its vertex and index buffers. -/
def SameResources (r s : Renderer F) : Prop := ∃ gpu, s = { r with gpu := gpu }

theorem SameResources.refl (r : Renderer F) : SameResources r r := ⟨r.gpu, rfl⟩

/-- Calls one after the other leave the resources alone if each does. -/
theorem SameResources.trans {r s t : Renderer F} (hrs : SameResources r s)
    (hst : SameResources s t) : SameResources r t := by
  obtain ⟨gpu, rfl⟩ := hrs
  obtain ⟨gpu', rfl⟩ := hst
  exact ⟨gpu', rfl⟩

/-- What a failure leaves does not depend on the geometry uploaded before it. -/
theorem SameResources.fail_eq {r s : Renderer F} (h : SameResources r s) : s.fail = r.fail := by
  obtain ⟨gpu, rfl⟩ := h
  rfl

/-- An upload changes one buffer of vertices and nothing else. -/
theorem sameResources_uploadBuffer (r : Renderer F) (copied remesh : Bool) (kind : BufferKind)
    (buffer : VertexBuffer F) : SameResources r (r.uploadBuffer copied remesh kind buffer) := by
  rw [uploadBuffer]
  split_ifs
  · exact ⟨_, rfl⟩
  · exact .refl r

/-- Recording a buffer changes the GPU buffers of the renderer at most. -/
theorem sameResources_drawBuffer (pass : Pass) (copied remesh : Bool) (fault : Option FaultPoint)
    (st : Recording F) (kind : BufferKind) :
    SameResources st.renderer (st.drawBuffer pass copied remesh fault kind).renderer := by
  simp only [Recording.drawBuffer]
  split_ifs
  · exact .refl _
  · exact .refl _
  · exact .refl _
  · exact sameResources_uploadBuffer _ _ _ _ _

/-- Recording several buffers changes the GPU buffers at most. -/
theorem sameResources_foldl (pass : Pass) (copied remesh : Bool) (fault : Option FaultPoint)
    (kinds : List BufferKind) (st : Recording F) :
    SameResources st.renderer
      (kinds.foldl (Recording.drawBuffer pass copied remesh fault) st).renderer := by
  induction kinds generalizing st with
  | nil => exact .refl _
  | cons kind kinds ih =>
    exact (sameResources_drawBuffer pass copied remesh fault st kind).trans (ih _)

/-- Nor does the main pass change more. -/
theorem sameResources_mainDraws (c : RenderCall D F) (isOpaque copied : Bool) (st : Recording F) :
    SameResources st.renderer (st.mainDraws c isOpaque copied).renderer := by
  have hop := sameResources_foldl (.main isOpaque) copied c.remesh c.fault opaqueKinds st
  cases isOpaque with
  | true => exact hop
  | false =>
    have htransparent := hop.trans
      (sameResources_drawBuffer (.main false) true c.remesh c.fault _ .transparent)
    simp only [Recording.mainDraws, Recording.bindBlend, Bool.false_eq_true, if_false]
    split_ifs <;> exact htransparent

/-- **Inversion lemma of the recording stage**: a frame that completes changes GPU buffers at
most; one that does not leaves the failed renderer. -/
theorem drawFrame_fst (r : Renderer F) (cpu : Buffers F) (c : RenderCall D F) :
    SameResources r (r.drawFrame cpu c).1 ∧ (r.drawFrame cpu c).2.2.completed = true ∨
      (r.drawFrame cpu c).1 = r.fail ∧ (r.drawFrame cpu c).2.2.completed = false := by
  have hmain : ∀ isOpaque copied announced pushed (st : Recording F),
      SameResources r st.renderer →
        let out := mainPass c isOpaque copied announced pushed st
        SameResources r out.1 ∧ out.2.2.completed = true ∨
          out.1 = r.fail ∧ out.2.2.completed = false := by
    intro isOpaque copied announced pushed st hst
    have hdraws := hst.trans (sameResources_mainDraws c isOpaque copied st)
    simp only [mainPass]
    split_ifs
    · exact .inr ⟨hst.fail_eq, rfl⟩
    · exact .inl ⟨hdraws, rfl⟩
    · exact .inr ⟨hdraws.fail_eq, rfl⟩
  have hcount : SameResources r (Recording.countDraws c ⟨r, cpu, [], [], true⟩).renderer :=
    sameResources_foldl _ _ _ _ _ _
  simp only [drawFrame]
  split_ifs
  · exact hmain _ _ _ _ _ (.refl r)
  · exact .inr ⟨rfl, rfl⟩
  · exact .inr ⟨hcount.fail_eq, rfl⟩
  · exact hmain _ _ _ _ _ hcount

/-- Whether a frame gets to its push constants: in the main pass of an opaque frame, in the count
pass of a translucent one. -/
def pushes (cpu : Buffers F) (c : RenderCall D F) : Bool :=
  if (cpu .transparent).data.indices.isEmpty then c.fault != some .mainBegin
  else c.fault != some .refresh

/-- The number of lights the push constants of a frame announce. -/
theorem drawFrame_announced (r : Renderer F) (cpu : Buffers F) (c : RenderCall D F) :
    (r.drawFrame cpu c).2.2.announced =
      if pushes cpu c then some (r.announcedLights c) else none := by
  simp only [drawFrame, pushes, mainPass]
  split_ifs <;> simp_all [FrameTrace.blank]

/-! ### The whole call -/

variable [Scalar F] [Rounding D F]

/-- A call that reaches its frame draws it from `prepared`, after the per-frame copies. -/
theorem render_of_reachesFrame {r : Renderer F} {c : RenderCall D F} (h : r.reachesFrame c)
    (cpu : Buffers F) :
    let out := ((r.prepared c).copyFrameData c).drawFrame cpu c
    r.render cpu c =
      (out.1, out.2.1, { out.2.2 with materialCopy := (r.prepared c).materialCopy c }) := by
  simp only [reachesFrame, Bool.and_eq_true, Bool.not_eq_true', bne_iff_ne, ne_eq] at h
  obtain ⟨⟨hinit, hstops⟩, hibl⟩ := h
  simp only [render, hinit, prepare_ok r c hstops, hibl, Bool.false_eq_true, if_false]

/-- A call that does not reach its frame draws nothing; unless its device never came up, it leaves
the renderer uninitialised. -/
theorem render_of_not_reachesFrame {r : Renderer F} {c : RenderCall D F}
    (h : r.reachesFrame c = false) (cpu : Buffers F) :
    (r.render cpu c).2 = (cpu, .blank) ∧
      (r.initFailed = true ∧ (r.render cpu c).1 = r ∨ Stopped r (r.render cpu c).1) := by
  cases hinit : r.initFailed with
  | true => simp [render, hinit]
  | false =>
    cases hstops : c.fault.any (r.preparation c).stops with
    | true =>
      obtain ⟨r', hr', hstopped⟩ := prepare_error r c hstops
      simp only [render, hinit, hr', Bool.false_eq_true, if_false, true_and]
      exact .inr hstopped
    | false =>
      have hibl : c.fault = some .updateIBL := by
        simpa [reachesFrame, hinit, hstops] using h
      simp only [render, hinit, prepare_ok r c hstops, hibl, Bool.false_eq_true, if_false, if_true,
        true_and]
      exact .inr (.of_fail (prepared_device r c))

end Renderer

end OkularV3d
