import OkularV3d.Manager.DrawMode
import OkularV3d.Render.IBLImages
import OkularV3d.Render.MappedBuffers
import OkularV3d.Scene.IndexBuffers

/-!
# What the frame of a renderer shows

A `HeadlessRenderer` draws the frames of all models of its document, and keeps much of one frame for
the next: the vertex and index buffers on the GPU, the pipelines, the mapped material and light
buffers, and the environment images. A frame shows what is in them when it is drawn, so it need not
be a function of the model it is drawn for.

The **picture** of a call is everything of this that its shaders read: the push constants, the
pipelines it binds, the vertices every draw fetches, the materials, the lights announced and the
environment images. `IBLRenderer.picture` reads it off the renderer as the call leaves it;
`IBLRenderer.shown` says what it is to be, from the geometry and the arguments of the call alone.

* `RecordedFrame`, `render_recorded`: a call that returns an image has recorded the draws of
  `drawOrder`, in this order, whatever the renderer was like before.
* `render_completed`: a call in which nothing fails returns an image.
* `materialBuffer_render`: where a call finds a material buffer of the right size, it leaves its own
  materials in it and nothing else.
* `IBLRenderer.LoadedFrom`: the live images have been decoded from files of given contents.
* `IBLRenderer.Clean`: a call finds everything in its place. This is the meeting point of the
  results about each of the parts: the upload gate (`Draw.Exact`), the pipelines (`Built`), the
  mapped buffers (`MaterialsInPlace`, `LightsInPlace`), the images (`ImagesLoad`) and the indices
  (`InBounds`).
* `IBLRenderer.picture_eq`: **nothing left over shows** in a clean call.

The matrices are not part of a picture. `render()` writes the uniform buffer whenever a matrix
differs from the ones last written, and forgets those when it creates a new buffer.
-/

namespace OkularV3d

open Renderer

variable {D F : Type}

/-! ### The vertices a draw fetches -/

/-- The vertices some geometry names, in the order of its indices. -/
def VertexData.fetched (data : VertexData F) (kind : BufferKind) : List (Option (Vertex F)) :=
  data.indices.map fun i => (data.vdata kind)[i.toNat]?

/-- The vertices a draw fetches from the GPU buffers it has bound. -/
def Draw.fetched (draw : Draw F) : List (Option (Vertex F)) :=
  ((draw.bound.indices.getD []).take draw.indexCount).map fun i =>
    (draw.bound.vertices.getD [])[i.toNat]?

/-- The vertices of a buffer are as many as it counts. -/
theorem VertexData.length_vdata (data : VertexData F) (kind : BufferKind) :
    (data.vdata kind).length = data.count kind := by
  cases kind <;> exact List.length_map ..

/-- An exact draw fetches the geometry of its frame, whatever else the GPU buffers hold. -/
theorem Draw.Exact.fetched_eq {draw : Draw F} {cpu : Buffers F} (h : draw.Exact cpu)
    (hbounds : (cpu draw.kind).data.InBounds draw.kind) :
    draw.fetched = (cpu draw.kind).data.fetched draw.kind := by
  obtain ⟨hcount, ⟨vertices, hvertices⟩, hindices⟩ := h
  rw [fetched, VertexData.fetched, hcount, ← List.prefix_iff_eq_take.mp hindices, ← hvertices]
  refine List.map_congr_left fun i hi => List.getElem?_append_left ?_
  rw [VertexData.length_vdata]
  exact hbounds i hi

/-! ### The order of the draws -/

/-- The buffers a pass draws, of those it goes through. -/
def drawnKinds (data : BufferKind → VertexData F) (pass : Pass) (kinds : List BufferKind) :
    List (Pass × BufferKind) :=
  (kinds.filter fun k => !(data k).indices.isEmpty).map fun k => (pass, k)

/-- A pass draws one buffer after the other. -/
theorem drawnKinds_append (data : BufferKind → VertexData F) (pass : Pass)
    (kinds kinds' : List BufferKind) :
    drawnKinds data pass (kinds ++ kinds') =
      drawnKinds data pass kinds ++ drawnKinds data pass kinds' := by
  rw [drawnKinds, drawnKinds, drawnKinds, List.filter_append, List.map_append]

/-- The draws of a frame that completes: opaque geometry is drawn in the main pass only, and
transparent geometry makes the frame count its fragments first. -/
def drawOrder (interlock : Bool) (data : BufferKind → VertexData F) : List (Pass × BufferKind) :=
  if (data .transparent).indices.isEmpty then drawnKinds data (.main true) opaqueKinds
  else
    drawnKinds data .count (countKinds interlock) ++
      drawnKinds data (.main false) (opaqueKinds ++ [.transparent])

/-- Entries as many as the mapping has fill it. -/
theorem MappedBuffer.copy_eq {α : Type} {buffer entries : MappedBuffer α}
    (h : buffer.length = entries.length) : buffer.copy entries = entries := by
  rw [copy, List.take_of_length_le h.ge, List.drop_of_length_le h.le, List.append_nil]

namespace Renderer

/-- The draws recorded so far are those of `order`, each with its pipeline. -/
structure Recorded (data : BufferKind → VertexData F) (order : List (Pass × BufferKind))
    (st : Recording F) : Prop where
  data : ∀ k, (st.buffers k).data = data k
  draws : st.draws.map (fun draw => (draw.kind, draw.pipeline)) =
    order.map fun (pass, k) => (k, pass.pipeline k)
  binds : st.binds.map Prod.fst = order.map fun (pass, k) => pass.pipeline k

variable {data : BufferKind → VertexData F} {order : List (Pass × BufferKind)} {st : Recording F}

/-- **Step lemma**: a buffer is drawn if it has something to draw. -/
theorem Recorded.drawBuffer (h : Recorded data order st) {pass : Pass} {copied remesh : Bool}
    {fault : Option FaultPoint} {kind : BufferKind}
    (hok : (st.drawBuffer pass copied remesh fault kind).ok = true) :
    Recorded data (order ++ drawnKinds data pass [kind])
      (st.drawBuffer pass copied remesh fault kind) := by
  have hst := Recording.ok_of_drawBuffer_ok hok
  have hdata : ∀ k, ((st.drawBuffer pass copied remesh fault kind).buffers k).data = data k :=
    fun k => (Recording.drawBuffer_data k).trans (h.data k)
  by_cases hempty : (data kind).indices.isEmpty = true
  · have hnone : drawnKinds data pass [kind] = [] := by simp [drawnKinds, hempty]
    rw [hnone, List.append_nil]
    refine ⟨hdata, ?_, ?_⟩
    · simpa [Recording.drawBuffer, hst, h.data, hempty] using h.draws
    · simpa [Recording.drawBuffer, hst, h.data, hempty] using h.binds
  · have hone : drawnKinds data pass [kind] = [(pass, kind)] := by simp [drawnKinds, hempty]
    have hfault : fault ≠ some (pass.uploadFault kind) := by
      rintro rfl
      simp [Recording.drawBuffer, hst, h.data, hempty] at hok
    rw [hone]
    refine ⟨hdata, ?_, ?_⟩
    · simp [Recording.drawBuffer, hst, h.data, hempty, hfault, h.draws]
    · simp [Recording.drawBuffer, hst, h.data, hempty, hfault, h.binds]

/-- **Run lemma** of a pass. -/
theorem Recorded.foldl (h : Recorded data order st) {pass : Pass} {copied remesh : Bool}
    {fault : Option FaultPoint} {kinds : List BufferKind}
    (hok : (kinds.foldl (Recording.drawBuffer pass copied remesh fault) st).ok = true) :
    Recorded data (order ++ drawnKinds data pass kinds)
      (kinds.foldl (Recording.drawBuffer pass copied remesh fault) st) := by
  induction kinds generalizing st order with
  | nil => simpa [drawnKinds] using h
  | cons kind kinds ih =>
    have hfirst := h.drawBuffer (Recording.ok_of_foldl_ok hok)
    rw [← List.singleton_append, drawnKinds_append, ← List.append_assoc]
    exact ih hfirst hok

theorem Recording.ok_bindBlend (big : Bool) : (st.bindBlend big).ok = st.ok := by
  simp only [Recording.bindBlend]
  split_ifs <;> rfl

/-- The quad that blends is drawn with the pipeline of its size. -/
theorem Recording.bindBlend_of_ok (hok : st.ok = true) (big : Bool) :
    let quad : PipelineName := if big then .blendBig else .blend
    st.bindBlend big = { st with binds := st.binds ++ [(quad, st.renderer.pipelines quad)] } := by
  simp only [Recording.bindBlend, hok, if_true]

/-- The blend quad of a frame with transparent geometry. -/
def blendQuad (isOpaque big : Bool) : List PipelineName :=
  if isOpaque then [] else [if big then .blendBig else .blend]

/-- A frame that completes has recorded the draws of `order`, the blend quad, and its number of
lights. -/
structure RecordedFrame (order : List (Pass × BufferKind)) (quad : List PipelineName)
    (lights : Nat) (trace : FrameTrace F) : Prop where
  draws : trace.draws.map (fun draw => (draw.kind, draw.pipeline)) =
    order.map fun (pass, k) => (k, pass.pipeline k)
  binds : trace.binds.map Prod.fst = order.map (fun (pass, k) => pass.pipeline k) ++ quad
  announced : trace.announced = some lights

/-- The main pass, from a recording that may hold a count pass. -/
theorem Recorded.mainPass (h : Recorded data order st) {c : RenderCall D F}
    {isOpaque copied : Bool} {announced : Nat} {pushed : Option Nat}
    (hcompleted : (mainPass c isOpaque copied announced pushed st).2.2.completed = true) :
    RecordedFrame
      (order ++ drawnKinds data (.main isOpaque)
        (opaqueKinds ++ if isOpaque then [] else [.transparent]))
      (blendQuad isOpaque c.blendBig) announced
      (mainPass c isOpaque copied announced pushed st).2.2 := by
  have hdone : (st.mainDraws c isOpaque copied).ok = true ∧
      (Renderer.mainPass c isOpaque copied announced pushed st).2.2 =
        ⟨none, (st.mainDraws c isOpaque copied).binds, (st.mainDraws c isOpaque copied).draws,
          some announced, true⟩ := by
    simp only [Renderer.mainPass] at hcompleted ⊢
    split_ifs at hcompleted ⊢ with hbegin hok
    exact ⟨(Bool.and_eq_true_iff.mp hok).1, rfl⟩
  obtain ⟨hok, htrace⟩ := hdone
  rw [htrace, drawnKinds_append, ← List.append_assoc]
  cases isOpaque with
  | true =>
    have hdrawn := h.foldl (show (opaqueKinds.foldl
      (Recording.drawBuffer (.main true) copied c.remesh c.fault) st).ok = true from hok)
    have hrest : drawnKinds data (.main true)
      (if true then [] else [BufferKind.transparent]) = [] :=
      rfl
    rw [hrest, List.append_nil]
    exact ⟨hdrawn.draws, hdrawn.binds.trans (List.append_nil _).symm, rfl⟩
  | false =>
    -- the transparent geometry comes last, and the blend quad after it
    have hquad : st.mainDraws c false copied = Recording.bindBlend c.blendBig
        ((opaqueKinds.foldl (Recording.drawBuffer (.main false) copied c.remesh c.fault)
          st).drawBuffer (.main false) true c.remesh c.fault .transparent) := rfl
    rw [hquad, Recording.ok_bindBlend] at hok
    have hdrawn := (h.foldl (Recording.ok_of_drawBuffer_ok hok)).drawBuffer hok
    rw [hquad, Recording.bindBlend_of_ok hok]
    refine ⟨hdrawn.draws, ?_, rfl⟩
    rw [List.map_append, hdrawn.binds]
    rfl

/-- **What a frame that completes has recorded**, whatever the frames before have left behind. -/
theorem drawFrame_recorded (r : Renderer F) (cpu : Buffers F) (c : RenderCall D F)
    (h : (r.drawFrame cpu c).2.2.completed = true) :
    let data := fun k => (cpu k).data
    RecordedFrame (drawOrder r.device.interlock data)
      (blendQuad (data .transparent).indices.isEmpty c.blendBig) (r.announcedLights c)
      (r.drawFrame cpu c).2.2 := by
  intro data
  have hstart : Recorded data [] ⟨r, cpu, [], [], true⟩ := ⟨fun _ => rfl, rfl, rfl⟩
  by_cases hopaque : (data .transparent).indices.isEmpty = true
  · have hmain : r.drawFrame cpu c = mainPass c true false (r.announcedLights c) none
        ⟨r, cpu, [], [], true⟩ := if_pos hopaque
    rw [hmain] at h ⊢
    simpa [drawOrder, hopaque] using hstart.mainPass h
  · have hcount : (Recording.countDraws c ⟨r, cpu, [], [], true⟩).ok = true ∧
        r.drawFrame cpu c = mainPass c false (!r.device.interlock) (r.announcedLights c)
          (some (r.announcedLights c)) (Recording.countDraws c ⟨r, cpu, [], [], true⟩) := by
      have hnot : (cpu .transparent).data.indices.isEmpty = false := by simpa using hopaque
      simp only [drawFrame, hnot, Bool.false_eq_true, if_false] at h ⊢
      split_ifs at h ⊢ with hrefresh hstop
      · exact absurd h (by simp [FrameTrace.blank])
      · simp only [Bool.or_eq_true, not_or] at hstop
        exact ⟨by simpa using hstop.1.1, rfl⟩
    obtain ⟨hok, hmain⟩ := hcount
    rw [hmain] at h ⊢
    have hcounted : Recorded data (drawnKinds data .count (countKinds r.device.interlock))
        (Recording.countDraws c ⟨r, cpu, [], [], true⟩) := hstart.foldl hok
    have hdrawn := hcounted.mainPass h
    simpa [drawOrder, hopaque] using hdrawn

/-! ### Frames without failures -/

/-- A draw without a failure lets the recording go on. -/
theorem Recording.ok_drawBuffer {pass : Pass} {copied remesh : Bool} {kind : BufferKind} :
    (st.drawBuffer pass copied remesh none kind).ok = st.ok := by
  simp only [Recording.drawBuffer]
  split_ifs <;> simp_all

theorem Recording.ok_foldl {pass : Pass} {copied remesh : Bool} (kinds : List BufferKind) :
    (kinds.foldl (Recording.drawBuffer pass copied remesh none) st).ok = st.ok := by
  induction kinds generalizing st with
  | nil => rfl
  | cons kind kinds ih => exact ih.trans Recording.ok_drawBuffer

/-- A frame in which no call fails completes. -/
theorem drawFrame_completed (r : Renderer F) (cpu : Buffers F) {c : RenderCall D F}
    (hfault : c.fault = none) : (r.drawFrame cpu c).2.2.completed = true := by
  have hmain : ∀ isOpaque copied announced pushed (st : Recording F), st.ok = true →
      (mainPass c isOpaque copied announced pushed st).2.2.completed = true := by
    intro isOpaque copied announced pushed st hok
    have hdraws : (st.mainDraws c isOpaque copied).ok = true := by
      simp only [Recording.mainDraws, hfault]
      split_ifs
      · rw [Recording.ok_foldl, hok]
      · rw [Recording.ok_bindBlend, Recording.ok_drawBuffer, Recording.ok_foldl, hok]
    simp [mainPass, hfault, hdraws]
  have hcount : (Recording.countDraws c ⟨r, cpu, [], [], true⟩).ok = true := by
    simp only [Recording.countDraws, hfault, Recording.ok_foldl]
  by_cases hopaque : (cpu .transparent).data.indices.isEmpty = true
  · rw [show r.drawFrame cpu c = _ from if_pos hopaque]
    exact hmain _ _ _ _ _ rfl
  · simp only [drawFrame, if_neg hopaque, hfault, hcount]
    exact hmain _ _ _ _ _ hcount

section Call

variable [Scalar F] [Rounding D F]

/-- Whatever is recreated, a frame has the size of its call. -/
theorem prepared_currentTargetSize (r : Renderer F) (c : RenderCall D F) :
    (r.prepared c).currentTargetSize = r.clampSize c.targetSize := by
  rw [prepared]
  cases hprep : r.preparation c with
  | recreatePipelines =>
    simp only [preparation] at hprep
    split_ifs at hprep with hlight
    exact hlight.2
  | recreateAll => rfl
  | keep =>
    simp only [preparation] at hprep
    split_ifs at hprep with hlight hall
    push Not at hall
    exact hall.1

/-- A call that completes its frame has reached it. -/
theorem reachesFrame_of_completed {r : Renderer F} {c : RenderCall D F} {cpu : Buffers F}
    (h : (r.render cpu c).2.2.completed = true) : r.reachesFrame c = true := by
  by_contra hnot
  rw [Bool.not_eq_true] at hnot
  rw [(render_of_not_reachesFrame hnot cpu).1] at h
  exact absurd h (by simp [FrameTrace.blank])

/-- A call in which nothing fails returns an image, if the device and the shaders came up. -/
theorem render_completed {r : Renderer F} {c : RenderCall D F} (hinit : r.initFailed = false)
    (hfault : c.fault = none) (cpu : Buffers F) : (r.render cpu c).2.2.completed = true := by
  have hreach : r.reachesFrame c = true := by simp [reachesFrame, hinit, hfault]
  rw [render_of_reachesFrame hreach]
  exact drawFrame_completed _ cpu hfault

/-- **What a call that returns an image has recorded.** -/
theorem render_recorded {r : Renderer F} {c : RenderCall D F} {cpu : Buffers F}
    (h : (r.render cpu c).2.2.completed = true) :
    let data := fun k => (cpu k).data
    RecordedFrame (drawOrder r.device.interlock data)
      (blendQuad (data .transparent).indices.isEmpty c.blendBig) (lightsOf c)
      (r.render cpu c).2.2 := by
  have hreach := reachesFrame_of_completed h
  rw [render_of_reachesFrame hreach] at h ⊢
  have hrecorded := drawFrame_recorded _ cpu c h
  have hdevice : ((r.prepared c).copyFrameData c).device = r.device := by
    rw [copyFrameData]
    split_ifs <;> exact prepared_device r c
  have hlights : ((r.prepared c).copyFrameData c).announcedLights c = lightsOf c := by
    have hmode : ((r.prepared c).copyFrameData c).currentDrawMode = c.drawMode := by
      rw [← prepared_currentDrawMode r c, copyFrameData]
      split_ifs <;> rfl
    simp only [announcedLights, lightsOf, hmode, ite_not]
  rw [hdevice, hlights] at hrecorded
  exact ⟨hrecorded.draws, hrecorded.binds, hrecorded.announced⟩

/-- A call whose material buffer is not created for its frame finds one created for as many
materials. -/
def MaterialsInPlace (r : Renderer F) (c : RenderCall D F) : Prop :=
  r.preparation c ≠ .recreateAll →
    ∀ buffer ∈ r.materialBuffer, buffer.length = max 1 c.materials.length

/-- The material buffer after a call is the one its shaders read, and holds its materials and
nothing else. -/
theorem materialBuffer_render {r : Renderer F} (hr : r.WellFormed) (hmapped : r.HasMappedBuffers)
    {c : RenderCall D F} (hsize : 0 < c.targetSize.1) (hplace : r.MaterialsInPlace c)
    {cpu : Buffers F} (hreach : r.reachesFrame c = true) :
    (r.render cpu c).1.materialBuffer = some (gpuMaterials c.materials) := by
  rw [render_of_reachesFrame hreach]
  have hdrawn := (drawFrame_mapped ((r.prepared c).copyFrameData c) cpu c).1
  dsimp only
  obtain ⟨buffer, -, hbuffer, -⟩ := hmapped.prepared c (prepared_gpu hr hsize).1
  have hlength : buffer.length = (gpuMaterials c.materials).length := by
    rw [length_gpuMaterials]
    cases hprep : r.preparation c with
    | recreateAll =>
      simp only [prepared, hprep, recreated, Option.some.injEq] at hbuffer
      rw [← hbuffer, length_gpuMaterials]
    | recreatePipelines =>
      refine hplace (by simp [hprep]) buffer ?_
      simpa [prepared, hprep, recreateGraphicsPipelines, createPipelines] using hbuffer
    | keep =>
      refine hplace (by simp [hprep]) buffer ?_
      simpa [prepared, hprep] using hbuffer
  rw [hdrawn, copyFrameData, if_pos (prepared_gpu hr hsize).1]
  simp only [hbuffer, Option.map_some, MappedBuffer.copy_eq hlength]

end Call

end Renderer

/-! ### Pictures -/

/-- What a frame shows: everything its shaders read that a renderer keeps from one call to the next.

* `constants`: the push constants.
* `pipelines`: the pipelines bound, in order. (The two blend pipelines sort the same fragments;
  which of them is bound does not show.)
* `draws`: the pipeline of every draw and the vertices it fetches.
* `materials`, `lights`: the material buffer, and the lights announced.
* `images`: the environment images, where the IBL bit is set. -/
structure Picture (F : Type) where
  constants : Option (PushConstants F)
  pipelines : List (Option Pipeline)
  draws : List (PipelineName × List (Option (Vertex F)))
  materials : List (GPUMaterial F)
  lights : List (GPULight F)
  images : Option (IBLImages F)
  deriving DecidableEq

namespace IBLRenderer

variable [Scalar F] [Rounding D F]

/-- The picture of a call. -/
def picture (r : IBLRenderer F) (request : Request D F) : Picture F :=
  let out := r.render request.1 request.2
  let trace := out.2.2
  { constants := trace.constants
    pipelines := trace.frame.binds.map Prod.snd
    draws := trace.frame.draws.map fun draw => (draw.pipeline, draw.fetched)
    materials := out.1.renderer.materialBuffer.getD []
    lights := (out.1.renderer.lightBuffer.getD []).take (trace.frame.announced.getD 0)
    images := if trace.constants.any (·.ibl) then trace.bound else none }

/-- The picture a call is to have: the geometry `data`, drawn with pipelines of the call's draw
mode, its own materials and lights, and the images of its directory, whose files have `contents`. -/
def shown (device : Device) (contents : Disk F) (data : BufferKind → VertexData F)
    (c : IBLCall D F) : Picture F :=
  let order := drawOrder device.interlock data
  let renderer : Renderer F := (Renderer.init device false).recreated c.toRenderCall
  let quad := blendQuad (data .transparent).indices.isEmpty false
  { constants := some (buildPushConstants renderer c (lightsOf c.toRenderCall))
    pipelines := (order.map (fun (pass, k) => Pass.pipeline pass k) ++ quad).map fun name =>
      some (pipelineFor c.drawMode name)
    draws := order.map fun (pass, k) => (Pass.pipeline pass k, (data k).fetched k)
    materials := gpuMaterials c.materials
    lights := (c.lights.map .ofLight).take (lightsOf c.toRenderCall)
    images := if c.useIBL then initIBL contents c.iblPath else none }

/-- The live images are placeholders, or have been decoded from files with these contents. -/
def LoadedFrom (contents : Disk F) (r : IBLRenderer F) : Prop :=
  ∀ images, r.iblImages = some images →
    images = .placeholders ∨ ∃ iblPath, initIBL contents iblPath = some images

section Loaded

variable {contents : Disk F} {r : IBLRenderer F}

omit [Scalar F] [Rounding D F]

/-- A new renderer has loaded nothing. -/
theorem loadedFrom_init (contents : Disk F) (device : Device) (initFailed : Bool) :
    (init device initFailed : IBLRenderer F).LoadedFrom contents := by
  rintro images ⟨⟩

theorem loadedFrom_destroy (contents : Disk F) (r : IBLRenderer F) :
    r.destroyIBLResources.LoadedFrom contents := by
  rintro images ⟨⟩

/-- Placeholders are not loaded from anywhere. -/
theorem loadedFrom_placeholders (contents : Disk F) (r : IBLRenderer F) :
    r.createIBLPlaceholders.LoadedFrom contents := by
  rintro images ⟨⟩
  exact .inl rfl

/-- What is loaded is what the disk has. -/
theorem loadedFrom_loadIBL (contents : Disk F) (r : IBLRenderer F) (iblPath : ByteString) :
    (r.loadIBL contents iblPath).LoadedFrom contents := by
  rw [loadIBL]
  cases hload : initIBL contents iblPath with
  | none => exact loadedFrom_placeholders contents r
  | some loaded =>
    rintro images ⟨⟩
    exact .inr ⟨iblPath, hload⟩

theorem LoadedFrom.release (h : r.LoadedFrom contents) : r.release.LoadedFrom contents := by
  rw [IBLRenderer.release]
  split_ifs
  · exact loadedFrom_destroy contents r
  · exact h

variable {c : IBLCall D F}

/-- So is what a full recreation loads, from the disk as it is then. -/
theorem loadedFrom_recreateIBL (hdisk : c.diskAtRecreation = contents) :
    (r.recreateIBL c).LoadedFrom contents := by
  rw [recreateIBL, hdisk]
  split_ifs
  · exact loadedFrom_loadIBL contents _ _
  · exact loadedFrom_placeholders contents _

/-- The preparation of a frame keeps what was loaded, or loads anew. -/
theorem LoadedFrom.prepareIBL (h : r.LoadedFrom contents) (hdisk : c.diskAtRecreation = contents) :
    (r.prepareIBL c).LoadedFrom contents := by
  rw [IBLRenderer.prepareIBL]
  cases r.renderer.preparation c.toRenderCall with
  | recreateAll => exact loadedFrom_recreateIBL hdisk
  | recreatePipelines => exact h
  | keep => exact h

theorem LoadedFrom.stopIBL (h : r.LoadedFrom contents) : (r.stopIBL c).LoadedFrom contents := by
  rw [IBLRenderer.stopIBL]
  cases r.renderer.preparation c.toRenderCall with
  | recreateAll =>
    dsimp only
    split_ifs
    · exact h.release
    · exact loadedFrom_destroy contents _
    · exact loadedFrom_destroy contents _
  | recreatePipelines => exact loadedFrom_destroy contents r
  | keep => exact loadedFrom_destroy contents r

/-- So does the update in a frame. -/
theorem LoadedFrom.updateIBL (h : r.LoadedFrom contents) (hdisk : c.diskAtUpdate = contents) :
    (r.updateIBL c).LoadedFrom contents := by
  rw [IBLRenderer.updateIBL, hdisk]
  split_ifs
  · exact h
  · exact h
  · exact loadedFrom_loadIBL contents _ _

end Loaded

/-- **Every call keeps the images loaded from the same files**, whatever fails in it. -/
theorem LoadedFrom.call {contents : Disk F} {r : IBLRenderer F} (h : r.LoadedFrom contents)
    {request : Request D F} (hrecreation : request.2.diskAtRecreation = contents)
    (hupdate : request.2.diskAtUpdate = contents) : (r.call request).LoadedFrom contents := by
  have hdrawn := (h.prepareIBL hrecreation).updateIBL hupdate
  simp only [IBLRenderer.call, render]
  split_ifs
  · exact h
  · exact h.stopIBL
  · exact loadedFrom_destroy contents (r.prepareIBL request.2)
  · exact hdrawn
  · exact loadedFrom_destroy contents ((r.prepareIBL request.2).updateIBL request.2)

/-- **Nothing left over shows**: the renderer is in order, and a call finds its pipelines, its
material and light buffers and its environment images as its own frame needs them. -/
structure Clean (contents : Disk F) (r : IBLRenderer F) (request : Request D F) : Prop where
  wellFormed : r.renderer.WellFormed
  mapped : r.renderer.HasMappedBuffers
  coherent : r.Coherent
  loaded : r.LoadedFrom contents
  size : 0 < request.2.targetSize.1
  noPipelines : r.renderer.initialized = false → r.renderer.NoPipelines
  built : r.renderer.Built ∨
    r.renderer.currentTargetSize ≠ r.renderer.clampSize request.2.targetSize
  materials : r.renderer.MaterialsInPlace request.2.toRenderCall
  lights : r.renderer.LightsInPlace (request.1, request.2.toRenderCall)
  images : r.ImagesLoad request
  contents : request.2.diskAtRecreation = contents ∧ request.2.diskAtUpdate = contents
  exact : ∀ draw ∈ (r.renderer.render request.1 request.2.toRenderCall).2.2.draws,
    draw.Exact request.1
  inBounds : ∀ k, (request.1 k).data.InBounds k

/-- A call that returns an image, with its environment images. -/
theorem render_of_completed {r : IBLRenderer F} {cpu : Buffers F} {c : IBLCall D F}
    (h : (r.renderer.render cpu c.toRenderCall).2.2.completed = true) :
    let out := r.renderer.render cpu c.toRenderCall
    r.render cpu c = ({ r.drawnIBL c with renderer := out.1 }, out.2.1,
      ⟨out.2.2, out.2.2.announced.map (buildPushConstants (r.renderer.prepared c.toRenderCall) c),
        (r.drawnIBL c).iblImages, (r.drawnIBL c).descriptors⟩) := by
  have hreach := reachesFrame_of_completed h
  simp only [Renderer.reachesFrame, Bool.and_eq_true, Bool.not_eq_true',
    bne_iff_ne, ne_eq] at hreach
  obtain ⟨⟨hinit, hstops⟩, hibl⟩ := hreach
  simp only [render, h, hinit, hstops, hibl, Bool.false_eq_true, if_false, if_true]
  rfl

/-- **A frame shows what it is to show**, whatever was drawn before: the picture of a call that
returns an image depends on its own geometry and arguments alone. -/
theorem picture_eq {contents : Disk F} {r : IBLRenderer F} {cpu : Buffers F} {c : IBLCall D F}
    (h : r.Clean contents (cpu, c))
    (hcompleted : (r.renderer.render cpu c.toRenderCall).2.2.completed = true) :
    r.picture (cpu, c) = shown r.renderer.device contents (fun k => (cpu k).data) c := by
  have hreach := reachesFrame_of_completed hcompleted
  have hrecorded := render_recorded hcompleted
  have hrender := render_of_completed (r := r) hcompleted
  set frame := (r.renderer.render cpu c.toRenderCall).2.2 with hframe
  have hconstants : frame.announced.map
      (buildPushConstants (r.renderer.prepared c.toRenderCall) c) =
        some (buildPushConstants ((Renderer.init r.renderer.device false).recreated c.toRenderCall)
          c (lightsOf c.toRenderCall)) := by
    rw [hrecorded.announced, Option.map_some]
    simp only [buildPushConstants, prepared_currentTargetSize]
    rfl
  have hpipelines : frame.binds.map Prod.snd =
      (frame.binds.map Prod.fst).map fun name => some (pipelineFor c.drawMode name) := by
    rw [List.map_map]
    exact List.map_congr_left fun bind hbind =>
      (render_built h.wellFormed h.size h.noPipelines h.built cpu).2 bind hbind
  have hdraws : frame.draws.map (fun draw => (draw.pipeline, draw.fetched)) =
      (frame.draws.map fun draw => (draw.kind, draw.pipeline)).map fun (k, name) =>
        (name, ((cpu k).data).fetched k) := by
    rw [List.map_map]
    exact List.map_congr_left fun draw hdraw =>
      Prod.ext rfl ((h.exact draw hdraw).fetched_eq (h.inBounds draw.kind))
  have hmaterials : (r.renderer.render cpu c.toRenderCall).1.materialBuffer =
      some (gpuMaterials c.materials) :=
    materialBuffer_render h.wellFormed h.mapped h.size h.materials hreach
  have hlights := ((lightsAgree_iff h.mapped (cpu, c.toRenderCall)).mpr h.lights
    (lightsOf c.toRenderCall) hrecorded.announced).2
  have himages : (if c.useIBL then (r.drawnIBL c).descriptors else none) =
      if c.useIBL then initIBL contents c.iblPath else none := by
    split_ifs with huse
    · have hagree := (bindingsAgree_iff h.coherent (cpu, c)).mpr h.images
      have hannounced : (r.renderer.render cpu c.toRenderCall).2.2.announced =
          some (lightsOf c.toRenderCall) := hrecorded.announced
      simp only [BindingsAgree, hrender, hannounced, Option.map_some, Option.some.injEq,
        forall_eq', ibl_buildPushConstants, huse, forall_const] at hagree
      obtain ⟨images, hlive, hbound, hdecoded⟩ := hagree
      rw [hbound]
      -- what is live has been decoded from this directory, and from files with these contents
      have hloaded := (h.loaded.prepareIBL h.contents.1).updateIBL h.contents.2
      rcases hloaded images hlive with rfl | ⟨iblPath, hload⟩
      · exact absurd hdecoded (not_decodedFrom_placeholders _)
      · rw [hdecoded.unique ⟨contents, hload⟩, hload]
    · rfl
  rw [picture, hrender]
  dsimp only
  rw [hconstants, hpipelines, hdraws, hrecorded.announced, hrecorded.binds, hrecorded.draws]
  simp only [shown, Option.getD_some, Option.any_some, ibl_buildPushConstants, Picture.mk.injEq,
    true_and]
  refine ⟨?_, ?_, ?_, ?_, himages⟩
  · have hquad : ∀ isOpaque big, (blendQuad isOpaque big).map (fun name =>
        some (pipelineFor c.drawMode name)) = (blendQuad isOpaque false).map fun name =>
          some (pipelineFor c.drawMode name) := by
      intro isOpaque big
      cases isOpaque <;> cases big <;> rfl
    rw [List.map_append, List.map_append, hquad]
  · rw [List.map_map]
    rfl
  · rw [hmaterials]
    rfl
  · exact hlights

end IBLRenderer

end OkularV3d
