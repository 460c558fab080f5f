import OkularV3d.Manager.ProcessSteps
import OkularV3d.Manager.RenderSession
import OkularV3d.Scene.Library
import OkularV3d.Scene.QueueAgain

/-!
# Cached images of models

`RenderModel` answers with the cached image of a model while `m_HasChanged` is not set and the image
has the size asked for. The image was drawn from more than that. It was drawn from the projection
for the request size its page had, and with the environment map if its files were on the disk; both
change without the model being told, and the files come and go by the hands of other documents, too.
And it was drawn by a renderer that all models of the document share: with its GPU buffers, its
pipelines, its mapped buffers and its environment images, as the frames before had left them.

`Session.coherent_along` is a condition (`Session.Settled`) on the state before each step under
which every cached image that is returned is the one a fresh render would return in its place.

* `World.DrawnFrom`: an image is the frame of a model, and what the objects of the model keep is
  what this frame has left. Nothing in it refers to the renderer, but for its device.
* `Session.drawn_frame`: a frame that finds everything in its place leaves such an image. The
  picture it shows depends on its own model alone (`IBLRenderer.picture_eq`).
* `Session.frame_again`: a fresh frame of the model shows that image again: its mesh is queued after
  the frame that has queued it (`V3dFile.content_again`), and the picture is a function of the mesh.
* `Session.Sound`: **the invariant**. The process and the environment images are in order, and the
  cached image of every unchanged model is one it was drawn from. Whatever marks a model makes its
  image dispensable, and no step touches the mesh of a model it does not mark.
* `Session.Sound.coherent`: one answer.
-/

namespace OkularV3d

open Runs

namespace ImageCache

open Jagged

/-- The environment images of a renderer are in order. -/
def EnvironmentImages.InOrder {F : Type} (contents : Disk F) (e : EnvironmentImages F) : Prop :=
  ∀ r, (e.renderer r).Coherent ∧ (e.renderer r).LoadedFrom contents

theorem EnvironmentImages.inOrder_init {F : Type} (contents : Disk F) :
    (init : EnvironmentImages F).InOrder contents :=
  fun _ => ⟨⟨nofun, nofun⟩, nofun⟩

theorem EnvironmentImages.inOrder_ofRenderer {F : Type} {contents : Disk F} {r : IBLRenderer F}
    (hr : r.Coherent) (hloaded : r.LoadedFrom contents) : (ofRenderer r).InOrder contents :=
  fun _ => ⟨⟨hr.described, hr.written⟩, hloaded⟩

variable {Doc D F P : Type} [Scalar D] [Scalar F] [Rounding D F]

namespace World

variable {W : World D F P} {device : Device} {key : ModelKey} {gpu : GpuEvents}
  {source : FrameSource D F (Scene D F)} {p : P}

/-- The geometry of a frame of a model. -/
def geometry (W : World D F P) (model : V3dModel D F) (source : FrameSource D F (Scene D F))
    (k : BufferKind) : VertexData F :=
  let ctx := Process.queueContext model (W.request (0, 0) ⟨false, false, none⟩ source)
  content k (model.file.QueueMesh W.tessellation ctx).2.flatten

/-- The image of a frame with a given geometry. -/
def image (W : World D F P) (device : Device) (model : V3dModel D F)
    (source : FrameSource D F (Scene D F)) (geometry : BufferKind → VertexData F) : P :=
  W.paint (W.uniforms source) (IBLRenderer.shown device W.contents geometry
    (W.renderCall model (0, 0) ⟨false, false, none⟩ source))

/-- An image is the frame of the model `before`, and `queued` is that model with its mesh queued. -/
structure DrawnFrom (W : World D F P) (device : Device) (before queued : V3dModel D F)
    (source : FrameSource D F (Scene D F)) (p : P) : Prop where
  drawMode : queued.drawMode = before.drawMode
  file : queued.file = (before.file.QueueMesh W.tessellation
    (Process.queueContext before (W.request (0, 0) ⟨false, false, none⟩ source))).1
  renderable : hasRenderableData (fun k => ⟨W.geometry before source k, 0⟩) = true
  image : p = W.image device before source (W.geometry before source)

namespace DrawnFrom

variable {before queued fresh : V3dModel D F}

/-- The model whose mesh was queued is queued again in the same context, but for `remesh`. -/
theorem queueContext_eq (h : W.DrawnFrom device before queued source p)
    (hfile : fresh.file = queued.file) (hmode : fresh.drawMode = queued.drawMode) :
    Process.queueContext fresh (W.request (0, 0) ⟨false, false, none⟩ source) =
      { Process.queueContext before (W.request (0, 0) ⟨false, false, none⟩ source) with
        remesh := fresh.remesh } := by
  simp only [Process.queueContext, hfile, hmode, h.file, h.drawMode]
  rfl

/-- Its geometry is that of the frame, if it builds no new mesh or the frame has built one. -/
theorem geometry_eq (h : W.DrawnFrom device before queued source p)
    (hfile : fresh.file = queued.file) (hmode : fresh.drawMode = queued.drawMode)
    (hremesh : fresh.remesh = true → before.remesh = true) {last : Mat4 D}
    (hmarks : fresh.remesh = false → ∀ o ∈ fresh.file.objects, o.mismarks W.tessellation last
      (Process.queueContext fresh (W.request (0, 0) ⟨false, false, none⟩ source)) = false) :
    W.geometry fresh source = W.geometry before source := by
  have hctx := h.queueContext_eq hfile hmode
  set ctx := Process.queueContext before (W.request (0, 0) ⟨false, false, none⟩ source)
  have hagain : fresh.remesh = false →
      ∀ o ∈ (before.file.QueueMesh W.tessellation ctx).1.objects,
        o.mismarks W.tessellation last ctx.again = false := by
    intro hnot o ho
    have hmark := hmarks hnot o (by rw [hfile, h.file]; exact ho)
    rwa [hctx, hnot] at hmark
  funext k
  simp only [geometry, hctx, hfile, h.file]
  exact V3dFile.content_again W.tessellation hremesh hagain k

/-- Nor does the rest of its image change. -/
theorem image_eq (h : W.DrawnFrom device before queued source p)
    (hfile : fresh.file = queued.file) (hmode : fresh.drawMode = queued.drawMode)
    (geometry : BufferKind → VertexData F) :
    W.image device fresh source geometry = W.image device before source geometry := by
  simp only [World.image, renderCall, Process.frameCall, hfile, hmode, h.file, h.drawMode]
  rfl

end DrawnFrom

end World

namespace Session

variable [DecidableEq Doc] {W : World D F P} {s : Session Doc D F P} {doc : Doc} {key : ModelKey}
  {gpu : GpuEvents} {source : FrameSource D F (Scene D F)}
  {m : V3dModelManager D F} {r : Renderer F} {model : V3dModel D F}

theorem inOrder_projected (hp : s.process.InOrder W.tessellation) (hT : W.tessellation.InBounds)
    (doc : Doc) (key : ModelKey) : (s.projected W doc key).InOrder W.tessellation :=
  hp.step hT _ trivial trivial trivial

theorem clean_frame (hT : W.tessellation.InBounds) (hp : s.process.InOrder W.tessellation)
    (he : (s.environment doc).InOrder W.contents) (h : s.InPlace W doc key gpu source)
    (hentered : (s.projected W doc key).entered doc (W.request key gpu source) = some (m, r, model))
    (hdata : hasRenderableData ((s.projected W doc key).frameBuffers W.tessellation model
      (W.request key gpu source)) = true) :
    let p := s.projected W doc key
    let request := W.request key gpu source
    let cpu := p.frameBuffers W.tessellation model request
    ((s.environment doc).renderer (p.enterRenderer model request r)).Clean W.contents
      (cpu, W.renderCall (p.consumedModel W.tessellation model request) key gpu source) := by
  intro p request cpu
  have hp' := inOrder_projected hp hT doc key
  obtain ⟨hdoc, hr, hmodel, hsize⟩ := Process.entered_eq_some hentered
  obtain ⟨hwf, hbuilt⟩ := hp'.built doc m r hdoc hr
  obtain ⟨hmaterials, hlights, himages, hcount⟩ := h.found _ hentered hdata
  -- the counters and the last frame's owner decide that what is drawn is what was queued
  have hexact := (hp'.sound.renderLocked hentered h.counters h.ownLast).2
  rw [Process.renderLocked_eq] at hexact
  dsimp only at hexact
  rw [if_neg (by simpa using hdata)] at hexact
  refine
    { wellFormed := Process.wellFormed_enterRenderer hwf
      mapped := ?_
      coherent := (he _).1
      loaded := (he _).2
      size := hsize
      noPipelines := Process.noPipelines_enterRenderer hbuilt
      built := (Process.enterRenderer_safe hbuilt (h.switch _ hentered)).imp id And.right
      materials := hmaterials
      lights := hlights
      images := himages
      contents := ⟨rfl, rfl⟩
      exact := hexact
      inBounds := ?_ }
  · have hmapped := hp'.mapped doc r (Process.renderer?_of_entered hentered)
    change (p.enterRenderer model request r).HasMappedBuffers
    rw [Process.enterRenderer]
    split_ifs <;> exact hmapped
  · -- the triangle buffer is never filled; the others are bounded by what the file has queued
    intro k
    by_cases hk : k = .triangle
    · subst hk
      rw [Process.frameBuffers_triangle hp'.sound.triangle]
      exact VertexData.inBounds_empty _
    · have hfile := hp'.inBounds doc key model (ViewSession.model?_of_entered hentered)
      have hbounds := hfile.indicesInBounds hT
        (Process.queueContext (p.enterModel model request) request)
        p.buffers k hk
      rw [V3dFile.queueInto_eq] at hbounds
      exact hbounds (hcount k)

/-- The geometry a frame draws is that of its model. -/
theorem frameBuffers_geometry (hp : s.process.InOrder W.tessellation)
    (hT : W.tessellation.InBounds) (k : BufferKind) :
    let p := s.projected W doc key
    let request := W.request key gpu source
    (p.frameBuffers W.tessellation model request k).data =
      W.geometry (p.enterModel model request) source k := by
  intro p request
  by_cases hk : k = .triangle
  · subst hk
    rw [Process.frameBuffers_triangle (inOrder_projected hp hT doc key).sound.triangle,
      World.geometry, content, V3dFile.contrib_triangle]
    rfl
  · exact Process.frameBuffers_data W.tessellation p model request hk

/-- **A frame in place shows its model**, if the renderer delivers it. -/
theorem picture_frame (hT : W.tessellation.InBounds) (hp : s.process.InOrder W.tessellation)
    (he : (s.environment doc).InOrder W.contents) (h : s.InPlace W doc key gpu source)
    (hentered : (s.projected W doc key).entered doc (W.request key gpu source) = some (m, r, model))
    (hdata : hasRenderableData ((s.projected W doc key).frameBuffers W.tessellation model
      (W.request key gpu source)) = true)
    (hcompleted : ((s.environment doc).renderer
      ((s.projected W doc key).enterRenderer model (W.request key gpu source) r)).renderer.render
        ((s.projected W doc key).frameBuffers W.tessellation model (W.request key gpu source))
        (W.renderCall ((s.projected W doc key).consumedModel W.tessellation model
          (W.request key gpu source)) key gpu source).toRenderCall |>.2.2.completed = true) :
    let p := s.projected W doc key
    let request := W.request key gpu source
    let cpu := p.frameBuffers W.tessellation model request
    W.paint (W.uniforms source)
      (((s.environment doc).renderer (p.enterRenderer model request r)).picture
      (cpu, W.renderCall (p.consumedModel W.tessellation model request) key gpu source)) =
        W.image r.device (p.enterModel model request) source
          (W.geometry (p.enterModel model request) source) := by
  intro p request cpu
  have hclean := clean_frame hT hp he h hentered hdata
  have hdevice : (p.enterRenderer model request r).device = r.device := by
    rw [Process.enterRenderer]
    split_ifs <;> rfl
  have hgeometry : (fun k => (cpu k).data) = W.geometry (p.enterModel model request) source :=
    funext fun k => frameBuffers_geometry hp hT k
  rw [IBLRenderer.picture_eq hclean hcompleted, hgeometry, World.image, ← hdevice]
  rfl

theorem process_frame (W : World D F P) (s : Session Doc D F P) (doc : Doc) (key : ModelKey)
    (gpu : GpuEvents) (source : FrameSource D F (Scene D F)) :
    (s.frame W doc key gpu source).process =
      (s.projected W doc key).step W.tessellation (.render doc (W.request key gpu source)) := by
  rw [frame]
  split
  · rfl
  · dsimp only
    split_ifs <;> rfl

/-- The frame of a model with something to draw. -/
theorem frame_of_renderable
    (hentered : (s.projected W doc key).entered doc (W.request key gpu source) = some (m, r, model))
    (hdata : hasRenderableData ((s.projected W doc key).frameBuffers W.tessellation model
      (W.request key gpu source)) = true) :
    let p := s.projected W doc key
    let request := W.request key gpu source
    let cpu := p.frameBuffers W.tessellation model request
    let r := (s.environment doc).renderer (p.enterRenderer model request r)
    let c := W.renderCall (p.consumedModel W.tessellation model request) key gpu source
    s.frame W doc key gpu source =
      { process := p.step W.tessellation (.render doc request)
        environment := .ofRenderer (r.render cpu c).1
        shown := some (W.paint (W.uniforms source) (r.picture (cpu, c)))
        delivered := (r.renderer.render cpu c.toRenderCall).2.2.completed
        anew := (p.enterModel model request).remesh } := by
  intro p request cpu r c
  have hframe : (r.render cpu c).2.2.frame = (r.renderer.render cpu c.toRenderCall).2.2 := by
    rw [IBLRenderer.render]
    dsimp only
    split_ifs <;> rfl
  rw [frame, hentered]
  dsimp only
  rw [if_neg (by rw [hdata]; decide)]
  exact congrArg (fun trace : FrameTrace F =>
    (⟨_, _, _, trace.completed, _⟩ : Frame Doc D F P)) hframe

/-- Something is shown where a model is found that has something to draw. -/
theorem exists_of_shown {p : P} (h : (s.frame W doc key gpu source).shown = some p) :
    ∃ m r model,
      (s.projected W doc key).entered doc (W.request key gpu source) = some (m, r, model) ∧
      hasRenderableData ((s.projected W doc key).frameBuffers W.tessellation model
        (W.request key gpu source)) = true := by
  rw [frame] at h
  cases hentered : (s.projected W doc key).entered doc (W.request key gpu source) with
  | none =>
    rw [hentered] at h
    exact nomatch h
  | some found =>
    obtain ⟨m, r, model⟩ := found
    refine ⟨m, r, model, rfl, ?_⟩
    by_contra hdata
    rw [hentered] at h
    dsimp only at h
    rw [if_pos (by simpa using hdata)] at h
    exact nomatch h

/-- **What a delivered frame leaves behind**: the model it was drawn from, with its mesh queued. -/
theorem drawn_frame (hT : W.tessellation.InBounds) (hp : s.process.InOrder W.tessellation)
    (he : (s.environment doc).InOrder W.contents) (h : s.InPlace W doc key gpu source) {p : P}
    (hshown : (s.frame W doc key gpu source).shown = some p)
    (hdelivered : (s.frame W doc key gpu source).delivered = true) :
    ∃ r before queued, (s.frame W doc key gpu source).process.renderer? doc = some r ∧
      (s.frame W doc key gpu source).process.model? doc key = some queued ∧
      before.remesh = (s.frame W doc key gpu source).anew ∧
      W.DrawnFrom r.device before queued source p := by
  obtain ⟨m, r, model, hentered, hdata⟩ := exists_of_shown hshown
  rw [frame_of_renderable hentered hdata] at hshown hdelivered ⊢
  have hpicture := picture_frame hT hp he h hentered hdata hdelivered
  have hgeometry : (fun k => ((s.projected W doc key).frameBuffers W.tessellation model
      (W.request key gpu source) k).data) = W.geometry
        ((s.projected W doc key).enterModel model (W.request key gpu source)) source :=
    funext fun k => frameBuffers_geometry hp hT k
  obtain ⟨hm, -, hmodel, -⟩ := Process.entered_eq_some hentered
  have hdevice : ((s.projected W doc key).framedRenderer W.tessellation r model
      (W.request key gpu source)).device = r.device := by
    rw [Process.framedRenderer, if_neg (by rw [hdata]; decide),
      Renderer.render_device, Process.enterRenderer]
    split_ifs <;> rfl
  obtain ⟨hfile, hmode, -⟩ :=
    (s.projected W doc key).framed_eq W.tessellation r model (W.request key gpu source)
  refine ⟨(s.projected W doc key).framedRenderer W.tessellation r model (W.request key gpu source),
    (s.projected W doc key).enterModel model (W.request key gpu source),
    (s.projected W doc key).framed W.tessellation r model (W.request key gpu source), ?_,
      ?_, rfl, ?_⟩
  · rw [Process.step, Process.RenderModel, hentered]
    exact (Process.renderer?_renderLocked ..).trans (if_pos rfl)
  · rw [Process.step, Process.RenderModel, hentered]
    exact (Process.model?_renderLocked hm hmodel ..).trans (if_pos ⟨rfl, rfl⟩)
  · refine ⟨hmode, hfile, ?_, ?_⟩
    · rw [← hgeometry]
      exact hdata
    · rw [hdevice, ← hpicture]
      exact (Option.some.inj hshown).symm

omit [DecidableEq Doc] [Scalar D] [Scalar F] [Rounding D F] in
/-- What a request finds of a model that has changed. -/
theorem exists_entered {p : Process Doc D F} {request : RenderRequest D}
    (hr : p.renderer? doc = some r) (hmodel : p.model? doc request.key = some model)
    (hchanged : model.hasChanged = true) (hzero : request.zeroCanvas = false)
    (hsize : ¬ (request.imageWidth ≤ 0 ∨ request.imageHeight ≤ 0)) :
    ∃ m, p.entered doc request = some (m, r, model) := by
  simp only [Process.renderer?, Process.model?, Option.bind_eq_some_iff] at hr hmodel
  obtain ⟨m, hm, hr⟩ := hr
  obtain ⟨m', hm', hmodel⟩ := hmodel
  obtain rfl := Option.some.inj (hm.symm.trans hm')
  exact ⟨m, by simp [Process.entered, hm, hr, hmodel, hchanged, hzero, hsize]⟩

/-- **A fresh frame of a model whose image was delivered** shows that image again, if it finds
everything in its place. -/
theorem frame_again (hT : W.tessellation.InBounds) (hp : s.process.InOrder W.tessellation)
    (he : (s.environment doc).InOrder W.contents) (h : s.InPlace W doc key gpu source)
    (hrepeatable : s.Repeatable W doc key gpu source) (hfault : gpu.fault = none)
    (hsize : ¬ (source.imageSize.1 ≤ 0 ∨ source.imageSize.2 ≤ 0))
    {before queued : V3dModel D F} {p : P} (hr : s.process.renderer? doc = some r)
    (hmodel : s.process.model? doc key = some queued)
    (hanew : before.remesh = s.drawnAnew doc key)
    (hdrawn : W.DrawnFrom r.device before queued source p) :
    (s.frame W doc key gpu source).shown = some p ∧
      (s.frame W doc key gpu source).delivered = true := by
  set marked : V3dModel D F :=
    { queued with hasChanged := true, remesh := queued.remesh || false } with hmarked
  have hmodel' : (s.projected W doc key).model? doc key = some marked := by
    rw [projected, Process.step, Process.model?_updateModel, if_pos ⟨rfl, rfl⟩, hmodel]
    rfl
  have hr' : (s.projected W doc key).renderer? doc = some r :=
    (Process.renderer?_updateModel ..).trans hr
  obtain ⟨m, hentered⟩ : ∃ m, (s.projected W doc key).entered doc (W.request key gpu source) =
      some (m, r, marked) := exists_entered hr' hmodel' rfl rfl hsize
  obtain ⟨hinit, hremesh⟩ := hrepeatable _ hentered
  -- the mesh is queued again, after the frame that has queued it
  set fresh := (s.projected W doc key).enterModel marked (W.request key gpu source) with hfresh
  have hmarks : fresh.remesh = false → ∀ o ∈ fresh.file.objects,
      o.mismarks W.tessellation queued.camera.projViewMat
        (Process.queueContext fresh (W.request key gpu source)) = false := by
    intro hnot o ho
    have hmode : marked.drawMode ≠ .outline := by
      intro hmode
      obtain ⟨hm, -, hmarked, -⟩ := Process.entered_eq_some hentered
      have houtline := ((inOrder_projected hp hT doc key).sound.managers doc m hm).outline key
        marked hmarked hmode
      simp [hfresh, Process.enterModel, houtline] at hnot
    exact (h.counters _ hentered hmode).marks o ho
  have hgeometry : W.geometry fresh source = W.geometry before source :=
    hdrawn.geometry_eq rfl rfl (fun hset => hanew.trans (hremesh hset)) hmarks
  have hcpu : (fun k => ((s.projected W doc key).frameBuffers W.tessellation marked
      (W.request key gpu source) k).data) = W.geometry before source :=
    (funext fun k => frameBuffers_geometry hp hT k).trans hgeometry
  have hdata : hasRenderableData ((s.projected W doc key).frameBuffers W.tessellation marked
      (W.request key gpu source)) = true := by
    have hrenderable := hdrawn.renderable
    rw [← hcpu] at hrenderable
    exact hrenderable
  have hinit' : ((s.projected W doc key).enterRenderer marked (W.request key gpu source)
      r).initFailed = false := by
    rw [Process.enterRenderer]
    split_ifs <;> exact hinit
  have hcompleted := Renderer.render_completed (c := (W.renderCall ((s.projected W doc
    key).consumedModel W.tessellation marked (W.request key gpu source)) key gpu
      source).toRenderCall) hinit' hfault
        ((s.projected W doc key).frameBuffers W.tessellation marked
        (W.request key gpu source))
  have hpicture := picture_frame hT hp he h hentered hdata hcompleted
  rw [frame_of_renderable hentered hdata]
  refine ⟨?_, hcompleted⟩
  rw [hdrawn.image, ← hdrawn.image_eq rfl rfl, ← hgeometry]
  exact congrArg some hpicture

/-! ### The invariant of a session -/

/-- An image is a frame of a model, and the mesh of the model is the one queued for this frame. -/
def Shows (W : World D F P) (s : Session Doc D F P) (doc : Doc) (key : ModelKey)
    (model : Model D F (Scene D F)) (image : QImage P) : Prop :=
  ∃ r before queued, s.process.renderer? doc = some r ∧ s.process.model? doc key = some queued ∧
    before.remesh = s.drawnAnew doc key ∧ ∃ size : Int × Int, ∃ p,
      image = some ⟨size.1, size.2, .frame p⟩ ∧
        W.DrawnFrom r.device before queued (Manager.frameSource model size model.drawnWithIBL) p

/-- **The invariant**: the process and the environment images are in order, and the cached image of
every model that has not changed is a frame of it. -/
structure Sound (W : World D F P) (s : Session Doc D F P) : Prop where
  process : s.process.InOrder W.tessellation
  environment : ∀ doc, (s.environment doc).InOrder W.contents
  shaped : ∀ doc, (s.managers doc).Shaped
  current : ∀ doc key model image, index₂ (s.managers doc).models key = some model →
    index₂ (s.managers doc).modelImages key = some image → model.hasChanged = false →
      s.Shows W doc key model image

/-- An image goes on showing its model through every action that does not touch it. -/
theorem Shows.step {s' : Session Doc D F P} {model : Model D F (Scene D F)} {image : QImage P}
    (h : s.Shows W doc key model image) (action : Action Doc D F)
    (htouches : ¬ Process.touches doc key action)
    (hprocess : s'.process = s.process.step W.tessellation action)
    (hanew : s'.drawnAnew doc key = s.drawnAnew doc key) : s'.Shows W doc key model image := by
  obtain ⟨r, before, queued, hr, hqueued, hbefore, size, p, himage, hdrawn⟩ := h
  have hopen : action ≠ .closeDocument doc := by
    rintro rfl
    exact htouches rfl
  obtain ⟨r', hr', hdevice⟩ := Process.exists_renderer_step (T := W.tessellation) action hopen hr
  refine ⟨r', before, queued, by rw [hprocess, hr'],
    ?_, by rw [hanew, hbefore], size, p, himage, ?_⟩
  · rw [hprocess]
    exact Process.model?_step_of_not_touches htouches hqueued
  · rw [hdevice]
    exact hdrawn

variable [ViewScalar D F]

omit [DecidableEq Doc] [ViewScalar D F] in
theorem sound_init : (init : Session Doc D F P).Sound W where
  process := Process.inOrder_init
  environment _ := EnvironmentImages.inOrder_init _
  shaped _ _ := rfl
  current _ _ _ _ h := nomatch h

omit [ViewScalar D F] in
/-- Another manager for a document, whose unchanged models have had their images before. -/
theorem Sound.setManager (hs : s.Sound W) {m : Manager D F (Scene D F) P} (hshaped : m.Shaped)
    (hkept : ∀ key model image, index₂ m.models key = some model →
      index₂ m.modelImages key = some image → model.hasChanged = false →
        index₂ (s.managers doc).models key = some model ∧
          index₂ (s.managers doc).modelImages key = some image) :
    ({ s with managers := Function.update s.managers doc m } : Session Doc D F P).Sound W := by
  have hmanager : ∀ doc', doc' = doc ∧ Function.update s.managers doc m doc' = m ∨
      Function.update s.managers doc m doc' = s.managers doc' := by
    intro doc'
    by_cases hdoc : doc' = doc
    · exact .inl ⟨hdoc, by rw [hdoc, Function.update_self]⟩
    · exact .inr (Function.update_of_ne hdoc ..)
  refine ⟨hs.process, hs.environment, fun doc' => ?_, fun doc' key model image => ?_⟩
  · dsimp only
    rcases hmanager doc' with ⟨-, heq⟩ | heq <;> rw [heq]
    · exact hshaped
    · exact hs.shaped doc'
  · dsimp only
    rcases hmanager doc' with ⟨rfl, heq⟩ | heq <;> rw [heq] <;> intro hmodel himage hfresh
    · obtain ⟨hmodel, himage⟩ := hkept key model image hmodel himage hfresh
      exact hs.current doc' key model image hmodel himage hfresh
    · exact hs.current doc' key model image hmodel himage hfresh

omit [ViewScalar D F] in
/-- An action that touches no model with a current image. -/
theorem Sound.act (hs : s.Sound W) (hT : W.tessellation.InBounds) (action : Action Doc D F)
    (hcounters : s.process.CountersReset W.tessellation action) (hlast : s.process.OwnLast action)
    (hsafe : s.process.SwitchSafe W.tessellation action)
    (hfree : ∀ doc key model image, index₂ (s.managers doc).models key = some model →
      index₂ (s.managers doc).modelImages key = some image → model.hasChanged = false →
        ¬ Process.touches doc key action) :
    ({ s with process := s.process.step W.tessellation action } : Session Doc D F P).Sound W where
  process := hs.process.step hT action hcounters hlast hsafe
  environment := hs.environment
  shaped := hs.shaped
  current doc key model image hmodel himage hfresh :=
    (hs.current doc key model image hmodel himage hfresh).step action
      (hfree doc key model image hmodel himage hfresh) rfl rfl

omit [ViewScalar D F] in
/-- Marking the models that change keeps every image current. -/
theorem Sound.marks (hs : s.Sound W) {m : Manager D F (Scene D F) P}
    (h : Manager.Marks (s.managers doc) m) :
    ({ s with managers := Function.update s.managers doc m } : Session Doc D F P).Sound W := by
  refine hs.setManager (fun page => ?_) fun key model image hmodel himage hfresh => ?_
  · rw [h.models_width, h.modelImages, hs.shaped doc page]
  · rw [h.modelImages] at himage
    rcases h.marked key model hmodel with hmodel | hchanged
    · exact ⟨hmodel, himage⟩
    · exact absurd (hchanged.symm.trans hfresh) (by decide)

/-- An interaction that reaches the process leaves its model marked. -/
theorem hasChanged_of_interact {m : Manager D F (Scene D F) P} {i : Interaction F}
    {model : Model D F (Scene D F)}
    (hreaches : (index₂ m.models key).any fun model =>
      ({ model with hasChanged := false }.interact i).hasChanged)
    (hmodel : index₂ (m.interact key i).models key = some model) : model.hasChanged = true := by
  obtain ⟨old, hold, hreaches⟩ := Option.any_eq_true .. |>.mp hreaches
  have hinteract : index₂ (m.interact key i).models key = some (old.interact i) := by
    have hmodify : index₂ (m.modifyModel key fun model => model.interact i).models key =
        some (old.interact i) := by
      simp only [Manager.modifyModel, index₂_modify₂, if_true, hold, Option.map_some]
    cases i <;> exact hmodify
  obtain rfl := Option.some.inj (hinteract.symm.trans hmodel)
  by_contra hfresh
  rw [Bool.not_eq_true] at hfresh
  -- a model that is not marked has not changed, and so would not have reached the process
  rcases old.touched_interact i with hsame | hchanged
  · have hunchanged : ({ old with hasChanged := false } : Model D F (Scene D F)) = old := by
      rw [hsame] at hfresh
      rw [← hfresh]
    rw [hunchanged, hfresh] at hreaches
    exact absurd hreaches (by decide)
  · exact absurd (hchanged.symm.trans hfresh) (by decide)

/-- The main thread keeps every cached image current. -/
theorem Sound.main (hs : s.Sound W) (hT : W.tessellation.InBounds)
    (a : Manager.MainAction F (Scene D F)) : (s.step W (.main doc a)).Sound W := by
  rw [Session.step]
  split_ifs
  swap
  · exact hs
  obtain ⟨m', hm', hshaped, -, -⟩ := Manager.apply_eq (hs.shaped doc) a
  rw [hm', Option.getD_some]
  cases a with
  -- `setDocument` takes all models away, so there is no entry to keep current
  | setDocument =>
    cases hm'
    have hcleared : ({ s with managers := Function.update s.managers doc (s.managers doc).Clear } :
        Session Doc D F P).Sound W := hs.setManager hshaped fun _ _ _ h => nomatch h
    refine hcleared.act hT (.setDocument doc) trivial trivial trivial ?_
    intro doc' key model image hmodel _ _ htouches
    obtain rfl : doc = doc' := htouches
    dsimp only at hmodel
    rw [Function.update_self] at hmodel
    exact nomatch hmodel
  | addModel scene headerInfo minBound maxBound page =>
    obtain ⟨models, images, hmodels, himages, hadd⟩ :=
      (s.managers doc).AddModel_eq (.ofFile scene headerInfo minBound maxBound) page
    obtain rfl := Option.some.inj (hm'.symm.trans hadd)
    have hadded := hs.setManager hshaped fun key model image hmodel himage hfresh => by
      dsimp only at hmodel himage
      rw [index₂_pushBack hmodels] at hmodel
      rw [index₂_pushBack himages, ← hs.shaped doc page] at himage
      split_ifs at hmodel himage
      · -- the model that was just added says that it changed
        rw [← Option.some.inj hmodel] at hfresh
        exact nomatch hfresh
      · exact ⟨hmodel, himage⟩
    exact hadded.act hT (.addModel doc page scene.file W.initialCamera) trivial trivial trivial
      fun _ _ _ _ _ _ _ h => h
  -- an event that reaches a model marks it; one that reaches none leaves everything as it is
  | interact key i =>
    cases hm'
    have hmarked := hs.marks ((s.managers doc).marks_interact key i)
    rw [action?]
    split_ifs with hreaches
    · have htouches : ∀ doc' key' model image,
          index₂ (Function.update s.managers doc ((s.managers doc).interact key i) doc').models
            key' = some model →
          index₂ (Function.update s.managers doc ((s.managers doc).interact key i) doc').modelImages
            key' = some image → model.hasChanged = false →
              ¬ (doc = doc' ∧ key = key') := by
        rintro doc' key' model image hmodel - hfresh ⟨rfl, rfl⟩
        rw [Function.update_self] at hmodel
        exact absurd ((hasChanged_of_interact hreaches hmodel).symm.trans hfresh) (by decide)
      cases i with
      | cycleMode => exact hmarked.act hT (.cycleMode doc key) trivial trivial trivial htouches
      | _ => exact hmarked.act hT (.interact doc key _) trivial trivial trivial htouches
    · exact hmarked
  | decline name =>
    cases hm'
    exact hs.marks (.of_eq rfl rfl rfl)
  | downloadComplete =>
    cases hm'
    exact hs.marks (s.managers doc).marks_onIBLDownloadComplete

omit [ViewScalar D F] in
/-- A document that is opened or closed has no models. -/
theorem Sound.reset (hs : s.Sound W) (hT : W.tessellation.InBounds) {action : Action Doc D F}
    (haction : action = .closeDocument doc ∨ ∃ device, action = .openDocument doc device)
    (environment : EnvironmentImages F) (he : environment.InOrder W.contents) (b : Bool) :
    ({ s with
      process := s.process.step W.tessellation action
      environment := Function.update s.environment doc environment
      managers := Function.update s.managers doc (.init b) } : Session Doc D F P).Sound W := by
  have hemptied : ({ s with managers := Function.update s.managers doc (.init b) } :
      Session Doc D F P).Sound W := hs.setManager (fun _ => rfl) fun _ _ _ h => nomatch h
  have hacted : ({ s with
      process := s.process.step W.tessellation action
      managers := Function.update s.managers doc (.init b) } : Session Doc D F P).Sound W := by
    rcases haction with rfl | ⟨device, rfl⟩
    · refine hemptied.act hT (.closeDocument doc) trivial trivial trivial ?_
      intro doc' key model image hmodel _ _ htouches
      obtain rfl : doc = doc' := htouches
      dsimp only at hmodel
      rw [Function.update_self] at hmodel
      exact nomatch hmodel
    · exact hemptied.act hT (.openDocument doc device) trivial trivial trivial
        fun _ _ _ _ _ _ _ h => h
  refine ⟨hacted.process, fun doc' => ?_, hacted.shaped, hacted.current⟩
  by_cases hdoc : doc' = doc
  · subst hdoc
    simpa using he
  · simpa [Function.update_of_ne hdoc] using hs.environment doc'

omit [ViewScalar D F] in
/-- Whatever a frame comes to, its environment images are in order after it. -/
theorem Sound.environment_frame (hs : s.Sound W) (doc : Doc) (key : ModelKey) (gpu : GpuEvents)
    (source : FrameSource D F (Scene D F)) :
    (s.frame W doc key gpu source).environment.InOrder W.contents := by
  rw [frame]
  cases hentered : (s.projected W doc key).entered doc (W.request key gpu source) with
  | none => exact hs.environment doc
  | some found =>
    obtain ⟨m, r, model⟩ := found
    dsimp only
    split_ifs
    · exact hs.environment doc
    · obtain ⟨hcoherent, hloaded⟩ := hs.environment doc
        ((s.projected W doc key).enterRenderer model (W.request key gpu source) r)
      set request : IBLRenderer.Request D F :=
        ((s.projected W doc key).frameBuffers W.tessellation model (W.request key gpu source),
          W.renderCall ((s.projected W doc key).consumedModel W.tessellation model
            (W.request key gpu source)) key gpu source)
      have hrecreation : request.2.diskAtRecreation = W.contents := rfl
      exact EnvironmentImages.inOrder_ofRenderer (hcoherent.call request)
        (hloaded.call hrecreation rfl)

/-- A call leaves the image of every other model as it is. -/
theorem Shows.render {doc' : Doc} {model : Model D F (Scene D F)} {image : QImage P}
    (h : s.Shows W doc' key model image) {call : RenderCall}
    (hother : ¬ (doc' = doc ∧ key = call.key)) (gpu : GpuEvents) :
    (s.step W (.render doc call gpu)).Shows W doc' key model image := by
  rw [Session.step]
  cases s.source? doc call with
  | none => exact h
  | some source =>
    have hprojected : ({ s with process := s.projected W doc call.key } :
        Session Doc D F P).Shows W doc' key model image :=
      h.step (.interact doc call.key false) (fun h => hother ⟨h.1.symm, h.2.symm⟩) rfl rfl
    refine hprojected.step (.render doc (W.request call.key gpu source))
      (fun h => hother ⟨h.1.symm, h.2.symm⟩) (process_frame ..) (if_neg ?_)
    exact fun h => hother ⟨h.1, h.2.1⟩

/-- A frame that is drawn and delivered is shown by its model. -/
theorem Sound.shows_redrawn (hs : s.Sound W) (hT : W.tessellation.InBounds) {call : RenderCall}
    (hdrawn : s.source? doc call = some source) (hplace : s.InPlace W doc call.key gpu source)
    {model : Model D F (Scene D F)} {p : P}
    (hshown : (s.frame W doc call.key gpu source).shown = some p)
    (hdelivered : (s.frame W doc call.key gpu source).delivered = true)
    (hsource : source = Manager.frameSource model call.imageSize model.drawnWithIBL) :
    (s.step W (.render doc call gpu)).Shows W doc call.key model (call.image (.frame p)) := by
  obtain ⟨r, before, queued, hr, hqueued, hbefore, hfrom⟩ :=
    drawn_frame hT hs.process (hs.environment doc) hplace hshown hdelivered
  rw [Session.step, hdrawn]
  refine ⟨r, before, queued, hr, hqueued, ?_, call.imageSize, p, rfl, hsource ▸ hfrom⟩
  rw [hbefore]
  exact (if_pos ⟨rfl, rfl, hdelivered⟩).symm

/-- A frame keeps every cached image current. -/
theorem Sound.render (hs : s.Sound W) (hT : W.tessellation.InBounds) {call : RenderCall}
    (hsource : ∀ source ∈ s.source? doc call, s.InPlace W doc call.key gpu source) :
    (s.step W (.render doc call gpu)).Sound W := by
  set m' := ((s.rendered W doc call gpu).map Prod.fst).getD (s.managers doc) with hm'
  have hredraws : Manager.Redraws (fun source => (s.frame W doc call.key gpu source).shown)
      { call with delivered :=
          (s.source? doc call).any fun source => (s.frame W doc call.key gpu source).delivered }
      (s.source? doc call) (s.managers doc) m' :=
    Manager.redraws_RenderModel _ s.library (hs.shaped doc) _
  have hshaped : m'.Shaped := fun page => by
    rw [hredraws.models_width, hredraws.modelImages_width, hs.shaped doc page]
  -- either the call answers from what it has, and no manager changes, or it draws a frame
  cases hdrawn : s.source? doc call with
  | none =>
    -- nothing is drawn: the image is already the one of an unchanged model, or the call gives up
    obtain ⟨hmodels, himages⟩ := hredraws.kept hdrawn
    rw [Session.step, ← hm', hdrawn]
    refine hs.setManager hshaped fun key model image hmodel himage _ => ?_
    rw [← hmodels, ← himages]
    exact ⟨hmodel, himage⟩
  | some source =>
    have hplace := hsource source hdrawn
    have hmanagers : (s.step W (.render doc call gpu)).managers =
        Function.update s.managers doc m' := by
      rw [Session.step, hdrawn]
    -- the renderers, the environment images, the shape of the managers, and the cached images
    refine ⟨?_, fun doc' => ?_, fun doc' => ?_, fun doc' key model image hmodel himage hfresh => ?_⟩
    · rw [Session.step, hdrawn]
      dsimp only
      rw [process_frame]
      exact (inOrder_projected hs.process hT doc call.key).step hT _ hplace.counters
        hplace.ownLast hplace.switch
    · rw [Session.step, hdrawn]
      by_cases hdoc : doc' = doc
      · subst hdoc
        simpa using hs.environment_frame doc' call.key gpu source
      · simpa [Function.update_of_ne hdoc] using hs.environment doc'
    · rw [hmanagers]
      by_cases hdoc : doc' = doc
      · subst hdoc
        simpa using hshaped
      · simpa [Function.update_of_ne hdoc] using hs.shaped doc'
    · rw [hmanagers] at hmodel himage
      by_cases hkey : doc' = doc ∧ key = call.key
      · -- the model of the call: its image is the frame, which has just been drawn
        obtain ⟨rfl, rfl⟩ := hkey
        rw [Function.update_self] at hmodel himage
        obtain ⟨p, hshown, hdelivered, himage', hsource'⟩ :=
          hredraws.redrawn source hdrawn model hmodel hfresh
        obtain rfl := Option.some.inj (himage.symm.trans himage')
        exact hs.shows_redrawn hT hdrawn hplace hshown (by simpa [hdrawn] using hdelivered)
          hsource'.symm
      · -- another model: its entry stays, and so does the frame its image was drawn from
        refine Shows.render ?_ hkey gpu
        by_cases hdoc : doc' = doc
        · subst hdoc
          have hne : key ≠ call.key := fun h => hkey ⟨rfl, h⟩
          rw [Function.update_self] at hmodel himage
          rw [hredraws.models_of_ne key hne] at hmodel
          rw [hredraws.modelImages_of_ne key hne] at himage
          exact hs.current doc' key model image hmodel himage hfresh
        · rw [Function.update_of_ne hdoc] at hmodel himage
          exact hs.current doc' key model image hmodel himage hfresh

/-- **Step lemma**: every step that meets the condition keeps every cached image current. -/
theorem Sound.step (hs : s.Sound W) (hT : W.tessellation.InBounds) (a : CacheStep Doc D F)
    (h : s.Settled W a) : (s.step W a).Sound W := by
  cases a with
  | openDocument doc device =>
    rw [Session.step]
    split_ifs
    · exact hs
    · exact hs.reset hT (.inr ⟨device, rfl⟩) .init (EnvironmentImages.inOrder_init _) _
  | closeDocument doc =>
    exact hs.reset hT (.inl rfl) .init (EnvironmentImages.inOrder_init _) false
  | main doc a => exact hs.main hT a
  | cacheRequest doc request now =>
    rw [Session.step]
    split_ifs
    · obtain ⟨m', hm', hsame⟩ := (s.managers doc).CacheRequest_eq request now
      rw [hm', Option.getD_some]
      exact hs.marks (.of_eq hsame.headlessRenderer hsame.modelImages hsame.models)
    · exact hs
  | render doc call gpu => exact hs.render hT h.1
  | disk library => exact ⟨hs.process, hs.environment, hs.shaped, hs.current⟩

omit [Scalar D] [Rounding D F] [DecidableEq Doc] in
/-- The image of a fresh render that has something to draw and delivers it. -/
theorem freshImage_eq {draw : Draw D F (Scene D F) P} {m : Manager D F (Scene D F) P}
    {call : RenderCall} {model : Model D F (Scene D F)} {useIBL : Bool} {p : P}
    (hcanvas : Manager.zeroCanvas
      (Manager.canvasSize model (m.requestSize call.pageNumber)) = false)
    (hdelivered : call.delivered = true)
    (hdraw : draw (Manager.frameSource (model.setProjection
      (Manager.canvasSize model (m.requestSize call.pageNumber))) call.imageSize useIBL) = some p) :
    Manager.freshImage draw m call model useIBL = call.image (.frame p) := by
  simp [Manager.freshImage, hcanvas, hdraw, hdelivered]

/-! One answer from the cache, and the same call where the image does not do. -/

section Answer

variable {call : RenderCall} {model : Model D F (Scene D F)}

omit [DecidableEq Doc] [Scalar D] [Rounding D F] [ViewScalar D F] [Scalar F] in
/-- The model of a call that is answered from the cache, and its image. -/
theorem exists_of_cachedModel? (hshaped : (s.managers doc).Shaped)
    (h : s.cachedModel? doc call = some model) :
    (s.managers doc).turnsAway call = false ∧
      index₂ (s.managers doc).models call.key = some model ∧
        (s.managers doc).servesCached call model = true ∧ model.hasChanged = false ∧
          ∃ image, index₂ (s.managers doc).modelImages call.key = some image ∧
            QImage.size image = call.imageSize := by
  rw [cachedModel?] at h
  split_ifs at h with haway
  obtain ⟨hmodel, hserves⟩ := Option.filter_eq_some_iff.mp h
  have hwidth : call.key.2 < width (s.managers doc).models call.key.1 :=
    isSome_index₂.mp (by rw [hmodel]; rfl)
  obtain ⟨image, himage⟩ := index₂_of_lt (hshaped call.key.1 ▸ hwidth)
  have hserved := hserves
  simp only [Manager.servesCached, Bool.and_eq_true, Bool.not_eq_true', himage, Option.getD_some,
    beq_iff_eq] at hserved
  exact ⟨Bool.not_eq_true _ ▸ haway, hmodel, hserves, hserved.1, image, himage, hserved.2⟩

/-- It is answered with that image, whatever would be drawn. -/
theorem rendered_of_cachedModel? (W : World D F P) (hshaped : (s.managers doc).Shaped)
    (h : s.cachedModel? doc call = some model) {image : QImage P}
    (himage : index₂ (s.managers doc).modelImages call.key = some image) (gpu : GpuEvents) :
    (s.rendered W doc call gpu).map Prod.snd = some image := by
  obtain ⟨haway, hmodel, hserves, -⟩ := exists_of_cachedModel? hshaped h
  have haway' : (s.managers doc).turnsAway { call with
      delivered := (s.source? doc call).any fun source =>
        (s.frame W doc call.key gpu source).delivered } = false := haway
  obtain ⟨m', hm', -⟩ := Manager.RenderModel_of_some
    (fun source => (s.frame W doc call.key gpu source).shown) s.library hshaped haway' hmodel
  rw [rendered, hm']
  exact congrArg some ((if_pos hserves).trans (congrArg (fun i => i.getD none) himage))

/-- A fresh frame of a model would be drawn from what its image was drawn from. -/
structure SameSource (s : Session Doc D F P) (doc : Doc) (call : RenderCall)
    (model : Model D F (Scene D F)) : Prop where
  canvas : Manager.zeroCanvas
    (Manager.canvasSize model ((s.managers doc).requestSize call.pageNumber)) = false
  frustum : model.setDimensions
    (Manager.canvasSize model ((s.managers doc).requestSize call.pageNumber)) = model.frustum
  useIBL : Manager.useIBL s.library model.headerInfo.imageName = model.drawnWithIBL

omit [DecidableEq Doc] [Scalar D] [Rounding D F] in
theorem SameSource.frameSource_eq (h : s.SameSource doc call model) :
    Manager.frameSource (({ model with hasChanged := true } : Model D F (Scene D F)).setProjection
        (Manager.canvasSize model ((s.managers doc).requestSize call.pageNumber))) call.imageSize
      (Manager.useIBL s.library model.headerInfo.imageName) =
    Manager.frameSource model call.imageSize model.drawnWithIBL := by
  rw [h.useIBL]
  exact congrArg (fun frustum => Manager.frameSource { model with frustum } call.imageSize
    model.drawnWithIBL) h.frustum

omit [Scalar D] [Scalar F] [Rounding D F] [ViewScalar D F] in
/-- The model where its image does not do. -/
theorem model_invalidate (hmodel : index₂ (s.managers doc).models call.key = some model) :
    index₂ ((s.invalidate doc call.key).managers doc).models call.key =
      some { model with hasChanged := true } := by
  rw [invalidate]
  simp only [Function.update_self, Manager.modifyModel, index₂_modify₂, if_true, hmodel,
    Option.map_some]

omit [Scalar D] [Rounding D F] in
/-- What a fresh frame is drawn from. -/
theorem source?_invalidate (haway : (s.managers doc).turnsAway call = false)
    (hmodel : index₂ (s.managers doc).models call.key = some model)
    (hsame : s.SameSource doc call model) :
    (s.invalidate doc call.key).source? doc call =
      some (Manager.frameSource model call.imageSize model.drawnWithIBL) := by
  have hmanager : (s.invalidate doc call.key).managers doc =
      (s.managers doc).modifyModel call.key fun model => { model with hasChanged := true } :=
    Function.update_self ..
  have haway' : ((s.invalidate doc call.key).managers doc).turnsAway call = false := by
    rw [hmanager]
    exact haway
  have hcanvas : ((s.invalidate doc call.key).managers doc).requestSize call.pageNumber =
      (s.managers doc).requestSize call.pageNumber := by
    rw [hmanager]
    rfl
  rw [source?, Manager.source?, if_neg (ne_true_of_eq_false haway'), model_invalidate hmodel,
    ← hsame.frameSource_eq]
  change ((s.invalidate doc call.key).managers doc).freshSource? call
    { model with hasChanged := true } (Manager.useIBL s.library model.headerInfo.imageName) = _
  rw [Manager.freshSource?, hcanvas]
  exact if_neg (ne_true_of_eq_false hsame.canvas)

/-- What a fresh render answers that delivers its frame. -/
theorem rendered_invalidate (hshaped : (s.managers doc).Shaped)
    (haway : (s.managers doc).turnsAway call = false)
    (hmodel : index₂ (s.managers doc).models call.key = some model)
    (hsame : s.SameSource doc call model) {p : P}
    (hshown : (s.frame W doc call.key gpu
      (Manager.frameSource model call.imageSize model.drawnWithIBL)).shown = some p)
    (hdelivered : (s.frame W doc call.key gpu
      (Manager.frameSource model call.imageSize model.drawnWithIBL)).delivered = true) :
    ((s.invalidate doc call.key).rendered W doc call gpu).map Prod.snd =
      some (call.image (.frame p)) := by
  set fresh := s.invalidate doc call.key with hfresh
  have hmanager : fresh.managers doc = (s.managers doc).modifyModel call.key
      fun model => { model with hasChanged := true } := Function.update_self ..
  have hshaped' : (fresh.managers doc).Shaped := fun page => by
    rw [hmanager]
    exact (width_modify₂ _ page).trans (hshaped page)
  have hcanvas : (fresh.managers doc).requestSize call.pageNumber =
      (s.managers doc).requestSize call.pageNumber := by
    rw [hmanager]
    rfl
  have haway' : (fresh.managers doc).turnsAway { call with
      delivered := (fresh.source? doc call).any fun source =>
        (fresh.frame W doc call.key gpu source).delivered } = false := by
    rw [hmanager]
    exact haway
  obtain ⟨m', hm', -⟩ := Manager.RenderModel_of_some
    (fun source => (fresh.frame W doc call.key gpu source).shown) fresh.library hshaped' haway'
    (model_invalidate hmodel)
  rw [rendered, hm', Option.map_some, Option.some.injEq]
  -- a model that has changed is not answered from the cache
  have hserves : ∀ call, (fresh.managers doc).servesCached call
      ({ model with hasChanged := true } : Model D F (Scene D F)) = false := fun _ => rfl
  dsimp only
  rw [if_neg (ne_true_of_eq_false (hserves _))]
  refine freshImage_eq ?_ ?_ ?_
  · rw [hcanvas]
    exact hsame.canvas
  · rw [source?_invalidate haway hmodel hsame]
    exact hdelivered
  · rw [hcanvas]
    exact (congrArg (fun source => (s.frame W doc call.key gpu source).shown)
      hsame.frameSource_eq).trans hshown

end Answer

/-- **One answer.** A current image that is returned under the condition is what a fresh render
would return. -/
theorem Sound.coherent (hs : s.Sound W) (hT : W.tessellation.InBounds) (a : CacheStep Doc D F)
    (h : s.Settled W a) : s.Coherent W a := by
  cases a with
  | openDocument | closeDocument | main | cacheRequest | disk => trivial
  | render doc call gpu =>
    intro hsome
    obtain ⟨model, hcached⟩ := Option.isSome_iff_exists.mp hsome
    obtain ⟨hcanvas, hfrustum, hIBL, hplace, hrepeatable⟩ := h.2 model hcached
    obtain ⟨haway, hmodel, -, hunchanged, image, himage, hsize⟩ :=
      exists_of_cachedModel? (hs.shaped doc) hcached
    have hpositive : ¬ (call.imageSize.1 ≤ 0 ∨ call.imageSize.2 ≤ 0) :=
      of_decide_eq_false (Bool.or_eq_false_iff.mp haway).2
    -- the image is a frame of the model, and a fresh frame shows it again
    obtain ⟨r, before, queued, hr, hqueued, hbefore, size, p, rfl, hfrom⟩ :=
      hs.current doc call.key model image hmodel himage hunchanged
    obtain rfl : size = call.imageSize := hsize
    obtain ⟨hshown, hdelivered⟩ := frame_again hT hs.process (hs.environment doc) hplace
      hrepeatable rfl hpositive hr hqueued hbefore hfrom
    rw [rendered_of_cachedModel? W (hs.shaped doc) hcached himage, rendered_invalidate
      (hs.shaped doc) haway hmodel ⟨hcanvas, hfrustum, hIBL⟩ hshown hdelivered]
    rfl

/-- A header that names an environment map. -/
def skyHeader : HeaderInfo ℚ :=
  { imageName := [0x73]
    orthographic := true
    minBound := ⟨-1, -1, -1⟩
    maxBound := ⟨1, 1, 0⟩
    angleOfView := 0
    initialZoom := 1
    viewportShift := ⟨0, 0⟩
    zoomFactor := 2
    zoomStep := 1 }

/-- A view straight onto the scene, panned by the frustum. Every environment map decodes, and an
image shows the picture itself. -/
def flatWorld : World ℚ ℚ (Mat4 ℚ × Picture ℚ) where
  tessellation := .library 8
  matrices _ _ frustum :=
    let camera := Process.panned ((frustum.xmin + frustum.xmax) / -2)
    ⟨camera.projViewMat, camera.projViewMat, camera.normMat⟩
  initialCamera := Process.panned 0
  directory name := name
  contents _ := some ⟨1, 1, [0]⟩
  paint uniforms picture := (uniforms.projViewMat, picture)

/-- A scene of one red triangle. -/
def redScene (x : ℚ) : Scene ℚ ℚ := ⟨Process.redTriangles [x], ⟨1, 1, 1, 1⟩⟩

/-- A call on a model of page 0, with no failure. -/
def ask (modelIndex : Nat) (size : Int) : CacheStep Bool ℚ ℚ :=
  .render true ⟨0, modelIndex, size, size, true⟩ ⟨false, false, none⟩

/-- A document with two models of a page. -/
def twoModels : List (CacheStep Bool ℚ ℚ) :=
  [.openDocument true Process.someDevice,
    .main true (.addModel (redScene 0) skyHeader ⟨0, 0⟩ ⟨1, 1⟩ 0),
    .main true (.addModel (redScene (1 / 4)) skyHeader ⟨0, 0⟩ ⟨1, 1⟩ 0),
    .cacheRequest true ⟨0, 100, 100, .pageView⟩ 1]

/-- Both models are drawn, the first is panned and drawn again, and both are asked for once more. -/
def panned : List (CacheStep Bool ℚ ℚ) :=
  twoModels ++ [ask 0 100, ask 1 100, .main true (.interact (0, 0) (.shift ⟨1 / 10, 0⟩ ⟨0, 0⟩)),
    ask 0 100, ask 1 100, ask 0 100]

/-- A model that names an environment map is drawn without it; another document downloads the map,
and the model is asked for again. -/
def downloadedElsewhere : List (CacheStep Bool ℚ ℚ) :=
  twoModels ++ [ask 0 100, .disk fun _ => true, ask 0 100]

/-- The second model, in `WIREFRAME` mode, is drawn with the pipelines of the first; a fresh render
after a frame of another size would have its own. -/
example : ¬ Along (step flatWorld) (Coherent flatWorld) init
    (twoModels ++ [ask 0 100, .main true (.interact (0, 1) .cycleMode),
      .main true (.interact (0, 1) .cycleMode), ask 1 100, ask 0 50, ask 1 100]) := by
  decide +kernel

end Session

end ImageCache

end OkularV3d
