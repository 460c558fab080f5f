import OkularV3d.Manager.Freshness
import OkularV3d.Manager.ModelImages
import OkularV3d.Manager.Picture

/-!
# The managers of a process and what they draw with

`OkularV3d.Manager.ModelImages` follows the models and the cached images of one manager, for any
frame its calls may draw. Here is what the frames come from. A `Session` is all the open documents:

* `managers`: the models of each, their views and their cached images;
* `process`: the global vertex buffers with their counters, `lastPage` and `lastModel`, the meshes
  the objects keep, and the renderer of each document with everything on the GPU;
* `environment`: the environment images of each renderer;
* `library`: the environment maps on the disk.

`Session.frame` is the part of `RenderModel` from the lock on, in one of these states: the frame is
the picture the renderer draws then, with whatever other models have left in it. `Session.rendered`
is the whole call, and `Session.step` a step of any document.

Some calls are answered with the cached image. `Session.Coherent` says of such an answer that it is
the image a fresh render would return in the same state, which is the call on `Session.invalidate`.
`Session.Settled` is a condition on the state before a step for this to hold:

* a frame finds everything it is drawn with in its place (`InPlace`): the conditions of the upload
  gate, the pipelines, the mapped buffers, the environment images and the size of the buffers;
* where a cached image is returned, the frustum and the environment map are those it was drawn with,
  the fresh frame would find everything in its place, too, and it would build a new mesh only if the
  cached one did (`drawnAnew`).
-/

namespace OkularV3d

open Runs

instance : Fintype BufferKind where
  elems := {.material, .color, .line, .transparent, .point, .triangle}
  complete k := by cases k <;> decide

namespace ImageCache

open Jagged

/-! ### What a frame is drawn from -/

/-- A file, and the background its header asks for. -/
structure Scene (D F : Type) where
  file : V3dFile D F
  background : Vec4 F

/-- The uniform buffer of a frame. -/
structure UniformBuffer (D : Type) where
  projViewMat : Mat4 D
  viewMat : Mat4 D
  normMat : Mat3 D

/-- What the steps below have in common.

* `tessellation`: the subdivision of curves and surfaces.
* `matrices`: `setProjection`'s matrices, from the view and the frustum of a model.
* `initialCamera`: the camera of a model before its first projection.
* `directory`: where `resolveIBLPath` looks for an environment map.
* `contents`: the files of the environment maps, when they are there.
* `paint`: the image that the shaders make of a picture. -/
structure World (D F P : Type) where
  tessellation : Tessellation D F
  matrices : HeaderInfo F → View D F → Frustum F → UniformBuffer D
  initialCamera : Camera D
  directory : ByteString → ByteString
  contents : Disk F
  paint : UniformBuffer D → Picture F → P

/-- What the renderer of a document keeps of the environment images. -/
structure EnvironmentImages (F : Type) where
  iblImagePath : ByteString
  iblImages : Option (IBLImages F)
  descriptors : Option (IBLImages F)

namespace EnvironmentImages

variable {F : Type}

/-- No images yet. -/
def init : EnvironmentImages F := ⟨[], none, none⟩

/-- The images of a renderer. -/
def ofRenderer (r : IBLRenderer F) : EnvironmentImages F :=
  ⟨r.iblImagePath, r.iblImages, r.descriptors⟩

/-- The renderer with its images. -/
def renderer (e : EnvironmentImages F) (r : Renderer F) : IBLRenderer F :=
  ⟨r, e.iblImagePath, e.iblImages, e.descriptors⟩

end EnvironmentImages

/-- What happens on the GPU in a call: the blend pipeline the frame takes, and its failures. -/
structure GpuEvents where
  blendBig : Bool
  setupPastIBL : Bool
  fault : Option FaultPoint

namespace World

variable {D F P : Type} [Scalar D] [Scalar F] [Rounding D F]

/-- The scene bounds for culling: the frustum, or the bounds of the file where that is empty. -/
def sceneBounds (headerInfo : HeaderInfo F) (frustum : Frustum F) : Vec3 D × Vec3 D :=
  let minBound : Vec3 D := Vec3.widen ⟨frustum.xmin, frustum.ymin, headerInfo.minBound.z⟩
  let maxBound : Vec3 D := Vec3.widen ⟨frustum.xmax, frustum.ymax, headerInfo.maxBound.z⟩
  let notBelow (a b : D) : Bool := Scalar.lt b a || Scalar.eq a b
  if notBelow minBound.x maxBound.x || notBelow minBound.y maxBound.y ||
      notBelow minBound.z maxBound.z then
    (Vec3.widen headerInfo.minBound, Vec3.widen headerInfo.maxBound)
  else (minBound, maxBound)

/-- The uniform buffer of a frame. -/
def uniforms (W : World D F P) (source : FrameSource D F (Scene D F)) : UniformBuffer D :=
  W.matrices source.headerInfo source.view source.frustum

/-- The camera of a frame. -/
def camera (W : World D F P) (source : FrameSource D F (Scene D F)) : Camera D :=
  { projViewMat := (W.uniforms source).projViewMat
    normMat := (W.uniforms source).normMat
    sceneMinBound := (sceneBounds source.headerInfo source.frustum).1
    sceneMaxBound := (sceneBounds source.headerInfo source.frustum).2 }

/-- The request for a frame, which has got past the test of its canvas. -/
def request (W : World D F P) (key : ModelKey) (gpu : GpuEvents)
    (source : FrameSource D F (Scene D F)) : RenderRequest D :=
  { pageNumber := key.1
    modelIndex := key.2
    imageWidth := source.imageSize.1
    imageHeight := source.imageSize.2
    zeroCanvas := false
    camera := W.camera source
    blendBig := gpu.blendBig
    fault := gpu.fault }

/-- The arguments of `render()` for a model whose mesh is queued. -/
def renderCall (W : World D F P) (model : V3dModel D F) (key : ModelKey) (gpu : GpuEvents)
    (source : FrameSource D F (Scene D F)) : IBLCall D F :=
  { Process.frameCall model (W.request key gpu source) with
    bgColor := source.scene.background
    orthographic := source.headerInfo.orthographic
    useIBL := source.useIBL
    iblPath := if source.useIBL then W.directory
      (normalizeIBLName source.headerInfo.imageName) else []
    diskAtRecreation := W.contents
    diskAtUpdate := W.contents
    setupPastIBL := gpu.setupPastIBL }

end World

/-! ### The open documents -/

/-- The open documents of a process.

`drawnAnew` is whether the cached image of a model was drawn in a frame that built a new mesh. It is
history: the source has no such member and no step reads it. -/
structure Session (Doc D F P : Type) where
  process : Process Doc D F
  environment : Doc → EnvironmentImages F
  managers : Doc → Manager D F (Scene D F) P
  library : ByteString → Bool
  drawnAnew : Doc → ModelKey → Bool

/-- A step.

* `openDocument doc device`: as in `Action`.
* `closeDocument doc`: its manager is destroyed.
* `main doc a`: the main thread does something to a manager.
* `cacheRequest doc request now`: `CacheRequest` at the time `now`.
* `render doc call gpu`: `RenderModel`. (Whether the frame is delivered is not read from `call`.)
* `disk library`: files of environment maps appear or disappear: a download of some document, or by
  hand. -/
inductive CacheStep (Doc D F : Type) where
  | openDocument (doc : Doc) (device : Option (Device × Bool))
  | closeDocument (doc : Doc)
  | main (doc : Doc) (a : Manager.MainAction F (Scene D F))
  | cacheRequest (doc : Doc) (request : PixmapRequest) (now : Int)
  | render (doc : Doc) (call : RenderCall) (gpu : GpuEvents)
  | disk (library : ByteString → Bool)

/-- What becomes of a frame: the image, if there is something to draw, and whether the renderer
delivers it. `anew` is whether a new mesh is built. -/
structure Frame (Doc D F P : Type) where
  process : Process Doc D F
  environment : EnvironmentImages F
  shown : Option P
  delivered : Bool
  anew : Bool

namespace Session

variable {Doc D F P : Type} [DecidableEq Doc] [Scalar D] [Scalar F] [Rounding D F]
  [ViewScalar D F]

/-- No open document, and an empty image library. -/
def init : Session Doc D F P :=
  { process := .init
    environment := fun _ => .init
    managers := fun _ => .init false
    library := fun _ => false
    drawnAnew := fun _ _ => false }

/-- Whether a document is open. -/
def isOpen (s : Session Doc D F P) (doc : Doc) : Bool := (s.process.managers doc).isSome

/-- The process as a frame finds it: `setProjection` has marked the model as changed. -/
def projected (W : World D F P) (s : Session Doc D F P) (doc : Doc) (key : ModelKey) :
    Process Doc D F :=
  s.process.step W.tessellation (.interact doc key false)

/-- `RenderModel` from the lock on. -/
def frame (W : World D F P) (s : Session Doc D F P) (doc : Doc) (key : ModelKey) (gpu : GpuEvents)
    (source : FrameSource D F (Scene D F)) : Frame Doc D F P :=
  let p := s.projected W doc key
  let request := W.request key gpu source
  let process := p.step W.tessellation (.render doc request)
  match p.entered doc request with
  | none => ⟨process, s.environment doc, none, false, false⟩
  | some (_, r, model) =>
    let cpu := p.frameBuffers W.tessellation model request
    let anew := (p.enterModel model request).remesh
    if !hasRenderableData cpu then ⟨process, s.environment doc, none, false, anew⟩
    else
      let r := (s.environment doc).renderer (p.enterRenderer model request r)
      let c := W.renderCall (p.consumedModel W.tessellation model request) key gpu source
      let out := r.render cpu c
      { process
        environment := .ofRenderer out.1
        shown := some (W.paint (W.uniforms source) (r.picture (cpu, c)))
        delivered := out.2.2.frame.completed
        anew }

/-- What the frame of a call is drawn from, if it comes to draw one. -/
def source? (s : Session Doc D F P) (doc : Doc) (call : RenderCall) :
    Option (FrameSource D F (Scene D F)) :=
  (s.managers doc).source? s.library call

/-- `RenderModel`: the manager after it, and the image it returns. -/
def rendered (W : World D F P) (s : Session Doc D F P) (doc : Doc) (call : RenderCall)
    (gpu : GpuEvents) : Option (Manager D F (Scene D F) P × QImage P) :=
  let frame := s.frame W doc call.key gpu
  (s.managers doc).RenderModel (fun source => (frame source).shown) s.library
    { call with delivered := (s.source? doc call).any fun source => (frame source).delivered }

/-- What something the main thread does to a manager is for the process. -/
def action? (W : World D F P) (s : Session Doc D F P) (doc : Doc) :
    Manager.MainAction F (Scene D F) → Option (Action Doc D F)
  | .setDocument => some (.setDocument doc)
  | .addModel scene _ _ _ page => some (.addModel doc page scene.file W.initialCamera)
  | .interact key i =>
    -- only an interaction that changes the model reaches the flags of the process
    if (index₂ (s.managers doc).models key).any fun model =>
        ({ model with hasChanged := false }.interact i).hasChanged then
      some (ViewSession.processAction doc key i)
    else none
  | .decline _ | .downloadComplete => none

/-- One step. A call that indexes a vector outside its size does nothing here. -/
def step (W : World D F P) (s : Session Doc D F P) : CacheStep Doc D F → Session Doc D F P
  | .openDocument doc device =>
    if s.isOpen doc then s
    else
      { s with
        process := s.process.step W.tessellation (.openDocument doc device)
        environment := Function.update s.environment doc .init
        managers := Function.update s.managers doc (.init device.isSome) }
  | .closeDocument doc =>
    { s with
      process := s.process.step W.tessellation (.closeDocument doc)
      environment := Function.update s.environment doc .init
      managers := Function.update s.managers doc (.init false) }
  | .main doc a =>
    if s.isOpen doc then
      { s with
        process := ((s.action? W doc a).map (s.process.step W.tessellation)).getD s.process
        managers := Function.update s.managers doc
          (((s.managers doc).apply a).getD (s.managers doc)) }
    else s
  | .cacheRequest doc request now =>
    if s.isOpen doc then
      { s with
        managers := Function.update s.managers doc
          (((s.managers doc).CacheRequest request now).getD (s.managers doc)) }
    else s
  | .render doc call gpu =>
    let managers := Function.update s.managers doc
      (((s.rendered W doc call gpu).map Prod.fst).getD (s.managers doc))
    match s.source? doc call with
    | none => { s with managers }
    | some source =>
      let frame := s.frame W doc call.key gpu source
      { s with
        process := frame.process
        environment := Function.update s.environment doc frame.environment
        managers
        drawnAnew := fun d k =>
          if d = doc ∧ k = call.key ∧ frame.delivered = true then frame.anew
          else s.drawnAnew d k }
  | .disk library => { s with library }

/-! ### Coherence -/

/-- The model that a call finds whose cached image it returns, if it returns a cached image. -/
def cachedModel? (s : Session Doc D F P) (doc : Doc) (call : RenderCall) :
    Option (Model D F (Scene D F)) :=
  let m := s.managers doc
  if m.turnsAway call then none
  else (index₂ m.models call.key).filter fun model => m.servesCached call model

/-- The same state with one model marked as changed, so that its cached image does not do. -/
def invalidate (s : Session Doc D F P) (doc : Doc) (key : ModelKey) : Session Doc D F P :=
  { s with
    managers := Function.update s.managers doc
      ((s.managers doc).modifyModel key fun model => { model with hasChanged := true }) }

/-- **A cached image that is returned is what a fresh render would return**, in the same state and
with a GPU that does not fail. -/
def Coherent (W : World D F P) (s : Session Doc D F P) : CacheStep Doc D F → Prop
  | .render doc call gpu => (s.cachedModel? doc call).isSome →
      (s.rendered W doc call gpu).map Prod.snd =
        ((s.invalidate doc call.key).rendered W doc call { gpu with fault := none }).map Prod.snd
  | _ => True

/-- **A frame finds everything in its place**: no object resets a wrong counter, the mesh it does
without was the manager's last, a switch to its model is safe, its materials, its lights and its
environment images are where they are read, and the vertices can be counted. -/
structure InPlace (W : World D F P) (s : Session Doc D F P) (doc : Doc) (key : ModelKey)
    (gpu : GpuEvents) (source : FrameSource D F (Scene D F)) : Prop where
  counters : (s.projected W doc key).CountersReset W.tessellation
    (.render doc (W.request key gpu source))
  ownLast : (s.projected W doc key).OwnLast (.render doc (W.request key gpu source))
  switch : (s.projected W doc key).SwitchSafe W.tessellation
    (.render doc (W.request key gpu source))
  found : ∀ found ∈ (s.projected W doc key).entered doc (W.request key gpu source),
    let p := s.projected W doc key
    let request := W.request key gpu source
    let cpu := p.frameBuffers W.tessellation found.2.2 request
    let r := (s.environment doc).renderer (p.enterRenderer found.2.2 request found.2.1)
    let c := W.renderCall (p.consumedModel W.tessellation found.2.2 request) key gpu source
    hasRenderableData cpu = true →
      r.renderer.MaterialsInPlace c.toRenderCall ∧ r.renderer.LightsInPlace (cpu, c.toRenderCall) ∧
        r.ImagesLoad (cpu, c) ∧ ∀ k, (cpu k).data.count k < 2 ^ 32

/-- The renderer that the frame of a call would be drawn with has come up and its shaders have
compiled, and the frame would build a new mesh only if the cached image was drawn from one. -/
def Repeatable (W : World D F P) (s : Session Doc D F P) (doc : Doc) (key : ModelKey)
    (gpu : GpuEvents) (source : FrameSource D F (Scene D F)) : Prop :=
  let p := s.projected W doc key
  let request := W.request key gpu source
  ∀ found ∈ p.entered doc request, found.2.1.initFailed = false ∧
    ((p.enterModel found.2.2 request).remesh = true → s.drawnAnew doc key = true)

/-- The condition on a step.

* A call that draws a frame finds everything in its place.
* A call that returns a cached image finds the world as it was when the image was drawn: the request
  size of the page gives the same frustum, and the environment map is there if it was. A fresh frame
  would find everything in its place, and could be drawn. -/
def Settled (W : World D F P) (s : Session Doc D F P) : CacheStep Doc D F → Prop
  | .render doc call gpu =>
    (∀ source ∈ s.source? doc call, s.InPlace W doc call.key gpu source) ∧
      ∀ model ∈ s.cachedModel? doc call,
        let canvas := Manager.canvasSize model ((s.managers doc).requestSize call.pageNumber)
        let source := Manager.frameSource model call.imageSize model.drawnWithIBL
        Manager.zeroCanvas canvas = false ∧ model.setDimensions canvas = model.frustum ∧
          Manager.useIBL s.library model.headerInfo.imageName = model.drawnWithIBL ∧
          s.InPlace W doc call.key { gpu with fault := none } source ∧
          s.Repeatable W doc call.key { gpu with fault := none } source
  | _ => True

/-! On a concrete run the condition and the property can be computed. -/

section Decidable

variable [DecidableEq D] [DecidableEq F] (W : World D F P) (s : Session Doc D F P)

instance (r : Renderer F) (c : OkularV3d.RenderCall D F) : Decidable (r.MaterialsInPlace c) := by
  unfold Renderer.MaterialsInPlace
  infer_instance

instance (r : Renderer F) (request : Renderer.Request D F) :
    Decidable (r.LightsInPlace request) := by
  unfold Renderer.LightsInPlace
  infer_instance

instance (disk : Disk F) (iblPath : ByteString) : Decidable (Decodes disk iblPath) := by
  unfold Decodes
  infer_instance

instance (r : IBLRenderer F) (request : IBLRenderer.Request D F) :
    Decidable (r.ImagesLoad request) := by
  unfold IBLRenderer.ImagesLoad
  dsimp only
  split <;> infer_instance

instance (doc : Doc) (key : ModelKey) (gpu : GpuEvents) (source : FrameSource D F (Scene D F)) :
    Decidable (s.InPlace W doc key gpu source) :=
  decidable_of_iff (_ ∧ _ ∧ _ ∧ _)
    ⟨fun ⟨counters, ownLast, switch, found⟩ => ⟨counters, ownLast, switch, found⟩,
      fun h => ⟨h.counters, h.ownLast, h.switch, h.found⟩⟩

instance (doc : Doc) (key : ModelKey) (gpu : GpuEvents) (source : FrameSource D F (Scene D F)) :
    Decidable (s.Repeatable W doc key gpu source) := by
  unfold Repeatable
  infer_instance

instance (a : CacheStep Doc D F) : Decidable (s.Settled W a) := by
  unfold Settled
  cases a <;> infer_instance

instance [DecidableEq P] (a : CacheStep Doc D F) : Decidable (s.Coherent W a) := by
  unfold Coherent
  cases a <;> infer_instance

end Decidable

end Session

end ImageCache

end OkularV3d
