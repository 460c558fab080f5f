import OkularV3d.Lib.Runs
import OkularV3d.Render.Prepare
import OkularV3d.Scene.V3dFile

/-!
# Rendering the models of the open documents

Every open document has a `V3dModelManager` with its models, their cached images and one
`HeadlessRenderer`. The vertex buffers, their counters and the pair `lastPage`, `lastModel` of
`RenderModel` are shared by all documents of the process; a mutex makes each use of them one step.
`Process.step` is one such step, or one of the user's actions between two of them.

The camera is an input of every frame: whatever the zoom, the rotation and the pan amount to, they
reach the frame as the matrices and bounds `setProjection` computes. So are the size of the canvas
and the faults of the Vulkan calls.

* `entered` is what `RenderModel` finds before it takes the lock, `renderLocked` what it does from
  the lock on; `enterModel` and `enterRenderer` are its reaction to a switch of model.
* `Process.step` dispatches an `Action`; a frame is the renderer's `render` on the queued buffers.
* `switchedModel` is the comparison with `lastPage` and `lastModel` on which the re-upload depends.

The properties of runs of this machine are in `OkularV3d.Manager.UploadSoundness` (geometry),
`OkularV3d.Manager.DrawMode` (pipelines) and `OkularV3d.Manager.Freshness` (tessellation).
-/

namespace OkularV3d

/-- What `setProjection` leaves of a model's view: the matrices and the scene bounds used for
culling. -/
structure Camera (D : Type) where
  projViewMat : Mat4 D
  normMat : Mat3 D
  sceneMinBound : Vec3 D
  sceneMaxBound : Vec3 D

/-- A `V3dModel` with the size of its cached image (`QImage{}` is `(0, 0)`). -/
structure V3dModel (D F : Type) where
  file : V3dFile D F
  camera : Camera D
  remesh : Bool
  drawMode : DrawMode
  hasChanged : Bool
  imageSize : Int × Int

/-- A page and the number of a model on it. -/
abbrev ModelKey := Nat × Nat

/-- A `V3dModelManager`: its models by page, and its renderer unless the shaders are missing.

`lastQueued` is the model whose mesh was queued last. It is history: the source has no such member
and nothing below reads it. -/
structure V3dModelManager (D F : Type) where
  models : Nat → List (V3dModel D F)
  renderer : Option (Renderer F)
  lastQueued : Option ModelKey

/-- The state shared by the open documents, and their managers. -/
structure Process (Doc D F : Type) where
  lastPage : Nat
  lastModel : Nat
  buffers : Buffers F
  managers : Doc → Option (V3dModelManager D F)

/-- The arguments of a `RenderModel` call with what its environment decides: the camera, whether the
canvas is empty, and what happens on the GPU. -/
structure RenderRequest (D : Type) where
  pageNumber : Nat
  modelIndex : Nat
  imageWidth : Int
  imageHeight : Int
  zeroCanvas : Bool
  camera : Camera D
  blendBig : Bool
  fault : Option FaultPoint

/-- The actions on a process.

* `openDocument doc device`: a document is opened; `device` is what its renderer finds, if the
  shaders are installed: the device, and whether it failed to come up.
* `closeDocument doc`: its manager is destroyed.
* `setDocument doc`: another document is about to be loaded into the manager: its models are
  dropped, its renderer is kept.
* `addModel doc page scene camera`: `AddModel` with a loaded file.
* `interact doc key remesh`: `home` and the `dragMode` functions: the view changes; `home` and
  `dragModeZoom` also ask for a new mesh.
* `cycleMode doc key`: the model's next draw mode.
* `render doc request`: `RenderModel`. -/
inductive Action (Doc D F : Type) where
  | openDocument (doc : Doc) (device : Option (Device × Bool))
  | closeDocument (doc : Doc)
  | setDocument (doc : Doc)
  | addModel (doc : Doc) (page : Nat) (scene : V3dFile D F) (camera : Camera D)
  | interact (doc : Doc) (key : ModelKey) (remesh : Bool)
  | cycleMode (doc : Doc) (key : ModelKey)
  | render (doc : Doc) (request : RenderRequest D)

namespace RenderRequest

/-- The page and the number of the model asked for. -/
def key {D : Type} (request : RenderRequest D) : ModelKey :=
  (request.pageNumber, request.modelIndex)

/-- The size of the image asked for. -/
def imageSize {D : Type} (request : RenderRequest D) : Int × Int :=
  (request.imageWidth, request.imageHeight)

end RenderRequest

namespace V3dModel

variable {D F : Type}

/-- A model as `AddModel` takes it over: nothing is kept by its objects yet. -/
def ofScene (scene : V3dFile D F) (camera : Camera D) : V3dModel D F :=
  { file := { scene with objects := scene.objects.map fun o => .ofObject o.object }
    camera
    remesh := true
    drawMode := .normal
    hasChanged := true
    imageSize := (0, 0) }

end V3dModel

namespace V3dModelManager

variable {D F : Type}

/-- `m_Models[page][index]`. -/
def model? (m : V3dModelManager D F) (key : ModelKey) : Option (V3dModel D F) :=
  (m.models key.1)[key.2]?

/-- The manager with another model in that place. -/
def setModel (m : V3dModelManager D F) (key : ModelKey) (model : V3dModel D F) :
    V3dModelManager D F :=
  { m with
    models := fun page =>
      if page = key.1 then (m.models page).set key.2 model else m.models page }

/-- A manager without models. -/
def init (device : Option (Device × Bool)) : V3dModelManager D F :=
  { models := fun _ => []
    renderer := device.map fun (device, initFailed) => .init device initFailed
    lastQueued := none }

/-- `Clear`. -/
def clear (m : V3dModelManager D F) : V3dModelManager D F :=
  { m with models := fun _ => [], lastQueued := none }

/-- `AddModel`. -/
def addModel (m : V3dModelManager D F) (page : Nat) (model : V3dModel D F) :
    V3dModelManager D F :=
  { m with models := fun p => if p = page then m.models p ++ [model] else m.models p }

end V3dModelManager

/-- Whether some `VertexBuffer` has something to draw. -/
def hasRenderableData {F : Type} (buffers : Buffers F) : Bool :=
  [BufferKind.material, .color, .line, .transparent, .point].any fun kind =>
    !(buffers kind).data.indices.isEmpty

namespace Process

variable {Doc D F : Type} [DecidableEq Doc] [Scalar D] [Scalar F] [Rounding D F]

/-- A process with no open document. -/
def init : Process Doc D F :=
  { lastPage := 0
    lastModel := 0
    buffers := fun _ => ⟨.empty, 0⟩
    managers := fun _ => none }

/-- The process with another manager for a document. -/
def setManager (p : Process Doc D F) (doc : Doc) (m : Option (V3dModelManager D F)) :
    Process Doc D F :=
  { p with managers := fun d => if d = doc then m else p.managers d }

/-- `QueueMesh`'s arguments and the globals set for it. -/
def queueContext (model : V3dModel D F) (request : RenderRequest D) : QueueContext D F :=
  { imageWidth := request.imageWidth
    imageHeight := request.imageHeight
    sceneMinBound := request.camera.sceneMinBound
    sceneMaxBound := request.camera.sceneMaxBound
    remesh := model.remesh
    orthographic := model.file.orthographic
    drawMode := model.drawMode
    projViewMat := request.camera.projViewMat
    normMat := request.camera.normMat
    materials := model.file.materials
    pixelsPerBp :=
      if 0 < model.file.canvasWidth then
        Scalar.lit request.imageWidth / Scalar.lit model.file.canvasWidth.toNat
      else Scalar.lit 1 }

/-- Whether a request names another model than the last one of the process. -/
def switchedModel (p : Process Doc D F) (request : RenderRequest D) : Bool :=
  request.pageNumber != p.lastPage || request.modelIndex != p.lastModel

/-- The model as its mesh is queued: the new camera, and `remesh` set on a switch and on a new
size. -/
def enterModel (p : Process Doc D F) (model : V3dModel D F) (request : RenderRequest D) :
    V3dModel D F :=
  { model with
    camera := request.camera
    -- `updateViewMatrix`
    hasChanged := true
    remesh := model.remesh || p.switchedModel request || model.imageSize != request.imageSize }

/-- The renderer as it is entered: on a switch it takes over the model's draw mode. -/
def enterRenderer (p : Process Doc D F) (model : V3dModel D F) (request : RenderRequest D)
    (r : Renderer F) : Renderer F :=
  if p.switchedModel request then { r with currentDrawMode := model.drawMode } else r

/-- `RenderModel` from the lock on: the mesh is queued and, if there is something to draw, the frame
is rendered. -/
def renderLocked (T : Tessellation D F) (p : Process Doc D F) (doc : Doc)
    (m : V3dModelManager D F) (r : Renderer F) (model : V3dModel D F) (request : RenderRequest D) :
    Process Doc D F × FrameTrace F :=
  let r := p.enterRenderer model request r
  let model := p.enterModel model request
  let (file, es) := model.file.QueueMesh T (queueContext model request)
  let cpu := p.buffers.clear.apply es.flatten
  let model := { model with file }
  let m := { m with lastQueued := some request.key }
  let p := { p with lastPage := request.pageNumber, lastModel := request.modelIndex }
  if !hasRenderableData cpu then
    ({ p with buffers := cpu }.setManager doc
      ({ m with renderer := some r }.setModel request.key model),
      .blank)
  else
    let model := { model with remesh := model.remesh && model.drawMode = .outline }
    let (r, cpu, trace) := r.render cpu
      { targetSize := request.imageSize
        materials := model.file.materials
        lights := model.file.lights
        drawMode := model.drawMode
        remesh := model.remesh
        blendBig := request.blendBig
        fault := request.fault }
    let model :=
      if trace.completed then { model with hasChanged := false, imageSize := request.imageSize }
      else model
    ({ p with buffers := cpu }.setManager doc
      ({ m with renderer := some r }.setModel request.key model),
      trace)

/-- What a request finds, if `RenderModel` gets to its lock with it: the manager, its renderer and
the model. It does not where there is no renderer or no positive size, where the cached image will
do, and where the canvas is empty. -/
def entered (p : Process Doc D F) (doc : Doc) (request : RenderRequest D) :
    Option (V3dModelManager D F × Renderer F × V3dModel D F) := do
  let m ← p.managers doc
  let r ← m.renderer
  let model ← m.model? request.key
  if request.imageWidth ≤ 0 ∨ request.imageHeight ≤ 0 then none
  else if !model.hasChanged && model.imageSize == request.imageSize then none
  else if request.zeroCanvas then none
  else some (m, r, model)

/-- `V3dModelManager::RenderModel`: the process after it, and what was recorded. -/
def RenderModel (T : Tessellation D F) (p : Process Doc D F) (doc : Doc)
    (request : RenderRequest D) : Process Doc D F × FrameTrace F :=
  match p.entered doc request with
  | none => (p, .blank)
  | some (m, r, model) => p.renderLocked T doc m r model request

/-- A change of one model of an open document. -/
def updateModel (p : Process Doc D F) (doc : Doc) (key : ModelKey)
    (f : V3dModel D F → V3dModel D F) : Process Doc D F :=
  match p.managers doc with
  | none => p
  | some m =>
    match m.model? key with
    | none => p
    | some model => p.setManager doc (m.setModel key (f model))

/-- One action. -/
def step (T : Tessellation D F) (p : Process Doc D F) : Action Doc D F → Process Doc D F
  | .openDocument doc device =>
    if (p.managers doc).isNone then p.setManager doc (some (.init device)) else p
  | .closeDocument doc => p.setManager doc none
  | .setDocument doc => p.setManager doc ((p.managers doc).map .clear)
  | .addModel doc page scene camera =>
    match p.managers doc with
    | none => p
    | some m => p.setManager doc (m.addModel page (.ofScene scene camera))
  | .interact doc key remesh =>
    p.updateModel doc key fun model =>
      { model with hasChanged := true, remesh := model.remesh || remesh }
  | .cycleMode doc key =>
    p.updateModel doc key fun model =>
      { model with drawMode := model.drawMode.cycle, hasChanged := true, remesh := true }
  | .render doc request => (p.RenderModel T doc request).1

end Process

end OkularV3d
