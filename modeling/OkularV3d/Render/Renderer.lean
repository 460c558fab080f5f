import OkularV3d.Scene.Objects
import OkularV3d.Scene.VertexBuffer

/-!
# The headless renderer

`HeadlessRenderer::render` draws one frame on its own Vulkan device. `Renderer` holds the part of
its state a frame depends on from one call to the next: the target size and draw mode the
resources were made for, the pipelines, the persistently mapped material and light buffers, and
the vertex and index buffers on the GPU. `render` runs one call: it recreates what the size or
the draw mode makes necessary, copies materials and lights, uploads the geometry whose gate
fires, and records the draws (`FrameTrace`).

A Vulkan call can fail at any point. `FaultPoint` names the points of a call between which the
state below changes; a call carries the point at which it fails, if it does. Three of them are
out-of-memory returns with their own clean-up, the others throw `V3dVulkanError` and reach the
`catch` block. The `cleanup()` of that block, and allocations whose result the code does not
look at, are taken to succeed.

* `preparation` decides between a full recreation, new pipelines, and keeping both; `prepare`
  carries it out.
* `uploads` is the gate of `uploadBuffer`, and `GpuBuffer.upload` what passes it.
* `Recording.drawBuffer` is one draw with its upload. `Recording.countDraws` and
  `Recording.mainDraws` are the two passes, `drawFrame` and `render` the call.
* `frameLights` is the per-frame copy of lights, which takes the first one only.
-/

namespace OkularV3d

/-! ### Materials, lights and pipelines -/

/-- `GPUMaterial`. -/
structure GPUMaterial (F : Type) where
  diffuse : Vec4 F
  emissive : Vec4 F
  specular : Vec4 F
  parameters : Vec4 F
  deriving DecidableEq

/-- `sizeof(GPUMaterial)`: four `vec4`s. -/
def GPUMaterial.size : Nat := 64

/-- `GPULight`. -/
structure GPULight (F : Type) where
  direction : Vec4 F
  color : Vec4 F
  deriving DecidableEq

/-- `VkPolygonMode`. -/
inductive PolygonMode where
  | fill
  | line
  | point
  deriving DecidableEq, Repr

/-- The graphics pipelines of the renderer. -/
inductive PipelineName where
  | material | color | line | point
  | materialCount | colorCount | triangleCount | transparentCount | pointCount
  | materialTransparent | colorTransparent | triangleTransparent | lineTransparent
  | pointTransparent | transparent | blend | blendBig
  deriving DecidableEq, Repr

/-- The polygon mode a `create…Pipeline` function gives its pipeline: surfaces follow the draw
mode; lines, points and the blend quad have one of their own. -/
def PipelineName.polygonMode : PipelineName → DrawMode → PolygonMode
  | .line, _ | .lineTransparent, _ => .line
  | .point, _ | .pointCount, _ | .pointTransparent, _ => .point
  | .blend, _ | .blendBig, _ => .fill
  | _, .wireframe | _, .outline => .line
  | _, .normal => .fill

/-- A live pipeline: the draw mode it was created under and the polygon mode it has. -/
structure Pipeline where
  createdFor : DrawMode
  polygonMode : PolygonMode
  deriving DecidableEq, Repr

/-- The pipelines of the first half of a full recreation, in order. -/
def opaquePipelines : List PipelineName := [.material, .color, .line, .point]

/-- The pipelines created at the end of a full recreation, in order. -/
def remainingPipelines : List PipelineName :=
  [.materialCount, .colorCount, .triangleCount, .transparentCount, .pointCount,
    .materialTransparent, .colorTransparent, .triangleTransparent, .lineTransparent,
    .pointTransparent, .transparent, .blend, .blendBig]

/-! ### The renderer -/

/-- A host-visible buffer mapped for its whole lifetime: its entries, all of its mapped size. -/
abbrev MappedBuffer (α : Type) := List α

/-- The GPU vertex and index buffers of one global `VertexBuffer`; `none` is
`VK_NULL_HANDLE`. -/
structure GpuBuffer (F : Type) where
  vertices : Option (List (Vertex F))
  indices : Option (List UInt32)
  deriving DecidableEq

/-- What the device fixes: whether it has fragment shader interlock, and its framebuffer limits. -/
structure Device where
  interlock : Bool
  maxFramebufferWidth : Int
  maxFramebufferHeight : Int
  maxFramebuffer_pos : 0 < maxFramebufferWidth ∧ 0 < maxFramebufferHeight

/-- The state of a `HeadlessRenderer`.

* `initFailed`, `initialized`, `currentTargetSize`, `currentDrawMode`: the members of these names.
* `pipelines`: the live pipelines; `none` is null or destroyed.
* `materialBuffer`, `lightBuffer`: the mapped buffers; `none` before their first creation.
* `gpu`: the persistent vertex and index buffers. -/
@[ext]
structure Renderer (F : Type) where
  device : Device
  initFailed : Bool
  initialized : Bool
  currentTargetSize : Int × Int
  currentDrawMode : DrawMode
  pipelines : PipelineName → Option Pipeline
  materialBuffer : Option (MappedBuffer (GPUMaterial F))
  lightBuffer : Option (MappedBuffer (GPULight F))
  gpu : BufferKind → GpuBuffer F

/-- The points of a `render()` call at which it can fail.

* `recreatePipeline k`, `opaquePipeline k`, `pipeline k`: the `k`-th pipeline creation of
  `recreateGraphicsPipelines`, of the first and of the second half of a full recreation.
* `attachmentsOOM`, `transparencyOOM`, `feedbackOOM`: the three out-of-memory returns.
* `setup`: from `createAttachments` to the pipeline layout; `shaders`: a shader does not compile;
  `materialBuffer`, `lightBuffer`: in these two creations; `descriptors`: from there to the second
  half of the pipelines.
* `updateIBL`: while environment images are loaded, before the per-frame copies.
* `refresh`, `countUpload kind`, `countSubmit`: in the count pass of a translucent frame.
* `mainBegin`, `mainUpload kind`, `submit`: in the main pass. -/
inductive FaultPoint where
  | recreatePipeline (k : Nat)
  | attachmentsOOM
  | setup
  | shaders
  | opaquePipeline (k : Nat)
  | materialBuffer
  | lightBuffer
  | descriptors
  | transparencyOOM
  | pipeline (k : Nat)
  | updateIBL
  | refresh
  | countUpload (kind : BufferKind)
  | countSubmit
  | feedbackOOM
  | mainBegin
  | mainUpload (kind : BufferKind)
  | submit
  deriving DecidableEq, Repr

/-- The arguments of a `render()` call, whether its GPU feedback selects the big blend pipeline
(`blendBig`), and the point at which it fails. -/
structure RenderCall (D F : Type) where
  targetSize : Int × Int
  materials : List (V3dMaterial F)
  lights : List (Light D F)
  drawMode : DrawMode
  remesh : Bool
  blendBig : Bool
  fault : Option FaultPoint

/-- A recorded indexed draw: the global buffer, the pipeline bound, the number of indices and the
GPU buffers bound, after the uploads recorded before it. -/
structure Draw (F : Type) where
  kind : BufferKind
  pipeline : PipelineName
  indexCount : Nat
  bound : GpuBuffer F
  deriving DecidableEq

/-- A `memcpy` into a mapped buffer: the bytes written and the bytes mapped. -/
structure MappedWrite where
  bytes : Nat
  mapped : Nat
  deriving DecidableEq, Repr

/-- What a call records: the per-frame copy of its materials, if it gets there, its pipeline
bindings with the pipelines bound, its draws, the number of lights announced by its push constants
(`none` if nothing was pushed), and whether it returned an image. -/
structure FrameTrace (F : Type) where
  materialCopy : Option MappedWrite
  binds : List (PipelineName × Option Pipeline)
  draws : List (Draw F)
  announced : Option Nat
  completed : Bool

/-- A call that records nothing and returns no image. -/
def FrameTrace.blank {F : Type} : FrameTrace F := ⟨none, [], [], none, false⟩

section Conversions

variable {D F : Type} [Scalar F] [Rounding D F]

/-- The `GPUMaterial` of a material. -/
def GPUMaterial.ofMaterial (material : V3dMaterial F) : GPUMaterial F :=
  { diffuse := material.diffuse
    emissive := material.emissive
    specular := material.specular
    parameters := ⟨material.shininess, material.metallic, material.fresnel0, material.lightOn⟩ }

/-- The value-initialised `GPUMaterial{}`. -/
def GPUMaterial.zero : GPUMaterial F :=
  let zero : Vec4 F := ⟨Scalar.lit 0, Scalar.lit 0, Scalar.lit 0, Scalar.lit 0⟩
  ⟨zero, zero, zero, zero⟩

/-- The `GPULight` of a light. -/
def GPULight.ofLight (light : Light D F) : GPULight F :=
  { direction :=
      ⟨Rounding.narrow light.direction.x, Rounding.narrow light.direction.y,
        Rounding.narrow light.direction.z, Scalar.lit 0⟩
    color := ⟨light.color.x, light.color.y, light.color.z, Scalar.lit 1⟩ }

/-- The value-initialised `GPULight{}`. -/
def GPULight.zero : GPULight F :=
  let zero : Vec4 F := ⟨Scalar.lit 0, Scalar.lit 0, Scalar.lit 0, Scalar.lit 0⟩
  ⟨zero, zero⟩

/-- The material entries of a frame: one zero entry where there is no material. -/
def gpuMaterials (materials : List (V3dMaterial F)) : List (GPUMaterial F) :=
  if materials.isEmpty then [GPUMaterial.zero] else materials.map .ofMaterial

/-- The light entries a full recreation writes: one zero entry where there is no light. -/
def gpuLights (lights : List (Light D F)) : List (GPULight F) :=
  if lights.isEmpty then [GPULight.zero] else lights.map .ofLight

/-- The light entries the per-frame copy writes: the **first** light only. -/
def frameLights (lights : List (Light D F)) : List (GPULight F) :=
  match lights with
  | [] => [GPULight.zero]
  | light :: _ => [.ofLight light]

end Conversions

/-- `memcpy` of entries to the start of a mapped buffer. What would be written past its end is
not part of it. -/
def MappedBuffer.copy {α : Type} (buffer : MappedBuffer α) (entries : List α) : MappedBuffer α :=
  entries.take buffer.length ++ buffer.drop entries.length

/-- `uploadToPersistentBuffer`: new contents at the start of the device buffer, which is replaced
by one of their size where it is too small. (Contents under 16 bytes are padded to 16.) -/
def uploadToPersistentBuffer {α : Type} (old : Option (List α)) (contents : List α) : List α :=
  contents ++ (old.getD []).drop contents.length

/-- The copies of `uploadBuffer`: the vertices and the indices, each where there are any. -/
def GpuBuffer.upload {F : Type} (gpu : GpuBuffer F) (kind : BufferKind) (data : VertexData F) :
    GpuBuffer F :=
  { vertices :=
      if (data.vdata kind).isEmpty then gpu.vertices
      else some (uploadToPersistentBuffer gpu.vertices (data.vdata kind))
    indices :=
      if data.indices.isEmpty then gpu.indices
      else some (uploadToPersistentBuffer gpu.indices data.indices) }

/-- What `render()` recreates before it draws. -/
inductive Preparation where
  | recreatePipelines
  | recreateAll
  | keep
  deriving DecidableEq, Repr

namespace Renderer

variable {D F : Type}

/-- A renderer whose device was created (`initFailed = false`) or not. -/
def init (device : Device) (initFailed : Bool) : Renderer F :=
  { device, initFailed
    initialized := false
    currentTargetSize := (0, 0)
    currentDrawMode := .normal
    pipelines := fun _ => none
    materialBuffer := none
    lightBuffer := none
    gpu := fun _ => ⟨none, none⟩ }

/-- `cleanup()`: the pipelines and the vertex and index buffers are destroyed. The material and
light buffers are not its business. -/
def cleanup (r : Renderer F) : Renderer F :=
  { r with pipelines := fun _ => none, gpu := fun _ => ⟨none, none⟩ }

/-- The way out of a failed call: `cleanup()` and back to the uninitialised state. -/
def fail (r : Renderer F) : Renderer F :=
  { r.cleanup with initialized := false, currentTargetSize := (0, 0) }

/-- Pipelines created under the current draw mode. -/
def createPipelines (r : Renderer F) (names : List PipelineName) : Renderer F :=
  { r with
    pipelines := fun name =>
      if name ∈ names then some ⟨r.currentDrawMode, name.polygonMode r.currentDrawMode⟩
      else r.pipelines name }

/-- `recreateGraphicsPipelines`, with `currentDrawMode` set before any creation. -/
def recreateGraphicsPipelines (r : Renderer F) (drawMode : DrawMode) : Renderer F :=
  { r with currentDrawMode := drawMode }.createPipelines (opaquePipelines ++ remainingPipelines)

/-- The target size, clamped to the device's framebuffer limits. -/
def clampSize (r : Renderer F) (size : Int × Int) : Int × Int :=
  (min size.1 r.device.maxFramebufferWidth, min size.2 r.device.maxFramebufferHeight)

/-- The recreation a call needs: the pipelines alone where only the draw mode changed, everything
where the size changed or nothing is initialised. -/
def preparation (r : Renderer F) (c : RenderCall D F) : Preparation :=
  let size := r.clampSize c.targetSize
  if c.drawMode ≠ r.currentDrawMode ∧ r.currentTargetSize = size then .recreatePipelines
  else if r.currentTargetSize ≠ size ∨ r.initialized = false then .recreateAll
  else .keep

/-- The release of the old resources at the start of a full recreation. -/
def release (r : Renderer F) : Renderer F :=
  if r.initialized then
    { r.cleanup with initialized := false, materialBuffer := none, lightBuffer := none }
  else r

section Resources

variable [Scalar F] [Rounding D F]

/-- The full recreation of `render()`: `ok` with the new resources, or `error` with the state
left by a failure. -/
def recreateAll (r : Renderer F) (c : RenderCall D F) :
    Except (Renderer F) (Renderer F) :=
  let r := r.release
  if c.fault = some .attachmentsOOM then
    .error { r with initialized := false, currentTargetSize := (0, 0) }
  else if c.fault = some .setup then .error r.fail
  else
    let r := { r with currentDrawMode := c.drawMode }
    match c.fault with
    | some .shaders => .error { r with initFailed := true }.fail
    | some (.opaquePipeline _) => .error r.fail
    | fault =>
      let r := r.createPipelines opaquePipelines
      if fault = some .materialBuffer then .error r.fail
      else
        let r := { r with materialBuffer := some (gpuMaterials c.materials) }
        if fault = some .lightBuffer then .error r.fail
        else
          let r := { r with lightBuffer := some (gpuLights c.lights) }
          match fault with
          | some .descriptors | some .transparencyOOM | some (.pipeline _) => .error r.fail
          | _ =>
            .ok { r.createPipelines remainingPipelines with
              initialized := true, currentTargetSize := r.clampSize c.targetSize }

/-- The resources of a call: the light recreation of the pipelines, the full one, or what there
is. -/
def prepare (r : Renderer F) (c : RenderCall D F) : Except (Renderer F) (Renderer F) :=
  match r.preparation c with
  | .recreatePipelines =>
    match c.fault with
    | some (.recreatePipeline _) => .error { r with currentDrawMode := c.drawMode }.fail
    | _ => .ok (r.recreateGraphicsPipelines c.drawMode)
  | .recreateAll => r.recreateAll c
  | .keep => .ok r

/-- The per-frame copies into the mapped material and light buffers. -/
def copyFrameData (r : Renderer F) (c : RenderCall D F) : Renderer F :=
  if r.initialized then
    { r with
      materialBuffer := r.materialBuffer.map (·.copy (gpuMaterials c.materials))
      lightBuffer := r.lightBuffer.map (·.copy (frameLights c.lights)) }
  else r

/-- The per-frame copy of the materials as a write into mapped memory, where it is made. -/
def materialCopy (r : Renderer F) (c : RenderCall D F) : Option MappedWrite :=
  if r.initialized then
    r.materialBuffer.map fun buffer =>
      ⟨GPUMaterial.size * (gpuMaterials c.materials).length, GPUMaterial.size * buffer.length⟩
  else none

end Resources

/-! ### Recording a frame -/

/-- The gate of `uploadBuffer`: not yet copied in this frame, and the mesh is new, or was not drawn
since it changed (`maxFramesInFlight = 1`), or has no GPU buffer. -/
def uploads (r : Renderer F) (copied remesh : Bool) (kind : BufferKind)
    (buffer : VertexBuffer F) : Bool :=
  !copied && (remesh || buffer.renderCount < 1 || (r.gpu kind).vertices.isNone)

/-- `uploadBuffer` for one global buffer. -/
def uploadBuffer (r : Renderer F) (copied remesh : Bool) (kind : BufferKind)
    (buffer : VertexBuffer F) : Renderer F :=
  if r.uploads copied remesh kind buffer then
    { r with gpu := fun k => if k = kind then (r.gpu kind).upload kind buffer.data else r.gpu k }
  else r

/-- The state while a pass is recorded; `ok` is false once a call has thrown. -/
structure Recording (F : Type) where
  renderer : Renderer F
  buffers : Buffers F
  binds : List (PipelineName × Option Pipeline)
  draws : List (Draw F)
  ok : Bool

/-- The pass a draw belongs to. -/
inductive Pass where
  | count
  | main (isOpaque : Bool)
  deriving DecidableEq, Repr

/-- The pipeline a pass binds for a global buffer. -/
def Pass.pipeline : Pass → BufferKind → PipelineName
  | .count, .point => .pointCount
  | .count, .material | .count, .line => .materialCount
  | .count, .color => .colorCount
  | .count, .triangle => .triangleCount
  | .count, .transparent => .transparentCount
  | .main true, .point => .point
  | .main true, .material => .material
  | .main true, .color => .color
  | .main true, .line => .line
  | .main false, .point => .pointTransparent
  | .main false, .material => .materialTransparent
  | .main false, .color => .colorTransparent
  | .main false, .line => .lineTransparent
  | .main _, .triangle => .triangleTransparent
  | .main _, .transparent => .transparent

/-- The point at which a pass fails while it uploads a global buffer. -/
def Pass.uploadFault : Pass → BufferKind → FaultPoint
  | .count, kind => .countUpload kind
  | .main _, kind => .mainUpload kind

/-- One global buffer of a pass: where it has indices, its upload, its binding and its draw; then,
in the main pass, one more frame on its counter. -/
def Recording.drawBuffer (pass : Pass) (copied remesh : Bool) (fault : Option FaultPoint)
    (st : Recording F) (kind : BufferKind) : Recording F :=
  if !st.ok then st
  else
    let buffer := st.buffers kind
    let counted : Buffers F := fun k =>
      if k = kind ∧ pass ≠ .count then
        { buffer with renderCount := buffer.renderCount + 1 }
      else st.buffers k
    if buffer.data.indices.isEmpty then { st with buffers := counted }
    else if fault = some (pass.uploadFault kind) then { st with ok := false }
    else
      let r := st.renderer.uploadBuffer copied remesh kind buffer
      let name := pass.pipeline kind
      { st with
        renderer := r
        buffers := counted
        binds := st.binds ++ [(name, r.pipelines name)]
        draws := st.draws ++ [⟨kind, name, buffer.data.indices.length, r.gpu kind⟩] }

/-- The global buffers of subpass 0, in the order they are drawn. -/
def opaqueKinds : List BufferKind := [.point, .material, .color, .line, .triangle]

/-- The global buffers the count pass draws. -/
def countKinds (interlock : Bool) : List BufferKind :=
  if interlock then [.transparent] else opaqueKinds ++ [.transparent]

/-- The blend quad at the end of a translucent frame. -/
def Recording.bindBlend (big : Bool) (st : Recording F) : Recording F :=
  let name : PipelineName := if big then .blendBig else .blend
  if st.ok then { st with binds := st.binds ++ [(name, st.renderer.pipelines name)] } else st

/-- The draws of the count pass. -/
def Recording.countDraws (c : RenderCall D F) (st : Recording F) : Recording F :=
  (countKinds st.renderer.device.interlock).foldl
    (Recording.drawBuffer .count false c.remesh c.fault) st

/-- The draws of the main pass: subpass 0, then, in a translucent frame, the transparent geometry,
uploaded by the count pass at the latest (`copied = true`), and the blend quad. -/
def Recording.mainDraws (c : RenderCall D F) (isOpaque copied : Bool) (st : Recording F) :
    Recording F :=
  let st := opaqueKinds.foldl (Recording.drawBuffer (.main isOpaque) copied c.remesh c.fault) st
  if isOpaque then st
  else (st.drawBuffer (.main false) true c.remesh c.fault .transparent).bindBlend c.blendBig

/-- The number of lights `buildPushConstants` announces: none outside `NORMAL`. -/
def announcedLights (r : Renderer F) (c : RenderCall D F) : Nat :=
  if r.currentDrawMode ≠ .normal then 0 else c.lights.length

/-- The main render pass of `render()` and its submission. -/
def mainPass (c : RenderCall D F) (isOpaque copied : Bool) (announced : Nat)
    (pushed : Option Nat) (st : Recording F) : Renderer F × Buffers F × FrameTrace F :=
  if c.fault = some .mainBegin then
    (st.renderer.fail, st.buffers, ⟨none, st.binds, st.draws, pushed, false⟩)
  else
    let st := st.mainDraws c isOpaque copied
    if st.ok && c.fault != some .submit then
      (st.renderer, st.buffers, ⟨none, st.binds, st.draws, some announced, true⟩)
    else (st.renderer.fail, st.buffers, ⟨none, st.binds, st.draws, some announced, false⟩)

/-- The frame after the per-frame copies: for a translucent scene the count pass
(`refreshBuffers`, `readFeedback`), then the main pass. -/
def drawFrame (r : Renderer F) (cpu : Buffers F) (c : RenderCall D F) :
    Renderer F × Buffers F × FrameTrace F :=
  let isOpaque := (cpu .transparent).data.indices.isEmpty
  let announced := r.announcedLights c
  let st : Recording F := ⟨r, cpu, [], [], true⟩
  if isOpaque then mainPass c true false announced none st
  else if c.fault = some .refresh then (r.fail, cpu, .blank)
  else
    let st := st.countDraws c
    if !st.ok || c.fault == some .countSubmit || c.fault == some .feedbackOOM then
      (st.renderer.fail, st.buffers, ⟨none, st.binds, st.draws, some announced, false⟩)
    else mainPass c false (!r.device.interlock) announced (some announced) st

/-- `HeadlessRenderer::render`. -/
def render [Scalar F] [Rounding D F] (r : Renderer F) (cpu : Buffers F) (c : RenderCall D F) :
    Renderer F × Buffers F × FrameTrace F :=
  if r.initFailed then (r, cpu, .blank)
  else
    match r.prepare c with
    | .error r => (r, cpu, .blank)
    | .ok r =>
      if c.fault = some .updateIBL then (r.fail, cpu, .blank)
      else
        let (drawn, cpu, trace) := (r.copyFrameData c).drawFrame cpu c
        (drawn, cpu, { trace with materialCopy := r.materialCopy c })

end Renderer

end OkularV3d
