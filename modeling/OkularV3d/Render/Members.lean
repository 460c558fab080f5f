import OkularV3d.Lib.Handles
import OkularV3d.Render.Renderer

/-!
# The handles of the headless renderer

`Member` lists the members of `HeadlessRenderer` that hold a Vulkan handle or a mapped pointer and
change after the constructor. `Question` lists what decides the course of a `render()` call beside
its flags: which calls fail, what a failed call leaves behind, and the tests on data.

A call fails where it reports an error that the code looks at, by its return value or as a
`V3dVulkanError`. The calls whose result nobody looks at, `vkMapMemory` of a persistent mapping
and `vkDeviceWaitIdle`, are taken to succeed.

* `Member` is built from the families below it: attachments, environment images, buffers, render
  passes, pipelines, fences.
* `Stage` tells apart the places from which shared code is called, so that a `Question` names one
  call of the source.
* `Flag` has the members and local variables that are tested, with what `hasPendingTransfers` and
  the sizes come down to.
-/

namespace OkularV3d

/-- The three `FrameBufferAttachment`s. -/
inductive AttachmentName where
  | color | depth | resolve
  deriving DecidableEq, Repr

/-- The fields of a `FrameBufferAttachment`. -/
inductive AttachmentPart where
  | image | memory | view
  deriving DecidableEq, Repr

/-- The three environment images. -/
inductive IBLImage where
  | irradiance | brdf | reflection
  deriving DecidableEq, Repr

/-- The members of an environment image. -/
inductive IBLPart where
  | img | memory | view | sampler
  deriving DecidableEq, Repr

/-- The buffers of the renderer; each has its memory beside it. -/
inductive BufferName where
  | uniform | material | light
  | count | globalSum | offset | opaqueColor | opaqueDepth | fragment | depthFrag | feedback
  | vertex (kind : BufferKind)
  | index (kind : BufferKind)
  | vertexStaging (kind : BufferKind)
  | indexStaging (kind : BufferKind)
  deriving DecidableEq, Repr

/-- The buffers mapped for their whole lifetime. -/
inductive MappedName where
  | uniform | material | light | feedback
  deriving DecidableEq, Repr

/-- The buffer of a persistent mapping. -/
def MappedName.buffer : MappedName → BufferName
  | .uniform => .uniform
  | .material => .material
  | .light => .light
  | .feedback => .feedback

/-- The render passes, each with its framebuffer. -/
inductive PassName where
  | count | opaqueGraphics | graphics
  deriving DecidableEq, Repr

/-- The compute pipelines. -/
inductive ComputeName where
  | sum1 | sum2 | sum3
  deriving DecidableEq, Repr

/-- The fences of a frame (`maxFramesInFlight = 1`). -/
inductive FenceName where
  | inCompute | transfer | inFlight
  deriving DecidableEq, Repr

/-- The members that hold a handle or a mapped pointer. -/
inductive Member where
  | attachment (a : AttachmentName) (part : AttachmentPart)
  | ibl (i : IBLImage) (part : IBLPart)
  | hostReadableDestinationImage
  | hostReadableDestinationImageMemory
  | hostReadableDestinationImageMapped
  | buffer (b : BufferName)
  | memory (b : BufferName)
  | mapped (b : MappedName)
  | descriptorSetLayout
  | descriptorPool
  | graphicsPipelineLayout
  | computeDescriptorSetLayout
  | computeDescriptorPool
  | computePipelineLayout
  | renderPass (r : PassName)
  | framebuffer (r : PassName)
  | pipeline (p : PipelineName)
  | computePipeline (c : ComputeName)
  | timelineSemaphore
  | fence (f : FenceName)
  | transferDoneSemaphore
  deriving DecidableEq, Repr

/-- The parts of a `render()` call that run code found in several of them.

* `drawMode`: the recreation of the pipelines alone.
* `resize`: the `cleanup()` before a full recreation; `recreate`: the full recreation.
* `keep`: the wait of a call that recreates nothing.
* `update`: `updateIBL`.
* `count`: the count pass; `feedback`: `readFeedback`; `main`: the main pass.
* `transparencyOOM`, `feedbackOOM`, `caught`: the `cleanup()` after the out-of-memory return of
  `createTransparencyBuffers`, of `readFeedback`, and in the `catch` block. -/
inductive Stage where
  | drawMode | resize | recreate | keep | update | count | feedback | main
  | transparencyOOM | feedbackOOM | caught
  deriving DecidableEq, Repr

/-- Checked calls that fill no member, one after the other where nothing happens to a member
between them.

* `bind m`: the binding of the memory `m`; `fill b`: the mapping for the initial data of `b`.
* `load i`: the layout transitions and the copies of an environment image.
* `compile`, `shaderModule`: shader compilation and `vkCreateShaderModule`.
* `allocate`: `vkAllocateDescriptorSets`; `zero`: `zeroTransparencyBuffers`.
* `resetFence`, `beginRecording`, `endRecording`, `submit`: what their names say.
* `invalidate`: `vkInvalidateMappedMemoryRanges`. -/
inductive Check where
  | bind (m : Member)
  | fill (b : BufferName)
  | load (i : IBLImage)
  | compile | shaderModule
  | allocate | allocateCompute
  | zero
  | resetFence | beginRecording | endRecording | submit
  | invalidate
  deriving DecidableEq, Repr

/-- Tests on data.

* `blendBig`: the member of this name.
* `noMaterials`, `noLights`: whether these vectors are empty.
* `ibl`: the call asks for IBL and names an image; `sameIBL`: it is the one loaded.
* `uboChanged`: some matrix changed.
* `awaited`: the last frame has a timeline value to wait for; `timesOut stage`: such a wait does
  not succeed.
* `drawn kind`, `hasVertices kind`: the global buffer has indices, vertices.
* `fresh stage kind`: `remesh`, or a buffer not drawn since it changed.
* `grows stage b`: the buffer is too small for the data.
* `fragmentsExceed`: the fragments counted exceed `maxFragments`. -/
inductive Test where
  | blendBig
  | noMaterials | noLights
  | ibl | sameIBL
  | uboChanged
  | awaited
  | timesOut (stage : Stage)
  | drawn (kind : BufferKind)
  | hasVertices (kind : BufferKind)
  | fresh (stage : Stage) (kind : BufferKind)
  | grows (stage : Stage) (b : BufferName)
  | fragmentsExceed
  deriving DecidableEq, Repr

/-- What decides the course of a call.

* `fails stage m`: the call that is to fill the member `m` fails.
* `keeps stage m`: having failed, it has left in the member what was there, where it else sets it to
  null.
* `throws stage c`: one of the checked calls `c` fails.
* `holds t`: a test on data. -/
inductive Question where
  | fails (stage : Stage) (m : Member)
  | keeps (stage : Stage) (m : Member)
  | throws (stage : Stage) (c : Check)
  | holds (t : Test)
  deriving DecidableEq, Repr

/-- The members and variables a `render()` call tests or sets.

* `initFailed`, `initialized`, `interlock`: the members of these names; `isOpaque`: `Opaque`.
* `shaderModules`: whether this vector has been filled.
* `sized`: `currentTargetSize == targetSize`; `reset`: this call has set it to `{0, 0}`.
* `drawModeChanged`: `currentDrawMode != drawMode`.
* `hostReadableDestinationImageInitalized`, and `hostSized`: the size of that image is
  `targetSize`.
* `copied`, `transferHasPendingWork`: the members of these names. -/
inductive Flag where
  | initFailed | initialized | interlock | isOpaque | shaderModules
  | sized | reset | drawModeChanged
  | hostReadableDestinationImageInitalized | hostSized
  | copied | transferHasPendingWork
  deriving DecidableEq, Repr

end OkularV3d
