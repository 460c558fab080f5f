import OkularV3d.Render.Members

/-!
# What a `render()` call does to the handles

Every function that `HeadlessRenderer::render` calls, as a program over the members that hold
handles (`Handles.Prog`): its creations with what follows where they fail, its destructions, the
assignments of null, and its uses. `render` is the whole call with its `try` block.

* `Code` is a program over the members (`OkularV3d.Lib.Handles`). `make`, `fill`, `check` and `uses`
  are its idioms: a creation that throws or goes on, a checked call, a use.
* `cleanup` is the function of the `catch` block, with `cleanupHandles` for what it destroys and
  `cleanupResets` for what it sets to null.
* `recreateAll`, `recreateGraphicsPipelines` and `growFragmentBuffers` destroy and create again;
  `drawFrame` is the frame from `refreshBuffers` to the copy to the host.

No theorem is stated here: what a whole call does is the subject of `OkularV3d.Render.HandleSafety`.
-/

namespace OkularV3d

open Handles (Slot Op Cond Prog Store Outcome exec)
open Renderer (Pass)

/-- A program over the members of the renderer. -/
abbrev Code := Prog Member Flag Question

namespace Code

open Handles.Prog (block skip throw ret op setFlag branch attempt call)

/-! ### Calls -/

/-- `vkDestroy…(device, m, nullptr)` or `vkFreeMemory`. -/
def destroy (m : Member) : Code := op .destroy m

/-- `m = VK_NULL_HANDLE`. -/
def clear (m : Member) : Code := op .clear m

/-- `if (m) vkDestroy…(device, m, nullptr)`. -/
def destroyIf (m : Member) : Code := branch (.isSet m) (destroy m) skip

/-- Calls that take the handles `ms`. -/
def uses (ms : List Member) : Code := block (ms.map (op .use))

/-- A call that fills a member, and what follows where it fails. -/
def fill (stage : Stage) (m : Member) (onFail : Code) : Code :=
  branch (.ask (.fails stage m))
    (block [branch (.and (.isSet m) (.ask (.keeps stage m))) skip (clear m), onFail])
    (op .create m)

/-- A checked call that fills a member. -/
def make (stage : Stage) (m : Member) : Code := fill stage m throw

/-- Checked calls that fill no member. -/
def check (stage : Stage) (c : Check) : Code := branch (.ask (.throws stage c)) throw skip

/-- A test on data. -/
def holds (t : Test) : Cond Member Flag Question := .ask (.holds t)

/-- The unchecked `vkMapMemory` of a persistent mapping. -/
def map (memory mapped : Member) : Code := block [uses [memory], op .create mapped]

/-- `vkUnmapMemory`. -/
def unmap (memory mapped : Member) : Code := block [uses [memory], destroy mapped]

/-! ### Buffers -/

/-- `createBuffer`: out of memory, the buffer is destroyed and the error returned. -/
def createBuffer (stage : Stage) (b : BufferName) (data : Bool) : Code :=
  block
    [ make stage (.buffer b),
      fill stage (.memory b)
        (block [destroy (.buffer b), clear (.buffer b), clear (.memory b), ret]),
      if data then check stage (.fill b) else skip,
      check stage (.bind (.memory b)) ]

/-- `if (buffer) { vkDestroyBuffer(…); vkFreeMemory(…); }`. -/
def destroyBuffer (b : BufferName) : Code :=
  branch (.isSet (.buffer b)) (block [destroy (.buffer b), destroy (.memory b)]) skip

/-- The same, and both members are reset. -/
def dropBuffer (b : BufferName) : Code :=
  block [destroyBuffer b, clear (.buffer b), clear (.memory b)]

/-- The feedback buffer, unmapped first where it is mapped. -/
def destroyFeedbackBuffer : Code :=
  branch (.isSet (.buffer .feedback))
    (block [branch (.isSet (.mapped .feedback))
      (unmap (.memory .feedback) (.mapped .feedback)) skip,
      destroy (.buffer .feedback), destroy (.memory .feedback)])
    skip

/-- The seven transparency buffers before the feedback buffer. -/
def transparencyBuffers : List BufferName :=
  [.count, .globalSum, .offset, .opaqueColor, .opaqueDepth, .fragment, .depthFrag]

/-- `uploadToPersistentBuffer` for one of its two buffers: replaced where it is too small. The
result of `createBuffer` is ignored. -/
def grow (stage : Stage) (b : BufferName) : Code :=
  branch (.or (.not (.isSet (.buffer b))) (holds (.grows stage b)))
    (block [branch (.isSet (.buffer b)) (block [destroy (.buffer b), destroy (.memory b)]) skip,
      call (createBuffer stage b false) skip])
    skip

/-- `uploadToPersistentBuffer`. -/
def uploadToPersistentBuffer (stage : Stage) (dst stg : BufferName) : Code :=
  block [grow stage dst, grow stage stg,
    uses [.memory stg, .buffer stg, .buffer dst]]

/-- `uploadBuffer` for one global buffer; that its index buffer is not empty is known. -/
def uploadBuffer (stage : Stage) (kind : BufferKind) : Code :=
  branch (.and (.not (.flag .copied))
      (.or (holds (.fresh stage kind)) (.not (.isSet (.buffer (.vertex kind))))))
    (block
      [ branch (holds (.hasVertices kind))
          (block [uploadToPersistentBuffer stage (.vertex kind) (.vertexStaging kind),
            setFlag .transferHasPendingWork true])
          skip,
        uploadToPersistentBuffer stage (.index kind) (.indexStaging kind),
        setFlag .transferHasPendingWork true ])
    skip

/-! ### Attachments -/

/-- The attachments, in the order they are created. -/
def attachments : List AttachmentName := [.color, .depth, .resolve]

/-- `cleanupOnFail` of `createAttachments`. -/
def cleanupAttachments : Code :=
  block (attachments.map fun a =>
    block [destroyIf (.attachment a .view), destroyIf (.attachment a .image),
      destroyIf (.attachment a .memory), clear (.attachment a .image),
      clear (.attachment a .memory), clear (.attachment a .view)])

/-- One attachment: its image, its memory and its view. Where the allocation fails, the function
is left. -/
def createAttachment (a : AttachmentName) : Code :=
  block
    [ make .recreate (.attachment a .image),
      fill .recreate (.attachment a .memory) ret,
      uses [.attachment a .image, .attachment a .memory],
      check .recreate (.bind (.attachment a .memory)),
      make .recreate (.attachment a .view) ]

/-- `createAttachments`: out of memory, everything is cleaned up and `false` returned. -/
def createAttachments : Code :=
  call (block (attachments.map createAttachment)) (block [cleanupAttachments, ret])

/-! ### Environment images -/

/-- The environment images, in the order they are created. -/
def iblImages : List IBLImage := [.irradiance, .brdf, .reflection]

/-- `destroyIBLResources`. -/
def destroyIBLResources : Code :=
  block (iblImages.map fun i =>
    block ([.sampler, .view, .img, .memory].map fun part =>
      branch (.isSet (.ibl i part)) (block [destroy (.ibl i part), clear (.ibl i part)]) skip))

/-- `createIBLImage`, `createIBLImage3D` and one round of `createIBLPlaceholders`. -/
def createIBLImage (stage : Stage) (i : IBLImage) : Code :=
  block [make stage (.ibl i .img), make stage (.ibl i .memory),
    check stage (.bind (.ibl i .memory)), uses [.ibl i .img], check stage (.load i),
    make stage (.ibl i .view), make stage (.ibl i .sampler)]

/-- `initIBL` with `createIBLPlaceholders` where the files cannot be read: the same creations
either way. -/
def createIBLImages (stage : Stage) : Code := block (iblImages.map (createIBLImage stage))

/-- An environment image without its view or its sampler. -/
def incompleteIBL (i : IBLImage) : Cond Member Flag Question :=
  .or (.not (.isSet (.ibl i .view))) (.not (.isSet (.ibl i .sampler)))

/-- `writeIBLDescriptors`, which writes nothing while an image is incomplete. A descriptor set is
one with the pool it comes from. -/
def writeIBLDescriptors : Code :=
  branch (.or (incompleteIBL .irradiance) (.or (incompleteIBL .brdf) (incompleteIBL .reflection)))
    skip
    (uses (.descriptorPool :: iblImages.flatMap fun i => [.ibl i .view, .ibl i .sampler]))

/-- `updateIBL`. -/
def updateIBL : Code :=
  branch (.and (holds .ibl) (.not (holds .sameIBL)))
    (block [destroyIBLResources, createIBLImages .update, writeIBLDescriptors])
    skip

/-! ### Synchronisation -/

/-- `timelineSemaphore = createTimelineSemaphore(0)`, which fails before the assignment. -/
def createTimelineSemaphore (stage : Stage) : Code :=
  branch (.ask (.fails stage .timelineSemaphore)) throw (op .create .timelineSemaphore)

/-- `if (timelineSemaphore != VK_NULL_HANDLE)` it is destroyed and reset; then a new one is made. -/
def renewTimelineSemaphore (stage : Stage) : Code :=
  block
    [ branch (.isSet .timelineSemaphore)
        (block [destroy .timelineSemaphore, clear .timelineSemaphore]) skip,
      createTimelineSemaphore stage ]

/-- `safeWaitTimelineSemaphore` for a positive value. -/
def safeWaitTimelineSemaphore (stage : Stage) : Code :=
  block [uses [.timelineSemaphore],
    branch (holds (.timesOut stage)) (renewTimelineSemaphore stage) skip]

/-- A fence or semaphore of the frame, recreated in place where there is one. -/
def renew (stage : Stage) (m : Member) : Code :=
  branch (.isSet m) (block [destroy m, make stage m]) skip

/-- `beginTransferRecording`. -/
def beginTransferRecording (stage : Stage) : Code :=
  block
    [ setFlag .transferHasPendingWork false,
      branch (.isSet (.fence .transfer))
        (block [uses [.fence .transfer], check stage .resetFence]) skip,
      check stage .beginRecording ]

/-- `endAndSubmitTransfers`. -/
def endAndSubmitTransfers (stage : Stage) : Code :=
  block
    [ check stage .endRecording,
      branch (.flag .transferHasPendingWork)
        (block
          [ branch (.isSet .transferDoneSemaphore) skip (make stage .transferDoneSemaphore),
            uses [.transferDoneSemaphore] ])
        skip,
      branch (.isSet (.fence .transfer)) skip (make stage (.fence .transfer)),
      uses [.fence .transfer],
      check stage .submit ]

/-! ### `cleanup()` -/

/-- The count, transparent and blend pipelines, in the order `cleanup()` and
`recreateGraphicsPipelines` destroy them. -/
def guardedPipelines : List PipelineName :=
  [.materialCount, .colorCount, .triangleCount, .transparentCount, .pointCount,
    .materialTransparent, .colorTransparent, .triangleTransparent, .lineTransparent,
    .pointTransparent, .transparent, .blend, .blendBig]

/-- The kinds of global buffers, in the order `cleanup()` drops their persistent buffers. -/
def bufferKinds : List BufferKind := [.material, .color, .transparent, .line, .triangle, .point]

/-- The handles `cleanup()` destroys before the transparency buffers. -/
def cleanupHandles : Code :=
  block
    [ block (attachments.map fun a => block ([.view, .image, .memory].map fun part =>
        destroy (.attachment a part))),
      destroy (.pipeline .material),
      destroy (.pipeline .color),
      destroyIf (.pipeline .line),
      destroyIf (.pipeline .point),
      destroyBuffer (.vertex .line),
      destroyBuffer (.index .line),
      clear (.pipeline .line),
      clear (.buffer (.vertex .line)),
      clear (.memory (.vertex .line)),
      clear (.buffer (.index .line)),
      clear (.memory (.index .line)),
      block ([.count, .opaqueGraphics, .graphics].map fun r =>
        block [destroyIf (.renderPass r), destroyIf (.framebuffer r)]),
      destroyIf .graphicsPipelineLayout,
      block (guardedPipelines.map fun p => destroyIf (.pipeline p)),
      block ([.sum1, .sum2, .sum3].map fun c => destroyIf (.computePipeline c)),
      destroyIf .computePipelineLayout,
      destroyIf .computeDescriptorSetLayout,
      destroyIf .computeDescriptorPool ]

/-- The members `cleanup()` resets afterwards. The attachments, the opaque render pass with its
framebuffer, and the point pipeline are not among them. -/
def cleanupResets : Code :=
  block
    [ clear (.renderPass .count),
      clear (.framebuffer .count),
      clear (.renderPass .graphics),
      clear (.framebuffer .graphics),
      clear .graphicsPipelineLayout,
      block (guardedPipelines.map fun p => clear (.pipeline p)),
      clear (.pipeline .material),
      clear (.pipeline .color),
      clear (.pipeline .line),
      block ([.sum1, .sum2, .sum3].map fun c => clear (.computePipeline c)),
      clear .computePipelineLayout,
      clear .computeDescriptorSetLayout,
      clear .computeDescriptorPool,
      block ((transparencyBuffers ++ [BufferName.feedback]).map fun b =>
        block [clear (.buffer b), clear (.memory b)]),
      clear (.mapped .feedback) ]

/-- `cleanup()`. -/
def cleanup (stage : Stage) : Code :=
  block
    [ cleanupHandles,
      block (transparencyBuffers.map destroyBuffer),
      destroyFeedbackBuffer,
      cleanupResets,
      renewTimelineSemaphore stage,
      renew stage (.fence .inCompute),
      renew stage (.fence .transfer),
      renew stage (.fence .inFlight),
      renew stage .transferDoneSemaphore,
      block (bufferKinds.map fun kind =>
        block [dropBuffer (.vertex kind), dropBuffer (.index kind)]),
      block (bufferKinds.map fun kind =>
        block [dropBuffer (.vertexStaging kind), dropBuffer (.indexStaging kind)]),
      destroyIBLResources ]

/-! ### The full recreation -/

/-- `createCountRenderPass`. -/
def createCountRenderPass : Code :=
  block [make .recreate (.renderPass .count), uses [.renderPass .count],
    make .recreate (.framebuffer .count)]

/-- `createGraphicsRenderPass`. -/
def createGraphicsRenderPass : Code :=
  block
    [ make .recreate (.renderPass .graphics),
      make .recreate (.renderPass .opaqueGraphics),
      uses [.attachment .color .view, .attachment .depth .view, .renderPass .opaqueGraphics],
      make .recreate (.framebuffer .opaqueGraphics),
      uses [.attachment .color .view, .attachment .depth .view, .attachment .resolve .view,
        .renderPass .graphics],
      make .recreate (.framebuffer .graphics) ]

/-- The render pass a graphics pipeline is made for. -/
def passOf : PipelineName → PassName
  | .material | .color | .line | .point => .opaqueGraphics
  | .materialCount | .colorCount | .triangleCount | .transparentCount | .pointCount => .count
  | _ => .graphics

/-- A `create…Pipeline` function. -/
def createPipeline (stage : Stage) (p : PipelineName) : Code :=
  block [uses [.renderPass (passOf p), .graphicsPipelineLayout], make stage (.pipeline p)]

/-- `createShaderModules`: nothing after the first call. A shader that does not compile disables
the renderer. -/
def createShaderModules (stage : Stage) : Code :=
  branch (.flag .shaderModules) skip
    (block
      [ setFlag .shaderModules true,
        branch (.ask (.throws stage .compile)) (block [setFlag .initFailed true, throw]) skip,
        check stage .shaderModule ])

/-- `createUniformBuffer`. The result of `createBuffer` is ignored. -/
def createUniformBuffer : Code :=
  block [call (createBuffer .recreate .uniform false) skip,
    map (.memory .uniform) (.mapped .uniform)]

/-- `createMaterialBuffer` and `createLightBuffer`: the result of `createBuffer` is checked where
there are entries, and ignored where there are none. -/
def createMappedBuffer (b : MappedName) (none : Test) : Code :=
  block [call (createBuffer .recreate b.buffer true) (branch (holds none) skip throw),
    map (.memory b.buffer) (.mapped b)]

/-- `createDescirptorSets`. -/
def createDescirptorSets : Code :=
  block [uses [.descriptorPool, .descriptorSetLayout], check .recreate .allocate,
    uses [.descriptorPool, .buffer .uniform, .buffer .material, .buffer .light],
    writeIBLDescriptors]

/-- `updateTransparencyDescriptors`. -/
def updateTransparencyDescriptors : Code :=
  uses [.descriptorPool, .buffer .count, .buffer .offset, .buffer .fragment, .buffer .depthFrag,
    .buffer .opaqueColor, .buffer .opaqueDepth]

/-- `cleanupOnFail` of `createTransparencyBuffers`. -/
def cleanupTransparencyBuffers : Code :=
  block [block (transparencyBuffers.map dropBuffer), destroyFeedbackBuffer,
    clear (.buffer .feedback), clear (.memory .feedback), clear (.mapped .feedback)]

/-- `createTransparencyBuffers`: out of memory, everything is cleaned up and `false` returned. -/
def createTransparencyBuffers : Code :=
  block
    [ call
        (block ((transparencyBuffers ++ [BufferName.feedback]).map fun b =>
          createBuffer .recreate b false))
        (block [cleanupTransparencyBuffers, ret]),
      map (.memory .feedback) (.mapped .feedback),
      uses [.buffer .globalSum, .buffer .opaqueDepth, .buffer .count],
      check .recreate .zero ]

/-- The compute resources: descriptor set layout, pool and set, pipeline layout and pipelines. -/
def createCompute : Code :=
  block
    [ make .recreate .computeDescriptorSetLayout,
      make .recreate .computeDescriptorPool,
      uses [.computeDescriptorPool, .computeDescriptorSetLayout],
      check .recreate .allocateCompute,
      uses [.buffer .count, .buffer .globalSum, .buffer .offset, .buffer .feedback],
      make .recreate .computePipelineLayout,
      createShaderModules .recreate,
      block ([.sum1, .sum2, .sum3].map fun c =>
        block [uses [.computePipelineLayout], make .recreate (.computePipeline c)]) ]

/-- `recreateGraphicsPipelines`: all pipelines destroyed, none reset, all created again. -/
def recreateGraphicsPipelines : Code :=
  block
    [ setFlag .drawModeChanged false,
      destroy (.pipeline .material),
      destroy (.pipeline .color),
      block ((.line :: .point :: guardedPipelines).map fun p => destroyIf (.pipeline p)),
      createShaderModules .drawMode,
      block ((opaquePipelines ++ remainingPipelines).map (createPipeline .drawMode)) ]

/-- The way back to the uninitialised state: `initialized = false`, and
`currentTargetSize = { 0, 0 }`. -/
def giveUp : Code := block [setFlag .initialized false, setFlag .reset true, ret]

/-- The release of the old resources by an initialised renderer. -/
def releaseAll : Code :=
  block
    [ cleanup .resize,
      destroy (.buffer .uniform),
      destroy (.memory .uniform),
      op .expire (.mapped .uniform),
      block ([MappedName.material, .light].map fun b =>
        block
          [ branch (.isSet (.mapped b)) (unmap (.memory b.buffer) (.mapped b)) skip,
            clear (.mapped b),
            destroy (.buffer b.buffer),
            destroy (.memory b.buffer) ]),
      destroy .descriptorPool,
      destroy .descriptorSetLayout,
      setFlag .initialized false ]

/-- The full recreation of `render()`. -/
def recreateAll : Code :=
  block
    [ branch (.flag .initialized) releaseAll skip,
      call createAttachments giveUp,
      make .recreate .descriptorSetLayout,
      createIBLImages .recreate,
      createCountRenderPass,
      createGraphicsRenderPass,
      uses [.descriptorSetLayout],
      make .recreate .graphicsPipelineLayout,
      setFlag .drawModeChanged false,
      createShaderModules .recreate,
      block (opaquePipelines.map (createPipeline .recreate)),
      createUniformBuffer,
      createMappedBuffer .material .noMaterials,
      createMappedBuffer .light .noLights,
      make .recreate .descriptorPool,
      createDescirptorSets,
      call createTransparencyBuffers
        (block [cleanup .transparencyOOM, giveUp]),
      updateTransparencyDescriptors,
      createCompute,
      block (remainingPipelines.map (createPipeline .recreate)),
      setFlag .initialized true,
      setFlag .sized true,
      setFlag .reset false ]

/-! ### A frame -/

/-- The per-frame copies into the mapped buffers. -/
def copyFrameData : Code :=
  block
    [ branch (holds .uboChanged) (uses [.mapped .uniform]) skip,
      branch (.flag .initialized)
        (block ([MappedName.material, .light].map fun b =>
          branch (.isSet (.mapped b)) (uses [.mapped b]) skip))
        skip ]

/-- Upload and indexed draw of one global buffer, if it has indices, after the pipeline is
bound. -/
def drawBuffer (stage : Stage) (kind : BufferKind) (bindPipeline : Code) : Code :=
  branch (holds (.drawn kind))
    (block [uploadBuffer stage kind, bindPipeline,
      uses [.buffer (.vertex kind), .buffer (.index kind)]])
    skip

/-- A draw of the count pass. -/
def drawCount (kind : BufferKind) : Code :=
  drawBuffer .count kind (uses [.pipeline (Pass.count.pipeline kind)])

/-- A draw of the main pass, with the pipeline of an opaque or a translucent frame. -/
def drawGraphics (kind : BufferKind) : Code :=
  drawBuffer .main kind
    (branch (.flag .isOpaque) (uses [.pipeline ((Pass.main true).pipeline kind)])
      (uses [.pipeline ((Pass.main false).pipeline kind)]))

/-- The kinds drawn before the transparent one. -/
def opaqueKinds : List BufferKind := [.point, .material, .color, .line, .triangle]

/-- `recordCountCommandBuffer`. -/
def recordCountCommandBuffer : Code :=
  block
    [ check .count .beginRecording,
      uses [.renderPass .count, .framebuffer .count, .graphicsPipelineLayout, .descriptorPool],
      branch (.flag .interlock) skip (block (opaqueKinds.map drawCount)),
      drawCount .transparent,
      check .count .endRecording ]

/-- `recordComputeCommandBuffer`. -/
def recordComputeCommandBuffer : Code :=
  block
    [ check .count .beginRecording,
      uses [.computePipelineLayout, .computeDescriptorPool, .computePipeline .sum1,
        .computePipeline .sum2, .computePipeline .sum3],
      check .count .endRecording ]

/-- `refreshBuffers`. -/
def refreshBuffers : Code :=
  block
    [ setFlag .copied false,
      branch (.flag .isOpaque) skip
        (block
          [ safeWaitTimelineSemaphore .count,
            uses [.fence .inCompute],
            check .count .resetFence,
            beginTransferRecording .count,
            recordCountCommandBuffer,
            recordComputeCommandBuffer,
            endAndSubmitTransfers .count,
            branch (.flag .transferHasPendingWork) (uses [.transferDoneSemaphore]) skip,
            uses [.timelineSemaphore, .fence .inCompute],
            check .count .submit ]) ]

/-- The replacement of the fragment buffers in `readFeedback`: both destroyed, neither reset, and
created again one after the other. -/
def growFragmentBuffers : Code :=
  block
    [ destroy (.buffer .fragment),
      destroy (.memory .fragment),
      destroy (.buffer .depthFrag),
      destroy (.memory .depthFrag),
      createBuffer .feedback .fragment false,
      createBuffer .feedback .depthFrag false,
      updateTransparencyDescriptors ]

/-- `readFeedback`: out of memory, `false` is returned. -/
def readFeedback : Code :=
  block
    [ uses [.fence .inCompute, .memory .feedback],
      check .feedback .invalidate,
      uses [.mapped .feedback],
      branch (holds .fragmentsExceed) growFragmentBuffers skip ]

/-- `createHostReadableDestinationImage` with the mapping. -/
def createHostReadableDestinationImage : Code :=
  block
    [ make .main .hostReadableDestinationImage,
      make .main .hostReadableDestinationImageMemory,
      check .main (.bind .hostReadableDestinationImageMemory),
      map .hostReadableDestinationImageMemory .hostReadableDestinationImageMapped ]

/-- `destroyHostReadableDestinationImage`. -/
def destroyHostReadableDestinationImage : Code :=
  block
    [ unmap .hostReadableDestinationImageMemory .hostReadableDestinationImageMapped,
      destroy .hostReadableDestinationImageMemory,
      destroy .hostReadableDestinationImage ]

/-- `recordCopyToHost`. -/
def recordCopyToHost : Code :=
  block
    [ branch (.flag .hostSized) skip
        (block
          [ branch (.flag .hostReadableDestinationImageInitalized)
              destroyHostReadableDestinationImage skip,
            setFlag .hostSized true,
            createHostReadableDestinationImage,
            setFlag .hostReadableDestinationImageInitalized true ]),
      branch (.flag .isOpaque) (uses [.attachment .color .image])
        (uses [.attachment .resolve .image]),
      uses [.hostReadableDestinationImage] ]

/-- The render pass of the main pass, with the draws of its subpasses. -/
def drawMain : Code :=
  block
    [ branch (.flag .isOpaque)
        (uses [.renderPass .opaqueGraphics, .framebuffer .opaqueGraphics])
        (uses [.renderPass .graphics, .framebuffer .graphics]),
      uses [.graphicsPipelineLayout, .descriptorPool],
      block (opaqueKinds.map drawGraphics),
      branch (.flag .isOpaque) skip
        (block
          [ setFlag .copied true,
            drawGraphics .transparent,
            branch (holds .blendBig) (uses [.pipeline .blendBig]) (uses [.pipeline .blend]) ]) ]

/-- What a frame does after its resources are there. -/
def drawFrame : Code :=
  block
    [ updateIBL,
      copyFrameData,
      refreshBuffers,
      branch (.flag .isOpaque) skip
        (block
          [ call readFeedback
              (block [cleanup .feedbackOOM, giveUp]),
            branch (.flag .interlock) skip (setFlag .copied true) ]),
      beginTransferRecording .main,
      check .main .beginRecording,
      drawMain,
      recordCopyToHost,
      check .main .endRecording,
      endAndSubmitTransfers .main,
      branch (.flag .transferHasPendingWork) (uses [.transferDoneSemaphore]) skip,
      uses [.timelineSemaphore],
      check .main .submit,
      safeWaitTimelineSemaphore .main,
      uses [.hostReadableDestinationImage, .hostReadableDestinationImageMapped],
      ret ]

/-- The resources of a call: the pipelines alone, everything, or what there is. -/
def prepare : Code :=
  branch (.and (.flag .drawModeChanged) (.flag .sized)) recreateGraphicsPipelines
    (branch (.or (.not (.flag .sized)) (.not (.flag .initialized))) recreateAll
      (branch (holds .awaited) (safeWaitTimelineSemaphore .keep) skip))

/-- `HeadlessRenderer::render`, with the `catch` block that cleans up, swallows what the clean-up
throws, and goes back to the uninitialised state. -/
def render : Code :=
  attempt
    (block [branch (.flag .initFailed) ret skip, prepare, drawFrame])
    (block [attempt (cleanup .caught) skip, giveUp])

end Code

end OkularV3d
