import OkularV3d.Lib.Fallible
import OkularV3d.Lib.SyncObjects
import OkularV3d.Scene.VertexBuffer

/-!
# Fences and semaphores of the headless renderer

`HeadlessRenderer` orders its submissions with one timeline semaphore, and for its one frame in
flight with the fences `inComputeFence` and `transferFence` and the binary semaphore
`transferDoneSemaphore`. `Sync` holds these handles, the counters that go with them, and the flags
that decide which submissions a `render()` call makes; its `log` is the history of everything done
with fences and semaphores, in the sense of `SyncObjects`.

A Vulkan call returns a `VkResult`. `Sync.answers` are the results of the calls still to come, so
that a call can time out, run out of memory or fail at any point; calls that are checked in a row
between two operations on fences and semaphores are one call here. Creating a fence or a semaphore
succeeds. Therefore no handle here is null from the constructor on, and the branches that create a
missing object are never taken. `V3dVulkanError` is the only exception the code throws of its own,
and the only one here. `inFlightFence` is created and destroyed with the others and used
by no submission and no wait; it is left out. The counters are natural numbers: `uint64_t` does not
wrap before `2 ^ 64` submissions.

* `Vk` is the monad of the code: a `V3dVulkanError` or a result, over the state `Sync`.
* `safeWaitForFences` and `safeWaitTimelineSemaphore` are the waits, with their retries;
  `beginTransferRecording` and `endAndSubmitTransfers` frame the uploads of a frame.
* `submitCount` and `submitMain` are the submissions of the two passes, `submitOnce` that of a
  single command.
* `renderBody` is the `try` block of `render()`, and `renderFrame` adds its `catch`.

That every run keeps the rules is proved in `OkularV3d.Render.Discipline`.
-/

namespace OkularV3d.Synchronisation

open Fallible SyncObjects Runs

/-! ### The renderer's part of Vulkan -/

/-- `VkResult`, as far as the code distinguishes results. -/
inductive VkResult where
  | success
  | timeout
  | outOfMemory
  | error
  deriving DecidableEq, Repr

/-- `V3dVulkanError`: a checked call failed, or a shader did not compile. -/
inductive V3dVulkanError where
  | failed (res : VkResult)
  | shader
  deriving DecidableEq, Repr

/-- The synchronisation state of a `HeadlessRenderer`.

* `created`: the handles the device has given out; `answers`: the results of its next calls;
  `log`: what has been done with fences and semaphores.
* `timelineSemaphore` to `initFailed`: the members of these names, `timelineValue` and the fences
  those of `frameObjects[0]`.
* `shaderModules`: whether `shaderModules` is non-empty. -/
structure Sync where
  created : Nat
  answers : List VkResult
  log : List Op
  timelineSemaphore : Nat
  inComputeFence : Nat
  transferFence : Nat
  transferDoneSemaphore : Nat
  currentTimelineValue : Nat
  computeTimelineValue : Nat
  timelineValue : Nat
  transferHasPendingWork : Bool
  shaderModules : Bool
  currentTargetSize : Int × Int
  currentDrawMode : DrawMode
  initialized : Bool
  initFailed : Bool

/-- What a `render()` call brings with it.

* `targetSize` (within the framebuffer limits), `drawMode`: the arguments; `isOpaque`: no
  transparent geometry is queued.
* `iblSubmissions`: the one-time submissions that fill the environment images in a full
  recreation; `reload`: those of `updateIBL`, if it replaces the images.
* `countUploads`, `mainUploads`: the uploads recorded in the count pass and in the main pass.
* `grows`: the fragment count read back exceeds the fragment buffer.
* `answers`: the results of the Vulkan calls it makes, `success` when they run out. -/
structure Call where
  targetSize : Int × Int
  drawMode : DrawMode
  isOpaque : Bool
  iblSubmissions : Nat
  reload : Option Nat
  countUploads : Nat
  mainUploads : Nat
  grows : Bool
  answers : List VkResult

/-- A member function: it updates the members and can throw. -/
abbrev Vk := ExceptT V3dVulkanError (StateM Sync)

/-- Note an operation on fences and semaphores. -/
def Sync.emit (s : Sync) (op : Op) : Sync := { s with log := s.log ++ [op] }

/-- The result of the next Vulkan call. -/
def vkCall : Vk VkResult :=
  modifyGet fun s =>
    match s.answers with
    | [] => (.success, s)
    | res :: answers => (res, { s with answers := answers })

/-- `VK_CHECK_RESULT`. -/
def vkCheckResult (f : Vk VkResult) : Vk Unit := do
  let res ← f
  if res = .success then pure () else throw (.failed res)

/-- `vkCreateFence`. -/
def vkCreateFence (signaled : Bool) : Vk Nat :=
  modifyGet fun s =>
    (s.created, { s.emit (.createFence s.created signaled) with created := s.created + 1 })

/-- `vkDestroyFence`. -/
def vkDestroyFence (fence : Nat) : Vk Unit := modify fun s => s.emit (.destroyFence fence)

/-- `vkResetFences`. -/
def vkResetFences (fence : Nat) : Vk VkResult := do
  let res ← vkCall
  if res = .success then
    modify fun s => s.emit (.resetFence fence)
    pure res
  else
    pure res

/-- `vkWaitForFences`. -/
def vkWaitForFences (fence : Nat) : Vk VkResult := do
  modify fun s => s.emit (.waitFence fence)
  vkCall

/-- `vkWaitSemaphores`, on the timeline semaphore. -/
def vkWaitSemaphores (value : Nat) : Vk VkResult := do
  modify fun s => s.emit (.waitTimeline s.timelineSemaphore value)
  vkCall

/-- `vkQueueSubmit` and `vkQueueSubmit2`. -/
def vkQueueSubmit (info : Submission) : Vk VkResult := do
  let res ← vkCall
  modify fun s => s.emit (.submit info (res = .success))
  pure res

/-- `vkDestroySemaphore(timelineSemaphore)` and `createTimelineSemaphore(0)`, with all counters
set back to zero. -/
def resetTimeline : Vk Unit :=
  modify fun s =>
    { (s.emit (.destroyTimeline s.timelineSemaphore)).emit (.createTimeline s.created) with
      created := s.created + 1
      timelineSemaphore := s.created
      currentTimelineValue := 0
      computeTimelineValue := 0
      timelineValue := 0 }

/-- A command buffer that is submitted once and waited for, as `copyIBLDataToImage`,
`transitionImageLayout` and `zeroTransparencyBuffers` do after their recording. -/
def submitOnce : Vk Unit := do
  vkCheckResult vkCall
  let fence ← vkCreateFence false
  vkCheckResult (vkQueueSubmit { wait := none, signal := none, advance := none, fence := fence })
  vkCheckResult (vkWaitForFences fence)
  vkDestroyFence fence

/-! ### Waiting and recovering -/

/-- `HeadlessRenderer::safeWaitForFences`. The result of the `vkDeviceWaitIdle` and of the reset is
only printed. -/
def safeWaitForFences (fence : Nat) : Vk Unit := do
  let res ← vkWaitForFences fence
  if res = .success then
    pure ()
  else
    let _ ← vkCall
    let _ ← vkResetFences fence

/-- The retry loop of `safeWaitTimelineSemaphore`, with the retries left: whether the wait
succeeded. -/
def retryWait (value : Nat) : Nat → Vk Bool
  | 0 => pure false
  | retries + 1 => do
    let res ← vkWaitSemaphores value
    match res with
    | .success => pure true
    | .timeout => retryWait value retries
    | _ => pure false

/-- `maxRetries` of `safeWaitTimelineSemaphore`. -/
def maxRetries : Nat := 10

/-- `HeadlessRenderer::safeWaitTimelineSemaphore`. -/
def safeWaitTimelineSemaphore (value : Nat) : Vk Unit := do
  if value = 0 then
    pure ()
  else
    let reached ← retryWait value maxRetries
    if reached then
      pure ()
    else
      let _ ← vkCall
      resetTimeline

/-- `HeadlessRenderer::cleanup`, as far as it touches fences and semaphores. The result of its
`vkDeviceWaitIdle` is only printed. -/
def cleanup : Vk Unit := do
  let _ ← vkCall
  resetTimeline
  modify fun s =>
    { (s.emit (.destroyFence s.inComputeFence)).emit (.createFence s.created true) with
      created := s.created + 1
      inComputeFence := s.created }
  modify fun s =>
    { (s.emit (.destroyFence s.transferFence)).emit (.createFence s.created true) with
      created := s.created + 1
      transferFence := s.created }
  modify fun s =>
    { (s.emit (.destroyBinary s.transferDoneSemaphore)).emit (.createBinary s.created) with
      created := s.created + 1
      transferDoneSemaphore := s.created }

/-! ### Transfers and the count pass -/

/-- `HeadlessRenderer::beginTransferRecording`. -/
def beginTransferRecording : Vk Unit := do
  modify fun s => { s with transferHasPendingWork := false }
  let s ← get
  safeWaitForFences s.transferFence
  vkCheckResult (vkResetFences s.transferFence)
  vkCheckResult vkCall

/-- One upload of `HeadlessRenderer::uploadBuffer`. -/
def upload : Vk Unit := do
  vkCheckResult vkCall
  modify fun s => { s with transferHasPendingWork := true }

/-- `HeadlessRenderer::endAndSubmitTransfers`. -/
def endAndSubmitTransfers : Vk Unit := do
  vkCheckResult vkCall
  let s ← get
  vkCheckResult (vkResetFences s.transferFence)
  vkCheckResult (vkQueueSubmit
    { wait := none
      signal := if s.transferHasPendingWork then some s.transferDoneSemaphore else none
      advance := none
      fence := some s.transferFence })

/-- The end of `refreshBuffers`: it submits the count and compute command buffers. -/
def submitCount (hasPendingTransfers : Bool) : Vk Unit := do
  modify fun s =>
    { s with
      currentTimelineValue := s.currentTimelineValue + 1
      computeTimelineValue := s.currentTimelineValue + 1 }
  let s ← get
  vkCheckResult (vkQueueSubmit
    { wait := if hasPendingTransfers then some s.transferDoneSemaphore else none
      signal := none
      advance := some (s.timelineSemaphore, s.computeTimelineValue)
      fence := some s.inComputeFence })

/-- `HeadlessRenderer::refreshBuffers`. -/
def refreshBuffers (call : Call) : Vk Unit := do
  if call.isOpaque then
    pure ()
  else
    let s ← get
    safeWaitTimelineSemaphore s.computeTimelineValue
    let s ← get
    vkCheckResult (vkResetFences s.inComputeFence)
    beginTransferRecording
    vkCheckResult vkCall
    times upload call.countUploads
    vkCheckResult vkCall
    endAndSubmitTransfers
    let s ← get
    submitCount s.transferHasPendingWork

/-- `HeadlessRenderer::createBuffer`, and the same for an attachment: create it, allocate its
memory, bind it. `false` if the allocation failed. -/
def createBuffer : Vk Bool := do
  vkCheckResult vkCall
  let res ← vkCall
  if res = .success then
    vkCheckResult vkCall
    pure true
  else
    pure false

/-- Create a number of buffers, up to the first that cannot be allocated. -/
def createBuffers : Nat → Vk Bool
  | 0 => pure true
  | count + 1 => do
    let allocated ← createBuffer
    if allocated then createBuffers count else pure false

/-- `HeadlessRenderer::readFeedback`: `false` if the two fragment buffers could not grow. -/
def readFeedback (call : Call) : Vk Bool := do
  let s ← get
  safeWaitForFences s.inComputeFence
  vkCheckResult vkCall
  if call.grows then createBuffers 2 else pure true

/-! ### `render()` -/

/-- `HeadlessRenderer::createShaderModules`. The modules compile once in a session; a failure
disables rendering. -/
def createShaderModules : Vk Unit := do
  let s ← get
  if s.shaderModules then
    pure ()
  else
    modify fun s => { s with shaderModules := true }
    let res ← vkCall
    if res = .success then
      vkCheckResult vkCall
    else
      modify fun s => { s with initFailed := true }
      throw .shader

/-- `HeadlessRenderer::recreateGraphicsPipelines`. -/
def recreateGraphicsPipelines (drawMode : DrawMode) : Vk Unit := do
  modify fun s => { s with currentDrawMode := drawMode }
  let _ ← vkCall
  createShaderModules
  vkCheckResult vkCall

/-- `HeadlessRenderer::createAttachments`, colour, depth and resolve. -/
def createAttachments : Vk Bool := createBuffers 3

/-- `HeadlessRenderer::createTransparencyBuffers`. -/
def createTransparencyBuffers : Vk Bool := do
  let allocated ← createBuffers 8
  if allocated then
    submitOnce
    pure true
  else
    pure false

/-- `HeadlessRenderer::updateIBL`. -/
def updateIBL : Option Nat → Vk Unit
  | none => pure ()
  | some submissions => do
    let _ ← vkCall
    times submitOnce submissions
    vkCheckResult vkCall

/-- After a failure: everything is made anew by the next call. -/
def forgetTarget : Vk Unit :=
  modify fun s => { s with initialized := false, currentTargetSize := (0, 0) }

/-- The start of a full recreation: what the last one made is destroyed. -/
def release : Vk Unit := do
  let _ ← vkCall
  let s ← get
  if s.initialized then
    cleanup
    modify fun s => { s with initialized := false }
  else
    pure ()

/-- The branch of `render` for a full recreation: `false` if it ran out of memory. -/
def recreate (call : Call) : Vk Bool := do
  release
  let attached ← createAttachments
  if attached then
    vkCheckResult vkCall
    times submitOnce call.iblSubmissions
    vkCheckResult vkCall
    modify fun s => { s with currentDrawMode := call.drawMode }
    createShaderModules
    vkCheckResult vkCall
    let buffered ← createTransparencyBuffers
    if buffered then
      vkCheckResult vkCall
      modify fun s => { s with initialized := true, currentTargetSize := call.targetSize }
      pure true
    else
      cleanup
      forgetTarget
      pure false
  else
    forgetTarget
    pure false

/-- The start of `render`: it makes the resources fit the size and the draw mode, or waits for the
frame before. -/
def prepare (call : Call) : Vk Bool := do
  let s ← get
  if call.drawMode ≠ s.currentDrawMode ∧ s.currentTargetSize = call.targetSize then
    recreateGraphicsPipelines call.drawMode
    pure true
  else if s.currentTargetSize ≠ call.targetSize ∨ s.initialized = false then
    recreate call
  else
    safeWaitTimelineSemaphore s.timelineValue
    pure true

/-- The end of `render`: it submits the main command buffer and waits for it. -/
def submitMain (hasPendingTransfers : Bool) : Vk Unit := do
  modify fun s => { s with currentTimelineValue := s.currentTimelineValue + 1 }
  let s ← get
  vkCheckResult (vkQueueSubmit
    { wait := if hasPendingTransfers then some s.transferDoneSemaphore else none
      signal := none
      advance := some (s.timelineSemaphore, s.currentTimelineValue)
      fence := none })
  modify fun s => { s with timelineValue := s.currentTimelineValue }
  let s ← get
  safeWaitTimelineSemaphore s.timelineValue

/-- The main pass of `render`. -/
def drawMain (call : Call) : Vk Unit := do
  beginTransferRecording
  vkCheckResult vkCall
  times upload call.mainUploads
  vkCheckResult vkCall
  let s ← get
  endAndSubmitTransfers
  submitMain s.transferHasPendingWork

/-- The count pass of `render`: `false` if it ran out of memory. -/
def countPass (call : Call) : Vk Bool := do
  refreshBuffers call
  if call.isOpaque then pure true else readFeedback call

/-- The frame itself: `false` if it ran out of memory. -/
def draw (call : Call) : Vk Bool := do
  updateIBL call.reload
  let enough ← countPass call
  if enough then
    drawMain call
    pure true
  else
    cleanup
    forgetTarget
    pure false

/-- The `try` block of `render`: whether it returns an image. -/
def renderBody (call : Call) : Vk Bool := do
  let s ← get
  if s.initFailed then
    pure false
  else
    let prepared ← prepare call
    if prepared then draw call else pure false

/-- `HeadlessRenderer::render`: whether it returns an image. -/
def renderFrame (call : Call) : Vk Bool :=
  tryCatch (renderBody call) fun _ => do
    tryCatch cleanup fun _ => pure ()
    forgetTarget
    pure false

/-- One `render()` call. -/
def render (s : Sync) (call : Call) : Sync :=
  ((renderFrame call).run.run { s with answers := call.answers }).2

/-- The renderer after its constructor. One that failed (`initFailed`) may have created fewer of
these objects; it does nothing with them. -/
def init (initFailed : Bool) : Sync :=
  { created := 4
    answers := []
    log := [.createTimeline 0, .createFence 1 true, .createFence 2 true, .createBinary 3]
    timelineSemaphore := 0
    inComputeFence := 1
    transferFence := 2
    transferDoneSemaphore := 3
    currentTimelineValue := 0
    computeTimelineValue := 0
    timelineValue := 0
    transferHasPendingWork := false
    shaderModules := false
    currentTargetSize := (0, 0)
    currentDrawMode := .normal
    initialized := false
    initFailed := initFailed }

end OkularV3d.Synchronisation
