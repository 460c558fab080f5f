import Mathlib.Data.List.Nodup
import OkularV3d.Lib.Explore
import OkularV3d.Render.Lifecycle

/-!
# The table of the renderer's members

A buffer, its memory and its mapping make a group of the table; every other member has a group of
its own. `initialised` and `blank` are the tables of the stores in which a call can start: after a
call that has set everything up, and before any has.

* `memberGroup` and `memberPlace` number the members, `flagGroup` the flags; the lemmas about them
  are what `Layout` of `OkularV3d.Lib.Explore` asks for, and `layout` packs them.
* `table` builds a table from the values that every member and every flag may have.
* `initialisedValues`, `initialisedFlags`, `blankValues` and `blankFlags` are the rows of the two
  tables. What they must contain is checked where they are used, by the exploration in
  `OkularV3d.Render.HandleSafety`.
-/

namespace OkularV3d

namespace HandleSafety

open Chunks Handles

/-! ### Places -/

/-- The number of a buffer. -/
def bufferIndex : BufferName → Nat
  | .vertex kind => 11 + 4 * kind.ctorIdx
  | .index kind => 12 + 4 * kind.ctorIdx
  | .vertexStaging kind => 13 + 4 * kind.ctorIdx
  | .indexStaging kind => 14 + 4 * kind.ctorIdx
  | b => b.ctorIdx

/-- The group of a member. -/
def memberGroup : Member → Nat
  | .buffer b | .memory b => bufferIndex b
  | .mapped b => bufferIndex b.buffer
  | .attachment a part => 35 + 3 * a.ctorIdx + part.ctorIdx
  | .ibl i part => 44 + 4 * i.ctorIdx + part.ctorIdx
  | .hostReadableDestinationImage => 56
  | .hostReadableDestinationImageMemory => 57
  | .hostReadableDestinationImageMapped => 58
  | .descriptorSetLayout => 59
  | .descriptorPool => 60
  | .graphicsPipelineLayout => 61
  | .computeDescriptorSetLayout => 62
  | .computeDescriptorPool => 63
  | .computePipelineLayout => 64
  | .renderPass r => 65 + r.ctorIdx
  | .framebuffer r => 68 + r.ctorIdx
  | .pipeline p => 71 + p.ctorIdx
  | .computePipeline c => 88 + c.ctorIdx
  | .timelineSemaphore => 91
  | .fence f => 92 + f.ctorIdx
  | .transferDoneSemaphore => 95

/-- The place of a member in its group. -/
def memberPlace : Member → Nat
  | .memory _ => 1
  | .mapped _ => 2
  | _ => 0

/-- The group of a flag. -/
def flagGroup (f : Flag) : Nat := 96 + f.ctorIdx

/-! ### All members -/

/-- All buffers, in the order of their numbers. -/
def buffers : List BufferName :=
  [BufferName.uniform, .material, .light] ++ Code.transparencyBuffers ++ [BufferName.feedback] ++
    [BufferKind.point, .material, .color, .line, .triangle, .transparent].flatMap fun kind =>
      [BufferName.vertex kind, .index kind, .vertexStaging kind, .indexStaging kind]

/-- The first member of each group, in the order of the groups. -/
def firstMembers : List Member :=
  buffers.map Member.buffer ++
    Code.attachments.flatMap (fun a =>
      [AttachmentPart.image, .memory, .view].map (Member.attachment a)) ++
    Code.iblImages.flatMap (fun i => [IBLPart.img, .memory, .view, .sampler].map (Member.ibl i)) ++
    [Member.hostReadableDestinationImage, .hostReadableDestinationImageMemory,
      .hostReadableDestinationImageMapped, .descriptorSetLayout, .descriptorPool,
      .graphicsPipelineLayout, .computeDescriptorSetLayout, .computeDescriptorPool,
      .computePipelineLayout] ++
    [PassName.count, .opaqueGraphics, .graphics].map Member.renderPass ++
    [PassName.count, .opaqueGraphics, .graphics].map Member.framebuffer ++
    (opaquePipelines ++ remainingPipelines).map Member.pipeline ++
    [ComputeName.sum1, .sum2, .sum3].map Member.computePipeline ++
    [Member.timelineSemaphore, .fence .inCompute, .fence .transfer, .fence .inFlight,
      .transferDoneSemaphore]

/-- All members. -/
def allMembers : List Member :=
  firstMembers ++ buffers.map Member.memory ++
    [MappedName.uniform, .material, .light, .feedback].map Member.mapped

/-- All flags. -/
def allFlags : List Flag :=
  [.initFailed, .initialized, .interlock, .isOpaque, .shaderModules, .sized, .reset,
    .drawModeChanged, .hostReadableDestinationImageInitalized, .hostSized, .copied,
    .transferHasPendingWork]

theorem mem_buffers (b : BufferName) : b ∈ buffers := by
  cases b with
  | vertex kind => cases kind <;> decide
  | index kind => cases kind <;> decide
  | vertexStaging kind => cases kind <;> decide
  | indexStaging kind => cases kind <;> decide
  | _ => decide

theorem mem_allMembers (m : Member) : m ∈ allMembers := by
  cases m with
  | attachment a part => cases a <;> cases part <;> decide +kernel
  | ibl i part => cases i <;> cases part <;> decide +kernel
  | buffer b =>
    refine List.mem_append_left _ (List.mem_append_left _ ?_)
    simp [firstMembers, mem_buffers]
  | memory b =>
    refine List.mem_append_left _ (List.mem_append_right _ ?_)
    exact List.mem_map_of_mem (mem_buffers b)
  | mapped b => cases b <;> decide +kernel
  | renderPass r => cases r <;> decide +kernel
  | framebuffer r => cases r <;> decide +kernel
  | pipeline p => cases p <;> decide +kernel
  | computePipeline c => cases c <;> decide +kernel
  | fence f => cases f <;> decide +kernel
  | _ => decide +kernel

theorem mem_allFlags (f : Flag) : f ∈ allFlags := by cases f <;> decide

/-! ### The layout -/

/-- No two members have the same place. -/
theorem eq_of_memberPlace (m m' : Member) (hgroup : memberGroup m = memberGroup m')
    (hplace : memberPlace m = memberPlace m') : m = m' := by
  have hsorted : (allMembers.map fun m => memberGroup m + 96 * memberPlace m).IsChain (· < ·) := by
    decide +kernel
  have hnodup := (List.isChain_iff_pairwise.mp hsorted).imp fun hlt => Nat.ne_of_lt hlt
  refine List.inj_on_of_nodup_map hnodup (mem_allMembers m) (mem_allMembers m') ?_
  rw [hgroup, hplace]

theorem memberGroup_lt (m : Member) : memberGroup m < 96 := by
  have hall : ∀ m ∈ allMembers, memberGroup m < 96 := by decide +kernel
  exact hall m (mem_allMembers m)

theorem memberPlace_lt (m : Member) : memberPlace m < 3 := by cases m <;> simp [memberPlace]

theorem eq_of_flagGroup (f f' : Flag) (h : flagGroup f = flagGroup f') : f = f' := by
  have hnodup : (allFlags.map flagGroup).Nodup := by decide
  exact List.inj_on_of_nodup_map hnodup (mem_allFlags f) (mem_allFlags f') h

/-- The layout of the renderer's table. Tables are kept apart by whether the renderer is disabled
and initialised, and by `descriptorSetLayout`. -/
def layout : Layout Member Flag where
  group := memberGroup
  place := memberPlace
  flag := flagGroup
  keys := setChunk (flagGroup .initFailed) (setChunk (flagGroup .initialized)
    (setChunk (memberGroup .descriptorSetLayout) 0 15) 3) 3
  place_lt := memberPlace_lt
  eq_of_place := eq_of_memberPlace
  eq_of_flag := eq_of_flagGroup
  flag_ne_group f m := by
    have hlt := memberGroup_lt m
    rw [flagGroup]
    omega

/-! ### Tables -/

/-- The number of a tuple of values. -/
def tuple : List Slot → Nat
  | [] => 0
  | slot :: slots => slot.digit + 4 * tuple slots

/-- The table of the stores in which each group has one of the tuples `values`, given at its first
member, and each flag one of the values `flags`. -/
def table (values : Member → List (List Slot)) (flags : Flag → List Bool) : Nat :=
  firstMembers.foldr (fun m S => setChunk (memberGroup m) S (ofMembers ((values m).map tuple)))
    (allFlags.foldr (fun f S => setChunk (flagGroup f) S (ofMembers ((flags f).map Bool.toNat))) 0)

/-- The values after a call that has set everything up. A buffer for uploads is created where it is
first needed; memory may have been short for the three buffers whose failure is ignored. -/
def initialisedValues : Member → List (List Slot)
  | .buffer .uniform | .buffer .material | .buffer .light =>
    [[.live, .live, .live], [.null, .null, .live]]
  | .buffer .feedback => [[.live, .live, .live]]
  | .buffer (.vertex _) | .buffer (.index _) | .buffer (.vertexStaging _)
  | .buffer (.indexStaging _) => [[.live, .live], [.null, .null]]
  | .buffer _ => [[.live, .live]]
  | .timelineSemaphore | .fence _ | .transferDoneSemaphore => [[.live], [.null]]
  | _ => [[.live]]

/-- The flags after such a call. -/
def initialisedFlags : Flag → List Bool
  | .initFailed => [false]
  | .initialized | .shaderModules | .hostReadableDestinationImageInitalized => [true]
  | _ => [false, true]

/-- The table after such a call. -/
def initialised : Nat := table initialisedValues initialisedFlags

/-- The values before any call has come further than the attachments. -/
def blankValues : Member → List (List Slot)
  | .attachment .resolve .view => [[.unset], [.null], [.dangling]]
  | .attachment _ _ => [[.unset], [.dangling]]
  | .hostReadableDestinationImage | .hostReadableDestinationImageMemory
  | .hostReadableDestinationImageMapped | .descriptorPool => [[.unset]]
  | .descriptorSetLayout => [[.unset], [.null]]
  | .timelineSemaphore => [[.live], [.null]]
  | .fence _ | .transferDoneSemaphore => [[.live], [.null], [.dangling]]
  | .buffer .uniform | .buffer .material | .buffer .light => [[.unset, .unset, .null]]
  | .buffer .feedback => [[.null, .null, .null]]
  | .buffer _ => [[.null, .null]]
  | _ => [[.null]]

/-- The flags before any call has come so far. -/
def blankFlags : Flag → List Bool
  | .initFailed | .initialized | .shaderModules | .hostReadableDestinationImageInitalized => [false]
  | _ => [false, true]

/-- The table before any call has come so far. -/
def blank : Nat := table blankValues blankFlags

end HandleSafety

end OkularV3d
