import OkularV3d.Lib.Runs
import OkularV3d.Render.Prepare

/-!
# The mapped material and light buffers

Both buffers are created, with the size of the list of that moment, by a full recreation only, and
are written by every frame: the materials as a whole, of the lights the first one. Whether a frame
fits into them, and finds in them what its push constants announce, depends on the call that
created them. `materialsFit_along_iff` and `lightsAgree_along_iff` give the exact condition on the
calls of a run for either buffer.

* `HasMappedBuffers` is the invariant: an initialised renderer has both buffers.
* `MaterialsFit` and `LightsAgree` are the properties of a call, `MaterialRoom` and `LightsInPlace`
  the conditions, on the buffers that the call finds.
* `materialsFit_iff` and `lightsAgree_iff` are the equivalences for one call.
* Each result is followed by a run in which a second model of the page, with more entries than the
  first, breaks the property.
-/

namespace OkularV3d

open Runs

namespace MappedBuffer

variable {α : Type} {buffer entries : List α}

/-- Entries that fit are found at the start of the buffer after the copy. -/
theorem take_copy (h : entries.length ≤ buffer.length) :
    (copy buffer entries).take entries.length = entries := by
  rw [copy, List.take_of_length_le h, List.take_left]

/-- A copy never changes the size of the mapping. -/
@[simp] theorem length_copy : (copy buffer entries).length = buffer.length := by
  simp only [copy, List.length_append, List.length_take, List.length_drop]
  omega

end MappedBuffer

namespace Renderer

variable {D F : Type} [Scalar F] [Rounding D F]

/-- The arguments of a `render()` call with the global vertex buffers it finds. -/
abbrev Request (D F : Type) := Buffers F × RenderCall D F

/-- One `render()` call, whatever the global buffers hold. -/
def call (r : Renderer F) (request : Request D F) : Renderer F :=
  (r.render request.1 request.2).1

/-- An initialised renderer has both mapped buffers, with at least one entry each. -/
def HasMappedBuffers (r : Renderer F) : Prop :=
  r.initialized = true →
    ∃ m l, r.materialBuffer = some m ∧ r.lightBuffer = some l ∧ 0 < m.length ∧ 0 < l.length

omit [Rounding D F] in
theorem length_gpuMaterials (materials : List (V3dMaterial F)) :
    (gpuMaterials materials).length = max 1 materials.length := by
  cases materials with
  | nil => rfl
  | cons m ms => simp [gpuMaterials]

theorem length_gpuLights (lights : List (Light D F)) :
    (gpuLights lights).length = max 1 lights.length := by
  cases lights with
  | nil => rfl
  | cons l ls => simp [gpuLights]

/-- The mapped buffers are in place when the per-frame copies start. -/
theorem HasMappedBuffers.prepared {r : Renderer F} (hr : r.HasMappedBuffers)
    (c : RenderCall D F) : (r.prepared c).HasMappedBuffers := by
  rw [Renderer.prepared]
  cases r.preparation c with
  | recreatePipelines => exact hr
  | recreateAll =>
    intro _
    refine ⟨_, _, rfl, rfl, ?_, ?_⟩
    · rw [length_gpuMaterials]; omega
    · rw [length_gpuLights]; omega
  | keep => exact hr

theorem HasMappedBuffers.copyFrameData {r : Renderer F} (hr : r.HasMappedBuffers)
    (c : RenderCall D F) : (r.copyFrameData c).HasMappedBuffers := by
  rw [Renderer.copyFrameData]
  split_ifs with hinit
  · obtain ⟨m, l, hm, hl, hmpos, hlpos⟩ := hr hinit
    intro _
    exact ⟨_, _, by rw [hm]; rfl, by rw [hl]; rfl, by simpa using hmpos, by simpa using hlpos⟩
  · exact hr

omit [Scalar F] [Rounding D F] in
/-- The mapped buffers of a drawn frame are those its per-frame copies leave. -/
theorem drawFrame_mapped (r : Renderer F) (cpu : Buffers F) (c : RenderCall D F) :
    (r.drawFrame cpu c).1.materialBuffer = r.materialBuffer ∧
      (r.drawFrame cpu c).1.lightBuffer = r.lightBuffer := by
  rcases drawFrame_fst r cpu c with ⟨⟨gpu, h⟩, -⟩ | ⟨h, -⟩ <;> rw [h] <;> exact ⟨rfl, rfl⟩

/-- **Step lemma**: every call keeps the mapped buffers of an initialised renderer in place. -/
theorem HasMappedBuffers.call {r : Renderer F} (hr : r.HasMappedBuffers)
    (request : Request D F) : (r.call request).HasMappedBuffers := by
  obtain ⟨cpu, c⟩ := request
  rw [Renderer.call]
  cases hreach : r.reachesFrame c with
  | true =>
    rw [render_of_reachesFrame hreach]
    have hcopied := (hr.prepared c).copyFrameData c
    rcases drawFrame_fst ((r.prepared c).copyFrameData c) cpu c with ⟨⟨gpu, h⟩, -⟩ | ⟨h, -⟩
    · simp only [h]
      exact hcopied
    · intro hinit
      simp [h] at hinit
  | false =>
    rcases (render_of_not_reachesFrame hreach cpu).2 with ⟨-, h⟩ | h
    · rwa [h]
    · intro hinit
      simp [h.initialized] at hinit

omit [Scalar F] in
theorem hasMappedBuffers_init (device : Device) (initFailed : Bool) :
    (init device initFailed : Renderer F).HasMappedBuffers := by
  intro h
  cases h

/-! ### Materials -/

/-- The per-frame copy of a call's materials, if there is one, stays inside the mapping, and leaves
all of them in the buffer. -/
def MaterialsFit (r : Renderer F) (request : Request D F) : Prop :=
  ∀ write, (r.render request.1 request.2).2.2.materialCopy = some write →
    write.bytes ≤ write.mapped ∧
      ∃ buffer, (r.call request).materialBuffer = some buffer ∧
        buffer.take request.2.materials.length = request.2.materials.map .ofMaterial

/-- A frame that does not recreate the resources finds room for its materials (for one entry, if it
has none) in the buffer an earlier call has created. -/
def MaterialRoom (r : Renderer F) (request : Request D F) : Prop :=
  r.reachesFrame request.2 → r.preparation request.2 ≠ .recreateAll → r.initialized = true →
    ∀ buffer, r.materialBuffer = some buffer → max 1 request.2.materials.length ≤ buffer.length

omit [Rounding D F] in
/-- The entries written for a list of materials hold all of them. -/
theorem take_gpuMaterials (materials : List (V3dMaterial F)) :
    (gpuMaterials materials).take materials.length = materials.map .ofMaterial := by
  cases materials with
  | nil => rfl
  | cons m ms => exact List.take_of_length_le (by simp [gpuMaterials])

/-- The per-frame copy made from a state with mapped buffers is right exactly when the entries
fit. -/
theorem materialCopy_fits_iff {r : Renderer F} (hr : r.HasMappedBuffers) (c : RenderCall D F) :
    (∀ write, r.materialCopy c = some write →
        write.bytes ≤ write.mapped ∧
          ∃ buffer, (r.copyFrameData c).materialBuffer = some buffer ∧
            buffer.take c.materials.length = c.materials.map .ofMaterial) ↔
      (r.initialized = true → ∀ buffer, r.materialBuffer = some buffer →
        max 1 c.materials.length ≤ buffer.length) := by
  cases hinit : r.initialized with
  | false => simp [materialCopy, hinit]
  | true =>
    obtain ⟨m, -, hm, -, -, -⟩ := hr hinit
    have hlength := length_gpuMaterials c.materials
    simp only [materialCopy, copyFrameData, hinit, hm, if_true, Option.map_some, Option.some.injEq,
      forall_eq', forall_const, GPUMaterial.size]
    refine ⟨fun h => by omega, fun h => ⟨by omega, _, rfl, ?_⟩⟩
    have hfit : (gpuMaterials c.materials).length ≤ m.length := hlength ▸ h
    have htake := MappedBuffer.take_copy hfit
    rw [← take_gpuMaterials, ← htake, List.take_take, htake]
    congr 1
    omega

/-- Under the invariant, a call's copy is right exactly when there is room for it. -/
theorem materialsFit_iff {r : Renderer F} (hr : r.HasMappedBuffers) (request : Request D F) :
    r.MaterialsFit request ↔ r.MaterialRoom request := by
  obtain ⟨cpu, c⟩ := request
  cases hreach : r.reachesFrame c with
  | false =>
    have hblank := (render_of_not_reachesFrame hreach cpu).1
    simp [MaterialsFit, MaterialRoom, hreach, hblank, FrameTrace.blank]
  | true =>
    have hmapped := (drawFrame_mapped ((r.prepared c).copyFrameData c) cpu c).1
    have hfits := materialCopy_fits_iff (hr.prepared c) c
    simp only [MaterialsFit, MaterialRoom, call, render_of_reachesFrame hreach, hmapped, hfits,
      hreach, forall_const]
    rw [prepared]
    cases hprep : r.preparation c with
    | recreateAll =>
      simp [recreated, length_gpuMaterials]
    | recreatePipelines => simp [recreateGraphicsPipelines, createPipelines]
    | keep => simp

/-- **Material buffer capacity.** Along a run of `render()` calls, every per-frame copy stays in
the mapped material buffer and leaves all materials there if and only if every frame that keeps the
buffer of an earlier call has no more materials than that buffer has entries. -/
theorem materialsFit_along_iff (device : Device) (initFailed : Bool)
    (requests : List (Request D F)) :
    Along call MaterialsFit (init device initFailed : Renderer F) requests ↔
      Along call MaterialRoom (init device initFailed) requests := by
  have hstep : ∀ (r : Renderer F) (request : Request D F), r.HasMappedBuffers →
      r.MaterialRoom request → (r.call request).HasMappedBuffers :=
    fun _ request hr _ => hr.call request
  exact along_iff_of_invariant (fun _ request hr => materialsFit_iff hr request) hstep
    (hasMappedBuffers_init device initFailed) requests

/-- A scene of one line between two points, in the global buffers. -/
def oneLine : Buffers ℚ := fun kind =>
  if kind = .line then
    ⟨⟨[⟨⟨0, 0, -1⟩, ⟨0, 0, 1⟩, 0⟩, ⟨⟨1, 0, -1⟩, ⟨0, 0, 1⟩, 0⟩], [], [], [0, 1]⟩, 0⟩
  else ⟨.empty, 0⟩

/-- A frame of that scene with given materials and lights. -/
def plainCall (materials : List (V3dMaterial ℚ)) (lights : List (Light ℚ ℚ)) : Request ℚ ℚ :=
  (oneLine, ⟨(100, 100), materials, lights, .normal, true, false, none⟩)

/-- An opaque black material. -/
def black : V3dMaterial ℚ := ⟨⟨0, 0, 0, 1⟩, ⟨0, 0, 0, 1⟩, ⟨0, 0, 0, 1⟩, 1, 0, 0, 1⟩

/-- A frame with one material and then, at the same size, one with two: the second copies 128 bytes
into the 64 bytes mapped. -/
theorem not_materialsFit_second_model :
    ¬ Along call MaterialsFit (init ⟨false, 4096, 4096, by decide⟩ false : Renderer ℚ)
        [plainCall [black] [], plainCall [black, black] []] := by
  intro h
  have hcopy := (h.2.1 ⟨128, 64⟩ rfl).1
  exact absurd hcopy (by decide)

/-! ### Lights -/

/-- Where a call announces `n` lights, the light buffer has room for `n` entries, and the first `n`
are those of the call's lights. -/
def LightsAgree (r : Renderer F) (request : Request D F) : Prop :=
  ∀ n, (r.render request.1 request.2).2.2.announced = some n →
    let buffer := (r.call request).lightBuffer.getD []
    n ≤ buffer.length ∧ buffer.take n = (request.2.lights.map .ofLight).take n

/-- The number of lights a call announces if it gets to its push constants. -/
def lightsOf (c : RenderCall D F) : Nat := if c.drawMode = .normal then c.lights.length else 0

/-- A frame that does not recreate the resources finds room for the lights it announces in the
buffer an earlier call has created, and there all of them but the first, which it writes itself.
(Nothing is written before the renderer is initialised.) -/
def LightsInPlace (r : Renderer F) (request : Request D F) : Prop :=
  r.reachesFrame request.2 → pushes request.1 request.2 → r.preparation request.2 ≠ .recreateAll →
    let n := lightsOf request.2
    let buffer := r.lightBuffer.getD []
    let written := if r.initialized then 1 else 0
    n ≤ buffer.length ∧
      (buffer.take n).drop written = ((request.2.lights.map .ofLight).take n).drop written

/-- The first `n` entries a full recreation writes, for any `n` a call can announce. -/
theorem take_gpuLights (lights : List (Light D F)) {n : Nat} (h : n = lights.length ∨ n = 0) :
    (gpuLights lights).take n = (lights.map .ofLight).take n := by
  cases lights with
  | nil =>
    have hzero : n = 0 := by simpa using h
    rw [hzero, List.take_zero, List.take_zero]
  | cons l ls => rfl

omit [Scalar F] [Rounding D F] in
theorem lightsOf_eq_or (c : RenderCall D F) : lightsOf c = c.lights.length ∨ lightsOf c = 0 := by
  rw [lightsOf]
  split_ifs
  · exact .inl rfl
  · exact .inr rfl

/-- After the per-frame copy the buffer agrees with the lights announced exactly when it did so
behind its first entry. -/
theorem lights_agree_copyFrameData_iff {r : Renderer F} (hr : r.HasMappedBuffers)
    (c : RenderCall D F) :
    (let n := lightsOf c
      let buffer := (r.copyFrameData c).lightBuffer.getD []
      n ≤ buffer.length ∧ buffer.take n = (c.lights.map .ofLight).take n) ↔
      (let n := lightsOf c
        let buffer := r.lightBuffer.getD []
        let written := if r.initialized then 1 else 0
        n ≤ buffer.length ∧
          (buffer.take n).drop written = ((c.lights.map .ofLight).take n).drop written) := by
  cases hinit : r.initialized with
  | false => simp [copyFrameData, hinit]
  | true =>
    obtain ⟨-, l, -, hl, -, hpos⟩ := hr hinit
    obtain ⟨first, rest, rfl⟩ := List.exists_cons_of_length_pos hpos
    simp only [copyFrameData, hinit, hl, if_true, Option.map_some, Option.getD_some,
      MappedBuffer.length_copy]
    refine and_congr_right fun _ => ?_
    rcases hn : lightsOf c with _ | n
    · simp
    · -- something is announced, so the call has a first light, and the copy writes it
      obtain ⟨light, lights, hlights⟩ : ∃ light lights, c.lights = light :: lights := by
        refine List.exists_cons_of_length_pos ?_
        rcases lightsOf_eq_or c with h | h <;> omega
      simp [hlights, frameLights, MappedBuffer.copy]

/-- Under the invariant, the light buffer agrees with a call exactly when it was in place. -/
theorem lightsAgree_iff {r : Renderer F} (hr : r.HasMappedBuffers) (request : Request D F) :
    r.LightsAgree request ↔ r.LightsInPlace request := by
  obtain ⟨cpu, c⟩ := request
  cases hreach : r.reachesFrame c with
  | false =>
    have hblank := (render_of_not_reachesFrame hreach cpu).1
    simp [LightsAgree, LightsInPlace, hreach, hblank, FrameTrace.blank]
  | true =>
    have hmapped := (drawFrame_mapped ((r.prepared c).copyFrameData c) cpu c).2
    have hmode : ((r.prepared c).copyFrameData c).announcedLights c = lightsOf c := by
      have : ((r.prepared c).copyFrameData c).currentDrawMode = c.drawMode := by
        rw [← prepared_currentDrawMode r c, copyFrameData]
        split_ifs <;> rfl
      simp only [announcedLights, lightsOf, this, ite_not]
    simp only [LightsAgree, LightsInPlace, call, render_of_reachesFrame hreach, hmapped,
      drawFrame_announced, hmode, hreach, forall_const]
    cases hpush : pushes cpu c with
    | false => simp
    | true =>
      simp only [if_true, Option.some.injEq, forall_eq', forall_const]
      -- only `recreateAll` writes every light of the call; the copy of a frame writes the first
      rw [lights_agree_copyFrameData_iff (hr.prepared c), prepared]
      cases hprep : r.preparation c with
      | recreateAll =>
        have hlights : lightsOf c ≤ max 1 c.lights.length := by
          rcases lightsOf_eq_or c with h | h <;> omega
        have htake : (gpuLights c.lights).take (lightsOf c) =
            (c.lights.map .ofLight).take (lightsOf c) := take_gpuLights c.lights (lightsOf_eq_or c)
        simp [recreated, length_gpuLights, htake, hlights]
      | recreatePipelines => simp [recreateGraphicsPipelines, createPipelines]
      | keep => simp

/-- **Light buffer agreement.** Along a run of `render()` calls, every frame finds in the light
buffer the lights its push constants announce if and only if every frame that keeps the buffer of
an earlier call finds there, behind the first entry, the lights it announces. -/
theorem lightsAgree_along_iff (device : Device) (initFailed : Bool)
    (requests : List (Request D F)) :
    Along call LightsAgree (init device initFailed : Renderer F) requests ↔
      Along call LightsInPlace (init device initFailed) requests := by
  have hstep : ∀ (r : Renderer F) (request : Request D F), r.HasMappedBuffers →
      r.LightsInPlace request → (r.call request).HasMappedBuffers :=
    fun _ request hr _ => hr.call request
  exact along_iff_of_invariant (fun _ request hr => lightsAgree_iff hr request) hstep
    (hasMappedBuffers_init device initFailed) requests

/-- A white light along the `z` axis. -/
def white : Light ℚ ℚ := ⟨⟨0, 0, 1⟩, ⟨1, 1, 1⟩⟩

/-- A frame with one light and then, at the same size, one with two: the second announces two lights
over a buffer with room for one. -/
theorem not_lightsAgree_second_model :
    ¬ Along call LightsAgree (init ⟨false, 4096, 4096, by decide⟩ false : Renderer ℚ)
        [plainCall [black] [white], plainCall [black] [white, white]] := by
  intro h
  have hroom := (h.2.1 2 rfl).1
  exact absurd hroom (by decide)

end Renderer

end OkularV3d
