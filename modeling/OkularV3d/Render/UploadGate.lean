import OkularV3d.Render.Prepare

/-!
# The upload gate

A draw reads the GPU buffers of its kind, which hold what was uploaded last. `Draw.Exact` says that
this is the geometry of the frame being drawn. `render_exact` is the rule for one frame: if
every kind with something to draw is either already held by the GPU, or will pass the gate of
`uploadBuffer`, then every draw of the frame is exact, and a completed frame leaves the GPU holding
all of it.

* `Ready` and `Pending` say of a kind that the GPU holds it, or that its gate will fire;
  `Draw.Exact` and `Recording.Sound` are about what is drawn.
* `Pending.drawBuffer` and `Sound.drawBuffer` are the step lemmas, `Sound.foldl` the run lemma of a
  pass.
* `FrameExact` is the result of a frame, for `drawFrame_exact` and `render_exact`.
* `WellFormed` is the invariant of the renderer that the runs of `OkularV3d.Manager.UploadSoundness`
  need.
-/

namespace OkularV3d

variable {D F : Type}

/-- The GPU buffers of a kind hold the vertices and the indices of `data`, at their start. -/
def GpuBuffer.Holds (gpu : GpuBuffer F) (kind : BufferKind) (data : VertexData F) : Prop :=
  data.vdata kind <+: gpu.vertices.getD [] ∧ data.indices <+: gpu.indices.getD []

/-- A draw reads exactly the geometry its frame has in the global buffer. -/
def Draw.Exact (draw : Draw F) (cpu : Buffers F) : Prop :=
  draw.indexCount = (cpu draw.kind).data.indices.length ∧
    draw.bound.Holds draw.kind (cpu draw.kind).data

/-- An upload leaves the GPU holding what was uploaded. -/
theorem GpuBuffer.holds_upload (gpu : GpuBuffer F) (kind : BufferKind) (data : VertexData F) :
    (gpu.upload kind data).Holds kind data := by
  refine ⟨?_, ?_⟩
  · simp only [upload]
    split_ifs with hempty
    · rw [List.isEmpty_iff.mp hempty]
      exact List.nil_prefix
    · exact List.prefix_append _ _
  · simp only [upload]
    split_ifs with hempty
    · rw [List.isEmpty_iff.mp hempty]
      exact List.nil_prefix
    · exact List.prefix_append _ _

namespace Renderer.Recording

variable {pass : Pass} {copied remesh : Bool} {fault : Option FaultPoint} {st : Recording F}
  {cpu : Buffers F} {kind k : BufferKind}

/-- The GPU holds the frame's geometry of a kind, if there is any to draw. -/
def Ready (st : Recording F) (kind : BufferKind) : Prop :=
  (st.buffers kind).data.indices ≠ [] →
    (st.renderer.gpu kind).Holds kind (st.buffers kind).data

/-- A kind is ready, or its upload is still to come and will pass the gate. (Once a call has thrown,
nothing more is drawn.) -/
def Pending (copied remesh : Bool) (st : Recording F) (kind : BufferKind) : Prop :=
  st.ok = true →
    st.Ready kind ∨ st.renderer.uploads copied remesh kind (st.buffers kind) = true

/-- The recording still has the frame's geometry, and what was drawn so far is exact. -/
structure Sound (cpu : Buffers F) (st : Recording F) : Prop where
  data : ∀ k, (st.buffers k).data = (cpu k).data
  draws : ∀ draw ∈ st.draws, draw.Exact cpu

/-- A failed recording stays as it is. -/
theorem drawBuffer_of_not_ok (h : st.ok = false) :
    st.drawBuffer pass copied remesh fault kind = st := by
  simp [drawBuffer, h]

/-- A recording that goes on has gone on so far. -/
theorem ok_of_drawBuffer_ok (h : (st.drawBuffer pass copied remesh fault kind).ok = true) :
    st.ok = true := by
  by_contra hok
  rw [drawBuffer_of_not_ok (by simpa using hok)] at h
  exact hok h

/-- A buffer with nothing to draw is only counted. -/
theorem drawBuffer_of_isEmpty (hok : st.ok = true)
    (h : (st.buffers kind).data.indices = []) :
    (st.drawBuffer pass copied remesh fault kind).renderer = st.renderer ∧
      (st.drawBuffer pass copied remesh fault kind).draws = st.draws := by
  simp [drawBuffer, hok, h]

/-- The gate of an upload. -/
theorem uploadBuffer_gpu (r : Renderer F) (buffer : VertexBuffer F) (k : BufferKind) :
    (r.uploadBuffer copied remesh kind buffer).gpu k =
      if k = kind ∧ r.uploads copied remesh kind buffer = true then
        (r.gpu kind).upload kind buffer.data
      else r.gpu k := by
  rw [uploadBuffer]
  split_ifs <;> simp_all

/-- Drawing a kind leaves the GPU buffers and the counters of the others alone. -/
theorem drawBuffer_of_ne (st : Recording F) (pass : Pass) (copied remesh : Bool)
    (fault : Option FaultPoint) (h : k ≠ kind) :
    (st.drawBuffer pass copied remesh fault kind).renderer.gpu k = st.renderer.gpu k ∧
      (st.drawBuffer pass copied remesh fault kind).buffers k = st.buffers k := by
  simp only [drawBuffer]
  split_ifs <;> simp [h, uploadBuffer_gpu]

/-- A draw changes no data on the CPU. -/
theorem drawBuffer_data (k : BufferKind) :
    ((st.drawBuffer pass copied remesh fault kind).buffers k).data = (st.buffers k).data := by
  by_cases hk : k = kind
  · subst hk
    simp only [drawBuffer]
    split_ifs <;> simp [apply_ite VertexBuffer.data]
  · rw [(drawBuffer_of_ne st pass copied remesh fault hk).2]

/-- A draw that is recorded: its buffer has indices, is uploaded if its gate lets it, and is then
bound. -/
theorem drawBuffer_drawn (copied remesh : Bool) (hok : st.ok = true)
    (hne : (st.buffers kind).data.indices ≠ [])
    (hfault : fault ≠ some (pass.uploadFault kind)) :
    let r := st.renderer.uploadBuffer copied remesh kind (st.buffers kind)
    let st' := st.drawBuffer pass copied remesh fault kind
    st'.renderer = r ∧ st'.ok = true ∧
      st'.draws = st.draws ++
        [⟨kind, pass.pipeline kind, (st.buffers kind).data.indices.length, r.gpu kind⟩] := by
  have hempty : (st.buffers kind).data.indices.isEmpty = false := by
    simpa using hne
  simp [drawBuffer, hok, hempty, hfault]

/-- **Step lemma**: a kind that was pending is ready once it is drawn. -/
theorem Pending.drawBuffer (h : st.Pending copied remesh kind) (pass : Pass)
    (fault : Option FaultPoint) :
    let st' := st.drawBuffer pass copied remesh fault kind
    st'.ok = true → st'.Ready kind := by
  intro st' hok' hne
  have hok := ok_of_drawBuffer_ok hok'
  rw [drawBuffer_data] at hne ⊢
  by_cases hfault : fault = some (pass.uploadFault kind)
  · simp [st', Recording.drawBuffer, hok, hfault, hne] at hok'
  · rw [(drawBuffer_drawn copied remesh hok hne hfault).1, uploadBuffer_gpu]
    rcases h hok with hready | huploads
    · split_ifs
      · exact GpuBuffer.holds_upload ..
      · exact hready hne
    · rw [if_pos ⟨rfl, huploads⟩]
      exact GpuBuffer.holds_upload ..

/-- What is ready stays ready, whatever is drawn. -/
theorem Ready.drawBuffer (h : st.Ready k) :
    (st.drawBuffer pass copied remesh fault kind).Ready k := by
  by_cases hk : k = kind
  · subst hk
    intro hne
    rw [drawBuffer_data] at hne ⊢
    simp only [Recording.drawBuffer]
    split_ifs
    · exact h hne
    · exact h hne
    · exact h hne
    · simp only [uploadBuffer_gpu]
      split_ifs
      · exact GpuBuffer.holds_upload ..
      · exact h hne
  · intro hne
    rw [(drawBuffer_of_ne st pass copied remesh fault hk).2] at hne ⊢
    rw [(drawBuffer_of_ne st pass copied remesh fault hk).1]
    exact h hne

/-- What is pending stays pending while other kinds are drawn. -/
theorem Pending.of_ne (h : st.Pending copied remesh k) {copied' : Bool} (hk : k ≠ kind) :
    (st.drawBuffer pass copied' remesh fault kind).Pending copied remesh k := by
  intro hok
  obtain ⟨hgpu, hbuffers⟩ := st.drawBuffer_of_ne pass copied' remesh fault hk
  rcases h (ok_of_drawBuffer_ok hok) with hready | huploads
  · exact .inl hready.drawBuffer
  · right
    rwa [uploads, hgpu, hbuffers, ← uploads]

/-- **Step lemma**: drawing a pending kind records an exact draw, or none. -/
theorem Sound.drawBuffer (hst : st.Sound cpu) (h : st.Pending copied remesh kind) :
    (st.drawBuffer pass copied remesh fault kind).Sound cpu := by
  refine ⟨fun k => (drawBuffer_data k).trans (hst.data k), ?_⟩
  cases hok : st.ok with
  | false =>
    rw [drawBuffer_of_not_ok hok]
    exact hst.draws
  | true =>
    by_cases hne : (st.buffers kind).data.indices = []
    · rw [(drawBuffer_of_isEmpty hok hne).2]
      exact hst.draws
    · by_cases hfault : fault = some (pass.uploadFault kind)
      · simpa [Recording.drawBuffer, hok, hfault, hne] using hst.draws
      · obtain ⟨hrenderer, hok', hdraws⟩ :=
          drawBuffer_drawn copied remesh hok hne hfault
        rw [hdraws]
        intro draw hdraw
        rcases List.mem_append.mp hdraw with hdraw | hdraw
        · exact hst.draws draw hdraw
        · -- the new draw: what it binds is what the kind is ready with
          rw [List.mem_singleton] at hdraw
          subst hdraw
          have hready := h.drawBuffer pass fault hok'
          rw [Ready, drawBuffer_data, hrenderer] at hready
          refine ⟨by rw [← hst.data], ?_⟩
          rw [← hst.data]
          exact hready hne

/-- So it is for a whole pass. -/
theorem ok_of_foldl_ok {kinds : List BufferKind}
    (h : (kinds.foldl (Recording.drawBuffer pass copied remesh fault) st).ok = true) :
    st.ok = true := by
  induction kinds generalizing st with
  | nil => exact h
  | cons kind kinds ih => exact ok_of_drawBuffer_ok (ih h)

theorem Ready.pending (h : st.Ready k) : st.Pending copied remesh k := fun _ => .inl h

/-- **Run lemma** of a pass: a pass over pending kinds draws exactly, and leaves them ready. What it
does not draw stays as it was. -/
theorem Sound.foldl {kinds : List BufferKind} (pass : Pass) (fault : Option FaultPoint)
    (hst : st.Sound cpu) (h : ∀ k ∈ kinds, st.Pending copied remesh k) :
    let st' := kinds.foldl (Recording.drawBuffer pass copied remesh fault) st
    st'.Sound cpu ∧ (st'.ok = true → ∀ k ∈ kinds, st'.Ready k) ∧
      (∀ k, st.Ready k → st'.Ready k) ∧
      ∀ copied', ∀ k ∉ kinds, st.Pending copied' remesh k → st'.Pending copied' remesh k := by
  induction kinds generalizing st with
  | nil => exact ⟨hst, fun _ _ hk => absurd hk List.not_mem_nil, fun _ h => h, fun _ _ _ h => h⟩
  | cons kind kinds ih =>
    have hkind : st.Pending copied remesh kind := h kind List.mem_cons_self
    have hrest : ∀ k ∈ kinds,
        (st.drawBuffer pass copied remesh fault kind).Pending copied remesh k := by
      intro k hk
      by_cases hkk : k = kind
      · subst hkk
        exact fun hok => .inl (hkind.drawBuffer pass fault hok)
      · exact (h k (List.mem_cons_of_mem _ hk)).of_ne hkk
    obtain ⟨hsound, hready, hkeep, hother⟩ := ih (hst.drawBuffer hkind) hrest
    refine ⟨hsound, fun hok k hk => ?_, fun k hk => hkeep k hk.drawBuffer, ?_⟩
    · rcases List.mem_cons.mp hk with rfl | hk
      · -- the first kind: ready after its own draw, and kept so by the rest
        exact hkeep k (hkind.drawBuffer pass fault (ok_of_foldl_ok hok))
      · exact hready hok k hk
    · intro copied' k hk hpending
      rw [List.mem_cons, not_or] at hk
      exact hother copied' k hk.2 (hpending.of_ne hk.1)

/-- A recording of `cpu` that has drawn everything. -/
structure Complete (cpu : Buffers F) (st : Recording F) : Prop where
  sound : st.Sound cpu
  ready : st.ok = true → ∀ k, st.Ready k

/-- The blend quad reads no vertex buffer. -/
theorem Complete.bindBlend (h : st.Complete cpu) (big : Bool) :
    (st.bindBlend big).Complete cpu := by
  simp only [Recording.bindBlend]
  split_ifs
  · exact ⟨⟨h.sound.data, h.sound.draws⟩, h.ready⟩
  · exact ⟨⟨h.sound.data, h.sound.draws⟩, h.ready⟩
  · exact h

/-- All buffers but the transparent one are drawn in the opaque pass. -/
theorem mem_opaqueKinds (h : k ≠ .transparent) : k ∈ opaqueKinds := by
  cases k <;> first | decide | exact absurd rfl h

/-- The draws of the main pass, over an opaque scene or with the transparent geometry uploaded. -/
theorem Sound.mainDraws {c : RenderCall D F} {isOpaque : Bool} (hst : st.Sound cpu)
    (h : ∀ k ∈ opaqueKinds, st.Pending copied c.remesh k)
    (hempty : isOpaque = true → (cpu .transparent).data.indices = [])
    (htransparent : isOpaque = false → st.ok = true → st.Ready .transparent) :
    (st.mainDraws c isOpaque copied).Complete cpu := by
  obtain ⟨hsound, hready, hkeep, -⟩ := hst.foldl (.main isOpaque) c.fault h
  cases isOpaque with
  | true =>
    refine ⟨hsound, fun hok k => ?_⟩
    by_cases hk : k = .transparent
    · subst hk
      intro hne
      rw [Recording.mainDraws, if_pos rfl, hsound.data] at hne
      exact absurd (hempty rfl) hne
    · exact hready hok k (mem_opaqueKinds hk)
  | false =>
    have hpending : (opaqueKinds.foldl
        (Recording.drawBuffer (.main false) copied c.remesh c.fault) st).Pending true c.remesh
          .transparent :=
      fun hok => .inl (hkeep _ (htransparent rfl (ok_of_foldl_ok hok)))
    refine Complete.bindBlend ⟨hsound.drawBuffer hpending, fun hok k => ?_⟩ _
    by_cases hk : k = .transparent
    · subst hk
      exact hpending.drawBuffer (.main false) c.fault hok
    · exact (hready (ok_of_drawBuffer_ok hok) k (mem_opaqueKinds hk)).drawBuffer

end Renderer.Recording

namespace Renderer

/-- A frame drawn exactly: every draw is, the global buffers keep their geometry, and if the frame
completes the GPU holds all of it. -/
structure FrameExact (cpu : Buffers F) (out : Renderer F × Buffers F × FrameTrace F) : Prop where
  draws : ∀ draw ∈ out.2.2.draws, draw.Exact cpu
  data : ∀ k, (out.2.1 k).data = (cpu k).data
  holds : out.2.2.completed = true → ∀ k, (cpu k).data.indices ≠ [] →
    (out.1.gpu k).Holds k (cpu k).data

open Recording

/-- A complete recording draws exactly what was queued. -/
theorem Recording.Complete.frameExact {cpu : Buffers F} {st : Recording F} (h : st.Complete cpu)
    {r : Renderer F} {binds : List (PipelineName × Option Pipeline)} {announced : Option Nat}
    {completed : Bool} (hr : completed = true → st.ok = true ∧ r = st.renderer) :
    FrameExact cpu (r, st.buffers, ⟨none, binds, st.draws, announced, completed⟩) := by
  refine ⟨h.sound.draws, h.sound.data, fun hcompleted k hne => ?_⟩
  obtain ⟨hok, rfl⟩ := hr hcompleted
  have hready := h.ready hok k
  rw [Ready, h.sound.data] at hready
  exact hready hne

/-- An incomplete one draws nothing else. -/
theorem Recording.Sound.frameExact {cpu : Buffers F} {st : Recording F} (h : st.Sound cpu)
    (r : Renderer F) (announced : Option Nat) :
    FrameExact cpu (r, st.buffers, ⟨none, st.binds, st.draws, announced, false⟩) :=
  ⟨h.draws, h.data, fun hcompleted => absurd hcompleted (by simp)⟩

/-- **The main pass** draws every buffer that is pending when it begins. -/
theorem Recording.Sound.mainPass {cpu : Buffers F} {st : Recording F} {c : RenderCall D F}
    {isOpaque copied : Bool} (hst : st.Sound cpu)
    (h : ∀ k ∈ opaqueKinds, st.Pending copied c.remesh k)
    (hempty : isOpaque = true → (cpu .transparent).data.indices = [])
    (htransparent : isOpaque = false → st.ok = true → st.Ready .transparent) (announced : Nat)
    (pushed : Option Nat) :
    FrameExact cpu (Renderer.mainPass c isOpaque copied announced pushed st) := by
  have hcomplete := hst.mainDraws h hempty htransparent
  simp only [Renderer.mainPass]
  split_ifs with hbegin hok
  · exact hst.frameExact _ _
  · refine hcomplete.frameExact fun _ => ⟨?_, rfl⟩
    rw [Bool.and_eq_true] at hok
    exact hok.1
  · exact hcomplete.frameExact fun hcompleted => absurd hcompleted (by simp)

/-- After the count pass the transparent geometry is ready. Without interlock so is the opaque one,
which the main pass then takes as copied; with interlock it is still to be uploaded there. -/
theorem Recording.Sound.countPass {cpu : Buffers F} {st : Recording F} {remesh : Bool}
    (hst : st.Sound cpu) (fault : Option FaultPoint) (interlock : Bool)
    (h : ∀ k, st.Pending false remesh k) :
    let st' := (countKinds interlock).foldl (Recording.drawBuffer .count false remesh fault) st
    st'.Sound cpu ∧ (st'.ok = true → st'.Ready .transparent) ∧
      ∀ k ∈ opaqueKinds, st'.Pending (!interlock) remesh k := by
  obtain ⟨hsound, hready, -, hother⟩ :=
    hst.foldl .count fault fun k (_ : k ∈ countKinds interlock) => h k
  cases interlock with
  | false =>
    refine ⟨hsound, fun hok => hready hok _ (by decide), fun k hk hok => .inl (hready hok k ?_)⟩
    exact List.mem_append_left _ hk
  | true =>
    refine ⟨hsound, fun hok => hready hok _ (by decide), fun k hk => hother false k ?_ (h k)⟩
    simp only [countKinds, if_true, List.mem_singleton]
    rintro rfl
    simp [opaqueKinds] at hk

/-- **The gate rule**: a frame all of whose kinds are ready or will be uploaded is drawn exactly. -/
theorem drawFrame_exact (r : Renderer F) (cpu : Buffers F) (c : RenderCall D F)
    (h : ∀ k, Recording.Pending false c.remesh ⟨r, cpu, [], [], true⟩ k) :
    FrameExact cpu (r.drawFrame cpu c) := by
  have hst : Recording.Sound cpu ⟨r, cpu, [], [], true⟩ :=
    ⟨fun _ => rfl, fun _ hdraw => absurd hdraw List.not_mem_nil⟩
  cases hop : (cpu .transparent).data.indices.isEmpty with
  | true =>
    simp only [drawFrame, hop, if_true]
    exact hst.mainPass (fun k _ => h k) (fun _ => List.isEmpty_iff.mp hop)
      (fun hfalse => absurd hfalse (by simp)) _ _
  | false =>
    obtain ⟨hsound, hready, hpending⟩ := hst.countPass c.fault r.device.interlock h
    simp only [drawFrame, hop, Bool.false_eq_true, if_false]
    split_ifs
    · exact ⟨fun _ hdraw => absurd hdraw List.not_mem_nil, fun _ => rfl,
        fun hcompleted => absurd hcompleted (by simp [FrameTrace.blank])⟩
    · exact hsound.frameExact _ _
    · exact Recording.Sound.mainPass hsound hpending (fun htrue => absurd htrue (by simp))
        (fun _ => hready) _ _

variable [Scalar F] [Rounding D F]

/-- **The gate rule for a call**: if every kind with something to draw is held by the GPU buffers
the call starts its frame with, or passes the gate, then the call draws exactly. -/
theorem render_exact (r : Renderer F) (cpu : Buffers F) (c : RenderCall D F)
    (h : ∀ k, (cpu k).data.indices ≠ [] →
      ((r.prepared c).gpu k).Holds k (cpu k).data ∨
        (r.prepared c).uploads false c.remesh k (cpu k) = true) :
    FrameExact cpu (r.render cpu c) := by
  cases hreach : r.reachesFrame c with
  | false =>
    have hblank := (render_of_not_reachesFrame hreach cpu).1
    refine ⟨?_, ?_, ?_⟩
    · rw [hblank]
      exact fun _ hdraw => absurd hdraw List.not_mem_nil
    · rw [hblank]
      exact fun _ => rfl
    · rw [hblank]
      exact fun hcompleted => absurd hcompleted (by simp [FrameTrace.blank])
  | true =>
    have hgpu : ((r.prepared c).copyFrameData c).gpu = (r.prepared c).gpu := by
      rw [copyFrameData]
      split_ifs <;> rfl
    have hframe : FrameExact cpu (((r.prepared c).copyFrameData c).drawFrame cpu c) := by
      refine drawFrame_exact _ cpu c fun k _ => ?_
      by_cases hne : (cpu k).data.indices = []
      · exact .inl fun hne' => absurd hne hne'
      · refine (h k hne).imp (fun hholds _ => ?_) fun huploads => ?_
        · rwa [hgpu]
        · rwa [uploads, hgpu]
    rw [render_of_reachesFrame hreach]
    exact ⟨hframe.draws, hframe.data, hframe.holds⟩

/-! ### What a call leaves on the GPU -/

/-- An uninitialised renderer has no size and nothing on the GPU; one whose device or shaders
failed stays uninitialised. -/
structure WellFormed (r : Renderer F) : Prop where
  size : r.initialized = false → r.currentTargetSize = (0, 0)
  gpu : r.initialized = false → ∀ k, r.gpu k = ⟨none, none⟩
  initFailed : r.initFailed = true → r.initialized = false

omit [Scalar F] [Rounding D F] in
/-- A new renderer has nothing on the GPU. -/
theorem wellFormed_init (device : Device) (initFailed : Bool) :
    (init device initFailed : Renderer F).WellFormed :=
  ⟨fun _ => rfl, fun _ _ => rfl, fun _ => rfl⟩

omit [Scalar F] [Rounding D F] in
/-- Nor has one after a failure. -/
theorem wellFormed_fail (r : Renderer F) : r.fail.WellFormed :=
  ⟨fun _ => rfl, fun _ _ => rfl, fun _ => rfl⟩

omit [Scalar F] [Rounding D F] in
/-- Nor one that has stopped. -/
theorem Stopped.gpu_eq {r r' : Renderer F} (h : Stopped r r') (hr : r.WellFormed)
    (k : BufferKind) : r'.gpu k = ⟨none, none⟩ := by
  rcases h.gpu with hnone | ⟨hinit, heq⟩
  · exact hnone k
  · rw [heq, hr.gpu hinit k]

/-- A call of positive size starts its frame on an initialised renderer, with the vertex and index
buffers it had or with none. -/
theorem prepared_gpu {r : Renderer F} (hr : r.WellFormed) {c : RenderCall D F}
    (hsize : 0 < c.targetSize.1) :
    (r.prepared c).initialized = true ∧ (r.prepared c).initFailed = r.initFailed ∧
      ((r.prepared c).gpu = r.gpu ∨ ∀ k, (r.prepared c).gpu k = ⟨none, none⟩) := by
  have hinit : r.currentTargetSize = r.clampSize c.targetSize → r.initialized = true := by
    intro hsame
    by_contra hnot
    rw [Bool.not_eq_true] at hnot
    exact clampSize_ne_zero r hsize (hsame ▸ hr.size hnot)
  rw [prepared]
  cases hprep : r.preparation c with
  | recreatePipelines =>
    refine ⟨hinit ?_, rfl, .inl rfl⟩
    simp only [preparation] at hprep
    split_ifs at hprep with hlight
    exact hlight.2
  | recreateAll =>
    refine ⟨rfl, rfl, .inr fun k => ?_⟩
    simp only [recreated, ite_eq_left_iff, Bool.not_eq_true]
    exact fun hnot => hr.gpu hnot k
  | keep =>
    refine ⟨hinit ?_, rfl, .inl rfl⟩
    simp only [preparation] at hprep
    split_ifs at hprep with hlight hall
    push Not at hall
    exact hall.1

/-- A call keeps the renderer well formed; one that returns no image leaves nothing on the GPU. -/
theorem render_wellFormed {r : Renderer F} (hr : r.WellFormed) {c : RenderCall D F}
    (hsize : 0 < c.targetSize.1) (cpu : Buffers F) :
    (r.render cpu c).1.WellFormed ∧
      ((r.render cpu c).2.2.completed = false → ∀ k, (r.render cpu c).1.gpu k = ⟨none, none⟩) := by
  cases hreach : r.reachesFrame c with
  | false =>
    -- a device that never came up leaves the renderer as it is; a failed preparation stops it
    rcases (render_of_not_reachesFrame hreach cpu).2 with ⟨hfailed, h⟩ | h
    · rw [h]
      exact ⟨hr, fun _ => hr.gpu (hr.initFailed hfailed)⟩
    · exact ⟨⟨fun _ => h.currentTargetSize, fun _ => h.gpu_eq hr, fun _ => h.initialized⟩,
        fun _ => h.gpu_eq hr⟩
  | true =>
    obtain ⟨hinit, hfailed, -⟩ := prepared_gpu hr hsize
    have hinit' : ((r.prepared c).copyFrameData c).initialized = true := by
      rw [copyFrameData, if_pos hinit]
      exact hinit
    have hfailed' : ((r.prepared c).copyFrameData c).initFailed = false := by
      rw [copyFrameData, if_pos hinit]
      have hready : r.initFailed = false := by
        simp only [reachesFrame, Bool.and_eq_true, Bool.not_eq_true'] at hreach
        exact hreach.1.1
      exact hfailed.trans hready
    rw [render_of_reachesFrame hreach]
    -- the frame is delivered, or it fails and leaves nothing on the GPU
    rcases drawFrame_fst ((r.prepared c).copyFrameData c) cpu c with
      ⟨⟨gpu, hsame⟩, hcompleted⟩ | ⟨hfail, -⟩
    · refine ⟨?_, fun hnot => absurd hcompleted (by simpa using hnot)⟩
      simp only [hsame]
      exact ⟨fun hnot => absurd hinit' (by simpa using hnot),
        fun hnot => absurd hinit' (by simpa using hnot),
        fun hnot => absurd hnot (by simpa using hfailed')⟩
    · simp only [hfail]
      exact ⟨wellFormed_fail _, fun _ _ => rfl⟩

end Renderer

end OkularV3d
