import OkularV3d.Manager.RenderModel
import OkularV3d.Render.UploadGate
import OkularV3d.Scene.Rounds

/-!
# Every draw reads the geometry of its frame

The mesh of a frame is queued into the shared vertex buffers; the GPU buffers of the manager's own
renderer are refreshed only where the gate of `uploadBuffer` fires. `Settled` is the invariant
between two calls for one model: what its objects keep is what the renderer shows, unless the next
call asks for a new mesh. `Sound.renderLocked` carries it through one call and proves that the call
draws exactly its own geometry.

Two conditions make it go through. `CountersReset`: no object resets a wrong counter in the frame.
`OwnLast`: a call that does not ask for a new mesh finds its model the last one queued **by its own
manager**. With one document the second holds by itself: `lastPage` and `lastModel` then name that
model. With two they name the model of any of them.

* `renderLocked_eq` takes a call apart: the frame that is queued, the preparation, the recording.
* `Entry.gate` is the gate of one frame, and `Entry.exists_kept` what the call leaves behind.
* `Sound.renderLocked` is the step lemma. The runs are in `OkularV3d.Manager.UploadSoundness`.
-/

namespace OkularV3d

open Gate Runs

variable {Doc D F : Type}

/-- The GPU buffers of a renderer show the frame `es`: they hold what it put into each buffer,
unless there is nothing to draw from it, or have nothing. -/
def Renderer.Shows (r : Renderer F) (es : Effects F) : Prop :=
  ∀ k, k ≠ .triangle → (r.gpu k).vertices = none ∨ (content k es).indices = [] ∨
    (r.gpu k).Holds k (content k es)

namespace V3dModelManager

variable {m : V3dModelManager D F} {key : ModelKey} {model model' : V3dModel D F}

theorem model?_setModel (m : V3dModelManager D F) (key key' : ModelKey) (model : V3dModel D F) :
    (m.setModel key model).model? key' =
      if key' = key then (m.model? key).map fun _ => model else m.model? key' := by
  obtain ⟨page, index⟩ := key
  obtain ⟨page', index'⟩ := key'
  by_cases hpage : page' = page
  · subst hpage
    by_cases hindex : index' = index
    · subst hindex
      simp [model?, setModel, List.getElem?_set_self']
      rfl
    · simp [model?, setModel, List.getElem?_set_ne (Ne.symm hindex), hindex]
  · simp [model?, setModel, hpage]

theorem model?_addModel {page : Nat} (h : (m.addModel page model').model? key = some model) :
    m.model? key = some model ∨ model = model' := by
  simp only [model?, addModel] at h ⊢
  split_ifs at h with hpage
  · rcases Nat.lt_or_ge key.2 (m.models key.1).length with hlt | hge
    · rw [List.getElem?_append_left hlt] at h
      exact .inl h
    · rw [List.getElem?_append_right hge] at h
      exact .inr (List.mem_singleton.mp (List.mem_of_getElem? h))
  · exact .inl h

variable [Scalar D] [Scalar F] [Rounding D F]

/-- What the objects of a model keep is what the renderer of its manager shows. -/
def Settled (T : Tessellation D F) (m : V3dModelManager D F) (model : V3dModel D F) : Prop :=
  ∃ raw, model.file.Kept T model.drawMode model.camera.projViewMat raw ∧
    ∀ r, m.renderer = some r → r.Shows (model.file.turned model.camera.normMat raw).flatten

/-- **The invariant of a manager**: a model in `OUTLINE` mode asks for a new mesh; the model queued
last is settled, unless it does. -/
structure Sound (T : Tessellation D F) (m : V3dModelManager D F) : Prop where
  renderer : ∀ r, m.renderer = some r → r.WellFormed
  outline : ∀ key model, m.model? key = some model → model.drawMode = .outline →
    model.remesh = true
  settled : ∀ key model, m.model? key = some model → model.remesh = false →
    m.lastQueued = some key → m.Settled T model

variable {T : Tessellation D F}

theorem sound_init (device : Option (Device × Bool)) :
    (init device : V3dModelManager D F).Sound T where
  renderer r hr := by
    obtain ⟨⟨device, initFailed⟩, -, rfl⟩ := Option.map_eq_some_iff.mp hr
    exact Renderer.wellFormed_init ..
  outline key model hmodel := by simp [init, model?] at hmodel
  settled key model hmodel := by simp [init, model?] at hmodel

theorem Sound.clear (h : m.Sound T) : m.clear.Sound T where
  renderer := h.renderer
  outline key model hmodel := by simp [V3dModelManager.clear, model?] at hmodel
  settled key model hmodel := by simp [V3dModelManager.clear, model?] at hmodel

/-- A model that is new asks for a mesh. -/
theorem Sound.addModel (h : m.Sound T) (page : Nat) (hremesh : model'.remesh = true) :
    (m.addModel page model').Sound T where
  renderer := h.renderer
  outline key model hmodel houtline := by
    rcases model?_addModel hmodel with hold | rfl
    · exact h.outline key model hold houtline
    · exact hremesh
  settled key model hmodel hnot hlast := by
    rcases model?_addModel hmodel with hold | rfl
    · exact h.settled key model hold hnot hlast
    · exact absurd hremesh (by simp [hnot])

/-- A change of a model that leaves it as it is for its next frame, or asks for a new mesh. -/
theorem Sound.setModel (h : m.Sound T) (hmodel : m.model? key = some model)
    (hchange : model'.remesh = true ∨ model.remesh = false ∧ model'.file = model.file ∧
      model'.drawMode = model.drawMode ∧ model'.camera = model.camera) :
    (m.setModel key model').Sound T where
  renderer := h.renderer
  outline key₁ model₁ hmodel₁ houtline := by
    rw [model?_setModel, hmodel] at hmodel₁
    split_ifs at hmodel₁ with hkey
    · obtain rfl := Option.some.inj hmodel₁
      refine hchange.resolve_right fun hsame => ?_
      rw [hsame.2.2.1] at houtline
      have hremesh := h.outline key model hmodel houtline
      exact absurd hremesh (by simp [hsame.1])
    · exact h.outline key₁ model₁ hmodel₁ houtline
  settled key₁ model₁ hmodel₁ hnot hlast := by
    rw [model?_setModel, hmodel] at hmodel₁
    split_ifs at hmodel₁ with hkey
    · obtain rfl := Option.some.inj hmodel₁
      obtain ⟨hremesh, hfile, hmode, hcamera⟩ := hchange.resolve_left (by simp [hnot])
      have hsettled := h.settled key model hmodel hremesh (hkey ▸ hlast)
      rw [Settled] at hsettled ⊢
      rw [hfile, hmode, hcamera]
      exact hsettled
    · exact h.settled key₁ model₁ hmodel₁ hnot hlast

end V3dModelManager

namespace Process

variable [DecidableEq Doc] [Scalar D] [Scalar F] [Rounding D F]

/-! ### One call -/

/-- What the mesh of a call puts into the vertex buffers: the geometry of its model. -/
def frameEffects (T : Tessellation D F) (p : Process Doc D F) (model : V3dModel D F)
    (request : RenderRequest D) : Effects F :=
  let model := p.enterModel model request
  (model.file.QueueMesh T (queueContext model request)).2.flatten

/-- The shared vertex buffers as a call draws from them. -/
def frameBuffers (T : Tessellation D F) (p : Process Doc D F) (model : V3dModel D F)
    (request : RenderRequest D) : Buffers F :=
  p.buffers.clear.apply (p.frameEffects T model request)

/-- The model once its mesh is queued. -/
def queuedModel (T : Tessellation D F) (p : Process Doc D F) (model : V3dModel D F)
    (request : RenderRequest D) : V3dModel D F :=
  let model := p.enterModel model request
  { model with file := (model.file.QueueMesh T (queueContext model request)).1 }

/-- The model once `remesh` is consumed: in `OUTLINE` mode it never is. -/
def consumedModel (T : Tessellation D F) (p : Process Doc D F) (model : V3dModel D F)
    (request : RenderRequest D) : V3dModel D F :=
  let model := p.queuedModel T model request
  { model with remesh := model.remesh && model.drawMode = .outline }

/-- The `render()` call made for a model. -/
def frameCall (model : V3dModel D F) (request : RenderRequest D) : RenderCall D F :=
  { targetSize := request.imageSize
    materials := model.file.materials
    lights := model.file.lights
    drawMode := model.drawMode
    remesh := model.remesh
    blendBig := request.blendBig
    fault := request.fault }

/-- The process once a call has left its model and its renderer behind. -/
def returned (p : Process Doc D F) (doc : Doc) (m : V3dModelManager D F) (request : RenderRequest D)
    (buffers : Buffers F) (r : Renderer F) (model : V3dModel D F) : Process Doc D F :=
  { p with lastPage := request.pageNumber, lastModel := request.modelIndex, buffers }.setManager doc
    ({ m with lastQueued := some request.key, renderer := some r }.setModel request.key model)

/-- **Inversion lemma of a call**: it draws nothing and leaves the renderer alone where the mesh is
empty, and runs `render()` on the frame's buffers where it is not. -/
theorem renderLocked_eq (T : Tessellation D F) (p : Process Doc D F) (doc : Doc)
    (m : V3dModelManager D F) (r : Renderer F) (model : V3dModel D F) (request : RenderRequest D) :
    p.renderLocked T doc m r model request =
      let r := p.enterRenderer model request r
      let cpu := p.frameBuffers T model request
      if !hasRenderableData cpu then
        (p.returned doc m request cpu r (p.queuedModel T model request), .blank)
      else
        let model := p.consumedModel T model request
        let out := r.render cpu (frameCall model request)
        (p.returned doc m request out.2.1 out.1
          (if out.2.2.completed then
            { model with hasChanged := false, imageSize := request.imageSize } else model),
          out.2.2) := rfl

omit [DecidableEq Doc] [Scalar D] [Scalar F] [Rounding D F] in
/-- What a request finds, it finds in its manager, and its image has a positive width. -/
theorem entered_eq_some {p : Process Doc D F} {doc : Doc} {request : RenderRequest D}
    {m : V3dModelManager D F} {r : Renderer F} {model : V3dModel D F}
    (h : p.entered doc request = some (m, r, model)) :
    p.managers doc = some m ∧ m.renderer = some r ∧ m.model? request.key = some model ∧
      0 < request.imageWidth := by
  simp only [entered, Option.bind_eq_bind, Option.bind_eq_some_iff] at h
  obtain ⟨m', hm, r', hr, model', hmodel, h⟩ := h
  split_ifs at h with hsize
  rw [Option.some.injEq, Prod.mk.injEq, Prod.mk.injEq] at h
  obtain ⟨rfl, rfl, rfl⟩ := h
  exact ⟨hm, hr, hmodel, by omega⟩

/-- **No object resets a wrong counter** in the frame of a call. (In `OUTLINE` mode every buffer is
uploaded anyway.) -/
def CountersReset (T : Tessellation D F) (p : Process Doc D F) : Action Doc D F → Prop
  | .render doc request => ∀ found ∈ p.entered doc request,
    let model := found.2.2
    model.drawMode ≠ .outline →
      model.file.ResetsCounters T model.camera.projViewMat model.camera.normMat
        (queueContext (p.enterModel model request) request)
  | _ => True

/-- A call that does not ask for a new mesh finds its model the last one queued by its own
manager. -/
def OwnLast (p : Process Doc D F) : Action Doc D F → Prop
  | .render doc request => ∀ found ∈ p.entered doc request,
    (p.enterModel found.2.2 request).remesh = false → found.1.lastQueued = some request.key
  | _ => True

/-- Every draw of a step reads exactly the vertices and indices its frame has in the buffer. -/
def DrawsExact (T : Tessellation D F) (p : Process Doc D F) : Action Doc D F → Prop
  | .render doc request => ∀ draw ∈ (p.RenderModel T doc request).2.draws,
    ∃ found ∈ p.entered doc request, draw.Exact (p.frameBuffers T found.2.2 request)
  | _ => True

/-- Every draw of a step reads exactly what the model of its call has just put into the buffer. -/
def DrawsOwnModel (T : Tessellation D F) (p : Process Doc D F) : Action Doc D F → Prop
  | .render doc request => ∀ draw ∈ (p.RenderModel T doc request).2.draws,
    ∃ found ∈ p.entered doc request,
      let geometry := content draw.kind (p.frameEffects T found.2.2 request)
      draw.indexCount = geometry.indices.length ∧ draw.bound.Holds draw.kind geometry
  | _ => True

/-! On a concrete run the conditions and the properties can be computed. -/

instance [DecidableEq D] (T : Tessellation D F) (p : Process Doc D F) :
    ∀ action, Decidable (p.CountersReset T action)
  | .render doc request => inferInstanceAs (Decidable (∀ found ∈ p.entered doc request,
      found.2.2.drawMode ≠ .outline →
        found.2.2.file.ResetsCounters T found.2.2.camera.projViewMat found.2.2.camera.normMat
          (queueContext (p.enterModel found.2.2 request) request)))
  | .openDocument .. | .closeDocument .. | .setDocument .. | .addModel .. | .interact ..
  | .cycleMode .. => inferInstanceAs (Decidable True)

instance (p : Process Doc D F) : ∀ action, Decidable (p.OwnLast action)
  | .render doc request => inferInstanceAs (Decidable (∀ found ∈ p.entered doc request,
      (p.enterModel found.2.2 request).remesh = false → found.1.lastQueued = some request.key))
  | .openDocument .. | .closeDocument .. | .setDocument .. | .addModel .. | .interact ..
  | .cycleMode .. => inferInstanceAs (Decidable True)

instance [DecidableEq F] (gpu : GpuBuffer F) (kind : BufferKind) (data : VertexData F) :
    Decidable (gpu.Holds kind data) :=
  inferInstanceAs (Decidable (_ ∧ _))

instance [DecidableEq F] (draw : Draw F) (cpu : Buffers F) : Decidable (draw.Exact cpu) :=
  inferInstanceAs (Decidable (_ ∧ _))

instance [DecidableEq F] (T : Tessellation D F) (p : Process Doc D F) :
    ∀ action, Decidable (p.DrawsExact T action)
  | .render doc request => inferInstanceAs (Decidable
      (∀ draw ∈ (p.RenderModel T doc request).2.draws,
        ∃ found ∈ p.entered doc request, draw.Exact (p.frameBuffers T found.2.2 request)))
  | .openDocument .. | .closeDocument .. | .setDocument .. | .addModel .. | .interact ..
  | .cycleMode .. => inferInstanceAs (Decidable True)

instance [DecidableEq F] (T : Tessellation D F) (p : Process Doc D F) :
    ∀ action, Decidable (p.DrawsOwnModel T action)
  | .render doc request => inferInstanceAs (Decidable
      (∀ draw ∈ (p.RenderModel T doc request).2.draws, ∃ found ∈ p.entered doc request,
        draw.indexCount =
            (content draw.kind (p.frameEffects T found.2.2 request)).indices.length ∧
          draw.bound.Holds draw.kind (content draw.kind (p.frameEffects T found.2.2 request))))
  | .openDocument .. | .closeDocument .. | .setDocument .. | .addModel .. | .interact ..
  | .cycleMode .. => inferInstanceAs (Decidable True)

/-- **The invariant of a process.** -/
structure Sound (T : Tessellation D F) (p : Process Doc D F) : Prop where
  managers : ∀ doc m, p.managers doc = some m → m.Sound T
  triangle : (p.buffers .triangle).data = .empty

section Frame

variable {T : Tessellation D F} {p : Process Doc D F} {m : V3dModelManager D F} {r : Renderer F}
  {model : V3dModel D F} {request : RenderRequest D}

omit [DecidableEq Doc] in
theorem frameBuffers_data (T : Tessellation D F) (p : Process Doc D F) (model : V3dModel D F)
    (request : RenderRequest D) {k : BufferKind} (hk : k ≠ .triangle) :
    (p.frameBuffers T model request k).data = content k (p.frameEffects T model request) :=
  Buffers.clear_apply_data _ _ hk

omit [DecidableEq Doc] in
theorem frameBuffers_triangle (h : (p.buffers .triangle).data = .empty) (T : Tessellation D F)
    (model : V3dModel D F) (request : RenderRequest D) :
    (p.frameBuffers T model request .triangle).data = .empty := by
  rw [frameBuffers, Buffers.apply_data, frameEffects, V3dFile.contrib_triangle]
  exact h

omit [Scalar F] in
/-- A buffer with something to draw has been put something into. -/
theorem contrib_ne_nil {k : BufferKind} {es : Effects F} (h : (content k es).indices ≠ []) :
    contrib k es ≠ [] := by
  intro hnone
  rw [content, hnone] at h
  exact h rfl

/-- What a call starts from, with its renderer `r` on entry: where it does not ask for a new mesh,
its model is settled. -/
structure Entry (T : Tessellation D F) (p : Process Doc D F) (r : Renderer F) (model : V3dModel D F)
    (request : RenderRequest D) : Prop where
  renderer : r.WellFormed
  triangle : (p.buffers .triangle).data = .empty
  outline : model.drawMode = .outline → model.remesh = true
  counters : model.drawMode ≠ .outline →
    model.file.ResetsCounters T model.camera.projViewMat model.camera.normMat
      (queueContext (p.enterModel model request) request)
  settled : (p.enterModel model request).remesh = false → ∃ raw,
    model.file.Kept T model.drawMode model.camera.projViewMat raw ∧
      r.Shows (model.file.turned model.camera.normMat raw).flatten
  size : 0 < request.imageWidth

omit [DecidableEq Doc] in
theorem Entry.outline_enterModel (h : Entry T p r model request)
    (hmode : model.drawMode = .outline) : (p.enterModel model request).remesh = true := by
  simp [enterModel, h.outline hmode]

omit [DecidableEq Doc] in
/-- **The gate of one frame**: whatever there is to draw is on the GPU already, or is uploaded. -/
theorem Entry.gate (h : Entry T p r model request) (k : BufferKind) :
    let cpu := p.frameBuffers T model request
    let c := frameCall (p.consumedModel T model request) request
    (cpu k).data.indices ≠ [] →
      ((r.prepared c).gpu k).Holds k (cpu k).data ∨
        (r.prepared c).uploads false c.remesh k (cpu k) = true := by
  intro cpu c hne
  have hk : k ≠ .triangle := by
    rintro rfl
    exact hne (by rw [frameBuffers_triangle h.triangle]; rfl)
  have hdata : (cpu k).data = content k (p.frameEffects T model request) :=
    frameBuffers_data T p model request hk
  rw [hdata] at hne ⊢
  have hput := contrib_ne_nil hne
  -- a counter that was reset opens the gate
  have hcounter : Marked k (p.frameEffects T model request) →
      (r.prepared c).uploads false c.remesh k (cpu k) = true := by
    intro hmarked
    have hcount : (cpu k).renderCount = 0 := Buffers.apply_renderCount (.inl hmarked)
    simp [Renderer.uploads, hcount]
  by_cases hmode : model.drawMode = .outline
  · -- `remesh` is not consumed, so the gate is open
    right
    have hremesh : c.remesh = true := by
      simp [c, frameCall, consumedModel, queuedModel, enterModel, h.outline hmode, hmode]
    simp [Renderer.uploads, hremesh]
  · cases hremesh : (p.enterModel model request).remesh with
    | true =>
      exact .inr (hcounter (V3dFile.marks model.camera.projViewMat hmode
        (h.counters hmode).marks hremesh k hput))
    | false =>
      obtain ⟨raw, hkept, hshows⟩ := h.settled hremesh
      rcases V3dFile.repeats hmode rfl hremesh (h.counters hmode) hkept k with hmarked | hsame
      · exact .inr (hcounter hmarked)
      · -- the buffer is filled as in the last frame, which the renderer shows
        have hcontent : content k (model.file.turned model.camera.normMat raw).flatten =
            content k (p.frameEffects T model request) := by
          rw [content, content, ← hsame]
          rfl
        have hshown := hshows k hk
        rw [hcontent] at hshown
        rcases (Renderer.prepared_gpu h.renderer (c := c) h.size).2.2 with hgpu | hgpu
        · rcases hshown with hnone | hempty | hholds
          · exact .inr (by simp [Renderer.uploads, hgpu, hnone])
          · exact absurd hempty hne
          · rw [hgpu]
            exact .inl hholds
        · exact .inr (by simp [Renderer.uploads, hgpu])

omit [Scalar D] in
/-- A call whose draws are exact leaves the renderer showing its frame, or nothing. -/
theorem shows_render (hr : r.WellFormed) {cpu : Buffers F} {c : RenderCall D F}
    (hsize : 0 < c.targetSize.1) {es : Effects F}
    (hdata : ∀ k, k ≠ .triangle → (cpu k).data = content k es)
    (h : Renderer.FrameExact cpu (r.render cpu c)) : (r.render cpu c).1.Shows es := by
  intro k hk
  cases hcompleted : (r.render cpu c).2.2.completed with
  | false =>
    left
    rw [(Renderer.render_wellFormed hr hsize cpu).2 hcompleted k]
  | true =>
    right
    rw [← hdata k hk]
    by_cases hempty : (cpu k).data.indices = []
    · exact .inl hempty
    · exact .inr (h.holds hcompleted k hempty)

omit [DecidableEq Doc] in
/-- **What a call leaves behind**: if the renderer then shows the frame, the model is settled,
unless it goes on asking for a new mesh. -/
theorem Entry.exists_kept (h : Entry T p r model request) {r' : Renderer F}
    (hshows : r'.Shows (p.frameEffects T model request))
    (hnot : (p.enterModel model request).remesh = false ∨ model.drawMode ≠ .outline) :
    ∃ raw, (p.queuedModel T model request).file.Kept T model.drawMode request.camera.projViewMat
        raw ∧
      r'.Shows ((p.queuedModel T model request).file.turned
        request.camera.normMat raw).flatten := by
  have hmode : model.drawMode ≠ .outline := by
    intro hmode
    rcases hnot with hnot | hnot
    · exact absurd (h.outline_enterModel hmode) (by simp [hnot])
    · exact hnot hmode
  have hraw : (p.enterModel model request).remesh = true ∨
      ∃ raw, model.file.Kept T model.drawMode model.camera.projViewMat raw := by
    cases hremesh : (p.enterModel model request).remesh with
    | true => exact .inl rfl
    | false =>
      obtain ⟨raw, hkept, -⟩ := h.settled hremesh
      exact .inr ⟨raw, hkept⟩
  refine ⟨_, V3dFile.kept_queueMesh hmode rfl (h.counters hmode).marks hraw, ?_⟩
  rw [queuedModel, V3dFile.turned_queueMesh]
  rw [frameEffects, V3dFile.queueMesh_snd] at hshows
  exact hshows

/-- The process after a call, from what the call has left behind. -/
theorem Sound.returned (hp : p.Sound T) {doc : Doc} (hm : m.Sound T) {buffers : Buffers F}
    (htriangle : (buffers .triangle).data = .empty) (hr : r.WellFormed)
    (houtline : model.drawMode = .outline → model.remesh = true)
    (hsettled : model.remesh = false → ∃ raw,
      model.file.Kept T model.drawMode model.camera.projViewMat raw ∧
        r.Shows (model.file.turned model.camera.normMat raw).flatten) :
    (p.returned doc m request buffers r model).Sound T := by
  refine ⟨fun doc₁ m₁ hm₁ => ?_, htriangle⟩
  simp only [Process.returned, setManager] at hm₁
  split_ifs at hm₁ with hdoc
  · obtain rfl := Option.some.inj hm₁
    refine ⟨fun r₁ hr₁ => Option.some.inj hr₁ ▸ hr, ?_, ?_⟩
    · intro key₁ model₁ hmodel₁ houtline₁
      rw [V3dModelManager.model?_setModel] at hmodel₁
      split_ifs at hmodel₁ with hkey
      · obtain ⟨-, -, rfl⟩ := Option.map_eq_some_iff.mp hmodel₁
        exact houtline houtline₁
      · exact hm.outline key₁ model₁ hmodel₁ houtline₁
    · intro key₁ model₁ hmodel₁ hnot hlast
      -- the model queued last is the one of the call
      obtain rfl : request.key = key₁ := Option.some.inj hlast
      rw [V3dModelManager.model?_setModel, if_pos rfl] at hmodel₁
      obtain ⟨-, -, rfl⟩ := Option.map_eq_some_iff.mp hmodel₁
      obtain ⟨raw, hkept, hshows⟩ := hsettled hnot
      exact ⟨raw, hkept, fun r₁ hr₁ => Option.some.inj hr₁ ▸ hshows⟩
  · exact hp.managers doc₁ m₁ hm₁

omit [DecidableEq Doc] in
/-- A sound process offers a call what it needs, under the two conditions. -/
theorem Sound.entry (hp : p.Sound T) {doc : Doc}
    (hentered : p.entered doc request = some (m, r, model))
    (hcounters : p.CountersReset T (.render doc request))
    (hlast : p.OwnLast (.render doc request : Action Doc D F)) :
    Entry T p (p.enterRenderer model request r) model request := by
  obtain ⟨hdoc, hrenderer, hmodel, hsize⟩ := entered_eq_some hentered
  have hm := hp.managers doc m hdoc
  -- on entry the renderer takes over a draw mode at most
  have hgpu : (p.enterRenderer model request r).gpu = r.gpu := by
    rw [enterRenderer]
    split_ifs <;> rfl
  have hwf := hm.renderer r hrenderer
  refine ⟨?_, hp.triangle, hm.outline request.key model hmodel,
    hcounters (m, r, model) hentered, ?_,
    hsize⟩
  · rw [enterRenderer]
    split_ifs
    · exact ⟨hwf.size, hwf.gpu, hwf.initFailed⟩
    · exact hwf
  · intro hremesh
    have hnot : model.remesh = false := by
      simp only [enterModel, Bool.or_eq_false_iff] at hremesh
      exact hremesh.1.1
    obtain ⟨raw, hkept, hshows⟩ :=
      hm.settled request.key model hmodel hnot (hlast (m, r, model) hentered hremesh)
    refine ⟨raw, hkept, fun k hk => ?_⟩
    rw [hgpu]
    exact hshows r hrenderer k hk

/-- **Step lemma**: a call keeps the invariant, and draws exactly. -/
theorem Sound.renderLocked (hp : p.Sound T) {doc : Doc}
    (hentered : p.entered doc request = some (m, r, model))
    (hcounters : p.CountersReset T (.render doc request))
    (hlast : p.OwnLast (.render doc request : Action Doc D F)) :
    (p.renderLocked T doc m r model request).1.Sound T ∧
      ∀ draw ∈ (p.renderLocked T doc m r model request).2.draws,
        draw.Exact (p.frameBuffers T model request) := by
  have h := hp.entry hentered hcounters hlast
  have hm := hp.managers doc m (entered_eq_some hentered).1
  have htriangle := frameBuffers_triangle hp.triangle T model request
  rw [renderLocked_eq]
  dsimp only
  by_cases hempty : hasRenderableData (p.frameBuffers T model request) = false
  · -- nothing to draw: every buffer is empty
    have hshows : (p.enterRenderer model request r).Shows (p.frameEffects T model request) := by
      intro k hk
      right; left
      rw [← frameBuffers_data T p model request hk, ← List.isEmpty_iff]
      simp only [hasRenderableData, List.any_eq_false] at hempty
      have hkind : k ∈ [BufferKind.material, .color, .line, .transparent, .point] := by
        cases k
        case triangle => exact absurd rfl hk
        all_goals decide
      simpa using hempty k hkind
    rw [if_pos (by rw [hempty]; rfl)]
    exact ⟨hp.returned hm htriangle h.renderer h.outline_enterModel fun hnot =>
      h.exists_kept hshows (.inl hnot), fun _ hdraw => absurd hdraw List.not_mem_nil⟩
  · rw [if_neg (by simpa using hempty)]
    set c := frameCall (p.consumedModel T model request) request
    set out := (p.enterRenderer model request r).render (p.frameBuffers T model request) c
    have hexact : Renderer.FrameExact (p.frameBuffers T model request) out :=
      Renderer.render_exact _ _ _ h.gate
    have hwf : out.1.WellFormed :=
      (Renderer.render_wellFormed h.renderer (c := c) h.size _).1
    have hshows : out.1.Shows (p.frameEffects T model request) :=
      shows_render h.renderer h.size (fun k hk => frameBuffers_data T p model request hk) hexact
    have htriangle' : (out.2.1 .triangle).data = .empty := (hexact.data .triangle).trans htriangle
    -- `remesh` is left set in `OUTLINE` mode only
    have houtline : model.drawMode = .outline →
      (p.consumedModel T model request).remesh = true := by
      intro hmode
      have hremesh : (p.queuedModel T model request).remesh = true := h.outline_enterModel hmode
      simp only [consumedModel, hremesh, Bool.true_and, decide_eq_true_eq]
      exact hmode
    have hsettled : (p.consumedModel T model request).remesh = false → ∃ raw,
        (p.queuedModel T model request).file.Kept T model.drawMode request.camera.projViewMat raw ∧
          out.1.Shows
            ((p.queuedModel T model request).file.turned request.camera.normMat raw).flatten := by
      intro hnot
      refine h.exists_kept hshows ?_
      simp only [consumedModel, Bool.and_eq_false_iff, decide_eq_false_iff_not] at hnot
      exact hnot
    refine ⟨?_, hexact.draws⟩
    split_ifs
    · exact hp.returned hm htriangle' hwf houtline hsettled
    · exact hp.returned hm htriangle' hwf houtline hsettled

end Frame

end Process

end OkularV3d
