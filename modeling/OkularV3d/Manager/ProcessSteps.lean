import OkularV3d.Manager.DrawMode
import OkularV3d.Manager.Freshness
import OkularV3d.Render.MappedBuffers
import OkularV3d.Scene.IndexBuffers

/-!
# A process in order

The results about the frames of a process have an invariant each: what the renderers show and what
the objects keep (`Process.Sound`), the pipelines (`Process.RenderersBuilt`), the mapped buffers and
the indices. A frame that is to show its own model needs all of them at once. `Process.InOrder` is
their conjunction.

* `Process.rendererStep`, `Process.modelStep`: **what a step does** to a renderer and to a model,
  whatever the action. An invariant of renderers or of models follows from them without another look
  at the actions.
* `Process.touches`: the actions that may change a model or take it away.
* `Process.InOrder.step`: **step lemma**. A step that meets the conditions on its counters, its last
  model and its switch keeps the process in order.
-/

namespace OkularV3d

open Runs

/-! ### Renderers and models -/

namespace Renderer

variable {D F : Type} [Scalar F] [Rounding D F]

/-- No call changes the device. -/
theorem render_device (r : Renderer F) (cpu : Buffers F) (c : RenderCall D F) :
    (r.render cpu c).1.device = r.device := by
  cases hreach : r.reachesFrame c with
  | false =>
    rcases (render_of_not_reachesFrame hreach cpu).2 with ⟨-, hsame⟩ | hstopped
    · rw [hsame]
    · exact hstopped.device
  | true =>
    have hcopied : ((r.prepared c).copyFrameData c).device = r.device := by
      rw [copyFrameData]
      split_ifs <;> exact prepared_device r c
    rw [render_of_reachesFrame hreach]
    dsimp only
    rcases drawFrame_fst ((r.prepared c).copyFrameData c) cpu c with ⟨⟨gpu, hdrawn⟩, -⟩ | ⟨hfail, -⟩
    · rw [hdrawn]
      exact hcopied
    · rw [hfail]
      exact hcopied

end Renderer

namespace Process

variable {Doc D F : Type} [DecidableEq Doc]

/-- The renderer of a document. -/
def renderer? (p : Process Doc D F) (doc : Doc) : Option (Renderer F) :=
  (p.managers doc).bind fun m => m.renderer

theorem renderer?_setManager (p : Process Doc D F) (doc : Doc) (m : Option (V3dModelManager D F))
    (doc' : Doc) :
    (p.setManager doc m).renderer? doc' =
      if doc' = doc then m.bind fun m => m.renderer else p.renderer? doc' := by
  simp only [renderer?, setManager]
  split_ifs <;> rfl

theorem renderer?_updateModel (p : Process Doc D F) (doc : Doc) (key : ModelKey)
    (f : V3dModel D F → V3dModel D F) (doc' : Doc) :
    (p.updateModel doc key f).renderer? doc' = p.renderer? doc' := by
  rw [updateModel]
  cases hm : p.managers doc with
  | none => rfl
  | some m =>
    cases hmodel : m.model? key with
    | none => simp only [hmodel]
    | some model =>
      simp only [hmodel]
      rw [renderer?_setManager]
      split_ifs with hdoc
      · subst hdoc
        simp [renderer?, hm, V3dModelManager.setModel]
      · rfl

variable [Scalar D] [Scalar F] [Rounding D F] {T : Tessellation D F} {p : Process Doc D F}

/-- The renderer a call leaves behind. -/
def framedRenderer (T : Tessellation D F) (p : Process Doc D F) (r : Renderer F)
    (model : V3dModel D F) (request : RenderRequest D) : Renderer F :=
  let r := p.enterRenderer model request r
  let cpu := p.frameBuffers T model request
  if !hasRenderableData cpu then r
  else (r.render cpu (frameCall (p.consumedModel T model request) request)).1

/-- A call leaves its renderer behind, and the others as they were. -/
theorem renderer?_renderLocked (T : Tessellation D F) (p : Process Doc D F) (doc : Doc)
    (m : V3dModelManager D F) (r : Renderer F) (model : V3dModel D F) (request : RenderRequest D)
    (doc' : Doc) :
    (p.renderLocked T doc m r model request).1.renderer? doc' =
      if doc' = doc then some (p.framedRenderer T r model request) else p.renderer? doc' := by
  rw [renderLocked_eq, framedRenderer]
  by_cases hempty : (!hasRenderableData (p.frameBuffers T model request)) = true
  · simp only [if_pos hempty]
    exact renderer?_setManager ..
  · simp only [if_neg hempty]
    exact renderer?_setManager ..

omit [DecidableEq Doc] [Scalar D] [Scalar F] [Rounding D F] in
/-- What a request finds is the renderer of its document. -/
theorem renderer?_of_entered {doc : Doc} {request : RenderRequest D} {m : V3dModelManager D F}
    {r : Renderer F} {model : V3dModel D F} (h : p.entered doc request = some (m, r, model)) :
    p.renderer? doc = some r := by
  obtain ⟨hm, hr, -, -⟩ := entered_eq_some h
  simp [renderer?, hm, hr]

/-- How a step changes the renderer of a document. -/
inductive RendererStep (T : Tessellation D F) (p : Process Doc D F) (doc : Doc) :
    Action Doc D F → Option (Renderer F) → Prop where
  | same (action : Action Doc D F) : RendererStep T p doc action (p.renderer? doc)
  | opened (device : Option (Device × Bool)) (hnone : p.renderer? doc = none) :
    RendererStep T p doc (.openDocument doc device)
      (device.map fun (device, initFailed) => .init device initFailed)
  | closed : RendererStep T p doc (.closeDocument doc) none
  | framed (r : Renderer F) (model : V3dModel D F) (request : RenderRequest D)
    (hr : p.renderer? doc = some r) :
    RendererStep T p doc (.render doc request) (some (p.framedRenderer T r model request))

/-- **What a step does to a renderer.** -/
theorem rendererStep (action : Action Doc D F) (doc : Doc) :
    RendererStep T p doc action ((p.step T action).renderer? doc) := by
  cases action with
  | openDocument doc₁ device =>
    rw [Process.step]
    split_ifs with hnone
    · rw [renderer?_setManager]
      split_ifs with hdoc
      · subst hdoc
        exact .opened device (by rw [renderer?, Option.isNone_iff_eq_none.mp hnone]; rfl)
      · exact .same _
    · exact .same _
  | closeDocument doc₁ =>
    rw [Process.step, renderer?_setManager]
    split_ifs with hdoc
    · subst hdoc
      exact .closed
    · exact .same _
  | setDocument doc₁ =>
    rw [Process.step, renderer?_setManager]
    split_ifs with hdoc
    · subst hdoc
      rw [Option.bind_map]
      exact .same _
    · exact .same _
  | addModel doc₁ page scene camera =>
    rw [Process.step]
    cases hm : p.managers doc₁ with
    | none => exact .same _
    | some m =>
      dsimp only
      rw [renderer?_setManager]
      split_ifs with hdoc
      · subst hdoc
        have hkept : p.renderer? doc = m.renderer := by rw [renderer?, hm]; rfl
        have hsame : RendererStep T p doc (.addModel doc page scene camera) m.renderer :=
          hkept ▸ .same _
        exact hsame
      · exact .same _
  | interact doc₁ key remesh =>
    rw [Process.step, renderer?_updateModel]
    exact .same _
  | cycleMode doc₁ key =>
    rw [Process.step, renderer?_updateModel]
    exact .same _
  | render doc₁ request =>
    rw [Process.step, RenderModel]
    cases hentered : p.entered doc₁ request with
    | none => exact .same _
    | some found =>
      obtain ⟨m, r, model⟩ := found
      dsimp only
      rw [renderer?_renderLocked]
      split_ifs with hdoc
      · subst hdoc
        exact .framed r model request (renderer?_of_entered hentered)
      · exact .same _

/-- Whether an action may change a model or take it away. -/
def touches (doc : Doc) (key : ModelKey) : Action Doc D F → Prop
  | .openDocument .. | .addModel .. => False
  | .closeDocument doc' | .setDocument doc' => doc' = doc
  | .interact doc' key' _ | .cycleMode doc' key' => doc' = doc ∧ key' = key
  | .render doc' request => doc' = doc ∧ request.key = key

/-- How a step changes a model: it may be new, and it may change or be taken away by an action that
touches it. A change leaves its file as it is, or queues its mesh. -/
inductive ModelStep (T : Tessellation D F) (p : Process Doc D F) (doc : Doc) (key : ModelKey)
    (action : Action Doc D F) : Option (V3dModel D F) → Prop where
  | same : ModelStep T p doc key action (p.model? doc key)
  | added (scene : V3dFile D F) (camera : Camera D) (hnone : p.model? doc key = none) :
    ModelStep T p doc key action (some (.ofScene scene camera))
  | removed (htouches : touches doc key action) : ModelStep T p doc key action none
  | changed (model model' : V3dModel D F) (htouches : touches doc key action)
    (hmodel : p.model? doc key = some model)
    (hfile : model'.file = model.file ∨ ∃ ctx, model'.file = (model.file.QueueMesh T ctx).1) :
    ModelStep T p doc key action (some model')

/-- A change of a model that keeps its file. -/
theorem modelStep_updateModel {action : Action Doc D F} {doc doc₁ : Doc} {key key₁ : ModelKey}
    {f : V3dModel D F → V3dModel D F} (hf : ∀ model, (f model).file = model.file)
    (htouches : doc₁ = doc ∧ key₁ = key → touches doc key action) :
    ModelStep T p doc key action ((p.updateModel doc₁ key₁ f).model? doc key) := by
  rw [model?_updateModel]
  split_ifs with hkey
  · obtain ⟨rfl, rfl⟩ := hkey
    cases hmodel : p.model? doc key with
    | none =>
      have hsame : ModelStep T p doc key action none := hmodel ▸ .same
      exact hsame
    | some model => exact .changed model (f model) (htouches ⟨rfl, rfl⟩) hmodel (.inl (hf model))
  · exact .same

/-- **What a step does to a model.** -/
theorem modelStep (action : Action Doc D F) (doc : Doc) (key : ModelKey) :
    ModelStep T p doc key action ((p.step T action).model? doc key) := by
  cases action with
  | openDocument doc₁ device =>
    rw [Process.step]
    split_ifs with hnone
    · rw [model?_setManager]
      split_ifs with hdoc
      · -- neither the document nor its new manager has a model
        subst hdoc
        have hempty : p.model? doc key = none := by
          rw [model?, Option.isNone_iff_eq_none.mp hnone]
          rfl
        have hsame : ModelStep T p doc key (.openDocument doc device) none := hempty ▸ .same
        exact hsame
      · exact .same
    · exact .same
  | closeDocument doc₁ =>
    rw [Process.step, model?_setManager]
    split_ifs with hdoc
    · exact .removed hdoc.symm
    · exact .same
  | setDocument doc₁ =>
    rw [Process.step, model?_setManager]
    split_ifs with hdoc
    · have hcleared : (((p.managers doc₁).map V3dModelManager.clear).bind fun m => m.model? key) =
          none := by
        cases p.managers doc₁ <;> rfl
      exact hcleared ▸ .removed hdoc.symm
    · exact .same
  | addModel doc₁ page scene camera =>
    rw [Process.step]
    cases hm : p.managers doc₁ with
    | none => exact .same
    | some m =>
      dsimp only
      rw [model?_setManager_addModel hm]
      split_ifs with hkey
      · -- the place of the new model was empty
        obtain ⟨rfl, rfl⟩ := hkey
        exact .added scene camera (by simp [model?, hm, V3dModelManager.model?])
      · exact .same
  | interact doc₁ key₁ remesh => exact modelStep_updateModel (fun _ => rfl) id
  | cycleMode doc₁ key₁ => exact modelStep_updateModel (fun _ => rfl) id
  | render doc₁ request =>
    rw [Process.step, RenderModel]
    cases hentered : p.entered doc₁ request with
    | none => exact .same
    | some found =>
      obtain ⟨m, r, model⟩ := found
      obtain ⟨hm, -, hmodel, -⟩ := entered_eq_some hentered
      dsimp only
      rw [model?_renderLocked hm hmodel]
      split_ifs with hkey
      · obtain ⟨rfl, rfl⟩ := hkey
        exact .changed model _ ⟨rfl, rfl⟩ (ViewSession.model?_of_entered hentered)
          (.inr ⟨_, (p.framed_eq T r model request).1⟩)
      · exact .same

/-- What an action does not touch stays. -/
theorem model?_step_of_not_touches {action : Action Doc D F} {doc : Doc} {key : ModelKey}
    {model : V3dModel D F} (h : ¬ touches doc key action) (hmodel : p.model? doc key = some model) :
    (p.step T action).model? doc key = some model := by
  have hstep := modelStep (T := T) (p := p) action doc key
  generalize (p.step T action).model? doc key = model' at hstep ⊢
  cases hstep with
  | same => exact hmodel
  | added scene camera hnone => exact nomatch hnone.symm.trans hmodel
  | removed htouches => exact absurd htouches h
  | changed _ _ htouches => exact absurd htouches h

omit [DecidableEq Doc] in
theorem framedRenderer_device (T : Tessellation D F) (p : Process Doc D F) (r : Renderer F)
    (model : V3dModel D F) (request : RenderRequest D) :
    (p.framedRenderer T r model request).device = r.device := by
  have hentered : (p.enterRenderer model request r).device = r.device := by
    rw [enterRenderer]
    split_ifs <;> rfl
  rw [framedRenderer]
  split_ifs
  · exact hentered
  · rw [Renderer.render_device]
    exact hentered

/-- While a document stays open, its renderer keeps its device. -/
theorem exists_renderer_step (action : Action Doc D F) {doc : Doc} {r : Renderer F}
    (h : action ≠ .closeDocument doc) (hr : p.renderer? doc = some r) :
    ∃ r', (p.step T action).renderer? doc = some r' ∧ r'.device = r.device := by
  have hstep := rendererStep (T := T) (p := p) action doc
  generalize (p.step T action).renderer? doc = r' at hstep ⊢
  cases hstep with
  | same => exact ⟨r, hr, rfl⟩
  | opened device hnone => exact nomatch hnone.symm.trans hr
  | closed => exact absurd rfl h
  | framed r₁ model request hr₁ =>
    obtain rfl := Option.some.inj (hr.symm.trans hr₁)
    exact ⟨_, rfl, framedRenderer_device T p r model request⟩

/-! ### The invariant -/

/-- **A process in order.** -/
structure InOrder (T : Tessellation D F) (p : Process Doc D F) : Prop where
  sound : p.Sound T
  built : p.RenderersBuilt
  mapped : ∀ doc r, p.renderer? doc = some r → r.HasMappedBuffers
  inBounds : ∀ doc key model, p.model? doc key = some model → model.file.KeepsInBounds

omit [DecidableEq Doc] in
theorem inOrder_init : (init : Process Doc D F).InOrder T where
  sound := sound_init
  built := .init
  mapped _ _ h := by cases h
  inBounds _ _ _ h := by cases h

omit [DecidableEq Doc] in
/-- A call keeps the mapped buffers in place. -/
theorem hasMappedBuffers_framedRenderer {r : Renderer F} (hr : r.HasMappedBuffers)
    (model : V3dModel D F) (request : RenderRequest D) :
    (p.framedRenderer T r model request).HasMappedBuffers := by
  have hentered : (p.enterRenderer model request r).HasMappedBuffers := by
    rw [enterRenderer]
    split_ifs <;> exact hr
  rw [framedRenderer]
  split_ifs
  · exact hentered
  · exact hentered.call (_, _)

/-- **Step lemma.** -/
theorem InOrder.step (hp : p.InOrder T) (hT : T.InBounds) (action : Action Doc D F)
    (hcounters : p.CountersReset T action) (hlast : p.OwnLast action)
    (hsafe : p.SwitchSafe T action) : (p.step T action).InOrder T where
  sound := hp.sound.step action hcounters hlast
  built := hp.built.step action hsafe
  mapped doc r' h := by
    have hstep := rendererStep (T := T) (p := p) action doc
    rw [h] at hstep
    generalize hr' : some r' = out at hstep
    cases hstep with
    | same => exact hp.mapped doc r' hr'.symm
    | opened device =>
      obtain ⟨⟨device, initFailed⟩, -, rfl⟩ := Option.map_eq_some_iff.mp hr'.symm
      exact Renderer.hasMappedBuffers_init device initFailed
    | closed => exact nomatch hr'
    | framed r model request hr =>
      cases hr'
      exact hasMappedBuffers_framedRenderer (hp.mapped doc r hr) model request
  inBounds doc key model' h := by
    have hstep := modelStep (T := T) (p := p) action doc key
    rw [h] at hstep
    generalize hmodel' : some model' = out at hstep
    cases hstep with
    | same => exact hp.inBounds doc key model' hmodel'.symm
    | added scene camera =>
      cases hmodel'
      intro o ho
      obtain ⟨o', -, rfl⟩ := List.mem_map.mp ho
      exact SceneObject.keepsInBounds_ofObject _
    | removed => exact nomatch hmodel'
    | changed model _ _ hmodel hfile =>
      cases hmodel'
      rcases hfile with hfile | ⟨ctx, hfile⟩ <;> rw [hfile]
      · exact hp.inBounds doc key model hmodel
      · exact (hp.inBounds doc key model hmodel).frame hT ctx

end Process

end OkularV3d
