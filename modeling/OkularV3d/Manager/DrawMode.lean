import Mathlib.Data.Fintype.Basic
import OkularV3d.Manager.UploadSoundness

/-!
# The pipelines of a frame

Every graphics pipeline is created for one draw mode. `Renderer.Built` says of a renderer that all
its live pipelines were created for `currentDrawMode`; `render_built` carries this through a call
and proves that the pipelines a frame binds were created for the frame's draw mode.

`RenderModel` breaks it: on a switch it overwrites `currentDrawMode` with the mode of the entering
model, and `render()`, which looks for a change of mode there, sees none. `SwitchSafe` is the
condition under which this does no harm.

* `Renderer.Built` is the invariant of a renderer, `RenderersBuilt` that of a process.
* `BindsOf.mainPass` says which pipelines a frame binds: those that the renderer has when the
  recording begins.
* `RenderersBuilt.renderLocked` is the step lemma; `pipelinesAgree_along` is the result for runs.

A switch to a model of another size that has something to draw is always safe, since everything
is then created anew.
-/

namespace OkularV3d

open Runs

variable {Doc D F : Type}

namespace Renderer

/-- The pipeline a draw mode asks for. -/
def pipelineFor (mode : DrawMode) (name : PipelineName) : Pipeline := ⟨mode, name.polygonMode mode⟩

/-- **All live pipelines were created for the current draw mode**: all of them, if the renderer is
initialised, and none, if it is not. -/
def Built (r : Renderer F) : Prop :=
  ∀ name, r.pipelines name =
    if r.initialized then some (pipelineFor r.currentDrawMode name) else none

/-- A new renderer has no pipelines to agree. -/
theorem built_init (device : Device) (initFailed : Bool) :
    (init device initFailed : Renderer F).Built :=
  fun _ => rfl

/-- Nor has one after a failure. -/
theorem built_fail (r : Renderer F) : r.fail.Built := fun _ => rfl

/-- No pipeline is live. -/
def NoPipelines (r : Renderer F) : Prop := ∀ name, r.pipelines name = none

instance (r : Renderer F) : Decidable r.NoPipelines :=
  decidable_of_iff (∀ name ∈ opaquePipelines ++ remainingPipelines, r.pipelines name = none)
    ⟨fun h name => h name (mem_allPipelines name), fun h name _ => h name⟩

/-! ### Recording -/

/-- What was bound so far are pipelines of `r`. -/
structure BindsOf (r : Renderer F) (st : Recording F) : Prop where
  same : SameResources r st.renderer
  binds : ∀ bind ∈ st.binds, bind.2 = r.pipelines bind.1

/-- A recording leaves the pipelines as they are. -/
theorem SameResources.pipelines_eq {r s : Renderer F} (h : SameResources r s) :
    s.pipelines = r.pipelines := by
  obtain ⟨gpu, rfl⟩ := h
  rfl

/-- A draw binds a pipeline of the renderer. -/
theorem BindsOf.drawBuffer {r : Renderer F} {st : Recording F} (h : BindsOf r st) (pass : Pass)
    (copied remesh : Bool) (fault : Option FaultPoint) (kind : BufferKind) :
    BindsOf r (st.drawBuffer pass copied remesh fault kind) := by
  refine ⟨h.same.trans (sameResources_drawBuffer ..), ?_⟩
  simp only [Recording.drawBuffer]
  split_ifs
  · exact h.binds
  · exact h.binds
  · exact h.binds
  · intro bind hbind
    rcases List.mem_append.mp hbind with hbind | hbind
    · exact h.binds bind hbind
    · obtain rfl := List.mem_singleton.mp hbind
      have hsame := h.same.trans (sameResources_uploadBuffer st.renderer copied remesh kind
        (st.buffers kind))
      exact congrFun hsame.pipelines_eq _

/-- So do all draws of a pass. -/
theorem BindsOf.foldl {r : Renderer F} {st : Recording F} (h : BindsOf r st) (pass : Pass)
    (copied remesh : Bool) (fault : Option FaultPoint) (kinds : List BufferKind) :
    BindsOf r (kinds.foldl (Recording.drawBuffer pass copied remesh fault) st) := by
  induction kinds generalizing st with
  | nil => exact h
  | cons kind kinds ih => exact ih (h.drawBuffer pass copied remesh fault kind)

/-- So does the quad that blends. -/
theorem BindsOf.bindBlend {r : Renderer F} {st : Recording F} (h : BindsOf r st) (big : Bool) :
    BindsOf r (st.bindBlend big) := by
  simp only [Recording.bindBlend]
  cases st.ok with
  | false => exact h
  | true =>
    refine ⟨h.same, fun bind hbind => ?_⟩
    rcases List.mem_append.mp hbind with hbind | hbind
    · exact h.binds bind hbind
    · obtain rfl := List.mem_singleton.mp hbind
      exact congrFun h.same.pipelines_eq _

/-- **Every pipeline bound in the main pass** is one the renderer had when the recording began. -/
theorem BindsOf.mainPass {r : Renderer F} {st : Recording F} (h : BindsOf r st)
    (c : RenderCall D F) (isOpaque copied : Bool) (announced : Nat) (pushed : Option Nat) :
    ∀ bind ∈ (mainPass c isOpaque copied announced pushed st).2.2.binds,
      bind.2 = r.pipelines bind.1 := by
  have hdraws : BindsOf r (st.mainDraws c isOpaque copied) := by
    have hop := h.foldl (.main isOpaque) copied c.remesh c.fault opaqueKinds
    rw [Recording.mainDraws]
    split_ifs
    · exact hop
    · exact (hop.drawBuffer (.main false) true c.remesh c.fault .transparent).bindBlend _
  simp only [Renderer.mainPass]
  split_ifs
  · exact h.binds
  · exact hdraws.binds
  · exact hdraws.binds

/-- A frame binds the pipelines of the renderer it is recorded on. -/
theorem drawFrame_binds (r : Renderer F) (cpu : Buffers F) (c : RenderCall D F) :
    ∀ bind ∈ (r.drawFrame cpu c).2.2.binds, bind.2 = r.pipelines bind.1 := by
  have hstart : BindsOf r ⟨r, cpu, [], [], true⟩ :=
    ⟨.refl r, fun _ hbind => absurd hbind List.not_mem_nil⟩
  have hcount : BindsOf r (Recording.countDraws c ⟨r, cpu, [], [], true⟩) :=
    hstart.foldl .count false c.remesh c.fault _
  simp only [drawFrame]
  split_ifs
  · exact hstart.mainPass c _ _ _ _
  · exact fun _ hbind => absurd hbind List.not_mem_nil
  · exact hcount.binds
  · exact hcount.mainPass c _ _ _ _

/-! ### The whole call -/

variable [Scalar F] [Rounding D F]

/-- The pipelines a call starts its frame with, if the renderer is built or everything is going to
be recreated. -/
theorem prepared_pipelines {r : Renderer F} (hr : r.WellFormed) {c : RenderCall D F}
    (hsize : 0 < c.targetSize.1)
    (h : r.Built ∨ r.currentTargetSize ≠ r.clampSize c.targetSize) (name : PipelineName) :
    (r.prepared c).pipelines name = some (pipelineFor c.drawMode name) := by
  have hmode := prepared_currentDrawMode r c
  have hinit := (prepared_gpu hr hsize).1
  rw [prepared] at hmode hinit ⊢
  cases hprep : r.preparation c with
  | recreatePipelines => exact recreateGraphicsPipelines_pipelines r c.drawMode name
  | recreateAll => rfl
  | keep =>
    rw [hprep] at hmode hinit
    have hbuilt : r.Built := by
      refine h.resolve_right fun hne => ?_
      simp only [preparation] at hprep
      split_ifs at hprep with hlight hall
      exact hall (.inl hne)
    rw [← hmode]
    exact (hbuilt name).trans (if_pos hinit)

/-- **The pipelines of a call**: it leaves a built renderer, and whatever it binds was created for
its draw mode. -/
theorem render_built {r : Renderer F} (hr : r.WellFormed) {c : RenderCall D F}
    (hsize : 0 < c.targetSize.1) (hlive : r.initialized = false → r.NoPipelines)
    (h : r.Built ∨ r.currentTargetSize ≠ r.clampSize c.targetSize) (cpu : Buffers F) :
    (r.render cpu c).1.Built ∧
      ∀ bind ∈ (r.render cpu c).2.2.binds, bind.2 = some (pipelineFor c.drawMode bind.1) := by
  cases hreach : r.reachesFrame c with
  | false =>
    obtain ⟨hblank, hstopped⟩ := render_of_not_reachesFrame hreach cpu
    refine ⟨fun name => ?_, ?_⟩
    · rcases hstopped with ⟨hfailed, hsame⟩ | hstopped
      · have hinit := hr.initFailed hfailed
        rw [hsame, hinit]
        exact hlive hinit name
      · rw [hstopped.initialized]
        rcases hstopped.pipelines with hnone | ⟨hinit, hsame⟩
        · exact hnone name
        · rw [hsame]
          exact hlive hinit name
    · rw [hblank]
      exact fun _ hbind => absurd hbind List.not_mem_nil
  | true =>
    have hpipelines := prepared_pipelines hr hsize h
    have hinit := (prepared_gpu hr hsize).1
    -- copying the frame's data leaves the pipelines as the preparation has made them
    have hcopied : ((r.prepared c).copyFrameData c).pipelines = (r.prepared c).pipelines ∧
        ((r.prepared c).copyFrameData c).initialized = true ∧
          ((r.prepared c).copyFrameData c).currentDrawMode = c.drawMode := by
      rw [copyFrameData, if_pos hinit]
      exact ⟨rfl, hinit, prepared_currentDrawMode r c⟩
    obtain ⟨hsame, hinit', hmode⟩ := hcopied
    rw [render_of_reachesFrame hreach]
    refine ⟨?_, fun bind hbind => ?_⟩
    · rcases drawFrame_fst ((r.prepared c).copyFrameData c) cpu c with
        ⟨⟨gpu, hdrawn⟩, -⟩ | ⟨hfail, -⟩
      · simp only [hdrawn]
        intro name
        simp only [hsame, hinit', hmode, hpipelines, if_true]
      · simp only [hfail]
        exact built_fail _
    · rw [drawFrame_binds _ cpu c bind hbind, hsame, hpipelines]

end Renderer

namespace Process

variable [DecidableEq Doc] [Scalar D] [Scalar F] [Rounding D F]

/-- `currentDrawMode` is the mode the live pipelines were created for. -/
def ModeAgrees (r : Renderer F) : Prop :=
  ∀ name, ∀ pipeline ∈ r.pipelines name, pipeline.createdFor = r.currentDrawMode

/-- In a step every pipeline bound was created for the mode of the model drawn, and after it the
`currentDrawMode` of every renderer is the mode of its live pipelines. -/
def PipelinesAgree (T : Tessellation D F) (p : Process Doc D F) (action : Action Doc D F) : Prop :=
  (match action with
    | .render doc request => ∀ bind ∈ (p.RenderModel T doc request).2.binds,
        ∃ found ∈ p.entered doc request,
          bind.2 = some (Renderer.pipelineFor found.2.2.drawMode bind.1)
    | _ => True) ∧
  ∀ doc, ∀ m ∈ (p.step T action).managers doc, ∀ r ∈ m.renderer, ModeAgrees r

/-- **A safe switch**: on a switch to another model its draw mode is the renderer's, or there is no
pipeline yet, or the frame has something to draw and a new size, so that everything is recreated. -/
def SwitchSafe (T : Tessellation D F) (p : Process Doc D F) : Action Doc D F → Prop
  | .render doc request => ∀ found ∈ p.entered doc request, p.switchedModel request = true →
    let r := found.2.1
    let model := found.2.2
    model.drawMode = r.currentDrawMode ∨ r.NoPipelines ∨
      hasRenderableData (p.frameBuffers T model request) = true ∧
        r.currentTargetSize ≠ r.clampSize request.imageSize
  | _ => True

instance (r : Renderer F) : Decidable (ModeAgrees r) :=
  decidable_of_iff (∀ name ∈ opaquePipelines ++ remainingPipelines,
      ∀ pipeline ∈ r.pipelines name, pipeline.createdFor = r.currentDrawMode)
    ⟨fun h name => h name (Renderer.mem_allPipelines name), fun h name _ => h name⟩

instance [Fintype Doc] (T : Tessellation D F) (p : Process Doc D F) :
    ∀ action, Decidable (p.PipelinesAgree T action)
  | .render doc request => inferInstanceAs (Decidable
      ((∀ bind ∈ (p.RenderModel T doc request).2.binds, ∃ found ∈ p.entered doc request,
        bind.2 = some (Renderer.pipelineFor found.2.2.drawMode bind.1)) ∧
      ∀ doc', ∀ m ∈ (p.step T (.render doc request)).managers doc', ∀ r ∈ m.renderer,
        ModeAgrees r))
  | .openDocument .. | .closeDocument .. | .setDocument .. | .addModel .. | .interact ..
  | .cycleMode .. => inferInstanceAs (Decidable (True ∧
      ∀ doc, ∀ m ∈ (p.step T _).managers doc, ∀ r ∈ m.renderer, ModeAgrees r))

instance (T : Tessellation D F) (p : Process Doc D F) : ∀ action, Decidable (p.SwitchSafe T action)
  | .render doc request => inferInstanceAs (Decidable
      (∀ found ∈ p.entered doc request, p.switchedModel request = true →
        found.2.2.drawMode = found.2.1.currentDrawMode ∨ found.2.1.NoPipelines ∨
          hasRenderableData (p.frameBuffers T found.2.2 request) = true ∧
            found.2.1.currentTargetSize ≠ found.2.1.clampSize request.imageSize))
  | .openDocument .. | .closeDocument .. | .setDocument .. | .addModel .. | .interact ..
  | .cycleMode .. => inferInstanceAs (Decidable True)

/-- **The invariant of the renderers.** -/
def RenderersBuilt (p : Process Doc D F) : Prop :=
  ∀ doc m r, p.managers doc = some m → m.renderer = some r → r.WellFormed ∧ r.Built

section Steps

variable {T : Tessellation D F} {p : Process Doc D F} {m : V3dModelManager D F} {r : Renderer F}
  {model : V3dModel D F} {request : RenderRequest D}

omit [DecidableEq Doc] [Scalar D] [Scalar F] [Rounding D F] in
theorem RenderersBuilt.init : (init : Process Doc D F).RenderersBuilt :=
  fun doc m r hm => absurd hm (by simp [Process.init])

omit [Scalar D] [Scalar F] [Rounding D F] in
/-- A manager that comes to a document with a renderer it has had. -/
theorem RenderersBuilt.setManager (hp : p.RenderersBuilt) (doc : Doc)
    {m : Option (V3dModelManager D F)}
    (h : ∀ m' r, m = some m' → m'.renderer = some r → r.WellFormed ∧ r.Built) :
    (p.setManager doc m).RenderersBuilt := by
  intro doc₁ m₁ r₁ hm₁ hr₁
  simp only [Process.setManager] at hm₁
  split_ifs at hm₁ with hdoc
  · exact h m₁ r₁ hm₁ hr₁
  · exact hp doc₁ m₁ r₁ hm₁ hr₁

omit [Scalar D] [Scalar F] [Rounding D F] in
/-- A model may change while its renderer waits. -/
theorem RenderersBuilt.updateModel (hp : p.RenderersBuilt) (doc : Doc) (key : ModelKey)
    (f : V3dModel D F → V3dModel D F) : (p.updateModel doc key f).RenderersBuilt := by
  rw [Process.updateModel]
  cases hm : p.managers doc with
  | none => exact hp
  | some m =>
    cases hmodel : m.model? key with
    | none => simpa only [hmodel] using hp
    | some model =>
      simp only [hmodel]
      refine hp.setManager doc fun m' r hm' hr => ?_
      obtain rfl := Option.some.inj hm'
      exact hp doc m r hm hr

omit [Scalar D] [Scalar F] [Rounding D F] in
/-- A built renderer without pipelines is not initialised. -/
theorem initialized_of_noPipelines (h : r.Built) (hnone : r.NoPipelines) :
    r.initialized = false := by
  by_contra hinit
  rw [Bool.not_eq_false] at hinit
  have hlive := h .material
  rw [hnone .material, hinit] at hlive
  exact absurd hlive (by simp)

omit [DecidableEq Doc] in
/-- What a safe switch makes of a built renderer. -/
theorem enterRenderer_safe (hr : r.Built)
    (hsafe : p.switchedModel request = true → model.drawMode = r.currentDrawMode ∨
      r.NoPipelines ∨ hasRenderableData (p.frameBuffers T model request) = true ∧
        r.currentTargetSize ≠ r.clampSize request.imageSize) :
    (p.enterRenderer model request r).Built ∨
      hasRenderableData (p.frameBuffers T model request) = true ∧
        (p.enterRenderer model request r).currentTargetSize ≠
          (p.enterRenderer model request r).clampSize request.imageSize := by
  rw [enterRenderer]
  split_ifs with hswitched
  · rcases hsafe hswitched with hmode | hnone | hsize
    · left
      rw [hmode]
      exact hr
    · left
      intro name
      rw [if_neg (by simpa using initialized_of_noPipelines hr hnone)]
      exact hnone name
    · exact .inr hsize
  · exact .inl hr

omit [DecidableEq Doc] [Scalar D] [Scalar F] [Rounding D F] in
/-- A renderer that is entered is well formed, new or not. -/
theorem wellFormed_enterRenderer (h : r.WellFormed) :
    (p.enterRenderer model request r).WellFormed := by
  rw [enterRenderer]
  split_ifs
  · exact ⟨h.size, h.gpu, h.initFailed⟩
  · exact h

omit [DecidableEq Doc] [Scalar D] [Scalar F] [Rounding D F] in
/-- A built renderer that is not initialised has no pipelines, whatever mode it is switched to. -/
theorem noPipelines_enterRenderer (h : r.Built)
    (hinit : (p.enterRenderer model request r).initialized = false) :
    (p.enterRenderer model request r).NoPipelines := by
  intro name
  have hinit' : r.initialized = false := by
    rw [enterRenderer] at hinit
    split_ifs at hinit <;> exact hinit
  have hname : r.pipelines name = none := by
    rw [h name, if_neg (by simp [hinit'])]
  rw [enterRenderer]
  split_ifs <;> exact hname

omit [Scalar D] [Scalar F] [Rounding D F] in
/-- A renderer that is handed back takes the place it had. -/
theorem RenderersBuilt.returned (hp : p.RenderersBuilt) (doc : Doc) (buffers : Buffers F)
    (h : r.WellFormed ∧ r.Built) :
    (p.returned doc m request buffers r model).RenderersBuilt := by
  refine RenderersBuilt.setManager hp doc fun m' r' hm' hr' => ?_
  obtain rfl := Option.some.inj hm'
  obtain rfl := Option.some.inj hr'
  exact h

/-- **Step lemma**: a call with a safe switch keeps the renderers built, and binds pipelines of the
model's draw mode. -/
theorem RenderersBuilt.renderLocked (hp : p.RenderersBuilt) {doc : Doc}
    (hentered : p.entered doc request = some (m, r, model))
    (hsafe : p.SwitchSafe T (.render doc request)) :
    (p.renderLocked T doc m r model request).1.RenderersBuilt ∧
      ∀ bind ∈ (p.renderLocked T doc m r model request).2.binds,
        bind.2 = some (Renderer.pipelineFor model.drawMode bind.1) := by
  obtain ⟨hdoc, hrenderer, -, hsize⟩ := entered_eq_some hentered
  obtain ⟨hwf, hbuilt⟩ := hp doc m r hdoc hrenderer
  have hentry := enterRenderer_safe (T := T) hbuilt (hsafe (m, r, model) hentered)
  have hwf' : (p.enterRenderer model request r).WellFormed := wellFormed_enterRenderer hwf
  rw [renderLocked_eq]
  dsimp only
  by_cases hempty : hasRenderableData (p.frameBuffers T model request) = false
  · -- nothing is drawn: the renderer is returned as it was entered
    rw [if_pos (by rw [hempty]; rfl)]
    refine ⟨hp.returned doc _ ⟨hwf', hentry.resolve_right fun h => ?_⟩,
      fun _ hbind => absurd hbind List.not_mem_nil⟩
    rw [hempty] at h
    exact absurd h.1 (by simp)
  · rw [if_neg (by simpa using hempty)]
    set c := frameCall (p.consumedModel T model request) request
    obtain ⟨hafter, hbinds⟩ := Renderer.render_built hwf' (c := c) hsize
      (noPipelines_enterRenderer hbuilt) (hentry.imp id And.right) (p.frameBuffers T model request)
    have hkept := (Renderer.render_wellFormed hwf' (c := c) hsize
      (p.frameBuffers T model request)).1
    exact ⟨hp.returned doc _ ⟨hkept, hafter⟩, hbinds⟩

/-- **The invariant**: the pipelines of every renderer were built in the draw mode it has noted. -/
theorem RenderersBuilt.step (hp : p.RenderersBuilt) (action : Action Doc D F)
    (hsafe : p.SwitchSafe T action) : (p.step T action).RenderersBuilt := by
  -- a new document brings a renderer, and only a render changes one
  cases action with
  | openDocument doc device =>
    rw [Process.step]
    split_ifs
    · refine hp.setManager doc fun m r hm hr => ?_
      obtain rfl := Option.some.inj hm
      obtain ⟨⟨device, initFailed⟩, -, rfl⟩ := Option.map_eq_some_iff.mp hr
      exact ⟨Renderer.wellFormed_init device initFailed, Renderer.built_init device initFailed⟩
    · exact hp
  | closeDocument doc => exact hp.setManager doc fun m r hm => absurd hm (by simp)
  | setDocument doc =>
    refine hp.setManager doc fun m r hm hr => ?_
    obtain ⟨m', hm', rfl⟩ := Option.map_eq_some_iff.mp hm
    exact hp doc m' r hm' hr
  | addModel doc page scene camera =>
    rw [Process.step]
    cases hm : p.managers doc with
    | none => exact hp
    | some m =>
      refine hp.setManager doc fun m' r hm' hr => ?_
      obtain rfl := Option.some.inj hm'
      exact hp doc m r hm hr
  | interact doc key remesh => exact hp.updateModel doc key _
  | cycleMode doc key => exact hp.updateModel doc key _
  | render doc request =>
    rw [Process.step, RenderModel]
    cases hentered : p.entered doc request with
    | none => exact hp
    | some found =>
      obtain ⟨m, r, model⟩ := found
      exact (hp.renderLocked hentered hsafe).1

omit [DecidableEq Doc] [Scalar D] [Scalar F] [Rounding D F] in
/-- So the pipelines of a renderer agree with each other. -/
theorem RenderersBuilt.modeAgrees (hp : p.RenderersBuilt) (doc : Doc) :
    ∀ m ∈ p.managers doc, ∀ r ∈ m.renderer, ModeAgrees r := by
  intro m hm r hr name pipeline hpipeline
  have hname := (hp doc m r hm hr).2 name
  rw [Option.mem_def.mp hpipeline] at hname
  split_ifs at hname
  rw [Option.some.inj hname]
  rfl

/-- **And with the draw mode of the frame**, if the step is no switch at the same size. -/
theorem RenderersBuilt.pipelinesAgree (hp : p.RenderersBuilt) (action : Action Doc D F)
    (hsafe : p.SwitchSafe T action) : p.PipelinesAgree T action := by
  refine ⟨?_, (hp.step action hsafe).modeAgrees⟩
  cases action with
  | render doc request =>
    intro bind hbind
    rw [RenderModel] at hbind
    cases hentered : p.entered doc request with
    | none =>
      rw [hentered] at hbind
      exact absurd hbind List.not_mem_nil
    | some found =>
      obtain ⟨m, r, model⟩ := found
      rw [hentered] at hbind
      exact ⟨(m, r, model), rfl, (hp.renderLocked hentered hsafe).2 bind hbind⟩
  | _ => trivial

end Steps

/-- **Draw mode and pipelines agree** along every run whose switches are safe. -/
theorem pipelinesAgree_along (T : Tessellation D F) (actions : List (Action Doc D F))
    (h : Along (step T) (SwitchSafe T) init actions) :
    Along (step T) (PipelinesAgree T) init actions :=
  Along.of_invariant (fun _ action hp hsafe => hp.step action hsafe)
    (fun _ action hp hsafe => hp.pipelinesAgree action hsafe) RenderersBuilt.init h

/-- Two models share a renderer; the first is shown in `NORMAL` mode, the second, after `cycles`
mode changes, in its own. -/
def switchRun (cycles : Nat) : List (Action Unit ℚ ℚ) :=
  [.openDocument () someDevice, .addModel () 0 (redTriangles [0]) (panned 0),
    .addModel () 0 (redTriangles [1 / 2]) (panned 0), .render () (image 0 0)] ++
  List.replicate cycles (.cycleMode () (0, 1)) ++ [.render () (image 1 0)]

/-- Both models in `NORMAL` mode. -/
theorem pipelinesAgree_same_mode :
    Along (step plainTessellation) (PipelinesAgree plainTessellation) init (switchRun 0) :=
  pipelinesAgree_along plainTessellation _ (by decide +kernel)

/-- The second model in `WIREFRAME` mode is drawn with the pipelines of the first. -/
theorem not_pipelinesAgree_wireframe :
    ¬ Along (step plainTessellation) (PipelinesAgree plainTessellation) init (switchRun 2) := by
  decide +kernel

end Process

end OkularV3d
