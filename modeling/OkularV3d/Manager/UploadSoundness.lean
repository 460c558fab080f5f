import OkularV3d.Manager.FrameSoundness

/-!
# Whole runs of the open documents

`drawsOwnModel_along` is the isolation of the documents: under the two conditions on a frame, every
draw of every run, whatever the interleaving, reads the geometry of its own model.
`drawsExact_along` is the upload gate of one document, where the history invariant `OneDocument`
makes the second condition superfluous. Each is followed by a run that breaks the property where a
condition is missing.

* `Sound.step` is the step lemma of the process: every action keeps that what the renderers have
  uploaded is what was queued, unless a frame breaks a condition.
* `Sound.drawsExact` and `Sound.drawsOwnModel` read the two properties off one frame.
* `OneDocument` is history: who queued last. `OneDocument.ownLast` gives the switch condition.
* The failing runs pan a scene of two triangles (`panRun`), or show two documents in turn
  (`alternation`).
-/

namespace OkularV3d

open Gate Runs

variable {Doc D F : Type}

namespace Process

variable [DecidableEq Doc] [Scalar D] [Scalar F] [Rounding D F]

/-! ### Any action -/

section Steps

variable {T : Tessellation D F} {p : Process Doc D F}

omit [DecidableEq Doc] in
theorem sound_init : (init : Process Doc D F).Sound T where
  managers doc m hm := by simp [init] at hm
  triangle := rfl

theorem Sound.setManager (hp : p.Sound T) (doc : Doc) {m : Option (V3dModelManager D F)}
    (hm : ∀ m', m = some m' → m'.Sound T) : (p.setManager doc m).Sound T where
  managers doc₁ m₁ hm₁ := by
    simp only [Process.setManager] at hm₁
    split_ifs at hm₁ with hdoc
    · exact hm m₁ hm₁
    · exact hp.managers doc₁ m₁ hm₁
  triangle := hp.triangle

theorem Sound.updateModel (hp : p.Sound T) (doc : Doc) (key : ModelKey)
    {f : V3dModel D F → V3dModel D F}
    (hf : ∀ model, (f model).remesh = true ∨ model.remesh = false ∧ (f model).file = model.file ∧
      (f model).drawMode = model.drawMode ∧ (f model).camera = model.camera) :
    (p.updateModel doc key f).Sound T := by
  rw [Process.updateModel]
  cases hm : p.managers doc with
  | none => exact hp
  | some m =>
    cases hmodel : m.model? key with
    | none => simpa only [hmodel] using hp
    | some model =>
      simp only [hmodel]
      refine hp.setManager doc fun m' hm' => ?_
      obtain rfl := Option.some.inj hm'
      exact (hp.managers doc m hm).setModel hmodel (hf model)

/-- **Step lemma**: every action that meets the two conditions keeps the invariant. -/
theorem Sound.step (hp : p.Sound T) (action : Action Doc D F)
    (hcounters : p.CountersReset T action) (hlast : p.OwnLast action) :
    (p.step T action).Sound T := by
  cases action with
  | openDocument doc device =>
    rw [Process.step]
    split_ifs
    · refine hp.setManager doc fun m hm => ?_
      obtain rfl := Option.some.inj hm
      exact V3dModelManager.sound_init device
    · exact hp
  | closeDocument doc => exact hp.setManager doc fun m hm => absurd hm (by simp)
  | setDocument doc =>
    refine hp.setManager doc fun m hm => ?_
    obtain ⟨m', hm', rfl⟩ := Option.map_eq_some_iff.mp hm
    exact (hp.managers doc m' hm').clear
  | addModel doc page scene camera =>
    rw [Process.step]
    cases hm : p.managers doc with
    | none => exact hp
    | some m =>
      refine hp.setManager doc fun m' hm' => ?_
      obtain rfl := Option.some.inj hm'
      exact (hp.managers doc m hm).addModel page rfl
  | interact doc key remesh =>
    refine hp.updateModel doc key fun model => ?_
    -- an interaction may ask for a new mesh and never takes the request back
    cases hremesh : model.remesh with
    | true => exact .inl rfl
    | false =>
      cases remesh with
      | true => exact .inl rfl
      | false => exact .inr ⟨rfl, rfl, rfl, rfl⟩
  | cycleMode doc key => exact hp.updateModel doc key fun _ => .inl rfl
  | render doc request =>
    rw [Process.step, RenderModel]
    cases hentered : p.entered doc request with
    | none => exact hp
    | some found =>
      obtain ⟨m, r, model⟩ := found
      exact (hp.renderLocked hentered hcounters hlast).1

theorem Sound.drawsExact (hp : p.Sound T) (action : Action Doc D F)
    (hcounters : p.CountersReset T action) (hlast : p.OwnLast action) : p.DrawsExact T action := by
  cases action with
  | render doc request =>
    intro draw hdraw
    rw [RenderModel] at hdraw
    cases hentered : p.entered doc request with
    | none =>
      rw [hentered] at hdraw
      exact absurd hdraw List.not_mem_nil
    | some found =>
      obtain ⟨m, r, model⟩ := found
      rw [hentered] at hdraw
      exact ⟨(m, r, model), rfl, (hp.renderLocked hentered hcounters hlast).2 draw hdraw⟩
  | _ => trivial

/-- The buffers a frame is drawn from hold its own model's geometry and nothing else. -/
theorem Sound.drawsOwnModel (hp : p.Sound T) {action : Action Doc D F}
    (h : p.DrawsExact T action) : p.DrawsOwnModel T action := by
  cases action with
  | render doc request =>
    intro draw hdraw
    obtain ⟨⟨m, r, model⟩, hentered, hexact⟩ := h draw hdraw
    refine ⟨(m, r, model), hentered, ?_⟩
    have hdata : (p.frameBuffers T model request draw.kind).data =
        content draw.kind (p.frameEffects T model request) := by
      by_cases hk : draw.kind = .triangle
      · rw [hk, frameBuffers_triangle hp.triangle, content, frameEffects, V3dFile.contrib_triangle]
        rfl
      · exact frameBuffers_data T p model request hk
    rw [Draw.Exact, hdata] at hexact
    exact hexact
  | _ => trivial

end Steps

/-! ### Small scenes -/

section Scenes

/-- A tessellation that never subdivides. -/
def plainTessellation : Tessellation ℚ ℚ where
  patchBounds p := (p.get 0, p.get 15)
  triangleBounds p := (p.get 0, p.get 9)
  curveBounds p := (p.get 0, p.get 3)
  patch _ _ _ _ _ _ := (.empty, true)
  triangle _ _ _ _ _ _ := (.empty, true)
  curve _ _ _ p := (straightSegment 0 (p.get 0) (p.get 3), true)
  curve_vertices := straightSegment_vertices

/-- A view straight onto the scene, moved along the `x` axis by a pan. -/
def panned (dx : ℚ) : Camera ℚ where
  projViewMat i := if i = 0 ∨ i = 5 ∨ i = 10 ∨ i = 15 then 1 else if i = 12 then dx else 0
  normMat i := if i = 0 ∨ i = 4 ∨ i = 8 then 1 else 0
  sceneMinBound := ⟨-1, -1, -1⟩
  sceneMaxBound := ⟨1, 1, 1⟩

/-- A scene of small triangles with opaque red corners, each at its place on the `x` axis. -/
def redTriangles (places : List ℚ) : V3dFile ℚ ℚ where
  objects := places.map fun x =>
    .triangleColor
      ⟨#v[⟨x, 0, 0⟩, ⟨x + 1 / 4, 0, 0⟩, ⟨x, 1 / 4, 0⟩], 0, 0,
        #v[⟨1, 0, 0, 1⟩, ⟨1, 0, 0, 1⟩, ⟨1, 0, 0, 1⟩]⟩ .init
  centers := []
  materials := []
  lights := []
  canvasWidth := 0
  orthographic := true

/-- A device as its renderer finds it. -/
def someDevice : Option (Device × Bool) := some (⟨true, 100, 100, by decide⟩, false)

/-- A 10x10 image of a model on page 0, under a pan, with no failing Vulkan call. -/
def image (modelIndex : Nat) (dx : ℚ) : RenderRequest ℚ where
  pageNumber := 0
  modelIndex := modelIndex
  imageWidth := 10
  imageHeight := 10
  zeroCanvas := false
  camera := panned dx
  blendBig := false
  fault := none

end Scenes

/-! ### Several documents -/

/-- **Isolation of the documents**: along every run in which no frame resets a wrong counter and
every call without a new mesh finds its model the last one queued by its own manager, every draw
reads exactly the geometry of the model its call was made for. -/
theorem drawsOwnModel_along (T : Tessellation D F) (actions : List (Action Doc D F))
    (h : Along (step T) (fun p action => p.CountersReset T action ∧
      p.OwnLast action) init actions) :
    Along (step T) (DrawsOwnModel T) init actions :=
  Along.of_invariant (fun _ action hp hok => hp.step action hok.1 hok.2)
    (fun _ action hp hok => hp.drawsOwnModel (hp.drawsExact action hok.1 hok.2)) sound_init h

/-- Document `false` shows its two models, document `true` its only one, and `false` comes back to
its model `back`. -/
def alternation (back : Nat) : List (Action Bool ℚ ℚ) :=
  [.openDocument true someDevice, .openDocument false someDevice,
    .addModel true 0 (redTriangles [0]) (panned 0),
    .addModel false 0 (redTriangles [-1]) (panned 0),
    .addModel false 0 (redTriangles [1 / 2]) (panned 0),
    .render false (image (1 - back) 0), .render false (image back 0), .render true (image 0 0),
    .interact false (0, 0) false, .render false (image 0 0)]

/-- Back to the model it showed last. -/
theorem drawsOwnModel_alternation :
    Along (step plainTessellation) (DrawsOwnModel plainTessellation) init (alternation 0) :=
  drawsOwnModel_along plainTessellation _ (by decide +kernel)

/-- Back to the model it showed before: the other document has drawn a model of the same number in
between, so no switch is seen, and the GPU buffers of `false` still hold its second model. Every
counter is reset as it should be. -/
theorem not_drawsOwnModel_alternation :
    Along (step plainTessellation) (CountersReset plainTessellation) init (alternation 1) ∧
      ¬ Along (step plainTessellation) (DrawsOwnModel plainTessellation) init (alternation 1) := by
  constructor
  · decide +kernel
  · decide +kernel

/-! ### One document -/

section OneDocument

variable {T : Tessellation D F} {p : Process Unit D F}

/-- With one document, `lastPage` and `lastModel` name the model its manager queued last. -/
structure OneDocument (p : Process Unit D F) : Prop where
  last : ∀ m key, p.managers () = some m → m.lastQueued = some key →
    key = (p.lastPage, p.lastModel)
  fresh : ∀ m, p.managers () = some m → m.lastQueued = none →
    ∀ key model, m.model? key = some model → model.remesh = true

omit [Scalar D] [Scalar F] [Rounding D F] in
theorem OneDocument.ownLast (hp : p.OneDocument) (action : Action Unit D F) :
    p.OwnLast action := by
  cases action with
  | render doc request =>
    rintro ⟨m, r, model⟩ hentered hremesh
    obtain ⟨hm, -, hmodel, -⟩ := entered_eq_some hentered
    simp only [enterModel, switchedModel, Bool.or_eq_false_iff, bne_eq_false_iff_eq] at hremesh
    obtain ⟨⟨hnot, hpage, hindex⟩, -⟩ := hremesh
    cases hlast : m.lastQueued with
    | none =>
      have hfresh := hp.fresh m hm hlast request.key model hmodel
      exact absurd hfresh (by simp [hnot])
    | some key =>
      rw [hp.last m key hm hlast, ← hpage, ← hindex]
      rfl
  | _ => trivial

omit [Scalar D] [Scalar F] [Rounding D F] in
theorem OneDocument.init : (init : Process Unit D F).OneDocument :=
  ⟨fun m key hm => absurd hm (by simp [Process.init]),
    fun m hm => absurd hm (by simp [Process.init])⟩

omit [Scalar D] [Scalar F] [Rounding D F] in
/-- A manager with the same history, whose models that ask for a new mesh go on doing so. -/
theorem OneDocument.setManager (hp : p.OneDocument) {m m' : V3dModelManager D F}
    (hm : p.managers () = some m) (hlast : m'.lastQueued = m.lastQueued)
    (hmodel : ∀ key model, m'.model? key = some model → model.remesh = true ∨
      ∃ model₀, m.model? key = some model₀ ∧ (model₀.remesh = true → model.remesh = true)) :
    (p.setManager () (some m')).OneDocument where
  last m₁ key hm₁ hkey := by
    obtain rfl := Option.some.inj hm₁
    exact hp.last m key hm (hlast ▸ hkey)
  fresh m₁ hm₁ hnone key model hmodel₁ := by
    obtain rfl := Option.some.inj hm₁
    rcases hmodel key model hmodel₁ with hremesh | ⟨model₀, hmodel₀, hremesh⟩
    · exact hremesh
    · exact hremesh (hp.fresh m hm (hlast ▸ hnone) key model₀ hmodel₀)

omit [Scalar D] [Scalar F] [Rounding D F] in
theorem OneDocument.updateModel (hp : p.OneDocument) (key : ModelKey)
    {f : V3dModel D F → V3dModel D F} (hf : ∀ model, model.remesh = true →
      (f model).remesh = true) :
    (p.updateModel () key f).OneDocument := by
  rw [Process.updateModel]
  cases hm : p.managers () with
  | none => exact hp
  | some m =>
    cases hmodel : m.model? key with
    | none => simpa only [hmodel] using hp
    | some model =>
      simp only [hmodel]
      refine hp.setManager hm rfl fun key₁ model₁ hmodel₁ => .inr ?_
      rw [V3dModelManager.model?_setModel, hmodel] at hmodel₁
      split_ifs at hmodel₁ with hkey
      · obtain rfl := Option.some.inj hmodel₁
        exact ⟨model, hkey ▸ hmodel, hf model⟩
      · exact ⟨model₁, hmodel₁, id⟩

/-- **Step lemma** of the history. -/
theorem OneDocument.step (hp : p.OneDocument) (T : Tessellation D F) (action : Action Unit D F) :
    (p.step T action).OneDocument := by
  cases action with
  | openDocument doc device =>
    rw [Process.step]
    split_ifs
    · refine ⟨fun m key hm hlast => ?_, fun m hm _ key model hmodel => ?_⟩
      · obtain rfl := Option.some.inj hm
        exact absurd hlast (by simp [V3dModelManager.init])
      · obtain rfl := Option.some.inj hm
        exact absurd hmodel (by simp [V3dModelManager.init, V3dModelManager.model?])
    · exact hp
  | closeDocument doc =>
    exact ⟨fun m key hm => absurd hm (by simp [Process.step, Process.setManager]),
      fun m hm => absurd hm (by simp [Process.step, Process.setManager])⟩
  | setDocument doc =>
    refine ⟨fun m key hm hlast => ?_, fun m hm _ key model hmodel => ?_⟩
    · obtain ⟨m', -, rfl⟩ := Option.map_eq_some_iff.mp hm
      exact absurd hlast (by simp [V3dModelManager.clear])
    · obtain ⟨m', -, rfl⟩ := Option.map_eq_some_iff.mp hm
      exact absurd hmodel (by simp [V3dModelManager.clear, V3dModelManager.model?])
  | addModel doc page scene camera =>
    rw [Process.step]
    cases hm : p.managers doc with
    | none => exact hp
    | some m =>
      refine hp.setManager hm rfl fun key model hmodel => ?_
      rcases V3dModelManager.model?_addModel hmodel with hold | rfl
      · exact .inr ⟨model, hold, id⟩
      · exact .inl rfl
  | interact doc key remesh =>
    exact hp.updateModel key fun model hremesh => by simp [hremesh]
  | cycleMode doc key => exact hp.updateModel key fun _ _ => rfl
  | render doc request =>
    rw [Process.step, RenderModel]
    cases hentered : p.entered doc request with
    | none => exact hp
    | some found =>
      obtain ⟨m, r, model⟩ := found
      -- whatever a call draws, it notes its own model as the last one
      have hreturned : ∀ (buffers : Buffers F) (r : Renderer F) (model : V3dModel D F),
          (p.returned () m request buffers r model).OneDocument := by
        intro buffers r model
        refine ⟨fun m₁ key hm₁ hlast => ?_, fun m₁ hm₁ hnone => ?_⟩
        · obtain rfl := Option.some.inj hm₁
          exact (Option.some.inj hlast).symm
        · obtain rfl := Option.some.inj hm₁
          exact absurd hnone (by simp [V3dModelManager.setModel])
      simp only [renderLocked_eq]
      split_ifs
      all_goals exact hreturned ..

/-- **Upload-gate soundness**: with one document, along every run in which no frame resets a wrong
counter, every draw reads exactly the vertices and indices its frame has in the buffer. -/
theorem drawsExact_along (T : Tessellation D F) (actions : List (Action Unit D F))
    (h : Along (step T) (CountersReset T) init actions) :
    Along (step T) (DrawsExact T) init actions :=
  Along.of_invariant
    (fun (p : Process Unit D F) action (hp : p.Sound T ∧ p.OneDocument) hok =>
      ⟨hp.1.step action hok (hp.2.ownLast action), hp.2.step T action⟩)
    (fun _ action hp hok => hp.1.drawsExact action hok (hp.2.ownLast action))
    ⟨sound_init, OneDocument.init⟩ h

/-- Two triangles are shown, then a pan moves them by `dx`. -/
def panRun (dx : ℚ) : List (Action Unit ℚ ℚ) :=
  [.openDocument () someDevice, .addModel () 0 (redTriangles [-1, 1 / 2]) (panned 0),
    .render () (image 0 0), .interact () (0, 0) false, .render () (image 0 dx)]

/-- A pan that leaves both triangles on the screen. -/
theorem drawsExact_small_pan :
    Along (step plainTessellation) (DrawsExact plainTessellation) init (panRun (1 / 8)) :=
  drawsExact_along plainTessellation _ (by decide +kernel)

/-- A pan that moves the first triangle off the screen: the counter of the transparent buffer is
reset, not that of the coloured one, and the second triangle is drawn from the vertices of the
first. -/
theorem not_drawsExact_pan :
    ¬ Along (step plainTessellation) (DrawsExact plainTessellation) init (panRun (-3 / 2)) := by
  decide +kernel

end OneDocument

end Process

end OkularV3d
