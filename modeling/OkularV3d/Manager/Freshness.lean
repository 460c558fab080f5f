import OkularV3d.Manager.UploadSoundness
import OkularV3d.Manager.View
import OkularV3d.Scene.QueuePath

/-!
# How old a kept mesh may be

`remesh` is what makes the objects of a model build their meshes anew. `home`, `cycleMode` and
`dragModeZoom` set it, and so does `RenderModel` where the size of the image is not that of the
cached image; it is consumed in a frame that has something to draw, outside `OUTLINE` mode. A turn
of the wheel changes `Zoom` and does not set it.

A `ViewSession` adds the views of the models to the process of `OkularV3d.Manager.RenderModel`, and
notes the zoom, the size and the draw mode at which each object has built its mesh. The exact
condition under which the fast path appends only meshes of the frame's own resolution is
`fresh_along_iff`: between two frames of a model whose second takes the fast path, neither the zoom
nor the size has changed. The draw mode never has, since `cycleMode` asks for a new mesh.

* `ViewSession` and `ViewAction` are the state and its steps, with the history that the property
  needs.
* `ViewedModel.Describes` is the invariant of a model, kept by `Holds.describes`.
* `fresh_along_of_remeshed` names operations: without a turn of the wheel and with one size there
  are no stale meshes.
-/

namespace OkularV3d

open Runs
open ImageCache (HeaderInfo Interaction ViewScalar)

/-! ### The models of a process -/

namespace Process

variable {Doc D F : Type} [DecidableEq Doc]

/-- `m_Models[page][index]` of a document. -/
def model? (p : Process Doc D F) (doc : Doc) (key : ModelKey) : Option (V3dModel D F) :=
  (p.managers doc).bind fun m => m.model? key

theorem model?_setManager (p : Process Doc D F) (doc : Doc) (m : Option (V3dModelManager D F))
    (doc' : Doc) (key : ModelKey) :
    (p.setManager doc m).model? doc' key =
      if doc' = doc then m.bind fun m => m.model? key else p.model? doc' key := by
  simp only [model?, setManager]
  split_ifs <;> rfl

/-- Putting another model in the place of one. -/
theorem model?_setManager_setModel {p : Process Doc D F} {doc : Doc} {m m' : V3dModelManager D F}
    (hm : p.managers doc = some m) (hmodels : m'.models = m.models) {key : ModelKey}
    {model : V3dModel D F} (hmodel : m.model? key = some model) (model' : V3dModel D F) (doc' : Doc)
    (key' : ModelKey) :
    (p.setManager doc (some (m'.setModel key model'))).model? doc' key' =
      if doc' = doc ∧ key' = key then some model' else p.model? doc' key' := by
  have hsame : ∀ k, m'.model? k = m.model? k := fun k => by
    simp only [V3dModelManager.model?, hmodels]
  rw [model?_setManager]
  by_cases hdoc : doc' = doc
  · subst hdoc
    simp only [if_true, Option.bind_some, V3dModelManager.model?_setModel, hsame, hmodel,
      Option.map_some, true_and, model?, hm]
  · rw [if_neg hdoc, if_neg fun h => hdoc h.1]

theorem model?_updateModel (p : Process Doc D F) (doc : Doc) (key : ModelKey)
    (f : V3dModel D F → V3dModel D F) (doc' : Doc) (key' : ModelKey) :
    (p.updateModel doc key f).model? doc' key' =
      if doc' = doc ∧ key' = key then (p.model? doc key).map f else p.model? doc' key' := by
  rw [updateModel]
  cases hm : p.managers doc with
  | none =>
    split_ifs with h
    · obtain ⟨rfl, rfl⟩ := h
      simp [model?, hm]
    · rfl
  | some m =>
    cases hmodel : m.model? key with
    | none =>
      simp only [hmodel]
      split_ifs with h
      · obtain ⟨rfl, rfl⟩ := h
        simp [model?, hm, hmodel]
      · rfl
    | some model =>
      simp only [hmodel]
      rw [model?_setManager_setModel hm rfl hmodel]
      simp [model?, hm, hmodel]

/-- A call leaves its model behind, and the others as they were. -/
theorem model?_returned {p : Process Doc D F} {doc : Doc} {m : V3dModelManager D F}
    (hm : p.managers doc = some m) {request : RenderRequest D} {model : V3dModel D F}
    (hmodel : m.model? request.key = some model) (buffers : Buffers F) (r : Renderer F)
    (model' : V3dModel D F) (doc' : Doc) (key : ModelKey) :
    (p.returned doc m request buffers r model').model? doc' key =
      if doc' = doc ∧ key = request.key then some model' else p.model? doc' key :=
  model?_setManager_setModel
    (p := { p with lastPage := request.pageNumber, lastModel := request.modelIndex, buffers }) hm
    (show { m with lastQueued := some request.key, renderer := some r }.models = m.models from rfl)
    hmodel model' doc' key

/-- A new model comes after those of its page. -/
theorem model?_setManager_addModel {p : Process Doc D F} {doc : Doc} {m : V3dModelManager D F}
    (hm : p.managers doc = some m) (page : Nat) (model : V3dModel D F) (doc' : Doc)
    (key : ModelKey) :
    (p.setManager doc (some (m.addModel page model))).model? doc' key =
      if doc' = doc ∧ key = (page, (m.models page).length) then some model
      else p.model? doc' key := by
  rw [model?_setManager]
  by_cases hdoc : doc' = doc
  · subst hdoc
    obtain ⟨page', index⟩ := key
    simp only [if_true, Option.bind_some, true_and, model?, hm, V3dModelManager.model?,
      V3dModelManager.addModel, Prod.mk.injEq]
    by_cases hpage : page' = page
    · subst hpage
      rw [if_pos rfl]
      rcases lt_trichotomy index (m.models page').length with hlt | rfl | hgt
      · simp [List.getElem?_append_left hlt, hlt.ne]
      · simp
      · rw [List.getElem?_append_right hgt.le, if_neg fun h => hgt.ne' h.2,
          List.getElem?_eq_none hgt.le, List.getElem?_eq_none]
        simp only [List.length_singleton]
        omega
    · simp [hpage]
  · rw [if_neg hdoc, if_neg fun h => hdoc h.1]

end Process

/-! ### Views -/

/-- What the meshes of a frame depend on, besides the position of the eye. -/
structure Resolution (F : Type) where
  zoom : F
  imageSize : Int × Int
  drawMode : DrawMode
  deriving DecidableEq

/-- The view of a model, and history: the resolution at which each of its objects has last taken the
slow path, and the one of its last queued frame. In `view`, `hasChanged` is set back before every
interaction, so that it tells whether that interaction has changed something. -/
structure ViewedModel (D F : Type) where
  view : ImageCache.Model D F Unit
  built : Nat → Option (Resolution F)
  lastFrame : Option (Resolution F)

namespace ViewedModel

variable {D F : Type} [Scalar D] [Scalar F] [Rounding D F] [ViewScalar D F]

/-- A model as it is loaded. -/
def ofHeader (headerInfo : HeaderInfo F) (minBound maxBound : Vec2 F) : ViewedModel D F :=
  ⟨{ ImageCache.Model.ofFile () headerInfo minBound maxBound with hasChanged := false },
    fun _ => none, none⟩

/-- The resolution of a frame. -/
def resolution (v : ViewedModel D F) (model : V3dModel D F) (request : RenderRequest D) :
    Resolution F :=
  ⟨v.view.view.zoom, request.imageSize, model.drawMode⟩

/-- A frame is queued: the objects on the slow path have built their meshes at its resolution. -/
def queued (T : Tessellation D F) (v : ViewedModel D F) (model : V3dModel D F)
    (request : RenderRequest D) : ViewedModel D F :=
  { v with
    built := fun i =>
      match model.file.objects[i]? with
      | some o =>
        if o.path T (Process.queueContext model request) = .anew then
          some (v.resolution model request)
        else v.built i
      | none => v.built i
    lastFrame := some (v.resolution model request) }

end ViewedModel

/-- Whether an interaction that changes something sets `remesh`. -/
def remeshes {F : Type} : Interaction F → Bool
  | .home | .cycleMode | .zoom .. => true
  | .shift .. | .pan .. | .rotate .. | .wheel .. => false

/-- The open documents, with the views of their models. -/
structure ViewSession (Doc D F : Type) where
  process : Process Doc D F
  views : Doc → ModelKey → Option (ViewedModel D F)

/-- The actions on a session: those of `Action`, with the header of a model that is loaded, and with
what the user does to a view. -/
inductive ViewAction (Doc D F : Type) where
  | openDocument (doc : Doc) (device : Option (Device × Bool))
  | closeDocument (doc : Doc)
  | setDocument (doc : Doc)
  | addModel (doc : Doc) (page : Nat) (scene : V3dFile D F) (camera : Camera D)
      (headerInfo : HeaderInfo F) (minBound maxBound : Vec2 F)
  | interact (doc : Doc) (key : ModelKey) (i : Interaction F)
  | render (doc : Doc) (request : RenderRequest D)

namespace ViewSession

variable {Doc D F : Type} [DecidableEq Doc]

/-- No open document. -/
def init : ViewSession Doc D F := ⟨.init, fun _ _ => none⟩

/-- A model's view after a change. -/
def setView (s : ViewSession Doc D F) (doc : Doc) (key : ModelKey) (v : ViewedModel D F) :
    ViewSession Doc D F :=
  { s with views := fun d k => if d = doc ∧ k = key then some v else s.views d k }

variable [Scalar D] [Scalar F] [Rounding D F] [ViewScalar D F]

/-- What an interaction is for the process, if it changes something. -/
def processAction (doc : Doc) (key : ModelKey) : Interaction F → Action Doc D F
  | .cycleMode => .cycleMode doc key
  | i => .interact doc key (remeshes i)

/-- One action. -/
def step (T : Tessellation D F) (s : ViewSession Doc D F) :
    ViewAction Doc D F → ViewSession Doc D F
  | .openDocument doc device => { s with process := s.process.step T (.openDocument doc device) }
  | .closeDocument doc => { s with process := s.process.step T (.closeDocument doc) }
  | .setDocument doc => { s with process := s.process.step T (.setDocument doc) }
  | .addModel doc page scene camera headerInfo minBound maxBound =>
    match s.process.managers doc with
    | none => s
    | some m =>
      { s with process := s.process.step T (.addModel doc page scene camera) }.setView doc
        (page, (m.models page).length) (.ofHeader headerInfo minBound maxBound)
  | .interact doc key i =>
    match s.process.model? doc key, s.views doc key with
    | some _, some v =>
      let view := v.view.interact i
      if view.hasChanged then
        { s with process := s.process.step T (processAction doc key i) }.setView doc key
          { v with view := { view with hasChanged := false } }
      else s
    | _, _ => s
  | .render doc request =>
    let process := (s.process.RenderModel T doc request).1
    match s.process.entered doc request, s.views doc request.key with
    | some (_, _, model), some v =>
      { s with process }.setView doc request.key
        (v.queued T (s.process.enterModel model request) request)
    | _, _ => { s with process }

/-- **Fresh tessellations**: what the fast path appends in a frame has been built at the frame's
zoom, image size and draw mode. -/
def Fresh (T : Tessellation D F) (s : ViewSession Doc D F) : ViewAction Doc D F → Prop
  | .render doc request =>
    ∀ m r model, s.process.entered doc request = some (m, r, model) →
      ∃ v, s.views doc request.key = some v ∧
        let model := s.process.enterModel model request
        ∀ i o, model.file.objects[i]? = some o →
          o.path T (Process.queueContext model request) = .again →
            v.built i = some (v.resolution model request)
  | _ => True

/-- The condition on a frame in which an object takes the fast path: neither the zoom nor the size
of the image has changed since the last frame of the model. -/
def Unchanged (T : Tessellation D F) (s : ViewSession Doc D F) : ViewAction Doc D F → Prop
  | .render doc request =>
    ∀ m r model v, s.process.entered doc request = some (m, r, model) →
      s.views doc request.key = some v →
        (∃ o ∈ model.file.objects,
          o.path T (Process.queueContext (s.process.enterModel model request) request) = .again) →
        ∃ last, v.lastFrame = some last ∧ last.zoom = v.view.view.zoom ∧
          last.imageSize = request.imageSize
  | _ => True

end ViewSession

/-! ### One action -/

section Actions

variable {Doc D F : Type} [DecidableEq Doc] [Scalar D] [Scalar F] [Rounding D F]

/-- A model after an interaction that has changed something. -/
def interacted (i : Interaction F) (model : V3dModel D F) : V3dModel D F :=
  match i with
  | .cycleMode =>
    { model with drawMode := model.drawMode.cycle, hasChanged := true, remesh := true }
  | i => { model with hasChanged := true, remesh := model.remesh || remeshes i }

omit [Scalar D] [Scalar F] [Rounding D F] in
/-- An interaction asks for a new mesh, or leaves the meshes and the draw mode alone. -/
theorem interacted_cases (i : Interaction F) (model : V3dModel D F) :
    (interacted i model).remesh = true ∨ (interacted i model).file = model.file ∧
      (interacted i model).drawMode = model.drawMode ∧
        (interacted i model).remesh = model.remesh := by
  cases i <;> simp [interacted, remeshes]

theorem step_processAction (T : Tessellation D F) (p : Process Doc D F) (doc : Doc)
    (key : ModelKey) (i : Interaction F) :
    p.step T (ViewSession.processAction doc key i) = p.updateModel doc key (interacted i) := by
  cases i <;> rfl

namespace Process

/-- The model a call leaves behind. -/
def framed (T : Tessellation D F) (p : Process Doc D F) (r : Renderer F) (model : V3dModel D F)
    (request : RenderRequest D) : V3dModel D F :=
  if !hasRenderableData (p.frameBuffers T model request) then p.queuedModel T model request
  else
    let model' := p.consumedModel T model request
    let out := (p.enterRenderer model request r).render (p.frameBuffers T model request)
      (frameCall model' request)
    if out.2.2.completed then { model' with hasChanged := false, imageSize := request.imageSize }
    else model'

/-- A call leaves its model behind, and the others as they were. -/
theorem model?_renderLocked {p : Process Doc D F} {doc : Doc} {m : V3dModelManager D F}
    (hm : p.managers doc = some m) {request : RenderRequest D} {model : V3dModel D F}
    (hmodel : m.model? request.key = some model) (T : Tessellation D F) (r : Renderer F)
    (doc' : Doc) (key : ModelKey) :
    (p.renderLocked T doc m r model request).1.model? doc' key =
      if doc' = doc ∧ key = request.key then some (p.framed T r model request)
      else p.model? doc' key := by
  rw [renderLocked_eq, framed]
  by_cases hempty : (!hasRenderableData (p.frameBuffers T model request)) = true
  · simp only [if_pos hempty]
    exact model?_returned hm hmodel _ _ _ doc' key
  · simp only [if_neg hempty]
    exact model?_returned hm hmodel _ _ _ doc' key

omit [DecidableEq Doc] in
/-- A call queues the meshes of its model and keeps its draw mode; in `OUTLINE` mode it does not
consume `remesh`. -/
theorem framed_eq (T : Tessellation D F) (p : Process Doc D F) (r : Renderer F)
    (model : V3dModel D F) (request : RenderRequest D) :
    (p.framed T r model request).file = (p.queuedModel T model request).file ∧
      (p.framed T r model request).drawMode = model.drawMode ∧
      (model.drawMode = .outline →
        (p.framed T r model request).remesh = (p.enterModel model request).remesh) := by
  simp only [framed]
  split_ifs
  · exact ⟨rfl, rfl, fun _ => rfl⟩
  all_goals
    refine ⟨rfl, rfl, fun houtline => ?_⟩
    simp [consumedModel, queuedModel, enterModel, houtline]

/-- A call that leaves no `remesh` behind leaves an image of the size asked for, unless it has
failed at another size outside `OUTLINE` mode. -/
theorem imageSize_framed {T : Tessellation D F} {p : Process Doc D F} (doc : Doc)
    (m : V3dModelManager D F) {r : Renderer F} {model : V3dModel D F} {request : RenderRequest D}
    (houtline : model.drawMode = .outline → model.remesh = true)
    (hfails : hasRenderableData (p.frameBuffers T model request) = true →
      (p.renderLocked T doc m r model request).2.completed = false →
        model.drawMode = .outline ∨ model.imageSize = request.imageSize)
    (hnot : (p.framed T r model request).remesh = false) :
    (p.framed T r model request).imageSize = request.imageSize := by
  have hentered : model.drawMode = .outline → (p.framed T r model request).remesh = true := by
    intro hmode
    rw [(p.framed_eq T r model request).2.2 hmode]
    simp [enterModel, houtline hmode]
  by_cases hempty : (!hasRenderableData (p.frameBuffers T model request)) = true
  · simp only [framed, if_pos hempty] at hnot ⊢
    simp only [queuedModel, enterModel, Bool.or_eq_false_iff, bne_eq_false_iff_eq] at hnot
    exact hnot.2
  · simp only [renderLocked_eq, if_neg hempty] at hfails
    have hdata : hasRenderableData (p.frameBuffers T model request) = true := by simpa using hempty
    have hsize := hfails hdata
    simp only [framed, if_neg hempty]
    split_ifs with hcompleted
    · rfl
    · rcases hsize (by simpa using hcompleted) with hmode | hsame
      · exact absurd (hentered hmode) (by simp [hnot])
      · exact hsame

end Process

end Actions

/-! ### What is kept of a model -/

section Kept

variable {Doc D F : Type} [Scalar D] [Scalar F] [Rounding D F] [ViewScalar D F]
  {T : Tessellation D F} {p : Process Doc D F} {v : ViewedModel D F} {model model' : V3dModel D F}
  {request : RenderRequest D}

/-- **The invariant of a model**: in `OUTLINE` mode it asks for a new mesh, and where it asks for
none its objects keep meshes of its last frame only, a frame of the same draw mode. -/
structure ViewedModel.Describes (v : ViewedModel D F) (model : V3dModel D F) : Prop where
  outline : model.drawMode = .outline → model.remesh = true
  kept : model.remesh = false → ∃ last, v.lastFrame = some last ∧ last.drawMode = model.drawMode ∧
    ∀ i o, model.file.objects[i]? = some o → o.keeps = true → v.built i = some last

omit [Scalar D] [Scalar F] [Rounding D F] [ViewScalar D F] in
/-- A change of the model that leaves its meshes alone, or asks for new ones. -/
theorem ViewedModel.Describes.change (h : v.Describes model) (view : ImageCache.Model D F Unit)
    (hchange : model'.remesh = true ∨ model'.file = model.file ∧ model'.drawMode = model.drawMode ∧
      model'.remesh = model.remesh) : { v with view }.Describes model' := by
  rcases hchange with hremesh | ⟨hfile, hmode, hremesh⟩
  · exact ⟨fun _ => hremesh, fun hnot => absurd hremesh (by simp [hnot])⟩
  · refine ⟨fun houtline => ?_, fun hnot => ?_⟩
    · rw [hremesh]
      exact h.outline (hmode ▸ houtline)
    · rw [hfile, hmode]
      exact h.kept (hremesh ▸ hnot)

omit [Scalar D] [Scalar F] [Rounding D F] [ViewScalar D F] in
/-- In a frame that takes the fast path the last frame was of this one's resolution, if neither the
zoom nor the size has changed. -/
theorem ViewedModel.Describes.last_eq_resolution (h : v.Describes model) {last : Resolution F}
    (hremesh : model.remesh = false) (hlast : v.lastFrame = some last)
    (hzoom : last.zoom = v.view.view.zoom) (hsize : last.imageSize = request.imageSize) :
    last = v.resolution (p.enterModel model request) request := by
  obtain ⟨last', hlast', hmode, -⟩ := h.kept hremesh
  obtain rfl : last = last' := Option.some.inj (hlast.symm.trans hlast')
  obtain ⟨zoom, size, mode⟩ := last
  simp only at hzoom hsize hmode
  subst hzoom hsize hmode
  rfl

omit [Scalar F] [Rounding D F] [ViewScalar D F] in
/-- What a frame appends again has been kept, and the frame has found neither a new size nor a
request for a new mesh. -/
theorem unasked_of_again {o : SceneObject D F}
    (h : o.path T (Process.queueContext (p.enterModel model request) request) = .again) :
    model.remesh = false ∧ model.imageSize = request.imageSize ∧ o.keeps = true := by
  obtain ⟨hctx, hkeeps⟩ := SceneObject.keeps_of_path_eq_again h
  simp only [Process.queueContext, Process.enterModel, Bool.or_eq_false_iff,
    bne_eq_false_iff_eq] at hctx
  exact ⟨hctx.1.1, hctx.2, hkeeps⟩

omit [ViewScalar D F] in
/-- The objects of a queued model are those of the model, each after its `QueueMesh`. -/
theorem exists_of_queued {i : Nat} {o' : SceneObject D F}
    (h : (p.queuedModel T model request).file.objects[i]? = some o') :
    ∃ o, model.file.objects[i]? = some o ∧
      (o.QueueMesh T (Process.queueContext (p.enterModel model request) request)).1 = o' := by
  simp only [Process.queuedModel, V3dFile.QueueMesh, List.map_map, List.getElem?_map,
    Option.map_eq_some_iff] at h
  exact h

omit [ViewScalar D F] in
/-- **Step lemma**: a queued frame keeps the invariant, under the condition on the fast path. -/
theorem ViewedModel.Describes.queued (h : v.Describes model)
    (hfast : (∃ o ∈ model.file.objects,
        o.path T (Process.queueContext (p.enterModel model request) request) = .again) →
      ∃ last, v.lastFrame = some last ∧ last.zoom = v.view.view.zoom ∧
        last.imageSize = request.imageSize)
    (hfile : model'.file = (p.queuedModel T model request).file)
    (hmode : model'.drawMode = model.drawMode)
    (houtline : model.drawMode = .outline →
      model'.remesh = (p.enterModel model request).remesh) :
    (v.queued T (p.enterModel model request) request).Describes model' := by
  have hentered : model.drawMode = .outline → model'.remesh = true := by
    intro hout
    rw [houtline hout]
    simp [Process.enterModel, h.outline hout]
  refine ⟨fun hout => hentered (hmode ▸ hout), fun hnot => ?_⟩
  refine ⟨_, rfl, hmode.symm, fun i o' ho' hkeeps => ?_⟩
  rw [hfile] at ho'
  obtain ⟨o, ho, rfl⟩ := exists_of_queued ho'
  simp only [ViewedModel.queued, Process.enterModel] at ho ⊢
  rw [ho]
  rcases SceneObject.path_of_keeps hkeeps with hanew | ⟨hkept, hagain | hout⟩
  · exact if_pos hanew
  · -- what is appended again has been built in a frame of this resolution
    have hremesh : model.remesh = false := (unasked_of_again hagain).1
    obtain ⟨last, hlast, -, hbuilt⟩ := h.kept hremesh
    obtain ⟨last', hlast', hzoom, hsize⟩ := hfast ⟨o, List.mem_of_getElem? ho, hagain⟩
    obtain rfl : last = last' := Option.some.inj (hlast.symm.trans hlast')
    have hres := h.last_eq_resolution (p := p) hremesh hlast hzoom hsize
    refine (if_neg ?_).trans ((hbuilt i o ho hkept).trans (congrArg some hres))
    exact fun hanew => absurd (hagain.symm.trans hanew) (by decide)
  · exact absurd (hentered hout) (by simp [hnot])

end Kept

/-! ### Sessions -/

namespace ViewSession

variable {Doc D F : Type} [DecidableEq Doc] {I : ViewedModel D F → V3dModel D F → Prop}

/-- Every model has a view, and the two are in a relation. -/
def Holds (I : ViewedModel D F → V3dModel D F → Prop) (s : ViewSession Doc D F) : Prop :=
  ∀ doc key model, s.process.model? doc key = some model →
    ∃ v, s.views doc key = some v ∧ I v model

omit [DecidableEq Doc] in
theorem Holds.init : (init : ViewSession Doc D F).Holds I :=
  fun _ _ _ h => absurd h (by simp [ViewSession.init, Process.init, Process.model?])

omit [DecidableEq Doc] in
theorem Holds.mono {J : ViewedModel D F → V3dModel D F → Prop} {s : ViewSession Doc D F}
    (hs : s.Holds I) (h : ∀ v model, I v model → J v model) : s.Holds J := fun doc key model hm =>
  (hs doc key model hm).imp fun v hv => ⟨hv.1, h v model hv.2⟩

omit [DecidableEq Doc] in
/-- Dropping models. -/
theorem Holds.drop {s : ViewSession Doc D F} (hs : s.Holds I) {p : Process Doc D F}
    (h : ∀ doc key model, p.model? doc key = some model → s.process.model? doc key = some model) :
    ({ s with process := p } : ViewSession Doc D F).Holds I :=
  fun doc key model hmodel => hs doc key model (h doc key model hmodel)

/-- Changing or adding one model, with its view. -/
theorem Holds.setView {s : ViewSession Doc D F} (hs : s.Holds I) {p : Process Doc D F} {doc : Doc}
    {key : ModelKey} {model : Option (V3dModel D F)} {v : ViewedModel D F}
    (hp : ∀ doc' key', p.model? doc' key' =
      if doc' = doc ∧ key' = key then model else s.process.model? doc' key')
    (hv : ∀ model', model = some model' → I v model') :
    (({ s with process := p } : ViewSession Doc D F).setView doc key v).Holds I := by
  intro doc' key' model' hmodel'
  rw [ViewSession.setView]
  change p.model? doc' key' = some model' at hmodel'
  rw [hp] at hmodel'
  by_cases h : doc' = doc ∧ key' = key
  · rw [if_pos h] at hmodel'
    exact ⟨v, if_pos h, hv model' hmodel'⟩
  · rw [if_neg h] at hmodel'
    obtain ⟨v', hv', hI⟩ := hs doc' key' model' hmodel'
    exact ⟨v', (if_neg h).trans hv', hI⟩

variable [Scalar D] [Scalar F] [Rounding D F] [ViewScalar D F]

omit [ViewScalar D F] in
/-- Closing a document or loading another one leaves no models but old ones. -/
theorem Holds.closing {s : ViewSession Doc D F} (hs : s.Holds I) (T : Tessellation D F)
    (doc : Doc) :
    Holds I { s with process := s.process.step T (.closeDocument doc) } ∧
      Holds I { s with process := s.process.step T (.setDocument doc) } := by
  constructor
  · refine hs.drop fun doc' key model hmodel => ?_
    rw [Process.step, Process.model?_setManager] at hmodel
    split_ifs at hmodel
    · cases hmodel
    · exact hmodel
  · refine hs.drop fun doc' key model hmodel => ?_
    rw [Process.step, Process.model?_setManager] at hmodel
    split_ifs at hmodel
    · cases hm : s.process.managers doc <;>
        simp [hm, V3dModelManager.clear, V3dModelManager.model?] at hmodel
    · exact hmodel

omit [DecidableEq Doc] [Scalar D] [Scalar F] [Rounding D F] [ViewScalar D F] in
/-- What a request finds is a model of the process. -/
theorem model?_of_entered {p : Process Doc D F} {doc : Doc} {request : RenderRequest D}
    {m : V3dModelManager D F} {r : Renderer F} {model : V3dModel D F}
    (h : p.entered doc request = some (m, r, model)) :
    p.model? doc request.key = some model := by
  obtain ⟨hm, -, hmodel, -⟩ := Process.entered_eq_some h
  simp [Process.model?, hm, hmodel]

/-- **Step rule**: a relation between models and views that new models have, and that interactions
and frames keep, survives every action. -/
theorem Holds.step {s : ViewSession Doc D F} (hs : s.Holds I) (T : Tessellation D F)
    (action : ViewAction Doc D F)
    (hnew : ∀ scene camera headerInfo minBound maxBound,
      I (.ofHeader headerInfo minBound maxBound) (.ofScene scene camera))
    (hinteract : ∀ doc key i model v, action = .interact doc key i →
      s.process.model? doc key = some model → s.views doc key = some v → I v model →
        I { v with view := { v.view.interact i with hasChanged := false } } (interacted i model))
    (hframe : ∀ doc request m r model v, action = .render doc request →
      s.process.entered doc request = some (m, r, model) → s.views doc request.key = some v →
        I v model → I (v.queued T (s.process.enterModel model request) request)
          (s.process.framed T r model request)) :
    (s.step T action).Holds I := by
  cases action with
  | openDocument doc device =>
    refine hs.drop fun doc' key model hmodel => ?_
    rw [Process.step] at hmodel
    split_ifs at hmodel
    · rw [Process.model?_setManager] at hmodel
      split_ifs at hmodel
      · simp [V3dModelManager.init, V3dModelManager.model?] at hmodel
      · exact hmodel
    · exact hmodel
  | closeDocument doc => exact (hs.closing T doc).1
  | setDocument doc => exact (hs.closing T doc).2
  -- a new model starts with the view of its scene
  | addModel doc page scene camera headerInfo minBound maxBound =>
    simp only [ViewSession.step, Process.step]
    cases hm : s.process.managers doc with
    | none => exact hs
    | some m =>
      refine hs.setView (Process.model?_setManager_addModel hm page _) fun model' h => ?_
      cases h
      exact hnew scene camera headerInfo minBound maxBound
  | interact doc key i =>
    simp only [ViewSession.step]
    cases hmodel : s.process.model? doc key with
    | none => exact hs
    | some model =>
      obtain ⟨v, hv, hI⟩ := hs doc key model hmodel
      simp only [hv, step_processAction]
      split_ifs
      · refine hs.setView (Process.model?_updateModel _ doc key _) fun model' h => ?_
        rw [hmodel, Option.map_some, Option.some.injEq] at h
        exact h ▸ hinteract doc key i model v rfl hmodel hv hI
      · exact hs
  | render doc request =>
    simp only [ViewSession.step, Process.RenderModel]
    cases hentered : s.process.entered doc request with
    | none => exact hs
    | some found =>
      -- the frame is drawn for the model that the request has found
      obtain ⟨m, r, model⟩ := found
      obtain ⟨hm, -, hmodel, -⟩ := Process.entered_eq_some hentered
      obtain ⟨v, hv, hI⟩ := hs doc request.key model (model?_of_entered hentered)
      simp only [hv]
      refine hs.setView (Process.model?_renderLocked hm hmodel T r) fun model' h => ?_
      cases h
      exact hframe doc request m r model v rfl hentered hv hI

/-- **Every action that meets the condition keeps the invariant.** -/
theorem Holds.describes {s : ViewSession Doc D F} (hs : s.Holds ViewedModel.Describes)
    {T : Tessellation D F} {action : ViewAction Doc D F} (hunchanged : s.Unchanged T action) :
    (s.step T action).Holds ViewedModel.Describes := by
  refine hs.step T action ?_ ?_ ?_
  · exact fun scene camera _ _ _ =>
      ⟨fun _ => rfl, fun h => absurd h (by simp [V3dModel.ofScene])⟩
  · rintro doc key i model v rfl - - hdescribes
    exact hdescribes.change _ (interacted_cases i model)
  · rintro doc request m r model v rfl hentered hv hdescribes
    obtain ⟨hfile, hmode, houtline⟩ := s.process.framed_eq T r model request
    exact hdescribes.queued (hunchanged m r model v hentered hv) hfile hmode houtline

omit [DecidableEq Doc] [Scalar F] [Rounding D F] [ViewScalar D F] in
/-- Whether the fast path of a frame appends fresh meshes only, read off the model's last frame. -/
theorem fresh_iff {s : ViewSession Doc D F} (hs : s.Holds ViewedModel.Describes)
    (T : Tessellation D F) (action : ViewAction Doc D F) :
    s.Fresh T action ↔ s.Unchanged T action := by
  cases action with
  | render doc request =>
    refine forall_congr' fun m => forall_congr' fun r => forall_congr' fun model => ?_
    constructor
    · rintro h v hentered hv ⟨o, ho, hagain⟩
      obtain ⟨i, hi⟩ := List.mem_iff_getElem?.mp ho
      obtain ⟨v', hv', hbuilt⟩ := h hentered
      obtain rfl : v = v' := Option.some.inj (hv.symm.trans hv')
      obtain ⟨v', hv', hdescribes⟩ := hs doc request.key model (model?_of_entered hentered)
      obtain rfl : v = v' := Option.some.inj (hv.symm.trans hv')
      obtain ⟨hremesh, -, hkeeps⟩ := unasked_of_again hagain
      obtain ⟨last, hlast, -, hkept⟩ := hdescribes.kept hremesh
      have hres : last = v.resolution (s.process.enterModel model request) request :=
        Option.some.inj ((hkept i o hi hkeeps).symm.trans (hbuilt i o hi hagain))
      exact ⟨last, hlast, by rw [hres]; rfl, by rw [hres]; rfl⟩
    · intro h hentered
      obtain ⟨v, hv, hdescribes⟩ := hs doc request.key model (model?_of_entered hentered)
      refine ⟨v, hv, fun i o hi hagain => ?_⟩
      obtain ⟨last, hlast, hzoom, hsize⟩ := h v hentered hv ⟨o, List.mem_of_getElem? hi, hagain⟩
      obtain ⟨hremesh, -, hkeeps⟩ := unasked_of_again hagain
      obtain ⟨last', hlast', -, hkept⟩ := hdescribes.kept hremesh
      obtain rfl : last = last' := Option.some.inj (hlast.symm.trans hlast')
      rw [hkept i o hi hkeeps, hdescribes.last_eq_resolution hremesh hlast hzoom hsize]
  | _ => exact Iff.rfl

/-- **Fresh tessellations.** Along every run, the fast path appends only meshes built at the frame's
zoom, image size and draw mode if and only if no frame that takes it differs in zoom or size from
the last frame of its model. -/
theorem fresh_along_iff (T : Tessellation D F) (actions : List (ViewAction Doc D F)) :
    Along (step T) (Fresh T) init actions ↔ Along (step T) (Unchanged T) init actions := by
  have hiff : ∀ (s : ViewSession Doc D F) action, s.Holds ViewedModel.Describes →
      (s.Fresh T action ↔ s.Unchanged T action) := fun _ action hs => fresh_iff hs T action
  exact along_iff_of_invariant hiff (fun _ action hs h => hs.describes h) Holds.init actions

/-! ### Operation by operation -/

/-- The condition on single operations: a turn of the wheel finds `remesh` set or leaves the zoom as
it is, and a frame that fails outside `OUTLINE` mode has the size of the cached image. -/
def Remeshed (T : Tessellation D F) (s : ViewSession Doc D F) : ViewAction Doc D F → Prop
  | .interact doc key i@(.wheel ..) =>
    ∀ model v, s.process.model? doc key = some model → s.views doc key = some v →
      model.remesh = true ∨ (v.view.interact i).view.zoom = v.view.view.zoom
  | .render doc request =>
    ∀ m r model, s.process.entered doc request = some (m, r, model) →
      hasRenderableData (s.process.frameBuffers T model request) = true →
        (s.process.RenderModel T doc request).2.completed = false →
          model.drawMode = .outline ∨ model.imageSize = request.imageSize
  | _ => True

/-- Where a model asks for no new mesh, its last frame had the zoom it has now and the size of its
cached image. -/
structure Current (v : ViewedModel D F) (model : V3dModel D F) : Prop where
  describes : v.Describes model
  last : model.remesh = false → ∃ last, v.lastFrame = some last ∧ last.zoom = v.view.view.zoom ∧
    last.imageSize = model.imageSize

omit [DecidableEq Doc] in
/-- Only `home`, `dragModeZoom` and the wheel change the zoom. -/
theorem zoom_interact (m : ImageCache.Model D F Unit) {i : Interaction F} (h : remeshes i = false)
    (hwheel : ∀ neg size, i ≠ .wheel neg size) : (m.interact i).view.zoom = m.view.zoom := by
  cases i with
  | home | cycleMode | zoom pos last size => exact absurd h (by simp [remeshes])
  | wheel neg size => exact absurd rfl (hwheel neg size)
  | shift pos last =>
    simp only [ImageCache.Model.interact, ImageCache.Model.dragModeShift]
    split_ifs <;> rfl
  | pan pos last =>
    simp only [ImageCache.Model.interact, ImageCache.Model.dragModePan,
      ImageCache.Model.dragModeShift]
    split_ifs <;> rfl
  | rotate pos last =>
    simp only [ImageCache.Model.interact, ImageCache.Model.dragModeRotate]
    split_ifs <;> rfl

theorem Holds.current {s : ViewSession Doc D F} (hs : s.Holds Current) {T : Tessellation D F}
    {action : ViewAction Doc D F} (hunchanged : s.Unchanged T action)
    (hremeshed : s.Remeshed T action) : (s.step T action).Holds Current := by
  refine hs.step T action ?_ ?_ ?_
  · intro scene camera headerInfo minBound maxBound
    have hremesh : (V3dModel.ofScene scene camera).remesh = true := rfl
    exact ⟨⟨fun _ => hremesh, fun h => absurd h (by simp [hremesh])⟩,
      fun h => absurd h (by simp [hremesh])⟩
  · rintro doc key i model v rfl hmodel hv hcurrent
    refine ⟨hcurrent.describes.change _ (interacted_cases i model), fun hnot => ?_⟩
    have hparts : model.remesh = false ∧ remeshes i = false ∧
        (interacted i model).imageSize = model.imageSize := by
      cases i <;> simp_all [interacted, remeshes]
    obtain ⟨hremesh, hi, hsize⟩ := hparts
    obtain ⟨last, hlast, hzoom, himage⟩ := hcurrent.last hremesh
    refine ⟨last, hlast, hzoom.trans ?_, himage.trans hsize.symm⟩
    cases i with
    | wheel neg size =>
      exact ((hremeshed model v hmodel hv).resolve_left (by simp [hremesh])).symm
    | home | cycleMode | zoom pos last size => exact absurd hi (by simp [remeshes])
    | shift pos last | pan pos last | rotate pos last =>
      exact (zoom_interact v.view hi (by simp)).symm
  · rintro doc request m r model v rfl hentered hv hcurrent
    obtain ⟨hfile, hmode, houtline⟩ := s.process.framed_eq T r model request
    refine ⟨hcurrent.describes.queued (hunchanged m r model v hentered hv) hfile hmode houtline,
      fun hnot => ⟨_, rfl, rfl, ?_⟩⟩
    have hfails := hremeshed m r model hentered
    simp only [Process.RenderModel, hentered] at hfails
    exact (Process.imageSize_framed doc m hcurrent.describes.outline hfails hnot).symm

omit [DecidableEq Doc] [Scalar F] [Rounding D F] [ViewScalar D F] in
/-- A frame on the fast path has asked for no new mesh, so it is of the size of the cached image. -/
theorem Holds.unchanged {s : ViewSession Doc D F} (hs : s.Holds Current) (T : Tessellation D F)
    (action : ViewAction Doc D F) : s.Unchanged T action := by
  cases action with
  | render doc request =>
    rintro m r model v hentered hv ⟨o, -, hagain⟩
    obtain ⟨v', hv', hcurrent⟩ := hs doc request.key model (model?_of_entered hentered)
    obtain rfl : v = v' := Option.some.inj (hv.symm.trans hv')
    obtain ⟨hremesh, hsame, -⟩ := unasked_of_again hagain
    obtain ⟨last, hlast, hzoom, hsize⟩ := hcurrent.last hremesh
    exact ⟨last, hlast, hzoom, hsize.trans hsame⟩
  | _ => trivial

/-- **Which operations leave stale meshes**: along every run in which no turn of the wheel changes
the zoom of a model that asks for no new mesh, and no frame fails at a new size, the fast path
appends fresh meshes only. -/
theorem fresh_along_of_remeshed (T : Tessellation D F) (actions : List (ViewAction Doc D F))
    (h : Along (step T) (Remeshed T) init actions) : Along (step T) (Fresh T) init actions := by
  have hdescribes : ∀ s : ViewSession Doc D F, s.Holds Current → s.Holds ViewedModel.Describes :=
    fun _ hs => hs.mono fun _ _ hcurrent => hcurrent.describes
  have hstep : ∀ (s : ViewSession Doc D F) action, s.Holds Current → s.Remeshed T action →
      (s.step T action).Holds Current :=
    fun _ action hs hremeshed => hs.current (hs.unchanged T action) hremeshed
  have hfresh : ∀ (s : ViewSession Doc D F) action, s.Holds Current → s.Remeshed T action →
      s.Fresh T action :=
    fun s action hs _ => (fresh_iff (hdescribes s hs) T action).mpr (hs.unchanged T action)
  exact Along.of_invariant hstep hfresh Holds.init h

/-- A header with a zoom of 1, doubled by each turn of the wheel. -/
def doublingHeader : HeaderInfo ℚ :=
  { imageName := []
    orthographic := true
    minBound := ⟨0, 0, -1⟩
    maxBound := ⟨1, 1, 0⟩
    angleOfView := 0
    initialZoom := 1
    viewportShift := ⟨0, 0⟩
    zoomFactor := 2
    zoomStep := 1 }

/-- A model is drawn, zoomed with the wheel, and drawn again at the same size. -/
def wheelBetweenFrames : List (ViewAction Unit ℚ ℚ) :=
  [.openDocument () Process.someDevice,
    .addModel () 0 (Process.redTriangles [0]) (Process.panned 0) doublingHeader ⟨0, 0⟩ ⟨1, 1⟩,
    .render () (Process.image 0 0), .interact () (0, 0) (.wheel false ⟨100, 100⟩),
    .render () (Process.image 0 0)]

/-- The second frame appends the triangle built before the zoom. -/
theorem not_fresh_wheelBetweenFrames :
    ¬ Along (step Process.plainTessellation) (Fresh Process.plainTessellation) init
      wheelBetweenFrames := by
  intro h
  set T := Process.plainTessellation
  set s := runState (step T) init (wheelBetweenFrames.take 4) with hs
  have hfresh : s.Fresh T (.render () (Process.image 0 0)) := h.2.2.2.2.1
  have hbuilt : (s.views () (0, 0)).bind (fun v => v.built 0) = some ⟨1, (10, 10), .normal⟩ := by
    decide +kernel
  have hzoom : (s.views () (0, 0)).map (fun v => v.view.view.zoom) = some 2 := by decide +kernel
  have hagain : (s.process.entered () (Process.image 0 0)).bind (fun found =>
      let model := s.process.enterModel found.2.2 (Process.image 0 0)
      model.file.objects[0]?.map fun o =>
        o.path T (Process.queueContext model (Process.image 0 0))) = some .again := by
    decide +kernel
  cases hentered : s.process.entered () (Process.image 0 0) with
  | none => rw [hentered] at hagain; cases hagain
  | some found =>
    obtain ⟨m, r, model⟩ := found
    rw [hentered] at hagain
    obtain ⟨o, ho, hpath⟩ := Option.map_eq_some_iff.mp hagain
    obtain ⟨v, hv, hmeshes⟩ := hfresh m r model hentered
    have hsame := hmeshes 0 o ho hpath
    rw [show s.views () (0, 0) = some v from hv] at hbuilt hzoom
    rw [show v.built 0 = _ from hbuilt] at hsame
    have hone : (1 : ℚ) = v.view.view.zoom := congrArg Resolution.zoom (Option.some.inj hsame)
    have htwo : v.view.view.zoom = 2 := Option.some.inj hzoom
    exact absurd (hone.trans htwo) (by decide +kernel)

end ViewSession

end OkularV3d
