import OkularV3d.Lib.Jagged
import OkularV3d.Manager.View

/-!
# The models of a manager and their cached images

`m_Models`, `m_ModelImages`, `m_CachedRequestSizes` and `m_PresentationRequestSizes` are four
vectors, indexed by page (the first two also by model) from the worker thread that serves the pixmap
requests and from the main thread. Each method below takes `m_ModelsMutex` for its whole body, so it
is one step. Indexing a vector outside its size is undefined behaviour: a method that does so has no
result here, and every `←` below is one indexing of the source.

What the frame of a call shows comes in as a function `draw` of what the frame is drawn from, one
for each call: it depends on the renderer, too, and on what earlier frames have left there. That is
in `OkularV3d.Manager.RenderModel` and `OkularV3d.Render`, and joined to the methods here in
`OkularV3d.Manager.RenderSession`.

* `Manager` has the vectors, `RenderModel` and `CacheRequest` are the methods of the worker,
  `MainAction` what the main thread does.
* `Redraws` says what rendering one model does to the others: nothing.
* `Marks` says what an interaction does: it marks the model it changes.
-/

namespace OkularV3d

namespace ImageCache

open Jagged

/-- The pixels of an image: all black, the background colour of the file, a frame, or another
image's pixels scaled. -/
inductive Pixels (P : Type) where
  | black
  | background
  | frame (p : P)
  | scaled (pixels : Pixels P)
  deriving DecidableEq, Repr

/-- A `QImage` that is not null. -/
structure Image (P : Type) where
  width : Int
  height : Int
  pixels : Pixels P
  deriving DecidableEq, Repr

/-- A `QImage`; `none` is `QImage{}`. -/
abbrev QImage (P : Type) := Option (Image P)

/-- `width()` and `height()`. -/
def QImage.size {P : Type} (image : QImage P) : Int × Int :=
  (image.map fun i => (i.width, i.height)).getD (0, 0)

/-- What a frame is drawn from. -/
structure FrameSource (D F S : Type) where
  scene : S
  headerInfo : HeaderInfo F
  view : View D F
  frustum : Frustum F
  drawMode : DrawMode
  imageSize : Int × Int
  useIBL : Bool

/-- What a call's frame would be, or `none` when nothing is left to draw. (It depends on the state
of the renderer in which the call is made; see `OkularV3d.Manager.RenderSession`.) -/
abbrev Draw (D F S P : Type) := FrameSource D F S → Option P

/-- The priorities of pixmap requests. -/
inductive Priority where
  | presentation
  | pageView
  | thumbnails
  | presentationPreload
  | pageViewPreload
  | thumbnailsPreload
  | other (priority : Int)
  deriving DecidableEq, Repr

/-- A `PixmapRequest`. -/
structure PixmapRequest where
  pageNumber : Nat
  width : Int
  height : Int
  priority : Priority
  deriving DecidableEq, Repr

/-- `RequestCache`, without the priority nobody reads. -/
structure RequestCache where
  size : Int × Int
  requestTime : Int
  deriving DecidableEq, Repr

/-- A `RequestCache` as `resize` makes it. -/
def RequestCache.empty : RequestCache := ⟨(0, 0), 0⟩

/-- The vectors of a `V3dModelManager`, with the models that wait for their environment map and the
names declined. `headlessRenderer` is whether `ensureHeadlessRenderer` finds the shaders. -/
structure Manager (D F S P : Type) where
  headlessRenderer : Bool
  models : List (List (Model D F S))
  modelImages : List (List (QImage P))
  cachedRequestSizes : List RequestCache
  presentationRequestSizes : List (Int × Int)
  modelsWithMissingIBL : List (Nat × Nat)
  iblDeclinedNames : List ByteString

/-- The arguments of `RenderModel`, and whether the renderer delivers the frame. -/
structure RenderCall where
  pageNumber : Nat
  modelIndex : Nat
  imageWidth : Int
  imageHeight : Int
  delivered : Bool
  deriving DecidableEq, Repr

namespace RenderCall

/-- The page and the number of the model. -/
def key (call : RenderCall) : Nat × Nat := (call.pageNumber, call.modelIndex)

/-- The size of the image. -/
def imageSize (call : RenderCall) : Int × Int := (call.imageWidth, call.imageHeight)

/-- An image of the size asked for. -/
def image {P : Type} (call : RenderCall) (pixels : Pixels P) : QImage P :=
  some ⟨call.imageWidth, call.imageHeight, pixels⟩

end RenderCall

namespace Manager

variable {D F S P : Type}

/-- A manager without a document. -/
def init (headlessRenderer : Bool) : Manager D F S P :=
  { headlessRenderer
    models := []
    modelImages := []
    cachedRequestSizes := []
    presentationRequestSizes := []
    modelsWithMissingIBL := []
    iblDeclinedNames := [] }

/-- `Clear`, and so `SetDocument`. -/
def Clear (m : Manager D F S P) : Manager D F S P :=
  { m with
    models := []
    modelImages := []
    cachedRequestSizes := []
    presentationRequestSizes := []
    modelsWithMissingIBL := [] }

/-- `EnsureCachedRequestSize`. -/
def EnsureCachedRequestSize (m : Manager D F S P) (pageNumber : Nat) : Manager D F S P :=
  { m with cachedRequestSizes := grow .empty (pageNumber + 1) m.cachedRequestSizes }

/-- `cacheRequestSizeUnlocked` at a time `now`. -/
def cacheRequestSizeUnlocked (m : Manager D F S P) (pageNumber : Nat) (width height now : Int) :
    Option (Manager D F S P) := do
  let sizes := grow .empty (pageNumber + 1) m.cachedRequestSizes
  let cached ← sizes[pageNumber]?
  if cached.requestTime < now then
    let sizes ← write sizes pageNumber ⟨(width, height), now⟩
    some { m with cachedRequestSizes := sizes }
  else some { m with cachedRequestSizes := sizes }

/-- The part of `cacheRequestUnlocked` for the presentation window. -/
def cachePresentationRequest (m : Manager D F S P) (request : PixmapRequest) :
    Option (Manager D F S P) := do
  let sizes := grow (0, 0) (request.pageNumber + 1) m.presentationRequestSizes
  let sizes ← write sizes request.pageNumber (request.width, request.height)
  some { m with presentationRequestSizes := sizes }

/-- Whether a page has no cached request size yet. -/
def requestSizeUnset (m : Manager D F S P) (pageNumber : Nat) : Option Bool :=
  if m.cachedRequestSizes.length < pageNumber + 1 then some true
  else (m.cachedRequestSizes[pageNumber]?).map fun cached => cached.size == (0, 0)

/-- `CacheRequest`, as far as the request sizes go. -/
def CacheRequest (m : Manager D F S P) (request : PixmapRequest) (now : Int) :
    Option (Manager D F S P) := do
  match request.priority with
  | .thumbnails | .thumbnailsPreload | .other _ =>
    let unset ← m.requestSizeUnset request.pageNumber
    if unset then m.cacheRequestSizeUnlocked request.pageNumber request.width request.height now
    else some m
  | .presentation | .presentationPreload =>
    let m ← m.cachePresentationRequest request
    m.cacheRequestSizeUnlocked request.pageNumber request.width request.height now
  | .pageView | .pageViewPreload =>
    m.cacheRequestSizeUnlocked request.pageNumber request.width request.height now

/-- `ModelBoundsSnapshot`. -/
def ModelBoundsSnapshot (m : Manager D F S P) (pageNumber : Nat) : List (Vec2 F × Vec2 F) :=
  match m.models[pageNumber]? with
  | none => []
  | some models => models.map fun model => (model.minBound, model.maxBound)

/-- `Empty`. -/
def Empty (m : Manager D F S P) : Bool := m.models.isEmpty

/-- `CachedModelImage`: both indices are checked. -/
def CachedModelImage (m : Manager D F S P) (key : Nat × Nat) (width height : Int) : QImage P :=
  match index₂ m.modelImages key with
  | none => none
  | some none => none
  | some (some cached) =>
    if 0 < width ∧ 0 < height ∧ (cached.width ≠ width ∨ cached.height ≠ height) then
      some ⟨width, height, .scaled cached.pixels⟩
    else some cached

/-- `performIBLDownload` when the prompt is declined. -/
def decline (m : Manager D F S P) (name : ByteString) : Manager D F S P :=
  { m with
    iblDeclinedNames := name :: m.iblDeclinedNames
    modelsWithMissingIBL := m.modelsWithMissingIBL.filter fun key =>
      (index₂ m.models key).all fun model => normalizeIBLName model.headerInfo.imageName ≠ name }

/-- A change of one model, where there is one. -/
def modifyModel (m : Manager D F S P) (key : Nat × Nat) (f : Model D F S → Model D F S) :
    Manager D F S P :=
  { m with models := modify₂ m.models key f }

/-- `onIBLDownloadComplete`: the models that waited are to be drawn again. -/
def onIBLDownloadComplete (m : Manager D F S P) : Manager D F S P :=
  { m.modelsWithMissingIBL.foldl
      (fun m key => m.modifyModel key fun model => { model with hasChanged := true }) m with
    modelsWithMissingIBL := [] }

variable [Scalar D] [Scalar F] [Rounding D F] [ViewScalar D F]

/-- `AddModel`. -/
def AddModel (m : Manager D F S P) (model : Model D F S) (pageNumber : Nat) :
    Option (Manager D F S P) := do
  let models ← pushBack m.models pageNumber model.initProjection
  let modelImages ← pushBack m.modelImages pageNumber none
  some { m with models, modelImages }

/-- What the event handlers do to a model under the mouse. -/
def interact (m : Manager D F S P) (key : Nat × Nat) (i : Interaction F) : Manager D F S P :=
  let m := m.modifyModel key fun model => model.interact i
  match i with
  | .shift .. | .wheel .. => m.EnsureCachedRequestSize key.1
  | _ => m

/-- `resolveIBLPath` for an image name, where `library` are the names whose files are all there:
whether the frame uses an environment map. -/
def useIBL (library : ByteString → Bool) (imageName : ByteString) : Bool :=
  !imageName.isEmpty && iblNameOK (normalizeIBLName imageName) &&
    !(normalizeIBLName imageName).isEmpty && library (normalizeIBLName imageName)

/-- What `RenderModel` notes about a model whose environment map is missing. -/
def trackMissingIBL (m : Manager D F S P) (library : ByteString → Bool) (key : Nat × Nat)
    (imageName : ByteString) : Manager D F S P :=
  if !imageName.isEmpty && iblNameOK (normalizeIBLName imageName) && !useIBL library imageName &&
      !m.iblDeclinedNames.contains (normalizeIBLName imageName) then
    { m with modelsWithMissingIBL := m.modelsWithMissingIBL.insert key }
  else m

/-- The size of a model's canvas on a page of this size in pixels. -/
def canvasSize (model : Model D F S) (size : Int × Int) : Vec2 F :=
  ⟨(model.maxBound.x - model.minBound.x) * Scalar.lit size.1,
    (model.maxBound.y - model.minBound.y) * Scalar.lit size.2⟩

/-- `canvasSize.x <= 0 || canvasSize.y <= 0`. -/
def zeroCanvas (canvas : Vec2 F) : Bool :=
  (Scalar.lt canvas.x (Scalar.lit 0) || Scalar.eq canvas.x (Scalar.lit 0)) ||
    (Scalar.lt canvas.y (Scalar.lit 0) || Scalar.eq canvas.y (Scalar.lit 0))

/-- What a frame of this model is drawn from, once its projection is set. -/
def frameSource (model : Model D F S) (size : Int × Int) (useIBL : Bool) : FrameSource D F S :=
  { scene := model.scene
    headerInfo := model.headerInfo
    view := model.view
    frustum := model.frustum
    drawMode := model.drawMode
    imageSize := size
    useIBL }

/-- `RenderModel` from the projection on, for a model whose cached image does not do. -/
def renderFresh (draw : Draw D F S P) (m : Manager D F S P) (call : RenderCall)
    (model : Model D F S) (useIBL : Bool) : Option (Manager D F S P × QImage P) := do
  let m := m.EnsureCachedRequestSize call.pageNumber
  let cached ← m.cachedRequestSizes[call.pageNumber]?
  let canvas := canvasSize model cached.size
  if zeroCanvas canvas then
    some (m, call.image .black)
  else
    let model := model.setProjection canvas
    let models ← write₂ m.models call.key model
    let m := { m with models }
    -- `cachedImage`, which only decides whether to mesh anew
    let _ ← index₂ m.modelImages call.key
    match draw (frameSource model call.imageSize useIBL) with
    | none => some (m, call.image .background)
    | some p =>
      if call.delivered then
        let models ← write₂ m.models call.key
          { model with hasChanged := false, drawnWithIBL := useIBL }
        let modelImages ← write₂ m.modelImages call.key (call.image (.frame p))
        some ({ m with models, modelImages }, call.image (.frame p))
      else some (m, call.image .black)

/-- `RenderModel`: the manager after it, and the image it returns. -/
def RenderModel (draw : Draw D F S P) (library : ByteString → Bool) (m : Manager D F S P)
    (call : RenderCall) : Option (Manager D F S P × QImage P) :=
  if !m.headlessRenderer then some (m, call.image .black)
  else if call.imageWidth ≤ 0 ∨ call.imageHeight ≤ 0 then
    some (m, some ⟨max call.imageWidth 1, max call.imageHeight 1, .black⟩)
  else do
    let model ← index₂ m.models call.key
    let imageName := model.headerInfo.imageName
    let m := m.trackMissingIBL library call.key imageName
    if !model.hasChanged then
      let image ← index₂ m.modelImages call.key
      if image.size = call.imageSize then some (m, image)
      else renderFresh draw m call model (useIBL library imageName)
    else renderFresh draw m call model (useIBL library imageName)

/-- What the main thread does to a manager.

* `setDocument`: another document is about to be loaded: `Clear`.
* `addModel scene headerInfo minBound maxBound page`: `AddModel` of a file that was just read.
* `interact key i`: a drag, the wheel or a key over a model.
* `decline name`: a prompt is declined.
* `downloadComplete`: `onIBLDownloadComplete`. -/
inductive MainAction (F S : Type) where
  | setDocument
  | addModel (scene : S) (headerInfo : HeaderInfo F) (minBound maxBound : Vec2 F) (page : Nat)
  | interact (key : Nat × Nat) (i : Interaction F)
  | decline (name : ByteString)
  | downloadComplete

/-- Whether the models are dropped. -/
def MainAction.drops {F S : Type} : MainAction F S → Bool
  | .setDocument => true
  | _ => false

/-- The manager after the main thread has done something. -/
def apply (m : Manager D F S P) : MainAction F S → Option (Manager D F S P)
  | .setDocument => some m.Clear
  | .addModel scene headerInfo minBound maxBound page =>
    m.AddModel (.ofFile scene headerInfo minBound maxBound) page
  | .interact key i => some (m.interact key i)
  | .decline name => some (m.decline name)
  | .downloadComplete => some m.onIBLDownloadComplete

/-! ### What the methods do -/

/-- The models and the images have the same places. -/
def Shaped (m : Manager D F S P) : Prop := SameShape m.models m.modelImages

/-- The size of a page that the projection of its models is computed from. -/
def requestSize (m : Manager D F S P) (pageNumber : Nat) : Int × Int :=
  ((m.cachedRequestSizes[pageNumber]?).getD .empty).size

/-- Whether `RenderModel` answers with the cached image of a model. -/
def servesCached (m : Manager D F S P) (call : RenderCall) (model : Model D F S) : Bool :=
  !model.hasChanged && ((index₂ m.modelImages call.key).getD none).size == call.imageSize

/-- Whether `RenderModel` returns a black image before it looks at the model. -/
def turnsAway (m : Manager D F S P) (call : RenderCall) : Bool :=
  !m.headlessRenderer || decide (call.imageWidth ≤ 0 ∨ call.imageHeight ≤ 0)

/-- What the frame of a model is drawn from, unless its canvas is empty. -/
def freshSource? (m : Manager D F S P) (call : RenderCall) (model : Model D F S) (useIBL : Bool) :
    Option (FrameSource D F S) :=
  let canvas := canvasSize model (m.requestSize call.pageNumber)
  if zeroCanvas canvas then none
  else some (frameSource (model.setProjection canvas) call.imageSize useIBL)

/-- What the frame of a call is drawn from, if it comes to draw one. -/
def source? (library : ByteString → Bool) (m : Manager D F S P) (call : RenderCall) :
    Option (FrameSource D F S) :=
  if m.turnsAway call then none
  else
    (index₂ m.models call.key).bind fun model =>
      if m.servesCached call model then none
      else m.freshSource? call model (useIBL library model.headerInfo.imageName)

/-- **What rendering one model does**: nothing moves, and no other model or image changes. This one
does not change either where nothing is to be drawn; where a frame is drawn, the model says that it
changed, or its image is that frame. -/
structure Redraws (draw : Draw D F S P) (call : RenderCall) (source : Option (FrameSource D F S))
    (m m' : Manager D F S P) : Prop where
  headlessRenderer : m'.headlessRenderer = m.headlessRenderer
  models_width : ∀ page, width m'.models page = width m.models page
  modelImages_width : ∀ page, width m'.modelImages page = width m.modelImages page
  models_of_ne : ∀ key ≠ call.key, index₂ m'.models key = index₂ m.models key
  modelImages_of_ne : ∀ key ≠ call.key, index₂ m'.modelImages key = index₂ m.modelImages key
  kept : source = none → m'.models = m.models ∧ m'.modelImages = m.modelImages
  redrawn : ∀ drawn ∈ source, ∀ model, index₂ m'.models call.key = some model →
    model.hasChanged = false → ∃ p, draw drawn = some p ∧ call.delivered = true ∧
      index₂ m'.modelImages call.key = some (call.image (.frame p)) ∧
      frameSource model call.imageSize model.drawnWithIBL = drawn

section Redraws

variable {draw : Draw D F S P} {call : RenderCall} {m m' : Manager D F S P}
  {models : List (List (Model D F S))} {model : Model D F S}

omit [Scalar D] [Scalar F] [Rounding D F] [ViewScalar D F]

/-- Nothing is drawn where neither the models nor the images change. -/
theorem Redraws.of_eq (hrenderer : m'.headlessRenderer = m.headlessRenderer)
    (hmodels : m'.models = m.models) (himages : m'.modelImages = m.modelImages) :
    Redraws draw call none m m' where
  headlessRenderer := hrenderer
  models_width page := by rw [hmodels]
  modelImages_width page := by rw [himages]
  models_of_ne key _ := by rw [hmodels]
  modelImages_of_ne key _ := by rw [himages]
  kept _ := ⟨hmodels, himages⟩
  redrawn _ hdrawn := nomatch hdrawn

/-- A manager with the same models and images may be taken for the one before. -/
theorem Redraws.congr_left {source : Option (FrameSource D F S)} {m₀ : Manager D F S P}
    (h : Redraws draw call source m m') (hrenderer : m.headlessRenderer = m₀.headlessRenderer)
    (hmodels : m.models = m₀.models) (himages : m.modelImages = m₀.modelImages) :
    Redraws draw call source m₀ m' where
  headlessRenderer := h.headlessRenderer.trans hrenderer
  models_width page := by rw [h.models_width, hmodels]
  modelImages_width page := by rw [h.modelImages_width, himages]
  models_of_ne key hne := by rw [h.models_of_ne key hne, hmodels]
  modelImages_of_ne key hne := by rw [h.modelImages_of_ne key hne, himages]
  kept hnone := ⟨(h.kept hnone).1.trans hmodels, (h.kept hnone).2.trans himages⟩
  redrawn := h.redrawn

/-- A model that says it changed may be written, whatever its image is. -/
theorem Redraws.of_write (source : FrameSource D F S)
    (hrenderer : m'.headlessRenderer = m.headlessRenderer)
    (hmodels : write₂ m.models call.key model = some m'.models)
    (hchanged : model.hasChanged = true) (himages : m'.modelImages = m.modelImages) :
    Redraws draw call (some source) m m' where
  headlessRenderer := hrenderer
  models_width page := width_write₂ hmodels page
  modelImages_width page := by rw [himages]
  models_of_ne key hne := by rw [index₂_write₂ hmodels, if_neg hne]
  modelImages_of_ne key _ := by rw [himages]
  kept := nofun
  redrawn _ _ model' hmodel hfresh := by
    rw [index₂_write₂ hmodels, if_pos rfl, Option.some.injEq] at hmodel
    rw [← hmodel, hchanged] at hfresh
    exact absurd hfresh (by decide)

/-- A model and its image may be written together when the image is the frame drawn. -/
theorem Redraws.of_writes {source : FrameSource D F S} {p : P} {model' : Model D F S}
    (hrenderer : m'.headlessRenderer = m.headlessRenderer)
    (hmodels : write₂ m.models call.key model = some models)
    (hmodels' : write₂ models call.key model' = some m'.models)
    (himages : write₂ m.modelImages call.key (call.image (.frame p)) = some m'.modelImages)
    (hdraw : draw source = some p) (hdelivered : call.delivered = true)
    (hsource : frameSource model' call.imageSize model'.drawnWithIBL = source) :
    Redraws draw call (some source) m m' where
  headlessRenderer := hrenderer
  models_width page := (width_write₂ hmodels' page).trans (width_write₂ hmodels page)
  modelImages_width page := width_write₂ himages page
  models_of_ne key hne := by
    rw [index₂_write₂ hmodels', if_neg hne, index₂_write₂ hmodels, if_neg hne]
  modelImages_of_ne key hne := by rw [index₂_write₂ himages, if_neg hne]
  kept := nofun
  redrawn drawn hdrawn model'' hmodel _ := by
    obtain rfl := Option.some.inj hdrawn
    rw [index₂_write₂ hmodels', if_pos rfl, Option.some.injEq] at hmodel
    subst hmodel
    exact ⟨p, hdraw, hdelivered, by rw [index₂_write₂ himages, if_pos rfl], hsource⟩

end Redraws

/-- The image `renderFresh` returns. -/
def freshImage (draw : Draw D F S P) (m : Manager D F S P) (call : RenderCall)
    (model : Model D F S) (useIBL : Bool) : QImage P :=
  let canvas := canvasSize model (m.requestSize call.pageNumber)
  if zeroCanvas canvas then call.image .black
  else
    match draw (frameSource (model.setProjection canvas) call.imageSize useIBL) with
    | none => call.image .background
    | some p => call.image (if call.delivered then .frame p else .black)

omit [Scalar D] [Rounding D F] in
/-- **A fresh render** of a model that is there indexes nothing outside, and redraws it. -/
theorem renderFresh_eq (draw : Draw D F S P) {m : Manager D F S P} {call : RenderCall}
    {model : Model D F S} (hm : m.Shaped) (hmodel : index₂ m.models call.key = some model)
    (useIBL : Bool) :
    ∃ m', renderFresh draw m call model useIBL = some (m', freshImage draw m call model useIBL) ∧
      Redraws draw call (m.freshSource? call model useIBL) m m' := by
  have hwidth : call.key.2 < width m.models call.key.1 := isSome_index₂.mp (by rw [hmodel]; rfl)
  have hwidth' : call.key.2 < width m.modelImages call.key.1 := hm call.key.1 ▸ hwidth
  obtain ⟨image, himage⟩ := index₂_of_lt hwidth'
  obtain ⟨cached, hcached, hsize⟩ : ∃ cached,
      (grow RequestCache.empty (call.pageNumber + 1) m.cachedRequestSizes)[call.pageNumber]? =
        some cached ∧ cached.size = m.requestSize call.pageNumber :=
    ⟨_, getElem?_grow_succ _ _ _, rfl⟩
  have hrender := renderFresh.eq_def draw m call model useIBL
  have hfresh := freshImage.eq_def draw m call model useIBL
  rw [freshSource?]
  simp only [EnsureCachedRequestSize, hcached, hsize, Option.bind_eq_bind, Option.bind_some]
    at hrender hfresh
  by_cases hcanvas : zeroCanvas (canvasSize model (m.requestSize call.pageNumber))
  · rw [if_pos hcanvas] at hrender hfresh
    refine ⟨_, hrender.trans (by rw [hfresh]), ?_⟩
    rw [if_pos hcanvas]
    exact .of_eq rfl rfl rfl
  -- The model is written before anything is drawn, so that every early return asks again.
  rw [if_neg hcanvas] at hrender hfresh
  rw [if_neg hcanvas]
  generalize canvasSize model (m.requestSize call.pageNumber) = canvas at hrender hfresh ⊢
  obtain ⟨models, hmodels⟩ := write₂_of_lt hwidth (model.setProjection canvas)
  simp only [hmodels, himage, Option.bind_some] at hrender
  cases hdraw : draw (frameSource (model.setProjection canvas) call.imageSize useIBL) with
  | none =>
    simp only [hdraw] at hrender hfresh
    refine ⟨_, hrender.trans (by rw [hfresh]), ?_⟩
    exact .of_write _ rfl hmodels rfl rfl
  | some p =>
    simp only [hdraw] at hrender hfresh
    by_cases hdelivered : call.delivered
    · obtain ⟨models', hmodels'⟩ := write₂_of_lt (by rw [width_write₂ hmodels]; exact hwidth)
        { model.setProjection canvas with hasChanged := false, drawnWithIBL := useIBL }
      obtain ⟨images, himages⟩ := write₂_of_lt hwidth' (call.image (.frame p))
      simp only [hdelivered, hmodels', himages, Option.bind_some, if_true] at hrender hfresh
      refine ⟨_, hrender.trans (by rw [hfresh]), ?_⟩
      exact .of_writes rfl hmodels hmodels' himages hdraw hdelivered rfl
    · rw [if_neg hdelivered] at hrender hfresh
      refine ⟨_, hrender.trans (by rw [hfresh]), ?_⟩
      exact .of_write _ rfl hmodels rfl rfl

section trackMissingIBL

variable (m : Manager D F S P) (library : ByteString → Bool) (key : Nat × Nat)
  (imageName : ByteString)

omit [Scalar D] [Scalar F] [Rounding D F] [ViewScalar D F]

/-- To track an image touches neither the models nor their images. -/
@[simp] theorem trackMissingIBL_models :
    (m.trackMissingIBL library key imageName).models = m.models := by
  unfold trackMissingIBL
  split_ifs <;> rfl

@[simp] theorem trackMissingIBL_modelImages :
    (m.trackMissingIBL library key imageName).modelImages = m.modelImages := by
  unfold trackMissingIBL
  split_ifs <;> rfl

@[simp] theorem trackMissingIBL_headlessRenderer :
    (m.trackMissingIBL library key imageName).headlessRenderer = m.headlessRenderer := by
  unfold trackMissingIBL
  split_ifs <;> rfl

@[simp] theorem trackMissingIBL_requestSize (page : Nat) :
    (m.trackMissingIBL library key imageName).requestSize page = m.requestSize page := by
  unfold trackMissingIBL
  split_ifs <;> rfl

end trackMissingIBL

section RenderModel

variable {draw : Draw D F S P} {library : ByteString → Bool} {m : Manager D F S P}
  {call : RenderCall}

omit [Scalar D] [Rounding D F]

variable (draw library) in
/-- A call that is turned away returns what there was, and changes nothing. -/
theorem RenderModel_of_turnsAway (h : m.turnsAway call = true) :
    ∃ image, RenderModel draw library m call = some (m, image) := by
  simp only [turnsAway, Bool.or_eq_true, decide_eq_true_eq] at h
  unfold RenderModel
  split_ifs with hrenderer hsize
  · exact ⟨_, rfl⟩
  · exact ⟨_, rfl⟩
  · exact absurd h (not_or.mpr ⟨hrenderer, hsize⟩)

/-- A page or a model that is not there is indexed all the same. -/
theorem RenderModel_of_none (h : m.turnsAway call = false)
    (hmodel : index₂ m.models call.key = none) : RenderModel draw library m call = none := by
  simp only [turnsAway, Bool.or_eq_false_iff, decide_eq_false_iff_not] at h
  rw [RenderModel, if_neg (by simp [h.1]), if_neg h.2, hmodel]
  rfl

variable (draw library) in
/-- **`RenderModel` on a model that is there**: nothing outside is indexed, and the model is
redrawn, or its cached image serves. -/
theorem RenderModel_of_some {model : Model D F S} (hm : m.Shaped) (h : m.turnsAway call = false)
    (hmodel : index₂ m.models call.key = some model) :
    ∃ m', RenderModel draw library m call =
        some (m', if m.servesCached call model then (index₂ m.modelImages call.key).getD none
          else freshImage draw m call model (useIBL library model.headerInfo.imageName)) ∧
      Redraws draw call (m.source? library call) m m' := by
  have hsource : m.source? library call = if m.servesCached call model then none
      else m.freshSource? call model (useIBL library model.headerInfo.imageName) := by
    rw [source?, h, hmodel]
    rfl
  simp only [turnsAway, Bool.or_eq_false_iff, decide_eq_false_iff_not] at h
  set tracked := m.trackMissingIBL library call.key model.headerInfo.imageName with htracked
  have hrenderer : tracked.headlessRenderer = m.headlessRenderer := by simp [htracked]
  have hmodels : tracked.models = m.models := by simp [htracked]
  have himages : tracked.modelImages = m.modelImages := by simp [htracked]
  have hwidth : call.key.2 < width m.models call.key.1 := isSome_index₂.mp (by rw [hmodel]; rfl)
  obtain ⟨image, himage⟩ := index₂_of_lt (hm call.key.1 ▸ hwidth)
  have hshaped : tracked.Shaped := by
    unfold Shaped
    rw [hmodels, himages]
    exact hm
  -- the frame and the image depend on nothing that the tracking changes
  have hfresh : freshImage draw tracked call model (useIBL library model.headerInfo.imageName) =
      freshImage draw m call model (useIBL library model.headerInfo.imageName) := by
    simp only [freshImage, htracked, trackMissingIBL_requestSize]
  have hfrom : tracked.freshSource? call model (useIBL library model.headerInfo.imageName) =
      m.freshSource? call model (useIBL library model.headerInfo.imageName) := by
    simp only [freshSource?, htracked, trackMissingIBL_requestSize]
  obtain ⟨m', hm', hredraws⟩ := renderFresh_eq draw hshaped (by rw [hmodels]; exact hmodel)
    (useIBL library model.headerInfo.imageName)
  have hrender : RenderModel draw library m call =
      if m.servesCached call model then some (tracked, image)
      else renderFresh draw tracked call model (useIBL library model.headerInfo.imageName) := by
    rw [RenderModel, if_neg (by simp [h.1]), if_neg h.2, hmodel]
    simp only [Option.bind_eq_bind, Option.bind_some, ← htracked, servesCached, himage,
      Option.getD_some]
    cases hchanged : model.hasChanged with
    | true => simp
    | false =>
      have : index₂ tracked.modelImages call.key = some image := by
        rw [himages]
        exact himage
      by_cases hsize : image.size = call.imageSize <;> simp [this, hsize]
  rw [hrender, hsource]
  split_ifs
  · refine ⟨tracked, by rw [himage]; rfl, ?_⟩
    exact .of_eq hrenderer hmodels himages
  · rw [← hfrom]
    exact ⟨m', by rw [hm', hfresh], hredraws.congr_left hrenderer hmodels himages⟩

variable (draw library) in
/-- **What `RenderModel` does to a manager.** (A call that indexes outside does nothing here.) -/
theorem redraws_RenderModel (hm : m.Shaped) (call : RenderCall) :
    Redraws draw call (m.source? library call) m
      (((RenderModel draw library m call).map Prod.fst).getD m) := by
  cases haway : m.turnsAway call with
  | true =>
    obtain ⟨image, himage⟩ := RenderModel_of_turnsAway draw library haway
    rw [himage, source?, if_pos haway]
    exact .of_eq rfl rfl rfl
  | false =>
    cases hmodel : index₂ m.models call.key with
    | none =>
      rw [RenderModel_of_none haway hmodel, source?, haway, hmodel]
      exact .of_eq rfl rfl rfl
    | some model =>
      obtain ⟨m', hm', hredraws⟩ := RenderModel_of_some draw library hm haway hmodel
      rw [hm']
      exact hredraws

end RenderModel

section CacheRequest

variable (m : Manager D F S P) (request : PixmapRequest) (now : Int)

omit [Scalar D] [Scalar F] [Rounding D F] [ViewScalar D F]

/-- Two managers with the same models and images. -/
structure SameModels (m m' : Manager D F S P) : Prop where
  headlessRenderer : m'.headlessRenderer = m.headlessRenderer
  models : m'.models = m.models
  modelImages : m'.modelImages = m.modelImages

/-- A size that is cached leaves the models and their images alone. -/
theorem cacheRequestSizeUnlocked_eq (pageNumber : Nat) (width height : Int) :
    ∃ m', m.cacheRequestSizeUnlocked pageNumber width height now = some m' ∧ SameModels m m' := by
  have hlt : pageNumber <
      (grow RequestCache.empty (pageNumber + 1) m.cachedRequestSizes).length := by
    rw [length_grow]
    omega
  simp only [cacheRequestSizeUnlocked, getElem?_grow_succ, Option.bind_eq_bind, Option.bind_some,
    write_eq_some hlt]
  split_ifs
  · exact ⟨_, rfl, rfl, rfl, rfl⟩
  · exact ⟨_, rfl, rfl, rfl, rfl⟩

/-- So does a request of a presentation. -/
theorem cachePresentationRequest_eq :
    ∃ m', m.cachePresentationRequest request = some m' ∧ SameModels m m' := by
  have hlt : request.pageNumber <
      (grow (0, 0) (request.pageNumber + 1) m.presentationRequestSizes).length := by
    rw [length_grow]
    omega
  simp only [cachePresentationRequest, write_eq_some hlt, Option.bind_eq_bind, Option.bind_some]
  exact ⟨_, rfl, rfl, rfl, rfl⟩

/-- **`CacheRequest` indexes nothing outside**: it makes room first, or checks. -/
theorem CacheRequest_eq : ∃ m', m.CacheRequest request now = some m' ∧ SameModels m m' := by
  have hsize := m.cacheRequestSizeUnlocked_eq now request.pageNumber request.width request.height
  have hother : ∃ unset, m.requestSizeUnset request.pageNumber = some unset := by
    unfold requestSizeUnset
    split_ifs with hlen
    · exact ⟨true, rfl⟩
    · rw [List.getElem?_eq_getElem (by omega), Option.map_some]
      exact ⟨_, rfl⟩
  obtain ⟨unset, hunset⟩ := hother
  obtain ⟨shown, hshown, hsame⟩ := m.cachePresentationRequest_eq request
  have hpresentation : ∃ m', shown.cacheRequestSizeUnlocked request.pageNumber request.width
      request.height now = some m' ∧ SameModels m m' := by
    obtain ⟨m', hm', hsame'⟩ :=
      shown.cacheRequestSizeUnlocked_eq now request.pageNumber request.width request.height
    exact ⟨m', hm', hsame'.headlessRenderer.trans hsame.headlessRenderer,
      hsame'.models.trans hsame.models, hsame'.modelImages.trans hsame.modelImages⟩
  have hthumbnail : ∃ m', (if unset then m.cacheRequestSizeUnlocked request.pageNumber request.width
      request.height now else some m) = some m' ∧ SameModels m m' := by
    split_ifs
    · exact hsize
    · exact ⟨m, rfl, rfl, rfl, rfl⟩
  unfold CacheRequest
  cases request.priority with
  | thumbnails | thumbnailsPreload | other =>
    simp only [hunset, Option.bind_eq_bind, Option.bind_some]
    exact hthumbnail
  | presentation | presentationPreload =>
    simp only [hshown, Option.bind_eq_bind, Option.bind_some]
    exact hpresentation
  | pageView | pageViewPreload => exact hsize

end CacheRequest

/-- **What an interaction does**: no image changes, and every model is as it was or says that it
changed. -/
structure Marks (m m' : Manager D F S P) : Prop where
  headlessRenderer : m'.headlessRenderer = m.headlessRenderer
  modelImages : m'.modelImages = m.modelImages
  models_width : ∀ page, width m'.models page = width m.models page
  marked : ∀ key model, index₂ m'.models key = some model →
    index₂ m.models key = some model ∨ model.hasChanged = true

section Marks

omit [Scalar D] [Scalar F] [Rounding D F] [ViewScalar D F]

variable {m m' m'' : Manager D F S P}

theorem Marks.of_eq (hrenderer : m'.headlessRenderer = m.headlessRenderer)
    (himages : m'.modelImages = m.modelImages) (hmodels : m'.models = m.models) : Marks m m' where
  headlessRenderer := hrenderer
  modelImages := himages
  models_width page := by rw [hmodels]
  marked key model hmodel := .inl (hmodels ▸ hmodel)

/-- Two methods that mark what they change do so together. -/
theorem Marks.trans (h : Marks m m') (h' : Marks m' m'') : Marks m m'' where
  headlessRenderer := h'.headlessRenderer.trans h.headlessRenderer
  modelImages := h'.modelImages.trans h.modelImages
  models_width page := (h'.models_width page).trans (h.models_width page)
  marked key model hmodel := by
    rcases h'.marked key model hmodel with hmodel | hchanged
    · exact h.marked key model hmodel
    · exact .inr hchanged

/-- A model that is changed and marked is marked. -/
theorem marks_modifyModel (m : Manager D F S P) (key : Nat × Nat) {f : Model D F S → Model D F S}
    (hf : ∀ model : Model D F S, model.Touched (f model)) : Marks m (m.modifyModel key f) where
  headlessRenderer := rfl
  modelImages := rfl
  models_width page := width_modify₂ f page
  marked key' model hmodel := by
    simp only [modifyModel, index₂_modify₂] at hmodel
    split_ifs at hmodel
    · obtain ⟨old, hold, rfl⟩ := Option.map_eq_some_iff.mp hmodel
      rcases hf old with heq | hchanged
      · exact .inl (hold.trans (congrArg some heq.symm))
      · exact .inr hchanged
    · exact .inl hmodel

/-- A download that is complete marks the models that waited for it. -/
theorem marks_onIBLDownloadComplete (m : Manager D F S P) : Marks m m.onIBLDownloadComplete := by
  have hfold : ∀ (keys : List (Nat × Nat)) (m : Manager D F S P), Marks m (keys.foldl
      (fun m key => m.modifyModel key fun model => { model with hasChanged := true }) m) := by
    intro keys
    induction keys with
    | nil => exact fun m => .of_eq rfl rfl rfl
    | cons key keys ih =>
      intro m
      exact (marks_modifyModel m key fun model => .inr rfl).trans (ih _)
  exact (hfold m.modelsWithMissingIBL m).trans (.of_eq rfl rfl rfl)

end Marks

/-- An interaction marks its model. -/
theorem marks_interact (m : Manager D F S P) (key : Nat × Nat) (i : Interaction F) :
    Marks m (m.interact key i) := by
  have hmarks : Marks m (m.modifyModel key fun model => model.interact i) :=
    marks_modifyModel m key fun model => model.touched_interact i
  unfold interact
  cases i with
  | shift | wheel => exact hmarks.trans (.of_eq rfl rfl rfl)
  | home | cycleMode | zoom | pan | rotate => exact hmarks

omit [Rounding D F] [ViewScalar D F] in
/-- **`AddModel` indexes nothing outside.** -/
theorem AddModel_eq (m : Manager D F S P) (model : Model D F S) (page : Nat) :
    ∃ models images, pushBack m.models page model.initProjection = some models ∧
      pushBack m.modelImages page none = some images ∧
      m.AddModel model page = some { m with models, modelImages := images } := by
  obtain ⟨models, hmodels, -⟩ := pushBack_eq m.models page model.initProjection
  obtain ⟨images, himages, -⟩ := pushBack_eq m.modelImages page none
  exact ⟨models, images, hmodels, himages, by rw [AddModel, hmodels, himages]; rfl⟩

/-- **The main thread indexes nothing outside**, and keeps the models and the images in the same
shape. Only `SetDocument` takes models away. -/
theorem apply_eq {m : Manager D F S P} (hm : m.Shaped) (a : MainAction F S) :
    ∃ m', m.apply a = some m' ∧ m'.Shaped ∧ m'.headlessRenderer = m.headlessRenderer ∧
      (a.drops = false → ∀ page, width m.models page ≤ width m'.models page) := by
  have hmarks : ∀ m', Marks m m' → m'.Shaped ∧ m'.headlessRenderer = m.headlessRenderer ∧
      (a.drops = false → ∀ page, width m.models page ≤ width m'.models page) := by
    intro m' h
    refine ⟨fun page => ?_, h.headlessRenderer, fun _ page => (h.models_width page).ge⟩
    rw [h.models_width, h.modelImages, hm page]
  cases a with
  | setDocument => exact ⟨_, rfl, fun page => rfl, rfl, fun h => nomatch h⟩
  | addModel scene headerInfo minBound maxBound page =>
    obtain ⟨models, images, hmodels, himages, hadd⟩ :=
      m.AddModel_eq (.ofFile scene headerInfo minBound maxBound) page
    refine ⟨_, hadd, hm.pushBack hmodels himages, rfl, fun _ page => ?_⟩
    rw [width_pushBack hmodels]
    omega
  | interact key i => exact ⟨_, rfl, hmarks _ (m.marks_interact key i)⟩
  | decline name => exact ⟨_, rfl, hmarks _ (.of_eq rfl rfl rfl)⟩
  | downloadComplete => exact ⟨_, rfl, hmarks _ m.marks_onIBLDownloadComplete⟩

end Manager

end ImageCache

end OkularV3d
