import OkularV3d.Lib.CriticalSections
import OkularV3d.Manager.HitTest
import OkularV3d.Manager.ModelImages
import OkularV3d.Manager.RefreshThrottle

/-!
# The lock of the manager

Pixmap workers and the main thread enter a `V3dModelManager` at the same time. `m_ModelsMutex`,
which is not recursive, guards what they share; a render also takes `v3dRenderGlobalsMutex`, which
all managers share. Okular enters the manager again while a handler is on its way, whenever the
handler deletes a pixmap, delivers a synthetic event or asks a question.

Each entry point is followed along its path: what it reads decides which way it takes, and the path
says which mutexes are taken, what is touched and where control is handed over.
`along_of_ne_guarded` says that no way takes the mutex twice, holds it where control is handed over,
or waits for it under the other mutex. `keepsDiscipline_iff` says when it is also held wherever
something it guards is touched: hit testing for a press or a key, and every `refreshPixmap`, go
without it.

* `Members` and the other records of readings are what decides about the way.
* `Call.obeys_path` and `Call.guarded_path_iff` are the lemmas about one call; the rules of
  `OkularV3d.Lib.CriticalSections` make them ones about all calls, also those made from within.
-/

namespace OkularV3d

open Runs Sections

namespace Locking

open HitTest (Screen VisiblePageRect)
open ImageCache (PixmapRequest)
open ImageCache.DragState (minTimeBetweenRefreshes)
open Pdf (ModelBounds)

/-- `m_ModelsMutex` of the manager, and `v3dRenderGlobalsMutex`. -/
inductive Mutex where
  | modelsMutex
  | renderGlobalsMutex
  deriving DecidableEq

/-- What is touched: the members that `m_ModelsMutex` guards, and `EnsureCachedRequestSize`, whose
caller is to hold it. -/
inductive Guarded where
  | cachedRequestSizes
  | presentationRequestSizes
  | pages
  | modelsWithMissingIBL
  | ensureCachedRequestSize
  deriving DecidableEq

/-- Where control is handed over: `Page::deletePixmap`, the key that is released over the page view,
the event that resizes the presentation, and `QMessageBox::question`. -/
inductive HandOver where
  | deletePixmap
  | keyRelease
  | resize
  | question
  deriving DecidableEq

/-- A path through the manager. -/
abbrev Path := Code Mutex Guarded

/-- What is asked of the mutexes. -/
def discipline : Discipline Mutex Guarded where
  guard _ := .modelsMutex
  blocks m := m == .modelsMutex
  before n m := !(n == .renderGlobalsMutex && m == .modelsMutex)

/-- What `refreshPixmap` reads, apart from the screen.

* `pages`: which entries of `m_Pages` are set.
* `pageViewObserver`: whether `m_PageViewObserver` is set.
* `pageViewVisible`, `pageViewWindow`: whether `m_PageView` is visible, and has a window.
* `pageViewScreen`, `presentationScreen`: the screens the two windows are on, where they have one.
* `viewportPage`: the page of the document when the presentation is to be resized, `-1` if none. -/
structure Windows where
  pages : List Bool
  pageViewObserver : Bool
  pageViewVisible : Bool
  pageViewWindow : Bool
  pageViewScreen : Option ℕ
  presentationScreen : Option ℕ
  viewportPage : Int

/-- What an event handler reads.

* `models`: `m_Models`, as far as the places on the page go.
* `screen`: what hit testing reads. A document that is not there shows page `-1`.
* `dragged`: `m_ActiveModel` and `m_ActiveModelPage`, which are set and reset with `m_Dragging`.
* `mousePosition`: `m_MousePosition`, with the event that is handled.
* `windows`: what `refreshPixmap` reads. -/
structure Members (K : Type) where
  models : List (List (ModelBounds K))
  screen : Screen K
  dragged : Option (ModelBounds K × ℕ)
  mousePosition : Int × Int
  windows : Windows

/-- What `RenderModel` reads.

* `headlessRenderer`: whether there is a renderer.
* `imageName`, `bounds`: of the model.
* `found`, `declined`: whether `resolveIBLPath` finds the image, and its download was declined.
* `unchanged`: whether the cached image has the size asked for, and the model has not changed.
* `requestSize`: the size last requested for the page. -/
structure RenderReading (K : Type) where
  headlessRenderer : Bool
  imageWidth : Int
  imageHeight : Int
  imageName : ByteString
  found : Bool
  declined : Bool
  unchanged : Bool
  bounds : ModelBounds K
  requestSize : Int × Int

/-- What `performIBLDownload` reads: the name, the answer, whether the directories can be made, how
many files are to be fetched, and `m_ModelsWithMissingIBL`. -/
structure DownloadReading where
  imageName : ByteString
  accepted : Bool
  directoriesMade : Bool
  pendingDownloadCount : ℕ
  modelsWithMissingIBL : List (ℕ × ℕ)

/-- The keys a handler tells apart. -/
inductive Key where
  | h
  | m
  | other
  deriving DecidableEq

/-- An event of a widget: whether the widget is a presentation, whether it is destroyed or only
shown, and whether the application or the manager go down. -/
structure WidgetEvent where
  isPresentation : Bool
  destroyed : Bool
  closingDown : Bool
  destroying : Bool

/-! ### What the helpers touch -/

section Helpers

/-- The body of a function that holds `m_ModelsMutex` from its first line to its last. -/
def locked (body : Path) : Path := .scope .modelsMutex body .done

/-- `EnsureCachedRequestSize`. -/
def EnsureCachedRequestSize : List Guarded := [.ensureCachedRequestSize, .cachedRequestSizes]

/-- `EnsureCachedRequestSize`, and a read of the size. -/
def ensuredSize : List Guarded := EnsureCachedRequestSize ++ [.cachedRequestSizes]

/-- `cacheRequestSizeUnlocked`: the vector grows, and its entry is compared and set. -/
def cacheRequestSizeUnlocked : List Guarded :=
  [.cachedRequestSizes, .cachedRequestSizes, .cachedRequestSizes]

/-- `cachePageUnlocked`. -/
def cachePageUnlocked (page : Bool) : List Guarded := if page then [.pages, .pages] else []

/-- `cacheRequestUnlocked`. `unset` is whether the page has no size yet, and `page` whether the
request has a page. -/
def cacheRequestUnlocked (request : PixmapRequest) (unset page : Bool) : List Guarded :=
  match request.priority with
  | .thumbnails | .thumbnailsPreload | .other _ =>
    .cachedRequestSizes :: if unset then cacheRequestSizeUnlocked else []
  | .presentation | .presentationPreload =>
    .presentationRequestSizes :: .presentationRequestSizes ::
      (cacheRequestSizeUnlocked ++ cachePageUnlocked page)
  | .pageView | .pageViewPreload => cacheRequestSizeUnlocked ++ cachePageUnlocked page

variable {K : Type} [Field K] [LinearOrder K] (screen : Screen K)

/-- The heights that are added up if the upper edge of the first page is seen. -/
def totalPageHeight (page : VisiblePageRect K) (pages : List (VisiblePageRect K)) : List Guarded :=
  let last := pages.getLastD page
  if page.rect.top = 0 then
    (List.range' page.pageNumber (last.pageNumber + 1 - page.pageNumber)).flatMap
      fun _ => ensuredSize
  else []

/-- `GetPageBordersForVisiblePages`. -/
def GetPageBordersForVisiblePages : List Guarded :=
  if screen.pageView.isNone then []
  else
    match screen.visiblePageRects with
    | [] => []
    | [_] => ensuredSize
    | page :: pages =>
      -- the sides of all pages, then the first page, then the others
      (page :: pages).flatMap (fun _ => ensuredSize) ++
        (ensuredSize ++ totalPageHeight page pages ++ pages.flatMap fun _ => ensuredSize)

/-- `GetPresentationPageBorders`. -/
def GetPresentationPageBorders : List Guarded :=
  if screen.presentationWidget.isNone then []
  else if screen.viewportPage < 0 then []
  else
    EnsureCachedRequestSize ++ .presentationRequestSizes ::
      if screen.presentationRequestSizes.length ≤ screen.viewportPage.toNat then []
      else [.presentationRequestSizes]

/-- `GetActivePageBorders`. -/
def GetActivePageBorders : List Guarded :=
  if screen.lastPresentation.isSome then GetPresentationPageBorders screen
  else GetPageBordersForVisiblePages screen

/-- `GetPageMouseIsOver`. -/
def GetPageMouseIsOver : List Guarded := GetActivePageBorders screen

/-- `GetNormalizedPositionRelativeToPage`. The size of the presentation is read if the mouse is on
it, and the last requested one unless that is a proper size. -/
def GetNormalizedPositionRelativeToPage (pageNumber : ℕ) : List Guarded :=
  GetActivePageBorders screen ++
    if screen.lastPresentation.isSome then
      .presentationRequestSizes ::
        match screen.presentationRequestSizes[pageNumber]? with
        | none => ensuredSize
        | some size =>
          .presentationRequestSizes :: if 0 < size.1 ∧ 0 < size.2 then [] else ensuredSize
    else ensuredSize

end Helpers

/-! ### The entry points -/

section Paths

variable {K : Type}

/-- `refreshPixmap`. -/
def refreshPixmap (m : Members K) (pageNumber : ℕ) (inside : HandOver → Path) : Path :=
  .touch .pages <|
    match m.windows.pages[pageNumber]? with
    | none => .done
    | some cached =>
      .touch .pages <|
        if !cached then .done
        else
          let presentationActive := m.screen.presentationWidget.isSome
          let interactingWithPresentation := presentationActive && m.screen.lastPresentation.isSome
          let dualScreen :=
            !(presentationActive && m.screen.pageView.isSome && m.windows.pageViewWindow) ||
              m.windows.pageViewScreen.isNone || m.windows.presentationScreen.isNone ||
              m.windows.pageViewScreen != m.windows.presentationScreen
          let refreshPageView := m.screen.pageView.isSome && m.windows.pageViewVisible &&
            (!interactingWithPresentation || dualScreen)
          (if (refreshPageView || !presentationActive) && m.windows.pageViewObserver then
            .touch .pages (.handOver (inside .deletePixmap) .done) else .done) ++
          ((if refreshPageView then .handOver (inside .keyRelease) .done else .done) ++
          (if presentationActive && m.windows.viewportPage == pageNumber &&
              (interactingWithPresentation || dualScreen) then
            .handOver (inside .resize) .done else .done))

/-- `requestPixmapRefresh`, with the time in seconds since `m_LastPixmapRefreshTime`. -/
def requestPixmapRefresh (m : Members K) (pageNumber : ℕ) (elapsedTime : ℚ)
    (inside : HandOver → Path) : Path :=
  if minTimeBetweenRefreshes < elapsedTime then refreshPixmap m pageNumber inside else .done

/-- The timer of `scheduleRefreshPixmap`. -/
def timeout (m : Members K) (destroying : Bool) (pageNumber : ℕ) (inside : HandOver → Path) :
    Path :=
  if !destroying then refreshPixmap m pageNumber inside else .done

/-- `handlePresentationWidgetEvent`: the page view catches up when the presentation is gone. -/
def handlePresentationWidgetEvent (m : Members K) (e : WidgetEvent) (inside : HandOver → Path) :
    Path :=
  if !e.isPresentation then .done
  else if !e.destroyed then .done
  else if !e.closingDown && !e.destroying && m.screen.pageView.isSome &&
      m.windows.pageViewVisible && 0 ≤ m.screen.viewportPage then
    refreshPixmap { m with screen := { m.screen with presentationWidget := none } }
      m.screen.viewportPage.toNat inside
  else .done

/-- `onIBLDownloadComplete`: the models that waited are marked and forgotten. -/
def onIBLDownloadComplete (modelsWithMissingIBL : List (ℕ × ℕ)) : Path :=
  locked <| .touchAll (modelsWithMissingIBL.map fun _ => .modelsWithMissingIBL) <|
    .touch .modelsWithMissingIBL .done

/-- `onIBLDownloadReplyFinished`: whatever the reply, one download fewer is pending. -/
def onIBLDownloadReplyFinished (destroying : Bool) (pendingDownloadCount : Int)
    (modelsWithMissingIBL : List (ℕ × ℕ)) : Path :=
  if destroying then .done
  else if pendingDownloadCount - 1 = 0 then onIBLDownloadComplete modelsWithMissingIBL
  else .done

/-- `performIBLDownload`. The models that wait are looked through when the download is declined. -/
def performIBLDownload (r : DownloadReading) (inside : HandOver → Path) : Path :=
  if !iblNameOK (normalizeIBLName r.imageName) then .done
  else
    .handOver (inside .question) <|
      if !r.accepted then
        locked <| .touch .modelsWithMissingIBL <|
          .touchAll (r.modelsWithMissingIBL.map fun _ => .modelsWithMissingIBL) .done
      else if !r.directoriesMade then .done
      else if r.pendingDownloadCount = 0 then onIBLDownloadComplete r.modelsWithMissingIBL
      else .done

/-- `CacheRequest`. -/
def CacheRequest (request : PixmapRequest) (unset page : Bool) : Path :=
  locked <| .touchAll (cacheRequestUnlocked request unset page) .done

/-- `CacheRequestSize`. -/
def CacheRequestSize : Path := locked <| .touchAll cacheRequestSizeUnlocked .done

/-- `CachePage`. -/
def CachePage (page : Bool) : Path := locked <| .touchAll (cachePageUnlocked page) .done

/-- `Clear`, which `SetDocument` calls. -/
def Clear : Path :=
  locked <| .touchAll
    [.pages, .cachedRequestSizes, .modelsWithMissingIBL, .presentationRequestSizes] .done

/-- `m_Models.size() == 0 || !m_PageView`: the handlers have nothing to do. -/
def Members.idle (m : Members K) : Bool := m.models.isEmpty || m.screen.pageView.isNone

/-- The model that is marked as waiting for its image. -/
def RenderReading.tracked (r : RenderReading K) : Bool :=
  !r.imageName.isEmpty && iblNameOK (normalizeIBLName r.imageName) && !r.found && !r.declined

variable [Field K] [LinearOrder K]

/-- The canvas of the model. -/
def RenderReading.canvasSize (r : RenderReading K) : Vec2 K :=
  ⟨(r.bounds.maxBound.x - r.bounds.minBound.x) * r.requestSize.1,
    (r.bounds.maxBound.y - r.bounds.minBound.y) * r.requestSize.2⟩

/-- `RenderModel`. -/
def RenderModel (r : RenderReading K) : Path :=
  locked <|
    if !r.headlessRenderer then .done
    else if r.imageWidth ≤ 0 ∨ r.imageHeight ≤ 0 then .done
    else
      .touchAll (if r.tracked then [.modelsWithMissingIBL] else []) <|
        if r.unchanged then .done
        else
          .touchAll ensuredSize <|
            -- the size is logged
            if r.canvasSize.x ≤ 0 ∨ r.canvasSize.y ≤ 0 then .touch .cachedRequestSizes .done
            else .scope .renderGlobalsMutex .done .done

/-- A position on the page is on the model. -/
def onModel (bounds : ModelBounds K) (pos : Vec2 K) : Bool :=
  decide ((pos.x > bounds.minBound.x ∧ pos.x < bounds.maxBound.x) ∧
    pos.y > bounds.minBound.y ∧ pos.y < bounds.maxBound.y)

/-- The model fills its page. -/
def fillsPage (bounds : ModelBounds K) : Bool :=
  decide ((bounds.minBound.x ≤ 0 ∧ 1 ≤ bounds.maxBound.x) ∧
    bounds.minBound.y ≤ 0 ∧ 1 ≤ bounds.maxBound.y)

namespace Members

variable (m : Members K)

/-- `m_MousePosition` as a vector. -/
def mouse : Vec2 K := ⟨(m.mousePosition.1 : K), (m.mousePosition.2 : K)⟩

/-- The models of the page the mouse is over, with the number of the page. -/
def hovered : Option (ℕ × List (ModelBounds K)) := do
  let page ← m.screen.GetPageMouseIsOver m.mouse
  let models ← m.models[page]?
  some (page, models)

/-- The model the wheel turns, and its page: the one that is dragged, or the only one of the
document if it fills its page. -/
def wheelTarget : Option (ModelBounds K × ℕ) :=
  m.dragged <|> match m.models with
    | [[model]] => if fillsPage model then some (model, 0) else none
    | _ => none

/-- The mouse is on a model of this page. -/
def mouseOn (model : ModelBounds K) (page : ℕ) : Bool :=
  onModel model (m.screen.GetNormalizedPositionRelativeToPage m.mouse page)

end Members

/-- `mouseMoveEvent`. -/
def mouseMoveEvent (m : Members K) (controlKey shiftKey altKey : Bool) (elapsedTime : ℚ)
    (inside : HandOver → Path) : Path :=
  if m.idle then .done
  else
    match m.dragged with
    | none => .done
    | some (_, page) =>
      -- the position of the mouse and the one before it, and for a shift the canvas
      .scope .modelsMutex
        (.touchAll (GetNormalizedPositionRelativeToPage m.screen page ++
          (GetNormalizedPositionRelativeToPage m.screen page ++
            if controlKey && !shiftKey && !altKey then ensuredSize else [])) .done)
        (requestPixmapRefresh m page elapsedTime inside)

/-- `mouseButtonPressEvent`. -/
def mouseButtonPressEvent (m : Members K) (leftButton : Bool) : Path :=
  if m.idle then .done
  else if !leftButton then .done
  else
    .touchAll (GetPageMouseIsOver m.screen) <|
      match m.hovered with
      | none => .done
      | some (page, _) =>
        .touchAll (GetNormalizedPositionRelativeToPage m.screen page) <| locked .done

/-- `wheelEvent`. -/
def wheelEvent (m : Members K) (elapsedTime : ℚ) (inside : HandOver → Path) : Path :=
  if m.idle then .done
  else
    match m.wheelTarget with
    | none => .done
    | some (model, page) =>
      if m.mouseOn model page then
        .scope .modelsMutex
          (.touchAll (GetNormalizedPositionRelativeToPage m.screen page ++ ensuredSize) .done)
          (requestPixmapRefresh m page elapsedTime inside)
      else locked <| .touchAll (GetNormalizedPositionRelativeToPage m.screen page) .done

/-- What `H` and `M` do to the model the mouse is on, as far as locks go. -/
def refreshHovered (m : Members K) (inside : HandOver → Path) : Path :=
  .touchAll (GetPageMouseIsOver m.screen) <|
    match m.hovered with
    | none => .done
    | some (page, models) =>
      .touchAll (GetNormalizedPositionRelativeToPage m.screen page) <|
        if models.any fun model => m.mouseOn model page then refreshPixmap m page inside else .done

/-- `keyPressEvent`. -/
def keyPressEvent (m : Members K) (key : Key) (inside : HandOver → Path) : Path :=
  if m.idle then .done
  else
    match key with
    | .h | .m => refreshHovered m inside
    | .other => .done

end Paths

/-- A call by which the manager is entered, with what it reads on its way.

* `cacheRequest request unset page`: `unset` is whether the page of the request has no size yet,
  `page` whether the request has a page.
* `mouseMoveEvent`, `wheelEvent`: `elapsedTime` is the time in seconds since
  `m_LastPixmapRefreshTime`.
* `timeout`: the timer of `scheduleRefreshPixmap` fires.
* `clear`: `Clear`, by itself or in `SetDocument`.
* `performIBLDownload`: the prompt event is delivered. -/
inductive Call (K : Type) where
  | addModel
  | renderModel (r : RenderReading K)
  | model
  | modelBoundsSnapshot
  | empty
  | shouldSuppressPageViewRender
  | lastRenderedModelImage
  | cachedModelImage
  | getCanvasSize
  | clear
  | drawMouseBoundaries
  | cacheRequest (request : PixmapRequest) (unset page : Bool)
  | cacheRequestSize
  | cachePage (page : Bool)
  | scheduleIBLPrompt
  | noteEventSource
  | keyEventInOwnWindow
  | rebindPageView
  | mouseMoveEvent (m : Members K) (controlKey shiftKey altKey : Bool) (elapsedTime : ℚ)
  | mouseButtonPressEvent (m : Members K) (leftButton : Bool)
  | mouseButtonReleaseEvent
  | wheelEvent (m : Members K) (elapsedTime : ℚ)
  | keyPressEvent (m : Members K) (key : Key)
  | handlePresentationWidgetEvent (m : Members K) (e : WidgetEvent)
  | timeout (m : Members K) (destroying : Bool) (pageNumber : ℕ)
  | performIBLDownload (r : DownloadReading)
  | onIBLDownloadReplyFinished (destroying : Bool) (pendingDownloadCount : Int)
      (modelsWithMissingIBL : List (ℕ × ℕ))

namespace Call

variable {K : Type} [Field K] [LinearOrder K]

/-- The path of a call. `inside` is what happens while it has handed control over. -/
def path (inside : HandOver → Path) : Call K → Path
  -- what is read and written under the mutex is none of `Guarded`
  | addModel | model | modelBoundsSnapshot | empty | lastRenderedModelImage | cachedModelImage
  | rebindPageView => locked .done
  | shouldSuppressPageViewRender | getCanvasSize | drawMouseBoundaries | scheduleIBLPrompt
  | noteEventSource | keyEventInOwnWindow | mouseButtonReleaseEvent => .done
  | renderModel r => RenderModel r
  | clear => Clear
  | cacheRequest request unset page => CacheRequest request unset page
  | cacheRequestSize => CacheRequestSize
  | cachePage page => CachePage page
  | mouseMoveEvent m controlKey shiftKey altKey elapsedTime =>
    Locking.mouseMoveEvent m controlKey shiftKey altKey elapsedTime inside
  | mouseButtonPressEvent m leftButton => Locking.mouseButtonPressEvent m leftButton
  | wheelEvent m elapsedTime => Locking.wheelEvent m elapsedTime inside
  | keyPressEvent m key => Locking.keyPressEvent m key inside
  | handlePresentationWidgetEvent m e => Locking.handlePresentationWidgetEvent m e inside
  | timeout m destroying pageNumber => Locking.timeout m destroying pageNumber inside
  | performIBLDownload r => Locking.performIBLDownload r inside
  | onIBLDownloadReplyFinished destroying pendingDownloadCount modelsWithMissingIBL =>
    Locking.onIBLDownloadReplyFinished destroying pendingDownloadCount modelsWithMissingIBL

end Call

/-! ### What goes without the mutex -/

section Condition

variable {K : Type} [Field K] [LinearOrder K]

/-- Hit testing has a page to look at: that of the presentation if the mouse is on it, and a visible
one otherwise. -/
def hitTests (screen : Screen K) : Bool :=
  if screen.lastPresentation.isSome then
    screen.presentationWidget.isSome && 0 ≤ screen.viewportPage
  else screen.pageView.isSome && !screen.visiblePageRects.isEmpty

/-- The mouse is on the model that the wheel turns. -/
def Members.turns (m : Members K) : Bool := m.wheelTarget.any fun t => m.mouseOn t.1 t.2

/-- The presentation is gone, and the page view shows a page that has to catch up. -/
def WidgetEvent.catchesUp (e : WidgetEvent) (m : Members K) : Bool :=
  e.isPresentation && e.destroyed && !e.closingDown && !e.destroying &&
    m.screen.pageView.isSome && m.windows.pageViewVisible && 0 ≤ m.screen.viewportPage

namespace Call

/-- The calls that touch something without the mutex: a left press and the keys `H` and `M`, if hit
testing has a page to look at, and whatever refreshes a page. -/
def unlocked : Call K → Bool
  | mouseMoveEvent m _ _ _ elapsedTime =>
    !m.idle && m.dragged.isSome && minTimeBetweenRefreshes < elapsedTime
  | mouseButtonPressEvent m leftButton => !m.idle && leftButton && hitTests m.screen
  | wheelEvent m elapsedTime => !m.idle && m.turns && minTimeBetweenRefreshes < elapsedTime
  | keyPressEvent m key => !m.idle && key != .other && hitTests m.screen
  | handlePresentationWidgetEvent m e => e.catchesUp m
  | timeout _ destroying _ => !destroying
  | _ => false

/-- The call that hands control over though it touches nothing without the mutex: the prompt for an
image. -/
def asks : Call K → HandOver → Bool
  | performIBLDownload r, .question => iblNameOK (normalizeIBLName r.imageName)
  | _, _ => false

end Call

end Condition

/-! ### Every rule but one -/

section Rules

variable {K : Type} {rule : Rule} {inside : HandOver → Path}

/-- A body that keeps a rule under the mutex. -/
theorem obeys_locked {body : Path} (h : body.Obeys discipline rule [.modelsMutex]) :
    (locked body).Obeys discipline rule [] :=
  ⟨discipline.obeys_acquire_nil rule _, h, trivial⟩

/-- `refreshPixmap` follows every rule but that of the guards, if what it hands control to does. -/
theorem obeys_refreshPixmap (hrule : rule ≠ .guarded)
    (hinside : ∀ i, (inside i).Obeys discipline rule []) (m : Members K) (pageNumber : ℕ) :
    (refreshPixmap m pageNumber inside).Obeys discipline rule [] := by
  have htouch : discipline.Obeys rule [] (.touch .pages) := discipline.obeys_touch hrule [] _
  refine ⟨htouch, ?_⟩
  cases m.windows.pages[pageNumber]? with
  | none => trivial
  | some cached =>
    refine ⟨htouch, ?_⟩
    split_ifs
    · trivial
    · simp only [Code.obeys_append]
      refine ⟨?_, ?_, ?_⟩ <;> split_ifs <;> simp [htouch, hinside]

/-- A body that only touches. -/
theorem obeys_locked_touchAll (hrule : rule ≠ .guarded) (cs : List Guarded) :
    (locked (.touchAll cs .done)).Obeys discipline rule [] :=
  obeys_locked ((Code.obeys_touchAll_of_ne hrule cs .done).mpr trivial)

/-- So does `requestPixmapRefresh`. -/
theorem obeys_requestPixmapRefresh (hrule : rule ≠ .guarded)
    (hinside : ∀ i, (inside i).Obeys discipline rule []) (m : Members K) (pageNumber : ℕ)
    (elapsedTime : ℚ) :
    (requestPixmapRefresh m pageNumber elapsedTime inside).Obeys discipline rule [] := by
  rw [requestPixmapRefresh]
  split_ifs
  · exact obeys_refreshPixmap hrule hinside m pageNumber
  · trivial

/-- The timer of a manager. -/
theorem obeys_timeout (hrule : rule ≠ .guarded)
    (hinside : ∀ i, (inside i).Obeys discipline rule []) (m : Members K) (destroying : Bool)
    (pageNumber : ℕ) : (timeout m destroying pageNumber inside).Obeys discipline rule [] := by
  rw [timeout]
  split_ifs
  · exact obeys_refreshPixmap hrule hinside m pageNumber
  · trivial

/-- An event of a presentation widget. -/
theorem obeys_handlePresentationWidgetEvent (hrule : rule ≠ .guarded)
    (hinside : ∀ i, (inside i).Obeys discipline rule []) (m : Members K) (e : WidgetEvent) :
    (handlePresentationWidgetEvent m e inside).Obeys discipline rule [] := by
  rw [handlePresentationWidgetEvent]
  split_ifs
  · trivial
  · trivial
  · exact obeys_refreshPixmap hrule hinside _ _
  · trivial

/-- The end of a batch, which hands control to nobody. -/
theorem obeys_onIBLDownloadComplete (hrule : rule ≠ .guarded)
    (modelsWithMissingIBL : List (ℕ × ℕ)) :
    (onIBLDownloadComplete modelsWithMissingIBL).Obeys discipline rule [] := by
  refine obeys_locked ?_
  rw [Code.obeys_touchAll_of_ne hrule]
  exact ⟨discipline.obeys_touch hrule _ _, trivial⟩

/-- One reply of a batch. -/
theorem obeys_onIBLDownloadReplyFinished (hrule : rule ≠ .guarded) (destroying : Bool)
    (pendingDownloadCount : Int) (modelsWithMissingIBL : List (ℕ × ℕ)) :
    (onIBLDownloadReplyFinished destroying pendingDownloadCount modelsWithMissingIBL).Obeys
      discipline rule [] := by
  rw [onIBLDownloadReplyFinished]
  split_ifs
  · trivial
  · exact obeys_onIBLDownloadComplete hrule modelsWithMissingIBL
  · trivial

/-- The prompt, which hands control to a message box. -/
theorem obeys_performIBLDownload (hrule : rule ≠ .guarded)
    (hinside : ∀ i, (inside i).Obeys discipline rule []) (r : DownloadReading) :
    (performIBLDownload r inside).Obeys discipline rule [] := by
  rw [performIBLDownload]
  split_ifs
  · trivial
  all_goals refine ⟨discipline.obeys_handOver_nil rule, hinside .question, ?_⟩
  · refine obeys_locked ⟨discipline.obeys_touch hrule _ _, ?_⟩
    exact (Code.obeys_touchAll_of_ne hrule _ .done).mpr trivial
  · trivial
  · exact obeys_onIBLDownloadComplete hrule r.modelsWithMissingIBL
  · trivial

variable [Field K] [LinearOrder K]

/-- The mutex of the renders is taken under that of the manager. -/
theorem obeys_RenderModel (hrule : rule ≠ .guarded) (r : RenderReading K) :
    (RenderModel r).Obeys discipline rule [] := by
  have hglobals : discipline.Obeys rule [.modelsMutex] (.acquire .renderGlobalsMutex) := by
    cases rule <;> decide
  have hlogged : discipline.Obeys rule [.modelsMutex] (.touch .cachedRequestSizes) :=
    discipline.obeys_touch hrule _ _
  refine obeys_locked ?_
  simp only [Code.obeys_ite, Code.obeys_touchAll_of_ne hrule]
  split_ifs
  · trivial
  · trivial
  · trivial
  · exact ⟨hlogged, trivial⟩
  · exact ⟨hglobals, trivial, trivial⟩

/-- The handler of mouse moves. -/
theorem obeys_mouseMoveEvent (hrule : rule ≠ .guarded)
    (hinside : ∀ i, (inside i).Obeys discipline rule []) (m : Members K)
    (controlKey shiftKey altKey : Bool) (elapsedTime : ℚ) :
    (mouseMoveEvent m controlKey shiftKey altKey elapsedTime inside).Obeys discipline rule [] := by
  rw [mouseMoveEvent]
  by_cases hidle : m.idle = true
  · rw [if_pos hidle]
    trivial
  · rw [if_neg hidle]
    cases m.dragged with
    | none => trivial
    | some t =>
      refine ⟨discipline.obeys_acquire_nil rule _, ?_, ?_⟩
      · exact (Code.obeys_touchAll_of_ne hrule _ .done).mpr trivial
      · exact obeys_requestPixmapRefresh hrule hinside m t.2 elapsedTime

/-- That of presses. -/
theorem obeys_mouseButtonPressEvent (hrule : rule ≠ .guarded) (m : Members K) (leftButton : Bool) :
    (mouseButtonPressEvent m leftButton).Obeys discipline rule [] := by
  rw [mouseButtonPressEvent]
  split_ifs
  · trivial
  · trivial
  · rw [Code.obeys_touchAll_of_ne hrule]
    cases m.hovered with
    | none => trivial
    | some t => exact (Code.obeys_touchAll_of_ne hrule _ _).mpr (obeys_locked trivial)

/-- That of the wheel. -/
theorem obeys_wheelEvent (hrule : rule ≠ .guarded)
    (hinside : ∀ i, (inside i).Obeys discipline rule []) (m : Members K) (elapsedTime : ℚ) :
    (wheelEvent m elapsedTime inside).Obeys discipline rule [] := by
  rw [wheelEvent]
  split_ifs
  · trivial
  · cases m.wheelTarget with
    | none => trivial
    | some t =>
      dsimp only
      split_ifs
      · refine ⟨discipline.obeys_acquire_nil rule _, ?_, ?_⟩
        · exact (Code.obeys_touchAll_of_ne hrule _ .done).mpr trivial
        · exact obeys_requestPixmapRefresh hrule hinside m t.2 elapsedTime
      · exact obeys_locked_touchAll hrule _

/-- What a key does to the model that is hovered. -/
theorem obeys_refreshHovered (hrule : rule ≠ .guarded)
    (hinside : ∀ i, (inside i).Obeys discipline rule []) (m : Members K) :
    (refreshHovered m inside).Obeys discipline rule [] := by
  rw [refreshHovered]
  rw [Code.obeys_touchAll_of_ne hrule]
  cases m.hovered with
  | none => trivial
  | some t =>
    refine (Code.obeys_touchAll_of_ne hrule _ _).mpr ?_
    split_ifs
    · exact obeys_refreshPixmap hrule hinside m t.1
    · trivial

/-- The handler of keys. -/
theorem obeys_keyPressEvent (hrule : rule ≠ .guarded)
    (hinside : ∀ i, (inside i).Obeys discipline rule []) (m : Members K) (key : Key) :
    (keyPressEvent m key inside).Obeys discipline rule [] := by
  unfold keyPressEvent
  split_ifs
  · trivial
  · cases key with
    | h | m => exact obeys_refreshHovered hrule hinside m
    | other => trivial

/-- **One call** keeps every rule but that of the guards, if what happens meanwhile does. -/
theorem Call.obeys_path (hrule : rule ≠ .guarded) (call : Call K)
    (hinside : ∀ i, (inside i).Obeys discipline rule []) :
    (call.path inside).Obeys discipline rule [] := by
  cases call with
  | addModel | model | modelBoundsSnapshot | empty | lastRenderedModelImage | cachedModelImage
  | rebindPageView => exact obeys_locked trivial
  | shouldSuppressPageViewRender | getCanvasSize | drawMouseBoundaries | scheduleIBLPrompt
  | noteEventSource | keyEventInOwnWindow | mouseButtonReleaseEvent => trivial
  | renderModel r => exact obeys_RenderModel hrule r
  | clear | cacheRequestSize => exact obeys_locked_touchAll hrule _
  | cacheRequest request unset page => exact obeys_locked_touchAll hrule _
  | cachePage page => exact obeys_locked_touchAll hrule _
  | mouseMoveEvent m controlKey shiftKey altKey elapsedTime =>
    exact obeys_mouseMoveEvent hrule hinside m controlKey shiftKey altKey elapsedTime
  | mouseButtonPressEvent m leftButton => exact obeys_mouseButtonPressEvent hrule m leftButton
  | wheelEvent m elapsedTime => exact obeys_wheelEvent hrule hinside m elapsedTime
  | keyPressEvent m key => exact obeys_keyPressEvent hrule hinside m key
  | handlePresentationWidgetEvent m e =>
    exact obeys_handlePresentationWidgetEvent hrule hinside m e
  | timeout m destroying pageNumber => exact obeys_timeout hrule hinside m destroying pageNumber
  | performIBLDownload r => exact obeys_performIBLDownload hrule hinside r
  | onIBLDownloadReplyFinished destroying pendingDownloadCount modelsWithMissingIBL =>
    exact obeys_onIBLDownloadReplyFinished hrule destroying pendingDownloadCount _

end Rules

/-! ### The rule of the guards -/

section Guards

variable {K : Type} {inside : HandOver → Path}

/-- Under the mutex, anything may be touched. -/
theorem guarded_scope_iff (body next : Path) :
    (Code.scope .modelsMutex body next).Obeys discipline .guarded [] ↔
      next.Obeys discipline .guarded [] := by
  have hbody : body.Obeys discipline .guarded [.modelsMutex] :=
    body.obeys_guarded fun _ => List.mem_cons_self
  rw [Code.obeys_scope, and_iff_right (discipline.obeys_acquire_nil .guarded _),
    and_iff_right hbody]

/-- What runs under the mutex from its first line to its last touches nothing without it. -/
theorem guarded_locked (body : Path) : (locked body).Obeys discipline .guarded [] :=
  (guarded_scope_iff body .done).mpr trivial

/-- A refresh reads `m_Pages` first of all. -/
theorem not_guarded_refreshPixmap (m : Members K) (pageNumber : ℕ) :
    ¬ (refreshPixmap m pageNumber inside).Obeys discipline .guarded [] := fun h =>
  List.not_mem_nil h.1

/-- A refresh breaks the rule exactly when it is due. -/
theorem guarded_requestPixmapRefresh_iff (m : Members K) (pageNumber : ℕ) (elapsedTime : ℚ) :
    (requestPixmapRefresh m pageNumber elapsedTime inside).Obeys discipline .guarded [] ↔
      ¬ minTimeBetweenRefreshes < elapsedTime := by
  rw [requestPixmapRefresh]
  split_ifs with h
  · exact iff_of_false (not_guarded_refreshPixmap m pageNumber) (not_not.mpr h)
  · exact iff_of_true trivial h

/-- So does an event of a presentation that catches up with a refresh. -/
theorem guarded_handlePresentationWidgetEvent_iff (m : Members K) (e : WidgetEvent) :
    (handlePresentationWidgetEvent m e inside).Obeys discipline .guarded [] ↔
      e.catchesUp m = false := by
  unfold handlePresentationWidgetEvent WidgetEvent.catchesUp
  split_ifs with hpresentation hdestroyed hcatches
  · exact iff_of_true trivial (by simp_all)
  · exact iff_of_true trivial (by simp_all)
  · exact iff_of_false (not_guarded_refreshPixmap _ _) (by simp_all)
  · exact iff_of_true trivial (by simp_all)

/-- The prompt follows it if what runs while the question is shown does. -/
theorem guarded_performIBLDownload_iff (r : DownloadReading) :
    (performIBLDownload r inside).Obeys discipline .guarded [] ↔
      (iblNameOK (normalizeIBLName r.imageName) = true →
        (inside .question).Obeys discipline .guarded []) := by
  rw [performIBLDownload]
  split_ifs with hname
  · exact iff_of_true trivial (by simp_all)
  all_goals
    rw [Code.obeys_handOver, and_iff_right (discipline.obeys_handOver_nil .guarded),
      forall_prop_of_true (by simpa using hname)]
    refine and_iff_left ?_
  · exact guarded_locked _
  · trivial
  · exact guarded_locked _
  · trivial

variable [Field K] [LinearOrder K]

/-- Hit testing touches nothing exactly where it has no page to look at. -/
theorem GetPageMouseIsOver_eq_nil_iff (screen : Screen K) :
    GetPageMouseIsOver screen = [] ↔ hitTests screen = false := by
  unfold GetPageMouseIsOver GetActivePageBorders hitTests
  split_ifs
  · unfold GetPresentationPageBorders EnsureCachedRequestSize
    split_ifs <;> simp_all
  · unfold GetPageBordersForVisiblePages ensuredSize EnsureCachedRequestSize
    rcases screen.visiblePageRects with _ | ⟨page, _ | ⟨page', pages⟩⟩ <;> split_ifs <;> simp_all

/-- Where it has none, there are no borders. -/
theorem borders_eq_nil {screen : Screen K} (h : hitTests screen = false) :
    screen.GetActivePageBorders = [] := by
  unfold hitTests at h
  unfold Screen.GetActivePageBorders
  rcases hlast : screen.lastPresentation with _ | size
  · simp only [hlast] at h ⊢
    unfold Screen.GetPageBordersForVisiblePages
    rcases hview : screen.pageView with _ | viewPortSize
    · rfl
    · have hrects : screen.visiblePageRects = [] := by simpa [hview] using h
      simp only [hrects]
  · simp only [hlast] at h ⊢
    unfold Screen.GetPresentationPageBorders
    rcases hwidget : screen.presentationWidget with _ | widget
    · rfl
    · have hpage : screen.viewportPage < 0 := by simpa [hwidget] using h
      exact if_pos hpage

/-- Without a hit test nothing is hovered. -/
theorem hovered_eq_none {m : Members K} (h : hitTests m.screen = false) : m.hovered = none := by
  have hover : m.screen.GetPageMouseIsOver m.mouse = none := by
    rw [Screen.GetPageMouseIsOver, borders_eq_nil h]
    rfl
  rw [Members.hovered, hover]
  rfl

/-- A mouse move breaks it in a drag that refreshes. -/
theorem guarded_mouseMoveEvent_iff (m : Members K) (controlKey shiftKey altKey : Bool)
    (elapsedTime : ℚ) :
    (mouseMoveEvent m controlKey shiftKey altKey elapsedTime inside).Obeys discipline .guarded [] ↔
      (!m.idle && m.dragged.isSome && minTimeBetweenRefreshes < elapsedTime) = false := by
  rw [mouseMoveEvent]
  by_cases hidle : m.idle = true
  · rw [if_pos hidle]
    exact iff_of_true trivial (by simp [hidle])
  · rw [if_neg hidle]
    cases m.dragged with
    | none => exact iff_of_true trivial (by simp)
    | some t =>
      rw [guarded_scope_iff, guarded_requestPixmapRefresh_iff]
      simp [hidle]

/-- A press when it tests for hits. -/
theorem guarded_mouseButtonPressEvent_iff (m : Members K) (leftButton : Bool) :
    (mouseButtonPressEvent m leftButton).Obeys discipline .guarded [] ↔
      (!m.idle && leftButton && hitTests m.screen) = false := by
  rw [mouseButtonPressEvent]
  split_ifs with hidle hleft
  · exact iff_of_true trivial (by simp [hidle])
  · exact iff_of_true trivial (by simp_all)
  · rw [Code.obeys_guarded_touchAll_nil, GetPageMouseIsOver_eq_nil_iff]
    cases hlooks : hitTests m.screen with
    | false =>
      rw [hovered_eq_none hlooks]
      exact iff_of_true ⟨rfl, trivial⟩ (by simp)
    | true => simp_all

/-- The wheel when it turns a model and refreshes. -/
theorem guarded_wheelEvent_iff (m : Members K) (elapsedTime : ℚ) :
    (wheelEvent m elapsedTime inside).Obeys discipline .guarded [] ↔
      (!m.idle && m.turns && minTimeBetweenRefreshes < elapsedTime) = false := by
  unfold wheelEvent Members.turns
  split_ifs with hidle
  · exact iff_of_true trivial (by simp [hidle])
  · cases m.wheelTarget with
    | none => exact iff_of_true trivial (by simp)
    | some t =>
      dsimp only
      split_ifs with hon
      · rw [guarded_scope_iff, guarded_requestPixmapRefresh_iff]
        simp [hidle, hon]
      · exact iff_of_true (guarded_locked _) (by simp [hon])

/-- A key with a meaning when it tests for hits. -/
theorem guarded_keyPressEvent_iff (m : Members K) (key : Key) :
    (keyPressEvent m key inside).Obeys discipline .guarded [] ↔
      (!m.idle && key != .other && hitTests m.screen) = false := by
  have hhovered : (refreshHovered m inside).Obeys discipline .guarded [] ↔
      hitTests m.screen = false := by
    rw [refreshHovered, Code.obeys_guarded_touchAll_nil, GetPageMouseIsOver_eq_nil_iff]
    -- without a page to look at there is no model to refresh either
    refine and_iff_left_of_imp fun hlooks => ?_
    rw [hovered_eq_none hlooks]
    trivial
  unfold keyPressEvent
  split_ifs with hidle
  · exact iff_of_true trivial (by simp [hidle])
  · cases key with
    | h | m => simp [hidle, hhovered]
    | other => exact iff_of_true trivial (by simp)

/-- **One call** keeps the rule of the guards iff it touches nothing without the mutex, and what
happens while it asks keeps the rule. -/
theorem Call.guarded_path_iff (call : Call K) (inside : HandOver → Path) :
    (call.path inside).Obeys discipline .guarded [] ↔
      call.unlocked = false ∧
        ∀ i, call.asks i = true → (inside i).Obeys discipline .guarded [] := by
  -- for every call but the prompt the second condition is empty
  have hasks (h : ∀ i, call.asks i = false) :
      ((call.path inside).Obeys discipline .guarded [] ↔ call.unlocked = false) →
      ((call.path inside).Obeys discipline .guarded [] ↔ call.unlocked = false ∧
        ∀ i, call.asks i = true → (inside i).Obeys discipline .guarded []) := fun hpath => by
    simpa [h] using hpath
  cases call with
  | addModel | model | modelBoundsSnapshot | empty | lastRenderedModelImage | cachedModelImage
  | rebindPageView | clear | cacheRequestSize | cacheRequest | cachePage | renderModel =>
    exact hasks (fun _ => rfl) (iff_of_true (guarded_locked _) rfl)
  | shouldSuppressPageViewRender | getCanvasSize | drawMouseBoundaries | scheduleIBLPrompt
  | noteEventSource | keyEventInOwnWindow | mouseButtonReleaseEvent =>
    exact hasks (fun _ => rfl) (iff_of_true trivial rfl)
  | mouseMoveEvent m controlKey shiftKey altKey elapsedTime =>
    exact hasks (fun _ => rfl)
      (guarded_mouseMoveEvent_iff m controlKey shiftKey altKey elapsedTime)
  | mouseButtonPressEvent m leftButton =>
    exact hasks (fun _ => rfl) (guarded_mouseButtonPressEvent_iff m leftButton)
  | wheelEvent m elapsedTime => exact hasks (fun _ => rfl) (guarded_wheelEvent_iff m elapsedTime)
  | keyPressEvent m key => exact hasks (fun _ => rfl) (guarded_keyPressEvent_iff m key)
  | handlePresentationWidgetEvent m e =>
    exact hasks (fun _ => rfl) (guarded_handlePresentationWidgetEvent_iff m e)
  | timeout m destroying pageNumber =>
    refine hasks (fun _ => rfl) ?_
    cases destroying with
    | true => exact iff_of_true trivial rfl
    | false => exact iff_of_false (not_guarded_refreshPixmap m pageNumber) (by simp [unlocked])
  | onIBLDownloadReplyFinished destroying pendingDownloadCount modelsWithMissingIBL =>
    refine hasks (fun _ => rfl) (iff_of_true ?_ rfl)
    change (Locking.onIBLDownloadReplyFinished _ _ _).Obeys discipline .guarded []
    unfold Locking.onIBLDownloadReplyFinished
    split_ifs
    · trivial
    · exact guarded_locked _
    · trivial
  | performIBLDownload r =>
    refine (guarded_performIBLDownload_iff r).trans ?_
    constructor
    · rintro h
      refine ⟨rfl, fun i hi => ?_⟩
      cases i with
      | question => exact h hi
      | deletePixmap | keyRelease | resize => cases hi
    · rintro ⟨-, h⟩ hname
      exact h .question hname

end Guards

/-! ### Every path -/

section Visits

variable {K : Type} [Field K] [LinearOrder K]

/-- What a thread does that enters the manager by these visits. -/
def trace (visits : Visits (Call K) HandOver) : List (Action Mutex Guarded) :=
  (visits.code fun call inside => call.path inside).trace

/-- **On every path** `m_ModelsMutex` is not taken by a thread that holds it, it is not held where
control is handed over, and it is not waited for under `v3dRenderGlobalsMutex`. -/
theorem along_of_ne_guarded {rule : Rule} (hrule : rule ≠ .guarded)
    (visits : Visits (Call K) HandOver) :
    Along hold (discipline.Obeys rule) [] (trace visits) := by
  rw [trace, Code.along_trace_iff]
  exact visits.obeys fun call inside hinside => call.obeys_path hrule hinside

/-- **The lock discipline**: a path keeps it iff none of its calls, with those that are made while
it asks, touches something without the mutex. -/
theorem keepsDiscipline_iff (visits : Visits (Call K) HandOver) :
    discipline.Disciplined (trace visits) ↔
      visits.Every (fun call => call.unlocked = false) fun call i => call.asks i = true := by
  have hguarded : Along hold (discipline.Obeys .guarded) [] (trace visits) ↔
      visits.Every (fun call => call.unlocked = false) fun call i => call.asks i = true := by
    rw [trace, Code.along_trace_iff]
    exact visits.obeys_iff fun call inside => call.guarded_path_iff inside
  rw [← hguarded]
  constructor
  · exact fun h => h .guarded
  · intro h rule
    by_cases hrule : rule = .guarded
    · exact hrule ▸ h
    · exact along_of_ne_guarded hrule visits

/-- A page whose only model fills it, shown whole in the page view, with the mouse in its middle. -/
def shownPage : Members ℚ where
  models := [[⟨⟨0, 0⟩, ⟨1, 1⟩⟩]]
  screen :=
    { pageView := some ⟨300, 300⟩
      devicePixelRatio := 1
      visiblePageRects := [⟨0, ⟨0, 0, 1, 1⟩⟩]
      viewportPage := 0
      presentationWidget := none
      lastPresentation := none
      cachedRequestSizes := [(300, 300)]
      presentationRequestSizes := [] }
  dragged := none
  mousePosition := (150, 150)
  windows :=
    { pages := [true]
      pageViewObserver := true
      pageViewVisible := true
      pageViewWindow := true
      pageViewScreen := some 0
      presentationScreen := none
      viewportPage := 0 }

/-- A click on the model touches the request sizes without the mutex. -/
theorem not_keepsDiscipline_press :
    ¬ discipline.Disciplined
      (trace (.enter (.mouseButtonPressEvent shownPage true) (fun _ => .done) .done)) := fun h =>
  absurd (h .guarded) (by decide +kernel)

end Visits

end Locking

end OkularV3d
