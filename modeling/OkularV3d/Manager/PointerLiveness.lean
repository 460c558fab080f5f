import OkularV3d.Lib.Runs
import OkularV3d.Manager.ModelImages

/-!
# Pointers to objects owned elsewhere

A `V3dModelManager` keeps raw pointers to objects it does not own: the widget that delivered the
last mouse event (`m_LastEventSource`), Okular's pages (`m_Pages`), a model inside one of its own
vectors (`m_ActiveModel`), and the page view's observer (`m_PageViewObserver`, which is only ever a
key of a page's maps and never dereferenced). Widgets are destroyed by Qt, pages by
`Document::closeDocument`; the manager outlives both.

Every handler below lists the objects it dereferences, each with whether it is alive at that moment.
The geometry of the windows is an input: which page and which model the mouse is over, and which
screens the windows are on. `usesAlive_along_iff` says when a run only ever uses live objects.

* `State` keeps which widgets and pages exist beside the manager's pointers, so that `alive` can be
  asked of each `Target`; a `Use` is the answer at one dereference.
* `handle` is one event of the main thread, with an `Outcome` for each handler, and `uses` what the
  whole event dereferences, the refresh it ends in included.
* `Sound` is what every event keeps (`sound_step`): only the last event source and the cached pages
  can dangle.
* `forall_refreshPixmap` and `forall_handle_uses` say when the two parts of an event are safe;
  `Careful` is their conjunction, and `usesAlive_iff` the result for one event.
-/

namespace OkularV3d

open Runs

namespace Pointers

open ImageCache (Priority)
open Jagged (grow)

/-- A widget that delivers mouse events: the viewport of a `PageView`, or a `PresentationWidget`.
No two widgets have the same number. -/
structure Widget where
  id : Nat
  isPresentation : Bool
  deriving DecidableEq, Repr

/-- The storage of `m_Models[page]`: the number of the allocation, and how many models it holds. -/
structure Block where
  id : Nat
  size : Nat
  deriving DecidableEq, Repr

/-- What is dereferenced. -/
inductive Target where
  | widget (w : Widget)
  | model (block index : Nat)
  | page (p : Nat)
  | null
  deriving DecidableEq, Repr

/-- A dereferenced pointer, and whether the object was alive. -/
structure Use where
  target : Target
  alive : Bool
  deriving DecidableEq, Repr

/-- What `refreshPixmap` finds of the windows: whether the page view is visible, and whether it and
the presentation are on different screens. -/
structure Screens where
  visible : Bool
  dualScreen : Bool
  deriving DecidableEq, Repr

/-- The objects that are alive, and the pointers of a manager.

* `widgets`, `documentPages`, `created`: the live widgets, the pages of the open document (none when
  it is closed), and how many objects were made so far.
* `models`, `pages`, `pageViewObserver`, `lastEventSource`, `activeModel`, `activeModelPage`,
  `dragging`: the members of these names.
* `pageView`, `presentationWidget`: the two `QPointer`s, which Qt resets.
* `sourceDestroyed`: whether the widget of the last mouse event was destroyed since. It is history:
  the source has no such member and nothing below reads it. -/
structure State where
  widgets : List Widget
  documentPages : List Nat
  created : Nat
  models : List Block
  pages : List (Option Nat)
  pageViewObserver : Option Nat
  lastEventSource : Option Widget
  activeModel : Option (Nat × Nat)
  activeModelPage : Option Nat
  dragging : Bool
  pageView : Option Widget
  presentationWidget : Option Widget
  sourceDestroyed : Bool
  deriving DecidableEq

/-- What a handler does: the state it leaves, the pointers it dereferences, and the call of
`refreshPixmap` it ends with. -/
structure Outcome where
  state : State
  uses : List Use
  refresh : Option (Nat × Screens)

/-- An event of the main thread.

* `createWidget isPresentation`: a page view or a presentation window is made.
* `show w`: its `Show` event.
* `destroyWidget w recognised closingDown page screens`: it is destroyed; `recognised` is what
  `inherits` answers while it is, `page` is the document's current page.
* `bindPageView w`: `m_PageView` is resolved, in the constructor or by `rebindPageView`.
* `mousePress`, `mouseMove`, `mouseRelease`, `wheel`: mouse events delivered by `source`; `hovered`
  and `hit` are the page and the model under the mouse, and `refresh` is what `requestPixmapRefresh`
  finds unless it is too soon. `standalone` is whether the only model fills the page.
* `key hovered hit screens`: `H` or `M` pressed in one of the document's own windows.
* `request page priority observer`: `CacheRequest`.
* `timer page screens`: a deferred refresh.
* `loadDocument pageCount models cachesPage`: another document is loaded, with this many pages and
  models on these pages; the generator of `.v3d` files caches its page at once.
* `swapBackingFile models`: the document is saved and read again, and keeps its pages.
* `closeDocument`: Okular deletes its pages. -/
inductive Event where
  | createWidget (isPresentation : Bool)
  | show (w : Widget)
  | destroyWidget (w : Widget) (recognised closingDown : Bool) (page : Option Nat)
      (screens : Screens)
  | bindPageView (w : Widget)
  | mousePress (source : Widget) (leftButton : Bool) (hovered hit : Option Nat)
  | mouseMove (source : Widget) (refresh : Option Screens)
  | mouseRelease (source : Widget) (leftButton : Bool)
  | wheel (source : Widget) (standalone onModel : Bool) (refresh : Option Screens)
  | key (hovered hit : Option Nat) (screens : Screens)
  | request (page : Nat) (priority : Priority) (observer : Nat)
  | timer (page : Nat) (screens : Screens)
  | loadDocument (pageCount : Nat) (models : List Nat) (cachesPage : Bool)
  | swapBackingFile (models : List Nat)
  | closeDocument
  deriving DecidableEq, Repr

namespace State

/-- A manager as it is constructed, before anything else. -/
def init : State :=
  { widgets := []
    documentPages := []
    created := 0
    models := []
    pages := []
    pageViewObserver := none
    lastEventSource := none
    activeModel := none
    activeModelPage := none
    dragging := false
    pageView := none
    presentationWidget := none
    sourceDestroyed := false }

/-- Whether an object is alive. -/
def alive (s : State) : Target → Bool
  | .widget w => s.widgets.contains w
  | .model block index => s.models.any fun b => b.id = block ∧ index < b.size
  | .page p => s.documentPages.contains p
  | .null => false

/-- A dereferenced pointer. -/
def use (s : State) (t : Target) : Use := ⟨t, s.alive t⟩

/-- Whether a document is open: its pages, its visible rectangles and its viewport are there. -/
def documentOpen (s : State) : Bool := !s.documentPages.isEmpty

/-! ### The manager's own vectors -/

/-- `Clear`. -/
def Clear (s : State) : State :=
  { s with
    models := []
    pages := []
    lastEventSource := none
    activeModel := none
    activeModelPage := none
    dragging := false
    sourceDestroyed := false }

/-- `AddModel`: the models of the page are taken to move. -/
def AddModel (s : State) (page : Nat) : State :=
  let models := grow ⟨s.created, 0⟩ (page + 1) s.models
  { s with
    models := models.modify page fun b => ⟨s.created, b.size + 1⟩
    created := s.created + 1 }

/-- `cachePageUnlocked`. -/
def cachePage (s : State) (page p : Nat) : State :=
  { s with pages := (grow none (page + 1) s.pages).set page (some p) }

/-- `CacheRequest` for a page of the open document, as far as pointers go. -/
def CacheRequest (s : State) (page p : Nat) (priority : Priority) (observer : Nat) : State :=
  let s := if priority = .pageView then { s with pageViewObserver := some observer } else s
  match priority with
  | .pageView | .pageViewPreload | .presentation | .presentationPreload => s.cachePage page p
  | .thumbnails | .thumbnailsPreload | .other _ => s

/-- `loadDocument`: the manager is cleared, the document gets new pages, and the models are
added. -/
def loadDocument (s : State) (pageCount : Nat) (models : List Nat) (cachesPage : Bool) : State :=
  let s := s.Clear
  let documentPages := (List.range pageCount).map (s.created + ·)
  let s := models.foldl AddModel { s with documentPages, created := s.created + pageCount }
  match documentPages.head? with
  | some p => if cachesPage then s.cachePage 0 p else s
  | none => s

/-! ### What is dereferenced -/

/-- `m_LastEventSource && m_LastEventSource->inherits("PresentationWidget")`. -/
def sourceUse (s : State) : List Use :=
  (s.lastEventSource.map fun w => s.use (.widget w)).toList

/-- `GetActivePageBorders`. -/
def GetActivePageBorders (s : State) : List Use := s.sourceUse

/-- `GetActiveViewportSize`. -/
def GetActiveViewportSize (s : State) : List Use := s.sourceUse

/-- `GetPageMouseIsOver`. -/
def GetPageMouseIsOver (s : State) : List Use := s.GetActivePageBorders ++ s.GetActiveViewportSize

/-- `GetNormalizedPositionRelativeToPage`. -/
def GetNormalizedPositionRelativeToPage (s : State) : List Use :=
  s.GetActivePageBorders ++ s.sourceUse

/-- `*m_ActiveModel`. -/
def activeUse (s : State) : Use :=
  match s.activeModel with
  | some (block, index) => s.use (.model block index)
  | none => s.use .null

/-- Whether `refreshPixmap` deletes the page view's pixmap of a cached page. -/
def deletesPixmap (s : State) (screens : Screens) : Bool :=
  let presentationActive := s.presentationWidget.isSome
  let interactingWithPresentation :=
    presentationActive && s.lastEventSource.any fun w => w.isPresentation
  let dualScreen := !(presentationActive && s.pageView.isSome) || screens.dualScreen
  let refreshPageView :=
    s.pageView.isSome && screens.visible && (!interactingWithPresentation || dualScreen)
  (refreshPageView || !presentationActive) && s.pageViewObserver.isSome

/-- `m_Pages[page]`, if it is set. -/
def cachedPage (s : State) (page : Nat) : Option Nat := (s.pages[page]?).join

/-- `refreshPixmap`. -/
def refreshPixmap (s : State) (page : Nat) (screens : Screens) : List Use :=
  match s.cachedPage page with
  | none => []
  | some p =>
    (if s.presentationWidget.isSome then s.sourceUse else []) ++
      if s.deletesPixmap screens then [s.use (.page p)] else []

/-! ### The handlers -/

/-- `noteEventSource`. -/
def noteEventSource (s : State) (w : Widget) : State :=
  { s with lastEventSource := some w, sourceDestroyed := false }

/-- `m_Models.size() == 0 || !m_PageView`: the handlers have nothing to do. -/
def idle (s : State) : Bool := s.models.isEmpty || s.pageView.isNone

/-- `mouseMoveEvent`. -/
def mouseMoveEvent (s : State) (refresh : Option Screens) : Outcome :=
  if s.idle || !s.dragging then ⟨s, [], none⟩
  else
    { state := s
      uses := s.GetNormalizedPositionRelativeToPage ++ s.GetNormalizedPositionRelativeToPage ++
        [s.activeUse] ++ s.GetActiveViewportSize
      refresh := do (← s.activeModelPage, ← refresh) }

/-- The page the mouse is over and its models; a closed document shows no page. -/
def overModels (s : State) (hovered : Option Nat) : Option (Nat × Block) := do
  let page ← hovered
  let block ← s.models[page]?
  if s.documentOpen then some (page, block) else none

/-- The model the mouse is over: its page, and the place it is at. -/
def hitModel (s : State) (hovered hit : Option Nat) : Option (Nat × Nat × Nat) := do
  let (page, block) ← s.overModels hovered
  let i ← hit
  if i < block.size then some (page, block.id, i) else none

/-- `mouseButtonPressEvent`. -/
def mouseButtonPressEvent (s : State) (leftButton : Bool) (hovered hit : Option Nat) : Outcome :=
  if s.idle || !leftButton then ⟨s, [], none⟩
  else
    let uses := s.GetPageMouseIsOver ++ s.sourceUse ++
      if (s.overModels hovered).isSome then s.GetNormalizedPositionRelativeToPage else []
    match s.hitModel hovered hit with
    | none => ⟨s, uses, none⟩
    | some (page, block, i) =>
      { state :=
          { s with dragging := true, activeModel := some (block, i), activeModelPage := some page }
        uses
        refresh := none }

/-- `mouseButtonReleaseEvent`. -/
def mouseButtonReleaseEvent (s : State) (leftButton : Bool) : Outcome :=
  if s.idle || !leftButton then ⟨s, [], none⟩
  else ⟨{ s with dragging := false, activeModel := none, activeModelPage := none }, [], none⟩

/-- The model the wheel turns, and its page: the only model of the file, or the one that is
dragged. -/
def wheelTarget (s : State) (standalone : Bool) : Option (Use × Nat) :=
  match s.dragging, s.activeModel, s.activeModelPage with
  | true, some (block, i), page => page.map fun page => (s.use (.model block i), page)
  | _, _, _ =>
    match s.models with
    | [⟨block, 1⟩] => if standalone then some (s.use (.model block 0), 0) else none
    | _ => none

/-- `wheelEvent`. -/
def wheelEvent (s : State) (standalone onModel : Bool) (refresh : Option Screens) : Outcome :=
  if s.idle then ⟨s, [], none⟩
  else
    match s.wheelTarget standalone with
    | none => ⟨s, [], none⟩
    | some (target, page) =>
      { state := s
        uses := s.GetNormalizedPositionRelativeToPage ++ [target]
        refresh := if onModel then refresh.map fun screens => (page, screens) else none }

/-- `keyPressEvent` for `H` and `M`. A key notes no source. -/
def keyPressEvent (s : State) (hovered hit : Option Nat) (screens : Screens) : Outcome :=
  if s.idle then ⟨s, [], none⟩
  else
    { state := s
      uses := s.GetPageMouseIsOver ++
        if (s.overModels hovered).isSome then s.GetNormalizedPositionRelativeToPage else []
      refresh := (s.hitModel hovered hit).map fun (page, _, _) => (page, screens) }

/-- A widget is destroyed: Qt resets the `QPointer`s to it. -/
def dropWidget (s : State) (w : Widget) : State :=
  { s with
    widgets := s.widgets.filter (· ≠ w)
    pageView := s.pageView.filter (· ≠ w)
    presentationWidget := s.presentationWidget.filter (· ≠ w)
    sourceDestroyed := s.sourceDestroyed || s.lastEventSource == some w }

/-- `handlePresentationWidgetEvent` for a `Destroy` event. -/
def presentationDestroyed (s : State) (closingDown : Bool) (page : Option Nat) (screens : Screens) :
    Outcome :=
  { state := { s with presentationWidget := none }
    uses := []
    refresh :=
      if !closingDown && s.pageView.isSome && screens.visible && s.documentOpen then
        page.map fun page => (page, screens)
      else none }

/-- What one event does. Qt only delivers the events of live widgets. -/
def handle (s : State) : Event → Outcome
  | .createWidget isPresentation =>
    ⟨{ s with widgets := ⟨s.created, isPresentation⟩ :: s.widgets, created := s.created + 1 }, [],
      none⟩
  | .show w =>
    if w ∈ s.widgets ∧ w.isPresentation then ⟨{ s with presentationWidget := some w }, [], none⟩
    else ⟨s, [], none⟩
  | .destroyWidget w recognised closingDown page screens =>
    if w ∈ s.widgets then
      if w.isPresentation && recognised then
        (s.dropWidget w).presentationDestroyed closingDown page screens
      else ⟨s.dropWidget w, [], none⟩
    else ⟨s, [], none⟩
  | .bindPageView w =>
    if w ∈ s.widgets then ⟨{ s with pageView := some w }, [], none⟩ else ⟨s, [], none⟩
  | .mousePress source leftButton hovered hit =>
    if source ∈ s.widgets then
      (s.noteEventSource source).mouseButtonPressEvent leftButton hovered hit
    else ⟨s, [], none⟩
  | .mouseMove source refresh =>
    if source ∈ s.widgets then (s.noteEventSource source).mouseMoveEvent refresh else ⟨s, [], none⟩
  | .mouseRelease source leftButton =>
    if source ∈ s.widgets then (s.noteEventSource source).mouseButtonReleaseEvent leftButton
    else ⟨s, [], none⟩
  | .wheel source standalone onModel refresh =>
    if source ∈ s.widgets then
      (s.noteEventSource source).wheelEvent standalone onModel refresh
    else ⟨s, [], none⟩
  | .key hovered hit screens => s.keyPressEvent hovered hit screens
  | .request page priority observer =>
    match s.documentPages[page]? with
    | some p => ⟨s.CacheRequest page p priority observer, [], none⟩
    | none => ⟨s, [], none⟩
  | .timer page screens => ⟨s, [], some (page, screens)⟩
  | .loadDocument pageCount models cachesPage =>
    ⟨s.loadDocument pageCount models cachesPage, [], none⟩
  | .swapBackingFile models => ⟨models.foldl AddModel s.Clear, [], none⟩
  | .closeDocument => ⟨{ s with documentPages := [] }, [], none⟩

/-- One event. -/
def step (s : State) (e : Event) : State := (s.handle e).state

/-- Every pointer an event dereferences. -/
def uses (s : State) (e : Event) : List Use :=
  (s.handle e).uses ++
    match (s.handle e).refresh with
    | some (page, screens) => (s.handle e).state.refreshPixmap page screens
    | none => []

/-- **Every object an event uses is alive.** -/
def UsesAlive (s : State) (e : Event) : Prop := ∀ u ∈ s.uses e, u.alive = true

/-- The condition on a call of `refreshPixmap` that finds its page cached: with a presentation
showing, the widget of the last mouse event is still there; and where the pixmap is deleted, the
document is open. -/
def RefreshSafe (s : State) (page : Nat) (screens : Screens) : Prop :=
  s.cachedPage page ≠ none →
    (s.presentationWidget.isSome → s.sourceDestroyed = false) ∧
      (s.deletesPixmap screens → s.documentOpen = true)

/-- The condition on a key that is looked at: the widget of the last mouse event is still there. -/
def KeySafe (s : State) : Event → Prop
  | .key .. => s.idle = false → s.sourceDestroyed = false
  | _ => True

/-- The condition on an event. -/
def Careful (s : State) (e : Event) : Prop :=
  s.KeySafe e ∧ ∀ page screens, (s.handle e).refresh = some (page, screens) →
    (s.handle e).state.RefreshSafe page screens

/-! ### The invariant -/

/-- What holds in every state. -/
structure Sound (s : State) : Prop where
  fresh : ∀ w ∈ s.widgets, w.id < s.created
  source : ∀ w, s.lastEventSource = some w →
    w.id < s.created ∧ (w ∈ s.widgets ↔ s.sourceDestroyed = false)
  noSource : s.lastEventSource = none → s.sourceDestroyed = false
  active : ∀ block index, s.activeModel = some (block, index) →
    s.alive (.model block index) = true
  dragging : s.dragging = true → s.activeModel.isSome = true
  cached : ∀ page p, s.cachedPage page = some p → s.documentOpen = true → p ∈ s.documentPages

/-- A new manager has no pointer that could dangle. -/
theorem sound_init : init.Sound where
  fresh _ h := absurd h List.not_mem_nil
  source _ h := nomatch h
  noSource _ := rfl
  active _ _ h := nomatch h
  dragging h := nomatch h
  cached _ _ h := nomatch h

section Uses

variable {s : State}

/-- The source is alive when it was not destroyed. -/
theorem forall_sourceUse (hs : s.Sound) :
    (∀ u ∈ s.sourceUse, u.alive = true) ↔ s.sourceDestroyed = false := by
  unfold sourceUse
  cases hsource : s.lastEventSource with
  | none =>
    have := hs.noSource hsource
    simp [this]
  | some w =>
    have hw := (hs.source w hsource).2
    simp [use, alive, hw]

/-- **Hit testing uses the last event source**, and no pointer else that could dangle. -/
theorem forall_GetPageMouseIsOver (hs : s.Sound) :
    (∀ u ∈ s.GetPageMouseIsOver, u.alive = true) ↔ s.sourceDestroyed = false := by
  have h := forall_sourceUse hs
  simp only [GetPageMouseIsOver, GetActivePageBorders,
    GetActiveViewportSize, List.forall_mem_append,
    h, and_self]

/-- So does the position on a page. -/
theorem forall_GetNormalizedPosition (hs : s.Sound) :
    (∀ u ∈ s.GetNormalizedPositionRelativeToPage, u.alive = true) ↔ s.sourceDestroyed = false := by
  have h := forall_sourceUse hs
  simp only [GetNormalizedPositionRelativeToPage, GetActivePageBorders, List.forall_mem_append, h,
    and_self]

/-- The model that is dragged is where it was. -/
theorem alive_activeUse (hs : s.Sound) (hdragging : s.dragging = true) :
    s.activeUse.alive = true := by
  obtain ⟨⟨block, index⟩, hactive⟩ := Option.isSome_iff_exists.mp (hs.dragging hdragging)
  unfold activeUse
  rw [hactive]
  exact hs.active block index hactive

/-- The model the wheel turns is there. -/
theorem alive_wheelTarget (hs : s.Sound) {standalone : Bool} {target : Use} {page : Nat}
    (h : s.wheelTarget standalone = some (target, page)) : target.alive = true := by
  unfold wheelTarget at h
  split at h
  · rename_i block i _ hactive
    obtain ⟨_, _, heq⟩ := Option.map_eq_some_iff.mp h
    obtain ⟨rfl, -⟩ := Prod.mk.inj heq
    exact hs.active _ _ hactive
  · split at h
    · rename_i block hmodels
      split_ifs at h
      obtain ⟨rfl, -⟩ := Prod.mk.inj (Option.some.inj h)
      simp [use, alive, hmodels]
    · exact nomatch h

/-- **`refreshPixmap` uses live objects** exactly when its condition holds. -/
theorem forall_refreshPixmap (hs : s.Sound) (page : Nat) (screens : Screens) :
    (∀ u ∈ s.refreshPixmap page screens, u.alive = true) ↔ s.RefreshSafe page screens := by
  unfold refreshPixmap RefreshSafe
  cases hcached : s.cachedPage page with
  | none => simp
  | some p =>
    have hpage : (s.use (.page p)).alive = true ↔ s.documentOpen = true := by
      have hmem := hs.cached page p hcached
      simp only [use, alive, List.contains_iff_mem]
      refine ⟨fun h => ?_, hmem⟩
      unfold documentOpen
      cases hpages : s.documentPages with
      | nil => exact absurd (hpages ▸ h) List.not_mem_nil
      | cons => rfl
    have hsource := forall_sourceUse hs
    simp only [List.forall_mem_append, ne_eq, reduceCtorEq, not_false_eq_true, forall_const]
    refine and_congr ?_ ?_
    · split_ifs with h
      · rw [hsource]
        simp [h]
      · simp [h]
    · split_ifs with h
      · simp [hpage, h]
      · simp [h]

end Uses

/-! ### What the handlers use -/

section Handlers

variable {s : State}

/-- An event comes from a widget that is there. -/
theorem Sound.noteEventSource (hs : s.Sound) {w : Widget} (hw : w ∈ s.widgets) :
    (s.noteEventSource w).Sound where
  fresh := hs.fresh
  source w' h := by
    obtain rfl := Option.some.inj h
    exact ⟨hs.fresh w hw, iff_of_true hw rfl⟩
  noSource _ := rfl
  active := hs.active
  dragging := hs.dragging
  cached := hs.cached

/-- A mouse move uses pointers that are alive, unless the last source is destroyed. -/
theorem uses_mouseMoveEvent (hs : s.Sound) (hsource : s.sourceDestroyed = false)
    (refresh : Option Screens) : ∀ u ∈ (s.mouseMoveEvent refresh).uses, u.alive = true := by
  unfold mouseMoveEvent
  split_ifs with hidle
  · simp
  · have hdragging : s.dragging = true := by
      simp only [Bool.or_eq_true, Bool.not_eq_true', not_or, Bool.not_eq_false] at hidle
      exact hidle.2
    have hactive := alive_activeUse hs hdragging
    have hborders := (forall_sourceUse hs).mpr hsource
    have hposition := (forall_GetNormalizedPosition hs).mpr hsource
    simp only [List.forall_mem_append, List.forall_mem_singleton]
    exact ⟨⟨⟨hposition, hposition⟩, hactive⟩, hborders⟩

/-- So does a press. -/
theorem uses_mouseButtonPressEvent (hs : s.Sound) (hsource : s.sourceDestroyed = false)
    (leftButton : Bool) (hovered hit : Option Nat) :
    ∀ u ∈ (s.mouseButtonPressEvent leftButton hovered hit).uses, u.alive = true := by
  have hover := (forall_GetPageMouseIsOver hs).mpr hsource
  have hlog := (forall_sourceUse hs).mpr hsource
  have hposition := (forall_GetNormalizedPosition hs).mpr hsource
  have huses : ∀ u ∈ s.GetPageMouseIsOver ++ s.sourceUse ++
      (if (s.overModels hovered).isSome then s.GetNormalizedPositionRelativeToPage else []),
      u.alive = true := by
    simp only [List.forall_mem_append]
    refine ⟨⟨hover, hlog⟩, ?_⟩
    split_ifs
    · exact hposition
    · exact fun u h => absurd h List.not_mem_nil
  unfold mouseButtonPressEvent
  by_cases hidle : (s.idle || !leftButton) = true
  · rw [if_pos hidle]
    simp
  · rw [if_neg hidle]
    cases s.hitModel hovered hit with
    | none => exact huses
    | some => exact huses

/-- So does the wheel. -/
theorem uses_wheelEvent (hs : s.Sound) (hsource : s.sourceDestroyed = false)
    (standalone onModel : Bool) (refresh : Option Screens) :
    ∀ u ∈ (s.wheelEvent standalone onModel refresh).uses, u.alive = true := by
  unfold wheelEvent
  by_cases hidle : s.idle = true
  · rw [if_pos hidle]
    simp
  · rw [if_neg hidle]
    cases htarget : s.wheelTarget standalone with
    | none => simp
    | some target =>
      have hpair : s.wheelTarget standalone = some (target.1, target.2) := htarget
      have halive := alive_wheelTarget hs hpair
      have hposition := (forall_GetNormalizedPosition hs).mpr hsource
      simp only [List.forall_mem_append, List.forall_mem_singleton]
      exact ⟨hposition, halive⟩

/-- A key is the one event that asks a source it did not note itself. -/
theorem uses_keyPressEvent (hs : s.Sound) (hovered hit : Option Nat) (screens : Screens) :
    (∀ u ∈ (s.keyPressEvent hovered hit screens).uses, u.alive = true) ↔
      (s.idle = false → s.sourceDestroyed = false) := by
  have hover := forall_GetPageMouseIsOver hs
  have hposition := forall_GetNormalizedPosition hs
  unfold keyPressEvent
  cases hidle : s.idle with
  | true => simp
  | false =>
    simp only [Bool.false_eq_true, if_false, List.forall_mem_append, hover, forall_const]
    refine and_iff_left_of_imp fun hsource => ?_
    split_ifs
    · exact hposition.mpr hsource
    · exact fun u h => absurd h List.not_mem_nil

/-- **Before any refresh**, an event uses live objects exactly when it is no key or finds the widget
of the last mouse event. -/
theorem forall_handle_uses (hs : s.Sound) (e : Event) :
    (∀ u ∈ (s.handle e).uses, u.alive = true) ↔ s.KeySafe e := by
  -- every event that notes its source first finds it alive; only a key does not
  have hnothing : ∀ state refresh, ∀ u ∈ (⟨state, [], refresh⟩ : Outcome).uses, u.alive = true :=
    fun _ _ u h => absurd h List.not_mem_nil
  cases e with
  | key hovered hit screens => exact uses_keyPressEvent hs hovered hit screens
  | mousePress source leftButton hovered hit =>
    refine iff_of_true ?_ trivial
    rw [handle]
    split_ifs with hw
    · exact uses_mouseButtonPressEvent (hs.noteEventSource hw) rfl leftButton hovered hit
    · exact hnothing _ _
  | mouseMove source refresh =>
    refine iff_of_true ?_ trivial
    rw [handle]
    split_ifs with hw
    · exact uses_mouseMoveEvent (hs.noteEventSource hw) rfl refresh
    · exact hnothing _ _
  | mouseRelease source leftButton =>
    refine iff_of_true ?_ trivial
    rw [handle, mouseButtonReleaseEvent]
    split_ifs <;> exact hnothing _ _
  | wheel source standalone onModel refresh =>
    refine iff_of_true ?_ trivial
    rw [handle]
    split_ifs with hw
    · exact uses_wheelEvent (hs.noteEventSource hw) rfl standalone onModel refresh
    · exact hnothing _ _
  | destroyWidget w recognised closingDown page screens =>
    refine iff_of_true ?_ trivial
    rw [handle]
    split_ifs <;> exact hnothing _ _
  | request page priority observer =>
    refine iff_of_true ?_ trivial
    rw [handle]
    cases s.documentPages[page]? <;> exact hnothing _ _
  | «show» w =>
    refine iff_of_true ?_ trivial
    rw [handle]
    split_ifs <;> exact hnothing _ _
  | bindPageView w =>
    refine iff_of_true ?_ trivial
    rw [handle]
    split_ifs <;> exact hnothing _ _
  | createWidget | timer | loadDocument | swapBackingFile | closeDocument =>
    exact iff_of_true (hnothing _ _) trivial

end Handlers

/-! ### What the handlers leave -/

section Step

variable {s : State}

/-- A press leaves the members sound. -/
theorem sound_mouseButtonPressEvent (hs : s.Sound) (leftButton : Bool) (hovered hit : Option Nat) :
    (s.mouseButtonPressEvent leftButton hovered hit).state.Sound := by
  unfold mouseButtonPressEvent
  by_cases hidle : (s.idle || !leftButton) = true
  · rw [if_pos hidle]
    exact hs
  rw [if_neg hidle]
  cases hhit : s.hitModel hovered hit with
  | none => exact hs
  | some place =>
    obtain ⟨page, block, i⟩ := place
    obtain ⟨⟨page', b⟩, hover, hhit⟩ := Option.bind_eq_some_iff.mp hhit
    obtain ⟨i', -, hhit⟩ := Option.bind_eq_some_iff.mp hhit
    split_ifs at hhit with hlt
    obtain ⟨-, rfl, rfl⟩ := by simpa using hhit
    obtain ⟨page'', -, hover⟩ := Option.bind_eq_some_iff.mp hover
    obtain ⟨b', hb', hover⟩ := Option.bind_eq_some_iff.mp hover
    split_ifs at hover
    obtain ⟨-, rfl⟩ := by simpa using hover
    refine ⟨hs.fresh, hs.source, hs.noSource, ?_, fun _ => rfl, hs.cached⟩
    intro block index h
    obtain ⟨rfl, rfl⟩ := Prod.mk.inj (Option.some.inj h)
    simp only [alive, List.any_eq_true, decide_eq_true_eq]
    exact ⟨b', List.mem_of_getElem? hb', rfl, hlt⟩

theorem sound_mouseButtonReleaseEvent (hs : s.Sound) (leftButton : Bool) :
    (s.mouseButtonReleaseEvent leftButton).state.Sound := by
  unfold mouseButtonReleaseEvent
  split_ifs
  · exact hs
  · exact ⟨hs.fresh, hs.source, hs.noSource, fun _ _ h => (nomatch h), fun h => (nomatch h),
      hs.cached⟩

/-- So does a mouse move. -/
theorem sound_mouseMoveEvent (hs : s.Sound) (refresh : Option Screens) :
    (s.mouseMoveEvent refresh).state.Sound := by
  unfold mouseMoveEvent
  split_ifs <;> exact hs

/-- So does the wheel. -/
theorem sound_wheelEvent (hs : s.Sound) (standalone onModel : Bool) (refresh : Option Screens) :
    (s.wheelEvent standalone onModel refresh).state.Sound := by
  unfold wheelEvent
  by_cases hidle : s.idle = true
  · rw [if_pos hidle]
    exact hs
  · rw [if_neg hidle]
    cases s.wheelTarget standalone <;> exact hs

/-- So does a key. -/
theorem sound_keyPressEvent (hs : s.Sound) (hovered hit : Option Nat) (screens : Screens) :
    (s.keyPressEvent hovered hit screens).state.Sound := by
  unfold keyPressEvent
  split_ifs <;> exact hs

/-- The two `QPointer`s carry no promise. -/
theorem Sound.withPointers (hs : s.Sound) (pageView presentationWidget : Option Widget) :
    ({ s with pageView, presentationWidget } : State).Sound :=
  ⟨hs.fresh, hs.source, hs.noSource, hs.active, hs.dragging, hs.cached⟩

/-- A widget that goes is forgotten, but for the last event source. -/
theorem sound_dropWidget (hs : s.Sound) (w : Widget) : (s.dropWidget w).Sound := by
  refine ⟨fun w' hw' => hs.fresh w' (List.mem_of_mem_filter hw'), fun w' hsource => ?_,
    fun hsource => ?_, hs.active, hs.dragging, hs.cached⟩
  · obtain ⟨hfresh, hiff⟩ := hs.source w' hsource
    refine ⟨hfresh, ?_⟩
    simp only [dropWidget] at hsource ⊢
    rw [hsource, List.mem_filter, hiff]
    by_cases heq : w' = w
    · subst heq
      simp
    · have hne : ¬ some w' = some w := fun h => heq (Option.some.inj h)
      simp [heq]
  · simp only [dropWidget] at hsource ⊢
    rw [hs.noSource hsource, hsource]
    rfl

/-- A widget that comes is not yet known to the manager. -/
theorem sound_createWidget (hs : s.Sound) (isPresentation : Bool) :
    (s.handle (.createWidget isPresentation)).state.Sound := by
  refine ⟨fun w hw => ?_, fun w hsource => ?_, hs.noSource, hs.active, hs.dragging, hs.cached⟩
  · rcases List.mem_cons.mp hw with rfl | hw
    · exact Nat.lt_succ_self _
    · exact (hs.fresh w hw).trans (Nat.lt_succ_self _)
  · obtain ⟨hfresh, hiff⟩ := hs.source w hsource
    have hne : w ≠ ⟨s.created, isPresentation⟩ := by
      rintro rfl
      exact absurd hfresh (Nat.lt_irrefl _)
    refine ⟨hfresh.trans (Nat.lt_succ_self _), Iff.trans ?_ hiff⟩
    exact ⟨fun h => (List.mem_cons.mp h).resolve_left hne, List.mem_cons_of_mem _⟩

/-- After `Clear` no pointer is left. -/
theorem sound_Clear (hs : s.Sound) : s.Clear.Sound :=
  ⟨hs.fresh, fun _ h => (nomatch h), fun _ => rfl, fun _ _ h => (nomatch h), fun h => (nomatch h),
    fun _ _ h => (nomatch h)⟩

/-- Models may be added while no model is active. -/
theorem Sound.foldl_AddModel (hs : s.Sound) (hactive : s.activeModel = none) (models : List Nat) :
    (models.foldl AddModel s).Sound := by
  induction models generalizing s with
  | nil => exact hs
  | cons page models ih =>
    refine ih ⟨fun w hw => ?_, fun w h => ?_, hs.noSource, ?_, ?_, hs.cached⟩ hactive
    · exact (hs.fresh w hw).trans (Nat.lt_succ_self _)
    · obtain ⟨hfresh, hiff⟩ := hs.source w h
      exact ⟨hfresh.trans (Nat.lt_succ_self _), hiff⟩
    · intro block index h
      exact nomatch hactive.symm.trans h
    · intro h
      have hsome := hs.dragging h
      rw [hactive] at hsome
      exact nomatch hsome

/-- A page that is cached belongs to the open document. -/
theorem Sound.cachePage (hs : s.Sound) {page p : Nat} (hp : p ∈ s.documentPages) :
    (s.cachePage page p).Sound := by
  refine ⟨hs.fresh, hs.source, hs.noSource, hs.active, hs.dragging, fun page' p' h hopen => ?_⟩
  have hgrow : (grow none (page + 1) s.pages)[page']?.join = s.cachedPage page' := by
    rw [Jagged.getElem?_grow, cachedPage]
    split_ifs with hlt hlt'
    · rfl
    · rw [List.getElem?_eq_none (by omega)]
      rfl
    · rw [List.getElem?_eq_none (by omega)]
  rw [cachedPage, State.cachePage] at h
  dsimp only at h
  rw [List.getElem?_set] at h
  split_ifs at h
  · obtain rfl := Option.some.inj h
    exact hp
  · exact nomatch h
  · exact hs.cached page' p' (hgrow.symm.trans h) hopen

/-- A request brings a page of the document. -/
theorem sound_CacheRequest (hs : s.Sound) {page p : Nat} (hp : p ∈ s.documentPages)
    (priority : Priority) (observer : Nat) : (s.CacheRequest page p priority observer).Sound := by
  have hobserver : ∀ o, ({ s with pageViewObserver := o } : State).Sound := fun _ =>
    ⟨hs.fresh, hs.source, hs.noSource, hs.active, hs.dragging, hs.cached⟩
  unfold CacheRequest
  cases priority with
  | pageView => exact (hobserver _).cachePage hp
  | pageViewPreload | presentation | presentationPreload => exact hs.cachePage hp
  | thumbnails | thumbnailsPreload | other => exact hs

/-- The manager's pages are dropped before the document's are replaced. -/
theorem sound_loadDocument (hs : s.Sound) (pageCount : Nat) (models : List Nat)
    (cachesPage : Bool) : (s.loadDocument pageCount models cachesPage).Sound := by
  have hclear := sound_Clear hs
  have hopened : ({ s.Clear with
      documentPages := (List.range pageCount).map (s.Clear.created + ·)
      created := s.Clear.created + pageCount } : State).Sound := by
    refine ⟨fun w hw => ?_, fun _ h => (nomatch h), fun _ => rfl, hclear.active, hclear.dragging,
      fun _ _ h => nomatch h⟩
    exact (hclear.fresh w hw).trans_le (Nat.le_add_right _ _)
  have hloaded := hopened.foldl_AddModel rfl models
  have hpages : ∀ (models : List Nat) (s : State),
      (models.foldl AddModel s).documentPages = s.documentPages := by
    intro models
    induction models with
    | nil => exact fun s => rfl
    | cons page models ih => exact fun s => ih _
  unfold loadDocument
  cases hhead : ((List.range pageCount).map (s.Clear.created + ·)).head? with
  | none =>
    simp only [hhead]
    exact hloaded
  | some p =>
    simp only [hhead]
    split_ifs
    · refine hloaded.cachePage ?_
      rw [hpages]
      exact List.mem_of_mem_head? hhead
    · exact hloaded

/-- **Every event keeps the invariant.** -/
theorem sound_step (hs : s.Sound) (e : Event) : (s.step e).Sound := by
  unfold step
  cases e with
  | createWidget isPresentation => exact sound_createWidget hs isPresentation
  | «show» w =>
    rw [handle]
    split_ifs
    · exact hs.withPointers s.pageView (some w)
    · exact hs
  -- Qt drops its pointers to the widget, and the handler may forget the presentation
  | destroyWidget w recognised closingDown page screens =>
    have hdropped := sound_dropWidget hs w
    rw [handle]
    split_ifs
    · exact hdropped.withPointers (s.dropWidget w).pageView none
    · exact hdropped
    · exact hs
  | bindPageView w =>
    rw [handle]
    split_ifs
    · exact hs.withPointers (some w) s.presentationWidget
    · exact hs
  | mousePress source leftButton hovered hit =>
    rw [handle]
    split_ifs with hw
    · exact sound_mouseButtonPressEvent (hs.noteEventSource hw) leftButton hovered hit
    · exact hs
  | mouseMove source refresh =>
    rw [handle]
    split_ifs with hw
    · exact sound_mouseMoveEvent (hs.noteEventSource hw) refresh
    · exact hs
  | mouseRelease source leftButton =>
    rw [handle]
    split_ifs with hw
    · exact sound_mouseButtonReleaseEvent (hs.noteEventSource hw) leftButton
    · exact hs
  | wheel source standalone onModel refresh =>
    rw [handle]
    split_ifs with hw
    · exact sound_wheelEvent (hs.noteEventSource hw) standalone onModel refresh
    · exact hs
  | key hovered hit screens => exact sound_keyPressEvent hs hovered hit screens
  | request page priority observer =>
    rw [handle]
    cases hpage : s.documentPages[page]? with
    | none => exact hs
    | some p => exact sound_CacheRequest hs (List.mem_of_getElem? hpage) priority observer
  | timer page screens => exact hs
  | loadDocument pageCount models cachesPage =>
    exact sound_loadDocument hs pageCount models cachesPage
  | swapBackingFile models => exact (sound_Clear hs).foldl_AddModel rfl models
  | closeDocument =>
    exact ⟨hs.fresh, hs.source, hs.noSource, hs.active, hs.dragging, fun _ _ _ h => nomatch h⟩

end Step

/-- **One event** uses live objects exactly when it meets the condition. -/
theorem usesAlive_iff {s : State} (hs : s.Sound) (e : Event) : s.UsesAlive e ↔ s.Careful e := by
  have hstate : (s.handle e).state.Sound := sound_step hs e
  unfold UsesAlive Careful uses
  rw [List.forall_mem_append, forall_handle_uses hs]
  refine and_congr_right fun _ => ?_
  cases (s.handle e).refresh with
  | none => simp
  | some call =>
    have hrefresh := forall_refreshPixmap hstate call.1 call.2
    simp only [Option.some.injEq]
    constructor
    · rintro h page screens rfl
      exact hrefresh.mp h
    · intro h
      exact hrefresh.mpr (h call.1 call.2 rfl)

/-- **A run uses live objects only, exactly when all its events are careful**: no key asks a source
that was destroyed, no refresh does with a presentation showing, and none deletes the pixmap of a
page after its document was closed. -/
theorem usesAlive_along_iff (events : List Event) :
    Along step UsesAlive init events ↔ Along step Careful init events :=
  along_iff_of_invariant (fun s e (hs : Sound s) => usesAlive_iff hs e)
    (fun _ e hs _ => sound_step hs e) sound_init events

/-! ### A presentation that ends -/

instance (s : State) (e : Event) : Decidable (s.UsesAlive e) :=
  inferInstanceAs (Decidable (∀ u ∈ s.uses e, u.alive = true))

/-- The page view and its screens. -/
def onScreen : Screens := ⟨true, true⟩

/-- A document with one model is open; the mouse moves over its presentation, which then ends; `H`
is pressed in the page view before the mouse moves there. -/
def presentationEnds : List Event :=
  [.createWidget false, .bindPageView ⟨0, false⟩, .loadDocument 1 [0] false,
    .createWidget true, .show ⟨3, true⟩, .mouseMove ⟨3, true⟩ none,
    .destroyWidget ⟨3, true⟩ false false (some 0) onScreen, .key (some 0) (some 0) onScreen]

/-- A document is closed while a refresh of its first page is due. -/
def closedBeforeTimer : List Event :=
  [.createWidget false, .bindPageView ⟨0, false⟩, .loadDocument 1 [0] false,
    .request 0 .pageView 7, .closeDocument, .timer 0 onScreen]

/-- **Destroyed objects are used**: the presentation's widget by the key, the closed document's page
by the deferred refresh. -/
theorem not_usesAlive_presentationEnds :
    ¬ Along step UsesAlive init presentationEnds ∧
    ¬ Along step UsesAlive init closedBeforeTimer := by
  decide +kernel

end State

end Pointers

end OkularV3d
