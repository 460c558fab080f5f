import OkularV3d.Lib.Dispatch
import OkularV3d.Lib.Jagged
import OkularV3d.Lib.Runs

/-!
# Whose input an event is

Every open document has a manager of its own, and every manager watches the whole application. Its
mouse filters are on the viewport of the page view it is bound to and on **every** presentation that
was shown while it was there; a key is its own when it is pressed in the window of its page view or
of the last presentation it knows.

A widget shows one document, and an event that is delivered to it should concern the manager of that
document alone. Qt offers a mouse event to the filters of the widget, the last one installed first,
and a key to the filters of the application; a filter that answers true takes the event.

The geometry is an input: which page and which model each manager finds under the mouse. The views
of the models are left out: they only change in handlers that answer true.

* `Desktop.step`, `Desktop.taker`: what an event does to the managers, and which of them takes it.
* `Desktop.Isolated`: an event that is delivered to a widget concerns the manager of its document
  alone. `not_isolated_keyInTab` has a key and a press that do not.
* `Noted`: the application together with the presentations each manager was shown; `Noted.Apart` is
  the condition on an event in terms of this history of windows, and of nothing that a handler
  computes.
* `Desktop.Known` is the invariant: a filter or a binding leads to a widget of the manager's own
  document or to a presentation it was shown. `Desktop.isolated_along_of_apart`: a run whose events
  all meet the condition isolates every event.
-/

namespace OkularV3d

open Runs

namespace Isolation

open Dispatch (offer offered)
open Jagged (grow)

/-- A page view, which stands for its viewport too, or a presentation: the document it shows, and
its top-level window. No two widgets have the same number. -/
structure Widget (Doc : Type) where
  id : Nat
  doc : Doc
  window : Nat
  isPresentation : Bool
  deriving DecidableEq, Repr

/-- The members of a manager that decide about input, under the source's names. -/
structure Manager (Doc : Type) where
  models : List Nat
  pageView : Option (Widget Doc)
  presentationWidget : Option (Widget Doc)
  presentationEventFilterOn : Option (Widget Doc)
  lastEventSource : Option (Widget Doc)
  presentationRequestSizes : List (Int × Int)
  mousePosition : Int × Int
  lastMousePosition : Int × Int
  dragging : Bool
  activeModel : Option (Nat × Nat)
  deriving DecidableEq, Repr

/-- What the geometry tells a manager: the page under the mouse, the model of it under the mouse,
whether its only model fills the page, and whether the mouse is over the model the wheel turns. -/
structure Reading where
  hovered : Option Nat
  hit : Option Nat
  standalone : Bool
  onModel : Bool
  deriving DecidableEq, Repr

/-- A mouse event. -/
inductive Input where
  | move (position : Int × Int)
  | press (position : Int × Int) (leftButton : Bool)
  | release (leftButton : Bool)
  | wheel
  deriving DecidableEq, Repr

/-- The application.

* `widgets`: the widgets that are there.
* `managers`, `applicationFilters`: the managers, and the documents whose manager is there, the
  latest first, which is the order of their application filters.
* `filters`: the managers whose mouse filter is on a widget, the last one installed first.
* `viewportPage`: the page number of each document's viewport. -/
structure Desktop (Doc : Type) where
  widgets : List (Widget Doc)
  managers : Doc → Manager Doc
  applicationFilters : List Doc
  filters : Widget Doc → List Doc
  viewportPage : Doc → Option Nat

/-- What happens.

* `createWidget w`, `show w`, `destroyWidget w`: the life of a widget.
* `openManager doc pageView`: a manager is constructed and binds the page view it finds.
* `closeManager doc`: it is destructed.
* `rebindPageView doc w`: it finds another page view.
* `setDocument doc models`: a document with this many models on its pages is loaded.
* `request doc page size`: the presentation asks for a page of the document.
* `turnPage doc page`: the document's viewport moves.
* `mouse w input readings`: a mouse event is delivered to a widget.
* `key w isShortcut readings`: a key is; `isShortcut` is whether it is `H` or `M`. -/
inductive DesktopEvent (Doc : Type) where
  | createWidget (w : Widget Doc)
  | show (w : Widget Doc)
  | destroyWidget (w : Widget Doc)
  | openManager (doc : Doc) (pageView : Option (Widget Doc))
  | closeManager (doc : Doc)
  | rebindPageView (doc : Doc) (w : Widget Doc)
  | setDocument (doc : Doc) (models : List Nat)
  | request (doc : Doc) (page : Nat) (size : Int × Int)
  | turnPage (doc : Doc) (page : Option Nat)
  | mouse (w : Widget Doc) (input : Input) (readings : Doc → Reading)
  | key (w : Widget Doc) (isShortcut : Bool) (readings : Doc → Reading)

variable {Doc : Type}

namespace Manager

/-- A manager as it is constructed. -/
def init (pageView : Option (Widget Doc)) : Manager Doc :=
  { models := []
    pageView
    presentationWidget := none
    presentationEventFilterOn := none
    lastEventSource := none
    presentationRequestSizes := []
    mousePosition := (0, 0)
    lastMousePosition := (0, 0)
    dragging := false
    activeModel := none }

/-- `Clear`. -/
def Clear (m : Manager Doc) : Manager Doc :=
  { m with
    models := []
    presentationRequestSizes := []
    dragging := false
    activeModel := none
    lastEventSource := none }

/-- `cacheRequestUnlocked` for a request of the presentation. -/
def cachePresentationRequest (m : Manager Doc) (page : Nat) (size : Int × Int) : Manager Doc :=
  { m with
    presentationRequestSizes := (grow (0, 0) (page + 1) m.presentationRequestSizes).set page size }

/-- `m_Models.size() == 0 || !m_PageView`: the handlers have nothing to do. -/
def idle (m : Manager Doc) : Bool := m.models.isEmpty || m.pageView.isNone

/-- The page of `GetPresentationPageBorders`, if there is one: the viewport's page, once the
presentation has asked for it. -/
def presentationPage (m : Manager Doc) (viewportPage : Option Nat) : Option Nat := do
  if m.presentationWidget.isNone then none
  let page ← viewportPage
  let (width, height) ← m.presentationRequestSizes[page]?
  if width ≤ 0 ∨ height ≤ 0 then none else some page

/-- `GetPageMouseIsOver`, among the pages of `GetActivePageBorders`. -/
def GetPageMouseIsOver (m : Manager Doc) (viewportPage : Option Nat) (r : Reading) : Option Nat :=
  if m.lastEventSource.any (·.isPresentation) then
    if r.hovered = m.presentationPage viewportPage then r.hovered else none
  else if m.pageView.isSome then r.hovered
  else none

/-- The page the mouse is over, if it is one with models. -/
def hoveredPage (m : Manager Doc) (viewportPage : Option Nat) (r : Reading) : Option Nat :=
  (m.GetPageMouseIsOver viewportPage r).filter fun page => page < m.models.length

/-- `mouseMoveEvent`. -/
def mouseMoveEvent (m : Manager Doc) (position : Int × Int) : Manager Doc × Bool :=
  if m.idle then (m, false)
  else ({ m with mousePosition := position, lastMousePosition := position }, m.dragging)

/-- `mouseButtonPressEvent`. -/
def mouseButtonPressEvent (m : Manager Doc) (viewportPage : Option Nat) (r : Reading)
    (position : Int × Int) (leftButton : Bool) : Manager Doc × Bool :=
  if m.idle then (m, false)
  else
    let m := { m with mousePosition := position }
    if !leftButton then (m, false)
    else
      match m.hoveredPage viewportPage r, r.hit with
      | some page, some i =>
        if i < m.models.getD page 0 then
          ({ m with
              dragging := true
              lastMousePosition := m.mousePosition
              activeModel := some (page, i) }, true)
        else (m, false)
      | _, _ => (m, false)

/-- `mouseButtonReleaseEvent`. -/
def mouseButtonReleaseEvent (m : Manager Doc) (leftButton : Bool) : Manager Doc × Bool :=
  if m.idle || !leftButton then (m, false)
  else ({ m with dragging := false, activeModel := none }, false)

/-- `wheelEvent`: the wheel turns the model that is dragged, or else the only one. -/
def wheelEvent (m : Manager Doc) (r : Reading) : Manager Doc × Bool :=
  let dragged := m.dragging && m.activeModel.isSome
  let alone := m.models == [1] && r.standalone
  (m, !m.idle && (dragged || alone) && r.onModel)

/-- `EventFilter::eventFilter`. -/
def eventFilter (m : Manager Doc) (w : Widget Doc) (viewportPage : Option Nat) (r : Reading)
    (input : Input) : Manager Doc × Bool :=
  let m := { m with lastEventSource := some w }
  match input with
  | .move position => m.mouseMoveEvent position
  | .press position leftButton => m.mouseButtonPressEvent viewportPage r position leftButton
  | .release leftButton => m.mouseButtonReleaseEvent leftButton
  | .wheel => m.wheelEvent r

/-- `keyEventInOwnWindow`. -/
def keyEventInOwnWindow (m : Manager Doc) (w : Widget Doc) : Bool :=
  m.presentationWidget.any (·.window = w.window) || m.pageView.any (·.window = w.window)

/-- `keyPressEvent`: what it answers. -/
def keyPressEvent (m : Manager Doc) (viewportPage : Option Nat) (r : Reading) (isShortcut : Bool) :
    Bool :=
  !m.idle && isShortcut && (m.hoveredPage viewportPage r).isSome

/-- `ApplicationEventFilter::eventFilter` for a key: whether the manager takes it. -/
def takesKey (m : Manager Doc) (w : Widget Doc) (viewportPage : Option Nat) (r : Reading)
    (isShortcut : Bool) : Bool :=
  m.keyEventInOwnWindow w && m.keyPressEvent viewportPage r isShortcut

end Manager

namespace Desktop

variable [DecidableEq Doc]

/-- Nothing is open. -/
def init : Desktop Doc := ⟨[], fun _ => .init none, [], fun _ => [], fun _ => none⟩

def setManager (s : Desktop Doc) (doc : Doc) (m : Manager Doc) : Desktop Doc :=
  { s with managers := Function.update s.managers doc m }

/-- `installEventFilter`: a filter that is installed again goes to the front. -/
def installFilter (s : Desktop Doc) (w : Widget Doc) (doc : Doc) : Desktop Doc :=
  { s with filters := Function.update s.filters w (doc :: (s.filters w).erase doc) }

/-- `removeEventFilter`. -/
def removeFilter (s : Desktop Doc) (w : Widget Doc) (doc : Doc) : Desktop Doc :=
  { s with filters := Function.update s.filters w ((s.filters w).erase doc) }

/-- Binds a page view, and moves the mouse filter to it. -/
def bindPageView (s : Desktop Doc) (doc : Doc) (w : Widget Doc) : Desktop Doc :=
  let s := match (s.managers doc).pageView with
    | some old => s.removeFilter old doc
    | none => s
  (s.installFilter w doc).setManager doc { s.managers doc with pageView := some w }

/-- The constructor, with the page view that `GetPageViewWidget` finds. -/
def openManager (s : Desktop Doc) (doc : Doc) (pageView : Option (Widget Doc)) : Desktop Doc :=
  if doc ∈ s.applicationFilters then s
  else
    let s := { s.setManager doc (.init none) with
      applicationFilters := doc :: s.applicationFilters }
    match pageView with
    | some w => if w ∈ s.widgets ∧ !w.isPresentation then s.bindPageView doc w else s
    | none => s

/-- The destructor: the filters go. -/
def closeManager (s : Desktop Doc) (doc : Doc) : Desktop Doc :=
  { s with
    applicationFilters := s.applicationFilters.filter (· ≠ doc)
    filters := fun w => (s.filters w).filter (· ≠ doc) }

/-- `rebindPageView`. -/
def rebindPageView (s : Desktop Doc) (doc : Doc) (w : Widget Doc) : Desktop Doc :=
  if doc ∈ s.applicationFilters ∧ w ∈ s.widgets ∧ !w.isPresentation ∧
      (s.managers doc).pageView ≠ some w then
    s.bindPageView doc w
  else s

/-- `handlePresentationWidgetEvent` for a `Show` event. -/
def handlePresentationWidgetEvent (s : Desktop Doc) (w : Widget Doc) (doc : Doc) : Desktop Doc :=
  let m := s.managers doc
  if m.presentationWidget = some w then s
  else if m.presentationEventFilterOn = some w then
    s.setManager doc { m with presentationWidget := some w }
  else
    (s.installFilter w doc).setManager doc
      { m with presentationWidget := some w, presentationEventFilterOn := some w }

/-- A widget goes: Qt resets the `QPointer`s to it, and its filters go with it. -/
def destroyWidget (s : Desktop Doc) (w : Widget Doc) : Desktop Doc :=
  { s with
    widgets := s.widgets.filter (· ≠ w)
    managers := fun doc =>
      let m := s.managers doc
      { m with
        pageView := m.pageView.filter (· ≠ w)
        presentationWidget := m.presentationWidget.filter (· ≠ w)
        presentationEventFilterOn := m.presentationEventFilterOn.filter (· ≠ w) }
    filters := Function.update s.filters w [] }

/-- What the filter of each manager does with a mouse event of a widget. -/
def mouseHandler (s : Desktop Doc) (w : Widget Doc) (input : Input) (readings : Doc → Reading)
    (doc : Doc) (m : Manager Doc) : Manager Doc × Bool :=
  m.eventFilter w (s.viewportPage doc) (readings doc) input

/-- The manager that takes a key: the first one whose application filter answers true. -/
def keyTaker (s : Desktop Doc) (w : Widget Doc) (isShortcut : Bool) (readings : Doc → Reading) :
    Option Doc :=
  s.applicationFilters.find? fun doc =>
    (s.managers doc).takesKey w (s.viewportPage doc) (readings doc) isShortcut

/-- One event. -/
def step (s : Desktop Doc) : DesktopEvent Doc → Desktop Doc
  | .createWidget w => { s with widgets := w :: s.widgets }
  | .show w =>
    if w ∈ s.widgets ∧ w.isPresentation then
      s.applicationFilters.foldl (fun s doc => s.handlePresentationWidgetEvent w doc) s
    else s
  | .destroyWidget w => s.destroyWidget w
  | .openManager doc pageView => s.openManager doc pageView
  | .closeManager doc => s.closeManager doc
  | .rebindPageView doc w => s.rebindPageView doc w
  | .setDocument doc models => s.setManager doc { (s.managers doc).Clear with models }
  | .request doc page size => s.setManager doc ((s.managers doc).cachePresentationRequest page size)
  | .turnPage doc page => { s with viewportPage := Function.update s.viewportPage doc page }
  | .mouse w input readings =>
    if w ∈ s.widgets then
      { s with managers := (offer (s.mouseHandler w input readings) (s.filters w) s.managers).1 }
    else s
  | .key _ _ _ => s

/-- The manager that takes an event, if one does. -/
def taker (s : Desktop Doc) : DesktopEvent Doc → Option Doc
  | .mouse w input readings =>
    if w ∈ s.widgets then (offer (s.mouseHandler w input readings) (s.filters w) s.managers).2
    else none
  | .key w isShortcut readings =>
    if w ∈ s.widgets then s.keyTaker w isShortcut readings else none
  | _ => none

/-- The widget an input event is delivered to. -/
def target : DesktopEvent Doc → Option (Widget Doc)
  | .mouse w _ _ | .key w _ _ => some w
  | _ => none

/-- **Input isolation**: an event delivered to a widget leaves the managers of other documents as
they were, and none of them takes it. -/
def Isolated (s : Desktop Doc) (e : DesktopEvent Doc) : Prop :=
  ∀ w, target e = some w → ∀ doc ≠ w.doc,
    (s.step e).managers doc = s.managers doc ∧ s.taker e ≠ some doc

end Desktop

/-! ### What a handler writes -/

/-- A mouse filter binds no widget. -/
theorem Manager.bound_eventFilter (m : Manager Doc) (w : Widget Doc) (viewportPage : Option Nat)
    (r : Reading) (input : Input) :
    let m' := (m.eventFilter w viewportPage r input).1
    m'.pageView = m.pageView ∧ m'.presentationWidget = m.presentationWidget := by
  cases input with
  | move position =>
    simp only [eventFilter, mouseMoveEvent]
    split_ifs <;> exact ⟨rfl, rfl⟩
  | press position leftButton =>
    simp only [eventFilter, mouseButtonPressEvent]
    split_ifs
    · exact ⟨rfl, rfl⟩
    · exact ⟨rfl, rfl⟩
    · split
      · split_ifs <;> exact ⟨rfl, rfl⟩
      · exact ⟨rfl, rfl⟩
  | release leftButton =>
    simp only [eventFilter, mouseButtonReleaseEvent]
    split_ifs <;> exact ⟨rfl, rfl⟩
  | wheel => exact ⟨rfl, rfl⟩

namespace Desktop

variable [DecidableEq Doc]

/-! ### Tabs and presentations of two documents -/

/-- The page views of two documents in one window, and a key in the first of them: the manager that
was made last takes it. -/
def keyInTab : List (DesktopEvent Nat) :=
  let first : Widget Nat := ⟨0, 0, 0, false⟩
  let second : Widget Nat := ⟨1, 1, 0, false⟩
  [.createWidget first, .openManager 0 (some first), .setDocument 0 [1],
    .createWidget second, .openManager 1 (some second), .setDocument 1 [1],
    .key first true fun _ => ⟨some 0, some 0, true, true⟩]

/-- Two documents in windows of their own: the first was presented, and its presentation is over;
then the second is presented, and the left button pressed over its model. The manager of the first
takes the press. -/
def pressInPresentation : List (DesktopEvent Nat) :=
  let first : Widget Nat := ⟨0, 0, 0, false⟩
  let second : Widget Nat := ⟨1, 1, 1, false⟩
  let firstShow : Widget Nat := ⟨2, 0, 2, true⟩
  let secondShow : Widget Nat := ⟨3, 1, 3, true⟩
  [.createWidget first, .openManager 0 (some first), .setDocument 0 [1], .turnPage 0 (some 0),
    .createWidget second, .openManager 1 (some second), .setDocument 1 [1], .turnPage 1 (some 0),
    .createWidget firstShow, .show firstShow, .request 0 0 (100, 100), .destroyWidget firstShow,
    .createWidget secondShow, .show secondShow, .request 1 0 (100, 100),
    .mouse secondShow (.press (50, 50) true) fun _ => ⟨some 0, some 0, true, true⟩]

/-- **Input is taken by managers of other documents.** -/
theorem not_isolated_keyInTab :
    ¬ Along step Isolated init keyInTab ∧ ¬ Along step Isolated init pressInPresentation := by
  constructor
  · intro h
    have hlast := ((along_append init (keyInTab.take 6) _).mp h).2.1
    have htaken : (runState step init (keyInTab.take 6)).taker
        (.key ⟨0, 0, 0, false⟩ true fun _ => ⟨some 0, some 0, true, true⟩) = some 1 := by
      decide +kernel
    exact (hlast _ rfl 1 (by decide)).2 htaken
  · intro h
    have hlast := ((along_append init (pressInPresentation.take 15) _).mp h).2.1
    have htaken : (runState step init (pressInPresentation.take 15)).taker
        (.mouse ⟨3, 1, 3, true⟩ (.press (50, 50) true) fun _ => ⟨some 0, some 0, true, true⟩) =
          some 0 := by
      decide +kernel
    exact (hlast _ rfl 0 (by decide)).2 htaken

end Desktop

/-! ### Documents that stay apart -/

/-- The application, and what its history has left behind: the presentations each manager was shown,
while both are there. -/
structure Noted (Doc : Type) where
  desktop : Desktop Doc
  watched : List (Doc × Widget Doc)

namespace Noted

variable [DecidableEq Doc]

def init : Noted Doc := ⟨.init, []⟩

/-- One event: a presentation is shown to every manager that is there. -/
def step (n : Noted Doc) (e : DesktopEvent Doc) : Noted Doc where
  desktop := n.desktop.step e
  watched :=
    match e with
    | .show w =>
      if w ∈ n.desktop.widgets ∧ w.isPresentation then
        n.desktop.applicationFilters.map (·, w) ++ n.watched
      else n.watched
    | .destroyWidget w => n.watched.filter fun seen => seen.2 ≠ w
    | .closeManager doc => n.watched.filter fun seen => seen.1 ≠ doc
    | _ => n.watched

/-- The condition on an event, in terms of windows.

* A mouse event goes to a widget that no manager of another document was shown as a presentation.
* `H` or `M` is pressed in a window where every manager that is there has widgets of its own, or
  presentations it was shown, only if it is the manager of the document the key is for.
* A manager binds page views of its own document. -/
def Apart (n : Noted Doc) : DesktopEvent Doc → Prop
  | .mouse w _ _ => ∀ seen ∈ n.watched, seen.2 = w → seen.1 = w.doc
  | .key w isShortcut _ =>
    isShortcut = true → ∀ doc ∈ n.desktop.applicationFilters, ∀ w' ∈ n.desktop.widgets,
      w'.window = w.window → (w'.doc = doc ∨ (doc, w') ∈ n.watched) → doc = w.doc
  | .openManager doc (some w) | .rebindPageView doc w => w.doc = doc
  | _ => True

/-- Whether an event meets the condition can be computed. -/
instance decidableApart (n : Noted Doc) : ∀ e, Decidable (n.Apart e)
  | .mouse w _ _ => inferInstanceAs (Decidable (∀ seen ∈ n.watched, seen.2 = w → seen.1 = w.doc))
  | .key w isShortcut _ =>
    inferInstanceAs (Decidable (isShortcut = true →
      ∀ doc ∈ n.desktop.applicationFilters, ∀ w' ∈ n.desktop.widgets,
        w'.window = w.window → (w'.doc = doc ∨ (doc, w') ∈ n.watched) → doc = w.doc))
  | .openManager doc (some w) | .rebindPageView doc w => inferInstanceAs (Decidable (w.doc = doc))
  | .openManager _ none | .createWidget _ | .show _ | .destroyWidget _ | .closeManager _
  | .setDocument _ _ | .request _ _ _ | .turnPage _ _ => inferInstanceAs (Decidable True)

end Noted

namespace Desktop

variable [DecidableEq Doc] {s : Desktop Doc} {watched : List (Doc × Widget Doc)}

/-- **What the managers know**: a mouse filter, and a window that a manager counts as its own, lead
to a widget of the manager's document or to a presentation it was shown. -/
structure Known (watched : List (Doc × Widget Doc)) (s : Desktop Doc) : Prop where
  filters : ∀ w, ∀ doc ∈ s.filters w, w.doc = doc ∨ (doc, w) ∈ watched
  bound : ∀ doc ∈ s.applicationFilters, ∀ w, (s.managers doc).pageView = some w ∨
    (s.managers doc).presentationWidget = some w →
      w ∈ s.widgets ∧ (w.doc = doc ∨ (doc, w) ∈ watched)

omit [DecidableEq Doc] in
theorem known_init : Known [] (init : Desktop Doc) where
  filters _ _ h := absurd h List.not_mem_nil
  bound _ h := absurd h List.not_mem_nil

/-- A mouse event that meets the condition is isolated: the filters it passes are the manager's of
its own document. -/
theorem Known.isolated_mouse (hs : s.Known watched) {w : Widget Doc} {input : Input}
    {readings : Doc → Reading} (h : ∀ seen ∈ watched, seen.2 = w → seen.1 = w.doc) :
    s.Isolated (.mouse w input readings) := by
  rintro w' hw' doc hdoc
  obtain rfl : w = w' := Option.some.inj hw'
  have hnot : doc ∉ offered (s.mouseHandler w input readings) (s.filters w) s.managers := by
    intro hoffered
    rcases hs.filters w doc (Dispatch.mem_of_mem_offered hoffered) with hown | hseen
    · exact hdoc hown.symm
    · exact hdoc (h (doc, w) hseen rfl)
  by_cases hmem : w ∈ s.widgets
  · simp only [step, taker, if_pos hmem]
    refine ⟨Dispatch.offer_of_not_mem hnot, fun htaken => ?_⟩
    exact hnot (Dispatch.mem_offered_of_taken htaken)
  · simp [step, taker, hmem]

/-- A key that meets the condition is isolated: the manager that takes it knows a widget of the
window. -/
theorem Known.isolated_key (hs : s.Known watched) {w : Widget Doc} {isShortcut : Bool}
    {readings : Doc → Reading}
    (h : isShortcut = true → ∀ doc ∈ s.applicationFilters, ∀ w' ∈ s.widgets,
      w'.window = w.window → (w'.doc = doc ∨ (doc, w') ∈ watched) → doc = w.doc) :
    s.Isolated (.key w isShortcut readings) := by
  rintro w' hw' doc hdoc
  obtain rfl : w = w' := Option.some.inj hw'
  refine ⟨rfl, fun htaken => ?_⟩
  simp only [taker] at htaken
  split_ifs at htaken with hmem
  have htakes := List.find?_some htaken
  have hthere : doc ∈ s.applicationFilters := List.mem_of_find?_eq_some htaken
  simp only [Manager.takesKey, Manager.keyEventInOwnWindow, Manager.keyPressEvent,
    Bool.and_eq_true, Bool.or_eq_true, Option.any_eq_true, decide_eq_true_eq] at htakes
  obtain ⟨hwindow, ⟨-, hshortcut⟩, -⟩ := htakes
  have hknows : ∃ w', ((s.managers doc).pageView = some w' ∨
      (s.managers doc).presentationWidget = some w') ∧ w'.window = w.window := by
    obtain ⟨w', hw', hsame⟩ | ⟨w', hw', hsame⟩ := hwindow
    · exact ⟨w', .inr hw', hsame⟩
    · exact ⟨w', .inl hw', hsame⟩
  obtain ⟨w', hbound, hsame⟩ := hknows
  obtain ⟨hmem', hown⟩ := hs.bound doc hthere w' hbound
  exact hdoc (h hshortcut doc hthere w' hmem' hsame hown)

/-! ### What keeps the invariant -/

omit [DecidableEq Doc] in
/-- A manager may be shown more. -/
theorem Known.mono (hs : s.Known watched) {watched' : List (Doc × Widget Doc)}
    (h : ∀ seen ∈ watched, seen ∈ watched') : s.Known watched' where
  filters w doc hmem := (hs.filters w doc hmem).imp_right (h (doc, w))
  bound doc hthere w hbound :=
    (hs.bound doc hthere w hbound).imp_right fun hown => hown.imp_right (h (doc, w))

/-- Changing what one manager is bound to. -/
theorem Known.setManager (hs : s.Known watched) {doc : Doc} {m : Manager Doc}
    (hm : doc ∈ s.applicationFilters → ∀ w, m.pageView = some w ∨ m.presentationWidget = some w →
      w ∈ s.widgets ∧ (w.doc = doc ∨ (doc, w) ∈ watched)) : (s.setManager doc m).Known watched where
  filters := hs.filters
  bound doc' hthere w := by
    simp only [Desktop.setManager, Function.update_apply]
    split_ifs with h
    · subst h
      exact hm hthere w
    · exact hs.bound doc' hthere w

theorem Known.installFilter (hs : s.Known watched) {doc : Doc} {w : Widget Doc}
    (h : w.doc = doc ∨ (doc, w) ∈ watched) : (s.installFilter w doc).Known watched where
  filters w' doc' hmem := by
    simp only [Desktop.installFilter, Function.update_apply] at hmem
    split_ifs at hmem with hw
    · subst hw
      rcases List.mem_cons.mp hmem with rfl | hmem
      · exact h
      · exact hs.filters w' doc' (List.mem_of_mem_erase hmem)
    · exact hs.filters w' doc' hmem
  bound := hs.bound

theorem Known.removeFilter (hs : s.Known watched) (w : Widget Doc) (doc : Doc) :
    (s.removeFilter w doc).Known watched where
  filters w' doc' hmem := by
    simp only [Desktop.removeFilter, Function.update_apply] at hmem
    split_ifs at hmem with hw
    · subst hw
      exact hs.filters w' doc' (List.mem_of_mem_erase hmem)
    · exact hs.filters w' doc' hmem
  bound := hs.bound

/-- Binding a page view of the manager's own document. -/
theorem Known.bindPageView (hs : s.Known watched) {doc : Doc} {w : Widget Doc} (hdoc : w.doc = doc)
    (hw : w ∈ s.widgets) : (s.bindPageView doc w).Known watched := by
  have hbind : ∀ t : Desktop Doc, t.Known watched → w ∈ t.widgets →
      ((t.installFilter w doc).setManager doc
        { t.managers doc with pageView := some w }).Known watched := by
    intro t ht hw
    refine (ht.installFilter (.inl hdoc)).setManager fun hthere w' hbound => ?_
    rcases hbound with hview | hpresentation
    · obtain rfl : w = w' := Option.some.inj hview
      exact ⟨hw, .inl hdoc⟩
    · exact ht.bound doc hthere w' (.inr hpresentation)
  unfold Desktop.bindPageView
  split
  · exact hbind _ (hs.removeFilter _ doc) hw
  · exact hbind _ hs hw

/-- A manager that takes note of a presentation it is shown. -/
theorem Known.handlePresentationWidgetEvent (hs : s.Known watched) {doc : Doc} {w : Widget Doc}
    (hseen : (doc, w) ∈ watched) (hw : w ∈ s.widgets) :
    (s.handlePresentationWidgetEvent w doc).Known watched := by
  have hknows : ∀ m : Manager Doc, m.pageView = (s.managers doc).pageView →
      m.presentationWidget = some w → doc ∈ s.applicationFilters →
        ∀ w', m.pageView = some w' ∨ m.presentationWidget = some w' →
          w' ∈ s.widgets ∧ (w'.doc = doc ∨ (doc, w') ∈ watched) := by
    intro m hview hpresentation hthere w' hbound
    rcases hbound with h | h
    · exact hs.bound doc hthere w' (.inl (hview.symm.trans h))
    · obtain rfl : w = w' := Option.some.inj (hpresentation.symm.trans h)
      exact ⟨hw, .inr hseen⟩
  simp only [Desktop.handlePresentationWidgetEvent]
  split_ifs
  · exact hs
  · exact hs.setManager (hknows _ rfl rfl)
  · exact (hs.installFilter (.inr hseen)).setManager (hknows _ rfl rfl)

theorem widgets_handlePresentationWidgetEvent (s : Desktop Doc) (w : Widget Doc) (doc : Doc) :
    (s.handlePresentationWidgetEvent w doc).widgets = s.widgets := by
  simp only [handlePresentationWidgetEvent]
  split_ifs <;> rfl

/-- A presentation is shown to the managers in turn. -/
theorem Known.show (hs : s.Known watched) {w : Widget Doc} (hw : w ∈ s.widgets) {docs : List Doc}
    (hseen : ∀ doc ∈ docs, (doc, w) ∈ watched) :
    (docs.foldl (fun s doc => s.handlePresentationWidgetEvent w doc) s).Known watched := by
  induction docs generalizing s with
  | nil => exact hs
  | cons doc docs ih =>
    refine ih (hs.handlePresentationWidgetEvent (hseen doc List.mem_cons_self) hw) ?_
      fun doc' h => hseen doc' (List.mem_cons_of_mem doc h)
    rw [widgets_handlePresentationWidgetEvent]
    exact hw

theorem Known.destroyWidget (hs : s.Known watched) (w : Widget Doc) :
    (s.destroyWidget w).Known (watched.filter fun seen => seen.2 ≠ w) where
  filters w' doc hmem := by
    simp only [Desktop.destroyWidget, Function.update_apply] at hmem
    split_ifs at hmem with hw
    · exact absurd hmem List.not_mem_nil
    · exact (hs.filters w' doc hmem).imp_right fun h => List.mem_filter.mpr ⟨h, by simpa using hw⟩
  bound doc hthere w' hbound := by
    simp only [Desktop.destroyWidget, Option.filter_eq_some_iff, decide_eq_true_eq] at hbound
    have hknown : (s.managers doc).pageView = some w' ∨
        (s.managers doc).presentationWidget = some w' := hbound.imp And.left And.left
    have hne : w' ≠ w := hbound.elim And.right And.right
    obtain ⟨hmem, hown⟩ := hs.bound doc hthere w' hknown
    refine ⟨List.mem_filter.mpr ⟨hmem, by simpa using hne⟩, ?_⟩
    exact hown.imp_right fun h => List.mem_filter.mpr ⟨h, by simpa using hne⟩

theorem Known.closeManager (hs : s.Known watched) (doc : Doc) :
    (s.closeManager doc).Known (watched.filter fun seen => seen.1 ≠ doc) where
  filters w doc' hmem := by
    obtain ⟨hmem, hne⟩ := List.mem_filter.mp hmem
    exact (hs.filters w doc' hmem).imp_right fun h => List.mem_filter.mpr ⟨h, hne⟩
  bound doc' hthere w hbound := by
    obtain ⟨hthere, hne⟩ := List.mem_filter.mp hthere
    obtain ⟨hmem, hown⟩ := hs.bound doc' hthere w hbound
    exact ⟨hmem, hown.imp_right fun h => List.mem_filter.mpr ⟨h, hne⟩⟩

/-- A manager that is there anew is bound to nothing yet. -/
theorem Known.openManager (hs : s.Known watched) {doc : Doc} {pageView : Option (Widget Doc)}
    (h : ∀ w, pageView = some w → w.doc = doc) : (s.openManager doc pageView).Known watched := by
  have hopened : ({ s.setManager doc (.init none) with
      applicationFilters := doc :: s.applicationFilters } : Desktop Doc).Known watched := by
    refine ⟨hs.filters, fun doc' hthere w hbound => ?_⟩
    by_cases hdoc : doc' = doc
    · subst hdoc
      simp [Desktop.setManager, Manager.init] at hbound
    · have hthere' := List.mem_of_ne_of_mem hdoc hthere
      refine hs.bound doc' hthere' w ?_
      simpa [Desktop.setManager, hdoc] using hbound
  simp only [Desktop.openManager]
  split_ifs
  · exact hs
  · cases pageView with
    | none => exact hopened
    | some w =>
      simp only
      split_ifs with hw
      · exact hopened.bindPageView (h w rfl) hw.1
      · exact hopened

end Desktop

namespace Noted

variable [DecidableEq Doc] {n : Noted Doc}

/-- **Step lemma**: an event that meets the condition leaves the managers knowing what they were
shown only. -/
theorem known_step (hn : n.desktop.Known n.watched) {e : DesktopEvent Doc} (h : n.Apart e) :
    (n.step e).desktop.Known (n.step e).watched := by
  cases e with
  | createWidget w =>
    refine ⟨hn.filters, fun doc hthere w' hbound => ?_⟩
    obtain ⟨hmem, hown⟩ := hn.bound doc hthere w' hbound
    exact ⟨List.mem_cons_of_mem w hmem, hown⟩
  | «show» w =>
    simp only [step, Desktop.step]
    split_ifs with hshown
    · refine (hn.mono fun _ hseen => List.mem_append_right _ hseen).show hshown.1 ?_
      exact fun doc hdoc => List.mem_append_left _ (List.mem_map_of_mem hdoc)
    · exact hn
  | destroyWidget w => exact hn.destroyWidget w
  | openManager doc pageView =>
    refine hn.openManager fun w hw => ?_
    subst hw
    exact h
  | closeManager doc => exact hn.closeManager doc
  | rebindPageView doc w =>
    simp only [step, Desktop.step, Desktop.rebindPageView]
    split_ifs with hbinds
    · exact hn.bindPageView h hbinds.2.1
    · exact hn
  | setDocument doc models =>
    exact hn.setManager fun hthere w => hn.bound doc hthere w
  | request doc page size =>
    exact hn.setManager fun hthere w => hn.bound doc hthere w
  | turnPage doc page => exact ⟨hn.filters, hn.bound⟩
  | mouse w input readings =>
    simp only [step, Desktop.step]
    split_ifs
    · refine ⟨hn.filters, fun doc hthere w' hbound => hn.bound doc hthere w' ?_⟩
      -- no handler changes where its manager is bound
      let Q : Doc → Manager Doc → Prop := fun doc m =>
        m.pageView = (n.desktop.managers doc).pageView ∧
          m.presentationWidget = (n.desktop.managers doc).presentationWidget
      have hQ : ∀ doc m, Q doc m → Q doc (n.desktop.mouseHandler w input readings doc m).1 := by
        intro doc m hm
        obtain ⟨hview, hpresentation⟩ :=
          m.bound_eventFilter w (n.desktop.viewportPage doc) (readings doc) input
        exact ⟨hview.trans hm.1, hpresentation.trans hm.2⟩
      have hsame : Q doc ((offer (n.desktop.mouseHandler w input readings)
          (n.desktop.filters w) n.desktop.managers).1 doc) :=
        Dispatch.offer_invariant hQ ⟨rfl, rfl⟩
      exact hbound.imp hsame.1.symm.trans hsame.2.symm.trans
    · exact hn
  | key w isShortcut readings => exact hn

/-- An event that meets the condition is isolated. -/
theorem isolated_of_apart (hn : n.desktop.Known n.watched) {e : DesktopEvent Doc}
    (h : n.Apart e) : n.desktop.Isolated e := by
  cases e with
  | mouse w input readings => exact hn.isolated_mouse h
  | key w isShortcut readings => exact hn.isolated_key h
  | _ => exact fun w hw => nomatch hw

end Noted

namespace Desktop

variable [DecidableEq Doc]

/-- **Documents that are kept apart are isolated**, along every run: where every mouse event goes to
a widget that no manager of another document was shown, every shortcut is pressed in a window that
only the manager of its document knows, and managers bind page views of their own document, no event
changes the manager of another document or is taken by it. -/
theorem isolated_along_of_apart (events : List (DesktopEvent Doc))
    (h : Along Noted.step Noted.Apart Noted.init events) : Along step Isolated init events := by
  have hstep : ∀ (n : Noted Doc) e, n.desktop.Known n.watched → n.Apart e →
      (n.step e).desktop.Known (n.step e).watched := fun _ _ hn => Noted.known_step hn
  have hnoted : Along Noted.step (fun n e => n.desktop.Isolated e) Noted.init events :=
    Along.of_invariant hstep (fun _ _ hn => Noted.isolated_of_apart hn) known_init h
  exact (along_map (f := Noted.desktop) (fun _ _ => rfl) Noted.init events).mp hnoted

/-- Two documents in tabs of one window, with mouse events in both of them, and a key in the window
of a third; then the first is presented while it is the only one that has a manager, and turned and
switched there. -/
theorem isolated_along_tabs :
    let first : Widget Nat := ⟨0, 0, 0, false⟩
    let second : Widget Nat := ⟨1, 1, 0, false⟩
    let third : Widget Nat := ⟨2, 2, 1, false⟩
    let presentation : Widget Nat := ⟨3, 0, 2, true⟩
    let press : Input := .press (50, 50) true
    let readings : Nat → Reading := fun _ => ⟨some 0, some 0, true, true⟩
    Along step Isolated init
      [.createWidget first, .openManager 0 (some first), .setDocument 0 [1], .turnPage 0 (some 0),
        .createWidget second, .openManager 1 (some second), .setDocument 1 [1],
        .createWidget third, .openManager 2 (some third), .setDocument 2 [2],
        .mouse first press readings, .mouse first (.move (60, 50)) readings,
        .mouse second press readings, .mouse second .wheel readings, .key third true readings,
        .closeManager 1, .closeManager 2, .createWidget presentation, .show presentation,
        .request 0 0 (100, 100), .mouse presentation press readings,
        .key presentation true readings, .destroyWidget presentation] :=
  isolated_along_of_apart _ (by decide +kernel)

end Desktop

end Isolation

end OkularV3d
