import OkularV3d.Manager.PointerLiveness

/-!
# The state of a gesture

`m_Dragging` is set by a press of the left button over a model and reset by its release.
`m_SuppressPageViewRender` is set inside `refreshPixmap`, when only the presentation is redrawn, and
reset by a release, by the `Destroy` event of a presentation and by `Clear`; while it is set, the
generators serve the page view's requests stale.

The manager sees the mouse through event filters, on the viewport of its page view and on every
presentation that was shown. Between a press and a release Qt sends the mouse events to the widget
that got the press, while that widget is there. The state below is that of the pointers, with the
flag, the filters, the viewport of the document and the left button itself.

* `GestureState.Disciplined` is the property of a state: what the flags say is what the mouse does.
* `DragEffect` sums up what an event does to a drag, so that the step lemma has few cases.
* `disciplined_step_iff` is the step lemma, and `disciplined_along_iff` the result.
* `not_disciplined_keyInPresentation` is a run that breaks it.

The pointers of the manager, and whether what they point to is there, are in
`OkularV3d.Manager.PointerLiveness`.
-/

namespace OkularV3d

open Runs

namespace Pointers

/-- A press of the left button: its number, and the widget it was pressed over, if it is one of
Okular's. -/
structure Press where
  number : Nat
  widget : Option Widget
  deriving DecidableEq, Repr

/-- The manager and the mouse.

* `suppressPageViewRender`: the member of this name.
* `viewportPage`: the page number of the document's viewport.
* `filtered`: the presentations that have the manager's mouse filter.
* `presses`, `leftButton`: how often the left button went down, and the press that is still held.
* `dragPress`: the press that started the last drag. It is history: nothing below reads it. -/
structure GestureState where
  pointers : State
  suppressPageViewRender : Bool
  viewportPage : Option Nat
  filtered : List Widget
  presses : Nat
  leftButton : Option Press
  dragPress : Option Press
  deriving DecidableEq

/-- What happens.

* `window e`: an event of a window, of a timer or of the document. `mousePress source true` and
  `mouseRelease source true` are the left button going down and up over `source`.
* `elsewhere down`: the left button goes down or up over something else.
* `turnPage page`: the document's viewport moves. -/
inductive GestureEvent where
  | window (e : Event)
  | elsewhere (down : Bool)
  | turnPage (page : Option Nat)
  deriving DecidableEq, Repr

namespace State

/-- Whether `refreshPixmap` sets `m_SuppressPageViewRender`: it redraws the presentation only. -/
def suppresses (s : State) (viewportPage : Option Nat) (page : Nat) (screens : Screens) : Bool :=
  let presentationActive := s.presentationWidget.isSome
  let interactingWithPresentation :=
    presentationActive && s.lastEventSource.any fun w => w.isPresentation
  let dualScreen := !(presentationActive && s.pageView.isSome) || screens.dualScreen
  (s.cachedPage page).isSome && presentationActive && viewportPage == some page &&
    interactingWithPresentation && !dualScreen

/-- Whether an event resets the flag: a release that is looked at, a recognised `Destroy` and
`Clear`. -/
def resets (s : State) : Event → Bool
  | .mouseRelease source leftButton => source ∈ s.widgets && !s.idle && leftButton
  | .destroyWidget w recognised _ _ _ => w ∈ s.widgets && w.isPresentation && recognised
  | .loadDocument .. | .swapBackingFile _ => true
  | _ => false

/-- Whether an event starts a drag: a press of the left button that finds a model. -/
def startsDrag (s : State) : Event → Bool
  | .mousePress source leftButton hovered hit =>
    source ∈ s.widgets && !s.idle && leftButton && (s.hitModel hovered hit).isSome
  | _ => false

end State

namespace GestureEvent

/-- The left button goes down, over this widget. -/
def pressed : GestureEvent → Option (Option Widget)
  | .window (.mousePress source true _ _) => some (some source)
  | .elsewhere true => some none
  | _ => none

/-- The left button goes up. -/
def released : GestureEvent → Bool
  | .window (.mouseRelease _ true) | .elsewhere false => true
  | _ => false

end GestureEvent

/-- A button does not go up and down at once. -/
theorem GestureEvent.pressed_of_released (e : GestureEvent) (h : e.released = true) :
    e.pressed = none := by
  unfold released at h
  split at h <;> first | rfl | exact nomatch h

namespace GestureState

/-- A manager as it is constructed, with no button held. -/
def init : GestureState := ⟨.init, false, none, [], 0, none, none⟩

/-- The mouse events of a widget go through a filter of the manager. -/
def seen (s : GestureState) (w : Widget) : Bool :=
  w ∈ s.pointers.widgets && (s.pointers.pageView == some w || w ∈ s.filtered)

/-- The widget that got the press of the button that is held, while it is there. -/
def grabber (s : GestureState) : Option Widget :=
  (s.leftButton.bind (·.widget)).filter fun w => w ∈ s.pointers.widgets

/-- The event the manager handles, if there is one. Only a button that is up goes down, and only one
that is down goes up. -/
def received (s : GestureState) : GestureEvent → Option Event
  | .window (.mousePress source leftButton hovered hit) =>
    let target := s.grabber.getD source
    if s.seen target && !(leftButton && s.leftButton.isSome) then
      some (.mousePress target leftButton hovered hit)
    else none
  | .window (.mouseMove source refresh) =>
    let target := s.grabber.getD source
    if s.seen target then some (.mouseMove target refresh) else none
  | .window (.mouseRelease source leftButton) =>
    let target := s.grabber.getD source
    if s.seen target && !(leftButton && s.leftButton.isNone) then
      some (.mouseRelease target leftButton)
    else none
  | .window (.wheel source standalone onModel refresh) =>
    if s.seen source then some (.wheel source standalone onModel refresh) else none
  | .window e => some e
  | .elsewhere false =>
    match s.grabber with
    | some target => if s.seen target then some (.mouseRelease target true) else none
    | none => none
  | .elsewhere true | .turnPage _ => none

/-- The left button goes down, unless it is down. -/
def press (s : GestureState) (e : GestureEvent) : GestureState :=
  match e.pressed, s.leftButton with
  | some widget, none =>
    { s with leftButton := some ⟨s.presses, widget⟩, presses := s.presses + 1 }
  | _, _ => s

/-- The left button goes up. -/
def release (s : GestureState) (e : GestureEvent) : GestureState :=
  if e.released then { s with leftButton := none } else s

/-- The manager handles an event, and then refreshes a page if the handler ends so. -/
def handle (s : GestureState) (e : Event) : GestureState :=
  let outcome := s.pointers.handle e
  { s with
    pointers := outcome.state
    suppressPageViewRender :=
      (s.suppressPageViewRender && !s.pointers.resets e) ||
        outcome.refresh.any fun (page, screens) =>
          outcome.state.suppresses s.viewportPage page screens
    viewportPage := match e with
      | .closeDocument => none
      | _ => s.viewportPage
    filtered := match e with
      | .show w => if w ∈ s.pointers.widgets ∧ w.isPresentation then w :: s.filtered else s.filtered
      | _ => s.filtered
    dragPress := if s.pointers.startsDrag e then s.leftButton else s.dragPress }

/-- What the manager makes of an event. -/
def react (s : GestureState) : Option Event → GestureState
  | some e => s.handle e
  | none => s

/-- One event. -/
def step (s : GestureState) : GestureEvent → GestureState
  | .turnPage page => { s with viewportPage := page }
  | e => ((s.press e).react (s.received e)).release e

/-- A model is being dragged in a presentation window that is there. -/
def DraggedInPresentation (s : GestureState) : Prop :=
  s.pointers.dragging = true ∧ ∃ p w, s.dragPress = some p ∧ p.widget = some w ∧
    w.isPresentation = true ∧ w ∈ s.pointers.widgets

/-- The press that started the drag is still held. -/
def ButtonHeld (s : GestureState) : Prop := s.leftButton.isSome ∧ s.leftButton = s.dragPress

/-- **The state of a gesture is that of the mouse**: the page view is suppressed only while a model
is dragged in a presentation, and a model is dragged only while the button is held. -/
structure Disciplined (s : GestureState) : Prop where
  suppressed : s.suppressPageViewRender = true → s.DraggedInPresentation
  dragging : s.pointers.dragging = true → s.ButtonHeld

/-- The release of the left button reaches a manager that looks at it. -/
def ReleaseSeen (s : GestureState) (e : GestureEvent) : Prop :=
  s.pointers.pageView.isSome ∧ ∃ target, s.received e = some (.mouseRelease target true)

/-- The condition on an event: the release that should end a drag is seen and looked at, a refresh
of the presentation alone happens in the middle of a drag there, and a presentation is not destroyed
unrecognised while a drag in it suppresses the page view. -/
structure Kept (s : GestureState) (e : GestureEvent) : Prop where
  released : e.released = true → s.pointers.dragging = true → s.ReleaseSeen e
  refreshed : ∀ e', s.received e = some e' → ∀ page screens,
    (s.pointers.handle e').refresh = some (page, screens) →
      (s.pointers.handle e').state.suppresses s.viewportPage page screens = true →
        s.DraggedInPresentation
  destroyed : ∀ w closingDown page screens,
    e = .window (.destroyWidget w false closingDown page screens) →
      s.suppressPageViewRender = true → ∀ p, s.dragPress = some p → p.widget ≠ some w

end GestureState

/-! ### What the manager's handlers do to a drag -/

namespace State

variable {s : State}

/-- Without a presentation nothing is suppressed. -/
theorem suppresses_of_presentationWidget (h : s.presentationWidget = none)
    (viewportPage : Option Nat) (page : Nat) (screens : Screens) :
    s.suppresses viewportPage page screens = false := by
  simp [suppresses, h]

/-- **What an event does to a drag**: nothing; it starts one; it ends it, and resets the flag; a
widget goes; a presentation goes and is recognised. -/
inductive DragEffect (s : State) (e : Event) : Prop
  | keeps (hdragging : (s.handle e).state.dragging = s.dragging)
      (hwidgets : ∀ w ∈ s.widgets, w ∈ (s.handle e).state.widgets)
      (hrefresh : (s.handle e).refresh = none ∨ (s.handle e).state.widgets = s.widgets)
      (hresets : s.resets e = false) (hstarts : s.startsDrag e = false)
  | starts (hdragging : (s.handle e).state.dragging = true)
      (hwidgets : (s.handle e).state.widgets = s.widgets)
      (hrefresh : (s.handle e).refresh = none) (hresets : s.resets e = false)
      (hstarts : s.startsDrag e = true)
  | ends (hdragging : (s.handle e).state.dragging = false)
      (hrefresh : (s.handle e).refresh = none) (hresets : s.resets e = true)
      (hstarts : s.startsDrag e = false)
  | drops (w : Widget) (recognised closingDown : Bool) (page : Option Nat) (screens : Screens)
      (he : e = .destroyWidget w recognised closingDown page screens)
      (hunrecognised : (w.isPresentation && recognised) = false)
      (hdragging : (s.handle e).state.dragging = s.dragging)
      (hwidgets : ∀ w', w' ∈ (s.handle e).state.widgets ↔ w' ∈ s.widgets ∧ w' ≠ w)
      (hrefresh : (s.handle e).refresh = none)
  | forgets (hdragging : (s.handle e).state.dragging = s.dragging)
      (hpresentation : (s.handle e).state.presentationWidget = none) (hresets : s.resets e = true)
      (hstarts : s.startsDrag e = false)

/-- Models do not touch the drag. -/
theorem widgets_AddModel (models : List Nat) :
    (models.foldl AddModel s).widgets = s.widgets ∧
      (models.foldl AddModel s).dragging = s.dragging := by
  induction models generalizing s with
  | nil => exact ⟨rfl, rfl⟩
  | cons page models ih => exact ih

/-- Loading a document ends a drag. -/
theorem dragging_loadDocument (pageCount : Nat) (models : List Nat) (cachesPage : Bool) :
    (s.loadDocument pageCount models cachesPage).dragging = false := by
  simp only [loadDocument]
  split
  · split
    · exact widgets_AddModel models |>.2
    · exact widgets_AddModel models |>.2
  · exact widgets_AddModel models |>.2

/-- A request does not touch the drag. -/
theorem CacheRequest_keeps (page p : Nat) (priority : ImageCache.Priority) (observer : Nat) :
    (s.CacheRequest page p priority observer).dragging = s.dragging ∧
      (s.CacheRequest page p priority observer).widgets = s.widgets := by
  cases priority <;> exact ⟨rfl, rfl⟩

/-- An event that leaves the drag and the widgets alone. -/
theorem DragEffect.of_quiet {e : Event} (hdragging : (s.handle e).state.dragging = s.dragging)
    (hwidgets : (s.handle e).state.widgets = s.widgets) (hresets : s.resets e = false)
    (hstarts : s.startsDrag e = false) : s.DragEffect e :=
  .keeps hdragging (fun _ hw => hwidgets ▸ hw) (.inr hwidgets) hresets hstarts

/-- A press of the left button over a model starts a drag; no other press does. -/
theorem DragEffect.mousePress (source : Widget) (leftButton : Bool) (hovered hit : Option Nat) :
    s.DragEffect (.mousePress source leftButton hovered hit) := by
  have hidle : (s.noteEventSource source).idle = s.idle := rfl
  have hmodel : (s.noteEventSource source).hitModel hovered hit = s.hitModel hovered hit := rfl
  by_cases hstarts : s.startsDrag (.mousePress source leftButton hovered hit) = true
  · have hparts := hstarts
    simp only [startsDrag, Bool.and_eq_true, decide_eq_true_eq, Bool.not_eq_true'] at hparts
    obtain ⟨⟨⟨hsource, hno⟩, hleft⟩, hsome⟩ := hparts
    obtain ⟨⟨page, block, i⟩, hhit⟩ := Option.isSome_iff_exists.mp hsome
    have hout : s.handle (.mousePress source leftButton hovered hit) =
        (s.noteEventSource source).mouseButtonPressEvent leftButton hovered hit := if_pos hsource
    have hlooks : ¬ ((s.noteEventSource source).idle || !leftButton) = true := by
      simp [hidle, hno, hleft]
    refine .starts ?_ ?_ ?_ rfl hstarts
    · simp only [hout, mouseButtonPressEvent, if_neg hlooks, hmodel, hhit]
    · simp only [hout, mouseButtonPressEvent, if_neg hlooks, hmodel, hhit]
      rfl
    · simp only [hout, mouseButtonPressEvent, if_neg hlooks, hmodel, hhit]
  · have hstarts := Bool.eq_false_iff.mpr hstarts
    by_cases hsource : source ∈ s.widgets
    · have hout : s.handle (.mousePress source leftButton hovered hit) =
          (s.noteEventSource source).mouseButtonPressEvent leftButton hovered hit := if_pos hsource
      by_cases hlooks : ((s.noteEventSource source).idle || !leftButton) = true
      · refine .of_quiet ?_ ?_ rfl hstarts <;>
          simp only [hout, mouseButtonPressEvent, if_pos hlooks] <;> rfl
      · have hhit : s.hitModel hovered hit = none := by
          simp only [hidle, Bool.or_eq_true, Bool.not_eq_true', not_or, Bool.not_eq_true,
            Bool.not_eq_false] at hlooks
          simpa [startsDrag, hsource, hlooks] using hstarts
        refine .of_quiet ?_ ?_ rfl hstarts <;>
          simp only [hout, mouseButtonPressEvent, if_neg hlooks, hmodel, hhit] <;> rfl
    · have hout : s.handle (.mousePress source leftButton hovered hit) = ⟨s, [], none⟩ :=
        if_neg hsource
      refine .of_quiet ?_ ?_ rfl hstarts <;> rw [hout]

/-- A press refreshes nothing. -/
theorem refresh_mousePress (source : Widget) (leftButton : Bool) (hovered hit : Option Nat) :
    (s.handle (.mousePress source leftButton hovered hit)).refresh = none := by
  simp only [handle, mouseButtonPressEvent]
  split_ifs <;> first | rfl | (split <;> rfl)

/-- Nor does a release: there is no catch-up refresh here. -/
theorem refresh_mouseRelease (source : Widget) (leftButton : Bool) :
    (s.handle (.mouseRelease source leftButton)).refresh = none := by
  simp only [handle, mouseButtonReleaseEvent]
  split_ifs <;> rfl

/-- A release of the left button ends the drag, unless the manager does not look at it. -/
theorem DragEffect.mouseRelease (source : Widget) (leftButton : Bool) :
    s.DragEffect (.mouseRelease source leftButton) := by
  have hidle : (s.noteEventSource source).idle = s.idle := rfl
  by_cases hresets : s.resets (.mouseRelease source leftButton) = true
  · have hparts := hresets
    simp only [resets, Bool.and_eq_true, decide_eq_true_eq, Bool.not_eq_true'] at hparts
    obtain ⟨⟨hsource, hno⟩, hleft⟩ := hparts
    refine .ends ?_ ?_ hresets rfl <;>
      simp [handle, mouseButtonReleaseEvent, hsource, hidle, hno, hleft]
  · have hresets := Bool.eq_false_iff.mpr hresets
    refine .of_quiet ?_ ?_ hresets rfl
    all_goals
      simp only [handle, mouseButtonReleaseEvent, hidle]
      split_ifs with hsource hlooks
      · rfl
      · simp_all [resets]
      · rfl

/-- Every event is of one of the kinds. -/
theorem dragEffect (s : State) (e : Event) : s.DragEffect e := by
  cases e with
  | createWidget isPresentation =>
    exact .keeps rfl (fun _ hw => List.mem_cons_of_mem _ hw) (.inl rfl) rfl rfl
  | «show» w =>
    refine .of_quiet ?_ ?_ rfl rfl <;> simp only [handle] <;> split_ifs <;> rfl
  | destroyWidget w recognised closingDown page screens =>
    by_cases hw : w ∈ s.widgets
    · by_cases hrecognised : (w.isPresentation && recognised) = true
      · refine .forgets ?_ ?_ (by simp [resets, hw, hrecognised]) rfl <;>
          simp only [handle, if_pos hw, if_pos hrecognised] <;> rfl
      · have hunrecognised : (w.isPresentation && recognised) = false := by simpa using hrecognised
        refine .drops w recognised closingDown page screens rfl hunrecognised ?_ ?_ ?_
        all_goals simp only [handle, if_pos hw, if_neg hrecognised]
        · rfl
        · simp [dropWidget]
    · have hout : s.handle (.destroyWidget w recognised closingDown page screens) = ⟨s, [], none⟩ :=
        if_neg hw
      refine .of_quiet ?_ ?_ (by simp [resets, hw]) rfl <;> rw [hout]
  | bindPageView w =>
    refine .of_quiet ?_ ?_ rfl rfl <;> simp only [handle] <;> split_ifs <;> rfl
  | mousePress source leftButton hovered hit => exact .mousePress source leftButton hovered hit
  | mouseMove source refresh =>
    refine .of_quiet ?_ ?_ rfl rfl <;> simp only [handle, mouseMoveEvent] <;> split_ifs <;> rfl
  | mouseRelease source leftButton => exact .mouseRelease source leftButton
  | wheel source standalone onModel refresh =>
    refine .of_quiet ?_ ?_ rfl rfl <;> simp only [handle, wheelEvent] <;> split_ifs <;>
      first | rfl | (split <;> rfl)
  | key hovered hit screens =>
    refine .of_quiet ?_ ?_ rfl rfl <;> simp only [handle, keyPressEvent] <;> split_ifs <;> rfl
  | request page priority observer =>
    refine .of_quiet ?_ ?_ rfl rfl <;> simp only [handle] <;> split <;>
      simp [CacheRequest_keeps]
  | timer page screens => exact .of_quiet rfl rfl rfl rfl
  | loadDocument pageCount models cachesPage =>
    exact .ends (dragging_loadDocument pageCount models cachesPage) rfl rfl rfl
  | swapBackingFile models => exact .ends (widgets_AddModel models).2 rfl rfl rfl
  | closeDocument => exact .of_quiet rfl rfl rfl rfl

/-- A widget that is destroyed is gone. -/
theorem not_mem_widgets_destroyWidget (w : Widget) (recognised closingDown : Bool)
    (page : Option Nat) (screens : Screens) :
    w ∉ (s.handle (.destroyWidget w recognised closingDown page screens)).state.widgets := by
  simp only [handle]
  split_ifs with hw hrecognised
  · simp [presentationDestroyed, dropWidget]
  · simp [dropWidget]
  · exact hw

end State

namespace GestureState

variable {s : GestureState}

/-- Nothing is dragged while the button is up. -/
theorem Disciplined.not_dragging (hs : s.Disciplined) (hup : s.leftButton = none) :
    s.pointers.dragging = false := by
  by_contra h
  have hheld := hs.dragging (by simpa using h)
  exact absurd hheld.1 (by simp [hup])

/-- And nothing is suppressed while nothing is dragged. -/
theorem Disciplined.not_suppressed (hs : s.Disciplined) (h : s.pointers.dragging = false) :
    s.suppressPageViewRender = false := by
  by_contra hsuppressed
  have hdragged := hs.suppressed (by simpa using hsuppressed)
  exact absurd hdragged.1 (by simp [h])

/-- Where the drag goes on in the same place, a widget that is still there keeps it in a
presentation. -/
theorem DraggedInPresentation.mono {s' : GestureState} (h : s.DraggedInPresentation)
    (hdragging : s'.pointers.dragging = s.pointers.dragging) (hpress : s'.dragPress = s.dragPress)
    (hwidgets : ∀ p w, s.dragPress = some p → p.widget = some w → w.isPresentation = true →
      w ∈ s.pointers.widgets → w ∈ s'.pointers.widgets) : s'.DraggedInPresentation := by
  obtain ⟨hdrag, p, w, hp, hw, hpresentation, hmem⟩ := h
  exact ⟨hdragging.trans hdrag, p, w, hpress.trans hp, hw, hpresentation,
    hwidgets p w hp hw hpresentation hmem⟩

/-- The condition on an event that the manager handles. -/
structure Handled (s : GestureState) (e : Event) : Prop where
  refreshed : ∀ page screens, (s.pointers.handle e).refresh = some (page, screens) →
    (s.pointers.handle e).state.suppresses s.viewportPage page screens = true →
      s.DraggedInPresentation
  destroyed : ∀ w closingDown page screens, e = .destroyWidget w false closingDown page screens →
    s.suppressPageViewRender = true → ∀ p, s.dragPress = some p → p.widget ≠ some w

/-- A flag that survives its widget is out of place. -/
theorem Disciplined.destroyed {e : Event} (h : (s.handle e).Disciplined)
    (hstarts : s.pointers.startsDrag e = false) (hresets : s.pointers.resets e = false)
    {w : Widget} {closingDown : Bool} {page : Option Nat} {screens : Screens}
    (he : e = .destroyWidget w false closingDown page screens)
    (hsuppressed : s.suppressPageViewRender = true) {p : Press} (hp : s.dragPress = some p) :
    p.widget ≠ some w := by
  intro hw
  obtain ⟨-, p', w', hp', hw', -, hmem⟩ := h.suppressed (by simp [handle, hsuppressed, hresets])
  have hpress : (s.handle e).dragPress = some p := by simp [handle, hstarts, hp]
  obtain rfl : p = p' := Option.some.inj (hpress.symm.trans hp')
  obtain rfl : w = w' := Option.some.inj (hw.symm.trans hw')
  exact State.not_mem_widgets_destroyWidget w false closingDown page screens (he ▸ hmem)

/-- **Step lemma, for an event that starts no drag.** -/
theorem Disciplined.handle_iff (hs : s.Disciplined) {e : Event}
    (hstarts : s.pointers.startsDrag e = false) : (s.handle e).Disciplined ↔ s.Handled e := by
  have hpress : (s.handle e).dragPress = s.dragPress := by simp [handle, hstarts]
  have hheld : (s.handle e).ButtonHeld ↔ s.ButtonHeld := by
    rw [ButtonHeld, ButtonHeld, hpress]
    rfl
  have hgone : s.pointers.resets e = true → ∀ w closingDown page screens,
      e ≠ .destroyWidget w false closingDown page screens := by
    rintro hresets w closingDown page screens rfl
    exact absurd hresets (by simp [State.resets])
  -- one case for each thing an event can do to the drag
  cases s.pointers.dragEffect e with
  | keeps hdragging hwidgets hrefresh hresets _ =>
    constructor
    · intro h
      refine ⟨fun page screens hout hsup => ?_,
        fun w closingDown page screens he hsuppressed p hp =>
          h.destroyed hstarts hresets he hsuppressed hp⟩
      have hflag : (s.handle e).suppressPageViewRender = true := by simp [handle, hout, hsup]
      have hsame := hrefresh.resolve_left (by simp [hout])
      exact (h.suppressed hflag).mono hdragging.symm hpress.symm fun _ w _ _ _ hmem =>
        hsame ▸ hmem
    · intro h
      refine ⟨fun hflag => ?_, fun hdrag => hheld.mpr (hs.dragging (hdragging.symm.trans hdrag))⟩
      have hdragged : s.DraggedInPresentation := by
        simp only [handle, hresets, Bool.not_false, Bool.and_true, Bool.or_eq_true] at hflag
        rcases hflag with hsuppressed | hany
        · exact hs.suppressed hsuppressed
        · cases hout : (s.pointers.handle e).refresh with
          | none => exact absurd hany (by simp [hout])
          | some call => exact h.refreshed call.1 call.2 hout (by simpa [hout] using hany)
      exact hdragged.mono hdragging hpress fun _ w _ _ _ hmem => hwidgets w hmem
  | starts _ _ _ _ h => exact absurd h (by simp [hstarts])
  | ends hdragging hrefresh hresets _ =>
    refine iff_of_true ⟨fun hflag => ?_, fun hdrag => ?_⟩ ⟨fun page screens hout => ?_,
      fun w closingDown page screens he => absurd he (hgone hresets w closingDown page screens)⟩
    · exact absurd hflag (by simp [handle, hresets, hrefresh])
    · exact absurd (hdragging.symm.trans hdrag) (by simp)
    · exact absurd hout (by simp [hrefresh])
  | drops w recognised closingDown page screens he hunrecognised hdragging hwidgets hrefresh =>
    have hresets : s.pointers.resets e = false := by
      subst he
      simp [State.resets, Bool.and_assoc, hunrecognised]
    constructor
    · intro h
      refine ⟨fun page screens hout => absurd hout (by simp [hrefresh]),
        fun w closingDown page screens he hsuppressed p hp =>
          h.destroyed hstarts hresets he hsuppressed hp⟩
    · intro h
      refine ⟨fun hflag => ?_, fun hdrag => hheld.mpr (hs.dragging (hdragging.symm.trans hdrag))⟩
      have hsuppressed : s.suppressPageViewRender = true := by
        simpa [handle, hresets, hrefresh] using hflag
      refine (hs.suppressed hsuppressed).mono hdragging hpress
        fun p w' hp hw' hpresentation hmem => (hwidgets w').mpr ⟨hmem, ?_⟩
      rintro rfl
      have hrecognised : recognised = false := by simpa [hpresentation] using hunrecognised
      exact h.destroyed w' closingDown page screens (hrecognised ▸ he) hsuppressed p hp hw'
  | forgets hdragging hpresentation hresets _ =>
    have hnone : ∀ page screens,
        (s.pointers.handle e).state.suppresses s.viewportPage page screens = false :=
      State.suppresses_of_presentationWidget hpresentation s.viewportPage
    refine iff_of_true ⟨fun hflag => ?_, fun hdrag => ?_⟩ ⟨fun page screens _ hsup => ?_,
      fun w closingDown page screens he => absurd he (hgone hresets w closingDown page screens)⟩
    · exact absurd hflag (by simp [handle, hresets, hnone])
    · exact hheld.mpr (hs.dragging (hdragging.symm.trans hdrag))
    · exact absurd hsup (by simp [hnone])

/-! ### One event -/

/-- The manager handles the `Destroy` event of a widget when there is one. -/
theorem received_eq_destroyWidget {e : GestureEvent} {w : Widget} {recognised closingDown : Bool}
    {page : Option Nat} {screens : Screens} :
    s.received e = some (.destroyWidget w recognised closingDown page screens) ↔
      e = .window (.destroyWidget w recognised closingDown page screens) := by
  refine ⟨fun h => ?_, fun h => h ▸ rfl⟩
  cases e with
  | window e =>
    cases e with
    | mousePress | mouseMove | mouseRelease | wheel =>
      simp only [received] at h
      split_ifs at h
      exact nomatch h
    | _ => exact congrArg GestureEvent.window (Option.some.inj h)
  | elsewhere down =>
    cases down with
    | true => exact nomatch h
    | false =>
      simp only [received] at h
      split at h
      · split_ifs at h
        exact nomatch h
      · exact nomatch h
  | turnPage page => exact nomatch h

/-- An event that is no release keeps the discipline if what is received of it is handled. -/
theorem kept_iff_handled {e : GestureEvent} (hreleased : e.released = false) :
    s.Kept e ↔ ∀ e', s.received e = some e' → s.Handled e' := by
  constructor
  · rintro ⟨-, hrefreshed, hdestroyed⟩ e' he'
    refine ⟨hrefreshed e' he', ?_⟩
    rintro w closingDown page screens rfl
    exact hdestroyed w closingDown page screens (received_eq_destroyWidget.mp he')
  · intro h
    refine ⟨fun hyes => absurd hyes (by simp [hreleased]), fun e' he' => (h e' he').refreshed, ?_⟩
    rintro w closingDown page screens rfl
    exact (h _ rfl).destroyed w closingDown page screens rfl

/-- A press of the left button that the manager handles, if it does. -/
theorem received_press {e : GestureEvent} {widget : Option Widget}
    (hpressed : e.pressed = some widget) :
    s.received e = none ∨ s.leftButton = none ∧
      ∃ source hovered hit, s.received e = some (.mousePress source true hovered hit) := by
  unfold GestureEvent.pressed at hpressed
  split at hpressed
  · simp only [received]
    split_ifs with h
    · simp only [Bool.true_and, Bool.and_eq_true, Bool.not_eq_true', Option.isSome_eq_false_iff,
        Option.isNone_iff_eq_none] at h
      exact .inr ⟨h.2, _, _, _, rfl⟩
    · exact .inl rfl
  · exact .inl rfl
  · exact nomatch hpressed

/-- The state of the button is the user's, not the manager's. -/
@[simp] theorem pointers_press (e : GestureEvent) : (s.press e).pointers = s.pointers := by
  unfold press
  split <;> rfl

/-- While no button is held nothing is dragged, so a press changes nothing. -/
theorem Disciplined.press (hs : s.Disciplined) (e : GestureEvent) : (s.press e).Disciplined := by
  unfold GestureState.press
  split
  · rename_i hup
    have hnot := hs.not_dragging hup
    have hflag := hs.not_suppressed hnot
    exact ⟨fun h => absurd h (by simp [hflag]), fun h => absurd h (by simp [hnot])⟩
  · exact hs

/-- **A step, in parts**: the button goes down, the event is reacted to, the button goes up. -/
theorem step_eq {e : GestureEvent} (he : ∀ page, e ≠ .turnPage page) :
    s.step e = ((s.press e).react (s.received e)).release e := by
  cases e with
  | turnPage page => exact absurd rfl (he page)
  | _ => rfl

/-- The buttons ask for no refresh. -/
theorem handled_mousePress (source : Widget) (hovered hit : Option Nat) :
    s.Handled (.mousePress source true hovered hit) where
  refreshed _ _ h :=
    absurd ((s.pointers.refresh_mousePress source true hovered hit).symm.trans h) (by simp)
  destroyed _ _ _ _ h := nomatch h

/-- A release that is received ends the drag. -/
theorem handled_mouseRelease (source : Widget) : s.Handled (.mouseRelease source true) where
  refreshed _ _ h := absurd ((s.pointers.refresh_mouseRelease source true).symm.trans h) (by simp)
  destroyed _ _ _ _ h := nomatch h

/-- A press that is received may begin a drag, and keeps the discipline while nothing is
suppressed. -/
theorem Disciplined.handle_mousePress (hs : s.Disciplined) (hheld : s.leftButton.isSome)
    (hflag : s.suppressPageViewRender = false) (source : Widget) (hovered hit : Option Nat) :
    (s.handle (.mousePress source true hovered hit)).Disciplined := by
  by_cases hstarts : s.pointers.startsDrag (.mousePress source true hovered hit) = true
  · have hrefresh := s.pointers.refresh_mousePress source true hovered hit
    refine ⟨fun h => absurd h ?_, fun _ => ⟨hheld, ?_⟩⟩
    · simp [handle, hflag, hrefresh]
    · simp [handle, hstarts]
  · exact (hs.handle_iff (by simpa using hstarts)).mpr (handled_mousePress source hovered hit)

/-- **A press of the left button keeps the discipline.** -/
theorem Disciplined.step_press (hs : s.Disciplined) {e : GestureEvent} {widget : Option Widget}
    (hpressed : e.pressed = some widget) : (s.step e).Disciplined ∧ s.Kept e := by
  have hreleased : e.released = false := by
    by_contra h
    exact nomatch (e.pressed_of_released (by simpa using h)).symm.trans hpressed
  have hstep : s.step e = (s.press e).react (s.received e) := by
    rw [step_eq (by rintro page rfl; exact nomatch hpressed), GestureState.release]
    exact if_neg (by simp [hreleased])
  rw [hstep, kept_iff_handled hreleased]
  rcases received_press (s := s) hpressed with hnone | ⟨hup, source, hovered, hit, hreceived⟩
  · rw [hnone]
    exact ⟨hs.press e, fun e' he' => nomatch he'⟩
  · rw [hreceived]
    refine ⟨?_, fun e' he' => Option.some.inj he' ▸ handled_mousePress source hovered hit⟩
    have hflag := (hs.press e).not_suppressed ((congrArg State.dragging (pointers_press e)).trans
      (hs.not_dragging hup))
    exact (hs.press e).handle_mousePress (by simp [GestureState.press, hpressed, hup]) hflag
      source hovered hit

/-- The manager handles a release of the left button as that, or not at all. -/
theorem received_release {e : GestureEvent} (hreleased : e.released = true) :
    s.received e = none ∨
      ∃ target, target ∈ s.pointers.widgets ∧ s.received e = some (.mouseRelease target true) := by
  have hseen : ∀ target, s.seen target = true → target ∈ s.pointers.widgets := by
    intro target h
    simp only [seen, Bool.and_eq_true, decide_eq_true_eq] at h
    exact h.1
  unfold GestureEvent.released at hreleased
  split at hreleased
  · simp only [received]
    split_ifs with h
    · exact .inr ⟨_, hseen _ (Bool.and_eq_true_iff.mp h).1, rfl⟩
    · exact .inl rfl
  · simp only [received]
    split
    · split_ifs with h
      · exact .inr ⟨_, hseen _ h, rfl⟩
      · exact .inl rfl
    · exact .inl rfl
  · exact nomatch hreleased

/-- While a model is dragged the manager has models, so it has something to do while it has a page
view. -/
theorem idle_of_dragging (hsound : s.pointers.Sound) (hdragging : s.pointers.dragging = true) :
    s.pointers.idle = s.pointers.pageView.isNone := by
  obtain ⟨⟨block, index⟩, hactive⟩ := Option.isSome_iff_exists.mp (hsound.dragging hdragging)
  have halive := hsound.active block index hactive
  simp only [State.alive, List.any_eq_true] at halive
  obtain ⟨b, hb, -⟩ := halive
  have hmodels : s.pointers.models.isEmpty = false := by
    rw [List.isEmpty_eq_false_iff]
    exact List.ne_nil_of_mem hb
  simp [State.idle, hmodels]

/-- **The release of the left button ends a drag exactly when it is seen.** -/
theorem dragging_step_release (hsound : s.pointers.Sound) {e : GestureEvent}
    (hreleased : e.released = true) :
    (s.step e).pointers.dragging = true ↔ s.pointers.dragging = true ∧ ¬ s.ReleaseSeen e := by
  have hpressed := e.pressed_of_released hreleased
  have hstep : (s.step e).pointers = (s.react (s.received e)).pointers := by
    rw [step_eq (by rintro page rfl; exact nomatch hreleased), GestureState.release,
      if_pos hreleased, GestureState.press, hpressed]
  rw [hstep]
  rcases received_release (s := s) hreleased with hnone | ⟨target, htarget, hreceived⟩
  · simp [hnone, react, ReleaseSeen]
  · have hout : s.pointers.handle (.mouseRelease target true) =
        (s.pointers.noteEventSource target).mouseButtonReleaseEvent true := if_pos htarget
    have hidle : (s.pointers.noteEventSource target).idle = s.pointers.idle := rfl
    simp only [hreceived, react, handle, hout, State.mouseButtonReleaseEvent, hidle, ReleaseSeen,
      Bool.not_true, Bool.or_false]
    split_ifs with hlooks
    · refine ⟨fun hdragging => ⟨hdragging, ?_⟩, fun h => h.1⟩
      rintro ⟨hpageView, -⟩
      rw [idle_of_dragging hsound hdragging, Option.isNone_iff_eq_none] at hlooks
      exact absurd hpageView (by simp [hlooks])
    · refine iff_of_false (by simp) ?_
      rintro ⟨hdragging, hunseen⟩
      rw [idle_of_dragging hsound hdragging, Option.isNone_iff_eq_none] at hlooks
      exact hunseen ⟨Option.isSome_iff_ne_none.mpr hlooks, target, rfl⟩

/-- **A release of the left button keeps the discipline exactly when it is seen.** -/
theorem Disciplined.step_release (hs : s.Disciplined) (hsound : s.pointers.Sound)
    {e : GestureEvent} (hreleased : e.released = true) : (s.step e).Disciplined ↔ s.Kept e := by
  have hdrag := dragging_step_release hsound hreleased
  have hpressed : e.pressed = none := e.pressed_of_released hreleased
  have hstep : s.step e = { s.react (s.received e) with leftButton := none } := by
    rw [step_eq (by rintro page rfl; exact nomatch hreleased), GestureState.release,
      if_pos hreleased, GestureState.press, hpressed]
  -- before the button goes up the flag is in place, whatever the manager does with the release
  have hreact : (s.react (s.received e)).Disciplined := by
    rcases received_release (s := s) hreleased with hnone | ⟨target, -, hreceived⟩
    · exact hnone ▸ hs
    · exact hreceived ▸ (hs.handle_iff rfl).mpr (handled_mouseRelease target)
  constructor
  · intro h
    refine ⟨fun _ hdragging => ?_, fun e' he' => ?_, ?_⟩
    · by_contra hunseen
      have hheld := h.dragging (hdrag.mpr ⟨hdragging, hunseen⟩)
      exact absurd hheld.1 (by simp [hstep])
    · rcases received_release (s := s) hreleased with hnone | ⟨target, -, hreceived⟩
      · exact nomatch hnone.symm.trans he'
      · obtain rfl := Option.some.inj (hreceived.symm.trans he')
        exact (handled_mouseRelease target).refreshed
    · rintro w closingDown page screens rfl
      exact nomatch hreleased
  · intro h
    have hnot : ¬ (s.step e).pointers.dragging = true := fun hdragging =>
      (hdrag.mp hdragging).2 (h.released hreleased (hdrag.mp hdragging).1)
    refine ⟨fun hsuppressed => ?_, fun hdragging => absurd hdragging hnot⟩
    rw [hstep] at hsuppressed hnot
    exact absurd (hreact.suppressed hsuppressed).1 hnot

/-- Only a press of the left button starts a drag. -/
theorem not_startsDrag_of_received {e : GestureEvent} (hpressed : e.pressed = none) {e' : Event}
    (he' : s.received e = some e') : s.pointers.startsDrag e' = false := by
  cases e with
  | window e =>
    cases e with
    | mousePress source leftButton hovered hit =>
      have hleft : leftButton = false := by
        cases leftButton with
        | false => rfl
        | true => exact nomatch hpressed
      simp only [received] at he'
      split_ifs at he'
      cases he'
      simp [State.startsDrag, hleft]
    | mouseMove | mouseRelease | wheel =>
      simp only [received] at he'
      split_ifs at he'
      cases he'
      rfl
    | _ =>
      cases he'
      rfl
  | elsewhere down =>
    cases down with
    | true => exact nomatch he'
    | false =>
      simp only [received] at he'
      split at he'
      · split_ifs at he'
        cases he'
        rfl
      · exact nomatch he'
  | turnPage page => exact nomatch he'

/-- **Step lemma**: an event keeps the discipline exactly when its condition holds. -/
theorem disciplined_step_iff (hs : s.Disciplined) (hsound : s.pointers.Sound) (e : GestureEvent) :
    (s.step e).Disciplined ↔ s.Kept e := by
  by_cases hreleased : e.released = true
  · exact hs.step_release hsound hreleased
  have hreleased := Bool.eq_false_iff.mpr hreleased
  cases hpressed : e.pressed with
  | some widget =>
    obtain ⟨hdisciplined, hkept⟩ := hs.step_press hpressed
    exact iff_of_true hdisciplined hkept
  | none =>
    rw [kept_iff_handled hreleased]
    by_cases hturn : ∃ page, e = .turnPage page
    · obtain ⟨page, rfl⟩ := hturn
      exact iff_of_true ⟨hs.suppressed, hs.dragging⟩ fun e' he' => nomatch he'
    · have hstep : s.step e = s.react (s.received e) := by
        rw [step_eq (not_exists.mp hturn), GestureState.release, GestureState.press, hpressed]
        exact if_neg (by simp [hreleased])
      rw [hstep]
      cases hreceived : s.received e with
      | none => exact iff_of_true hs fun e' he' => nomatch he'
      | some e' =>
        have hiff := hs.handle_iff (not_startsDrag_of_received hpressed hreceived)
        exact hiff.trans ⟨fun h e'' he'' => Option.some.inj he'' ▸ h, fun h => h e' rfl⟩

/-- No step makes the pointers unsound. -/
theorem sound_step (hsound : s.pointers.Sound) (e : GestureEvent) :
    (s.step e).pointers.Sound := by
  have hreact : ∀ (t : GestureState) e', t.pointers.Sound → (t.react e').pointers.Sound := by
    rintro t (_ | e') ht
    · exact ht
    · exact State.sound_step ht e'
  have hrelease : ∀ t : GestureState, (t.release e).pointers = t.pointers := by
    intro t
    unfold GestureState.release
    split <;> rfl
  cases e with
  | turnPage page => exact hsound
  | window | elsewhere =>
    rw [step_eq (by simp), hrelease]
    exact hreact _ _ (by rwa [pointers_press])

/-- In the beginning nothing is dragged. -/
theorem disciplined_init : init.Disciplined where
  suppressed h := nomatch h
  dragging h := nomatch h

/-- **The state of a gesture is that of the mouse, in every state a run reaches, exactly when every
event keeps it so**: no release that should end a drag goes by unseen, none is dropped for want of a
page view, no refresh of the presentation alone happens outside a drag there, and no presentation is
destroyed unrecognised in the middle of one. -/
theorem disciplined_along_iff (events : List GestureEvent) :
    Along step (fun s e => (s.step e).Disciplined) init events ↔ Along step Kept init events := by
  have hiff : ∀ (s : GestureState) e, s.Disciplined ∧ s.pointers.Sound →
      ((s.step e).Disciplined ↔ s.Kept e) := fun _ e hs => disciplined_step_iff hs.1 hs.2 e
  exact along_iff_of_invariant hiff
    (fun s e hs hkept => ⟨(hiff s e hs).mpr hkept, sound_step hs.2 e⟩)
    ⟨disciplined_init, State.sound_init⟩ events

/-! ### A key in a presentation, a page view that goes -/

/-- A document with one model is open, and its presentation is on the screen of its page view. -/
def presentationShown : List GestureEvent :=
  [.window (.createWidget false), .window (.bindPageView ⟨0, false⟩),
    .window (.loadDocument 1 [0] false), .turnPage (some 0), .window (.createWidget true),
    .window (.show ⟨3, true⟩), .window (.request 0 .presentation 7),
    .window (.mouseMove ⟨3, true⟩ none)]

/-- `H` is pressed with the mouse over the model, and no button. -/
def keyInPresentation : List GestureEvent :=
  presentationShown ++ [.window (.key (some 0) (some 0) ⟨true, false⟩)]

/-- The page view goes in the middle of a drag in the presentation, and then the button goes up. -/
def pageViewGone : List GestureEvent :=
  presentationShown ++ [.window (.mousePress ⟨3, true⟩ true (some 0) (some 0)),
    .window (.destroyWidget ⟨0, false⟩ false false none ⟨true, false⟩),
    .window (.mouseRelease ⟨3, true⟩ true)]

/-- **The flag is set with no drag, and a drag outlives its button.** -/
theorem not_disciplined_keyInPresentation :
    ¬ Along step (fun s e => (s.step e).Disciplined) init keyInPresentation ∧
      ¬ Along step (fun s e => (s.step e).Disciplined) init pageViewGone := by
  constructor
  · intro h
    have hlast := ((along_append init presentationShown _).mp h).2.1
    have hflag : (runState step init keyInPresentation).suppressPageViewRender = true ∧
        (runState step init keyInPresentation).pointers.dragging = false := by decide +kernel
    have hdragging : (runState step init keyInPresentation).pointers.dragging = true :=
      (hlast.suppressed hflag.1).1
    exact Bool.false_ne_true (hflag.2.symm.trans hdragging)
  · intro h
    have hlast := ((along_append init presentationShown _).mp h).2.2.2.1
    have hflag : (runState step init pageViewGone).pointers.dragging = true ∧
        (runState step init pageViewGone).leftButton = none := by decide +kernel
    have hheld : (runState step init pageViewGone).leftButton.isSome := (hlast.dragging hflag.1).1
    exact absurd hheld (by simp [hflag.2])

end GestureState

end Pointers

end OkularV3d
