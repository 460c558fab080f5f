import OkularV3d.Lib.Throttle
import OkularV3d.Model.Window

/-!
# The last frame of a gesture

While a model is dragged, every move of the mouse changes its view and asks for a refresh of its
page. `requestPixmapRefresh` sends these requests through a throttle: one that comes within a
sixtieth of a second of the last refresh is dropped. `refreshPixmap` says of the release of the
button that it "also triggers one catch-up PageView refresh"; the release handler does not.

`refreshesLastChange_iff` says when the last change of a gesture is followed by a refresh: iff some
move from this change on comes more than a sixtieth of a second after `m_LastPixmapRefreshTime`, as
it stands at the change. Where it does, the page is drawn with the view that the gesture ends with
(`shownView_eq`).

* `DragState` and `handle` model the three handlers on one model; `Motion` is what can happen
  between press and release.
* `throttled` casts the handlers as the machine of `OkularV3d.Lib.Throttle`, whose lemmas say when a
  request passes.
* `late_iff` turns the moves of a gesture into the requests of that machine.
* `not_refreshesLastChange_twoMoves` is the failing drag, with moves at 1 s and 1.01 s.
-/

namespace OkularV3d

open Runs Throttle

namespace ImageCache

/-- A move of the mouse: its position, its modifiers, the position on the page that
`GetNormalizedPositionRelativeToPage` gives for a position in the widget, the size of the viewport,
and the readings of the clock (in seconds) in `requestPixmapRefresh`. -/
structure MouseMove (F : Type) where
  position : Int × Int
  controlKey : Bool
  shiftKey : Bool
  altKey : Bool
  onPage : Int × Int → Vec2 F
  pageViewSize : Vec2 F
  asked : ℚ
  done : ℚ

/-- What happens while the button is down: the mouse moves, or a page is drawn, and the model with
it on a canvas of some size. -/
inductive Motion (F : Type) where
  | move (event : MouseMove F)
  | draw (size : Vec2 F)

/-- An event of a gesture on one model: the button is pressed over the model, on this page. -/
inductive GestureEvent (F : Type) where
  | press (position : Int × Int) (page : Nat)
  | motion (m : Motion F)
  | release

/-- The members of the manager that a gesture on one model uses. -/
structure DragState (D F S : Type) where
  model : Model D F S
  dragging : Bool
  activeModelPage : Int
  mousePosition : Int × Int
  lastMousePosition : Int × Int
  lastPixmapRefreshTime : ℚ

namespace DragState

variable {D F S : Type} [Scalar D] [Scalar F] [Rounding D F] [ViewScalar D F]

/-- `m_MinTimeBetweenRefreshes`, in seconds. -/
def minTimeBetweenRefreshes : ℚ := 1 / 60

/-- `requestPixmapRefresh`, with the page that is refreshed. -/
def requestPixmapRefresh (s : DragState D F S) (page : Int) (asked done : ℚ) :
    DragState D F S × Option Int :=
  if minTimeBetweenRefreshes < asked - s.lastPixmapRefreshTime then
    ({ s with lastPixmapRefreshTime := done }, some page)
  else (s, none)

/-- What a move does to the model, by the modifiers. -/
def dragModel (m : Model D F S) (e : MouseMove F) (position last : Int × Int) : Model D F S :=
  let onModel (p : Vec2 F) : Vec2 F :=
    ⟨(p.x - m.minBound.x) / (m.maxBound.x - m.minBound.x),
      (p.y - m.minBound.y) / (m.maxBound.y - m.minBound.y)⟩
  let pos := onModel (e.onPage position)
  let last := onModel (e.onPage last)
  if e.controlKey && !e.shiftKey && !e.altKey then m.dragModeShift pos last
  else if !e.controlKey && e.shiftKey && !e.altKey then m.dragModeZoom pos last e.pageViewSize
  else if !e.controlKey && !e.shiftKey && e.altKey then m.dragModePan pos last
  else m.dragModeRotate pos last

/-- `mouseMoveEvent`, with the page that is refreshed. -/
def mouseMoveEvent (s : DragState D F S) (e : MouseMove F) : DragState D F S × Option Int :=
  let s := { s with mousePosition := e.position }
  if s.dragging then
    let s := { s with model := dragModel s.model e s.mousePosition s.lastMousePosition }
    let (s, refreshed) := s.requestPixmapRefresh s.activeModelPage e.asked e.done
    ({ s with lastMousePosition := s.mousePosition }, refreshed)
  else ({ s with lastMousePosition := s.mousePosition }, none)

/-- `mouseButtonPressEvent`, over the model. -/
def mouseButtonPressEvent (s : DragState D F S) (position : Int × Int) (page : Nat) :
    DragState D F S :=
  { s with
    mousePosition := position
    dragging := true
    lastMousePosition := position
    activeModelPage := page }

/-- `mouseButtonReleaseEvent`. -/
def mouseButtonReleaseEvent (s : DragState D F S) : DragState D F S :=
  { s with dragging := false, activeModelPage := -1 }

/-- The state after an event, and the page it refreshes. -/
def handle (s : DragState D F S) : GestureEvent F → DragState D F S × Option Int
  | .press position page => (s.mouseButtonPressEvent position page, none)
  | .motion (.move e) => s.mouseMoveEvent e
  | .motion (.draw size) => ({ s with model := s.model.setProjection size }, none)
  | .release => (s.mouseButtonReleaseEvent, none)

/-- The request an event makes. -/
def request (s : DragState D F S) : GestureEvent F → Option (Request ℚ)
  | .motion (.move e) => if s.dragging then some ⟨e.asked, e.done⟩ else none
  | _ => none

/-- A drag from the press on: the mouse moves, and the button is released. -/
def dragEvents (motions : List (Motion F)) : List (GestureEvent F) :=
  motions.map .motion ++ [.release]

/-- A gesture: the button is pressed, the mouse moves, and the button is released. -/
def gesture (position : Int × Int) (page : Nat) (motions : List (Motion F)) :
    List (GestureEvent F) :=
  .press position page :: dragEvents motions

/-! ### The throttle of the manager -/

/-- What a move of a drag does to the state, and when it refreshes the page. -/
theorem mouseMoveEvent_of_dragging {s : DragState D F S} (hs : s.dragging = true)
    (e : MouseMove F) :
    s.mouseMoveEvent e =
      ({ s with
          model := dragModel s.model e e.position s.lastMousePosition
          mousePosition := e.position
          lastMousePosition := e.position
          lastPixmapRefreshTime :=
            if minTimeBetweenRefreshes < e.asked - s.lastPixmapRefreshTime then e.done
            else s.lastPixmapRefreshTime },
        if minTimeBetweenRefreshes < e.asked - s.lastPixmapRefreshTime then
          some s.activeModelPage
        else none) := by
  unfold mouseMoveEvent requestPixmapRefresh
  simp only [hs, if_true]
  split_ifs <;> rfl

/-- A move without a drag changes nothing but the position of the mouse. -/
theorem mouseMoveEvent_of_not_dragging {s : DragState D F S} (hs : s.dragging = false)
    (e : MouseMove F) :
    s.mouseMoveEvent e =
      ({ s with mousePosition := e.position, lastMousePosition := e.position }, none) := by
  simp only [mouseMoveEvent, hs, Bool.false_eq_true, if_false]

/-- An event refreshes the page of the drag. -/
def Refreshes (s : DragState D F S) (e : GestureEvent F) : Prop :=
  (s.handle e).2 = some s.activeModelPage

instance (s : DragState D F S) (e : GestureEvent F) : Decidable (s.Refreshes e) :=
  inferInstanceAs (Decidable (_ = _))

/-- **An event refreshes the page** iff it makes a request that is late for the time of the last
refresh. -/
theorem refreshes_iff (s : DragState D F S) (e : GestureEvent F) :
    s.Refreshes e ↔
      ∃ r ∈ s.request e, minTimeBetweenRefreshes < r.asked - s.lastPixmapRefreshTime := by
  obtain ⟨position, page⟩ | ⟨e | size⟩ | _ := e
  · exact iff_of_false (by simp [Refreshes, handle]) (by simp [request])
  · change (s.mouseMoveEvent e).2 = some s.activeModelPage ↔ _
    cases hs : s.dragging with
    | false =>
      rw [s.mouseMoveEvent_of_not_dragging hs e]
      exact iff_of_false (by simp) (by simp [request, hs])
    | true =>
      have hrequest : s.request (.motion (.move e)) = some ⟨e.asked, e.done⟩ := by
        simp only [request, hs, if_true]
      rw [s.mouseMoveEvent_of_dragging hs e, hrequest]
      constructor
      · intro hpage
        exact ⟨_, rfl, by_contra fun hearly => by simp [hearly] at hpage⟩
      · rintro ⟨r, hr, hlate⟩
        obtain rfl := Option.some.inj hr
        exact if_pos hlate
  · exact iff_of_false (by simp [Refreshes, handle]) (by simp [request])
  · exact iff_of_false (by simp [Refreshes, handle]) (by simp [request])

/-- An event that refreshes nothing keeps the time of the last refresh. -/
theorem lastPixmapRefreshTime_handle {s : DragState D F S} {e : GestureEvent F}
    (h : ¬ s.Refreshes e) : (s.handle e).1.lastPixmapRefreshTime = s.lastPixmapRefreshTime := by
  rw [refreshes_iff] at h
  obtain ⟨position, page⟩ | ⟨e | size⟩ | _ := e
  · rfl
  · change (s.mouseMoveEvent e).1.lastPixmapRefreshTime = s.lastPixmapRefreshTime
    cases hs : s.dragging with
    | false => rw [s.mouseMoveEvent_of_not_dragging hs e]
    | true =>
      have hearly : ¬ minTimeBetweenRefreshes < e.asked - s.lastPixmapRefreshTime := fun hlate =>
        h ⟨⟨e.asked, e.done⟩, by simp [request, hs], hlate⟩
      rw [s.mouseMoveEvent_of_dragging hs e]
      exact if_neg hearly
  · rfl
  · rfl

/-- The manager as a throttled system. -/
def throttled (D F S : Type) [Scalar D] [Scalar F] [Rounding D F] [ViewScalar D F] :
    Throttled (DragState D F S) (GestureEvent F) ℚ where
  step s e := (s.handle e).1
  gap := minTimeBetweenRefreshes
  last := lastPixmapRefreshTime
  request := request
  passes := Refreshes
  passes_iff := refreshes_iff
  last_dropped _ _ := lastPixmapRefreshTime_handle

instance (s : DragState D F S) (e : GestureEvent F) : Decidable ((throttled D F S).passes s e) :=
  inferInstanceAs (Decidable (s.Refreshes e))

/-- An event changes the view of the model. -/
def ChangesView (s : DragState D F S) (e : GestureEvent F) : Prop :=
  (throttled D F S).Changes (fun s => s.model.view) s e

/-- **No final refresh is lost**: from the last event of the gesture that changes the view on, the
page is refreshed. -/
def RefreshesLastChange (s : DragState D F S) (position : Int × Int) (page : Nat)
    (motions : List (Motion F)) : Prop :=
  (throttled D F S).ServesLastChange ChangesView s (gesture position page motions)

/-- Some move of these events comes late for `time`. -/
def MoveLate (time : ℚ) (es : List (GestureEvent F)) : Prop :=
  ∃ e, .motion (.move e) ∈ es ∧ minTimeBetweenRefreshes < e.asked - time

/-- The condition: from the last event that changes the view on, some move comes late for
`m_LastPixmapRefreshTime` as it stands before this event. -/
def MovesLate (s : DragState D F S) (position : Int × Int) (page : Nat)
    (motions : List (Motion F)) : Prop :=
  let step : DragState D F S → GestureEvent F → DragState D F S := fun s e => (s.handle e).1
  ∀ before e after, gesture position page motions = before ++ e :: after →
    ChangesView (runState step s before) e →
      Along step (fun s e => ¬ s.ChangesView e) (runState step s (before ++ [e])) after →
        MoveLate (runState step s before).lastPixmapRefreshTime (e :: after)

/-! ### During the drag -/

/-- A motion does not end the drag, and the drag stays on its page. -/
theorem handle_motion_keeps {s : DragState D F S} (hs : s.dragging = true) (m : Motion F) :
    (s.handle (.motion m)).1.dragging = true ∧
      (s.handle (.motion m)).1.activeModelPage = s.activeModelPage := by
  obtain e | size := m
  · rw [handle, s.mouseMoveEvent_of_dragging hs e]
    exact ⟨hs, rfl⟩
  · exact ⟨hs, rfl⟩

/-- What is left of a drag after some of its events, if anything is: the drag goes on. -/
theorem exists_motions {s : DragState D F S} (hs : s.dragging = true)
    {before es : List (GestureEvent F)} {motions : List (Motion F)}
    (hsplit : dragEvents motions = before ++ es) (hne : es ≠ []) :
    ∃ rest, es = dragEvents rest ∧
      (runState (throttled D F S).step s before).dragging = true := by
  induction before generalizing s motions with
  | nil => exact ⟨motions, hsplit.symm, hs⟩
  | cons b before ih =>
    cases motions with
    | nil =>
      -- nothing comes after the release
      have hnil : before ++ es = [] := (List.cons.inj hsplit).2.symm
      exact absurd (List.append_eq_nil_iff.mp hnil).2 hne
    | cons m motions =>
      obtain ⟨rfl, htail⟩ := List.cons.inj hsplit
      exact ih ((handle_motion_keeps hs m).1) htail

/-- During the drag, a request is late iff a move is. -/
theorem late_iff {s : DragState D F S} (hs : s.dragging = true) (motions : List (Motion F))
    (time : ℚ) :
    (throttled D F S).Late time s (dragEvents motions) ↔ MoveLate time (dragEvents motions) := by
  induction motions generalizing s with
  | nil =>
    have hrequest : s.request .release = none := rfl
    refine iff_of_false ?_ ?_
    · rintro (⟨r, hr, -⟩ | htail)
      · cases hrequest.symm.trans hr
      · exact htail
    · rintro ⟨e, he, -⟩
      cases List.mem_singleton.mp he
  | cons m motions ih =>
    have htail := ih ((handle_motion_keeps hs m).1)
    have hhead : (∃ r ∈ s.request (.motion m), minTimeBetweenRefreshes < r.asked - time) ↔
        ∃ e, m = .move e ∧ minTimeBetweenRefreshes < e.asked - time := by
      obtain e | size := m
      · simp [request, hs]
      · simp [request]
    have hcons : MoveLate time (dragEvents (m :: motions)) ↔
        (∃ e, m = .move e ∧ minTimeBetweenRefreshes < e.asked - time) ∨
          MoveLate time (dragEvents motions) := by
      simp only [MoveLate, dragEvents, List.map_cons, List.cons_append, List.mem_cons,
        GestureEvent.motion.injEq, or_and_right, exists_or, eq_comm]
    rw [hcons]
    exact or_congr hhead htail

/-- **The last change of a gesture is refreshed** iff some move from it on comes late. -/
theorem refreshesLastChange_iff (s : DragState D F S) (position : Int × Int) (page : Nat)
    (motions : List (Motion F)) :
    s.RefreshesLastChange position page motions ↔ s.MovesLate position page motions := by
  rw [RefreshesLastChange, Throttled.servesLastChange_iff]
  refine forall_congr' fun before => forall_congr' fun e => forall_congr' fun after =>
    imp_congr_right fun hsplit => imp_congr_right fun hchanges => imp_congr_right fun _ => ?_
  cases before with
  | nil =>
    -- the press changes no view
    obtain ⟨rfl, -⟩ := List.cons.inj hsplit
    exact absurd rfl hchanges
  | cons b before =>
    obtain ⟨rfl, htail⟩ := List.cons.inj hsplit
    have hpressed : (s.mouseButtonPressEvent position page).dragging = true := rfl
    obtain ⟨rest, hrest, hdragging⟩ := exists_motions hpressed htail (List.cons_ne_nil _ _)
    rw [hrest]
    exact late_iff hdragging rest _

/-- The view that the page is drawn with: the one of its last refresh, at first the one that the
gesture starts with. -/
def shownView (s : DragState D F S) (events : List (GestureEvent F)) : View D F :=
  (throttled D F S).copy (fun s => s.model.view) s s.model.view events

/-- **Where no final refresh is lost, the page shows the view that the gesture ends with.** -/
theorem shownView_eq {s : DragState D F S} {position : Int × Int} {page : Nat}
    {motions : List (Motion F)} (h : s.RefreshesLastChange position page motions) :
    s.shownView (gesture position page motions) =
      (runState (throttled D F S).step s (gesture position page motions)).model.view :=
  Throttled.copy_eq_of_servesLastChange h

/-- A model at zoom two, over the whole of its page, that has not been drawn yet. -/
def squareDrag : DragState ℚ ℚ Unit :=
  { model := squareModel
    dragging := false
    activeModelPage := -1
    mousePosition := (0, 0)
    lastMousePosition := (0, 0)
    lastPixmapRefreshTime := 0 }

/-- A move with the control key, over a page of a hundred pixels. -/
def shiftMove (x : Int) (time : ℚ) : Motion ℚ :=
  .move
    { position := (x, 0)
      controlKey := true
      shiftKey := false
      altKey := false
      onPage := fun p => ⟨p.1 / 100, p.2 / 100⟩
      pageViewSize := ⟨100, 100⟩
      asked := time
      done := time }

/-- The second of two moves within ten milliseconds is not shown. -/
theorem not_refreshesLastChange_twoMoves :
    ¬ squareDrag.RefreshesLastChange (0, 0) 0 [shiftMove 10 1, shiftMove 20 (101 / 100)] := by
  intro h
  have hchanges : ChangesView (runState (throttled ℚ ℚ Unit).step squareDrag
      [.press (0, 0) 0, .motion (shiftMove 10 1)]) (.motion (shiftMove 20 (101 / 100))) :=
    fun hsame => absurd (congrArg View.xShift hsame) (by decide +kernel)
  obtain hmove | hrelease | hnone :=
    h [.press (0, 0) 0, .motion (shiftMove 10 1)] _ [.release] rfl hchanges
      ⟨fun hrelease => hrelease rfl, trivial⟩
  · exact absurd hmove (by decide +kernel)
  · exact absurd hrelease (by decide +kernel)
  · exact hnone

end DragState

end ImageCache

end OkularV3d
