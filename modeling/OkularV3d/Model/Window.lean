import OkularV3d.Scene.Exact
import OkularV3d.Manager.View

/-!
# The view window

`setDimensions` computes the window that the projection maps to the canvas: the bounds of a box
(orthographic) or of the near face of a frustum (perspective). It has three branches with different
half extents, and in two of them one axis keeps the bounds of the file, which need not be centred.

In an ordered field all three are one formula (`setDimensions_eq`): the `extent` of the window at
zoom one and its lower left `corner`, divided by the zoom, and moved by the shift times the
`extent`. So the window is valid for every valid header (`validWindow`), but a drag in shift mode
moves it by the distance the mouse moves only at zoom one (`shiftFollows_iff`): `dragModeShift` adds
the distance to the shift without dividing it by the zoom.

* `Proper` is a header with a view, `ValidWindow` what is to hold of the window on a canvas.
* `Follows` says that the point under the mouse stays under it; `Frustum.follows_iff` reduces it to
  a moved window, and `ZoomCancels` is the condition it comes down to.
* `squareModel` is a model at zoom two on which the drag overshoots, `unzoomedModel` one at zoom one
  on which it does not.
-/

namespace OkularV3d

namespace ImageCache

variable {K S : Type} [ExactScalar K]

namespace Frustum

/-- The width of the window. -/
def width (f : Frustum K) : K := f.xmax - f.xmin

/-- The height of the window. -/
def height (f : Frustum K) : K := f.ymax - f.ymin

/-- The point of the window under a position on the canvas, in `[0, 1]` from the upper left
corner. -/
def pointUnder (f : Frustum K) (p : Vec2 K) : Vec2 K :=
  ⟨f.xmin + p.x * f.width, f.ymax - p.y * f.height⟩

/-- **The window follows the mouse** from `last` to `pos`: it moves by the same part of its size,
keeps its size, and shows the point that was under `last` under `pos`. -/
structure Follows (f f' : Frustum K) (pos last : Vec2 K) : Prop where
  xmin : f'.xmin = f.xmin - (pos.x - last.x) * f.width
  xmax : f'.xmax = f.xmax - (pos.x - last.x) * f.width
  ymin : f'.ymin = f.ymin + (pos.y - last.y) * f.height
  ymax : f'.ymax = f.ymax + (pos.y - last.y) * f.height
  width : f'.width = f.width
  height : f'.height = f.height
  under : f'.pointUnder pos = f.pointUnder last

end Frustum

variable [ViewScalar K K]

namespace HeaderInfo

/-- The size of the window at zoom one: the scene, widened or heightened to the aspect of the
canvas, or what the angle of view shows of the front plane. -/
def extent (h : HeaderInfo K) (size : Vec2 K) : Vec2 K :=
  let aspect := size.x / size.y
  let xsize := h.maxBound.x - h.minBound.x
  let ysize := h.maxBound.y - h.minBound.y
  if h.orthographic then
    if xsize < ysize * aspect then ⟨ysize * aspect, ysize⟩ else ⟨xsize, xsize / aspect⟩
  else ⟨2 * Model.halfHeight K h * aspect, 2 * Model.halfHeight K h⟩

/-- The lower left corner of the window at zoom one without a shift. The axis that is not adapted to
the canvas keeps the bound of the file. -/
def corner (h : HeaderInfo K) (size : Vec2 K) : Vec2 K :=
  let aspect := size.x / size.y
  let xsize := h.maxBound.x - h.minBound.x
  let ysize := h.maxBound.y - h.minBound.y
  let centred : Vec2 K := ⟨-(h.extent size).x / 2, -(h.extent size).y / 2⟩
  if h.orthographic then
    if xsize < ysize * aspect then ⟨centred.x, h.minBound.y⟩ else ⟨h.minBound.x, centred.y⟩
  else centred

/-- A header with a view: the bounds are in order, or the scene is in front of the eye and the angle
of view has a positive tangent. -/
structure Proper (h : HeaderInfo K) : Prop where
  bounds : h.orthographic = true →
    h.minBound.x < h.maxBound.x ∧ h.minBound.y < h.maxBound.y
  angle : h.orthographic = false →
    h.maxBound.z < 0 ∧ 0 < (ViewScalar.tan K (Scalar.lit (1 / 2) * h.angleOfView) : K)

end HeaderInfo

namespace Model

/-- The model under another view. -/
def withView (m : Model K K S) (view : View K K) : Model K K S := { m with view }

/-- **A valid window** for a canvas of this size: not inside out, of the aspect of the canvas, of a
size that does not depend on the shift and is inversely proportional to the zoom, and at zoom one
not smaller than an orthographic scene. -/
structure ValidWindow (m : Model K K S) (size : Vec2 K) : Prop where
  x_ordered : (m.setDimensions size).xmin < (m.setDimensions size).xmax
  y_ordered : (m.setDimensions size).ymin < (m.setDimensions size).ymax
  aspect : (m.setDimensions size).width * size.y = (m.setDimensions size).height * size.x
  unshifted : ∀ xShift yShift,
    let shifted := (m.withView { m.view with xShift, yShift }).setDimensions size
    shifted.width = (m.setDimensions size).width ∧ shifted.height = (m.setDimensions size).height
  zoomed : ∀ zoom > 0,
    let zoomed := (m.withView { m.view with zoom }).setDimensions size
    zoomed.width * zoom = (m.setDimensions size).width * m.view.zoom ∧
      zoomed.height * zoom = (m.setDimensions size).height * m.view.zoom
  scene : m.headerInfo.orthographic = true → m.view.zoom = 1 →
    m.headerInfo.maxBound.x - m.headerInfo.minBound.x ≤ (m.setDimensions size).width ∧
      m.headerInfo.maxBound.y - m.headerInfo.minBound.y ≤ (m.setDimensions size).height

/-- A drag in shift mode from `last` to `pos`, drawn on a canvas of this size, moves the window with
the mouse. -/
def ShiftFollows (m : Model K K S) (size pos last : Vec2 K) : Prop :=
  (m.setProjection size).frustum.Follows ((m.dragModeShift pos last).setProjection size).frustum
    pos last

/-- The condition on a drag: at zoom one, or nothing moves along an axis on which the window has an
extent. -/
def ZoomCancels (m : Model K K S) (size pos last : Vec2 K) : Prop :=
  m.view.zoom = 1 ∨
    (pos.x = last.x ∨ (m.headerInfo.extent size).x = 0) ∧
      (pos.y = last.y ∨ (m.headerInfo.extent size).y = 0)

end Model

/-! ### One formula for the three branches -/

section Formula

omit [ViewScalar K K] in
private theorem lit_eq (q : ℚ) : (Scalar.lit q : K) = q := rfl

omit [ViewScalar K K] in
private theorem lt_eq_true_iff (a b : K) : (Scalar.lt a b : Bool) = true ↔ a < b :=
  decide_eq_true_iff

/-- **`setDimensions` in one formula**: the window at zoom one, divided by the zoom, moved by the
shift. -/
theorem Model.setDimensions_eq (m : Model K K S) (size : Vec2 K) :
    m.setDimensions size =
      let e := m.headerInfo.extent size
      let c := m.headerInfo.corner size
      let X0 := e.x / m.view.zoom * (m.view.xShift * m.view.zoom)
      let Y0 := e.y / m.view.zoom * (m.view.yShift * m.view.zoom)
      ⟨c.x / m.view.zoom - X0, (c.x + e.x) / m.view.zoom - X0,
        c.y / m.view.zoom - Y0, (c.y + e.y) / m.view.zoom - Y0⟩ := by
  unfold setDimensions HeaderInfo.corner HeaderInfo.extent
  simp only [lit_eq, lt_eq_true_iff]
  push_cast
  split_ifs
  · simp only [Frustum.mk.injEq]
    refine ⟨?_, ?_, ?_, ?_⟩ <;> ring
  · simp only [Frustum.mk.injEq]
    refine ⟨?_, ?_, ?_, ?_⟩ <;> ring
  · simp only [Frustum.mk.injEq]
    refine ⟨?_, ?_, ?_, ?_⟩ <;> ring

variable (m : Model K K S) (size : Vec2 K)

/-- The size of the window: whatever the shift, and inversely proportional to the zoom. -/
theorem Model.width_setDimensions :
    (m.setDimensions size).width = (m.headerInfo.extent size).x / m.view.zoom := by
  rw [Frustum.width, m.setDimensions_eq size]
  ring

theorem Model.height_setDimensions :
    (m.setDimensions size).height = (m.headerInfo.extent size).y / m.view.zoom := by
  rw [Frustum.height, m.setDimensions_eq size]
  ring

end Formula

/-! ### The window is valid -/

section Valid

variable {h : HeaderInfo K} {size : Vec2 K}

/-- What `extent` promises of a proper header: it is positive, has the aspect of the canvas, and is
not smaller than an orthographic scene. -/
theorem HeaderInfo.Proper.extent (hproper : h.Proper) (hx : 0 < size.x) (hy : 0 < size.y) :
    0 < (h.extent size).x ∧ 0 < (h.extent size).y ∧
      (h.extent size).x * size.y = (h.extent size).y * size.x ∧
        (h.orthographic = true → h.maxBound.x - h.minBound.x ≤ (h.extent size).x ∧
          h.maxBound.y - h.minBound.y ≤ (h.extent size).y) := by
  have haspect : 0 < size.x / size.y := by positivity
  unfold HeaderInfo.extent
  dsimp only
  split_ifs with hortho hwide
  · obtain ⟨-, hbounds⟩ := hproper.bounds hortho
    have hysize : 0 < h.maxBound.y - h.minBound.y := by linarith
    refine ⟨by positivity, hysize, ?_, fun _ => ⟨hwide.le, le_rfl⟩⟩
    field_simp
  · obtain ⟨hbounds, -⟩ := hproper.bounds hortho
    have hxsize : 0 < h.maxBound.x - h.minBound.x := by linarith
    refine ⟨hxsize, by positivity, ?_, fun _ => ⟨le_rfl, ?_⟩⟩
    · field_simp
    · rw [le_div_iff₀ haspect]
      exact not_lt.mp hwide
  · obtain ⟨hfront, htan⟩ := hproper.angle (Bool.not_eq_true _ ▸ hortho)
    have hhalf : 0 < Model.halfHeight K h := by
      rw [Model.halfHeight, neg_mul, Left.neg_pos_iff]
      exact mul_neg_of_pos_of_neg htan hfront
    refine ⟨by positivity, by positivity, ?_, fun hortho' => absurd hortho' hortho⟩
    field_simp

/-- **The window is valid** for every proper header, every positive zoom, every shift and every
canvas. -/
theorem Model.validWindow (m : Model K K S) (size : Vec2 K) (hproper : m.headerInfo.Proper)
    (hzoom : 0 < m.view.zoom) (hx : 0 < size.x) (hy : 0 < size.y) : m.ValidWindow size := by
  obtain ⟨hwidth, hheight, haspect, hscene⟩ := hproper.extent hx hy
  have hxpos : 0 < (m.setDimensions size).width := by
    rw [m.width_setDimensions]
    positivity
  have hypos : 0 < (m.setDimensions size).height := by
    rw [m.height_setDimensions]
    positivity
  refine ⟨sub_pos.mp hxpos, sub_pos.mp hypos, ?_, fun xShift yShift => ?_,
    fun zoom hpos => ?_, fun hortho hone => ?_⟩
  · rw [m.width_setDimensions, m.height_setDimensions, div_mul_eq_mul_div, haspect,
      div_mul_eq_mul_div]
  · -- the extent depends on the header and the canvas only
    intro shifted
    rw [width_setDimensions, height_setDimensions, width_setDimensions, height_setDimensions]
    exact ⟨rfl, rfl⟩
  · intro zoomed
    rw [width_setDimensions, height_setDimensions, width_setDimensions, height_setDimensions]
    have hcancel : ∀ a : K, a / zoom * zoom = a / m.view.zoom * m.view.zoom := fun a => by
      rw [div_mul_cancel₀ a hpos.ne', div_mul_cancel₀ a hzoom.ne']
    exact ⟨hcancel _, hcancel _⟩
  · rw [m.width_setDimensions, m.height_setDimensions, hone, div_one, div_one]
    exact hscene hortho

/-- A square scene, first seen at zoom two. -/
def squareHeader : HeaderInfo ℚ :=
  { imageName := []
    orthographic := true
    minBound := ⟨-1, -1, -3⟩
    maxBound := ⟨1, 1, -1⟩
    angleOfView := 1
    initialZoom := 2
    viewportShift := ⟨0, 0⟩
    zoomFactor := 21 / 20
    zoomStep := 1 / 10 }

/-- A model of it, as it is loaded. -/
def squareModel : Model ℚ ℚ Unit := .ofFile () squareHeader ⟨0, 0⟩ ⟨1, 1⟩

theorem zoom_squareModel_pos : 0 < squareModel.view.zoom := by decide +kernel

theorem proper_squareModel : squareModel.headerInfo.Proper where
  bounds _ := by decide +kernel
  angle hpersp := Bool.noConfusion hpersp

/-- Its window on a wide canvas. -/
theorem validWindow_squareModel : squareModel.ValidWindow ⟨400, 300⟩ :=
  Model.validWindow squareModel ⟨400, 300⟩ proper_squareModel zoom_squareModel_pos (by norm_num)
    (by norm_num)

end Valid

/-! ### A drag in shift mode -/

section Shift

variable (m : Model K K S) (size pos last : Vec2 K)

omit [ViewScalar K K] in
/-- What a drag in shift mode does to the view; where the mouse has not moved, it adds nothing. -/
theorem Model.view_dragModeShift :
    (m.dragModeShift pos last).view =
      { m.view with
        xShift := m.view.xShift + (pos.x - last.x)
        yShift := m.view.yShift - (pos.y - last.y) } := by
  unfold dragModeShift
  split_ifs with hsame
  · simp only [Vec2.beq, Bool.and_eq_true] at hsame
    obtain ⟨hx, hy⟩ := hsame
    rw [of_decide_eq_true hx, of_decide_eq_true hy, sub_self, sub_self, add_zero, sub_zero]
  · rfl

/-- **The shift moves the window by the distance of the mouse times the extent at zoom one.** -/
theorem Model.setDimensions_dragModeShift (hzoom : m.view.zoom ≠ 0) :
    let f := m.setDimensions size
    let e := m.headerInfo.extent size
    (m.dragModeShift pos last).setDimensions size =
      ⟨f.xmin - (pos.x - last.x) * e.x, f.xmax - (pos.x - last.x) * e.x,
        f.ymin + (pos.y - last.y) * e.y, f.ymax + (pos.y - last.y) * e.y⟩ := by
  intro f e
  have hf : f = m.setDimensions size := rfl
  rw [m.setDimensions_eq] at hf
  rw [setDimensions_eq, headerInfo_dragModeShift, view_dragModeShift, hf]
  simp only [Frustum.mk.injEq, e]
  refine ⟨?_, ?_, ?_, ?_⟩
  all_goals
    field_simp
    ring

omit [ViewScalar K K] in
/-- A window that is moved by parts of `e` follows the mouse iff these are the same parts of its
size. -/
theorem Frustum.follows_iff (f : Frustum K) (pos last e : Vec2 K) :
    f.Follows ⟨f.xmin - (pos.x - last.x) * e.x, f.xmax - (pos.x - last.x) * e.x,
        f.ymin + (pos.y - last.y) * e.y, f.ymax + (pos.y - last.y) * e.y⟩ pos last ↔
      (pos.x - last.x) * e.x = (pos.x - last.x) * f.width ∧
        (pos.y - last.y) * e.y = (pos.y - last.y) * f.height := by
  constructor
  · rintro ⟨hx, -, hy, -, -, -, -⟩
    exact ⟨sub_right_injective hx, add_left_cancel hy⟩
  · rintro ⟨hx, hy⟩
    rw [hx, hy]
    refine ⟨rfl, rfl, rfl, rfl, ?_, ?_, ?_⟩
    · simp only [width]
      ring
    · simp only [height]
      ring
    · simp only [pointUnder, width, height, Vec2.mk.injEq]
      constructor <;> ring

/-- **A drag in shift mode moves the window with the mouse** iff the zoom is one, or nothing moves
along an axis that is seen. -/
theorem Model.shiftFollows_iff (hzoom : 0 < m.view.zoom) :
    m.ShiftFollows size pos last ↔ m.ZoomCancels size pos last := by
  have hne : m.view.zoom ≠ 0 := hzoom.ne'
  have hframe : ((m.dragModeShift pos last).setProjection size).frustum = _ :=
    m.setDimensions_dragModeShift size pos last hne
  have hbefore : (m.setProjection size).frustum = m.setDimensions size := rfl
  -- along one axis the two distances differ by the factor of the zoom
  have haxis : ∀ d e : K, d * e = d * (e / m.view.zoom) ↔ m.view.zoom = 1 ∨ d = 0 ∨ e = 0 := by
    intro d e
    rw [mul_div_assoc', eq_div_iff hne, mul_right_eq_self₀, mul_eq_zero]
  rw [ShiftFollows, hframe, hbefore, Frustum.follows_iff, width_setDimensions,
    height_setDimensions, haxis, haxis, sub_eq_zero, sub_eq_zero, ZoomCancels, ← or_and_left]

/-- At zoom two the window moves twice as far as the mouse. -/
theorem not_shiftFollows_squareModel :
    ¬ squareModel.ShiftFollows ⟨300, 300⟩ ⟨1 / 2, 1 / 2⟩ ⟨1 / 4, 1 / 2⟩ := by
  intro h
  exact absurd h.xmin (by decide +kernel)

/-- The same model at zoom one. -/
def unzoomedModel : Model ℚ ℚ Unit :=
  { squareModel with view := { squareModel.view with zoom := 1 } }

/-- At zoom one the window follows the mouse along both axes. -/
theorem shiftFollows_unzoomedModel :
    unzoomedModel.ShiftFollows ⟨300, 300⟩ ⟨1 / 2, 2 / 3⟩ ⟨1 / 4, 1 / 2⟩ :=
  (Model.shiftFollows_iff unzoomedModel ⟨300, 300⟩ ⟨1 / 2, 2 / 3⟩ ⟨1 / 4, 1 / 2⟩
    (zero_lt_one' ℚ)).mpr (.inl rfl)

end Shift

end ImageCache

end OkularV3d
