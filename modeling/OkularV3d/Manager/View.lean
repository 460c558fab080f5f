import OkularV3d.Manager.IBLName
import OkularV3d.Scene.VertexBuffer

/-!
# The view of a model

A `V3dModel` keeps what the user has done to its view: a zoom, a rotation, a shift of the image and
a position of the eye. `setDimensions` turns zoom and shift into the bounds of the frustum, for the
canvas the model is shown on. Every function that changes something the image depends on says so in
`m_HasChanged`: `Touched` is that promise, and each function below keeps it.

* `Model` is a `V3dModel` as far as its view goes; `View` is what the user changes, `Frustum` what
  `setDimensions` computes from it.
* `home` and `cycleMode` are the two keys; `dragModeShift`, `dragModeZoom`, `dragModePan` and
  `dragModeRotate` the four ways to drag; `wheelZoom` the wheel.
* `Interaction` lists them and `interact` applies one; `touched_interact` is the promise for all.
* Both precisions are parameters: `D` for `double`, `F` for `float`, with `ViewScalar` for what the
  view needs of them beyond arithmetic.
-/

namespace OkularV3d

namespace ImageCache

/-- The functions on floating-point numbers that only the view needs: `greatest` is
`numeric_limits<float>::max()`, `rotate angle axis m` is
`glm::rotate(dmat4(1.0), angle, axis) * m` and `truncate` is `(int)`. -/
class ViewScalar (D F : Type) where
  tan : F → F
  acos : F → F
  log : F → F
  pow : F → F → F
  greatest : F
  rotate : D → Vec3 D → Mat4 D → Mat4 D
  truncate : F → Int

/-- Over the rationals, each function is its first Taylor terms. -/
instance : ViewScalar ℚ ℚ where
  tan a := a
  acos a := 3 / 2 - a
  log a := a - 1
  pow a b := 1 + b * (a - 1)
  greatest := 2 ^ 128
  rotate _ _ m := m
  truncate a := a.num.tdiv a.den

/-- The entries of the header the view depends on. -/
structure HeaderInfo (F : Type) where
  imageName : ByteString
  orthographic : Bool
  minBound : Vec3 F
  maxBound : Vec3 F
  angleOfView : F
  initialZoom : F
  viewportShift : Vec2 F
  zoomFactor : F
  zoomStep : F

/-- What the user has done to the view: `Zoom`, `rotateMat`, `cx`, `cy`, `Xshift` and `Yshift`. -/
structure View (D F : Type) where
  zoom : F
  rotateMat : Mat4 D
  cx : D
  cy : D
  xShift : F
  yShift : F

/-- The bounds of the frustum, as `setDimensions` leaves them. -/
structure Frustum (F : Type) where
  xmin : F
  xmax : F
  ymin : F
  ymax : F
  deriving DecidableEq, Repr

/-- A `V3dModel`: its file (the header and the rest, of which nothing is used here), its place on
the page, and its view.

`drawnWithIBL` is whether its cached image was drawn with an environment map. It is history: the
source has no such member and nothing below reads it. -/
structure Model (D F S : Type) where
  scene : S
  headerInfo : HeaderInfo F
  minBound : Vec2 F
  maxBound : Vec2 F
  view : View D F
  frustum : Frustum F
  drawMode : DrawMode
  hasChanged : Bool
  drawnWithIBL : Bool

/-- The identity matrix. -/
def Mat4.identity {D : Type} [Scalar D] : Mat4 D :=
  fun i => if i.val % 5 = 0 then Scalar.lit 1 else Scalar.lit 0

/-- `==` of two positions. -/
def Vec2.beq {F : Type} [Scalar F] (p q : Vec2 F) : Bool :=
  Scalar.eq p.x q.x && Scalar.eq p.y q.y

section Arcball

variable {F : Type} [Scalar F]

/-- `Arcball::norm`: the point of the unit sphere over a position. -/
def arcballNorm (v : Vec2 F) : Vec3 F :=
  let norm := Scalar.sqrt (v.x * v.x + v.y * v.y)
  let v : Vec2 F :=
    if Scalar.lt (Scalar.lit 1) norm then
      let denom := Scalar.lit 1 / norm
      ⟨v.x * denom, v.y * denom⟩
    else v
  ⟨v.x, v.y, Scalar.sqrt (Scalar.max (Scalar.lit 1 - v.x * v.x - v.y * v.y) (Scalar.lit 0))⟩

/-- `Arcball`: the angle and the axis of the rotation between two positions. -/
def arcball {D : Type} [ViewScalar D F] (lastMousePosition mousePosition : Vec2 F) :
    F × Vec3 F :=
  let v0 := arcballNorm lastMousePosition
  let v1 := arcballNorm mousePosition
  let dot := Vec3.dot v0 v1
  let angle :=
    if Scalar.lt (Scalar.lit 1) dot then Scalar.lit 0
    else if Scalar.lt dot (-Scalar.lit 1) then ViewScalar.acos D (-Scalar.lit 1)
    else ViewScalar.acos D dot
  (angle, Vec3.normalize (Vec3.cross v0 v1))

end Arcball

namespace Model

variable {D F S : Type} [Scalar D] [Scalar F] [Rounding D F] [ViewScalar D F]

/-- `H`, as `initProjection` computes it. -/
def halfHeight (D : Type) [ViewScalar D F] (headerInfo : HeaderInfo F) : F :=
  -ViewScalar.tan D (Scalar.lit (1 / 2) * headerInfo.angleOfView) * headerInfo.maxBound.z

/-- `initProjection`. -/
def initProjection (m : Model D F S) : Model D F S :=
  let h := m.headerInfo
  { m with
    view :=
      { m.view with
        zoom := h.initialZoom
        cx := Scalar.lit 0
        cy := Scalar.lit 0
        xShift := h.viewportShift.x / h.initialZoom
        yShift := h.viewportShift.y / h.initialZoom } }

/-- A `V3dModel` as it is constructed from a file. -/
def ofFile (scene : S) (headerInfo : HeaderInfo F) (minBound maxBound : Vec2 F) : Model D F S :=
  initProjection
    { scene
      headerInfo
      minBound
      maxBound
      view :=
        { zoom := Scalar.lit 1
          rotateMat := Mat4.identity
          cx := Scalar.lit 0
          cy := Scalar.lit 0
          xShift := Scalar.lit 0
          yShift := Scalar.lit 0 }
      frustum := ⟨Scalar.lit 0, Scalar.lit 0, Scalar.lit 0, Scalar.lit 0⟩
      drawMode := .normal
      hasChanged := true
      drawnWithIBL := false }

/-- `setDimensions`, called with `X = Y = 0`: the bounds for a canvas of this size. -/
def setDimensions (m : Model D F S) (displayDimensions : Vec2 F) : Frustum F :=
  let h := m.headerInfo
  let width := displayDimensions.x
  let height := displayDimensions.y
  let aspect := width / height
  let zoom := m.view.zoom
  let xshift := (Scalar.lit 0 / width + m.view.xShift) * zoom
  let yshift := (Scalar.lit 0 / height + m.view.yShift) * zoom
  let zoominv := Scalar.lit 1 / zoom
  if h.orthographic then
    let xsize := h.maxBound.x - h.minBound.x
    let ysize := h.maxBound.y - h.minBound.y
    if Scalar.lt xsize (ysize * aspect) then
      let r := Scalar.lit (1 / 2) * ysize * aspect * zoominv
      let X0 := Scalar.lit 2 * r * xshift
      let Y0 := ysize * zoominv * yshift
      ⟨-r - X0, r - X0, h.minBound.y * zoominv - Y0, h.maxBound.y * zoominv - Y0⟩
    else
      let r := Scalar.lit (1 / 2) * xsize * zoominv / aspect
      let X0 := xsize * zoominv * xshift
      let Y0 := Scalar.lit 2 * r * yshift
      ⟨h.minBound.x * zoominv - X0, h.maxBound.x * zoominv - X0, -r - Y0, r - Y0⟩
  else
    let r := halfHeight D h * zoominv
    let rAspect := r * aspect
    let X0 := Scalar.lit 2 * rAspect * xshift
    let Y0 := Scalar.lit 2 * r * yshift
    ⟨-rAspect - X0, rAspect - X0, -r - Y0, r - Y0⟩

/-- `setProjection`. The matrices are functions of the view and of the frustum; `updateViewMatrix`
sets `m_HasChanged`. -/
def setProjection (m : Model D F S) (displayDimensions : Vec2 F) : Model D F S :=
  { m with frustum := m.setDimensions displayDimensions, hasChanged := true }

/-- `home`. -/
def home (m : Model D F S) : Model D F S :=
  { m with
    view :=
      { zoom := m.headerInfo.initialZoom
        rotateMat := Mat4.identity
        cx := Scalar.lit 0
        cy := Scalar.lit 0
        xShift := Scalar.lit 0
        yShift := Scalar.lit 0 }
    hasChanged := true }

/-- `cycleMode`. -/
def cycleMode (m : Model D F S) : Model D F S :=
  { m with drawMode := m.drawMode.cycle, hasChanged := true }

/-- `dragModeShift`. -/
def dragModeShift (m : Model D F S) (pos last : Vec2 F) : Model D F S :=
  if Vec2.beq pos last then m
  else
    { m with
      view :=
        { m.view with
          xShift := m.view.xShift + (pos.x - last.x)
          yShift := m.view.yShift - (pos.y - last.y) }
      hasChanged := true }

/-- `sqrt(numeric_limits<float>::max())`, the greatest zoom. -/
def maxZoom (D : Type) [ViewScalar D F] : F := Scalar.sqrt (ViewScalar.greatest D)

/-- `dragModeZoom`. -/
def dragModeZoom (m : Model D F S) (pos last pageViewSize : Vec2 F) : Model D F S :=
  if Vec2.beq pos last then m
  else
    let h := m.headerInfo
    let diff := last.y - pos.y
    let stepPower := h.zoomStep * (pageViewSize.y / Scalar.lit 2) * diff
    let limit := ViewScalar.log D (Scalar.lit (1 / 10) * ViewScalar.greatest D) /
      ViewScalar.log D h.zoomFactor
    let size := if Scalar.lt stepPower (Scalar.lit 0) then -stepPower else stepPower
    if Scalar.lt size limit then
      let zoom := m.view.zoom * ViewScalar.pow D h.zoomFactor stepPower
      let minZoom := Scalar.lit 1 / maxZoom D
      let zoom :=
        if Scalar.lt zoom minZoom || Scalar.eq zoom minZoom then minZoom
        else if Scalar.lt (maxZoom D) zoom || Scalar.eq (maxZoom D) zoom then maxZoom D
        else zoom
      { m with view := { m.view with zoom }, hasChanged := true }
    else m

/-- `dragModePan`. -/
def dragModePan (m : Model D F S) (pos last : Vec2 F) : Model D F S :=
  if Vec2.beq pos last then m
  else if m.headerInfo.orthographic then { m.dragModeShift pos last with hasChanged := true }
  else
    { m with
      view :=
        { m.view with
          cx := m.view.cx +
            Rounding.widen ((pos.x - last.x) * (m.frustum.xmax - m.frustum.xmin))
          cy := m.view.cy -
            Rounding.widen ((pos.y - last.y) * (m.frustum.ymax - m.frustum.ymin)) }
      hasChanged := true }

/-- `dragModeRotate`. -/
def dragModeRotate (m : Model D F S) (pos last : Vec2 F) : Model D F S :=
  if Vec2.beq pos last then m
  else
    let delta : Vec2 F := ⟨pos.x - last.x, pos.y - last.y⟩
    if Scalar.lt (Scalar.sqrt (delta.x * delta.x + delta.y * delta.y))
      (Scalar.lit (1 / 1000)) then m
    else
      let ndc (p : Vec2 F) : Vec2 F :=
        ⟨p.x * Scalar.lit 2 - Scalar.lit 1, Scalar.lit 1 - p.y * Scalar.lit 2⟩
      let (angle, axis) := arcball (D := D) (ndc last) (ndc pos)
      if Scalar.lt (Scalar.sqrt (Vec3.dot axis axis)) (Scalar.lit (1 / 1000)) then m
      else
        let angleRadians := Scalar.lit 2 * angle / m.view.zoom
        { m with
          view :=
            { m.view with
              rotateMat := ViewScalar.rotate F (Rounding.widen angleRadians) (Vec3.widen axis)
                m.view.rotateMat }
          hasChanged := true }

/-- What `wheelEvent` does to the model under the mouse: one step of zoom, and the projection for
the canvas on the screen. -/
def wheelZoom (m : Model D F S) (deltaNegative : Bool) (canvasSize : Vec2 F) : Model D F S :=
  let factor := m.headerInfo.zoomFactor
  let zoom := if deltaNegative then m.view.zoom / factor else m.view.zoom * factor
  let minZoom := Scalar.lit 1 / maxZoom D
  let zoom :=
    if Scalar.lt zoom minZoom then minZoom
    else if Scalar.lt (maxZoom D) zoom then maxZoom D
    else zoom
  { m with view := { m.view with zoom } }.setProjection canvasSize

/-- **The promise of `m_HasChanged`**: a function leaves the model alone, or sets the flag. -/
def Touched (m m' : Model D F S) : Prop := m' = m ∨ m'.hasChanged = true

section Touched

variable (m : Model D F S) (pos last size : Vec2 F)

omit [Scalar D] [Rounding D F] [ViewScalar D F] in
theorem touched_dragModeShift : m.Touched (m.dragModeShift pos last) := by
  unfold dragModeShift
  split_ifs
  · exact .inl rfl
  · exact .inr rfl

omit [Scalar D] [Rounding D F] in
theorem touched_dragModeZoom : m.Touched (m.dragModeZoom pos last size) := by
  unfold dragModeZoom
  dsimp only
  split_ifs
  any_goals exact .inl rfl
  all_goals exact .inr rfl

omit [ViewScalar D F] in
theorem touched_dragModePan : m.Touched (m.dragModePan pos last) := by
  unfold dragModePan
  split_ifs
  · exact .inl rfl
  · exact .inr rfl
  · exact .inr rfl

omit [Scalar D] in
theorem touched_dragModeRotate : m.Touched (m.dragModeRotate pos last) := by
  unfold dragModeRotate
  dsimp only
  split_ifs
  · exact .inl rfl
  · exact .inl rfl
  · exact .inl rfl
  · exact .inr rfl

end Touched

end Model

/-- What the user does to a model: a key (`H`, `M`), one move of a drag, or a turn of the wheel with
the size of the canvas on the screen. -/
inductive Interaction (F : Type) where
  | home
  | cycleMode
  | shift (pos last : Vec2 F)
  | zoom (pos last pageViewSize : Vec2 F)
  | pan (pos last : Vec2 F)
  | rotate (pos last : Vec2 F)
  | wheel (deltaNegative : Bool) (canvasSize : Vec2 F)

namespace Model

variable {D F S : Type} [Scalar D] [Scalar F] [Rounding D F] [ViewScalar D F]

/-- The model after an interaction. -/
def interact (m : Model D F S) : Interaction F → Model D F S
  | .home => m.home
  | .cycleMode => m.cycleMode
  | .shift pos last => m.dragModeShift pos last
  | .zoom pos last pageViewSize => m.dragModeZoom pos last pageViewSize
  | .pan pos last => m.dragModePan pos last
  | .rotate pos last => m.dragModeRotate pos last
  | .wheel deltaNegative canvasSize => m.wheelZoom deltaNegative canvasSize

omit [Scalar D] [Rounding D F] [ViewScalar D F] in
/-- No interaction changes the header. -/
theorem headerInfo_dragModeShift (m : Model D F S) (pos last : Vec2 F) :
    (m.dragModeShift pos last).headerInfo = m.headerInfo := by
  unfold dragModeShift
  split_ifs <;> rfl

theorem headerInfo_interact (m : Model D F S) (i : Interaction F) :
    (m.interact i).headerInfo = m.headerInfo := by
  cases i with
  | home | cycleMode | wheel deltaNegative canvasSize => rfl
  | shift pos last => exact m.headerInfo_dragModeShift pos last
  | zoom pos last pageViewSize =>
    unfold interact dragModeZoom
    dsimp only
    split_ifs <;> rfl
  | pan pos last =>
    change (m.dragModePan pos last).headerInfo = m.headerInfo
    unfold dragModePan
    split_ifs
    · rfl
    · exact m.headerInfo_dragModeShift pos last
    · rfl
  | rotate pos last =>
    unfold interact dragModeRotate
    dsimp only
    split_ifs <;> rfl

/-- Whatever the user does to a model, it is the same model as before or says that it changed. -/
theorem touched_interact (m : Model D F S) (i : Interaction F) : m.Touched (m.interact i) := by
  cases i with
  | home => exact .inr rfl
  | cycleMode => exact .inr rfl
  | shift pos last => exact m.touched_dragModeShift pos last
  | zoom pos last pageViewSize => exact m.touched_dragModeZoom pos last pageViewSize
  | pan pos last => exact m.touched_dragModePan pos last
  | rotate pos last => exact m.touched_dragModeRotate pos last
  | wheel deltaNegative canvasSize => exact .inr rfl

end Model

end ImageCache

end OkularV3d
