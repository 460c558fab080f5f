import OkularV3d.Lib.Runs
import OkularV3d.Model.Window

/-!
# The home view

`home` is to bring back the view a model is loaded with. `initProjection` sets that view: zoom, eye
and shift, the last from the `viewportShift` of the header; `home` resets the same members and the
rotation, but the shift to zero. Everything the renderer gets is computed from these members by
`setProjection`: the bounds of the window, and the projection, the view and the normal matrix.

`restoresView_iff` says for which headers the two views agree, after whatever the user has done:
those whose `viewportShift` is zero along every axis on which the window has an extent.

* `projMat`, `viewMat` and `normMat` are what `setProjection` hands to the renderer; `SameView`
  compares two models by them.
* `Model.setDimensions_home` and `Model.setDimensions_initProjection` compute the two windows, and
  `Model.setDimensions_home_eq_iff` compares them.
* `HeaderInfo.Unshifted` is the condition. It is on the header and the canvas alone, since no
  `ViewStep` changes the header (`headerInfo_runState`).
-/

namespace OkularV3d

open Runs

section Glm

variable {R : Type} [Scalar R]

/-- The product of two matrices. -/
def Mat4.mul (a b : Mat4 R) : Mat4 R := fun i =>
  let row := i.val % 4
  let col := i.val / 4
  have hrow : row < 4 := Nat.mod_lt _ (by decide)
  have hcol : col < 4 := Nat.div_lt_of_lt_mul i.isLt
  a ⟨row, by omega⟩ * b ⟨4 * col, by omega⟩ + a ⟨4 + row, by omega⟩ * b ⟨4 * col + 1, by omega⟩ +
    a ⟨8 + row, by omega⟩ * b ⟨4 * col + 2, by omega⟩ +
      a ⟨12 + row, by omega⟩ * b ⟨4 * col + 3, by omega⟩

/-- `glm::translate`: the last column becomes the image of `v`. -/
def Mat4.translate (m : Mat4 R) (v : Vec3 R) : Mat4 R := fun i =>
  if h : 12 ≤ i.val then
    have := i.isLt
    m ⟨i.val - 12, by omega⟩ * v.x + m ⟨i.val - 8, by omega⟩ * v.y +
      m ⟨i.val - 4, by omega⟩ * v.z + m i
  else m i

/-- `glm::dmat3` of a `glm::dmat4`: the upper left block. -/
def Mat4.toMat3 (m : Mat4 R) : Mat3 R := fun i =>
  have := i.isLt
  m ⟨4 * (i.val / 3) + i.val % 3, by omega⟩

/-- `glm::ortho`, with depths in `[0, 1]`. -/
def Mat4.ortho (left right bottom top zNear zFar : R) : Mat4 R := fun i =>
  match i with
  | 0 => Scalar.lit 2 / (right - left)
  | 5 => Scalar.lit 2 / (top - bottom)
  | 10 => -Scalar.lit 1 / (zFar - zNear)
  | 12 => -(right + left) / (right - left)
  | 13 => -(top + bottom) / (top - bottom)
  | 14 => -zNear / (zFar - zNear)
  | 15 => Scalar.lit 1
  | _ => Scalar.lit 0

/-- `glm::frustum`, with depths in `[0, 1]`. -/
def Mat4.frustum (left right bottom top nearVal farVal : R) : Mat4 R := fun i =>
  match i with
  | 0 => Scalar.lit 2 * nearVal / (right - left)
  | 5 => Scalar.lit 2 * nearVal / (top - bottom)
  | 8 => (right + left) / (right - left)
  | 9 => (top + bottom) / (top - bottom)
  | 10 => farVal / (nearVal - farVal)
  | 11 => -Scalar.lit 1
  | 14 => -(farVal * nearVal) / (farVal - nearVal)
  | _ => Scalar.lit 0

end Glm

namespace ImageCache

namespace Model

section Matrices

variable {D F S : Type} [Scalar D] [Scalar F] [Rounding D F] [ViewScalar D F]

/-- `projMat`, as `setProjection` computes it from the bounds of the window. -/
def projMat (m : Model D F S) : Mat4 D :=
  let f := m.frustum
  let zmin := m.headerInfo.minBound.z
  let zmax := m.headerInfo.maxBound.z
  let projection :=
    if m.headerInfo.orthographic then Mat4.ortho f.xmin f.xmax f.ymin f.ymax (-zmax) (-zmin)
    else Mat4.frustum f.xmin f.xmax f.ymin f.ymax (-zmax) (-zmin)
  fun i => Rounding.widen (projection i)

/-- `cz`, as `initProjection` computes it: the middle of the scene. -/
def middleZ (m : Model D F S) : D :=
  Scalar.lit (1 / 2) * Rounding.widen (m.headerInfo.minBound.z + m.headerInfo.maxBound.z)

/-- `viewMat`, as `updateViewMatrix` computes it: the scene is rotated around its middle and moved
by the position of the eye. -/
def viewMat (m : Model D F S) : Mat4 D :=
  let moved := Mat4.translate Mat4.identity ⟨m.view.cx, m.view.cy, m.middleZ⟩
  Mat4.translate (moved.mul m.view.rotateMat) ⟨Scalar.lit 0, Scalar.lit 0, -m.middleZ⟩

/-- `normMat`, as `updateViewMatrix` computes it; `inverse` is `glm::inverse`. -/
def normMat (inverse : Mat4 D → Mat4 D) (m : Model D F S) : Mat3 D := (inverse m.viewMat).toMat3

/-- **Two models show the same view**: what `setProjection` has computed for the renderer is the
same. -/
structure SameView (inverse : Mat4 D → Mat4 D) (m m' : Model D F S) : Prop where
  projMat : m.projMat = m'.projMat
  viewMat : m.viewMat = m'.viewMat
  normMat : m.normMat inverse = m'.normMat inverse
  frustum : m.frustum = m'.frustum

omit [ViewScalar D F] in
/-- The projection and the matrices depend on nothing but the header, the view and the bounds of the
window. -/
theorem SameView.of_eq (inverse : Mat4 D → Mat4 D) {m m' : Model D F S}
    (hheader : m.headerInfo = m'.headerInfo) (hcx : m.view.cx = m'.view.cx)
    (hcy : m.view.cy = m'.view.cy) (hrotate : m.view.rotateMat = m'.view.rotateMat)
    (hframe : m.frustum = m'.frustum) : m.SameView inverse m' := by
  have hview : m.viewMat = m'.viewMat := by
    simp only [Model.viewMat, middleZ, hheader, hcx, hcy, hrotate]
  constructor
  · simp only [Model.projMat, hheader, hframe]
  · exact hview
  · rw [Model.normMat, Model.normMat, hview]
  · exact hframe

end Matrices

/-! ### Runs -/

/-- What happens to the view of a model: the user changes it, or the model is drawn on a canvas. -/
inductive ViewStep (F : Type) where
  | interact (i : Interaction F)
  | draw (size : Vec2 F)

section Run

variable {D F S : Type} [Scalar D] [Scalar F] [Rounding D F] [ViewScalar D F]

/-- One step. -/
def viewStep (m : Model D F S) : ViewStep F → Model D F S
  | .interact i => m.interact i
  | .draw size => m.setProjection size

theorem headerInfo_viewStep (m : Model D F S) (s : ViewStep F) :
    (m.viewStep s).headerInfo = m.headerInfo := by
  cases s with
  | interact i => exact m.headerInfo_interact i
  | draw size => rfl

/-- No run changes the header. -/
theorem headerInfo_runState (m : Model D F S) (steps : List (ViewStep F)) :
    (runState viewStep m steps).headerInfo = m.headerInfo := by
  induction steps generalizing m with
  | nil => rfl
  | cons s steps ih => rw [runState_cons, ih, headerInfo_viewStep]

/-- **`home` restores the view**: after the run, it is drawn as a freshly loaded model is. -/
def RestoresView (inverse : Mat4 D → Mat4 D) (m : Model D F S) (steps : List (ViewStep F))
    (size : Vec2 F) : Prop :=
  ((runState viewStep m steps).home.setProjection size).SameView inverse
    (m.initProjection.setProjection size)

end Run

end Model

/-! ### The shift that is lost -/

section Exact

variable {K S : Type} [ExactScalar K] [ViewScalar K K]

/-- The header asks for no shift along an axis on which the window has an extent. -/
def HeaderInfo.Unshifted (h : HeaderInfo K) (size : Vec2 K) : Prop :=
  (h.viewportShift.x = 0 ∨ (h.extent size).x = 0) ∧
    (h.viewportShift.y = 0 ∨ (h.extent size).y = 0)

variable (m : Model K K S) (size : Vec2 K)

/-- The window of the home view. -/
theorem Model.setDimensions_home :
    m.home.setDimensions size =
      let e := m.headerInfo.extent size
      let c := m.headerInfo.corner size
      let zoom := m.headerInfo.initialZoom
      ⟨c.x / zoom, (c.x + e.x) / zoom, c.y / zoom, (c.y + e.y) / zoom⟩ := by
  have hzero : (Scalar.lit 0 : K) = 0 := Rat.cast_zero
  rw [setDimensions_eq]
  simp only [home, hzero, zero_mul, mul_zero, sub_zero]

/-- The window of the initial view is that of the home view, moved by the shift of the header. -/
theorem Model.setDimensions_initProjection (hzoom : m.headerInfo.initialZoom ≠ 0) :
    let f := m.home.setDimensions size
    let e := m.headerInfo.extent size
    let shift := m.headerInfo.viewportShift
    let zoom := m.headerInfo.initialZoom
    m.initProjection.setDimensions size =
      ⟨f.xmin - e.x * shift.x / zoom, f.xmax - e.x * shift.x / zoom,
        f.ymin - e.y * shift.y / zoom, f.ymax - e.y * shift.y / zoom⟩ := by
  intro f e shift zoom
  have hmoved : ∀ a d : K, a / zoom * (d / zoom * zoom) = a * d / zoom := fun a d => by
    rw [div_mul_cancel₀ d hzoom, div_mul_eq_mul_div]
  have hf : f = m.home.setDimensions size := rfl
  rw [m.setDimensions_home size] at hf
  rw [setDimensions_eq, hf]
  exact Frustum.mk.injEq .. ▸ ⟨congrArg _ (hmoved _ _), congrArg _ (hmoved _ _),
    congrArg _ (hmoved _ _), congrArg _ (hmoved _ _)⟩

/-- The two windows are the same iff the header asks for no shift that is seen. -/
theorem Model.setDimensions_home_eq_iff (hzoom : m.headerInfo.initialZoom ≠ 0) :
    m.home.setDimensions size = m.initProjection.setDimensions size ↔
      m.headerInfo.Unshifted size := by
  have haxis : ∀ a e d : K, a = a - e * d / m.headerInfo.initialZoom ↔ d = 0 ∨ e = 0 := by
    intro a e d
    rw [eq_comm, sub_eq_self, div_eq_zero_iff, or_iff_left hzoom, mul_eq_zero, or_comm]
  rw [m.setDimensions_initProjection size hzoom, HeaderInfo.Unshifted]
  constructor
  · intro h
    exact ⟨(haxis _ _ _).mp (congrArg Frustum.xmin h), (haxis _ _ _).mp (congrArg Frustum.ymin h)⟩
  · rintro ⟨hx, hy⟩
    -- the far bounds are moved by the same amounts
    have hx' := fun a => (haxis a _ _).mpr hx
    have hy' := fun a => (haxis a _ _).mpr hy
    rw [← hx', ← hx', ← hy', ← hy']

/-- **`home` restores the initial view** of a loaded file, on every canvas and after whatever the
user has done, iff the header asks for no shift that is seen. -/
theorem Model.restoresView_iff (inverse : Mat4 K → Mat4 K) (scene : S) (h : HeaderInfo K)
    (minBound maxBound : Vec2 K) (steps : List (ViewStep K)) (size : Vec2 K)
    (hzoom : 0 < h.initialZoom) :
    (Model.ofFile scene h minBound maxBound).RestoresView inverse steps size ↔
      h.Unshifted size := by
  set loaded : Model K K S := Model.ofFile scene h minBound maxBound with hloaded
  set final := runState viewStep loaded steps with hfinal
  have hheader : final.headerInfo = h := loaded.headerInfo_runState steps
  have hhome : final.home.setDimensions size = loaded.home.setDimensions size := by
    rw [final.setDimensions_home, loaded.setDimensions_home, hheader]
    rfl
  have hiff : loaded.home.setDimensions size = loaded.initProjection.setDimensions size ↔
      h.Unshifted size := loaded.setDimensions_home_eq_iff size hzoom.ne'
  constructor
  · intro hsame
    have hframe : final.home.setDimensions size = loaded.initProjection.setDimensions size :=
      hsame.frustum
    exact hiff.mp (hhome.symm.trans hframe)
  · intro hunshifted
    -- the eye and the rotation of a loaded model are those of the home view
    exact .of_eq inverse hheader rfl rfl rfl (hhome.trans (hiff.mpr hunshifted))

/-- A header that asks for a shift by a quarter of the window. -/
def shiftedHeader : HeaderInfo ℚ := { squareHeader with viewportShift := ⟨1 / 4, 0⟩ }

/-- A model with this header, as it is loaded. -/
def shiftedModel : Model ℚ ℚ Unit := .ofFile () shiftedHeader ⟨0, 0⟩ ⟨1, 1⟩

/-- The home view of a model that has been moved is not the one it was loaded with. -/
theorem not_restoresView_shifted :
    ¬ shiftedModel.RestoresView id
      [.draw ⟨300, 300⟩, .interact (.shift ⟨1 / 2, 1 / 2⟩ ⟨1 / 4, 1 / 2⟩)] ⟨300, 300⟩ := by
  intro h
  exact absurd (congrArg Frustum.xmin h.frustum) (by decide +kernel)

/-- Without the shift it is. -/
theorem restoresView_square :
    squareModel.RestoresView id
      [.draw ⟨300, 300⟩, .interact (.shift ⟨1 / 2, 1 / 2⟩ ⟨1 / 4, 1 / 2⟩)] ⟨300, 300⟩ :=
  (Model.restoresView_iff id () squareHeader ⟨0, 0⟩ ⟨1, 1⟩ _ ⟨300, 300⟩
    (by norm_num [squareHeader])).mpr ⟨.inl rfl, .inl rfl⟩

end Exact

end ImageCache

end OkularV3d
