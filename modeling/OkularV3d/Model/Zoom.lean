import OkularV3d.File.Load
import OkularV3d.Lib.ExtRat
import OkularV3d.Lib.Runs
import OkularV3d.Manager.View

/-!
# The range of the zoom

`Zoom` starts as the `initialZoom` of the file and is multiplied by powers of its `zoomFactor`; both
are reals of the header that `V3dFile::load` takes as they are. The view is read here over the
rational numbers with infinities and NaN, and what `<cmath>` computes is a parameter, `Libm`, of
which only the documented special values and signs are used.

`zoomSound_along_iff` says when, along every run of a loaded model, the zoom stays in its range and
everything the view divides by is a divisor: iff the initial zoom is in the range, no wheel step
meets a `zoomFactor` that is NaN, and no drag in zoom mode one whose logarithm is not a number or
zero.

* `ZoomSound` is the property of a step: the zoom in its range (`ZoomInRange`), and what the step
  divides by finite and not zero.
* `ZoomFactorFits` is the condition on a step, and reads the header only.
* `zoomInRange_wheelZoom_iff` and `zoomInRange_dragModeZoom` treat the two functions that set the
  zoom. The drag clamps it whatever it computes; the wheel's comparisons let NaN through.
* `not_zoomSound_zeroZoom` is a loadable file whose initial zoom is zero.
-/

namespace OkularV3d

open Runs ExtRat

/-- What `<cmath>` and `glm::rotate` compute, and what is documented of it: special values and
signs. -/
class Libm where
  sqrt : ExtRat → ExtRat
  cos : ExtRat → ExtRat
  sin : ExtRat → ExtRat
  tan : ExtRat → ExtRat
  acos : ExtRat → ExtRat
  log : ExtRat → ExtRat
  pow : ExtRat → ExtRat → ExtRat
  rotate : ExtRat → Vec3 ExtRat → Mat4 ExtRat → Mat4 ExtRat
  truncate : ExtRat → Int
  sqrt_num {q : ℚ} (h : 1 ≤ q) : ∃ r, 1 ≤ r ∧ sqrt (num q) = num r
  log_nan : log nan = nan
  log_negInf : log negInf = nan
  log_posInf : log posInf = posInf
  log_neg {q : ℚ} (h : q < 0) : log (num q) = nan
  log_zero : log (num 0) = negInf
  log_one : log (num 1) = num 0
  log_below {q : ℚ} (h : 0 < q) (h' : q < 1) : ∃ r < 0, log (num q) = num r
  log_above {q : ℚ} (h : 1 < q) : ∃ r > 0, log (num q) = num r
  pow_num {q : ℚ} (h : 0 < q) (p : ℚ) : ∃ r > 0, pow (num q) (num p) = num r

section View

variable [Libm]

instance : Scalar ExtRat where
  lit q := num q
  lt := ExtRat.lt
  eq := ExtRat.eq
  isNormal x := decide x.IsDivisor && !decide (x = posInf) && !decide (x = negInf)
  sqrt := Libm.sqrt
  cos := Libm.cos
  sin := Libm.sin

/-- Nothing is rounded. -/
instance : Rounding ExtRat ExtRat where
  narrow x := x
  widen x := x

namespace ImageCache

/-- `numeric_limits<float>::max()` is `2 ^ 128 - 2 ^ 104`. -/
instance : ViewScalar ExtRat ExtRat where
  tan := Libm.tan
  acos := Libm.acos
  log := Libm.log
  pow := Libm.pow
  greatest := num (2 ^ 128 - 2 ^ 104)
  rotate := Libm.rotate
  truncate := Libm.truncate

/-- The header of a loaded file, as numbers: `value` is the number a `double` stands for, and
`unread` what a member holds that no read has assigned. -/
def HeaderInfo.ofLoaded {D F : Type} (value : D → ExtRat) (unread : ExtRat)
    (info : LoadedInfo D F) : HeaderInfo ExtRat :=
  let real (x : Option D) : ExtRat := (x.map value).getD unread
  { imageName := info.imageName
    orthographic := info.orthographic != 0
    minBound := ⟨real info.minBound.x, real info.minBound.y, real info.minBound.z⟩
    maxBound := ⟨real info.maxBound.x, real info.maxBound.y, real info.maxBound.z⟩
    angleOfView := real info.angleOfView
    initialZoom := real info.initialZoom
    viewportShift := ⟨real info.viewportShift.x, real info.viewportShift.y⟩
    zoomFactor := real info.zoomFactor
    zoomStep := real info.zoomStep }

/-- The zoom is **in its range**, from `1/sqrt(FLT_MAX)` to `sqrt(FLT_MAX)`. -/
def ZoomInRange (zoom : ExtRat) : Prop :=
  ∃ q greatest : ℚ, zoom = num q ∧ Model.maxZoom ExtRat = num greatest ∧
    1 / greatest ≤ q ∧ q ≤ greatest

namespace Model

variable {S : Type}

/-- A step of a drag in zoom mode that goes past the test for an unmoved mouse. -/
def divides (i : Interaction ExtRat) : Bool :=
  match i with
  | .zoom pos last _ => !Vec2.beq pos last
  | _ => false

/-- What a step keeps: `Zoom` and `Zoom0` are in their range, and what `initProjection`,
`setDimensions` and `dragModeRotate` divide by, or `dragModeZoom` in this step, are divisors. -/
structure ZoomSound (m : Model ExtRat ExtRat S) (i : Interaction ExtRat) : Prop where
  zoom : ZoomInRange (m.interact i).view.zoom
  zoom0 : ZoomInRange (m.interact i).headerInfo.initialZoom
  divisors : (m.interact i).view.zoom.IsDivisor ∧ (m.interact i).headerInfo.initialZoom.IsDivisor
  log : divides i = true → (ViewScalar.log ExtRat m.headerInfo.zoomFactor).IsDivisor

/-- The condition on a step: `zoomFactor` is not NaN when the wheel is turned, and it is neither
NaN nor negative nor one when a drag in zoom mode has moved. -/
def ZoomFactorFits (m : Model ExtRat ExtRat S) (i : Interaction ExtRat) : Prop :=
  let zoomFactor := m.headerInfo.zoomFactor
  match i with
  | .wheel .. => zoomFactor ≠ nan
  | .zoom pos last _ => Vec2.beq pos last = false →
      zoomFactor ≠ nan ∧ ExtRat.lt zoomFactor (num 0) = false ∧ zoomFactor ≠ num 1
  | _ => True

end Model

/-! ### The range -/

/-- The greatest zoom is a number not below one. -/
theorem exists_maxZoom : ∃ greatest : ℚ, 1 ≤ greatest ∧ Model.maxZoom ExtRat = num greatest :=
  Libm.sqrt_num (by norm_num)

theorem zoomInRange_iff {greatest : ℚ} (h : Model.maxZoom ExtRat = num greatest) (zoom : ExtRat) :
    ZoomInRange zoom ↔ ∃ q, zoom = num q ∧ 1 / greatest ≤ q ∧ q ≤ greatest := by
  constructor
  · rintro ⟨q, greatest', hq, hgreatest, hmem⟩
    obtain rfl : greatest = greatest' := by simpa using h.symm.trans hgreatest
    exact ⟨q, hq, hmem⟩
  · rintro ⟨q, hq, hmem⟩
    exact ⟨q, greatest, hq, h, hmem⟩

/-- What is in the range is a positive number. -/
theorem ZoomInRange.exists_pos {zoom : ExtRat} (h : ZoomInRange zoom) :
    ∃ q, 0 < q ∧ zoom = num q := by
  obtain ⟨greatest, hone, hgreatest⟩ := exists_maxZoom
  obtain ⟨q, hq, hlow, -⟩ := (zoomInRange_iff hgreatest zoom).mp h
  have hpos : 0 < 1 / greatest := by positivity
  exact ⟨q, by linarith, hq⟩

theorem ZoomInRange.isDivisor {zoom : ExtRat} (h : ZoomInRange zoom) : zoom.IsDivisor := by
  obtain ⟨q, hpos, rfl⟩ := h.exists_pos
  exact isDivisor_num.mpr hpos.ne'

/-- The logarithm is a divisor for a base that is not negative and not one, zero and infinity
included. -/
theorem log_isDivisor_iff (zoomFactor : ExtRat) :
    (Libm.log zoomFactor).IsDivisor ↔
      zoomFactor ≠ nan ∧ ExtRat.lt zoomFactor (num 0) = false ∧ zoomFactor ≠ num 1 := by
  cases zoomFactor with
  | num q =>
    simp only [← Bool.not_eq_true, lt_num_iff, not_lt, Ne, num.injEq]
    rcases lt_trichotomy q 0 with hneg | rfl | hpos
    · rw [Libm.log_neg hneg]
      exact iff_of_false (fun h => h.1 rfl) fun h => absurd h.2.1 (not_le.mpr hneg)
    · rw [Libm.log_zero]
      exact iff_of_true (by decide) ⟨num_ne_nan 0, le_rfl, by norm_num⟩
    rcases lt_trichotomy q 1 with hbelow | rfl | habove
    · obtain ⟨r, hr, hlog⟩ := Libm.log_below hpos hbelow
      rw [hlog]
      exact iff_of_true (isDivisor_num.mpr hr.ne) ⟨num_ne_nan q, hpos.le, hbelow.ne⟩
    · rw [Libm.log_one]
      exact iff_of_false (fun h => h.2 rfl) fun h => h.2.2 rfl
    · obtain ⟨r, hr, hlog⟩ := Libm.log_above habove
      rw [hlog]
      exact iff_of_true (isDivisor_num.mpr hr.ne') ⟨num_ne_nan q, hpos.le, habove.ne'⟩
  | posInf =>
    rw [Libm.log_posInf]
    exact iff_of_true (by decide) (by decide)
  | negInf =>
    rw [Libm.log_negInf]
    exact iff_of_false (fun h => h.1 rfl) fun h => absurd h.2.1 (by decide)
  | nan =>
    rw [Libm.log_nan]
    exact iff_of_false (fun h => h.1 rfl) fun h => h.1 rfl

/-! ### Steps -/

namespace Model

variable {S : Type} {m : Model ExtRat ExtRat S}

/-- **The wheel** keeps the zoom in its range iff `zoomFactor` is not NaN, which passes both
comparisons. -/
theorem zoomInRange_wheelZoom_iff (h : ZoomInRange m.view.zoom) (deltaNegative : Bool)
    (canvasSize : Vec2 ExtRat) :
    ZoomInRange (m.wheelZoom deltaNegative canvasSize).view.zoom ↔
    m.headerInfo.zoomFactor ≠ nan := by
  obtain ⟨greatest, hone, hgreatest⟩ := exists_maxZoom
  obtain ⟨q, hpos, hq⟩ := h.exists_pos
  have hle : 1 / greatest ≤ greatest := by
    rw [div_le_iff₀ (by linarith)]
    nlinarith
  have hmin : (num 1 : ExtRat) / num greatest = num (1 / greatest) := div_num 1 (by linarith)
  have hzoom : (m.wheelZoom deltaNegative canvasSize).view.zoom =
      let zoom := if deltaNegative then num q / m.headerInfo.zoomFactor
        else num q * m.headerInfo.zoomFactor
      if ExtRat.lt zoom (num (1 / greatest)) then num (1 / greatest)
      else if ExtRat.lt (num greatest) zoom then num greatest else zoom := by
    rw [← hq, ← hmin, ← hgreatest]
    rfl
  rw [zoomInRange_iff hgreatest, hzoom]
  constructor
  · rintro hrange hnan
    rw [hnan, div_nan, mul_nan, ite_self] at hrange
    obtain ⟨r, hr, -⟩ := hrange
    exact absurd hr nofun
  · intro hnan
    refine clamp_mem hle ?_
    split_ifs
    · exact div_ne_nan hpos.ne' hnan
    · exact mul_ne_nan hpos.ne' hnan

/-- A drag in zoom mode only acts for a positive `zoomFactor` and a step that is a number. -/
theorem exists_num_of_lt_limit {zoomFactor stepPower : ExtRat}
    (h : ExtRat.lt (ExtRat.abs stepPower)
      (Libm.log (num (1 / 10) * num (2 ^ 128 - 2 ^ 104)) / Libm.log zoomFactor) = true) :
    ∃ q p, 0 < q ∧ zoomFactor = num q ∧ stepPower = num p := by
  obtain ⟨L, hL, hlog⟩ : ∃ L > 0, Libm.log (num (1 / 10) * num (2 ^ 128 - 2 ^ 104)) = num L := by
    rw [mul_num]
    exact Libm.log_above (by norm_num)
  obtain ⟨p, hp⟩ := exists_num_of_abs_lt h
  rw [hlog] at h
  have hnever : ∀ limit ≤ 0, num L / Libm.log zoomFactor ≠ num limit := by
    intro limit hlimit heq
    rw [heq, abs_not_lt hlimit] at h
    exact absurd h Bool.false_ne_true
  have hnan : num L / Libm.log zoomFactor ≠ nan := by
    intro heq
    rw [heq, hp, abs_num] at h
    exact absurd h Bool.false_ne_true
  cases zoomFactor with
  | num q =>
    rcases lt_trichotomy q 0 with hneg | rfl | hpos
    · exact absurd (by rw [Libm.log_neg hneg]; rfl) hnan
    · exact absurd (by rw [Libm.log_zero]; rfl) (hnever 0 le_rfl)
    · exact ⟨q, p, hpos, rfl, hp⟩
  | posInf => exact absurd (by rw [Libm.log_posInf]; rfl) (hnever 0 le_rfl)
  | negInf => exact absurd (by rw [Libm.log_negInf]; rfl) hnan
  | nan => exact absurd (by rw [Libm.log_nan]; rfl) hnan

/-- **A drag in zoom mode** keeps the zoom in its range, whatever the header says. -/
theorem zoomInRange_dragModeZoom (h : ZoomInRange m.view.zoom)
    (pos last pageViewSize : Vec2 ExtRat) :
    ZoomInRange (m.dragModeZoom pos last pageViewSize).view.zoom := by
  obtain ⟨greatest, hone, hgreatest⟩ := exists_maxZoom
  obtain ⟨q, hpos, hq⟩ := h.exists_pos
  by_cases hmoved : Vec2.beq pos last = true
  · rwa [show m.dragModeZoom pos last pageViewSize = m from if_pos hmoved]
  let stepPower := m.headerInfo.zoomStep * (pageViewSize.y / num 2) * (last.y - pos.y)
  let limit := Libm.log (num (1 / 10) * num (2 ^ 128 - 2 ^ 104)) / Libm.log m.headerInfo.zoomFactor
  by_cases hlimit : ExtRat.lt (ExtRat.abs stepPower) limit = true
  swap
  · rwa [show m.dragModeZoom pos last pageViewSize = m from
      (if_neg hmoved).trans (if_neg hlimit)]
  · obtain ⟨factor, p, hfactor, hzoomFactor, hp⟩ := exists_num_of_lt_limit hlimit
    obtain ⟨r, -, hpow⟩ := Libm.pow_num hfactor p
    have hmin : (num 1 : ExtRat) / num greatest = num (1 / greatest) := div_num 1 (by linarith)
    have hzoom : (m.dragModeZoom pos last pageViewSize).view.zoom =
        let zoom := num (q * r)
        if ExtRat.lt zoom (num (1 / greatest)) || ExtRat.eq zoom (num (1 / greatest)) then
          num (1 / greatest)
        else if ExtRat.lt (num greatest) zoom || ExtRat.eq (num greatest) zoom then num greatest
        else zoom := by
      rw [← mul_num, ← hpow, ← hp, ← hzoomFactor, ← hq, ← hmin, ← hgreatest]
      exact congrArg (fun m : Model ExtRat ExtRat S => m.view.zoom)
        ((if_neg hmoved).trans (if_pos hlimit))
    rw [zoomInRange_iff hgreatest, hzoom]
    refine clampEq_mem ?_ (q * r)
    rw [div_le_iff₀ (by linarith)]
    nlinarith

/-- Shifting, panning and rotating leave the zoom alone. -/
theorem zoom_dragModeShift (m : Model ExtRat ExtRat S) (pos last : Vec2 ExtRat) :
    (m.dragModeShift pos last).view.zoom = m.view.zoom := by
  unfold dragModeShift
  split_ifs <;> rfl

theorem zoom_dragModePan (m : Model ExtRat ExtRat S) (pos last : Vec2 ExtRat) :
    (m.dragModePan pos last).view.zoom = m.view.zoom := by
  unfold dragModePan
  split_ifs
  · rfl
  · exact zoom_dragModeShift m pos last
  · rfl

theorem zoom_dragModeRotate (m : Model ExtRat ExtRat S) (pos last : Vec2 ExtRat) :
    (m.dragModeRotate pos last).view.zoom = m.view.zoom := by
  unfold dragModeRotate
  dsimp only
  split_ifs <;> rfl

/-- **Step lemma**: while `Zoom` and `Zoom0` are in their range, a step keeps what it has to iff
it meets the condition. -/
theorem zoomSound_iff (h : ZoomInRange m.view.zoom) (h0 : ZoomInRange m.headerInfo.initialZoom)
    (i : Interaction ExtRat) : ZoomSound m i ↔ ZoomFactorFits m i := by
  have hsound : ZoomInRange (m.interact i).view.zoom →
      (divides i = true → (ViewScalar.log ExtRat m.headerInfo.zoomFactor).IsDivisor) →
        ZoomSound m i := by
    intro hzoom hlog
    have hzoom0 : ZoomInRange (m.interact i).headerInfo.initialZoom := by
      rwa [headerInfo_interact]
    exact ⟨hzoom, hzoom0, ⟨hzoom.isDivisor, hzoom0.isDivisor⟩, hlog⟩
  -- only the wheel and the zoom drag change `Zoom`, and only the drag divides by a logarithm
  cases i with
  | home => exact iff_of_true (hsound h0 nofun) trivial
  | cycleMode => exact iff_of_true (hsound h nofun) trivial
  | shift pos last =>
    refine iff_of_true (hsound ?_ nofun) trivial
    rwa [interact, zoom_dragModeShift m pos last]
  | pan pos last =>
    refine iff_of_true (hsound ?_ nofun) trivial
    rwa [interact, zoom_dragModePan m pos last]
  | rotate pos last =>
    refine iff_of_true (hsound ?_ nofun) trivial
    rwa [interact, zoom_dragModeRotate m pos last]
  | wheel deltaNegative canvasSize =>
    have hwheel := zoomInRange_wheelZoom_iff h deltaNegative canvasSize
    exact ⟨fun hs => hwheel.mp hs.zoom, fun hfits => hsound (hwheel.mpr hfits) nofun⟩
  | zoom pos last pageViewSize =>
    have hzoom := zoomInRange_dragModeZoom h pos last pageViewSize
    have hlog := log_isDivisor_iff m.headerInfo.zoomFactor
    have hdivides : divides (.zoom pos last pageViewSize) = true ↔ Vec2.beq pos last = false := by
      simp [divides]
    constructor
    · exact fun hs hmoved => hlog.mp (hs.log (hdivides.mpr hmoved))
    · exact fun hfits => hsound hzoom fun hmoved => hlog.mpr (hfits (hdivides.mp hmoved))

/-! ### Runs -/

/-- The invariant: both zooms are in their range. -/
def ZoomsInRange (m : Model ExtRat ExtRat S) : Prop :=
  ZoomInRange m.view.zoom ∧ ZoomInRange m.headerInfo.initialZoom

/-- **The zoom stays in its range**, and what is divided by is a divisor, from the loading of a file
through any run, iff the initial zoom is in the range and every step finds a `zoomFactor` that fits.
`value` says which number a `double` of the file is, and `unread` what an unread member holds. -/
theorem zoomSound_along_iff {D F : Type} [Scalar D] [Scalar F] [Xdr64 D] [Xdr32 F] [Rounding D F]
    (value : D → ExtRat) (unread : ExtRat) (measured : Bool) (bytes : List UInt8) (scene : S)
    (minBound maxBound : Vec2 ExtRat) (as : List (Interaction ExtRat)) :
    let headerInfo := HeaderInfo.ofLoaded value unread
      (load measured bytes : Loaded D F × Wire.Stream).1.headerInfo
    let m : Model ExtRat ExtRat S := ofFile scene headerInfo minBound maxBound
    (ZoomInRange m.view.zoom ∧ ZoomInRange m.headerInfo.initialZoom ∧
        Along interact ZoomSound m as) ↔
      ZoomInRange headerInfo.initialZoom ∧ Along interact ZoomFactorFits m as := by
  intro headerInfo m
  have hrun : ZoomInRange headerInfo.initialZoom →
      (Along interact ZoomSound m as ↔ Along interact ZoomFactorFits m as) := by
    intro h
    have hiff : ∀ m : Model ExtRat ExtRat S, ∀ i, m.ZoomsInRange →
        (ZoomSound m i ↔ ZoomFactorFits m i) := fun m i hm => zoomSound_iff hm.1 hm.2 i
    refine along_iff_of_invariant hiff (fun m i hm hfits => ?_) ⟨h, h⟩ as
    have hs := (hiff m i hm).mpr hfits
    exact ⟨hs.zoom, hs.zoom0⟩
  constructor
  · rintro ⟨h, -, hsound⟩
    exact ⟨h, (hrun h).mp hsound⟩
  · rintro ⟨h, hfits⟩
    exact ⟨h, h, (hrun h).mpr hfits⟩

end Model

end ImageCache

end View

/-! ### A file that leaves the range -/

/-- A `<cmath>` over the rational numbers: roots from below, and the first Taylor terms. -/
instance roughLibm : Libm where
  sqrt
    | num q => num (Nat.sqrt (q.num.toNat * q.den) / q.den)
    | x => x
  cos _ := num 1
  sin x := x
  tan x := x
  acos x := x
  log
    | num q => if q < 0 then nan else if q = 0 then negInf else num (q - 1)
    | posInf => posInf
    | _ => nan
  pow
    | num q, num p => num (q ^ p.floor)
    | _, _ => nan
  rotate _ _ m := m
  truncate
    | num q => q.num.tdiv q.den
    | _ => 0
  sqrt_num {q} h := by
    refine ⟨_, ?_, rfl⟩
    have hden : (0 : ℚ) < q.den := by exact_mod_cast q.den_pos
    have hnum : (q.den : ℤ) ≤ q.num := by simpa using (Rat.le_iff 1 q).mp h
    have hroot : q.den ≤ Nat.sqrt (q.num.toNat * q.den) := by
      rw [Nat.le_sqrt]
      exact Nat.mul_le_mul_right _ (by simpa using Int.toNat_le_toNat hnum)
    rw [le_div_iff₀ hden, one_mul]
    exact_mod_cast hroot
  log_nan := rfl
  log_negInf := rfl
  log_posInf := rfl
  log_neg h := if_pos h
  log_zero := rfl
  log_one := by norm_num
  log_below {q} h h' := by
    refine ⟨q - 1, by linarith, ?_⟩
    simp only [if_neg (not_lt.mpr h.le), if_neg h.ne']
  log_above {q} h := by
    have hpos : 0 < q := by linarith
    refine ⟨q - 1, by linarith, ?_⟩
    simp only [if_neg (not_lt.mpr hpos.le), if_neg hpos.ne']
  pow_num {q} h p := ⟨q ^ p.floor, zpow_pos h _, rfl⟩

namespace ImageCache

/-- A file with one record, a header whose only entry is an initial zoom of zero. -/
def zeroZoomFile : List UInt8 :=
  [0, 0, 0, 1, 0, 0, 0, 1, 0, 0, 0, 5, 0, 0, 0, 1, 0, 0, 0, 8, 0, 0, 0, 2, 0, 0, 0, 0, 0, 0, 0, 0]

/-- The header of a file whose `double`s are whole numbers. -/
def wholeHeader (bytes : List UInt8) : HeaderInfo ExtRat :=
  .ofLoaded (fun a : Int64 => num a.toInt) nan
    (load true bytes : Loaded Int64 Int32 × Wire.Stream).1.headerInfo

/-- A zoom of zero is taken from the file as it is, and a file that says nothing of its
`zoomFactor` has one, whose logarithm a drag divides by. -/
theorem not_zoomSound_zeroZoom :
    ¬ ZoomInRange (Model.ofFile () (wholeHeader zeroZoomFile) ⟨num 0, num 0⟩ ⟨num 1, num 1⟩ :
        Model ExtRat ExtRat Unit).view.zoom ∧
      ¬ Model.ZoomSound (Model.ofFile () (wholeHeader []) ⟨num 0, num 0⟩ ⟨num 1, num 1⟩ :
        Model ExtRat ExtRat Unit)
        (.zoom ⟨num 0, num 0⟩ ⟨num 0, num 1⟩ ⟨num 100, num 100⟩) := by
  constructor
  · intro h
    obtain ⟨q, hpos, hq⟩ := h.exists_pos
    have hzero : (wholeHeader zeroZoomFile).initialZoom = num 0 := by decide +kernel
    have hnum : num q = num 0 := hq.symm.trans hzero
    exact hpos.ne' (by simpa using hnum)
  · intro h
    have hfactor : (wholeHeader []).zoomFactor = num 1 := by decide +kernel
    have hlog : Libm.log (wholeHeader []).zoomFactor = num 0 := by rw [hfactor, Libm.log_one]
    exact (h.log (by decide +kernel)).2 hlog

end ImageCache

end OkularV3d
