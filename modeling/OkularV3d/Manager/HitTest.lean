import Mathlib.Data.List.Chain
import Mathlib.Algebra.Order.Field.Rat
import Mathlib.Algebra.Order.Ring.Star
import Mathlib.Data.Rat.Star
import Mathlib.Tactic.FieldSimp
import Mathlib.Tactic.Linarith
import Mathlib.Tactic.NormNum
import OkularV3d.Pdf.Tiles

/-!
# Hit testing

Okular tells which part of each visible page is seen, but not where the page is. The manager
computes the distances of every visible page to the edges of the viewport from that part and the
size of the page: where a page is seen whole it must be centred, and where it is cut its first seen
pixel must be at the edge. From these `PageBorders` it decides which page the mouse is over, and
where on it.

A `Layout` is what Okular's page view really shows: visible pages one below the other. `exact_iff`
says for which layouts the borders, and with them the hit test, are right. They are not where the
pages neither fill the viewport nor are centred in it, and, with two pages or more, where a page is
cut at its sides.

* `PageBorders` are computed as in the source; `Borders` says what they should be.
* `Layout.Regular` is the condition, `borders_iff_regular` its meaning for the borders.
* `exact_iff` adds the page under the mouse and the position on it.

Positions are in an ordered field, so nothing is rounded.
-/

namespace OkularV3d

open Pdf (NormalizedRect)

namespace HitTest

variable {K : Type}

/-- `V3dModelManager::PageBorders`. -/
structure PageBorders (K : Type) where
  hi : K
  lo : K
  le : K
  ri : K
  pageNumber : ℕ

/-- `Okular::VisiblePageRect`. -/
structure VisiblePageRect (K : Type) where
  pageNumber : ℕ
  rect : NormalizedRect K

/-- What hit testing reads: the size of `m_PageView`, the device pixel ratio, what Okular says of
the visible pages and of its viewport, the size and the device pixel ratio of
`m_PresentationWidget`, the size of `m_LastEventSource` where that is a presentation, and the sizes
that were requested. -/
structure Screen (K : Type) where
  pageView : Option (Vec2 K)
  devicePixelRatio : K
  visiblePageRects : List (VisiblePageRect K)
  viewportPage : Int
  presentationWidget : Option (Vec2 K × K)
  lastPresentation : Option (Vec2 K)
  cachedRequestSizes : List (Int × Int)
  presentationRequestSizes : List (Int × Int)

section Borders

variable [Field K] [LinearOrder K]

/-- A size in device pixels, in pixels of the widget. -/
def devSize (size : Int × Int) (dpr : K) : Vec2 K := ⟨size.1 / dpr, size.2 / dpr⟩

namespace Screen

variable (screen : Screen K)

/-- `m_CachedRequestSizes[pageNumber].size / dpr`, after `EnsureCachedRequestSize`. -/
def pageSize (pageNumber : ℕ) : Vec2 K :=
  devSize (screen.cachedRequestSizes.getD pageNumber (0, 0)) screen.devicePixelRatio

/-- The borders of the only visible page. -/
def singlePage (viewPortSize : Vec2 K) (page : VisiblePageRect K) : PageBorders K :=
  let rect := page.rect
  let pageSize := screen.pageSize page.pageNumber
  if rect.left = 0 ∧ rect.right = 1 ∧ rect.top = 0 ∧ rect.bottom = 1 then
    { hi := (viewPortSize.y - pageSize.y) / 2
      lo := (viewPortSize.y - pageSize.y) / 2
      le := (viewPortSize.x - pageSize.x) / 2
      ri := (viewPortSize.x - pageSize.x) / 2
      pageNumber := page.pageNumber }
  else if rect.left = 0 ∧ rect.right = 1 then
    { hi := -rect.top * pageSize.y
      lo := -(1 - rect.bottom) * pageSize.y
      le := (viewPortSize.x - pageSize.x) / 2
      ri := (viewPortSize.x - pageSize.x) / 2
      pageNumber := page.pageNumber }
  else if rect.top = 0 ∧ rect.bottom = 1 then
    { hi := (viewPortSize.y - pageSize.y) / 2
      lo := (viewPortSize.y - pageSize.y) / 2
      le := -rect.left * pageSize.x
      ri := -(1 - rect.right) * pageSize.x
      pageNumber := page.pageNumber }
  else
    { hi := -rect.top * pageSize.y
      lo := -(1 - rect.bottom) * pageSize.y
      le := -rect.left * pageSize.x
      ri := -(1 - rect.right) * pageSize.x
      pageNumber := page.pageNumber }

/-- `le` and `ri` of one page of several. A page that is cut at one side only is the edge case that
is left out. -/
def sideBorders (viewPortSize : Vec2 K) (page : VisiblePageRect K) : K × K :=
  let rect := page.rect
  let pageSize := screen.pageSize page.pageNumber
  if rect.left = 0 ∧ rect.right = 1 then
    ((viewPortSize.x - pageSize.x) / 2, (viewPortSize.x - pageSize.x) / 2)
  else if rect.left ≠ 0 ∧ rect.right ≠ 1 then (-rect.left * pageSize.x, -rect.right * pageSize.x)
  else (0, 0)

/-- The heights of the pages from the first to the last visible one, and the margins between the
visible pages. -/
def totalPageHeight (first last count : ℕ) : K :=
  ((List.range' first (last + 1 - first)).map fun i => (screen.pageSize i).y).sum +
    ((count : K) - 1) * 10

/-- `hi` and `lo` of the first page of several. -/
def firstBorders (viewPortSize : Vec2 K) (page : VisiblePageRect K) (totalPageHeight : K) : K × K :=
  let firstPageSize := screen.pageSize page.pageNumber
  if page.rect.top = 0 then
    let verticalMargin := (viewPortSize.y - totalPageHeight) / 2
    (verticalMargin, viewPortSize.y - verticalMargin - firstPageSize.y)
  else
    (-page.rect.top * firstPageSize.y, viewPortSize.y - (1 - page.rect.top) * firstPageSize.y)

/-- The borders of the other pages, each below the one before it, whose `lo` is given. -/
def otherPages (viewPortSize : Vec2 K) : K → List (VisiblePageRect K) → List (PageBorders K)
  | _, [] => []
  | previous, page :: pages =>
    let pageSize := screen.pageSize page.pageNumber
    let hi := viewPortSize.y - previous + 10
    let lo := viewPortSize.y - hi - pageSize.y
    let sides := screen.sideBorders viewPortSize page
    { hi, lo, le := sides.1, ri := sides.2, pageNumber := page.pageNumber } ::
      otherPages viewPortSize lo pages

/-- The borders of several visible pages, of which `page` is the first. -/
def severalPages (viewPortSize : Vec2 K) (page : VisiblePageRect K)
    (pages : List (VisiblePageRect K)) : List (PageBorders K) :=
  let last := (page :: pages).getLast (List.cons_ne_nil page pages)
  let total := screen.totalPageHeight page.pageNumber last.pageNumber (pages.length + 1)
  let first := screen.firstBorders viewPortSize page total
  let sides := screen.sideBorders viewPortSize page
  { hi := first.1, lo := first.2, le := sides.1, ri := sides.2, pageNumber := page.pageNumber } ::
    screen.otherPages viewPortSize first.2 pages

/-- `GetPageBordersForVisiblePages`. -/
def GetPageBordersForVisiblePages : List (PageBorders K) :=
  match screen.pageView with
  | none => []
  | some viewPortSize =>
    match screen.visiblePageRects with
    | [] => []
    | [page] => [screen.singlePage viewPortSize page]
    | page :: pages => screen.severalPages viewPortSize page pages

/-- `GetPresentationPageBorders`: the page of the viewport is centred in the widget. -/
def GetPresentationPageBorders : List (PageBorders K) :=
  match screen.presentationWidget with
  | none => []
  | some (widgetSize, dpr) =>
    if screen.viewportPage < 0 then []
    else
      match screen.presentationRequestSizes[screen.viewportPage.toNat]? with
      | none => []
      | some size =>
        if size.1 ≤ 0 ∨ size.2 ≤ 0 then []
        else
          let pageSize := devSize size dpr
          [{ hi := (widgetSize.y - pageSize.y) / 2
             lo := (widgetSize.y - pageSize.y) / 2
             le := (widgetSize.x - pageSize.x) / 2
             ri := (widgetSize.x - pageSize.x) / 2
             pageNumber := screen.viewportPage.toNat }]

/-- `GetActivePageBorders`. -/
def GetActivePageBorders : List (PageBorders K) :=
  match screen.lastPresentation with
  | some _ => screen.GetPresentationPageBorders
  | none => screen.GetPageBordersForVisiblePages

/-- `GetActiveViewportSize`. -/
def GetActiveViewportSize : Vec2 K :=
  match screen.lastPresentation with
  | some size => size
  | none => screen.pageView.getD ⟨0, 0⟩

/-- The mouse is between the borders. -/
def within (viewPortSize mouse : Vec2 K) (border : PageBorders K) : Bool :=
  decide (mouse.x > border.le ∧ mouse.x < viewPortSize.x - border.ri ∧
    mouse.y > border.hi ∧ mouse.y < viewPortSize.y - border.lo)

/-- `GetPageMouseIsOver`; no page is the `-1` of the source. -/
def GetPageMouseIsOver (mouse : Vec2 K) : Option ℕ :=
  (screen.GetActivePageBorders.find? (within screen.GetActiveViewportSize mouse)).map
    PageBorders.pageNumber

/-- The size by which a position is normalised: that of the presentation where the mouse is on it
and it has asked for the page, and the last that was requested otherwise. -/
def normalizingSize (pageNumber : ℕ) : Vec2 K :=
  match screen.lastPresentation, screen.presentationRequestSizes[pageNumber]? with
  | some _, some size =>
    if 0 < size.1 ∧ 0 < size.2 then
      devSize size ((screen.presentationWidget.map Prod.snd).getD screen.devicePixelRatio)
    else screen.pageSize pageNumber
  | _, _ => screen.pageSize pageNumber

/-- `GetNormalizedPositionRelativeToPage`. -/
def GetNormalizedPositionRelativeToPage (pos : Vec2 K) (pageNumber : ℕ) : Vec2 K :=
  let pageSize := screen.normalizingSize pageNumber
  match screen.GetActivePageBorders.find? fun border => border.pageNumber = pageNumber with
  | none => ⟨0, 0⟩
  | some border =>
    if pageSize.x ≤ 0 ∨ pageSize.y ≤ 0 then ⟨0, 0⟩
    else ⟨(pos.x - border.le) / pageSize.x, (pos.y - border.hi) / pageSize.y⟩

end Screen

end Borders

/-! ### Layouts -/

/-- A page in the viewport: where its corner is, and its size. -/
structure Page (K : Type) where
  number : ℕ
  left : K
  top : K
  width : K
  height : K

section Layouts

variable [Field K] [LinearOrder K]

namespace Page

/-- The mouse is on the page. -/
structure Contains (p : Page K) (mouse : Vec2 K) : Prop where
  left : p.left < mouse.x
  right : mouse.x < p.left + p.width
  top : p.top < mouse.y
  bottom : mouse.y < p.top + p.height

/-- The part of the page that is seen in a viewport of this size, in coordinates of the page. -/
def visibleRect (viewport : Vec2 K) (p : Page K) : NormalizedRect K where
  left := (max p.left 0 - p.left) / p.width
  top := (max p.top 0 - p.top) / p.height
  right := (min (p.left + p.width) viewport.x - p.left) / p.width
  bottom := (min (p.top + p.height) viewport.y - p.top) / p.height

/-- What Okular says of the page. -/
def seen (viewport : Vec2 K) (p : Page K) : VisiblePageRect K :=
  ⟨p.number, p.visibleRect viewport⟩

/-- `q` is the next page below `p`. -/
structure Below (p q : Page K) : Prop where
  number : q.number = p.number + 1
  top : q.top = p.top + p.height + 10

/-- The page is seen from its left to its right edge. -/
def WholeWidth (viewport : Vec2 K) (p : Page K) : Prop := 0 ≤ p.left ∧ p.left + p.width ≤ viewport.x

/-- The page is cut at both sides. -/
def CutAtBothSides (viewport : Vec2 K) (p : Page K) : Prop :=
  p.left < 0 ∧ viewport.x < p.left + p.width

end Page

/-- **What a page view shows**: the visible pages, one below the other with a gap of ten pixels. A
page that is narrower than the viewport is centred, and others may be cut at any side. -/
structure Layout (K : Type) [Field K] [LinearOrder K] where
  viewport : Vec2 K
  pages : List (Page K)
  nonempty : pages ≠ []
  stacked : pages.IsChain Page.Below
  sized : ∀ p ∈ pages, 0 < p.width ∧ 0 < p.height
  visible : ∀ p ∈ pages, p.left < viewport.x ∧ 0 < p.left + p.width ∧
    p.top < viewport.y ∧ 0 < p.top + p.height
  centred : ∀ p ∈ pages, p.width < viewport.x → p.left = (viewport.x - p.width) / 2

/-- A page, or a stack of pages, is centred between two edges of the viewport or fills the space
between them. -/
def Fits (viewport start size : K) : Prop :=
  start = (viewport - size) / 2 ∨ start ≤ 0 ∧ viewport ≤ start + size

namespace Layout

variable (l : Layout K)

/-- The height of the visible pages and the gaps between them. -/
def height : K := (l.pages.map Page.height).sum + ((l.pages.length : K) - 1) * 10

/-- The condition on a layout. A page alone must fit in both directions. Where there are more, the
first must be cut at its top or all of them be centred, and each must be seen in its whole width, or
be cut at both sides with half of it left of the right edge of the viewport. -/
def Regular : Prop :=
  match l.pages with
  | [] => True
  | [p] => Fits l.viewport.x p.left p.width ∧ Fits l.viewport.y p.top p.height
  | p :: q :: ps =>
    (p.top < 0 ∨ p.top = (l.viewport.y - l.height) / 2) ∧
      ∀ r ∈ p :: q :: ps, r.WholeWidth l.viewport ∨
        r.CutAtBothSides l.viewport ∧ r.width = 2 * (l.viewport.x - r.left)

/-- The screen shows the layout: the mouse is on the page view, whose size is that of the viewport,
Okular reports the visible parts, and each page is as large as it was last requested. -/
structure ShownOn (screen : Screen K) : Prop where
  pageView : screen.pageView = some l.viewport
  lastPresentation : screen.lastPresentation = none
  rects : screen.visiblePageRects = l.pages.map (Page.seen l.viewport)
  sizes : ∀ p ∈ l.pages, screen.pageSize p.number = ⟨p.width, p.height⟩

/-- The borders of a page are its distances to the edges of the viewport. -/
structure Borders (viewport : Vec2 K) (b : PageBorders K) (p : Page K) : Prop where
  pageNumber : b.pageNumber = p.number
  le : b.le = p.left
  hi : b.hi = p.top
  ri : b.le + p.width + b.ri = viewport.x
  lo : b.hi + p.height + b.lo = viewport.y

/-- **Hit testing is exact**: every visible page has its borders, the mouse is over the page it is
on, and its position on that page is the normalised one, between 0 and 1. -/
structure Exact (screen : Screen K) : Prop where
  borders : List.Forall₂ (Borders l.viewport) screen.GetPageBordersForVisiblePages l.pages
  hovered : ∀ mouse n, screen.GetPageMouseIsOver mouse = some n ↔
    ∃ p ∈ l.pages, p.number = n ∧ p.Contains mouse
  position : ∀ mouse, ∀ p ∈ l.pages, p.Contains mouse →
    let pos := screen.GetNormalizedPositionRelativeToPage mouse p.number
    pos = ⟨(mouse.x - p.left) / p.width, (mouse.y - p.top) / p.height⟩ ∧
      (0 < pos.x ∧ pos.x < 1) ∧ 0 < pos.y ∧ pos.y < 1

end Layout

end Layouts

/-! ### One direction -/

section Axis

variable [Field K] [LinearOrder K] {viewport start size : K}

variable [IsStrictOrderedRing K]

omit [IsStrictOrderedRing K] in
theorem seen_start_eq_zero (hsize : 0 < size) :
    (max start 0 - start) / size = 0 ↔ 0 ≤ start := by
  rw [div_eq_zero_iff, or_iff_left hsize.ne', sub_eq_zero, max_eq_left_iff]

omit [IsStrictOrderedRing K] in
theorem seen_end_eq_one (hsize : 0 < size) :
    (min (start + size) viewport - start) / size = 1 ↔ start + size ≤ viewport := by
  rw [div_eq_one_iff_eq hsize.ne', sub_eq_iff_eq_add, add_comm size start, min_eq_left_iff]

omit [IsStrictOrderedRing K] in
/-- What is left out at the start is negative where the page is cut there. -/
theorem neg_seen_start_mul (hsize : 0 < size) :
    -((max start 0 - start) / size) * size = min start 0 := by
  rw [neg_mul, div_mul_cancel₀ _ hsize.ne', neg_sub, sub_eq_iff_eq_add, min_add_max, add_zero]

theorem neg_unseen_end_mul (hsize : 0 < size) :
    -(1 - (min (start + size) viewport - start) / size) * size =
      min 0 (viewport - start - size) := by
  rw [neg_mul, sub_mul, div_mul_cancel₀ _ hsize.ne', one_mul]
  rcases le_total (start + size) viewport with h | h
  · rw [min_eq_left h, min_eq_left (by linarith)]
    ring
  · rw [min_eq_right h, min_eq_right (by linarith)]
    ring

/-- The same distance on both sides is right where the page is centred. -/
theorem centred_iff (viewport start size : K) :
    (viewport - size) / 2 = start ∧
      (viewport - size) / 2 + size + (viewport - size) / 2 = viewport ↔
      start = (viewport - size) / 2 := by
  constructor
  · rintro ⟨h, -⟩
    exact h.symm
  · intro h
    exact ⟨h.symm, by ring⟩

/-- What is left out on both sides is right where the page fills the viewport. -/
theorem filled_iff (viewport start size : K) :
    min start 0 = start ∧ min start 0 + size + min 0 (viewport - start - size) = viewport ↔
      start ≤ 0 ∧ viewport ≤ start + size := by
  rw [min_eq_left_iff]
  refine and_congr_right fun h => ?_
  rw [min_eq_left h]
  constructor
  · intro hend
    have hle := min_le_left 0 (viewport - start - size)
    linarith
  · intro hle
    rw [min_eq_right (by linarith)]
    ring

/-- A page that is seen whole fits where it is centred. -/
theorem fits_of_whole (hstart : 0 ≤ start) (hend : start + size ≤ viewport) :
    Fits viewport start size ↔ start = (viewport - size) / 2 := by
  refine ⟨fun h => h.elim id fun ⟨hle, hge⟩ => ?_, .inl⟩
  linarith

/-- A page that is cut fits where it fills the viewport. -/
theorem fits_of_cut (h : ¬ (0 ≤ start ∧ start + size ≤ viewport)) :
    Fits viewport start size ↔ start ≤ 0 ∧ viewport ≤ start + size := by
  refine ⟨fun hfits => hfits.elim (fun hcentred => ?_) id, .inr⟩
  by_cases hstart : 0 ≤ start
  · exact absurd ⟨hstart, by linarith⟩ h
  · constructor <;> linarith

end Axis

/-! ### The borders of a page -/

section Exact

variable [Field K] [LinearOrder K] [IsStrictOrderedRing K] {l : Layout K} {screen : Screen K}

namespace Layout

omit [LinearOrder K] [IsStrictOrderedRing K] in
/-- The borders of a page, direction by direction. -/
theorem borders_iff {viewport : Vec2 K} {b : PageBorders K} {p : Page K}
    (hnumber : b.pageNumber = p.number) :
    Borders viewport b p ↔ (b.le = p.left ∧ b.le + p.width + b.ri = viewport.x) ∧
      b.hi = p.top ∧ b.hi + p.height + b.lo = viewport.y := by
  constructor
  · rintro ⟨-, hle, hhi, hri, hlo⟩
    exact ⟨⟨hle, hri⟩, hhi, hlo⟩
  · rintro ⟨⟨hle, hri⟩, hhi, hlo⟩
    exact ⟨hnumber, hle, hhi, hri, hlo⟩

/-- One visible page has its borders iff it fits in both directions. -/
theorem borders_singlePage_iff {p : Page K} (hsize : screen.pageSize p.number = ⟨p.width, p.height⟩)
    (hwidth : 0 < p.width) (hheight : 0 < p.height) (viewport : Vec2 K) :
    Borders viewport (screen.singlePage viewport (p.seen viewport)) p ↔
      Fits viewport.x p.left p.width ∧ Fits viewport.y p.top p.height := by
  have hcentredX := centred_iff viewport.x p.left p.width
  have hcentredY := centred_iff viewport.y p.top p.height
  have hfilledX := filled_iff viewport.x p.left p.width
  have hfilledY := filled_iff viewport.y p.top p.height
  simp only [Screen.singlePage, hsize, Page.seen, Page.visibleRect, seen_start_eq_zero hwidth,
    seen_end_eq_one hwidth, seen_start_eq_zero hheight, seen_end_eq_one hheight,
    neg_seen_start_mul hwidth, neg_seen_start_mul hheight, neg_unseen_end_mul hwidth,
    neg_unseen_end_mul hheight]
  by_cases hx : 0 ≤ p.left ∧ p.left + p.width ≤ viewport.x
  · by_cases hy : 0 ≤ p.top ∧ p.top + p.height ≤ viewport.y
    · rw [if_pos ⟨hx.1, hx.2, hy⟩, borders_iff rfl, fits_of_whole hx.1 hx.2,
        fits_of_whole hy.1 hy.2]
      exact and_congr hcentredX hcentredY
    · rw [if_neg fun h => hy h.2.2, if_pos hx, borders_iff rfl, fits_of_whole hx.1 hx.2,
        fits_of_cut hy]
      exact and_congr hcentredX hfilledY
  · rw [if_neg fun h => hx ⟨h.1, h.2.1⟩, if_neg hx]
    by_cases hy : 0 ≤ p.top ∧ p.top + p.height ≤ viewport.y
    · rw [if_pos hy, borders_iff rfl, fits_of_cut hx, fits_of_whole hy.1 hy.2]
      exact and_congr hfilledX hcentredY
    · rw [if_neg hy, borders_iff rfl, fits_of_cut hx, fits_of_cut hy]
      exact and_congr hfilledX hfilledY

/-- The sides of one page of several. -/
theorem sideBorders_iff {p : Page K} (hsize : screen.pageSize p.number = ⟨p.width, p.height⟩)
    (hwidth : 0 < p.width) (viewport : Vec2 K)
    (hcentred : p.width < viewport.x → p.left = (viewport.x - p.width) / 2) :
    let sides := screen.sideBorders viewport (p.seen viewport)
    (sides.1 = p.left ∧ sides.1 + p.width + sides.2 = viewport.x) ↔
      p.WholeWidth viewport ∨ p.CutAtBothSides viewport ∧ p.width = 2 * (viewport.x - p.left) := by
  have hend : -((min (p.left + p.width) viewport.x - p.left) / p.width) * p.width =
      p.left - min (p.left + p.width) viewport.x := by
    rw [neg_mul, div_mul_cancel₀ _ hwidth.ne', neg_sub]
  simp only [Screen.sideBorders, hsize, Page.seen, Page.visibleRect, ne_eq,
    seen_start_eq_zero hwidth,
    seen_end_eq_one hwidth, neg_seen_start_mul hwidth, hend]
  by_cases hx : 0 ≤ p.left ∧ p.left + p.width ≤ viewport.x
  · -- seen in its whole width, and so centred
    have hleft : p.left = (viewport.x - p.width) / 2 := by
      obtain hlt | hge := lt_or_ge p.width viewport.x
      · exact hcentred hlt
      · linarith [hx.1, hx.2]
    rw [if_pos hx]
    exact iff_of_true ((centred_iff viewport.x p.left p.width).mpr hleft) (.inl hx)
  · rw [if_neg hx]
    by_cases hcut : ¬ 0 ≤ p.left ∧ ¬ p.left + p.width ≤ viewport.x
    · have hleft : p.left < 0 := not_le.mp hcut.1
      have hright : viewport.x < p.left + p.width := not_le.mp hcut.2
      rw [if_pos hcut, min_eq_left hleft.le, min_eq_right hright.le]
      constructor
      · rintro ⟨-, h⟩
        exact .inr ⟨⟨hleft, hright⟩, by linarith⟩
      · rintro (h | ⟨-, h⟩)
        · exact absurd h hx
        · exact ⟨rfl, by linarith⟩
    · -- cut at one side only
      rw [if_neg hcut]
      refine iff_of_false ?_ ?_
      · rintro ⟨hleft, hright⟩
        exact hx ⟨hleft.le, by linarith⟩
      · rintro (h | ⟨⟨hleft, hright⟩, -⟩)
        · exact hx h
        · exact hcut ⟨not_le.mpr hleft, not_le.mpr hright⟩

/-- The upper and lower border of the first page of several. -/
theorem firstBorders_iff {p : Page K} (hsize : screen.pageSize p.number = ⟨p.width, p.height⟩)
    (hheight : 0 < p.height) (viewport : Vec2 K) (total : K) :
    let first := screen.firstBorders viewport (p.seen viewport) total
    (first.1 = p.top ∧ first.1 + p.height + first.2 = viewport.y) ↔
      p.top < 0 ∨ p.top = (viewport.y - total) / 2 := by
  have htop : -((max p.top 0 - p.top) / p.height) * p.height = min p.top 0 :=
    neg_seen_start_mul hheight
  simp only [Screen.firstBorders, hsize, Page.seen, Page.visibleRect, seen_start_eq_zero hheight]
  by_cases hseen : 0 ≤ p.top
  · rw [if_pos hseen]
    constructor
    · rintro ⟨h, -⟩
      exact .inr h.symm
    · rintro (h | h)
      · exact absurd hseen (not_le.mpr h)
      · exact ⟨h.symm, by ring⟩
  · have hneg : p.top < 0 := not_le.mp hseen
    rw [min_eq_left hneg.le] at htop
    rw [if_neg hseen]
    refine iff_of_true ⟨htop, ?_⟩ (.inl hneg)
    ring

/-! ### Several pages -/

omit [LinearOrder K] [IsStrictOrderedRing K] in
/-- The number of the last page of a stack. -/
theorem number_getLast {p : Page K} {ps : List (Page K)} (h : (p :: ps).IsChain Page.Below) :
    ((p :: ps).getLast (List.cons_ne_nil p ps)).number = p.number + ps.length := by
  induction ps generalizing p with
  | nil => rfl
  | cons q ps ih =>
    rw [List.isChain_cons_cons] at h
    rw [List.getLast_cons (List.cons_ne_nil q ps), ih h.2, h.1.number, List.length_cons]
    omega

omit [LinearOrder K] [IsStrictOrderedRing K] in
/-- Their numbers follow each other. -/
theorem map_number {p : Page K} {ps : List (Page K)} (h : (p :: ps).IsChain Page.Below) :
    (p :: ps).map Page.number = List.range' p.number (ps.length + 1) := by
  induction ps generalizing p with
  | nil => rfl
  | cons q ps ih =>
    rw [List.isChain_cons_cons] at h
    rw [List.map_cons, ih h.2, h.1.number, List.length_cons]
    rfl

omit [LinearOrder K] [IsStrictOrderedRing K] in
/-- The height that the loop over the page numbers computes is that of the stack. -/
theorem totalPageHeight_eq {p : Page K} {ps : List (Page K)}
    (h : (p :: ps).IsChain Page.Below)
    (hsizes : ∀ q ∈ p :: ps, screen.pageSize q.number = ⟨q.width, q.height⟩) :
    screen.totalPageHeight p.number ((p :: ps).getLast (List.cons_ne_nil p ps)).number
      (ps.length + 1) = ((p :: ps).map Page.height).sum + (((p :: ps).length : K) - 1) * 10 := by
  have hcount : p.number + ps.length + 1 - p.number = ps.length + 1 := by omega
  have hheights : ((p :: ps).map Page.number).map (fun i => (screen.pageSize i).y) =
      (p :: ps).map Page.height := by
    rw [List.map_map]
    exact List.map_congr_left fun q hq => congrArg Vec2.y (hsizes q hq)
  rw [Screen.totalPageHeight, number_getLast h, hcount, ← map_number h, hheights]
  rfl

/-- Where the page above has its borders, the pages below have theirs iff their sides are right. -/
theorem borders_otherPages_iff {viewport : Vec2 K} {previous : K} {p : Page K} {ps : List (Page K)}
    (h : (p :: ps).IsChain Page.Below) (hprevious : p.top + p.height + previous = viewport.y)
    (hsizes : ∀ q ∈ ps, screen.pageSize q.number = ⟨q.width, q.height⟩)
    (hwidth : ∀ q ∈ ps, 0 < q.width)
    (hcentred : ∀ q ∈ ps, q.width < viewport.x → q.left = (viewport.x - q.width) / 2) :
    List.Forall₂ (Borders viewport)
      (screen.otherPages viewport previous
        (ps.map (Page.seen viewport))) ps ↔
      ∀ q ∈ ps, q.WholeWidth viewport ∨
        q.CutAtBothSides viewport ∧ q.width = 2 * (viewport.x - q.left) := by
  -- `otherPages` carries the border below the last page it has seen, so the page above is
  -- generalised
  induction ps generalizing p previous with
  | nil => exact iff_of_true .nil fun q hq => absurd hq List.not_mem_nil
  | cons q ps ih =>
    rw [List.isChain_cons_cons] at h
    obtain ⟨hbelow, hchain⟩ := h
    have hsize : screen.pageSize (q.seen viewport).pageNumber = ⟨q.width, q.height⟩ :=
      hsizes q List.mem_cons_self
    have hsides := sideBorders_iff hsize (hwidth q List.mem_cons_self) viewport
      (hcentred q List.mem_cons_self)
    rw [List.map_cons, Screen.otherPages, List.forall₂_cons, List.forall_mem_cons]
    dsimp only at hsides ⊢
    rw [hsize]
    have htop : viewport.y - previous + 10 = q.top := by
      have := hbelow.top
      linarith
    rw [htop]
    refine and_congr ?_ ?_
    · rw [borders_iff rfl, ← hsides]
      refine and_iff_left ⟨rfl, ?_⟩
      ring
    · exact ih hchain (by ring) (fun r hr => hsizes r (List.mem_cons_of_mem q hr))
        (fun r hr => hwidth r (List.mem_cons_of_mem q hr))
        (fun r hr => hcentred r (List.mem_cons_of_mem q hr))

/-- Several pages have their borders iff the first has its upper one and all have their sides. -/
theorem borders_severalPages_iff {viewport : Vec2 K} {p : Page K} {ps : List (Page K)}
    (h : (p :: ps).IsChain Page.Below)
    (hsizes : ∀ q ∈ p :: ps, screen.pageSize q.number = ⟨q.width, q.height⟩)
    (hsized : ∀ q ∈ p :: ps, 0 < q.width ∧ 0 < q.height)
    (hcentred : ∀ q ∈ p :: ps, q.width < viewport.x → q.left = (viewport.x - q.width) / 2) :
    List.Forall₂ (Borders viewport)
      (screen.severalPages viewport (p.seen viewport)
        (ps.map (Page.seen viewport))) (p :: ps) ↔
      (p.top < 0 ∨ p.top = (viewport.y -
        (((p :: ps).map Page.height).sum + (((p :: ps).length : K) - 1) * 10)) / 2) ∧
      ∀ q ∈ p :: ps, q.WholeWidth viewport ∨
        q.CutAtBothSides viewport ∧ q.width = 2 * (viewport.x - q.left) := by
  obtain ⟨hwidth, hheight⟩ := hsized p List.mem_cons_self
  have hsize := hsizes p List.mem_cons_self
  have hsides := sideBorders_iff hsize hwidth viewport (hcentred p List.mem_cons_self)
  have hfirst := firstBorders_iff hsize hheight viewport
    (((p :: ps).map Page.height).sum + (((p :: ps).length : K) - 1) * 10)
  -- Okular's page numbers are those of the layout
  have hlast : (p.seen viewport :: ps.map (Page.seen viewport)).getLast (List.cons_ne_nil _ _) =
      ((p :: ps).getLast (List.cons_ne_nil p ps)).seen viewport :=
    List.getLast_map (f := Page.seen viewport) (l := p :: ps) _
  have htotal := totalPageHeight_eq h hsizes
  rw [Screen.severalPages, hlast, List.length_map, List.forall₂_cons, List.forall_mem_cons]
  dsimp only [Page.seen] at hsides hfirst ⊢
  rw [htotal]
  generalize screen.firstBorders viewport _ _ = first at hfirst ⊢
  have hothers (hhi : first.1 = p.top ∧ first.1 + p.height + first.2 = viewport.y) :=
    borders_otherPages_iff h (hhi.1 ▸ hhi.2)
      (fun q hq => hsizes q (List.mem_cons_of_mem p hq))
      (fun q hq => (hsized q (List.mem_cons_of_mem p hq)).1)
      (fun q hq => hcentred q (List.mem_cons_of_mem p hq))
  constructor
  · rintro ⟨hborders, hrest⟩
    obtain ⟨hle, hhi⟩ := (borders_iff rfl).mp hborders
    exact ⟨hfirst.mp hhi, hsides.mp hle, (hothers hhi).mp hrest⟩
  · rintro ⟨htop, hside, hrest⟩
    have hhi := hfirst.mpr htop
    exact ⟨(borders_iff rfl).mpr ⟨hsides.mpr hside, hhi⟩, (hothers hhi).mpr hrest⟩

/-- **The borders** of the visible pages are right iff the layout is regular. -/
theorem borders_iff_regular (hshown : l.ShownOn screen) :
    List.Forall₂ (Borders l.viewport) screen.GetPageBordersForVisiblePages l.pages ↔
      l.Regular := by
  obtain ⟨hview, -, hrects, hsizes⟩ := hshown
  have hstacked := l.stacked
  have hsized := l.sized
  have hcentred := l.centred
  rw [Screen.GetPageBordersForVisiblePages, hview, hrects, Regular, height]
  rcases hpages : l.pages with _ | ⟨p, _ | ⟨q, ps⟩⟩
  · exact absurd hpages l.nonempty
  · rw [hpages] at hsized hsizes
    obtain ⟨hwidth, hheight⟩ := hsized p List.mem_cons_self
    have hsingle := borders_singlePage_iff (hsizes p List.mem_cons_self) hwidth hheight l.viewport
    simpa using hsingle
  · rw [hpages] at hstacked hsized hsizes hcentred
    exact borders_severalPages_iff hstacked hsizes hsized hcentred

/-! ### The mouse -/

omit [LinearOrder K] [IsStrictOrderedRing K] in
/-- A page is found among its borders where it is found among the pages. -/
theorem find_borders {viewport : Vec2 K} {bs : List (PageBorders K)} {ps : List (Page K)}
    (h : List.Forall₂ (Borders viewport) bs ps) {f : PageBorders K → Bool} {g : Page K → Bool}
    (hfg : ∀ b p, Borders viewport b p → f b = g p) :
    Option.Rel (Borders viewport) (bs.find? f) (ps.find? g) := by
  induction h with
  | nil => exact .none
  | @cons b p bs ps hb _ ih =>
    rw [List.find?_cons, List.find?_cons, hfg b p hb]
    cases g p with
    | true => exact .some hb
    | false => exact ih

/-- A page of the stack and a page further below. -/
structure Above (p q : Page K) : Prop where
  number : p.number < q.number
  top : p.top + p.height < q.top

theorem above_of_mem {p : Page K} {ps : List (Page K)} (h : (p :: ps).IsChain Page.Below)
    (hheight : ∀ q ∈ ps, 0 < q.height) : ∀ q ∈ ps, Above p q := by
  induction ps generalizing p with
  | nil => exact fun q hq => absurd hq List.not_mem_nil
  | cons q ps ih =>
    rw [List.isChain_cons_cons] at h
    obtain ⟨⟨hnumber, htop⟩, hchain⟩ := h
    have hq := hheight q List.mem_cons_self
    intro r hr
    obtain rfl | hr := List.mem_cons.mp hr
    · exact ⟨by omega, by linarith⟩
    · have hbelow := ih hchain (fun s hs => hheight s (List.mem_cons_of_mem q hs)) r hr
      exact ⟨by have := hbelow.number; omega, by have := hbelow.top; linarith⟩

theorem pairwise_above {ps : List (Page K)} (h : ps.IsChain Page.Below)
    (hheight : ∀ q ∈ ps, 0 < q.height) : ps.Pairwise Above := by
  induction ps with
  | nil => exact .nil
  | cons p ps ih =>
    have hrest : ∀ q ∈ ps, 0 < q.height := fun q hq => hheight q (List.mem_cons_of_mem p hq)
    exact .cons (above_of_mem h hrest) (ih h.tail hrest)

/-- The mouse is on one page at most. -/
theorem eq_of_contains {mouse : Vec2 K} {p q : Page K} (hp : p ∈ l.pages) (hq : q ∈ l.pages)
    (hpm : p.Contains mouse) (hqm : q.Contains mouse) : p = q := by
  have habove := pairwise_above l.stacked fun q hq => (l.sized q hq).2
  have hne {a b : Page K} (hab : Above a b) (ha : a.Contains mouse) (hb : b.Contains mouse) :
      a = b := absurd (ha.bottom.trans (hab.top.trans hb.top)) (lt_irrefl _)
  have hall := List.Pairwise.forall_of_forall_of_flip
    (R := fun a b : Page K => a.Contains mouse → b.Contains mouse → a = b) (fun _ _ _ _ => rfl)
    (habove.imp fun hab ha hb => hne hab ha hb) (habove.imp fun hab hb ha => (hne hab ha hb).symm)
  exact hall hp hq hpm hqm

/-- No two pages have the same number. -/
theorem eq_of_number {p q : Page K} (hp : p ∈ l.pages) (hq : q ∈ l.pages)
    (h : p.number = q.number) : p = q := by
  have habove := pairwise_above l.stacked fun q hq => (l.sized q hq).2
  have hall := List.Pairwise.forall_of_forall_of_flip
    (R := fun a b : Page K => a.number = b.number → a = b) (fun _ _ _ => rfl)
    (habove.imp fun hab ha => absurd ha hab.number.ne)
    (habove.imp fun hab hb => absurd hb hab.number.ne')
  exact hall hp hq h

omit [Field K] [LinearOrder K] [IsStrictOrderedRing K] in
/-- What is found is the only page there is to find. -/
theorem find_eq_some {ps : List (Page K)} {g : Page K → Bool} {p : Page K} (hp : p ∈ ps)
    (hg : g p = true) (h : ∀ q ∈ ps, g q = true → q = p) : ps.find? g = some p := by
  cases hfind : ps.find? g with
  | none => exact absurd hg (List.find?_eq_none.mp hfind p hp)
  | some q => rw [h q (List.mem_of_find?_eq_some hfind) (List.find?_some hfind)]

/-- Between its borders the mouse is on the page. -/
theorem within_iff_contains {b : PageBorders K} {p : Page K} (hb : Borders l.viewport b p)
    (mouse : Vec2 K) :
    Screen.within l.viewport mouse b = true ↔ p.Contains mouse := by
  have hri : l.viewport.x - b.ri = p.left + p.width := by
    have := hb.ri
    rw [hb.le] at this
    linarith
  have hlo : l.viewport.y - b.lo = p.top + p.height := by
    have := hb.lo
    rw [hb.hi] at this
    linarith
  rw [Screen.within, decide_eq_true_iff, hb.le, hb.hi, hri, hlo]
  exact ⟨fun ⟨hl, hr, ht, hbot⟩ => ⟨hl, hr, ht, hbot⟩, fun ⟨hl, hr, ht, hbot⟩ => ⟨hl, hr, ht, hbot⟩⟩

omit [IsStrictOrderedRing K] in
theorem activePageBorders_eq (hshown : l.ShownOn screen) :
    screen.GetActivePageBorders = screen.GetPageBordersForVisiblePages := by
  rw [Screen.GetActivePageBorders, hshown.lastPresentation]

/-- With the borders right, the mouse is over the page it is on. -/
theorem over_iff (hshown : l.ShownOn screen)
    (hborders : List.Forall₂ (Borders l.viewport) screen.GetPageBordersForVisiblePages l.pages)
    (mouse : Vec2 K) (n : ℕ) :
    screen.GetPageMouseIsOver mouse = some n ↔ ∃ p ∈ l.pages, p.number = n ∧ p.Contains mouse := by
  classical
  -- the search over the borders finds what a search over the pages would
  have hfind := find_borders hborders (f := Screen.within l.viewport mouse)
    (g := fun p => decide (p.Contains mouse)) fun b p hb => by
      rw [Bool.eq_iff_iff, decide_eq_true_iff]
      exact within_iff_contains hb mouse
  have hviewport : screen.GetActiveViewportSize = l.viewport := by
    rw [Screen.GetActiveViewportSize, hshown.lastPresentation, hshown.pageView]
    rfl
  rw [Screen.GetPageMouseIsOver, hviewport, activePageBorders_eq hshown]
  constructor
  · intro h
    obtain ⟨b, hb, rfl⟩ := Option.map_eq_some_iff.mp h
    rw [hb] at hfind
    cases hpage : l.pages.find? fun p => decide (p.Contains mouse) with
    | none =>
      rw [hpage] at hfind
      cases hfind
    | some p =>
      rw [hpage] at hfind
      cases hfind with
      | some hbp =>
        have hcontains := List.find?_some hpage
        exact ⟨p, List.mem_of_find?_eq_some hpage, hbp.pageNumber.symm,
          of_decide_eq_true hcontains⟩
  · rintro ⟨p, hp, rfl, hcontains⟩
    have hpage : l.pages.find? (fun p => decide (p.Contains mouse)) = some p :=
      find_eq_some hp (decide_eq_true hcontains) fun q hq hqm =>
        eq_of_contains hq hp (of_decide_eq_true hqm) hcontains
    rw [hpage] at hfind
    generalize screen.GetPageBordersForVisiblePages.find? _ = o at hfind ⊢
    cases hfind with
    | some hbp => exact congrArg some hbp.pageNumber

/-- With the borders right, a position on a page is normalised. -/
theorem position_eq (hshown : l.ShownOn screen)
    (hborders : List.Forall₂ (Borders l.viewport) screen.GetPageBordersForVisiblePages l.pages)
    (mouse : Vec2 K) {p : Page K} (hp : p ∈ l.pages) :
    screen.GetNormalizedPositionRelativeToPage mouse p.number =
      ⟨(mouse.x - p.left) / p.width, (mouse.y - p.top) / p.height⟩ := by
  obtain ⟨hwidth, hheight⟩ := l.sized p hp
  have hfind := find_borders hborders (f := fun b => decide (b.pageNumber = p.number))
    (g := fun q => decide (q.number = p.number)) fun b q hb => by rw [hb.pageNumber]
  have hpage : l.pages.find? (fun q => decide (q.number = p.number)) = some p :=
    find_eq_some hp (decide_eq_true rfl) fun q hq hqp =>
      eq_of_number hq hp (of_decide_eq_true hqp)
  have hsize : screen.normalizingSize p.number = ⟨p.width, p.height⟩ := by
    rw [Screen.normalizingSize, hshown.lastPresentation]
    exact hshown.sizes p hp
  rw [hpage] at hfind
  rw [Screen.GetNormalizedPositionRelativeToPage, activePageBorders_eq hshown, hsize]
  dsimp only
  generalize screen.GetPageBordersForVisiblePages.find? _ = o at hfind ⊢
  cases hfind with
  | some hbp =>
    dsimp only
    rw [if_neg (not_or.mpr ⟨not_le.mpr hwidth, not_le.mpr hheight⟩), hbp.le, hbp.hi]

/-- **Hit testing** is exact iff the layout is regular. -/
theorem exact_iff (hshown : l.ShownOn screen) : l.Exact screen ↔ l.Regular := by
  rw [← borders_iff_regular hshown]
  refine ⟨Exact.borders, fun hborders => ⟨hborders, over_iff hshown hborders, ?_⟩⟩
  intro mouse p hp hcontains
  obtain ⟨hwidth, hheight⟩ := l.sized p hp
  obtain ⟨hleft, hright, htop, hbottom⟩ := hcontains
  rw [position_eq hshown hborders mouse hp]
  refine ⟨rfl, ⟨?_, ?_⟩, ?_, ?_⟩
  · exact div_pos (sub_pos.mpr hleft) hwidth
  · rw [div_lt_one hwidth]
    linarith
  · exact div_pos (sub_pos.mpr htop) hheight
  · rw [div_lt_one hheight]
    linarith

end Layout

/-- In a presentation the borders are right for a page that is centred. -/
theorem presentation_borders {b : PageBorders K} {widgetSize : Vec2 K} {dpr : K}
    (hwidget : screen.presentationWidget = some (widgetSize, dpr))
    (hb : b ∈ screen.GetPresentationPageBorders) :
    let pageSize := devSize (screen.presentationRequestSizes.getD b.pageNumber (0, 0)) dpr
    b.le = b.ri ∧ b.hi = b.lo ∧ b.le + pageSize.x + b.ri = widgetSize.x ∧
      b.hi + pageSize.y + b.lo = widgetSize.y := by
  rw [Screen.GetPresentationPageBorders, hwidget] at hb
  dsimp only at hb
  split_ifs at hb
  · cases hb
  · rcases hsize : screen.presentationRequestSizes[screen.viewportPage.toNat]? with _ | size <;>
      rw [hsize] at hb
    · cases hb
    · dsimp only at hb
      split_ifs at hb
      · cases hb
      · obtain rfl := List.mem_singleton.mp hb
        rw [List.getD_eq_getElem?_getD, hsize, Option.getD_some]
        exact ⟨rfl, rfl, by ring, by ring⟩

end Exact

/-! ### Two pages -/

/-- Two pages of 300 by 400 pixels in a viewport that is 500 wide, of which the first begins ten
pixels below the upper edge. -/
def twoPages (height : ℚ) (hheight : 420 < height) : Layout ℚ where
  viewport := ⟨500, height⟩
  pages := [⟨0, 100, 10, 300, 400⟩, ⟨1, 100, 420, 300, 400⟩]
  nonempty := List.cons_ne_nil _ _
  stacked := .cons_cons ⟨rfl, by norm_num⟩ (.singleton _)
  sized := by decide
  visible := by
    have htop : (10 : ℚ) < height := by linarith
    simp [htop, hheight]
    norm_num
  centred := by norm_num

/-- The screen that shows them. -/
def twoPagesScreen (height : ℚ) : Screen ℚ where
  pageView := some ⟨500, height⟩
  devicePixelRatio := 1
  visiblePageRects := [⟨0, 100, 10, 300, 400⟩, ⟨1, 100, 420, 300, 400⟩].map
    (Page.seen ⟨500, height⟩)
  viewportPage := 0
  presentationWidget := none
  lastPresentation := none
  cachedRequestSizes := [(300, 400), (300, 400)]
  presentationRequestSizes := []

theorem shownOn_twoPages (height : ℚ) (hheight : 420 < height) :
    (twoPages height hheight).ShownOn (twoPagesScreen height) where
  pageView := rfl
  lastPresentation := rfl
  rects := rfl
  sizes := by simp [twoPages, twoPagesScreen, Screen.pageSize, devSize]

/-- In a viewport of 830 pixels they are centred. -/
theorem exact_twoPages :
    (twoPages 830 (by norm_num)).Exact (twoPagesScreen 830) := by
  refine (Layout.exact_iff (shownOn_twoPages 830 (by norm_num))).mpr ⟨.inr ?_, ?_⟩
  · norm_num [Layout.height, twoPages]
  · refine List.forall_mem_cons.mpr ⟨.inl ⟨?_, ?_⟩, List.forall_mem_cons.mpr ⟨.inl ⟨?_, ?_⟩, ?_⟩⟩
    all_goals norm_num [twoPages]

/-- In one of 500 pixels the second is cut at its bottom. The mouse is on the first page, and is
taken to be over the second. -/
theorem not_exact_twoPages :
    ¬ (twoPages 500 (by norm_num)).Exact (twoPagesScreen 500) ∧
      (twoPagesScreen 500).GetPageMouseIsOver ⟨250, 300⟩ = some 1 := by
  have hover : (twoPagesScreen 500).GetPageMouseIsOver ⟨250, 300⟩ = some 1 := by decide +kernel
  refine ⟨fun h => ?_, hover⟩
  obtain ⟨p, hp, hnumber, hcontains⟩ := (h.hovered ⟨250, 300⟩ 1).mp hover
  obtain rfl | hp := List.mem_cons.mp hp
  · cases hnumber
  · obtain rfl := List.mem_singleton.mp hp
    exact absurd hcontains.top (by norm_num)

end HitTest

end OkularV3d
