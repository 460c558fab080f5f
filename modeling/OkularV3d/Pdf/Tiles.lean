import Mathlib.Data.Rat.Floor
import Mathlib.Tactic.IntervalCases
import OkularV3d.Lib.TowardZero
import OkularV3d.Pdf.BackgroundCache
import OkularV3d.Scene.Scalar

/-!
# Models on tiles

A page that is too large is requested in tiles. The image of a tile begins at the pixel to which
`NormalizedRect::geometry` rounds the corner of the tile, and `renderV3dModels` draws a model on it
at the distance of the model from the corner **before** it was rounded; `drawImage` takes integers,
so the distance is rounded as well.

`showsWholePage_iff` says when each pixel of a model is then where it is on the page drawn in one
request: iff every tile that is seen over the model begins to the right of its left edge or at a
whole pixel, and likewise below its upper edge. Elsewhere the model is shifted.

* `drawModel` is one request, with `drawImage` for the copy on the page; `onTile` and `wholePage`
  apply it to a tile and to the page.
* `drawImage_eq_iff` and `corner_eq_iff` say when two requests place the model alike,
  `onTile_eq_iff` what follows for a tile.
* `TilesOnGrid` is the condition for the whole page. `halvedPage` meets it, `halvedPixel` does not.
-/

namespace OkularV3d

open TowardZero

namespace Pdf

/-- `Okular::NormalizedRect`. -/
structure NormalizedRect (K : Type) where
  left : K
  top : K
  right : K
  bottom : K

/-- `V3dModelManager::ModelBounds`: the place of a model on its page. -/
structure ModelBounds (K : Type) where
  minBound : Vec2 K
  maxBound : Vec2 K

/-- What `renderV3dModels` reads of a request: the size of the whole page and, for a tile, its
place. -/
structure PageRequest (K : Type) where
  width : Int
  height : Int
  tile : Option (NormalizedRect K)

variable {K : Type} [Field K] [LinearOrder K] [FloorRing K]

/-- `NormalizedRect::geometry`. -/
def NormalizedRect.geometry (r : NormalizedRect K) (xScale yScale : Int) : TileRect :=
  let l := toInt (r.left * xScale)
  let t := toInt (r.top * yScale)
  let right := toInt (r.right * xScale)
  let b := toInt (r.bottom * yScale)
  ⟨l, t, right - l + 1, b - t + 1⟩

/-- `QRect::contains`. -/
def TileRect.contains (r : TileRect) (p : Int × Int) : Bool :=
  r.x ≤ p.1 && p.1 < r.x + r.width && r.y ≤ p.2 && p.2 < r.y + r.height

/-- `QPainter::drawImage`: the pixel of an image of this size that is seen at `p`, when its corner
is drawn at `corner`. -/
def drawImage (size corner p : Int × Int) : Option (Int × Int) :=
  let x := p.1 - corner.1
  let y := p.2 - corner.2
  if 0 ≤ x ∧ x < size.1 ∧ 0 ≤ y ∧ y < size.2 then some (x, y) else none

namespace PageRequest

variable (request : PageRequest K) (bounds : ModelBounds K)

/-- `xMin` and `yMin`: the pixel of the page at which a model begins. -/
def modelMin : Int × Int :=
  (toInt (request.width * bounds.minBound.x), toInt (request.height * bounds.minBound.y))

/-- `xMax` and `yMax`. -/
def modelMax : Int × Int :=
  (toInt (request.width * bounds.maxBound.x), toInt (request.height * bounds.maxBound.y))

/-- The pixel of the requested image at which `renderV3dModels` draws the model. -/
def corner : Int × Int :=
  let min := request.modelMin bounds
  match request.tile with
  | some tile =>
    (toInt (min.1 - tile.left * request.width), toInt (min.2 - tile.top * request.height))
  | none => min

/-- **What the image of a request shows of a model**. `rendered` is the size of the image that
`RenderModel` returns when it is asked for an image of a given size. -/
def drawModel (rendered : Int × Int → Int × Int) (p : Int × Int) : Option (Int × Int) :=
  let min := request.modelMin bounds
  let max := request.modelMax bounds
  drawImage (rendered (max.1 - min.1, max.2 - min.2)) (request.corner bounds) p

end PageRequest

/-- A page of this size that is drawn from tiles, one over the other: every pixel of the page lies
in one of them. -/
structure TiledPage (K : Type) [Field K] [LinearOrder K] [FloorRing K] where
  width : Int
  height : Int
  tiles : List (NormalizedRect K)
  nonneg : ∀ t ∈ tiles, 0 ≤ t.left ∧ 0 ≤ t.top
  covers : ∀ p : Int × Int, 0 ≤ p.1 → p.1 < width → 0 ≤ p.2 → p.2 < height →
    ∃ t ∈ tiles, (t.geometry width height).contains p = true

namespace TiledPage

variable (page : TiledPage K) (bounds : ModelBounds K) (rendered : Int × Int → Int × Int)

/-- A pixel of the page. -/
structure Pixel (p : Int × Int) : Prop where
  left : 0 ≤ p.1
  right : p.1 < page.width
  top : 0 ≤ p.2
  bottom : p.2 < page.height

/-- The page, drawn in one request. -/
def wholePage (p : Int × Int) : Option (Int × Int) :=
  (PageRequest.mk page.width page.height none).drawModel bounds rendered p

/-- The tile that is seen at a pixel: the last one that was drawn over it. -/
def tileAt (p : Int × Int) : Option (NormalizedRect K) :=
  page.tiles.reverse.find? fun t => (t.geometry page.width page.height).contains p

/-- The request of the page for a tile. -/
def tileRequest (t : NormalizedRect K) : PageRequest K := ⟨page.width, page.height, some t⟩

/-- What the image of a tile shows at a pixel of the page. -/
def onTile (t : NormalizedRect K) (p : Int × Int) : Option (Int × Int) :=
  let image := t.geometry page.width page.height
  (page.tileRequest t).drawModel bounds rendered (p.1 - image.x, p.2 - image.y)

/-- The page, drawn from its tiles. -/
def fromTiles (p : Int × Int) : Option (Int × Int) :=
  (page.tileAt p).bind fun t => page.onTile bounds rendered t p

/-- **The tiles show what the whole page shows**: at each pixel that the model covers, the same
pixel of the model. -/
def ShowsWholePage : Prop :=
  ∀ p, page.Pixel p → (page.wholePage bounds rendered p).isSome →
    page.fromTiles bounds rendered p = page.wholePage bounds rendered p

/-- A coordinate is rounded in the same way with and without the model's: it lies beyond the edge of
the model, or is a whole number. -/
def OnGrid (modelMin : Int) (a : K) : Prop := (modelMin : K) < a ∨ (⌊a⌋ : K) = a

/-- The condition: each tile that is seen over the model has both its coordinates on the grid. -/
def TilesOnGrid : Prop :=
  let min := (PageRequest.mk (K := K) page.width page.height none).modelMin bounds
  ∀ p, page.Pixel p → (page.wholePage bounds rendered p).isSome → ∀ t ∈ page.tileAt p,
    OnGrid min.1 (t.left * page.width) ∧ OnGrid min.2 (t.top * page.height)

/-! ### One tile -/

/-- An image that is seen at a pixel shows there the pixel at the distance of its corner. -/
theorem eq_of_drawImage {size corner p q : Int × Int} (h : drawImage size corner p = some q) :
    q = (p.1 - corner.1, p.2 - corner.2) := by
  unfold drawImage at h
  dsimp only at h
  split_ifs at h
  exact (Option.some.inj h).symm

/-- Drawing on a part of the page that begins at `(x, y)`. -/
theorem drawImage_sub (size corner p : Int × Int) (x y : Int) :
    drawImage size corner (p.1 - x, p.2 - y) =
      drawImage size (corner.1 + x, corner.2 + y) p := by
  have hx : p.1 - x - corner.1 = p.1 - (corner.1 + x) := by omega
  have hy : p.2 - y - corner.2 = p.2 - (corner.2 + y) := by omega
  simp only [drawImage, hx, hy]

/-- **Two drawings of an image** agree at a pixel that one of them covers iff their corners do. -/
theorem drawImage_eq_iff {size corner corner' p : Int × Int}
    (hcovered : (drawImage size corner p).isSome) :
    drawImage size corner' p = drawImage size corner p ↔ corner' = corner := by
  obtain ⟨q, hq⟩ := Option.isSome_iff_exists.mp hcovered
  constructor
  · intro h
    have hfirst : q = _ := eq_of_drawImage hq
    have hsecond : q = _ := eq_of_drawImage (h.trans hq)
    obtain ⟨hx, hy⟩ := Prod.mk.inj (hfirst.symm.trans hsecond)
    exact Prod.ext (by omega) (by omega)
  · rintro rfl
    rfl

variable {page bounds rendered}

/-- Some tile is seen at every pixel of the page. -/
theorem exists_tileAt {p : Int × Int} (hp : page.Pixel p) :
    ∃ t ∈ page.tileAt p, t ∈ page.tiles := by
  obtain ⟨t, ht, hcontains⟩ := page.covers p hp.left hp.right hp.top hp.bottom
  have hseen : (page.tileAt p).isSome := by
    rw [tileAt, List.find?_isSome]
    exact ⟨t, List.mem_reverse.mpr ht, hcontains⟩
  obtain ⟨t, ht⟩ := Option.isSome_iff_exists.mp hseen
  exact ⟨t, ht, List.mem_reverse.mp (List.mem_of_find?_eq_some ht)⟩

/-- Along one axis, the model begins at the same pixel of the page with and without the tile iff the
coordinate of the tile is on the grid. -/
theorem corner_eq_iff [IsStrictOrderedRing K] (m : Int) {a : K} (ha : 0 ≤ a) :
    toInt ((m : K) - a) + toInt a = m ↔ OnGrid m a := by
  rw [OnGrid, ← toInt_sub_eq_iff m ha]
  constructor
  · intro h
    omega
  · intro h
    omega

/-- **A tile shows the pixel of the whole page** at a pixel that the model covers iff the model
begins at the same pixel of the page. -/
theorem onTile_eq_iff {p : Int × Int} {t : NormalizedRect K}
    (hcovered : (page.wholePage bounds rendered p).isSome) :
    page.onTile bounds rendered t p = page.wholePage bounds rendered p ↔
      ((page.tileRequest t).corner bounds).1 + (t.geometry page.width page.height).x =
          ((page.tileRequest t).modelMin bounds).1 ∧
        ((page.tileRequest t).corner bounds).2 + (t.geometry page.width page.height).y =
          ((page.tileRequest t).modelMin bounds).2 := by
  rw [onTile, PageRequest.drawModel, drawImage_sub]
  exact (drawImage_eq_iff hcovered).trans Prod.ext_iff

variable [IsStrictOrderedRing K] (page bounds rendered)

/-- **The tiles show what the whole page shows** iff the tiles over the model are on the grid. -/
theorem showsWholePage_iff :
    page.ShowsWholePage bounds rendered ↔ page.TilesOnGrid bounds rendered := by
  refine forall_congr' fun p => forall_congr' fun hp => forall_congr' fun hcovered => ?_
  obtain ⟨t, ht, hmem⟩ := exists_tileAt hp
  obtain ⟨hleft, htop⟩ := page.nonneg t hmem
  have hpos : (0 : K) ≤ page.width ∧ (0 : K) ≤ page.height :=
    ⟨Int.cast_nonneg (hp.left.trans hp.right.le), Int.cast_nonneg (hp.top.trans hp.bottom.le)⟩
  have htile : page.fromTiles bounds rendered p = page.onTile bounds rendered t p := by
    rw [fromTiles, ht, Option.bind_some]
  have hseen : ∀ t', t' ∈ page.tileAt p ↔ t' = t := fun t' => by
    rw [ht, Option.mem_some, eq_comm]
  simp only [hseen, forall_eq]
  rw [htile, onTile_eq_iff hcovered]
  exact and_congr (corner_eq_iff _ (mul_nonneg hleft hpos.1))
    (corner_eq_iff _ (mul_nonneg htop hpos.2))

/-- A page of four pixels, in two tiles that meet between two of them. -/
def halvedPage : TiledPage ℚ where
  width := 4
  height := 1
  tiles := [⟨0, 0, 1 / 2, 1⟩, ⟨1 / 2, 0, 1, 1⟩]
  nonneg := by decide +kernel
  covers := by
    rintro ⟨x, y⟩ hleft hright htop hbottom
    dsimp only at hleft hright htop hbottom
    obtain rfl : y = 0 := by omega
    interval_cases x <;> decide +kernel

/-- A model on it is drawn in its place. -/
theorem showsWholePage_halvedPage : halvedPage.ShowsWholePage ⟨⟨3 / 4, 0⟩, ⟨1, 1⟩⟩ id := by
  refine (showsWholePage_iff halvedPage ⟨⟨3 / 4, 0⟩, ⟨1, 1⟩⟩ id).mpr fun p _ _ t ht => ?_
  have htiles : t ∈ halvedPage.tiles := List.mem_reverse.mp (List.mem_of_find?_eq_some ht)
  have hgrid : ∀ t ∈ halvedPage.tiles,
      (⌊t.left * halvedPage.width⌋ : ℚ) = t.left * halvedPage.width ∧
        (⌊t.top * halvedPage.height⌋ : ℚ) = t.top * halvedPage.height := by decide +kernel
  exact ⟨.inr (hgrid t htiles).1, .inr (hgrid t htiles).2⟩

/-- A page of four pixels, in two tiles that meet within a pixel. -/
def halvedPixel : TiledPage ℚ where
  width := 4
  height := 1
  tiles := [⟨0, 0, 3 / 8, 1⟩, ⟨3 / 8, 0, 1, 1⟩]
  nonneg := by decide +kernel
  covers := by
    rintro ⟨x, y⟩ hleft hright htop hbottom
    dsimp only at hleft hright htop hbottom
    obtain rfl : y = 0 := by omega
    interval_cases x <;> decide +kernel

/-- A model of one pixel is drawn one pixel to the left. -/
theorem not_showsWholePage_halvedPixel :
    ¬ halvedPixel.ShowsWholePage ⟨⟨3 / 4, 0⟩, ⟨1, 1⟩⟩ id := by
  intro h
  have hcovered : (halvedPixel.wholePage ⟨⟨3 / 4, 0⟩, ⟨1, 1⟩⟩ id (3, 0)).isSome := by decide +kernel
  have hpixel : halvedPixel.Pixel (3, 0) := ⟨by decide, by decide, by decide, by decide⟩
  exact absurd (h (3, 0) hpixel hcovered) (by decide +kernel)

end TiledPage

end Pdf

end OkularV3d
