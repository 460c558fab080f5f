import Mathlib.Tactic.Linarith
import OkularV3d.Lib.Raster

/-!
# Reading the pixels back

`render()` clamps the size asked for to the limits of the framebuffer and copies the frame into a
linear image whose rows the device may pad. `copyToHost` returns the bytes of that image, and
`RenderModel` packs them into the rows of a `QImage` of the size asked for.

`ReadBack.sound_iff` says for which layouts the packed rows are those of the `QImage`.

* `clamp` gives the frame's size, `LinearImage` the memory with its layout; `copyToHost` and
  `packRows` are the two functions that read it.
* `NoOverflow` and `Holds` are the two parts of `Sound`; `Reaches` is the condition.
* `reaches_iff_of_unclamped` says that a size the renderer does not clamp always reaches, as far as
  the numbers are in range.
* `paddedRows` is an image with padding that is read back, `clampedRow` one that is not.
-/

namespace OkularV3d

namespace ReadBack

open Raster

/-- `VkSubresourceLayout`, as far as it is read. -/
structure VkSubresourceLayout where
  offset : UInt64
  size : UInt64
  rowPitch : UInt64

/-- The size `render()` gives a frame: `std::min` with each limit, converted to `int`. -/
def clamp (targetSize : Int32 × Int32) (maxFramebuffer : UInt32 × UInt32) : Int32 × Int32 :=
  (min targetSize.1 (Int32.ofNat maxFramebuffer.1.toNat),
    min targetSize.2 (Int32.ofNat maxFramebuffer.2.toNat))

/-- The mapped linear image with a frame of the given size: its rows hold the pixels of a row, its
layout has room for them all and lies in the mapped memory. -/
structure LinearImage (targetSize : Int32 × Int32) where
  layout : VkSubresourceLayout
  mapped : List UInt8
  width_le : 4 * targetSize.1.toInt ≤ layout.rowPitch.toNat
  height_le : layout.rowPitch.toNat * targetSize.2.toInt ≤ layout.size.toNat
  size_le : layout.offset.toNat + layout.size.toNat ≤ mapped.length

/-- The four bytes of a pixel: those from `start` on. -/
def pixel (bytes : List UInt8) (start : Nat) : Fin 4 → Option UInt8 :=
  fun channel => bytes[start + channel]?

/-! ### The code -/

/-- `copyToHost`. -/
def copyToHost {targetSize : Int32 × Int32} (image : LinearImage targetSize) :
    Option (List UInt8) :=
  read image.mapped image.layout.offset.toNat image.layout.size.toNat

/-- `actualHeight` of `RenderModel`. -/
def actualHeight (layout : VkSubresourceLayout) : Int32 :=
  .ofNat (layout.size / layout.rowPitch).toNat

/-- `actualRowPixels` of `RenderModel`. -/
def actualRowPixels (layout : VkSubresourceLayout) : Int32 :=
  .ofNat (layout.rowPitch / 4).toNat

/-- The `int` that `RenderModel` converts to the `size_t` `rowBytes`. -/
def rowBytes (layout : VkSubresourceLayout) (imageWidth : Int32) : Int32 :=
  min (actualRowPixels layout) imageWidth * 4

/-- The loop of `RenderModel` that fills `vectorData`, of `min(actualHeight, imageHeight)` rows. -/
def packRows (imageData : List UInt8) (layout : VkSubresourceLayout)
    (imageWidth imageHeight : Int32) : Option (List UInt8) :=
  copyRows imageData layout.rowPitch.toNat ((rowBytes layout imageWidth).toInt % 2 ^ 64).toNat
    (min (actualHeight layout) imageHeight).toInt.toNat 0 []

/-- `vectorData` for the image of a frame, none where some read passes the end. -/
def vectorData {targetSize : Int32 × Int32} (image : LinearImage targetSize)
    (imageWidth imageHeight : Int32) : Option (List UInt8) :=
  (copyToHost image).bind fun imageData => packRows imageData image.layout imageWidth imageHeight

/-! ### What the read-back should yield -/

/-- No size of `RenderModel` passes the range of its type. -/
structure NoOverflow (layout : VkSubresourceLayout) (imageWidth imageHeight : Int32) : Prop where
  reserve : (imageWidth * imageHeight * 4).toInt = imageWidth.toInt * imageHeight.toInt * 4
  actualHeight : (actualHeight layout).toInt = layout.size.toNat / layout.rowPitch.toNat
  actualRowPixels : (actualRowPixels layout).toInt = layout.rowPitch.toNat / 4
  rowBytes : (rowBytes layout imageWidth).toInt = min (ReadBack.actualRowPixels layout).toInt
    imageWidth.toInt * 4

/-- The bytes are those of a `QImage` of that size: there are enough of them, and the pixels of the
frame are in their places. -/
structure Holds {targetSize : Int32 × Int32} (image : LinearImage targetSize)
    (imageWidth imageHeight : Int32) (bytes : List UInt8) : Prop where
  length : 4 * imageWidth.toInt * imageHeight.toInt ≤ bytes.length
  pixels : ∀ x y : Nat, (x : Int) < targetSize.1.toInt → (y : Int) < targetSize.2.toInt →
    pixel bytes (place (4 * imageWidth.toInt.toNat) (4 * x) y) =
      pixel image.mapped
        (image.layout.offset.toNat + place image.layout.rowPitch.toNat (4 * x) y)

/-- **Soundness**: no read passes the end, the bytes are those of the `QImage`, and no size
overflows. -/
def Sound {targetSize : Int32 × Int32} (image : LinearImage targetSize)
    (imageWidth imageHeight : Int32) : Prop :=
  (∃ bytes, vectorData image imageWidth imageHeight = some bytes ∧
    Holds image imageWidth imageHeight bytes) ∧
      NoOverflow image.layout imageWidth imageHeight

/-- The layout reaches the size asked for in both directions, and its numbers and the number of
bytes are in the range of `int`. -/
structure Reaches (layout : VkSubresourceLayout) (imageWidth imageHeight : Int32) : Prop where
  width : imageWidth.toInt ≤ layout.rowPitch.toNat / 4
  height : imageHeight.toInt ≤ layout.size.toNat / layout.rowPitch.toNat
  rowPixels_lt : layout.rowPitch.toNat / 4 < 2 ^ 31
  rows_lt : layout.size.toNat / layout.rowPitch.toNat < 2 ^ 31
  bytes_lt : imageWidth.toInt * imageHeight.toInt * 4 < 2 ^ 31

/-! ### Ranges -/

theorem toInt_min (a b : Int32) : (min a b).toInt = min a.toInt b.toInt := by
  have hmin : min a b = if a ≤ b then a else b := rfl
  rw [hmin]
  split_ifs with h
  · exact (min_eq_left (Int32.le_iff_toInt_le.mp h)).symm
  · exact (min_eq_right (le_of_lt (not_le.mp fun hle => h (Int32.le_iff_toInt_le.mpr hle)))).symm

/-- A natural number is its own `int` where it is in the range. -/
theorem toInt_ofNat_eq_iff {n : Nat} : (Int32.ofNat n).toInt = n ↔ n < 2 ^ 31 := by
  constructor
  · intro h
    have hlt := (Int32.ofNat n).toInt_lt
    omega
  · exact Int32.toInt_ofNat_of_lt

section Layout

variable {layout : VkSubresourceLayout} {imageWidth imageHeight : Int32}

theorem toInt_actualHeight_eq_iff :
    (actualHeight layout).toInt = layout.size.toNat / layout.rowPitch.toNat ↔
      layout.size.toNat / layout.rowPitch.toNat < 2 ^ 31 := by
  have hnat : (layout.size / layout.rowPitch).toNat =
    layout.size.toNat / layout.rowPitch.toNat := UInt64.toNat_div ..
  have hiff := toInt_ofNat_eq_iff (n := (layout.size / layout.rowPitch).toNat)
  rw [hnat] at hiff
  rw [actualHeight, hnat]
  exact_mod_cast hiff

theorem toInt_actualRowPixels_eq_iff :
    (actualRowPixels layout).toInt = layout.rowPitch.toNat / 4 ↔
      layout.rowPitch.toNat / 4 < 2 ^ 31 := by
  have hnat : (layout.rowPitch / 4).toNat = layout.rowPitch.toNat / 4 := UInt64.toNat_div ..
  have hiff := toInt_ofNat_eq_iff (n := (layout.rowPitch / 4).toNat)
  rw [hnat] at hiff
  rw [actualRowPixels, hnat]
  exact_mod_cast hiff

/-- Nothing overflows where the layout reaches the size asked for. -/
theorem noOverflow_of_reaches (hwidth : 0 < imageWidth.toInt) (hheight : 0 < imageHeight.toInt)
    (h : Reaches layout imageWidth imageHeight) : NoOverflow layout imageWidth imageHeight := by
  have hrowPixels := toInt_actualRowPixels_eq_iff.mpr h.rowPixels_lt
  have hmin : (min (actualRowPixels layout) imageWidth).toInt = imageWidth.toInt := by
    rw [toInt_min, hrowPixels]
    exact min_eq_right h.width
  have hbytes := h.bytes_lt
  have hproduct : imageWidth.toInt ≤ imageWidth.toInt * imageHeight.toInt :=
    le_mul_of_one_le_right (le_of_lt hwidth) hheight
  refine ⟨?_, toInt_actualHeight_eq_iff.mpr h.rows_lt, hrowPixels, ?_⟩
  · have hpixels : (imageWidth * imageHeight).toInt = imageWidth.toInt * imageHeight.toInt := by
      rw [Int32.toInt_mul]
      exact Int.bmod_eq_of_le (by omega) (by omega)
    rw [Int32.toInt_mul, hpixels]
    exact Int.bmod_eq_of_le (by simp only [Int32.reduceToInt]; omega)
      (by simp only [Int32.reduceToInt]; omega)
  · rw [rowBytes, Int32.toInt_mul, hmin, hrowPixels, min_eq_right h.width]
    exact Int.bmod_eq_of_le (by simp only [Int32.reduceToInt]; omega)
      (by simp only [Int32.reduceToInt]; omega)

/-- The bytes of a row, where nothing overflows. -/
theorem rowBytes_eq (hwidth : 0 < imageWidth.toInt)
    (h : NoOverflow layout imageWidth imageHeight) :
    ((rowBytes layout imageWidth).toInt % 2 ^ 64).toNat =
      min (layout.rowPitch.toNat / 4) imageWidth.toInt.toNat * 4 := by
  have hbytes := h.rowBytes
  have hlt := (rowBytes layout imageWidth).toInt_lt
  rw [h.actualRowPixels] at hbytes
  omega

/-- The rows copied, where nothing overflows. -/
theorem rows_eq (h : NoOverflow layout imageWidth imageHeight) :
    (min (actualHeight layout) imageHeight).toInt.toNat =
      min (layout.size.toNat / layout.rowPitch.toNat) imageHeight.toInt.toNat := by
  have hquotient : ((layout.size.toNat / layout.rowPitch.toNat : Nat) : Int) =
    layout.size.toNat / layout.rowPitch.toNat := Int.natCast_ediv ..
  rw [toInt_min, h.actualHeight, ← hquotient]
  generalize layout.size.toNat / layout.rowPitch.toNat = quotient
  omega

end Layout

/-! ### The two layouts -/

section Image

variable {targetSize : Int32 × Int32} {image : LinearImage targetSize}
  {imageWidth imageHeight : Int32}

/-- `copyToHost` returns the bytes of the image. -/
theorem copyToHost_eq (image : LinearImage targetSize) :
    copyToHost image = some
      ((image.mapped.drop image.layout.offset.toNat).take image.layout.size.toNat) :=
  read_eq_some_iff.mpr ⟨image.size_le, rfl⟩

/-- How many bytes are packed. -/
theorem length_vectorData (hwidth : 0 < imageWidth.toInt)
    (hno : NoOverflow image.layout imageWidth imageHeight) {bytes : List UInt8}
    (h : vectorData image imageWidth imageHeight = some bytes) :
    bytes.length = min (image.layout.size.toNat / image.layout.rowPitch.toNat)
        imageHeight.toInt.toNat *
      (min (image.layout.rowPitch.toNat / 4) imageWidth.toInt.toNat * 4) := by
  rw [vectorData, copyToHost_eq, Option.bind_some, packRows, rowBytes_eq hwidth hno,
    rows_eq hno] at h
  have hlength := length_copyRows h
  rwa [List.length_nil, Nat.zero_add] at hlength

/-- Enough bytes for the `QImage` are packed only where the layout reaches its size. -/
theorem reaches_of_length_le (hwidth : 0 < imageWidth.toInt) (hheight : 0 < imageHeight.toInt)
    (hno : NoOverflow image.layout imageWidth imageHeight) {bytes : List UInt8}
    (h : vectorData image imageWidth imageHeight = some bytes)
    (hlength : 4 * imageWidth.toInt * imageHeight.toInt ≤ bytes.length) :
    Reaches image.layout imageWidth imageHeight := by
  have hw : (imageWidth.toInt.toNat : Int) = imageWidth.toInt := Int.toNat_of_nonneg hwidth.le
  have hh : (imageHeight.toInt.toNat : Int) = imageHeight.toInt := Int.toNat_of_nonneg hheight.le
  rw [length_vectorData hwidth hno h, ← hw, ← hh] at hlength
  have hle : imageHeight.toInt.toNat * (imageWidth.toInt.toNat * 4) ≤
      min (image.layout.size.toNat / image.layout.rowPitch.toNat) imageHeight.toInt.toNat *
        (min (image.layout.rowPitch.toNat / 4) imageWidth.toInt.toNat * 4) := by
    have hcast : 4 * imageWidth.toInt.toNat * imageHeight.toInt.toNat ≤
        min (image.layout.size.toNat / image.layout.rowPitch.toNat) imageHeight.toInt.toNat *
          (min (image.layout.rowPitch.toNat / 4) imageWidth.toInt.toNat * 4) := by
      exact_mod_cast hlength
    calc imageHeight.toInt.toNat * (imageWidth.toInt.toNat * 4)
        = 4 * imageWidth.toInt.toNat * imageHeight.toInt.toNat := by ring
      _ ≤ _ := hcast
  obtain ⟨hrows, hpixels⟩ := eq_of_mul_le_mul (min_le_right _ _)
    (Nat.mul_le_mul_right 4 (min_le_right _ _)) (by omega) (by omega) hle
  have hbytes := (imageWidth * imageHeight * 4).toInt_lt
  rw [hno.reserve] at hbytes
  exact
    { width := by omega
      height := by omega
      rowPixels_lt := toInt_actualRowPixels_eq_iff.mp hno.actualRowPixels
      rows_lt := toInt_actualHeight_eq_iff.mp hno.actualHeight
      bytes_lt := hbytes }

/-- Where the layout reaches the size asked for, its rows are packed whole. -/
theorem exists_holds_of_reaches (hwidth : 0 < imageWidth.toInt) (hheight : 0 < imageHeight.toInt)
    (hsize : targetSize.1.toInt ≤ imageWidth.toInt ∧ targetSize.2.toInt ≤ imageHeight.toInt)
    (h : Reaches image.layout imageWidth imageHeight) :
    ∃ bytes, vectorData image imageWidth imageHeight = some bytes ∧
      Holds image imageWidth imageHeight bytes := by
  have hno := noOverflow_of_reaches hwidth hheight h
  have hw : (imageWidth.toInt.toNat : Int) = imageWidth.toInt := Int.toNat_of_nonneg hwidth.le
  have hh : (imageHeight.toInt.toNat : Int) = imageHeight.toInt := Int.toNat_of_nonneg hheight.le
  have hrow : min (image.layout.rowPitch.toNat / 4) imageWidth.toInt.toNat =
      imageWidth.toInt.toNat := by
    have hle := h.width
    omega
  have hrows : min (image.layout.size.toNat / image.layout.rowPitch.toNat)
      imageHeight.toInt.toNat = imageHeight.toInt.toNat := by
    have hle := h.height
    omega
  have hpitch : imageWidth.toInt.toNat * 4 ≤ image.layout.rowPitch.toNat := by
    have hle := h.width
    omega
  have hend : imageHeight.toInt.toNat * image.layout.rowPitch.toNat ≤ image.layout.size.toNat := by
    have hle := h.height
    exact (Nat.le_div_iff_mul_le (by omega)).mp (by omega)
  -- every row that is copied lies in the image
  have hreads : ∀ y < imageHeight.toInt.toNat,
      0 + place image.layout.rowPitch.toNat (imageWidth.toInt.toNat * 4) y ≤
        ((image.mapped.drop image.layout.offset.toNat).take image.layout.size.toNat).length := by
    intro y hy
    have hlast : (y + 1) * image.layout.rowPitch.toNat ≤
      imageHeight.toInt.toNat * image.layout.rowPitch.toNat := Nat.mul_le_mul_right _ hy
    have hsucc : (y + 1) * image.layout.rowPitch.toNat =
      y * image.layout.rowPitch.toNat + image.layout.rowPitch.toNat := Nat.succ_mul ..
    have hmapped := image.size_le
    rw [place, List.length_take, List.length_drop]
    omega
  obtain ⟨bytes, hbytes⟩ := exists_copyRows [] hreads
  have hvector : vectorData image imageWidth imageHeight = some bytes := by
    rw [vectorData, copyToHost_eq, Option.bind_some, packRows, rowBytes_eq hwidth hno,
      rows_eq hno, hrow, hrows]
    exact hbytes
  refine ⟨bytes, hvector, ?_, fun x y hx hy => funext fun channel => ?_⟩
  · rw [length_vectorData hwidth hno hvector, hrow, hrows]
    push_cast
    rw [hw, hh]
    exact le_of_eq (by ring)
  · -- one byte of the pixel, in the row copied and in the image
    have hchannel := channel.isLt
    have hcolumn : 4 * x + channel < imageWidth.toInt.toNat * 4 := by omega
    have hlt : y < imageHeight.toInt.toNat := by omega
    have hcell := getElem?_copyRows hcolumn hbytes hlt
    have hinside : place image.layout.rowPitch.toNat (4 * x + channel) y <
        imageHeight.toInt.toNat * image.layout.rowPitch.toNat :=
      place_lt (by omega) hlt
    rw [Nat.zero_add, List.length_nil, Nat.zero_add, List.getElem?_take_of_lt (by omega),
      List.getElem?_drop] at hcell
    simp only [pixel, place] at hcell ⊢
    rw [Nat.mul_comm 4 imageWidth.toInt.toNat, Nat.add_assoc, hcell]
    congr 1
    omega

/-- **Which layouts are read back as they should be**: those that reach the size asked for, with
numbers in the range of `int`. -/
theorem sound_iff {imageWidth imageHeight : Int32} {maxFramebuffer : UInt32 × UInt32}
    (hwidth : 0 < imageWidth.toInt) (hheight : 0 < imageHeight.toInt)
    (image : LinearImage (clamp (imageWidth, imageHeight) maxFramebuffer)) :
    Sound image imageWidth imageHeight ↔ Reaches image.layout imageWidth imageHeight := by
  constructor
  · rintro ⟨⟨bytes, hbytes, hholds⟩, hno⟩
    exact reaches_of_length_le hwidth hheight hno hbytes hholds.length
  · intro h
    have hsize : (clamp (imageWidth, imageHeight) maxFramebuffer).1.toInt ≤ imageWidth.toInt ∧
        (clamp (imageWidth, imageHeight) maxFramebuffer).2.toInt ≤ imageHeight.toInt := by
      simp only [clamp, toInt_min]
      exact ⟨min_le_left _ _, min_le_left _ _⟩
    exact ⟨exists_holds_of_reaches hwidth hheight hsize h, noOverflow_of_reaches hwidth hheight h⟩

/-- A frame that is not clamped is read back as it should be, up to the range of `int`. -/
theorem reaches_iff_of_unclamped (hwidth : 0 < imageWidth.toInt)
    (image : LinearImage (imageWidth, imageHeight)) :
    Reaches image.layout imageWidth imageHeight ↔
      image.layout.rowPitch.toNat / 4 < 2 ^ 31 ∧
        image.layout.size.toNat / image.layout.rowPitch.toNat < 2 ^ 31 ∧
          imageWidth.toInt * imageHeight.toInt * 4 < 2 ^ 31 := by
  refine ⟨fun h => ⟨h.rowPixels_lt, h.rows_lt, h.bytes_lt⟩, fun ⟨hpixels, hrows, hbytes⟩ => ?_⟩
  have hrow : 4 * imageWidth.toInt ≤ image.layout.rowPitch.toNat := image.width_le
  have hsize : imageHeight.toInt * image.layout.rowPitch.toNat ≤ image.layout.size.toNat := by
    rw [mul_comm]
    exact image.height_le
  exact
    { width := by omega
      height := (Int.le_ediv_iff_mul_le (by omega)).mpr hsize
      rowPixels_lt := hpixels
      rows_lt := hrows
      bytes_lt := hbytes }

end Image

/-! ### Two frames -/

/-- A frame of three rows of two pixels, which are padded, behind 16 bytes of something else. -/
def paddedRows : LinearImage (clamp (2, 3) (4096, 4096)) where
  layout := { offset := 16, size := 192, rowPitch := 64 }
  mapped := (List.range 208).map UInt8.ofNat
  width_le := by decide
  height_le := by decide
  size_le := by
    rw [List.length_map, List.length_range]
    decide

theorem sound_paddedRows :
    (0 < (2 : Int32).toInt ∧ 0 < (3 : Int32).toInt) ∧
      (Sound paddedRows 2 3 ↔ Reaches paddedRows.layout 2 3) :=
  ⟨by decide, sound_iff (by decide) (by decide) paddedRows⟩

/-- The frame for an image one pixel wider than the framebuffer can be. -/
def clampedRow : LinearImage (clamp (4097, 1) (4096, 4096)) where
  layout := { offset := 0, size := 16384, rowPitch := 16384 }
  mapped := .replicate 16384 0
  width_le := by decide
  height_le := by decide
  size_le := by
    rw [List.length_replicate]
    decide

/-- The row of a clamped frame is shorter than that of the `QImage`. -/
theorem not_sound_clampedRow : ¬ Sound clampedRow 4097 1 := by
  rintro ⟨⟨bytes, hbytes, hholds⟩, hno⟩
  have hlength := hholds.length
  rw [length_vectorData (by decide) hno hbytes] at hlength
  exact absurd hlength (by decide)

end ReadBack

end OkularV3d
