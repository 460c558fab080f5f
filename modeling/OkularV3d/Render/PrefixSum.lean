import OkularV3d.Render.FragmentBuffers
import OkularV3d.Render.ReadBack

/-!
# The prefix sum over the pixels

The counts of fragments of all pixels are summed in groups. `createTransparencyBuffers` rounds the
number of pixels up to whole groups for the sizes of its buffers; `recordComputeCommandBuffer`
rounds it up again for what it dispatches, and clamps the groups to what the device can dispatch.

`PrefixSum.covers_iff` says for which sizes and devices the sum covers all pixels.

* `recordComputeCommandBuffer` gives the `Dispatch`; `element` and `globalSumIndex` are the indices
  the shaders compute from it.
* `Covers` is the property and `NoWrap` its part about ranges; `Fits` is the condition.
* `fits_of_covers` and `covers_of_fits` are the two directions of the result.
* `not_covers_wholeFramebuffer` is a device whose framebuffer is larger than what it can dispatch.
-/

namespace OkularV3d

namespace PrefixSum

open DeviceMemory FragmentBuffers Runs

/-! ### The code -/

/-- A size within the limits of the framebuffer. -/
structure TargetSize (maxFramebuffer : UInt32 × UInt32) where
  width : Int32
  height : Int32
  width_pos : 0 < width.toInt
  height_pos : 0 < height.toInt
  width_le : width.toInt ≤ maxFramebuffer.1.toNat
  height_le : height.toInt ≤ maxFramebuffer.2.toNat

/-- What `(int)` makes of a limit is at most the limit. -/
theorem toInt_ofNat_le (n : Nat) : (Int32.ofNat n).toInt ≤ n := by
  have hsize : Int32.size = 2 ^ 32 := rfl
  rw [Int32.toInt_ofNat', Int.bmod_def, hsize]
  split_ifs <;> omega

/-- What `render()` clamps a size to, on a device whose limits are in the range of `int`. -/
def TargetSize.clamped {maxFramebuffer : UInt32 × UInt32} (targetSize : Int32 × Int32)
    (hsize : 0 < targetSize.1.toInt ∧ 0 < targetSize.2.toInt)
    (hlimits : 0 < (Int32.ofNat maxFramebuffer.1.toNat).toInt ∧
      0 < (Int32.ofNat maxFramebuffer.2.toNat).toInt) : TargetSize maxFramebuffer where
  width := (ReadBack.clamp targetSize maxFramebuffer).1
  height := (ReadBack.clamp targetSize maxFramebuffer).2
  width_pos := by
    rw [ReadBack.clamp, ReadBack.toInt_min]
    exact lt_min hsize.1 hlimits.1
  height_pos := by
    rw [ReadBack.clamp, ReadBack.toInt_min]
    exact lt_min hsize.2 hlimits.2
  width_le := by
    rw [ReadBack.clamp, ReadBack.toInt_min]
    exact (min_le_right _ _).trans (toInt_ofNat_le _)
  height_le := by
    rw [ReadBack.clamp, ReadBack.toInt_min]
    exact (min_le_right _ _).trans (toInt_ofNat_le _)

section Code

variable {maxFramebuffer : UInt32 × UInt32}

/-- The size as the buffers are created with it. -/
def TargetSize.toNat (size : TargetSize maxFramebuffer) : Nat × Nat :=
  (size.width.toInt.toNat, size.height.toInt.toNat)

/-- The number of pixels there are. -/
def TargetSize.area (size : TargetSize maxFramebuffer) : Nat :=
  (size.toNat.1 + 1) * (size.toNat.2 + 1)

/-- `pixels`. -/
def TargetSize.pixels (size : TargetSize maxFramebuffer) : UInt32 := pixelCount size.toNat

/-- `ceilquotient`. -/
def ceilquotient (a b : UInt32) : UInt32 := (a + b - 1) / b

/-- What `recordComputeCommandBuffer` dispatches: the groups and the elements they process, and the
two push constants. -/
structure Dispatch where
  g : UInt32
  elements : UInt32
  blockSize : UInt32
  final : UInt32

/-- `recordComputeCommandBuffer`, as far as it works out what to dispatch. -/
def recordComputeCommandBuffer (elements maxComputeWorkGroupCountX : UInt32) : Dispatch :=
  let g := min (ceilquotient elements groupSize) maxComputeWorkGroupCountX
  let elements := groupSize * g
  ⟨g, elements, ceilquotient g localSize, elements - 1⟩

/-- The element of an invocation of `sum1` or `sum3` in a round of its loop: `dataOffset` and a
multiple of `LOCALSIZE`. -/
def element (group id round : UInt32) : UInt32 := group * groupSize + id + round * localSize

/-- The sum of a group that an invocation of `sum2` adds up in a round of its loop. -/
def globalSumIndex (d : Dispatch) (id round : UInt32) : UInt32 := d.blockSize * id + round

/-- The groups of a frame. -/
def dispatch (size : TargetSize maxFramebuffer) (maxComputeWorkGroupCountX : UInt32) : Dispatch :=
  recordComputeCommandBuffer size.pixels maxComputeWorkGroupCountX

/-- The operands of the sums of unsigned numbers in both functions. -/
def sums (size : TargetSize maxFramebuffer) (maxComputeWorkGroupCountX : UInt32) :
    List (UInt32 × UInt32) :=
  [(size.pixels, groupSize), (groupCount size.pixels, localSize), (paddedPixels size.pixels, 1),
    (paddedPixels size.pixels, 2), ((dispatch size maxComputeWorkGroupCountX).g, localSize)]

/-- The operands of the products. -/
def products (size : TargetSize maxFramebuffer) (maxComputeWorkGroupCountX : UInt32) :
    List (UInt32 × UInt32) :=
  [(.ofNat (size.toNat.1 + 1), .ofNat (size.toNat.2 + 1)), (groupSize, groupCount size.pixels),
    (localSize, ceilquotient (groupCount size.pixels) localSize),
    (localSize * ceilquotient (groupCount size.pixels) localSize, 4),
    (groupSize, (dispatch size maxComputeWorkGroupCountX).g)]

/-- **NoWrap**: every sum and every product is that of its operands as numbers, also the two of
`int`. -/
structure NoWrap (size : TargetSize maxFramebuffer)
    (maxComputeWorkGroupCountX : UInt32) : Prop where
  width : size.width.toInt + 1 < 2 ^ 31
  height : size.height.toInt + 1 < 2 ^ 31
  sums : ∀ a ∈ sums size maxComputeWorkGroupCountX, a.1.toNat + a.2.toNat < 2 ^ 32
  products : ∀ a ∈ products size maxComputeWorkGroupCountX, a.1.toNat * a.2.toNat < 2 ^ 32

/-- **Covers**: there are at least as many elements as pixels; the counts, after their maximum, and
the offsets, with one more for the total, have room for every element of every group, and the sums
of groups for every group and every sum that is read; the blocks cover all groups; and nothing
wraps. The size of the fragment buffers does not matter. -/
structure Covers (size : TargetSize maxFramebuffer) (maxComputeWorkGroupCountX : UInt32)
    (fragmentBytes : Nat) : Prop where
  pixels : size.area ≤ (dispatch size maxComputeWorkGroupCountX).elements.toNat
  elements : ∀ group < (dispatch size maxComputeWorkGroupCountX).g, ∀ id < localSize,
    ∀ round < blockSize,
      4 * ((element group id round).toNat + 2) ≤ bufferSize size.pixels fragmentBytes .count ∧
        4 * ((element group id round).toNat + 2) ≤ bufferSize size.pixels fragmentBytes .offset
  groups : ∀ group < (dispatch size maxComputeWorkGroupCountX).g,
    4 * (group.toNat + 1) ≤ bufferSize size.pixels fragmentBytes .globalSum
  blocks : ∀ id < localSize, ∀ round < (dispatch size maxComputeWorkGroupCountX).blockSize,
    4 * ((globalSumIndex (dispatch size maxComputeWorkGroupCountX) id round).toNat + 1) ≤
      bufferSize size.pixels fragmentBytes .globalSum
  blockSize : (dispatch size maxComputeWorkGroupCountX).g.toNat ≤
    localSize.toNat * (dispatch size maxComputeWorkGroupCountX).blockSize.toNat
  noWrap : NoWrap size maxComputeWorkGroupCountX

/-- The pixels and a group are in the range of 32 bits, and the groups that the device can dispatch
cover the pixels. -/
structure Fits (size : TargetSize maxFramebuffer) (maxComputeWorkGroupCountX : UInt32) : Prop where
  area_lt : size.area + groupSize.toNat < 2 ^ 32
  area_le : size.area ≤ groupSize.toNat * maxComputeWorkGroupCountX.toNat

end Code

/-! ### Rounding up -/

@[simp] theorem toNat_localSize : localSize.toNat = 256 := rfl

@[simp] theorem toNat_groupSize : groupSize.toNat = 2048 := rfl

theorem toNat_min (a b : UInt32) : (min a b).toNat = min a.toNat b.toNat := by
  have hmin : min a b = if a ≤ b then a else b := rfl
  rw [hmin]
  split_ifs with h
  · exact (min_eq_left (UInt32.le_iff_toNat_le.mp h)).symm
  · exact (min_eq_right (le_of_lt (not_le.mp (UInt32.le_iff_toNat_le.not.mp h)))).symm

/-- `ceilquotient` rounds up where its sum does not wrap. -/
theorem toNat_ceilquotient {a b : UInt32} (hb : 0 < b.toNat) (h : a.toNat + b.toNat < 2 ^ 32) :
    (ceilquotient a b).toNat = (a.toNat + b.toNat - 1) / b.toNat := by
  have hsum : (a + b).toNat = a.toNat + b.toNat := by
    rw [UInt32.toNat_add, Nat.mod_eq_of_lt h]
  have hle : (1 : UInt32) ≤ a + b := by
    rw [UInt32.le_iff_toNat_le, hsum]
    exact Nat.le_add_left_of_le hb
  rw [ceilquotient, UInt32.toNat_div, UInt32.toNat_sub_of_le _ _ hle, hsum]
  rfl

/-! ### Elements -/

section Element

variable {g group id round : UInt32}

/-- The element of an invocation, where those of all groups are in the range of 32 bits. -/
theorem toNat_element (hg : groupSize.toNat * g.toNat < 2 ^ 32) (hgroup : group < g)
    (hid : id < localSize) (hround : round < blockSize) :
    (element group id round).toNat = group.toNat * 2048 + id.toNat + round.toNat * 256 := by
  rw [UInt32.lt_iff_toNat_lt] at hgroup hid hround
  have hblock : blockSize.toNat = 8 := rfl
  simp only [element, UInt32.toNat_add, UInt32.toNat_mul, toNat_groupSize, toNat_localSize, hblock]
    at *
  omega

/-- The elements of the groups are those below `groupSize * g`. -/
theorem exists_element_iff (hg : groupSize.toNat * g.toNat < 2 ^ 32) (e : UInt32) :
    (∃ group < g, ∃ id < localSize, ∃ round < blockSize, element group id round = e) ↔
      e < groupSize * g := by
  have helements : (groupSize * g).toNat = 2048 * g.toNat := by
    rw [UInt32.toNat_mul]
    exact Nat.mod_eq_of_lt hg
  rw [UInt32.lt_iff_toNat_lt, helements]
  have hblock : blockSize.toNat = 8 := rfl
  constructor
  · rintro ⟨group, hgroup, id, hid, round, hround, rfl⟩
    rw [toNat_element hg hgroup hid hround]
    simp only [UInt32.lt_iff_toNat_lt, toNat_localSize, hblock] at hgroup hid hround
    omega
  · intro he
    have hgroup : UInt32.ofNat (e.toNat / 2048) < g := by
      rw [UInt32.lt_iff_toNat_lt, UInt32.toNat_ofNat']
      omega
    have hid : UInt32.ofNat (e.toNat % 256) < localSize := by
      rw [UInt32.lt_iff_toNat_lt, UInt32.toNat_ofNat', toNat_localSize]
      omega
    have hround : UInt32.ofNat (e.toNat % 2048 / 256) < blockSize := by
      rw [UInt32.lt_iff_toNat_lt, UInt32.toNat_ofNat', hblock]
      omega
    refine ⟨_, hgroup, _, hid, _, hround, UInt32.toNat_inj.mp ?_⟩
    rw [toNat_element hg hgroup hid hround]
    simp only [UInt32.toNat_ofNat']
    have hlt := e.toNat_lt
    omega

variable {d : Dispatch}

/-- The sums that `sum2` reads are those of the blocks of all invocations. -/
theorem globalSumIndex_lt (hid : id < localSize) (hround : round < d.blockSize) :
    d.blockSize.toNat * id.toNat + round.toNat < 256 * d.blockSize.toNat := by
  rw [UInt32.lt_iff_toNat_lt, toNat_localSize] at hid
  rw [UInt32.lt_iff_toNat_lt] at hround
  have hproduct : d.blockSize.toNat * id.toNat ≤ d.blockSize.toNat * 255 :=
    Nat.mul_le_mul_left _ (Nat.le_of_lt_succ hid)
  omega

/-- The index of such a sum, where those of all blocks are in the range of 32 bits. -/
theorem toNat_globalSumIndex (hrange : 256 * d.blockSize.toNat < 2 ^ 32) (hid : id < localSize)
    (hround : round < d.blockSize) :
    (globalSumIndex d id round).toNat = d.blockSize.toNat * id.toNat + round.toNat := by
  have hlt := globalSumIndex_lt hid hround
  rw [globalSumIndex, UInt32.toNat_add, UInt32.toNat_mul, Nat.mod_add_mod]
  exact Nat.mod_eq_of_lt (hlt.trans hrange)

end Element

section Rounding

variable {maxFramebuffer : UInt32 × UInt32} {size : TargetSize maxFramebuffer}
  {maxComputeWorkGroupCountX : UInt32}

/-- The code's number of pixels, up to the wrap. -/
theorem TargetSize.toNat_pixels (size : TargetSize maxFramebuffer) :
    size.pixels.toNat = size.area % 2 ^ 32 := by
  rw [pixels, pixelCount, UInt32.toNat_mul, UInt32.toNat_ofNat', UInt32.toNat_ofNat', area,
    ← Nat.mul_mod]

/-- The two roundings are the same. -/
theorem ceilquotient_groupSize (pixels : UInt32) :
    ceilquotient pixels groupSize = groupCount pixels :=
  rfl

/-- The groups are never more than the device can dispatch, however the number of them comes out. -/
theorem elements_le (size : TargetSize maxFramebuffer) (maxComputeWorkGroupCountX : UInt32) :
    (dispatch size maxComputeWorkGroupCountX).elements.toNat ≤
      groupSize.toNat * maxComputeWorkGroupCountX.toNat := by
  have hg : (dispatch size maxComputeWorkGroupCountX).g.toNat ≤
      maxComputeWorkGroupCountX.toNat := by
    rw [dispatch, recordComputeCommandBuffer, toNat_min]
    exact min_le_right _ _
  calc (groupSize * (dispatch size maxComputeWorkGroupCountX).g).toNat
      = groupSize.toNat * (dispatch size maxComputeWorkGroupCountX).g.toNat % 2 ^ 32 :=
        UInt32.toNat_mul ..
    _ ≤ groupSize.toNat * (dispatch size maxComputeWorkGroupCountX).g.toNat := Nat.mod_le _ _
    _ ≤ groupSize.toNat * maxComputeWorkGroupCountX.toNat := Nat.mul_le_mul_left _ hg

namespace Fits

theorem toNat_pixels (h : Fits size maxComputeWorkGroupCountX) :
    size.pixels.toNat = size.area := by
  have hlt := h.area_lt
  rw [size.toNat_pixels]
  exact Nat.mod_eq_of_lt (by omega)

/-- The groups, without a wrap. -/
theorem toNat_groupCount (h : Fits size maxComputeWorkGroupCountX) :
    (groupCount size.pixels).toNat = (size.area + 2047) / 2048 := by
  have hlt := h.area_lt
  rw [← h.toNat_pixels] at hlt ⊢
  exact toNat_ceilquotient (by decide) hlt

/-- The clamp does not bite. -/
theorem g_eq (h : Fits size maxComputeWorkGroupCountX) :
    (dispatch size maxComputeWorkGroupCountX).g = groupCount size.pixels := by
  have hle := h.area_le
  have hmin : min (groupCount size.pixels).toNat maxComputeWorkGroupCountX.toNat =
      (groupCount size.pixels).toNat := by
    rw [h.toNat_groupCount, toNat_groupSize] at *
    exact min_eq_left (by omega)
  rw [dispatch, recordComputeCommandBuffer, ceilquotient_groupSize]
  exact UInt32.toNat_inj.mp ((toNat_min _ _).trans hmin)

/-- The elements are those that the buffers were made for. -/
theorem elements_eq (h : Fits size maxComputeWorkGroupCountX) :
    (dispatch size maxComputeWorkGroupCountX).elements = paddedPixels size.pixels := by
  rw [paddedPixels, ← h.g_eq]
  rfl

/-- The rounded number of pixels, without a wrap. -/
theorem toNat_paddedPixels (h : Fits size maxComputeWorkGroupCountX) :
    (paddedPixels size.pixels).toNat = 2048 * ((size.area + 2047) / 2048) := by
  have hlt := h.area_lt
  rw [paddedPixels, UInt32.toNat_mul, h.toNat_groupCount, toNat_groupSize] at *
  exact Nat.mod_eq_of_lt (by omega)

/-- The blocks of groups, without a wrap. -/
theorem toNat_blockSize (h : Fits size maxComputeWorkGroupCountX) :
    (dispatch size maxComputeWorkGroupCountX).blockSize.toNat =
      ((size.area + 2047) / 2048 + 255) / 256 := by
  have hlt := h.area_lt
  have hblock : (dispatch size maxComputeWorkGroupCountX).blockSize =
      ceilquotient (dispatch size maxComputeWorkGroupCountX).g localSize := rfl
  rw [hblock, h.g_eq, toNat_ceilquotient (by decide), h.toNat_groupCount]
  · rfl
  · rw [h.toNat_groupCount]
    simp only [toNat_groupSize, toNat_localSize] at *
    omega

/-- The sizes of the three buffers, without a wrap. -/
theorem bufferSize_eq (h : Fits size maxComputeWorkGroupCountX) (fragmentBytes : Nat) :
    bufferSize size.pixels fragmentBytes .count =
        (2048 * ((size.area + 2047) / 2048) + 1) * 4 ∧
      bufferSize size.pixels fragmentBytes .offset =
        (2048 * ((size.area + 2047) / 2048) + 2) * 4 ∧
      bufferSize size.pixels fragmentBytes .globalSum =
        256 * (((size.area + 2047) / 2048 + 255) / 256) * 4 := by
  have hlt := h.area_lt
  have hpadded := h.toNat_paddedPixels
  have hblock := h.toNat_blockSize
  rw [toNat_groupSize] at hlt
  refine ⟨?_, ?_, ?_⟩
  · rw [bufferSize, UInt32.toNat_add, hpadded]
    exact congrArg (· * 4) (Nat.mod_eq_of_lt (by simp only [UInt32.reduceToNat]; omega))
  · rw [bufferSize, UInt32.toNat_add, hpadded]
    exact congrArg (· * 4) (Nat.mod_eq_of_lt (by simp only [UInt32.reduceToNat]; omega))
  · have hglobal : globalSize size.pixels =
        localSize * (dispatch size maxComputeWorkGroupCountX).blockSize * 4 := by
      rw [globalSize, ← h.g_eq]
      rfl
    rw [bufferSize, hglobal, UInt32.toNat_mul, UInt32.toNat_mul, hblock]
    simp only [toNat_localSize, UInt32.reduceToNat]
    omega

/-- Neither function wraps. -/
theorem noWrap (h : Fits size maxComputeWorkGroupCountX) :
    NoWrap size maxComputeWorkGroupCountX := by
  have hlt := h.area_lt
  have hgroups := h.toNat_groupCount
  -- either side is at least 2 when padded, so the other is at most half of the area
  have hwidth : 2 * (size.toNat.1 + 1) ≤ size.area := by
    have hheight : 2 ≤ size.toNat.2 + 1 :=
      Nat.succ_le_succ (Int.pos_iff_toNat_pos.mp size.height_pos)
    rw [TargetSize.area, mul_comm]
    exact Nat.mul_le_mul_left _ hheight
  have hheight : 2 * (size.toNat.2 + 1) ≤ size.area := by
    have hwidth : 2 ≤ size.toNat.1 + 1 := Nat.succ_le_succ (Int.pos_iff_toNat_pos.mp size.width_pos)
    exact Nat.mul_le_mul_right _ hwidth
  have hwidth_pos := size.width_pos
  have hheight_pos := size.height_pos
  have hrange : size.toNat.1 + 1 < 2 ^ 31 ∧ size.toNat.2 + 1 < 2 ^ 31 := by
    rw [toNat_groupSize] at hlt
    omega
  have hpadded := h.toNat_paddedPixels
  have hblock := h.toNat_blockSize
  have hblocks : ceilquotient (groupCount size.pixels) localSize =
      (dispatch size maxComputeWorkGroupCountX).blockSize := by
    rw [← h.g_eq]
    rfl
  have hproduct : (localSize * (dispatch size maxComputeWorkGroupCountX).blockSize).toNat =
      256 * (((size.area + 2047) / 2048 + 255) / 256) := by
    rw [UInt32.toNat_mul, hblock, toNat_localSize]
    rw [toNat_groupSize] at hlt
    omega
  refine ⟨?_, ?_, ?_, ?_⟩
  · have hcast : (size.toNat.1 : Int) = size.width.toInt := Int.toNat_of_nonneg hwidth_pos.le
    omega
  · have hcast : (size.toNat.2 : Int) = size.height.toInt := Int.toNat_of_nonneg hheight_pos.le
    omega
  · simp only [sums, List.forall_mem_cons, h.g_eq, h.toNat_pixels, hgroups,
      hpadded, toNat_groupSize,
      toNat_localSize, UInt32.reduceToNat] at *
    refine ⟨by omega, by omega, by omega, by omega, by omega, fun _ hmem => nomatch hmem⟩
  · have harea : (size.toNat.1 + 1) * (size.toNat.2 + 1) < 2 ^ 32 :=
      Nat.lt_of_le_of_lt (Nat.le_add_right _ _) hlt
    simp only [products, List.forall_mem_cons, h.g_eq, hgroups, hblocks, hblock, hproduct,
      toNat_groupSize, toNat_localSize, UInt32.reduceToNat, UInt32.toNat_ofNat'] at *
    refine ⟨?_, by omega, by omega, by omega, by omega, fun _ hmem => nomatch hmem⟩
    rw [Nat.mod_eq_of_lt (by omega), Nat.mod_eq_of_lt (by omega)]
    exact harea

end Fits

/-- What is covered fits: the sums and products of the size bound it, and so does the device. -/
theorem fits_of_covers {fragmentBytes : Nat}
    (h : Covers size maxComputeWorkGroupCountX fragmentBytes) :
    Fits size maxComputeWorkGroupCountX := by
  have hwidth := h.noWrap.width
  have hheight := h.noWrap.height
  have hproduct := h.noWrap.products _ (List.mem_cons_self ..)
  have hsum := h.noWrap.sums _ (List.mem_cons_self ..)
  have hfactors : size.toNat.1 + 1 < 2 ^ 32 ∧ size.toNat.2 + 1 < 2 ^ 32 := by
    simp only [TargetSize.toNat]
    omega
  simp only [UInt32.toNat_ofNat', Nat.mod_eq_of_lt hfactors.1, Nat.mod_eq_of_lt hfactors.2]
    at hproduct
  rw [size.toNat_pixels, TargetSize.area, Nat.mod_eq_of_lt hproduct] at hsum
  exact ⟨hsum, h.pixels.trans (elements_le size maxComputeWorkGroupCountX)⟩

/-- What fits is covered. -/
theorem covers_of_fits (h : Fits size maxComputeWorkGroupCountX) (fragmentBytes : Nat) :
    Covers size maxComputeWorkGroupCountX fragmentBytes := by
  obtain ⟨hcount, hoffset, hglobalSum⟩ := h.bufferSize_eq fragmentBytes
  have hgroups := h.toNat_groupCount
  have hblock := h.toNat_blockSize
  have hlt := h.area_lt
  rw [toNat_groupSize] at hlt
  refine ⟨?_, ?_, ?_, ?_, ?_, h.noWrap⟩
  · rw [h.elements_eq, h.toNat_paddedPixels]
    omega
  · intro group hgroup id hid round hround
    rw [h.g_eq] at hgroup
    have hrange : groupSize.toNat * (groupCount size.pixels).toNat < 2 ^ 32 := by
      rw [hgroups, toNat_groupSize]
      omega
    rw [toNat_element hrange hgroup hid hround, hcount, hoffset]
    have hblockSize : FragmentBuffers.blockSize.toNat = 8 := rfl
    simp only [UInt32.lt_iff_toNat_lt, hgroups, toNat_localSize, hblockSize] at hgroup hid hround
    omega
  · intro group hgroup
    rw [h.g_eq, UInt32.lt_iff_toNat_lt, hgroups] at hgroup
    rw [hglobalSum]
    omega
  · intro id hid round hround
    have hrange : 256 * (dispatch size maxComputeWorkGroupCountX).blockSize.toNat < 2 ^ 32 := by
      rw [hblock]
      omega
    rw [toNat_globalSumIndex hrange hid hround, hglobalSum, ← hblock]
    have hindex := globalSumIndex_lt hid hround
    omega
  · rw [h.g_eq, hgroups, hblock, toNat_localSize]
    omega

/-- In every run, a renderer that is set up for a size that fits has live buffers that cover it. -/
theorem room_runState (h : Fits size maxComputeWorkGroupCountX) {frames : List Frame}
    (hinit : (runState step .init frames).initialized = true)
    (hsize : (runState step .init frames).currentTargetSize = size.toNat) :
    (∀ group < (dispatch size maxComputeWorkGroupCountX).g, ∀ id < localSize, ∀ round < blockSize,
        Room ((runState step .init frames).live .count)
            (4 * ((element group id round).toNat + 2)) ∧
          Room ((runState step .init frames).live .offset)
            (4 * ((element group id round).toNat + 2))) ∧
      ∀ group < (dispatch size maxComputeWorkGroupCountX).g,
        Room ((runState step .init frames).live .globalSum) (4 * (group.toNat + 1)) := by
  have hsized : Sized (runState step .init frames) :=
    runState_invariant (fun _ frame hs _ => hs.step frame) sized_init
      (Along.of_forall (fun _ _ => trivial) _ frames)
  have hlive := hsized.live hinit
  rw [hsize] at hlive
  have hcovers := covers_of_fits h ((runState step .init frames).maxFragments.toNat * 16)
  refine ⟨fun group hgroup id hid round hround => ?_, fun group hgroup => ?_⟩
  · obtain ⟨hcount, hoffset⟩ := hcovers.elements group hgroup id hid round hround
    exact ⟨⟨_, hlive .count, hcount⟩, ⟨_, hlive .offset, hoffset⟩⟩
  · exact ⟨_, hlive .globalSum, hcovers.groups group hgroup⟩

end Rounding

/-- **Which frames are covered**: those whose pixels and one group more are in the range of 32 bits,
and whose groups the device can dispatch. -/
theorem covers_iff {maxFramebuffer : UInt32 × UInt32} (size : TargetSize maxFramebuffer)
    (maxComputeWorkGroupCountX : UInt32) (fragmentBytes : Nat) :
    Covers size maxComputeWorkGroupCountX fragmentBytes ↔ Fits size maxComputeWorkGroupCountX :=
  ⟨fits_of_covers, fun h => covers_of_fits h fragmentBytes⟩

/-- The largest frame of a device with a framebuffer of 16384 pixels a side. -/
def wholeFramebuffer : TargetSize (16384, 16384) :=
  .clamped (16384, 16384) (by decide) (by decide)

/-- Where such a device can dispatch 65535 groups, half of its pixels are summed. -/
theorem not_covers_wholeFramebuffer :
    ¬ Covers wholeFramebuffer 65535 (fragmentBufferSize 0 wholeFramebuffer.pixels) := by
  intro h
  have hpixels := h.pixels
  exact absurd hpixels (by decide +kernel)

end PrefixSum

end OkularV3d
