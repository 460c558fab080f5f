import Mathlib.Data.List.Forall2
import OkularV3d.Lib.Raster
import OkularV3d.Render.IBLImages

/-!
# Uploading the environment images

`initIBL` decodes the files of an environment image and copies each to its place: `diffuse.exr` and
`refl.exr` to images of their own, `refl0.exr` to `refl10.exr` to the layers of a volume. All layers
are copied with the width and the height of the file decoded last.

`IBLLayers.uploaded_iff` says for which files the copies stay in bounds and put every pixel where it
belongs.

* `Copy` is one copy from a staging buffer; `createIBLImage` and `createIBLImage3D` make them, and
  `copies` lists those of a directory.
* `Copy.Uploads` is the property of one copy, `Uploaded` that of all, file by file (`targets`).
* `LayersAgree` is the condition: sizes in the range of `int`, and layers of one size.
* `skyFiles` is a directory of small files, with a wider last layer or without.
-/

namespace OkularV3d

namespace IBLLayers

open Raster

variable {F : Type}

/-! ### The code -/

/-- A copy from a staging buffer to a layer of an image: what is in the buffer, the extent of the
image, and the size and the place of the region. -/
structure Copy (F : Type) where
  staging : List F
  extent : Nat × Nat × Nat
  size : Nat × Nat
  layer : Nat
  deriving DecidableEq

/-- `createIBLImage`, with the copy of its `copyIBLDataToImage`. -/
def createIBLImage (data : List F) (size : Nat × Nat) : Copy F :=
  { staging := data, extent := (size.1, size.2, 1), size, layer := 0 }

/-- `createIBLImage3D`, with the copies of its `copyIBLDataToImage`. -/
def createIBLImage3D (layers : List (List F)) (size : Nat × Nat) : List (Copy F) :=
  layers.zipIdx.map fun (data, i) =>
    { staging := data, extent := (size.1, size.2, layers.length), size, layer := i }

/-- The size in `w` and `h` after the loop of `initIBL`, in which each layer stores its own. -/
def storedSize (layers : List (EXR F)) : Nat × Nat :=
  match layers.getLast? with
  | some exr => (exr.width, exr.height)
  | none => (0, 0)

/-- The copies of the second part of `initIBL`, if all files load. -/
def copies (disk : Disk F) (iblPath : ByteString) : Option (List (Copy F)) :=
  (loadFiles disk iblPath).map fun files =>
    createIBLImage files.diffuse.pixels (files.diffuse.width, files.diffuse.height) ::
      createIBLImage files.brdf.pixels (files.brdf.width, files.brdf.height) ::
        createIBLImage3D (files.layers.map EXR.pixels) (storedSize files.layers)

/-! ### What the copies should do -/

/-- `LoadEXR` yields images that are not empty, with four floats a pixel. -/
def DecodesPixels (disk : Disk F) : Prop :=
  ∀ file, ∀ exr ∈ disk file, 0 < exr.width ∧ 0 < exr.height ∧
    exr.pixels.length = exr.width * exr.height * 4

/-- **Uploads**: a copy needs no more bytes than its staging buffer has, lies in its image, and puts
every pixel of the file at its place in the given layer. -/
structure Copy.Uploads (c : Copy F) (exr : EXR F) (layer : Nat) : Prop where
  staging : c.size.1 * c.size.2 * 16 ≤ c.staging.length * 4
  inside : c.size.1 ≤ c.extent.1 ∧ c.size.2 ≤ c.extent.2.1 ∧ c.layer < c.extent.2.2
  layer : c.layer = layer
  pixels : ∀ x y, x < exr.width → y < exr.height → (x < c.size.1 ∧ y < c.size.2) ∧
    ∀ channel < 4, c.staging[4 * place c.size.1 x y + channel]? =
      exr.pixels[4 * place exr.width x y + channel]?

/-- The files of an environment image in the order of their copies, each with its layer. -/
def targets (iblPath : ByteString) : List (EXRFile × Nat) :=
  (diffuseFile iblPath, 0) :: (brdfFile iblPath, 0) :: (reflectionFiles iblPath).zipIdx

/-- Every copy that `initIBL` makes uploads its file. -/
def Uploaded (disk : Disk F) (iblPath : ByteString) : Prop :=
  ∀ made ∈ copies disk iblPath,
    List.Forall₂ (fun target c => ∀ exr ∈ disk target.1, c.Uploads exr target.2)
      (targets iblPath) made

/-- The floats of a file have a number in the range of `int`. -/
def InRange (exr : EXR F) : Prop := exr.width * exr.height * 4 < 2 ^ 31

/-- A file loads: it is decoded, and the number of its floats is positive as an `int`. -/
def Loads (disk : Disk F) (file : EXRFile) : Prop := ∃ exr ∈ disk file, 0 < floatCount exr

/-- The file whose size all layers get. -/
def lastLayer (iblPath : ByteString) : EXRFile := ⟨iblPath, "refl10.exr"⟩

/-- If all files load, the numbers of their floats are in the range of `int` and the layers have the
size of the last one. -/
def LayersAgree (disk : Disk F) (iblPath : ByteString) : Prop :=
  (∀ target ∈ targets iblPath, Loads disk target.1) →
    (∀ target ∈ targets iblPath, ∀ exr ∈ disk target.1, InRange exr) ∧
      ∀ file ∈ reflectionFiles iblPath, ∀ exr ∈ disk file, ∀ last ∈ disk (lastLayer iblPath),
        exr.width = last.width ∧ exr.height = last.height

/-! ### One copy -/

/-- A number above the range of `int` becomes something smaller. -/
theorem bmod_lt_of_not_lt {count : Nat} (h : ¬ count < 2 ^ 31) :
    (count : Int).bmod (2 ^ 32) < count := by
  rw [Int.bmod_def]
  push_cast
  split_ifs
  · omega
  · omega

/-- All floats are counted exactly in the range of `int`. -/
theorem le_toNat_floatCount_iff {exr : EXR F} (hpos : 0 < floatCount exr) :
    exr.width * exr.height * 4 ≤ (floatCount exr).toNat ↔ InRange exr := by
  have hiff : ∀ count : Nat, 0 < (count : Int).bmod (2 ^ 32) →
      (count ≤ ((count : Int).bmod (2 ^ 32)).toNat ↔ count < 2 ^ 31) := by
    intro count hpos
    by_cases hrange : count < 2 ^ 31
    · have hcount : (count : Int).bmod (2 ^ 32) = count :=
        Int.bmod_eq_of_le (by omega) (by omega)
      exact iff_of_true (by rw [hcount, Int.toNat_natCast]) hrange
    · have hlt := bmod_lt_of_not_lt hrange
      exact iff_of_false (by omega) hrange
  exact hiff _ hpos

/-- The vector of a file that loads has at most its floats, all of them in the range of `int`. -/
theorem length_take_floatCount {exr : EXR F}
    (hpixels : exr.pixels.length = exr.width * exr.height * 4) (hpos : 0 < floatCount exr) :
    (exr.pixels.take (floatCount exr).toNat).length ≤ exr.width * exr.height * 4 ∧
      ((exr.pixels.take (floatCount exr).toNat).length = exr.width * exr.height * 4 ↔
        InRange exr) := by
  rw [List.length_take, hpixels, min_eq_right_iff, le_toNat_floatCount_iff hpos]
  exact ⟨min_le_right _ _, Iff.rfl⟩

/-- **One copy**: it uploads its file exactly where the region has the size of the file and the
number of floats is in the range of `int`. -/
theorem uploads_iff {exr : EXR F} {c : Copy F} {layer : Nat} (hwidth : 0 < exr.width)
    (hheight : 0 < exr.height) (hpixels : exr.pixels.length = exr.width * exr.height * 4)
    (hpos : 0 < floatCount exr) (hstaging : c.staging = exr.pixels.take (floatCount exr).toNat)
    (hinside : c.size.1 ≤ c.extent.1 ∧ c.size.2 ≤ c.extent.2.1 ∧ c.layer < c.extent.2.2)
    (hlayer : c.layer = layer) :
    c.Uploads exr layer ↔ InRange exr ∧ exr.width = c.size.1 ∧ exr.height = c.size.2 := by
  obtain ⟨hle, hrange⟩ := length_take_floatCount hpixels hpos
  rw [← hstaging] at hle hrange
  constructor
  · intro h
    -- the last pixel is in the region, and the region is no larger than the buffer
    obtain ⟨⟨hx, hy⟩, -⟩ := h.pixels (exr.width - 1) (exr.height - 1) (by omega) (by omega)
    have hbuffer : c.size.1 * c.size.2 * 16 ≤ c.staging.length * 4 := h.staging
    have harea : c.size.1 * c.size.2 ≤ exr.width * exr.height := by omega
    obtain ⟨hw, hh⟩ := eq_of_mul_le_mul (by omega) (by omega) (by omega) (by omega) harea
    refine ⟨hrange.mp ?_, hw, hh⟩
    rw [← hw, ← hh] at hbuffer
    omega
  · rintro ⟨hin, hw, hh⟩
    have hlength := hrange.mpr hin
    have hwhole : c.staging = exr.pixels := by
      have hall := (le_toNat_floatCount_iff hpos).mpr hin
      rw [← hpixels] at hall
      rw [hstaging, List.take_of_length_le hall]
    refine ⟨?_, hinside, hlayer, fun x y hx hy => ⟨⟨hw ▸ hx, hh ▸ hy⟩, fun channel _ => ?_⟩⟩
    · rw [hlength, ← hw, ← hh]
      omega
    · rw [hwhole, hw]

/-! ### All copies -/

theorem loadEXR_eq_some_iff {disk : Disk F} {file : EXRFile} {loaded : EXR F} :
    loadEXR disk file = some loaded ↔
      ∃ exr ∈ disk file, 0 < floatCount exr ∧
        loaded = { exr with pixels := exr.pixels.take (floatCount exr).toNat } := by
  simp only [loadEXR, Option.bind_eq_some_iff, Option.ite_none_right_eq_some, Option.some.injEq,
    Option.mem_def]
  exact exists_congr fun exr => and_congr_right fun _ => and_congr_right fun _ => eq_comm

theorem isSome_loadEXR_iff {disk : Disk F} {file : EXRFile} :
    (loadEXR disk file).isSome ↔ Loads disk file := by
  rw [Option.isSome_iff_exists, Loads]
  constructor
  · rintro ⟨loaded, h⟩
    obtain ⟨exr, hexr, hpos, -⟩ := loadEXR_eq_some_iff.mp h
    exact ⟨exr, hexr, hpos⟩
  · rintro ⟨exr, hexr, hpos⟩
    exact ⟨_, loadEXR_eq_some_iff.mpr ⟨exr, hexr, hpos, rfl⟩⟩

/-- The last entries of two lists that agree entry by entry. -/
theorem exists_mem_getLast? {α β : Type} {R : α → β → Prop} {as : List α} {bs : List β}
    (h : List.Forall₂ R as bs) : ∀ a ∈ as.getLast?, ∃ b ∈ bs.getLast?, R a b := by
  induction h with
  | nil => exact fun _ h => nomatch h
  | cons hab hrest ih =>
    cases hrest with
    | nil =>
      rintro _ ⟨⟩
      exact ⟨_, rfl, hab⟩
    | cons => exact ih

/-- A property that two lists share entry by entry, where it only depends on the first. -/
theorem forall₂_iff_forall_mem {α β : Type} {R S : α → β → Prop} {C : α → Prop} {as : List α}
    {bs : List β} (h : List.Forall₂ R as bs) (hiff : ∀ a b, R a b → (S a b ↔ C a)) :
    List.Forall₂ S as bs ↔ ∀ a ∈ as, C a := by
  induction h with
  | nil => exact iff_of_true .nil fun _ h => nomatch h
  | cons hab _ ih => rw [List.forall₂_cons, List.forall_mem_cons, hiff _ _ hab, ih]

/-- Numbering both lists from the same start. -/
theorem forall₂_zipIdx {α β : Type} {R : α → β → Prop} {as : List α} {bs : List β}
    (h : List.Forall₂ R as bs) {n : Nat} : ∀ {k : Nat}, k + bs.length ≤ n →
      List.Forall₂ (fun a b => R a.1 b.1 ∧ a.2 = b.2 ∧ b.2 < n) (as.zipIdx k) (bs.zipIdx k) := by
  induction h with
  | nil => exact fun _ => .nil
  | cons hab _ ih =>
    intro k hk
    rw [List.length_cons] at hk
    rw [List.zipIdx_cons, List.zipIdx_cons]
    exact .cons ⟨hab, rfl, by omega⟩ (ih (by omega))

section Targets

variable {disk : Disk F} {iblPath : ByteString}

theorem forall_mem_zipIdx_iff {α : Type} {as : List α} {P : α → Prop} :
    (∀ a ∈ as.zipIdx, P a.1) ↔ ∀ a ∈ as, P a := by
  rw [← List.forall_mem_map, List.zipIdx_map_fst]

/-- What holds of the files of all copies. -/
theorem forall_mem_targets_iff {P : EXRFile → Prop} :
    (∀ target ∈ targets iblPath, P target.1) ↔
      P (diffuseFile iblPath) ∧ P (brdfFile iblPath) ∧
      ∀ file ∈ reflectionFiles iblPath, P file := by
  rw [targets, List.forall_mem_cons, List.forall_mem_cons, forall_mem_zipIdx_iff]

/-- The files that are copied are those `initIBL` reads. -/
theorem decodes_iff_loads : Decodes disk iblPath ↔ ∀ target ∈ targets iblPath,
    Loads disk target.1 := by
  simp only [Decodes, List.forall_mem_cons, forall_mem_targets_iff, isSome_loadEXR_iff]

/-- What is read, file by file. -/
theorem loadFiles_eq_some {files : IBLFiles F} (h : loadFiles disk iblPath = some files) :
    loadEXR disk (diffuseFile iblPath) = some files.diffuse ∧
      loadEXR disk (brdfFile iblPath) = some files.brdf ∧
        List.Forall₂ (fun file exr => loadEXR disk file = some exr) (reflectionFiles iblPath)
          files.layers := by
  simp only [loadFiles, bind, Option.bind_eq_some_iff, pure, Option.some.injEq] at h
  obtain ⟨diffuse, hdiffuse, brdf, hbrdf, layers, hlayers, rfl⟩ := h
  exact ⟨hdiffuse, hbrdf, forall₂_of_mapM hlayers⟩

/-- **One image**: its copy uploads the file exactly in the range of `int`. -/
theorem uploads_createIBLImage_iff (hdisk : DecodesPixels disk) {file : EXRFile} {loaded : EXR F}
    (h : loadEXR disk file = some loaded) :
    (∀ exr ∈ disk file,
        (createIBLImage loaded.pixels (loaded.width, loaded.height)).Uploads exr 0) ↔
      ∀ exr ∈ disk file, InRange exr := by
  obtain ⟨exr, hexr, hpos, hloaded⟩ := loadEXR_eq_some_iff.mp h
  refine forall₂_congr fun exr' hexr' => ?_
  obtain rfl := Option.some.inj (hexr.symm.trans hexr')
  obtain ⟨hwidth, hheight, hpixels⟩ := hdisk file exr hexr
  have hdata : loaded.pixels = exr.pixels.take (floatCount exr).toNat := by rw [hloaded]
  have hiff := uploads_iff (c := createIBLImage loaded.pixels (loaded.width, loaded.height)) hwidth
    hheight hpixels hpos hdata ⟨Nat.le_refl _, Nat.le_refl _, Nat.one_pos⟩ (Eq.refl 0)
  rw [hiff]
  rw [hloaded]
  exact and_iff_left ⟨rfl, rfl⟩

/-- **The volume**: its copies upload their files exactly where the files are in the range of `int`
and have the size of the region. -/
theorem uploads_createIBLImage3D_iff (hdisk : DecodesPixels disk) {files : List EXRFile}
    {layers : List (EXR F)} (size : Nat × Nat)
    (h : List.Forall₂ (fun file exr => loadEXR disk file = some exr) files layers) :
    List.Forall₂ (fun target c => ∀ exr ∈ disk target.1, c.Uploads exr target.2)
        files.zipIdx (createIBLImage3D (layers.map EXR.pixels) size) ↔
      ∀ target ∈ files.zipIdx, ∀ exr ∈ disk target.1,
        InRange exr ∧ exr.width = size.1 ∧ exr.height = size.2 := by
  have hdata : List.Forall₂
    (fun file data => ∃ exr, loadEXR disk file = some exr ∧ data = exr.pixels)
      files (layers.map EXR.pixels) :=
    List.forall₂_map_right_iff.mpr (h.imp fun _ exr hload => ⟨exr, hload, rfl⟩)
  rw [createIBLImage3D, List.forall₂_map_right_iff]
  refine forall₂_iff_forall_mem (forall₂_zipIdx hdata (Nat.le_of_eq (Nat.zero_add _))) ?_
  rintro ⟨file, i⟩ ⟨_, j⟩ ⟨⟨loaded, hload, rfl⟩, rfl, hlt⟩
  obtain ⟨exr, hexr, hpos, hloaded⟩ := loadEXR_eq_some_iff.mp hload
  refine forall₂_congr fun exr' hexr' => ?_
  obtain rfl := Option.some.inj (hexr.symm.trans hexr')
  obtain ⟨hwidth, hheight, hpixels⟩ := hdisk file exr hexr
  have hdata : loaded.pixels = exr.pixels.take (floatCount exr).toNat := by rw [hloaded]
  exact uploads_iff hwidth hheight hpixels hpos hdata ⟨Nat.le_refl _, Nat.le_refl _, hlt⟩ rfl

theorem getLast?_reflectionFiles :
    (reflectionFiles iblPath).getLast? = some (lastLayer iblPath) := by
  rw [reflectionFiles, lastLayer]
  rfl

/-- **Which images are uploaded as they should be**: those with some file that does not load, and
those whose files are in the range of `int`, the layers all of the size of the last. -/
theorem uploaded_iff (hdisk : DecodesPixels disk) (iblPath : ByteString) :
    Uploaded disk iblPath ↔ LayersAgree disk iblPath := by
  cases hfiles : loadFiles disk iblPath with
  | none =>
    have hfails : ¬ ∀ target ∈ targets iblPath, Loads disk target.1 := by
      rw [← decodes_iff_loads, ← isSome_loadFiles_iff, hfiles]
      exact Bool.false_ne_true
    refine iff_of_true (fun made hmade => ?_) fun h => absurd h hfails
    rw [copies, hfiles] at hmade
    cases hmade
  | some files =>
    have hloads : ∀ target ∈ targets iblPath, Loads disk target.1 := by
      rw [← decodes_iff_loads, ← isSome_loadFiles_iff, hfiles]
      rfl
    obtain ⟨hdiffuse, hbrdf, hlayers⟩ := loadFiles_eq_some hfiles
    -- the last layer is there, and its size is that of the whole volume
    obtain ⟨loaded, hloaded, hload⟩ := exists_mem_getLast? hlayers _ getLast?_reflectionFiles
    obtain ⟨last, hmem, -, rfl⟩ := loadEXR_eq_some_iff.mp hload
    have hsize : storedSize files.layers = (last.width, last.height) := by
      rw [storedSize, Option.mem_def.mp hloaded]
    have hdiffuse := uploads_createIBLImage_iff hdisk hdiffuse
    have hbrdf := uploads_createIBLImage_iff hdisk hbrdf
    have hvolume := uploads_createIBLImage3D_iff hdisk (last.width, last.height) hlayers
    have hcopies : Uploaded disk iblPath ↔
        (∀ exr ∈ disk (diffuseFile iblPath), InRange exr) ∧
          (∀ exr ∈ disk (brdfFile iblPath), InRange exr) ∧
            ∀ file ∈ reflectionFiles iblPath, ∀ exr ∈ disk file,
              InRange exr ∧ exr.width = last.width ∧ exr.height = last.height := by
      rw [← hdiffuse, ← hbrdf, ← forall_mem_zipIdx_iff, ← hvolume]
      simp only [Uploaded, copies, hfiles, hsize, Option.map_some, Option.mem_some_iff, forall_eq',
        targets, List.forall₂_cons]
    have hlast' : ∀ last' ∈ disk (lastLayer iblPath), last' = last :=
      fun last' hlast' => Option.some.inj (hlast'.symm.trans hmem)
    have htargets := @forall_mem_targets_iff iblPath fun file => ∀ exr ∈ disk file, InRange exr
    rw [hcopies, LayersAgree, htargets]
    constructor
    · rintro ⟨hin, hin', hsizes⟩ -
      refine ⟨⟨hin, hin', fun file hfile exr hexr => (hsizes file hfile exr hexr).1⟩, ?_⟩
      intro file hfile exr hexr last' hmem'
      rw [hlast' last' hmem']
      exact (hsizes file hfile exr hexr).2
    · intro h
      obtain ⟨⟨hin, hin', hrange⟩, hsizes⟩ := h hloads
      exact ⟨hin, hin', fun file hfile exr hexr =>
        ⟨hrange file hfile exr hexr, hsizes file hfile exr hexr last hmem⟩⟩

end Targets

/-! ### Two sets of files -/

/-- An image `sky` in a library `ibl`: its files have sizes of their own, the layers one of 2x2
pixels, and the last layer is wider where it is said so. -/
def skyFiles (wide : Bool) : Disk Int := fun file =>
  if file.name == "diffuse.exr" then some ⟨2, 1, .replicate 8 1⟩
  else if file.name == "refl.exr" then some ⟨1, 3, .replicate 12 2⟩
  else if wide && file.name == "refl10.exr" then some ⟨4, 2, .replicate 32 3⟩
  else some ⟨2, 2, .replicate 16 4⟩

/-- `ibl/sky`. -/
def skyPath : ByteString := [0x69, 0x62, 0x6c, 0x2f, 0x73, 0x6b, 0x79]

theorem decodesPixels_skyFiles (wide : Bool) : DecodesPixels (skyFiles wide) := by
  intro file exr hexr
  rw [skyFiles] at hexr
  split_ifs at hexr
  all_goals
    obtain rfl := Option.some.inj hexr
    decide

theorem uploaded_skyFiles :
    DecodesPixels (skyFiles false) ∧
      (Uploaded (skyFiles false) skyPath ↔ LayersAgree (skyFiles false) skyPath) :=
  ⟨decodesPixels_skyFiles false, uploaded_iff (decodesPixels_skyFiles false) skyPath⟩

/-- The first layer is copied as eight pixels from a buffer of four. -/
theorem not_uploaded_wideLayer :
    DecodesPixels (skyFiles true) ∧ ¬ Uploaded (skyFiles true) skyPath := by
  refine ⟨decodesPixels_skyFiles true, fun h => ?_⟩
  have hcopies : copies (skyFiles true) skyPath =
      some (createIBLImage (.replicate 8 1) (2, 1) :: createIBLImage (.replicate 12 2) (1, 3) ::
        createIBLImage3D (.replicate 10 (.replicate 16 4) ++ [.replicate 32 3]) (4, 2)) := by
    decide +kernel
  obtain _ | ⟨-, _ | ⟨-, _ | ⟨hlayer, -⟩⟩⟩ := h _ hcopies
  have hupload := hlayer ⟨2, 2, .replicate 16 4⟩ (by decide +kernel)
  exact absurd hupload.staging (by decide)

end IBLLayers

end OkularV3d
