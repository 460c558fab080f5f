import OkularV3d.Lib.Runs
import OkularV3d.Manager.IBLName
import OkularV3d.Render.Prepare

/-!
# The environment images of the renderer

A frame shaded with image-based lighting has a bit set in its push constants and reads three images
through the IBL descriptors: the irradiance, the reflection lookup table and the eleven layers of
the reflection, decoded from the EXR files of the directory `iblPath` (`initIBL`). The images change
in three places: a full recreation and `updateIBL` load them, and both fall back to 1x1 placeholders
(`createIBLPlaceholders`) if a file does not decode; `iblImagePath` remembers the directory they
came from. The bit is a copy of the argument `useIBL`.

`bindingsAgree_along_iff` is the exact condition under which a frame with the bit set reads the
images of its own `iblPath`.

* `loadEXR` and `initIBL` are the decoding; a `Disk` answers what a file contains.
* `IBLRenderer` adds the images, their descriptors and `iblImagePath` to the `Renderer`;
  `prepareIBL`, `updateIBL` and `stopIBL` are the three stages of a call.
* `Coherent` is the invariant: what is bound is what is live, and `iblImagePath` describes it.
* `ImagesLoad` is the condition on a call, on the files at the moments the call reads the disk.
-/

namespace OkularV3d

open ByteString Runs

/-! ### Decoding -/

/-- The pixels of a decoded EXR file. -/
structure EXR (F : Type) where
  width : Nat
  height : Nat
  pixels : List F
  deriving DecidableEq

/-- A file, by its directory and its name. -/
structure EXRFile where
  directory : ByteString
  name : String
  deriving DecidableEq, Repr

/-- What `LoadEXR` makes of the files on the disk at some time; `none` is any error. -/
abbrev Disk (F : Type) := EXRFile → Option (EXR F)

/-- `width * height * 4`, an `int`. -/
def floatCount {F : Type} (exr : EXR F) : Int :=
  ((exr.width * exr.height * 4 : Nat) : Int).bmod (2 ^ 32)

/-- `loadEXR` with the vector it returns and the size it stores: none where there is nothing in the
vector, or its length is negative. -/
def loadEXR {F : Type} (disk : Disk F) (file : EXRFile) : Option (EXR F) :=
  (disk file).bind fun exr =>
    if 0 < floatCount exr then
      some { exr with pixels := exr.pixels.take (floatCount exr).toNat }
    else none

/-- A sampled image: a 1x1 placeholder, or the layers decoded from some files. -/
inductive IBLTexture (F : Type) where
  | placeholder
  | decoded (layers : List (EXRFile × EXR F))
  deriving DecidableEq

/-- The images of the IBL descriptors (bindings 11 to 13). -/
structure IBLImages (F : Type) where
  irradiance : IBLTexture F
  brdf : IBLTexture F
  reflection : IBLTexture F
  deriving DecidableEq

/-- The images of `createIBLPlaceholders`. -/
def IBLImages.placeholders {F : Type} : IBLImages F := ⟨.placeholder, .placeholder, .placeholder⟩

/-- `diffuse.exr` of an image. -/
def diffuseFile (iblPath : ByteString) : EXRFile := ⟨iblPath, "diffuse.exr"⟩

/-- `refl.exr` of the library an image is in. -/
def brdfFile (iblPath : ByteString) : EXRFile :=
  match findLastSlash iblPath with
  | some i => ⟨iblPath.take i, "refl.exr"⟩
  | none => ⟨iblPath, "refl.exr"⟩

/-- `refl0.exr` to `refl10.exr` of an image. -/
def reflectionFiles (iblPath : ByteString) : List EXRFile :=
  (List.range 11).map fun i => ⟨iblPath, "refl" ++ toString i ++ ".exr"⟩

section Decode

variable {F : Type}

/-- What `initIBL` has read when every file is there. -/
structure IBLFiles (F : Type) where
  diffuse : EXR F
  brdf : EXR F
  layers : List (EXR F)

/-- The first part of `initIBL`: all files of a directory, or none. -/
def loadFiles (disk : Disk F) (iblPath : ByteString) : Option (IBLFiles F) := do
  let diffuse ← loadEXR disk (diffuseFile iblPath)
  let brdf ← loadEXR disk (brdfFile iblPath)
  let layers ← (reflectionFiles iblPath).mapM (loadEXR disk)
  return ⟨diffuse, brdf, layers⟩

/-- `HeadlessRenderer::initIBL`: the images of a directory, if all files decode. -/
def initIBL (disk : Disk F) (iblPath : ByteString) : Option (IBLImages F) :=
  (loadFiles disk iblPath).map fun files =>
    ⟨.decoded [(diffuseFile iblPath, files.diffuse)], .decoded [(brdfFile iblPath, files.brdf)],
      .decoded ((reflectionFiles iblPath).zip files.layers)⟩

/-- Every file of a directory decodes. -/
def Decodes (disk : Disk F) (iblPath : ByteString) : Prop :=
  ∀ file ∈ diffuseFile iblPath :: brdfFile iblPath :: reflectionFiles iblPath,
    (loadEXR disk file).isSome

/-- The images have been decoded from the files of a directory. -/
def IBLImages.DecodedFrom (images : IBLImages F) (iblPath : ByteString) : Prop :=
  ∃ disk, initIBL disk iblPath = some images

/-- A list of decodings succeeds if each of them does. -/
theorem isSome_mapM_iff {α β : Type} (f : α → Option β) (as : List α) :
    (as.mapM f).isSome ↔ ∀ a ∈ as, (f a).isSome := by
  induction as with
  | nil => simp
  | cons a as ih =>
    cases ha : f a with
    | none => simp [ha]
    | some b =>
      cases has : as.mapM f with
      | none => simpa [ha, has] using ih
      | some bs => simpa [ha, has] using ih

/-- What a list is mapped to, entry by entry. -/
theorem forall₂_of_mapM {α β : Type} {f : α → Option β} {as : List α} {bs : List β}
    (h : as.mapM f = some bs) : List.Forall₂ (fun a b => f a = some b) as bs := by
  induction as generalizing bs with
  | nil =>
    obtain rfl : [] = bs := Option.some.inj h
    exact .nil
  | cons a as ih =>
    simp only [List.mapM_cons, bind, Option.bind_eq_some_iff, pure, Option.some.injEq] at h
    obtain ⟨b, hb, rest, hrest, rfl⟩ := h
    exact .cons hb (ih hrest)

/-- Loading is all or nothing. -/
theorem isSome_loadFiles_iff (disk : Disk F) (iblPath : ByteString) :
    (loadFiles disk iblPath).isSome ↔ Decodes disk iblPath := by
  rw [Decodes, List.forall_mem_cons, List.forall_mem_cons, ← isSome_mapM_iff, loadFiles]
  cases loadEXR disk (diffuseFile iblPath) with
  | none => simp
  | some diffuse =>
    cases loadEXR disk (brdfFile iblPath) with
    | none => simp
    | some brdf => simp [Option.isSome_bind]

/-- The images are there if every file decodes. -/
theorem isSome_initIBL_iff (disk : Disk F) (iblPath : ByteString) :
    (initIBL disk iblPath).isSome ↔ Decodes disk iblPath := by
  rw [initIBL, Option.isSome_map, isSome_loadFiles_iff]

/-- What is loaded shows where it has been loaded from. -/
theorem irradiance_of_initIBL {disk : Disk F} {iblPath : ByteString} {images : IBLImages F}
    (h : initIBL disk iblPath = some images) :
    ∃ diffuse, images.irradiance = .decoded [(diffuseFile iblPath, diffuse)] := by
  rw [initIBL, Option.map_eq_some_iff] at h
  obtain ⟨files, -, rfl⟩ := h
  exact ⟨files.diffuse, rfl⟩

/-- Placeholders are not decoded from anything. -/
theorem not_decodedFrom_placeholders (iblPath : ByteString) :
    ¬ (IBLImages.placeholders : IBLImages F).DecodedFrom iblPath := by
  rintro ⟨disk, h⟩
  obtain ⟨diffuse, hdiffuse⟩ := irradiance_of_initIBL h
  cases hdiffuse

/-- Images are decoded from one directory only. -/
theorem IBLImages.DecodedFrom.unique {images : IBLImages F} {p q : ByteString}
    (hp : images.DecodedFrom p) (hq : images.DecodedFrom q) : p = q := by
  obtain ⟨_, hp⟩ := hp
  obtain ⟨_, hq⟩ := hq
  obtain ⟨diffuse, hdiffuse⟩ := irradiance_of_initIBL hp
  obtain ⟨diffuse', hdiffuse'⟩ := irradiance_of_initIBL hq
  simp only [hdiffuse, IBLTexture.decoded.injEq, List.cons.injEq, Prod.mk.injEq, diffuseFile,
    EXRFile.mk.injEq] at hdiffuse'
  exact hdiffuse'.1.1.1

end Decode

/-! ### The renderer with its images -/

/-- The push constants of a frame.

* `lights`, `width`, `height`, `flags`: the four `constants`. -/
structure PushConstants (F : Type) where
  lights : UInt32
  width : UInt32
  height : UInt32
  flags : UInt32
  background : Vec4 F
  deriving DecidableEq

/-- The member `srgb`, which nothing sets. -/
def srgb : Bool := false

/-- The IBL bit. -/
def PushConstants.ibl {F : Type} (constants : PushConstants F) : Bool := constants.flags &&& 4 ≠ 0

/-- A `HeadlessRenderer` with what it keeps of the environment images.

* `iblImages`: the live images; `none` is null or destroyed.
* `descriptors`: the images the IBL descriptors were last written with. -/
structure IBLRenderer (F : Type) where
  renderer : Renderer F
  iblImagePath : ByteString
  iblImages : Option (IBLImages F)
  descriptors : Option (IBLImages F)

/-- The arguments of a `render()` call and what happens in it.

* `diskAtRecreation`, `diskAtUpdate`: the disk when a full recreation and when `updateIBL` reads it.
* `setupPastIBL`: whether a failure at `setup` comes after the images have been loaded. -/
structure IBLCall (D F : Type) extends RenderCall D F where
  bgColor : Vec4 F
  orthographic : Bool
  useIBL : Bool
  iblPath : ByteString
  diskAtRecreation : Disk F
  diskAtUpdate : Disk F
  setupPastIBL : Bool

/-- What a call records: the frame, its push constants, if it gets there, and the images that were
live and that the descriptors held when it was recorded. -/
structure IBLTrace (F : Type) where
  frame : FrameTrace F
  constants : Option (PushConstants F)
  live : Option (IBLImages F)
  bound : Option (IBLImages F)

namespace IBLRenderer

variable {D F : Type}

/-- A renderer as it is constructed. -/
def init (device : Device) (initFailed : Bool) : IBLRenderer F :=
  ⟨.init device initFailed, [], none, none⟩

/-- `destroyIBLResources`: `iblImagePath` stays. -/
def destroyIBLResources (r : IBLRenderer F) : IBLRenderer F := { r with iblImages := none }

/-- `createIBLPlaceholders`. -/
def createIBLPlaceholders (r : IBLRenderer F) : IBLRenderer F :=
  { r with iblImages := some .placeholders, iblImagePath := [] }

/-- `writeIBLDescriptors`: skipped without images. -/
def writeIBLDescriptors (r : IBLRenderer F) : IBLRenderer F :=
  { r with descriptors := r.iblImages.or r.descriptors }

/-- `initIBL` with the images it creates, else the placeholders. -/
def loadIBL (r : IBLRenderer F) (disk : Disk F) (iblPath : ByteString) : IBLRenderer F :=
  match initIBL disk iblPath with
  | some images => { r with iblImages := some images, iblImagePath := iblPath }
  | none => r.createIBLPlaceholders

/-- `updateIBL`. -/
def updateIBL (r : IBLRenderer F) (c : IBLCall D F) : IBLRenderer F :=
  if c.useIBL = false ∨ c.iblPath = [] then r
  else if c.iblPath = r.iblImagePath then r
  else (r.destroyIBLResources.loadIBL c.diskAtUpdate c.iblPath).writeIBLDescriptors

/-- `cleanup()` at the start of a full recreation. -/
def release (r : IBLRenderer F) : IBLRenderer F :=
  if r.renderer.initialized then r.destroyIBLResources else r

/-- The images of a full recreation. -/
def recreateIBL (r : IBLRenderer F) (c : IBLCall D F) : IBLRenderer F :=
  if c.useIBL = true ∧ c.iblPath ≠ [] then r.release.loadIBL c.diskAtRecreation c.iblPath
  else r.release.createIBLPlaceholders

/-- The recreation stage of a call, as far as images go, if it succeeds. -/
def prepareIBL (r : IBLRenderer F) (c : IBLCall D F) : IBLRenderer F :=
  match r.renderer.preparation c.toRenderCall with
  | .recreateAll => (r.recreateIBL c).writeIBLDescriptors
  | .recreatePipelines | .keep => r

/-- The recreation stage of a call that fails in it. (Descriptors written before the failure hold
destroyed images after it.) -/
def stopIBL (r : IBLRenderer F) (c : IBLCall D F) : IBLRenderer F :=
  match r.renderer.preparation c.toRenderCall with
  | .recreateAll =>
    if c.fault = some .attachmentsOOM then r.release
    else if c.fault = some .setup ∧ c.setupPastIBL = false then r.destroyIBLResources
    else (r.recreateIBL c).destroyIBLResources
  | .recreatePipelines | .keep => r.destroyIBLResources

/-- `HeadlessRenderer::buildPushConstants`, from the renderer a frame is drawn with and the number
of lights it announces. -/
def buildPushConstants (r : Renderer F) (c : IBLCall D F) (lights : Nat) : PushConstants F :=
  { lights := .ofNat lights
    width := .ofInt r.currentTargetSize.1
    height := .ofInt r.currentTargetSize.2
    flags := (if c.orthographic then 1 else 0) ||| (if srgb then 2 else 0) |||
      (if c.useIBL then 4 else 0)
    background := c.bgColor }

section Render

variable [Scalar F] [Rounding D F]

/-- `HeadlessRenderer::render`, with its images. A call that returns no image ends in `cleanup()`,
unless the device never came up or the attachments do not fit. -/
def render (r : IBLRenderer F) (cpu : Buffers F) (c : IBLCall D F) :
    IBLRenderer F × Buffers F × IBLTrace F :=
  let (renderer, cpu, frame) := r.renderer.render cpu c.toRenderCall
  if r.renderer.initFailed then (r, cpu, ⟨frame, none, none, none⟩)
  else if c.fault.any (r.renderer.preparation c.toRenderCall).stops then
    ({ r.stopIBL c with renderer }, cpu, ⟨frame, none, none, none⟩)
  else
    let loaded := r.prepareIBL c
    if c.fault = some .updateIBL then
      ({ loaded.destroyIBLResources with renderer }, cpu, ⟨frame, none, none, none⟩)
    else
      let drawn := loaded.updateIBL c
      let after := if frame.completed then drawn else drawn.destroyIBLResources
      let constants := frame.announced.map
        (buildPushConstants (r.renderer.prepared c.toRenderCall) c)
      ({ after with renderer }, cpu, ⟨frame, constants, drawn.iblImages, drawn.descriptors⟩)

/-- The arguments of a call with the global vertex buffers it finds. -/
abbrev Request (D F : Type) := Buffers F × IBLCall D F

/-- One call. -/
def call (r : IBLRenderer F) (request : Request D F) : IBLRenderer F :=
  (r.render request.1 request.2).1

/-- Where the push constants of a frame have the IBL bit, the images bound are live and have been
decoded from the call's `iblPath`. -/
def BindingsAgree (r : IBLRenderer F) (request : Request D F) : Prop :=
  let trace := (r.render request.1 request.2).2.2
  ∀ constants, trace.constants = some constants → constants.ibl →
    ∃ images, trace.live = some images ∧ trace.bound = some images ∧
      images.DecodedFrom request.2.iblPath

/-- The condition on a call that draws a frame with IBL: it names a directory, and one of the times
the call reads the disk every file decodes. It reads the disk when everything is recreated, and once
more unless the live images are the ones of the directory already. -/
def ImagesLoad (r : IBLRenderer F) (request : Request D F) : Prop :=
  let c := request.2
  r.renderer.reachesFrame c.toRenderCall → Renderer.pushes request.1 c.toRenderCall →
    c.useIBL = true → c.iblPath ≠ [] ∧
      match r.renderer.preparation c.toRenderCall with
      | .recreateAll => Decodes c.diskAtRecreation c.iblPath ∨ Decodes c.diskAtUpdate c.iblPath
      | .recreatePipelines | .keep =>
        if c.iblPath = r.iblImagePath then r.iblImages ≠ none else Decodes c.diskAtUpdate c.iblPath

end Render

/-! ### What describes the images -/

/-- `iblImagePath` describes some images: they have been decoded from it, or it is empty and they
are the placeholders. -/
def Describes (iblImagePath : ByteString) (images : IBLImages F) : Prop :=
  iblImagePath ≠ [] ∧ images.DecodedFrom iblImagePath ∨
    iblImagePath = [] ∧ images = .placeholders

/-- `iblImagePath` describes the live images. -/
def Described (r : IBLRenderer F) : Prop :=
  ∀ images, r.iblImages = some images → Describes r.iblImagePath images

/-- The live images, described by `iblImagePath`, are in the descriptors. -/
structure Coherent (r : IBLRenderer F) : Prop where
  described : r.Described
  written : ∀ images, r.iblImages = some images → r.descriptors = some images

/-- A new renderer has no images to be described wrongly. -/
theorem coherent_init (device : Device) (initFailed : Bool) :
    (init device initFailed : IBLRenderer F).Coherent where
  described _ h := by cases h
  written _ h := by cases h

/-- Nor has one whose images were destroyed. -/
theorem coherent_destroy (r : IBLRenderer F) : r.destroyIBLResources.Coherent where
  described _ h := by cases h
  written _ h := by cases h

theorem Coherent.release {r : IBLRenderer F} (hr : r.Coherent) : r.release.Coherent := by
  rw [IBLRenderer.release]
  split
  · exact coherent_destroy r
  · exact hr

/-- Placeholders are described as such. -/
theorem described_placeholders (r : IBLRenderer F) : r.createIBLPlaceholders.Described := by
  rintro images ⟨⟩
  exact .inr ⟨rfl, rfl⟩

/-- What was loaded is described by its path. -/
theorem described_loadIBL (r : IBLRenderer F) (disk : Disk F) {iblPath : ByteString}
    (h : iblPath ≠ []) : (r.loadIBL disk iblPath).Described := by
  rw [loadIBL]
  cases hload : initIBL disk iblPath with
  | none => exact described_placeholders r
  | some loaded =>
    rintro images ⟨⟩
    exact .inl ⟨h, disk, hload⟩

/-- Writing the descriptors completes a load. -/
theorem Described.write {r : IBLRenderer F} (hr : r.Described) :
    r.writeIBLDescriptors.Coherent :=
  ⟨hr, fun images h => by
    have himages : r.iblImages = some images := h
    simp [writeIBLDescriptors, himages]⟩

/-- A full recreation describes what it has made. -/
theorem described_recreateIBL (r : IBLRenderer F) (c : IBLCall D F) :
    (r.recreateIBL c).Described := by
  rw [recreateIBL]
  split
  · rename_i h
    exact described_loadIBL _ _ h.2
  · exact described_placeholders _

/-- **The preparation of a frame** keeps images and description together. -/
theorem Coherent.prepareIBL {r : IBLRenderer F} (hr : r.Coherent) (c : IBLCall D F) :
    (r.prepareIBL c).Coherent := by
  rw [IBLRenderer.prepareIBL]
  cases r.renderer.preparation c.toRenderCall with
  | recreateAll => exact (described_recreateIBL r c).write
  | recreatePipelines => exact hr
  | keep => exact hr

/-- So does the way out of a failed frame. -/
theorem Coherent.stopIBL {r : IBLRenderer F} (hr : r.Coherent) (c : IBLCall D F) :
    (r.stopIBL c).Coherent := by
  rw [IBLRenderer.stopIBL]
  cases r.renderer.preparation c.toRenderCall with
  | recreateAll =>
    dsimp only
    split_ifs
    · exact hr.release
    · exact coherent_destroy _
    · exact coherent_destroy _
  | recreatePipelines => exact coherent_destroy r
  | keep => exact coherent_destroy r

/-- So does the update in a frame. -/
theorem Coherent.updateIBL {r : IBLRenderer F} (hr : r.Coherent) (c : IBLCall D F) :
    (r.updateIBL c).Coherent := by
  rw [IBLRenderer.updateIBL]
  split_ifs with hoff
  · exact hr
  · exact hr
  · exact (described_loadIBL _ _ fun h => hoff (.inr h)).write

/-- The renderer beside the images does not matter. -/
theorem Coherent.setRenderer {r : IBLRenderer F} (hr : r.Coherent) (renderer : Renderer F) :
    ({ r with renderer } : IBLRenderer F).Coherent := ⟨hr.described, hr.written⟩

variable [Scalar F] [Rounding D F]

/-- **Every call keeps the images coherent**, whatever fails in it. -/
theorem Coherent.call {r : IBLRenderer F} (hr : r.Coherent) (request : Request D F) :
    (r.call request).Coherent := by
  simp only [IBLRenderer.call, render]
  split_ifs
  · exact hr
  · exact (hr.stopIBL _).setRenderer _
  · exact (coherent_destroy _).setRenderer _
  · exact ((hr.prepareIBL _).updateIBL _).setRenderer _
  · exact (coherent_destroy _).setRenderer _

/-! ### The frame -/

omit [Scalar F] [Rounding D F] in
/-- The IBL bit is a copy of the argument. -/
theorem ibl_buildPushConstants (r : Renderer F) (c : IBLCall D F) (lights : Nat) :
    (buildPushConstants r c lights).ibl = c.useIBL := by
  have hbit : ∀ orthographic useIBL : Bool,
      decide (((if orthographic then 1 else 0) ||| (if srgb then 2 else 0) |||
        (if useIBL then 4 else 0) : UInt32) &&& 4 ≠ 0) = useIBL := by decide
  exact hbit c.orthographic c.useIBL

/-- The images a frame is drawn with. -/
def drawnIBL (r : IBLRenderer F) (c : IBLCall D F) : IBLRenderer F := (r.prepareIBL c).updateIBL c

/-- A frame that reaches its push constants, and no other, is drawn with `drawnIBL`. -/
theorem render_trace (r : IBLRenderer F) (cpu : Buffers F) (c : IBLCall D F) :
    let trace := (r.render cpu c).2.2
    if r.renderer.reachesFrame c.toRenderCall ∧ Renderer.pushes cpu c.toRenderCall then
      (∃ constants, trace.constants = some constants ∧ constants.ibl = c.useIBL) ∧
        trace.live = (r.drawnIBL c).iblImages ∧ trace.bound = (r.drawnIBL c).descriptors
    else trace.constants = none := by
  cases hreach : r.renderer.reachesFrame c.toRenderCall with
  | false =>
    have hblank := (Renderer.render_of_not_reachesFrame hreach cpu).1
    have hnone : (r.renderer.render cpu c.toRenderCall).2.2.announced = none := by
      rw [hblank]
      rfl
    simp only [render, Bool.false_eq_true, false_and, if_false]
    split_ifs <;> simp [hnone]
  | true =>
    have hannounced := Renderer.drawFrame_announced
      ((r.renderer.prepared c.toRenderCall).copyFrameData c.toRenderCall) cpu c.toRenderCall
    have hparts := hreach
    simp only [Renderer.reachesFrame, Bool.and_eq_true, Bool.not_eq_true', bne_iff_ne, ne_eq]
      at hparts
    obtain ⟨⟨hinit, hstops⟩, hibl⟩ := hparts
    simp only [render, Renderer.render_of_reachesFrame hreach, hinit, hstops, hibl, if_false,
      Bool.false_eq_true, hannounced, true_and]
    split_ifs with hpush
    · exact ⟨⟨_, rfl, ibl_buildPushConstants _ _ _⟩, rfl, rfl⟩
    · rfl

omit [Scalar F] [Rounding D F] in
/-- **Loading leaves decoded images** exactly when every file decodes. -/
theorem decodedFrom_loadIBL_iff (r : IBLRenderer F) (disk : Disk F) (iblPath : ByteString) :
    (∃ images, (r.loadIBL disk iblPath).iblImages = some images ∧ images.DecodedFrom iblPath) ↔
      Decodes disk iblPath := by
  rw [← isSome_initIBL_iff, loadIBL]
  cases hload : initIBL disk iblPath with
  | none =>
    refine iff_of_false ?_ (by simp)
    rintro ⟨images, ⟨⟩, hdecoded⟩
    exact not_decodedFrom_placeholders _ hdecoded
  | some images => exact iff_of_true ⟨images, rfl, disk, hload⟩ rfl

omit [Scalar F] [Rounding D F] in
/-- `updateIBL` leaves the images of the call's directory exactly when they are live already or the
disk has them. -/
theorem decodedFrom_updateIBL_iff {r : IBLRenderer F} (hr : r.Described) {c : IBLCall D F}
    (huse : c.useIBL = true) :
    (∃ images, (r.updateIBL c).iblImages = some images ∧ images.DecodedFrom c.iblPath) ↔
      c.iblPath ≠ [] ∧
        if c.iblPath = r.iblImagePath then r.iblImages ≠ none
        else Decodes c.diskAtUpdate c.iblPath := by
  rw [updateIBL]
  by_cases hempty : c.iblPath = []
  · rw [if_pos (.inr hempty)]
    refine iff_of_false ?_ fun h => h.1 hempty
    -- live images are never described by the empty directory and decoded from it
    rintro ⟨images, himages, hdecoded⟩
    rcases hr images himages with ⟨hne, hpath⟩ | ⟨-, rfl⟩
    · exact hne (hpath.unique hdecoded ▸ hempty)
    · exact not_decodedFrom_placeholders _ hdecoded
  · have hon : ¬ (c.useIBL = false ∨ c.iblPath = []) := by simp [huse, hempty]
    rw [if_neg hon]
    simp only [hempty, ne_eq, not_false_eq_true, true_and]
    split_ifs with hpath
    · constructor
      · rintro ⟨images, himages, -⟩
        simp [himages]
      · intro hlive
        obtain ⟨images, himages⟩ := Option.ne_none_iff_exists'.mp hlive
        refine ⟨images, himages, ?_⟩
        rcases hr images himages with ⟨-, hdecoded⟩ | ⟨hnil, -⟩
        · rwa [hpath]
        · exact absurd (hpath.trans hnil) hempty
    · exact decodedFrom_loadIBL_iff _ _ _

omit [Scalar F] [Rounding D F] in
/-- The images of a frame drawn with IBL are the ones of its directory exactly when one of its
reads of the disk succeeds, or the live images are that directory's. -/
theorem decodedFrom_drawnIBL_iff {r : IBLRenderer F} (hr : r.Coherent) {c : IBLCall D F}
    (huse : c.useIBL = true) :
    (∃ images, (r.drawnIBL c).iblImages = some images ∧ images.DecodedFrom c.iblPath) ↔
      c.iblPath ≠ [] ∧
        match r.renderer.preparation c.toRenderCall with
        | .recreateAll => Decodes c.diskAtRecreation c.iblPath ∨ Decodes c.diskAtUpdate c.iblPath
        | .recreatePipelines | .keep =>
          if c.iblPath = r.iblImagePath then r.iblImages ≠ none
          else Decodes c.diskAtUpdate c.iblPath := by
  rw [drawnIBL, decodedFrom_updateIBL_iff (hr.prepareIBL c).described huse, prepareIBL]
  refine and_congr_right fun hne => ?_
  cases r.renderer.preparation c.toRenderCall with
  | recreatePipelines => exact Iff.rfl
  | keep => exact Iff.rfl
  | recreateAll =>
    simp only [writeIBLDescriptors, recreateIBL, huse, hne, ne_eq, not_false_eq_true, and_self,
      if_true, loadIBL]
    rw [← isSome_initIBL_iff c.diskAtRecreation]
    cases initIBL c.diskAtRecreation c.iblPath with
    | none => simp [createIBLPlaceholders, hne]
    | some images => simp

/-- Whether a call's frame reads the images it names, read off the state before the call. -/
theorem bindingsAgree_iff {r : IBLRenderer F} (hr : r.Coherent) (request : Request D F) :
    r.BindingsAgree request ↔ r.ImagesLoad request := by
  obtain ⟨cpu, c⟩ := request
  have htrace := r.render_trace cpu c
  have hwritten := ((hr.prepareIBL c).updateIBL c).written
  simp only at htrace
  split_ifs at htrace with hdrawn
  · obtain ⟨⟨constants, hconstants, hbit⟩, hlive, hbound⟩ := htrace
    simp only [BindingsAgree, hconstants, Option.some.injEq, forall_eq', hbit, hlive, hbound,
      ImagesLoad, hdrawn.1, hdrawn.2, forall_const]
    refine imp_congr_right fun huse => ?_
    rw [← decodedFrom_drawnIBL_iff hr huse]
    refine exists_congr fun images => and_congr_right fun himages => ?_
    exact and_iff_right (hwritten images himages)
  · refine iff_of_true ?_ fun hreach hpush => absurd ⟨hreach, hpush⟩ hdrawn
    intro constants hconstants
    rw [htrace] at hconstants
    cases hconstants

/-- **IBL bindings.** Along a run of `render()` calls, whatever fails in them, every frame with the
IBL bit reads the images of its own directory if and only if every call that draws a frame with IBL
finds that directory's files whole on the disk, or its images already live. -/
theorem bindingsAgree_along_iff (device : Device) (initFailed : Bool)
    (requests : List (Request D F)) :
    Along call BindingsAgree (init device initFailed : IBLRenderer F) requests ↔
      Along call ImagesLoad (init device initFailed) requests := by
  have hstep : ∀ (r : IBLRenderer F) (request : Request D F), r.Coherent →
      r.ImagesLoad request → (r.call request).Coherent := fun _ request hr _ => hr.call request
  exact along_iff_of_invariant (fun _ request hr => bindingsAgree_iff hr request) hstep
    (coherent_init device initFailed) requests

/-- An empty scene with IBL, whose image is in the directory `x` with a file that does not
decode. -/
def truncatedImage : Request ℚ ℚ :=
  (fun _ => ⟨.empty, 0⟩,
    { targetSize := (100, 100), materials := [], lights := [], drawMode := .normal, remesh := true
      blendBig := false, fault := none, bgColor := ⟨1, 1, 1, 1⟩, orthographic := false
      useIBL := true, iblPath := [0x78], diskAtRecreation := fun _ => none
      diskAtUpdate := fun _ => none, setupPastIBL := false })

/-- The frame has the IBL bit and reads the placeholders. -/
theorem not_bindingsAgree_truncatedImage :
    ¬ Along call BindingsAgree (init ⟨false, 4096, 4096, by decide⟩ false : IBLRenderer ℚ)
      [truncatedImage] := by
  intro h
  obtain ⟨images, hlive, -, hdecoded⟩ := h.1 _ rfl rfl
  obtain rfl : IBLImages.placeholders = images := Option.some.inj hlive
  exact not_decodedFrom_placeholders _ hdecoded

end IBLRenderer

end OkularV3d
