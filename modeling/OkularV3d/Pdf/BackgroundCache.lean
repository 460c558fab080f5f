import OkularV3d.Lib.Memo
import OkularV3d.Lib.Runs
import OkularV3d.Manager.IBLName

/-!
# The page background cache of the PDF generator

While a model is dragged, Okular asks for the whole page pixmap again on every frame.
`PDFGenerator::image` then reuses Poppler's static page image (`m_BackgroundCache`, keyed by
page, size and rotation) and paints the model over a copy of it.

Poppler itself is a parameter (`Poppler`): its page image is a function of the document state,
the page, the size and the rotation. `Generator` is the part of the generator's state these
functions read and write, `step` one operation on it. The result `background_current` gives the
condition under which every background served from the cache is what Poppler would draw now,
and shows that an operation that breaks the condition leaves a stale background to be served.

* `Generator.image` is the whole of `PDFGenerator::image`: a suppressed request, a cached
  background, or a page drawn by Poppler, and what each of them stores.
* `Operation` has what else happens: a document is loaded or closed, or a `DocOperation` changes the
  open one (`reparseDoc`, `opaqueAction`, `printRasterized`, or an edit of its annotations).
* `Harmless` is the condition on an operation, read at the cached keys of the state before it.
* `Generator.Coherent` is what harmless operations keep, and `exists_stale_of_coherent` the request
  that an operation of another kind leaves to be served wrongly.
-/

namespace OkularV3d

open Runs

namespace Pdf

/-- `PDFGenerator::BackgroundKey`. -/
structure BackgroundKey where
  page : Nat
  width : Int
  height : Int
  rotation : Nat
  deriving DecidableEq, Repr

/-- `Poppler::Document::RenderHint`, the hints the generator sets. -/
inductive RenderHint where
  | antialiasing
  | textAntialiasing
  | textHinting
  | overprintPreview
  | thinLineSolid
  | thinLineShape
  | hideAnnotations
  deriving DecidableEq, Repr

/-- The rectangle of a tile request, in pixels of the whole page. -/
structure TileRect where
  x : Int
  y : Int
  width : Int
  height : Int
  deriving DecidableEq, Repr

/-- The Poppler and Qt calls of the generator. `Doc` is the state of an open document (its
annotations, form fields, optional content, render hints and paper colour); which pages exist
depends only on the file it was loaded from. `none` is a null `QImage`. -/
structure Poppler where
  File : Type
  Doc : Type
  Color : Type
  OCGLink : Type
  ResetFormsLink : Type
  Edit : Type
  Image : Type
  decEqColor : DecidableEq Color
  load : File → Option Doc
  isLocked : Doc → Bool
  unlock : ByteString → Doc → Doc
  numPages : Doc → Int
  hasVisibleOverprint : Doc → Bool
  pageExists : File → Nat → Bool
  renderToImage : File → Doc → BackgroundKey → Option Image
  renderTile : File → Doc → BackgroundKey → TileRect → Option Image
  paperColor : Doc → Color
  setPaperColor : Color → Doc → Doc
  testRenderHint : RenderHint → Doc → Bool
  setRenderHint : RenderHint → Bool → Doc → Doc
  applyLink : OCGLink → Doc → Doc
  applyResetFormsLink : ResetFormsLink → Doc → Doc
  /-- An annotation added, changed or removed, a form field filled, a layer toggled. -/
  applyEdit : Edit → Doc → Doc
  whiteImage : Int → Int → Image
  imageSize : Image → Int × Int
  scaled : Image → Int → Int → Option Image

attribute [instance] Poppler.decEqColor

variable (P : Poppler)

/-- `PAGEVIEW_PRIO` of `gui/priorities.h`. -/
def PAGEVIEW_PRIO : Nat := 1

/-- `PRESENTATION_PRELOAD_PRIO` of `gui/priorities.h`. -/
def PRESENTATION_PRELOAD_PRIO : Nat := 3

/-- `PAGEVIEW_PRELOAD_PRIO` of `gui/priorities.h`. -/
def PAGEVIEW_PRELOAD_PRIO : Nat := 4

/-- An `Okular::PixmapRequest` with what the generator meets while it serves it.

* `tile`: the tile's rectangle, for a tile request.
* `managerEmpty`, `suppressPageView`: `modelManager.Empty()` and
  `modelManager.ShouldSuppressPageViewRender()` at that moment.
* `abortedBefore`, `abortedAfter`: `shouldAbortRender()` after the lock and after the page was
  drawn; a request once aborted stays aborted, so without `abortedAfter` Poppler finished.
* `partialImage`: what Poppler returned if it was interrupted.
* `renderV3dModels`: the effect of painting the models on the image, and whether it got to its
  end without an exception. -/
structure PixmapRequest where
  page : Nat
  width : Int
  height : Int
  rotation : Nat
  priority : Nat
  tile : Option TileRect
  managerEmpty : Bool
  suppressPageView : Bool
  abortedBefore : Bool
  abortedAfter : Bool
  partialImage : Option P.Image
  renderV3dModels : Option P.Image → Option P.Image × Bool

variable {P}

/-- The key a request looks up. -/
def PixmapRequest.bgKey (r : PixmapRequest P) : BackgroundKey :=
  ⟨r.page, r.width, r.height, r.rotation⟩

/-- `isPreloadRequest` of `PDFGenerator::image`. -/
def PixmapRequest.isPreload (r : PixmapRequest P) : Bool :=
  r.priority == PAGEVIEW_PRELOAD_PRIO || r.priority == PRESENTATION_PRELOAD_PRIO

variable (P)

/-- `PDFGenerator::LastPageImage`; `page = -1` before the first page was served. -/
structure LastPageImage where
  page : Int
  width : Int
  height : Int
  image : Option P.Image

/-- The fields of `PDFGenerator` that the page image depends on. `pdfdoc` is the open document
with the file it came from. -/
structure Generator where
  pdfdoc : Option (P.File × P.Doc)
  hasVisibleOverprint : Bool
  backgroundCache : AList fun _ : BackgroundKey => Option P.Image
  lastPageImage : LastPageImage P

/-- What `PDFGenerator::image` returns, and the background it took from the cache, if any. -/
structure Served where
  image : Option P.Image
  cached : Option P.Image

/-- A generator before any document is loaded. -/
def Generator.init : Generator P :=
  { pdfdoc := none
    hasVisibleOverprint := false
    backgroundCache := ∅
    lastPageImage := ⟨-1, 0, 0, none⟩ }

variable {P}

/-! ### Serving a page -/

/-- The non-null background stored under a key. -/
def Generator.cachedBackground (g : Generator P) (key : BackgroundKey) : Option P.Image :=
  (g.backgroundCache.lookup key).join

/-- The early return of `PDFGenerator::image` while the user drives the presentation window:
the last page image, or for a preload the cached background itself. -/
def Generator.serveSuppressed (g : Generator P) (r : PixmapRequest P) : Option (Served P) :=
  if r.tile.isNone && (r.priority == PAGEVIEW_PRIO || r.isPreload) && r.suppressPageView then
    match g.lastPageImage.page == r.page, g.lastPageImage.image with
    | true, some cached =>
      if P.imageSize cached ≠ (r.width, r.height) then
        some ⟨P.scaled cached r.width r.height, none⟩
      else some ⟨some cached, none⟩
    | _, _ =>
      if r.isPreload then
        (g.cachedBackground r.bgKey).map fun cached => ⟨some cached, some cached⟩
      else none
  else none

/-- What the early return takes from the cache is the background stored under the key. -/
theorem Generator.serveSuppressed_cached {g : Generator P} {r : PixmapRequest P}
    {served : Served P} {img : P.Image} (h : g.serveSuppressed r = some served)
    (himg : img ∈ served.cached) : g.cachedBackground r.bgKey = some img := by
  unfold Generator.serveSuppressed at h
  split at h
  case isFalse => simp at h
  split at h
  case h_1 => split at h <;> cases h <;> simp at himg
  case h_2 =>
    split at h
    case isFalse => simp at h
    obtain ⟨cached, hcached, rfl⟩ := Option.map_eq_some_iff.mp h
    rw [hcached]
    exact himg

/-- The cached background the main path of `PDFGenerator::image` starts from (`bgHit`). -/
def Generator.bgHit (g : Generator P) (r : PixmapRequest P) : Option P.Image :=
  if r.tile.isNone then g.cachedBackground r.bgKey else none

/-- Poppler's image for a request, interrupted or not. -/
def popplerRender (file : P.File) (doc : P.Doc) (r : PixmapRequest P) : Option P.Image :=
  if r.abortedAfter then r.partialImage
  else
    match r.tile with
    | some rect => P.renderTile file doc r.bgKey rect
    | none => P.renderToImage file doc r.bgKey

/-- The image before the models are painted. -/
def Generator.background (g : Generator P) (file : P.File) (doc : P.Doc) (r : PixmapRequest P) :
    Option P.Image :=
  if P.pageExists file r.page then
    match g.bgHit r with
    | some cached => some cached
    | none => popplerRender file doc r
  else some (P.whiteImage r.width r.height)

/-- The cache after the request: a fresh whole-page background is stored, bounded to eight
entries by clearing all of them. -/
def Generator.storeBackground (g : Generator P) (file : P.File) (r : PixmapRequest P)
    (img : Option P.Image) : AList fun _ : BackgroundKey => Option P.Image :=
  if r.tile.isNone && P.pageExists file r.page && img.isSome && (g.bgHit r).isNone &&
      !r.abortedAfter then
    (if 8 ≤ g.backgroundCache.entries.length then ∅ else g.backgroundCache).insert r.bgKey img
  else g.backgroundCache

/-- The main path of `PDFGenerator::image`, under the lock. -/
def Generator.renderPage (g : Generator P) (file : P.File) (doc : P.Doc) (r : PixmapRequest P) :
    Generator P × Served P :=
  if r.abortedBefore then (g, ⟨none, none⟩)
  else
    let img := g.background file doc r
    let (composite, finished) := r.renderV3dModels img
    ({ g with
        backgroundCache := g.storeBackground file r img
        lastPageImage :=
          if finished && r.tile.isNone && composite.isSome then
            ⟨r.page, r.width, r.height, composite⟩
          else g.lastPageImage },
      ⟨composite, if P.pageExists file r.page then g.bgHit r else none⟩)

theorem Generator.renderPage_of_not_aborted (g : Generator P) (file : P.File) (doc : P.Doc)
    {r : PixmapRequest P} (h : r.abortedBefore = false) :
    (g.renderPage file doc r).1.pdfdoc = g.pdfdoc ∧
      (g.renderPage file doc r).1.backgroundCache =
        g.storeBackground file r (g.background file doc r) ∧
      (g.renderPage file doc r).2.cached =
        if P.pageExists file r.page then g.bgHit r else none := by
  simp only [Generator.renderPage, h, Bool.false_eq_true, if_false]
  exact ⟨trivial, trivial, trivial⟩

/-- `PDFGenerator::image`. Okular asks for pages of an open document only. -/
def Generator.image (g : Generator P) (r : PixmapRequest P) : Generator P × Served P :=
  match g.pdfdoc with
  | none => (g, ⟨none, none⟩)
  | some (file, doc) =>
    if r.tile.isNone && r.priority == PRESENTATION_PRELOAD_PRIO && !r.managerEmpty then
      (g, ⟨none, none⟩)
    else
      match g.serveSuppressed r with
      | some served => (g, served)
      | none => g.renderPage file doc r

/-! ### Operations on the document -/

/-- `PDFSettings::EnumEnhanceThinLines`. -/
inductive EnhanceThinLines where
  | no
  | solid
  | shape
  deriving DecidableEq, Repr

/-- `PDFSettings::EnumOverprintPreviewEnabled`. -/
inductive OverprintPreviewEnabled where
  | never
  | always
  | automatic
  deriving DecidableEq, Repr

variable (P)

/-- The settings `reparseConfig` reads: document metadata and `PDFSettings`. -/
structure Config where
  paperColor : P.Color
  graphicsAntialias : Bool
  textAntialias : Bool
  textHinting : Bool
  enhanceThinLines : EnhanceThinLines
  overprintPreviewEnabled : OverprintPreviewEnabled

variable {P}

/-- Whether overprint preview is on, for a document with or without visible overprint. -/
def enableOverprintPreview (setting : OverprintPreviewEnabled) (hasVisibleOverprint : Bool) :
    Bool :=
  setting = .always || setting = .automatic && hasVisibleOverprint

/-- The hints `setDocumentRenderHints` wants, in the order it compares them. -/
def Config.renderHints (config : Config P) (hasVisibleOverprint : Bool) :
    List (RenderHint × Bool) :=
  [(.antialiasing, config.graphicsAntialias),
    (.textAntialiasing, config.textAntialias),
    (.textHinting, config.textHinting),
    (.overprintPreview, enableOverprintPreview config.overprintPreviewEnabled hasVisibleOverprint),
    (.thinLineSolid, config.enhanceThinLines = .solid),
    (.thinLineShape, config.enhanceThinLines = .shape)]

/-- `PDFGenerator::setDocumentRenderHints`: each hint that differs from the document's old hints
is set. -/
def setDocumentRenderHints (config : Config P) (hasVisibleOverprint : Bool) (oldDoc : P.Doc) :
    P.Doc :=
  (config.renderHints hasVisibleOverprint).foldl
    (fun doc (hint, newhint) =>
      if newhint ≠ P.testRenderHint hint oldDoc then P.setRenderHint hint newhint doc else doc)
    oldDoc

/-- `PDFGenerator::reparseConfig` on an open document. -/
def reparseDoc (config : Config P) (hasVisibleOverprint : Bool) (doc : P.Doc) : P.Doc :=
  let doc :=
    if config.paperColor ≠ P.paperColor doc then P.setPaperColor config.paperColor doc else doc
  setDocumentRenderHints config hasVisibleOverprint doc

/-- `Okular::BackendOpaqueAction`, by its Poppler link. -/
inductive OpaqueAction (P : Poppler) where
  | ocgState (link : P.OCGLink)
  | resetForm (link : P.ResetFormsLink)
  | other

/-- `PDFGenerator::opaqueAction`. -/
def opaqueAction (action : OpaqueAction P) (doc : P.Doc) : P.Doc :=
  match action with
  | .ocgState link => P.applyLink link doc
  | .resetForm link => P.applyResetFormsLink link doc
  | .other => doc

/-- `PDFGenerator::print` of rasterized pages: it sets two hints and does not set them back. -/
def printRasterized (printAnnots : Bool) (config : Config P) (hasVisibleOverprint : Bool)
    (doc : P.Doc) : P.Doc :=
  P.setRenderHint .overprintPreview
    (enableOverprintPreview config.overprintPreviewEnabled hasVisibleOverprint)
    (P.setRenderHint .hideAnnotations (!printAnnots) doc)

/-- `PDFGenerator::init` after `Poppler::Document::load`: the caches are dropped, the document is
unlocked with either encoding of the password, and the settings are applied. -/
def Generator.initDoc (g : Generator P) (file : P.File) (latin1 utf8 : ByteString)
    (config : Config P) : Generator P :=
  match P.load file with
  | none => { g with pdfdoc := none }
  | some doc =>
    let g := { g with backgroundCache := ∅, lastPageImage := ⟨-1, 0, 0, none⟩ }
    let doc := if P.isLocked doc then P.unlock latin1 doc else doc
    let doc := if P.isLocked doc then P.unlock utf8 doc else doc
    if P.isLocked doc then { g with pdfdoc := none }
    else
      let g := { g with hasVisibleOverprint := P.hasVisibleOverprint doc }
      if P.numPages doc < 0 then { g with pdfdoc := none }
      else { g with pdfdoc := some (file, reparseDoc config g.hasVisibleOverprint doc) }

/-- An operation that changes the open document and nothing else of the generator. -/
inductive DocOperation (P : Poppler) where
  | reparseConfig (config : Config P)
  | opaqueAction (action : OpaqueAction P)
  | edit (change : P.Edit)
  | printRasterized (printAnnots : Bool) (config : Config P)

/-- What a document operation makes of the document. -/
def DocOperation.apply (op : DocOperation P) (hasVisibleOverprint : Bool) (doc : P.Doc) : P.Doc :=
  match op with
  | .reparseConfig config => reparseDoc config hasVisibleOverprint doc
  | .opaqueAction action => Pdf.opaqueAction action doc
  | .edit change => P.applyEdit change doc
  | .printRasterized printAnnots config =>
    Pdf.printRasterized printAnnots config hasVisibleOverprint doc

/-- One operation on the generator. -/
inductive Operation (P : Poppler) where
  | image (request : PixmapRequest P)
  | load (file : P.File) (latin1 utf8 : ByteString) (config : Config P)
  | close
  | doc (op : DocOperation P)

/-- A document operation on the generator; without an open document it does nothing. -/
def Generator.applyDoc (g : Generator P) (op : DocOperation P) : Generator P :=
  { g with pdfdoc := g.pdfdoc.map fun (file, doc) => (file, op.apply g.hasVisibleOverprint doc) }

/-- The generator after an operation. -/
def step (g : Generator P) : Operation P → Generator P
  | .image request => (g.image request).1
  | .load file latin1 utf8 config => g.initDoc file latin1 utf8 config
  | .close => { g with pdfdoc := none }
  | .doc op => g.applyDoc op

/-! ### Coherence -/

/-- What Poppler draws for a key at this moment: null where there is no such page. -/
def Generator.popplerImage (g : Generator P) (key : BackgroundKey) : Option P.Image :=
  match g.pdfdoc with
  | some (file, doc) => if P.pageExists file key.page then P.renderToImage file doc key else none
  | none => none

/-- A background the operation takes from the cache is what Poppler would draw for the request
at this moment. -/
def BackgroundCurrent (g : Generator P) : Operation P → Prop
  | .image request =>
    ∀ img ∈ (g.image request).2.cached, g.popplerImage request.bgKey = some img
  | _ => True

/-- The operation does not show at any key stored in the cache: it serves a page, opens or
closes a document, or leaves Poppler's image of every stored key as it is. -/
def Harmless (g : Generator P) : Operation P → Prop
  | .doc op => Memo.AgreeOn g.backgroundCache g.popplerImage (g.applyDoc op).popplerImage
  | _ => True

/-- The invariant of harmless runs: stored backgrounds are not null, and while a document is
open they are what Poppler draws. -/
structure Generator.Coherent (g : Generator P) : Prop where
  stored_isSome : ∀ key img, g.backgroundCache.lookup key = some img → img.isSome
  coherent : g.pdfdoc.isSome → Memo.Coherent g.backgroundCache g.popplerImage

theorem Generator.coherent_init : (Generator.init P).Coherent where
  stored_isSome := by simp [Generator.init, AList.lookup_empty]
  coherent := fun _ => Memo.coherent_empty _

theorem Generator.cachedBackground_eq_some {g : Generator P} {key : BackgroundKey}
    {img : P.Image} :
    g.cachedBackground key = some img ↔ g.backgroundCache.lookup key = some (some img) := by
  rw [Generator.cachedBackground, Option.join_eq_some_iff]

/-- A fresh background that is stored is Poppler's image of the request's key. -/
theorem Generator.background_eq_popplerImage {g : Generator P} {file : P.File} {doc : P.Doc}
    {r : PixmapRequest P} (hdoc : g.pdfdoc = some (file, doc)) (htile : r.tile = none)
    (hpage : P.pageExists file r.page = true) (hhit : g.bgHit r = none)
    (habort : r.abortedAfter = false) :
    g.background file doc r = g.popplerImage r.bgKey := by
  have hkey : r.bgKey.page = r.page := rfl
  simp [Generator.background, Generator.popplerImage, popplerRender, hdoc, htile, hpage, hhit,
    habort, hkey]

namespace Generator.Coherent

variable {g : Generator P}

/-- Storing a background, whether or not the cache overflows, keeps the cache coherent. -/
theorem storeBackground (hg : g.Coherent) {file : P.File} {doc : P.Doc} {r : PixmapRequest P}
    (hdoc : g.pdfdoc = some (file, doc)) :
    let cache := g.storeBackground file r (g.background file doc r)
    (∀ key img, cache.lookup key = some img → img.isSome) ∧
      Memo.Coherent cache g.popplerImage := by
  have hold := hg.coherent (by simp [hdoc])
  unfold Generator.storeBackground
  split_ifs with hstore hfull
  · -- overflow: everything is dropped, then the fresh background is stored
    simp only [Bool.and_eq_true, Bool.not_eq_true', Option.isNone_iff_eq_none] at hstore
    obtain ⟨⟨⟨⟨htile, hpage⟩, hsome⟩, hhit⟩, habort⟩ := hstore
    have himg := Generator.background_eq_popplerImage hdoc htile hpage hhit habort
    refine ⟨fun key img hlookup => ?_, himg ▸ (Memo.coherent_empty _).insert r.bgKey⟩
    rcases Memo.lookup_insert_cases hlookup with ⟨-, rfl⟩ | hlookup
    · exact hsome
    · simp [AList.lookup_empty] at hlookup
  · simp only [Bool.and_eq_true, Bool.not_eq_true', Option.isNone_iff_eq_none] at hstore
    obtain ⟨⟨⟨⟨htile, hpage⟩, hsome⟩, hhit⟩, habort⟩ := hstore
    have himg := Generator.background_eq_popplerImage hdoc htile hpage hhit habort
    refine ⟨fun key img hlookup => ?_, himg ▸ hold.insert r.bgKey⟩
    rcases Memo.lookup_insert_cases hlookup with ⟨-, rfl⟩ | hlookup
    · exact hsome
    · exact hg.stored_isSome key img hlookup
  · exact ⟨hg.stored_isSome, hold⟩

theorem image (hg : g.Coherent) (r : PixmapRequest P) : (g.image r).1.Coherent := by
  unfold Generator.image
  split
  case h_1 => exact hg
  case h_2 file doc hdoc =>
    split_ifs
    · exact hg
    split
    case h_1 => exact hg
    case h_2 =>
      cases habort : r.abortedBefore with
      | true => simpa [Generator.renderPage, habort] using hg
      | false =>
        obtain ⟨hpdf, hcache, -⟩ := g.renderPage_of_not_aborted file doc habort
        obtain ⟨hsome, hcoherent⟩ := hg.storeBackground (r := r) hdoc
        refine ⟨by rwa [hcache], fun _ => ?_⟩
        have hsame : (g.renderPage file doc r).1.popplerImage = g.popplerImage := by
          funext key
          rw [Generator.popplerImage, Generator.popplerImage, hpdf]
        rwa [hcache, hsame]

theorem initDoc (hg : g.Coherent) (file : P.File) (latin1 utf8 : ByteString)
    (config : Config P) : (g.initDoc file latin1 utf8 config).Coherent := by
  unfold Generator.initDoc
  split
  · exact ⟨hg.stored_isSome, by simp⟩
  · have hempty : ∀ key (img : Option P.Image),
        (∅ : AList fun _ : BackgroundKey => Option P.Image).lookup key = some img → img.isSome := by
      simp [AList.lookup_empty]
    simp only
    split_ifs
    · exact ⟨hempty, by simp⟩
    · exact ⟨hempty, by simp⟩
    all_goals exact ⟨hempty, fun _ => Memo.coherent_empty _⟩

theorem applyDoc (hg : g.Coherent) (op : DocOperation P)
    (hop : Memo.AgreeOn g.backgroundCache g.popplerImage (g.applyDoc op).popplerImage) :
    (g.applyDoc op).Coherent where
  stored_isSome := hg.stored_isSome
  coherent := fun hopen =>
    (hg.coherent (by simpa [Generator.applyDoc] using hopen)).agreeOn_iff.mpr hop

/-- **Step lemma**: a harmless operation keeps the cache coherent. -/
theorem step (hg : g.Coherent) (op : Operation P) (hop : Harmless g op) :
    (Pdf.step g op).Coherent := by
  cases op with
  | image request => exact hg.image request
  | load file latin1 utf8 config => exact hg.initDoc file latin1 utf8 config
  | close => exact ⟨hg.stored_isSome, by simp [Pdf.step]⟩
  | doc op => exact hg.applyDoc op hop

/-- From a coherent cache every background served is current. -/
theorem backgroundCurrent (hg : g.Coherent) (op : Operation P) : BackgroundCurrent g op := by
  cases op with
  | load file latin1 utf8 config => trivial
  | close => trivial
  | doc op => trivial
  | image r =>
    intro img himg
    unfold Generator.image at himg
    split at himg
    case h_1 => simp at himg
    case h_2 file doc hdoc =>
      have hcached : ∀ {img}, g.cachedBackground r.bgKey = some img →
          g.popplerImage r.bgKey = some img := fun h =>
        hg.coherent (by simp [hdoc]) _ _ (Generator.cachedBackground_eq_some.mp h)
      split_ifs at himg
      · simp at himg
      split at himg
      case h_1 served hserved => exact hcached (Generator.serveSuppressed_cached hserved himg)
      case h_2 =>
        cases habort : r.abortedBefore with
        | true => simp [Generator.renderPage, habort] at himg
        | false =>
          rw [(g.renderPage_of_not_aborted file doc habort).2.2, Option.mem_def] at himg
          split_ifs at himg
          unfold Generator.bgHit at himg
          split_ifs at himg
          exact hcached himg

end Generator.Coherent

/-! ### The condition is exact -/

/-- The plain request of the page view for a key. -/
def PixmapRequest.ofKey (P : Poppler) (key : BackgroundKey) : PixmapRequest P where
  page := key.page
  width := key.width
  height := key.height
  rotation := key.rotation
  priority := PAGEVIEW_PRIO
  tile := none
  managerEmpty := true
  suppressPageView := false
  abortedBefore := false
  abortedAfter := false
  partialImage := none
  renderV3dModels := fun img => (img, true)

/-- The plain request for a stored key of an existing page is served from the cache. -/
theorem Generator.image_ofKey_cached {g : Generator P} {file : P.File} {doc : P.Doc}
    {key : BackgroundKey} (hdoc : g.pdfdoc = some (file, doc))
    (hpage : P.pageExists file key.page = true) :
    (g.image (.ofKey P key)).2.cached = g.cachedBackground key := by
  have hsupp : g.serveSuppressed (.ofKey P key) = none := by
    simp [Generator.serveSuppressed, PixmapRequest.ofKey]
  have hpage' : P.pageExists file (PixmapRequest.ofKey P key).page = true := hpage
  have hprio : ((PixmapRequest.ofKey P key).priority == PRESENTATION_PRELOAD_PRIO) = false := rfl
  have himage : g.image (.ofKey P key) = g.renderPage file doc (.ofKey P key) := by
    simp only [Generator.image, hdoc, hprio, hsupp, Bool.and_false, Bool.false_and,
      Bool.false_eq_true, if_false]
  rw [himage, (g.renderPage_of_not_aborted file doc rfl).2.2, if_pos hpage']
  rfl

/-- After an operation that shows at a stored key, the plain request for that key is served the
stale background. -/
theorem exists_stale_of_coherent {g : Generator P} (hg : g.Coherent) {op : Operation P}
    (hop : ¬ Harmless g op) : ∃ request, ¬ BackgroundCurrent (step g op) (.image request) := by
  cases op with
  | image request => exact absurd trivial hop
  | load file latin1 utf8 config => exact absurd trivial hop
  | close => exact absurd trivial hop
  | doc op =>
    simp only [Harmless, Memo.AgreeOn, not_forall] at hop
    obtain ⟨key, value, hlookup, hchanged⟩ := hop
    obtain ⟨img, rfl⟩ := Option.isSome_iff_exists.mp (hg.stored_isSome key value hlookup)
    cases hdoc : g.pdfdoc with
    | none => exact absurd (by simp [Generator.popplerImage, Generator.applyDoc, hdoc]) hchanged
    | some fileDoc =>
      obtain ⟨file, doc⟩ := fileDoc
      have himg : g.popplerImage key = some img := hg.coherent (by simp [hdoc]) _ _ hlookup
      have hpage : P.pageExists file key.page = true := by
        by_contra hpage
        simp [Generator.popplerImage, hdoc, hpage] at himg
      have hdoc' : (step g (.doc op)).pdfdoc =
          some (file, op.apply g.hasVisibleOverprint doc) := by
        simp [step, Generator.applyDoc, hdoc]
      refine ⟨.ofKey P key, fun hcurrent => hchanged ?_⟩
      have hserved : img ∈ ((step g (.doc op)).image (.ofKey P key)).2.cached := by
        rw [Generator.image_ofKey_cached hdoc' hpage]
        exact Generator.cachedBackground_eq_some.mpr hlookup
      rw [himg]
      exact hcurrent img hserved

/-- Reloading settings that the document already has is harmless. -/
theorem harmless_reparseConfig {g : Generator P} (config : Config P)
    (hcolor : ∀ file doc, g.pdfdoc = some (file, doc) → config.paperColor = P.paperColor doc)
    (hhints : ∀ file doc, g.pdfdoc = some (file, doc) →
      ∀ hint ∈ config.renderHints g.hasVisibleOverprint, hint.2 = P.testRenderHint hint.1 doc) :
    Harmless g (.doc (.reparseConfig config)) := by
  have hsame : g.applyDoc (.reparseConfig config) = g := by
    cases hdoc : g.pdfdoc with
    | none => rw [Generator.applyDoc, hdoc, Option.map_none, ← hdoc]
    | some fileDoc =>
      obtain ⟨file, doc⟩ := fileDoc
      have hkeep : reparseDoc config g.hasVisibleOverprint doc = doc := by
        unfold reparseDoc setDocumentRenderHints
        simp only [hcolor file doc hdoc, ne_eq, not_true_eq_false, if_false]
        have hfix : ∀ hints : List (RenderHint × Bool),
            (∀ hint ∈ hints, hint.2 = P.testRenderHint hint.1 doc) →
            hints.foldl (fun d hint => if hint.2 ≠ P.testRenderHint hint.1 doc then
              P.setRenderHint hint.1 hint.2 d else d) doc = doc := by
          intro hints hall
          induction hints with
          | nil => rfl
          | cons hint hints ih =>
            rw [List.forall_mem_cons] at hall
            simpa [hall.1] using ih hall.2
        exact hfix _ (hhints file doc hdoc)
      simp only [Generator.applyDoc, hdoc, Option.map_some, DocOperation.apply, hkeep]
      rw [← hdoc]
  intro key value _
  rw [hsame]

/-! ### Runs -/

/-- **Cached backgrounds are current.** In a run whose operations are all harmless, every
background served from the cache is what Poppler would draw at that moment; and after any such
run a harmful operation leaves a request that is served a stale background. -/
theorem background_current (P : Poppler) (ops : List (Operation P)) :
    (Along step Harmless (.init P) ops → Along step BackgroundCurrent (.init P) ops) ∧
      ∀ op, Along step Harmless (.init P) ops → ¬ Harmless (runState step (.init P) ops) op →
        ∃ request, ¬ Along step BackgroundCurrent (.init P) (ops ++ [op, .image request]) := by
  refine ⟨fun hok => ?_, fun op hok hop => ?_⟩
  · exact hok.of_invariant (fun _ op hg hop => hg.step op hop)
      (fun _ op hg _ => hg.backgroundCurrent op) Generator.coherent_init
  · have hg : (runState step (.init P) ops).Coherent :=
      runState_invariant (fun _ op hg hop => hg.step op hop) Generator.coherent_init hok
    obtain ⟨request, hstale⟩ := exists_stale_of_coherent hg hop
    exact ⟨request, fun h => hstale ((along_append _ _ _).mp h).2.2.1⟩

/-- A Poppler whose page image is the paper colour. -/
def paperPoppler : Poppler where
  File := Unit
  Doc := Bool
  Color := Bool
  OCGLink := Empty
  ResetFormsLink := Empty
  Edit := Empty
  Image := Bool
  decEqColor := inferInstance
  load := fun _ => some false
  isLocked := fun _ => false
  unlock := fun _ doc => doc
  numPages := fun _ => 1
  hasVisibleOverprint := fun _ => false
  pageExists := fun _ page => page == 0
  renderToImage := fun _ doc _ => some doc
  renderTile := fun _ doc _ _ => some doc
  paperColor := fun doc => doc
  setPaperColor := fun color _ => color
  testRenderHint := fun _ _ => false
  setRenderHint := fun _ _ doc => doc
  applyLink := fun link _ => link.elim
  applyResetFormsLink := fun link _ => link.elim
  applyEdit := fun change _ => change.elim
  whiteImage := fun _ _ => false
  imageSize := fun _ => (0, 0)
  scaled := fun img _ _ => some img

/-- A configuration with the given paper colour and nothing else enabled. -/
def paperConfig (color : Bool) : Config paperPoppler :=
  ⟨color, false, false, false, .no, .never⟩

/-- A page is shown, the paper colour is changed in the settings, and the page is requested again
at the same size: it comes from the cache in the old colour. -/
theorem background_stale_after_paperColor :
    ¬ Along step BackgroundCurrent (.init paperPoppler)
      [.load () [] [] (paperConfig false), .image (.ofKey _ ⟨0, 100, 100, 0⟩),
        .doc (.reparseConfig (paperConfig true)), .image (.ofKey _ ⟨0, 100, 100, 0⟩)] := by
  rintro ⟨-, -, -, hcurrent, -⟩
  have hstale : some true = some false := hcurrent false rfl
  exact absurd hstale (by decide)

end Pdf

end OkularV3d
