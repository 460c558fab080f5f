import OkularV3d.Lib.Runs
import OkularV3d.Manager.ModelImages

/-!
# The worker's loop over the models of a page

`renderV3dModels` serves a pixmap request on a worker thread. It asks whether there are models at
all, takes a snapshot of the bounds of the page's models, and then, for every entry of the snapshot,
calls `CacheRequest` and one of `RenderModel` and `CachedModelImage`. Each of these calls takes the
mutex of the manager and releases it, so the main thread may act between any two of them; the only
things the loop carries over are the snapshot and its own counter.

`Loop.step?` is one step of either thread, without a result when it indexes a vector outside its
size. `indexSafe_along_iff` says when it never does.

* `Loop` is the manager with the worker in the loop; `ThreadStep` is a step of one of the threads.
* `isSome_RenderModel` says when `RenderModel` indexes nothing outside; `CachedModelImage` never
  does.
* `indexSafe_iff` is the step lemma, and `not_indexSafe_closedInTheLoop` a run in which a document
  is closed between the snapshot and the render.
-/

namespace OkularV3d

open Runs

namespace ImageCache

open Jagged

/-- Where the worker is in `renderV3dModels`.

* `checkEmpty`, `snapshot`: before the calls of these names.
* `entry request bounds i cached`: in the loop at entry `i`, with the entries from there on, before
  `CacheRequest` or (`cached`) after it. -/
inductive Worker (F : Type) where
  | idle
  | checkEmpty (request : PixmapRequest)
  | snapshot (request : PixmapRequest)
  | entry (request : PixmapRequest) (bounds : List (Vec2 F × Vec2 F)) (i : Nat) (cached : Bool)

/-- The manager, and the worker that serves its requests: one at a time, under the generator's
`userMutex`.

`cleared` is whether the models were dropped since the worker took its snapshot. It is history:
neither thread reads it. -/
structure Loop (D F S P : Type) where
  manager : Manager D F S P
  worker : Worker F
  cleared : Bool

/-- A step of one of the threads.

* `main a`: the main thread, between two calls of the worker.
* `request request`: the worker begins to serve a request, on a page image that is neither null nor
  monochrome.
* `proceed library now delivered`: the worker's next call, at the time `now`, with these
  environment maps on the disk, and whether the renderer delivers the frame it may ask for.
* `abandon`: an exception ends the loop. -/
inductive ThreadStep (F S : Type) where
  | main (a : Manager.MainAction F S)
  | request (request : PixmapRequest)
  | proceed (library : ByteString → Bool) (now : Int) (delivered : Bool)
  | abandon

/-- Thumbnail requests leave the models out. -/
def Priority.isThumbnail : Priority → Bool
  | .thumbnails | .thumbnailsPreload => true
  | _ => false

/-- Preload requests are served from the cached images. -/
def Priority.isPreload : Priority → Bool
  | .pageViewPreload | .presentationPreload => true
  | _ => false

namespace Loop

variable {D F S P : Type} [Scalar D] [Scalar F] [Rounding D F] [ViewScalar D F]

/-- A manager without a document, and no request. -/
def init (headlessRenderer : Bool) : Loop D F S P := ⟨.init headlessRenderer, .idle, false⟩

/-- The pixels a length takes up: `(int)(size * x)`. -/
def pixels (D : Type) [ViewScalar D F] (size : Int) (x : F) : Int :=
  ViewScalar.truncate D (Scalar.lit size * x)

/-- The call for one entry of the snapshot. -/
def entryCall (D : Type) [ViewScalar D F] (request : PixmapRequest) (bounds : Vec2 F × Vec2 F)
    (i : Nat) (delivered : Bool) : RenderCall :=
  { pageNumber := request.pageNumber
    modelIndex := i
    imageWidth := pixels D request.width bounds.2.x - pixels D request.width bounds.1.x
    imageHeight := pixels D request.height bounds.2.y - pixels D request.height bounds.1.y
    delivered }

/-- The worker's next call, and the loop around it. -/
def proceed (draw : Draw D F S P) (p : Loop D F S P) (library : ByteString → Bool) (now : Int)
    (delivered : Bool) : Option (Loop D F S P) :=
  match p.worker with
  | .idle => some p
  | .checkEmpty request =>
    some { p with worker := if p.manager.Empty then .idle else .snapshot request }
  | .snapshot request =>
    -- A thumbnail's entries make no calls.
    if request.priority.isThumbnail then some { p with worker := .idle }
    else
      some { p with
        worker := .entry request (p.manager.ModelBoundsSnapshot request.pageNumber) 0 false
        cleared := false }
  | .entry _ [] _ _ => some { p with worker := .idle }
  | .entry request (b :: bounds) i false => do
    let manager ← p.manager.CacheRequest request now
    some { p with manager, worker := .entry request (b :: bounds) i true }
  | .entry request (b :: bounds) i true =>
    let call := entryCall D request b i delivered
    let next : Worker F := .entry request bounds (i + 1) false
    if request.priority.isPreload then
      let _ := p.manager.CachedModelImage call.key call.imageWidth call.imageHeight
      some { p with worker := next }
    else do
      let (manager, _) ← p.manager.RenderModel draw library call
      some { p with manager, worker := next }

/-- One step; none when it indexes a vector outside its size. -/
def step? (draw : Draw D F S P) (p : Loop D F S P) : ThreadStep F S → Option (Loop D F S P)
  | .main a => do
    let manager ← p.manager.apply a
    some { p with manager, cleared := p.cleared || a.drops }
  | .request request =>
    match p.worker with
    | .idle => some { p with worker := .checkEmpty request }
    | _ => some p
  | .proceed library now delivered => p.proceed draw library now delivered
  | .abandon => some { p with worker := .idle }

/-- One step. What follows undefined behaviour is not of interest. -/
def step (draw : Draw D F S P) (p : Loop D F S P) (a : ThreadStep F S) : Loop D F S P :=
  (p.step? draw a).getD p

/-- **Every index is within bounds** in this step. -/
def IndexSafe (draw : Draw D F S P) (p : Loop D F S P) (a : ThreadStep F S) : Prop :=
  (p.step? draw a).isSome

/-- The condition on a step of rendering only what is still there: when the loop comes to render an
entry, the models were not dropped since its snapshot, or as many were added to the page again. -/
def RendersWhatIsThere (p : Loop D F S P) : ThreadStep F S → Prop
  | .proceed _ _ delivered =>
    match p.worker with
    | .entry request (b :: _) i true =>
      request.priority.isPreload = false →
        p.manager.turnsAway (entryCall D request b i delivered) = false →
          p.cleared = true → i < width p.manager.models request.pageNumber
    | _ => True
  | _ => True

/-- What holds as long as no index was out of bounds: the models and the images have the same shape,
and what the snapshot shows is there unless the models were dropped. -/
structure Sound (p : Loop D F S P) : Prop where
  shaped : p.manager.Shaped
  shown : ∀ request bounds i cached, p.worker = .entry request bounds i cached →
    p.cleared = false → i + bounds.length ≤ width p.manager.models request.pageNumber

variable {draw : Draw D F S P} {p : Loop D F S P}

omit [Scalar D] [Scalar F] [Rounding D F] [ViewScalar D F] in
theorem sound_init (headlessRenderer : Bool) : (init headlessRenderer : Loop D F S P).Sound where
  shaped _ := rfl
  shown _ _ _ _ h := nomatch h

omit [Scalar D] [Scalar F] [Rounding D F] [ViewScalar D F] in
/-- The snapshot has one entry for every model of the page. -/
theorem length_ModelBoundsSnapshot (m : Manager D F S P) (page : Nat) :
    (m.ModelBoundsSnapshot page).length = width m.models page := by
  unfold Manager.ModelBoundsSnapshot width
  cases m.models[page]? with
  | none => rfl
  | some models => exact List.length_map _

section RenderModel

variable {m : Manager D F S P} {library : ByteString → Bool} {call : RenderCall}

omit [Scalar D] [Rounding D F]

variable (draw library call) in
/-- **`RenderModel` is safe** exactly when it returns before it looks at the model, or the model is
there. -/
theorem isSome_RenderModel (hm : m.Shaped) : (m.RenderModel draw library call).isSome ↔
    (m.turnsAway call = false → call.modelIndex < width m.models call.pageNumber) := by
  cases haway : m.turnsAway call with
  | true =>
    obtain ⟨image, himage⟩ :=
      Manager.RenderModel_of_turnsAway draw library haway
    simp [himage]
  | false =>
    constructor
    · intro h _
      by_contra hlt
      have hnone : index₂ m.models call.key = none := by
        rw [← Option.not_isSome_iff_eq_none]
        exact fun hsome => hlt (isSome_index₂.mp hsome)
      rw [Manager.RenderModel_of_none haway hnone] at h
      exact nomatch h
    · intro h
      have hlt : call.key.2 < width m.models call.key.1 := h rfl
      obtain ⟨model, hmodel⟩ := index₂_of_lt hlt
      obtain ⟨m', hm', -⟩ := Manager.RenderModel_of_some draw library hm haway
        hmodel
      rw [hm']
      rfl

/-- `RenderModel` moves nothing. -/
theorem width_RenderModel (hm : m.Shaped) {m' : Manager D F S P} {image : QImage P}
    (h : m.RenderModel draw library call = some (m', image)) :
    m'.Shaped ∧ ∀ page, width m'.models page = width m.models page := by
  cases haway : m.turnsAway call with
  | true =>
    obtain ⟨image', himage'⟩ :=
      Manager.RenderModel_of_turnsAway draw library haway
    rw [himage', Option.some.injEq, Prod.mk.injEq] at h
    exact h.1 ▸ ⟨hm, fun page => rfl⟩
  | false =>
    cases hmodel : index₂ m.models call.key with
    | none =>
      rw [Manager.RenderModel_of_none haway hmodel] at h
      exact nomatch h
    | some model =>
      obtain ⟨m'', hm'', hredraws⟩ :=
        Manager.RenderModel_of_some draw library hm haway hmodel
      rw [hm'', Option.some.injEq, Prod.mk.injEq] at h
      obtain ⟨rfl, -⟩ := h
      refine ⟨fun page => ?_, hredraws.models_width⟩
      rw [hredraws.models_width, hredraws.modelImages_width, hm page]

end RenderModel

variable (draw) in
/-- **One step.** Under the invariant a step is safe exactly when it meets the condition. -/
theorem indexSafe_iff (hp : p.Sound) (a : ThreadStep F S) :
    p.IndexSafe draw a ↔ p.RendersWhatIsThere a := by
  cases a with
  | main a =>
    obtain ⟨m', hm', -⟩ := Manager.apply_eq hp.shaped a
    refine iff_of_true ?_ trivial
    rw [IndexSafe, step?, hm']
    rfl
  | request request =>
    refine iff_of_true ?_ trivial
    rw [IndexSafe, step?]
    cases p.worker <;> rfl
  | abandon => exact iff_of_true rfl trivial
  | proceed library now delivered =>
    unfold IndexSafe RendersWhatIsThere step? proceed
    cases hworker : p.worker with
    | idle => exact iff_of_true rfl trivial
    | checkEmpty request => exact iff_of_true rfl trivial
    | snapshot request =>
      refine iff_of_true ?_ trivial
      dsimp only
      split_ifs <;> rfl
    | entry request bounds i cached =>
      match bounds, cached with
      | [], _ => exact iff_of_true rfl trivial
      | b :: bounds, false =>
        obtain ⟨m', hm', -⟩ := p.manager.CacheRequest_eq request now
        refine iff_of_true ?_ trivial
        simp [hm']
      | b :: bounds, true =>
        dsimp only
        cases hpreload : request.priority.isPreload with
        | true => simp
        | false =>
          have hsome := isSome_RenderModel draw library (entryCall D request b i delivered)
            hp.shaped
          have hshown := hp.shown request (b :: bounds) i true hworker
          rw [List.length_cons] at hshown
          -- what the loop does with the result decides nothing
          have hbind : ∀ next : Manager D F S P × QImage P → Loop D F S P,
              ((p.manager.RenderModel draw library (entryCall D request b i delivered)).bind
                fun out => some (next out)).isSome ↔ (p.manager.RenderModel draw library
                  (entryCall D request b i delivered)).isSome := by
            intro next
            cases p.manager.RenderModel draw library (entryCall D request b i delivered) <;> simp
          refine (hbind fun out => { p with
            manager := out.1, worker := .entry request bounds (i + 1) false }).trans
              (hsome.trans ?_)
          constructor
          · intro h _ haway _
            exact h haway
          · intro h haway
            cases hcleared : p.cleared with
            | true => exact h rfl haway hcleared
            | false =>
              have := hshown hcleared
              change i < width p.manager.models request.pageNumber
              omega

/-- **One step keeps the invariant**, if it meets the condition. -/
theorem Sound.step (hp : p.Sound) (a : ThreadStep F S) (h : p.RendersWhatIsThere a) :
    (p.step draw a).Sound := by
  obtain ⟨p', hp'⟩ := Option.isSome_iff_exists.mp ((indexSafe_iff draw hp a).mpr h)
  have hstep : p.step draw a = p' := by rw [Loop.step, hp', Option.getD_some]
  rw [hstep]
  cases a with
  | main a =>
    obtain ⟨m', hm', hshaped, -, hgrows⟩ := Manager.apply_eq hp.shaped a
    simp only [step?, hm', Option.bind_eq_bind, Option.bind_some, Option.some.injEq] at hp'
    subst hp'
    refine ⟨hshaped, fun request bounds i cached hworker hcleared => ?_⟩
    obtain ⟨hcleared, hdrops⟩ := Bool.or_eq_false_iff.mp hcleared
    have hshown := hp.shown request bounds i cached hworker hcleared
    have hle := hgrows hdrops request.pageNumber
    dsimp only
    omega
  | request request =>
    simp only [step?] at hp'
    cases hworker : p.worker with
    | idle =>
      rw [hworker, Option.some.injEq] at hp'
      subst hp'
      exact ⟨hp.shaped, fun _ _ _ _ h => nomatch h⟩
    | checkEmpty | snapshot | entry =>
      rw [hworker, Option.some.injEq] at hp'
      exact hp' ▸ hp
  | abandon =>
    simp only [step?, Option.some.injEq] at hp'
    subst hp'
    exact ⟨hp.shaped, fun _ _ _ _ h => nomatch h⟩
  | proceed library now delivered =>
    simp only [step?, proceed] at hp'
    cases hworker : p.worker with
    | idle =>
      rw [hworker, Option.some.injEq] at hp'
      exact hp' ▸ hp
    | checkEmpty request =>
      rw [hworker, Option.some.injEq] at hp'
      subst hp'
      refine ⟨hp.shaped, fun _ _ _ _ h => ?_⟩
      dsimp only at h
      split_ifs at h
    | snapshot request =>
      rw [hworker] at hp'
      dsimp only at hp'
      split_ifs at hp' <;> rw [Option.some.injEq] at hp' <;> subst hp'
      · exact ⟨hp.shaped, fun _ _ _ _ h => nomatch h⟩
      · refine ⟨hp.shaped, fun request' bounds i cached h _ => ?_⟩
        dsimp only at h ⊢
        obtain ⟨rfl, rfl, rfl, -⟩ := Worker.entry.inj h
        rw [length_ModelBoundsSnapshot]
        omega
    | entry request bounds i cached =>
      rw [hworker] at hp'
      -- The loop goes on with fewer entries, over a manager whose rows are at least as long.
      have hnext : ∀ m' : Manager D F S P, m'.Shaped →
          (∀ page, width m'.models page = width p.manager.models page) →
          ∀ bounds' i' cached', i' + bounds'.length = i + bounds.length →
          ({ p with manager := m', worker := .entry request bounds' i' cached' } :
            Loop D F S P).Sound := by
        intro m' hshaped hwidth bounds' i' cached' hlen
        refine ⟨hshaped, fun request'' bounds'' i'' cached'' h hcleared => ?_⟩
        dsimp only at h ⊢
        obtain ⟨rfl, rfl, rfl, -⟩ := Worker.entry.inj h
        rw [hwidth, hlen]
        exact hp.shown request bounds i cached hworker hcleared
      rcases bounds with _ | ⟨b, bounds⟩
      · dsimp only at hp'
        rw [Option.some.injEq] at hp'
        subst hp'
        exact ⟨hp.shaped, fun _ _ _ _ h => nomatch h⟩
      cases cached with
      | false =>
        obtain ⟨m', hm', hsame⟩ := p.manager.CacheRequest_eq request now
        simp only [hm', Option.bind_eq_bind, Option.bind_some, Option.some.injEq] at hp'
        subst hp'
        refine hnext m' (fun page => ?_) (fun page => by rw [hsame.models]) _ _ _ rfl
        rw [hsame.models, hsame.modelImages, hp.shaped page]
      | true =>
        have hlen : i + 1 + bounds.length = i + (b :: bounds).length := by
          rw [List.length_cons]
          omega
        dsimp only at hp'
        split_ifs at hp'
        · rw [Option.some.injEq] at hp'
          subst hp'
          exact hnext p.manager hp.shaped (fun page => rfl) _ _ _ hlen
        · obtain ⟨⟨m', image⟩, hm', hp'⟩ := Option.bind_eq_some_iff.mp hp'
          rw [Option.some.injEq] at hp'
          subst hp'
          obtain ⟨hshaped, hwidth⟩ := width_RenderModel hp.shaped hm'
          exact hnext m' hshaped hwidth _ _ _ hlen

/-- **Indices are safe along every run in which the loop renders what is still there**, and only
along these. -/
theorem indexSafe_along_iff (draw : Draw D F S P) (headlessRenderer : Bool)
    (steps : List (ThreadStep F S)) :
    Along (Loop.step draw) (Loop.IndexSafe draw) (Loop.init headlessRenderer) steps ↔
      Along (Loop.step draw) Loop.RendersWhatIsThere (Loop.init headlessRenderer) steps :=
  along_iff_of_invariant (fun p a (hp : Sound p) => indexSafe_iff draw hp a)
    (fun _ a hp h => hp.step a h) (sound_init headlessRenderer) steps

/-! ### A document is closed in the middle of the loop -/

instance (draw : Draw D F S P) (p : Loop D F S P) (a : ThreadStep F S) :
    Decidable (p.IndexSafe draw a) :=
  inferInstanceAs (Decidable ((p.step? draw a).isSome = true))

/-- A header without an environment map. -/
def someHeader : HeaderInfo ℚ :=
  { imageName := []
    orthographic := true
    minBound := ⟨0, 0, -1⟩
    maxBound := ⟨1, 1, 0⟩
    angleOfView := 0
    initialZoom := 1
    viewportShift := ⟨0, 0⟩
    zoomFactor := 2
    zoomStep := 1 }

/-- One model fills page 0. The worker takes its snapshot for a request; the main thread loads
another document, which has no models; the worker renders the first entry. -/
def closedInTheLoop : List (ThreadStep ℚ Unit) :=
  [.main (.addModel () someHeader ⟨0, 0⟩ ⟨1, 1⟩ 0),
    .request ⟨0, 100, 100, .pageView⟩,
    .proceed (fun _ => false) 1 true,
    .proceed (fun _ => false) 1 true,
    .main .setDocument,
    .proceed (fun _ => false) 1 true,
    .proceed (fun _ => false) 1 true]

/-- **Not every index is within bounds**: `CachedModelImage` checks its indices, `RenderModel` does
not, and the models it was sent for are gone. -/
theorem not_indexSafe_closedInTheLoop :
    ¬ Along (Loop.step fun _ : FrameSource ℚ ℚ Unit => some ()) (Loop.IndexSafe fun _ => some ())
      (Loop.init true) closedInTheLoop := by
  decide +kernel

end Loop

end ImageCache

end OkularV3d
