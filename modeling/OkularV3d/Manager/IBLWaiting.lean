import OkularV3d.Manager.IBLDownload
import OkularV3d.Manager.IBLPrompt

/-!
# Models that wait for an image

`RenderModel` tracks a model whose image is missing (`m_ModelsWithMissingIBL`) and asks for a
prompt; the model is released, and its page refreshed, when the prompt is declined or the download
that follows completes. The tracked models and the declined names belong to each manager, while the
debounce of `scheduleIBLPrompt` is shared by the process and never forgets a name.

`IBLState` puts the managers of `OkularV3d.Manager.IBLPrompt` and the downloads of
`OkularV3d.Manager.IBLDownload` together. `noneForgotten_along` is the condition under which, along
a run, every tracked model still has a prompt or a download of its own manager that will release it.

* `IBLManager` is what a manager keeps about images, and `IBLStep` a step of some party.
* `Awaits` says what a model waits for: an open prompt, one that is posted, or a download.
* `IBLState.Sound` is the invariant; each step has a lemma that it survives.
-/

namespace OkularV3d

open Runs

namespace IBLWaiting

open IBLPrompt IBLDownload

/-- What a `V3dModelManager` has to do with images.

* `models`: the `headerInfo.imageName` of `m_Models[page][model]`.
* `modelsWithMissingIBL`: `m_ModelsWithMissingIBL`.
* `declinedNames`: `m_IBLDeclinedNames`.
* `downloads`: its batches. -/
structure IBLManager where
  models : List (List ByteString)
  modelsWithMissingIBL : List (Nat × Nat)
  declinedNames : List ByteString
  downloads : Downloads
  deriving DecidableEq

namespace IBLManager

/-- A manager as it is constructed. -/
def init : IBLManager := ⟨[], [], [], .init⟩

/-- The normalised image name of `m_Models[page][model]`, if there is such a model. -/
def nameOf (doc : IBLManager) (key : Nat × Nat) : Option ByteString :=
  ((doc.models[key.1]?).bind fun models => models[key.2]?).map normalizeIBLName

/-- `AddModel`, as far as images go. -/
def AddModel (doc : IBLManager) (page : Nat) (imageName : ByteString) : IBLManager :=
  let models := doc.models ++ List.replicate (page + 1 - doc.models.length) []
  { doc with models := models.modify page (· ++ [imageName]) }

/-- `Clear`, as far as images go: the declined names and the downloads stay. -/
def Clear (doc : IBLManager) : IBLManager := { doc with models := [], modelsWithMissingIBL := [] }

/-- A declined prompt for `name`: its models are released. -/
def decline (doc : IBLManager) (name : ByteString) : IBLManager :=
  { doc with
    declinedNames := name :: doc.declinedNames
    modelsWithMissingIBL := doc.modelsWithMissingIBL.filter fun key => doc.nameOf key ≠ some name }

/-- The downloads have taken a step: if it ran `onIBLDownloadComplete`, all models are released. -/
def afterDownloads (doc : IBLManager) (out : Downloads × List Event) : IBLManager :=
  if out.2.any fun e => e matches .complete _ then
    { doc with modelsWithMissingIBL := [], downloads := out.1 }
  else { doc with downloads := out.1 }

end IBLManager

/-- The managers of a process, with what each has to do with images. -/
structure IBLState where
  app : AppState
  docs : ManagerId → IBLManager

/-- How an open prompt is answered: No, or Yes with what is found on the disk. -/
inductive Answer where
  | decline
  | accept (directories reflExists : Bool)
  deriving DecidableEq, Repr

/-- A step of some party.

* `create`, `destroy m`: a manager is constructed or destroyed.
* `addModel m page imageName`, `clear m`: a model is loaded, or all are dropped.
* `render m key found`: `RenderModel` of `m`, where `resolveIBLPath` finds the image or not.
* `dispatch`: the event loop delivers the oldest prompt event.
* `answer answer`: the innermost open prompt is answered.
* `finish m reply outcome`: a reply of `m` finishes. -/
inductive IBLStep where
  | create
  | destroy (m : ManagerId)
  | addModel (m : ManagerId) (page : Nat) (imageName : ByteString)
  | clear (m : ManagerId)
  | render (m : ManagerId) (key : Nat × Nat) (found : Bool)
  | dispatch
  | answer (answer : Answer)
  | finish (m : ManagerId) (reply : Reply) (outcome : ReplyOutcome)
  deriving DecidableEq, Repr

namespace IBLState

/-- The process before any document is open. -/
def init : IBLState := ⟨.init, fun _ => .init⟩

/-- The state with another state of the manager `m`. -/
def setDoc (s : IBLState) (m : ManagerId) (doc : IBLManager) : IBLState :=
  { s with docs := fun m' => if m' = m then doc else s.docs m' }

/-- Whether `RenderModel` tracks a model: its image is missing and not declined. -/
def tracks (s : IBLState) (m : ManagerId) (key : Nat × Nat) (found : Bool) : Option ByteString :=
  (((s.docs m).models[key.1]?).bind fun models => models[key.2]?).filter fun imageName =>
    !imageName.isEmpty && iblNameOK (normalizeIBLName imageName) && !found &&
      !(s.docs m).declinedNames.contains (normalizeIBLName imageName)

/-- `RenderModel`, as far as images go. -/
def RenderModel (s : IBLState) (m : ManagerId) (key : Nat × Nat) (found : Bool) : IBLState :=
  match s.tracks m key found with
  | none => s
  | some imageName =>
    { s with app := s.app.scheduleIBLPrompt m imageName }.setDoc m
      { s.docs m with modelsWithMissingIBL := (s.docs m).modelsWithMissingIBL.insert key }

/-- The rest of `performIBLDownload` of a live manager, once its prompt is answered. -/
def answered (s : IBLState) (e : IBLPromptEvent) : Answer → IBLState
  | .decline => s.setDoc e.poster ((s.docs e.poster).decline (normalizeIBLName e.imageName))
  | .accept directories reflExists =>
    s.setDoc e.poster ((s.docs e.poster).afterDownloads
      ((s.docs e.poster).downloads.performIBLDownload (normalizeIBLName e.imageName) directories
        reflExists))

end IBLState

/-- One step. A manager that does not exist does nothing; what a prompt does once its manager is
destroyed touches no live one. -/
def next (s : IBLState) : IBLStep → IBLState
  | .create => { s with app := s.app.construct }.setDoc s.app.created .init
  | .destroy m => if m ∈ s.app.managers then { s with app := s.app.destruct m } else s
  | .addModel m page imageName =>
    if m ∈ s.app.managers then s.setDoc m ((s.docs m).AddModel page imageName) else s
  | .clear m => if m ∈ s.app.managers then s.setDoc m (s.docs m).Clear else s
  | .render m key found => if m ∈ s.app.managers then s.RenderModel m key found else s
  | .dispatch => { s with app := IBLPrompt.next s.app .dispatch }
  | .answer answer =>
    match s.app.prompts with
    | e :: prompts =>
      let s := { s with app := { s.app with prompts } }
      if e.poster ∈ s.app.managers then s.answered e answer else s
    | [] => s
  | .finish m reply outcome =>
    if m ∈ s.app.managers then
      s.setDoc m ((s.docs m).afterDownloads
        (IBLDownload.step (s.docs m).downloads (.finish reply outcome)))
    else s

/-- The pages a step schedules for a refresh. -/
def refreshes (s : IBLState) : IBLStep → List (ManagerId × Nat)
  | .answer .decline =>
    match s.app.prompts with
    | e :: _ =>
      let doc := s.docs e.poster
      (doc.modelsWithMissingIBL.filter fun key =>
        doc.nameOf key = some (normalizeIBLName e.imageName)).map fun key => (e.poster, key.1)
    | [] => []
  | .finish m reply outcome =>
    let doc := s.docs m
    if (IBLDownload.step doc.downloads (.finish reply outcome)).2.any
        (fun e => e matches .complete _) then
      doc.modelsWithMissingIBL.map fun key => (m, key.1)
    else []
  | _ => []

/-! ### What is awaited -/

/-- The manager `m` still has something coming for an image: a prompt event on its way, an open
prompt, or an outstanding reply of a batch whose counter will reach zero. -/
def Awaits (s : IBLState) (m : ManagerId) (name : ByteString) : Prop :=
  (∃ e ∈ s.app.queue ++ s.app.prompts, e.poster = m ∧ normalizeIBLName e.imageName = name) ∨
    (∃ r ∈ (s.docs m).downloads.replies, r.imageName = name) ∧
      0 < (s.docs m).downloads.pendingDownloadCount ∧
      (s.docs m).downloads.pendingDownloadCount ≤ (s.docs m).downloads.replies.length

instance (s : IBLState) (m : ManagerId) (name : ByteString) : Decidable (Awaits s m name) := by
  unfold Awaits
  infer_instance

/-- **No model is forgotten**: every tracked model of a live manager awaits its image there. -/
def NoneForgotten (s : IBLState) : Prop :=
  ∀ m ∈ s.app.managers, ∀ key ∈ (s.docs m).modelsWithMissingIBL,
    ∃ name, (s.docs m).nameOf key = some name ∧ Awaits s m name

/-- The condition on a step of starting no batch beside another of the same manager. -/
def StartsAlone (s : IBLState) : IBLStep → Prop
  | .answer (.accept directories _) => directories = true → ∀ e ∈ s.app.prompts.head?,
      e.poster ∈ s.app.managers → (s.docs e.poster).downloads.replies = []
  | _ => True

/-- The condition on a step of asking for what is missing. A model is only tracked if its name has
never been asked for in the process, or its manager awaits the image already; and where the
directories cannot be made, no model of the manager waits for that prompt alone. -/
def Asks (s : IBLState) : IBLStep → Prop
  | .render m key found => m ∈ s.app.managers → ∀ imageName ∈ s.tracks m key found,
      imageName ∉ s.app.pendingPrompts ∨ Awaits s m (normalizeIBLName imageName)
  | .answer (.accept false _) => ∀ e ∈ s.app.prompts.head?, e.poster ∈ s.app.managers →
      ∀ key ∈ (s.docs e.poster).modelsWithMissingIBL,
        (s.docs e.poster).nameOf key = some (normalizeIBLName e.imageName) →
          Awaits { s with app := { s.app with prompts := s.app.prompts.tail } } e.poster
            (normalizeIBLName e.imageName)
  | _ => True

/-! ### What keeps a model waiting -/

namespace IBLManager

variable {doc : IBLManager} {key : Nat × Nat} {name : ByteString}

/-- A new model leaves the names of the others alone. -/
theorem nameOf_AddModel (h : doc.nameOf key = some name) (page : Nat) (imageName : ByteString) :
    (doc.AddModel page imageName).nameOf key = some name := by
  obtain ⟨raw, hraw, hname⟩ := Option.map_eq_some_iff.mp h
  obtain ⟨models, hpage, hmodel⟩ := Option.bind_eq_some_iff.mp hraw
  have hlt : key.1 < doc.models.length := (List.getElem?_eq_some_iff.mp hpage).1
  have happend : (doc.models ++ List.replicate (page + 1 - doc.models.length) [])[key.1]? =
      some models := by
    rw [List.getElem?_append_left hlt, hpage]
  refine Option.map_eq_some_iff.mpr ⟨raw, Option.bind_eq_some_iff.mpr ?_, hname⟩
  rw [AddModel]
  dsimp only
  rw [List.getElem?_modify, happend]
  split_ifs
  · refine ⟨models ++ [imageName], rfl, ?_⟩
    rw [List.getElem?_append_left (List.getElem?_eq_some_iff.mp hmodel).1, hmodel]
  · exact ⟨models, rfl, hmodel⟩

/-- A batch that is complete releases every model that waits. -/
theorem afterDownloads_of_complete {out : Downloads × List Event} {rs : List Reply}
    (h : .complete rs ∈ out.2) :
    doc.afterDownloads out = { doc with modelsWithMissingIBL := [], downloads := out.1 } :=
  if_pos (List.any_eq_true.mpr ⟨_, h, rfl⟩)

variable (doc) in
theorem afterDownloads_downloads (out : Downloads × List Event) :
    (doc.afterDownloads out).downloads = out.1 := by
  unfold afterDownloads
  split_ifs <;> rfl

/-- Only an answered prompt or a new model changes the names. -/
theorem afterDownloads_nameOf (out : Downloads × List Event) :
    (doc.afterDownloads out).nameOf key = doc.nameOf key := by
  unfold afterDownloads
  split_ifs <;> rfl

/-- Replies make no model wait. -/
theorem mem_of_mem_afterDownloads {out : Downloads × List Event}
    (h : key ∈ (doc.afterDownloads out).modelsWithMissingIBL) : key ∈ doc.modelsWithMissingIBL := by
  unfold afterDownloads at h
  split_ifs at h
  · exact absurd h List.not_mem_nil
  · exact h

end IBLManager

section Awaits

variable {s s' : IBLState} {m : ManagerId} {name : ByteString}

/-- What is awaited stays so while its events and its downloads do. -/
theorem Awaits.mono (h : Awaits s m name)
    (hevents : ∀ e ∈ s.app.queue ++ s.app.prompts, e.poster = m →
      normalizeIBLName e.imageName = name → e ∈ s'.app.queue ++ s'.app.prompts)
    (hdownloads : (s'.docs m).downloads = (s.docs m).downloads) : Awaits s' m name := by
  rcases h with ⟨e, he, hposter, hname⟩ | h
  · exact .inl ⟨e, hevents e he hposter hname, hposter, hname⟩
  · exact .inr (hdownloads ▸ h)

/-- A single batch for the image is enough. -/
theorem awaits_of_reply (hs : (s.docs m).downloads.Single)
    (h : ∃ r ∈ (s.docs m).downloads.replies, r.imageName = name) : Awaits s m name := by
  refine .inr ⟨h, ?_⟩
  obtain ⟨r, hr, -⟩ := h
  have hpos := List.length_pos_of_mem hr
  have hcounted := hs.counted
  omega

end Awaits

/-! ### The invariant -/

/-- What holds in every state a run reaches. -/
structure IBLState.Sound (s : IBLState) : Prop where
  filters : s.app.filters = s.app.managers
  fresh : ∀ m ∈ s.app.managers, m < s.app.created
  queue : ∀ e ∈ s.app.queue, iblNameOK (normalizeIBLName e.imageName) = true
  single : ∀ m ∈ s.app.managers, (s.docs m).downloads.Single
  none : NoneForgotten s

/-- In the beginning nothing is awaited. -/
theorem IBLState.sound_init : IBLState.init.Sound := by
  constructor <;> simp [IBLState.init, AppState.init, NoneForgotten]

namespace IBLState.Sound

variable {s : IBLState} {m : ManagerId}

@[simp] theorem setDoc_self (s : IBLState) (m : ManagerId) (doc : IBLManager) :
    (s.setDoc m doc).docs m = doc := if_pos rfl

theorem setDoc_of_ne (s : IBLState) {m m' : ManagerId} (h : m' ≠ m) (doc : IBLManager) :
    (s.setDoc m doc).docs m' = s.docs m' := if_neg h

/-- A step of one live manager that leaves the events of the others alone. -/
theorem setDoc (hs : s.Sound) (app : AppState) (hmanagers : app.managers = s.app.managers)
    (hfilters : app.filters = s.app.filters) (hcreated : app.created = s.app.created)
    (hqueue : ∀ e ∈ app.queue, iblNameOK (normalizeIBLName e.imageName) = true)
    (hevents : ∀ e ∈ s.app.queue ++ s.app.prompts, e.poster ≠ m → e ∈ app.queue ++ app.prompts)
    {doc : IBLManager} (hsingle : m ∈ s.app.managers → doc.downloads.Single)
    (hdoc : m ∈ s.app.managers → ∀ key ∈ doc.modelsWithMissingIBL,
      ∃ name, doc.nameOf key = some name ∧ Awaits ({ s with app }.setDoc m doc) m name) :
    ({ s with app }.setDoc m doc).Sound := by
  refine ⟨hfilters.trans (hs.filters.trans hmanagers.symm), ?_, hqueue, ?_, ?_⟩
  · intro m' hm'
    exact (hs.fresh m' (hmanagers ▸ hm')).trans_eq hcreated.symm
  · intro m' hm'
    have hlive : m' ∈ s.app.managers := hmanagers ▸ hm'
    by_cases hm : m' = m
    · subst hm
      rw [setDoc_self]
      exact hsingle hlive
    · rw [setDoc_of_ne _ hm]
      exact hs.single m' hlive
  · intro m' hm' key hkey
    have hlive : m' ∈ s.app.managers := hmanagers ▸ hm'
    by_cases hm : m' = m
    · subst hm
      rw [setDoc_self] at hkey ⊢
      exact hdoc hlive key hkey
    · rw [setDoc_of_ne _ hm] at hkey ⊢
      obtain ⟨name, hname, hawaits⟩ := hs.none m' hlive key hkey
      refine ⟨name, hname, hawaits.mono (fun e he hposter _ => ?_) ?_⟩
      · exact hevents e he fun h => hm (hposter.symm.trans h)
      · rw [setDoc_of_ne _ hm]

/-- A step of the events alone, which leaves those of the live managers on their way. -/
theorem setApp (hs : s.Sound) (app : AppState) (hmanagers : app.managers = s.app.managers)
    (hfilters : app.filters = s.app.filters) (hcreated : app.created = s.app.created)
    (hqueue : ∀ e ∈ app.queue, iblNameOK (normalizeIBLName e.imageName) = true)
    (hevents : ∀ e ∈ s.app.queue ++ s.app.prompts, e.poster ∈ s.app.managers →
      e ∈ app.queue ++ app.prompts) : ({ s with app } : IBLState).Sound := by
  refine ⟨hfilters.trans (hs.filters.trans hmanagers.symm), ?_, hqueue, ?_, ?_⟩
  · intro m hm
    exact (hs.fresh m (hmanagers ▸ hm)).trans_eq hcreated.symm
  · intro m hm
    exact hs.single m (hmanagers ▸ hm)
  · intro m hm key hkey
    have hlive : m ∈ s.app.managers := hmanagers ▸ hm
    obtain ⟨name, hname, hawaits⟩ := hs.none m hlive key hkey
    exact ⟨name, hname, hawaits.mono (fun e he hposter _ => hevents e he (hposter ▸ hlive)) rfl⟩

/-- A new manager has no models. -/
theorem create (hs : s.Sound) : (next s .create).Sound := by
  have hne : ∀ m ∈ s.app.managers, m ≠ s.app.created := fun m hm => (hs.fresh m hm).ne
  refine ⟨?_, ?_, hs.queue, ?_, ?_⟩
  · exact congrArg (s.app.created :: ·) hs.filters
  · intro m hm
    rcases List.mem_cons.mp hm with rfl | hm
    · exact Nat.lt_succ_self _
    · exact (hs.fresh m hm).trans (Nat.lt_succ_self _)
  · intro m hm
    rcases List.mem_cons.mp hm with rfl | hm
    · rw [next, setDoc_self]
      exact Downloads.single_init
    · rw [next, setDoc_of_ne _ (hne m hm)]
      exact hs.single m hm
  · intro m hm key hkey
    rcases List.mem_cons.mp hm with rfl | hm
    · rw [next, setDoc_self] at hkey
      exact absurd hkey List.not_mem_nil
    · rw [next, setDoc_of_ne _ (hne m hm)] at hkey ⊢
      obtain ⟨name, hname, hawaits⟩ := hs.none m hm key hkey
      refine ⟨name, hname, hawaits.mono (fun e he _ _ => he) ?_⟩
      rw [setDoc_of_ne _ (hne m hm)]

/-- A manager that goes takes its models with it. -/
theorem destroy (hs : s.Sound) (m : ManagerId) : (next s (.destroy m)).Sound := by
  unfold next
  dsimp only
  split_ifs
  · refine ⟨by simp [AppState.destruct, hs.filters], ?_, hs.queue, ?_, ?_⟩
    · intro m' hm'
      exact hs.fresh m' (List.mem_of_mem_erase hm')
    · intro m' hm'
      exact hs.single m' (List.mem_of_mem_erase hm')
    · intro m' hm' key hkey
      obtain ⟨name, hname, hawaits⟩ := hs.none m' (List.mem_of_mem_erase hm') key hkey
      exact ⟨name, hname, hawaits.mono (fun e he _ _ => he) rfl⟩
  · exact hs

/-- A model that is added waits, if its image is missing. -/
theorem addModel (hs : s.Sound) (m : ManagerId) (page : Nat) (imageName : ByteString) :
    (next s (.addModel m page imageName)).Sound := by
  unfold next
  dsimp only
  split_ifs with hm
  · refine hs.setDoc s.app rfl rfl rfl hs.queue (fun e he _ => he) (fun _ => hs.single m hm) ?_
    intro _ key hkey
    obtain ⟨name, hname, hawaits⟩ := hs.none m hm key hkey
    refine ⟨name, IBLManager.nameOf_AddModel hname page imageName, ?_⟩
    exact hawaits.mono (fun e he _ _ => he) (by rw [setDoc_self]; rfl)
  · exact hs

/-- A manager that is cleared waits for nothing. -/
theorem clear (hs : s.Sound) (m : ManagerId) : (next s (.clear m)).Sound := by
  unfold next
  dsimp only
  split_ifs with hm
  · exact hs.setDoc s.app rfl rfl rfl hs.queue (fun e he _ => he) (fun _ => hs.single m hm)
      fun _ key hkey => absurd hkey List.not_mem_nil
  · exact hs

/-- An event moves from the queue to the open prompts, as long as some manager is alive. -/
theorem dispatch (hs : s.Sound) : (next s .dispatch).Sound := by
  -- queue ∧ :: nothing is queued; or the first event becomes a prompt; or no manager is left, and
  -- it is dropped
  have hstep : (IBLPrompt.next s.app .dispatch = s.app) ∨ ∃ e queue, s.app.queue = e :: queue ∧
      (IBLPrompt.next s.app .dispatch = { s.app with queue, prompts := e :: s.app.prompts } ∨
        s.app.managers = [] ∧ IBLPrompt.next s.app .dispatch = { s.app with queue }) := by
    unfold IBLPrompt.next IBLPrompt.step
    cases hqueue : s.app.queue with
    | nil => exact .inl (by simp)
    | cons e queue =>
      refine .inr ⟨e, queue, rfl, ?_⟩
      have hok := hs.queue e (hqueue ▸ List.mem_cons_self)
      cases hmanagers : s.app.managers with
      | nil => exact .inr ⟨rfl, by simp [AppState.dispatchTo, hs.filters, hmanagers]⟩
      | cons owner rest =>
        left
        simp [AppState.dispatchTo, hs.filters, hmanagers, AppState.performIBLDownload, hok]
  rcases hstep with hsame | ⟨e, queue, hqueue, hstep⟩
  · rw [next, hsame]
    exact hs
  have hrest : ∀ e' ∈ queue, iblNameOK (normalizeIBLName e'.imageName) = true :=
    fun e' he' => hs.queue e' (hqueue ▸ List.mem_cons_of_mem _ he')
  rw [next]
  rcases hstep with hstep | ⟨hnone, hstep⟩
  · rw [hstep]
    refine hs.setApp _ rfl rfl rfl hrest fun e' he' _ => ?_
    rw [hqueue] at he'
    simp only [List.cons_append, List.mem_cons, List.mem_append] at he' ⊢
    tauto
  · rw [hstep]
    refine hs.setApp _ rfl rfl rfl hrest fun e' _ hlive => ?_
    rw [hnone] at hlive
    exact absurd hlive List.not_mem_nil

/-- What `scheduleIBLPrompt` does for a name that is allowed: nothing if it has been asked for, else
the event is posted. -/
theorem scheduleIBLPrompt_cases (app : AppState) (m : ManagerId) {imageName : ByteString}
    (hok : iblNameOK (normalizeIBLName imageName) = true) :
    (imageName ∈ app.pendingPrompts ∧ app.scheduleIBLPrompt m imageName = app) ∨
      imageName ∉ app.pendingPrompts ∧ app.scheduleIBLPrompt m imageName =
        { app with
          pendingPrompts := imageName :: app.pendingPrompts
          queue := app.queue ++ [⟨m, imageName⟩] } := by
  by_cases hpending : imageName ∈ app.pendingPrompts
  · exact .inl ⟨hpending, by simp [AppState.scheduleIBLPrompt, hok, hpending]⟩
  · exact .inr ⟨hpending, by simp [AppState.scheduleIBLPrompt, hok, hpending]⟩

/-- A model that is tracked has a name, and an allowed one. -/
theorem of_tracks {key : Nat × Nat} {found : Bool} {imageName : ByteString}
    (h : s.tracks m key found = some imageName) :
    (s.docs m).nameOf key = some (normalizeIBLName imageName) ∧
      iblNameOK (normalizeIBLName imageName) = true := by
  obtain ⟨hmodel, hcond⟩ := Option.filter_eq_some_iff.mp h
  refine ⟨by rw [IBLManager.nameOf, hmodel]; rfl, ?_⟩
  simp only [Bool.and_eq_true] at hcond
  exact hcond.1.1.2

/-- `RenderModel` posts an event for what it tracks, or knows of one. -/
theorem render (hs : s.Sound) {m : ManagerId} {key : Nat × Nat} {found : Bool}
    (h : Asks s (.render m key found)) : (next s (.render m key found)).Sound := by
  unfold next
  dsimp only
  split_ifs with hm
  swap
  · exact hs
  unfold IBLState.RenderModel
  cases htracks : s.tracks m key found with
  | none => exact hs
  | some imageName =>
    obtain ⟨hname, hok⟩ := of_tracks htracks
    dsimp only
    rcases scheduleIBLPrompt_cases s.app m hok with ⟨hpending, happ⟩ | ⟨hnew, happ⟩
    · -- the name has been asked for: the manager awaits the image already
      have hawaits := (h hm imageName htracks).resolve_left fun hnot => hnot hpending
      rw [happ]
      refine hs.setDoc s.app rfl rfl rfl hs.queue (fun e he _ => he) (fun _ => hs.single m hm) ?_
      intro _ key' hkey'
      rcases List.mem_insert_iff.mp hkey' with rfl | hkey'
      · exact ⟨_, hname, hawaits.mono (fun e he _ _ => he) (by rw [setDoc_self])⟩
      · obtain ⟨name, hname', hawaits'⟩ := hs.none m hm key' hkey'
        exact ⟨name, hname', hawaits'.mono (fun e he _ _ => he) (by rw [setDoc_self])⟩
    · have hmono : ∀ e ∈ s.app.queue ++ s.app.prompts,
          e ∈ (s.app.queue ++ [⟨m, imageName⟩]) ++ s.app.prompts := by
        intro e he
        simp only [List.mem_append] at he ⊢
        tauto
      rw [happ]
      refine hs.setDoc
        { s.app with
          pendingPrompts := imageName :: s.app.pendingPrompts
          queue := s.app.queue ++ [⟨m, imageName⟩] }
        rfl rfl rfl ?_ (fun e he _ => hmono e he) (fun _ => hs.single m hm) ?_
      · intro e he
        rcases List.mem_append.mp he with he | he
        · exact hs.queue e he
        · rw [List.mem_singleton.mp he]
          exact hok
      · intro _ key' hkey'
        rcases List.mem_insert_iff.mp hkey' with rfl | hkey'
        · refine ⟨_, hname, .inl ⟨⟨m, imageName⟩, ?_, rfl, rfl⟩⟩
          exact List.mem_append_left _ (List.mem_append_right _ (List.mem_singleton_self _))
        · obtain ⟨name, hname', hawaits'⟩ := hs.none m hm key' hkey'
          refine ⟨name, hname', hawaits'.mono (fun e he _ _ => hmono e he) (by rw [setDoc_self])⟩

/-- The state in which an answered prompt is closed. -/
abbrev closed (s : IBLState) (prompts : List IBLPromptEvent) : IBLState :=
  { s with app := { s.app with prompts } }

/-- An awaited image of another name does not wait for the prompt that is closed. -/
theorem awaits_closed {e : IBLPromptEvent} {prompts : List IBLPromptEvent} {name : ByteString}
    (hprompts : s.app.prompts = e :: prompts) (hname : normalizeIBLName e.imageName ≠ name)
    (h : Awaits s m name) : Awaits (closed s prompts) m name := by
  refine h.mono (fun e' he' _ hname' => ?_) rfl
  rw [hprompts] at he'
  have hne : e' ≠ e := fun heq => hname (heq ▸ hname')
  simp only [List.mem_append, List.mem_cons] at he' ⊢
  tauto

/-- An answered prompt: declined, its models are released; accepted, they wait for its batch. -/
theorem answer (hs : s.Sound) {reply : Answer} (hasks : Asks s (.answer reply))
    (halone : StartsAlone s (.answer reply)) : (next s (.answer reply)).Sound := by
  unfold next
  cases hprompts : s.app.prompts with
  | nil => exact hs
  | cons e prompts =>
    -- the events left are those that were there, but for the one answered
    have hothers : ∀ e' ∈ s.app.queue ++ s.app.prompts, e' ≠ e →
        e' ∈ s.app.queue ++ prompts := by
      intro e' he' hne
      rw [hprompts] at he'
      simp only [List.mem_append, List.mem_cons] at he' ⊢
      tauto
    dsimp only
    split_ifs with hlive
    swap
    · -- a prompt of a destroyed manager
      exact hs.setApp { s.app with prompts } rfl rfl rfl hs.queue fun e' he' hlive' =>
        hothers e' he' fun heq => hlive (heq ▸ hlive')
    have hevents : ∀ e' ∈ s.app.queue ++ s.app.prompts, e'.poster ≠ e.poster →
        e' ∈ s.app.queue ++ prompts :=
      fun e' he' hne => hothers e' he' fun heq => hne (congrArg IBLPromptEvent.poster heq)
    -- with at most one batch outstanding, the reply decides for the models of one image only
    have hsingle := hs.single e.poster hlive
    cases reply with
    | decline =>
      refine hs.setDoc { s.app with prompts } rfl rfl rfl hs.queue hevents (fun _ => hsingle)
        fun _ key hkey => ?_
      obtain ⟨hkey, hother⟩ := List.mem_filter.mp hkey
      obtain ⟨name, hname, hawaits⟩ := hs.none e.poster hlive key hkey
      have hne : normalizeIBLName e.imageName ≠ name := by
        rintro rfl
        simp [hname] at hother
      exact ⟨name, hname, (awaits_closed hprompts hne hawaits).mono (fun _ he _ _ => he)
        (by rw [setDoc_self]; rfl)⟩
    | accept directories reflExists =>
      cases directories with
      | false =>
        refine hs.setDoc { s.app with prompts } rfl rfl rfl hs.queue hevents (fun _ => hsingle)
          fun _ key hkey => ?_
        obtain ⟨name, hname, hawaits⟩ := hs.none e.poster hlive key hkey
        have hclosed : Awaits (closed s prompts) e.poster name := by
          by_cases heq : normalizeIBLName e.imageName = name
          · have hawaits := hasks e (by rw [hprompts]; rfl) hlive key hkey (heq ▸ hname)
            rw [hprompts] at hawaits
            exact heq ▸ hawaits
          · exact awaits_closed hprompts heq hawaits
        exact ⟨name, hname, hclosed.mono (fun _ he _ _ => he) (by rw [setDoc_self]; rfl)⟩
      | true =>
        have hreplies : (s.docs e.poster).downloads.replies = [] :=
          halone rfl e (by rw [hprompts]; rfl) hlive
        -- all models of the manager wait for the batch that starts here, which is its only one
        have hbatch := hsingle.performIBLDownload hreplies (normalizeIBLName e.imageName) reflExists
        rw [← IBLManager.afterDownloads_downloads (s.docs e.poster)] at hbatch
        refine hs.setDoc { s.app with prompts } rfl rfl rfl hs.queue hevents (fun _ => hbatch)
          fun _ key hkey => ?_
        obtain ⟨name, hname, hawaits⟩ :=
          hs.none e.poster hlive key (IBLManager.mem_of_mem_afterDownloads hkey)
        refine ⟨name, (IBLManager.afterDownloads_nameOf _).trans hname, ?_⟩
        by_cases heq : normalizeIBLName e.imageName = name
        · -- its own batch has just been started
          refine awaits_of_reply (by rw [setDoc_self]; exact hbatch) ?_
          rw [setDoc_self, IBLManager.afterDownloads_downloads,
            Downloads.Single.performIBLDownload_eq]
          obtain ⟨task, htask⟩ := List.exists_mem_of_ne_nil _ (requests_ne_nil reflExists)
          exact ⟨_, List.mem_append_right _ (List.mem_map_of_mem htask), heq⟩
        · rcases awaits_closed hprompts heq hawaits with hevent | ⟨⟨r, hr, -⟩, -⟩
          · exact .inl hevent
          · rw [hreplies] at hr
            exact absurd hr List.not_mem_nil

/-- A finished reply: the last one releases everything, any other leaves the batch outstanding. -/
theorem finish (hs : s.Sound) (m : ManagerId) (reply : Reply) (outcome : ReplyOutcome) :
    (next s (.finish m reply outcome)).Sound := by
  unfold next
  dsimp only
  split_ifs with hm
  swap
  · exact hs
  have hsingle := hs.single m hm
  have hstep : (IBLDownload.step (s.docs m).downloads (.finish reply outcome)).1.Single :=
    (hsingle.step (a := .finish reply outcome) trivial).1
  rw [← IBLManager.afterDownloads_downloads (s.docs m)] at hstep
  refine hs.setDoc s.app rfl rfl rfl hs.queue (fun e he _ => he)
    (fun _ => hstep) fun _ key hkey => ?_
  obtain ⟨name, hname, hawaits⟩ := hs.none m hm key (IBLManager.mem_of_mem_afterDownloads hkey)
  refine ⟨name, (IBLManager.afterDownloads_nameOf _).trans hname, ?_⟩
  -- an event on its way is not touched; a reply may be the one that has finished
  rcases hawaits with hevent | ⟨⟨r, hr, hrname⟩, -⟩
  · exact .inl hevent
  by_cases hreply : reply ∈ (s.docs m).downloads.replies
  · have hfinish : IBLDownload.step (s.docs m).downloads (.finish reply outcome) =
        (s.docs m).downloads.onIBLDownloadReplyFinished reply outcome := if_pos hreply
    rw [hfinish] at hkey hstep ⊢
    rcases hsingle.complete_or_replies hreply outcome with ⟨rs, hrs⟩ | ⟨hne, hsub⟩
    · rw [IBLManager.afterDownloads_of_complete hrs] at hkey
      exact absurd hkey List.not_mem_nil
    · -- all outstanding replies are for one image
      obtain ⟨imageName, himage⟩ := hsingle.image
      obtain ⟨r', hr'⟩ := List.exists_mem_of_ne_nil _ hne
      refine awaits_of_reply (by rw [setDoc_self]; exact hstep) ?_
      rw [setDoc_self, IBLManager.afterDownloads_downloads]
      exact ⟨r', hr', (himage r' (hsub r' hr')).trans ((himage r hr).symm.trans hrname)⟩
  · have hidle : IBLDownload.step (s.docs m).downloads (.finish reply outcome) =
        ((s.docs m).downloads, []) := if_neg hreply
    refine awaits_of_reply (by rw [setDoc_self]; exact hstep) ⟨r, ?_, hrname⟩
    rw [setDoc_self, IBLManager.afterDownloads_downloads, hidle]
    exact hr

/-- **Step lemma**: a step that asks for what it tracks and starts no batch beside another. -/
theorem next (hs : s.Sound) {a : IBLStep} (hasks : Asks s a) (halone : StartsAlone s a) :
    (IBLWaiting.next s a).Sound := by
  cases a with
  | create => exact hs.create
  | destroy m => exact hs.destroy m
  | addModel m page imageName => exact hs.addModel m page imageName
  | clear m => exact hs.clear m
  | render m key found => exact hs.render hasks
  | dispatch => exact hs.dispatch
  | answer reply => exact hs.answer hasks halone
  | finish m reply outcome => exact hs.finish m reply outcome

/-- A step after which no model is forgotten asks for what it tracks. -/
theorem asks {a : IBLStep} (h : NoneForgotten (IBLWaiting.next s a)) : Asks s a := by
  cases a with
  | render m key found =>
    intro hm imageName htracks
    obtain ⟨hname, hok⟩ := of_tracks htracks
    -- a name that has been asked for is not asked for again, so the model must await it already
    rcases scheduleIBLPrompt_cases s.app m hok with ⟨-, happ⟩ | ⟨hnew, -⟩
    · right
      have hrender : IBLWaiting.next s (.render m key found) = s.setDoc m
          { s.docs m with
            modelsWithMissingIBL := (s.docs m).modelsWithMissingIBL.insert key } := by
        simp only [IBLWaiting.next, if_pos hm, IBLState.RenderModel,
          show s.tracks m key found = some imageName from htracks, happ]
      rw [hrender] at h
      obtain ⟨name, hname', hawaits⟩ := h m hm key (by
        rw [setDoc_self]
        exact List.mem_insert_self)
      rw [setDoc_self] at hname'
      obtain rfl : normalizeIBLName imageName = name :=
        Option.some.inj (hname.symm.trans hname')
      exact hawaits.mono (fun e he _ _ => he) (by rw [setDoc_self])
    · exact .inl hnew
  | answer reply =>
    cases reply with
    | decline => trivial
    | accept directories reflExists =>
      cases directories with
      | true => trivial
      | false =>
        intro e he hlive key hkey hname
        obtain ⟨prompts, hprompts⟩ := List.head?_eq_some_iff.mp he
        have hanswer : IBLWaiting.next s (.answer (.accept false reflExists)) =
            (closed s prompts).setDoc e.poster (s.docs e.poster) := by
          simp only [IBLWaiting.next, hprompts, if_pos hlive]
          rfl
        rw [hanswer] at h
        obtain ⟨name, hname', hawaits⟩ := h e.poster hlive key (by
          rw [setDoc_self]
          exact hkey)
        rw [setDoc_self] at hname'
        obtain rfl : normalizeIBLName e.imageName = name :=
          Option.some.inj (hname.symm.trans hname')
        rw [hprompts]
        exact hawaits.mono (fun _ he _ _ => he) (by rw [setDoc_self])
  | _ => trivial

end IBLState.Sound

/-! ### Runs -/

/-- A step releases a tracked model of `m`: it is no longer tracked, and its page is refreshed. -/
def Releases (s : IBLState) (a : IBLStep) (m : ManagerId) (key : Nat × Nat) : Prop :=
  key ∉ ((next s a).docs m).modelsWithMissingIBL ∧ (m, key.1) ∈ refreshes s a

/-- A declined prompt releases the models of its manager that wait for its image. -/
theorem releases_decline {s : IBLState} {e : IBLPromptEvent} (he : e ∈ s.app.prompts.head?)
    (hlive : e.poster ∈ s.app.managers) {key : Nat × Nat}
    (hkey : key ∈ (s.docs e.poster).modelsWithMissingIBL)
    (hname : (s.docs e.poster).nameOf key = some (normalizeIBLName e.imageName)) :
    Releases s (.answer .decline) e.poster key := by
  obtain ⟨prompts, hprompts⟩ := List.head?_eq_some_iff.mp he
  constructor
  · have hdecline : next s (.answer .decline) =
        ({ s with app := { s.app with prompts } } : IBLState).answered e .decline := by
      simp only [next, hprompts, if_pos hlive]
    rw [hdecline, IBLState.answered, IBLState.Sound.setDoc_self, IBLManager.decline]
    intro hmem
    have hother := (List.mem_filter.mp hmem).2
    simp [hname] at hother
  · simp only [refreshes, hprompts, List.mem_map, List.mem_filter, decide_eq_true_eq]
    exact ⟨key, ⟨hkey, hname⟩, rfl⟩

/-- The last reply that is counted releases all models of its manager. -/
theorem releases_finish {s : IBLState} {m : ManagerId} (hlive : m ∈ s.app.managers) {reply : Reply}
    (hreply : reply ∈ (s.docs m).downloads.replies)
    (hlast : (s.docs m).downloads.pendingDownloadCount = 1) (outcome : ReplyOutcome)
    {key : Nat × Nat} (hkey : key ∈ (s.docs m).modelsWithMissingIBL) :
    Releases s (.finish m reply outcome) m key := by
  have hcomplete : ∃ rs,
      .complete rs ∈ (IBLDownload.step (s.docs m).downloads (.finish reply outcome)).2 := by
    have hcount : ∃ rs, .complete rs ∈ ((s.docs m).downloads.countDown reply).2 := by
      unfold Downloads.countDown
      dsimp only
      rw [if_pos (by omega)]
      exact ⟨_, List.mem_cons_self⟩
    rw [IBLDownload.step, if_pos hreply]
    cases outcome with
    | networkError | html => exact hcount
    | body empty written =>
      obtain ⟨rs, hrs⟩ := hcount
      refine ⟨rs, ?_⟩
      simp only [Downloads.onIBLDownloadReplyFinished]
      split_ifs
      · exact List.mem_cons_of_mem _ hrs
      · exact hrs
  obtain ⟨rs, hrs⟩ := hcomplete
  constructor
  · rw [next, if_pos hlive, IBLState.Sound.setDoc_self, IBLManager.afterDownloads_of_complete hrs]
    exact List.not_mem_nil
  · rw [refreshes, if_pos (List.any_eq_true.mpr ⟨_, hrs, rfl⟩)]
    exact List.mem_map_of_mem hkey

/-- **No model waits forever.** In a run that tracks a model only where its image is asked for or
awaited already, whose directories can be made where a model waits for them, and that starts no
batch beside another of the same manager, every tracked model of a live manager awaits its image
after every step. The first two conditions are necessary in every run. What is awaited ends in a
step that releases the model. -/
theorem noneForgotten_along (as : List IBLStep) :
    (Along next (fun s a => Asks s a ∧ StartsAlone s a) .init as →
        Along next (fun s a => NoneForgotten (next s a)) .init as) ∧
      (Along next (fun s a => NoneForgotten (next s a)) .init as → Along next Asks .init as) ∧
      (∀ s, ∀ e ∈ s.app.prompts.head?, e.poster ∈ s.app.managers →
        ∀ key ∈ (s.docs e.poster).modelsWithMissingIBL,
          (s.docs e.poster).nameOf key = some (normalizeIBLName e.imageName) →
            Releases s (.answer .decline) e.poster key) ∧
      ∀ s, ∀ m ∈ s.app.managers, ∀ reply ∈ (s.docs m).downloads.replies, ∀ outcome,
        (s.docs m).downloads.pendingDownloadCount = 1 →
          ∀ key ∈ (s.docs m).modelsWithMissingIBL, Releases s (.finish m reply outcome) m key := by
  refine ⟨fun hok => ?_, Along.mono fun _ _ => IBLState.Sound.asks, ?_, ?_⟩
  · exact hok.of_invariant (fun _ _ hs ha => hs.next ha.1 ha.2)
      (fun _ _ hs ha => (hs.next ha.1 ha.2).none) IBLState.sound_init
  · exact fun s e he hlive key hkey hname => releases_decline he hlive hkey hname
  · exact fun s m hm reply hreply outcome hlast key hkey =>
      releases_finish hm hreply hlast outcome hkey

/-- A document with one model, whose image `a` is missing; its prompt is answered. -/
def oneDocument (answer : Answer) : List IBLStep :=
  [.create, .addModel 0 0 [0x61], .render 0 (0, 0) false, .dispatch, .answer answer]

/-- The server cannot be reached; when the download has failed the page is rendered again. -/
def failedDownload : List IBLStep :=
  oneDocument (.accept true true) ++
    (requests true).map (fun task => .finish 0 ⟨0, [0x61], task⟩ .networkError) ++
    [.render 0 (0, 0) false]

instance (s : IBLState) : Decidable (NoneForgotten s) :=
  have : ∀ doc : IBLManager, ∀ key, ∀ m,
      Decidable (∃ name, doc.nameOf key = some name ∧ Awaits s m name) := fun doc key m =>
    match h : doc.nameOf key with
    | some name => decidable_of_iff (Awaits s m name) (by simp)
    | none => isFalse (by simp)
  inferInstanceAs (Decidable (∀ m ∈ s.app.managers, ∀ key ∈ (s.docs m).modelsWithMissingIBL,
    ∃ name, (s.docs m).nameOf key = some name ∧ Awaits s m name))

/-- The model is tracked once more, but its name has been asked for. -/
theorem not_noneForgotten_failedDownload :
    ¬ Along next (fun s a => NoneForgotten (next s a)) .init failedDownload := by
  decide +kernel

/-- A second document that wants the declined image is never asked about it. -/
example : ¬ Along next (fun s a => NoneForgotten (next s a)) .init
    (oneDocument .decline ++ [.create, .addModel 1 0 [0x61], .render 1 (0, 0) false]) := by
  decide +kernel

/-- The directories cannot be made. -/
example : ¬ Along next (fun s a => NoneForgotten (next s a)) .init
    (oneDocument (.accept false true)) := by
  decide +kernel

end IBLWaiting

end OkularV3d
