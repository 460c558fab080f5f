import OkularV3d.Manager.IBLWaiting

/-!
# One prompt for an image

`scheduleIBLPrompt` keeps the names it has asked for in one set for the whole process, under the
spelling of the document; a prompt, a decline and the directory of an image go by the normalised
name. `promptsOnce_along` is the condition under which, along a run, no normalised name is prompted
for twice and none after it has been declined: an image is only asked for where no other spelling of
its name has been asked for before.

* `shows` and `declines` read a step's prompt and the name declined by it; `PromptsOnce` is the
  property of a run and `SpelledOnce` the condition on a step.
* `prompting` is the inversion lemma: what a step can do to the prompts on their way.
* `Once` is kept where the condition is met (`Once.next`), `Delivering` in every run
  (`Delivering.next`), so that an offending request does reach the user (`exists_second_prompt`).
* `not_promptsOnce_twoSpellings` is the failing run: two documents use one image, one of them with a
  directory in front of its name.
-/

namespace OkularV3d

open Runs

namespace IBLWaiting

open IBLPrompt

/-- The normalised name of the prompt that a step opens. -/
def shows (s : IBLState) (a : IBLStep) : Option ByteString :=
  if s.app.prompts.length < (next s a).app.prompts.length then
    (next s a).app.prompts.head?.map fun e => normalizeIBLName e.imageName
  else none

/-- The normalised name that a step declines. -/
def declines (s : IBLState) : IBLStep → Option ByteString
  | .answer .decline => s.app.prompts.head?.map fun e => normalizeIBLName e.imageName
  | _ => none

/-- **One prompt for an image**: along a run from the start no name is shown twice, and none that
has been declined is shown afterwards. -/
def PromptsOnce (as : List IBLStep) : Prop :=
  (outputs next shows .init as).Nodup ∧
    ∀ before a after, as = before ++ a :: after →
      ∀ name ∈ declines (runState next .init before) a,
        name ∉ outputs next shows (next (runState next .init before) a) after

/-- The condition on a step: an image is asked for, if it has not been under this spelling, only
where it has not been under another one. -/
def SpelledOnce (s : IBLState) : IBLStep → Prop
  | .render m key found => m ∈ s.app.managers → ∀ imageName ∈ s.tracks m key found,
      imageName ∉ s.app.pendingPrompts →
        ∀ asked ∈ s.app.pendingPrompts, normalizeIBLName asked ≠ normalizeIBLName imageName
  | _ => True

instance : ∀ s a, Decidable (SpelledOnce s a)
  | _, .render .. => by unfold SpelledOnce; infer_instance
  | _, .create | _, .destroy _ | _, .addModel .. | _, .clear _ | _, .dispatch | _, .answer _
  | _, .finish .. => inferInstanceAs (Decidable True)

/-! ### What a step does to the prompts -/

/-- How a step changes what is on its way to the user.

* `rest`: nothing new; at most a prompt is closed.
* `asks`: a name is asked for.
* `drops`: an event is dropped, as no manager is alive.
* `opens`: a prompt is opened. -/
inductive Prompting (s : IBLState) (a : IBLStep) (app : AppState) : Option ByteString → Prop where
  | rest (hqueue : app.queue = s.app.queue) (hpending : app.pendingPrompts = s.app.pendingPrompts)
      (hprompts : app.prompts <:+ s.app.prompts) : Prompting s a app none
  | asks {m : ManagerId} {key : Nat × Nat} {found : Bool} {imageName : ByteString}
      (ha : a = .render m key found) (hlive : m ∈ s.app.managers)
      (htracks : imageName ∈ s.tracks m key found) (hnew : imageName ∉ s.app.pendingPrompts)
      (hqueue : app.queue = s.app.queue ++ [⟨m, imageName⟩])
      (hpending : app.pendingPrompts = imageName :: s.app.pendingPrompts)
      (hprompts : app.prompts = s.app.prompts) : Prompting s a app none
  | drops (e : IBLPromptEvent) (hqueue : s.app.queue = e :: app.queue)
      (hpending : app.pendingPrompts = s.app.pendingPrompts)
      (hprompts : app.prompts = s.app.prompts) : Prompting s a app none
  | opens (e : IBLPromptEvent) (hqueue : s.app.queue = e :: app.queue)
      (hpending : app.pendingPrompts = s.app.pendingPrompts)
      (hprompts : app.prompts = e :: s.app.prompts) :
      Prompting s a app (some (normalizeIBLName e.imageName))

section Step

variable (s : IBLState)

/-- No prompt is opened unless the open prompts grow. -/
theorem shows_eq_none {a : IBLStep}
    (h : (next s a).app.prompts.length ≤ s.app.prompts.length) : shows s a = none :=
  if_neg (Nat.not_lt.mpr h)

theorem prompting_rest {a : IBLStep} (hqueue : (next s a).app.queue = s.app.queue)
    (hpending : (next s a).app.pendingPrompts = s.app.pendingPrompts)
    (hprompts : (next s a).app.prompts <:+ s.app.prompts) :
    Prompting s a (next s a).app (shows s a) := by
  rw [shows_eq_none s hprompts.length_le]
  exact .rest hqueue hpending hprompts

theorem prompting_same {a : IBLStep} (happ : (next s a).app = s.app) :
    Prompting s a (next s a).app (shows s a) := by
  have hsuffix : (next s a).app.prompts <:+ s.app.prompts := happ ▸ List.suffix_rfl
  exact prompting_rest s (by rw [happ]) (by rw [happ]) hsuffix

theorem prompting_dispatch : Prompting s .dispatch (next s .dispatch).app (shows s .dispatch) := by
  have hdrops : ∀ e queue, s.app.queue = e :: queue →
      (next s .dispatch).app = { s.app with queue } →
        Prompting s .dispatch (next s .dispatch).app (shows s .dispatch) := by
    intro e queue hqueue happ
    rw [shows_eq_none s (by rw [happ]), happ]
    exact .drops e hqueue rfl rfl
  cases hqueue : s.app.queue with
  | nil =>
    have happ : (next s .dispatch).app = s.app := by
      simp [next, IBLPrompt.next, IBLPrompt.step, hqueue]
    exact prompting_same s happ
  | cons e queue =>
    have hnext : (next s .dispatch).app = (({ s.app with queue } : AppState).dispatchTo e).1 := by
      simp [next, IBLPrompt.next, IBLPrompt.step, hqueue]
    unfold AppState.dispatchTo at hnext
    dsimp only at hnext
    split at hnext
    case h_2 => exact hdrops e queue hqueue hnext
    case h_1 owner filters hfilters =>
      unfold AppState.performIBLDownload at hnext
      split_ifs at hnext
      · have hshows : shows s .dispatch = some (normalizeIBLName e.imageName) := by
          rw [shows, hnext]
          simp
        rw [hshows, hnext]
        exact .opens e hqueue rfl rfl
      · exact hdrops e queue hqueue hnext
      · exact hdrops e queue hqueue hnext

theorem prompting_render (m : ManagerId) (key : Nat × Nat) (found : Bool) :
    Prompting s (.render m key found) (next s (.render m key found)).app
      (shows s (.render m key found)) := by
  by_cases hlive : m ∈ s.app.managers
  swap
  · exact prompting_same s (by rw [next, if_neg hlive])
  cases htracks : s.tracks m key found with
  | none => exact prompting_same s (by rw [next, if_pos hlive, IBLState.RenderModel, htracks])
  | some imageName =>
    have hnext : (next s (.render m key found)).app = s.app.scheduleIBLPrompt m imageName := by
      rw [next, if_pos hlive, IBLState.RenderModel, htracks]
      rfl
    have hok := (IBLState.Sound.of_tracks htracks).2
    rcases IBLState.Sound.scheduleIBLPrompt_cases s.app m hok with ⟨-, happ⟩ | ⟨hnew, happ⟩
    · exact prompting_same s (hnext.trans happ)
    · rw [shows_eq_none s (by rw [hnext, happ]), hnext, happ]
      exact .asks rfl hlive htracks hnew rfl rfl rfl

/-- **Inversion of a step**, as far as prompts go. -/
theorem prompting (a : IBLStep) : Prompting s a (next s a).app (shows s a) := by
  have hrest : (next s a).app.queue = s.app.queue ∧
      (next s a).app.pendingPrompts = s.app.pendingPrompts ∧
        (next s a).app.prompts <:+ s.app.prompts → Prompting s a (next s a).app (shows s a) :=
    fun ⟨hqueue, hpending, hprompts⟩ => prompting_rest s hqueue hpending hprompts
  cases a with
  | create => exact hrest ⟨rfl, rfl, List.suffix_rfl⟩
  | destroy m | addModel m page imageName | clear m | finish m reply outcome =>
    refine hrest ?_
    unfold next
    dsimp only
    split_ifs
    · exact ⟨rfl, rfl, List.suffix_rfl⟩
    · exact ⟨rfl, rfl, List.suffix_rfl⟩
  | render m key found => exact prompting_render s m key found
  | dispatch => exact prompting_dispatch s
  | answer answer =>
    cases hprompts : s.app.prompts with
    | nil => exact prompting_same s (by simp only [next, hprompts])
    | cons e prompts =>
      have hsuffix : prompts <:+ s.app.prompts := hprompts ▸ List.suffix_cons _ _
      refine hrest ?_
      simp only [next, hprompts]
      split_ifs
      · cases answer with
        | decline => exact ⟨rfl, rfl, hprompts ▸ hsuffix⟩
        | accept directories reflExists => exact ⟨rfl, rfl, hprompts ▸ hsuffix⟩
      · exact ⟨rfl, rfl, hprompts ▸ hsuffix⟩

end Step

/-! ### The invariant -/

/-- The normalised names whose prompts are still to come. -/
def coming (s : IBLState) : List ByteString :=
  s.app.queue.map fun e => normalizeIBLName e.imageName

/-- What holds along a run that asks once: the names shown and those still to come are all
different and have been asked for, and open prompts have been shown. -/
structure Once (s : IBLState) (shown : List ByteString) : Prop where
  nodup : (shown ++ coming s).Nodup
  asked : ∀ name ∈ shown ++ coming s, ∃ asked ∈ s.app.pendingPrompts,
    normalizeIBLName asked = name
  prompts : ∀ e ∈ s.app.prompts, normalizeIBLName e.imageName ∈ shown

theorem once_init : Once .init [] := by
  constructor <;> simp [coming, IBLState.init, AppState.init]

/-- **Step lemma**: a step that asks for no image under a second spelling. -/
theorem Once.next {s : IBLState} {shown : List ByteString} {a : IBLStep} (hs : Once s shown)
    (ha : SpelledOnce s a) : Once (next s a) (shown ++ (shows s a).toList) := by
  obtain ⟨hnodup, hasked, hprompts⟩ := hs
  have hstep := prompting s a
  generalize shows s a = shown' at hstep ⊢
  cases hstep with
  | rest hqueue hpending hsuffix =>
    refine ⟨?_, ?_, fun e he => ?_⟩
    · simpa [coming, hqueue] using hnodup
    · simpa [coming, hqueue, hpending] using hasked
    · simpa using hprompts e (hsuffix.subset he)
  | asks ha' hlive htracks hnew hqueue hpending hsame =>
    subst ha'
    rename_i m key found imageName
    -- under another spelling the name would have been asked for already
    have hother : normalizeIBLName imageName ∉ shown ++ coming s := by
      intro hmem
      obtain ⟨asked, hmem, hname⟩ := hasked _ hmem
      exact ha hlive imageName htracks hnew asked hmem hname
    have hcoming : coming (IBLWaiting.next s (.render m key found)) =
        coming s ++ [normalizeIBLName imageName] := by
      simp [coming, hqueue]
    refine ⟨?_, ?_, fun e he => ?_⟩
    · rw [hcoming, Option.toList_none, List.append_nil, ← List.append_assoc]
      refine List.nodup_append.mpr ⟨hnodup, by simp, ?_⟩
      intro name hname new hnew' heq
      rw [List.mem_singleton] at hnew'
      exact hother (hnew' ▸ heq ▸ hname)
    · intro name hname
      rw [hcoming, Option.toList_none, List.append_nil, ← List.append_assoc] at hname
      rw [hpending]
      rcases List.mem_append.mp hname with hname | hname
      · obtain ⟨asked, hmem, heq⟩ := hasked name hname
        exact ⟨asked, List.mem_cons_of_mem _ hmem, heq⟩
      · exact ⟨imageName, List.mem_cons_self, (List.mem_singleton.mp hname).symm⟩
    · rw [hsame] at he
      simpa using hprompts e he
  | drops e hqueue hpending hsame =>
    have hcoming : coming s = normalizeIBLName e.imageName :: coming (IBLWaiting.next s a) := by
      simp [coming, hqueue]
    have hsub : List.Sublist (shown ++ coming (IBLWaiting.next s a)) (shown ++ coming s) := by
      rw [hcoming]
      exact (List.sublist_cons_self _ _).append_left shown
    rw [Option.toList_none, List.append_nil]
    refine ⟨hsub.nodup hnodup, fun name hname => ?_, fun e' he' => ?_⟩
    · rw [hpending]
      exact hasked name (hsub.subset hname)
    · rw [hsame] at he'
      exact hprompts e' he'
  | opens e hqueue hpending hopen =>
    have hcoming : coming s = normalizeIBLName e.imageName :: coming (IBLWaiting.next s a) := by
      simp [coming, hqueue]
    have hmoved : shown ++ (some (normalizeIBLName e.imageName)).toList ++
        coming (IBLWaiting.next s a) = shown ++ coming s := by
      rw [hcoming]
      simp
    refine ⟨hmoved ▸ hnodup, fun name hname => ?_, fun e' he' => ?_⟩
    · rw [hpending]
      exact hasked name (hmoved ▸ hname)
    · rw [hopen] at he'
      rcases List.mem_cons.mp he' with rfl | he'
      · simp
      · exact List.mem_append_left _ (hprompts e' he')

/-- The invariant along a run that asks once. -/
theorem once_along {as : List IBLStep} (h : Along next SpelledOnce .init as) :
    Once (runState next .init as) (outputs next shows .init as) := by
  have hrun := outputs_invariant (fun s shown a (hs : Once s shown) ha => hs.next ha) once_init h
  simpa using hrun

/-! ### What breaks the condition -/

/-- What holds in every state: each live manager has its filter installed, and only allowed names
are queued. -/
structure Delivering (s : IBLState) : Prop where
  filters : s.app.filters = s.app.managers
  queue : ∀ e ∈ s.app.queue, iblNameOK (normalizeIBLName e.imageName) = true

/-- The managers change with their filters. -/
theorem filters_next {s : IBLState} (hs : s.app.filters = s.app.managers) (a : IBLStep) :
    (next s a).app.filters = (next s a).app.managers := by
  unfold next
  cases a with
  | create => exact congrArg (s.app.created :: ·) hs
  | destroy m =>
    dsimp only
    split_ifs
    · simp [AppState.destruct, hs]
    · exact hs
  | addModel m page imageName | clear m | finish m reply outcome =>
    dsimp only
    split_ifs <;> exact hs
  | render m key found =>
    dsimp only
    split_ifs
    · unfold IBLState.RenderModel
      split
      · exact hs
      · rename_i htracks
        rcases IBLState.Sound.scheduleIBLPrompt_cases s.app m
          (IBLState.Sound.of_tracks htracks).2 with ⟨-, happ⟩ | ⟨-, happ⟩
        · simpa [IBLState.setDoc, happ] using hs
        · simpa [IBLState.setDoc, happ] using hs
    · exact hs
  | dispatch =>
    dsimp only [IBLPrompt.next, IBLPrompt.step]
    split
    case h_1 e queue hqueue =>
      -- a download changes neither list
      obtain ⟨hmanagers, hfilters, -⟩ := performIBLDownload_frame { s.app with queue } e
      unfold AppState.dispatchTo
      split
      · split_ifs
        · rw [hmanagers, hfilters]
          exact hs
        · exact hs
      · exact hs
    case h_2 => exact hs
  | answer answer =>
    dsimp only
    split
    · split_ifs
      · cases answer <;> exact hs
      · exact hs
    · exact hs

theorem Delivering.next {s : IBLState} (hs : Delivering s) (a : IBLStep) :
    Delivering (next s a) := by
  refine ⟨filters_next hs.filters a, fun e he => ?_⟩
  have hstep := prompting s a
  generalize shows s a = shown at hstep
  cases hstep with
  | rest hqueue => exact hs.queue e (hqueue ▸ he)
  | asks ha hlive htracks hnew hqueue =>
    rw [hqueue] at he
    rcases List.mem_append.mp he with he | he
    · exact hs.queue e he
    · rw [List.mem_singleton.mp he]
      exact (IBLState.Sound.of_tracks htracks).2
  | drops e' hqueue | opens e' hqueue =>
    exact hs.queue e (hqueue ▸ List.mem_cons_of_mem _ he)

/-- While a manager is alive, dispatching shows everything that is still to come. -/
theorem outputs_dispatch {s : IBLState} (hs : Delivering s) (hlive : s.app.managers ≠ []) :
    outputs next shows s (List.replicate s.app.queue.length .dispatch) = coming s := by
  generalize hqueue : s.app.queue = queue
  induction queue generalizing s with
  | nil => simp [coming, hqueue]
  | cons e queue ih =>
    obtain ⟨owner, managers, hmanagers⟩ := List.exists_cons_of_ne_nil hlive
    have hok := hs.queue e (hqueue ▸ List.mem_cons_self)
    have happ : (IBLWaiting.next s .dispatch).app =
        { s.app with queue, prompts := e :: s.app.prompts } := by
      simp [IBLWaiting.next, IBLPrompt.next, IBLPrompt.step, hqueue, AppState.dispatchTo,
        hs.filters, hmanagers, AppState.performIBLDownload, hok]
    have hshows : shows s .dispatch = some (normalizeIBLName e.imageName) := by
      rw [shows, happ]
      simp
    have hrest := ih (hs.next .dispatch) (by rw [happ]; exact hlive) (by rw [happ])
    rw [List.length_cons, List.replicate_succ, outputs_cons, hshows, hrest]
    simp [coming, hqueue, happ]

/-- A step that asks for an image under a second spelling leads to a second prompt, unless the
first one has been dropped. -/
theorem exists_second_prompt {as : List IBLStep} {a : IBLStep}
    (ha : ¬ SpelledOnce (runState next .init as) a)
    (hkept : ∀ asked ∈ (runState next .init as).app.pendingPrompts,
      normalizeIBLName asked ∈ outputs next shows .init as ++ coming (runState next .init as)) :
    ∃ after, ¬ PromptsOnce (as ++ a :: after) := by
  have hinit : Delivering .init := by constructor <;> simp [IBLState.init, AppState.init]
  have hstep : ∀ s a, Delivering s → True → Delivering (next s a) := fun _ a hs _ => hs.next a
  have hdelivering : Delivering (runState next .init as) :=
    runState_invariant hstep hinit (Along.of_forall (fun _ _ => trivial) _ _)
  generalize hs : runState next .init as = s at ha hkept hdelivering
  cases a with
  | render m key found =>
    simp only [SpelledOnce, Classical.not_imp, not_forall, not_not] at ha
    obtain ⟨hlive, imageName, htracks, hnew, asked, hasked, hname⟩ := ha
    have hnext : (next s (.render m key found)).app =
        { s.app with
          pendingPrompts := imageName :: s.app.pendingPrompts
          queue := s.app.queue ++ [⟨m, imageName⟩] } := by
      rcases IBLState.Sound.scheduleIBLPrompt_cases s.app m
        (IBLState.Sound.of_tracks htracks).2 with ⟨hmem, -⟩ | ⟨-, happ⟩
      · exact absurd hmem hnew
      · rw [next, if_pos hlive, IBLState.RenderModel, htracks]
        exact happ
    have hshows : shows s (.render m key found) = none := shows_eq_none s (by rw [hnext])
    have hcoming : coming (next s (.render m key found)) =
        coming s ++ [normalizeIBLName imageName] := by
      simp [coming, hnext]
    have hlive' : (next s (.render m key found)).app.managers ≠ [] := by
      rw [hnext]
      exact List.ne_nil_of_mem hlive
    -- once the queue is delivered, the name has been shown under both spellings
    refine ⟨List.replicate (next s (.render m key found)).app.queue.length .dispatch, fun h => ?_⟩
    have hnodup := h.1
    rw [outputs_append, hs, outputs_cons, hshows, outputs_dispatch (hdelivering.next _) hlive',
      hcoming, Option.toList_none, List.nil_append, ← List.append_assoc] at hnodup
    exact (List.nodup_append.mp hnodup).2.2 _ (hname ▸ hkept asked hasked) _
      (List.mem_singleton_self _) rfl
  | create | destroy m | addModel m page imageName | clear m | dispatch | answer answer
  | finish m reply outcome => exact absurd trivial ha

/-! ### Runs -/

/-- **One prompt for an image.** In a run that asks for no image under a second spelling, no
normalised name is prompted for twice, and none after it has been declined. A step that breaks the
condition leads to a second prompt, unless a prompt has been dropped before. -/
theorem promptsOnce_along (as : List IBLStep) :
    (Along next SpelledOnce .init as → PromptsOnce as) ∧
      ∀ a, ¬ SpelledOnce (runState next .init as) a →
        (∀ asked ∈ (runState next .init as).app.pendingPrompts, normalizeIBLName asked ∈
          outputs next shows .init as ++ coming (runState next .init as)) →
        ∃ after, ¬ PromptsOnce (as ++ a :: after) := by
  refine ⟨fun h => ⟨?_, ?_⟩, fun a => exists_second_prompt⟩
  · exact (List.nodup_append.mp (once_along h).nodup).1
  · rintro before a after rfl name hname hagain
    have hbefore := once_along ((along_append _ _ _).mp h).1
    have hnodup := (List.nodup_append.mp (once_along h).nodup).1
    rw [outputs_append, outputs_cons] at hnodup
    -- a declined prompt is open, so it has been shown before
    have hshown : name ∈ outputs next shows .init before := by
      unfold declines at hname
      split at hname
      · obtain ⟨e, he, rfl⟩ := Option.map_eq_some_iff.mp hname
        exact hbefore.prompts e (List.mem_of_mem_head? he)
      · exact absurd hname (Option.not_mem_none _)
    exact (List.nodup_append.mp hnodup).2.2 name hshown name (List.mem_append_right _ hagain) rfl

/-- Two documents name the image `x`, one of them as `/a/x`; the first prompt is declined. -/
def twoSpellings : List IBLStep :=
  [.create, .addModel 0 0 [0x78], .create, .addModel 1 0 [0x2f, 0x61, 0x2f, 0x78],
    .render 0 (0, 0) false, .dispatch, .answer .decline, .render 1 (0, 0) false, .dispatch]

/-- The second document prompts again, after the decline. -/
theorem not_promptsOnce_twoSpellings :
    ¬ PromptsOnce twoSpellings ∧
      declines (runState next .init (twoSpellings.take 6)) (.answer .decline) = some [0x78] ∧
        [0x78] ∈ outputs next shows (runState next .init (twoSpellings.take 7))
          (twoSpellings.drop 7) := by
  refine ⟨fun h => ?_, by decide +kernel, by decide +kernel⟩
  exact absurd h.1 (by decide +kernel)

end IBLWaiting

end OkularV3d
