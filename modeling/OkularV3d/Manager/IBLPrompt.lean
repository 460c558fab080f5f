import OkularV3d.Lib.Runs
import OkularV3d.Manager.IBLName

/-!
# The IBL download prompt

A document that names an image missing from the local library makes its manager post an
`IBLPromptEvent` to `qApp` (`scheduleIBLPrompt`). The event captures the manager that posted it;
it is delivered through the `IBLEventFilter`s installed on `qApp`, one for each live manager, the
last installed one first. The filter that catches it runs the captured callback
(`performIBLDownload` of the **poster**), which opens a modal prompt; while the prompt is open its
nested event loop delivers further events and closes documents.

`AppState` is what these steps share in one process, and `next` one step of any party. The
result, `performIBLDownload_on_live_managers`, gives the condition on the order of steps under
which a callback only ever runs on a live manager, and shows that the condition cannot be
weakened: any step that breaks it can be followed by steps that run a dead manager's callback.

* `AppState.Wf` is the invariant: a posted event has a poster that is alive, and its filter is the
  one that is asked.
* `CallbackLive` is the property of a step.
* `StepSafe` is the condition on a step, read at the state before it.

The same chain of filters, for rebinding the PageView, is in `OkularV3d.Manager.Rebind`.
-/

namespace OkularV3d

open Runs

namespace IBLPrompt

/-- A manager, by the number of its construction in the process: a number is never used
twice, even where an address would be. -/
abbrev ManagerId := Nat

/-- An `IBLPromptEvent`: the captured `this` and the captured image name. -/
structure IBLPromptEvent where
  poster : ManagerId
  imageName : ByteString
  deriving DecidableEq, Repr

/-- What the managers of one process share.

* `managers`: the managers constructed and not yet destroyed.
* `filters`: the `IBLEventFilter`s on `qApp`, by their `m_Manager`, in the order the event chain
  asks them (the last installed first).
* `pendingPrompts`: the function-static debounce set of `scheduleIBLPrompt`.
* `queue`: posted events not yet delivered, oldest first.
* `prompts`: the calls of `performIBLDownload` whose modal prompt is open, innermost first. -/
structure AppState where
  created : Nat
  managers : List ManagerId
  filters : List ManagerId
  pendingPrompts : List ByteString
  queue : List IBLPromptEvent
  prompts : List IBLPromptEvent
  deriving DecidableEq, Repr

/-- The process before any document is open. -/
def AppState.init : AppState := ⟨0, [], [], [], [], []⟩

/-- A step of some party, on the main thread except for `schedule`.

* `create`: a document is opened and its manager constructed.
* `destroy m`: the destructor of `m` runs.
* `schedule m imageName`: `m` misses an image and calls `scheduleIBLPrompt`.
* `dispatch`: the (possibly nested) event loop delivers the oldest posted event.
* `answer`: the innermost open prompt returns. -/
inductive AppStep where
  | create
  | destroy (m : ManagerId)
  | schedule (m : ManagerId) (imageName : ByteString)
  | dispatch
  | answer
  deriving DecidableEq, Repr

/-- `V3dModelManager::V3dModelManager`: installs its filter in front of the chain. -/
def AppState.construct (s : AppState) : AppState :=
  { s with
    created := s.created + 1
    managers := s.created :: s.managers
    filters := s.created :: s.filters }

/-- `V3dModelManager::~V3dModelManager`: removes its filter. Posted events are addressed to
`qApp`, so they stay in the queue, and open prompts stay open. -/
def AppState.destruct (s : AppState) (m : ManagerId) : AppState :=
  { s with managers := s.managers.erase m, filters := s.filters.erase m }

/-- `V3dModelManager::scheduleIBLPrompt`, called on the manager `m`. -/
def AppState.scheduleIBLPrompt (s : AppState) (m : ManagerId) (imageName : ByteString) :
    AppState :=
  if iblNameOK (normalizeIBLName imageName) then
    if s.pendingPrompts.contains imageName then s
    else
      { s with
        pendingPrompts := imageName :: s.pendingPrompts
        queue := s.queue ++ [⟨m, imageName⟩] }
  else s

/-- `V3dModelManager::performIBLDownload` up to its modal prompt. -/
def AppState.performIBLDownload (s : AppState) (e : IBLPromptEvent) : AppState :=
  if iblNameOK (normalizeIBLName e.imageName) then { s with prompts := e :: s.prompts } else s

/-- `IBLEventFilter::eventFilter` over the chain: the first filter takes every prompt event,
checks only its **own** manager, and runs the captured callback. An event no filter takes is
dropped by `qApp`. -/
def AppState.dispatchTo (s : AppState) (e : IBLPromptEvent) : AppState × Option ManagerId :=
  match s.filters with
  | owner :: _ =>
    if owner ∈ s.managers then (s.performIBLDownload e, some e.poster) else (s, none)
  | [] => (s, none)

/-- One step, with the manager whose `performIBLDownload` it enters or continues. A step of a
manager that does not exist does nothing. -/
def step (s : AppState) : AppStep → AppState × Option ManagerId
  | .create => (s.construct, none)
  | .destroy m => (if m ∈ s.managers then s.destruct m else s, none)
  | .schedule m imageName => (if m ∈ s.managers then s.scheduleIBLPrompt m imageName else s, none)
  | .dispatch =>
    match s.queue with
    | e :: queue => { s with queue }.dispatchTo e
    | [] => (s, none)
  | .answer =>
    match s.prompts with
    | e :: prompts => ({ s with prompts }, some e.poster)
    | [] => (s, none)

/-- The state after a step. -/
def next (s : AppState) (a : AppStep) : AppState := (step s a).1

/-- The manager a step runs `performIBLDownload` of, at its entry or after its prompt. -/
def entered (s : AppState) (a : AppStep) : Option ManagerId := (step s a).2

/-- A step runs `performIBLDownload` on **live** managers only. -/
def CallbackLive (s : AppState) (a : AppStep) : Prop := ∀ m ∈ entered s a, m ∈ s.managers

instance : ∀ s a, Decidable (CallbackLive s a) := fun s a =>
  inferInstanceAs (Decidable (∀ m ∈ entered s a, m ∈ s.managers))

/-- The condition on a step: a manager is destroyed only when no prompt of its own is open and,
if an event of its own is still queued, no other manager is alive; and a manager is created only
when no event of a destroyed manager is queued. -/
def StepSafe (s : AppState) : AppStep → Prop
  | .create => ∀ e ∈ s.queue, e.poster ∈ s.managers
  | .destroy m => m ∈ s.managers → (∀ e ∈ s.prompts, e.poster ≠ m) ∧
      ((∃ e ∈ s.queue, e.poster = m) → s.managers = [m])
  | _ => True

instance : ∀ s a, Decidable (StepSafe s a)
  | _, .create => by unfold StepSafe; infer_instance
  | _, .destroy _ => by unfold StepSafe; infer_instance
  | _, .schedule .. | _, .dispatch | _, .answer => inferInstanceAs (Decidable True)

/-! ### The invariant of safe runs -/

/-- What holds in every state a safe run reaches: each live manager has its filter installed,
construction numbers are never reused, open prompts belong to live managers, and queued events
belong to constructed managers, live ones unless no manager is alive at all. -/
structure AppState.Wf (s : AppState) : Prop where
  filters_eq : s.filters = s.managers
  managers_lt : ∀ m ∈ s.managers, m < s.created
  managers_nodup : s.managers.Nodup
  prompts_live : ∀ e ∈ s.prompts, e.poster ∈ s.managers
  queue_lt : ∀ e ∈ s.queue, e.poster < s.created
  queue_live : s.managers = [] ∨ ∀ e ∈ s.queue, e.poster ∈ s.managers

theorem AppState.wf_init : AppState.init.Wf := by
  constructor <;> simp [AppState.init]

namespace AppState.Wf

variable {s : AppState} {m : ManagerId}

theorem construct (hs : s.Wf) (hsafe : ∀ e ∈ s.queue, e.poster ∈ s.managers) :
    s.construct.Wf where
  filters_eq := by simp [AppState.construct, hs.filters_eq]
  managers_lt := by
    intro m hm
    rcases List.mem_cons.mp hm with rfl | hm
    · exact Nat.lt_succ_self _
    · exact (hs.managers_lt m hm).trans (Nat.lt_succ_self _)
  managers_nodup :=
    List.nodup_cons.mpr ⟨fun h => lt_irrefl _ (hs.managers_lt _ h), hs.managers_nodup⟩
  prompts_live := fun e he => List.mem_cons_of_mem _ (hs.prompts_live e he)
  queue_lt := fun e he => (hs.queue_lt e he).trans (Nat.lt_succ_self _)
  queue_live := Or.inr fun e he => List.mem_cons_of_mem _ (hsafe e he)

theorem destruct (hs : s.Wf) (hprompts : ∀ e ∈ s.prompts, e.poster ≠ m)
    (hqueue : (∃ e ∈ s.queue, e.poster = m) → s.managers = [m]) : (s.destruct m).Wf where
  filters_eq := by simp [AppState.destruct, hs.filters_eq]
  managers_lt := fun k hk => hs.managers_lt k (List.mem_of_mem_erase hk)
  managers_nodup := hs.managers_nodup.erase m
  prompts_live := fun e he =>
    (List.mem_erase_of_ne (hprompts e he)).mpr (hs.prompts_live e he)
  queue_lt := hs.queue_lt
  queue_live := by
    rcases hs.queue_live with hnil | hlive
    · exact Or.inl (by simp [AppState.destruct, hnil])
    by_cases hm : ∃ e ∈ s.queue, e.poster = m
    · -- the last manager goes: its events are left without any filter
      exact Or.inl (by simp [AppState.destruct, hqueue hm])
    · refine Or.inr fun e he => (List.mem_erase_of_ne ?_).mpr (hlive e he)
      exact fun heq => hm ⟨e, he, heq⟩

theorem scheduleIBLPrompt (hs : s.Wf) (hm : m ∈ s.managers) (imageName : ByteString) :
    (s.scheduleIBLPrompt m imageName).Wf := by
  unfold AppState.scheduleIBLPrompt
  split_ifs
  · exact hs
  · refine ⟨hs.filters_eq, hs.managers_lt, hs.managers_nodup, hs.prompts_live, ?_, ?_⟩
    · intro e he
      rcases List.mem_append.mp he with he | he
      · exact hs.queue_lt e he
      · rw [List.mem_singleton.mp he]; exact hs.managers_lt m hm
    rcases hs.queue_live with hnil | hlive
    · simp [hnil] at hm
    · refine Or.inr fun e he => ?_
      rcases List.mem_append.mp he with he | he
      · exact hlive e he
      · rw [List.mem_singleton.mp he]; exact hm
  · exact hs

/-- Delivering an event of a live manager keeps the invariant. -/
theorem dispatchTo (hs : s.Wf) (e : IBLPromptEvent)
    (he : s.managers = [] ∨ e.poster ∈ s.managers) : (s.dispatchTo e).1.Wf := by
  unfold AppState.dispatchTo
  split
  case h_2 => exact hs
  case h_1 owner _ hfilters =>
    split_ifs with howner
    · have hposter : e.poster ∈ s.managers := by
        rcases he with hnil | hposter
        · simp [hnil] at howner
        · exact hposter
      unfold AppState.performIBLDownload
      split_ifs
      · refine ⟨hs.filters_eq, hs.managers_lt, hs.managers_nodup, fun e' he' => ?_,
          hs.queue_lt, hs.queue_live⟩
        rcases List.mem_cons.mp he' with rfl | he'
        · exact hposter
        · exact hs.prompts_live e' he'
      · exact hs
    · exact hs

/-- Popping a queued event keeps the invariant, and says whose event it was. -/
theorem pop_queue {e : IBLPromptEvent} {queue : List IBLPromptEvent} (hs : s.Wf)
    (hq : s.queue = e :: queue) :
    ({ s with queue } : AppState).Wf ∧ (s.managers = [] ∨ e.poster ∈ s.managers) := by
  have hlive := hs.queue_live
  rw [hq] at hlive
  refine ⟨⟨hs.filters_eq, hs.managers_lt, hs.managers_nodup, hs.prompts_live,
    fun e' he' => hs.queue_lt e' (hq ▸ List.mem_cons_of_mem _ he'), ?_⟩, ?_⟩
  · exact hlive.imp_right fun h e' he' => h e' (List.mem_cons_of_mem _ he')
  · exact hlive.imp_right fun h => h e List.mem_cons_self

theorem pop_prompt {e : IBLPromptEvent} {prompts : List IBLPromptEvent} (hs : s.Wf)
    (hp : s.prompts = e :: prompts) : ({ s with prompts } : AppState).Wf :=
  ⟨hs.filters_eq, hs.managers_lt, hs.managers_nodup,
    fun e' he' => hs.prompts_live e' (hp ▸ List.mem_cons_of_mem _ he'), hs.queue_lt,
    hs.queue_live⟩

/-- **Step lemma**: a safe step keeps the invariant. -/
theorem next (hs : s.Wf) (a : AppStep) (ha : StepSafe s a) : (IBLPrompt.next s a).Wf := by
  unfold IBLPrompt.next step
  cases a with
  | create => exact hs.construct ha
  | destroy m =>
    simp only
    split_ifs with hm
    · exact hs.destruct (ha hm).1 (ha hm).2
    · exact hs
  | schedule m imageName =>
    simp only
    split_ifs with hm
    · exact hs.scheduleIBLPrompt hm imageName
    · exact hs
  | dispatch =>
    simp only
    split
    case h_1 e queue hq => exact (hs.pop_queue hq).1.dispatchTo e (hs.pop_queue hq).2
    case h_2 => exact hs
  | answer =>
    simp only
    split
    case h_1 e prompts hp => exact hs.pop_prompt hp
    case h_2 => exact hs

/-- Under the invariant **every** step runs live managers only. -/
theorem callbackLive (hs : s.Wf) (a : AppStep) : CallbackLive s a := by
  unfold CallbackLive entered step
  cases a with
  | create | destroy m | schedule m imageName => simp
  | dispatch =>
    simp only
    split
    case h_1 e queue hq =>
      unfold AppState.dispatchTo
      split
      case h_1 owner _ hfilters =>
        split_ifs with howner
        · rcases (hs.pop_queue hq).2 with hnil | hposter
          · simp [hnil] at howner
          · simpa using hposter
        · simp
      case h_2 => simp
    case h_2 => simp
  | answer =>
    simp only
    split
    case h_1 e prompts hp => simpa using hs.prompts_live e (hp ▸ List.mem_cons_self)
    case h_2 => simp

end AppState.Wf

/-! ### The condition is exact

From a state with an open prompt of a dead manager, answering prompts continues its callback;
from a state with a queued event of a dead manager and a filter installed, dispatching enters
it. Every unsafe step leads to one of the two. -/

/-- An open prompt of a dead manager is eventually continued. -/
theorem exists_continued_dead {s : AppState} (hdead : ∃ e ∈ s.prompts, e.poster ∉ s.managers) :
    ∃ bs, ¬ Along next CallbackLive s bs := by
  obtain ⟨e, he, hposter⟩ := hdead
  generalize hp : s.prompts = prompts at he
  induction prompts generalizing s with
  | nil => simp at he
  | cons e' prompts ih =>
    by_cases hlive : e'.poster ∈ s.managers
    · have hmem : e ∈ prompts := by
        rcases List.mem_cons.mp he with rfl | hmem
        · exact absurd hlive hposter
        · exact hmem
      have hnext : next s .answer = { s with prompts } := by simp [next, step, hp]
      obtain ⟨bs, hbs⟩ := ih (s := { s with prompts }) hposter rfl hmem
      exact ⟨.answer :: bs, fun h => hbs (hnext ▸ h.2)⟩
    · refine ⟨[.answer], fun h => hlive (h.1 _ ?_)⟩
      simp [entered, step, hp]

/-- Starting a prompt changes neither the managers, nor their filters, nor the queue. -/
theorem performIBLDownload_frame (s : AppState) (e : IBLPromptEvent) :
    (s.performIBLDownload e).managers = s.managers ∧
      (s.performIBLDownload e).filters = s.filters ∧ (s.performIBLDownload e).queue = s.queue := by
  unfold AppState.performIBLDownload
  split_ifs <;> exact ⟨rfl, rfl, rfl⟩

/-- A queued event of a dead manager is eventually caught by the filter of a live one. -/
theorem exists_entered_dead {s : AppState} {owner : ManagerId} {filters : List ManagerId}
    (hfilters : s.filters = owner :: filters) (howner : owner ∈ s.managers)
    (hdead : ∃ e ∈ s.queue, e.poster ∉ s.managers) : ∃ bs, ¬ Along next CallbackLive s bs := by
  obtain ⟨e, he, hposter⟩ := hdead
  generalize hq : s.queue = queue at he
  induction queue generalizing s with
  | nil => simp at he
  | cons e' queue ih =>
    have hstep : step s .dispatch =
        (({ s with queue } : AppState).performIBLDownload e', some e'.poster) := by
      simp [step, hq, AppState.dispatchTo, hfilters, howner]
    by_cases hlive : e'.poster ∈ s.managers
    · have hmem : e ∈ queue := by
        rcases List.mem_cons.mp he with rfl | hmem
        · exact absurd hlive hposter
        · exact hmem
      obtain ⟨hm, hf, hqueue⟩ := performIBLDownload_frame { s with queue } e'
      have hnext : next s .dispatch = ({ s with queue } : AppState).performIBLDownload e' := by
        rw [next, hstep]
      obtain ⟨bs, hbs⟩ := ih (s := ({ s with queue } : AppState).performIBLDownload e')
        (hf.trans hfilters) (by rw [hm]; exact howner) (by rw [hm]; exact hposter) hqueue hmem
      exact ⟨.dispatch :: bs, fun h => hbs (hnext ▸ h.2)⟩
    · refine ⟨[.dispatch], fun h => hlive (h.1 _ ?_)⟩
      simp [entered, hstep]

/-- Every unsafe step can be followed by steps that run the callback of a dead manager. -/
theorem exists_dead_of_not_stepSafe {s : AppState} (hs : s.Wf) {a : AppStep}
    (ha : ¬ StepSafe s a) : ∃ bs, ¬ Along next CallbackLive (next s a) bs := by
  cases a with
  | schedule m imageName | dispatch | answer => exact absurd trivial ha
  | create =>
    simp only [StepSafe, not_forall] at ha
    obtain ⟨e, he, hposter⟩ := ha
    have hfilters : (next s .create).filters = s.created :: s.filters := rfl
    -- the new manager is not the dead one: numbers are not reused
    have hne : e.poster ≠ s.created := (hs.queue_lt e he).ne
    refine exists_entered_dead hfilters List.mem_cons_self ⟨e, he, ?_⟩
    simpa [next, step, AppState.construct, hne] using hposter
  | destroy m =>
    simp only [StepSafe, Classical.not_imp] at ha
    obtain ⟨hm, hcond⟩ := ha
    have hnext : next s (.destroy m) = s.destruct m := by simp [next, step, hm]
    have hgone : m ∉ (s.destruct m).managers := hs.managers_nodup.not_mem_erase
    rw [hnext]
    rcases not_and_or.mp hcond with hprompts | hqueue
    · push Not at hprompts
      obtain ⟨e, he, rfl⟩ := hprompts
      exact exists_continued_dead ⟨e, he, hgone⟩
    · simp only [Classical.not_imp] at hqueue
      obtain ⟨⟨e, he, rfl⟩, hother⟩ := hqueue
      -- another manager is alive, so some filter stays installed
      cases hf : (s.destruct e.poster).managers with
      | nil =>
        have hperm := List.perm_cons_erase hm
        rw [show s.managers.erase e.poster = [] from hf, List.perm_singleton] at hperm
        exact absurd hperm hother
      | cons owner rest =>
        have hfilters : (s.destruct e.poster).filters = owner :: rest := by
          rw [← hf, AppState.destruct, hs.filters_eq]
        exact exists_entered_dead hfilters (hf ▸ List.mem_cons_self) ⟨e, he, hgone⟩

/-! ### Runs -/

/-- **Callbacks run on live managers.** In a run whose steps are all safe,
`performIBLDownload` is entered, and continues after its prompt, on live managers only; and
after any such run an unsafe step can be followed by steps that break this. -/
theorem performIBLDownload_on_live_managers (as : List AppStep) :
    (Along next StepSafe .init as → Along next CallbackLive .init as) ∧
      ∀ a, Along next StepSafe .init as → ¬ StepSafe (runState next .init as) a →
        ∃ bs, ¬ Along next CallbackLive .init (as ++ a :: bs) := by
  refine ⟨fun hok => ?_, fun a hok ha => ?_⟩
  · exact hok.of_invariant (fun _ a hs ha => hs.next a ha) (fun _ a hs _ => hs.callbackLive a)
      AppState.wf_init
  · have hwf : (runState next .init as).Wf :=
      runState_invariant (fun _ a hs ha => hs.next a ha) AppState.wf_init hok
    obtain ⟨bs, hbs⟩ := exists_dead_of_not_stepSafe hwf ha
    exact ⟨bs, fun h => hbs ((along_append _ _ _).mp h).2.2⟩

/-- Two documents: the first posts a prompt event and is closed while it is queued, and the
second one's filter runs its callback. One document: closed by the nested event loop of its own
prompt, it continues after the prompt returns. -/
theorem performIBLDownload_on_dead_manager :
    ¬ Along next CallbackLive .init
        [.create, .create, .schedule 0 [0x61], .destroy 0, .dispatch] ∧
      ¬ Along next CallbackLive .init
        [.create, .schedule 0 [0x61], .dispatch, .destroy 0, .answer] := by
  decide

end IBLPrompt

end OkularV3d
