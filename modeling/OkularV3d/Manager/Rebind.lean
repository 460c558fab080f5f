import OkularV3d.Manager.IBLPrompt
import OkularV3d.Pdf.BackgroundCache

/-!
# Rebinding the PageView

A request with `PAGEVIEW_PRIO` from an observer a manager has not seen before means that its
document is shown by another PageView. The request may run on a worker thread, so it only posts a
`PageViewRebindEvent` to `qApp` and sets `m_PendingRebindPosted`, which keeps a second event from
being posted while the first is in flight. The event names no manager: it goes through the
`ApplicationEventFilter`s on `qApp`, the last installed one first, and the first one takes it for
**its own** manager.

`AppState.Delivers` says that no manager waits for an event it will not get, and
`delivers_along_iff` is the exact condition on the steps: observers are new to the newest manager
only, no manager is created while that one waits, and none is cleared before its PageView has been
resolved again.

* `RebindState` is the part of one manager, `AppState` what all share; `next` is a step, and
  `drained` the state after the events posted so far have been delivered.
* `dispatch_cases` and `cacheRequest_cases` are the inversion lemmas of the two steps that matter.
* `Sound` is the invariant under the condition `Ready` (`Sound.next`), and gives `Delivers`.
* `Abandoned` is a manager that was cleared while it waited: no event does anything for it any more
  (`Abandoned.not_delivers`). `not_delivers_next` is the converse of the step lemma.
-/

namespace OkularV3d

open Runs

namespace Rebind

open IBLPrompt (ManagerId)
open Pdf

/-- A `DocumentObserver`, by its address. -/
abbrev Observer := Nat

/-- What a `V3dModelManager` keeps about rebinding.

* `owed`: history only, whether a new observer has been seen since `resolvePageView` last ran. -/
structure RebindState where
  lastSeenPageViewObserver : Option Observer
  pendingRebindPosted : Bool
  owed : Bool
  deriving DecidableEq, Repr

/-- A manager as it is constructed. -/
def RebindState.init : RebindState := ⟨none, false, false⟩

/-- What the managers of one process share.

* `filters`: the managers alive, in the order the chain of `ApplicationEventFilter`s asks them.
* `queue`: how many `PageViewRebindEvent`s are in the event queue; they are all alike.
* `resolving`: the main thread is in `rebindPageView` of this manager, after it has cleared
  `m_PendingRebindPosted` and before `resolvePageView`. -/
structure AppState where
  created : Nat
  filters : List ManagerId
  docs : ManagerId → RebindState
  queue : Nat
  resolving : Option ManagerId

/-- A step of the main thread or of a worker.

* `create`, `destroy m`: a manager is constructed or destroyed.
* `request m priority observer`: `CacheRequest` of `m`, on **any** thread.
* `clear m`: `Clear` of `m`.
* `dispatch`: the event loop delivers a `PageViewRebindEvent`.
* `resolve`: the rest of `rebindPageView`, from `resolvePageView` on. -/
inductive AppStep where
  | create
  | destroy (m : ManagerId)
  | request (m : ManagerId) (priority : Nat) (observer : Option Observer)
  | clear (m : ManagerId)
  | dispatch
  | resolve
  deriving DecidableEq, Repr

namespace AppState

/-- The process before any document is open. -/
def init : AppState := ⟨0, [], fun _ => .init, 0, none⟩

/-- The state with another state of the manager `m`. -/
def setDoc (s : AppState) (m : ManagerId) (doc : RebindState) : AppState :=
  { s with docs := fun m' => if m' = m then doc else s.docs m' }

/-- `cacheRequestUnlocked` of `m`, as far as rebinding goes. -/
def cacheRequest (s : AppState) (m : ManagerId) (priority : Nat) (observer : Option Observer) :
    AppState :=
  if priority = PAGEVIEW_PRIO ∧ observer ≠ (s.docs m).lastSeenPageViewObserver then
    let seen := { s.docs m with lastSeenPageViewObserver := observer, owed := true }
    if (s.docs m).pendingRebindPosted then s.setDoc m seen
    else { s with queue := s.queue + 1 }.setDoc m { seen with pendingRebindPosted := true }
  else s

/-- `Clear` of `m`, as far as rebinding goes: the observer last seen stays. -/
def Clear (s : AppState) (m : ManagerId) : AppState :=
  s.setDoc m { s.docs m with pendingRebindPosted := false }

/-- `rebindPageView` of `m` up to `resolvePageView`. -/
def rebindPageView (s : AppState) (m : ManagerId) : AppState :=
  if (s.docs m).pendingRebindPosted then
    { s with resolving := some m }.setDoc m { s.docs m with pendingRebindPosted := false }
  else s

/-- `ApplicationEventFilter::eventFilter` along the chain: the first filter takes every
`PageViewRebindEvent`. Without a filter the event is dropped by `qApp`. -/
def dispatchRebind (s : AppState) : AppState :=
  match s.filters with
  | [] => s
  | m :: _ => s.rebindPageView m

/-- `rebindPageView` goes on to `resolvePageView`. -/
def resolvePageView (s : AppState) (m : ManagerId) : AppState :=
  { s with resolving := none }.setDoc m { s.docs m with owed := false }

@[simp] theorem filters_setDoc (s : AppState) (m : ManagerId) (doc : RebindState) :
    (s.setDoc m doc).filters = s.filters := rfl

@[simp] theorem queue_setDoc (s : AppState) (m : ManagerId) (doc : RebindState) :
    (s.setDoc m doc).queue = s.queue := rfl

@[simp] theorem resolving_setDoc (s : AppState) (m : ManagerId) (doc : RebindState) :
    (s.setDoc m doc).resolving = s.resolving := rfl

@[simp] theorem created_setDoc (s : AppState) (m : ManagerId) (doc : RebindState) :
    (s.setDoc m doc).created = s.created := rfl

@[simp] theorem docs_setDoc_self (s : AppState) (m : ManagerId) (doc : RebindState) :
    (s.setDoc m doc).docs m = doc := if_pos rfl

theorem docs_setDoc_of_ne (s : AppState) {m m' : ManagerId} (doc : RebindState) (h : m' ≠ m) :
    (s.setDoc m doc).docs m' = s.docs m' := if_neg h

end AppState

/-- One step. While the main thread is inside `rebindPageView` only the workers take steps, and a
manager that does not exist does nothing. -/
def next (s : AppState) : AppStep → AppState
  | .create =>
    if s.resolving = none then
      { s with created := s.created + 1, filters := s.created :: s.filters }.setDoc s.created .init
    else s
  | .destroy m =>
    if s.resolving = none then { s with filters := s.filters.erase m } else s
  | .request m priority observer =>
    if m ∈ s.filters then s.cacheRequest m priority observer else s
  | .clear m => if s.resolving = none ∧ m ∈ s.filters then s.Clear m else s
  | .dispatch =>
    if s.resolving = none ∧ 0 < s.queue then { s with queue := s.queue - 1 }.dispatchRebind else s
  | .resolve =>
    match s.resolving with
    | some m => s.resolvePageView m
    | none => s

namespace AppState

/-- The event loop delivers `n` events, each to its end. -/
def drain (s : AppState) : Nat → AppState
  | 0 => s
  | n + 1 => (next (next s .dispatch) .resolve).drain n

/-- The event loop runs until the queue is empty. -/
def drained (s : AppState) : AppState := (next s .resolve).drain s.queue

/-- An event that `rebindPageView` of `m` will get, by the chain as it is, is in the queue. -/
def Reaches (s : AppState) (m : ManagerId) : Prop := 0 < s.queue ∧ s.filters.head? = some m

/-- No manager waits for an event it will not get, and once the queue is drained none has seen a
new observer without having resolved its PageView since. -/
def Delivers (s : AppState) : Prop :=
  (∀ m ∈ s.filters, (s.docs m).pendingRebindPosted → s.Reaches m) ∧
    ∀ m ∈ s.filters, (s.drained.docs m).owed = false

/-- The condition on a step: a manager is created only when none waits for an event, an observer is
new only to the manager asked first, and a manager is cleared only when it has resolved its
PageView since it last saw a new observer. -/
def Ready (s : AppState) : AppStep → Prop
  | .create => s.resolving = none → ∀ m ∈ s.filters, (s.docs m).pendingRebindPosted = false
  | .request m priority observer =>
    m ∈ s.filters → priority = PAGEVIEW_PRIO →
      observer ≠ (s.docs m).lastSeenPageViewObserver → s.filters.head? = some m
  | .clear m => s.resolving = none → m ∈ s.filters → (s.docs m).owed = false
  | .destroy _ | .dispatch | .resolve => True

/-! ### What a step does -/

/-- Delivering an event: nothing to deliver, or the first manager asked waits for it and goes on to
resolve its PageView, or it does not and the event is lost. -/
theorem dispatch_cases (s : AppState) :
    next s .dispatch = s ∧ (s.resolving = none → s.queue = 0) ∨
      s.resolving = none ∧ 0 < s.queue ∧
        ((∃ m, s.filters.head? = some m ∧ (s.docs m).pendingRebindPosted ∧
            next s .dispatch = { s with queue := s.queue - 1, resolving := some m }.setDoc m
              { s.docs m with pendingRebindPosted := false }) ∨
          (∀ m, s.filters.head? = some m → (s.docs m).pendingRebindPosted = false) ∧
            next s .dispatch = { s with queue := s.queue - 1 }) := by
  by_cases h : s.resolving = none ∧ 0 < s.queue
  · refine .inr ⟨h.1, h.2, ?_⟩
    rw [next, if_pos h, dispatchRebind]
    cases hfilters : s.filters with
    | nil => exact .inr ⟨by simp, by simp⟩
    | cons m filters =>
      cases hpending : (s.docs m).pendingRebindPosted with
      | true => exact .inl ⟨m, rfl, hpending, by simp [rebindPageView, hpending]⟩
      | false =>
        refine .inr ⟨fun m' hm' => ?_, by simp [rebindPageView, hpending]⟩
        obtain rfl : m = m' := by simpa using hm'
        exact hpending
  · refine .inl ⟨by rw [next, if_neg h], fun hresolving => ?_⟩
    have hqueue := mt (And.intro hresolving) h
    omega

/-- A request changes something only when it brings a new observer, and then posts an event unless
one is in flight. -/
theorem cacheRequest_cases (s : AppState) (m : ManagerId) (priority : Nat)
    (observer : Option Observer) :
    s.cacheRequest m priority observer = s ∨
      priority = PAGEVIEW_PRIO ∧ observer ≠ (s.docs m).lastSeenPageViewObserver ∧
        ((s.docs m).pendingRebindPosted = true ∧
            s.cacheRequest m priority observer = s.setDoc m ⟨observer, true, true⟩ ∨
          (s.docs m).pendingRebindPosted = false ∧ s.cacheRequest m priority observer =
            { s with queue := s.queue + 1 }.setDoc m ⟨observer, true, true⟩) := by
  by_cases h : priority = PAGEVIEW_PRIO ∧ observer ≠ (s.docs m).lastSeenPageViewObserver
  · refine .inr ⟨h.1, h.2, ?_⟩
    rw [cacheRequest, if_pos h]
    cases hpending : (s.docs m).pendingRebindPosted with
    | true => exact .inl ⟨rfl, by simp [hpending]⟩
    | false => exact .inr ⟨rfl, by simp⟩
  · exact .inl (if_neg h)

/-- Delivering an event installs and removes no filter. -/
theorem filters_dispatch (s : AppState) : (next s .dispatch).filters = s.filters := by
  rcases dispatch_cases s with ⟨h, -⟩ | ⟨-, -, ⟨m, -, -, h⟩ | ⟨-, h⟩⟩ <;> rw [h]
  rfl

/-- Nor does resolving the PageView. -/
theorem filters_resolve (s : AppState) : (next s .resolve).filters = s.filters := by
  rw [next]
  split <;> rfl

theorem resolving_resolve (s : AppState) : (next s .resolve).resolving = none := by
  rw [next]
  split
  · rfl
  · assumption

theorem queue_resolve (s : AppState) : (next s .resolve).queue = s.queue := by
  rw [next]
  split <;> rfl

/-- Each event is delivered once. -/
theorem queue_dispatch {s : AppState} (h : s.resolving = none) :
    (next s .dispatch).queue = s.queue - 1 := by
  rcases dispatch_cases s with ⟨heq, hqueue⟩ | ⟨-, -, ⟨m, -, -, heq⟩ | ⟨-, heq⟩⟩
  · rw [heq, hqueue h]
  · rw [heq]
    rfl
  · rw [heq]

/-! ### Draining the queue -/

/-- Delivering all events installs and removes no filter. -/
theorem filters_drain (s : AppState) (n : Nat) : (s.drain n).filters = s.filters := by
  induction n generalizing s with
  | zero => rfl
  | succ n ih => rw [drain, ih, filters_resolve, filters_dispatch]

theorem filters_drained (s : AppState) : s.drained.filters = s.filters := by
  rw [drained, filters_drain, filters_resolve]

/-- **The queue is emptied** by as many deliveries as it has events, and no manager is left
resolving. -/
theorem drain_empty {s : AppState} (h : s.resolving = none) :
    (s.drain s.queue).resolving = none ∧ (s.drain s.queue).queue = 0 := by
  generalize hn : s.queue = n
  induction n generalizing s with
  | zero => exact ⟨h, hn⟩
  | succ n ih =>
    have hqueue : (next (next s .dispatch) .resolve).queue = n := by
      rw [queue_resolve, queue_dispatch h, hn, Nat.add_sub_cancel]
    exact ih (resolving_resolve _) hqueue

/-- Draining ends with an **empty** queue, outside `rebindPageView`. -/
theorem drained_empty (s : AppState) : s.drained.resolving = none ∧ s.drained.queue = 0 := by
  have h := drain_empty (resolving_resolve s)
  rwa [queue_resolve] at h

/-- Draining is a run. -/
theorem drain_invariant (Inv : AppState → Prop) (hdispatch : ∀ s, Inv s → Inv (next s .dispatch))
    (hresolve : ∀ s, Inv s → Inv (next s .resolve)) {s : AppState} (hs : Inv s) :
    Inv s.drained := by
  have hdrain : ∀ n s, Inv s → Inv (s.drain n) := by
    intro n
    induction n with
    | zero => exact fun _ hs => hs
    | succ n ih => exact fun s hs => ih _ (hresolve _ (hdispatch _ hs))
  exact hdrain _ _ (hresolve _ hs)

/-! ### The invariant -/

/-- Where every step has met its condition: only the manager asked first waits for an event, one is
in the queue, and whoever has seen a new observer waits or is about to resolve its PageView. -/
structure Sound (s : AppState) : Prop where
  nodup : s.filters.Nodup
  created : ∀ m ∈ s.filters, m < s.created
  pending : ∀ m ∈ s.filters, (s.docs m).pendingRebindPosted → s.Reaches m
  owed : ∀ m ∈ s.filters, (s.docs m).owed →
    (s.docs m).pendingRebindPosted ∨ s.resolving = some m

namespace Sound

/-- Before any document is open, nothing is owed. -/
theorem init : Sound .init := by constructor <;> simp [AppState.init]

/-- Changing one manager's state keeps the invariant if it holds of that manager. -/
theorem setDoc {s : AppState} (hs : Sound s) {m : ManagerId} {doc : RebindState} {queue : Nat}
    {resolving : Option ManagerId} (hqueue : s.queue ≤ queue)
    (hresolving : ∀ m', m' ≠ m → s.resolving = some m' → resolving = some m')
    (hpending : doc.pendingRebindPosted → 0 < queue ∧ s.filters.head? = some m)
    (howed : doc.owed → doc.pendingRebindPosted ∨ resolving = some m) :
    Sound ({ s with queue, resolving }.setDoc m doc) where
  nodup := hs.nodup
  created := hs.created
  pending m' hm' := by
    by_cases h : m' = m
    · subst h
      simpa [Reaches] using hpending
    · simp only [docs_setDoc_of_ne _ _ h, Reaches, queue_setDoc, filters_setDoc]
      intro hp
      obtain ⟨hpos, hhead⟩ := hs.pending m' hm' hp
      exact ⟨by omega, hhead⟩
  owed m' hm' := by
    by_cases h : m' = m
    · subst h
      simpa using howed
    · simp only [docs_setDoc_of_ne _ _ h, resolving_setDoc]
      exact fun ho => (hs.owed m' hm' ho).imp_right (hresolving m' h)

/-- A new manager is asked first. That is sound if the one before it waits for nothing. -/
theorem create {s : AppState} (hs : Sound s) (hready : s.Ready .create) :
    Sound (next s .create) := by
  rw [next]
  split
  · rename_i hresolving
    have hnone := hready hresolving
    have hnew : s.created ∉ s.filters := fun h => lt_irrefl _ (hs.created _ h)
    refine ⟨List.nodup_cons.mpr ⟨hnew, hs.nodup⟩, ?_, ?_, ?_⟩
    · intro m hm
      rcases List.mem_cons.mp hm with rfl | hm
      · exact Nat.lt_succ_self _
      · exact Nat.lt_succ_of_lt (hs.created m hm)
    · intro m hm
      rcases List.mem_cons.mp hm with rfl | hm
      · simp [RebindState.init]
      · have hne : m ≠ s.created := fun h => hnew (h ▸ hm)
        simp [docs_setDoc_of_ne _ _ hne, hnone m hm]
    · intro m hm
      rcases List.mem_cons.mp hm with rfl | hm
      · simp [RebindState.init]
      · have hne : m ≠ s.created := fun h => hnew (h ▸ hm)
        simpa [docs_setDoc_of_ne _ _ hne] using hs.owed m hm
  · exact hs

/-- A manager that goes is owed nothing any more. -/
theorem destroy {s : AppState} (hs : Sound s) (m : ManagerId) : Sound (next s (.destroy m)) := by
  rw [next]
  split
  · refine ⟨hs.nodup.erase m, fun m' hm' => hs.created m' (List.mem_of_mem_erase hm'), ?_,
      fun m' hm' => hs.owed m' (List.mem_of_mem_erase hm')⟩
    intro m' hm' hp
    obtain ⟨hpos, hhead⟩ := hs.pending m' (List.mem_of_mem_erase hm') hp
    have hne : m' ≠ m := by
      rintro rfl
      exact hs.nodup.not_mem_erase hm'
    obtain ⟨filters, hfilters⟩ : ∃ filters, s.filters = m' :: filters := by
      exact List.head?_eq_some_iff.mp hhead
    refine ⟨hpos, ?_⟩
    simp [hfilters, List.erase_cons_tail, hne]
  · exact hs

/-- A request posts an event, and it is the newest manager that will take it. -/
theorem request {s : AppState} (hs : Sound s) {m : ManagerId} {priority : Nat}
    {observer : Option Observer} (hready : s.Ready (.request m priority observer)) :
    Sound (next s (.request m priority observer)) := by
  rw [next]
  split
  · rename_i hm
    rcases s.cacheRequest_cases m priority observer with h | ⟨hprio, hnew, h⟩
    · rwa [h]
    · have hhead := hready hm hprio hnew
      rcases h with ⟨hp, h⟩ | ⟨-, h⟩ <;> rw [h]
      · exact hs.setDoc le_rfl (fun _ _ h => h) (fun _ => hs.pending m hm hp) (fun _ => .inl rfl)
      · exact hs.setDoc (Nat.le_succ _) (fun _ _ h => h) (fun _ => ⟨Nat.succ_pos _, hhead⟩)
          (fun _ => .inl rfl)
  · exact hs

/-- Clearing a manager forgets the observer, but not what is in flight. -/
theorem clear {s : AppState} (hs : Sound s) {m : ManagerId} (hready : s.Ready (.clear m)) :
    Sound (next s (.clear m)) := by
  rw [next]
  split
  · rename_i h
    have howed : (s.docs m).owed = false := hready h.1 h.2
    exact hs.setDoc le_rfl (fun _ _ h => h) (by simp) (by simp [howed])
  · exact hs

/-- An event goes to the newest manager, which owes no more than that. -/
theorem dispatch {s : AppState} (hs : Sound s) : Sound (next s .dispatch) := by
  rcases dispatch_cases s with ⟨h, -⟩ | ⟨hresolving, -, ⟨m, hhead, hp, h⟩ | ⟨hnone, h⟩⟩ <;> rw [h]
  · exact hs
  · -- `m` is the only one that waited, so no other needs the event it takes
    refine ⟨hs.nodup, hs.created, fun m' hm' => ?_, fun m' hm' => ?_⟩
    · by_cases hne : m' = m
      · simp [hne]
      · rw [docs_setDoc_of_ne _ _ hne]
        intro hp'
        have hhead' := (hs.pending m' hm' hp').2
        exact absurd (Option.some.inj (hhead'.symm.trans hhead)) hne
    · by_cases hne : m' = m
      · simp [hne]
      · rw [docs_setDoc_of_ne _ _ hne]
        intro ho
        rcases hs.owed m' hm' ho with hp' | hr
        · have hhead' := (hs.pending m' hm' hp').2
          exact absurd (Option.some.inj (hhead'.symm.trans hhead)) hne
        · exact absurd (hresolving ▸ hr) (by simp)
  · refine ⟨hs.nodup, hs.created, fun m' hm' hp' => ?_, hs.owed⟩
    have hhead' := (hs.pending m' hm' hp').2
    exact absurd hp' (by simp [hnone m' hhead'])

/-- `resolvePageView` pays what was owed. -/
theorem resolve {s : AppState} (hs : Sound s) : Sound (next s .resolve) := by
  rw [next]
  split
  · rename_i m hresolving
    refine ⟨hs.nodup, hs.created, fun m' hm' => ?_, fun m' hm' => ?_⟩
    · by_cases hne : m' = m
      · subst hne
        simpa [resolvePageView, Reaches] using hs.pending m' hm'
      · simp only [resolvePageView, docs_setDoc_of_ne _ _ hne]
        exact hs.pending m' hm'
    · by_cases hne : m' = m
      · simp [resolvePageView, hne]
      · simp only [resolvePageView, docs_setDoc_of_ne _ _ hne]
        intro ho
        rcases hs.owed m' hm' ho with hp | hr
        · exact .inl hp
        · exact absurd (Option.some.inj (hr.symm.trans hresolving)) hne
  · exact hs

/-- Every step that meets the condition keeps the invariant. -/
theorem next {s : AppState} (hs : Sound s) {a : AppStep} (hready : s.Ready a) :
    Sound (next s a) := by
  cases a with
  | create => exact hs.create hready
  | destroy m => exact hs.destroy m
  | request m priority observer => exact hs.request hready
  | clear m => exact hs.clear hready
  | dispatch => exact hs.dispatch
  | resolve => exact hs.resolve

/-- **In a sound state** every manager that waits gets its event. -/
theorem delivers {s : AppState} (hs : Sound s) : s.Delivers := by
  refine ⟨hs.pending, fun m hm => ?_⟩
  have hdrained : Sound s.drained :=
    drain_invariant Sound (fun _ => Sound.dispatch) (fun _ => Sound.resolve) hs
  have hm' : m ∈ s.drained.filters := by rwa [filters_drained]
  obtain ⟨hresolving, hqueue⟩ := s.drained_empty
  cases howed : (s.drained.docs m).owed with
  | false => rfl
  | true =>
    rcases hdrained.owed m hm' howed with hp | hr
    · have hpos := (hdrained.pending m hm' hp).1
      omega
    · rw [hresolving] at hr
      cases hr

end Sound

/-! ### A step that breaks the condition -/

/-- Cleared with a new observer seen: no event in the queue does anything for this manager. -/
def Abandoned (s : AppState) (m : ManagerId) : Prop :=
  (s.docs m).pendingRebindPosted = false ∧ (s.docs m).owed = true ∧ s.resolving ≠ some m

/-- An abandoned manager stays so whatever event is delivered. -/
theorem Abandoned.dispatch {s : AppState} {m : ManagerId} (hs : s.Abandoned m) :
    (next s .dispatch).Abandoned m := by
  rcases dispatch_cases s with ⟨h, -⟩ | ⟨-, -, ⟨m', -, hp, h⟩ | ⟨-, h⟩⟩ <;> rw [h]
  · exact hs
  · have hne : m ≠ m' := by
      rintro rfl
      simp [hs.1] at hp
    exact ⟨by simp [docs_setDoc_of_ne _ _ hne, hs.1], by simp [docs_setDoc_of_ne _ _ hne, hs.2.1],
      by simpa using hne.symm⟩
  · exact hs

/-- And whoever resolves its PageView. -/
theorem Abandoned.resolve {s : AppState} {m : ManagerId} (hs : s.Abandoned m) :
    (next s .resolve).Abandoned m := by
  rw [next]
  split
  · rename_i m' hresolving
    have hne : m ≠ m' := by
      rintro rfl
      exact hs.2.2 hresolving
    exact ⟨by simp [resolvePageView, docs_setDoc_of_ne _ _ hne, hs.1],
      by simp [resolvePageView, docs_setDoc_of_ne _ _ hne, hs.2.1], by simp [resolvePageView]⟩
  · exact hs

/-- An abandoned manager that is alive waits in vain. -/
theorem Abandoned.not_delivers {s : AppState} {m : ManagerId} (hs : s.Abandoned m)
    (hm : m ∈ s.filters) : ¬ s.Delivers := by
  intro h
  have hdrained : s.drained.Abandoned m :=
    drain_invariant (Abandoned · m) (fun _ h => h.dispatch) (fun _ h => h.resolve) hs
  have howed := h.2 m hm
  rw [hdrained.2.1] at howed
  cases howed

/-- After a step that breaks the condition, some manager waits for an event it will not get, or has
been cleared with a new observer seen. -/
theorem not_delivers_next {s : AppState} (hs : Sound s) {a : AppStep} (ha : ¬ s.Ready a) :
    ¬ (next s a).Delivers := by
  cases a with
  | create =>
    simp only [Ready, Classical.not_imp, not_forall, Bool.not_eq_false] at ha
    obtain ⟨hresolving, m, hm, hp⟩ := ha
    have hne : m ≠ s.created := (hs.created m hm).ne
    rw [next, if_pos hresolving]
    intro h
    -- the new manager is now asked before `m`
    have hhead := (h.1 m (List.mem_cons_of_mem _ hm)
      (by simpa [docs_setDoc_of_ne _ _ hne] using hp)).2
    exact hne (by simpa using hhead.symm)
  | request m priority observer =>
    simp only [Ready, Classical.not_imp] at ha
    obtain ⟨hm, hprio, hnew, hhead⟩ := ha
    rw [next, if_pos hm]
    have hp : (s.docs m).pendingRebindPosted = false := by
      by_contra h
      exact hhead (hs.pending m hm (by simpa using h)).2
    rcases s.cacheRequest_cases m priority observer with h | ⟨-, -, ⟨hp', -⟩ | ⟨-, h⟩⟩
    · -- a new observer is remembered, so the request changes the state
      have hseen := congrArg (fun s => (s.docs m).pendingRebindPosted) h
      simp [cacheRequest, hprio, hnew, hp] at hseen
    · simp [hp] at hp'
    · rw [h]
      exact fun h => hhead (h.1 m hm (by simp)).2
  | clear m =>
    simp only [Ready, Classical.not_imp, Bool.not_eq_false] at ha
    obtain ⟨hresolving, hm, howed⟩ := ha
    rw [next, if_pos ⟨hresolving, hm⟩]
    have habandoned : (s.Clear m).Abandoned m :=
      ⟨by simp [Clear], by simp [Clear, howed], by simp [Clear, hresolving]⟩
    exact habandoned.not_delivers hm
  | destroy m | dispatch | resolve => exact absurd trivial ha

/-! ### Runs -/

/-- **Rebind events are delivered** in every state of a run exactly when every step of it meets the
condition. -/
theorem delivers_along_iff (as : List AppStep) :
    Along next (fun s a => (next s a).Delivers) init as ↔ Along next Ready init as := by
  have hiff : ∀ s a, Sound s → ((next s a).Delivers ↔ s.Ready a) := fun s a hs =>
    ⟨fun h => by_contra fun ha => not_delivers_next hs ha h, fun ha => (hs.next ha).delivers⟩
  exact along_iff_of_invariant hiff (fun s a hs ha => hs.next ha) Sound.init as

/-- Two documents are open; the PageView shows the older one first, then another PageView does. -/
def olderRequests : List AppStep :=
  [.create, .create, .request 0 PAGEVIEW_PRIO (some 1), .dispatch, .resolve,
    .request 0 PAGEVIEW_PRIO (some 2)]

/-- The newer document's manager takes the event of the older one, whose flag stays set: its next
observer posts nothing, and with the queue empty it has resolved its PageView for neither. -/
theorem not_delivers_olderRequests :
    ¬ Along next (fun s a => (next s a).Delivers) init olderRequests ∧
      (runState next init olderRequests).queue = 0 ∧
        (runState next init olderRequests).docs 0 = ⟨some 2, true, true⟩ := by
  refine ⟨fun h => ?_, by decide +kernel, by decide +kernel⟩
  have hlast := ((along_append init (olderRequests.take 3) (olderRequests.drop 3)).mp h).2
  have hreach := hlast.1.1 0 (by decide +kernel) (by decide +kernel)
  exact absurd hreach.1 (by decide +kernel)

end AppState

end Rebind

end OkularV3d
