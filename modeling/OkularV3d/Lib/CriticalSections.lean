import OkularV3d.Lib.Runs

/-!
# Critical sections

A thread takes mutexes, touches data that they guard, and hands control over to code it does not
know, which may enter the program again. Who holds what is not in its code: it is ghost state of the
trace of what it does (`hold`). A `Discipline` asks four things of a trace, one for each `Rule`.

Where mutexes are held for scopes, a path through the program is a `Code`: whatever way leads out of
a scope gives the mutex back, so a piece of code leaves behind what it found (`runState_trace`), and
whether it keeps a rule can be read off its structure (`along_trace_iff`).

`Visits` are the calls by which a program is entered, with those that enter it again while it has
handed control over. A rule that every call keeps is kept by all visits (`Visits.obeys`), and a
condition that is exact for every call is exact for them (`Visits.obeys_iff`).

* `Discipline` says which mutex guards what, and which of two may be taken first; `Rule` names the
  four things that are asked.
* `Code.Obeys` is a rule by recursion on the code; `along_trace_iff` connects it to the trace.
-/

namespace OkularV3d.Sections

open Runs

variable {μ γ ε ι : Type*}

/-- What a thread does, as far as mutexes go. -/
inductive Action (μ γ : Type*) where
  | acquire (m : μ)
  | release (m : μ)
  | touch (c : γ)
  | handOver
  deriving DecidableEq

/-- The four things that are asked of a trace. -/
inductive Rule where
  | once
  | ordered
  | guarded
  | outside
  deriving DecidableEq

/-- What a program asks of its mutexes: `guard c` is to be held where `c` is touched, control is not
to be handed over while a mutex is held that `blocks` what may run then, and a mutex is not to be
waited for while one is held that does not come `before` it. -/
structure Discipline (μ γ : Type*) where
  guard : γ → μ
  blocks : μ → Bool
  before : μ → μ → Bool

/-- The mutexes the thread holds after an action. -/
def hold [DecidableEq μ] (held : List μ) : Action μ γ → List μ
  | .acquire m => m :: held
  | .release m => held.erase m
  | .touch _ | .handOver => held

namespace Discipline

variable (d : Discipline μ γ)

/-- An action keeps a rule, for the mutexes that are held. -/
def Obeys : Rule → List μ → Action μ γ → Prop
  | .once, held, .acquire m => m ∉ held
  | .ordered, held, .acquire m => ∀ n ∈ held, d.before n m = true
  | .guarded, held, .touch c => d.guard c ∈ held
  | .outside, held, .handOver => ∀ n ∈ held, d.blocks n = false
  | _, _, _ => True

instance [DecidableEq μ] :
    ∀ (rule : Rule) (held : List μ) (a : Action μ γ), Decidable (d.Obeys rule held a)
  | .once, held, .acquire m => inferInstanceAs (Decidable (m ∉ held))
  | .ordered, held, .acquire m => inferInstanceAs (Decidable (∀ n ∈ held, d.before n m = true))
  | .guarded, held, .touch c => inferInstanceAs (Decidable (d.guard c ∈ held))
  | .outside, held, .handOver => inferInstanceAs (Decidable (∀ n ∈ held, d.blocks n = false))
  | .once, _, .release _ | .once, _, .touch _ | .once, _, .handOver
  | .ordered, _, .release _ | .ordered, _, .touch _ | .ordered, _, .handOver
  | .guarded, _, .acquire _ | .guarded, _, .release _ | .guarded, _, .handOver
  | .outside, _, .acquire _ | .outside, _, .release _ | .outside, _, .touch _ =>
    inferInstanceAs (Decidable True)

/-- A mutex may be released at any time. -/
@[simp] theorem obeys_release (rule : Rule) (held : List μ) (m : μ) :
    d.Obeys rule held (.release m) := by
  cases rule <;> exact trivial

/-- Only the rule of the guards asks who touches. -/
theorem obeys_touch {rule : Rule} (h : rule ≠ .guarded) (held : List μ) (c : γ) :
    d.Obeys rule held (.touch c) := by
  cases rule with
  | guarded => exact absurd rfl h
  | once | ordered | outside => exact trivial

/-- A thread that holds nothing may take any mutex and hand control over. -/
@[simp] theorem obeys_acquire_nil (rule : Rule) (m : μ) : d.Obeys rule [] (.acquire m) := by
  cases rule <;> simp [Obeys]

/-- Control may be handed over with no mutex held. -/
@[simp] theorem obeys_handOver_nil (rule : Rule) : d.Obeys rule [] .handOver := by
  cases rule <;> simp [Obeys]

/-- **The discipline** along a trace of a thread that holds nothing at its start. -/
def Disciplined [DecidableEq μ] (trace : List (Action μ γ)) : Prop :=
  ∀ rule, Along hold (d.Obeys rule) [] trace

end Discipline

/-! ### Code with scopes -/

/-- A path through code that holds its mutexes for scopes. Control that is handed over comes back
when the code that ran meanwhile is done. -/
inductive Code (μ γ : Type*) where
  | done
  | touch (c : γ) (next : Code μ γ)
  | scope (m : μ) (body next : Code μ γ)
  | handOver (inside next : Code μ γ)

namespace Code

/-- One path after the other. -/
def append : Code μ γ → Code μ γ → Code μ γ
  | done, next' => next'
  | touch c next, next' => touch c (next.append next')
  | scope m body next, next' => scope m body (next.append next')
  | handOver inside next, next' => handOver inside (next.append next')

instance : Append (Code μ γ) := ⟨append⟩

/-- A path that only touches, before another. -/
def touchAll (cs : List γ) (next : Code μ γ) : Code μ γ := cs.foldr touch next

/-- What the thread does on the path. -/
def trace : Code μ γ → List (Action μ γ)
  | done => []
  | touch c next => .touch c :: next.trace
  | scope m body next => .acquire m :: (body.trace ++ .release m :: next.trace)
  | handOver inside next => .handOver :: (inside.trace ++ next.trace)

/-- The path keeps a rule, where these mutexes are held. -/
def Obeys (d : Discipline μ γ) (rule : Rule) : List μ → Code μ γ → Prop
  | _, done => True
  | held, touch c next => d.Obeys rule held (.touch c) ∧ next.Obeys d rule held
  | held, scope m body next =>
    d.Obeys rule held (.acquire m) ∧ body.Obeys d rule (m :: held) ∧ next.Obeys d rule held
  | held, handOver inside next =>
    d.Obeys rule held .handOver ∧ inside.Obeys d rule held ∧ next.Obeys d rule held

variable {d : Discipline μ γ} {rule : Rule} {held : List μ}

@[simp] theorem obeys_done : (done : Code μ γ).Obeys d rule held := trivial

@[simp] theorem obeys_touch (c : γ) (next : Code μ γ) :
    (touch c next).Obeys d rule held ↔
      d.Obeys rule held (.touch c) ∧ next.Obeys d rule held := Iff.rfl

/-- A scope takes its mutex, and its body runs with it. -/
@[simp] theorem obeys_scope (m : μ) (body next : Code μ γ) :
    (scope m body next).Obeys d rule held ↔
      d.Obeys rule held (.acquire m) ∧ body.Obeys d rule (m :: held) ∧ next.Obeys d rule held :=
  Iff.rfl

/-- What runs inside is held to the rules, too. -/
@[simp] theorem obeys_handOver (inside next : Code μ γ) :
    (handOver inside next).Obeys d rule held ↔
      d.Obeys rule held .handOver ∧ inside.Obeys d rule held ∧ next.Obeys d rule held := Iff.rfl

theorem obeys_ite (p : Prop) [Decidable p] (code code' : Code μ γ) :
    (if p then code else code').Obeys d rule held ↔
      if p then code.Obeys d rule held else code'.Obeys d rule held := by
  split_ifs <;> exact Iff.rfl

/-- Code one after the other follows the rules if both parts do. -/
@[simp] theorem obeys_append (code next : Code μ γ) :
    (code ++ next).Obeys d rule held ↔ code.Obeys d rule held ∧ next.Obeys d rule held := by
  induction code with
  | done => exact (and_iff_right trivial).symm
  | touch c rest ih =>
    change (touch c (rest ++ next)).Obeys d rule held ↔ _
    rw [obeys_touch, obeys_touch, ih, and_assoc]
  | scope m body rest _ ih =>
    change (scope m body (rest ++ next)).Obeys d rule held ↔ _
    rw [obeys_scope, obeys_scope, ih, and_assoc, and_assoc]
  | handOver inside rest _ ih =>
    change (handOver inside (rest ++ next)).Obeys d rule held ↔ _
    rw [obeys_handOver, obeys_handOver, ih, and_assoc, and_assoc]

/-- So it is for a list of touches. -/
@[simp] theorem obeys_touchAll (cs : List γ) (next : Code μ γ) :
    (touchAll cs next).Obeys d rule held ↔
      (∀ c ∈ cs, d.Obeys rule held (.touch c)) ∧ next.Obeys d rule held := by
  induction cs with
  | nil => simp [touchAll]
  | cons c cs ih =>
    change (touch c (touchAll cs next)).Obeys d rule held ↔ _
    rw [obeys_touch, ih, List.forall_mem_cons, and_assoc]

/-- Touching is only of concern to the rule that asks for the guard. -/
theorem obeys_touchAll_of_ne (h : rule ≠ .guarded) (cs : List γ) (next : Code μ γ) :
    (touchAll cs next).Obeys d rule held ↔ next.Obeys d rule held := by
  rw [obeys_touchAll, and_iff_right fun c _ => d.obeys_touch h held c]

/-- A thread that holds nothing touches nothing. -/
theorem obeys_guarded_touchAll_nil (cs : List γ) (next : Code μ γ) :
    (touchAll cs next).Obeys d .guarded [] ↔ cs = [] ∧ next.Obeys d .guarded [] := by
  have htouch (c : γ) : ¬ d.Obeys .guarded [] (.touch c) := List.not_mem_nil
  rw [obeys_touchAll, List.eq_nil_iff_forall_not_mem]
  exact and_congr_left fun _ => forall₂_congr fun c _ => iff_false_intro (htouch c)

/-- Where every guard is held, any path may be taken as far as guards go. -/
theorem obeys_guarded (code : Code μ γ) (h : ∀ c, d.guard c ∈ held) :
    code.Obeys d .guarded held := by
  induction code generalizing held with
  | done => exact trivial
  | touch c next ih => exact ⟨h c, ih h⟩
  | scope m body next hbody ih => exact ⟨trivial, hbody fun c => List.mem_cons_of_mem m (h c), ih h⟩
  | handOver inside next hinside ih => exact ⟨trivial, hinside h, ih h⟩

/-! ### The trace -/

variable [DecidableEq μ]

/-- A path gives back what it takes. -/
theorem runState_trace (code : Code μ γ) (held : List μ) :
    runState hold held code.trace = held := by
  induction code generalizing held with
  | done => rfl
  | touch c next ih => exact ih held
  | scope m body next hbody ih =>
    rw [trace, runState_cons, runState_append, runState_cons, hold, hbody, hold,
      List.erase_cons_head, ih]
  | handOver inside next hinside ih =>
    rw [trace, runState_cons, runState_append, hold, hinside, ih]

/-- **The structure of a path decides** whether its trace keeps a rule. -/
theorem along_trace_iff (code : Code μ γ) (held : List μ) :
    Along hold (d.Obeys rule) held code.trace ↔ code.Obeys d rule held := by
  induction code generalizing held with
  | done => exact Iff.rfl
  | touch c next ih => exact and_congr_right fun _ => ih held
  | scope m body next hbody ih =>
    rw [trace, along_cons, hold, along_append, hbody, runState_trace, along_cons,
      and_iff_right (d.obeys_release rule _ m), hold, List.erase_cons_head, ih, obeys_scope]
  | handOver inside next hinside ih =>
    rw [trace, along_cons, hold, along_append, hinside, runState_trace, ih, obeys_handOver]

end Code

/-! ### Code that is entered again -/

/-- The calls by which a program is entered, one after the other. While a call has handed control
over at `i`, the program is entered by the visits `during i`. -/
inductive Visits (ε ι : Type*) where
  | done
  | enter (call : ε) (during : ι → Visits ε ι) (rest : Visits ε ι)

namespace Visits

/-- The path of the visits, where `body call inside` is the path of a call, and `inside i` what
happens while it has handed control over. -/
def code (body : ε → (ι → Code μ γ) → Code μ γ) : Visits ε ι → Code μ γ
  | done => .done
  | enter call during rest => body call (fun i => (during i).code body) ++ rest.code body

/-- `Q` holds of every call: of those that are made while control is handed over, where this is
`reached`. -/
def Every (Q : ε → Prop) (reached : ε → ι → Prop) : Visits ε ι → Prop
  | done => True
  | enter call during rest =>
    Q call ∧ (∀ i, reached call i → (during i).Every Q reached) ∧ rest.Every Q reached

variable {d : Discipline μ γ} {rule : Rule} {body : ε → (ι → Code μ γ) → Code μ γ}

/-- **Rule for calls.** What every call keeps, if what happens meanwhile does, is kept by all
visits. -/
theorem obeys (h : ∀ call inside, (∀ i, (inside i).Obeys d rule []) →
    (body call inside).Obeys d rule []) (visits : Visits ε ι) :
    (visits.code body).Obeys d rule [] := by
  induction visits with
  | done => exact trivial
  | enter call during rest hduring hrest =>
    exact (Code.obeys_append _ _).mpr ⟨h call _ hduring, hrest⟩

/-- **Rule for calls, with an exact condition.** -/
theorem obeys_iff {Q : ε → Prop} {reached : ε → ι → Prop}
    (h : ∀ call inside, (body call inside).Obeys d rule [] ↔
      Q call ∧ ∀ i, reached call i → (inside i).Obeys d rule []) (visits : Visits ε ι) :
    (visits.code body).Obeys d rule [] ↔ visits.Every Q reached := by
  induction visits with
  | done => exact Iff.rfl
  | enter call during rest hduring hrest =>
    rw [code, Code.obeys_append, h, hrest, and_assoc, Every]
    exact and_congr_right fun _ =>
      and_congr_left fun _ => forall_congr' fun i => imp_congr_right fun _ => hduring i

end Visits

end OkularV3d.Sections
