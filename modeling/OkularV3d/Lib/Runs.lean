import Mathlib.Data.List.Basic
import Mathlib.Tactic.Common

/-!
# Runs of a deterministic step function

A program that reacts to a sequence of requests is a step function `step : σ → α → σ`, and a
run is the left fold of its requests. Two notions carry every statement about whole runs:

* `runState step s as` is the state a run reaches;
* `Along step P s as` says that `P` holds of **every step** of the run, read at the state the
  step starts from.

A safety claim is `Along` of the property; the exact condition under which it holds is `Along`
of a condition on the state before each step. The rules `Along.of_invariant` and
`along_iff_of_invariant` pass from one to the other through an invariant that only has to
survive the steps meeting the condition.

* `runState_invariant` and `forall_mem_scanl_iff` are about the states of a run.
* `along_map` is for history variables, which the program itself does not keep.
* `outputs` is what the steps put out, and `outputs_invariant` its rule.
-/

namespace OkularV3d.Runs

variable {σ α : Type*} {step : σ → α → σ} {P Q : σ → α → Prop}

/-- The state a run of the requests `as` from `s` ends in. -/
def runState (step : σ → α → σ) (s : σ) (as : List α) : σ := as.foldl step s

/-- `P` holds at **every step** of the run, at the state that step starts from. -/
def Along (step : σ → α → σ) (P : σ → α → Prop) : σ → List α → Prop
  | _, [] => True
  | s, a :: as => P s a ∧ Along step P (step s a) as

/-- Whether a decidable property holds along a concrete run can be computed. -/
instance decidableAlong [∀ s a, Decidable (P s a)] :
    ∀ s as, Decidable (Along step P s as)
  | _, [] => inferInstanceAs (Decidable True)
  | s, a :: as =>
    have := decidableAlong (step s a) as
    inferInstanceAs (Decidable (P s a ∧ Along step P (step s a) as))

@[simp] theorem runState_nil (s : σ) : runState step s [] = s := rfl

@[simp] theorem runState_cons (s : σ) (a : α) (as : List α) :
    runState step s (a :: as) = runState step (step s a) as := rfl

/-- A run goes on from the state it has reached. -/
theorem runState_append (s : σ) (as bs : List α) :
    runState step s (as ++ bs) = runState step (runState step s as) bs :=
  List.foldl_append

@[simp] theorem along_nil (s : σ) : Along step P s [] := trivial

/-- A property holds along a run if it holds of the first step and along the rest. -/
@[simp] theorem along_cons (s : σ) (a : α) (as : List α) :
    Along step P s (a :: as) ↔ P s a ∧ Along step P (step s a) as := Iff.rfl

/-- A run in two parts satisfies `P` when both parts do, the second from where the first
ends. -/
theorem along_append (s : σ) (as bs : List α) :
    Along step P s (as ++ bs) ↔ Along step P s as ∧ Along step P (runState step s as) bs := by
  induction as generalizing s with
  | nil => simp
  | cons a as ih => simp only [List.cons_append, along_cons, ih, runState_cons, and_assoc]

/-- **Run rule for an invariant.** `Inv` survives every step that meets the condition `Ok`,
so it holds in the state a run of such steps ends in. -/
theorem runState_invariant {Inv : σ → Prop} {Ok : σ → α → Prop}
    (hstep : ∀ s a, Inv s → Ok s a → Inv (step s a)) {s : σ} {as : List α}
    (hs : Inv s) (hok : Along step Ok s as) : Inv (runState step s as) := by
  induction as generalizing s with
  | nil => exact hs
  | cons a as ih => exact ih (hstep s a hs hok.1) hok.2

/-- **Run rule for safety.** Where `Inv` survives every step that meets `Ok`, and `Inv` with
`Ok` gives `P`, a run whose steps all meet `Ok` has `P` at every step. -/
theorem Along.of_invariant {Inv : σ → Prop} {Ok : σ → α → Prop}
    (hstep : ∀ s a, Inv s → Ok s a → Inv (step s a)) (hP : ∀ s a, Inv s → Ok s a → P s a)
    {s : σ} {as : List α} (hs : Inv s) (hok : Along step Ok s as) : Along step P s as := by
  induction as generalizing s with
  | nil => trivial
  | cons a as ih => exact ⟨hP s a hs hok.1, ih (hstep s a hs hok.1) hok.2⟩

/-- **Run rule for an exact condition.** If under `Inv` the property of a step is equivalent
to the condition, and `Inv` survives the steps that meet it, the two are equivalent over whole
runs. -/
theorem along_iff_of_invariant {Inv : σ → Prop}
    (hiff : ∀ s a, Inv s → (P s a ↔ Q s a)) (hstep : ∀ s a, Inv s → Q s a → Inv (step s a))
    {s : σ} (hs : Inv s) (as : List α) : Along step P s as ↔ Along step Q s as := by
  induction as generalizing s with
  | nil => exact Iff.rfl
  | cons a as ih =>
    simp only [along_cons, hiff s a hs]
    exact and_congr_right fun hq => ih (hstep s a hs hq)

/-- **Run rule for an exact condition, under a protocol.** The same for runs whose requests keep to
a protocol `Ok`, under which `Inv` survives every step. -/
theorem Along.iff_of_invariant {Inv : σ → Prop} {Ok : σ → α → Prop}
    (hiff : ∀ s a, Inv s → Ok s a → (P s a ↔ Q s a))
    (hstep : ∀ s a, Inv s → Ok s a → Inv (step s a)) {s : σ} (hs : Inv s) {as : List α}
    (hok : Along step Ok s as) : Along step P s as ↔ Along step Q s as := by
  induction as generalizing s with
  | nil => exact Iff.rfl
  | cons a as ih =>
    simp only [along_cons, hiff s a hs hok.1]
    exact and_congr_right fun _ => ih (hstep s a hs hok.1) hok.2

/-- **Run rule for all the states passed.** A property holds of them all iff it holds at the start
and every step leads to it. -/
theorem forall_mem_scanl_iff {R : σ → Prop} (s : σ) (as : List α) :
    (∀ s' ∈ as.scanl step s, R s') ↔ R s ∧ Along step (fun s a => R (step s a)) s as := by
  induction as generalizing s with
  | nil => simp
  | cons a as ih =>
    rw [List.scanl_cons, List.forall_mem_cons, ih, along_cons]

/-- What holds of every step holds along every run. -/
theorem Along.of_forall (h : ∀ s a, P s a) (s : σ) (as : List α) : Along step P s as := by
  induction as generalizing s with
  | nil => trivial
  | cons a as ih => exact ⟨h s a, ih _⟩

/-- Two properties along one run. -/
theorem Along.and {s : σ} {as : List α} (hP : Along step P s as) (hQ : Along step Q s as) :
    Along step (fun s a => P s a ∧ Q s a) s as := by
  induction as generalizing s with
  | nil => trivial
  | cons a as ih => exact ⟨⟨hP.1, hQ.1⟩, ih hP.2 hQ.2⟩

/-- A property of single steps that is weaker holds along more runs. -/
theorem Along.mono (h : ∀ s a, P s a → Q s a) {s : σ} {as : List α}
    (hP : Along step P s as) : Along step Q s as := by
  induction as generalizing s with
  | nil => trivial
  | cons a as ih => exact ⟨h s a hP.1, ih hP.2⟩

/-- **Run rule for history variables.** Where a run on richer states, `f` of which are the states of
the program, follows the program step by step, a property of the program holds along the one exactly
when it does along the other. -/
theorem along_map {τ : Type*} {step' : τ → α → τ} {f : τ → σ}
    (hf : ∀ t a, f (step' t a) = step (f t) a) (t : τ) (as : List α) :
    Along step' (fun t a => P (f t) a) t as ↔ Along step P (f t) as := by
  induction as generalizing t with
  | nil => exact Iff.rfl
  | cons a as ih => rw [along_cons, along_cons, ih, hf]

/-! ### What a run puts out -/

section Outputs

variable {β : Type*} {out : σ → α → Option β}

/-- What the steps of a run put out, in order. -/
def outputs (step : σ → α → σ) (out : σ → α → Option β) : σ → List α → List β
  | _, [] => []
  | s, a :: as => (out s a).toList ++ outputs step out (step s a) as

@[simp] theorem outputs_nil (s : σ) : outputs step out s [] = [] := rfl

@[simp] theorem outputs_cons (s : σ) (a : α) (as : List α) :
    outputs step out s (a :: as) = (out s a).toList ++ outputs step out (step s a) as := rfl

/-- What a run puts out, it puts out part by part. -/
theorem outputs_append (s : σ) (as bs : List α) :
    outputs step out s (as ++ bs) =
      outputs step out s as ++ outputs step out (runState step s as) bs := by
  induction as generalizing s with
  | nil => rfl
  | cons a as ih => simp only [List.cons_append, outputs_cons, ih, runState_cons, List.append_assoc]

/-- **Run rule for what is put out.** An invariant of the state and of what has been put out so far
survives a run whose steps keep it. -/
theorem outputs_invariant {Inv : σ → List β → Prop} {Ok : σ → α → Prop}
    (hstep : ∀ s log a, Inv s log → Ok s a → Inv (step s a) (log ++ (out s a).toList))
    {s : σ} {log : List β} {as : List α} (hs : Inv s log) (hok : Along step Ok s as) :
    Inv (runState step s as) (log ++ outputs step out s as) := by
  induction as generalizing s log with
  | nil => simpa using hs
  | cons a as ih =>
    have htail := ih (hstep s log a hs hok.1) hok.2
    simpa [List.append_assoc] using htail

end Outputs

end OkularV3d.Runs
