import Mathlib.Algebra.Group.Defs
import OkularV3d.Lib.Runs

/-!
# Leading-edge throttles

A throttle keeps the time `last` at which it let a request through. A request that is asked for more
than `gap` later passes, and `last` becomes the time it is done; any other request is dropped, and
nothing is scheduled in its place.

The last change of a value is followed by a request that passes iff a request from then on is asked
for more than `gap` after the time that is kept **at the change** (`servesLastChange_iff`): while
requests are dropped, that time stays what it is. A copy that is taken whenever a request passes
then holds the value that the run ends with (`copy_eq_of_servesLastChange`).

* `Sometime` is the dual of `Along`: some step of the run has the property.
* `Throttled` is a system with a throttle, and `sometime_passes_iff` its run rule.
* `ServesLastChange` is the property, and `servesLastChange_iff` its exact condition.
-/

namespace OkularV3d.Throttle

open Runs

variable {σ α β T : Type*} {step : σ → α → σ}

/-- `P` holds at **some step** of the run, at the state that step starts from. -/
def Sometime (step : σ → α → σ) (P : σ → α → Prop) : σ → List α → Prop
  | _, [] => False
  | s, a :: as => P s a ∨ Sometime step P (step s a) as

@[simp] theorem sometime_cons {P : σ → α → Prop} (s : σ) (a : α) (as : List α) :
    Sometime step P s (a :: as) ↔ P s a ∨ Sometime step P (step s a) as := Iff.rfl

/-- A step at which `P` holds, if there is one, has a last one. -/
theorem along_not_or_exists_last (step : σ → α → σ) (P : σ → α → Prop) (s : σ) (as : List α) :
    Along step (fun s a => ¬ P s a) s as ∨
      ∃ before a after, as = before ++ a :: after ∧ P (runState step s before) a ∧
        Along step (fun s a => ¬ P s a) (runState step s (before ++ [a])) after := by
  induction as generalizing s with
  | nil => exact .inl trivial
  | cons a as ih =>
    obtain hnone | ⟨before, b, after, rfl, hb, hafter⟩ := ih (step s a)
    · by_cases ha : P s a
      · exact .inr ⟨[], a, as, rfl, ha, hnone⟩
      · exact .inl ⟨ha, hnone⟩
    · exact .inr ⟨a :: before, b, after, rfl, hb, hafter⟩

/-- A request: the time at which it is asked for, and at which it would be done. -/
structure Request (T : Type*) where
  asked : T
  done : T

/-- A system that sends requests through a throttle: `passes` is whether the request of a step
does. -/
structure Throttled (σ α T : Type*) [LT T] [Sub T] where
  step : σ → α → σ
  gap : T
  last : σ → T
  request : σ → α → Option (Request T)
  passes : σ → α → Prop
  passes_iff : ∀ s a, passes s a ↔ ∃ r ∈ request s a, gap < r.asked - last s
  last_dropped : ∀ s a, ¬ passes s a → last (step s a) = last s

namespace Throttled

variable [LT T] [Sub T] (sys : Throttled σ α T)

/-- One of the requests of a run is asked for more than `gap` after `time`. -/
def Late (time : T) : σ → List α → Prop :=
  Sometime sys.step fun s a => ∃ r ∈ sys.request s a, sys.gap < r.asked - time

/-- **Run rule**: a request of the run passes iff one of them is late, for the time kept at the
start of the run. -/
theorem sometime_passes_iff (s : σ) (as : List α) :
    Sometime sys.step sys.passes s as ↔ sys.Late (sys.last s) s as := by
  induction as generalizing s with
  | nil => exact Iff.rfl
  | cons a as ih =>
    by_cases hpass : sys.passes s a
    · exact iff_of_true (.inl hpass) (.inl ((sys.passes_iff s a).mp hpass))
    · -- the time is kept, so the rest of the run is late for the same time
      have hkept : sys.last (sys.step s a) = sys.last s := sys.last_dropped s a hpass
      have htail := ih (sys.step s a)
      rw [hkept] at htail
      exact or_congr (sys.passes_iff s a) htail

/-- **The last change is served**: from the last step that changes something on, a request
passes. -/
def ServesLastChange (changes : σ → α → Prop) (s : σ) (as : List α) : Prop :=
  ∀ before a after, as = before ++ a :: after →
    changes (runState sys.step s before) a →
      Along sys.step (fun s a => ¬ changes s a) (runState sys.step s (before ++ [a])) after →
        Sometime sys.step sys.passes (runState sys.step s before) (a :: after)

/-- The condition: from the last step that changes something on, a request is late for the time kept
at this step. -/
def LateAfterLastChange (changes : σ → α → Prop) (s : σ) (as : List α) : Prop :=
  ∀ before a after, as = before ++ a :: after →
    changes (runState sys.step s before) a →
      Along sys.step (fun s a => ¬ changes s a) (runState sys.step s (before ++ [a])) after →
        sys.Late (sys.last (runState sys.step s before)) (runState sys.step s before) (a :: after)

/-- **The exact condition of a throttle** that makes up for nothing. -/
theorem servesLastChange_iff (changes : σ → α → Prop) (s : σ) (as : List α) :
    sys.ServesLastChange changes s as ↔ sys.LateAfterLastChange changes s as := by
  unfold ServesLastChange LateAfterLastChange
  simp only [sometime_passes_iff]

/-! ### Copies -/

section Copy

variable (value : σ → β) [∀ s a, Decidable (sys.passes s a)]

/-- A copy of the value, taken at the end of each step whose request passes. -/
def copy : σ → β → List α → β
  | _, c, [] => c
  | s, c, a :: as =>
    copy (sys.step s a) (if sys.passes s a then value (sys.step s a) else c) as

/-- A step changes the value. -/
def Changes (s : σ) (a : α) : Prop := value (sys.step s a) ≠ value s

variable {sys value}

/-- A copy that is up to date stays so while the value does not change. -/
theorem copy_eq_of_along {s : σ} {as : List α}
    (h : Along sys.step (fun s a => ¬ sys.Changes value s a) s as) :
    sys.copy value s (value s) as = value (runState sys.step s as) := by
  induction as generalizing s with
  | nil => rfl
  | cons a as ih =>
    have hsame : value (sys.step s a) = value s := not_not.mp h.1
    have htaken : (if sys.passes s a then value (sys.step s a) else value s) =
        value (sys.step s a) := by
      rw [hsame, ite_self]
    rw [copy, htaken, runState_cons, ih h.2]

/-- A copy that is taken after the last change is up to date, whatever it was before. -/
theorem copy_eq_of_sometime {s : σ} {c : β} {as : List α}
    (h : Along sys.step (fun s a => ¬ sys.Changes value s a) s as)
    (hpasses : Sometime sys.step sys.passes s as) :
    sys.copy value s c as = value (runState sys.step s as) := by
  induction as generalizing s c with
  | nil => exact absurd hpasses not_false
  | cons a as ih =>
    by_cases hpass : sys.passes s a
    · rw [copy, if_pos hpass, copy_eq_of_along h.2, runState_cons]
    · rw [copy, ih h.2 (hpasses.resolve_left hpass), runState_cons]

theorem copy_append (s : σ) (c : β) (as bs : List α) :
    sys.copy value s c (as ++ bs) =
      sys.copy value (runState sys.step s as) (sys.copy value s c as) bs := by
  induction as generalizing s c with
  | nil => rfl
  | cons a as ih => exact ih _ _

/-- **Where the last change is served, the copy ends up to date.** -/
theorem copy_eq_of_servesLastChange {s : σ} {as : List α}
    (h : sys.ServesLastChange (sys.Changes value) s as) :
    sys.copy value s (value s) as = value (runState sys.step s as) := by
  obtain hnone | ⟨before, a, after, rfl, ha, hafter⟩ :=
    along_not_or_exists_last sys.step (sys.Changes value) s as
  · exact copy_eq_of_along hnone
  · have hserved := h before a after rfl ha hafter
    rw [runState_append, runState_cons, runState_nil] at hafter
    rw [copy_append, runState_append, runState_cons, copy]
    by_cases hpass : sys.passes (runState sys.step s before) a
    · rw [if_pos hpass, copy_eq_of_along hafter]
    · exact copy_eq_of_sometime hafter (hserved.resolve_left hpass)

end Copy

end Throttled

end OkularV3d.Throttle
