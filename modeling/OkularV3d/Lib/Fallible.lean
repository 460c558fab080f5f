import Mathlib.Logic.Basic
import Mathlib.Tactic.Common

/-!
# Programs that change a state and can throw

A function that updates the members of an object and can throw is a program in
`ExceptT ε (StateM σ)`: an exception keeps the state as it was when it was thrown.
`Triple P x Q R` says that from a state with `P` the program `x` either returns a result `a` in a
state with `Q a`, or throws in a state with `R`. The rules follow the program text: one for each
way to put programs together, and `Triple.weaken` between two of them. `times` is a loop with a
count, and its rule `Triple.times` the induction over its rounds.

The exceptional postcondition is what a `catch` block starts from (`Triple.tryCatch`), so it is
the same through a whole `try` block; what holds there can only rest on facts that every
statement of the block keeps.

* `Triple.bind`, `Triple.ite` and `Triple.pure` are the rules for programs without exceptions.
* `Triple.throw` and `Triple.tryCatch` are those for exceptions, and `Triple.times` is the one for
  loops.
-/

namespace OkularV3d.Fallible

variable {ε σ α β : Type}

/-- What a run that ended in the given way establishes. -/
def Ends (Q : α → σ → Prop) (R : σ → Prop) : Except ε α × σ → Prop
  | (.ok a, s) => Q a s
  | (.error _, s) => R s

/-- From a state with `P`, the program returns some `a` in a state with `Q a`, or throws in a
state with `R`. -/
def Triple (P : σ → Prop) (x : ExceptT ε (StateM σ) α) (Q : α → σ → Prop) (R : σ → Prop) : Prop :=
  ∀ s, P s → Ends Q R (x.run.run s)

/-- Run `x` a number of times, one after the other. -/
def times (x : ExceptT ε (StateM σ) Unit) : Nat → ExceptT ε (StateM σ) Unit
  | 0 => pure ()
  | n + 1 => do
    x
    times x n

variable {P P' S : σ → Prop} {Q Q' : α → σ → Prop} {R R' : σ → Prop}
  {x : ExceptT ε (StateM σ) α}

theorem Ends.mono (hQ : ∀ a s, Q a s → Q' a s) (hR : ∀ s, R s → R' s) {r : Except ε α × σ}
    (h : Ends Q R r) : Ends Q' R' r := by
  obtain ⟨a | a, s⟩ := r
  · exact hR s h
  · exact hQ a s h

/-- **Consequence**: a stronger precondition, weaker postconditions. -/
theorem Triple.weaken (h : Triple P x Q R) (hP : ∀ s, P' s → P s)
    (hQ : ∀ a s, Q a s → Q' a s) (hR : ∀ s, R s → R' s) : Triple P' x Q' R' :=
  fun s hs => (h s (hP s hs)).mono hQ hR

theorem Triple.pre (h : Triple P x Q R) (hP : ∀ s, P' s → P s) : Triple P' x Q R :=
  h.weaken hP (fun _ _ => id) fun _ => id

theorem Triple.post (h : Triple P x Q R) (hQ : ∀ a s, Q a s → Q' a s) : Triple P x Q' R :=
  h.weaken (fun _ => id) hQ fun _ => id

/-- A precondition that names a value is met for whichever value there is. -/
theorem Triple.of_exists {γ : Sort*} {P : γ → σ → Prop} (h : ∀ c, Triple (P c) x Q R) :
    Triple (fun s => ∃ c, P c s) x Q R :=
  fun s hs => hs.elim fun c hc => h c s hc

theorem Triple.pure {a : α} (h : ∀ s, P s → Q a s) :
    Triple P (Pure.pure a : ExceptT ε (StateM σ) α) Q R :=
  h

/-- **Sequence**: what the first program establishes is what the second starts from. -/
theorem Triple.bind {T : β → σ → Prop} {f : α → ExceptT ε (StateM σ) β} (hx : Triple P x Q R)
    (hf : ∀ a, Triple (Q a) (f a) T R) : Triple P (x >>= f) T R := by
  intro s hs
  have hend := hx s hs
  rcases hrun : x.run.run s with ⟨e | a, s'⟩
  · rw [hrun] at hend
    rw [ExceptT.run_bind, StateT.run_bind, hrun]
    exact hend
  · rw [hrun] at hend
    rw [ExceptT.run_bind, StateT.run_bind, hrun]
    exact hf a s' hend

theorem Triple.throw {e : ε} (h : ∀ s, P s → R s) :
    Triple P (throw e : ExceptT ε (StateM σ) α) Q R :=
  h

/-- Reading the state: the rest of the program starts from the state that was read. -/
theorem Triple.get_bind {T : β → σ → Prop} {f : σ → ExceptT ε (StateM σ) β}
    (h : ∀ r, Triple (fun s => r = s ∧ P s) (f r) T R) :
    Triple P ((MonadState.get : ExceptT ε (StateM σ) σ) >>= f) T R :=
  fun s hs => h s s ⟨rfl, hs⟩

/-- Updating the state. -/
theorem Triple.modify {f : σ → σ} {Q : Unit → σ → Prop} (h : ∀ s, P s → Q () (f s)) :
    Triple P (modify f : ExceptT ε (StateM σ) Unit) Q R :=
  h

/-- Updating the state, with a result. -/
theorem Triple.modifyGet {f : σ → α × σ} (h : ∀ s, P s → Q (f s).1 (f s).2) :
    Triple P (modifyGet f : ExceptT ε (StateM σ) α) Q R :=
  h

/-- **Branching**, on a condition that is known when the program is written down. -/
theorem Triple.ite {c : Prop} [Decidable c] {y : ExceptT ε (StateM σ) α}
    (hx : c → Triple P x Q R) (hy : ¬c → Triple P y Q R) :
    Triple P (if c then x else y) Q R := by
  by_cases h : c
  · rw [if_pos h]
    exact hx h
  · rw [if_neg h]
    exact hy h

/-- **Handling**: the handler starts from the exceptional postcondition of the block. -/
theorem Triple.tryCatch {handler : ε → ExceptT ε (StateM σ) α} (hx : Triple P x Q S)
    (hh : ∀ e, Triple S (handler e) Q R) : Triple P (tryCatch x handler) Q R := by
  intro s hs
  have hend := hx s hs
  change Ends Q R ((ExceptT.tryCatch x handler).run.run s)
  rcases hrun : x.run.run s with ⟨e | a, s'⟩
  · rw [hrun] at hend
    rw [ExceptT.tryCatch, ExceptT.run_mk, StateT.run_bind]
    rw [show StateT.run x s = _ from hrun]
    exact hh e s' hend
  · rw [hrun] at hend
    rw [ExceptT.tryCatch, ExceptT.run_mk, StateT.run_bind]
    rw [show StateT.run x s = _ from hrun]
    exact hend

/-- **Loop with a count**: what one round keeps, all of them keep. -/
theorem Triple.times {y : ExceptT ε (StateM σ) Unit} (h : Triple P y (fun _ => P) R) (n : Nat) :
    Triple P (times y n) (fun _ => P) R := by
  induction n with
  | zero => exact Triple.pure fun _ => id
  | succ n ih => exact h.bind fun _ => ih

end OkularV3d.Fallible
