import Mathlib.Logic.Function.Basic
import OkularV3d.Lib.Runs

/-!
# Semaphores and fences of a queue

A program that hands work to a queue orders it by three kinds of objects. A *timeline semaphore*
carries a number that submissions raise, a *binary semaphore* passes one signal from a submission
to a later one, a *fence* tells the host that a submission is done. `Objects` records what has
been submitted for each object, `Op` what the host does with them, and `Op.Valid` the rules it has
to follow, read at the objects before the operation:

* the value submitted for signalling on a timeline semaphore exceeds all earlier ones of that
  object, and a value the host waits for has been submitted on the object it waits on;
* a binary semaphore is signalled only when no signal is pending on it, and waited for only when
  one is, so that signals and waits alternate and a wait takes exactly one signal;
* a fence the host waits for is signalled or attached to a submission, and it is neither when it
  is attached to one;
* only live objects are used, and an object is created and destroyed at most once.

A submission the device rejects has no effect on the objects, but it has to follow the rules too.
-/

namespace OkularV3d.SyncObjects

open Runs

/-- An object identifier is `unborn`, then `live` with some data, then `destroyed` with the data
it had last. -/
inductive Life (α : Type) where
  | unborn
  | live (data : α)
  | destroyed (data : α)
  deriving DecidableEq, Repr

/-- Change the data of a live object. -/
def Life.map {α : Type} (f : α → α) : Life α → Life α
  | .live data => .live (f data)
  | life => life

/-- End the life of a live object. -/
def Life.destroy {α : Type} : Life α → Life α
  | .live data => .destroyed data
  | life => life

/-- The synchronisation of a submission: the binary semaphore it waits for, the one it signals, the
timeline semaphore and the value it raises it to, and the fence it is attached to. -/
structure Submission where
  wait : Option Nat
  signal : Option Nat
  advance : Option (Nat × Nat)
  fence : Option Nat
  deriving DecidableEq, Repr

/-- What the host does with semaphores and fences. `submit s accepted` is a submission and whether
the device accepts it. -/
inductive Op where
  | createTimeline (t : Nat)
  | destroyTimeline (t : Nat)
  | createBinary (b : Nat)
  | destroyBinary (b : Nat)
  | createFence (f : Nat) (signalled : Bool)
  | destroyFence (f : Nat)
  | resetFence (f : Nat)
  | submit (s : Submission) (accepted : Bool)
  | waitTimeline (t v : Nat)
  | waitFence (f : Nat)
  deriving DecidableEq, Repr

/-- What has been submitted for each object: for a timeline semaphore the values, for a binary
semaphore whether a signal is pending, for a fence whether it is signalled or attached to a
submission. -/
@[ext]
structure Objects where
  timeline : Nat → Life (List Nat)
  binary : Nat → Life Bool
  fence : Nat → Life Bool

namespace Objects

/-- No object yet. -/
def empty : Objects := ⟨fun _ => .unborn, fun _ => .unborn, fun _ => .unborn⟩

/-- Leave a signal pending on a binary semaphore, or take it. -/
def setPending (g : Objects) (pending : Bool) : Option Nat → Objects
  | none => g
  | some b =>
    { g with binary := Function.update g.binary b ((g.binary b).map fun _ => pending) }

/-- Submit a value for signalling. -/
def raise (g : Objects) : Option (Nat × Nat) → Objects
  | none => g
  | some (t, v) =>
    { g with timeline := Function.update g.timeline t ((g.timeline t).map (v :: ·)) }

/-- Attach a fence, or make it unsignalled. -/
def setReady (g : Objects) (ready : Bool) : Option Nat → Objects
  | none => g
  | some f => { g with fence := Function.update g.fence f ((g.fence f).map fun _ => ready) }

/-- A submission that the device accepts. -/
def accept (g : Objects) (s : Submission) : Objects :=
  (((g.setPending false s.wait).setPending true s.signal).raise s.advance).setReady true s.fence

/-- The objects after an operation. -/
def apply (g : Objects) : Op → Objects
  | .createTimeline t => { g with timeline := Function.update g.timeline t (.live []) }
  | .destroyTimeline t =>
    { g with timeline := Function.update g.timeline t (g.timeline t).destroy }
  | .createBinary b => { g with binary := Function.update g.binary b (.live false) }
  | .destroyBinary b => { g with binary := Function.update g.binary b (g.binary b).destroy }
  | .createFence f signalled => { g with fence := Function.update g.fence f (.live signalled) }
  | .destroyFence f => { g with fence := Function.update g.fence f (g.fence f).destroy }
  | .resetFence f => g.setReady false (some f)
  | .submit s true => g.accept s
  | .submit _ false => g
  | .waitTimeline _ _ => g
  | .waitFence _ => g

end Objects

/-- The rules a submission follows. -/
structure Submission.Valid (g : Objects) (s : Submission) : Prop where
  wait : ∀ b, s.wait = some b → g.binary b = .live true
  signal : ∀ b, s.signal = some b → g.binary b = .live false
  advance : ∀ t v, s.advance = some (t, v) → ∃ vs, g.timeline t = .live vs ∧ ∀ u ∈ vs, u < v
  fence : ∀ f, s.fence = some f → g.fence f = .live false

/-- The rules an operation follows. -/
def Op.Valid (g : Objects) : Op → Prop
  | .createTimeline t => g.timeline t = .unborn
  | .destroyTimeline t => ∃ vs, g.timeline t = .live vs
  | .createBinary b => g.binary b = .unborn
  | .destroyBinary b => ∃ pending, g.binary b = .live pending
  | .createFence f _ => g.fence f = .unborn
  | .destroyFence f => ∃ ready, g.fence f = .live ready
  | .resetFence f => ∃ ready, g.fence f = .live ready
  | .submit s _ => s.Valid g
  | .waitTimeline t v => ∃ vs, g.timeline t = .live vs ∧ v ∈ vs
  | .waitFence f => g.fence f = .live true

/-! ### Histories -/

/-- The objects after a history. -/
def objects (log : List Op) : Objects := runState Objects.apply Objects.empty log

/-- Every operation of a history follows the rules. -/
def Disciplined (log : List Op) : Prop := Along Objects.apply Op.Valid Objects.empty log

/-- Every signal on a binary semaphore has been waited for by a submission. -/
def Settled (log : List Op) : Prop :=
  ∀ b, (objects log).binary b ≠ .live true ∧ (objects log).binary b ≠ .destroyed true

/-- A history goes on from the objects it has reached. -/
@[simp] theorem objects_append (log ops : List Op) :
    objects (log ++ ops) = runState Objects.apply (objects log) ops :=
  runState_append _ _ _

theorem objects_concat (log : List Op) (op : Op) :
    objects (log ++ [op]) = (objects log).apply op :=
  objects_append log [op]

/-- A history follows the rules if it did so far, and its last operation does. -/
theorem disciplined_concat (log : List Op) (op : Op) :
    Disciplined (log ++ [op]) ↔ Disciplined log ∧ op.Valid (objects log) := by
  rw [Disciplined, along_append, along_cons]
  exact and_congr_right fun _ => and_iff_left trivial

/-! ### What one operation can do to an object -/

namespace Life

variable {α : Type} {f : α → α} {m : Nat → Life α} {i j : Nat} {d : α}

/-- Changing data makes nothing alive. -/
theorem update_map_of_unborn (h : m j = .unborn) :
    Function.update m i ((m i).map f) j = .unborn := by
  rw [Function.update_apply]
  split_ifs with hj
  · rw [← hj, h]
    rfl
  · exact h

/-- Nor does ending a life. -/
theorem update_destroy_of_unborn (h : m j = .unborn) :
    Function.update m i (m i).destroy j = .unborn := by
  rw [Function.update_apply]
  split_ifs with hj
  · rw [← hj, h]
    rfl
  · exact h

/-- What is alive after a change was so before. -/
theorem exists_live_of_update_map (h : Function.update m i ((m i).map f) j = .live d) :
    ∃ d', m j = .live d' := by
  rw [Function.update_apply] at h
  split_ifs at h with hj
  · rw [hj]
    cases hm : m i with
    | live d' => exact ⟨d', rfl⟩
    | unborn => simp [hm, map] at h
    | destroyed d' => simp [hm, map] at h
  · exact ⟨d, h⟩

/-- What is destroyed then was so before, with the same data. -/
theorem eq_destroyed_of_update_map (h : Function.update m i ((m i).map f) j = .destroyed d) :
    m j = .destroyed d := by
  rw [Function.update_apply] at h
  split_ifs at h with hj
  · rw [hj]
    cases hm : m i with
    | live d' => simp [hm, map] at h
    | unborn => simp [hm, map] at h
    | destroyed d' => simpa [hm, map] using h
  · exact h

end Life

namespace Objects

variable {g : Objects}

@[simp] theorem setPending_timeline (p : Bool) (b : Option Nat) :
    (g.setPending p b).timeline = g.timeline := by
  cases b <;> rfl

@[simp] theorem setPending_fence (p : Bool) (b : Option Nat) :
    (g.setPending p b).fence = g.fence := by
  cases b <;> rfl

@[simp] theorem raise_binary (a : Option (Nat × Nat)) : (g.raise a).binary = g.binary := by
  cases a <;> rfl

@[simp] theorem raise_fence (a : Option (Nat × Nat)) : (g.raise a).fence = g.fence := by
  cases a <;> rfl

@[simp] theorem setReady_timeline (r : Bool) (f : Option Nat) :
    (g.setReady r f).timeline = g.timeline := by
  cases f <;> rfl

@[simp] theorem setReady_binary (r : Bool) (f : Option Nat) :
    (g.setReady r f).binary = g.binary := by
  cases f <;> rfl

/-- A submission raises the values of its timeline semaphore. -/
theorem accept_timeline (s : Submission) :
    (g.accept s).timeline = (g.raise s.advance).timeline := by
  obtain ⟨wait, signal, advance, fence⟩ := s
  cases advance <;> simp [accept, raise]

/-- It takes the signal it waits for, and leaves the one it signals. -/
theorem accept_binary (s : Submission) :
    (g.accept s).binary = ((g.setPending false s.wait).setPending true s.signal).binary := by
  simp [accept]

/-- It attaches its fence. -/
theorem accept_fence (s : Submission) :
    (g.accept s).fence = (g.setReady true s.fence).fence := by
  obtain ⟨wait, signal, advance, fence⟩ := s
  cases fence <;> simp [accept, setReady]

theorem setPending_of_unborn {p : Bool} {b : Option Nat} {i : Nat} (h : g.binary i = .unborn) :
    (g.setPending p b).binary i = .unborn := by
  cases b with
  | none => exact h
  | some b => exact Life.update_map_of_unborn h

theorem exists_live_of_setPending {p d : Bool} {b : Option Nat} {i : Nat}
    (h : (g.setPending p b).binary i = .live d) : ∃ d', g.binary i = .live d' := by
  cases b with
  | none => exact ⟨d, h⟩
  | some b => exact Life.exists_live_of_update_map h

theorem eq_destroyed_of_setPending {p d : Bool} {b : Option Nat} {i : Nat}
    (h : (g.setPending p b).binary i = .destroyed d) : g.binary i = .destroyed d := by
  cases b with
  | none => exact h
  | some b => exact Life.eq_destroyed_of_update_map h

/-- A timeline semaphore that is not there appears only by being created. -/
theorem timeline_unborn_of_apply {op : Op} {i : Nat} (h : g.timeline i = .unborn)
    (hop : op ≠ .createTimeline i) : (g.apply op).timeline i = .unborn := by
  cases op with
  | createTimeline t =>
    have hne : i ≠ t := fun heq => hop (heq ▸ rfl)
    exact (Function.update_of_ne hne _ _).trans h
  | destroyTimeline t => exact Life.update_destroy_of_unborn h
  | submit s accepted =>
    cases accepted with
    | false => exact h
    | true =>
      change (g.accept s).timeline i = _
      rw [accept_timeline]
      cases s.advance with
      | none => exact h
      | some a => exact Life.update_map_of_unborn h
  | _ => exact h

/-- A binary semaphore that is not there appears only by being created. -/
theorem binary_unborn_of_apply {op : Op} {i : Nat} (h : g.binary i = .unborn)
    (hop : op ≠ .createBinary i) : (g.apply op).binary i = .unborn := by
  cases op with
  | createBinary b =>
    have hne : i ≠ b := fun heq => hop (heq ▸ rfl)
    exact (Function.update_of_ne hne _ _).trans h
  | destroyBinary b => exact Life.update_destroy_of_unborn h
  | submit s accepted =>
    cases accepted with
    | false => exact h
    | true =>
      change (g.accept s).binary i = _
      rw [accept_binary]
      exact setPending_of_unborn (setPending_of_unborn h)
  | _ => exact h

/-- A fence that is not there appears only by being created. -/
theorem fence_unborn_of_apply {op : Op} {i : Nat} (h : g.fence i = .unborn)
    (hop : ∀ signalled, op ≠ .createFence i signalled) : (g.apply op).fence i = .unborn := by
  cases op with
  | createFence f signalled =>
    have hne : i ≠ f := fun heq => hop signalled (heq ▸ rfl)
    exact (Function.update_of_ne hne _ _).trans h
  | destroyFence f => exact Life.update_destroy_of_unborn h
  | resetFence f => exact Life.update_map_of_unborn h
  | submit s accepted =>
    cases accepted with
    | false => exact h
    | true =>
      change (g.accept s).fence i = _
      rw [accept_fence]
      cases s.fence with
      | none => exact h
      | some f => exact Life.update_map_of_unborn h
  | _ => exact h

/-- A binary semaphore that is live after an operation was live before, or is created by it. -/
theorem binary_live_of_apply {op : Op} {i : Nat} {d : Bool}
    (h : (g.apply op).binary i = .live d) :
    op = .createBinary i ∨ ∃ d', g.binary i = .live d' := by
  cases op with
  | createBinary b =>
    by_cases hi : i = b
    · exact .inl (by rw [hi])
    · exact .inr ⟨d, (Function.update_of_ne hi _ _).symm.trans h⟩
  | destroyBinary b =>
    refine .inr ?_
    change Function.update g.binary b (g.binary b).destroy i = _ at h
    rw [Function.update_apply] at h
    split_ifs at h with hi
    · cases hb : g.binary b <;> simp [hb, Life.destroy] at h
    · exact ⟨d, h⟩
  | submit s accepted =>
    refine .inr ?_
    cases accepted with
    | false => exact ⟨d, h⟩
    | true =>
      change (g.accept s).binary i = _ at h
      rw [accept_binary] at h
      obtain ⟨d', h'⟩ := exists_live_of_setPending h
      exact exists_live_of_setPending h'
  | _ => exact .inr ⟨d, h⟩

/-- A binary semaphore that is gone after an operation was gone before, or is destroyed by it. -/
theorem binary_destroyed_of_apply {op : Op} {i : Nat} {d : Bool}
    (h : (g.apply op).binary i = .destroyed d) :
    g.binary i = .destroyed d ∨ op = .destroyBinary i ∧ g.binary i = .live d := by
  cases op with
  | createBinary b =>
    by_cases hi : i = b
    · subst hi
      change Function.update g.binary i _ i = _ at h
      simp at h
    · exact .inl ((Function.update_of_ne hi _ _).symm.trans h)
  | destroyBinary b =>
    change Function.update g.binary b (g.binary b).destroy i = _ at h
    rw [Function.update_apply] at h
    split_ifs at h with hi
    · subst hi
      cases hb : g.binary i with
      | live d' => exact .inr ⟨rfl, by simpa [hb, Life.destroy] using h⟩
      | unborn => simp [hb, Life.destroy] at h
      | destroyed d' => exact .inl (by simpa [hb, Life.destroy] using h)
    · exact .inl h
  | submit s accepted =>
    refine .inl ?_
    cases accepted with
    | false => exact h
    | true =>
      change (g.accept s).binary i = _ at h
      rw [accept_binary] at h
      exact eq_destroyed_of_setPending (eq_destroyed_of_setPending h)
  | _ => exact .inl h

end Objects

end OkularV3d.SyncObjects
