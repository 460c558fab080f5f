import Mathlib.Data.List.Basic
import Mathlib.Data.List.Forall2
import Mathlib.Tactic.Common

/-!
# Gated copies

Several writers fill a set of buffers from scratch in every round, and each buffer has a copy
elsewhere that is refreshed only if some writer has **marked** the buffer in that round. A writer's
round is the list of its effects: `mark k`, or `put k a` to append a piece to buffer `k`.

The copy of `k` may be kept when every writer `Repeats k`: it marks the buffer, or puts into it
exactly what it put there in the round before. `repeats_flatten` passes from the writers to the
buffer; `marks_flatten` is for a round in which whoever puts something also marks.

* `contrib` is what a round puts into a buffer, and `Marked` whether the round marks it.
* `Repeats` and `Marks` are the two ways for a kept copy to be right; both pass from the writers to
  the round.
* `Only` and `Renews` are for writers that have one buffer of their own.
* `Puts` says of every piece that it satisfies a property that may depend on the buffer.
-/

namespace OkularV3d.Gate

/-- One effect of a writer. -/
inductive Effect (κ α : Type*) where
  | mark (k : κ)
  | put (k : κ) (a : α)
  deriving DecidableEq

variable {κ α β : Type*}

/-- Some effect marks buffer `k`. -/
def Marked (k : κ) (es : List (Effect κ α)) : Prop := Effect.mark k ∈ es

@[simp] theorem not_marked_nil (k : κ) : ¬ Marked k ([] : List (Effect κ α)) :=
  List.not_mem_nil

@[simp] theorem marked_mark_cons (k k' : κ) (es : List (Effect κ α)) :
    Marked k (.mark k' :: es) ↔ k = k' ∨ Marked k es := by
  simp [Marked]

@[simp] theorem marked_put_cons (k k' : κ) (a : α) (es : List (Effect κ α)) :
    Marked k (.put k' a :: es) ↔ Marked k es := by
  simp [Marked]

@[simp] theorem marked_append (k : κ) (es fs : List (Effect κ α)) :
    Marked k (es ++ fs) ↔ Marked k es ∨ Marked k fs :=
  List.mem_append

variable [DecidableEq κ]

/-- The piece an effect appends to buffer `k`, if it does. -/
def Effect.piece? (k : κ) : Effect κ α → Option α
  | .mark _ => none
  | .put k' a => if k' = k then some a else none

/-- The pieces put into buffer `k`, in order. -/
def contrib (k : κ) (es : List (Effect κ α)) : List α := es.filterMap (Effect.piece? k)

@[simp] theorem contrib_nil (k : κ) : contrib k ([] : List (Effect κ α)) = [] := rfl

@[simp] theorem contrib_mark (k k' : κ) (es : List (Effect κ α)) :
    contrib k (.mark k' :: es) = contrib k es := rfl

@[simp] theorem contrib_put_self (k : κ) (a : α) (es : List (Effect κ α)) :
    contrib k (.put k a :: es) = a :: contrib k es := by
  simp [contrib, Effect.piece?]

/-- What is put into another buffer is no piece of this one. -/
theorem contrib_put_of_ne {k k' : κ} (h : k' ≠ k) (a : α) (es : List (Effect κ α)) :
    contrib k (.put k' a :: es) = contrib k es := by
  simp [contrib, Effect.piece?, h]

/-- The pieces of two rounds are those of the one and then those of the other. -/
@[simp] theorem contrib_append (k : κ) (es fs : List (Effect κ α)) :
    contrib k (es ++ fs) = contrib k es ++ contrib k fs :=
  List.filterMap_append

/-- Against the round `es` before, the round `fs` marks buffer `k` or puts the same into it. -/
def Repeats (k : κ) (es fs : List (Effect κ α)) : Prop :=
  Marked k fs ∨ contrib k fs = contrib k es

/-- Whoever puts something into buffer `k` also marks it. -/
def Marks (k : κ) (es : List (Effect κ α)) : Prop := contrib k es ≠ [] → Marked k es

/-- Two writers that repeat their rounds repeat them together. -/
theorem Repeats.append {k : κ} {es fs es' fs' : List (Effect κ α)} (h : Repeats k es fs)
    (h' : Repeats k es' fs') : Repeats k (es ++ es') (fs ++ fs') := by
  rcases h with h | h
  · exact .inl ((marked_append ..).mpr (.inl h))
  rcases h' with h' | h'
  · exact .inl ((marked_append ..).mpr (.inr h'))
  · exact .inr (by rw [contrib_append, contrib_append, h, h'])

/-- Two that mark what they put mark it together. -/
theorem Marks.append {k : κ} {es fs : List (Effect κ α)} (h : Marks k es) (h' : Marks k fs) :
    Marks k (es ++ fs) := by
  intro hne
  rw [contrib_append, ne_eq, List.append_eq_nil_iff, not_and_or] at hne
  exact (marked_append ..).mpr (hne.imp h h')

/-- **From the writers to the buffer**: if every writer repeats its last round on `k` or marks it,
so does the whole round. -/
theorem repeats_flatten {k : κ} {ess fss : List (List (Effect κ α))}
    (h : List.Forall₂ (Repeats k) ess fss) : Repeats k ess.flatten fss.flatten := by
  induction h with
  | nil => exact .inr rfl
  | cons h _ ih => exact h.append ih

/-- A round of writers that mark whatever they put into `k` marks it, unless it stays empty. -/
theorem marks_flatten {k : κ} {ess : List (List (Effect κ α))} (h : ∀ es ∈ ess, Marks k es) :
    Marks k ess.flatten := by
  induction ess with
  | nil => exact fun hne => absurd rfl hne
  | cons es ess ih =>
    rw [List.flatten_cons]
    exact (h es List.mem_cons_self).append (ih fun fs hfs => h fs (List.mem_cons_of_mem _ hfs))

/-! ### Writers with one buffer of their own -/

/-- Nothing is put into any buffer but `k`. -/
def Only (k : κ) (es : List (Effect κ α)) : Prop := ∀ b ≠ k, contrib b es = []

/-- Against the round `es` before, buffer `k` is marked, or nothing was or is put into it. -/
def Renews (k : κ) (es fs : List (Effect κ α)) : Prop :=
  Marked k fs ∨ contrib k fs = [] ∧ contrib k es = []

theorem only_nil (k : κ) : Only k ([] : List (Effect κ α)) := fun _ _ => rfl

/-- A mark puts nothing anywhere. -/
theorem Only.mark {k : κ} {es : List (Effect κ α)} (h : Only k es) (k' : κ) :
    Only k (.mark k' :: es) :=
  h

theorem Only.put {k : κ} {es : List (Effect κ α)} (h : Only k es) (a : α) :
    Only k (.put k a :: es) := by
  intro b hb
  rw [contrib_put_of_ne hb.symm]
  exact h b hb

/-- Two writers with the same buffer have no other. -/
theorem Only.append {k : κ} {es fs : List (Effect κ α)} (h : Only k es) (h' : Only k fs) :
    Only k (es ++ fs) := by
  intro b hb
  rw [contrib_append, h b hb, h' b hb, List.append_nil]

/-- Nor have any number of them. -/
theorem Only.flatMap {k : κ} {ι : Type*} {xs : List ι} {f : ι → List (Effect κ α)}
    (h : ∀ x ∈ xs, Only k (f x)) : Only k (xs.flatMap f) := by
  induction xs with
  | nil => exact only_nil k
  | cons x xs ih =>
    rw [List.flatMap_cons]
    exact (h x List.mem_cons_self).append (ih fun y hy => h y (List.mem_cons_of_mem _ hy))

/-- A writer that only writes to `k` renews everything once it marks `k`. -/
theorem Only.renews {k : κ} {es fs : List (Effect κ α)} (h : Only k es) (h' : Only k fs)
    (hk : Renews k es fs) (b : κ) : Renews b es fs := by
  by_cases hb : b = k
  · exact hb ▸ hk
  · exact .inr ⟨h' b hb, h b hb⟩

/-- Who puts into one buffer only, and marks it, marks whatever it puts into. -/
theorem Only.marks {k : κ} {es : List (Effect κ α)} (h : Only k es) (hk : Marks k es) (b : κ) :
    Marks b es := by
  by_cases hb : b = k
  · exact hb ▸ hk
  · exact fun hne => absurd (h b hb) hne

/-! ### Pieces changed on the way -/

/-- Effects whose pieces are passed through a function on the way to their buffer. -/
def Effect.map (f : κ → α → β) : Effect κ α → Effect κ β
  | .mark k => .mark k
  | .put k a => .put k (f k a)

/-- The pieces that were changed on the way are those that were put, changed. -/
theorem contrib_map (f : κ → α → β) (k : κ) (es : List (Effect κ α)) :
    contrib k (es.map (Effect.map f)) = (contrib k es).map (f k) := by
  induction es with
  | nil => rfl
  | cons e es ih =>
    cases e with
    | mark k' => simpa [Effect.map] using ih
    | put k' a =>
      by_cases hk : k' = k
      · subst hk
        simp [Effect.map, ih]
      · rw [List.map_cons, Effect.map, contrib_put_of_ne hk, contrib_put_of_ne hk, ih]

omit [DecidableEq κ] in
/-- Changing the pieces leaves the marks alone. -/
@[simp] theorem marked_map (f : κ → α → β) (k : κ) (es : List (Effect κ α)) :
    Marked k (es.map (Effect.map f)) ↔ Marked k es := by
  induction es with
  | nil => simp
  | cons e es ih => cases e <;> simp [Effect.map, ih]

/-! ### What every piece satisfies -/

section Puts

omit [DecidableEq κ]

variable {P : κ → α → Prop}

/-- Every piece is put into a buffer that may hold it. -/
def Puts (P : κ → α → Prop) (es : List (Effect κ α)) : Prop :=
  ∀ k a, Effect.put k a ∈ es → P k a

@[simp] theorem puts_nil : Puts P ([] : List (Effect κ α)) :=
  fun _ _ h => absurd h List.not_mem_nil

@[simp] theorem puts_mark_cons (k : κ) (es : List (Effect κ α)) :
    Puts P (.mark k :: es) ↔ Puts P es := by
  simp [Puts]

@[simp] theorem puts_put_cons (k : κ) (a : α) (es : List (Effect κ α)) :
    Puts P (.put k a :: es) ↔ P k a ∧ Puts P es := by
  refine ⟨fun h => ⟨h k a List.mem_cons_self, fun k' a' hput =>
    h k' a' (List.mem_cons_of_mem _ hput)⟩, fun h k' a' hput => ?_⟩
  rcases List.mem_cons.mp hput with heq | hput
  · obtain ⟨rfl, rfl⟩ := Effect.put.inj heq
    exact h.1
  · exact h.2 k' a' hput

theorem puts_mark (k : κ) {es : List (Effect κ α)} (h : Puts P es) : Puts P (.mark k :: es) :=
  (puts_mark_cons k es).mpr h

theorem puts_put {k : κ} {a : α} (h : P k a) : Puts P [.put k a] :=
  (puts_put_cons k a []).mpr ⟨h, puts_nil⟩

/-- What is put by either of two writers satisfies the property if both see to it. -/
theorem Puts.append {es fs : List (Effect κ α)} (h : Puts P es) (h' : Puts P fs) :
    Puts P (es ++ fs) := by
  intro k a hput
  exact (List.mem_append.mp hput).elim (h k a) (h' k a)

/-- So it does for any number of writers. -/
theorem Puts.flatMap {ι : Type*} {xs : List ι} {f : ι → List (Effect κ α)}
    (h : ∀ x ∈ xs, Puts P (f x)) : Puts P (xs.flatMap f) := by
  intro k a hput
  obtain ⟨x, hx, hput⟩ := List.mem_flatMap.mp hput
  exact h x hx k a hput

/-- Pieces changed on the way. -/
theorem Puts.map {Q : κ → β → Prop} {f : κ → α → β} {es : List (Effect κ α)} (h : Puts P es)
    (hf : ∀ k a, P k a → Q k (f k a)) : Puts Q (es.map (Effect.map f)) := by
  intro k b hput
  obtain ⟨e, he, heq⟩ := List.mem_map.mp hput
  cases e with
  | mark k' => cases heq
  | put k' a =>
    obtain ⟨rfl, rfl⟩ := Effect.put.inj heq
    exact hf k' a (h k' a he)

end Puts

/-- The pieces of a buffer are among those that were put. -/
theorem Puts.contrib {P : κ → α → Prop} {es : List (Effect κ α)} (h : Puts P es) (k : κ) :
    ∀ a ∈ contrib k es, P k a := by
  intro a ha
  obtain ⟨e, he, hpiece⟩ := List.mem_filterMap.mp ha
  cases e with
  | mark k' => cases hpiece
  | put k' a' =>
    obtain ⟨rfl, rfl⟩ : k' = k ∧ a' = a := by
      simpa [Effect.piece?, Option.ite_none_right_eq_some] using hpiece
    exact h k' a' he

end OkularV3d.Gate
