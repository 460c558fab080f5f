import Mathlib.Logic.Function.Basic
import Mathlib.Data.List.Basic

/-!
# Chains of handlers

An event that several parties may take is offered to them in turn: each handles it, which may
change the party's state, and answers whether it takes the event, which ends the chain. The states
of the parties are a function of the party.

`offered` lists the parties that see the event. The rules:

* `mem_of_mem_offered`: only the parties of the chain see it;
* `offer_of_not_mem`, `mem_offered_of_taken`: every other party keeps its state and does not take
  the event;
* `offer_invariant`: what every handler preserves survives the event, for each party.

Nothing is said about how a party changes when it takes an event: the rules pass on whatever its
handler keeps. A chain in which some parties only look is one whose handlers answer that they do not
take the event.
-/

namespace OkularV3d.Dispatch

variable {ι σ : Type*} [DecidableEq ι]

/-- Offers an event to the parties in turn, until one takes it: their states afterwards, and the
party that took it. -/
def offer (handler : ι → σ → σ × Bool) : List ι → (ι → σ) → (ι → σ) × Option ι
  | [], s => (s, none)
  | i :: is, s =>
    let s' := Function.update s i (handler i (s i)).1
    if (handler i (s i)).2 then (s', some i) else offer handler is s'

/-- The parties that see the event. -/
def offered (handler : ι → σ → σ × Bool) : List ι → (ι → σ) → List ι
  | [], _ => []
  | i :: is, s =>
    i :: if (handler i (s i)).2 then []
      else offered handler is (Function.update s i (handler i (s i)).1)

variable {handler : ι → σ → σ × Bool} {s : ι → σ} {is : List ι} {i : ι}

/-- Only the parties of the chain see the event. -/
theorem mem_of_mem_offered (h : i ∈ offered handler is s) : i ∈ is := by
  induction is generalizing s with
  | nil => exact h
  | cons j is ih =>
    rcases List.mem_cons.mp h with rfl | h
    · exact List.mem_cons_self
    · split_ifs at h
      · exact absurd h List.not_mem_nil
      · exact List.mem_cons_of_mem _ (ih h)

/-- A party that does not see the event keeps its state. -/
theorem offer_of_not_mem (h : i ∉ offered handler is s) : (offer handler is s).1 i = s i := by
  induction is generalizing s with
  | nil => rfl
  | cons j is ih =>
    obtain ⟨hne, hrest⟩ := List.ne_and_not_mem_of_not_mem_cons h
    rw [offer]
    split_ifs at hrest ⊢ with htaken
    · exact Function.update_of_ne hne _ _
    · exact (ih hrest).trans (Function.update_of_ne hne _ _)

/-- A party that takes the event has seen it. -/
theorem mem_offered_of_taken (h : (offer handler is s).2 = some i) : i ∈ offered handler is s := by
  induction is generalizing s with
  | nil => exact nomatch h
  | cons j is ih =>
    rw [offer] at h
    rw [offered]
    split_ifs at h ⊢ with htaken
    · exact List.mem_cons.mpr (.inl (Option.some.inj h).symm)
    · exact List.mem_cons_of_mem _ (ih h)

/-- **What every handler preserves survives the event**, for each party. -/
theorem offer_invariant {Q : ι → σ → Prop} (hQ : ∀ i x, Q i x → Q i (handler i x).1)
    (hs : Q i (s i)) : Q i ((offer handler is s).1 i) := by
  induction is generalizing s with
  | nil => exact hs
  | cons j is ih =>
    have hs' : Q i (Function.update s j (handler j (s j)).1 i) := by
      by_cases hij : i = j
      · subst hij
        rw [Function.update_self]
        exact hQ i (s i) hs
      · rw [Function.update_of_ne hij]
        exact hs
    rw [offer]
    split_ifs
    · exact hs'
    · exact ih hs'

end OkularV3d.Dispatch
