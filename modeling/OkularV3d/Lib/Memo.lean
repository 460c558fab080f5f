import Mathlib.Data.List.AList

/-!
# Memo tables

A memo table stores values of a function `f` by key. The table is **coherent** with `f` when
every stored value is still `f` of its key. Storing a fresh value and clearing keep coherence;
replacing `f` by another function keeps it exactly when the two agree on the stored keys. That
is the whole invalidation argument of a cache: an operation that changes `f` either clears the
table or leaves `f` alone on what the table holds.

* `coherent_empty` and `Coherent.insert` are the two ways to stay coherent.
* `Coherent.agreeOn_iff` is the exact condition for a new function.
-/

namespace OkularV3d.Memo

variable {κ ν : Type*} [DecidableEq κ]

/-- Every stored value is the value of `f` at its key. -/
def Coherent (table : AList fun _ : κ => ν) (f : κ → ν) : Prop :=
  ∀ key value, table.lookup key = some value → f key = value

/-- `f` and `g` agree on every stored key. -/
def AgreeOn (table : AList fun _ : κ => ν) (f g : κ → ν) : Prop :=
  ∀ key value, table.lookup key = some value → g key = f key

variable {table : AList fun _ : κ => ν} {f g : κ → ν}

theorem coherent_empty (f : κ → ν) : Coherent ∅ f := by
  intro key value h
  simp [AList.lookup_empty] at h

/-- A lookup after an insertion finds the new value or an old one at another key. -/
theorem lookup_insert_cases {key key' : κ} {value value' : ν}
    (h : (table.insert key value).lookup key' = some value') :
    key' = key ∧ value' = value ∨ table.lookup key' = some value' := by
  by_cases hkey : key' = key
  · subst hkey
    rw [AList.lookup_insert, Option.some.injEq] at h
    exact Or.inl ⟨rfl, h.symm⟩
  · exact Or.inr (by rwa [AList.lookup_insert_ne hkey] at h)

/-- Storing the value of `f` at a key keeps coherence. -/
theorem Coherent.insert (h : Coherent table f) (key : κ) :
    Coherent (table.insert key (f key)) f := by
  intro key' value hlookup
  rcases lookup_insert_cases hlookup with ⟨rfl, rfl⟩ | hold
  · rfl
  · exact h key' value hold

/-- A change of the function keeps coherence exactly when it shows at no stored key. -/
theorem Coherent.agreeOn_iff (h : Coherent table f) : Coherent table g ↔ AgreeOn table f g := by
  refine ⟨fun hg key value hlookup => ?_, fun hagree key value hlookup => ?_⟩
  · rw [hg key value hlookup, h key value hlookup]
  · rw [hagree key value hlookup, h key value hlookup]

end OkularV3d.Memo
