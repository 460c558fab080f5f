import Mathlib.Algebra.BigOperators.Group.List.Basic
import Mathlib.Algebra.Group.Action.Defs
import Mathlib.Algebra.Ring.Nat
import Mathlib.Tactic.Common

/-!
# Recursive subdivision

A node is split into a list of parts, each of them again, and so on to a fixed depth:
`leaves split d a` are the parts of `a` at depth `d`, in the order the recursion visits them. Two
rules carry facts from one split to all leaves: an invariant that every part inherits holds of the
leaves (`of_mem_leaves`), and what separates the parts of one split separates any two leaves
(`pairwise_leaves`).

The case of interest is a triangle that is split into four at the midpoints of its sides
(`quarters`), for any notion of midpoint.

* `length_leaves` counts the leaves of a split into a fixed number of parts.
* `Trigon.rotations` and `Trigon.sides` read a triangle from each of its corners.
-/

namespace OkularV3d

namespace Subdivision

variable {α β : Type*} {split : α → List α}

/-- The parts at depth `d`. -/
def leaves (split : α → List α) : ℕ → α → List α
  | 0, a => [a]
  | d + 1, a => (split a).flatMap (leaves split d)

@[simp] theorem leaves_zero (a : α) : leaves split 0 a = [a] := rfl

theorem leaves_succ (d : ℕ) (a : α) :
    leaves split (d + 1) a = (split a).flatMap (leaves split d) := rfl

theorem length_leaves {n : ℕ} (hsplit : ∀ a, (split a).length = n) (d : ℕ) (a : α) :
    (leaves split d a).length = n ^ d := by
  induction d generalizing a with
  | zero => rfl
  | succ d ih =>
    rw [leaves_succ, List.length_flatMap]
    simp only [ih, List.map_const', List.sum_replicate, hsplit, smul_eq_mul, pow_succ, mul_comm]

/-- A map that takes splits to splits takes leaves to leaves. -/
theorem map_leaves {split' : β → List β} {f : α → β} (hmap : ∀ a, (split a).map f = split' (f a))
    (d : ℕ) (a : α) : (leaves split d a).map f = leaves split' d (f a) := by
  induction d generalizing a with
  | zero => rfl
  | succ d ih =>
    rw [leaves_succ, leaves_succ, List.map_flatMap, ← hmap a, List.flatMap_map]
    exact List.flatMap_congr fun b _ => ih b

/-- **Rule for an invariant.** What every part inherits holds of the leaves. -/
theorem of_mem_leaves {Inv : α → Prop} (hinv : ∀ a, Inv a → ∀ b ∈ split a, Inv b) {d : ℕ} {a : α}
    (ha : Inv a) : ∀ b ∈ leaves split d a, Inv b := by
  induction d generalizing a with
  | zero =>
    intro b hb
    rw [List.mem_singleton.mp hb]
    exact ha
  | succ d ih =>
    intro b hb
    obtain ⟨c, hc, hb⟩ := List.mem_flatMap.mp hb
    exact ih (hinv a ha c hc) b hb

/-- **Rule for pairs of leaves.** Two leaves part ways at some split: a relation between the leaves
of different parts of one split holds between any two leaves. -/
theorem pairwise_leaves {Inv : α → Prop} {R : α → α → Prop}
    (hinv : ∀ a, Inv a → ∀ b ∈ split a, Inv b)
    (hpair : ∀ a, Inv a → (split a).Pairwise fun b c =>
      ∀ d, ∀ x ∈ leaves split d b, ∀ y ∈ leaves split d c, R x y)
    (d : ℕ) {a : α} (ha : Inv a) : (leaves split d a).Pairwise R := by
  induction d generalizing a with
  | zero => exact List.pairwise_singleton ..
  | succ d ih =>
    rw [leaves_succ, List.pairwise_flatMap]
    exact ⟨fun b hb => ih (hinv a ha b hb), (hpair a ha).imp fun h => h d⟩

end Subdivision

/-- A triangle, by its corners in order. -/
structure Trigon (V : Type*) where
  a : V
  b : V
  c : V

namespace Trigon

variable {V W : Type*} (mid : V → V → V) (T : Trigon V)

/-- A triangle split at the midpoints of its sides: a part at each corner, and the one between. -/
def quarters : List (Trigon V) :=
  [⟨T.a, mid T.a T.b, mid T.c T.a⟩, ⟨T.b, mid T.b T.c, mid T.a T.b⟩,
    ⟨T.c, mid T.c T.a, mid T.b T.c⟩, ⟨mid T.a T.b, mid T.b T.c, mid T.c T.a⟩]

@[simp] theorem length_quarters : (T.quarters mid).length = 4 := rfl

theorem forall_mem_quarters {P : Trigon V → Prop} :
    (∀ U ∈ T.quarters mid, P U) ↔
      P ⟨T.a, mid T.a T.b, mid T.c T.a⟩ ∧ P ⟨T.b, mid T.b T.c, mid T.a T.b⟩ ∧
        P ⟨T.c, mid T.c T.a, mid T.b T.c⟩ ∧ P ⟨mid T.a T.b, mid T.b T.c, mid T.c T.a⟩ := by
  simp [quarters]

def corners : List V := [T.a, T.b, T.c]

/-- The same triangle, read from each of its corners. -/
def rotations : List (Trigon V) := [T, ⟨T.b, T.c, T.a⟩, ⟨T.c, T.a, T.b⟩]

/-- The sides, each from its first corner to its second. -/
def sides : List (V × V) := T.rotations.map fun U => (U.a, U.b)

/-- The corners in another space. -/
def map (f : V → W) : Trigon W := ⟨f T.a, f T.b, f T.c⟩

theorem map_quarters {mid' : W → W → W} {f : V → W} (hf : ∀ p q, f (mid p q) = mid' (f p) (f q)) :
    (T.quarters mid).map (fun U => U.map f) = (T.map f).quarters mid' := by
  simp only [quarters, map, List.map_cons, List.map_nil, hf]

theorem sides_map (f : V → W) : (T.map f).sides = T.sides.map (Prod.map f f) := rfl

end Trigon

end OkularV3d
