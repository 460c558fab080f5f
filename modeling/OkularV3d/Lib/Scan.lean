import Mathlib.Algebra.BigOperators.Intervals

/-!
# Sums of arrays in rounds

Two ways in which the threads of a group add up an array in place, with a barrier after every round.

`halve` adds the upper half of what is left to the lower half; after all rounds the first place has
the sum (`foldl_halve`). `shift` adds to every place the one that is a stride before it, which
doubles what a place has the total of (`foldl_shift`); this needs no more of the operation than that
the totals of two neighbouring intervals combine to that of both, so that it serves for sums and for
maxima.

* `strides` are the strides of `k` rounds, and `foldl_shift_congr` says that only the places of the
  array matter.

How a group of threads carries out a round is in `OkularV3d.Lib.WorkGroups`; here a round is a
function on arrays.
-/

namespace OkularV3d.Scan

open Finset

variable {M : Type*}

/-- The strides of `k` rounds. -/
def strides (k : ℕ) : List ℕ := (List.range k).map (2 ^ ·)

theorem strides_succ (k : ℕ) : strides (k + 1) = strides k ++ [2 ^ k] := by
  rw [strides, List.range_succ, List.map_append]
  rfl

section Halve

variable [AddCommMonoid M] (x : ℕ → M)

/-- A round that halves what is left. -/
def halve (s : ℕ) (x : ℕ → M) (i : ℕ) : M := if i < s then x i + x (i + s) else x i

/-- Nothing is lost in a round. -/
theorem sum_halve (s : ℕ) : ∑ i ∈ range s, halve s x i = ∑ i ∈ range (s + s), x i := by
  rw [sum_range_add, ← sum_add_distrib]
  refine sum_congr rfl fun i hi => ?_
  rw [halve, if_pos (mem_range.mp hi), Nat.add_comm i s]

/-- **The first place has the sum.** -/
theorem foldl_halve (k : ℕ) :
    (strides k).reverse.foldl (fun x s => halve s x) x 0 = ∑ i ∈ range (2 ^ k), x i := by
  induction k generalizing x with
  | zero => rw [pow_zero, sum_range_one]; rfl
  | succ k ih =>
    rw [strides_succ, List.reverse_append, List.reverse_singleton, List.singleton_append,
      List.foldl_cons, ih, sum_halve, pow_succ, Nat.mul_two]

end Halve

section Shift

/-- A round that adds what is a stride before. -/
def shift (op : M → M → M) (s : ℕ) (x : ℕ → M) (i : ℕ) : M :=
  if s ≤ i then op (x i) (x (i - s)) else x i

/-- **Every place has the total of what it and those before it began with**, as far back as the
strides reach. `Total a b v` says that `v` is the total of the places from `a` to before `b`. -/
theorem foldl_shift {op : M → M → M} {x : ℕ → M} (Total : ℕ → ℕ → M → Prop)
    (hone : ∀ i, Total i (i + 1) (x i))
    (happend : ∀ {a b c u v}, a ≤ b → b ≤ c → Total a b u → Total b c v → Total a c (op v u))
    (k i : ℕ) :
    Total (i + 1 - 2 ^ k) (i + 1) ((strides k).foldl (fun x s => shift op s x) x i) := by
  induction k generalizing i with
  | zero => exact hone i
  | succ k ih =>
    rw [strides_succ, List.foldl_append, List.foldl_cons, List.foldl_nil, shift]
    have hdouble : 2 ^ (k + 1) = 2 ^ k + 2 ^ k := by rw [pow_succ, Nat.mul_two]
    split_ifs with hstride
    · have hbefore := ih (i - 2 ^ k)
      rw [show i - 2 ^ k + 1 = i + 1 - 2 ^ k by omega] at hbefore
      rw [hdouble, ← Nat.sub_sub]
      exact happend (Nat.sub_le _ _) (Nat.sub_le _ _) hbefore (ih i)
    · have hreach := ih i
      rwa [show i + 1 - 2 ^ k = i + 1 - 2 ^ (k + 1) by omega] at hreach

/-- The whole of the array is summed up as soon as the strides reach back to its first place. -/
theorem foldl_shift_of_lt {op : M → M → M} {x : ℕ → M} (Total : ℕ → ℕ → M → Prop)
    (hone : ∀ i, Total i (i + 1) (x i))
    (happend : ∀ {a b c u v}, a ≤ b → b ≤ c → Total a b u → Total b c v → Total a c (op v u))
    {k i : ℕ}
    (hi : i < 2 ^ k) : Total 0 (i + 1) ((strides k).foldl (fun x s => shift op s x) x i) := by
  have htotal := foldl_shift Total hone happend k i
  rwa [Nat.sub_eq_zero_of_le hi] at htotal

/-- The sums of all places up to each. -/
theorem foldl_shift_add [AddCommMonoid M] (x : ℕ → M) {k i : ℕ} (hi : i < 2 ^ k) :
    (strides k).foldl (fun x s => shift (· + ·) s x) x i = ∑ j ∈ range (i + 1), x j := by
  rw [range_eq_Ico]
  refine foldl_shift_of_lt (fun a b v => v = ∑ j ∈ Ico a b, x j) (fun j => ?_) ?_ hi
  · rw [Nat.Ico_succ_singleton, sum_singleton]
  · rintro a b c u v hab hbc rfl rfl
    rw [add_comm, sum_Ico_consecutive x hab hbc]

/-- A round looks at nothing behind a place. -/
theorem shift_congr {op : M → M → M} {x y : ℕ → M} {n : ℕ} (h : ∀ i < n, x i = y i) (s : ℕ) {i : ℕ}
    (hi : i < n) : shift op s x i = shift op s y i := by
  rw [shift, shift, h i hi, h (i - s) ((Nat.sub_le i s).trans_lt hi)]

theorem foldl_shift_congr {op : M → M → M} {x y : ℕ → M} {n : ℕ} (h : ∀ i < n, x i = y i)
    (ss : List ℕ) {i : ℕ} (hi : i < n) :
    ss.foldl (fun x s => shift op s x) x i = ss.foldl (fun x s => shift op s x) y i := by
  induction ss generalizing x y with
  | nil => exact h i hi
  | cons s ss ih => exact ih fun j hj => shift_congr h s hj

end Shift

/-! ### Blocks -/

section Blocks

variable [AddCommMonoid M] (x : ℕ → M)

/-- A sum block by block. -/
theorem sum_range_mul (m n : ℕ) :
    ∑ i ∈ range (m * n), x i = ∑ j ∈ range n, ∑ i ∈ range m, x (m * j + i) := by
  induction n with
  | zero => simp
  | succ n ih => rw [Nat.mul_succ, sum_range_add, ih, sum_range_succ]

/-- A sum in which every thread takes each place at a distance from the one before. -/
theorem sum_range_mul' (m n : ℕ) :
    ∑ i ∈ range (m * n), x i = ∑ i ∈ range m, ∑ j ∈ range n, x (i + m * j) := by
  rw [sum_range_mul, sum_comm]
  exact sum_congr rfl fun i _ => sum_congr rfl fun j _ => by rw [Nat.add_comm]

end Blocks

end OkularV3d.Scan
