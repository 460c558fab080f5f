import Mathlib.Algebra.BigOperators.Fin
import Mathlib.Algebra.Module.BigOperators
import Mathlib.Algebra.Module.Pi
import Mathlib.Tactic.FinCases
import Mathlib.Tactic.Ring

/-!
# Cubic Bezier curves and patches

A cubic curve is the combination of four control points with the Bernstein weights, and a bicubic
patch is the curve, in one parameter, of four curves in the other. The weights add up to one, so a
patch whose control points are sums of a row part and a column part is the sum of two curves, one in
each parameter (`patch_add`): this is what it means for a patch to be swept out.

* `curve` and `patch` are the points of a curve and of a patch, over any module.
* `curve_add` and `patch_add` take sums of control points to sums of points.

De Casteljau's construction, which cuts curves and patches into their halves, is in
`OkularV3d.Lib.Casteljau`.
-/

namespace OkularV3d.Bezier

variable {K V : Type*} [CommRing K] [AddCommGroup V] [Module K V]

/-- The cubic Bernstein weights. -/
def weight (t : K) (i : Fin 4) : K := Nat.choose 3 i * (1 - t) ^ (3 - i.val) * t ^ i.val

theorem sum_weight (t : K) : ∑ i, weight t i = 1 := by
  simp [Fin.sum_univ_four, weight, Nat.choose]
  ring

/-- The point of a curve at `t`. -/
def curve (p : Fin 4 → V) (t : K) : V := ∑ i, weight t i • p i

theorem curve_eq (p : Fin 4 → V) (t : K) :
    curve p t = (1 - t) ^ 3 • p 0 + (3 * (1 - t) ^ 2 * t) • p 1 + (3 * (1 - t) * t ^ 2) • p 2 +
      t ^ 3 • p 3 := by
  simp [curve, Fin.sum_univ_four, weight, Nat.choose]

theorem curve_add (p q : Fin 4 → V) (t : K) :
    curve (fun i => p i + q i) t = curve p t + curve q t := by
  simp only [curve, smul_add, Finset.sum_add_distrib]

theorem curve_const (x : V) (t : K) : curve (fun _ => x) t = x := by
  rw [curve, ← Finset.sum_smul, sum_weight, one_smul]

theorem curve_smul (a : Fin 4 → K) (x : V) (t : K) :
    curve (fun i => a i • x) t = curve a t • x := by
  simp only [curve, Finset.sum_smul, smul_smul, smul_eq_mul]

@[simp] theorem curve_at_zero (p : Fin 4 → V) : curve p (0 : K) = p 0 := by simp [curve_eq]

@[simp] theorem curve_at_one (p : Fin 4 → V) : curve p (1 : K) = p 3 := by simp [curve_eq]

/-- The point of a patch at `(u, v)`; the control points of a row share a place along `u`. -/
def patch (p : Fin 4 → Fin 4 → V) (u v : K) : V := curve (fun i => curve (p i) v) u

/-- A patch is the curve, along its rows, of the curve across them. -/
theorem patch_eq (p : Fin 4 → Fin 4 → V) (u v : K) : patch p u v = curve (curve p u) v := by
  simp only [patch, curve, Finset.smul_sum, Finset.sum_apply, Pi.smul_apply]
  rw [Finset.sum_comm]
  exact Finset.sum_congr rfl fun i _ => Finset.sum_congr rfl fun j _ => smul_comm _ _ _

/-- **A patch that is swept out**: one curve, moved along the other. -/
theorem patch_add (a b : Fin 4 → V) (u v : K) :
    patch (fun i j => a i + b j) u v = curve a u + curve b v := by
  have hrow : ∀ i, curve (fun j => a i + b j) v = a i + curve b v := fun i => by
    rw [curve_add, curve_const]
  simp only [patch, hrow]
  rw [curve_add, curve_const]

end OkularV3d.Bezier
