import Mathlib.LinearAlgebra.Matrix.Determinant.Basic
import Mathlib.LinearAlgebra.UnitaryGroup
import Mathlib.Analysis.SpecialFunctions.Trigonometric.Basic
import Mathlib.Data.Matrix.Reflection
import Mathlib.Tactic.LinearCombination

/-!
# Rotations about an axis

The homogeneous matrix of the rotation by an angle about an axis through the origin. For an axis of
length one it is orthogonal and of determinant one (`rotation_mem`), whatever the angle.

* `rotationOf` takes the cosine and the sine of the angle, over any field; `rotationOf_mem` needs no
  more of them than that their squares add up to one.
* `rotation` is the same for an angle, over the reals, and `rotation_mem` its case.
* `rotationOf_mul_transpose` and `det_rotationOf` are the two halves of the proof.
-/

namespace OkularV3d

/-- The rotation whose angle has the cosine `c` and the sine `s`, about the axis `(x, y, z)`. -/
def rotationOf (c s x y z : ℝ) : Matrix (Fin 4) (Fin 4) ℝ :=
  !![c + (1 - c) * x * x, (1 - c) * x * y - s * z, (1 - c) * x * z + s * y, 0;
     (1 - c) * x * y + s * z, c + (1 - c) * y * y, (1 - c) * y * z - s * x, 0;
     (1 - c) * x * z - s * y, (1 - c) * y * z + s * x, c + (1 - c) * z * z, 0;
     0, 0, 0, 1]

variable {c s x y z : ℝ}

/-- The determinant, in the cosine along the axis and the one across it. -/
theorem det_rotationOf (c s x y z : ℝ) :
    (rotationOf c s x y z).det =
      (c + (1 - c) * (x ^ 2 + y ^ 2 + z ^ 2)) * (c ^ 2 + s ^ 2 * (x ^ 2 + y ^ 2 + z ^ 2)) := by
  rw [rotationOf, Matrix.det_succ_row _ 3]
  simp [Fin.sum_univ_succ, Matrix.det_fin_three, Matrix.submatrix, Fin.succAbove]
  ring

/-- The product with the transpose: what is left of the axis, and what is added along it. -/
theorem rotationOf_mul_transpose (c s x y z : ℝ) :
    let across := c ^ 2 + s ^ 2 * (x ^ 2 + y ^ 2 + z ^ 2)
    let added := (1 - c) ^ 2 * (x ^ 2 + y ^ 2 + z ^ 2) + 2 * c * (1 - c) - s ^ 2
    rotationOf c s x y z * (rotationOf c s x y z).transpose =
      !![across + added * x * x, added * x * y, added * x * z, 0;
         added * x * y, across + added * y * y, added * y * z, 0;
         added * x * z, added * y * z, across + added * z * z, 0;
         0, 0, 0, 1] := by
  ext i j
  fin_cases i <;> fin_cases j
  all_goals
    simp [rotationOf, Matrix.mul_apply, Fin.sum_univ_succ]
    try ring

/-- **A rotation about an axis of length one is a rotation.** -/
theorem rotationOf_mem (hangle : c ^ 2 + s ^ 2 = 1) (haxis : x ^ 2 + y ^ 2 + z ^ 2 = 1) :
    rotationOf c s x y z ∈ Matrix.specialOrthogonalGroup (Fin 4) ℝ := by
  have hacross : c ^ 2 + s ^ 2 * (x ^ 2 + y ^ 2 + z ^ 2) = 1 := by rw [haxis, mul_one, hangle]
  have hadded : (1 - c) ^ 2 * (x ^ 2 + y ^ 2 + z ^ 2) + 2 * c * (1 - c) - s ^ 2 = 0 := by
    rw [haxis]
    linear_combination -hangle
  refine Matrix.mem_specialOrthogonalGroup_iff.mpr
    ⟨(Matrix.mem_orthogonalGroup_iff (Fin 4) ℝ).mpr ?_, ?_⟩
  · have hproduct := rotationOf_mul_transpose c s x y z
    dsimp only at hproduct
    rw [hacross, hadded] at hproduct
    rw [hproduct]
    ext i j
    fin_cases i <;> fin_cases j <;> simp
  · rw [det_rotationOf, hacross, haxis]
    ring

/-- The rotation by an angle about an axis. -/
noncomputable def rotation (angle x y z : ℝ) : Matrix (Fin 4) (Fin 4) ℝ :=
  rotationOf (Real.cos angle) (Real.sin angle) x y z

theorem rotation_mem (angle : ℝ) (haxis : x ^ 2 + y ^ 2 + z ^ 2 = 1) :
    rotation angle x y z ∈ Matrix.specialOrthogonalGroup (Fin 4) ℝ :=
  rotationOf_mem (Real.cos_sq_add_sin_sq angle) haxis

end OkularV3d
