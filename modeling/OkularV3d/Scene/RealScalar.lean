import Mathlib.Analysis.InnerProductSpace.PiL2
import Mathlib.Analysis.SpecialFunctions.Trigonometric.Basic
import OkularV3d.Scene.Exact

/-!
# Real arithmetic

The scene code over the real numbers, with the functions of `<cmath>`. A `Vec3 ℝ` is a point of
Euclidean space (`toEuclidean`), where `dot` is the inner product and `unit` divides by the norm.

* `add_eq`, `dot_eq`, `cross_eq` and the others give the operations of the code as formulas.
* `toEuclidean` is linear and injective; `inner_toEuclidean` and `norm_toEuclidean` compute in it.
* `toEuclidean_unit`: `unit` is the normalisation of a vector that is not zero.
-/

namespace OkularV3d

open scoped RealInnerProductSpace

/-- The real numbers, with the functions of `<cmath>`. -/
noncomputable instance : ExactScalar ℝ where
  sqrt := Real.sqrt
  cos := Real.cos
  sin := Real.sin

/-- Literals are the numbers they stand for. -/
@[simp] theorem lit_real (q : ℚ) : (Scalar.lit q : ℝ) = q := rfl

@[simp] theorem sqrt_real (a : ℝ) : Scalar.sqrt a = √a := rfl

@[simp] theorem cos_real (a : ℝ) : Scalar.cos a = Real.cos a := rfl

@[simp] theorem sin_real (a : ℝ) : Scalar.sin a = Real.sin a := rfl

/-- Comparisons are those of the reals. -/
@[simp] theorem scalarLt_iff {a b : ℝ} : Scalar.lt a b = true ↔ a < b := decide_eq_true_iff

@[simp] theorem scalarEq_iff {a b : ℝ} : Scalar.eq a b = true ↔ a = b := decide_eq_true_iff

/-- Over the reals a number is normal unless it is zero. -/
@[simp] theorem isNormal_iff {a : ℝ} : Scalar.isNormal a = true ↔ a ≠ 0 := decide_eq_true_iff

namespace Vec3

variable {u v : Vec3 ℝ}

/-- The operators of `triple.h`, coordinate by coordinate. -/
theorem add_eq (u v : Vec3 ℝ) : u + v = ⟨u.x + v.x, u.y + v.y, u.z + v.z⟩ := rfl

theorem sub_eq (u v : Vec3 ℝ) : u - v = ⟨u.x - v.x, u.y - v.y, u.z - v.z⟩ := rfl

theorem smul_eq (s : ℝ) (v : Vec3 ℝ) : smul s v = ⟨s * v.x, s * v.y, s * v.z⟩ := rfl

theorem dot_eq (u v : Vec3 ℝ) : dot u v = u.x * v.x + u.y * v.y + u.z * v.z := rfl

theorem cross_eq (u v : Vec3 ℝ) :
    cross u v = ⟨u.y * v.z - u.z * v.y, u.z * v.x - u.x * v.z, u.x * v.y - u.y * v.x⟩ := rfl

/-- A vector as a point of Euclidean space. -/
def toEuclidean (v : Vec3 ℝ) : EuclideanSpace ℝ (Fin 3) := !₂[v.x, v.y, v.z]

/-- A vector is determined by its coordinates. -/
theorem toEuclidean_injective : Function.Injective toEuclidean := by
  rintro ⟨x, y, z⟩ ⟨x', y', z'⟩ h
  have hcoord := fun i => congrFun (congrArg WithLp.ofLp h) i
  obtain rfl : x = x' := hcoord 0
  obtain rfl : y = y' := hcoord 1
  obtain rfl : z = z' := hcoord 2
  rfl

/-- Sums are those of the Euclidean space. -/
@[simp] theorem toEuclidean_add (u v : Vec3 ℝ) :
    (u + v).toEuclidean = u.toEuclidean + v.toEuclidean := by
  ext i
  fin_cases i <;> rfl

@[simp] theorem toEuclidean_sub (u v : Vec3 ℝ) :
    (u - v).toEuclidean = u.toEuclidean - v.toEuclidean := by
  ext i
  fin_cases i <;> rfl

/-- So are multiples. -/
@[simp] theorem toEuclidean_smul (s : ℝ) (v : Vec3 ℝ) :
    (smul s v).toEuclidean = s • v.toEuclidean := by
  ext i
  fin_cases i <;> rfl

/-- `dot` is the inner product. -/
@[simp] theorem inner_toEuclidean (u v : Vec3 ℝ) : ⟪u.toEuclidean, v.toEuclidean⟫ = dot u v := by
  rw [dot_eq, toEuclidean, toEuclidean]
  simp [EuclideanSpace.inner_eq_star_dotProduct, dotProduct, Fin.sum_univ_three]
  ring

/-- `abs2` is the square of the length. -/
theorem sq_norm_toEuclidean (v : Vec3 ℝ) : ‖v.toEuclidean‖ ^ 2 = dot v v := by
  rw [← inner_toEuclidean, real_inner_self_eq_norm_sq]

/-- `length` is the length. -/
theorem norm_toEuclidean (v : Vec3 ℝ) : ‖v.toEuclidean‖ = Real.sqrt (dot v v) := by
  rw [← sq_norm_toEuclidean, Real.sqrt_sq (norm_nonneg _)]

/-- A unit vector is one with product 1 with itself: no root is needed. -/
theorem norm_toEuclidean_eq_one_iff : ‖v.toEuclidean‖ = 1 ↔ dot v v = 1 := by
  rw [← sq_norm_toEuclidean, pow_eq_one_iff_of_nonneg (norm_nonneg _) two_ne_zero]

/-- `unit` divides by the norm, and leaves the zero vector as it is. -/
@[simp] theorem toEuclidean_unit (v : Vec3 ℝ) :
    (unit v).toEuclidean = ‖v.toEuclidean‖⁻¹ • v.toEuclidean := by
  have hscale : Scalar.sqrt (abs2 v) = ‖v.toEuclidean‖ := (norm_toEuclidean v).symm
  rw [unit, hscale]
  by_cases h : ‖v.toEuclidean‖ = 0
  · have hzero : v.toEuclidean = 0 := norm_eq_zero.mp h
    rw [if_neg (by simp [h]), h, hzero, smul_zero]
    ext i
    fin_cases i <;> simp [toEuclidean]
  · rw [if_pos (isNormal_iff.mpr h), toEuclidean_smul, lit_real, Rat.cast_one, one_div]

end Vec3

end OkularV3d
