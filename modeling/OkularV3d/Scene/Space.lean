import Mathlib.Algebra.Module.Prod
import OkularV3d.Lib.Casteljau
import OkularV3d.Scene.Flatness

/-!
# Vectors as a vector space

`Vec3` over an ordered field, with the operations of `triple.h` as those of a vector space. The
instances are scoped to `Vec3`, so that the code is read with its own operations everywhere else.

* `smul_eq_smul` and `midpoint_eq_mid` identify the operations; `xLinear`, `yLinear` and `zLinear`
  are the coordinates as linear maps.
* `ball` has the vectors below a squared length, with `smul_mem_ball` for their multiples.

These are the sets in which `OkularV3d.Scene.Termination` keeps the differences of control points.
-/

namespace OkularV3d.Vec3

variable {K : Type} [ExactScalar K]

scoped instance : Zero (Vec3 K) := ⟨⟨0, 0, 0⟩⟩

scoped instance : Neg (Vec3 K) := ⟨fun v => ⟨-v.x, -v.y, -v.z⟩⟩

scoped instance : SMul K (Vec3 K) := ⟨smul⟩

scoped instance : SMul ℕ (Vec3 K) := ⟨fun n v => ⟨n • v.x, n • v.y, n • v.z⟩⟩

scoped instance : SMul ℤ (Vec3 K) := ⟨fun n v => ⟨n • v.x, n • v.y, n • v.z⟩⟩

omit [ExactScalar K] in
/-- A vector is its triple of coordinates, and so the space gets its structure from a product. -/
theorem toProd_injective : Function.Injective (toProd : Vec3 K → K × K × K) := by
  intro u v h
  obtain ⟨hx, hy, hz⟩ : u.x = v.x ∧ u.y = v.y ∧ u.z = v.z := by simpa [toProd] using h
  exact ext_coordinates hx hy hz

scoped instance : AddCommGroup (Vec3 K) :=
  toProd_injective.addCommGroup toProd rfl (fun _ _ => rfl) (fun _ => rfl) (fun _ _ => rfl)
    (fun _ _ => rfl) fun _ _ => rfl

scoped instance : Module K (Vec3 K) :=
  toProd_injective.module K ⟨⟨toProd, rfl⟩, fun _ _ => rfl⟩ fun _ _ => rfl

/-- Its multiples are those of `triple.h`. -/
theorem smul_eq_smul (c : K) (v : Vec3 K) : c • v = smul c v := rfl

/-- Its midpoints are those of the code. -/
theorem midpoint_eq_mid (u v : Vec3 K) : midpoint K u v = mid u v := by
  rw [midpoint_eq_smul_add, invOf_eq_inv, mid, half_exact, one_div]
  rfl

/-! ### Coordinates -/

/-- The coordinates, as linear maps. -/
def xLinear : Vec3 K →ₗ[K] K where
  toFun := x
  map_add' _ _ := rfl
  map_smul' _ _ := rfl

def yLinear : Vec3 K →ₗ[K] K where
  toFun := y
  map_add' _ _ := rfl
  map_smul' _ _ := rfl

def zLinear : Vec3 K →ₗ[K] K where
  toFun := z
  map_add' _ _ := rfl
  map_smul' _ _ := rfl

/-! ### Lengths -/

/-- Lengths are squared here, as in the code. -/
theorem abs2_nonneg (v : Vec3 K) : 0 ≤ abs2 v :=
  add_nonneg (add_nonneg (mul_self_nonneg v.x) (mul_self_nonneg v.y)) (mul_self_nonneg v.z)

/-- A multiple is longer by the square of the factor. -/
theorem abs2_smul (c : K) (v : Vec3 K) : abs2 (c • v) = c ^ 2 * abs2 v := by
  simp only [abs2_eq, smul_eq_smul, x_smul, y_smul, z_smul]
  ring

/-- The vectors shorter than `√m`. -/
def ball (m : K) : Set (Vec3 K) := {v | abs2 v < m}

@[simp] theorem mem_ball {m : K} {v : Vec3 K} : v ∈ ball m ↔ abs2 v < m := Iff.rfl

/-- Only a ball of positive size has something in it. -/
theorem pos_of_mem_ball {m : K} {v : Vec3 K} (h : v ∈ ball m) : 0 < m := (abs2_nonneg v).trans_lt h

/-- A ball is scaled by the square of the factor. -/
theorem smul_mem_ball {m c : K} (hc : 0 < c ^ 2) {v : Vec3 K} :
    c • v ∈ ball m ↔ v ∈ ball (m / c ^ 2) := by
  rw [mem_ball, mem_ball, abs2_smul, lt_div_iff₀' hc]

/-- **Balls are convex.** No root is taken to see it. -/
theorem convex_ball (m : K) : Convex K (ball m) := by
  intro u hu v hv a b ha hb hab
  have hconvex : abs2 (a • u + b • v) = a * abs2 u + b * abs2 v - a * b * abs2 (u - v) := by
    obtain rfl : b = 1 - a := (sub_eq_of_eq_add' hab.symm).symm
    simp only [abs2_eq, smul_eq_smul, x_add, y_add, z_add, x_sub, y_sub,
      z_sub, x_smul, y_smul, z_smul]
    ring
  have hle := mul_nonneg (mul_nonneg ha hb) (abs2_nonneg (u - v))
  have hlt := convex_Iio (𝕜 := K) m hu hv ha hb hab
  simp only [smul_eq_mul, Set.mem_Iio] at hlt
  change abs2 (a • u + b • v) < m
  rw [hconvex]
  exact (sub_le_self _ hle).trans_lt hlt

end OkularV3d.Vec3
