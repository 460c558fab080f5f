import Mathlib.Tactic.Ring
import OkularV3d.Scene.Exact
import OkularV3d.Scene.Tessellate

/-!
# Curves in exact arithmetic

The functions of `triple.h` in an ordered field: a vector is given by its coordinates, the midpoint
of two points does not depend on their order, and so `Split3` and `Straightness` read a curve alike
from both of its ends.

* `x_add` to `z_smul` and `x_mid` to `z_mid` read off the coordinates.
* `split3_backwards` and `straightness_backwards` are what `OkularV3d.Scene.MeshBoundary` needs of
  an edge that two pieces share.
-/

namespace OkularV3d

variable {K : Type} [ExactScalar K]

/-! ### Coordinates -/

/-- Literals are the numbers they stand for. -/
theorem lit_exact (q : ℚ) : (Scalar.lit q : K) = (q : K) := rfl

/-- The comparison of the code is that of the field. -/
theorem lt_exact {a b : K} : Scalar.lt a b = true ↔ a < b := decide_eq_true_iff

namespace Vec3

omit [ExactScalar K] in
/-- Vectors are equal when their coordinates are. -/
theorem ext_coordinates {u v : Vec3 K} (hx : u.x = v.x) (hy : u.y = v.y) (hz : u.z = v.z) :
    u = v := by
  obtain ⟨x, y, z⟩ := u
  obtain rfl : x = v.x := hx
  obtain rfl : y = v.y := hy
  obtain rfl : z = v.z := hz
  rfl

section Coordinates

variable (u v : Vec3 K) (s : K)

/-- The operators of `triple.h` act on each coordinate, as do the next ones. -/
@[simp] theorem x_add : (u + v).x = u.x + v.x := rfl

@[simp] theorem y_add : (u + v).y = u.y + v.y := rfl

@[simp] theorem z_add : (u + v).z = u.z + v.z := rfl

@[simp] theorem x_sub : (u - v).x = u.x - v.x := rfl

@[simp] theorem y_sub : (u - v).y = u.y - v.y := rfl

@[simp] theorem z_sub : (u - v).z = u.z - v.z := rfl

@[simp] theorem x_smul : (smul s v).x = s * v.x := rfl

@[simp] theorem y_smul : (smul s v).y = s * v.y := rfl

@[simp] theorem z_smul : (smul s v).z = s * v.z := rfl

/-- The factor `0.5` of the midpoint. -/
theorem half_exact : (Scalar.lit (1 / 2) : K) = 1 / 2 := by
  rw [lit_exact]
  norm_num

/-- A coordinate of a midpoint is the mean of the two. -/
@[simp] theorem x_mid : (mid u v).x = (u.x + v.x) / 2 := by
  rw [mid, x_smul, x_add, half_exact]
  ring

@[simp] theorem y_mid : (mid u v).y = (u.y + v.y) / 2 := by
  rw [mid, y_smul, y_add, half_exact]
  ring

@[simp] theorem z_mid : (mid u v).z = (u.z + v.z) / 2 := by
  rw [mid, z_smul, z_add, half_exact]
  ring

end Coordinates

/-- **The midpoint does not depend on the order** of its two points. -/
theorem mid_comm (u v : Vec3 K) : mid u v = mid v u := by
  have hcomm : ∀ a b : K, (a + b) / 2 = (b + a) / 2 := fun a b => by rw [add_comm]
  exact ext_coordinates (by simp [hcomm u.x]) (by simp [hcomm u.y]) (by simp [hcomm u.z])

/-- `abs2`, by coordinates. -/
theorem abs2_eq (v : Vec3 K) : abs2 v = v.x * v.x + v.y * v.y + v.z * v.z := rfl

end Vec3

/-! ### Reading a curve from its other end -/

section Backwards

variable (z0 c0 c1 z1 : Vec3 K)

/-- **`Split3` from the other end** gives the same points in the other order. -/
theorem split3_backwards :
    split3 z1 c1 c0 z0 =
      { m0 := (split3 z0 c0 c1 z1).m2, m2 := (split3 z0 c0 c1 z1).m0, m3 := (split3 z0 c0 c1 z1).m4,
        m4 := (split3 z0 c0 c1 z1).m3, m5 := (split3 z0 c0 c1 z1).m5 } := by
  have hm3 : ((z1.mid c1).mid (c1.mid c0)) = (c0.mid c1).mid (c1.mid z1) := by
    rw [Vec3.mid_comm z1, Vec3.mid_comm c1 c0, Vec3.mid_comm]
  have hm4 : ((c1.mid c0).mid (c0.mid z0)) = (z0.mid c0).mid (c0.mid c1) := by
    rw [Vec3.mid_comm c0 z0, Vec3.mid_comm c1 c0, Vec3.mid_comm]
  simp only [split3, Split.of]
  rw [hm3, hm4, Vec3.mid_comm z1 c1, Vec3.mid_comm c0 z0,
    Vec3.mid_comm ((c0.mid c1).mid (c1.mid z1))]

/-- **`Straightness` from the other end** is the same: it takes the greater of the two distances. -/
theorem straightness_backwards : straightness z1 c1 c0 z0 = straightness z0 c0 c1 z1 := by
  have hleft : Vec3.abs2 (c1 - Vec3.smul third (z0 - z1) - z1) =
      Vec3.abs2 (z1 - Vec3.smul third (z1 - z0) - c1) := by
    simp only [Vec3.abs2_eq, Vec3.x_sub, Vec3.y_sub, Vec3.z_sub, Vec3.x_smul,
      Vec3.y_smul, Vec3.z_smul]
    ring
  have hright : Vec3.abs2 (z0 - Vec3.smul third (z0 - z1) - c0) =
      Vec3.abs2 (c0 - Vec3.smul third (z1 - z0) - z0) := by
    simp only [Vec3.abs2_eq, Vec3.x_sub, Vec3.y_sub, Vec3.z_sub, Vec3.x_smul,
      Vec3.y_smul, Vec3.z_smul]
    ring
  rw [straightness, straightness, hleft, hright, scalarMax_eq, scalarMax_eq, max_comm]

end Backwards

end OkularV3d
