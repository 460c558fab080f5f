import Mathlib.Algebra.GroupWithZero.Nat
import Mathlib.Data.Rat.Defs

/-!
# Floating-point arithmetic and vectors

The scene code computes in `double` and stores `float` vertices. Nothing below depends on a
rounding rule, so the two types are parameters: a `Scalar` is a type with the operations the code
applies to a floating-point type, and `Rounding D F` are the conversions between `double` (`D`)
and `float` (`F`). The same definitions are then read over IEEE types, over the reals, or over a
small type where a run can be evaluated.

`Vec3` is Asymptote's `triple` and `glm::dvec3`/`glm::vec3`, `Vec4` is `glm::vec4`; the matrices
are `glm`'s, as column-major arrays.

* `Scalar` has the operations and the comparisons, `Rounding` the two conversions.
* `Vec3.dot`, `Vec3.cross`, `Vec3.unit` and the others are written as in the sources.
* `OkularV3d.Scene.Exact` and `OkularV3d.Scene.RealScalar` are the readings in which theorems are
  proved that do depend on arithmetic.
-/

namespace OkularV3d

/-- The operations of a floating-point type: `lit q` is the constant nearest to `q`, `lt` and
`eq` are the (non-total) comparisons `<` and `==`, and `isNormal` is `FP_NORMAL`. -/
class Scalar (R : Type) extends Add R, Sub R, Mul R, Div R, Neg R where
  lit : ℚ → R
  lt : R → R → Bool
  eq : R → R → Bool
  isNormal : R → Bool
  sqrt : R → R
  cos : R → R
  sin : R → R

/-- Conversions between `double` and `float`. -/
class Rounding (D F : Type) where
  narrow : D → F
  widen : F → D

/-- Exact rational arithmetic: what the code computes on inputs for which no operation rounds.
Square roots are exact on squares; `cos` and `sin` are their first Taylor terms. -/
instance : Scalar ℚ where
  lit q := q
  lt a b := decide (a < b)
  eq a b := decide (a = b)
  isNormal a := decide (a ≠ 0)
  sqrt a := (Nat.sqrt (a.num.toNat * a.den) : ℚ) / (a.den : ℚ)
  cos a := 1 - a * a / 2
  sin a := a - a * a * a / 6

instance : Rounding ℚ ℚ where
  narrow a := a
  widen a := a

namespace Scalar

variable {R : Type} [Scalar R]

/-- `std::min`. -/
def min (a b : R) : R := if lt b a then b else a

/-- `std::max`. -/
def max (a b : R) : R := if lt a b then b else a

/-- `hypot` of two integers, as `sqrt` of the sum of squares. -/
def hypotInt (w h : Int) : R := sqrt (lit (w * w + h * h))

end Scalar

/-- A pair of coordinates. -/
structure Vec2 (R : Type) where
  x : R
  y : R
  deriving DecidableEq, Repr

/-- `triple`, `glm::dvec3` and `glm::vec3`. -/
structure Vec3 (R : Type) where
  x : R
  y : R
  z : R
  deriving DecidableEq, Repr

/-- `glm::vec4` and `RGBA`. -/
structure Vec4 (R : Type) where
  r : R
  g : R
  b : R
  a : R
  deriving DecidableEq, Repr

/-- A 4×4 matrix, as the array `glm::value_ptr` points at. -/
abbrev Mat4 (R : Type) := Fin 16 → R

/-- A 3×3 matrix, as the array `glm::value_ptr` points at. -/
abbrev Mat3 (R : Type) := Fin 9 → R

/-! An entry `m 12` or a control point `p.get 3` is written with a numeral of `Fin n`, which holds a
proof that `n` is not zero. It is given once here, and the same way for the numeral 2 of a field. -/

instance neZero_four : NeZero 4 := ⟨by decide⟩

instance neZero_nine : NeZero 9 := ⟨by decide⟩

instance neZero_ten : NeZero 10 := ⟨by decide⟩

instance neZero_sixteen : NeZero 16 := ⟨by decide⟩

instance two_atLeastTwo : Nat.AtLeastTwo 2 := ⟨le_rfl⟩

namespace Vec3

variable {R : Type} [Scalar R]

instance : Add (Vec3 R) := ⟨fun u v => ⟨u.x + v.x, u.y + v.y, u.z + v.z⟩⟩

instance : Sub (Vec3 R) := ⟨fun u v => ⟨u.x - v.x, u.y - v.y, u.z - v.z⟩⟩

/-- Scaling of a vector. -/
def smul (s : R) (v : Vec3 R) : Vec3 R := ⟨s * v.x, s * v.y, s * v.z⟩

/-- `dot`. -/
def dot (u v : Vec3 R) : R := u.x * v.x + u.y * v.y + u.z * v.z

/-- `cross`. -/
def cross (u v : Vec3 R) : Vec3 R :=
  ⟨u.y * v.z - u.z * v.y, u.z * v.x - u.x * v.z, u.x * v.y - u.y * v.x⟩

/-- `abs2`. -/
def abs2 (v : Vec3 R) : R := dot v v

/-- `unit` of `triple.h`: the zero vector unless the length is a normal number. -/
def unit (v : Vec3 R) : Vec3 R :=
  let scale := Scalar.sqrt (abs2 v)
  if Scalar.isNormal scale then smul (Scalar.lit 1 / scale) v
  else ⟨Scalar.lit 0, Scalar.lit 0, Scalar.lit 0⟩

/-- `glm::normalize`. -/
def normalize (v : Vec3 R) : Vec3 R := smul (Scalar.lit 1 / Scalar.sqrt (dot v v)) v

/-- The conversion from `glm::dvec3` to `glm::vec3`. -/
def narrow {D F : Type} [Rounding D F] (v : Vec3 D) : Vec3 F :=
  ⟨Rounding.narrow v.x, Rounding.narrow v.y, Rounding.narrow v.z⟩

/-- The conversion from `glm::vec3` to `glm::dvec3`. -/
def widen {D F : Type} [Rounding D F] (v : Vec3 F) : Vec3 D :=
  ⟨Rounding.widen v.x, Rounding.widen v.y, Rounding.widen v.z⟩

end Vec3

end OkularV3d
