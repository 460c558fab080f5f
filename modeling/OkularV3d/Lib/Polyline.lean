import Mathlib.Algebra.BigOperators.Group.List.Basic
import Mathlib.Algebra.Group.Basic
import Mathlib.Tactic.Abel
import OkularV3d.Lib.Subdivision

/-!
# Quantities of segments

A `SegmentSum` measures directed segments: it changes its sign with the direction, and cutting a
segment at its midpoint does not change the sum. The integral of a form along a segment is of this
kind, and so is the area it sweeps about a point.

Two meshes whose boundaries have the same sum for every such quantity bound the same thing, however
their boundaries are cut into segments. The sums along polylines (`path`) follow the geometry: they
add up (`path_append`) and change their sign when the polyline is reversed (`path_reverse`); a
triangle has the sum around it (`perimeter`).

* `path_append`, `path_reverse` and `boundary_append` are the rules of calculation.
* `boundary_quadrilateral` is a quadrilateral in two triangles, whose diagonal cancels.

A proof that a subdivided mesh has the boundary of its outline then is an induction in which what
runs along the inner edges cancels.
-/

namespace OkularV3d

/-- A quantity of directed segments that is additive at midpoints. -/
structure SegmentSum {V : Type*} (mid : V → V → V) (G : Type*) [AddCommGroup G] where
  toFun : V → V → G
  swap : ∀ p q, toFun q p = -toFun p q
  split : ∀ p q, toFun p q = toFun p (mid p q) + toFun (mid p q) q

namespace SegmentSum

variable {V G : Type*} [AddCommGroup G] {mid : V → V → V} (φ : SegmentSum mid G)

/-- The segments of a polyline. -/
def segments (l : List V) : List (V × V) := l.zip l.tail

@[simp] theorem segments_nil : segments ([] : List V) = [] := rfl

@[simp] theorem segments_singleton (p : V) : segments [p] = [] := rfl

@[simp] theorem segments_cons_cons (p q : V) (l : List V) :
    segments (p :: q :: l) = (p, q) :: segments (q :: l) := rfl

/-- A polyline can be cut at any of its points. -/
theorem segments_append_cons (l : List V) (q : V) (m : List V) :
    segments (l ++ q :: m) = segments (l ++ [q]) ++ segments (q :: m) := by
  induction l with
  | nil => rfl
  | cons p l ih =>
    cases l with
    | nil => rfl
    | cons r l =>
      simp only [List.cons_append, segments_cons_cons, List.cons.injEq, true_and]
      exact ih

/-- The sum over some segments. -/
def sum (ss : List (V × V)) : G := (ss.map fun s => φ.toFun s.1 s.2).sum

/-- The sum along a polyline. -/
def path (l : List V) : G := φ.sum (segments l)

@[simp] theorem sum_nil : φ.sum [] = 0 := rfl

@[simp] theorem sum_cons (s : V × V) (ss : List (V × V)) :
    φ.sum (s :: ss) = φ.toFun s.1 s.2 + φ.sum ss := rfl

/-- The sums of two parts add up. -/
theorem sum_append (ss ss' : List (V × V)) : φ.sum (ss ++ ss') = φ.sum ss + φ.sum ss' := by
  simp [sum]

/-- The sum along one segment. -/
@[simp] theorem path_pair (p q : V) : φ.path [p, q] = φ.toFun p q := by simp [path]

/-- The sum along a polyline that is put together from two. -/
theorem path_append (l : List V) (q : V) (m : List V) :
    φ.path (l ++ q :: m) = φ.path (l ++ [q]) + φ.path (q :: m) := by
  rw [path, segments_append_cons, sum_append]
  rfl

/-- **Backwards, the sum changes its sign.** -/
theorem path_reverse (l : List V) : φ.path l.reverse = -φ.path l := by
  induction l with
  | nil => simp [path]
  | cons p l ih =>
    cases l with
    | nil => simp [path]
    | cons q l =>
      have hback : (p :: q :: l).reverse = l.reverse ++ q :: [p] := by simp
      have hqp : φ.path [q, p] = -φ.toFun p q := by rw [path_pair, φ.swap]
      have hcons : φ.path (p :: q :: l) = φ.toFun p q + φ.path (q :: l) := rfl
      rw [hback, path_append, hqp, hcons, neg_add_rev, ← ih, List.reverse_cons]

/-- The sum around a triangle. -/
def perimeter (T : Trigon V) : G := φ.toFun T.a T.b + φ.toFun T.b T.c + φ.toFun T.c T.a

/-- The sum around some triangles. -/
def boundary (ts : List (Trigon V)) : G := (ts.map φ.perimeter).sum

@[simp] theorem boundary_nil : φ.boundary [] = 0 := rfl

/-- The sums around the triangles of two lists add up. -/
theorem boundary_append (ts ts' : List (Trigon V)) :
    φ.boundary (ts ++ ts') = φ.boundary ts + φ.boundary ts' := by
  simp [boundary]

/-- **A quadrilateral in two triangles.** The diagonal is counted twice, in opposite directions. -/
theorem boundary_quadrilateral (p q r s : V) :
    φ.boundary [⟨p, q, r⟩, ⟨p, r, s⟩] =
      φ.toFun p q + φ.toFun q r + φ.toFun r s + φ.toFun s p := by
  simp only [boundary, perimeter, List.map_cons, List.map_nil, List.sum_cons,
    List.sum_nil, φ.swap p r]
  abel

end SegmentSum

end OkularV3d
