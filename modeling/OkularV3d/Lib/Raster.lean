import Mathlib.Tactic.Ring

/-!
# Rows of cells

A raster keeps its cells in rows that start a fixed pitch apart. `copyRows` packs the beginnings of
its rows, one behind the other: what it yields is again a raster, whose pitch is the width copied.

* `place` is where a cell is, and `read` takes some cells in a row, or none where they pass the end.
* `getElem?_copyRows` says what the copy has at a place, and `length_copyRows` how much it is.

A copy that passes the end of its source is `none`: that is how a bound on the size of the source
shows in a theorem.
-/

namespace Raster

variable {α : Type}

/-- The place of the cell in column `x` of row `y`. -/
def place (pitch x y : Nat) : Nat := y * pitch + x

/-- A cell of the first `height` rows lies before their end. -/
theorem place_lt {pitch height x y : Nat} (hx : x < pitch) (hy : y < height) :
    place pitch x y < height * pitch := by
  have hrow : (y + 1) * pitch ≤ height * pitch := Nat.mul_le_mul_right pitch hy
  have hend : (y + 1) * pitch = y * pitch + pitch := Nat.succ_mul y pitch
  simp only [place]
  omega

theorem place_succ (pitch x y : Nat) : place pitch x (y + 1) = pitch + place pitch x y := by
  simp only [place]
  ring

/-- A raster inside another that has as many cells has its width and its height. -/
theorem eq_of_mul_le_mul {a b m n : Nat} (ha : a ≤ m) (hb : b ≤ n) (hm : 0 < m) (hn : 0 < n)
    (h : m * n ≤ a * b) : a = m ∧ b = n := by
  have hleft : m ≤ a := by
    by_contra hlt
    have hlt' : a * b < m * n := Nat.mul_lt_mul_of_lt_of_le (not_le.mp hlt) hb hn
    omega
  have hright : n ≤ b := by
    by_contra hlt
    have hlt' : a * b < m * n := Nat.mul_lt_mul_of_le_of_lt ha (not_le.mp hlt) hm
    omega
  exact ⟨le_antisymm ha hleft, le_antisymm hb hright⟩

/-- `count` cells from `start`, none where they pass the end. -/
def read (source : List α) (start count : Nat) : Option (List α) :=
  if start + count ≤ source.length then some ((source.drop start).take count) else none

theorem read_eq_some_iff {source out : List α} {start count : Nat} :
    read source start count = some out ↔
      start + count ≤ source.length ∧ out = (source.drop start).take count := by
  rw [read, Option.ite_none_right_eq_some, Option.some.injEq, eq_comm (a := out)]

theorem length_of_read {source out : List α} {start count : Nat}
    (h : read source start count = some out) : out.length = count := by
  obtain ⟨hend, rfl⟩ := read_eq_some_iff.mp h
  rw [List.length_take, List.length_drop]
  omega

theorem getElem?_of_read {source out : List α} {start count i : Nat}
    (h : read source start count = some out) (hi : i < count) : out[i]? = source[start + i]? := by
  obtain ⟨-, rfl⟩ := read_eq_some_iff.mp h
  rw [List.getElem?_take_of_lt hi, List.getElem?_drop]

/-- The first `width` cells of some rows, the first of them at `start`, put behind `out`. -/
def copyRows (source : List α) (pitch width : Nat) : Nat → Nat → List α → Option (List α)
  | 0, _, out => some out
  | rows + 1, start, out =>
    (read source start width).bind fun row =>
      copyRows source pitch width rows (start + pitch) (out ++ row)

section CopyRows

variable {source : List α} {pitch width : Nat}

theorem copyRows_succ_eq_some_iff {rows start : Nat} {out out' : List α} :
    copyRows source pitch width (rows + 1) start out = some out' ↔
      ∃ row, read source start width = some row ∧
        copyRows source pitch width rows (start + pitch) (out ++ row) = some out' :=
  Option.bind_eq_some_iff

/-- Rows that end inside the source are copied. -/
theorem exists_copyRows {rows : Nat} : ∀ {start : Nat} (out : List α),
    (∀ y < rows, start + place pitch width y ≤ source.length) →
      ∃ out', copyRows source pitch width rows start out = some out' := by
  induction rows with
  | zero => exact fun out _ => ⟨out, rfl⟩
  | succ rows ih =>
    intro start out h
    have hfirst := h 0 rows.succ_pos
    rw [place, Nat.zero_mul, Nat.zero_add] at hfirst
    have hread : read source start width = some ((source.drop start).take width) :=
      read_eq_some_iff.mpr ⟨hfirst, rfl⟩
    obtain ⟨out', hout⟩ := @ih (start + pitch) (out ++ (source.drop start).take width)
      fun y hy => by
        have hrow := h (y + 1) (Nat.succ_lt_succ hy)
        rw [place_succ] at hrow
        omega
    exact ⟨out', copyRows_succ_eq_some_iff.mpr ⟨_, hread, hout⟩⟩

theorem length_copyRows {rows : Nat} : ∀ {start : Nat} {out out' : List α},
    copyRows source pitch width rows start out = some out' →
      out'.length = out.length + rows * width := by
  induction rows with
  | zero =>
    intro start out out' h
    cases h
    omega
  | succ rows ih =>
    intro start out out' h
    obtain ⟨row, hread, hrest⟩ := copyRows_succ_eq_some_iff.mp h
    rw [ih hrest, List.length_append, length_of_read hread]
    ring

/-- What was there before stays in front. -/
theorem getElem?_copyRows_of_lt {rows i : Nat} : ∀ {start : Nat} {out out' : List α},
    copyRows source pitch width rows start out = some out' → i < out.length →
      out'[i]? = out[i]? := by
  induction rows with
  | zero =>
    intro start out out' h _
    cases h
    rfl
  | succ rows ih =>
    intro start out out' h hi
    obtain ⟨row, -, hrest⟩ := copyRows_succ_eq_some_iff.mp h
    have hlt : i < (out ++ row).length := by
      rw [List.length_append]
      omega
    rw [ih hrest hlt, List.getElem?_append_left hi]

/-- **The cells of the copy**: column `x` of row `y` is the source's. -/
theorem getElem?_copyRows {rows x : Nat} (hx : x < width) : ∀ {y start : Nat} {out out' : List α},
    copyRows source pitch width rows start out = some out' → y < rows →
      out'[out.length + place width x y]? = source[start + place pitch x y]? := by
  induction rows with
  | zero => exact fun _ hy => absurd hy (Nat.not_lt_zero _)
  | succ rows ih =>
    intro y start out out' h hy
    obtain ⟨row, hread, hrest⟩ := copyRows_succ_eq_some_iff.mp h
    have hlength := length_of_read hread
    cases y with
    | zero =>
      -- the row read first is not touched by the rest
      have hlt : out.length + x < (out ++ row).length := by
        rw [List.length_append]
        omega
      simp only [place, Nat.zero_mul, Nat.zero_add]
      rw [getElem?_copyRows_of_lt hrest hlt, List.getElem?_append_right (Nat.le_add_right _ _),
        Nat.add_sub_cancel_left, getElem?_of_read hread hx]
    | succ y =>
      have hcell := ih hrest (Nat.lt_of_succ_lt_succ hy)
      rw [List.length_append, hlength] at hcell
      rw [place_succ, place_succ, ← Nat.add_assoc, ← Nat.add_assoc]
      exact hcell

end CopyRows

end Raster
