import Mathlib.Data.List.Basic
import Mathlib.Tactic.Common

/-!
# Vectors of vectors

A `std::vector<std::vector<T>>` has rows of different lengths, and an element of it is named by a
row and a column. Reading and writing have no result outside the vector; `width` is the length of a
row, and zero for a row that is not there. What matters about two such vectors that are indexed
alike is that they are `SameShape`.

* `grow` and `write` are the operations on one vector, `write₂` and `pushBack` those on a vector of
  vectors.
* `index₂_modify₂` says that a change at one place is a change at that place only.
* `pushBack_eq` says what a `push_back` leaves; it is always possible.
-/

namespace OkularV3d.Jagged

variable {α β : Type*}

/-- `if (xs.size() < n) xs.resize(n)`. -/
def grow (a : α) (n : Nat) (xs : List α) : List α := xs ++ List.replicate (n - xs.length) a

/-- `xs[i] = a`. -/
def write (xs : List α) (i : Nat) (a : α) : Option (List α) :=
  if i < xs.length then some (xs.set i a) else none

/-- `xss[row][column]`. -/
def index₂ (xss : List (List α)) (key : Nat × Nat) : Option α := do
  let xs ← xss[key.1]?
  xs[key.2]?

/-- `xss[row][column] = a`. -/
def write₂ (xss : List (List α)) (key : Nat × Nat) (a : α) : Option (List (List α)) := do
  let xs ← xss[key.1]?
  let xs ← write xs key.2 a
  write xss key.1 xs

/-- `xss[row].push_back(a)`, once `xss` has grown to hold the row. -/
def pushBack (xss : List (List α)) (row : Nat) (a : α) : Option (List (List α)) := do
  let xss := grow [] (row + 1) xss
  let xs ← xss[row]?
  write xss row (xs ++ [a])

/-- A change of the element at a place, where there is one. -/
def modify₂ (xss : List (List α)) (key : Nat × Nat) (f : α → α) : List (List α) :=
  xss.modify key.1 fun xs => xs.modify key.2 f

/-- The length of a row. -/
def width (xss : List (List α)) (row : Nat) : Nat := ((xss[row]?).map List.length).getD 0

/-- **Two vectors with the same places.** -/
def SameShape (xss : List (List α)) (yss : List (List β)) : Prop :=
  ∀ row, width xss row = width yss row

/-! ### One vector -/

/-- A vector grows to a length, and never shrinks. -/
theorem length_grow (a : α) (n : Nat) (xs : List α) : (grow a n xs).length = max xs.length n := by
  rw [grow, List.length_append, List.length_replicate]
  omega

/-- Whatever was there before a vector grew is still there. -/
theorem getElem?_grow (a : α) (n i : Nat) (xs : List α) :
    (grow a n xs)[i]? = if i < xs.length then xs[i]? else if i < n then some a else none := by
  unfold grow
  split_ifs with hi hn
  · exact List.getElem?_append_left hi
  · rw [List.getElem?_append_right (by omega), List.getElem?_replicate, if_pos (by omega)]
  · rw [List.getElem?_append_right (by omega), List.getElem?_replicate, if_neg (by omega)]

/-- A vector that has grown can be indexed. -/
theorem getElem?_grow_succ (a : α) (i : Nat) (xs : List α) :
    (grow a (i + 1) xs)[i]? = some ((xs[i]?).getD a) := by
  rw [getElem?_grow]
  split_ifs with hi hn
  · rw [List.getElem?_eq_getElem hi, Option.getD_some]
  · rw [List.getElem?_eq_none (by omega), Option.getD_none]
  · omega

/-- A write within bounds goes through. -/
theorem write_eq_some {xs : List α} {i : Nat} (h : i < xs.length) (a : α) :
    write xs i a = some (xs.set i a) := if_pos h

/-! ### A vector of vectors -/

variable {xss yss : List (List α)} {key key' : Nat × Nat} {a : α}

/-- An element is found in its row. -/
theorem index₂_eq_some_iff {b : α} :
    index₂ xss key = some b ↔ ∃ xs, xss[key.1]? = some xs ∧ xs[key.2]? = some b :=
  Option.bind_eq_some_iff

/-- There is an element exactly at the places within the width of their row. -/
theorem isSome_index₂ : (index₂ xss key).isSome ↔ key.2 < width xss key.1 := by
  unfold index₂ width
  cases hrow : xss[key.1]? with
  | none => simp
  | some xs => simp

/-- Within the width of its row there is one. -/
theorem index₂_of_lt (h : key.2 < width xss key.1) : ∃ b, index₂ xss key = some b :=
  Option.isSome_iff_exists.mp (isSome_index₂.mpr h)

/-- What has an element there can be written there. -/
theorem write₂_of_lt (h : key.2 < width xss key.1) (a : α) :
    ∃ yss, write₂ xss key a = some yss := by
  obtain ⟨b, hb⟩ := index₂_of_lt h
  obtain ⟨xs, hrow, hcol⟩ := index₂_eq_some_iff.mp hb
  have hcolumn : key.2 < xs.length := (List.getElem?_eq_some_iff.mp hcol).1
  have hrows : key.1 < xss.length := (List.getElem?_eq_some_iff.mp hrow).1
  refine ⟨xss.set key.1 (xs.set key.2 a), ?_⟩
  simp only [write₂, hrow, Option.bind_eq_bind, Option.bind_some, write_eq_some hcolumn,
    write_eq_some hrows]

/-- A write replaces one row by itself with one element changed. -/
theorem write₂_eq_some (h : write₂ xss key a = some yss) :
    ∃ xs, xss[key.1]? = some xs ∧ key.2 < xs.length ∧ yss = xss.set key.1 (xs.set key.2 a) := by
  obtain ⟨xs, hrow, h⟩ := Option.bind_eq_some_iff.mp h
  obtain ⟨ys, hys, h⟩ := Option.bind_eq_some_iff.mp h
  unfold write at hys h
  split_ifs at hys with hcolumn
  split_ifs at h with hrows
  cases hys
  cases h
  exact ⟨xs, hrow, hcolumn, rfl⟩

/-- What is found after a write. -/
theorem index₂_write₂ (h : write₂ xss key a = some yss) :
    index₂ yss key' = if key' = key then some a else index₂ xss key' := by
  obtain ⟨xs, hrow, hcolumn, rfl⟩ := write₂_eq_some h
  obtain ⟨r, c⟩ := key
  obtain ⟨r', c'⟩ := key'
  have hrows : r < xss.length := (List.getElem?_eq_some_iff.mp hrow).1
  simp only [index₂, List.getElem?_set, Prod.mk.injEq]
  by_cases hr : r = r'
  · subst hr
    rw [if_pos rfl, if_pos hrows, hrow]
    simp only [Option.bind_eq_bind, Option.bind_some, List.getElem?_set]
    by_cases hc : c = c'
    · subst hc
      simp [hcolumn]
    · rw [if_neg hc, if_neg fun h => hc h.2.symm]
  · rw [if_neg hr, if_neg fun h => hr h.1.symm]

/-- A write keeps the shape. -/
theorem width_write₂ (h : write₂ xss key a = some yss) (row : Nat) :
    width yss row = width xss row := by
  obtain ⟨xs, hrow, -, rfl⟩ := write₂_eq_some h
  have hrows : key.1 < xss.length := (List.getElem?_eq_some_iff.mp hrow).1
  unfold width
  rw [List.getElem?_set]
  split_ifs with hr
  · subst hr
    rw [hrow, Option.map_some, Option.map_some, Option.getD_some, Option.getD_some,
      List.length_set]
  · rfl

/-- **One element changes**, and no other. -/
theorem index₂_modify₂ (f : α → α) :
    index₂ (modify₂ xss key f) key' =
      if key' = key then (index₂ xss key').map f else index₂ xss key' := by
  obtain ⟨r, c⟩ := key
  obtain ⟨r', c'⟩ := key'
  simp only [index₂, modify₂, List.getElem?_modify, Prod.mk.injEq]
  cases hrow : xss[r']? with
  | none => simp
  | some xs =>
    by_cases hr : r = r'
    · subst hr
      by_cases hc : c = c'
      · subst hc
        simp
      · have hne : ¬ c' = c := fun h => hc h.symm
        simp [hc, hne]
    · have hne : ¬ r' = r := fun h => hr h.symm
      simp [hr, hne]

/-- The rows keep their widths. -/
theorem width_modify₂ (f : α → α) (row : Nat) : width (modify₂ xss key f) row = width xss row := by
  unfold width modify₂
  rw [List.getElem?_modify]
  cases xss[row]? with
  | none => simp
  | some xs =>
    by_cases hr : key.1 = row
    · simp [hr]
    · simp [hr]

/-- The rows of a vector that has grown: the new ones are empty. -/
theorem getElem?_grow_nil (row n : Nat) :
    ((grow [] n xss)[row]?).getD [] = (xss[row]?).getD [] := by
  rw [getElem?_grow]
  split_ifs with h hn
  · rfl
  · rw [List.getElem?_eq_none (by omega)]
    rfl
  · rw [List.getElem?_eq_none (by omega)]

/-- A row that is not there has width 0. -/
theorem width_eq_length (row : Nat) : width xss row = ((xss[row]?).getD []).length := by
  unfold width
  cases xss[row]? <;> rfl

theorem index₂_eq_getD (xss : List (List α)) (key : Nat × Nat) :
    index₂ xss key = ((xss[key.1]?).getD [])[key.2]? := by
  unfold index₂
  cases xss[key.1]? <;> simp

/-- **A `push_back` is always possible**, and this is what it leaves. -/
theorem pushBack_eq (xss : List (List α)) (row : Nat) (a : α) :
    ∃ yss, pushBack xss row a = some yss ∧ ∀ r, (yss[r]?).getD [] =
      if r = row then (xss[r]?).getD [] ++ [a] else (xss[r]?).getD [] := by
  have hlt : row < (grow [] (row + 1) xss).length := by
    rw [length_grow]
    omega
  refine ⟨_, by rw [pushBack, getElem?_grow_succ]; exact write_eq_some hlt _, fun r => ?_⟩
  rw [List.getElem?_set]
  by_cases hr : row = r
  · subst hr
    rw [if_pos rfl, if_pos hlt, if_pos rfl, Option.getD_some]
  · rw [if_neg hr, if_neg fun h => hr h.symm, getElem?_grow_nil]

/-- The rows after a `push_back`. -/
theorem getElem?_pushBack {row : Nat} (h : pushBack xss row a = some yss) (r : Nat) :
    (yss[r]?).getD [] = if r = row then (xss[r]?).getD [] ++ [a] else (xss[r]?).getD [] := by
  obtain ⟨zss, hzss, hrows⟩ := pushBack_eq xss row a
  rw [h, Option.some.injEq] at hzss
  rw [hzss, hrows]

/-- A `push_back` makes one row longer by one. -/
theorem width_pushBack {row : Nat} (h : pushBack xss row a = some yss) (r : Nat) :
    width yss r = width xss r + if r = row then 1 else 0 := by
  rw [width_eq_length, width_eq_length, getElem?_pushBack h]
  split_ifs
  · exact List.length_append
  · rfl

/-- What is found after a `push_back`. -/
theorem index₂_pushBack {row : Nat} (h : pushBack xss row a = some yss) :
    index₂ yss key = if key = (row, width xss row) then some a else index₂ xss key := by
  obtain ⟨r, c⟩ := key
  rw [index₂_eq_getD, index₂_eq_getD, getElem?_pushBack h]
  dsimp only
  by_cases hr : r = row
  · subst hr
    rw [if_pos rfl, width_eq_length]
    by_cases hc : c = ((xss[r]?).getD []).length
    · rw [if_pos (by rw [hc]), hc, List.getElem?_concat_length]
    · rw [if_neg (by simpa using hc), List.getElem?_append]
      split_ifs with hlt
      · rfl
      · rw [List.getElem?_eq_none (by simp; omega), List.getElem?_eq_none (by omega)]
  · rw [if_neg hr, if_neg (by simp [hr])]

namespace SameShape

variable {zss zss' : List (List β)} {b : β}

theorem pushBack {row : Nat} (h : SameShape xss zss) (hxss : pushBack xss row a = some yss)
    (hzss : Jagged.pushBack zss row b = some zss') : SameShape yss zss' := by
  intro r
  rw [width_pushBack hxss, width_pushBack hzss, h r]

end SameShape

end OkularV3d.Jagged
