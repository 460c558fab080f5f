import Mathlib.Algebra.Order.Field.Basic
import Mathlib.Tactic.Linarith
import Mathlib.Tactic.Positivity
import Mathlib.Tactic.Ring

/-!
# Branch and bound with a growing tolerance

A search for the greatest value over a piece. It knows some of the values (`corner`) and a bound on
all of them (`control`), keeps the best value found so far, and looks at the parts of a piece unless
the bound exceeds this value by no more than a tolerance. The tolerance doubles from a piece to its
parts, so the search ends soon; but then how good is its result?

The result is a value, or what the search began with (`search_induct`). Where the gap between
`control` and `corner` shrinks to a quarter from a piece to its parts, no value exceeds the result
by more than the tolerance of level `k` or the gap of level `k`, whichever is greater, for every `k`
(`le_search_add`).

* `search` is the search, at most as deep as it is told.
* `search_induct` says what the result is; what holds of the first value and of the corners holds of
  it.
* `le_search_add` says how far it can be off. It needs no lower bound for the tolerance, so it
  covers a search that never gives up early as well as one that gives up at once.
-/

namespace OkularV3d.BranchAndBound

variable {P K : Type*} [Field K] [LinearOrder K] [IsStrictOrderedRing K]

/-- The search at `p`, for at most `n` further levels, from the best value `b`. -/
def search (corner control : P → K) (parts : P → List P) : ℕ → K → K → P → K
  | 0, _, b, p => max b (corner p)
  | n + 1, fuzz, b, p =>
    if control p ≤ max b (corner p) + fuzz then max b (corner p)
    else (parts p).foldl
      (fun b q => search corner control parts n (fuzz + fuzz) b q) (max b (corner p))

variable {corner control : P → K} {parts : P → List P} {n k : ℕ} {fuzz b g y : K} {p : P}

/-! ### The best value so far -/

section Fold

variable {f : K → P → K} (hf : ∀ b q, b ≤ f b q)
include hf

omit [Field K] [IsStrictOrderedRing K] in
theorem le_foldl (ps : List P) (b : K) : b ≤ ps.foldl f b := by
  induction ps generalizing b with
  | nil => exact le_rfl
  | cons q ps ih => exact (hf b q).trans (ih _)

omit [Field K] [IsStrictOrderedRing K] in
/-- What is found in one of the pieces is not lost. -/
theorem exists_le_foldl {ps : List P} {q : P} (hq : q ∈ ps) (b : K) :
    ∃ c, f c q ≤ ps.foldl f b := by
  induction ps generalizing b with
  | nil => cases hq
  | cons r ps ih =>
    obtain rfl | hq := List.mem_cons.mp hq
    · exact ⟨b, le_foldl hf ps _⟩
    · exact ih hq _

end Fold

omit [IsStrictOrderedRing K] in
theorem max_le_search : max b (corner p) ≤ search corner control parts n fuzz b p := by
  induction n generalizing fuzz b p with
  | zero => exact le_rfl
  | succ n ih =>
    rw [search]
    split_ifs
    · exact le_rfl
    · exact le_foldl (fun b q => (le_max_left b (corner q)).trans ih) _ _

omit [IsStrictOrderedRing K] in
/-- **The result is a value.** What holds of the first value and of the corners holds of the
result. -/
theorem search_induct (Value : K → Prop) (Inside : P → Prop)
    (hcorner : ∀ p, Inside p → Value (corner p))
    (hparts : ∀ p, Inside p → ∀ q ∈ parts p, Inside q) (hb : Value b) (hp : Inside p) :
    Value (search corner control parts n fuzz b p) := by
  have hmax : ∀ b p, Value b → Inside p → Value (max b (corner p)) := fun b p hb hp => by
    obtain h | h := max_choice b (corner p)
    · rwa [h]
    · rw [h]
      exact hcorner p hp
  induction n generalizing fuzz b p with
  | zero => exact hmax b p hb hp
  | succ n ih =>
    rw [search]
    split_ifs
    · exact hmax b p hb hp
    · have hfold : ∀ ps : List P, (∀ q ∈ ps, Inside q) → ∀ b, Value b →
          Value (ps.foldl (fun b q => search corner control parts n (fuzz + fuzz) b q) b) := by
        intro ps hps
        induction ps with
        | nil => exact fun b hb => hb
        | cons q ps ihps =>
          rw [List.forall_mem_cons] at hps
          exact fun b hb => ihps hps.2 _ (ih hb hps.1)
      exact hfold _ (hparts p hp) _ (hmax b p hb hp)

/-! ### How good the result is -/

/-- **Accuracy of the search.** No value is above the result by more than the tolerance of level `k`
or the gap of level `k`. -/
theorem le_search_add (Takes : P → K → Prop) {Gap : K → P → Prop}
    (htakes : ∀ p y, Takes p y → y ≤ max (corner p) (control p))
    (hcover : ∀ p y, Takes p y → ∃ q ∈ parts p, Takes q y)
    (hgap : ∀ g p, Gap g p → control p ≤ corner p + g)
    (hshrink : ∀ g p, Gap g p → ∀ q ∈ parts p, Gap (g / 4) q)
    (hk : k ≤ n) (hfuzz : 0 ≤ fuzz) (hg : 0 ≤ g) (hp : Gap g p) (hy : Takes p y) :
    y ≤ search corner control parts n fuzz b p + max (2 ^ k * fuzz) (g / 4 ^ k) := by
  have hy' := htakes p y hy
  have hgap' := hgap g p hp
  induction k generalizing n fuzz g b p with
  | zero =>
    -- the gap of this level is enough, whether the search goes on or not
    have hbest : corner p ≤ search corner control parts n fuzz b p :=
      (le_max_right _ _).trans max_le_search
    have hle : max (corner p) (control p) ≤ corner p + g := max_le (le_add_of_nonneg_right hg) hgap'
    have hzero : g = g / 4 ^ 0 := by rw [pow_zero, div_one]
    have hmax : g ≤ max (2 ^ 0 * fuzz) (g / 4 ^ 0) := hzero.trans_le (le_max_right _ _)
    linarith
  | succ k ih =>
    obtain ⟨n, rfl⟩ := Nat.exists_eq_add_of_le' (le_of_add_le_right hk)
    rw [search]
    split_ifs with hstop
    · -- the search stops within the tolerance
      have hcorner := le_max_right b (corner p)
      have hle : max (corner p) (control p) ≤ max b (corner p) + fuzz :=
        max_le (hcorner.trans (le_add_of_nonneg_right hfuzz)) hstop
      have hone : fuzz ≤ 2 ^ (k + 1) * fuzz :=
        le_mul_of_one_le_left hfuzz (one_le_pow₀ one_le_two)
      have hmax := le_max_left (2 ^ (k + 1) * fuzz) (g / 4 ^ (k + 1))
      linarith
    · obtain ⟨q, hq, hyq⟩ := hcover p y hy
      obtain ⟨c, hc⟩ := exists_le_foldl
        (f := fun b q => search corner control parts n (fuzz + fuzz) b q)
        (fun b q => (le_max_left b (corner q)).trans max_le_search) hq (max b (corner p))
      have hgapq := hshrink g p hp q hq
      have hrec : y ≤ search corner control parts n (fuzz + fuzz) c q +
          max (2 ^ k * (fuzz + fuzz)) (g / 4 / 4 ^ k) :=
        ih (by omega) (by positivity) (by positivity) hgapq hyq (htakes q y hyq) (hgap _ q hgapq)
      have hfuzzk : 2 ^ k * (fuzz + fuzz) = 2 ^ (k + 1) * fuzz := by ring
      have hgk : g / 4 / 4 ^ k = g / 4 ^ (k + 1) := by rw [div_div, pow_succ']
      rw [hfuzzk, hgk] at hrec
      linarith

end OkularV3d.BranchAndBound
