import Mathlib.Algebra.Ring.GeomSum
import Mathlib.Data.List.Basic
import Mathlib.Order.Lattice
import Mathlib.Tactic.Common

/-!
# Adaptive recursion

An adaptive algorithm looks at a piece, changes its state, and goes on with the parts of the piece,
one after the other, until there are none. `step p s` is what it does at the piece `p` in the state
`s`: the new state and the parts. `run step n p s` is the whole recursion, if it is no deeper
than `n`; `Result step p s t` says that it ends in `t`, however deep.

The rules are those of a big-step semantics: `Result.induct` proves what holds of every finished
recursion from what holds at one piece, `exists_run` proves that it finishes from a bound that
sinks from a piece to its parts, and a result does not depend on the depth allowed (`run_mono`).

* `Chain` is a relation that holds of one part after the other, each in the state the last one left.
* `Result.invariant` keeps an invariant of the state and the validity of the pieces together;
  `size_le_of_run` bounds how much a recursion can add.
* `exists_run` is termination; `exists_run_of_endsWithin` decides it from the shapes of the pieces,
  where these do not depend on the state.
-/

namespace OkularV3d.Adaptive

variable {P S : Type*}

/-- The recursion at `p`, at most `n` deep. -/
def run (step : P → S → S × List P) : ℕ → P → S → Option S
  | 0, _, _ => none
  | n + 1, p, s => (step p s).2.foldlM (fun t q => run step n q t) (step p s).1

/-- The recursion at `p` in the state `s` ends in the state `t`. -/
def Result (step : P → S → S × List P) (p : P) (s t : S) : Prop := ∃ n, run step n p s = some t

/-- A relation that holds of one piece after the other, each in the state the last one left. -/
inductive Chain (R : P → S → S → Prop) : List P → S → S → Prop
  | nil (s : S) : Chain R [] s s
  | cons {p : P} {ps : List P} {s t u : S} (head : R p s t) (tail : Chain R ps t u) :
    Chain R (p :: ps) s u

variable {step : P → S → S × List P} {R R' : P → S → S → Prop} {n m : ℕ} {p : P} {ps : List P}
  {s t u : S}

theorem chain_nil_iff : Chain R [] s t ↔ t = s := by
  constructor
  · rintro ⟨⟩
    rfl
  · rintro rfl
    exact .nil t

theorem chain_cons_iff : Chain R (p :: ps) s u ↔ ∃ t, R p s t ∧ Chain R ps t u := by
  refine ⟨fun h => ?_, fun ⟨t, hp, hps⟩ => .cons hp hps⟩
  cases h with
  | cons head tail => exact ⟨_, head, tail⟩

theorem Chain.imp (h : Chain R ps s t) (himp : ∀ q ∈ ps, ∀ s t, R q s t → R' q s t) :
    Chain R' ps s t := by
  induction h with
  | nil s => exact .nil s
  | cons head tail ih =>
    rw [List.forall_mem_cons] at himp
    exact .cons (himp.1 _ _ head) (ih himp.2)

/-- What every piece keeps, a chain keeps. -/
theorem Chain.keeps {Keep : S → S → Prop} (hrefl : ∀ s, Keep s s)
    (htrans : ∀ s t u, Keep s t → Keep t u → Keep s u) (h : Chain R ps s t)
    (hkeep : ∀ q ∈ ps, ∀ s t, R q s t → Keep s t) : Keep s t := by
  induction h with
  | nil s => exact hrefl s
  | cons head tail ih =>
    rw [List.forall_mem_cons] at hkeep
    exact htrans _ _ _ (hkeep.1 _ _ head) (ih hkeep.2)

theorem foldlM_eq_some_iff (f : S → P → Option S) :
    ps.foldlM f s = some t ↔ Chain (fun p s t => f s p = some t) ps s t := by
  induction ps generalizing s with
  | nil => simp [chain_nil_iff, eq_comm]
  | cons p ps ih =>
    rw [List.foldlM_cons, Option.bind_eq_bind, Option.bind_eq_some_iff, chain_cons_iff]
    simp only [ih]

/-! ### Depth -/

@[simp] theorem run_zero : run step 0 p s = none := rfl

theorem run_succ_eq_some_iff :
    run step (n + 1) p s = some t ↔
      Chain (fun p s t => run step n p s = some t) (step p s).2 (step p s).1 t :=
  foldlM_eq_some_iff _

/-- A greater depth does no harm. -/
theorem run_mono (hnm : n ≤ m) (h : run step n p s = some t) : run step m p s = some t := by
  induction n generalizing m p s t with
  | zero => cases h
  | succ n ih =>
    obtain ⟨m, rfl⟩ := Nat.exists_eq_succ_of_ne_zero
      (Nat.ne_of_gt (Nat.lt_of_lt_of_le n.succ_pos hnm))
    rw [run_succ_eq_some_iff] at h ⊢
    exact h.imp fun q _ s t hq => ih (Nat.le_of_succ_le_succ hnm) hq

/-- **Induction rule.** What holds at a piece as soon as it holds, one after the other, of its
parts, holds of every recursion that ends. -/
theorem Result.induct (hstep : ∀ p s t, Chain R (step p s).2 (step p s).1 t → R p s t)
    (h : Result step p s t) : R p s t := by
  obtain ⟨n, h⟩ := h
  induction n generalizing p s t with
  | zero => cases h
  | succ n ih => exact hstep p s t ((run_succ_eq_some_iff.mp h).imp fun q _ s t hq => ih hq)

/-- What the algorithm keeps at one piece, it keeps. -/
theorem Result.keeps (Keep : S → S → Prop) (hrefl : ∀ s, Keep s s)
    (htrans : ∀ s t u, Keep s t → Keep t u → Keep s u) (hstep : ∀ p s, Keep s (step p s).1)
    (h : Result step p s t) : Keep s t :=
  h.induct (R := fun _ s t => Keep s t) fun p s _ hparts =>
    htrans _ _ _ (hstep p s) (hparts.keeps hrefl htrans fun _ _ _ _ hq => hq)

/-- **Invariant rule.** A piece must be valid for the state it is looked at in. The parts of a valid
piece are valid in the state they are made in, and go on being valid as the state is extended. -/
theorem Result.invariant (Valid : P → S → Prop) (Inv : S → Prop) (Extends : S → S → Prop)
    (hrefl : ∀ s, Extends s s) (htrans : ∀ s t u, Extends s t → Extends t u → Extends s u)
    (hext : ∀ p s, Extends s (step p s).1) (hmono : ∀ p s t, Valid p s → Extends s t → Valid p t)
    (hparts : ∀ p s, Valid p s → ∀ q ∈ (step p s).2, Valid q (step p s).1)
    (hinv : ∀ p s, Valid p s → Inv s → Inv (step p s).1) (h : Result step p s t) (hp : Valid p s)
    (hs : Inv s) : Inv t := by
  have hchain : ∀ (qs : List P) s t,
      Chain (fun q s t => Extends s t ∧ (Valid q s → Inv s → Inv t)) qs s t →
        (∀ q ∈ qs, Valid q s) →
        Inv s → Extends s t ∧ Inv t := by
    intro qs s t hqs
    induction hqs with
    | nil s => exact fun _ hs => ⟨hrefl s, hs⟩
    | cons head tail ih =>
      intro hvalid hs
      rw [List.forall_mem_cons] at hvalid
      obtain ⟨hext, ht⟩ := ih (fun q hq => hmono q _ _ (hvalid.2 q hq) head.1) (head.2 hvalid.1 hs)
      exact ⟨htrans _ _ _ head.1 hext, ht⟩
  refine (h.induct (R := fun p s t => Extends s t ∧ (Valid p s → Inv s → Inv t)) ?_).2 hp hs
  intro p s t hrec
  refine ⟨htrans _ _ _ (hext p s) (hrec.keeps hrefl htrans fun _ _ _ _ hq => hq.1), fun hp hs => ?_⟩
  exact (hchain _ _ _ hrec (hparts p s hp) (hinv p s hp hs)).2

/-- The induction rule with the depth in sight. -/
theorem run_induct {R : ℕ → P → S → S → Prop}
    (hstep : ∀ n p s t, Chain (R n) (step p s).2 (step p s).1 t → R (n + 1) p s t)
    (h : run step n p s = some t) : R n p s t := by
  induction n generalizing p s t with
  | zero => cases h
  | succ n ih => exact hstep n p s t ((run_succ_eq_some_iff.mp h).imp fun q _ s t hq => ih hq)

/-! ### Growth -/

/-- **Growth rule.** If a piece adds at most `a` and has at most `w` parts, a recursion that is at
most `n` deep adds at most `a * (1 + w + ... + w ^ (n - 1))`. -/
theorem size_le_of_run (size : S → ℕ) {a w : ℕ} (hsize : ∀ p s, size (step p s).1 ≤ size s + a)
    (hwidth : ∀ p s, (step p s).2.length ≤ w) (h : run step n p s = some t) :
    size t ≤ size s + a * ∑ i ∈ Finset.range n, w ^ i := by
  -- by induction on the parts still to come, which add the same each
  have hchain : ∀ {m : ℕ} {qs : List P} {s t : S}, Chain (fun _ s t => size t ≤ size s + m) qs s t →
      size t ≤ size s + qs.length * m := by
    intro m qs s t hqs
    induction hqs with
    | nil s => exact Nat.le_add_right ..
    | cons head tail ih =>
      rw [List.length_cons, Nat.succ_mul]
      omega
  refine run_induct (R := fun n _ s t => size t ≤ size s + a * ∑ i ∈ Finset.range n, w ^ i) ?_ h
  intro n p s t hparts
  have hrest := hchain hparts
  have hle := Nat.mul_le_mul_right (a * ∑ i ∈ Finset.range n, w ^ i) (hwidth p s)
  have hsum : a * ∑ i ∈ Finset.range (n + 1), w ^ i =
      w * (a * ∑ i ∈ Finset.range n, w ^ i) + a := by
    rw [geom_sum_succ, mul_add, mul_one, mul_left_comm]
  have hfirst := hsize p s
  omega

/-! ### Termination -/

theorem exists_chain (h : ∀ q ∈ ps, ∀ s, ∃ t, R q s t) (s : S) : ∃ t, Chain R ps s t := by
  induction ps generalizing s with
  | nil => exact ⟨s, .nil s⟩
  | cons q ps ih =>
    rw [List.forall_mem_cons] at h
    obtain ⟨t, ht⟩ := h.1 s
    obtain ⟨u, hu⟩ := ih h.2 t
    exact ⟨u, .cons ht hu⟩

/-- **Termination rule.** The recursion ends if a bound on the depth sinks from a piece to its
parts. -/
theorem exists_run (Bound : ℕ → P → Prop)
    (hbound : ∀ n p s, Bound n p → ∀ q ∈ (step p s).2, ∃ m < n, Bound m q) (hp : Bound n p)
    (hnm : n < m) (s : S) : ∃ t, run step m p s = some t := by
  induction m generalizing n p s with
  | zero => omega
  | succ m ih =>
    have hparts : ∀ q ∈ (step p s).2, ∀ s, ∃ t, run step m q s = some t := by
      intro q hq
      obtain ⟨k, hk, hbq⟩ := hbound n p s hp q hq
      exact ih hbq (by omega)
    obtain ⟨t, ht⟩ := exists_chain hparts (step p s).1
    exact ⟨t, run_succ_eq_some_iff.mpr ht⟩

/-- Whether the recursion on shapes alone is at most `n` deep. -/
def endsWithin {G : Type*} (parts : G → List G) : ℕ → G → Bool
  | 0, _ => false
  | n + 1, g => (parts g).all (endsWithin parts n)

/-- **Shape rule.** The recursion ends where that on the shapes of its pieces does, whatever the
state. -/
theorem exists_run_of_endsWithin {G : Type*} {parts : G → List G} (shape : P → G)
    (hparts : ∀ p s, ∀ q ∈ (step p s).2, shape q ∈ parts (shape p))
    (h : endsWithin parts n (shape p) = true) (s : S) : ∃ t, run step n p s = some t := by
  induction n generalizing p s with
  | zero => cases h
  | succ n ih =>
    rw [endsWithin, List.all_eq_true] at h
    obtain ⟨t, ht⟩ := exists_chain
      (fun q hq s => ih (h _ (hparts p _ q hq)) s) (step p s).1
    exact ⟨t, run_succ_eq_some_iff.mpr ht⟩

end OkularV3d.Adaptive
