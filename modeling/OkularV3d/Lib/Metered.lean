import OkularV3d.Lib.Wire
import Mathlib.Algebra.Order.Ring.Int
import Mathlib.Tactic.Ring

/-!
# What reading costs

A `Meter` is a stream together with what has been spent on it: the reads that were attempted while
every read before them had succeeded, those that were attempted after one had failed (`late`), and
the elements that were allocated. A `Metered` program reads a value or a field at a time, and may go
on after a failed read.

`Costs m gain elements late` bounds what a program spends. Where the stream is still good behind it,
no read was late, and the bytes it has taken exceed the elements it has allocated by `gain`; where a
read has failed, at most `elements` were allocated beyond the bytes that were taken, and at most
`late` reads were late. A loop that stops at the first failure costs as much as one of its rounds,
however many it was to make (`Costs.rounds`); a loop that does not pays for all of them
(`Costs.times`).

`Mirrors` says that a metered program follows a program over streams to the first failed read.

* `Within` is the inequality between the meters before and after; `Within.trans` adds it up.
* `Costs` has a rule for each way to put programs together.
* `Follows` and `Takes` connect metered programs to the parsers of `OkularV3d.Lib.Wire`, `Mirrors`
  and `Alike` to programs over streams.
-/

namespace OkularV3d.Wire

/-- A stream that is being read, and what has been spent on it. -/
structure Meter extends Stream where
  reads : ℕ
  late : ℕ
  elements : ℕ
  deriving DecidableEq

/-- A program over metered streams. -/
abbrev Metered (α : Type) := StateM Meter α

namespace Meter

/-- Before anything is spent. -/
def start (bytes : List UInt8) : Meter :=
  { rest := bytes, good := true, reads := 0, late := 0, elements := 0 }

/-- The reads a stream has left at most until one has failed. -/
def credit (s : Meter) : ℕ := s.rest.length + if s.good then 1 else 0

/-- From `s` to `s'`, no more was spent than this. -/
structure Within (gain : ℤ) (elements late : ℕ) (s s' : Meter) : Prop where
  good : s'.good = true → s.good = true
  shrinks : s'.rest.length ≤ s.rest.length
  covered : -gain ≤ elements
  reads : s'.reads + s'.credit ≤ s.reads + s.credit
  late : s'.late ≤ s.late + if s'.good then 0 else late
  elements : (s'.elements + s'.rest.length : ℤ) ≤
    s.elements + s.rest.length + if s'.good then -gain else (elements : ℤ)

variable {gain gain' : ℤ} {elements elements' late late' : ℕ} {s s' s'' : Meter}

/-- To do nothing costs nothing. -/
theorem Within.refl (s : Meter) : Within 0 0 0 s s where
  good := id
  shrinks := le_rfl
  covered := le_rfl
  reads := le_rfl
  late := by simp
  elements := by simp

/-- Costs add up. -/
theorem Within.trans (h : Within gain elements late s s')
    (h' : Within gain' elements' late' s' s'') :
    Within (gain + gain') (elements + elements') (late + late') s s'' where
  good := h.good ∘ h'.good
  shrinks := h'.shrinks.trans h.shrinks
  covered := by
    have hc := h.covered
    have hc' := h'.covered
    push_cast
    omega
  reads := h'.reads.trans h.reads
  late := by
    have hl := h.late
    have hl' := h'.late
    have hg := h'.good
    cases hs' : s'.good <;> cases hs'' : s''.good <;> simp_all <;> omega
  elements := by
    have he := h.elements
    have he' := h'.elements
    have hc := h.covered
    have hg := h'.good
    cases hs' : s'.good <;> cases hs'' : s''.good <;> simp_all <;> omega

/-- A bound may be raised, if what is gained less is covered by elements. -/
theorem Within.mono (h : Within gain elements late s s') (hgain : gain' ≤ gain)
    (hcovered : -gain' ≤ elements') (helements : elements ≤ elements') (hlate : late ≤ late') :
    Within gain' elements' late' s s' where
  good := h.good
  shrinks := h.shrinks
  covered := hcovered
  reads := h.reads
  late := by
    have hl := h.late
    split_ifs at hl ⊢ <;> omega
  elements := by
    have he := h.elements
    split_ifs at he ⊢ <;> omega

/-- Where a read has failed, the gain does not count. -/
theorem Within.failed (h : Within gain elements late s s') (hs' : s'.good = false)
    (hcovered : -gain' ≤ elements) : Within gain' elements late s s' where
  good := h.good
  shrinks := h.shrinks
  covered := hcovered
  reads := h.reads
  late := h.late
  elements := by simpa [hs'] using h.elements

/-- Where the stream is still good, nothing is owed. -/
theorem Within.paid (h : Within gain elements late s s') (hs' : s'.good = true) :
    Within gain (-gain).toNat 0 s s' where
  good := h.good
  shrinks := h.shrinks
  covered := Int.self_le_toNat _
  reads := h.reads
  late := by simpa [hs'] using h.late
  elements := by simpa [hs'] using h.elements

end Meter

/-! ### Programs -/

namespace Metered

variable {α β : Type}

/-- Attempt a read. -/
def read (p : Parser α) : Metered (Option α) := fun s =>
  let r := (Stream.read p).run s.toStream
  (r.1, { toStream := r.2
          reads := s.reads + if s.good then 1 else 0
          late := s.late + if s.good then 0 else 1
          elements := s.elements })

/-- Allocate elements. -/
def alloc (n : ℕ) : Metered Unit := fun s => ((), { s with elements := s.elements + n })

/-- A loop that looks at nothing. -/
def times : ℕ → Metered Unit → Metered Unit
  | 0, _ => pure ()
  | n + 1, body => body >>= fun _ => times n body

/-- A loop that stops when a read has failed. Whether to go on is returned. -/
def timesWhileGood : ℕ → Metered Unit → Metered Bool
  | 0, _ => pure true
  | n + 1, body => body >>= fun _ => get >>= fun s =>
    if s.good then timesWhileGood n body else pure false

/-- Read a value, or stop. -/
def orStop (p : Parser α) (k : α → Metered Bool) : Metered Bool := read p >>= fun
  | none => pure false
  | some a => k a

/-- A loop that reads a value in front of each round and stops where that fails. -/
def rounds (p : Parser α) (body : α → Metered Bool) : ℕ → Metered Bool
  | 0 => pure true
  | n + 1 => orStop p fun a => body a >>= fun goOn => if goOn then rounds p body n else pure false

/-- What a program spends, on every stream. -/
def Costs (m : Metered α) (gain : ℤ) (elements late : ℕ) : Prop :=
  ∀ s, Meter.Within gain elements late s (m.run s).2

variable {m : Metered α} {gain gain' : ℤ} {elements elements' late late' : ℕ}

theorem Costs.pure (a : α) : Costs (Pure.pure a) 0 0 0 := fun s => Meter.Within.refl s

/-- **Sequences**: the costs of a sequence are the sums of the costs. -/
theorem Costs.bind {f : α → Metered β} (h : Costs m gain elements late)
    (h' : ∀ a, Costs (f a) gain' elements' late') :
    Costs (m >>= f) (gain + gain') (elements + elements') (late + late') :=
  fun s => (h s).trans (h' _ _)

/-- What is done with the result costs nothing. -/
theorem Costs.ret (h : Costs m gain elements late) (f : α → β) :
    Costs (m >>= fun a => Pure.pure (f a)) gain elements late := by
  have hf := h.bind fun a => Costs.pure (f a)
  rwa [add_zero, Nat.add_zero, Nat.add_zero] at hf

theorem Costs.mono (h : Costs m gain elements late) (hgain : gain' ≤ gain)
    (hcovered : -gain' ≤ elements') (helements : elements ≤ elements') (hlate : late ≤ late') :
    Costs m gain' elements' late' :=
  fun s => (h s).mono hgain hcovered helements hlate

/-- A branch costs what each of its sides costs. -/
theorem Costs.ite {c : Prop} [Decidable c] {m' : Metered α} (h : Costs m gain elements late)
    (h' : Costs m' gain elements late) : Costs (if c then m else m') gain elements late := by
  split_ifs
  · exact h
  · exact h'

/-- A read that goes through is counted, and takes its bytes. -/
theorem read_of_some {p : Parser α} {bytes rest : List UInt8} {a : α}
    (h : p.run bytes = some (a, rest)) (reads late elements : ℕ) :
    (Metered.read p).run ⟨⟨bytes, true⟩, reads, late, elements⟩ =
      (some a, ⟨⟨rest, true⟩, reads + 1, late, elements⟩) := by
  change (((Stream.read p).run ⟨bytes, true⟩).1, _) = _
  rw [Stream.read_of_some h]
  rfl

/-- The read at which the stream fails is counted with those that go through. -/
theorem read_of_none {p : Parser α} {bytes : List UInt8} (h : p.run bytes = none)
    (reads late elements : ℕ) :
    (Metered.read p).run ⟨⟨bytes, true⟩, reads, late, elements⟩ =
      (none, ⟨⟨bytes, false⟩, reads + 1, late, elements⟩) := by
  change (((Stream.read p).run ⟨bytes, true⟩).1, _) = _
  rw [Stream.read_of_none h]
  rfl

/-- A read after the failure is a late one. -/
theorem read_of_failed {p : Parser α} (bytes : List UInt8) (reads late elements : ℕ) :
    (Metered.read p).run ⟨⟨bytes, false⟩, reads, late, elements⟩ =
      (none, ⟨⟨bytes, false⟩, reads, late + 1, elements⟩) := rfl

/-- A read takes its bytes; on a failed stream it is late. -/
theorem Costs.read {p : Parser α} {n : ℕ} (h : Parser.Sized p n) (hn : 0 < n) :
    Costs (Metered.read p) n 0 1 := by
  rintro ⟨⟨bytes, _ | _⟩, reads, late, elements⟩
  · rw [read_of_failed]
    constructor <;> simp [Meter.credit]
  · by_cases hlen : n ≤ bytes.length
    · obtain ⟨a, ha⟩ := h.run_eq_some hlen
      rw [read_of_some ha]
      constructor <;> simp [Meter.credit] <;> omega
    · rw [read_of_none (h.run_eq_none (by omega))]
      constructor <;> simp [Meter.credit]
      omega

/-- Elements are paid for in advance. -/
theorem Costs.alloc (n : ℕ) : Costs (Metered.alloc n) (-n) n 0 := by
  intro s
  have hrun : (Metered.alloc n).run s = ((), { s with elements := s.elements + n }) := rfl
  rw [hrun]
  constructor <;> simp [Meter.credit]
  omega

theorem Costs.cast (h : Costs m gain elements late) (hgain : gain = gain')
    (helements : elements = elements') (hlate : late = late') : Costs m gain' elements' late' := by
  rwa [← hgain, ← helements, ← hlate]

/-- A loop that looks at nothing pays for every round. -/
theorem Costs.times {body : Metered Unit} (h : Costs body gain elements late) (n : ℕ) :
    Costs (Metered.times n body) (n * gain) (n * elements) (n * late) := by
  induction n with
  | zero => exact (Costs.pure ()).cast (by simp) (by simp) (by simp)
  | succ n ih =>
    refine (h.bind fun _ => ih).cast ?_ ?_ ?_
    · push_cast
      ring
    · ring
    · ring

/-- A loop that looks at the stream pays for one. -/
theorem Costs.timesWhileGood {body : Metered Unit} (h : Costs body gain elements late)
    (hgain : 0 ≤ gain) (n : ℕ) :
    Costs (Metered.timesWhileGood n body) (n * gain) elements late := by
  induction n with
  | zero =>
    refine (Costs.pure true).mono ?_ ?_ (Nat.zero_le _) (Nat.zero_le _) <;> simp
  | succ n ih =>
    intro s
    have hrun : (Metered.timesWhileGood (n + 1) body).run s =
        (if (body.run s).2.good then Metered.timesWhileGood n body else Pure.pure false).run
          (body.run s).2 := rfl
    have hbody := h s
    have hcovered : -(((n + 1 : ℕ) : ℤ) * gain) ≤ elements := by
      have hmul : 0 ≤ ((n + 1 : ℕ) : ℤ) * gain := mul_nonneg (Int.natCast_nonneg _) hgain
      omega
    rw [hrun]
    cases hgood : (body.run s).2.good with
    | true =>
      have hnext := (hbody.paid hgood).trans (ih (body.run s).2)
      refine hnext.mono (le_of_eq ?_) hcovered (by omega) (by omega)
      push_cast
      ring
    | false => exact hbody.failed hgood hcovered

theorem good_of_read_eq_some {p : Parser α} {s s' : Meter} {a : α}
    (h : (Metered.read p).run s = (some a, s')) : s'.good = true := by
  obtain ⟨⟨bytes, _ | _⟩, reads, late, elements⟩ := s
  · cases h
  · rcases hp : p.run bytes with _ | ⟨b, rest⟩
    · rw [read_of_none hp] at h
      cases h
    · rw [read_of_some hp] at h
      cases h
      rfl

/-- A read of a fixed size leaves fewer bytes, so a loop over it ends. -/
theorem length_lt_of_read_eq_some {p : Parser α} {k : ℕ} (hp : Parser.Sized p k) (hk : 0 < k)
    {s s' : Meter} {a : α} (h : (Metered.read p).run s = (some a, s')) :
    s'.rest.length < s.rest.length := by
  obtain ⟨⟨bytes, _ | _⟩, reads, late, elements⟩ := s
  · cases h
  · by_cases hlen : k ≤ bytes.length
    · obtain ⟨b, hb⟩ := hp.run_eq_some hlen
      rw [read_of_some hb] at h
      cases h
      simp only [List.length_drop]
      omega
    · rw [read_of_none (hp.run_eq_none (by omega))] at h
      cases h

/-- Where the stream has failed, a read in front of a round stops the loop. -/
theorem rounds_of_failed (p : Parser α) (body : α → Metered Bool) (n : ℕ) {s : Meter}
    (hs : s.good = false) : Meter.Within 0 0 1 s ((rounds p body n).run s).2 := by
  obtain ⟨⟨bytes, good⟩, reads, late, elements⟩ := s
  obtain rfl : good = false := hs
  cases n with
  | zero => exact (Meter.Within.refl _).mono le_rfl le_rfl le_rfl (Nat.zero_le _)
  | succ n =>
    have hrun : (rounds p body (n + 1)).run ⟨⟨bytes, false⟩, reads, late, elements⟩ =
        (false, ⟨⟨bytes, false⟩, reads, late + 1, elements⟩) := rfl
    rw [hrun]
    constructor <;> simp [Meter.credit]

/-- **A loop that stops at the first failure**: however many rounds it was to make, it costs one
round and the read that stops it. -/
theorem Costs.rounds {p : Parser α} {k : ℕ} (hp : Parser.Sized p k) (hk : 0 < k)
    {body : α → Metered Bool} (h : ∀ a, Costs (body a) 0 elements late) (n : ℕ) :
    Costs (Metered.rounds p body n) 0 elements (late + 1) := by
  induction n with
  | zero => exact (Costs.pure true).mono le_rfl (by simp) (Nat.zero_le _) (Nat.zero_le _)
  | succ n ih =>
    intro s
    have hread := Costs.read hp hk s
    rw [Metered.rounds, orStop, StateT.run_bind]
    rcases hr : (Metered.read p).run s with ⟨_ | a, s'⟩ <;> rw [hr] at hread
    · -- the word in front of the round is not there
      change Meter.Within 0 elements (late + 1) s s'
      exact hread.mono (by omega) (by omega) (Nat.zero_le _) (by omega)
    · change Meter.Within 0 elements (late + 1) s
        ((if ((body a).run s').1 then Metered.rounds p body n else Pure.pure false).run
          ((body a).run s').2).2
      have hbody := h a s'
      have hs' : s'.good = true := good_of_read_eq_some hr
      have hread := (hread.paid hs').trans hbody
      generalize (body a).run s' = r at hread hbody
      obtain ⟨goOn, s''⟩ := r
      have hstop : Meter.Within 0 elements (late + 1) s s'' :=
        hread.mono (by omega) (by omega) (by omega) (by omega)
      cases goOn with
      | false => exact hstop
      | true =>
        cases hgood : s''.good with
        | true =>
          have hnext := (hread.paid hgood).trans (ih s'')
          exact hnext.mono (by omega) (by omega) (by omega) (by omega)
        | false =>
          -- the round has failed: only the read that stops the loop is left
          have hlast := hread.trans (rounds_of_failed p body n hgood)
          exact hlast.mono (by omega) (by omega) (by omega) (by omega)

/-- What comes after a read and a part does not come where the read fails. -/
theorem orStop_bind {p : Parser α} (f : α → Metered Bool) (k : Metered Bool) :
    (Metered.orStop p f >>= fun goOn => if goOn then k else Pure.pure false) =
      Metered.orStop p fun a => f a >>= fun goOn => if goOn then k else Pure.pure false := by
  rw [orStop, orStop, bind_assoc]
  congr 1
  funext r
  cases r with
  | none => rfl
  | some a => rfl

/-- What follows a checked read matters only where the read goes through. -/
theorem orStop_congr {p : Parser α} {f f' : α → Metered Bool} {s : Meter}
    (h : ∀ a s', (Metered.read p).run s = (some a, s') → (f a).run s' = (f' a).run s') :
    (Metered.orStop p f).run s = (Metered.orStop p f').run s := by
  rw [orStop, orStop, StateT.run_bind, StateT.run_bind]
  rcases hr : (Metered.read p).run s with ⟨_ | a, s'⟩
  · rfl
  · exact h a s' hr

/-- Every round of such a loop reads, so as many rounds as there are bytes are enough. -/
theorem rounds_fuel {p : Parser α} {k : ℕ} (hp : Parser.Sized p k) (hk : 0 < k)
    {body : α → Metered Bool} (h : ∀ a, Costs (body a) 0 elements late) {n n' : ℕ} {s : Meter}
    (hn : s.rest.length < n) (hn' : s.rest.length < n') :
    (Metered.rounds p body n).run s = (Metered.rounds p body n').run s := by
  induction n generalizing n' s with
  | zero => exact absurd hn (Nat.not_lt_zero _)
  | succ n ih =>
    obtain ⟨n', rfl⟩ : ∃ m, n' = m + 1 := ⟨n' - 1, by omega⟩
    refine orStop_congr fun a s' hr => ?_
    have htake : s'.rest.length < s.rest.length := length_lt_of_read_eq_some hp hk hr
    have hbody := (h a s').shrinks
    change ((if ((body a).run s').1 then Metered.rounds p body n else Pure.pure false).run
        ((body a).run s').2) =
      ((if ((body a).run s').1 then Metered.rounds p body n' else Pure.pure false).run
        ((body a).run s').2)
    split_ifs
    · exact ih (by omega) (by omega)
    · rfl

/-- A checked read costs one late read at most, or what comes after it. -/
theorem Costs.orStop {p : Parser α} {k : ℕ} (hp : Parser.Sized p k) (hk : 0 < k)
    {f : α → Metered Bool} (h : ∀ a, Costs (f a) 0 elements late) :
    Costs (Metered.orStop p f) 0 elements (late + 1) := by
  have hnext (r : Option α) : Costs (match r with | none => Pure.pure false | some a => f a)
      0 elements late := by
    cases r with
    | none => exact (Costs.pure false).mono le_rfl (by simp) (Nat.zero_le _) (Nat.zero_le _)
    | some a => exact h a
  exact ((Costs.read hp hk).bind hnext).mono (by omega) (by simp) (by omega) (by omega)

/-! ### Programs that follow others -/

/-- Once a read has failed the stream stays failed. -/
def StaysFailed (m : Metered α) : Prop := ∀ s : Meter, s.good = false → (m.run s).2.good = false

/-- A program with bounded costs leaves a failed stream failed. -/
theorem Costs.staysFailed (h : Costs m gain elements late) : StaysFailed m := by
  intro s hs
  have hgood := (h s).good
  cases hm : (m.run s).2.good with
  | false => rfl
  | true => exact absurd (hs.symm.trans (hgood hm)) Bool.noConfusion

theorem StaysFailed.pure (a : α) : StaysFailed (Pure.pure a) := fun _ hs => hs

/-- A sequence leaves a failed stream failed if its parts do. -/
theorem StaysFailed.bind {f : α → Metered β} (h : StaysFailed m) (h' : ∀ a, StaysFailed (f a)) :
    StaysFailed (m >>= f) :=
  fun s hs => h' _ _ (h s hs)

theorem StaysFailed.alloc (n : ℕ) : StaysFailed (Metered.alloc n) := fun _ hs => hs

theorem StaysFailed.read (p : Parser α) : StaysFailed (Metered.read p) := by
  rintro ⟨⟨bytes, good⟩, reads, late, elements⟩ hs
  obtain rfl : good = false := hs
  rfl

/-- `m` follows the parser: it fails on the same bytes, and takes the same bytes for a value related
by `R`. -/
def Follows (m : Metered α) (p : Parser β) (R : α → β → Prop) : Prop :=
  ∀ s : Meter, s.good = true →
    match p.run s.rest with
    | none => (m.run s).2.good = false
    | some (b, rest) => (m.run s).2.toStream = ⟨rest, true⟩ ∧ R (m.run s).1 b

/-- A metered read gives what its parser does. -/
theorem Follows.read (p : Parser α) : Follows (Metered.read p) p (fun a b => a = some b) := by
  rintro ⟨⟨bytes, good⟩, reads, late, elements⟩ hs
  obtain rfl : good = true := hs
  dsimp only
  rcases hp : p.run bytes with _ | ⟨b, rest⟩
  · rw [read_of_none hp]
  · rw [read_of_some hp]
    exact ⟨rfl, rfl⟩

theorem Follows.pure {R : α → β → Prop} {a : α} {b : β} (h : R a b) :
    Follows (Pure.pure a) (Pure.pure b) R := by
  rintro ⟨⟨bytes, good⟩, reads, late, elements⟩ hs
  obtain rfl : good = true := hs
  exact ⟨rfl, h⟩

variable {γ δ : Type}

/-- **Sequences** follow if their parts do; after a failure the rest must leave the stream
failed. -/
theorem Follows.bind {p : Parser β} {R : α → β → Prop} {f : α → Metered γ} {g : β → Parser δ}
    {S : γ → δ → Prop} (h : Follows m p R) (hf : ∀ a, StaysFailed (f a))
    (h' : ∀ a b, R a b → Follows (f a) (g b) S) : Follows (m >>= f) (p >>= g) S := by
  intro s hs
  have hm := h s hs
  have hrun : (m >>= f).run s = (f (m.run s).1).run (m.run s).2 := rfl
  rw [StateT.run_bind, hrun]
  rcases hp : p.run s.rest with _ | ⟨b, rest⟩ <;> rw [hp] at hm
  · exact hf _ _ hm
  · have hnext := h' _ b hm.2 (m.run s).2 (congrArg Stream.good hm.1)
    rwa [congrArg Stream.rest hm.1] at hnext

/-- What is done with the result needs no read. -/
theorem Follows.ret {p : Parser β} {R : α → β → Prop} (h : Follows m p R) (f : β → γ) :
    Follows m (p >>= fun b => Pure.pure (f b)) (fun _ _ => True) := by
  intro s hs
  have hm := h s hs
  rw [StateT.run_bind]
  rcases hp : p.run s.rest with _ | ⟨b, rest⟩ <;> rw [hp] at hm
  · exact hm
  · exact ⟨hm.1, trivial⟩

/-- A program that allocates goes on as it is. -/
theorem Follows.alloc {p : Parser β} {R : α → β → Prop} (n : ℕ) (h : Follows m p R) :
    Follows (Metered.alloc n >>= fun _ => m) p R :=
  fun s hs => h { s with elements := s.elements + n } hs

/-- Parsers of one size fail on the same bytes. -/
theorem Follows.sized {p : Parser β} {q : Parser γ} {n : ℕ} {R : α → β → Prop}
    (h : Follows m p R) (hp : Parser.Sized p n) (hq : Parser.Sized q n) :
    Follows m q (fun _ _ => True) := by
  intro s hs
  have hm := h s hs
  by_cases hn : n ≤ s.rest.length
  · obtain ⟨b, hb⟩ := hp.run_eq_some hn
    obtain ⟨c, hc⟩ := hq.run_eq_some hn
    rw [hb] at hm
    rw [hc]
    exact ⟨hm.1, trivial⟩
  · rw [hp.run_eq_none (by omega)] at hm
    rw [hq.run_eq_none (by omega)]
    exact hm

/-- The program takes `n` bytes, whatever they are. -/
def Takes (m : Metered α) (n : ℕ) : Prop := Follows m (Parser.skip n) (fun _ _ => True)

/-- A read of a fixed size takes that many bytes. -/
theorem Takes.read {p : Parser α} {n : ℕ} (h : Parser.Sized p n) : Takes (Metered.read p) n :=
  (Follows.read p).sized h (Parser.Agree.mono (Parser.Agree.refl _) fun _ _ _ => trivial)

theorem Takes.pure (a : α) : Takes (Pure.pure a) 0 := by
  have hskip : Parser.skip 0 = Pure.pure () := by
    funext bytes
    exact if_pos (Nat.zero_le _)
  rw [Takes, hskip]
  exact Follows.pure trivial

/-- A sequence takes the sum of the bytes. -/
theorem Takes.bind {f : α → Metered β} {j k : ℕ} (h : Takes m j) (hf : ∀ a, StaysFailed (f a))
    (h' : ∀ a, Takes (f a) k) : Takes (m >>= f) (j + k) := by
  rw [Takes, ← Parser.skip_bind_skip]
  exact Follows.bind h hf fun a _ _ => h' a

theorem Takes.cast {j k : ℕ} (h : Takes m j) (hjk : j = k) : Takes m k := hjk ▸ h

/-- A loop takes the bytes of all its rounds, and leaves a failed stream failed. -/
theorem Takes.times {body : Metered Unit} {k : ℕ} (h : Takes body k) (hf : StaysFailed body)
    (n : ℕ) : Takes (Metered.times n body) (n * k) ∧ StaysFailed (Metered.times n body) := by
  induction n with
  | zero => exact ⟨(Takes.pure ()).cast (Nat.zero_mul k).symm, fun _ hs => hs⟩
  | succ n ih =>
    constructor
    · exact (h.bind (fun _ => ih.2) fun _ => ih.1).cast (by ring)
    · exact fun s hs => ih.2 _ (hf s hs)

/-- A parser of the size of what is taken is followed. -/
theorem Takes.follows {n : ℕ} (h : Takes m n) {p : Parser β} (hp : Parser.Sized p n) :
    Follows m p (fun _ _ => True) :=
  Follows.sized h (Parser.Agree.mono (Parser.Agree.refl _) fun _ _ _ => trivial) hp

/-- A loop that looks at the stream goes on where all of its bytes are there. -/
theorem Follows.timesWhileGood {body : Metered Unit} {k : ℕ} (h : Takes body k) (n : ℕ) :
    Follows (Metered.timesWhileGood n body) (Parser.skip (n * k)) (fun goOn _ => goOn = true) := by
  induction n with
  | zero =>
    rintro ⟨⟨bytes, good⟩, reads, late, elements⟩ hs
    obtain rfl : good = true := hs
    rw [Parser.skip_run, if_pos (by omega), Nat.zero_mul, List.drop_zero]
    exact ⟨rfl, rfl⟩
  | succ n ih =>
    intro s hs
    have hbody := h s hs
    have hrun : (Metered.timesWhileGood (n + 1) body).run s =
        (if (body.run s).2.good then Metered.timesWhileGood n body else Pure.pure false).run
          (body.run s).2 := rfl
    have hskip : Parser.skip ((n + 1) * k) = Parser.skip k >>= fun _ => Parser.skip (n * k) := by
      rw [Parser.skip_bind_skip]
      congr 1
      ring
    rw [hrun, hskip, StateT.run_bind]
    rcases hp : (Parser.skip k).run s.rest with _ | ⟨b, rest⟩ <;> rw [hp] at hbody
    · rw [if_neg (by simp [hbody])]
      exact hbody
    · have hgood : (body.run s).2.good = true := congrArg Stream.good hbody.1
      have hnext := ih (body.run s).2 hgood
      rw [if_pos hgood]
      rwa [congrArg Stream.rest hbody.1] at hnext

/-! ### Programs over streams -/

variable {σ τ : Type}

/-- Up to the first failed read, `m` does with its stream what `q` does, and goes on where `q` goes
on. -/
def Mirrors (m : Metered Bool) (q : StateM Stream (σ × Bool)) : Prop :=
  ∀ s : Meter, s.good = true →
    (q.run s.toStream).2.good = false ∧ (m.run s).2.good = false ∨
      (q.run s.toStream).2 = (m.run s).2.toStream ∧ (q.run s.toStream).1.2 = (m.run s).1

theorem Mirrors.pure (x : σ) (goOn : Bool) : Mirrors (Pure.pure goOn) (Pure.pure (x, goOn)) :=
  fun _ _ => .inr ⟨rfl, rfl⟩

/-- A checked read is mirrored by a checked read. -/
theorem Mirrors.orStop {p : Parser α} {k : α → Metered Bool} {x : σ}
    {k' : α → StateM Stream (σ × Bool)} (h : ∀ a, Mirrors (k a) (k' a)) :
    Mirrors (Metered.orStop p k) (Stream.read p >>= fun
      | none => Pure.pure (x, false)
      | some a => k' a) := by
  rintro ⟨⟨bytes, good⟩, reads, late, elements⟩ hs
  obtain rfl : good = true := hs
  rw [Metered.orStop, StateT.run_bind, StateT.run_bind]
  rcases hp : p.run bytes with _ | ⟨a, rest⟩
  · rw [read_of_none hp, Stream.read_of_none hp]
    exact .inl ⟨rfl, rfl⟩
  · rw [read_of_some hp, Stream.read_of_some hp]
    exact h a ⟨⟨rest, true⟩, reads + 1, late, elements⟩ rfl

/-- A part that is read without a check. -/
theorem Mirrors.value {n : ℕ} (h : Takes m n) {q : StateM Stream β} {P Q : β → Prop}
    (hq : Wire.Takes q n P Q) (set : β → σ) :
    Mirrors (m >>= fun _ => Pure.pure true) (q >>= fun b => Pure.pure (set b, true)) := by
  rintro ⟨⟨bytes, good⟩, reads, late, elements⟩ hs
  obtain rfl : good = true := hs
  have hm := h ⟨⟨bytes, true⟩, reads, late, elements⟩ rfl
  dsimp only at hm
  rw [Parser.skip_run] at hm
  change (q.run ⟨bytes, true⟩).2.good = false ∧ (m.run _).2.good = false ∨
    (q.run ⟨bytes, true⟩).2 = (m.run _).2.toStream ∧ true = true
  by_cases hn : n ≤ bytes.length
  · rw [if_pos hn] at hm
    exact .inr ⟨(hq.enough bytes hn).2.trans hm.1.symm, rfl⟩
  · rw [if_neg hn] at hm
    exact .inl ⟨(hq.short bytes (by omega)).2, hm⟩

/-- A part that a constructor reads without a check. -/
theorem Mirrors.parser {p : Parser β} {R : α → β → Prop} (h : Follows m p R) (set : Option β → σ) :
    Mirrors (m >>= fun _ => Pure.pure true)
      (Stream.read p >>= fun b => Pure.pure (set b, true)) := by
  rintro ⟨⟨bytes, good⟩, reads, late, elements⟩ hs
  obtain rfl : good = true := hs
  have hm := h ⟨⟨bytes, true⟩, reads, late, elements⟩ rfl
  dsimp only at hm
  change ((Stream.read p).run ⟨bytes, true⟩).2.good = false ∧ (m.run _).2.good = false ∨
    ((Stream.read p).run ⟨bytes, true⟩).2 = (m.run _).2.toStream ∧ true = true
  rcases hp : p.run bytes with _ | ⟨b, rest⟩ <;> rw [hp] at hm
  · rw [Stream.read_of_none hp]
    exact .inl ⟨rfl, hm⟩
  · rw [Stream.read_of_some hp]
    exact .inr ⟨hm.1.symm, rfl⟩

/-- Parts whose reads are checked. -/
theorem Mirrors.checked {m : Metered Bool} {n : ℕ}
    (h : Follows m (Parser.skip n) (fun goOn _ => goOn = true)) {p : Parser β}
    (hp : Parser.Sized p n) (x : σ) (set : β → σ) :
    Mirrors m (Stream.read p >>= fun
      | none => Pure.pure (x, false)
      | some b => Pure.pure (set b, true)) := by
  rintro ⟨⟨bytes, good⟩, reads, late, elements⟩ hs
  obtain rfl : good = true := hs
  have hm := h ⟨⟨bytes, true⟩, reads, late, elements⟩ rfl
  dsimp only at hm
  rw [Parser.skip_run] at hm
  rw [StateT.run_bind]
  by_cases hn : n ≤ bytes.length
  · obtain ⟨b, hb⟩ := hp.run_eq_some hn
    rw [if_pos hn] at hm
    rw [Stream.read_of_some hb]
    exact .inr ⟨hm.1.symm, hm.2.symm⟩
  · rw [if_neg hn] at hm
    rw [Stream.read_of_none (hp.run_eq_none (by omega))]
    exact .inl ⟨rfl, hm⟩

/-- What comes after a part, if parsing goes on: afterwards both programs have failed, or are at the
same place with results that `R` relates. -/
theorem Mirrors.goesOn {m k : Metered Bool} {q : StateM Stream (σ × Bool)}
    {k' : σ → StateM Stream τ}
    {stop : σ × Bool → τ} {Q : σ → τ → Prop} (R : Bool → τ → Prop) (h : Mirrors m q)
    (hk : StaysFailed k) (hk' : ∀ x, Idle (k' x) (Q x)) (hstop : ∀ x, R false (stop (x, false)))
    (h' : ∀ x (s : Meter), s.good = true →
      ((k' x).run s.toStream).2.good = false ∧ (k.run s).2.good = false ∨
        ((k' x).run s.toStream).2 = (k.run s).2.toStream ∧
          R (k.run s).1 ((k' x).run s.toStream).1) {s : Meter} (hs : s.good = true) :
    let r := (m >>= fun goOn => if goOn then k else Pure.pure false).run s
    let r' := (q >>= fun r => if r.2 then k' r.1 else Pure.pure (stop r)).run s.toStream
    r'.2.good = false ∧ r.2.good = false ∨ r'.2 = r.2.toStream ∧ R r.1 r'.1 := by
  have hm := h s hs
  dsimp only
  rw [StateT.run_bind, StateT.run_bind]
  generalize q.run s.toStream = r at hm
  generalize m.run s = r' at hm
  obtain ⟨⟨x, goOn⟩, t⟩ := r
  obtain ⟨goOn', s'⟩ := r'
  dsimp only at hm
  -- the part has failed in both programs, or left them at the same place
  obtain ⟨ht, hs'⟩ | ⟨rfl, rfl⟩ := hm
  · -- nothing is read any more
    left
    constructor
    · cases goOn with
      | false => exact ht
      | true => exact (congrArg Stream.good (hk' x t ht).2).trans ht
    · cases goOn' with
      | false => exact hs'
      | true => exact hk s' hs'
  · cases goOn with
    | false => exact .inr ⟨rfl, hstop x⟩
    | true =>
      cases hgood : s'.good with
      | true => exact h' x s' hgood
      | false =>
        have hidle := congrArg Stream.good (hk' x s'.toStream hgood).2
        exact .inl ⟨hidle.trans hgood, hk s' hgood⟩

/-- A part and what comes after it, if parsing goes on. -/
theorem Mirrors.andThen {m k : Metered Bool} {q : StateM Stream (σ × Bool)}
    {k' : σ → StateM Stream (σ × Bool)} (h : Mirrors m q) (hk : StaysFailed k)
    (hk' : ∀ x, Idle (k' x) (fun _ => True)) (h' : ∀ x, Mirrors k (k' x)) :
    Mirrors (m >>= fun goOn => if goOn then k else Pure.pure false)
      (q >>= fun r => if r.2 then k' r.1 else Pure.pure r) := fun _ hs =>
  h.goesOn (fun goOn (r : σ × Bool) => r.2 = goOn) hk hk' (fun _ => rfl) h' hs

theorem Mirrors.map {m : Metered Bool} {q : StateM Stream (σ × Bool)} (h : Mirrors m q)
    (f : σ → τ) : Mirrors m (q >>= fun r => Pure.pure (f r.1, r.2)) := h

/-- Up to the first failed read, `m` does with its stream what `q` does. -/
def Alike (m : Metered α) (q : StateM Stream β) : Prop :=
  ∀ s : Meter, s.good = true →
    (q.run s.toStream).2.good = false ∧ (m.run s).2.good = false ∨
      (q.run s.toStream).2 = (m.run s).2.toStream

theorem Alike.pure (a : α) (b : β) : Alike (Pure.pure a) (Pure.pure b) := fun _ _ => .inr rfl

/-- Two programs that begin with the same checked read are alike if they go on alike. -/
theorem Alike.orStop {p : Parser α} {k : α → Metered Bool} {x : β}
    {f : Option α → StateM Stream β} (hnone : f none = Pure.pure x)
    (h : ∀ a, Alike (k a) (f (some a))) : Alike (Metered.orStop p k) (Stream.read p >>= f) := by
  rintro ⟨⟨bytes, good⟩, reads, late, elements⟩ hs
  obtain rfl : good = true := hs
  rw [Metered.orStop, StateT.run_bind, StateT.run_bind]
  rcases hp : p.run bytes with _ | ⟨a, rest⟩
  · rw [read_of_none hp, Stream.read_of_none hp]
    change ((f none).run ⟨bytes, false⟩).2.good = false ∧ _ ∨ _
    rw [hnone]
    exact .inl ⟨rfl, rfl⟩
  · rw [read_of_some hp, Stream.read_of_some hp]
    exact h a ⟨⟨rest, true⟩, reads + 1, late, elements⟩ rfl

/-- A part and what comes after it, if parsing goes on, for what is left of the stream. -/
theorem Mirrors.alike_andThen {m k : Metered Bool} {q : StateM Stream (σ × Bool)}
    {k' : σ → StateM Stream σ} {Q : σ → σ → Prop} (h : Mirrors m q) (hk : StaysFailed k)
    (hk' : ∀ x, Idle (k' x) (Q x)) (h' : ∀ x, Alike k (k' x)) :
    Alike (m >>= fun goOn => if goOn then k else Pure.pure false)
      (q >>= fun r => if r.2 then k' r.1 else Pure.pure r.1) := by
  intro s hs
  have hnext (x : σ) (s : Meter) (hs : s.good = true) :=
    (h' x s hs).imp_right fun hstream => And.intro hstream trivial
  exact (h.goesOn (fun _ _ => True) hk hk' (fun _ => trivial) hnext hs).imp_right And.left

end Metered

end OkularV3d.Wire
