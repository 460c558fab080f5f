import Mathlib.Data.Vector.Basic
import Mathlib.Tactic.Common

/-!
# Binary records

A record is read from the front of a byte stream, field by field. A `Parser` returns a value and the
bytes behind it, or nothing where the bytes do not suffice. Two notions say what a parser does, and
both compose field by field:

* `Reads p bytes a`: in front of any rest, `p` reads exactly `bytes` and returns `a` (round trips);
* `Agree R p q`: `p` and `q` succeed on the same bytes and leave the same rest, with results
  related by `R`. `Sized p n` is the agreement of `p` with skipping `n` bytes (truncation).

A `Stream` is what a program reads from: it remembers that a read has failed, and a failed read
returns no value. Words are four bytes, the most significant first; a double word is two words.

* `Reads.bind`, `Agree.bind` and `Sized.bind` are the rules for sequences; `list` and `vector` read
  a number of elements.
* `Shrinks` says that a parser gives no bytes back, which bounds the rounds of a loop over records.
* `Consumes`, `Takes` and `Idle` are the same notions for programs over streams, on good streams and
  on failed ones.
-/

namespace OkularV3d.Wire

/-- A reader of records: the state is the rest of the bytes. -/
abbrev Parser (α : Type) := StateT (List UInt8) Option α

namespace Parser

variable {α β γ δ : Type}

/-! ### Round trips -/

/-- In front of any rest, `p` reads exactly `bytes` and returns `a`. -/
def Reads (p : Parser α) (bytes : List UInt8) (a : α) : Prop :=
  ∀ rest, p.run (bytes ++ rest) = some (a, rest)

/-- What reads nothing takes no bytes. -/
theorem Reads.pure (a : α) : Reads (Pure.pure a) [] a := fun _ => rfl

/-- **Sequences**: what is written one behind the other is read so. -/
theorem Reads.bind {p : Parser α} {f : α → Parser β} {bytes bytes' : List UInt8} {a : α} {b : β}
    (h : Reads p bytes a) (h' : Reads (f a) bytes' b) : Reads (p >>= f) (bytes ++ bytes') b := by
  intro rest
  rw [StateT.run_bind, List.append_assoc, h]
  exact h' rest

/-- The last field of a record. -/
theorem Reads.ret {p : Parser α} {bytes : List UInt8} {a : α} (h : Reads p bytes a) (f : α → β) :
    Reads (p >>= fun x => Pure.pure (f x)) bytes (f a) := by
  have hf : Reads (p >>= fun x => Pure.pure (f x)) (bytes ++ []) (f a) :=
    h.bind (Reads.pure (f a))
  rwa [List.append_nil] at hf

/-! ### Agreement -/

/-- `p` and `q` succeed on the same bytes, leave the same rest, and return results related by
`R`. -/
def Agree (R : α → β → Prop) (p : Parser α) (q : Parser β) : Prop :=
  ∀ bytes, Option.Rel (fun x y => R x.1 y.1 ∧ x.2 = y.2) (p.run bytes) (q.run bytes)

/-- A parser agrees with itself. -/
theorem Agree.refl (p : Parser α) : Agree Eq p p := by
  intro bytes
  cases p.run bytes with
  | none => exact .none
  | some x => exact .some ⟨rfl, rfl⟩

/-- The relation of the results may be weakened. -/
theorem Agree.mono {R S : α → β → Prop} {p : Parser α} {q : Parser β} (h : Agree R p q)
    (hRS : ∀ a b, R a b → S a b) : Agree S p q := by
  intro bytes
  have hb := h bytes
  generalize p.run bytes = x at hb ⊢
  generalize q.run bytes = y at hb ⊢
  cases hb with
  | none => exact .none
  | some hab => exact .some ⟨hRS _ _ hab.1, hab.2⟩

theorem Agree.pure {R : α → β → Prop} {a : α} {b : β} (h : R a b) :
    Agree R (Pure.pure a) (Pure.pure b) :=
  fun _ => .some ⟨h, rfl⟩

/-- **Sequences** of parsers that agree do so, if the second ones do whatever related results the
first ones have. -/
theorem Agree.bind {R : α → β → Prop} {S : γ → δ → Prop} {p : Parser α} {q : Parser β}
    {f : α → Parser γ} {g : β → Parser δ} (h : Agree R p q)
    (hfg : ∀ a b, R a b → Agree S (f a) (g b)) : Agree S (p >>= f) (q >>= g) := by
  intro bytes
  rw [StateT.run_bind, StateT.run_bind]
  have hpq := h bytes
  rcases hp : p.run bytes with _ | ⟨a, rest⟩ <;> rcases hq : q.run bytes with _ | ⟨b, rest'⟩ <;>
    rw [hp, hq] at hpq
  · exact .none
  · cases hpq
  · cases hpq
  · obtain ⟨hab, rfl⟩ : R a b ∧ rest = rest' := by cases hpq with | some h => exact h
    exact hfg a b hab rest

/-! ### Skipping -/

/-- Skip `n` bytes. -/
def skip (n : ℕ) : Parser Unit := fun bytes =>
  if n ≤ bytes.length then some ((), bytes.drop n) else none

/-- Skipping fails only where there are too few bytes. -/
theorem skip_run (n : ℕ) (bytes : List UInt8) :
    (skip n).run bytes = if n ≤ bytes.length then some ((), bytes.drop n) else none := rfl

/-- To skip twice is to skip the sum. -/
theorem skip_bind_skip (m n : ℕ) : (skip m >>= fun _ => skip n) = skip (m + n) := by
  funext bytes
  change ((skip m).run bytes >>= fun x => (skip n).run x.2) = (skip (m + n)).run bytes
  rw [skip_run, skip_run]
  by_cases hm : m ≤ bytes.length
  · rw [if_pos hm]
    change (skip n).run (bytes.drop m) = _
    rw [skip_run, List.length_drop, List.drop_drop]
    exact if_congr (by omega) rfl rfl
  · rw [if_neg hm, if_neg (by omega)]
    rfl

/-- `p` reads `n` bytes, whatever they are. -/
def Sized (p : Parser α) (n : ℕ) : Prop := Agree (fun _ _ => True) p (skip n)

theorem Sized.pure (a : α) : Sized (Pure.pure a) 0 := fun _ => .some ⟨trivial, rfl⟩

/-- The size of a sequence is the sum of the sizes. -/
theorem Sized.bind {p : Parser α} {f : α → Parser β} {m n : ℕ} (h : Sized p m)
    (h' : ∀ a, Sized (f a) n) : Sized (p >>= f) (m + n) := by
  rw [Sized, ← skip_bind_skip]
  exact Agree.bind h fun a _ _ => h' a

/-- The last field of a record. -/
theorem Sized.ret {p : Parser α} {n : ℕ} (h : Sized p n) (f : α → β) :
    Sized (p >>= fun x => Pure.pure (f x)) n :=
  h.bind fun a => Sized.pure (f a)

theorem Sized.cast {p : Parser α} {m n : ℕ} (h : Sized p m) (hmn : m = n) : Sized p n := hmn ▸ h

/-- Enough bytes: the parser returns a value and leaves the bytes behind it. -/
theorem Sized.run_eq_some {p : Parser α} {n : ℕ} (h : Sized p n) {bytes : List UInt8}
    (hn : n ≤ bytes.length) : ∃ a, p.run bytes = some (a, bytes.drop n) := by
  have hp := h bytes
  rw [skip_run, if_pos hn] at hp
  rcases hr : p.run bytes with _ | ⟨a, rest⟩ <;> rw [hr] at hp
  · cases hp
  · cases hp with
    | some h => exact ⟨a, congrArg (fun rest => some (a, rest)) h.2⟩

/-- Too few bytes: it returns nothing. -/
theorem Sized.run_eq_none {p : Parser α} {n : ℕ} (h : Sized p n) {bytes : List UInt8}
    (hn : bytes.length < n) : p.run bytes = none := by
  have hp := h bytes
  rw [skip_run, if_neg (by omega)] at hp
  rcases hr : p.run bytes with _ | x
  · rfl
  · rw [hr] at hp
    cases hp

/-- The parser never leaves more bytes than it was given. -/
def Shrinks (p : Parser α) : Prop :=
  ∀ bytes a rest, p.run bytes = some (a, rest) → rest.length ≤ bytes.length

theorem Shrinks.pure (a : α) : Shrinks (Pure.pure a) := by
  rintro bytes _ _ h
  cases h
  exact le_rfl

/-- A sequence gives no bytes back if its parts do not. -/
theorem Shrinks.bind {p : Parser α} {f : α → Parser β} (h : Shrinks p)
    (h' : ∀ a, Shrinks (f a)) : Shrinks (p >>= f) := by
  rintro bytes b rest hrun
  rw [StateT.run_bind] at hrun
  obtain ⟨⟨a, rest'⟩, hp, hf⟩ := Option.bind_eq_some_iff.mp hrun
  exact (h' a rest' b rest hf).trans (h bytes a rest' hp)

/-- A parser of a fixed size gives no bytes back. -/
theorem Sized.shrinks {p : Parser α} {n : ℕ} (h : Sized p n) : Shrinks p := by
  intro bytes a rest hp
  by_cases hn : n ≤ bytes.length
  · obtain ⟨b, hb⟩ := h.run_eq_some hn
    rw [hb] at hp
    cases hp
    rw [List.length_drop]
    omega
  · rw [h.run_eq_none (by omega)] at hp
    cases hp

/-! ### Words -/

/-- One byte. -/
def byte : Parser UInt8
  | [] => none
  | b :: rest => some (b, rest)

/-- The word of four bytes, the most significant first. -/
def wordOfBytes (b₀ b₁ b₂ b₃ : UInt8) : UInt32 :=
  UInt32.ofNat (b₀.toNat * 2 ^ 24 + b₁.toNat * 2 ^ 16 + b₂.toNat * 2 ^ 8 + b₃.toNat)

/-- One word. -/
def word : Parser UInt32
  | b₀ :: b₁ :: b₂ :: b₃ :: rest => some (wordOfBytes b₀ b₁ b₂ b₃, rest)
  | _ => none

/-- The bytes of a word. -/
def putWord (w : UInt32) : List UInt8 :=
  [UInt8.ofNat (w.toNat / 2 ^ 24), UInt8.ofNat (w.toNat / 2 ^ 16), UInt8.ofNat (w.toNat / 2 ^ 8),
    UInt8.ofNat w.toNat]

/-- One double word: the upper word first. -/
def doubleWord : Parser UInt64 := do
  let hi ← word
  let lo ← word
  return UInt64.ofNat (hi.toNat * 2 ^ 32 + lo.toNat)

/-- The bytes of a double word. -/
def putDoubleWord (w : UInt64) : List UInt8 :=
  putWord (UInt32.ofNat (w.toNat / 2 ^ 32)) ++ putWord (UInt32.ofNat w.toNat)

theorem reads_byte (b : UInt8) : Reads byte [b] b := fun _ => rfl

/-- A word is read as it was written, most significant byte first. -/
theorem reads_word (w : UInt32) : Reads word (putWord w) w := by
  intro rest
  have hw : wordOfBytes (UInt8.ofNat (w.toNat / 2 ^ 24)) (UInt8.ofNat (w.toNat / 2 ^ 16))
      (UInt8.ofNat (w.toNat / 2 ^ 8)) (UInt8.ofNat w.toNat) = w := by
    have hlt := w.toNat_lt
    rw [← UInt32.toNat_inj]
    simp only [wordOfBytes, UInt32.toNat_ofNat', UInt8.toNat_ofNat']
    omega
  change some (wordOfBytes _ _ _ _, rest) = _
  rw [hw]

/-- So is a double word. -/
theorem reads_doubleWord (w : UInt64) : Reads doubleWord (putDoubleWord w) w := by
  have hw : UInt64.ofNat ((UInt32.ofNat (w.toNat / 2 ^ 32)).toNat * 2 ^ 32
      + (UInt32.ofNat w.toNat).toNat) = w := by
    have hlt := w.toNat_lt
    rw [← UInt64.toNat_inj]
    simp only [UInt64.toNat_ofNat', UInt32.toNat_ofNat']
    omega
  have hr : Reads doubleWord (putDoubleWord w)
      (UInt64.ofNat ((UInt32.ofNat (w.toNat / 2 ^ 32)).toNat * 2 ^ 32
        + (UInt32.ofNat w.toNat).toNat)) :=
    (reads_word _).bind ((reads_word _).ret _)
  rwa [hw] at hr

theorem sized_byte : Sized byte 1 := by
  intro bytes
  rw [skip_run]
  rcases bytes with _ | ⟨b, rest⟩
  · exact .none
  · rw [if_pos (by simp)]
    exact .some ⟨trivial, rfl⟩

/-- A word takes four bytes. -/
theorem sized_word : Sized word 4 := by
  intro bytes
  rw [skip_run]
  rcases bytes with _ | ⟨b₀, _ | ⟨b₁, _ | ⟨b₂, _ | ⟨b₃, rest⟩⟩⟩⟩
  · exact .none
  · exact .none
  · exact .none
  · exact .none
  · rw [if_pos (by simp)]
    exact .some ⟨trivial, rfl⟩

theorem sized_doubleWord : Sized doubleWord 8 :=
  sized_word.bind fun _ => sized_word.ret _

/-! ### Sequences -/

/-- `n` fields in a row, as a list. -/
def list (p : Parser α) : ℕ → Parser (List α)
  | 0 => pure []
  | n + 1 => do
    let a ← p
    let as ← list p n
    return a :: as

/-- `n` fields in a row, as a vector. -/
def vector (p : Parser α) : (n : ℕ) → Parser (Vector α n)
  | 0 => pure #v[]
  | n + 1 => do
    let as ← vector p n
    let a ← p
    return as.push a

/-- A list is read as its elements were written, given their number. -/
theorem Reads.list {p : Parser α} {put : β → List UInt8} {val : β → α} {bs : List β}
    (h : ∀ b ∈ bs, Reads p (put b) (val b)) :
    Reads (list p bs.length) (bs.flatMap put) (bs.map val) := by
  induction bs with
  | nil => exact Reads.pure []
  | cons b bs ih =>
    have hbs := ih fun b' hb' => h b' (List.mem_cons_of_mem b hb')
    exact (h b List.mem_cons_self).bind (hbs.ret fun as => val b :: as)

/-- A vector is read as its elements were written. -/
theorem Reads.vector {p : Parser α} {put : β → List UInt8} {val : β → α} {n : ℕ}
    (h : ∀ b, Reads p (put b) (val b)) (bs : Vector β n) :
    Reads (vector p n) (bs.toList.flatMap put) (bs.map val) := by
  induction n with
  | zero =>
    obtain rfl : bs = #v[] := Vector.eq_empty
    have hv : (#v[] : Vector β 0).map val = #v[] := Vector.eq_empty
    rw [hv]
    exact Reads.pure #v[]
  | succ n ih =>
    obtain ⟨as, b, rfl⟩ : ∃ as b, bs = as.push b := ⟨bs.pop, bs.back, by simp⟩
    rw [Vector.toList_push, List.flatMap_append, List.flatMap_singleton, Vector.map_push]
    exact (ih as).bind ((h b).ret _)

/-- A list of `n` takes `n` times the bytes of an element. -/
theorem Sized.list {p : Parser α} {k : ℕ} (h : Sized p k) (n : ℕ) :
    Sized (list p n) (n * k) := by
  induction n with
  | zero => exact (Sized.pure []).cast (by omega)
  | succ n ih => exact (h.bind fun _ => ih.ret _).cast (by rw [Nat.succ_mul, Nat.add_comm])

/-- So does a vector. -/
theorem Sized.vector {p : Parser α} {k : ℕ} (h : Sized p k) (n : ℕ) :
    Sized (vector p n) (n * k) := by
  induction n with
  | zero => exact (Sized.pure #v[]).cast (by omega)
  | succ n ih => exact (ih.bind fun _ => h.ret _).cast (by rw [Nat.succ_mul])

end Parser

open OkularV3d.Wire.Parser

/-! ### Streams -/

/-- A stream that is being read: the bytes not yet decoded, and whether every read so far has
succeeded. -/
structure Stream where
  rest : List UInt8
  good : Bool
  deriving DecidableEq

namespace Stream

variable {α : Type}

/-- Read a value. A read fails where the bytes do not suffice, and on a stream on which a read has
failed. -/
def read (p : Parser α) : StateM Stream (Option α) := fun s =>
  if s.good then
    match p.run s.rest with
    | some (a, rest) => (some a, ⟨rest, true⟩)
    | none => (none, ⟨s.rest, false⟩)
  else (none, s)

/-- A stream that has failed gives nothing any more. -/
theorem read_of_failed {p : Parser α} {s : Stream} (hs : s.good = false) :
    (read p).run s = (none, s) := by
  change (if s.good then _ else _) = _
  rw [hs]
  rfl

/-- A read that goes through takes its bytes. -/
theorem read_of_some {p : Parser α} {bytes rest : List UInt8} {a : α}
    (h : p.run bytes = some (a, rest)) : (read p).run ⟨bytes, true⟩ = (some a, ⟨rest, true⟩) := by
  change (match p.run bytes with | some (a, rest) => _ | none => _) = _
  rw [h]

/-- A read that does not takes no bytes, and leaves the stream failed. -/
theorem read_of_none {p : Parser α} {bytes : List UInt8} (h : p.run bytes = none) :
    (read p).run ⟨bytes, true⟩ = (none, ⟨bytes, false⟩) := by
  change (match p.run bytes with | some (a, rest) => _ | none => _) = _
  rw [h]

end Stream

/-! ### Programs over streams -/

section Programs

variable {α β : Type}

/-- In front of any rest, the program reads exactly `bytes` of a good stream, leaves it good and
returns `a`. -/
def Consumes (m : StateM Stream α) (bytes : List UInt8) (a : α) : Prop :=
  ∀ rest, m.run ⟨bytes ++ rest, true⟩ = (a, ⟨rest, true⟩)

/-- A read takes the bytes its parser reads. -/
theorem Consumes.read {p : Parser α} {bytes : List UInt8} {a : α} (h : Reads p bytes a) :
    Consumes (Stream.read p) bytes (some a) := fun rest => Stream.read_of_some (h rest)

theorem Consumes.pure (a : α) : Consumes (Pure.pure a) [] a := fun _ => rfl

/-- Programs one after the other take their bytes one behind the other. -/
theorem Consumes.bind {m : StateM Stream α} {f : α → StateM Stream β}
    {bytes bytes' : List UInt8} {a : α} {b : β} (h : Consumes m bytes a)
    (h' : Consumes (f a) bytes' b) : Consumes (m >>= f) (bytes ++ bytes') b := by
  intro rest
  rw [StateT.run_bind, List.append_assoc, h]
  exact h' rest

/-- What is done with the result takes no bytes. -/
theorem Consumes.ret {m : StateM Stream α} {bytes : List UInt8} {a : α} (h : Consumes m bytes a)
    (f : α → β) : Consumes (m >>= fun x => Pure.pure (f x)) bytes (f a) := by
  have hf : Consumes (m >>= fun x => Pure.pure (f x)) (bytes ++ []) (f a) :=
    h.bind (Consumes.pure (f a))
  rwa [List.append_nil] at hf

/-! ### Truncation -/

/-- On a stream on which a read has failed the program reads nothing, and its result satisfies
`Q`. -/
def Idle (m : StateM Stream α) (Q : α → Prop) : Prop :=
  ∀ s : Stream, s.good = false → Q (m.run s).1 ∧ (m.run s).2 = s

/-- A read after a failure is one that fails. -/
theorem Idle.read (p : Parser α) : Idle (Stream.read p) (fun a => a = none) := by
  intro s hs
  rw [Stream.read_of_failed hs]
  exact ⟨rfl, rfl⟩

theorem Idle.pure {Q : α → Prop} {a : α} (h : Q a) : Idle (Pure.pure a) Q := fun _ _ => ⟨h, rfl⟩

/-- After a failure, what follows a failed program goes on from what that has left. -/
theorem Idle.bind {m : StateM Stream α} {f : α → StateM Stream β} {Q : α → Prop} {Q' : β → Prop}
    (h : Idle m Q) (h' : ∀ a, Q a → Idle (f a) Q') : Idle (m >>= f) Q' := by
  intro s hs
  obtain ⟨hq, hm⟩ := h s hs
  change Q' ((f _).run (m.run s).2).1 ∧ ((f _).run (m.run s).2).2 = s
  rw [hm]
  exact h' _ hq s hs

theorem Idle.ret {m : StateM Stream α} {Q : α → Prop} {Q' : β → Prop} (h : Idle m Q) {f : α → β}
    (hQ : ∀ a, Q a → Q' (f a)) : Idle (m >>= fun a => Pure.pure (f a)) Q' :=
  h.bind fun a ha => Idle.pure (hQ a ha)

/-- The program takes `n` bytes. On a good stream that has them its result satisfies `P`; on a
shorter one a read fails and its result satisfies `Q`, as on a failed one. -/
structure Takes (m : StateM Stream α) (n : ℕ) (P Q : α → Prop) : Prop where
  enough : ∀ bytes, n ≤ bytes.length →
    P (m.run ⟨bytes, true⟩).1 ∧ (m.run ⟨bytes, true⟩).2 = ⟨bytes.drop n, true⟩
  short : ∀ bytes, bytes.length < n →
    Q (m.run ⟨bytes, true⟩).1 ∧ (m.run ⟨bytes, true⟩).2.good = false
  idle : Idle m Q

/-- A read of a fixed size gives something exactly where its bytes are there. -/
theorem Takes.read {p : Parser α} {n : ℕ} (h : Sized p n) :
    Takes (Stream.read p) n (fun a => a ≠ none) (fun a => a = none) where
  enough bytes hn := by
    obtain ⟨a, ha⟩ := h.run_eq_some hn
    rw [Stream.read_of_some ha]
    exact ⟨Option.some_ne_none a, rfl⟩
  short bytes hn := by
    rw [Stream.read_of_none (h.run_eq_none hn)]
    exact ⟨rfl, rfl⟩
  idle := Idle.read p

/-- What is done with the result takes no bytes. -/
theorem Takes.ret {m : StateM Stream α} {n : ℕ} {P Q : α → Prop} {P' Q' : β → Prop}
    (h : Takes m n P Q) {f : α → β} (hP : ∀ a, P a → P' (f a)) (hQ : ∀ a, Q a → Q' (f a)) :
    Takes (m >>= fun a => Pure.pure (f a)) n P' Q' where
  enough bytes hn := ⟨hP _ (h.enough bytes hn).1, (h.enough bytes hn).2⟩
  short bytes hn := ⟨hQ _ (h.short bytes hn).1, (h.short bytes hn).2⟩
  idle := h.idle.ret hQ

theorem Takes.cast {m : StateM Stream α} {n n' : ℕ} {P Q : α → Prop} (h : Takes m n P Q)
    (hn : n = n') : Takes m n' P Q := hn ▸ h

/-- Once a read of the first part has failed the second part reads nothing. -/
theorem Takes.bind {m : StateM Stream α} {f : α → StateM Stream β} {k n : ℕ} {P Q : α → Prop}
    {P' Q' : β → Prop} (h : Takes m k P Q) (hP : ∀ a, P a → Takes (f a) n P' Q')
    (hQ : ∀ a, Q a → Idle (f a) Q') : Takes (m >>= f) (k + n) P' Q' where
  enough bytes hn := by
    obtain ⟨hp, hs⟩ := h.enough bytes (by omega)
    have hf := (hP _ hp).enough (bytes.drop k) (by rw [List.length_drop]; omega)
    change P' ((f _).run (m.run ⟨bytes, true⟩).2).1 ∧ ((f _).run (m.run ⟨bytes, true⟩).2).2 = _
    rw [hs, ← List.drop_drop]
    exact hf
  short bytes hn := by
    change Q' ((f _).run (m.run ⟨bytes, true⟩).2).1 ∧ ((f _).run (m.run ⟨bytes, true⟩).2).2.good = _
    by_cases hk : k ≤ bytes.length
    · obtain ⟨hp, hs⟩ := h.enough bytes hk
      rw [hs]
      exact (hP _ hp).short (bytes.drop k) (by rw [List.length_drop]; omega)
    · obtain ⟨hq, hs⟩ := h.short bytes (by omega)
      obtain ⟨hq', hs'⟩ := hQ _ hq _ hs
      exact ⟨hq', (congrArg Stream.good hs').trans hs⟩
  idle := h.idle.bind hQ

/-- A program never has more bytes left than it was given. -/
def Shrinks (m : StateM Stream α) : Prop := ∀ s, (m.run s).2.rest.length ≤ s.rest.length

theorem Shrinks.pure (a : α) : Shrinks (Pure.pure a) := fun _ => le_rfl

/-- Programs one after the other give no bytes back if none of them does. -/
theorem Shrinks.bind {m : StateM Stream α} {f : α → StateM Stream β} (h : Shrinks m)
    (h' : ∀ a, Shrinks (f a)) : Shrinks (m >>= f) :=
  fun s => (h' _ _).trans (h s)

/-- A read gives no bytes back if its parser does not. -/
theorem Shrinks.read {p : Parser α} (h : Parser.Shrinks p) : Shrinks (Stream.read p) := by
  rintro ⟨bytes, good⟩
  cases good with
  | false => rw [Stream.read_of_failed rfl]
  | true =>
    rcases hp : p.run bytes with _ | ⟨a, rest⟩
    · rw [Stream.read_of_none hp]
    · rw [Stream.read_of_some hp]
      exact h bytes a rest hp

end Programs

end OkularV3d.Wire
