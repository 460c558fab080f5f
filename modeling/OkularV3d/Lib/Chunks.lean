import Mathlib.Data.Nat.Bitwise

/-!
# Tables of small sets in one number

A natural number is read as a table of chunks of 64 bits, and a chunk as a set of numbers below 64.
The union of two tables is then `|||`, which the kernel computes at once however long they are.

`chunk` reads an entry, `setChunk` replaces one, `members` and `ofMembers` go from a chunk to the
list of its members and back.

* `chunk_setChunk_self` and `chunk_setChunk_of_ne` read a table whose entry was replaced.
* `mem_members` and `chunk_lor` say which members an entry has, and what a union does to it.
-/

namespace OkularV3d.Chunks

/-- The entry `i` of the table `S`. -/
def chunk (i S : Nat) : Nat := (S >>> (64 * i)) % 2 ^ 64

/-- The table `S` with the entry `i` replaced by `c`. -/
def setChunk (i S c : Nat) : Nat := S ^^^ ((chunk i S ^^^ c % 2 ^ 64) <<< (64 * i))

/-- The members of a chunk below `2 ^ n`, from the largest down. -/
def members : Nat → Nat → List Nat
  | 0, _ => []
  | n + 1, c => if c = 0 then [] else c.log2 :: members n (c ^^^ 2 ^ c.log2)

/-- The chunk with the members `ts`. -/
def ofMembers (ts : List Nat) : Nat := ts.foldr (fun t c => 2 ^ t ||| c) 0

variable {i j S S' c t : Nat}

theorem testBit_chunk (t : Nat) :
    (chunk i S).testBit t = (decide (t < 64) && S.testBit (64 * i + t)) := by
  rw [chunk, Nat.testBit_mod_two_pow, Nat.testBit_shiftRight]

/-- Only numbers below 64 are members of an entry. -/
theorem lt_of_testBit_chunk (h : (chunk i S).testBit t = true) : t < 64 := by
  rw [testBit_chunk, Bool.and_eq_true, decide_eq_true_eq] at h
  exact h.1

theorem chunk_lt (i S : Nat) : chunk i S < 2 ^ 64 := Nat.mod_lt _ (Nat.two_pow_pos 64)

theorem chunk_lor (i S S' : Nat) : chunk i (S ||| S') = chunk i S ||| chunk i S' := by
  rw [chunk, chunk, chunk, Nat.shiftRight_or_distrib, Nat.or_mod_two_pow]

theorem chunk_setChunk_self (i S c : Nat) : chunk i (setChunk i S c) = c % 2 ^ 64 := by
  refine Nat.eq_of_testBit_eq fun t => ?_
  rw [testBit_chunk, setChunk, Nat.testBit_xor, Nat.testBit_shiftLeft, Nat.testBit_mod_two_pow]
  by_cases ht : t < 64
  · have hbit : 64 * i + t - 64 * i = t := Nat.add_sub_cancel_left ..
    rw [hbit, Nat.testBit_xor, testBit_chunk, Nat.testBit_mod_two_pow]
    simp [ht]
  · simp [ht]

theorem chunk_setChunk_of_ne (h : j ≠ i) (S c : Nat) : chunk j (setChunk i S c) = chunk j S := by
  refine Nat.eq_of_testBit_eq fun t => ?_
  rw [testBit_chunk, testBit_chunk, setChunk, Nat.testBit_xor, Nat.testBit_shiftLeft]
  by_cases ht : t < 64
  · by_cases hlt : j < i
    · have hbefore : ¬ 64 * i ≤ 64 * j + t := by omega
      simp [hbefore]
    · -- the bits of later entries are beyond those of the difference
      have hdiff : chunk i S ^^^ c % 2 ^ 64 < 2 ^ (64 * j + t - 64 * i) := by
        refine (Nat.xor_lt_two_pow (chunk_lt i S) (Nat.mod_lt _ (Nat.two_pow_pos 64))).trans_le ?_
        exact Nat.pow_le_pow_right (by decide) (by omega)
      rw [Nat.testBit_lt_two_pow hdiff]
      simp
  · simp [ht]

/-- The members of a chunk are its bits. -/
theorem mem_members {n : Nat} (hc : c < 2 ^ n) : t ∈ members n c ↔ c.testBit t = true := by
  induction n generalizing c with
  | zero =>
    obtain rfl : c = 0 := Nat.lt_one_iff.mp hc
    simp [members]
  | succ n ih =>
    rw [members]
    by_cases hzero : c = 0
    · simp [hzero]
    have hlog : c.log2 ≤ n := Nat.lt_succ_iff.mp ((Nat.log2_lt hzero).mpr hc)
    have htop : c.testBit c.log2 = true := Nat.testBit_log2 hzero
    have hrest : c ^^^ 2 ^ c.log2 < 2 ^ n := by
      refine Nat.lt_pow_two_of_testBit _ fun k hk => ?_
      obtain rfl | hlt := Nat.eq_or_lt_of_le (hlog.trans hk)
      · rw [Nat.testBit_xor, htop, Nat.testBit_two_pow_self, Bool.xor_self]
      · have hbeyond : c < 2 ^ k :=
          Nat.lt_log2_self.trans_le (Nat.pow_le_pow_right (by decide) hlt)
        rw [Nat.testBit_xor, Nat.testBit_lt_two_pow hbeyond, Nat.testBit_two_pow_of_ne hlt.ne,
          Bool.xor_self]
    rw [if_neg hzero, List.mem_cons, ih hrest, Nat.testBit_xor, Nat.testBit_two_pow]
    by_cases ht : t = c.log2
    · simp [ht, htop]
    · simp [ht, Ne.symm ht]

theorem testBit_ofMembers (ts : List Nat) (t : Nat) :
    (ofMembers ts).testBit t = true ↔ t ∈ ts := by
  induction ts with
  | nil => simp [ofMembers]
  | cons u ts ih =>
    rw [ofMembers, List.foldr_cons, Nat.testBit_or, Nat.testBit_two_pow, Bool.or_eq_true,
      decide_eq_true_eq, List.mem_cons, eq_comm]
    exact or_congr_right ih

end OkularV3d.Chunks
