import OkularV3d.Render.GroupSums

/-!
# The offsets of the pixels

What `sum3` leaves, in lockstep: the offset of every element is the sum of its group up to it and
that of the groups before (`Sum3.offset_lockstep`). The maxima of the counts go through the same
rounds, and `Sum3.maxSum_scanned` says which of them a group reports.

* `Filled` and `Accumulated` are the invariants of the two loops of a thread: what it has read, and
  what it has added up.
* `sums_round` is one round of the scan over the threads, of sums and maxima together.
* `Stored` is the invariant of the last loop, and `offset_finish` what it leaves.
* `offset_lockstep` puts the phases together. `OkularV3d.Render.SumFrames` carries it to threads in
  any order.
-/

namespace OkularV3d

namespace SumShaders

open WorkGroups Finset

/-! ### Maxima -/

/-- A maximum, as the shader writes it, is at most what both values are. -/
theorem ite_lt_le_iff (a b c : UInt32) : (if a < b then b else a) ≤ c ↔ a ≤ c ∧ b ≤ c := by
  simp only [UInt32.lt_iff_toNat_lt, UInt32.le_iff_toNat_le]
  split_ifs <;> omega

theorem max_le_iff (a b c : UInt32) : max a b ≤ c ↔ a ≤ c ∧ b ≤ c := by
  have hmax : max a b = if a ≤ b then b else a := rfl
  rw [hmax]
  simp only [UInt32.le_iff_toNat_le]
  split_ifs <;> omega

namespace Sum3

variable {g : ℕ} (s : KernelState (Fin g) Registers)

/-! #### Up to the first barrier -/

/-- What a thread has done after some rounds. -/
structure Filled (t : Fin g × Lane) (th : Thread Registers Atomic)
    (m : Cell (Fin g) → UInt32) (n : ℕ)
    (r : Thread Registers Atomic × (Cell (Fin g) → UInt32)) : Prop where
  sum : r.1.registers.sum = th.registers.sum
  localMax : ∀ c, r.1.registers.localMax ≤ c ↔ th.registers.localMax ≤ c ∧
    ∀ k < n, m (.buffer (.count (dataOffset t.1 t.2 + k * localSize))) ≤ c
  buffer : ∀ x, r.2 (.buffer x) = m (.buffer x)
  shuffle : ∀ k < n, r.2 (.shared t.1 (.shuffle (shuffleOffset t.2 + k * stride))) =
    m (.buffer (.count (dataOffset t.1 t.2 + k * localSize)))

/-- The loop that fills the shuffled counts, after `n` iterations. -/
theorem filled (t : Fin g × Lane) (th : Thread Registers Atomic) (m : Cell (Fin g) → UInt32)
    (n : ℕ) :
    Filled t th m n (alone ((List.range n).flatMap fun i =>
      [.load (.buffer (.count (dataOffset t.1 t.2 + i * localSize))) fun p c =>
          { p with c := c, localMax := if p.localMax < c then c else p.localMax },
        .store (.shared t.1 (.shuffle (shuffleOffset t.2 + i * stride))) fun p => p.c])
          (th, m)) := by
  induction n with
  | zero => exact ⟨rfl, by simp, fun _ => rfl, fun _ h => absurd h (Nat.not_lt_zero _)⟩
  | succ n ih =>
    rw [alone_flatMap_range_succ]
    generalize alone _ (th, m) = r at ih ⊢
    obtain ⟨hsum, hmax, hbuffer, hshuffle⟩ := ih
    simp only [alone_cons, alone_nil, Instr.exec]
    refine ⟨hsum, fun c => ?_, fun x => ?_, fun k hk => ?_⟩
    · rw [ite_lt_le_iff, hmax, hbuffer, Nat.forall_lt_succ_right, and_assoc]
    · simp only [ne_eq, reduceCtorEq, not_false_eq_true, Function.update_of_ne, hbuffer]
    · rcases Nat.lt_succ_iff_lt_or_eq.mp hk with hk | rfl
      · have hne : (Cell.shared t.1 (.shuffle (shuffleOffset t.2 + k * stride)) : Cell (Fin g)) ≠
            .shared t.1 (.shuffle (shuffleOffset t.2 + n * stride)) := by
          simp only [ne_eq, Cell.shared.injEq, Shared.shuffle.injEq, true_and, stride, blockSize,
            localSize]
          omega
        simp only [Function.update_of_ne hne, hshuffle k hk]
      · simp only [Function.update_self, hbuffer]

/-- Every count is put where the thread that adds it up will look for it. -/
theorem shuffle_fill (t : Fin g × Lane) {k : ℕ} (hk : k < blockSize) :
    ((Phase.mk fill fillOwner).run s).2 (.shared t.1 (.shuffle (shuffleOffset t.2 + k * stride))) =
      s.2 (.buffer (.count (dataOffset t.1 t.2 + k * localSize))) := by
  have hown : fillOwner (.shared t.1 (.shuffle (shuffleOffset t.2 + k * stride))) = some t := by
    refine thread_eq_some_iff.mpr ⟨rfl, ?_⟩
    have hid := t.2.isLt
    simp only [shuffleOffset, stride, blockSize, localSize] at *
    omega
  rw [Phase.run_owned s _ hown]
  exact (filled t (s.1 t) s.2 blockSize).shuffle k hk

/-- Meanwhile the thread takes the maximum of the counts it loads, and its sum is as it was. -/
theorem thread_fill (t : Fin g × Lane) :
    (((Phase.mk fill fillOwner).run s).1 t).registers.sum = (s.1 t).registers.sum ∧
    ∀ c, (((Phase.mk fill fillOwner).run s).1 t).registers.localMax ≤ c ↔
      (s.1 t).registers.localMax ≤ c ∧
        ∀ k < blockSize, s.2 (.buffer (.count (dataOffset t.1 t.2 + k * localSize))) ≤ c :=
  ⟨(filled t (s.1 t) s.2 blockSize).sum, (filled t (s.1 t) s.2 blockSize).localMax⟩

/-! #### Up to the second barrier -/

/-- What a thread has added up after some iterations: each place has the sum up to it. -/
structure Accumulated (t : Fin g × Lane) (th : Thread Registers Atomic) (m : Cell (Fin g) → UInt32)
    (n : ℕ) (r : Thread Registers Atomic × (Cell (Fin g) → UInt32)) : Prop where
  localMax : r.1.registers.localMax = th.registers.localMax
  sum : r.1.registers.sum = th.registers.sum +
    ∑ k ∈ range n, m (.shared t.1 (.shuffle (t.2 * blockSize + t.2 + k)))
  before : ∀ k < n, r.2 (.shared t.1 (.shuffle (t.2 * blockSize + t.2 + k))) = th.registers.sum +
    ∑ j ∈ range (k + 1), m (.shared t.1 (.shuffle (t.2 * blockSize + t.2 + j)))
  after : ∀ k, n ≤ k → r.2 (.shared t.1 (.shuffle (t.2 * blockSize + t.2 + k))) =
    m (.shared t.1 (.shuffle (t.2 * blockSize + t.2 + k)))

/-- The loop that adds up the shuffled counts, after `n` iterations. -/
theorem accumulated (t : Fin g × Lane) (th : Thread Registers Atomic) (m : Cell (Fin g) → UInt32)
    (n : ℕ) :
    Accumulated t th m n (alone ((List.range n).flatMap fun i =>
      [.load (.shared t.1 (.shuffle (t.2 * blockSize + t.2 + i))) fun p v =>
          { p with sum := p.sum + v },
        .store (.shared t.1 (.shuffle (t.2 * blockSize + t.2 + i))) fun p => p.sum]) (th, m)) := by
  induction n with
  | zero => exact ⟨rfl, by simp, fun _ h => absurd h (Nat.not_lt_zero _), fun _ _ => rfl⟩
  | succ n ih =>
    rw [alone_flatMap_range_succ]
    generalize alone _ (th, m) = r at ih ⊢
    have hsum : ∀ k, k = n → th.registers.sum +
        ∑ j ∈ range (k + 1), m (.shared t.1 (.shuffle (t.2 * blockSize + t.2 + j))) =
        (th.registers.sum + ∑ j ∈ range n, m (.shared t.1 (.shuffle (t.2 * blockSize + t.2 + j)))) +
          m (.shared t.1 (.shuffle (t.2 * blockSize + t.2 + n))) := by
      rintro k rfl
      rw [sum_range_succ, ← add_assoc]
    refine ⟨ih.localMax, ?_, fun k hk => ?_, fun k hk => ?_⟩
    · rw [hsum n rfl, ← ih.sum, ← ih.after n le_rfl]
      rfl
    · rcases Nat.lt_succ_iff_lt_or_eq.mp hk with hk | hk
      · refine (Function.update_of_ne (fun h => ?_) ..).trans (ih.before k hk)
        simp only [Cell.shared.injEq, Shared.shuffle.injEq] at h
        omega
      · rw [hsum k hk, ← ih.sum, ← ih.after n le_rfl, hk]
        exact Function.update_self ..
    · refine (Function.update_of_ne (fun h => ?_) ..).trans (ih.after k (Nat.le_of_succ_le hk))
      simp only [Cell.shared.injEq, Shared.shuffle.injEq] at h
      omega

/-- The stores after the loop. -/
theorem alone_accumulate (t : Fin g × Lane) (th : Thread Registers Atomic)
    (m : Cell (Fin g) → UInt32) :
    (∀ k < blockSize, (alone (accumulate t) (th, m)).2
        (.shared t.1 (.shuffle (t.2 * blockSize + t.2 + k))) = th.registers.sum +
          ∑ j ∈ range (k + 1), m (.shared t.1 (.shuffle (t.2 * blockSize + t.2 + j)))) ∧
    (alone (accumulate t) (th, m)).2 (.shared t.1 (.groupSum (t.2 + 1))) = th.registers.sum +
      ∑ k ∈ range blockSize, m (.shared t.1 (.shuffle (t.2 * blockSize + t.2 + k))) ∧
    (alone (accumulate t) (th, m)).2 (.shared t.1 (.maxSum (t.2 + 1))) = th.registers.localMax ∧
    (t.2 = 0 → (alone (accumulate t) (th, m)).2 (.shared t.1 (.groupSum 0)) = 0 ∧
      (alone (accumulate t) (th, m)).2 (.shared t.1 (.maxSum 0)) = 0) := by
  have hloop := accumulated t th m blockSize
  rw [accumulate, alone_append, alone_append]
  generalize alone _ (th, m) = r at hloop
  refine ⟨fun k hk => ?_, ?_, ?_, fun hzero => ?_⟩
  · rw [← hloop.before k hk]
    split_ifs <;> simp [Instr.exec]
  · rw [← hloop.sum]
    split_ifs <;> simp [Instr.exec]
  · rw [← hloop.localMax]
    split_ifs <;> simp [Instr.exec]
  · rw [if_pos hzero]
    constructor <;> simp [Instr.exec]

/-- Every place has the sum of its thread up to it. -/
theorem shuffle_accumulate (t : Fin g × Lane) {k : ℕ} (hk : k < blockSize) :
    ((Phase.mk accumulate accumulateOwner).run s).2
        (.shared t.1 (.shuffle (t.2 * blockSize + t.2 + k))) = (s.1 t).registers.sum +
      ∑ j ∈ range (k + 1), s.2 (.shared t.1 (.shuffle (t.2 * blockSize + t.2 + j))) := by
  have hown : accumulateOwner (.shared t.1 (.shuffle (t.2 * blockSize + t.2 + k))) = some t := by
    refine thread_eq_some_iff.mpr ⟨rfl, ?_⟩
    simp only [blockSize] at *
    omega
  rw [Phase.run_owned s _ hown]
  exact (alone_accumulate t (s.1 t) s.2).1 k hk

/-- The sum and the maximum of a thread are put behind its own place. -/
theorem sums_accumulate (t : Fin g × Lane) :
    ((Phase.mk accumulate accumulateOwner).run s).2 (.shared t.1 (.groupSum (t.2 + 1))) =
        (s.1 t).registers.sum +
          ∑ k ∈ range blockSize, s.2 (.shared t.1 (.shuffle (t.2 * blockSize + t.2 + k))) ∧
      ((Phase.mk accumulate accumulateOwner).run s).2 (.shared t.1 (.maxSum (t.2 + 1))) =
        (s.1 t).registers.localMax := by
  have hown : thread t.1 ((t.2 : ℕ) + 1 - 1) = some t := thread_val t
  obtain ⟨-, hsum, hmax, -⟩ := alone_accumulate t (s.1 t) s.2
  exact ⟨(Phase.run_owned s _ hown).trans hsum, (Phase.run_owned s _ hown).trans hmax⟩

/-- The first place has nothing before it. -/
theorem zero_accumulate (w : Fin g) :
    ((Phase.mk accumulate accumulateOwner).run s).2 (.shared w (.groupSum 0)) = 0 ∧
      ((Phase.mk accumulate accumulateOwner).run s).2 (.shared w (.maxSum 0)) = 0 := by
  have hown : thread w (0 - 1) = some (w, (0 : Lane)) := thread_val (w, (0 : Lane))
  obtain ⟨-, -, -, hzero⟩ := alone_accumulate (w, (0 : Lane)) (s.1 (w, 0)) s.2
  exact ⟨(Phase.run_owned s _ hown).trans (hzero rfl).1,
    (Phase.run_owned s _ hown).trans (hzero rfl).2⟩

/-! #### The rounds -/

/-- A thread that reads leaves the memory alone. -/
theorem memory_read (shift : ℕ) : ((Phase.mk (read shift) fun _ => none).run s).2 = s.2 :=
  funext fun _ => Phase.run_unowned s _ rfl

/-- It reads its own place and the one a stride before. -/
theorem thread_read {shift : ℕ} {t : Fin g × Lane} (h : shift ≤ t.2) :
    (((Phase.mk (read shift) fun _ => none).run s).1 t).registers.read =
        s.2 (.shared t.1 (.groupSum t.2)) + s.2 (.shared t.1 (.groupSum (t.2 - shift))) ∧
      (((Phase.mk (read shift) fun _ => none).run s).1 t).registers.readMax =
        max (s.2 (.shared t.1 (.maxSum t.2))) (s.2 (.shared t.1 (.maxSum (t.2 - shift)))) := by
  simp only [Phase.run_thread, read, if_pos h]
  exact ⟨rfl, rfl⟩

/-- **One round** adds to every place the one a stride before, and takes the maximum with it. -/
theorem sums_round (shift : ℕ) (w : Fin g) {i : ℕ} (hi : i < localSize) :
    (lockstep (round shift) s).2 (.shared w (.groupSum i)) =
        Scan.shift (· + ·) shift (fun i => s.2 (.shared w (.groupSum i))) i ∧
      (lockstep (round shift) s).2 (.shared w (.maxSum i)) =
        Scan.shift max shift (fun i => s.2 (.shared w (.maxSum i))) i := by
  have hown : thread w i = some (w, ⟨i, hi⟩) := thread_eq_some_iff.mpr ⟨rfl, rfl⟩
  have hsum : writeOwner (.shared w (.groupSum i)) = some (w, ⟨i, hi⟩) := hown
  have hmax : writeOwner (.shared w (.maxSum i)) = some (w, ⟨i, hi⟩) := hown
  rw [round, lockstep_cons, lockstep_cons, lockstep_nil, Phase.run_owned _ _ hsum,
    Phase.run_owned _ _ hmax]
  simp only [write, Scan.shift]
  split_ifs with hshift
  · obtain ⟨hread, hreadMax⟩ := thread_read s (t := (w, ⟨i, hi⟩)) hshift
    simp only [alone_cons, alone_nil, Instr.exec]
    constructor
    · rw [Function.update_of_ne (by simp), Function.update_self, hread]
    · rw [Function.update_self, hreadMax]
  · rw [memory_read, alone_nil]
    exact ⟨rfl, rfl⟩

/-- Nothing else changes. -/
theorem other_round (shift : ℕ) {c : Cell (Fin g)} (hc : writeOwner c = none) :
    (lockstep (round shift) s).2 c = s.2 c := by
  rw [round, lockstep_cons, lockstep_cons, lockstep_nil, Phase.run_unowned _ _ hc, memory_read]

/-- All rounds. -/
theorem rounds (strides : List ℕ) :
    (∀ w, ∀ i < localSize, (lockstep (strides.flatMap round) s).2 (.shared w (.groupSum i)) =
      strides.foldl (fun x s => Scan.shift (· + ·) s x)
        (fun i => s.2 (.shared w (.groupSum i))) i) ∧
    (∀ w, ∀ i < localSize, (lockstep (strides.flatMap round) s).2 (.shared w (.maxSum i)) =
      strides.foldl (fun x s => Scan.shift max s x) (fun i => s.2 (.shared w (.maxSum i))) i) ∧
    ∀ c, writeOwner c = none → (lockstep (strides.flatMap round) s).2 c = s.2 c := by
  induction strides generalizing s with
  | nil => exact ⟨fun _ _ _ => rfl, fun _ _ _ => rfl, fun _ _ => rfl⟩
  | cons stride strides ih =>
    obtain ⟨hsum, hmax, hother⟩ := ih (lockstep (round stride) s)
    rw [List.flatMap_cons, lockstep_append]
    refine ⟨fun w i hi => ?_, fun w i hi => ?_, fun c hc => ?_⟩
    · rw [hsum w i hi, List.foldl_cons]
      exact Scan.foldl_shift_congr (fun j hj => (sums_round s stride w hj).1) strides hi
    · rw [hmax w i hi, List.foldl_cons]
      exact Scan.foldl_shift_congr (fun j hj => (sums_round s stride w hj).2) strides hi
    · rw [hother c hc, other_round s stride hc]

/-! #### The end -/

/-- What a thread has stored after some rounds. -/
structure Stored (t : Fin g × Lane) (th : Thread Registers Atomic)
    (m : Cell (Fin g) → UInt32) (n : ℕ)
    (r : Thread Registers Atomic × (Cell (Fin g) → UInt32)) : Prop where
  groupOffset : r.1.registers.groupOffset = th.registers.groupOffset
  shared : ∀ x, r.2 (.shared t.1 x) = m (.shared t.1 x)
  offset : ∀ k < n, r.2 (.buffer (.offset (dataOffset t.1 t.2 + k * localSize))) =
    m (.shared t.1 (.shuffle (shuffleOffset t.2 + k * stride))) +
      m (.shared t.1 (.groupSum ((k * localSize + t.2) / blockSize))) + th.registers.groupOffset

/-- The loop that stores the offsets, after `n` iterations. -/
theorem stored (t : Fin g × Lane) (th : Thread Registers Atomic) (m : Cell (Fin g) → UInt32)
    (n : ℕ) :
    Stored t th m n (alone ((List.range n).flatMap fun i =>
      [.load (.shared t.1 (.shuffle (shuffleOffset t.2 + i * stride))) fun p v =>
          { p with value := v },
        .load (.shared t.1 (.groupSum ((i * localSize + t.2) / blockSize))) fun p v =>
          { p with value := p.value + v },
        .store (.buffer (.offset (dataOffset t.1 t.2 + i * localSize))) fun p =>
          p.value + p.groupOffset]) (th, m)) := by
  induction n with
  | zero => exact ⟨rfl, fun _ => rfl, fun _ h => absurd h (Nat.not_lt_zero _)⟩
  | succ n ih =>
    rw [alone_flatMap_range_succ]
    generalize alone _ (th, m) = r at ih ⊢
    obtain ⟨hgroup, hshared, hoffset⟩ := ih
    simp only [alone_cons, alone_nil, Instr.exec]
    refine ⟨hgroup, fun x => ?_, fun k hk => ?_⟩
    · simp only [ne_eq, reduceCtorEq, not_false_eq_true, Function.update_of_ne, hshared]
    · rcases Nat.lt_succ_iff_lt_or_eq.mp hk with hk | rfl
      · have hne : (Cell.buffer (.offset (dataOffset t.1 t.2 + k * localSize)) : Cell (Fin g)) ≠
            .buffer (.offset (dataOffset t.1 t.2 + n * localSize)) := by
          simp only [ne_eq, Cell.buffer.injEq, Buffer.offset.injEq, localSize]
          omega
        simp only [Function.update_of_ne hne, hoffset k hk]
      · simp only [Function.update_self, hshared, hgroup]

/-- The offset of an element: its place, what is before its thread, and what is before its group. -/
theorem alone_storeOffsets (t : Fin g × Lane) (th : Thread Registers Atomic)
    (m : Cell (Fin g) → UInt32) {k : ℕ} (hk : k < blockSize) :
    (alone (storeOffsets t) (th, m)).2 (.buffer (.offset (dataOffset t.1 t.2 + k * localSize))) =
      m (.shared t.1 (.shuffle (shuffleOffset t.2 + k * stride))) +
        m (.shared t.1 (.groupSum ((k * localSize + t.2) / blockSize))) +
          m (.buffer (.globalSum t.1)) := by
  rw [storeOffsets, alone_cons, Instr.exec]
  exact (stored t _ m blockSize).offset k hk

/-- The first thread of a group reports the maximum. -/
theorem alone_reportMax (t : Fin g × Lane) (th : Thread Registers Atomic)
    (m : Cell (Fin g) → UInt32) :
    (alone (reportMax t) (th, m)).2 = m ∧ (alone (reportMax t) (th, m)).1.issued = th.issued ++
      if t.2 = 0 then [.max (m (.shared t.1 (.maxSum (localSize - 1))))] else [] := by
  rw [reportMax]
  split_ifs
  · exact ⟨rfl, rfl⟩
  · exact ⟨rfl, (List.append_nil _).symm⟩

/-- Storing the offsets issues nothing. -/
theorem issued_storeOffsets (t : Fin g × Lane)
    (r : Thread Registers Atomic × (Cell (Fin g) → UInt32)) :
    (alone (storeOffsets t) r).1.issued = r.1.issued := by
  refine issued_alone (fun i hi th => ?_) r
  simp only [storeOffsets, List.mem_cons, List.mem_flatMap, List.not_mem_nil, or_false] at hi
  rcases hi with rfl | ⟨k, -, rfl | rfl | rfl⟩
  all_goals rfl

section Finish

variable {d : Dispatch} (s : KernelState (Fin d.g) Registers)

/-- The last thread has one thing more to do. -/
theorem concludes_iff {t : Fin d.g × Lane} :
    (d.final - dataOffset t.1 t.2 < groupSize ∧
      (d.final - dataOffset t.1 t.2) % localSize = 0) ↔ t = lastThread d := by
  refine ⟨eq_lastThread, fun h => ?_⟩
  subst h
  rw [final_eq, Nat.add_sub_cancel_left]
  exact ⟨by decide, by decide⟩

/-- What the last thread does besides: the total goes behind the offsets and to the host. -/
theorem alone_conclude (t : Fin d.g × Lane)
    (r : Thread Registers Atomic × (Cell (Fin d.g) → UInt32)) :
    (∀ k < blockSize, (alone (conclude d.final t) r).2
        (.buffer (.offset (dataOffset t.1 t.2 + k * localSize))) =
      r.2 (.buffer (.offset (dataOffset t.1 t.2 + k * localSize)))) ∧
    (alone (conclude d.final t) r).1.issued =
      r.1.issued ++ (if t = lastThread d then [.exchange] else []) ∧
    (t = lastThread d → ∀ c ∈ [.buffer (.offset (d.final + 1)), .buffer .fragments],
      (alone (conclude d.final t) r).2 c = r.2 (.buffer (.offset d.final))) := by
  rw [conclude]
  simp only [concludes_iff]
  split_ifs with hlast
  · simp only [alone_cons, alone_nil, Instr.exec]
    refine ⟨fun k hk => ?_, trivial, fun _ => ?_⟩
    · have hne := element_ne d t hk
      simp only [ne_eq, reduceCtorEq, not_false_eq_true, Function.update_of_ne, Cell.buffer.injEq,
        Buffer.offset.injEq, hne]
    · simp
  · exact ⟨fun _ _ => rfl, (List.append_nil _).symm, fun h => absurd h hlast⟩

/-- **The offset of an element**, after the last phase. -/
theorem offset_finish (t : Fin d.g × Lane) {k : ℕ} (hk : k < blockSize) :
    ((Phase.mk (finish d.final) (finishOwner d)).run s).2
        (.buffer (.offset (dataOffset t.1 t.2 + k * localSize))) =
      s.2 (.shared t.1 (.shuffle (shuffleOffset t.2 + k * stride))) +
        s.2 (.shared t.1 (.groupSum ((k * localSize + t.2) / blockSize))) +
          s.2 (.buffer (.globalSum t.1)) := by
  have hown : finishOwner d (.buffer (.offset (dataOffset t.1 t.2 + k * localSize))) = some t :=
    (if_neg (element_ne d t hk)).trans (elementThread_eq t hk)
  rw [Phase.run_owned s _ hown]
  simp only [finish, alone_append]
  rw [(alone_conclude t _).1 k hk, ← Prod.eta (alone (reportMax t) _), alone_storeOffsets t _ _ hk,
    (alone_reportMax t _ _).1]

/-- The total is stored twice more. -/
theorem total_finish {c : Cell (Fin d.g)}
    (hc : c ∈ [.buffer (.offset (d.final + 1)), .buffer .fragments]) :
    ((Phase.mk (finish d.final) (finishOwner d)).run s).2 c =
      ((Phase.mk (finish d.final) (finishOwner d)).run s).2 (.buffer (.offset d.final)) := by
  have hown : finishOwner d c = some (lastThread d) := by
    rcases List.mem_pair.mp hc with rfl | rfl
    · exact if_pos rfl
    · rfl
  have hfinal : finishOwner d (.buffer (.offset d.final)) = some (lastThread d) := by
    rw [final_eq]
    exact (if_neg (element_ne d _ (by decide))).trans (elementThread_eq _ (by decide))
  rw [Phase.run_owned s _ hown, Phase.run_owned s _ hfinal]
  simp only [finish, alone_append]
  generalize alone (storeOffsets (lastThread d)) _ = r
  have hkept := (alone_conclude (lastThread d) r).1 7 (by decide)
  rw [← final_eq] at hkept
  rw [(alone_conclude (lastThread d) r).2.2 rfl c hc, hkept]

/-- What a thread has issued then: a maximum if it is the first of its group, an exchange if it is
the last of all. -/
theorem issued_finish (t : Fin d.g × Lane) :
    (((Phase.mk (finish d.final) (finishOwner d)).run s).1 t).issued = (s.1 t).issued ++
      (if t.2 = 0 then [.max (s.2 (.shared t.1 (.maxSum (localSize - 1))))] else []) ++
      if t = lastThread d then [.exchange] else [] := by
  simp only [Phase.run_thread, finish, alone_append]
  rw [(alone_conclude t _).2.1, issued_storeOffsets, (alone_reportMax t _ _).2]

/-! #### Together -/

/-- The state before the rounds. -/
def summed (s : KernelState (Fin d.g) Registers) : KernelState (Fin d.g) Registers :=
  (Phase.mk accumulate accumulateOwner).run ((Phase.mk fill fillOwner).run s)

/-- The state after them. -/
def scanned (s : KernelState (Fin d.g) Registers) : KernelState (Fin d.g) Registers :=
  lockstep ((Scan.strides 8).flatMap round) (summed s)

/-- `sum3` is its rounds and the last phase. -/
theorem lockstep_program : lockstep (program d) s =
    (Phase.mk (finish d.final) (finishOwner d)).run (scanned s) := by
  rw [program, lockstep_cons, lockstep_cons, lockstep_append]
  rfl

/-- A place of the memory in which the counts are spread. -/
theorem shuffle_fill' (w : Fin d.g) {e : ℕ} (he : e < groupSize) :
    ((Phase.mk fill fillOwner).run s).2 (.shared w (.shuffle (e / blockSize + e))) =
      s.2 (.buffer (.count (w * groupSize + e))) := by
  have hid : e % localSize < localSize := Nat.mod_lt _ (by decide)
  have hk : e / localSize < blockSize := Nat.div_lt_of_lt_mul he
  have hplace : shuffleOffset (e % localSize) + e / localSize * stride = e / blockSize + e := by
    simp only [shuffleOffset, stride, blockSize, localSize]
    omega
  have helement : dataOffset w (e % localSize) + e / localSize * localSize = w * groupSize + e := by
    simp only [dataOffset, localSize]
    omega
  have hfill := shuffle_fill s (w, ⟨e % localSize, hid⟩) hk
  rwa [hplace, helement] at hfill

variable (hsum : ∀ t, (s.1 t).registers.sum = 0) (hmax : ∀ t, (s.1 t).registers.localMax = 0)

include hsum in
/-- The sums of a thread's elements, up to each of them. -/
theorem shuffle_summed (w : Fin d.g) {e : ℕ} (he : e < groupSize) :
    (summed s).2 (.shared w (.shuffle (e / blockSize + e))) =
      ∑ j ∈ range (e % blockSize + 1),
        s.2 (.buffer (.count (w * groupSize + (blockSize * (e / blockSize) + j)))) := by
  have hid : e / blockSize < localSize := Nat.div_lt_of_lt_mul (Nat.mul_comm .. ▸ he)
  have hk : e % blockSize < blockSize := Nat.mod_lt _ (by decide)
  have hplace : e / blockSize * blockSize + e / blockSize + e % blockSize = e / blockSize + e := by
    simp only [blockSize]
    omega
  have hacc := shuffle_accumulate ((Phase.mk fill fillOwner).run s) (w, ⟨e / blockSize, hid⟩) hk
  rw [(thread_fill s _).1, hsum, zero_add] at hacc
  simp only [hplace] at hacc
  refine hacc.trans (sum_congr rfl fun j hj => ?_)
  have hj : j < blockSize := (Nat.lt_succ_iff.mp (mem_range.mp hj)).trans_lt hk
  have hlt : blockSize * (e / blockSize) + j < groupSize := by
    simp only [groupSize, blockSize, localSize] at *
    omega
  have hplace : e / blockSize * blockSize + e / blockSize + j =
      (blockSize * (e / blockSize) + j) / blockSize + (blockSize * (e / blockSize) + j) := by
    simp only [blockSize] at *
    omega
  rw [← shuffle_fill' s w hlt, ← hplace]

include hsum in
/-- The sum of all elements before a thread's. -/
theorem groupSum_scanned (w : Fin d.g) {i : ℕ} (hi : i < localSize) :
    (scanned s).2 (.shared w (.groupSum i)) =
      ∑ u ∈ range (blockSize * i), s.2 (.buffer (.count (w * groupSize + u))) := by
  rw [scanned, (rounds _ _).1 w i hi, Scan.foldl_shift_add _ (show i < 2 ^ 8 from hi),
    sum_range_succ', Scan.sum_range_mul]
  rw [show (summed s).2 (.shared w (.groupSum 0)) = 0 from (zero_accumulate _ w).1, add_zero]
  refine sum_congr rfl fun id hid => ?_
  have hid : id < localSize := (mem_range.mp hid).trans hi
  refine (sums_accumulate ((Phase.mk fill fillOwner).run s) (w, ⟨id, hid⟩)).1.trans ?_
  rw [(thread_fill s _).1, hsum, zero_add]
  refine sum_congr rfl fun k hk => ?_
  have hk := mem_range.mp hk
  have hlt : blockSize * id + k < groupSize := by
    simp only [groupSize, blockSize, localSize] at *
    omega
  have hplace : id * blockSize + id + k = (blockSize * id + k) / blockSize +
    (blockSize * id + k) := by
    simp only [blockSize] at *
    omega
  rw [← shuffle_fill' s w hlt, ← hplace]

include hsum in
/-- **The offset of an element**: the counts of its group up to it, and what is before the group. -/
theorem offset_lockstep {e : ℕ} (he : e < groupSize * d.g) :
    (lockstep (program d) s).2 (.buffer (.offset e)) =
      ∑ u ∈ range (e % groupSize + 1),
          s.2 (.buffer (.count (e / groupSize * groupSize + u))) +
        s.2 (.buffer (.globalSum (e / groupSize))) := by
  have hw : e / groupSize < d.g := Nat.div_lt_of_lt_mul he
  have hlocal : e % groupSize < groupSize := Nat.mod_lt _ (by decide)
  have hid : e % localSize < localSize := Nat.mod_lt _ (by decide)
  have hk : e % groupSize / localSize < blockSize := Nat.div_lt_of_lt_mul hlocal
  -- the element as the thread that stores its offset counts it, and its place in shared memory
  have helement : dataOffset (e / groupSize) (e % localSize) +
    e % groupSize / localSize * localSize =
      e := by
    simp only [dataOffset, groupSize, blockSize, localSize]
    omega
  have hplace : shuffleOffset (e % localSize) + e % groupSize / localSize * stride =
      e % groupSize / blockSize + e % groupSize := by
    simp only [shuffleOffset, stride, groupSize, blockSize, localSize]
    omega
  have hthread : (e % groupSize / localSize * localSize + e % localSize) / blockSize =
      e % groupSize / blockSize := by
    simp only [groupSize, blockSize, localSize]
    omega
  have hlt : e % groupSize / blockSize < localSize :=
    Nat.div_lt_of_lt_mul (Nat.mul_comm .. ▸ hlocal)
  have hfinish := offset_finish (scanned s) (⟨e / groupSize, hw⟩, ⟨e % localSize, hid⟩) hk
  simp only [helement, hplace, hthread] at hfinish
  have hshuffle : (scanned s).2 (.shared ⟨e / groupSize, hw⟩
      (.shuffle (e % groupSize / blockSize + e % groupSize))) = _ :=
    ((rounds _ _).2.2 _ rfl).trans (shuffle_summed s hsum ⟨e / groupSize, hw⟩ hlocal)
  have hglobal : (scanned s).2 (.buffer (.globalSum (e / groupSize))) =
      s.2 (.buffer (.globalSum (e / groupSize))) :=
    ((rounds _ _).2.2 _ rfl).trans ((Phase.run_unowned _ _ rfl).trans (Phase.run_unowned _ _ rfl))
  rw [lockstep_program, hfinish, hshuffle, groupSum_scanned s hsum ⟨e / groupSize, hw⟩ hlt, hglobal]
  refine congrArg (· + _) ?_
  -- whole threads first, then the elements of the last one
  have hsplit : e % groupSize + 1 =
      blockSize * (e % groupSize / blockSize) + (e % groupSize % blockSize + 1) := by
    rw [← Nat.add_assoc, Nat.div_add_mod]
  rw [hsplit, add_comm]
  exact (sum_range_add (fun u => s.2 (.buffer (.count (e / groupSize * groupSize + u)))) _ _).symm

include hmax in
/-- **What a group reports**: the largest count, but for the elements of its last thread. -/
theorem maxSum_scanned (w : Fin d.g) (c : UInt32) :
    (scanned s).2 (.shared w (.maxSum (localSize - 1))) ≤ c ↔
      ∀ e < groupSize, e % localSize ≠ localSize - 1 →
        s.2 (.buffer (.count (w * groupSize + e))) ≤ c := by
  -- the thread `id` has put its maximum one place further, as `sum3` does with the sums
  have hthread : ∀ id : Lane, (summed s).2 (.shared w (.maxSum (id + 1))) ≤ c ↔
      ∀ k < blockSize, s.2 (.buffer (.count (dataOffset w id + k * localSize))) ≤ c := by
    intro id
    have hsums := (sums_accumulate ((Phase.mk fill fillOwner).run s) (w, id)).2
    have hle := (thread_fill s (w, id)).2 c
    rw [hmax, ← hsums] at hle
    exact hle.trans (and_iff_right (UInt32.zero_le))
  -- the rounds combine all places up to this one: no maximum of a place exceeds `c`
  have htotal := Scan.foldl_shift_of_lt
    (fun a b v => v ≤ c ↔ ∀ j, a ≤ j → j < b → (summed s).2 (.shared w (.maxSum j)) ≤ c)
    (x := fun i => (summed s).2 (.shared w (.maxSum i))) (fun i => ?_)
    (fun {a b d u v} hab hbd hu hv => (max_le_iff v u c).trans ?_)
    (show localSize - 1 < 2 ^ 8 by decide)
  · rw [scanned, (rounds _ _).2.1 w _ (by decide), htotal]
    constructor
    · intro hall e he hlane
      have hid : e % localSize < localSize := Nat.mod_lt _ (by decide)
      have hk : e / localSize < blockSize := Nat.div_lt_of_lt_mul he
      have helement : dataOffset w (e % localSize) + e / localSize * localSize =
          w * groupSize + e := by
        simp only [dataOffset, localSize]
        omega
      have hcount := (hthread ⟨e % localSize, hid⟩).mp
        (hall _ (Nat.zero_le _) (by simp only [localSize] at *; omega)) _ hk
      rwa [helement] at hcount
    · intro hall j _ hj
      rcases j with _ | id
      · rw [show (summed s).2 (.shared w (.maxSum 0)) = 0 from (zero_accumulate _ w).2]
        exact UInt32.zero_le
      · have hid : id < localSize - 1 := by omega
        refine (hthread ⟨id, by omega⟩).mpr fun k hk => ?_
        rw [dataOffset, Nat.add_assoc]
        refine hall _ ?_ ?_
        · simp only [groupSize, blockSize, localSize] at *
          omega
        · simp only [localSize] at *
          omega
  · exact ⟨fun h j hij hji => (Nat.le_antisymm hij (Nat.lt_succ_iff.mp hji)) ▸ h,
      fun h => h i le_rfl (Nat.lt_succ_self i)⟩
  · rw [hu, hv]
    refine ⟨fun h j haj hjd => ?_, fun h => ⟨fun j hbj hjd => h j (hab.trans hbj) hjd,
      fun j haj hjb => h j haj (hjb.trans_le hbd)⟩⟩
    rcases Nat.lt_or_ge j b with hjb | hbj
    · exact h.2 j haj hjb
    · exact h.1 j hbj hjd

end Finish

end Sum3

end SumShaders

end OkularV3d
