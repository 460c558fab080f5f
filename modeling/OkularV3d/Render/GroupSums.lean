import Mathlib.Data.UInt
import OkularV3d.Render.SumShaders

/-!
# The sums of the groups

What `sum1` and `sum2` leave, in lockstep: the sum of every group (`Sum1.buffer_lockstep`), and then
the sum of all groups before each (`Sum2.buffer_lockstep`). What the groups find in the memory they
share does not matter.

* `groupTotal` is the sum of the counts of one group, the specification of both shaders.
* In `Sum1`, `groupSum_gather` is the sum within a thread and `groupSum_rounds` the reduction over
  the threads of a group, by induction on the strides.
* In `Sum2`, `groupSum_gather`, `rounds` and `globalSum_scatter` are its three parts: the sum of a
  block in every thread, the scan over the threads (`OkularV3d.Lib.Scan`), and the sums written
  back.
-/

namespace OkularV3d

namespace SumShaders

open WorkGroups Finset

/-! ### `sum1` -/

namespace Sum1
variable {g : ℕ}

/-- The sum of a group. -/
def groupTotal (count : ℕ → UInt32) (w : ℕ) : UInt32 :=
  ∑ e ∈ range groupSize, count (w * groupSize + e)

/-- A thread adds up its pixels one after the other. -/
theorem alone_gather (t : Fin g × Lane) (th : Thread Registers Atomic) (m : Cell (Fin g) → UInt32)
    (n : ℕ) :
    alone ((List.range n).map fun i =>
      .load (.buffer (.count (dataOffset t.1 t.2 + i * localSize))) fun p c =>
        { p with sum := p.sum + c }) (th, m) =
      ({ th with registers := { th.registers with
          sum := th.registers.sum +
            ∑ i ∈ range n, m (.buffer (.count (dataOffset t.1 t.2 + i * localSize))) } }, m) := by
  induction n with
  | zero => simp
  | succ n ih =>
    rw [alone_map_range_succ, ih, sum_range_succ, ← add_assoc]
    rfl

/-- Its place then has their sum. -/
theorem groupSum_gather (s : KernelState (Fin g) Registers)
    (t : Fin g × Lane) :
    ((Phase.mk gather gatherOwner).run s).2 (.shared t.1 (.groupSum t.2)) =
      (s.1 t).registers.sum +
        ∑ i ∈ range blockSize, s.2 (.buffer (.count (dataOffset t.1 t.2 + i * localSize))) := by
  rw [Phase.run_owned s _ (thread_val t)]
  simp only [gather, alone_append, alone_gather]
  exact Function.update_self ..

/-- **One round of the reduction** adds the upper half to the lower. -/
theorem groupSum_reduce (s : KernelState (Fin g) Registers)
    {stride : ℕ} (hstride : stride ≤ localSize) (w : Fin g) (i : ℕ) :
    ((Phase.mk (reduce stride) (reduceOwner stride)).run s).2 (.shared w (.groupSum i)) =
      Scan.halve stride (fun i => s.2 (.shared w (.groupSum i))) i := by
  rw [Scan.halve]
  split_ifs with hi
  · have hown : reduceOwner stride (.shared w (.groupSum i)) =
      some (w, ⟨i, hi.trans_le hstride⟩) := by
      rw [reduceOwner, if_pos hi]
      exact thread_eq_some_iff.mpr ⟨rfl, rfl⟩
    rw [Phase.run_owned s _ hown]
    simp only [reduce, if_pos hi]
    exact Function.update_self ..
  · exact Phase.run_unowned s _ (if_neg hi)

/-- All rounds. -/
theorem groupSum_rounds (strides : List ℕ) (h : ∀ s ∈ strides, s ≤ localSize)
    (s : KernelState (Fin g) Registers) (w : Fin g) :
    (fun i => (lockstep (strides.map fun s => ⟨reduce s, reduceOwner s⟩) s).2
      (.shared w (.groupSum i))) =
      strides.foldl (fun x s => Scan.halve s x) fun i => s.2 (.shared w (.groupSum i)) := by
  induction strides generalizing s with
  | nil => rfl
  | cons stride strides ih =>
    rw [List.forall_mem_cons] at h
    rw [List.map_cons, lockstep_cons, ih h.2, List.foldl_cons]
    exact congrArg (strides.foldl _) (funext fun i => groupSum_reduce s h.1 w i)

/-- The rounds work on shared memory only. -/
theorem buffer_rounds (strides : List ℕ)
    (s : KernelState (Fin g) Registers) (x : Buffer) :
    (lockstep (strides.map fun s => ⟨reduce s, reduceOwner s⟩) s).2 (.buffer x) =
      s.2 (.buffer x) := by
  induction strides generalizing s with
  | nil => rfl
  | cons stride strides ih => rw [List.map_cons, lockstep_cons, ih, Phase.run_unowned s _ rfl]

/-- The sum of a group is what is left in its first place. -/
theorem buffer_publish (s : KernelState (Fin g) Registers) (x : Buffer) :
    ((Phase.mk publish publishOwner).run s).2 (.buffer x) =
      match x with
      | .globalSum w => if h : w < g then s.2 (.shared ⟨w, h⟩ (.groupSum 0)) else s.2 (.buffer x)
      | _ => s.2 (.buffer x) := by
  rcases x with e | w | e | _
  · exact Phase.run_unowned s _ rfl
  · by_cases hw : w < g
    · rw [Phase.run_owned s _ (dif_pos hw)]
      simp only [publish, ↓reduceIte, dif_pos hw]
      exact Function.update_self ..
    · simp only [dif_neg hw]
      exact Phase.run_unowned s _ (dif_neg hw)
  · exact Phase.run_unowned s _ rfl
  · exact Phase.run_unowned s _ rfl

/-- **The sums of the groups.** -/
theorem buffer_lockstep (s : KernelState (Fin g) Registers)
    (hs : ∀ t, (s.1 t).registers.sum = 0) (x : Buffer) :
    (lockstep (program g) s).2 (.buffer x) =
      match x with
      | .globalSum w =>
        if w < g then groupTotal (fun e => s.2 (.buffer (.count e))) w else s.2 (.buffer x)
      | _ => s.2 (.buffer x) := by
  have hgather : ∀ x, ((Phase.mk gather gatherOwner).run s).2 (.buffer x) = s.2 (.buffer x) :=
    fun x => Phase.run_unowned s _ rfl
  rw [program, lockstep_cons, lockstep_append, lockstep_cons, lockstep_nil, buffer_publish]
  rcases x with e | w | e | _
  · rw [buffer_rounds, hgather]
  · dsimp only
    split_ifs with hw
    · have hrounds := congrFun (groupSum_rounds (Scan.strides 8).reverse (by decide)
        ((Phase.mk gather gatherOwner).run s) ⟨w, hw⟩) 0
      rw [Scan.foldl_halve] at hrounds
      refine hrounds.trans ?_
      rw [groupTotal, Scan.sum_range_mul']
      refine sum_congr rfl fun i hi => ?_
      have hi : i < localSize := mem_range.mp hi
      refine (groupSum_gather s (⟨w, hw⟩, ⟨i, hi⟩)).trans ?_
      rw [hs, zero_add]
      refine sum_congr rfl fun k _ => ?_
      rw [dataOffset, add_assoc, Nat.mul_comm k]
    · rw [buffer_rounds, hgather]
  · rw [buffer_rounds, hgather]
  · rw [buffer_rounds, hgather]

end Sum1

/-! ### `sum2` -/

namespace Sum2

variable (s : KernelState Unit Registers)

/-- A thread adds up the sums of its block, and keeps what was before each. -/
theorem alone_gather (blocks : ℕ) (t : Unit × Lane) (th : Thread Registers Atomic)
    (m : Cell Unit → UInt32) (n : ℕ) :
    alone ((List.range n).map fun i =>
      .load (.buffer (.globalSum (blocks * t.2 + i))) fun p v =>
        { p with localSum := Function.update p.localSum i p.sum, sum := p.sum + v }) (th, m) =
      ({ th with registers := { th.registers with
          localSum := fun i =>
            if i < n then
              th.registers.sum + ∑ u ∈ range i, m (.buffer (.globalSum (blocks * t.2 + u)))
            else th.registers.localSum i
          sum := th.registers.sum +
            ∑ u ∈ range n, m (.buffer (.globalSum (blocks * t.2 + u))) } }, m) := by
  induction n with
  | zero => simp
  | succ n ih =>
    have hlocal : ∀ i, i < n + 1 ↔ i = n ∨ i < n := fun i => by omega
    rw [alone_map_range_succ, ih, sum_range_succ, ← add_assoc, Instr.exec]
    refine congrArg (fun f => (Thread.mk (Registers.mk f _ _ _) _, m)) (funext fun i => ?_)
    rw [Function.update_apply]
    split_ifs <;> simp_all

/-- Its place then has the sum of the block. -/
theorem groupSum_gather (blocks : ℕ) (t : Unit × Lane) :
    ((Phase.mk (gather blocks) sharedOwner).run s).2 (.shared () (.groupSum t.2)) =
      (s.1 t).registers.sum +
        ∑ i ∈ range blocks, s.2 (.buffer (.globalSum (blocks * t.2 + i))) := by
  rw [Phase.run_owned s _ (thread_val t)]
  simp only [gather, alone_append, alone_gather]
  exact Function.update_self ..

/-- Its registers have the sums before. -/
theorem localSum_gather (blocks : ℕ) (t : Unit × Lane) {i : ℕ} (hi : i < blocks) :
    (((Phase.mk (gather blocks) sharedOwner).run s).1 t).registers.localSum i =
      (s.1 t).registers.sum + ∑ u ∈ range i, s.2 (.buffer (.globalSum (blocks * t.2 + u))) := by
  rw [Phase.run_thread]
  simp only [gather, alone_append, alone_gather]
  exact if_pos hi

/-! #### The rounds -/

/-- A thread that reads leaves the memory alone. -/
theorem memory_read (shift : ℕ) : ((Phase.mk (read shift) fun _ => none).run s).2 = s.2 :=
  funext fun _ => Phase.run_unowned s _ rfl

/-- It reads the place a stride before its own, if there is one. -/
theorem thread_read (shift : ℕ) (t : Unit × Lane) :
    (((Phase.mk (read shift) fun _ => none).run s).1 t).registers =
      { (s.1 t).registers with
        read := if shift ≤ t.2 then
            s.2 (.shared () (.groupSum t.2)) + s.2 (.shared () (.groupSum (t.2 - shift)))
          else (s.1 t).registers.read } := by
  simp only [Phase.run_thread, read]
  split_ifs <;> rfl

/-- **One round** adds to every place the one a stride before. -/
theorem groupSum_round (shift : ℕ) {i : ℕ} (hi : i < localSize) :
    (lockstep (round shift) s).2 (.shared () (.groupSum i)) =
      Scan.shift (· + ·) shift (fun i => s.2 (.shared () (.groupSum i))) i := by
  have hown : sharedOwner (.shared () (.groupSum i)) = some ((), ⟨i, hi⟩) :=
    thread_eq_some_iff.mpr ⟨rfl, rfl⟩
  rw [round, lockstep_cons, lockstep_cons, lockstep_nil, Phase.run_owned _ _ hown]
  simp only [write, Scan.shift]
  split_ifs with hshift
  · refine (Function.update_self ..).trans ?_
    rw [thread_read, if_pos hshift]
  · rw [memory_read, alone_nil]

theorem buffer_round (shift : ℕ) (x : Buffer) :
    (lockstep (round shift) s).2 (.buffer x) = s.2 (.buffer x) := by
  rw [round, lockstep_cons, lockstep_cons, lockstep_nil, Phase.run_unowned _ _ rfl, memory_read]

/-- The registers keep the sums of the block. -/
theorem localSum_round (shift : ℕ) (t : Unit × Lane) :
    ((lockstep (round shift) s).1 t).registers.localSum = (s.1 t).registers.localSum := by
  rw [round, lockstep_cons, lockstep_cons, lockstep_nil, Phase.run_thread]
  simp only [write]
  have hread := congrArg Registers.localSum (thread_read s shift t)
  split_ifs
  all_goals exact hread

/-- All rounds. -/
theorem rounds (strides : List ℕ) :
    (∀ i < localSize, (lockstep (strides.flatMap round) s).2 (.shared () (.groupSum i)) =
      strides.foldl (fun x s => Scan.shift (· + ·) s x)
        (fun i => s.2 (.shared () (.groupSum i))) i) ∧
    (∀ x, (lockstep (strides.flatMap round) s).2 (.buffer x) = s.2 (.buffer x)) ∧
    ∀ t, ((lockstep (strides.flatMap round) s).1 t).registers.localSum =
      (s.1 t).registers.localSum := by
  induction strides generalizing s with
  | nil => exact ⟨fun _ _ => rfl, fun _ => rfl, fun _ => rfl⟩
  | cons stride strides ih =>
    obtain ⟨hgroup, hbuffer, hlocal⟩ := ih (lockstep (round stride) s)
    rw [List.flatMap_cons, lockstep_append]
    refine ⟨fun i hi => ?_, fun x => ?_, fun t => ?_⟩
    · rw [hgroup i hi, List.foldl_cons]
      exact Scan.foldl_shift_congr (fun j hj => groupSum_round s stride hj) strides hi
    · rw [hbuffer, buffer_round]
    · rw [hlocal, localSum_round]

/-! #### The end -/

/-- The sums that a thread stores. -/
theorem alone_scatter (blocks : ℕ) (t : Unit × Lane) (th : Thread Registers Atomic)
    (m : Cell Unit → UInt32) (n : ℕ) :
    (alone ((List.range n).map fun i =>
      .store (.buffer (.globalSum (blocks * t.2 + i))) fun p =>
        p.localSum i + if 0 < t.2 then p.shift else 0) (th, m)).1 = th ∧
    ∀ i < n, (alone ((List.range n).map fun i =>
      .store (.buffer (.globalSum (blocks * t.2 + i))) fun p =>
        p.localSum i + if 0 < t.2 then p.shift else 0) (th, m)).2
        (.buffer (.globalSum (blocks * t.2 + i))) =
      th.registers.localSum i + if 0 < t.2 then th.registers.shift else 0 := by
  induction n with
  | zero => exact ⟨rfl, fun _ h => absurd h (Nat.not_lt_zero _)⟩
  | succ n ih =>
    obtain ⟨hthread, hmemory⟩ := ih
    rw [alone_map_range_succ]
    refine ⟨hthread, fun i hi => ?_⟩
    rcases Nat.lt_succ_iff_lt_or_eq.mp hi with hi | rfl
    · refine (Function.update_of_ne (fun h => ?_) ..).trans (hmemory i hi)
      simp only [Cell.buffer.injEq, Buffer.globalSum.injEq] at h
      omega
    · refine (Function.update_self ..).trans ?_
      exact congrArg (fun th : Thread Registers Atomic =>
        th.registers.localSum i + if 0 < t.2 then th.registers.shift else 0) hthread

/-- In the end the place of a group has the sum of the groups before it: those of its block, and all
earlier blocks. -/
theorem globalSum_scatter {blocks : ℕ} (t : Unit × Lane) {i : ℕ} (hi : i < blocks) :
    ((Phase.mk (scatter blocks) (scatterOwner blocks)).run s).2
        (.buffer (.globalSum (blocks * t.2 + i))) =
      (s.1 t).registers.localSum i +
        if 0 < t.2 then s.2 (.shared () (.groupSum (t.2 - 1))) else 0 := by
  have hown : scatterOwner blocks (.buffer (.globalSum (blocks * t.2 + i))) = some t := by
    refine thread_eq_some_iff.mpr ⟨rfl, ?_⟩
    rw [Nat.mul_add_div (Nat.zero_lt_of_lt hi), Nat.div_eq_of_lt hi, Nat.add_zero]
  rw [Phase.run_owned s _ hown]
  simp only [scatter, alone_append]
  refine ((alone_scatter blocks t _ _ blocks).2 i hi).trans ?_
  split_ifs <;> rfl

/-- **The sums of all groups before each**, as far as the blocks reach. The other buffers stay. -/
theorem buffer_lockstep (blocks : ℕ) (hs : ∀ t, (s.1 t).registers.sum = 0) :
    (∀ w < localSize * blocks, (lockstep (program blocks) s).2 (.buffer (.globalSum w)) =
      ∑ u ∈ range w, s.2 (.buffer (.globalSum u))) ∧
    ∀ x, (∀ w, x ≠ .globalSum w) →
    (lockstep (program blocks) s).2 (.buffer x) = s.2 (.buffer x) := by
  have hgather : ∀ x, ((Phase.mk (gather blocks) sharedOwner).run s).2 (.buffer x) =
    s.2 (.buffer x) :=
    fun x => Phase.run_unowned s _ rfl
  obtain ⟨hgroup, hbuffer, hlocal⟩ :=
    rounds ((Phase.mk (gather blocks) sharedOwner).run s) (Scan.strides 8)
  rw [program, lockstep_cons, lockstep_append, lockstep_cons, lockstep_nil]
  constructor
  · intro w hw
    have hpos : 0 < blocks := Nat.pos_of_mul_pos_left (Nat.zero_lt_of_lt hw)
    have hid : w / blocks < localSize := Nat.div_lt_of_lt_mul (Nat.mul_comm .. ▸ hw)
    have hi := Nat.mod_lt w hpos
    -- what the threads before this one have, and what this one has before the sum
    have hbefore : ∀ id : ℕ, id ≤ localSize →
        ∑ j ∈ range id, ((Phase.mk (gather blocks) sharedOwner).run s).2
            (.shared () (.groupSum j)) =
          ∑ u ∈ range (blocks * id), s.2 (.buffer (.globalSum u)) := by
      intro id hle
      rw [Scan.sum_range_mul]
      refine sum_congr rfl fun j hj => ?_
      have hj : j < localSize := (mem_range.mp hj).trans_le hle
      refine (groupSum_gather s blocks ((), ⟨j, hj⟩)).trans ?_
      rw [hs, zero_add]
    rw [← Nat.div_add_mod w blocks]
    refine (globalSum_scatter _ ((), ⟨w / blocks, hid⟩) hi).trans ?_
    rw [hlocal, localSum_gather s blocks _ hi, hs, zero_add, sum_range_add, add_comm,
      ← hbefore _ hid.le]
    refine congrArg (· + _) ?_
    split_ifs with hzero
    · have hzero : 0 < w / blocks := hzero
      have hlt : w / blocks - 1 < localSize := by omega
      refine (hgroup _ hlt).trans ?_
      rw [Scan.foldl_shift_add _ (show w / blocks - 1 < 2 ^ 8 from hlt), Nat.sub_add_cancel hzero]
    · have hzero : w / blocks = 0 := Nat.eq_zero_of_not_pos hzero
      rw [hzero, range_zero, sum_empty]
  · intro x hx
    rw [Phase.run_unowned _ _ ?_, hbuffer, hgather]
    rcases x with e | w | e | _
    · rfl
    · exact absurd rfl (hx w)
    · rfl
    · rfl

end Sum2

end SumShaders

end OkularV3d
