import OkularV3d.Render.Offsets

/-!
# The sums of a frame

`recordComputeCommandBuffer` dispatches the three shaders one after the other, with a barrier after
each. Here the threads of a shader run in any order, from anything in the variables that it does not
initialize and in the memory that its groups share.

* `Shader.Execution`, `Frame`: a run of one shader to its end, and of the three in a row.
* `Shader.goes_on`: a run comes to an end, wherever it has got to.
* `Shader.Execution.eq_lockstep`: what it leaves does not depend on the order of the threads.
* `Frame.sums_of_fits` says what the sums are for: every pixel has the sum of the counts up to it,
  and `fragments` is the sum of all.
* `Frame.size_le` says what `size` leaves out: `sum3` reports the maximum of a group from a place in
  which that of the last thread is not yet included.
-/

namespace OkularV3d

namespace SumShaders

open WorkGroups Finset

/-! ### Shaders -/

/-- A shader, and what its variables begin with. No two threads get in each other's way. -/
structure Shader (W P : Type) where
  program : List (Kernel W P)
  layout : Layout W (W × Lane) (Cell W)
  init : P → Prop
  safe : ∀ ph ∈ program, ∀ w, ph.SafeIn layout w

/-- `sum1`. -/
def sum1 (d : Dispatch) : Shader (Fin d.g) Sum1.Registers where
  program := Sum1.program d.g
  layout := Sum1.layout d.g
  init := fun p => p.sum = 0
  safe := Sum1.safe d.g

/-- `sum2`. -/
def sum2 (d : Dispatch) : Shader Unit Sum2.Registers where
  program := Sum2.program d.blocks
  layout := Sum2.layout
  init := fun p => p.sum = 0
  safe := Sum2.safe d.blocks

/-- `sum3`. -/
def sum3 (d : Dispatch) : Shader (Fin d.g) Sum3.Registers where
  program := Sum3.program d
  layout := Sum3.layout d
  init := fun p => p.sum = 0 ∧ p.localMax = 0
  safe := Sum3.safe d

/-- Where a shader may start. -/
structure Shader.Start {W P : Type} (S : Shader W P) where
  threads : W × Lane → Thread P Atomic
  garbage : W → Shared → UInt32
  init : ∀ t, S.init (threads t).registers
  issued : ∀ t, (threads t).issued = []

/-- The threads and the memory there. -/
abbrev Shader.Start.state {W P : Type} {S : Shader W P} (s : S.Start) (buffers : Buffer → UInt32) :
    KernelState W P := (s.threads, memory buffers s.garbage)

/-- A run of a shader to its end, from some buffers. -/
structure Shader.Execution {W P : Type} [DecidableEq W] (S : Shader W P)
    (buffers : Buffer → UInt32) where
  start : S.Start
  machine : Machine W (W × Lane) (Cell W) UInt32 P Atomic
  run : Run S.layout.group (.start S.program (start.state buffers)) machine
  finished : machine.Finished

section Execution

variable {W P : Type} [DecidableEq W] {S : Shader W P} {b : Buffer → UInt32}

/-- The buffers as a shader leaves them. -/
def Shader.Execution.buffers (e : S.Execution b) (x : Buffer) : UInt32 :=
  e.machine.memory (.buffer x)

/-- **The order of the threads does not matter.** -/
theorem Shader.Execution.eq_lockstep [Nonempty W] (e : S.Execution b) :
    (e.machine.threads, e.machine.memory) = lockstep S.program (e.start.state b) :=
  result S.safe e.run e.finished

theorem Shader.Execution.buffers_eq [Nonempty W] (e : S.Execution b) (x : Buffer) :
    e.buffers x = (lockstep S.program (e.start.state b)).2 (.buffer x) :=
  congrFun (congrArg Prod.snd e.eq_lockstep) _

/-- The log of a thread is what it issues in lockstep. -/
theorem Shader.Execution.issuedBy_eq [Nonempty W] (e : S.Execution b) (t : W × Lane) :
    e.machine.issuedBy t = ((lockstep S.program (e.start.state b)).1 t).issued :=
  (issuedBy_of_run e.start.issued e.run t).trans
    (congrArg Thread.issued (congrFun (congrArg Prod.fst e.eq_lockstep) t))

/-- **Every run that has begun comes to an end.** -/
theorem Shader.goes_on [Fintype W] (s : S.Start) {M : Machine W (W × Lane) (Cell W) UInt32 P Atomic}
    (hrun : Run S.layout.group (.start S.program (s.state b)) M) :
    ∃ e : S.Execution b, e.start = s ∧ Run S.layout.group M e.machine := by
  obtain ⟨M', hrest, hfinished⟩ : ∃ M', Run S.layout.group M M' ∧ M'.Finished := exists_finished M
  exact ⟨⟨s, M', hrun.trans hrest, hfinished⟩, rfl, hrest⟩

/-- There is a run from any buffers. -/
theorem Shader.nonempty_execution [Fintype W] {p : P} (hp : S.init p) :
    Nonempty (S.Execution b) := by
  obtain ⟨e, -, -⟩ := Shader.goes_on (b := b) (S := S)
    ⟨fun _ => ⟨p, []⟩, fun _ _ => 0, fun _ => hp, fun _ => rfl⟩ .refl
  exact ⟨e⟩

end Execution

/-! ### Frames -/

/-- The three shaders, each with the buffers that the one before has left. -/
structure Frame (d : Dispatch) (b : Buffer → UInt32) where
  first : (sum1 d).Execution b
  second : (sum2 d).Execution first.buffers
  third : (sum3 d).Execution second.buffers

namespace Frame

variable {d : Dispatch} {b : Buffer → UInt32} (f : Frame d b)

instance : Nonempty (Fin d.g) := ⟨d.last⟩

instance : Nonempty (Frame d b) := by
  obtain ⟨first⟩ := Shader.nonempty_execution (S := sum1 d) (b := b) (p := ⟨0, 0⟩) rfl
  obtain ⟨second⟩ := Shader.nonempty_execution (S := sum2 d) (b := first.buffers)
    (p := ⟨fun _ => 0, 0, 0, 0⟩) rfl
  obtain ⟨third⟩ := Shader.nonempty_execution (S := sum3 d) (b := second.buffers)
    (p := ⟨0, 0, 0, 0, 0, 0, 0⟩) ⟨rfl, rfl⟩
  exact ⟨⟨first, second, third⟩⟩

theorem globalSum_first {w : ℕ} (hw : w < d.g) : f.first.buffers (.globalSum w) =
    ∑ e ∈ range groupSize, b (.count (w * groupSize + e)) := by
  rw [f.first.buffers_eq]
  exact (Sum1.buffer_lockstep _ f.first.start.init _).trans (if_pos hw)

theorem count_second (e : ℕ) : f.second.buffers (.count e) = b (.count e) := by
  rw [f.second.buffers_eq]
  refine ((Sum2.buffer_lockstep (f.second.start.state f.first.buffers) d.blocks
    f.second.start.init).2 (.count e) fun w => nofun).trans ?_
  exact (f.first.buffers_eq _).trans (Sum1.buffer_lockstep _ f.first.start.init _)

/-- The sum of all groups before one. -/
theorem globalSum_second {w : ℕ} (hw : w < d.g) : f.second.buffers (.globalSum w) =
    ∑ e ∈ range (groupSize * w), b (.count e) := by
  rw [f.second.buffers_eq, Scan.sum_range_mul]
  refine ((Sum2.buffer_lockstep (f.second.start.state f.first.buffers) d.blocks
    f.second.start.init).1 w (hw.trans_le d.g_le)).trans ?_
  refine sum_congr rfl fun u hu => ?_
  rw [Nat.mul_comm groupSize]
  exact f.globalSum_first ((mem_range.mp hu).trans hw)

/-- **The offset of an element is the sum of the counts up to it.** -/
theorem offset {e : ℕ} (he : e < groupSize * d.g) : f.third.buffers (.offset e) =
    ∑ u ∈ range (e + 1), b (.count u) := by
  have hw : e / groupSize < d.g := Nat.div_lt_of_lt_mul he
  calc f.third.buffers (.offset e)
      = ∑ u ∈ range (e % groupSize + 1), f.second.buffers (.count (e / groupSize * groupSize + u)) +
          f.second.buffers (.globalSum (e / groupSize)) :=
        (f.third.buffers_eq _).trans
          (Sum3.offset_lockstep _ (fun t => (f.third.start.init t).1) he)
    _ = ∑ u ∈ range (groupSize * (e / groupSize)), b (.count u) +
          ∑ u ∈ range (e % groupSize + 1), b (.count (groupSize * (e / groupSize) + u)) := by
        simp only [f.count_second]
        rw [add_comm, f.globalSum_second hw, Nat.mul_comm (e / groupSize)]
    _ = ∑ u ∈ range (e + 1), b (.count u) := by
        rw [← sum_range_add (fun u => b (.count u)), ← Nat.add_assoc, Nat.div_add_mod]

/-- The buffers of a frame at its end, by the last phase of `sum3`. -/
theorem buffers_third (x : Buffer) : f.third.buffers x =
    ((Phase.mk (Sum3.finish d.final) (Sum3.finishOwner d)).run
      (Sum3.scanned (f.third.start.state f.second.buffers))).2 (.buffer x) :=
  (f.third.buffers_eq x).trans (congrFun (congrArg Prod.snd (Sum3.lockstep_program _)) _)

/-- **`fragments` is the sum of all counts**, and so is the offset after the final one. -/
theorem total {x : Buffer} (hx : x = .offset (d.final + 1) ∨ x = .fragments) :
    f.third.buffers x = ∑ u ∈ range (groupSize * d.g), b (.count u) := by
  have hfinal : d.final < groupSize * d.g := d.final_succ ▸ Nat.lt_succ_self _
  rw [← d.final_succ, ← f.offset hfinal, f.buffers_third, f.buffers_third]
  refine Sum3.total_finish _ ?_
  rcases hx with rfl | rfl <;> simp

end Frame

/-- **Every pixel has the sum of the counts up to it**, in a frame that fits, and the total is fed
back and follows the final offset. -/
theorem Frame.sums_of_fits {maxFramebuffer : UInt32 × UInt32}
    {size : PrefixSum.TargetSize maxFramebuffer} {maxComputeWorkGroupCountX : UInt32}
    (h : PrefixSum.Fits size maxComputeWorkGroupCountX)
    (hlocal : size.area ≤ groupSize * localSize * groupSize) {b : Buffer → UInt32}
    (f : Frame (.ofFits h hlocal) b) :
    let final := (PrefixSum.dispatch size maxComputeWorkGroupCountX).final.toNat
    (∀ e < size.area, f.third.buffers (.offset e) = ∑ u ∈ range (e + 1), b (.count u)) ∧
      f.third.buffers .fragments = ∑ u ∈ range (final + 1), b (.count u) ∧
        f.third.buffers (.offset (final + 1)) = ∑ u ∈ range (final + 1), b (.count u) := by
  rw [← Dispatch.final_ofFits h hlocal]
  refine ⟨fun e he => f.offset (he.trans_le (Dispatch.area_le_ofFits h hlocal)), ?_, ?_⟩
  · rw [Dispatch.final_succ]
    exact f.total (.inr rfl)
  · rw [f.total (.inl rfl), Dispatch.final_succ]

/-- A window of 60 by 40 pixels has 2501 of them with the border, in two groups. -/
theorem Frame.sums_of_fits_window :
    let window : PrefixSum.TargetSize (16384, 16384) := .clamped (60, 40) (by decide) (by decide)
    ∃ (hfits : PrefixSum.Fits window 65535)
      (hlocal : window.area ≤ groupSize * localSize * groupSize),
      ∀ b (f : Frame (.ofFits hfits hlocal) b), ∀ e < 2501,
        f.third.buffers (.offset e) = ∑ u ∈ range (e + 1), b (.count u) :=
  ⟨⟨by decide, by decide⟩, by decide, fun _ f => (Frame.sums_of_fits _ _ f).1⟩

/-! ### The depth -/

/-- `size`: what the exchange finds in `maxDepth`. -/
def size (maxDepth : UInt32) : List Atomic → Option UInt32
  | [] => none
  | .exchange :: _ => some maxDepth
  | .max value :: log => size (max maxDepth value) log

theorem size_le_of_forall {log : List Atomic} {maxDepth c v : UInt32} (hmax : maxDepth ≤ c)
    (hlog : ∀ value, .max value ∈ log → value ≤ c) (hv : size maxDepth log = some v) : v ≤ c := by
  induction log generalizing maxDepth with
  | nil => exact nomatch hv
  | cons a log ih =>
    cases a with
    | exchange => exact Option.some.inj hv ▸ hmax
    | max value =>
      refine ih ((max_le_iff ..).mpr ⟨hmax, hlog value (List.mem_cons_self ..)⟩) (fun u hu => ?_) hv
      exact hlog u (List.mem_cons_of_mem _ hu)

theorem exists_size_of_mem {log : List Atomic} (h : .exchange ∈ log) (maxDepth : UInt32) :
    ∃ v, size maxDepth log = some v := by
  induction log generalizing maxDepth with
  | nil => exact absurd h List.not_mem_nil
  | cons a log ih =>
    cases a with
    | exchange => exact ⟨maxDepth, rfl⟩
    | max value => exact ih ((List.mem_cons.mp h).resolve_left nofun) _

namespace Sum3

variable {d : Dispatch} (s : KernelState (Fin d.g) Registers)

/-- Nothing is issued before the end. -/
theorem issued_scanned (t : Fin d.g × Lane) : ((scanned s).1 t).issued = (s.1 t).issued := by
  rw [scanned, summed, ← lockstep_cons, ← lockstep_cons]
  refine issued_lockstep s ?_ t
  simp only [round, List.forall_mem_cons, List.forall_mem_flatMap]
  refine ⟨fun t i hi th => ?_, fun t i hi th => ?_, fun shift _ =>
    ⟨fun t i hi th => ?_, fun t i hi th => ?_, List.forall_mem_nil _⟩⟩
  -- the code of these phases is loads and stores
  · simp only [fill, List.mem_flatMap, List.mem_cons, List.not_mem_nil, or_false] at hi
    rcases hi with ⟨k, -, rfl | rfl⟩ <;> rfl
  · simp only [accumulate, List.mem_append, List.mem_flatMap, List.mem_cons, List.not_mem_nil,
      or_false] at hi
    rcases hi with (⟨k, -, rfl | rfl⟩ | hi) | rfl | rfl
    any_goals rfl
    split_ifs at hi
    · simp only [List.mem_cons, List.not_mem_nil, or_false] at hi
      rcases hi with rfl | rfl <;> rfl
    · exact absurd hi List.not_mem_nil
  · simp only [read] at hi
    split_ifs at hi
    · simp only [List.mem_cons, List.not_mem_nil, or_false] at hi
      rcases hi with rfl | rfl | rfl | rfl <;> rfl
    · exact absurd hi List.not_mem_nil
  · simp only [write] at hi
    split_ifs at hi
    · simp only [List.mem_cons, List.not_mem_nil, or_false] at hi
      rcases hi with rfl | rfl <;> rfl
    · exact absurd hi List.not_mem_nil

end Sum3

namespace Frame

variable {d : Dispatch} {b : Buffer → UInt32} (f : Frame d b)

theorem issuedBy (t : Fin d.g × Lane) : f.third.machine.issuedBy t =
    (if t.2 = 0 then [.max ((Sum3.scanned (f.third.start.state f.second.buffers)).2
      (.shared t.1 (.maxSum (localSize - 1))))] else []) ++
      if t = Sum3.lastThread d then [.exchange] else [] := by
  refine (f.third.issuedBy_eq t).trans ?_
  refine (congrArg (fun s : KernelState _ _ => (s.1 t).issued) (Sum3.lockstep_program _)).trans ?_
  rw [Sum3.issued_finish, Sum3.issued_scanned, f.third.start.issued, List.nil_append]

/-- **What a group reports**: the largest of its counts, but for those of its last thread. -/
theorem reported {t : Fin d.g × Lane} {v : UInt32} (hv : .max v ∈ f.third.machine.issuedBy t)
    (c : UInt32) : v ≤ c ↔ ∀ e < groupSize, e % localSize ≠ localSize - 1 →
      b (.count (t.1 * groupSize + e)) ≤ c := by
  rw [f.issuedBy] at hv
  have hmax : v = (Sum3.scanned (f.third.start.state f.second.buffers)).2
      (.shared t.1 (.maxSum (localSize - 1))) := by
    split_ifs at hv <;> simp_all
  rw [hmax, Sum3.maxSum_scanned _ (fun t => (f.third.start.init t).2)]
  refine forall₃_congr fun e _ _ => ?_
  exact iff_of_eq (congrArg (· ≤ c) (f.count_second _))

/-- **`size` leaves out the last thread of every group**: a bound for the counts of the others, and
for what the frame before has left, is one for `size`. -/
theorem size_le {maxDepth c v : UInt32} (hmax : maxDepth ≤ c)
    (hcount : ∀ e < groupSize * d.g, e % localSize ≠ localSize - 1 → b (.count e) ≤ c)
    (hv : size maxDepth (f.third.machine.log.map Prod.snd) = some v) : v ≤ c := by
  refine size_le_of_forall hmax (fun value hvalue => ?_) hv
  obtain ⟨⟨t, _⟩, hlog, rfl⟩ := List.mem_map.mp hvalue
  -- every maximum in the log was reported by some group
  have hissued : .max value ∈ f.third.machine.issuedBy t :=
    List.mem_map.mpr ⟨_, List.mem_filter.mpr ⟨hlog, decide_eq_true rfl⟩, rfl⟩
  refine (f.reported hissued c).mpr fun e he hlane => ?_
  have hw := t.1.isLt
  refine hcount _ ?_ ?_
  all_goals
    simp only [groupSize, localSize, blockSize] at *
    omega

/-- Counts of a group in which the pixels of the last thread alone are covered, five times each. -/
def lastThreadCounts : Buffer → UInt32
  | .count e => if e % localSize = localSize - 1 then 5 else 0
  | _ => 0

/-- The `size` that is fed back is zero there. -/
theorem size_le_lastThread :
    let group : Dispatch := ⟨1, by decide, by decide, by decide⟩
    lastThreadCounts (.count 255) = 5 ∧ ∀ (f : Frame group lastThreadCounts) (v : UInt32),
      size 0 (f.third.machine.log.map Prod.snd) = some v → v ≤ 0 := by
  refine ⟨rfl, fun f v hv => f.size_le (UInt32.le_refl 0) (fun e _ hlane => ?_) hv⟩
  rw [lastThreadCounts, if_neg hlane]
  exact UInt32.le_refl 0

/-- There is a `size`: the last thread sets `maxDepth` back, whether other groups report before or
after. -/
theorem exists_size (maxDepth : UInt32) :
    ∃ v, size maxDepth (f.third.machine.log.map Prod.snd) = some v := by
  refine exists_size_of_mem ?_ maxDepth
  have hissued : .exchange ∈ f.third.machine.issuedBy (Sum3.lastThread d) := by
    rw [f.issuedBy, if_pos rfl]
    exact List.mem_append_right _ (List.mem_singleton_self _)
  obtain ⟨e, he, hexchange⟩ := List.mem_map.mp hissued
  exact List.mem_map.mpr ⟨e, (List.mem_filter.mp he).1, hexchange⟩

end Frame

end SumShaders

end OkularV3d
