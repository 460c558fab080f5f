import OkularV3d.Lib.Scan
import OkularV3d.Lib.WorkGroups
import OkularV3d.Render.PrefixSum

/-!
# The shaders of the prefix sum

`sum1` adds up the counts of every group of pixels, `sum2` turns the sums of the groups into those
of all groups before each, and `sum3` adds what is before a pixel in its group. They run with
`LOCALSIZE` threads a group, which share some memory and wait for each other at barriers; nothing
else orders them.

Indices are natural numbers here. A `Dispatch` is within the range of 32 bits, so that the code's
are the same. `Dispatch.ofFits` makes one of a frame that fits; `Dispatch.dataOffset_of_fits` and
`Dispatch.block_ofFits` compare the indices. In every phase each word has one thread that writes it
and no other that reads it (`Sum1.safe`, `Sum2.safe`, `Sum3.safe`).

* `Buffer`, `Shared` and `Cell` are the memory, `Code` the instructions of a thread in one phase and
  `Kernel` a phase (`OkularV3d.Lib.WorkGroups`).
* Each of the namespaces `Sum1`, `Sum2` and `Sum3` has a shader: its phases, the thread that owns
  each word in each of them, and `program` with all phases in a row.
* `Sum3.shuffleOffset` is the place of a thread's first element in the memory of its group,
  `Sum3.stride` the distance of the others.
-/

namespace OkularV3d

namespace SumShaders

open WorkGroups

/-! ### Memory -/

/-- `LOCALSIZE`. -/
abbrev localSize : ℕ := 256

/-- `BLOCKSIZE`. -/
abbrev blockSize : ℕ := 8

/-- `groupSize`. -/
abbrev groupSize : ℕ := localSize * blockSize

/-- `gl_LocalInvocationID.x`. -/
abbrev Lane := Fin localSize

/-- A word of a buffer. -/
inductive Buffer where
  | count (e : ℕ)
  | globalSum (w : ℕ)
  | offset (e : ℕ)
  | fragments
  deriving DecidableEq

/-- A word of the memory that a group shares. -/
inductive Shared where
  | shuffle (i : ℕ)
  | groupSum (i : ℕ)
  | maxSum (i : ℕ)
  deriving DecidableEq

/-- A word, where `W` are the groups. -/
inductive Cell (W : Type) where
  | buffer (x : Buffer)
  | shared (w : W) (x : Shared)
  deriving DecidableEq

/-- What is done to `maxDepth`: `atomicMax`, and the `atomicExchange` that sets `size`. -/
inductive Atomic where
  | max (value : UInt32)
  | exchange
  deriving DecidableEq

/-- The code of a thread with the variables `P`. -/
abbrev Code (W P : Type) := List (Instr (Cell W) UInt32 P Atomic)

/-- A phase of all threads. -/
abbrev Kernel (W P : Type) := Phase (W × Lane) (Cell W) UInt32 P Atomic

/-- The threads and the memory of a shader. -/
abbrev KernelState (W P : Type) := State (W × Lane) (Cell W) UInt32 P Atomic

/-- The buffers, and what groups find in the memory they share. -/
def memory {W : Type} (buffers : Buffer → UInt32) (garbage : W → Shared → UInt32) : Cell W → UInt32
  | .buffer x => buffers x
  | .shared w x => garbage w x

/-- The thread of a number, in a group. -/
def thread {W : Type} (w : W) (i : ℕ) : Option (W × Lane) :=
  if h : i < localSize then some (w, ⟨i, h⟩) else none

/-- The push constants and the groups of a frame. -/
structure Dispatch where
  g : ℕ
  pos : 0 < g
  /-- No index wraps. -/
  range : groupSize * g < 2 ^ 32
  /-- `localSum` of `sum2` has room. -/
  local_le : (g + (localSize - 1)) / localSize ≤ groupSize

namespace Dispatch

variable (d : Dispatch)

/-- `push.blockSize`. -/
def blocks : ℕ := (d.g + (localSize - 1)) / localSize

/-- `push.final`. -/
def final : ℕ := groupSize * d.g - 1

/-- The last group. -/
def last : Fin d.g := ⟨d.g - 1, Nat.sub_lt d.pos Nat.one_pos⟩

/-- The elements up to the final one are those of the groups. -/
theorem final_succ : d.final + 1 = groupSize * d.g :=
  Nat.sub_add_cancel (Nat.mul_pos (by decide) d.pos)

/-- The blocks of all threads cover the groups. -/
theorem g_le : d.g ≤ localSize * d.blocks := by
  simp only [blocks, localSize]
  omega

end Dispatch

/-- `dataOffset` of `sum1` and `sum3`. -/
def dataOffset (w id : ℕ) : ℕ := w * groupSize + id

/-! ### Frames that fit -/

namespace Dispatch

variable {maxFramebuffer : UInt32 × UInt32} {size : PrefixSum.TargetSize maxFramebuffer}
  {maxComputeWorkGroupCountX : UInt32}

/-- The clamp to what the device can dispatch does not bite. -/
theorem groups_of_fits (h : PrefixSum.Fits size maxComputeWorkGroupCountX) :
    (PrefixSum.dispatch size maxComputeWorkGroupCountX).g.toNat = (size.area + 2047) / 2048 :=
  (congrArg UInt32.toNat h.g_eq).trans h.toNat_groupCount

/-- In a frame that fits, the elements of all groups are numbered within 32 bits. -/
theorem range_of_fits (h : PrefixSum.Fits size maxComputeWorkGroupCountX) :
    groupSize * (PrefixSum.dispatch size maxComputeWorkGroupCountX).g.toNat < 2 ^ 32 := by
  have hlt := h.area_lt
  rw [groups_of_fits h]
  simp only [PrefixSum.toNat_groupSize, groupSize, localSize, blockSize] at *
  omega

/-- What `recordComputeCommandBuffer` dispatches for a frame that fits and is not too large for
`localSum`. -/
def ofFits (h : PrefixSum.Fits size maxComputeWorkGroupCountX)
    (hlocal : size.area ≤ groupSize * localSize * groupSize) : Dispatch where
  g := (PrefixSum.dispatch size maxComputeWorkGroupCountX).g.toNat
  pos := by
    have harea : 0 < size.area := Nat.mul_pos (Nat.succ_pos _) (Nat.succ_pos _)
    rw [groups_of_fits h]
    omega
  range := range_of_fits h
  local_le := by
    rw [groups_of_fits h]
    simp only [groupSize, localSize, blockSize] at *
    omega

variable (h : PrefixSum.Fits size maxComputeWorkGroupCountX)
  (hlocal : size.area ≤ groupSize * localSize * groupSize)

/-- The push constants are the code's. -/
theorem blocks_ofFits : (ofFits h hlocal).blocks =
    (PrefixSum.dispatch size maxComputeWorkGroupCountX).blockSize.toNat := by
  rw [h.toNat_blockSize, ← groups_of_fits h]
  rfl

/-- The last element is the one that the host passes on. -/
theorem final_ofFits : (ofFits h hlocal).final =
    (PrefixSum.dispatch size maxComputeWorkGroupCountX).final.toNat := by
  have helements : (PrefixSum.dispatch size maxComputeWorkGroupCountX).elements.toNat =
      groupSize * (ofFits h hlocal).g := by
    rw [h.elements_eq, h.toNat_paddedPixels, ← groups_of_fits h]
    rfl
  have hle : 1 ≤ (PrefixSum.dispatch size maxComputeWorkGroupCountX).elements := by
    rw [UInt32.le_iff_toNat_le, helements, ← final_succ]
    exact Nat.le_add_left ..
  rw [final, ← helements]
  exact (UInt32.toNat_sub_of_le _ _ hle).symm

/-- The indices of `sum1` and `sum3` are the code's. -/
theorem dataOffset_of_fits (h : PrefixSum.Fits size maxComputeWorkGroupCountX)
    {group id round : UInt32}
    (hgroup : group < (PrefixSum.dispatch size maxComputeWorkGroupCountX).g)
    (hid : id < FragmentBuffers.localSize) (hround : round < FragmentBuffers.blockSize) :
    dataOffset group.toNat id.toNat + round.toNat * localSize =
      (PrefixSum.element group id round).toNat :=
  (PrefixSum.toNat_element (range_of_fits h) hgroup hid hround).symm

/-- So are those of `sum2`, where `localSum` has room. -/
theorem block_ofFits {id round : UInt32} (hid : id < FragmentBuffers.localSize)
    (hround : round < (PrefixSum.dispatch size maxComputeWorkGroupCountX).blockSize) :
    (ofFits h hlocal).blocks * id.toNat + round.toNat =
      (PrefixSum.globalSumIndex
        (PrefixSum.dispatch size maxComputeWorkGroupCountX) id round).toNat := by
  have hblocks := (ofFits h hlocal).local_le
  rw [← blocks, blocks_ofFits] at hblocks
  rw [blocks_ofFits]
  refine (PrefixSum.toNat_globalSumIndex ?_ hid hround).symm
  simp only [groupSize, localSize, blockSize] at hblocks
  omega

/-- Every pixel is an element. -/
theorem area_le_ofFits : size.area ≤ groupSize * (ofFits h hlocal).g := by
  have hgroups : (ofFits h hlocal).g = (size.area + 2047) / 2048 := groups_of_fits h
  rw [hgroups]
  simp only [groupSize, localSize, blockSize]
  omega

end Dispatch

/-! ### `sum1` -/

namespace Sum1

/-- `sum`, and the left operand of `+=`. -/
structure Registers where
  sum : UInt32
  left : UInt32

variable {g : ℕ}

/-- Up to the first barrier. -/
def gather (t : Fin g × Lane) : Code (Fin g) Registers :=
  (List.range blockSize).map (fun i =>
    .load (.buffer (.count (dataOffset t.1 t.2 + i * localSize))) fun p c =>
      { p with sum := p.sum + c }) ++
  [.store (.shared t.1 (.groupSum t.2)) fun p => p.sum]

/-- A round of the loop over `s`. -/
def reduce (s : ℕ) (t : Fin g × Lane) : Code (Fin g) Registers :=
  if t.2 < s then
    [.load (.shared t.1 (.groupSum t.2)) fun p v => { p with left := v },
      .load (.shared t.1 (.groupSum (t.2 + s))) fun p v => { p with left := p.left + v },
      .store (.shared t.1 (.groupSum t.2)) fun p => p.left]
  else []

/-- After the loop. -/
def publish (t : Fin g × Lane) : Code (Fin g) Registers :=
  if t.2 = 0 then
    [.load (.shared t.1 (.groupSum 0)) fun p v => { p with left := v },
      .store (.buffer (.globalSum t.1)) fun p => p.left]
  else []

/-- Every thread has its place. -/
def gatherOwner : Cell (Fin g) → Option (Fin g × Lane)
  | .shared w (.groupSum i) => thread w i
  | _ => none

/-- The upper half is only read. -/
def reduceOwner (s : ℕ) : Cell (Fin g) → Option (Fin g × Lane)
  | .shared w (.groupSum i) => if i < s then thread w i else none
  | _ => none

def publishOwner : Cell (Fin g) → Option (Fin g × Lane)
  | .buffer (.globalSum w) => if h : w < g then some (⟨w, h⟩, 0) else none
  | _ => none

/-- `main` of `sum1`. -/
def program (g : ℕ) : List (Kernel (Fin g) Registers) :=
  ⟨gather, gatherOwner⟩ :: ((Scan.strides 8).reverse.map (fun s => ⟨reduce s, reduceOwner s⟩) ++
    [⟨publish, publishOwner⟩])

/-- Groups write their own sums. -/
def layout (g : ℕ) : Layout (Fin g) (Fin g × Lane) (Cell (Fin g)) where
  group := Prod.fst
  home
    | .shared w _ => some w
    | .buffer (.globalSum w) => if h : w < g then some ⟨w, h⟩ else none
    | _ => none

end Sum1

/-! ### `sum2` -/

namespace Sum2

structure Registers where
  localSum : ℕ → UInt32
  sum : UInt32
  read : UInt32
  shift : UInt32

/-- Up to the first barrier. -/
def gather (blocks : ℕ) (t : Unit × Lane) : Code Unit Registers :=
  (List.range blocks).map (fun i =>
    .load (.buffer (.globalSum (blocks * t.2 + i))) fun p v =>
      { p with localSum := Function.update p.localSum i p.sum, sum := p.sum + v }) ++
  [.store (.shared () (.groupSum t.2)) fun p => p.sum]

/-- The first half of a round of the loop over `shift`. -/
def read (shift : ℕ) (t : Unit × Lane) : Code Unit Registers :=
  if shift ≤ t.2 then
    [.load (.shared () (.groupSum t.2)) fun p v => { p with read := v },
      .load (.shared () (.groupSum (t.2 - shift))) fun p v => { p with read := p.read + v }]
  else []

/-- The second half. -/
def write (shift : ℕ) (t : Unit × Lane) : Code Unit Registers :=
  if shift ≤ t.2 then [.store (.shared () (.groupSum t.2)) fun p => p.read] else []

/-- After the loop. -/
def scatter (blocks : ℕ) (t : Unit × Lane) : Code Unit Registers :=
  (if 0 < t.2 then
      [.load (.shared () (.groupSum (t.2 - 1))) fun p v => { p with shift := v }]
    else []) ++
  (List.range blocks).map fun i =>
    .store (.buffer (.globalSum (blocks * t.2 + i))) fun p =>
      p.localSum i + if 0 < t.2 then p.shift else 0

def sharedOwner : Cell Unit → Option (Unit × Lane)
  | .shared w (.groupSum i) => thread w i
  | _ => none

def scatterOwner (blocks : ℕ) : Cell Unit → Option (Unit × Lane)
  | .buffer (.globalSum w) => thread () (w / blocks)
  | _ => none

/-- The two halves of a round. -/
def round (shift : ℕ) : List (Kernel Unit Registers) :=
  [⟨read shift, fun _ => none⟩, ⟨write shift, sharedOwner⟩]

/-- `main` of `sum2`. -/
def program (blocks : ℕ) : List (Kernel Unit Registers) :=
  ⟨gather blocks, sharedOwner⟩ :: ((Scan.strides 8).flatMap round ++
    [⟨scatter blocks, scatterOwner blocks⟩])

/-- There is one group. -/
def layout : Layout Unit (Unit × Lane) (Cell Unit) where
  group := Prod.fst
  home := fun _ => some ()

end Sum2

/-! ### `sum3` -/

namespace Sum3

structure Registers where
  c : UInt32
  localMax : UInt32
  sum : UInt32
  read : UInt32
  readMax : UInt32
  groupOffset : UInt32
  value : UInt32

/-- `shuffleOffset`. -/
def shuffleOffset (id : ℕ) : ℕ := id / blockSize + id

/-- `stride`. -/
def stride : ℕ := localSize / blockSize + localSize

variable {g : ℕ}

/-- Up to the first barrier. -/
def fill (t : Fin g × Lane) : Code (Fin g) Registers :=
  (List.range blockSize).flatMap fun i =>
    [.load (.buffer (.count (dataOffset t.1 t.2 + i * localSize))) fun p c =>
        { p with c := c, localMax := if p.localMax < c then c else p.localMax },
      .store (.shared t.1 (.shuffle (shuffleOffset t.2 + i * stride))) fun p => p.c]

/-- Up to the second barrier. -/
def accumulate (t : Fin g × Lane) : Code (Fin g) Registers :=
  ((List.range blockSize).flatMap fun i =>
    [.load (.shared t.1 (.shuffle (t.2 * blockSize + t.2 + i))) fun p v =>
        { p with sum := p.sum + v },
      .store (.shared t.1 (.shuffle (t.2 * blockSize + t.2 + i))) fun p => p.sum]) ++
  (if t.2 = 0 then
      [.store (.shared t.1 (.groupSum 0)) fun _ => 0, .store (.shared t.1 (.maxSum 0)) fun _ => 0]
    else []) ++
  [.store (.shared t.1 (.groupSum (t.2 + 1))) fun p => p.sum,
    .store (.shared t.1 (.maxSum (t.2 + 1))) fun p => p.localMax]

/-- The first half of a round of the loop over `shift`. -/
def read (shift : ℕ) (t : Fin g × Lane) : Code (Fin g) Registers :=
  if shift ≤ t.2 then
    [.load (.shared t.1 (.groupSum t.2)) fun p v => { p with read := v },
      .load (.shared t.1 (.groupSum (t.2 - shift))) fun p v => { p with read := p.read + v },
      .load (.shared t.1 (.maxSum t.2)) fun p v => { p with readMax := v },
      .load (.shared t.1 (.maxSum (t.2 - shift))) fun p v => { p with readMax := max p.readMax v }]
  else []

/-- The second half. -/
def write (shift : ℕ) (t : Fin g × Lane) : Code (Fin g) Registers :=
  if shift ≤ t.2 then
    [.store (.shared t.1 (.groupSum t.2)) fun p => p.read,
      .store (.shared t.1 (.maxSum t.2)) fun p => p.readMax]
  else []

/-- `atomicMax` of the first thread. -/
def reportMax (t : Fin g × Lane) : Code (Fin g) Registers :=
  if t.2 = 0 then
    [.load (.shared t.1 (.maxSum (localSize - 1))) fun p v => { p with value := v },
      .issue fun p => .max p.value]
  else []

/-- The loop that stores the offsets. -/
def storeOffsets (t : Fin g × Lane) : Code (Fin g) Registers :=
  .load (.buffer (.globalSum t.1)) (fun p v => { p with groupOffset := v }) ::
  (List.range blockSize).flatMap fun i =>
    [.load (.shared t.1 (.shuffle (shuffleOffset t.2 + i * stride))) fun p
      v => { p with value := v },
      .load (.shared t.1 (.groupSum ((i * localSize + t.2) / blockSize))) fun p v =>
        { p with value := p.value + v },
      .store (.buffer (.offset (dataOffset t.1 t.2 + i * localSize))) fun p =>
        p.value + p.groupOffset]

/-- What the thread of the final element does. -/
def conclude (final : ℕ) (t : Fin g × Lane) : Code (Fin g) Registers :=
  if final - dataOffset t.1 t.2 < groupSize ∧ (final - dataOffset t.1 t.2) % localSize = 0 then
    [.issue fun _ => .exchange,
      .load (.buffer (.offset final)) fun p v => { p with value := v },
      .store (.buffer (.offset (final + 1))) fun p => p.value,
      .store (.buffer .fragments) fun p => p.value]
  else []

/-- After the loop over `shift`. -/
def finish (final : ℕ) (t : Fin g × Lane) : Code (Fin g) Registers :=
  reportMax t ++ storeOffsets t ++ conclude final t

/-- The places are spread, so that there is one to spare after every `BLOCKSIZE`. -/
def fillOwner : Cell (Fin g) → Option (Fin g × Lane)
  | .shared w (.shuffle i) => thread w ((i - i / (blockSize + 1)) % localSize)
  | _ => none

def accumulateOwner : Cell (Fin g) → Option (Fin g × Lane)
  | .shared w (.shuffle i) => thread w (i / (blockSize + 1))
  | .shared w (.groupSum i) | .shared w (.maxSum i) => thread w (i - 1)
  | _ => none

def writeOwner : Cell (Fin g) → Option (Fin g × Lane)
  | .shared w (.groupSum i) | .shared w (.maxSum i) => thread w i
  | _ => none

/-- The thread of an element. -/
def elementThread (g e : ℕ) : Option (Fin g × Lane) :=
  if h : e / groupSize < g then some (⟨e / groupSize, h⟩, ⟨e % localSize, Nat.mod_lt _ (by decide)⟩)
  else none

/-- The last thread. -/
def lastThread (d : Dispatch) : Fin d.g × Lane := (d.last, 255)

def finishOwner (d : Dispatch) : Cell (Fin d.g) → Option (Fin d.g × Lane)
  | .buffer (.offset e) => if e = d.final + 1 then some (lastThread d) else elementThread d.g e
  | .buffer .fragments => some (lastThread d)
  | _ => none

/-- The two halves of a round. -/
def round (shift : ℕ) : List (Kernel (Fin g) Registers) :=
  [⟨read shift, fun _ => none⟩, ⟨write shift, writeOwner⟩]

/-- `main` of `sum3`. -/
def program (d : Dispatch) : List (Kernel (Fin d.g) Registers) :=
  ⟨fill, fillOwner⟩ :: ⟨accumulate, accumulateOwner⟩ :: ((Scan.strides 8).flatMap round ++
    [⟨finish d.final, finishOwner d⟩])

/-- Groups write the offsets of their own elements. -/
def layout (d : Dispatch) : Layout (Fin d.g) (Fin d.g × Lane) (Cell (Fin d.g)) where
  group := Prod.fst
  home
    | .shared w _ => some w
    | .buffer (.offset e) => if e =
        d.final + 1 then some d.last else (elementThread d.g e).map Prod.fst
    | .buffer .fragments => some d.last
    | .buffer _ => none

end Sum3

/-! ### No two threads get in each other's way -/

/-- A cell of a lane belongs to the thread of that lane. -/
@[simp] theorem thread_eq_some_iff {W : Type} {w : W} {i : ℕ} {t : W × Lane} :
    thread w i = some t ↔ t.1 = w ∧ t.2.val = i := by
  rw [thread]
  split_ifs with h
  · rw [Option.some.injEq, Prod.ext_iff, Fin.ext_iff]
    exact and_congr eq_comm eq_comm
  · refine iff_of_false (fun h => nomatch h) fun ht => h (ht.2 ▸ t.2.isLt)

theorem thread_val {W : Type} (t : W × Lane) : thread t.1 t.2.val = some t :=
  thread_eq_some_iff.mpr ⟨rfl, rfl⟩

namespace Sum1
variable {g : ℕ}

/-- Each thread of `sum1` writes the sum of its own pixels. -/
theorem safe_gather (w : Fin g) : (Phase.mk gather gatherOwner).SafeIn (layout g) w where
  home c t h := by
    rcases c with x | ⟨v, ⟨i⟩ | ⟨i⟩ | ⟨i⟩⟩
    all_goals simp only [gatherOwner, reduceCtorEq, thread_eq_some_iff] at h
    exact congrArg some h.1.symm
  safe t _ i hi := by
    rcases List.mem_append.mp hi with hload | hstore
    · obtain ⟨k, -, rfl⟩ := List.mem_map.mp hload
      exact ⟨.inl rfl, .inl rfl⟩
    · rw [List.mem_singleton.mp hstore]
      exact thread_val t

/-- In a round of the reduction the lower half reads the upper, which nobody writes. -/
theorem safe_reduce (s : ℕ) (w : Fin g) :
    (Phase.mk (reduce s) (reduceOwner s)).SafeIn (layout g) w where
  home c t h := by
    rcases c with x | ⟨v, ⟨i⟩ | ⟨i⟩ | ⟨i⟩⟩
    all_goals simp only [reduceOwner, reduceCtorEq] at h
    split_ifs at h
    exact congrArg some (thread_eq_some_iff.mp h).1.symm
  safe t _ i hi := by
    simp only [reduce] at hi
    split_ifs at hi with hs
    · have hown : reduceOwner s (.shared t.1 (.groupSum t.2)) = some t := by
        rw [reduceOwner, if_pos hs, thread_val]
      have hupper : reduceOwner s (.shared t.1 (.groupSum (t.2 + s))) = none :=
        if_neg (Nat.not_lt.mpr (Nat.le_add_left ..))
      simp only [List.mem_cons, List.not_mem_nil, or_false] at hi
      rcases hi with rfl | rfl | rfl
      · exact ⟨.inr rfl, .inr hown⟩
      · exact ⟨.inr rfl, .inl hupper⟩
      · exact hown
    · exact absurd hi List.not_mem_nil

/-- The first thread of a group writes the sum of the group. -/
theorem safe_publish (w : Fin g) : (Phase.mk publish publishOwner).SafeIn (layout g) w where
  home c t h := by
    rcases c with (⟨e⟩ | ⟨v⟩ | ⟨e⟩ | _) | ⟨v, x⟩
    all_goals simp only [publishOwner, reduceCtorEq] at h
    split_ifs at h with hv
    rw [← Option.some.inj h, layout]
    exact dif_pos hv
  safe t _ i hi := by
    simp only [publish] at hi
    split_ifs at hi with hid
    · simp only [List.mem_cons, List.not_mem_nil, or_false] at hi
      rcases hi with rfl | rfl
      · exact ⟨.inr rfl, .inl rfl⟩
      · show publishOwner (.buffer (.globalSum t.1)) = some t
        rw [publishOwner, dif_pos t.1.isLt, ← hid]
    · exact absurd hi List.not_mem_nil

/-- **`sum1` is safe**, phase by phase. -/
theorem safe (g : ℕ) : ∀ ph ∈ program g, ∀ w, ph.SafeIn (layout g) w := by
  simp only [program, List.forall_mem_cons, List.forall_mem_append, List.forall_mem_map]
  exact ⟨safe_gather, fun s _ => safe_reduce s, safe_publish, fun _ h => nomatch h⟩

end Sum1
namespace Sum2

/-- Each thread of `sum2` writes the sum of its own block. -/
theorem safe_gather (blocks : ℕ) (w : Unit) :
    (Phase.mk (gather blocks) sharedOwner).SafeIn layout w where
  home _ _ _ := rfl
  safe t _ i hi := by
    rcases List.mem_append.mp hi with hload | hstore
    · obtain ⟨k, -, rfl⟩ := List.mem_map.mp hload
      exact ⟨.inr rfl, .inl rfl⟩
    · rw [List.mem_singleton.mp hstore]
      exact thread_val t

/-- Between two barriers the threads only read. -/
theorem safe_read (shift : ℕ) (w : Unit) :
    (Phase.mk (read shift) fun _ => none).SafeIn layout w where
  home _ _ _ := rfl
  safe t _ i hi := by
    simp only [read] at hi
    split_ifs at hi
    · simp only [List.mem_cons, List.not_mem_nil, or_false] at hi
      rcases hi with rfl | rfl
      all_goals exact ⟨.inr rfl, .inl rfl⟩
    · exact absurd hi List.not_mem_nil

/-- And between the next two each of them writes its own place. -/
theorem safe_write (shift : ℕ) (w : Unit) :
    (Phase.mk (write shift) sharedOwner).SafeIn layout w where
  home _ _ _ := rfl
  safe t _ i hi := by
    simp only [write] at hi
    split_ifs at hi
    · rw [List.mem_singleton.mp hi]
      exact thread_val t
    · exact absurd hi List.not_mem_nil

/-- Each thread writes back its own block. -/
theorem safe_scatter (blocks : ℕ) (w : Unit) :
    (Phase.mk (scatter blocks) (scatterOwner blocks)).SafeIn layout w where
  home _ _ _ := rfl
  safe t _ i hi := by
    rcases List.mem_append.mp hi with hload | hstore
    · split_ifs at hload
      · rw [List.mem_singleton.mp hload]
        exact ⟨.inr rfl, .inl rfl⟩
      · exact absurd hload List.not_mem_nil
    · obtain ⟨k, hk, rfl⟩ := List.mem_map.mp hstore
      have hk := List.mem_range.mp hk
      refine thread_eq_some_iff.mpr ⟨rfl, ?_⟩
      rw [Nat.mul_add_div (Nat.zero_lt_of_lt hk), Nat.div_eq_of_lt hk, Nat.add_zero]

/-- **`sum2` is safe.** -/
theorem safe (blocks : ℕ) : ∀ ph ∈ program blocks, ∀ w, ph.SafeIn layout w := by
  simp only [program, round, List.forall_mem_cons, List.forall_mem_append, List.forall_mem_flatMap]
  exact ⟨safe_gather blocks, fun s _ => ⟨safe_read s, safe_write s, fun _ h => nomatch h⟩,
    safe_scatter blocks, fun _ h => nomatch h⟩

end Sum2

namespace Sum3

variable {g : ℕ} (d : Dispatch)

/-- Each thread of `sum3` fills its own places of the shuffled counts. -/
theorem safe_fill (w : Fin d.g) : (Phase.mk fill fillOwner).SafeIn (layout d) w where
  home c t h := by
    rcases c with x | ⟨v, ⟨i⟩ | ⟨i⟩ | ⟨i⟩⟩
    all_goals simp only [fillOwner, reduceCtorEq, thread_eq_some_iff] at h
    exact congrArg some h.1.symm
  safe t _ i hi := by
    obtain ⟨k, hk, hi⟩ := List.mem_flatMap.mp hi
    have hk := List.mem_range.mp hk
    simp only [List.mem_cons, List.not_mem_nil, or_false] at hi
    rcases hi with rfl | rfl
    · exact ⟨.inl rfl, .inl rfl⟩
    · refine thread_eq_some_iff.mpr ⟨rfl, ?_⟩
      have hid := t.2.isLt
      simp only [shuffleOffset, stride, blockSize, localSize] at *
      omega

/-- Each thread adds up the counts that are its own after the shuffle. -/
theorem safe_accumulate (w : Fin d.g) :
    (Phase.mk accumulate accumulateOwner).SafeIn (layout d) w where
  home c t h := by
    rcases c with x | ⟨v, ⟨i⟩ | ⟨i⟩ | ⟨i⟩⟩
    all_goals simp only [accumulateOwner, reduceCtorEq, thread_eq_some_iff] at h
    all_goals exact congrArg some h.1.symm
  safe t _ i hi := by
    have hid := t.2.isLt
    simp only [accumulate, List.mem_append, List.mem_flatMap, List.mem_cons, List.not_mem_nil,
      or_false] at hi
    rcases hi with (⟨k, hk, hi⟩ | hi) | rfl | rfl
    · have hk := List.mem_range.mp hk
      have hown : accumulateOwner (.shared t.1 (.shuffle (t.2 * blockSize + t.2 + k))) =
        some t := by
        refine thread_eq_some_iff.mpr ⟨rfl, ?_⟩
        simp only [blockSize] at *
        omega
      rcases hi with rfl | rfl
      · exact ⟨.inr rfl, .inr hown⟩
      · exact hown
    · split_ifs at hi with hzero
      · simp only [List.mem_cons, List.not_mem_nil, or_false] at hi
        rcases hi with rfl | rfl
        all_goals exact thread_eq_some_iff.mpr ⟨rfl, congrArg Fin.val hzero⟩
      · exact absurd hi List.not_mem_nil
    · exact thread_val t
    · exact thread_val t

/-- Between two barriers the threads only read, in both sums and maxima. -/
theorem safe_read (shift : ℕ) (w : Fin d.g) :
    (Phase.mk (read shift) fun _ => none).SafeIn (layout d) w where
  home c t h := nomatch h
  safe t _ i hi := by
    simp only [read] at hi
    split_ifs at hi
    · simp only [List.mem_cons, List.not_mem_nil, or_false] at hi
      rcases hi with rfl | rfl | rfl | rfl
      all_goals exact ⟨.inr rfl, .inl rfl⟩
    · exact absurd hi List.not_mem_nil

/-- And between the next two each of them writes its own two places. -/
theorem safe_write (shift : ℕ) (w : Fin d.g) :
    (Phase.mk (write shift) writeOwner).SafeIn (layout d) w where
  home c t h := by
    rcases c with x | ⟨v, ⟨i⟩ | ⟨i⟩ | ⟨i⟩⟩
    all_goals simp only [writeOwner, reduceCtorEq, thread_eq_some_iff] at h
    all_goals exact congrArg some h.1.symm
  safe t _ i hi := by
    simp only [write] at hi
    split_ifs at hi
    · simp only [List.mem_cons, List.not_mem_nil, or_false] at hi
      rcases hi with rfl | rfl
      all_goals exact thread_val t
    · exact absurd hi List.not_mem_nil

/-- The thread of an element of the dispatch. -/
theorem elementThread_eq (t : Fin g × Lane) {k : ℕ} (hk : k < blockSize) :
    elementThread g (dataOffset t.1 t.2 + k * localSize) = some t := by
  have hid := t.2.isLt
  have hgroup : (dataOffset t.1 t.2 + k * localSize) / groupSize = t.1 := by
    simp only [dataOffset, groupSize, blockSize, localSize] at *
    omega
  rw [elementThread, dif_pos (hgroup.symm ▸ t.1.isLt), Option.some.injEq, Prod.ext_iff]
  refine ⟨Fin.ext hgroup, Fin.ext ?_⟩
  simp only [dataOffset, groupSize, blockSize, localSize] at *
  omega

/-- No element is the one after the final one. -/
theorem element_ne (t : Fin d.g × Lane) {k : ℕ} (hk : k < blockSize) :
    dataOffset t.1 t.2 + k * localSize ≠ d.final + 1 := by
  have hid := t.2.isLt
  have hw := t.1.isLt
  have hpos := d.pos
  simp only [dataOffset, Dispatch.final, groupSize, blockSize, localSize] at *
  omega

/-- The thread that concludes is the last one. -/
theorem eq_lastThread {d : Dispatch} {t : Fin d.g × Lane}
    (h : d.final - dataOffset t.1 t.2 < groupSize ∧
      (d.final - dataOffset t.1 t.2) % localSize = 0) : t = lastThread d := by
  have hid := t.2.isLt
  have hw := t.1.isLt
  have hpos := d.pos
  simp only [dataOffset, Dispatch.final, groupSize, blockSize, localSize] at *
  refine Prod.ext (Fin.ext ?_) (Fin.ext ?_)
  · simp only [lastThread, Dispatch.last]
    omega
  · simp only [lastThread]
    show _ = 255
    omega

/-- The last element is the last one of the last thread. -/
theorem final_eq (d : Dispatch) :
    d.final = dataOffset (lastThread d).1 (lastThread d).2 + 7 * localSize := by
  have hpos := d.pos
  simp only [dataOffset, Dispatch.final, groupSize, blockSize, localSize, lastThread, Dispatch.last]
  show _ = (d.g - 1) * (256 * 8) + 255 + 7 * 256
  omega

/-- What a thread writes at the end it may write: the buffers, of any group. -/
theorem home_finishOwner {c : Cell (Fin d.g)} {t : Fin d.g × Lane} (h : finishOwner d c = some t) :
    (layout d).home c = some t.1 := by
  rcases c with (⟨e⟩ | ⟨v⟩ | ⟨e⟩ | _) | ⟨v, x⟩
  all_goals simp only [finishOwner, reduceCtorEq] at h
  · simp only [layout]
    split_ifs at h ⊢ with he
    · rw [← Option.some.inj h]
      rfl
    · rw [h]
      rfl
  · rw [← Option.some.inj h]
    rfl

/-- Each thread writes the offsets of its own elements, and the last one two words more. -/
theorem safe_finish (w : Fin d.g) :
    (Phase.mk (finish d.final) (finishOwner d)).SafeIn (layout d) w where
  home _ _ := home_finishOwner d
  safe t _ i hi := by
    simp only [finish, reportMax, storeOffsets, conclude, List.mem_append, List.mem_cons,
      List.mem_flatMap] at hi
    rcases hi with (hi | rfl | ⟨k, hk, hi⟩) | hi
    · split_ifs at hi
      · simp only [List.mem_cons, List.not_mem_nil, or_false] at hi
        rcases hi with rfl | rfl
        · exact ⟨.inr rfl, .inl rfl⟩
        · exact trivial
      · exact absurd hi List.not_mem_nil
    · exact ⟨.inl rfl, .inl rfl⟩
    · have hk := List.mem_range.mp hk
      simp only [List.not_mem_nil, or_false] at hi
      rcases hi with rfl | rfl | rfl
      · exact ⟨.inr rfl, .inl rfl⟩
      · exact ⟨.inr rfl, .inl rfl⟩
      · exact (if_neg (element_ne d t hk)).trans (elementThread_eq t hk)
    · split_ifs at hi with hlast
      · have ht := eq_lastThread hlast
        simp only [List.mem_cons, List.not_mem_nil, or_false] at hi
        have hown : finishOwner d (.buffer (.offset d.final)) = some t := by
          rw [ht, final_eq]
          exact (if_neg (element_ne d _ (by decide))).trans (elementThread_eq _ (by decide))
        rcases hi with rfl | rfl | rfl | rfl
        · exact trivial
        · exact ⟨.inr (home_finishOwner d hown), .inr hown⟩
        · exact (if_pos rfl).trans (congrArg some ht.symm)
        · exact congrArg some ht.symm
      · exact absurd hi List.not_mem_nil

/-- **`sum3` is safe.** -/
theorem safe : ∀ ph ∈ program d, ∀ w, ph.SafeIn (layout d) w := by
  simp only [program, round, List.forall_mem_cons, List.forall_mem_append, List.forall_mem_flatMap]
  exact ⟨safe_fill d, safe_accumulate d,
    fun s _ => ⟨safe_read d s, safe_write d s, fun _ h => nomatch h⟩,
    safe_finish d, fun _ h => nomatch h⟩

end Sum3

end SumShaders

end OkularV3d
