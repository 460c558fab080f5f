import Mathlib.Algebra.Group.Nat.Defs
import OkularV3d.Lib.Runs

/-!
# Uploads to persistent buffers

The vertices and the indices of a global buffer go to the GPU through a device buffer and a staging
buffer, which `uploadToPersistentBuffer` keeps from frame to frame and replaces where they are too
small. It notes the size of each. An exception on the way reaches the `catch` block of `render()`,
whose `cleanup()` destroys both buffers and clears what is noted of them.

`PersistentUpload.bounded_along_iff` says in which runs every upload stays inside its source and
its buffers.

* `Persistent.grow` is the replacement of one buffer and `newSize` the loop that doubles its size;
  `uploadToPersistentBuffer` is the whole call, with every `Access` to memory it makes.
* `Slot.Honest` is the invariant: the sizes noted are not more than those of the live buffers.
* `Served` is the condition on an upload. Below 16 bytes it asks for more than the source has, since
  the code rounds the size up before it copies.
* `not_bounded_oneIndex` is an upload of one index.
-/

namespace OkularV3d

namespace DeviceMemory

/-- What `createBuffer` comes to: a buffer with its memory, no memory, or an exception. -/
inductive Creation where
  | success
  | outOfMemory
  | throws
  deriving DecidableEq

/-- `createBuffer`: the size of the buffer it leaves, if it leaves one; none where it throws. -/
def createBuffer (size : Nat) : Creation → Option (Option Nat)
  | .success => some (some size)
  | .outOfMemory => some none
  | .throws => none

/-- A buffer is there, with that many bytes. -/
def Room (buffer : Option Nat) (count : Nat) : Prop := ∃ size ∈ buffer, count ≤ size

end DeviceMemory

namespace PersistentUpload

open DeviceMemory Runs

/-! ### The code -/

/-- A persistent buffer: the size of the live one (none for `VK_NULL_HANDLE`) and the size noted,
the `dstSize` or `stgSize` of the source. -/
structure Persistent where
  live : Option Nat
  size : Nat

namespace Persistent

/-- Whether the buffer is replaced for that much data. -/
def Grows (b : Persistent) (dataSize : Nat) : Prop :=
  b.live = none ∨ b.size < dataSize

instance (b : Persistent) (dataSize : Nat) : Decidable (b.Grows dataSize) :=
  inferInstanceAs (Decidable (_ ∨ _))

/-- The buffer after the growth for that much data, none where `createBuffer` throws. Its other
result is not looked at. -/
def grow (b : Persistent) (dataSize newSize : Nat) (creation : Creation) : Option Persistent :=
  if b.Grows dataSize then
    (createBuffer newSize creation).map fun live => { live, size := newSize }
  else some b

end Persistent

/-- `while (newSize < dataSize) newSize *= 2;`, for some rounds. -/
def doubled (dataSize : Nat) : Nat → Nat → Option Nat
  | 0, _ => none
  | fuel + 1, newSize =>
    if newSize < dataSize then doubled dataSize fuel (newSize * 2 % 2 ^ 64) else some newSize

/-- From a power of two, the loop ends at one that is large enough. -/
theorem exists_doubled {dataSize : Nat} : ∀ {fuel k : Nat}, dataSize ≤ 2 ^ (k + fuel) →
    k + fuel ≤ 63 → ∃ newSize, doubled dataSize (fuel + 1) (2 ^ k) = some newSize ∧
      dataSize ≤ newSize := by
  intro fuel
  induction fuel with
  | zero =>
    intro k hsize _
    exact ⟨2 ^ k, if_neg (Nat.not_lt.mpr hsize), hsize⟩
  | succ fuel ih =>
    intro k hsize hk
    by_cases hlt : 2 ^ k < dataSize
    · have hpow : 2 ^ k * 2 % 2 ^ 64 = 2 ^ (k + 1) := by
        rw [← Nat.pow_succ]
        exact Nat.mod_eq_of_lt (Nat.pow_lt_pow_right (by omega) (by omega))
      obtain ⟨newSize, hnew, hle⟩ := ih (k := k + 1) (by rwa [Nat.add_right_comm]) (by omega)
      refine ⟨newSize, ?_, hle⟩
      rw [doubled, if_pos hlt, hpow, hnew]
    · exact ⟨2 ^ k, if_neg hlt, Nat.not_lt.mp hlt⟩

theorem exists_doubled_sixteen {dataSize : Nat} (h : dataSize ≤ 2 ^ 63) :
    ∃ newSize, doubled dataSize 60 16 = some newSize ∧ dataSize ≤ newSize :=
  @exists_doubled dataSize 59 4 h (by omega)

/-- The size of a new staging buffer. -/
def newSize (dataSize : Nat) (h : dataSize ≤ 2 ^ 63) : Nat :=
  (doubled dataSize 60 16).get (by
    obtain ⟨size, hsize, -⟩ := exists_doubled_sixteen h
    exact Option.isSome_of_eq_some hsize)

theorem le_newSize {dataSize : Nat} (h : dataSize ≤ 2 ^ 63) : dataSize ≤ newSize dataSize h := by
  obtain ⟨size, hsize, hle⟩ := exists_doubled_sixteen h
  simpa only [newSize, hsize, Option.get_some] using hle

/-- The two buffers of an upload. -/
structure Slot where
  dst : Persistent
  stg : Persistent

/-- No buffers, as at the beginning and after `cleanup()`. -/
def Slot.init : Slot := ⟨⟨none, 0⟩, ⟨none, 0⟩⟩

/-- The arguments of a call, with what the creation of either buffer comes to if it is asked for,
and whether the staging memory can be mapped. The data is an array, hence smaller than half of the
address space. -/
structure Upload where
  dataSize : Nat
  isNull : Bool
  dst : Creation
  stg : Creation
  mapped : Bool
  dataSize_lt : dataSize < 2 ^ 63

/-- What a call does with memory.

* `memcpy count mapped`: bytes copied from the data to the staging buffer, and how many bytes are
  mapped, if any.
* `copyBuffer size source destination`: the copy recorded, and the sizes of the live buffers. -/
inductive Access where
  | memcpy (count : Nat) (mapped : Option Nat)
  | copyBuffer (size : Nat) (source destination : Option Nat)

namespace Upload

/-- `std::max<VkDeviceSize>(16, dataSize)`. -/
def rounded (u : Upload) : Nat := max 16 u.dataSize

theorem rounded_le (u : Upload) : u.rounded ≤ 2 ^ 63 :=
  Nat.max_le.mpr ⟨by omega, Nat.le_of_lt u.dataSize_lt⟩

end Upload

/-- `uploadToPersistentBuffer`: the buffers it leaves and what it does with memory; none where it
throws. -/
def uploadToPersistentBuffer (s : Slot) (u : Upload) : Option (Slot × List Access) := do
  let dst ← s.dst.grow u.rounded u.rounded u.dst
  if u.isNull then
    return ({ s with dst }, [])
  let stg ← s.stg.grow u.rounded (newSize u.rounded u.rounded_le) u.stg
  return (⟨dst, stg⟩,
    [.memcpy u.rounded (if u.mapped then stg.live else none),
      .copyBuffer u.rounded stg.live dst.live])

/-- What happens to the two buffers: an upload, or a `cleanup()`. -/
inductive Action where
  | upload (u : Upload)
  | cleanup

/-- One action. An upload that throws ends in the `cleanup()` of the `catch` block. -/
def perform (s : Slot) : Action → Slot × List Access
  | .upload u => (uploadToPersistentBuffer s u).getD (.init, [])
  | .cleanup => (.init, [])

/-- The buffers after an action. -/
def step (s : Slot) (a : Action) : Slot := (perform s a).1

/-! ### Staying in bounds -/

/-- Data of that size is not read past its end, what is written to is mapped and large enough, and
the buffers of a copy are live and large enough. -/
def Access.Inside (dataSize : Nat) : Access → Prop
  | memcpy count mapped => count ≤ dataSize ∧ Room mapped count
  | copyBuffer size source destination => Room source size ∧ Room destination size

/-- The size noted is not more than that of the live buffer. -/
def Persistent.Honest (b : Persistent) : Prop := ∀ size ∈ b.live, b.size ≤ size

/-- The data of an action. -/
def Action.dataSize : Action → Nat
  | upload u => u.dataSize
  | cleanup => 0

/-- **Bounded**: all that an action does with memory stays inside, and the sizes noted after it are
not more than those of the live buffers. -/
structure Bounded (s : Slot) (a : Action) : Prop where
  accesses : ∀ access ∈ (perform s a).2, access.Inside a.dataSize
  dst : (step s a).dst.Honest
  stg : (step s a).stg.Honest

/-- Whether the creation of a buffer that is asked for throws. -/
def Upload.Throws (u : Upload) (s : Slot) : Prop :=
  s.dst.Grows u.rounded ∧ u.dst = .throws ∨
    u.isNull = false ∧ s.stg.Grows u.rounded ∧ u.stg = .throws

/-- An upload throws before it touches memory, or has no data, or has at least 16 bytes of it,
every buffer asked for and a staging buffer that can be mapped. -/
def Served (s : Slot) : Action → Prop
  | .upload u => u.Throws s ∨ u.isNull = true ∨
      16 ≤ u.dataSize ∧ (s.dst.Grows u.rounded → u.dst = .success) ∧
        (s.stg.Grows u.rounded → u.stg = .success) ∧ u.mapped = true
  | .cleanup => True

/-! ### One buffer -/

namespace Persistent

variable {b b' : Persistent} {dataSize newSize : Nat} {creation : Creation}

theorem grow_eq_none_iff :
    b.grow dataSize newSize creation = none ↔ b.Grows dataSize ∧ creation = .throws := by
  rw [grow]
  split_ifs with hgrows
  · cases creation <;> simp [createBuffer, hgrows]
  · simp [hgrows]

/-- What growth leaves: the buffer as it was, a new one, or none at all. -/
theorem grow_cases (h : b.grow dataSize newSize creation = some b') :
    (¬ b.Grows dataSize ∧ b' = b) ∨
      (b.Grows dataSize ∧ creation = .success ∧ b' = ⟨some newSize, newSize⟩) ∨
        (b.Grows dataSize ∧ creation = .outOfMemory ∧ b' = ⟨none, newSize⟩) := by
  rw [grow] at h
  split_ifs at h with hgrows
  · cases creation with
    | success => exact .inr (.inl ⟨hgrows, rfl, (Option.some.inj h).symm⟩)
    | outOfMemory => exact .inr (.inr ⟨hgrows, rfl, (Option.some.inj h).symm⟩)
    | throws => cases h
  · exact .inl ⟨hgrows, (Option.some.inj h).symm⟩

theorem Honest.grow (hb : b.Honest) (h : b.grow dataSize newSize creation = some b') :
    b'.Honest := by
  obtain ⟨-, rfl⟩ | ⟨-, -, rfl⟩ | ⟨-, -, rfl⟩ := grow_cases h
  · exact hb
  · intro size hsize
    exact Nat.le_of_eq (Option.some.inj hsize)
  · intro size hsize
    cases hsize

/-- There is room after the growth exactly where the buffer asked for was created. -/
theorem room_grow_iff (hb : b.Honest) (hle : dataSize ≤ newSize)
    (h : b.grow dataSize newSize creation = some b') :
    Room b'.live dataSize ↔ (b.Grows dataSize → creation = .success) := by
  obtain ⟨hgrows, rfl⟩ | ⟨-, hcreation, rfl⟩ | ⟨hgrows, hcreation, rfl⟩ := grow_cases h
  · -- nothing is asked for: the live buffer is at least as large as the size noted
    refine iff_of_true ?_ fun hgrows' => absurd hgrows' hgrows
    rw [Grows, not_or, Nat.not_lt] at hgrows
    obtain ⟨size, hsize⟩ := Option.ne_none_iff_exists'.mp hgrows.1
    exact ⟨size, hsize, Nat.le_trans hgrows.2 (hb size hsize)⟩
  · exact iff_of_true ⟨newSize, rfl, hle⟩ fun _ => hcreation
  · refine iff_of_false (fun ⟨_, hsize, _⟩ => nomatch hsize) fun hsuccess => ?_
    rw [hcreation] at hsuccess
    exact nomatch hsuccess hgrows

end Persistent

/-! ### One action -/

/-- The sizes noted are not more than those of the live buffers. -/
structure Slot.Honest (s : Slot) : Prop where
  dst : s.dst.Honest
  stg : s.stg.Honest

theorem honest_init : Slot.init.Honest :=
  ⟨fun _ hsize => (nomatch hsize), fun _ hsize => (nomatch hsize)⟩

/-- What an upload that returns does. -/
theorem upload_cases {s s' : Slot} {u : Upload} {accesses : List Access}
    (h : uploadToPersistentBuffer s u = some (s', accesses)) :
    s.dst.grow u.rounded u.rounded u.dst = some s'.dst ∧
      ((u.isNull = true ∧ s'.stg = s.stg ∧ accesses = []) ∨
        (u.isNull = false ∧
          s.stg.grow u.rounded (newSize u.rounded u.rounded_le) u.stg = some s'.stg ∧
            accesses = [.memcpy u.rounded (if u.mapped then s'.stg.live else none),
              .copyBuffer u.rounded s'.stg.live s'.dst.live])) := by
  rw [uploadToPersistentBuffer] at h
  obtain ⟨dst, hdst, h⟩ := Option.bind_eq_some_iff.mp h
  cases hnull : u.isNull with
  | true =>
    rw [hnull, if_pos rfl] at h
    cases h
    exact ⟨hdst, .inl ⟨rfl, rfl, rfl⟩⟩
  | false =>
    rw [hnull, if_neg Bool.false_ne_true] at h
    obtain ⟨stg, hstg, h⟩ := Option.bind_eq_some_iff.mp h
    cases h
    exact ⟨hdst, .inr ⟨rfl, hstg, rfl⟩⟩

/-- An upload throws where the creation of a buffer asked for does. -/
theorem upload_eq_none_iff {s : Slot} {u : Upload} :
    uploadToPersistentBuffer s u = none ↔ u.Throws s := by
  have hdst := @Persistent.grow_eq_none_iff s.dst u.rounded u.rounded u.dst
  have hstg :=
    @Persistent.grow_eq_none_iff s.stg u.rounded (newSize u.rounded u.rounded_le) u.stg
  rw [Upload.Throws, ← hdst, ← hstg]
  cases hgrowDst : s.dst.grow u.rounded u.rounded u.dst with
  | none => simp [uploadToPersistentBuffer, hgrowDst]
  | some dst =>
    cases hnull : u.isNull with
    | true => simp [uploadToPersistentBuffer, hgrowDst, hnull]
    | false =>
      cases hgrowStg : s.stg.grow u.rounded (newSize u.rounded u.rounded_le) u.stg with
      | none => simp [uploadToPersistentBuffer, hgrowDst, hgrowStg, hnull]
      | some stg => simp [uploadToPersistentBuffer, hgrowDst, hgrowStg, hnull]

/-- The sizes noted stay below those of the live buffers, whatever fails. -/
theorem Slot.Honest.step {s : Slot} (hs : s.Honest) (a : Action) :
    (PersistentUpload.step s a).Honest := by
  cases a with
  | cleanup => exact honest_init
  | upload u =>
    cases hupload : uploadToPersistentBuffer s u with
    | none =>
      rw [PersistentUpload.step, perform, hupload]
      exact honest_init
    | some out =>
      obtain ⟨hdst, ⟨-, hstg, -⟩ | ⟨-, hstg, -⟩⟩ := upload_cases hupload
      · rw [PersistentUpload.step, perform, hupload]
        exact ⟨hs.dst.grow hdst, hstg ▸ hs.stg⟩
      · rw [PersistentUpload.step, perform, hupload]
        exact ⟨hs.dst.grow hdst, hs.stg.grow hstg⟩

/-- **Step lemma**: where the sizes noted are right, an action is bounded exactly when it is
served. -/
theorem bounded_iff {s : Slot} (hs : s.Honest) (a : Action) : Bounded s a ↔ Served s a := by
  have hnext := hs.step a
  have hbounded : Bounded s a ↔ ∀ access ∈ (perform s a).2, access.Inside a.dataSize :=
    ⟨Bounded.accesses, fun h => ⟨h, hnext.dst, hnext.stg⟩⟩
  rw [hbounded]
  cases a with
  | cleanup => exact iff_of_true (fun _ h => nomatch h) trivial
  | upload u =>
    cases hupload : uploadToPersistentBuffer s u with
    | none =>
      have hnone : (perform s (.upload u)).2 = [] := by rw [perform, hupload]; rfl
      rw [hnone]
      exact iff_of_true (fun _ h => nomatch h) (.inl (upload_eq_none_iff.mp hupload))
    | some out =>
      have hthrows : ¬ u.Throws s := fun h => by
        rw [upload_eq_none_iff.mpr h] at hupload
        cases hupload
      have hsome : (perform s (.upload u)).2 = out.2 := by rw [perform, hupload]; rfl
      rw [hsome]
      obtain ⟨hdst, ⟨hnull, -, haccesses⟩ | ⟨hnull, hstg, haccesses⟩⟩ := upload_cases hupload
      · rw [haccesses]
        exact iff_of_true (fun _ h => nomatch h) (.inr (.inl hnull))
      · have hroomDst := Persistent.room_grow_iff hs.dst (Nat.le_refl _) hdst
        have hroomStg := Persistent.room_grow_iff hs.stg (le_newSize u.rounded_le) hstg
        -- the write needs the data, the mapping and its room, the copy room in both buffers
        have hmapped : Room (if u.mapped then out.1.stg.live else none) u.rounded ↔
            u.mapped = true ∧ Room out.1.stg.live u.rounded := by
          cases u.mapped with
          | true => simp
          | false => simp [Room]
        have hsource : u.rounded ≤ u.dataSize ↔ 16 ≤ u.dataSize := by
          simp only [Upload.rounded]
          omega
        simp only [haccesses, List.forall_mem_cons, List.not_mem_nil, false_imp_iff,
          implies_true, and_true, Access.Inside, Action.dataSize, Served, hthrows, hnull,
          Bool.false_eq_true, false_or, hmapped, hroomDst, hroomStg, hsource]
        constructor
        · rintro ⟨⟨hsize, hmap, hstg⟩, -, hdst⟩
          exact ⟨hsize, hdst, hstg, hmap⟩
        · rintro ⟨hsize, hdst, hstg, hmap⟩
          exact ⟨⟨hsize, hmap, hstg⟩, hstg, hdst⟩

/-- **Which runs stay in bounds**: those whose actions are all served. -/
theorem bounded_along_iff (actions : List Action) :
    Along step Bounded .init actions ↔ Along step Served .init actions := by
  have hiff : ∀ s a, Slot.Honest s → (Bounded s a ↔ Served s a) := fun _ a hs => bounded_iff hs a
  have hstep : ∀ s a, Slot.Honest s → Served s a → (step s a).Honest := fun _ a hs _ => hs.step a
  exact along_iff_of_invariant hiff hstep honest_init actions

/-- The index of a single point: sixteen bytes are read of its four. -/
theorem not_bounded_oneIndex :
    ¬ Along step Bounded .init [.upload ⟨4, false, .success, .success, true, by decide⟩] := by
  rintro ⟨hbounded, -⟩
  have hread := (hbounded.accesses _ (List.mem_cons_self ..)).1
  exact absurd hread (by decide)

end PersistentUpload

end OkularV3d
