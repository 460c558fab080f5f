import Mathlib.Logic.Function.Basic
import OkularV3d.Render.PersistentUpload

/-!
# The buffers of transparent frames

A full recreation creates the buffers of transparency with the size of the frame, and those of the
fragments with the number that `maxFragments` has reached. Every transparent frame then reads how
many fragments it has; where they are more, both fragment buffers are replaced by larger ones. A
frame that runs out of memory, or whose Vulkan calls throw, destroys all of them and returns no
image; `maxFragments` stays what it is.

`FragmentBuffers.grown_along_iff` says in which runs the buffers hold the fragments they are meant
for.

* `createTransparencyBuffers` and `readFeedback` are the two functions that create buffers, and
  `render` the frame around them. The outcome of every creation is an input.
* `Sized` is the invariant of the renderer (`Sized.step`), `Grown` the property of a frame.
* `GrowthFits` is the condition: where the buffers are to grow, eleven times the fragments are in
  the range of 32 bits, since the code multiplies by 11 before it divides by 10.
* `not_grown_fourHundredMillion` is a frame beyond that.
-/

namespace OkularV3d

namespace FragmentBuffers

open DeviceMemory Runs

/-! ### Sizes -/

/-- The buffers of `createTransparencyBuffers`, in the order of their creation. -/
inductive BufferName where
  | count | globalSum | offset | opaqueColor | opaqueDepth | fragment | depthFrag | feedback
  deriving DecidableEq

/-- The order of creation. -/
def creationOrder : List BufferName :=
  [.count, .globalSum, .offset, .opaqueColor, .opaqueDepth, .fragment, .depthFrag, .feedback]

/-- `localSize`. -/
def localSize : UInt32 := 256

/-- `blockSize`. -/
def blockSize : UInt32 := 8

/-- `groupSize`, as `render()` sets it. -/
def groupSize : UInt32 := localSize * blockSize

/-- `pixels`. -/
def pixelCount (size : Nat × Nat) : UInt32 := .ofNat (size.1 + 1) * .ofNat (size.2 + 1)

/-- `G`: the groups that cover the pixels. -/
def groupCount (pixels : UInt32) : UInt32 := (pixels + groupSize - 1) / groupSize

/-- `Pixels`: the pixels, rounded up to whole groups. -/
def paddedPixels (pixels : UInt32) : UInt32 := groupSize * groupCount pixels

/-- `globalSize`. -/
def globalSize (pixels : UInt32) : UInt32 :=
  localSize * ((groupCount pixels + localSize - 1) / localSize) * 4

/-- `fragmentBufferSize` of `createTransparencyBuffers`. -/
def fragmentBufferSize (maxFragments pixels : UInt32) : Nat :=
  if 0 < maxFragments then maxFragments.toNat * 16 else pixels.toNat * 16

/-- `maxFragments` after `createTransparencyBuffers`. -/
def fragmentCapacity (maxFragments pixels : UInt32) : UInt32 :=
  if 0 < maxFragments then maxFragments else pixels

/-- `fragments * 11 / 10`. -/
def grownCapacity (fragments : UInt32) : UInt32 := fragments * 11 / 10

/-- The sizes asked for, by the size of the fragment buffers. -/
def bufferSize (pixels : UInt32) (fragmentBytes : Nat) : BufferName → Nat
  | .count => (paddedPixels pixels + 1).toNat * 4
  | .globalSum => (globalSize pixels).toNat
  | .offset => (paddedPixels pixels + 2).toNat * 4
  | .opaqueColor | .opaqueDepth => pixels.toNat * 16
  | .fragment | .depthFrag => fragmentBytes
  | .feedback => 8

/-! ### The code -/

/-- The sizes of the live buffers. -/
abbrev Live := BufferName → Option Nat

/-- How a row of creations ended, the live buffers it leaves, and the buffers it asked for. -/
structure Attempt where
  ending : Creation
  live : Live
  asked : List BufferName

/-- Buffers are created one after the other, until one is not. -/
def createInOrder (size : BufferName → Nat) (creation : BufferName → Creation) :
    List BufferName → Live → Attempt
  | [], live => ⟨.success, live, []⟩
  | b :: bs, live =>
    match createBuffer (size b) (creation b) with
    | some (some n) =>
      let rest := createInOrder size creation bs (Function.update live b (some n))
      { rest with asked := b :: rest.asked }
    | some none => ⟨.outOfMemory, Function.update live b none, [b]⟩
    | none => ⟨.throws, live, [b]⟩

/-- The members of the renderer that decide about the buffers. -/
structure State where
  initialized : Bool
  currentTargetSize : Nat × Nat
  maxFragments : UInt32
  live : Live

/-- A renderer that has drawn nothing yet. -/
def State.init : State := ⟨false, (0, 0), 0, fun _ => none⟩

/-- `cleanup()`, and what `render()` clears with it when it gives up. -/
def State.giveUp (s : State) : State :=
  { s with initialized := false, currentTargetSize := (0, 0), live := fun _ => none }

/-- A function that creates buffers: how it ended, the renderer it leaves, and the buffers it asked
for with their sizes. -/
structure Report where
  ending : Creation
  state : State
  asked : List (BufferName × Nat)

/-- `createTransparencyBuffers`. Out of memory, it destroys what it has created. -/
def createTransparencyBuffers (s : State) (size : Nat × Nat) (creation : BufferName → Creation) :
    Report :=
  let bytes := bufferSize (pixelCount size) (fragmentBufferSize s.maxFragments (pixelCount size))
  let attempt := createInOrder bytes creation creationOrder s.live
  { ending := attempt.ending
    state :=
      { s with
        -- `maxFragments` is set just before the fragment buffer is asked for
        maxFragments :=
          if .fragment ∈ attempt.asked then fragmentCapacity s.maxFragments (pixelCount size)
          else s.maxFragments
        live := if attempt.ending = .outOfMemory then fun _ => none else attempt.live }
    asked := attempt.asked.map fun b => (b, bytes b) }

/-- The buffers that `readFeedback` replaces. -/
def fragmentBuffers : List BufferName := [.fragment, .depthFrag]

/-- `readFeedback`, with the number of fragments it reads. It returns `true` where it ends with
success, and `false` where it is out of memory. -/
def readFeedback (s : State) (fragments : UInt32) (creation : BufferName → Creation) : Report :=
  if s.maxFragments < fragments then
    let newFragmentBufferSize := (grownCapacity fragments).toNat * 16
    let attempt := createInOrder (fun _ => newFragmentBufferSize) creation fragmentBuffers
      fun b => if b ∈ fragmentBuffers then none else s.live b
    { ending := attempt.ending
      state := { s with maxFragments := grownCapacity fragments, live := attempt.live }
      asked := attempt.asked.map fun b => (b, newFragmentBufferSize) }
  else ⟨.success, s, []⟩

/-- Where a frame can fail for another reason. -/
inductive Stage where
  | beforeBuffers | beforeFeedback | afterFeedback
  deriving DecidableEq

/-- A `render()` call: the clamped size, whether the scene is opaque, the number of fragments the
device reports, what the creation of a buffer comes to in `createTransparencyBuffers` and in
`readFeedback`, and where some other Vulkan call fails, if one does. -/
structure Frame where
  size : Nat × Nat
  isOpaque : Bool
  fragments : UInt32
  created : BufferName → Creation
  grown : BufferName → Creation
  fault : Option Stage

/-- How a frame ends: with an image, or without one for lack of memory for these buffers, or for
another reason. -/
inductive Outcome where
  | image | outOfMemory | failed
  deriving DecidableEq

/-- What a frame does: the buffers asked for with their sizes, how `readFeedback` ended if it was
called, with the renderer it left, and how the frame ended. -/
structure Trace where
  asked : List (BufferName × Nat)
  feedback : Option Report
  outcome : Outcome

/-- Whether the frame creates everything anew. -/
def State.Recreates (s : State) (frame : Frame) : Prop :=
  s.initialized = false ∨ s.currentTargetSize ≠ frame.size

instance (s : State) (frame : Frame) : Decidable (s.Recreates frame) :=
  inferInstanceAs (Decidable (_ ∨ _))

/-- The recreation before a frame, where there is one. -/
def prepare (s : State) (frame : Frame) : Report :=
  if s.Recreates frame then createTransparencyBuffers s.giveUp frame.size frame.created
  else ⟨.success, s, []⟩

/-- What a report of failure makes of the frame. -/
def Report.outcome (r : Report) : Outcome :=
  if r.ending = .outOfMemory then .outOfMemory else .failed

/-- The renderer that goes on after the recreation. -/
def ready (s : State) (frame : Frame) : State :=
  { (prepare s frame).state with initialized := true, currentTargetSize := frame.size }

/-- The rest of a frame, after `readFeedback`. -/
def finish (s : State) (frame : Frame) (asked : List (BufferName × Nat))
    (feedback : Option Report) : State × Trace :=
  if frame.fault = some .afterFeedback then (s.giveUp, ⟨asked, feedback, .failed⟩)
  else (s, ⟨asked, feedback, .image⟩)

/-- `render()`. -/
def render (s : State) (frame : Frame) : State × Trace :=
  if frame.fault = some .beforeBuffers then (s.giveUp, ⟨[], none, .failed⟩)
  else
    let made := prepare s frame
    if made.ending ≠ .success then (made.state.giveUp, ⟨made.asked, none, made.outcome⟩)
    else if frame.fault = some .beforeFeedback then
      ((ready s frame).giveUp, ⟨made.asked, none, .failed⟩)
    else if frame.isOpaque then finish (ready s frame) frame made.asked none
    else
      let read := readFeedback (ready s frame) frame.fragments frame.grown
      if read.ending ≠ .success then
        (read.state.giveUp, ⟨made.asked ++ read.asked, some read, read.outcome⟩)
      else finish read.state frame (made.asked ++ read.asked) (some read)

/-- The renderer after a frame. -/
def step (s : State) (frame : Frame) : State := (render s frame).1

/-! ### Creating buffers -/

section CreateInOrder

variable {size : BufferName → Nat} {creation : BufferName → Creation} {b : BufferName}

/-- A buffer that was created is live, and the next one follows. -/
@[simp] theorem createInOrder_cons_success {bs : List BufferName} {live : Live}
    (h : creation b = .success) : createInOrder size creation (b :: bs) live =
      { createInOrder size creation bs (Function.update live b (some (size b))) with
        asked := b :: (createInOrder size creation bs
          (Function.update live b (some (size b)))).asked } := by
  rw [createInOrder, h]
  rfl

/-- One that ran out of memory ends the list, and is not live. -/
@[simp] theorem createInOrder_cons_outOfMemory {bs : List BufferName} {live : Live}
    (h : creation b = .outOfMemory) : createInOrder size creation (b :: bs) live =
      ⟨.outOfMemory, Function.update live b none, [b]⟩ := by
  rw [createInOrder, h]
  rfl

/-- One that throws ends it with the old buffer still noted. -/
@[simp] theorem createInOrder_cons_throws {bs : List BufferName} {live : Live}
    (h : creation b = .throws) : createInOrder size creation (b :: bs) live =
      ⟨.throws, live, [b]⟩ := by
  rw [createInOrder, h]
  rfl

/-- A row of creations succeeds where each does. -/
theorem ending_createInOrder_iff {bs : List BufferName} : ∀ {live : Live},
    (createInOrder size creation bs live).ending = .success ↔ ∀ a ∈ bs, creation a = .success := by
  induction bs with
  | nil => exact iff_of_true rfl fun _ h => nomatch h
  | cons b bs ih =>
    intro live
    cases h : creation b with
    | success => simp [h, ih]
    | outOfMemory => simp [h]
    | throws => simp [h]

/-- A row that succeeds asks for all its buffers, and all of them are live after it. -/
theorem createInOrder_of_success {bs : List BufferName} : ∀ {live : Live},
    (∀ a ∈ bs, creation a = .success) →
      (createInOrder size creation bs live).asked = bs ∧
        ∀ a, (createInOrder size creation bs live).live a =
          if a ∈ bs then some (size a) else live a := by
  induction bs with
  | nil => exact fun _ => ⟨rfl, fun _ => rfl⟩
  | cons b bs ih =>
    intro live h
    rw [List.forall_mem_cons] at h
    obtain ⟨hasked, hlive⟩ := @ih (Function.update live b (some (size b))) h.2
    rw [createInOrder_cons_success h.1]
    refine ⟨congrArg _ hasked, fun a => ?_⟩
    rw [hlive a, Function.update_apply]
    by_cases hab : a = b
    · simp [hab]
    · simp [hab]

/-- What is live after a row was live before, or has the size asked for. -/
theorem live_createInOrder {bs : List BufferName} {a : BufferName} {n : Nat} :
    ∀ {live : Live}, n ∈ (createInOrder size creation bs live).live a →
      n ∈ live a ∨ n = size a := by
  induction bs with
  | nil => exact fun h => .inl h
  | cons b bs ih =>
    intro live h
    have hupdate : ∀ value : Option Nat, (∀ m ∈ value, m = size b) →
        n ∈ Function.update live b value a → n ∈ live a ∨ n = size a := by
      intro value hvalue hn
      rw [Function.update_apply] at hn
      split_ifs at hn with hab
      · subst hab
        exact .inr (hvalue n hn)
      · exact .inl hn
    cases hcreation : creation b with
    | success =>
      rw [createInOrder_cons_success hcreation] at h
      obtain hn | hn := ih h
      · exact hupdate _ (fun m hm => (Option.some.inj hm).symm) hn
      · exact .inr hn
    | outOfMemory =>
      rw [createInOrder_cons_outOfMemory hcreation] at h
      exact hupdate none (fun m hm => nomatch hm) h
    | throws =>
      rw [createInOrder_cons_throws hcreation] at h
      exact .inl h

/-- Only buffers of the row are asked for. -/
theorem asked_subset {bs : List BufferName} : ∀ {live : Live},
    b ∈ (createInOrder size creation bs live).asked → b ∈ bs := by
  induction bs with
  | nil => exact fun h => nomatch h
  | cons a bs ih =>
    intro live h
    cases hcreation : creation a with
    | success =>
      rw [createInOrder_cons_success hcreation] at h
      obtain rfl | hrest := List.mem_cons.mp h
      · exact List.mem_cons_self ..
      · exact List.mem_cons_of_mem _ (ih hrest)
    | outOfMemory =>
      rw [createInOrder_cons_outOfMemory hcreation, List.mem_singleton] at h
      exact h ▸ List.mem_cons_self ..
    | throws =>
      rw [createInOrder_cons_throws hcreation, List.mem_singleton] at h
      exact h ▸ List.mem_cons_self ..

/-- A buffer is asked for where all before it are created. -/
theorem mem_asked_iff {before after : List BufferName} (hb : b ∉ before) : ∀ {live : Live},
    b ∈ (createInOrder size creation (before ++ b :: after) live).asked ↔
      ∀ a ∈ before, creation a = .success := by
  induction before with
  | nil =>
    intro live
    refine iff_of_true ?_ fun _ h => nomatch h
    cases h : creation b with
    | success => simp [h]
    | outOfMemory => simp [h]
    | throws => simp [h]
  | cons a before ih =>
    intro live
    rw [List.mem_cons, not_or] at hb
    rw [List.cons_append]
    cases h : creation a with
    | success => simp [h, hb.1, ih hb.2]
    | outOfMemory => simp [h, hb.1]
    | throws => simp [h, hb.1]

end CreateInOrder

/-! ### Capacities -/

/-- The two ways of writing the size of the fragment buffers agree. -/
theorem fragmentBufferSize_eq (maxFragments pixels : UInt32) :
    fragmentBufferSize maxFragments pixels = (fragmentCapacity maxFragments pixels).toNat * 16 := by
  rw [fragmentBufferSize, fragmentCapacity]
  split_ifs <;> rfl

/-- The capacity is raised by a tenth, in 32 bits. -/
theorem toNat_grownCapacity (fragments : UInt32) :
    (grownCapacity fragments).toNat = fragments.toNat * 11 % 2 ^ 32 / 10 := by
  rw [grownCapacity, UInt32.toNat_div, UInt32.toNat_mul]
  rfl

/-- The capacity grows past the count exactly where the product does not wrap. -/
theorem le_grownCapacity_iff {fragments : UInt32} :
    fragments ≤ grownCapacity fragments ↔ fragments.toNat * 11 < 2 ^ 32 := by
  have hlt := fragments.toNat_lt
  rw [UInt32.le_iff_toNat_le, toNat_grownCapacity]
  constructor
  · intro hle
    by_contra hwraps
    -- what is left after the wrap is less than ten times the count
    have hquotient : 1 ≤ fragments.toNat * 11 / 2 ^ 32 :=
      (Nat.one_le_div_iff (by omega)).mpr (Nat.not_lt.mp hwraps)
    have hdivision := Nat.div_add_mod (fragments.toNat * 11) (2 ^ 32)
    omega
  · intro hfits
    rw [Nat.mod_eq_of_lt hfits]
    omega

/-! ### What a renderer holds -/

/-- **Sized**: a renderer that is set up has all its buffers, those of the fragments with room for
`maxFragments`; one that is not has none. -/
structure Sized (s : State) : Prop where
  live : s.initialized = true → ∀ b, s.live b =
    some (bufferSize (pixelCount s.currentTargetSize) (s.maxFragments.toNat * 16) b)
  none : s.initialized = false → ∀ b, s.live b = none

/-- The capacity noted is that of the live fragment buffers. -/
def CapacityNoted (s : State) : Prop :=
  ∀ b ∈ fragmentBuffers, ∀ n ∈ s.live b, n = s.maxFragments.toNat * 16

/-- The fragment buffers have the size that was asked for. -/
theorem bufferSize_of_mem {b : BufferName} (hb : b ∈ fragmentBuffers) (pixels : UInt32)
    (bytes : Nat) : bufferSize pixels bytes b = bytes := by
  rw [fragmentBuffers, List.mem_cons, List.mem_singleton] at hb
  obtain rfl | rfl := hb <;> rfl

/-- The other buffers do not depend on the capacity. -/
theorem bufferSize_of_notMem {b : BufferName} (hb : b ∉ fragmentBuffers) (pixels : UInt32)
    (m n : Nat) : bufferSize pixels m b = bufferSize pixels n b := by
  cases b with
  | fragment => exact absurd (List.mem_cons_self ..) hb
  | depthFrag => exact absurd (List.mem_cons_of_mem _ (List.mem_cons_self ..)) hb
  | _ => rfl

/-- In a sound state the capacity is noted. -/
theorem Sized.capacityNoted {s : State} (hs : Sized s) : CapacityNoted s := by
  intro b hb n hn
  cases hinit : s.initialized with
  | true =>
    rw [hs.live hinit b, bufferSize_of_mem hb] at hn
    exact (Option.some.inj hn).symm
  | false =>
    rw [hs.none hinit b] at hn
    cases hn

/-- To give up releases all buffers. -/
theorem sized_giveUp (s : State) : Sized s.giveUp :=
  ⟨fun h => (nomatch h), fun _ _ => rfl⟩

theorem sized_init : Sized .init := ⟨fun h => (nomatch h), fun _ _ => rfl⟩

/-! ### The parts of a frame -/

/-- What `createTransparencyBuffers` leaves where it succeeds. -/
theorem createTransparencyBuffers_of_success {s : State} {size : Nat × Nat}
    {creation : BufferName → Creation}
    (h : (createTransparencyBuffers s size creation).ending = .success) :
    (createTransparencyBuffers s size creation).state.maxFragments =
        fragmentCapacity s.maxFragments (pixelCount size) ∧
      ∀ b, (createTransparencyBuffers s size creation).state.live b =
        some (bufferSize (pixelCount size)
          ((fragmentCapacity s.maxFragments (pixelCount size)).toNat * 16) b) := by
  simp only [createTransparencyBuffers] at h ⊢
  obtain ⟨hasked, hlive⟩ := createInOrder_of_success (ending_createInOrder_iff.mp h)
  have hfragment : BufferName.fragment ∈ creationOrder := by decide
  refine ⟨by rw [hasked, if_pos hfragment], fun b => ?_⟩
  have hb : b ∈ creationOrder := by cases b <;> decide
  rw [h, if_neg (by decide), hlive b, if_pos hb, fragmentBufferSize_eq]

/-- Where the fragments fit, `readFeedback` leaves everything as it is. -/
theorem readFeedback_of_le {s : State} {fragments : UInt32} (h : ¬ s.maxFragments < fragments)
    (creation : BufferName → Creation) :
    readFeedback s fragments creation = ⟨.success, s, []⟩ :=
  if_neg h

section Frame

variable {s : State} {frame : Frame}

/-- The counter that a frame's fragments are compared with. -/
def counterAt (s : State) (frame : Frame) : UInt32 :=
  if s.Recreates frame then fragmentCapacity s.maxFragments (pixelCount frame.size)
  else s.maxFragments

/-- A frame that gets past its recreation has all buffers. -/
theorem sized_ready (hs : Sized s) (h : (prepare s frame).ending = .success) :
    Sized (ready s frame) ∧ (ready s frame).maxFragments = counterAt s frame := by
  by_cases hrecreates : s.Recreates frame
  · have hprepare : prepare s frame =
        createTransparencyBuffers s.giveUp frame.size frame.created := if_pos hrecreates
    rw [hprepare] at h
    obtain ⟨hmax, hlive⟩ := createTransparencyBuffers_of_success h
    have hcounter : (ready s frame).maxFragments = counterAt s frame := by
      rw [ready, hprepare, counterAt, if_pos hrecreates]
      exact hmax
    refine ⟨⟨fun _ b => ?_, fun h => nomatch h⟩, hcounter⟩
    rw [hcounter, counterAt, if_pos hrecreates, ready, hprepare]
    exact hlive b
  · have hprepare : prepare s frame = ⟨.success, s, []⟩ := if_neg hrecreates
    have hcounter : (ready s frame).maxFragments = counterAt s frame := by
      rw [ready, hprepare, counterAt, if_neg hrecreates]
    rw [State.Recreates, not_or, Bool.not_eq_false, ne_eq, not_not] at hrecreates
    refine ⟨⟨fun _ b => ?_, fun h => nomatch h⟩, hcounter⟩
    rw [ready, hprepare, ← hrecreates.2]
    exact hs.live hrecreates.1 b

/-- `readFeedback` that succeeds leaves a renderer that is set up; and however it ends, the capacity
it notes is that of what is live. -/
theorem sized_readFeedback (hs : Sized s) (hinit : s.initialized = true) (fragments : UInt32)
    (creation : BufferName → Creation) :
    ((readFeedback s fragments creation).ending = .success →
        Sized (readFeedback s fragments creation).state) ∧
      CapacityNoted (readFeedback s fragments creation).state := by
  by_cases hlt : s.maxFragments < fragments
  · rw [readFeedback, if_pos hlt]
    refine ⟨fun h => ⟨fun _ b => ?_, fun hnot => ?_⟩, fun b hb n hn => ?_⟩
    · obtain ⟨-, hlive⟩ := createInOrder_of_success (ending_createInOrder_iff.mp h)
      refine (hlive b).trans ?_
      by_cases hb : b ∈ fragmentBuffers
      · rw [if_pos hb, bufferSize_of_mem hb]
      · rw [if_neg hb, if_neg hb, hs.live hinit b, bufferSize_of_notMem hb]
    · rw [hinit] at hnot
      cases hnot
    · obtain hold | hnew := live_createInOrder hn
      · rw [if_pos hb] at hold
        cases hold
      · exact hnew
  · rw [readFeedback_of_le hlt]
    exact ⟨fun _ => hs, hs.capacityNoted⟩

/-- Whether a frame comes to read its feedback. -/
def ReadsFeedback (s : State) (frame : Frame) : Prop :=
  frame.fault ≠ some .beforeBuffers ∧ (prepare s frame).ending = .success ∧
    frame.fault ≠ some .beforeFeedback ∧ frame.isOpaque = false

instance : Decidable (ReadsFeedback s frame) := inferInstanceAs (Decidable (_ ∧ _ ∧ _ ∧ _))

/-- The feedback of a frame. -/
def feedbackOf (s : State) (frame : Frame) : Report :=
  readFeedback (ready s frame) frame.fragments frame.grown

/-- A frame that reads its feedback goes on with it. -/
theorem render_of_readsFeedback (h : ReadsFeedback s frame) :
    render s frame =
      if (feedbackOf s frame).ending ≠ .success then
        ((feedbackOf s frame).state.giveUp,
          ⟨(prepare s frame).asked ++ (feedbackOf s frame).asked, some (feedbackOf s frame),
            (feedbackOf s frame).outcome⟩)
      else finish (feedbackOf s frame).state frame
        ((prepare s frame).asked ++ (feedbackOf s frame).asked) (some (feedbackOf s frame)) := by
  obtain ⟨hbuffers, hprepare, hfeedback, hopaque⟩ := h
  rw [render, if_neg hbuffers]
  simp only [hprepare, hopaque, if_neg hfeedback, ne_eq, not_true_eq_false, if_false,
    Bool.false_eq_true]
  rfl

/-- A frame that does not read its feedback gives up, or is opaque and draws with the buffers it has
after its recreation. -/
theorem render_of_not_readsFeedback (h : ¬ ReadsFeedback s frame) :
    (render s frame).2.feedback = none ∧
      (render s frame).2.asked =
        (if frame.fault = some .beforeBuffers then [] else (prepare s frame).asked) ∧
      ((∃ t : State, (render s frame).1 = t.giveUp ∧ (render s frame).2.outcome ≠ .image) ∨
        (render s frame).1 = ready s frame ∧ (prepare s frame).ending = .success ∧
          (render s frame).2.outcome = .image) := by
  by_cases hbuffers : frame.fault = some .beforeBuffers
  · rw [render, if_pos hbuffers, if_pos hbuffers]
    exact ⟨rfl, rfl, .inl ⟨s, rfl, fun h => nomatch h⟩⟩
  rw [render, if_neg hbuffers, if_neg hbuffers]
  by_cases hprepare : (prepare s frame).ending = .success
  · by_cases hfeedback : frame.fault = some .beforeFeedback
    · simp only [hprepare, hfeedback, ne_eq, not_true_eq_false, if_false, if_true]
      exact ⟨trivial, trivial, .inl ⟨_, rfl, by decide⟩⟩
    · have hopaque : frame.isOpaque = true := by
        by_contra hopaque
        exact h ⟨hbuffers, hprepare, hfeedback, Bool.not_eq_true _ ▸ hopaque⟩
      simp only [hprepare, hopaque, if_neg hfeedback, ne_eq, not_true_eq_false, if_false, if_true,
        finish]
      split_ifs
      · exact ⟨rfl, rfl, .inl ⟨_, rfl, by decide⟩⟩
      · exact ⟨rfl, rfl, .inr ⟨rfl, trivial, rfl⟩⟩
  · simp only [if_pos hprepare, ne_eq]
    refine ⟨trivial, trivial, .inl ⟨_, rfl, ?_⟩⟩
    rw [Report.outcome]
    split_ifs <;> decide

/-- Every frame leaves a renderer that has all its buffers or none. -/
theorem Sized.step (hs : Sized s) (frame : Frame) : Sized (FragmentBuffers.step s frame) := by
  by_cases h : ReadsFeedback s frame
  · have hready := (sized_ready hs h.2.1).1
    rw [FragmentBuffers.step, render_of_readsFeedback h]
    split_ifs with hending
    · exact sized_giveUp _
    · rw [finish]
      split_ifs
      · exact sized_giveUp _
      · exact (sized_readFeedback hready rfl _ _).1 (not_not.mp hending)
  · rw [FragmentBuffers.step]
    obtain ⟨-, -, ⟨t, ht, -⟩ | ⟨hready, hending, -⟩⟩ := render_of_not_readsFeedback h
    · rw [ht]
      exact sized_giveUp t
    · rw [hready]
      exact (sized_ready hs hending).1

/-! ### Holding the fragments -/

/-- **Grown**: after a `readFeedback` that returns `true`, the counter is at least the number of
fragments and both buffers have room for that many; and whenever they are live, the counter is their
capacity. -/
structure Grown (s : State) (frame : Frame) : Prop where
  counter : ∀ r ∈ (render s frame).2.feedback, r.ending = .success →
    frame.fragments ≤ r.state.maxFragments
  room : ∀ r ∈ (render s frame).2.feedback, r.ending = .success →
    ∀ b ∈ fragmentBuffers, Room (r.state.live b) (r.state.maxFragments.toNat * 16)
  noted : (∀ r ∈ (render s frame).2.feedback, CapacityNoted r.state) ∧
    CapacityNoted (step s frame)

/-- Where a frame's fragments are more than the counter and both buffers are replaced, eleven times
their number is in the range of 32 bits. -/
def GrowthFits (s : State) (frame : Frame) : Prop :=
  ReadsFeedback s frame → counterAt s frame < frame.fragments →
    (∀ b ∈ fragmentBuffers, frame.grown b = .success) → frame.fragments.toNat * 11 < 2 ^ 32

/-- The counter that `readFeedback` leaves covers the fragments, unless it has grown and wrapped. -/
theorem le_feedback_iff (hs : Sized s) (h : ReadsFeedback s frame) :
    ((feedbackOf s frame).ending = .success →
        frame.fragments ≤ (feedbackOf s frame).state.maxFragments) ↔ GrowthFits s frame := by
  have hcounter := (sized_ready hs h.2.1).2
  rw [GrowthFits, feedbackOf, ← hcounter]
  by_cases hlt : (ready s frame).maxFragments < frame.fragments
  · rw [readFeedback, if_pos hlt]
    simp only [ending_createInOrder_iff, le_grownCapacity_iff, hlt, h, true_imp_iff]
  · rw [readFeedback_of_le hlt]
    refine iff_of_true (fun _ => ?_) fun _ hgrows => absurd hgrows hlt
    rwa [UInt32.not_lt] at hlt

/-- **Step lemma**: a frame is grown exactly where its growth fits. -/
theorem grown_iff (hs : Sized s) (frame : Frame) : Grown s frame ↔ GrowthFits s frame := by
  have hnoted := (hs.step frame).capacityNoted
  by_cases h : ReadsFeedback s frame
  · have hready := (sized_ready hs h.2.1).1
    -- the rest of the frame does not change what the feedback has come to
    have hfeedback : (render s frame).2.feedback = some (feedbackOf s frame) := by
      rw [render_of_readsFeedback h]
      split_ifs
      · rfl
      · rw [finish]
        split_ifs <;> rfl
    obtain ⟨hsized, hcapacity⟩ := sized_readFeedback hready rfl frame.fragments frame.grown
    rw [← le_feedback_iff hs h]
    constructor
    · intro hgrown
      exact hgrown.counter _ hfeedback
    · intro hle
      refine ⟨?_, ?_, ?_, hnoted⟩
      · rintro r hr hending
        obtain rfl := Option.some.inj (hfeedback.symm.trans hr)
        exact hle hending
      · rintro r hr hending b hb
        obtain rfl := Option.some.inj (hfeedback.symm.trans hr)
        have hinit : (feedbackOf s frame).state.initialized = true := by
          rw [feedbackOf, readFeedback]
          split_ifs <;> rfl
        have hlive := (hsized hending).live hinit b
        rw [bufferSize_of_mem hb] at hlive
        exact ⟨_, hlive, Nat.le_refl _⟩
      · rintro r hr
        obtain rfl := Option.some.inj (hfeedback.symm.trans hr)
        exact hcapacity
  · -- nothing is said of a frame that reads no feedback
    have hnone := (render_of_not_readsFeedback h).1
    refine iff_of_true ⟨?_, ?_, ?_, hnoted⟩ fun hreads => absurd hreads h
    all_goals
      intro r hr
      rw [hnone] at hr
      cases hr

end Frame

/-- **Which runs hold their fragments**: those in which every growth fits. -/
theorem grown_along_iff (frames : List Frame) :
    Along step Grown .init frames ↔ Along step GrowthFits .init frames := by
  have hiff : ∀ s frame, Sized s → (Grown s frame ↔ GrowthFits s frame) :=
    fun _ frame hs => grown_iff hs frame
  have hstep : ∀ s frame, Sized s → GrowthFits s frame → Sized (step s frame) :=
    fun _ frame hs _ => hs.step frame
  exact along_iff_of_invariant hiff hstep sized_init frames

/-- A transparent frame of one pixel whose Vulkan calls all succeed. -/
def onePixel (fragments : UInt32) : Frame :=
  ⟨(1, 1), false, fragments, fun _ => .success, fun _ => .success, none⟩

/-- For four hundred million fragments the counter becomes about eleven million. -/
theorem not_grown_fourHundredMillion :
    ¬ Along step Grown .init [onePixel 400000000] := by
  rintro ⟨hgrown, -⟩
  have hcounter := hgrown.counter (feedbackOf .init (onePixel 400000000)) rfl rfl
  exact absurd hcounter (by decide +kernel)

end FragmentBuffers

end OkularV3d
