import OkularV3d.Render.FragmentBuffers

/-!
# After running out of memory

A frame that cannot allocate its transparency buffers returns no image and says to zoom out. What a
later frame asks for depends on its size and on `maxFragments`, which such a failure does not take
back.

`FragmentBuffers.recovers_along_iff` says in which runs every later frame that needs no more than
one drawn before the failure asks for no more memory than that one had.

* `History` remembers the frames drawn, and those of them drawn before the last failure.
* `History.Recovers` is the property of a frame, `History.CounterKept` the condition on it;
  `asked_render` lists what a frame asks for, on which both are read.
* `Kept` is the invariant of a history (`Kept.step`).
* `not_recovers_thousand` is the failing run: a growth that runs out of memory leaves the counter
  raised, and the next frame with no fragments at all asks for that size.
-/

namespace OkularV3d

namespace FragmentBuffers

open DeviceMemory Runs

/-- A frame that has returned an image: its size and the fragments it needed, and the counter and
the buffers it ended with. -/
structure Drawn where
  size : Nat × Nat
  need : UInt32
  maxFragments : UInt32
  live : Live

/-- The fragments a frame needs room for. -/
def Frame.need (frame : Frame) : UInt32 := if frame.isOpaque then 0 else frame.fragments

/-- A run so far: the renderer, the frames drawn, and those of them drawn before the last frame that
ran out of memory. The two lists are history: nothing of the code reads them. -/
structure History where
  state : State
  drawn : List Drawn
  beforeFailure : List Drawn

namespace History

/-- No frame yet. -/
def init : History := ⟨.init, [], []⟩

/-- The run with one more frame. -/
def step (h : History) (frame : Frame) : History :=
  let s := (render h.state frame).1
  match (render h.state frame).2.outcome with
  | .image =>
    { h with state := s, drawn := ⟨frame.size, frame.need, s.maxFragments, s.live⟩ :: h.drawn }
  | .outOfMemory => ⟨s, h.drawn, h.drawn⟩
  | .failed => { h with state := s }

/-- A frame drawn before a failure that had the size of this one and needed at least as much. -/
def Covers (frame : Frame) (e : Drawn) : Prop := e.size = frame.size ∧ frame.need ≤ e.need

/-- **Recovers**: a frame asks for no buffer larger than the same buffer of a frame that covers it
and was drawn before the last failure. -/
def Recovers (h : History) (frame : Frame) : Prop :=
  ∀ e ∈ h.beforeFailure, Covers frame e →
    ∀ a ∈ (render h.state frame).2.asked, Room (e.live a.1) a.2

end History

/-- The buffers that are created before those of the fragments. -/
def beforeFragments : List BufferName :=
  [.count, .globalSum, .offset, .opaqueColor, .opaqueDepth]

/-- Whether a frame asks anew for the fragment buffers: it creates everything anew, and gets that
far. -/
def AsksAnew (s : State) (frame : Frame) : Prop :=
  frame.fault ≠ some .beforeBuffers ∧ s.Recreates frame ∧
    ∀ b ∈ beforeFragments, frame.created b = .success

/-- Whether a frame asks for larger fragment buffers. -/
def AsksForMore (s : State) (frame : Frame) : Prop :=
  ReadsFeedback s frame ∧ counterAt s frame < frame.fragments

/-- Where a frame asks for fragment buffers, the counter has not gone above that of a frame that
covers it and was drawn before the last failure. -/
def History.CounterKept (h : History) (frame : Frame) : Prop :=
  ∀ e ∈ h.beforeFailure, Covers frame e →
    (AsksAnew h.state frame →
        fragmentCapacity h.state.maxFragments (pixelCount frame.size) ≤ e.maxFragments) ∧
      (AsksForMore h.state frame → grownCapacity frame.fragments ≤ e.maxFragments)

/-! ### What a frame asks for -/

section Asked

variable {s : State} {frame : Frame}

/-- What a frame asks for, in the two places. -/
theorem asked_render : (render s frame).2.asked =
    (if frame.fault = some .beforeBuffers then [] else (prepare s frame).asked) ++
      if ReadsFeedback s frame then (feedbackOf s frame).asked else [] := by
  by_cases h : ReadsFeedback s frame
  · rw [render_of_readsFeedback h, if_neg h.1, if_pos h]
    split_ifs
    · rfl
    · rw [finish]
      split_ifs <;> rfl
  · rw [(render_of_not_readsFeedback h).2.1, if_neg h, List.append_nil]

theorem room_some_iff {m n : Nat} : Room (some m) n ↔ n ≤ m := by
  simp [Room]

/-- Frames of one size: the sizes of a buffer are ordered as the capacities, where it is asked for
only after a fragment buffer. -/
theorem bufferSize_le_iff {pixels m n : UInt32} {b : BufferName} :
    bufferSize pixels (m.toNat * 16) b ≤ bufferSize pixels (n.toNat * 16) b ↔
      (b ∈ fragmentBuffers → m ≤ n) := by
  by_cases hb : b ∈ fragmentBuffers
  · rw [bufferSize_of_mem hb, bufferSize_of_mem hb, UInt32.le_iff_toNat_le]
    simp only [hb, true_imp_iff]
    omega
  · rw [bufferSize_of_notMem hb pixels _ (n.toNat * 16)]
    exact iff_of_true (Nat.le_refl _) fun hmem => absurd hmem hb

section CreationOrder

variable {size : BufferName → Nat} {creation : BufferName → Creation} {live : Live}

/-- The recreation asks for the fragment buffer where the five buffers before it are created. -/
theorem fragment_mem_asked_iff :
    .fragment ∈ (createInOrder size creation creationOrder live).asked ↔
      ∀ b ∈ beforeFragments, creation b = .success :=
  @mem_asked_iff size creation .fragment beforeFragments [.depthFrag, .feedback] (by decide) live

/-- No fragment buffer is asked for before that. -/
theorem forall_beforeFragments_of_mem {b : BufferName} (hb : b ∈ fragmentBuffers)
    (hasked : b ∈ (createInOrder size creation creationOrder live).asked) :
    ∀ a ∈ beforeFragments, creation a = .success := by
  rw [fragmentBuffers, List.mem_cons, List.mem_singleton] at hb
  obtain rfl | rfl := hb
  · exact fragment_mem_asked_iff.mp hasked
  · have hbefore := (@mem_asked_iff size creation .depthFrag
      (beforeFragments ++ [BufferName.fragment]) [.feedback] (by decide) live).mp hasked
    exact fun a ha => hbefore a (List.mem_append_left _ ha)

end CreationOrder

/-- What the recreation asks for is held by a frame of the same size exactly where its fragment
buffers are, if it gets to them. -/
theorem room_prepare_iff {e : Drawn} (hsize : e.size = frame.size)
    (hlive : ∀ b, e.live b =
      some (bufferSize (pixelCount e.size) (e.maxFragments.toNat * 16) b)) :
    (∀ a ∈ (if frame.fault = some .beforeBuffers then [] else (prepare s frame).asked),
        Room (e.live a.1) a.2) ↔
      (AsksAnew s frame →
        fragmentCapacity s.maxFragments (pixelCount frame.size) ≤ e.maxFragments) := by
  rw [AsksAnew]
  by_cases hfault : frame.fault = some .beforeBuffers
  · rw [if_pos hfault]
    exact iff_of_true (List.forall_mem_nil _) fun h => absurd hfault h.1
  by_cases hrecreates : s.Recreates frame
  · rw [if_neg hfault, prepare, if_pos hrecreates, createTransparencyBuffers,
      List.forall_mem_map]
    simp only [hlive, room_some_iff, fragmentBufferSize_eq, hsize, bufferSize_le_iff,
      ne_eq, hfault, hrecreates, not_false_eq_true, true_and]
    constructor
    · intro hle hbefore
      exact hle .fragment (fragment_mem_asked_iff.mpr hbefore) (List.mem_cons_self ..)
    · intro hle b hasked hb
      exact hle (forall_beforeFragments_of_mem hb hasked)
  · rw [if_neg hfault, prepare, if_neg hrecreates]
    exact iff_of_true (List.forall_mem_nil _) fun h => absurd h.2.1 hrecreates

/-- What `readFeedback` asks for is held by a frame exactly where its capacity is reached. -/
theorem room_feedback_iff (hs : Sized s) {e : Drawn}
    (hlive : ∀ b, e.live b =
      some (bufferSize (pixelCount e.size) (e.maxFragments.toNat * 16) b)) :
    (∀ a ∈ (if ReadsFeedback s frame then (feedbackOf s frame).asked else []),
        Room (e.live a.1) a.2) ↔
      (AsksForMore s frame → grownCapacity frame.fragments ≤ e.maxFragments) := by
  rw [AsksForMore]
  by_cases h : ReadsFeedback s frame
  · rw [if_pos h, feedbackOf, ← (sized_ready hs h.2.1).2]
    by_cases hlt : (ready s frame).maxFragments < frame.fragments
    · rw [readFeedback, if_pos hlt, List.forall_mem_map]
      -- the first of the fragment buffers is asked for whether or not the second follows
      have hsome : BufferName.fragment ∈ (createInOrder
          (fun _ => (grownCapacity frame.fragments).toNat * 16) frame.grown fragmentBuffers
            fun b => if b ∈ fragmentBuffers then none else (ready s frame).live b).asked :=
        (@mem_asked_iff _ _ .fragment [] [.depthFrag] List.not_mem_nil _).mpr
          (List.forall_mem_nil _)
      have hroom : ∀ b ∈ fragmentBuffers,
          (Room (e.live b) ((grownCapacity frame.fragments).toNat * 16) ↔
            grownCapacity frame.fragments ≤ e.maxFragments) := by
        intro b hb
        rw [hlive, room_some_iff, bufferSize_of_mem hb, UInt32.le_iff_toNat_le]
        omega
      simp only [h, hlt, true_and, true_imp_iff]
      constructor
      · intro hasked
        exact (hroom .fragment (List.mem_cons_self ..)).mp (hasked .fragment hsome)
      · intro hle b hb
        exact (hroom b (asked_subset hb)).mpr hle
    · rw [readFeedback_of_le hlt]
      exact iff_of_true (List.forall_mem_nil _) fun h => absurd h.2 hlt
  · rw [if_neg h]
    exact iff_of_true (List.forall_mem_nil _) fun hasks => absurd hasks.1 h

/-- A frame with an image leaves a renderer of its size that is set up. -/
theorem drawn_of_image (h : (render s frame).2.outcome = .image) :
    (render s frame).1.initialized = true ∧ (render s frame).1.currentTargetSize = frame.size := by
  by_cases hreads : ReadsFeedback s frame
  · have hfeedback : (feedbackOf s frame).state.initialized = true ∧
        (feedbackOf s frame).state.currentTargetSize = frame.size := by
      rw [feedbackOf, readFeedback]
      split_ifs <;> exact ⟨rfl, rfl⟩
    rw [render_of_readsFeedback hreads] at h ⊢
    split_ifs at h ⊢ with hending
    · rw [Report.outcome] at h
      split_ifs at h
    · rw [finish] at h ⊢
      split_ifs at h ⊢
      exact hfeedback
  · obtain ⟨-, -, ⟨t, -, hne⟩ | ⟨hready, -, -⟩⟩ := render_of_not_readsFeedback hreads
    · exact absurd h hne
    · rw [hready]
      exact ⟨rfl, rfl⟩

end Asked

/-! ### Runs -/

namespace History

/-- What is noted of the frames drawn is what they held: every buffer in the size that the frame's
size and the counter give. -/
structure Kept (h : History) : Prop where
  sized : Sized h.state
  live : ∀ e ∈ h.drawn, ∀ b, e.live b =
    some (bufferSize (pixelCount e.size) (e.maxFragments.toNat * 16) b)
  subset : h.beforeFailure ⊆ h.drawn

theorem kept_init : Kept .init := ⟨sized_init, fun _ h => (nomatch h), List.Subset.refl _⟩

theorem Kept.step {h : History} (hkept : Kept h) (frame : Frame) : Kept (h.step frame) := by
  have hsized : Sized (render h.state frame).1 := hkept.sized.step frame
  rw [History.step]
  cases houtcome : (render h.state frame).2.outcome with
  | image =>
    obtain ⟨hinit, hsize⟩ := drawn_of_image houtcome
    refine ⟨hsized, fun e he b => ?_, fun e he => List.mem_cons_of_mem _ (hkept.subset he)⟩
    obtain rfl | hold := List.mem_cons.mp he
    · rw [← hsize]
      exact hsized.live hinit b
    · exact hkept.live e hold b
  | outOfMemory => exact ⟨hsized, hkept.live, List.Subset.refl _⟩
  | failed => exact ⟨hsized, hkept.live, hkept.subset⟩

/-- **Step lemma**: a frame recovers exactly where the counter is kept. -/
theorem recovers_iff {h : History} (hkept : Kept h) (frame : Frame) :
    h.Recovers frame ↔ h.CounterKept frame := by
  refine forall₂_congr fun e he => imp_congr_right fun hcovers => ?_
  have hlive := hkept.live e (hkept.subset he)
  rw [asked_render, List.forall_mem_append, room_prepare_iff hcovers.1 hlive,
    room_feedback_iff hkept.sized hlive]

end History

/-- **Which runs recover**: those in which no frame asks for fragment buffers with the counter above
that of a frame that covers it and was drawn before the last failure. -/
theorem recovers_along_iff (frames : List Frame) :
    Along History.step History.Recovers .init frames ↔
      Along History.step History.CounterKept .init frames := by
  have hiff : ∀ h frame, History.Kept h → (h.Recovers frame ↔ h.CounterKept frame) :=
    fun _ frame hkept => History.recovers_iff hkept frame
  have hstep : ∀ h frame, History.Kept h → h.CounterKept frame → (h.step frame).Kept :=
    fun _ frame hkept _ => hkept.step frame
  exact along_iff_of_invariant hiff hstep History.kept_init frames

/-- A frame without transparent fragments is drawn; one with a thousand runs out of memory; the
first one again then asks for room for eleven hundred. -/
theorem not_recovers_thousand :
    ¬ Along History.step History.Recovers .init
      [onePixel 0, { onePixel 1000 with grown := fun _ => .outOfMemory }, onePixel 0] := by
  rintro ⟨-, -, hrecovers, -⟩
  have hroom : Room (some 64) 17600 :=
    hrecovers ⟨(1, 1), 0, 4, _⟩ (List.mem_cons_self ..) ⟨rfl, by decide⟩ (.fragment, 17600)
      (by decide +kernel)
  exact absurd (room_some_iff.mp hroom) (by decide)

end FragmentBuffers

end OkularV3d
